import TableAsm.Isa.Registers
import TableAsm.Source.Symbols

namespace TableAsm

/-- What an operand token turned out to be. Codes outside the three known ones are kept. -/
inductive OperandKind where
  | empty
  | register
  | immediate
  | other (code : Int)
  deriving DecidableEq, Repr

namespace OperandKind

def name : OperandKind → Text
  | empty => "empty"
  | register => "register"
  | immediate => "immediate"
  | other code => "Kind(" ++ Text.signedDecimal code ++ ")"

def ofCode (code : Int) : OperandKind :=
  if code = 0 then empty else if code = 1 then register else if code = 2 then immediate
  else other code

end OperandKind

/-- A classified token: a register index, or a number that may come from a label. -/
structure Operand where
  kind : OperandKind := .empty
  value : UInt32 := 0
  symbol : Text := []
  token : Text := []
  deriving DecidableEq, Repr

def Operand.text (o : Operand) : Text :=
  match o.kind with
  | .empty => "<empty>"
  | .register => o.token ++ "(r" ++ Text.decimal o.value.toNat ++ ")"
  | _ =>
    if o.symbol.isEmpty then "0x" ++ Text.hex o.value.toNat
    else o.symbol ++ "(0x" ++ Text.hex o.value.toNat ++ ")"

def numeralMessage (numeral : Text) (problem : Text.NumeralProblem) : Text :=
  let why : Text :=
    match problem with
    | .malformed => "invalid syntax"
    | .outOfRange => "value out of range"
  "strconv.ParseUint: parsing " ++ numeral.quoted ++ ": " ++ why

def literalOutOfRange (base : String) (token : Text) : Failure :=
  Failure.ofFault
    { kind := .literalOutOfRange
      token
      message := base ++ " literal " ++ token ++ " does not fit in 32 bits" }

def malformedLiteral (base : String) (token numeral : Text) : Failure :=
  .because
    { kind := .malformedLiteral
      token
      message := token.quoted ++ " is not a valid " ++ base ++ " literal" }
    (.ofMessage (numeralMessage numeral .malformed))

def classify (token : Text) (symbols : SymbolTable) (register? : Text → Option UInt8) :
    Except Failure Operand :=
  if token.isEmpty then .ok {}
  else if token.head? = some labelSigil then
    match symbols.address? token with
    | some address => .ok { kind := .immediate, value := address, symbol := token, token }
    | none => .error <| Failure.ofFault
        { kind := .unresolvedSymbol
          token
          message := "label " ++ token ++ " is never defined" }
  else
    match Text.after? hexMark token with
    | some numeral =>
      match Text.readNatural 16 Text.max32 numeral with
      | .ok v => .ok { kind := .immediate, value := UInt32.ofNat v, token }
      | .error .outOfRange => .error (literalOutOfRange "hexadecimal" token)
      | .error .malformed => .error (malformedLiteral "hexadecimal" token numeral)
    | none =>
      match Text.readNatural 10 Text.max32 token with
      | .ok v => .ok { kind := .immediate, value := UInt32.ofNat v, token }
      | .error .outOfRange => .error (literalOutOfRange "decimal" token)
      | .error .malformed =>
        match register? token with
        | some index => .ok { kind := .register, value := index.toUInt32, token }
        | none => .error <| Failure.ofFault
            { kind := .unknownOperand
              token
              message := token.quoted ++ " is neither a literal, a label nor a register" }

end TableAsm
