import TableAsm.Text.Numeral

namespace TableAsm

/-- What kind of mistake a fault is. Codes outside the twelve known ones are kept as they are. -/
inductive Kind where
  | unknownMnemonic
  | unresolvedSymbol
  | malformedLiteral
  | literalOutOfRange
  | unknownOperand
  | operandKindMismatch
  | ambiguousEncoding
  | unknownEncoding
  | truncatedStream
  | malformedLine
  | duplicateSymbol
  | invalidTable
  | other (code : Int)
  deriving DecidableEq, Repr

namespace Kind

def known : List Kind :=
  [unknownMnemonic, unresolvedSymbol, malformedLiteral, literalOutOfRange, unknownOperand,
   operandKindMismatch, ambiguousEncoding, unknownEncoding, truncatedStream, malformedLine,
   duplicateSymbol, invalidTable]

def ofCode (code : Int) : Kind :=
  if code ≤ 0 then other code else (known[(code - 1).toNat]?).getD (other code)

def name : Kind → Text
  | unknownMnemonic => "UnknownMnemonic"
  | unresolvedSymbol => "UnresolvedSymbol"
  | malformedLiteral => "MalformedLiteral"
  | literalOutOfRange => "LiteralOutOfRange"
  | unknownOperand => "UnknownOperand"
  | operandKindMismatch => "OperandKindMismatch"
  | ambiguousEncoding => "AmbiguousEncoding"
  | unknownEncoding => "UnknownEncoding"
  | truncatedStream => "TruncatedStream"
  | malformedLine => "MalformedLine"
  | duplicateSymbol => "DuplicateSymbol"
  | invalidTable => "InvalidTable"
  | other code => "Kind(" ++ Text.signedDecimal code ++ ")"

end Kind

end TableAsm
