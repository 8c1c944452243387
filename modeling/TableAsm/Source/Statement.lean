import TableAsm.Source.Token

namespace TableAsm

inductive Statement where
  | label (name : Text)
  | instruction (mnemonic : Text) (operands : List Text)
  deriving DecidableEq, Repr

def stripComment (line : Text) : Text := Text.trim (line.takeWhile (· != commentMark))

def Statement.ofTokens? : List Token → Except LineProblem (Option Statement)
  | [] => .ok none
  | first :: rest =>
    match first.lexeme, rest with
    | .label, [] => .ok (some (.label first.text))
    | .label, next :: _ => .error (.unexpected next)
    | _, rest => .ok (some (.instruction first.text (rest.map Token.text)))

def Statement.ofText? (t : Text) : Except LineProblem (Option Statement) :=
  match tokens t with
  | .error problem => .error problem
  | .ok tokens => ofTokens? tokens

def malformedLine (t : Text) (problem : LineProblem) : Failure :=
  .because
    { kind := .malformedLine, token := t, message := "cannot parse " ++ t.quoted }
    (.ofMessage problem.text)

def parseLine (raw : Text) : Except Failure (Option Statement) :=
  let t := stripComment raw
  if t.isEmpty then .ok none
  else
    match Statement.ofText? t with
    | .ok statement => .ok statement
    | .error problem => .error (malformedLine t problem)

end TableAsm
