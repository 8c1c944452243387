import TableAsm.Isa.Registers

namespace TableAsm

/-- A place in a text, counted in lines and characters from one. -/
structure Place where
  line : Nat := 1
  column : Nat := 1
  deriving DecidableEq, Repr

namespace Place

def advance (p : Place) (passed : Text) : Place :=
  let lines := passed.splitAt Text.newline
  if lines.length = 1 then { p with column := p.column + passed.runes.length }
  else
    { line := p.line + (lines.length - 1)
      column := 1 + (lines.getLastD []).runes.length }

def text (p : Place) : Text := Text.decimal p.line ++ ":" ++ Text.decimal p.column

end Place

def isGap (b : UInt8) : Bool := b == 0x09 || b == 0x0a || b == 0x0c || b == 0x0d || b == 0x20

def isTokenByte (b : UInt8) : Bool := !isGap b && b != commentMark

inductive Lexeme where
  | gap
  | label
  | word
  deriving DecidableEq, Repr

def lexeme? : Text → Option (Lexeme × Text)
  | [] => none
  | b :: rest =>
    if isGap b then some (.gap, b :: rest.takeWhile isGap)
    else if b = labelSigil then
      let name := rest.takeWhile isTokenByte
      if name.isEmpty then none else some (.label, b :: name)
    else if b = commentMark then none
    else some (.word, b :: rest.takeWhile isTokenByte)

structure Token where
  lexeme : Lexeme
  text : Text
  place : Place
  deriving DecidableEq, Repr

inductive LineProblem where
  /-- No rule matches at a place; `rest` is the text from there on. -/
  | unreadable (place : Place) (rest : Text)
  | unexpected (token : Token)
  deriving DecidableEq, Repr

def shownRunes : Nat := 16

def LineProblem.text : LineProblem → Text
  | unreadable place rest =>
    let runes := rest.runes
    let sample := Text.repaired (Text.ofRunes (runes.take shownRunes))
    let shown : Text := if shownRunes < runes.length then sample ++ "..." else sample
    place.text ++ ": lexer: invalid input text " ++ shown.quoted
  | unexpected token => token.place.text ++ ": unexpected token " ++ token.text.quoted

/-- Cuts a text into tokens behind those already read, last first. Gaps are dropped. -/
def lexFrom (place : Place) (read : List Token) : Text → Except LineProblem (List Token)
  | [] => .ok read.reverse
  | b :: rest =>
    match lexeme? (b :: rest) with
    | none => .error (.unreadable place (b :: rest))
    | some (lexeme, bytes) =>
      lexFrom (place.advance bytes)
        (if lexeme = .gap then read else ⟨lexeme, bytes, place⟩ :: read)
        (rest.drop (bytes.length - 1))
termination_by t => t.length
decreasing_by simp only [List.length_drop, List.length_cons]; omega

def tokens (t : Text) : Except LineProblem (List Token) := lexFrom {} [] t

end TableAsm
