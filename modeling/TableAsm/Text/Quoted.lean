import TableAsm.Text.Numeral
import TableAsm.Text.Printable

namespace TableAsm

def escapeLetter? (code : Nat) : Option Char :=
  match code with
  | 0x07 => some 'a'
  | 0x08 => some 'b'
  | 0x09 => some 't'
  | 0x0a => some 'n'
  | 0x0b => some 'v'
  | 0x0c => some 'f'
  | 0x0d => some 'r'
  | _ => none

def Rune.escapedFor (mark : Nat) (r : Rune) : Text :=
  if r.isStray then "\\x" ++ Text.hexPadded 2 (r.bytes.headD 0).toNat
  else if r.code = mark ∨ r.code = 0x5c then "\\" ++ r.bytes
  else if r.isPrintable then r.bytes
  else
    match escapeLetter? r.code with
    | some letter => "\\" ++ Text.ofChar letter
    | none =>
      if r.code < 0x20 ∨ r.code = 0x7f then "\\x" ++ Text.hexPadded 2 r.code
      else if r.code < 0x10000 then "\\u" ++ Text.hexPadded 4 r.code
      else "\\U" ++ Text.hexPadded 8 r.code

def Rune.escaped (r : Rune) : Text := r.escapedFor 0x22

def Rune.quoted (r : Rune) : Text := [0x27] ++ r.escapedFor 0x27 ++ [0x27]

def Text.quoted (t : Text) : Text := "\"" ++ (t.runes.flatMap Rune.escaped ++ "\"")

end TableAsm
