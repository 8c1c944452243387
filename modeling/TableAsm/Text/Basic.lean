namespace TableAsm

abbrev Text := List UInt8

namespace Text

def ofString (s : String) : Text := s.toUTF8.data.toList

instance : Coe String Text := ⟨ofString⟩

def ofChar (c : Char) : Text := String.utf8EncodeChar c

def newline : UInt8 := 0x0a
def carriageReturn : UInt8 := 0x0d
def space : UInt8 := 0x20
def comma : UInt8 := 0x2c

def joined (separator : Text) (parts : List Text) : Text := separator.intercalate parts

def splitAt (separator : UInt8) (t : Text) : List Text :=
  let (head, tail) := t.foldr
    (fun b (head, tail) => if b = separator then ([], head :: tail) else (b :: head, tail))
    (([] : Text), ([] : List Text))
  head :: tail

def after? : (start t : Text) → Option Text
  | [], t => some t
  | _ :: _, [] => none
  | a :: start, b :: t => if a = b then after? start t else none

def precedes : Text → Text → Bool
  | [], _ => true
  | _ :: _, [] => false
  | a :: s, b :: t => a < b || (a == b && precedes s t)

def lowerAscii (t : Text) : Text :=
  t.map fun b => if 0x41 ≤ b ∧ b ≤ 0x5a then b + 0x20 else b

def dropCarriageReturn (t : Text) : Text :=
  if t.getLast? = some carriageReturn then t.dropLast else t

end Text

end TableAsm
