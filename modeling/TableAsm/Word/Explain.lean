import TableAsm.Layout.Grid
import TableAsm.Word.Fields

namespace TableAsm

structure ExplainRow where
  field : BitField
  value : Word
  deriving DecidableEq, Repr

namespace ExplainRow

def range (r : ExplainRow) : Text :=
  "[" ++ Text.decimal r.field.shift ++ "," ++ Text.decimal (r.field.shift + r.field.width) ++ ")"

def binary (r : ExplainRow) : Text := Text.fixedDigits 2 r.field.width r.value.toNat

def meaning (r : ExplainRow) : Text :=
  if r.field = .fields then
    "0x" ++ Text.hex r.value.toNat ++ " (" ++
      FieldMask.text ⟨UInt8.ofBitVec (r.value.setWidth 8)⟩ ++ ")"
  else if r.field = .imm then "0x" ++ Text.hexPadded 8 r.value.toNat
  else Text.decimal r.value.toNat

def cells (r : ExplainRow) : List Text := [r.field.name, r.range, r.binary, r.meaning]

end ExplainRow

namespace Word

def explainRows (w : Word) : List ExplainRow :=
  BitField.layout.map fun field => { field, value := field.get w }

def explanation (w : Word) : Grid where
  title := "Word " ++ text w
  header := ["Field", "Bits", "Binary", "Value"]
  rows := (explainRows w).map ExplainRow.cells

def explain (w : Word) : Text := (explanation w).text

end Word

end TableAsm
