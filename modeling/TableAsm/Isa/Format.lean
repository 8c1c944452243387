import TableAsm.Isa.Slot

namespace TableAsm

/-- The triple of field mask, opcode group and opcode that identifies a format in a word. -/
structure Encoding where
  fields : FieldMask
  group : UInt8
  opcode : UInt8
  deriving DecidableEq, Repr

structure Format where
  mnemonic : Text
  fields : FieldMask
  group : UInt8
  opcode : UInt8
  deriving DecidableEq, Repr

def Encoding.text (e : Encoding) : Text :=
  "\x7b" ++ e.fields.text ++ "; group=" ++ Text.decimal e.group.toNat ++ "; opcode=" ++
    Text.decimal e.opcode.toNat ++ "\x7d"

namespace Format

def key (f : Format) : Encoding := ⟨f.fields, f.group, f.opcode⟩

def text (f : Format) : Text := f.mnemonic ++ f.key.text

def maxGroup : UInt8 := 0x1f

end Format

end TableAsm
