import TableAsm.Isa.Format
import TableAsm.Word.BitField

namespace TableAsm

structure Fields where
  mask : FieldMask
  group : UInt8
  opcode : UInt8
  rd : UInt8 := 0
  rs1 : UInt8 := 0
  rs2 : UInt8 := 0
  imm : UInt32 := 0
  deriving DecidableEq, Repr

namespace Fields

def key (f : Fields) : Encoding := ⟨f.mask, f.group, f.opcode⟩

def canonical (f : Fields) : Fields :=
  { f with
    rd := if f.mask.has .rd then f.rd else 0
    rs1 := if f.mask.has .rs1 then f.rs1 else 0
    rs2 := if f.mask.has .rs2 then f.rs2 else 0
    imm := if f.mask.has .imm then f.imm else 0 }

def text (f : Fields) : Text :=
  "\x7b" ++ f.mask.text ++ "; group=" ++ Text.decimal f.group.toNat ++ "; opcode=" ++
    Text.decimal f.opcode.toNat ++ "; rd=" ++ Text.decimal f.rd.toNat ++ "; rs1=" ++
    Text.decimal f.rs1.toNat ++ "; rs2=" ++ Text.decimal f.rs2.toNat ++ "; imm=" ++
    Text.literal32 f.imm ++ "\x7d"

def encode (f : Fields) : Word :=
  let w := BitField.imm.put 0 (f.imm.toBitVec.setWidth 64)
  let w := BitField.rs2.put w (f.rs2.toBitVec.setWidth 64)
  let w := BitField.rs1.put w (f.rs1.toBitVec.setWidth 64)
  let w := BitField.rd.put w (f.rd.toBitVec.setWidth 64)
  let w := BitField.opcode.put w (f.opcode.toBitVec.setWidth 64)
  let w := BitField.group.put w (f.group.toBitVec.setWidth 64)
  BitField.fields.put w (f.mask.bits.toBitVec.setWidth 64)

def byteOf (field : BitField) (w : Word) : UInt8 := UInt8.ofBitVec ((field.get w).setWidth 8)

def decode (w : Word) : Fields where
  mask := ⟨byteOf .fields w⟩
  group := byteOf .group w
  opcode := byteOf .opcode w
  rd := byteOf .rd w
  rs1 := byteOf .rs1 w
  rs2 := byteOf .rs2 w
  imm := UInt32.ofBitVec ((BitField.imm.get w).setWidth 32)

def set (f : Fields) (slot : Slot) (value : UInt32) : Fields :=
  match slot with
  | .rd => { f with rd := value.toUInt8 }
  | .rs1 => { f with rs1 := value.toUInt8 }
  | .rs2 => { f with rs2 := value.toUInt8 }
  | .imm => { f with imm := value }

def registerIn (f : Fields) : Slot → UInt8
  | .rd => f.rd
  | .rs1 => f.rs1
  | .rs2 => f.rs2
  | .imm => 0

end Fields

def Word.canonical (w : Word) : Word := (Fields.decode w).canonical.encode

end TableAsm
