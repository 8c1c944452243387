import TableAsm.Word.Basic

namespace TableAsm

/-- A run of bits inside a word, bit 0 being the least significant. -/
structure BitField where
  name : Text
  shift : Nat
  width : Nat
  deriving DecidableEq, Repr

namespace BitField

/-- The low bits that the field is wide; a field as wide as the word, or wider, takes all of it. -/
def mask (f : BitField) : Word := Word.raised 1#64 f.width - 1#64

def get (f : BitField) (w : Word) : Word := Word.lowered w f.shift &&& f.mask

def put (f : BitField) (w v : Word) : Word :=
  (w &&& ~~~Word.raised f.mask f.shift) ||| Word.raised (v &&& f.mask) f.shift

def imm : BitField := ⟨"IMM", 0, 32⟩
def rs2 : BitField := ⟨"RS2", 32, 5⟩
def rs1 : BitField := ⟨"RS1", 37, 5⟩
def rd : BitField := ⟨"RD", 42, 5⟩
def opcode : BitField := ⟨"OPCODE", 47, 8⟩
def group : BitField := ⟨"GROUP", 55, 5⟩
def fields : BitField := ⟨"FIELDS", 60, 4⟩

/-- The fields of a word from the most significant down. -/
def layout : List BitField := [fields, group, opcode, rd, rs1, rs2, imm]

end BitField

end TableAsm
