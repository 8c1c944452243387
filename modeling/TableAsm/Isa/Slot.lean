import TableAsm.Isa.Mask

namespace TableAsm

inductive Slot where
  | rd
  | rs1
  | rs2
  | imm
  deriving DecidableEq, Repr

namespace Slot

def name : Slot → Text
  | rd => "RD"
  | rs1 => "RS1"
  | rs2 => "RS2"
  | imm => "IMM"

def isRegister : Slot → Bool
  | imm => false
  | _ => true

def field : Slot → FieldMask
  | rd => .rd
  | rs1 => .rs1
  | rs2 => .rs2
  | imm => .imm

def ofCode? (code : Int) : Option Slot :=
  if code < 0 then none else [rd, rs1, rs2, imm][code.toNat]?

def codeName (code : Int) : Text :=
  match ofCode? code with
  | some slot => slot.name
  | none => "Slot(" ++ Text.signedDecimal code ++ ")"

def codeIsRegister (code : Int) : Bool := ofCode? code != some imm

end Slot

namespace FieldMask

def layouts : List (FieldMask × List Slot) :=
  [(⟨0⟩, []),
   (⟨1⟩, [.imm]),
   (⟨4⟩, [.rs1]),
   (⟨5⟩, [.rs1, .imm]),
   (⟨6⟩, [.rs1, .rs2]),
   (⟨9⟩, [.rd, .imm]),
   (⟨12⟩, [.rd, .rs1]),
   (⟨13⟩, [.rd, .rs1, .imm]),
   (⟨14⟩, [.rd, .rs1, .rs2])]

def layout? (m : FieldMask) : Option (List Slot) := layouts.lookup m

def legal : List FieldMask := layouts.map Prod.fst

end FieldMask

end TableAsm
