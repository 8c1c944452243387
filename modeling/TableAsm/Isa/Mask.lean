import TableAsm.Fault.Basic
import TableAsm.Text.Blank
import TableAsm.Text.Capital
import TableAsm.Text.Quoted

namespace TableAsm

/-- The set of operand fields of an instruction. Four bits have a meaning; a definition may hold
others until it is checked. -/
structure FieldMask where
  bits : UInt8
  deriving DecidableEq, Repr

namespace FieldMask

def imm : FieldMask := ⟨1⟩
def rs2 : FieldMask := ⟨2⟩
def rs1 : FieldMask := ⟨4⟩
def rd : FieldMask := ⟨8⟩
def empty : FieldMask := ⟨0⟩

def union (m n : FieldMask) : FieldMask := ⟨m.bits ||| n.bits⟩

def has (m f : FieldMask) : Bool := m.bits &&& f.bits == f.bits

def named : List (FieldMask × Text) := [(rd, "RD"), (rs1, "RS1"), (rs2, "RS2"), (imm, "IMM")]

def unnamed (m : FieldMask) : UInt8 := m.bits &&& 0xf0

def text (m : FieldMask) : Text :=
  if m = empty then "NONE"
  else
    let names := (named.filter fun (field, _) => m.has field).map Prod.snd
    let rest : List Text := if m.unnamed = 0 then [] else ["0x" ++ Text.hex m.unnamed.toNat]
    Text.joined "," (names ++ rest)

/-- Why a field list is refused. The whole list is kept for the message. -/
inductive ListProblem where
  | repeated (name whole : Text)
  | unknown (name whole : Text)
  deriving DecidableEq, Repr

def ListProblem.text : ListProblem → Text
  | repeated name whole => "field " ++ name ++ " listed twice in " ++ whole.quoted
  | unknown name whole => "unknown field " ++ name.quoted ++ " in " ++ whole.quoted

def readNames (whole : Text) : FieldMask → List Text → Except ListProblem FieldMask
  | m, [] => .ok m
  | m, part :: rest =>
    let name := part.trim.capitals
    match named.find? fun (_, known) => known == name with
    | none => .error (.unknown name whole)
    | some (field, _) =>
      if m.has field then .error (.repeated name whole) else readNames whole (m.union field) rest

/-- Reads a list of field names divided by commas. Case and blanks around names do not matter; an
empty list and the word NONE are the empty mask. -/
def ofText? (t : Text) : Except ListProblem FieldMask :=
  let whole := t.trim
  if whole.isEmpty || whole.sameName "NONE" then .ok empty
  else readNames whole empty (whole.splitAt Text.comma)

end FieldMask

end TableAsm
