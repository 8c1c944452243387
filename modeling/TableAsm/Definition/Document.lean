import TableAsm.Isa.Draft

namespace TableAsm

structure FormatEntry where
  mnemonic : Text := []
  fields : Text := []
  group : UInt8 := 0
  opcode : UInt8 := 0
  deriving DecidableEq, Repr

structure Document where
  name : Text := []
  registers : List Text := []
  formats : List FormatEntry := []
  deriving DecidableEq, Repr

def FormatEntry.text (e : FormatEntry) : Text :=
  "\x7b" ++ e.mnemonic ++ " " ++ e.fields ++ " " ++ Text.decimal e.group.toNat ++ " " ++
    Text.decimal e.opcode.toNat ++ "\x7d"

def FormatEntry.format (e : FormatEntry) : Except FieldMask.ListProblem Format :=
  match FieldMask.ofText? e.fields with
  | .ok fields => .ok { mnemonic := e.mnemonic, fields, group := e.group, opcode := e.opcode }
  | .error problem => .error problem

def FormatEntry.title (i : Nat) (e : FormatEntry) : Text :=
  "format " ++ Text.decimal i ++ " (" ++ e.mnemonic ++ ")"

namespace Document

def unnamed : Text := "custom"

def formatsFrom (i : Nat) : List FormatEntry → Except Failure (List Format)
  | [] => .ok []
  | e :: rest =>
    match e.format with
    | .error problem => .error ((Failure.ofMessage problem.text).inContext (e.title i))
    | .ok format =>
      match formatsFrom (i + 1) rest with
      | .error failure => .error failure
      | .ok formats => .ok (format :: formats)

def build (d : Document) : Except Failure Table :=
  match formatsFrom 0 d.formats with
  | .error failure => .error failure
  | .ok formats =>
    Draft.build
      { name := if d.name.isEmpty then unnamed else d.name, formats, registers := d.registers }

def ofTable (t : Table) : Document where
  name := t.name
  registers := t.registers.names
  formats := t.formats.map fun f =>
    { mnemonic := f.mnemonic, fields := f.fields.text, group := f.group, opcode := f.opcode }

end Document

end TableAsm
