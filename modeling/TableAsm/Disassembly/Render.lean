import TableAsm.Isa.Table
import TableAsm.Word.Fields

namespace TableAsm

structure Decoded where
  offset : Nat := 0
  word : Word
  format : Format
  fields : Fields
  text : Text
  deriving DecidableEq, Repr

def Decoded.summary (d : Decoded) : Text :=
  "0x" ++ Text.hexPadded 8 d.offset ++ " " ++ d.word.text ++ " " ++ d.text

def unnamedRegister (format : Format) (slot : Slot) (index : UInt8) (cause : Failure) : Failure :=
  .because
    { kind := .unknownEncoding
      message := slot.name ++ " of " ++ format.mnemonic ++ " names register " ++
        Text.decimal index.toNat }
    cause

def renderRegisters (format : Format) (fields : Fields) (registers : Registers) :
    List Slot → Except Failure Text
  | [] => .ok []
  | slot :: slots =>
    if format.fields.has slot.field then
      match registers.name (fields.registerIn slot) with
      | .error failure =>
        .error (unnamedRegister format slot (fields.registerIn slot) failure)
      | .ok name =>
        match renderRegisters format fields registers slots with
        | .error failure => .error failure
        | .ok rest => .ok (Text.space :: name ++ rest)
    else renderRegisters format fields registers slots

def render (format : Format) (fields : Fields) (registers : Registers) : Except Failure Text :=
  match renderRegisters format fields registers [.rd, .rs1, .rs2] with
  | .error failure => .error failure
  | .ok names =>
    let immediate : Text :=
      if format.fields.has .imm then " " ++ Text.literal32 fields.imm else []
    .ok (format.mnemonic ++ names ++ immediate)

/-- Decodes a word: exactly one format must have its key, and every register it names must exist. -/
def Table.decodeWord (t : Table) (word : Word) : Except Failure Decoded :=
  let fields := Fields.decode word
  match t.ofKey fields.key with
  | .error failure => .error failure
  | .ok format =>
    match render format fields t.registers with
    | .error failure => .error failure
    | .ok text => .ok { word, format, fields, text }

end TableAsm
