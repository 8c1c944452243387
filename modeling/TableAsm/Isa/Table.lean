import TableAsm.Isa.Format
import TableAsm.Isa.Registers

namespace TableAsm

/-- An instruction set: formats in definition order and a register file. -/
structure Table where
  name : Text
  formats : List Format
  registers : Registers
  deriving DecidableEq, Repr

namespace Table

def ofMnemonic (t : Table) (mnemonic : Text) : Except Failure Format :=
  match t.formats.find? fun f => f.mnemonic == mnemonic with
  | some f => .ok f
  | none => .error <| Failure.ofFault
      { kind := .unknownMnemonic
        token := mnemonic
        message := mnemonic.quoted ++ " is not an instruction of " ++ t.name }

def withKey (t : Table) (key : Encoding) : List Format := t.formats.filter fun f => f.key == key

def ofKey (t : Table) (key : Encoding) : Except Failure Format :=
  match t.withKey key with
  | [f] => .ok f
  | [] => .error <| Failure.ofFault
      { kind := .unknownEncoding
        message := "no instruction of " ++ t.name ++ " is encoded as " ++ key.text }
  | several => .error <| Failure.ofFault
      { kind := .ambiguousEncoding
        message := Text.decimal several.length ++ " instructions of " ++ t.name ++
          " share encoding " ++ key.text }

end Table

end TableAsm
