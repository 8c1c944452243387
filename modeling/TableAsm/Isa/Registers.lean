import TableAsm.Fault.Basic
import TableAsm.Text.Blank
import TableAsm.Text.Quoted

namespace TableAsm

def maxRegisters : Nat := 32

def labelSigil : UInt8 := 0x40

def hexMark : Text := "0x"

def commentMark : UInt8 := 0x3b

def registerNameFlaw? (name : Text) : Option Text :=
  if name.isEmpty then some "is empty"
  else if name.hasBlank then some "contains whitespace"
  else if commentMark ∈ name then some "contains the comment marker"
  else if name.head? = some labelSigil then some "starts with the label sigil"
  else if hexMark.isPrefixOf name then some "starts with the hex prefix"
  else if name.all Text.isDigit then some "is numeric"
  else none

def registerNameFault? (name : Text) : Option Fault :=
  (registerNameFlaw? name).map fun flaw =>
    { kind := .invalidTable
      token := name
      message := "register name " ++ name.quoted ++ " " ++ flaw }

def tooManyRegisters (count : Nat) : Fault :=
  { kind := .invalidTable
    message := Text.decimal count ++ " registers defined, at most " ++ Text.decimal maxRegisters ++
      " fit in a register field" }

def repeatedRegister (name : Text) (earlier later : Nat) : Fault :=
  { kind := .invalidTable
    token := name
    message := "register " ++ name.quoted ++ " defined at index " ++ Text.decimal earlier ++
      " and " ++ Text.decimal later }

/-- An ordered list of register names. The position of a name is its register index. -/
structure Registers where
  names : List Text
  deriving DecidableEq, Repr

namespace Registers

def index? (r : Registers) (name : Text) : Option UInt8 :=
  (r.names.idxOf? name).map UInt8.ofNat

def name? (r : Registers) (i : UInt8) : Option Text := r.names[i.toNat]?

def outOfRange (r : Registers) (i : UInt8) : Failure :=
  (Failure.ofMessage (Text.decimal i.toNat ++ " (" ++ Text.decimal r.names.length ++
    " registers defined)")).inContext "register index out of range"

def name (r : Registers) (i : UInt8) : Except Failure Text :=
  match r.name? i with
  | some name => .ok name
  | none => .error (r.outOfRange i)

def add (r : Registers) (name : Text) : Except Fault Registers :=
  match registerNameFault? name with
  | some fault => .error fault
  | none =>
    match r.names.idxOf? name with
    | some earlier => .error (repeatedRegister name earlier r.names.length)
    | none => .ok ⟨r.names ++ [name]⟩

def addAll : Registers → List Text → Except Fault Registers
  | r, [] => .ok r
  | r, name :: rest =>
    match r.add name with
    | .error fault => .error fault
    | .ok r => addAll r rest

def ofNames (names : List Text) : Except Fault Registers :=
  if maxRegisters < names.length then .error (tooManyRegisters names.length)
  else addAll ⟨[]⟩ names

end Registers

end TableAsm
