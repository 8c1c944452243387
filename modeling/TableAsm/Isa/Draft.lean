import TableAsm.Isa.Table

namespace TableAsm

structure Draft where
  name : Text := []
  formats : List Format := []
  registers : List Text := []
  deriving DecidableEq, Repr

def registerProblem? (names : List Text) (i : Nat) (name : Text) : Option Fault :=
  match registerNameFault? name with
  | some fault => some fault
  | none =>
    match names.idxOf? name with
    | some first => if first < i then some (repeatedRegister name first i) else none
    | none => none

def registerProblems (names : List Text) : List Fault :=
  (if maxRegisters < names.length then [tooManyRegisters names.length] else []) ++
    names.zipIdx.filterMap fun (name, i) => registerProblem? names i name

def missingLayout (f : Format) : Fault :=
  { kind := .invalidTable
    token := f.mnemonic
    message := f.mnemonic ++ " uses field mask " ++ f.fields.text ++
      ", which has no operand layout" }

namespace Format

def nameProblem? (i : Nat) (f : Format) : Option Fault :=
  if f.mnemonic.isEmpty then
    some { kind := .invalidTable, message := "format " ++ Text.decimal i ++ " has no mnemonic" }
  else none

def layoutProblem? (f : Format) : Option Fault :=
  if f.fields.layout?.isNone then some (missingLayout f) else none

def groupProblem? (f : Format) : Option Fault :=
  if maxGroup < f.group then
    some
      { kind := .invalidTable
        token := f.mnemonic
        message := f.mnemonic ++ " uses opcode group " ++ Text.decimal f.group.toNat ++
          ", the group field holds at most " ++ Text.decimal maxGroup.toNat }
  else none

def earliest? (passes : Format → Bool) (formats : List Format) (i : Nat) : Option Nat :=
  (formats.findIdx? passes).filter (· < i)

theorem earliest?_eq_some_iff {passes : Format → Bool} {formats : List Format} {i first : Nat} :
    earliest? passes formats i = some first ↔ formats.findIdx? passes = some first ∧ first < i := by
  simp [earliest?, Option.filter_eq_some_iff]

def mnemonicProblem? (formats : List Format) (i : Nat) (f : Format) : Option Fault :=
  if f.mnemonic.isEmpty then none
  else
    (earliest? (fun e => e.mnemonic == f.mnemonic) formats i).map fun first =>
      { kind := .invalidTable
        token := f.mnemonic
        message := "mnemonic " ++ f.mnemonic ++ " defined by formats " ++ Text.decimal first ++
          " and " ++ Text.decimal i ++ "; each addressing form needs its own mnemonic" }

def keyProblem? (formats : List Format) (i : Nat) (f : Format) : Option Fault :=
  ((earliest? (fun e => e.key == f.key) formats i).bind (formats[·]?)).map fun first =>
    { kind := .ambiguousEncoding
      token := f.mnemonic
      message := first.mnemonic ++ " and " ++ f.mnemonic ++ " share encoding " ++ f.key.text }

def problems (formats : List Format) (i : Nat) (f : Format) : List Fault :=
  [f.nameProblem? i, f.layoutProblem?, f.groupProblem?, f.mnemonicProblem? formats i,
    f.keyProblem? formats i].filterMap id

end Format

namespace Draft

def problems (d : Draft) : List Fault :=
  registerProblems d.registers ++
    d.formats.zipIdx.flatMap fun (f, i) => f.problems d.formats i

def build (d : Draft) : Except Failure Table :=
  match d.problems with
  | [] =>
    match Registers.ofNames d.registers with
    | .ok registers => .ok { name := d.name, formats := d.formats, registers }
    | .error fault => .error fault
  | faults => .error { root := .problems faults }

def buildUnchecked (d : Draft) : Except Failure Table :=
  match Registers.ofNames d.registers with
  | .ok registers => .ok { name := d.name, formats := d.formats, registers }
  | .error fault => .error fault

def withFormats (d : Draft) (formats : List Format) : Draft :=
  { d with formats := d.formats ++ formats }

end Draft

end TableAsm
