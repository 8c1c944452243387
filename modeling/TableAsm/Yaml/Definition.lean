import TableAsm.Definition.Document
import TableAsm.Yaml.Freeform

namespace TableAsm.Yaml

def Meaning.byte? : Meaning → Option UInt8
  | integer n => if 0 ≤ n ∧ n < 256 then some (UInt8.ofNat n.toNat) else none
  | fraction negative size =>
    if size.floor = 0 ∨ (!negative ∧ size.floor < 256) then some (UInt8.ofNat size.floor) else none
  | _ => none

def readByte (a : Anchors) (n : Node) : Check (Option UInt8) := a.reading n fun n => do
  match n with
  | .scalar tag value line =>
    match ← meaningOf tag value with
    | .null => return none
    | m =>
      match m.byte? with
      | some b => return some b
      | none => do
        note (.mismatch line tag value .byte)
        return none
  | n => do
    mismatch .byte n
    return none

def readList {α : Type} (a : Anchors) (target : Target) (read : Node → Check (Option α)) (n : Node) :
    Check (List α) := a.reading n fun n => do
  match n with
  | .sequence _ items _ => return (← items.mapM read).filterMap id
  | .scalar tag value line =>
    match ← meaningOf tag value with
    | .null => return []
    | _ => do
      note (.mismatch line tag value target)
      return []
  | n => do
    mismatch target n
    return []

abbrev Fields (σ : Type) := Text → Option (Node → σ → Check σ)

structure Progress (σ : Type) where
  value : σ
  done : List Text := []
  /-- The keys that merged mappings may not set any more, where mappings are being merged. -/
  taken : Option (List Text) := none

def readField {σ : Type} (a : Anchors) (target : Target) (fields : Fields σ) (entry : Node × Node)
    (p : Progress σ) : Check (Progress σ) := do
  if isMerge entry.1 then return p
  match ← readText a entry.1 with
  | none => return p
  | some key =>
    if (p.taken.map (·.contains key)).getD false then return p
    let p := { p with taken := p.taken.map (key :: ·) }
    match fields key with
    | none => do
      note (.unknownField entry.1.line key target)
      return p
    | some set =>
      if p.done.contains key then do
        note (.repeatedField entry.1.line key target)
        return p
      else
        return { p with value := ← set entry.2 p.value, done := key :: p.done }

def textKeys (a : Anchors) (depth : Nat) (entries : List (Node × Node)) : Check (List Text) := do
  return (← readFreeKeys a depth entries).filterMap fun
    | .text t => some t
    | _ => none

/-- Reads the entries of a mapping, and then those of the mappings merged into it. The number
bounds how deep merged mappings are nested. -/
def readEntries {σ : Type} (a : Anchors) (target : Target) (fields : Fields σ) :
    Nat → List (Node × Node) → Progress σ → Check (Progress σ)
  | 0, _, _ => failure
  | depth + 1, entries, p => do
    if !(← checkKeys entries) then return p
    let p ← entries.foldlM (fun p entry => readField a target fields entry p) p
    match mergeSources? entries with
    | none => return p
    | some sources =>
      let taken ← p.taken.getDM (textKeys a depth entries)
      let mergeOne := fun (p : Progress σ) (n : Node) => a.reading n fun n => do
        match n with
        | .mapping _ merged _ =>
          let inner ← readEntries a target fields depth merged { p with done := [] }
          return ({ inner with done := p.done } : Progress σ)
        | _ => failure
      let merged ← sources.foldlM mergeOne { p with taken := some taken }
      return { merged with taken := p.taken.bind fun _ => merged.taken }

def readRecord {σ : Type} (a : Anchors) (target : Target) (fields : Fields σ) (depth : Nat)
    (value : σ) (n : Node) : Check (Option σ) := a.reading n fun n => do
  match n with
  | .mapping _ entries _ => return some (← readEntries a target fields depth entries { value }).value
  | .scalar tag text line =>
    match ← meaningOf tag text with
    | .null => return none
    | _ => do
      note (.mismatch line tag text target)
      return none
  | n => do
    mismatch target n
    return none

def entryFields (a : Anchors) : Fields FormatEntry := fun key =>
  if key = ("mnemonic" : Text) then
    some fun n e => return { e with mnemonic := (← readText a n).getD e.mnemonic }
  else if key = ("fields" : Text) then
    some fun n e => return { e with fields := (← readText a n).getD e.fields }
  else if key = ("group" : Text) then
    some fun n e => return { e with group := (← readByte a n).getD e.group }
  else if key = ("opcode" : Text) then
    some fun n e => return { e with opcode := (← readByte a n).getD e.opcode }
  else none

def documentFields (a : Anchors) (depth : Nat) : Fields Document := fun key =>
  if key = ("name" : Text) then
    some fun n d => return { d with name := (← readText a n).getD d.name }
  else if key = ("registers" : Text) then
    some fun n d => return { d with registers := ← readList a .texts (readText a) n }
  else if key = ("formats" : Text) then
    some fun n d => do
      let read := readRecord a .entry (entryFields a) depth {}
      return { d with formats := ← readList a .entries read n }
  else none

def problemFailure (problems : List Problem) : Failure :=
  let lines : Text := problems.flatMap fun p => ("\n  " : Text) ++ p.text
  (Failure.ofMessage ("yaml: unmarshal errors:" ++ lines)).inContext "parsing YAML"

def definition (t : Text) : Except Failure Document :=
  let refused : Failure := { root := .refused .yaml }
  match Tree.ofText? t with
  | none => .error refused
  | some { root := none, .. } => .ok {}
  | some { root := some root, anchors } =>
    let depth := 3 * t.length + 3
    match (readRecord anchors .document (documentFields anchors depth) depth {} root).run {} with
    | none => .error refused
    | some (document, { problems := [], .. }) => .ok (document.getD {})
    | some (_, { problems, .. }) => .error (problemFailure problems.reverse)

end TableAsm.Yaml
