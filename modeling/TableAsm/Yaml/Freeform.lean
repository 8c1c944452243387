import TableAsm.Yaml.Check

namespace TableAsm.Yaml

inductive Shape where
  | scalar (m : Meaning)
  | collection
  deriving DecidableEq, Repr

def Anchors.tagOf (a : Anchors) : Node → Text
  | .scalar tag _ _ => tag
  | .sequence tag _ _ => tag
  | .mapping tag _ _ => tag
  | .reference _ target _ _ =>
    match a.node? target with
    | some (.scalar tag _ _) => tag
    | some (.sequence tag _ _) => tag
    | some (.mapping tag _ _) => tag
    | _ => []

def Anchors.hasTextKeys (a : Anchors) (entries : List (Node × Node)) : Bool :=
  entries.all fun entry => a.tagOf entry.1 == strTag || a.tagOf entry.1 == mergeTag

abbrev Taken := Option (List Meaning)

def Taken.has (taken : Taken) (key : Meaning) : Bool :=
  (taken.map fun keys => keys.any key.isSame).getD false

def Taken.add (taken : Taken) (key : Meaning) : Taken := taken.map (key :: ·)

mutual

/-- Reads a value; none when repeated keys keep it from being read. The number bounds how deep values
are nested. -/
def readFree (a : Anchors) : Nat → Node → Check (Option Shape)
  | 0, _ => failure
  | depth + 1, n => a.reading n fun n => do
    match n with
    | .scalar tag value _ => return some (.scalar (← meaningOf tag value))
    | .sequence _ items _ => do
      items.forM fun item => discard (readFree a depth item)
      return some .collection
    | .mapping _ entries _ => do
      if ← checkKeys entries then
        discard (readFreeEntries a depth (a.hasTextKeys entries) entries none)
        return some .collection
      else return none
    | .reference _ _ _ _ => failure

/-- Reads the entries of a mapping, and then those of the mappings merged into it; `texts` says that
its keys are read as texts. -/
def readFreeEntries (a : Anchors) :
    Nat → (texts : Bool) → List (Node × Node) → Taken → Check Taken
  | 0, _, _, _ => failure
  | depth + 1, texts, entries, taken => do
    let readKey := fun (key : Node) =>
      if texts then return (← readText a key).map fun t => .scalar (.text t)
      else readFree a depth key
    let readEntry := fun (taken : Taken) (entry : Node × Node) => do
      if isMerge entry.1 then return taken
      match ← readKey entry.1 with
      | none => return taken
      | some .collection => failure
      | some (.scalar key) =>
        if taken.has key then return taken
        discard (readFree a depth entry.2)
        return taken.add key
    let taken ← entries.foldlM readEntry taken
    match mergeSources? entries with
    | none => return taken
    | some sources =>
      let start ← taken.getDM (readFreeKeys a depth entries)
      let mergeOne := fun (taken : Taken) (n : Node) => a.reading n fun n => do
        match n with
        | .mapping _ merged _ =>
          if ← checkKeys merged then readFreeEntries a depth texts merged taken else return taken
        | _ => failure
      let merged ← sources.foldlM mergeOne (some start)
      return taken.bind fun _ => merged

def readFreeKeys (a : Anchors) : Nat → List (Node × Node) → Check (List Meaning)
  | 0, _ => failure
  | depth + 1, entries => do
    let keys ← entries.mapM fun entry => do
      match ← readFree a depth entry.1 with
      | none => return none
      | some .collection => failure
      | some (.scalar key) => return some key
    return keys.filterMap id

end

end TableAsm.Yaml
