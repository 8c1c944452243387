import TableAsm.Toml.Notes

/-!
The tables of a TOML document while it is read. A key is set once. A table that came to be only
because of the keys below it may be declared later; an array may be set over, since its own tables
were put under its key before it.
-/
namespace TableAsm.Toml

inductive Item where
  | text (t : Text)
  | integer (n : Int)
  /-- A truth value, a floating point number or a date: nothing a definition can use. -/
  | other
  | array (items : List Item)
  | table (entries : List (Text × Item))
  /-- The tables declared one after the other under a key: the latest, and those before it, last
  first. -/
  | tables (latest : List (Text × Item)) (earlier : List (List (Text × Item)))
  deriving Repr

abbrev Table := List (Text × Item)

namespace Table

def get? (key : Text) (t : Table) : Option Item := t.lookup key

def set (key : Text) (value : Item) (t : Table) : Table := Entries.set key value t

/-- Changes the table below a path; tables that are missing on the way are made. Under a key with
several tables the latest counts. None when the path does not lead to a table. -/
def update (change : Table → Option Table) : Key → Table → Option Table
  | [], t => change t
  | key :: path, t =>
    match t.get? key with
    | none => do
      let entries ← update change path []
      return t.set key (.table entries)
    | some (.table entries) => do
      let entries ← update change path entries
      return t.set key (.table entries)
    | some (.tables latest earlier) => do
      let latest ← update change path latest
      return t.set key (.tables latest earlier)
    | some _ => none

def below : Key → Table → Option Table
  | [], t => some t
  | key :: path, t =>
    match t.get? key with
    | some (.table entries) => below path entries
    | some (.tables latest _) => below path latest
    | _ => none

def known : Key → Table → Nat
  | [], _ => 0
  | key :: path, t =>
    match t.get? key with
    | none => 0
    | some (.table entries) => known path entries + 1
    | some (.tables latest _) => known path latest + 1
    | some _ => 1

/-- Sets a key of which a note is kept; none when it has been set for good. A table that came to be
because of the keys below it stays as it is. -/
def put? (note : Note) (key : Text) (value : Item) (t : Table) : Option Table :=
  if (t.get? key).isNone || note.array then some (t.set key value)
  else if note.implicit then some t
  else none

def push? (key : Text) (t : Table) : Option Table :=
  match t.get? key with
  | none => some (t.set key (.tables [] []))
  | some (.tables latest earlier) => some (t.set key (.tables [] (latest :: earlier)))
  | some _ => none

end Table

structure Store where
  root : Table := []
  context : Key := []
  notes : Notes := .empty
  /-- All keys set and tables declared, last first. -/
  keys : List Key := []
  deriving Repr

namespace Store

/-- The path whose kind the value of a key decides. An empty key stands for the table it is set in,
except at the top. -/
def kindPath (key : Text) (s : Store) : Key :=
  if key.isEmpty && !s.context.isEmpty then s.context else s.context ++ [key]

def noteKind (key : Text) (array : Bool) (s : Store) : Store :=
  let path := s.kindPath key
  if (s.notes.get path).array = array then s
  else { s with notes := s.notes.update (fun note => { note with array }) path }

def noteKey (key : Key) (s : Store) : Store := { s with keys := key :: s.keys }

def noteImplicit (path : Key) (implicit : Bool) (s : Store) : Store :=
  { s with notes := s.notes.update (fun note => { note with implicit }) path }

def setValue (key : Text) (value : Item) (s : Store) : Option Store := do
  let path := s.context ++ [key]
  let note := s.notes.get path
  let isNew := ((s.root.below s.context).bind (Table.get? key)).isNone
  let root ← s.root.update (Table.put? note key value) s.context
  let s := { s with root }
  return if isNew || !note.implicit then s else s.noteImplicit path false

/-- Declares a table, or one more table of several, and makes it the current one. Tables on the way
that are missing come to be because of it. -/
def enter (path : Key) (several : Bool) (s : Store) : Option Store := do
  let name ← path.getLast?
  let parent := path.dropLast
  let known := s.root.known parent
  let s :=
    if known < parent.length then { s with notes := s.notes.addImplicits known parent } else s
  let s := { s with context := parent }
  let s ←
    if several then do
      let root ← s.root.update (Table.push? name) parent
      some { s with root }
    else s.setValue name (.table [])
  return { s with context := path }

def enterParts : Key → Store → Option Store
  | [], s => some s
  | part :: parts, s => do
    let path := s.context ++ [part]
    let s ← (s.noteImplicit path true).enter path false
    enterParts parts s

end Store

def Table.putBelow (key : Text) (value : Item) : Key → Table → Option Table
  | [], t => some (t.set key value)
  | part :: path, t => do
    let inner ←
      match t.get? part with
      | none => some []
      | some (.table entries) => some entries
      | some _ => none
    let inner ← putBelow key value path inner
    return t.set part (.table inner)

end TableAsm.Toml
