import TableAsm.Toml.Lexeme

namespace TableAsm.Toml

abbrev Entries (α : Type) := List (Text × α)

namespace Entries

variable {α : Type}

def set (key : Text) (value : α) : Entries α → Entries α
  | [] => [(key, value)]
  | (k, v) :: rest => if k = key then (k, value) :: rest else (k, v) :: set key value rest

end Entries

structure Note where
  /-- Did the table come to be only because of the keys below it? -/
  implicit : Bool := false
  array : Bool := false
  deriving DecidableEq, Repr

inductive Notes where
  | node (note : Note) (entries : List (Text × Notes))
  deriving Repr

namespace Notes

def empty : Notes := .node {} []

def child (key : Text) : Notes → Notes
  | .node _ entries => (entries.lookup key).getD empty

def get : Key → Notes → Note
  | [], .node note _ => note
  | key :: path, notes => get path (notes.child key)

def setChild (notes : Notes) (key : Text) (inner : Notes) : Notes :=
  match notes with
  | .node note entries => .node note (Entries.set key inner entries)

def update (change : Note → Note) : Key → Notes → Notes
  | [], .node note entries => .node (change note) entries
  | key :: path, notes => notes.setChild key (update change path (notes.child key))

/-- Notes that the tables of a path came to be because of the keys below them, those of its first
`known` keys apart. -/
def addImplicits : (known : Nat) → Key → Notes → Notes
  | _, [], notes => notes
  | known, key :: path, notes =>
    let inner := notes.child key
    let inner :=
      if known = 0 then inner.update (fun note => { note with implicit := true }) [] else inner
    notes.setChild key (addImplicits (known - 1) path inner)

end Notes

end TableAsm.Toml
