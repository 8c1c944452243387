import TableAsm.Stream.Input

namespace TableAsm

/-- Where something stands: the names on the way to it. A path from the root of all files starts
with an empty name. -/
abbrev Path := List Text

inductive Entry where
  | file (content : Text)
  | folder
  deriving DecidableEq, Repr

inductive PathProblem where
  | absent
  | notFolder
  | isFolder
  | tooLong
  | malformed
  deriving DecidableEq, Repr

def PathProblem.text : PathProblem → Text
  | absent => "no such file or directory"
  | notFolder => "not a directory"
  | isFolder => "is a directory"
  | tooLong => "file name too long"
  | malformed => "invalid argument"

/-- The files below a directory, and the folders known besides those the files stand in. -/
structure Directory where
  files : List (Path × Text) := []
  folders : List Path := []
  deriving DecidableEq, Repr

namespace Directory

def slash : UInt8 := 0x2f

def here : Text := "."

def above : Text := ".."

def longestName : Nat := 255

def longestPath : Nat := 4095

def ofFiles (files : List (Text × Text)) : Directory where
  files := files.map fun (name, content) => (name.splitAt slash, content)

def pathText (p : Path) : Text := Text.joined [slash] p

def isOuter (p : Path) : Bool := p == [[]] || p.all (· == above)

def entry? (d : Directory) (p : Path) : Option Entry :=
  match d.files.lookup p with
  | some content => some (.file content)
  | none =>
    if isOuter p || d.folders.contains p || d.files.any fun (q, _) => p.isPrefixOf q then
      some .folder
    else none

def step (p : Path) (name : Text) : Path :=
  if name.isEmpty ∨ name = here then p
  else if name = above ∧ !isOuter p then p.dropLast
  else p ++ [name]

/-- Where the names of a path start, and which of them are left to follow: a path from the root
starts with an empty name. -/
def start : List Text → Path × List Text
  | [] :: rest => ([[]], rest)
  | names => ([], names)

/-- Follows names from a path on. Every name needs a folder to be looked up in, an empty one too;
what stands at the end is not asked. -/
def walk (d : Directory) : Path → List Text → Except PathProblem Path
  | p, [] => .ok p
  | p, name :: rest =>
    match d.entry? p with
    | none => .error .absent
    | some (.file _) => .error .notFolder
    | some .folder =>
      if longestName < name.length then .error .tooLong else d.walk (step p name) rest

def follow (d : Directory) (names : List Text) : Except PathProblem Path :=
  d.walk (start names).1 (start names).2

def names (path : Text) : Except PathProblem (List Text) :=
  if path.isEmpty then .error .absent
  else if path.contains 0 then .error .malformed
  else if longestPath < path.length then .error .tooLong
  else .ok (path.splitAt slash)

def found (d : Directory) (path : Text) : Except PathProblem Entry := do
  match d.entry? (← d.follow (← names path)) with
  | some entry => pure entry
  | none => throw .absent

def withoutTrailing (names : List Text) : List Text :=
  (names.reverse.dropWhile List.isEmpty).reverse

/-- Where a file can be created or emptied. A path that ends with a slash asks for a folder; its last
name is not looked up. -/
def place (d : Directory) (path : Text) : Except PathProblem Path := do
  let names ← names path
  if names.getLast? = some [] then
    let _ ← d.follow ((withoutTrailing names).dropLast ++ [[]])
    throw .isFolder
  let p ← d.follow names
  if d.entry? p = some .folder then throw .isFolder
  return p

def put (d : Directory) (p : Path) (content : Text) : Directory :=
  if (d.files.lookup p).isSome then
    { d with files := d.files.map fun (q, old) => (q, if q = p then content else old) }
  else { d with files := d.files ++ [(p, content)] }

def changesFrom (old d : Directory) : List (Path × Text) :=
  d.files.filter fun (p, content) => old.files.lookup p != some content

def failureAt (action path : Text) (problem : PathProblem) : Failure :=
  .ofMessage (action ++ " " ++ path ++ ": " ++ problem.text)

def input (d : Directory) (path : Text) : Except Failure ByteInput :=
  match d.found path with
  | .ok (.file bytes) => .ok { bytes }
  | .ok .folder => .ok { bytes := [], failure? := some (failureAt "read" path .isFolder).text }
  | .error problem => .error (failureAt "open" path problem)

def content (d : Directory) (path : Text) : Except Failure Text :=
  match d.input path with
  | .error failure => .error failure
  | .ok { bytes, failure? := none } => .ok bytes
  | .ok { failure? := some cause, .. } => .error (.ofMessage cause.message)

def create (d : Directory) (path : Text) : Except Failure (Path × Directory) :=
  match d.place path with
  | .ok p => .ok (p, d.put p [])
  | .error problem => .error (failureAt "open" path problem)

end Directory

end TableAsm
