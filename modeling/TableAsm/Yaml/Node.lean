import TableAsm.Yaml.Layout
import TableAsm.Yaml.Meaning

namespace TableAsm.Yaml

inductive Node where
  | scalar (tag value : Text) (line : Nat)
  | sequence (tag : Text) (items : List Node) (line : Nat)
  | mapping (tag : Text) (entries : List (Node × Node)) (line : Nat)
  /-- A reference to the anchored node with the number `target`; references are numbered too. -/
  | reference (name : Text) (target number : Nat) (line : Nat)
  deriving Repr

def Node.line : Node → Nat
  | scalar _ _ line => line
  | sequence _ _ line => line
  | mapping _ _ line => line
  | reference _ _ _ line => line

structure Anchors where
  /-- The names with the numbers of their nodes, last first. -/
  names : List (Text × Nat) := []
  nodes : List (Nat × Node) := []
  references : Nat := 0
  deriving Repr

namespace Anchors

def fresh (a : Anchors) : Nat := a.names.length

def declare (name : Option Text) (a : Anchors) : Anchors :=
  match name with
  | some name => { a with names := (name, a.fresh) :: a.names }
  | none => a

def bind (name : Option Text) (number : Nat) (node : Node) (a : Anchors) : Anchors :=
  match name with
  | some _ => { a with nodes := (number, node) :: a.nodes }
  | none => a

def number? (name : Text) (a : Anchors) : Option Nat :=
  (a.names.find? fun entry => entry.1 == name).map Prod.snd

def node? (number : Nat) (a : Anchors) : Option Node :=
  (a.nodes.find? fun entry => entry.1 == number).map Prod.snd

end Anchors

structure Reading where
  tokens : List Token
  anchors : Anchors := {}

def Reading.mark? (r : Reading) : Option Mark := r.tokens.head?.map Token.mark

def Reading.line (r : Reading) : Nat := (r.tokens.head?.map Token.line).getD 0

def Reading.skip (r : Reading) : Reading := { r with tokens := r.tokens.drop 1 }

abbrev TagHandles := List (Text × Text)

def standardTags : Text := "tag:yaml.org,2002:"

def standardHandles : TagHandles := [("!", "!"), ("!!", standardTags)]

def shortTag (tag : Text) : Text :=
  match Text.after? standardTags tag with
  | some name => "!!" ++ name
  | none => tag

structure Properties where
  anchor : Option Text := none
  /-- The short tag; none when there is none, or only an exclamation mark. -/
  tag : Option Text := none
  isTagged : Bool := false
  line : Nat

def TagHandles.tag? (handles : TagHandles) (handle suffix : Text) : Option Text :=
  if handle.isEmpty then some suffix
  else (handles.lookup handle).map (· ++ suffix)

def Properties.addTag (handles : TagHandles) (handle suffix : Text) (p : Properties) :
    Option Properties :=
  (handles.tag? handle suffix).map fun tag =>
    { p with isTagged := true, tag := if tag = ("!" : Text) then none else some (shortTag tag) }

def properties? (handles : TagHandles) (r : Reading) : Option (Properties × Reading) :=
  let p : Properties := { line := r.line }
  match r.mark? with
  | some (.anchor name) =>
    let p := { p with anchor := some name }
    match r.skip.mark? with
    | some (.tag handle suffix) => (p.addTag handles handle suffix).map fun p => (p, r.skip.skip)
    | some _ => some (p, r.skip)
    | none => none
  | some (.tag handle suffix) => do
    let p ← p.addTag handles handle suffix
    match r.skip.mark? with
    | some (.anchor name) => return ({ p with anchor := some name }, r.skip.skip)
    | some _ => return (p, r.skip)
    | none => none
  | some _ => some (p, r)
  | none => none

def emptyNode (line : Nat) : Node := .scalar nullTag [] line

def Properties.scalar (value : Text) (plain : Bool) (p : Properties) : Node :=
  let tag := p.tag.getD (if !plain then strTag else if value = ("<<" : Text) then mergeTag else plainTag value)
  .scalar tag value p.line

inductive Context where
  | block
  /-- The key or value of a block mapping: a sequence need not be indented. -/
  | entry
  | flow
  deriving DecidableEq, Repr

def Properties.close (p : Properties) (number : Nat) (node : Node) (r : Reading) : Node × Reading :=
  (node, { r with anchors := r.anchors.bind p.anchor number node })

mutual

def node? (handles : TagHandles) : Nat → Context → Reading → Option (Node × Reading)
  | 0, _, _ => none
  | fuel + 1, context, r =>
    match r.mark? with
    | some (.reference name) => do
      let target ← r.anchors.number? name
      let anchors := { r.anchors with references := r.anchors.references + 1 }
      return (.reference name target r.anchors.references r.line, { r.skip with anchors })
    | _ => do
      let (p, r) ← properties? handles r
      let number := r.anchors.fresh
      let r := { r with anchors := r.anchors.declare p.anchor }
      match r.mark? with
      | none => none
      | some mark =>
        let items := fun (read : Option (List Node × Reading)) =>
          read.map fun (items, r) => p.close number (.sequence (p.tag.getD seqTag) items p.line) r
        let entries := fun (read : Option (List (Node × Node) × Reading)) =>
          read.map fun (entries, r) =>
            p.close number (.mapping (p.tag.getD mapTag) entries p.line) r
        match mark with
        | .scalar value plain => some (p.close number (p.scalar value plain) r.skip)
        | .flowSequence => items (flowItems? handles fuel true r.skip)
        | .flowMapping => entries (flowEntries? handles fuel true r.skip)
        | .blockEntry =>
          if context = .entry then items (looseItems? handles fuel r)
          else absentNode p number r
        | .blockSequence =>
          if context = .flow then absentNode p number r
          else items (blockItems? handles fuel r.skip)
        | .blockMapping =>
          if context = .flow then absentNode p number r
          else entries (blockEntries? handles fuel r.skip)
        | _ => absentNode p number r

def absentNode (p : Properties) (number : Nat) (r : Reading) : Option (Node × Reading) :=
  if p.anchor.isSome ∨ p.isTagged then some (p.close number (p.scalar [] true) r) else none

def blockItems? (handles : TagHandles) : Nat → Reading → Option (List Node × Reading)
  | 0, _ => none
  | fuel + 1, r =>
    match r.mark? with
    | some .blockEntry => do
      let line := r.line
      let r := r.skip
      let mark ← r.mark?
      let (item, r) ←
        if mark = .blockEntry ∨ mark = .blockEnd then some (emptyNode line, r)
        else node? handles fuel .block r
      let (items, r) ← blockItems? handles fuel r
      return (item :: items, r)
    | some .blockEnd => some ([], r.skip)
    | _ => none

def looseItems? (handles : TagHandles) : Nat → Reading → Option (List Node × Reading)
  | 0, _ => none
  | fuel + 1, r =>
    match r.mark? with
    | some .blockEntry => do
      let line := r.line
      let r := r.skip
      let mark ← r.mark?
      let (item, r) ←
        if mark = .blockEntry ∨ mark = .key ∨ mark = .value ∨ mark = .blockEnd then
          some (emptyNode line, r)
        else node? handles fuel .block r
      let (items, r) ← looseItems? handles fuel r
      return (item :: items, r)
    | some _ => some ([], r)
    | none => none

def blockEntries? (handles : TagHandles) : Nat → Reading → Option (List (Node × Node) × Reading)
  | 0, _ => none
  | fuel + 1, r =>
    match r.mark? with
    | some .key => do
      let (key, r) ← entryNode? handles fuel r.line r.skip
      let mark ← r.mark?
      let (value, r) ←
        if mark = .value then entryNode? handles fuel r.line r.skip
        else some (emptyNode r.line, r)
      let (entries, r) ← blockEntries? handles fuel r
      return ((key, value) :: entries, r)
    | some .blockEnd => some ([], r.skip)
    | _ => none

def entryNode? (handles : TagHandles) : Nat → (line : Nat) → Reading → Option (Node × Reading)
  | 0, _, _ => none
  | fuel + 1, line, r => do
    let mark ← r.mark?
    if mark = .key ∨ mark = .value ∨ mark = .blockEnd then some (emptyNode line, r)
    else node? handles fuel .entry r

def flowItems? (handles : TagHandles) :
    Nat → (first : Bool) → Reading → Option (List Node × Reading)
  | 0, _, _ => none
  | fuel + 1, first, r => do
    let mark ← r.mark?
    if mark = .flowSequenceEnd then some ([], r.skip)
    else
      let r ← if first then some r else if mark = .flowEntry then some r.skip else none
      let mark ← r.mark?
      if mark = .flowSequenceEnd then some ([], r.skip)
      else
        let (item, r) ←
          if mark = .key then pairNode? handles fuel r.line r.skip
          else node? handles fuel .flow r
        let (items, r) ← flowItems? handles fuel false r
        return (item :: items, r)

/-- Reads a mapping of one entry that stands in brackets without braces, after the mark of its
key. -/
def pairNode? (handles : TagHandles) : Nat → (line : Nat) → Reading → Option (Node × Reading)
  | 0, _, _ => none
  | fuel + 1, line, r => do
    let mark ← r.mark?
    let (key, r) ←
      if mark = .value ∨ mark = .flowEntry ∨ mark = .flowSequenceEnd then
        some (emptyNode r.line, r.skip)
      else node? handles fuel .flow r
    let mark ← r.mark?
    let r' := if mark = .value then r.skip else r
    let next ← r'.mark?
    let (value, r) ←
      if mark ≠ .value ∨ next = .flowEntry ∨ next = .flowSequenceEnd then
        some (emptyNode r'.line, r')
      else node? handles fuel .flow r'
    return (.mapping mapTag [(key, value)] line, r)

def flowEntries? (handles : TagHandles) :
    Nat → (first : Bool) → Reading → Option (List (Node × Node) × Reading)
  | 0, _, _ => none
  | fuel + 1, first, r => do
    let mark ← r.mark?
    if mark = .flowMappingEnd then some ([], r.skip)
    else
      let r ← if first then some r else if mark = .flowEntry then some r.skip else none
      let mark ← r.mark?
      if mark = .flowMappingEnd then some ([], r.skip)
      else
        let (entry, r) ←
          if mark = .key then flowEntry? handles fuel r.skip
          else do
            let (key, r) ← node? handles fuel .flow r
            r.mark?.map fun _ => ((key, emptyNode r.line), r)
        let (entries, r) ← flowEntries? handles fuel false r
        return (entry :: entries, r)

def flowEntry? (handles : TagHandles) : Nat → Reading → Option ((Node × Node) × Reading)
  | 0, _ => none
  | fuel + 1, r => do
    let mark ← r.mark?
    let (key, r) ←
      if mark = .value ∨ mark = .flowEntry ∨ mark = .flowMappingEnd then some (emptyNode r.line, r)
      else node? handles fuel .flow r
    let mark ← r.mark?
    let r' := if mark = .value then r.skip else r
    let next ← r'.mark?
    let (value, r) ←
      if mark ≠ .value ∨ next = .flowEntry ∨ next = .flowMappingEnd then
        some (emptyNode r'.line, r')
      else node? handles fuel .flow r'
    return ((key, value), r)

end

/-- The first document of a stream: its root, if there is any, and its anchored nodes. -/
structure Tree where
  root : Option Node := none
  anchors : Anchors := {}
  deriving Repr

def directives? (version : Bool) (handles : TagHandles) :
    List Token → Option (TagHandles × List Token)
  | ⟨.version major minor, _⟩ :: rest =>
    if version ∨ major ≠ 1 ∨ minor ≠ 1 then none else directives? true handles rest
  | ⟨.tagHandle handle uri, _⟩ :: rest =>
    if (handles.lookup handle).isSome then none
    else directives? version (handles ++ [(handle, uri)]) rest
  | rest => some (handles ++ standardHandles, rest)

def Tree.ofTokens? (tokens : List Token) : Option Tree := do
  let depth := 4 * tokens.length + 4
  let finish := fun (read : Option (Node × Reading)) => do
    let (root, r) ← read
    let _ ← r.mark?
    return ({ root := some root, anchors := r.anchors } : Tree)
  match tokens.head?.map Token.mark with
  | none => none
  | some .streamEnd => some {}
  | some mark =>
    let (handles, rest) ← directives? false [] tokens
    if rest.length = tokens.length ∧ mark ≠ .documentStart then
      finish (node? handles depth .block { tokens })
    else
      match rest with
      | ⟨.documentStart, _⟩ :: content =>
        let r : Reading := { tokens := content }
        let mark ← r.mark?
        match mark with
        | .version _ _ | .tagHandle _ _ | .documentStart | .documentEnd | .streamEnd =>
          finish (some (emptyNode r.line, r))
        | _ => finish (node? handles depth .block r)
      | _ => none

def Tree.ofText? (t : Text) : Option Tree := Tree.ofTokens? (tokens (.ofText t))

end TableAsm.Yaml
