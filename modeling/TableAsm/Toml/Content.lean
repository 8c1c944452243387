import TableAsm.Toml.Store

namespace TableAsm.Toml

def word (cs : List Char) : List Char := cs.takeWhile Char.isAlpha

def simpleValue? (cs : List Char) : Option (Item × List Char) :=
  let first := cs.headD ' '
  if first = quotationMark ∨ first = apostrophe then
    (string? cs).map fun (s, rest) => (.text (Text.ofChars s), rest)
  else
    let unsigned := if first = '+' ∨ first = '-' then cs.drop 1 else cs
    let special := ["inf".toList, "nan".toList].contains (unsigned.take 3)
    if special then some (.other, unsigned.drop 3)
    else if word cs = "true".toList ∨ word cs = "false".toList then
      some (.other, cs.dropWhile Char.isAlpha)
    else
      match numeral? cs with
      | some (.integer token, rest) => (integer? (Text.ofChars token)).map fun n => (.integer n, rest)
      | some (.float token, rest) => if isFloat (Text.ofChars token) then some (.other, rest) else none
      | some (.moment token, rest) => if isMoment (Text.ofChars token) then some (.other, rest) else none
      | none => none

mutual

/-- Reads the value of a key; `inArray` tells that it is an element of that key's array. The number
bounds the depth of the reading. -/
def value? : Nat → (key : Text) → (inArray : Bool) → Store → List Char →
    Option (Item × Store × List Char)
  | 0, _, _, _, _ => none
  | fuel + 1, key, inArray, s, cs =>
    match dropBlanks cs with
    | '[' :: rest => do
      let s := s.noteKind key true
      let (items, s, rest) ← elements? fuel key s rest
      return (.array items, s, rest)
    | '\x7b' :: rest => do
      let context := s.context
      let path := context ++ [key]
      let s ← (s.noteImplicit path true).enter path inArray
      let (entries, s, rest) ← members? fuel path true [] s rest
      return (.table entries, { s with context }, rest)
    | rest => (simpleValue? rest).map fun (item, rest) => (item, s, rest)

def elements? : Nat → (key : Text) → Store → List Char → Option (List Item × Store × List Char)
  | 0, _, _, _ => none
  | fuel + 1, key, s, cs =>
    match dropLines false cs with
    | ']' :: rest => some ([], s, rest)
    | rest => do
      let (item, s, rest) ← value? fuel key true s rest
      match dropLines false rest with
      | ',' :: rest => do
        let (items, s, rest) ← elements? fuel key s rest
        return (item :: items, s, rest)
      | ']' :: rest => some ([item], s, rest)
      | _ => none

/-- Reads the members of a table in braces, up to its closing brace. Before the first, and only
there, the table may end. -/
def members? : Nat → (path : Key) → (first : Bool) → Table → Store → List Char →
    Option (Table × Store × List Char)
  | 0, _, _, _, _, _ => none
  | fuel + 1, path, first, table, s, cs =>
    match dropBlanks cs with
    | '\x7d' :: rest => if first then some (table, s, rest) else none
    | rest => do
      let (table, s, rest) ← member? fuel table { s with context := path } rest
      match dropBlanks rest with
      | ',' :: rest => members? fuel path false table s rest
      | '\x7d' :: rest => some (table, s, rest)
      | _ => none

def member? : Nat → Table → Store → List Char → Option (Table × Store × List Char)
  | 0, _, _, _ => none
  | fuel + 1, table, s, cs => do
    let (key, rest) ← key? fuel cs
    let name ← key.getLast?
    let s ← s.enterParts key.dropLast
    let s := s.noteKey (s.context ++ [name])
    match rest with
    | '=' :: rest => do
      let path := s.context
      let (item, s, rest) ← value? fuel name false s rest
      let s ← { s with context := path }.setValue name item
      let isArray :=
        match item with
        | .array _ => true
        | _ => false
      let s := s.noteKind name isArray
      let table ← table.putBelow name item key.dropLast
      return (table, s, rest)
    | _ => none

end

/-- Reads a table header after its opening brackets, of which there are one or two. The number
bounds the parts of its key. -/
def header? (size : Nat) (several : Bool) (s : Store) (cs : List Char) :
    Option (Store × List Char) := do
  let (key, rest) ← key? size cs
  let closing := if several then [']', ']'] else [']']
  if rest.take closing.length ≠ closing then none
  else
    let s ← s.enter key several
    return ((s.noteKind [] false).noteKey key, rest.drop closing.length)

/-- Reads the lines of a document of at most `size` characters. The other number bounds their
count. -/
def lines? (size : Nat) : Nat → Store → List Char → Option Store
  | 0, _, _ => none
  | fuel + 1, s, cs =>
    match dropLines false cs with
    | [] => some s
    | '[' :: '[' :: rest => do
      let (s, rest) ← header? size true s rest
      lines? size fuel s (← lineEnd? rest)
    | '[' :: rest => do
      let (s, rest) ← header? size false s rest
      lines? size fuel s (← lineEnd? rest)
    | rest => do
      let context := s.context
      let (_, s, rest) ← member? (4 * size + 4) [] s rest
      lines? size fuel { s with context } (← lineEnd? rest)

def content? (t : Text) : Option Store := do
  let cs ← characters? t
  lines? cs.length (cs.length + 1) {} cs

end TableAsm.Toml
