import TableAsm.Yaml.Glyph

namespace TableAsm.Yaml

/-- White space met inside a scalar that may turn out to be inside or after it. Characters are kept
last first. -/
inductive Gap where
  | none
  | blanks (cs : List Char)
  | breaks (first : Option Char) (more : List Char)
  deriving DecidableEq, Repr

namespace Gap

def crossesLine : Gap → Bool
  | breaks _ _ => true
  | _ => false

def addBlank (c : Char) : Gap → Gap
  | none => blanks [c]
  | blanks cs => blanks (c :: cs)
  | breaks first more => breaks first more

def addBreak (c : Char) : Gap → Gap
  | breaks first more => breaks first (c :: more)
  | _ => breaks (some c) []

/-- Puts the gap onto a value, both last first. -/
def onto (value : List Char) : Gap → List Char
  | none => value
  | blanks cs => cs ++ value
  | breaks Option.none more => more ++ value
  | breaks (some c) more =>
    if c = lineFeed then (if more.isEmpty then ' ' :: value else more ++ value)
    else more ++ c :: value

end Gap

def endsFlowPlain (c : Char) : Bool :=
  c == ',' || c == '?' || c == '[' || c == ']' || c == openBrace || c == closeBrace

/-- Does a plain scalar end in front of a glyph that is not white space? After a gap a line that
starts in front of column `margin`, a marker of the document and a comment end it; anywhere a colon
before a gap does, and what ends scalars inside brackets or braces. -/
def endsPlain (inFlow : Bool) (margin : Nat) (gap : Gap) (g : Glyph) (rest : List Glyph) : Bool :=
  isEnd g.char ||
    (gap != .none && ((!inFlow && g.column < margin) || atAnyMarker (g :: rest) || g.char == '#')) ||
    (g.char == ':' && isGap (charAt rest 0)) || (inFlow && endsFlowPlain g.char)

/-- Reads on in a plain scalar of which `value` and then `gap` have been read. Continuation lines
start at column `margin` or after it. The answer tells whether a line ended after the scalar. -/
def plainFrom (inFlow : Bool) (margin : Nat) (value : List Char) (gap : Gap) :
    List Glyph → Option (List Char × Bool × List Glyph)
  | [] => some (value.reverse, gap.crossesLine, [])
  | g :: rest =>
    if isBlank g.char then
      if gap.crossesLine ∧ g.column < margin ∧ g.char = tab then none
      else plainFrom inFlow margin value (gap.addBlank g.char) rest
    else if isBreak g.char then plainFrom inFlow margin value (gap.addBreak g.char) rest
    else if endsPlain inFlow margin gap g rest then
      some (value.reverse, gap.crossesLine, g :: rest)
    else plainFrom inFlow margin (g.char :: gap.onto value) .none rest

def singleQuotedFrom (value : List Char) (gap : Gap) :
    List Glyph → Option (List Char × List Glyph)
  | [] => none
  | g :: rest =>
    if isEnd g.char ∨ atAnyMarker (g :: rest) then none
    else if isBlank g.char then singleQuotedFrom value (gap.addBlank g.char) rest
    else if isBreak g.char then singleQuotedFrom value (gap.addBreak g.char) rest
    else if g.char = apostrophe then
      match rest with
      | next :: more =>
        if next.char = apostrophe then
          singleQuotedFrom (apostrophe :: gap.onto value) .none more
        else some ((gap.onto value).reverse, next :: more)
      | [] => some ((gap.onto value).reverse, [])
    else singleQuotedFrom (g.char :: gap.onto value) .none rest

def escaped? (c : Char) : Option Char :=
  if c = tab then some tab
  else if c = quotationMark ∨ c = apostrophe ∨ c = backslash ∨ c = ' ' then some c
  else
    match c with
    | '0' => some (Char.ofNat 0)
    | 'a' => some (Char.ofNat 0x07)
    | 'b' => some (Char.ofNat 0x08)
    | 't' => some tab
    | 'n' => some lineFeed
    | 'v' => some (Char.ofNat 0x0b)
    | 'f' => some (Char.ofNat 0x0c)
    | 'r' => some (Char.ofNat 0x0d)
    | 'e' => some (Char.ofNat 0x1b)
    | 'N' => some (Char.ofNat 0x85)
    | '_' => some (Char.ofNat 0xa0)
    | 'L' => some (Char.ofNat 0x2028)
    | 'P' => some (Char.ofNat 0x2029)
    | _ => none

def codeLength? (c : Char) : Option Nat :=
  match c with
  | 'x' => some 2
  | 'u' => some 4
  | 'U' => some 8
  | _ => none

def hexValue? (c : Char) : Option Nat :=
  if c.isDigit then some (c.toNat - 0x30)
  else if 'a' ≤ c ∧ c ≤ 'f' then some (c.toNat - 0x57)
  else if 'A' ≤ c ∧ c ≤ 'F' then some (c.toNat - 0x37)
  else none

/-- Where a reader of a double-quoted scalar is: in the text, after a backslash, or in a code of
which some digits are left. -/
inductive QuotedState where
  | text (gap : Gap)
  | escape
  | code (left value : Nat)
  deriving DecidableEq, Repr

def doubleQuotedFrom (value : List Char) :
    QuotedState → List Glyph → Option (List Char × List Glyph)
  | _, [] => none
  | .text gap, g :: rest =>
    if isEnd g.char ∨ atAnyMarker (g :: rest) then none
    else if isBlank g.char then doubleQuotedFrom value (.text (gap.addBlank g.char)) rest
    else if isBreak g.char then doubleQuotedFrom value (.text (gap.addBreak g.char)) rest
    else if g.char = quotationMark then some ((gap.onto value).reverse, rest)
    else if g.char = backslash then doubleQuotedFrom (gap.onto value) .escape rest
    else doubleQuotedFrom (g.char :: gap.onto value) (.text .none) rest
  | .escape, g :: rest =>
    if isBreak g.char then doubleQuotedFrom value (.text (.breaks none [])) rest
    else
      match escaped? g.char, codeLength? g.char with
      | some c, _ => doubleQuotedFrom (c :: value) (.text .none) rest
      | none, some n => doubleQuotedFrom value (.code n 0) rest
      | none, none => none
  | .code left code, g :: rest =>
    match hexValue? g.char with
    | none => none
    | some d =>
      let code := code * 16 + d
      if 1 < left then doubleQuotedFrom value (.code (left - 1) code) rest
      else if Nat.isValidChar code then doubleQuotedFrom (Char.ofNat code :: value) (.text .none) rest
      else none

inductive Chomping where
  | strip
  | clip
  | keep
  deriving DecidableEq, Repr

structure BlockHeader where
  literal : Bool
  chomping : Chomping := .clip
  /-- The indentation below the surrounding node, where it is given. -/
  increment : Option Nat := none
  deriving DecidableEq, Repr

/-- The part of a block scalar that has been read, last first. -/
structure BlockText where
  value : List Char := []
  lineBreak : Option Char := none
  emptyLines : List Char := []
  indented : Bool := false
  deriving DecidableEq, Repr

/-- Starts a line at its first character: the break before it is kept, or folded in a folded
scalar when neither line starts with a blank. -/
def BlockText.startLine (literal : Bool) (c : Char) (b : BlockText) : BlockText :=
  let value :=
    match b.lineBreak with
    | none => b.value
    | some brk =>
      if !literal ∧ !b.indented ∧ !isBlank c ∧ brk = lineFeed then
        (if b.emptyLines.isEmpty then ' ' :: b.value else b.value)
      else brk :: b.value
  { value := c :: (b.emptyLines ++ value), indented := isBlank c }

def BlockText.finish (chomping : Chomping) (b : BlockText) : List Char :=
  let ended := b.lineBreak.toList ++ b.value
  match chomping with
  | .strip => b.value.reverse
  | .clip => ended.reverse
  | .keep => (b.emptyLines ++ ended).reverse

def blockFrom (header : BlockHeader) (margin : Nat) (inLine : Bool) (b : BlockText) :
    List Glyph → Option (List Char × List Glyph)
  | [] => some (b.finish header.chomping, [])
  | g :: rest =>
    if inLine then
      if isEnd g.char then some (b.finish header.chomping, g :: rest)
      else if isBreak g.char then
        blockFrom header margin false { b with lineBreak := some g.char } rest
      else blockFrom header margin true { b with value := g.char :: b.value } rest
    else if g.char = ' ' ∧ g.column < margin then blockFrom header margin false b rest
    else if g.char = tab ∧ g.column < margin then none
    else if isBreak g.char then
      blockFrom header margin false { b with emptyLines := g.char :: b.emptyLines } rest
    else if g.column = margin ∧ !isEnd g.char then
      blockFrom header margin true (b.startLine header.literal g.char) rest
    else some (b.finish header.chomping, g :: rest)

/-- The largest column that the white space in front of a block scalar reaches; none when a tab
stands in it. -/
def leadingColumn? (most : Nat) : List Glyph → Option Nat
  | [] => some most
  | g :: rest =>
    let most := max most g.column
    if g.char = ' ' ∨ isBreak g.char then leadingColumn? most rest
    else if g.char = tab then none
    else some most

def blockMarks (literal : Bool) (gs : List Glyph) : Option (BlockHeader × List Glyph) :=
  let chomping? := fun (c : Char) =>
    if c = '+' then some Chomping.keep else if c = '-' then some Chomping.strip else none
  let first := charAt gs 0
  let second := charAt gs 1
  match chomping? first with
  | some chomping =>
    if second = '0' then none
    else if second.isDigit then
      some ({ literal, chomping, increment := some (second.toNat - 0x30) }, gs.drop 2)
    else some ({ literal, chomping }, gs.drop 1)
  | none =>
    if first = '0' then none
    else if first.isDigit then
      let increment := some (first.toNat - 0x30)
      match chomping? second with
      | some chomping => some ({ literal, chomping, increment }, gs.drop 2)
      | none => some ({ literal, increment }, gs.drop 1)
    else some ({ literal }, gs)

def lineEnd? (gs : List Glyph) : Option (List Glyph) :=
  let gs := gs.dropWhile fun g => isBlank g.char
  let gs := if charAt gs 0 = '#' then gs.dropWhile fun g => !isBreak g.char && !isEnd g.char else gs
  if isBreak (charAt gs 0) then some (gs.drop 1)
  else if isEnd (charAt gs 0) then some gs
  else none

/-- Reads a block scalar after its indicator; `base` is the column at which lines inside the
surrounding node start at least. -/
def blockScalar (literal : Bool) (base : Nat) (gs : List Glyph) :
    Option (List Char × List Glyph) := do
  let (header, gs) ← blockMarks literal gs
  let gs ← lineEnd? gs
  let margin ←
    match header.increment with
    | some n => some (base - 1 + n)
    | none => (leadingColumn? 0 gs).map fun most => max most (max base 1)
  blockFrom header margin false {} gs

end TableAsm.Yaml
