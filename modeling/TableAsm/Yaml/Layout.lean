import TableAsm.Yaml.Lookahead
import TableAsm.Yaml.Token

/-!
The layout of a YAML document: its glyphs as tokens. Indentation opens and closes block collections,
and whether a node is a key is known only when the colon after it is met, so the marks of a key and
of its mapping are put in front of it then. A token is handed on once it cannot become a key and two
more tokens stand after it; what is handed on is not changed any more.
-/
namespace TableAsm.Yaml

structure KeyCandidate where
  number : Nat
  level : Nat := 0
  possible : Bool := false
  required : Bool := false
  line : Nat := 0
  column : Nat := 0
  index : Nat := 0
  deriving DecidableEq, Repr

structure Layout where
  window : Window
  /-- The tokens, last first. -/
  tokens : List Token := [⟨.streamStart, 0⟩]
  count : Nat := 1
  handed : Nat := 0
  /-- The columns of the open block collections, innermost first. -/
  margins : List Nat := []
  /-- The candidate of each open level of brackets and braces, innermost first; the last is that of
  the block level. -/
  candidates : List KeyCandidate := [{ number := 0 }]
  /-- The numbers of tokens that wait for a candidate, with the level of the candidate. -/
  waits : List (Nat × Nat) := []
  keyAllowed : Bool := true
  deriving DecidableEq, Repr

namespace Layout

def level (l : Layout) : Nat :=
  match l.candidates with
  | k :: _ => k.level
  | [] => 0

def inFlow (l : Layout) : Bool := 0 < l.level

def inside (l : Layout) : Nat :=
  match l.margins with
  | [] => 0
  | m :: _ => m + 1

def deepest : Nat := 10000

def isTooDeep (l : Layout) : Bool := deepest < l.margins.length || deepest < l.level

def add (mark : Mark) (line : Nat) (l : Layout) : Layout :=
  { l with tokens := ⟨mark, line⟩ :: l.tokens, count := l.count + 1 }

/-- Adds a token so that `number` tokens stand in front of it, or at the end when that place has been
handed on. -/
def insert (number : Nat) (mark : Mark) (line : Nat) (l : Layout) : Layout :=
  if number < l.handed then l.add mark line
  else
    let after := l.tokens.take (l.count - number)
    let before := l.tokens.drop (l.count - number)
    { l with tokens := after ++ ⟨mark, line⟩ :: before, count := l.count + 1 }

/-- Opens a block collection at a column unless one is open there; `number` tokens stand in front
of it. -/
def openBlock (column number : Nat) (mark : Mark) (line : Nat) (l : Layout) : Layout :=
  if l.inFlow ∨ column < l.inside then l
  else { l.insert number mark line with margins := column :: l.margins }

def closeBlocks (column : Option Nat) (line : Nat) (l : Layout) : Layout :=
  if l.inFlow then l
  else
    let isOpen := fun m => (column.map fun c => decide (c < m)).getD true
    let closed := l.margins.takeWhile isOpen
    closed.foldl (fun l _ => l.add .blockEnd line) { l with margins := l.margins.dropWhile isOpen }

def release (number : Nat) (l : Layout) : Layout :=
  { l with waits := l.waits.filter fun wait => wait.1 != number }

def dropCandidate (l : Layout) : Option Layout :=
  match l.candidates with
  | k :: rest =>
    if !k.possible then some l
    else if k.required then none
    else some ({ l with candidates := { k with possible := false } :: rest }.release k.number)
  | [] => some l

def noteCandidate (g : Glyph) (l : Layout) : Option Layout :=
  if !l.keyAllowed then some l
  else do
    let l ← l.dropCandidate
    let candidate : KeyCandidate :=
      { number := l.count, level := l.level, possible := true
        required := !l.inFlow && l.margins.head? == some g.column
        line := g.line, column := g.column, index := g.index }
    return { l with
      candidates := candidate :: l.candidates.drop 1, waits := (l.count, l.level) :: l.waits }

end Layout

def keyReach : Nat := 1024

def KeyCandidate.reaches (g : Glyph) (k : KeyCandidate) : Bool :=
  !(k.line < g.line || k.index + keyReach < g.index)

namespace Layout

/-- Hands on tokens, at a place, while they need not wait. The answer tells whether reading may go
on: it may not when a token waited for a key that was required and is not there. At the end of the
document nothing needs to stand after a token. -/
def handOn (gs : List Glyph) (ended : Bool) : Nat → Layout → Layout × Bool
  | 0, l => (l, true)
  | waiting + 1, l =>
    let passed := fun (l : Layout) =>
      handOn gs ended waiting
        { l with handed := l.handed + 1, waits := l.waits.filter fun wait => l.handed < wait.1 }
    if !ended ∧ l.count < l.handed + 3 then (l, true)
    else
      match l.waits.lookup l.handed, gs with
      | some level, g :: _ =>
        let inner := l.level - level
        match l.candidates[inner]? with
        | some k =>
          if !k.possible then passed l
          else if k.reaches g then (l, true)
          else if k.required then (l, false)
          else passed { l with candidates := l.candidates.set inner { k with possible := false } }
        | none => passed l
      | _, _ => passed l

def handedTokens (l : Layout) : List Token := l.tokens.reverse.take l.handed

end Layout

def commentReach : Nat := 512

/-- The glyphs at the end of the last of the comment lines that start here. Comment lines may be
divided by empty lines, and each may be indented by any blanks; the two Unicode separators are not
looked past. The number bounds how many there are. -/
def pastComments (w : Window) (gs : List Glyph) : Nat → Option (Window × List Glyph)
  | 0 => none
  | lines + 1 => do
    let line := gs.dropWhile fun g => !isBreak g.char && !isEnd g.char
    let w ← w.walkLines gs line
    let near := line.take commentReach
    let blank := near.takeWhile fun g => isBlank g.char || g.char == lineFeed
    let w ← w.ask (max 2 (min (blank.length + 1) commentReach)) line
    let next := line.drop blank.length
    if !blank.isEmpty ∧ blank.length < commentReach ∧ charAt next 0 = '#' then
      let w ← w.walkLines line next
      pastComments w next lines
    else some (w, line)

def pastAny : List Glyph → List Glyph
  | [] => []
  | g :: rest =>
    if isEnd g.char then [{ g with column := g.column + 1, index := g.index + 1 }]
    else if !isBreak g.char then rest
    else if (rest.head?.map Glyph.index) == some (g.index + 2) then
      { g with column := g.column + 1, index := g.index + 1 } :: rest
    else
      rest.map fun h =>
        { h with line := h.line - 1, column := if h.line = g.line + 1 then h.column + 1 else h.column }

/-- The glyphs from the next token on, and whether a key may start there. Tabs are passed over only
where no key may start. While the loaded part starts with a byte order mark, the first character of
a line is passed over. The number bounds how many lines there are. -/
def toToken (inFlow keyAllowed : Bool) (w : Window) (gs : List Glyph) :
    Nat → Option (Window × List Glyph × Bool)
  | 0 => none
  | lines + 1 => do
    let w ← w.ask 1 gs
    let start := if w.marked ∧ (gs.head?.map Glyph.column) = some 0 then pastAny gs else gs
    let shown := start.dropWhile fun g =>
      g.char == ' ' || ((inFlow || !keyAllowed) && g.char == tab)
    let w ← w.walkLines start shown
    let (w, gs) ← if charAt shown 0 = '#' then pastComments w shown lines else some (w, shown)
    match gs with
    | [] => none
    | g :: rest =>
      if isBreak g.char then do
        let w ← w.ask 2 gs
        toToken inFlow (keyAllowed || !inFlow) w rest lines
      else some (w, gs, keyAllowed)

def pastLineComment (w : Window) (gs : List Glyph) : Option (Window × List Glyph) := do
  let blanks := (gs.take commentReach).takeWhile fun g => isBlank g.char
  if blanks.length = commentReach then
    let w ← w.ask commentReach gs
    return (w, gs)
  else
    let w ← w.ask (blanks.length + 1) gs
    let ahead := gs.drop blanks.length
    if charAt ahead 0 = '#' then
      let rest := ahead.dropWhile fun g => !isBreak g.char && !isEnd g.char
      let w ← w.walkLines gs rest
      return (w, rest)
    else return (w, gs)

def startsPlain (c : Char) : Bool :=
  !isGap c && !("-?:,[]#&*!|>%@".toList.contains c) && c != openBrace && c != closeBrace &&
    c != apostrophe && c != quotationMark && c != graveAccent

namespace Layout

def addNode (g : Glyph) (l : Layout) (node : Option (Mark × List Glyph)) :
    Option (Layout × List Glyph) := do
  let l ← l.noteCandidate g
  let (mark, rest) ← node
  return ({ l with keyAllowed := false }.add mark g.line, rest)

def loading (l : Layout) (w : Option Window) : Option Layout := w.map fun window => { l with window }

def addIndicator (mark : Mark) (g : Glyph) (l : Layout) : Option Layout := do
  let l ← l.dropCandidate
  return { l with keyAllowed := mark != Mark.key || !l.inFlow }.add mark g.line

def addOpening (collection mark : Mark) (g : Glyph) (l : Layout) : Option Layout :=
  if l.inFlow then l.addIndicator mark g
  else if !l.keyAllowed then none
  else (l.openBlock g.column l.count collection g.line).addIndicator mark g

def addComplexValue (g : Glyph) (l : Layout) : Option Layout :=
  if l.inFlow then some ({ l with keyAllowed := false }.add .value g.line)
  else if !l.keyAllowed then none
  else
    some ({ l.openBlock g.column l.count .blockMapping g.line with keyAllowed := true }.add
      .value g.line)

def addValue (g : Glyph) (l : Layout) : Option Layout :=
  match l.candidates with
  | k :: others =>
    let given := { l with candidates := { k with possible := false } :: others }
    if !k.possible then l.addComplexValue g
    else if k.reaches g then
      let l := (given.insert k.number .key k.line).openBlock k.column k.number .blockMapping k.line
      some ({ l.release k.number with keyAllowed := false }.add .value g.line)
    else if k.required then none
    else given.addComplexValue g
  | [] => l.addComplexValue g

/-- Reads an opening bracket or brace. The new level has the number of the token itself until a
candidate is noted there. -/
def addFlowStart (mark : Mark) (g : Glyph) (l : Layout) : Option Layout := do
  let l ← l.noteCandidate g
  let candidates := { number := l.count, level := l.level + 1 } :: l.candidates
  return { l with candidates, keyAllowed := true }.add mark g.line

/-- Reads a closing bracket or brace. The token of its level's last candidate waits no longer; that
is the opening one when none was noted there. -/
def addFlowEnd (mark : Mark) (g : Glyph) (l : Layout) : Option Layout := do
  let l ← l.dropCandidate
  let left :=
    match l.candidates with
    | k :: others => if l.inFlow then { l with candidates := others }.release k.number else l
    | [] => l
  return { left with keyAllowed := false }.add mark g.line

def addMarker (mark : Mark) (g : Glyph) (l : Layout) : Option Layout := do
  let l ← (l.closeBlocks none g.line).dropCandidate
  return { l with keyAllowed := false }.add mark g.line

def addToken (g : Glyph) (rest : List Glyph) (l : Layout) : Option (Layout × Bool × List Glyph) :=
  let node := fun (r : Option (Mark × List Glyph)) (look : List Glyph → Option Window) => do
    let (l, rest) ← l.addNode g r
    let l ← l.loading (look rest)
    return (l, false, rest)
  let single := fun (r : Option Layout) => r.map fun l => (l, false, rest)
  let blockText := fun (literal : Bool) => do
    let l ← l.dropCandidate
    let (value, after) ← blockScalar literal l.inside rest
    let l ← l.loading (l.window.walkLines rest after)
    return ({ l with keyAllowed := true }.add (.scalar (Text.ofChars value) false) g.line, true, after)
  let nextIsGap := isGap (charAt rest 0)
  let c := g.char
  if c = '[' then single (l.addFlowStart .flowSequence g)
  else if c = openBrace then single (l.addFlowStart .flowMapping g)
  else if c = ']' then single (l.addFlowEnd .flowSequenceEnd g)
  else if c = closeBrace then single (l.addFlowEnd .flowMappingEnd g)
  else if c = ',' then single (l.addIndicator .flowEntry g)
  else if c = '-' ∧ nextIsGap then single (l.addOpening .blockSequence .blockEntry g)
  else if c = '?' ∧ (l.inFlow ∨ nextIsGap) then single (l.addOpening .blockMapping .key g)
  else if c = ':' ∧ (l.inFlow ∨ nextIsGap) then single (l.addValue g)
  else if c = '*' then
    node ((anchorName rest).map fun (name, rest) => (.reference name, rest)) (l.window.walkLines rest)
  else if c = '&' then
    node ((anchorName rest).map fun (name, rest) => (.anchor name, rest)) (l.window.walkLines rest)
  else if c = '!' then node (tagToken (g :: rest)) (l.window.walkTag rest)
  else if c = '|' ∧ !l.inFlow then blockText true
  else if c = '>' ∧ !l.inFlow then blockText false
  else if c = apostrophe then
    node ((singleQuotedFrom [] .none rest).map fun (v, rest) => (.scalar (Text.ofChars v) false, rest))
      (l.window.walkQuoted false rest)
  else if c = quotationMark then
    node ((doubleQuotedFrom [] (.text .none) rest).map fun (v, rest) =>
      (.scalar (Text.ofChars v) false, rest)) (l.window.walkQuoted true rest)
  else if startsPlain c ∨ (c = '-' ∧ !isBlank (charAt rest 0)) ∨
      (!l.inFlow ∧ (c = '?' ∨ c = ':') ∧ !nextIsGap) then do
    let (value, crossed, after) ← plainFrom l.inFlow l.inside [] .none (g :: rest)
    let window := l.window.walkPlain l.inFlow l.inside (g :: rest) after
    let (l, after) ← l.addNode g (some (.scalar (Text.ofChars value) true, after))
    let l ← l.loading window
    return ({ l with keyAllowed := crossed }, crossed, after)
  else none

/-- Reads up to and including the next token. The answer tells whether the document goes on. The
number bounds how many lines there are. -/
def next (lines : Nat) (l : Layout) (gs : List Glyph) : Option (Layout × Bool × List Glyph) := do
  let (w, gs, keyAllowed) ← toToken l.inFlow l.keyAllowed l.window gs lines
  let w ← w.ask 4 gs
  match gs with
  | [] => none
  | g :: rest =>
    let l := { l with keyAllowed, window := w }.closeBlocks (some g.column) g.line
    if isEnd g.char then do
      -- The document ends on a line of its own.
      let g := if g.column = 0 then g else { g with line := g.line + 1, column := 0 }
      let l ← l.addMarker .streamEnd g
      return (l, false, [g])
    else if g.column = 0 ∧ g.char = '%' then do
      let l ← (l.closeBlocks none g.line).dropCandidate
      let (mark, after) ← directiveToken rest
      let l ← l.loading (w.walkTag rest after)
      return ({ l with keyAllowed := false }.add mark g.line, true, after)
    else if atMarker '-' gs then do
      let l ← l.addMarker .documentStart g
      return (l, true, gs.drop 3)
    else if atMarker '.' gs then do
      let l ← l.addMarker .documentEnd g
      return (l, true, gs.drop 3)
    else do
      let (l, crossed, rest) ← l.addToken g rest
      if l.isTooDeep then failure
      if crossed || (l.tokens.head?.map Token.mark) == some .blockEntry then return (l, true, rest)
      let (w, rest) ← pastLineComment l.window rest
      return ({ l with window := w }, true, rest)

/-- The tokens that are handed on from a place on, as far as they can be read. The numbers bound how
many lines and tokens there are. -/
def tokensFrom (lines : Nat) : Nat → Layout → List Glyph → List Token
  | 0, l, _ => l.handedTokens
  | fuel + 1, l, gs =>
    match l.next lines gs with
    | none => l.handedTokens
    | some (l, goesOn, rest) =>
      let (l, sound) := l.handOn rest (!goesOn) (l.count - l.handed)
      if goesOn ∧ sound then tokensFrom lines fuel l rest else l.handedTokens

end Layout

/-- The tokens of a document, as far as they can be read. Those of a document that can be read
completely end with the end of the stream. -/
def tokens (s : Source) : List Token :=
  let lines := s.glyphs.length + 2
  (({ window := .ofSource s } : Layout).tokensFrom lines lines s.glyphs).drop 1

end TableAsm.Yaml
