import TableAsm.Text.Rune
import TableAsm.Yaml.Scalar

namespace TableAsm.Yaml

inductive Mark where
  | streamStart
  | streamEnd
  | documentStart
  | documentEnd
  | version (major minor : Nat)
  | tagHandle (handle uri : Text)
  | blockSequence
  | blockMapping
  | blockEnd
  | flowSequence
  | flowSequenceEnd
  | flowMapping
  | flowMappingEnd
  | blockEntry
  | flowEntry
  | key
  | value
  | reference (name : Text)
  | anchor (name : Text)
  | tag (handle suffix : Text)
  | scalar (value : Text) (plain : Bool)
  deriving DecidableEq, Repr

structure Token where
  mark : Mark
  line : Nat
  deriving DecidableEq, Repr

def mayFollowAnchor (c : Char) : Bool :=
  isGap c || c == '?' || c == ':' || c == ',' || c == ']' || c == closeBrace || c == '%' ||
    c == '@' || c == graveAccent

def anchorName (gs : List Glyph) : Option (Text × List Glyph) :=
  let name := (gs.takeWhile fun g => isNameChar g.char).map Glyph.char
  let rest := gs.dropWhile fun g => isNameChar g.char
  if name.isEmpty ∨ !mayFollowAnchor (charAt rest 0) then none else some (Text.ofChars name, rest)

def isTagChar (c : Char) : Bool :=
  isNameChar c || (";/?:@&=+$,.!~*()[]".toList.contains c) || c == apostrophe

/-- Reads bytes given each as a percent sign and two digits, as many as the first of them says, or a
number of them that are left. They must be the form of a UTF-8 sequence. -/
def escapedBytes : (left : Option Nat) → List Glyph → Option (Text × List Glyph)
  | some 0, gs => some ([], gs)
  | left, p :: a :: b :: rest => do
    let high ← hexValue? a.char
    let low ← hexValue? b.char
    let byte := UInt8.ofNat (high * 16 + low)
    guard (p.char == '%')
    let more ←
      match left with
      | none =>
        if byte < 0x80 then some 0 else if byte < 0xc0 then none
        else if byte < 0xe0 then some 1 else if byte < 0xf0 then some 2
        else if byte < 0xf8 then some 3 else none
      | some n => if Rune.isContinuation byte then some (n - 1) else none
    let (text, rest) ← escapedBytes (some more) rest
    return (byte :: text, rest)
  | _, _ => none

def tagCharsFrom : Nat → List Glyph → Option (Text × List Glyph)
  | 0, _ => none
  | fuel + 1, gs =>
    if charAt gs 0 = '%' then do
      let (bytes, rest) ← escapedBytes none gs
      let (text, rest) ← tagCharsFrom fuel rest
      return (bytes ++ text, rest)
    else if isTagChar (charAt gs 0) then do
      let (text, rest) ← tagCharsFrom fuel (gs.drop 1)
      return (Text.ofChar (charAt gs 0) ++ text, rest)
    else some ([], gs)

def tagChars (gs : List Glyph) : Option (Text × List Glyph) :=
  let most := (gs.takeWhile fun g => isTagChar g.char || g.char == '%').length
  tagCharsFrom (most + 1) gs

def tagHandle (gs : List Glyph) : Option (List Char × List Glyph) :=
  if charAt gs 0 ≠ '!' then none
  else
    let gs := gs.drop 1
    let name := (gs.takeWhile fun g => isNameChar g.char).map Glyph.char
    let rest := gs.dropWhile fun g => isNameChar g.char
    if charAt rest 0 = '!' then some ('!' :: (name ++ ['!']), rest.drop 1)
    else some ('!' :: name, rest)

/-- Reads a tag into its handle and suffix. A verbatim tag, and the tag that is one exclamation
mark, have an empty handle. -/
def tagToken (gs : List Glyph) : Option (Mark × List Glyph) := do
  let (mark, rest) ←
    if charAt gs 1 = '<' then do
      let (suffix, rest) ← tagChars (gs.drop 2)
      if suffix.isEmpty ∨ charAt rest 0 ≠ '>' then none
      else some (Mark.tag [] suffix, rest.drop 1)
    else do
      let (handle, rest) ← tagHandle gs
      let (suffix, after) ← tagChars rest
      if 1 < handle.length ∧ handle.getLast? = some '!' then
        if suffix.isEmpty then none else some (Mark.tag (Text.ofChars handle) suffix, after)
      else
        let suffix := Text.ofChars (handle.drop 1) ++ suffix
        if suffix.isEmpty then some (Mark.tag [] "!", after) else some (Mark.tag "!" suffix, after)
  if isGap (charAt rest 0) then some (mark, rest) else none

def versionNumber (gs : List Glyph) : Option (Nat × List Glyph) :=
  let digits := (gs.takeWhile fun g => g.char.isDigit).map Glyph.char
  if digits.isEmpty ∨ 2 < digits.length then none
  else
    some (digits.foldl (fun n c => n * 10 + (c.toNat - 0x30)) 0,
      gs.dropWhile fun g => g.char.isDigit)

def dropBlanks (gs : List Glyph) : List Glyph := gs.dropWhile fun g => isBlank g.char

def directiveToken (gs : List Glyph) : Option (Mark × List Glyph) := do
  let name := (gs.takeWhile fun g => isNameChar g.char).map Glyph.char
  let rest := gs.dropWhile fun g => isNameChar g.char
  guard (isGap (charAt rest 0))
  let rest := dropBlanks rest
  let (mark, rest) ←
    if name = "YAML".toList then do
      let (major, rest) ← versionNumber rest
      if charAt rest 0 ≠ '.' then none
      else do
        let (minor, rest) ← versionNumber (rest.drop 1)
        some (Mark.version major minor, rest)
    else if name = "TAG".toList then do
      let (handle, rest) ← tagHandle rest
      if (handle.getLast? ≠ some '!') ∨ !isBlank (charAt rest 0) then none
      else do
        let (uri, rest) ← tagChars (dropBlanks rest)
        if uri.isEmpty ∨ !isGap (charAt rest 0) then none
        else some (Mark.tagHandle (Text.ofChars handle) uri, rest)
    else none
  let rest ← lineEnd? rest
  return (mark, rest)

end TableAsm.Yaml
