import TableAsm.Definition.Document
import TableAsm.Yaml.Glyph
import TableAsm.Yaml.Meaning
import TableAsm.Text.Rune

namespace TableAsm.Yaml

def Rune.isSpace (r : Rune) : Bool := r.code == 0x20

def Rune.isTab (r : Rune) : Bool := r.code == 0x09

def Rune.isLineEnd (r : Rune) : Bool :=
  r.code == 0x0a || r.code == 0x0d || r.code == 0x85 || r.code == 0x2028 || r.code == 0x2029

def Rune.isShown (r : Rune) : Bool :=
  r.code == 0x0a || (0x20 ≤ r.code && r.code ≤ 0x7e) || (0xa0 ≤ r.code && r.code ≤ 0xd7ff) ||
    (0xe000 ≤ r.code && r.code ≤ 0xfffd && r.code != 0xfeff)

def Rune.isAmong (characters : String) (r : Rune) : Bool :=
  characters.toList.any fun c => c.toNat == r.code

structure Traits where
  indicator : Bool := false
  lineEnd : Bool := false
  special : Bool := false
  tab : Bool := false
  spaceAtEnd : Bool := false
  looseEnd : Bool := false
  endThenSpace : Bool := false
  spaceThenEnd : Bool := false
  deriving DecidableEq, Repr

def Traits.add (previous : Option Rune) (r : Rune) (next : Option Rune) (t : Traits) : Traits :=
  let beforeBlank := (next.map fun n => Rune.isSpace n || Rune.isTab n).getD true
  let afterBlank := (previous.map fun p => Rune.isSpace p || Rune.isTab p || Rune.isLineEnd p).getD true
  let indicator :=
    if previous.isNone then
      Rune.isAmong "#,[]\x7b\x7d&*!|>'\"%@\x60" r || (Rune.isAmong "?:-" r && beforeBlank)
    else (Rune.isAmong ":" r && beforeBlank) || (Rune.isAmong "#" r && afterBlank)
  let atEnd := previous.isNone || next.isNone
  { indicator := t.indicator || indicator
    lineEnd := t.lineEnd || Rune.isLineEnd r
    special := t.special || (!Rune.isShown r && !Rune.isTab r)
    tab := t.tab || Rune.isTab r
    spaceAtEnd := t.spaceAtEnd || (Rune.isSpace r && next.isNone)
    looseEnd := t.looseEnd || (atEnd && (Rune.isSpace r || Rune.isLineEnd r))
    endThenSpace := t.endThenSpace || (Rune.isSpace r && (previous.map Rune.isLineEnd).getD false)
    spaceThenEnd := t.spaceThenEnd || (Rune.isLineEnd r && (previous.map Rune.isSpace).getD false) }

def Traits.addAll (previous : Option Rune) : List Rune → Traits → Traits
  | [], t => t
  | r :: rest, t => addAll (some r) rest (t.add previous r rest.head?)

def traits (rs : List Rune) : Traits :=
  let marker := rs.take 3
  let start := marker.length == 3 && (marker.all (·.code == 0x2d) || marker.all (·.code == 0x2e))
  Traits.addAll none rs { indicator := start }

namespace Traits

def plain (t : Traits) : Bool :=
  !(t.indicator || t.lineEnd || t.special || t.tab || t.looseEnd || t.endThenSpace || t.spaceThenEnd)

def quoted (t : Traits) : Bool := !(t.endThenSpace || t.spaceThenEnd || t.tab || t.special)

def literal (t : Traits) : Bool := !(t.spaceAtEnd || t.spaceThenEnd || t.special)

end Traits

def sixtyPlaces : Nat → Text → Bool
  | 0, _ => false
  | fuel + 1, t =>
    match Text.after? ":" t with
    | none => false
    | some digits =>
      let place := digits.takeWhile Text.isDigit
      let rest := digits.dropWhile Text.isDigit
      let fits := place.length == 1 || (place.length == 2 && place.headD 0 ≤ 0x35)
      let ended := rest.isEmpty ||
        (match Text.after? "." rest with
         | some fraction => fraction.all fun b => Text.isDigit b || b == 0x5f
         | none => false)
      fits && (ended || sixtyPlaces fuel rest)

def isSixties (t : Text) : Bool :=
  let digits := (Text.splitSign t).2
  Text.isDigit (digits.headD 0) &&
    sixtyPlaces t.length (digits.dropWhile fun b => Text.isDigit b || b == 0x5f)

def isOldTruth (t : Text) : Bool :=
  isOneOf ["y", "Y", "yes", "Yes", "YES", "on", "On", "ON", "n", "N", "no", "No", "NO", "off", "Off",
    "OFF"] t

def meansItself (t : Text) : Bool := plainTag t == strTag && !isSixties t && !isOldTruth t

def margin (n : Nat) : Text := List.replicate n Text.space

def indentedRunes (indent : Nat) (write : Rune → Text) : Bool → List Rune → Text
  | _, [] => []
  | atStart, r :: rest =>
    if Rune.isLineEnd r then write r ++ indentedRunes indent write true rest
    else
      (if atStart then margin indent else []) ++ write r ++ indentedRunes indent write false rest

def singleQuoted (indent : Nat) (rs : List Rune) : Text :=
  let write := fun (r : Rune) => if r.code = 0x27 then r.bytes ++ r.bytes else r.bytes
  "'" ++ indentedRunes indent write false rs ++ "'"

def escapeLetterOf? (code : Nat) : Option String :=
  match code with
  | 0x00 => some "0"
  | 0x07 => some "a"
  | 0x08 => some "b"
  | 0x09 => some "t"
  | 0x0a => some "n"
  | 0x0b => some "v"
  | 0x0c => some "f"
  | 0x0d => some "r"
  | 0x1b => some "e"
  | 0x22 => some "\""
  | 0x5c => some "\\"
  | 0x85 => some "N"
  | 0xa0 => some "_"
  | 0x2028 => some "L"
  | 0x2029 => some "P"
  | _ => none

def doubleQuotedRune (all : Bool) (r : Rune) : Text :=
  if !all ∧ Rune.isShown r ∧ !Rune.isLineEnd r ∧ r.code ≠ 0x22 ∧ r.code ≠ 0x5c then r.bytes
  else
    match escapeLetterOf? r.code with
    | some letter => "\\" ++ Text.ofString letter
    | none =>
      if r.code ≤ 0xff then "\\x" ++ Text.hexCapital 2 r.code
      else if r.code ≤ 0xffff then "\\u" ++ Text.hexCapital 4 r.code
      else "\\U" ++ Text.hexCapital 8 r.code

def doubleQuoted (rs : List Rune) : Text :=
  let marked := rs.head?.map Rune.code == some byteOrderMark.toNat
  "\"" ++ rs.flatMap (doubleQuotedRune marked) ++ "\""

/-- The marks of a literal text: the indentation where the text starts with white space, and what
becomes of the line ends at its end. -/
def literalMarks (rs : List Rune) : Text :=
  let start := (rs.head?.map fun r => Rune.isSpace r || Rune.isLineEnd r).getD false
  let endings := rs.reverse.takeWhile Rune.isLineEnd
  let chomp : Text :=
    if endings.isEmpty then "-"
    else if 1 < endings.length ∨ endings.length = rs.length then "+"
    else []
  let increment : Text := if start then "2" else []
  increment ++ chomp

def literal (indent : Nat) (rs : List Rune) : Text :=
  let ends := (rs.head?.map Rune.isLineEnd).getD false
  "|" ++ literalMarks rs ++ (if ends then [] else [Text.newline]) ++
    indentedRunes indent Rune.bytes true rs

def base64Line : Nat := 70

def foldedLines (width : Nat) : Nat → Text → Text
  | 0, _ => []
  | _ + 1, [] => []
  | fuel + 1, t => t.take width ++ Text.newline :: foldedLines width fuel (t.drop width)

def binary (indent : Nat) (t : Text) : Text :=
  let code := Text.base64 t
  let folded := foldedLines base64Line code.length code
  if code.length < base64Line then "!!binary " ++ code
  else "!!binary " ++ literal indent folded.runes

def scalar (indent : Nat) (t : Text) : Text :=
  let rs := t.runes
  let found := traits rs
  if !t.isValid then binary indent t
  else if t.contains Text.newline then
    if found.literal then literal indent rs else doubleQuoted rs
  else if !meansItself t then doubleQuoted rs
  else if found.plain then t
  else if found.quoted then singleQuoted indent rs
  else doubleQuoted rs

def ended (line : Text) : Text :=
  match line.runes.getLast? with
  | some r => if Rune.isLineEnd r then line else line ++ "\n"
  | none => "\n"

def entryText (e : FormatEntry) : Text :=
  ended ("  - mnemonic: " ++ scalar 6 e.mnemonic) ++ ended ("    fields: " ++ scalar 6 e.fields) ++
    ended ("    group: " ++ Text.decimal e.group.toNat) ++
    ended ("    opcode: " ++ Text.decimal e.opcode.toNat)

def listText {α : Type} (key : Text) (write : α → Text) (items : List α) : Text :=
  if items.isEmpty then key ++ ": []\n" else key ++ ":\n" ++ items.flatMap write

def written (d : Document) : Text :=
  ended ("name: " ++ scalar 2 d.name) ++
    listText "registers" (fun r => ended ("  - " ++ scalar 4 r)) d.registers ++
    listText "formats" entryText d.formats

end TableAsm.Yaml
