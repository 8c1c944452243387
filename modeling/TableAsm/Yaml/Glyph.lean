import TableAsm.Text.Character

namespace TableAsm.Yaml

/-- A character and where it stands; lines and columns count from zero. -/
structure Glyph where
  char : Char
  line : Nat
  column : Nat
  index : Nat
  deriving DecidableEq, Repr

def endMark : Char := Char.ofNat 0

def graveAccent : Char := Char.ofNat 0x60
def openBrace : Char := Char.ofNat 0x7b
def closeBrace : Char := Char.ofNat 0x7d
def byteOrderMark : Char := Char.ofNat 0xfeff

def isEnd (c : Char) : Bool := c == endMark

def isBreak (c : Char) : Bool := c == lineFeed || c.toNat == 0x2028 || c.toNat == 0x2029

def isGap (c : Char) : Bool := isBlank c || isBreak c || isEnd c

def isNameChar (c : Char) : Bool := c.isAlphanum || c == '_' || c == '-'

/-- Gives code points their places, from a place on, after glyphs that are kept last first. The index
counts code points; a carriage return and a line feed are one break. -/
def placedOnto (before : List Glyph) (line column index : Nat) : List Nat → List Glyph
  | [] => (⟨endMark, line, column, index⟩ :: before).reverse
  | 0x0d :: 0x0a :: rest =>
    placedOnto (⟨lineFeed, line, column, index⟩ :: before) (line + 1) 0 (index + 2) rest
  | n :: rest =>
    let c := if n = 0x0d ∨ n = 0x85 then lineFeed else Char.ofNat n
    let before := ⟨c, line, column, index⟩ :: before
    if isBreak c then placedOnto before (line + 1) 0 (index + 1) rest
    else placedOnto before line (column + 1) (index + 1) rest

def placed (codes : List Nat) : List Glyph := placedOnto [] 0 0 0 codes

def charAt (gs : List Glyph) (i : Nat) : Char := ((gs[i]?).map Glyph.char).getD endMark

def atMarker (mark : Char) (gs : List Glyph) : Bool :=
  (gs.head?.map Glyph.column) == some 0 && charAt gs 0 == mark && charAt gs 1 == mark &&
    charAt gs 2 == mark && isGap (charAt gs 3)

def atAnyMarker (gs : List Glyph) : Bool := atMarker '-' gs || atMarker '.' gs

end TableAsm.Yaml
