import TableAsm.Text.Rune

namespace TableAsm

def blankRanges : List (Nat × Nat) :=
  [(0x09, 0x0d), (0x20, 0x20), (0x85, 0x85), (0xa0, 0xa0), (0x1680, 0x1680), (0x2000, 0x200a),
   (0x2028, 0x2029), (0x202f, 0x202f), (0x205f, 0x205f), (0x3000, 0x3000)]

def Rune.isBlank (r : Rune) : Bool :=
  blankRanges.any fun (low, high) => low ≤ r.code && r.code ≤ high

namespace Text

def trim (t : Text) : Text :=
  ofRunes (((t.runes.dropWhile Rune.isBlank).reverse.dropWhile Rune.isBlank).reverse)

def hasBlank (t : Text) : Bool := t.runes.any Rune.isBlank

def blankSeparated (t : Text) : List Text :=
  let (word, words) := t.runes.foldr
    (fun r (word, words) =>
      if r.isBlank then ([], if word.isEmpty then words else word :: words)
      else (r.bytes ++ word, words))
    (([] : Text), ([] : List Text))
  if word.isEmpty then words else word :: words

end Text

end TableAsm
