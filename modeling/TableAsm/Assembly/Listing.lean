import TableAsm.Assembly.Assemble
import TableAsm.Layout.Grid

namespace TableAsm

structure Listing where
  labels : List Label := []
  encoded : List (Instruction × Word) := []
  deriving DecidableEq, Repr

structure ListingRow where
  line : Int
  address : UInt32
  word : Option Word
  source : Text
  deriving DecidableEq, Repr

namespace Listing

def labelOf? : Event → Option Label
  | .labelDefined label => some label
  | _ => none

def wordOf? : Event → Option (Instruction × Word)
  | .encoded instruction word => some (instruction, word)
  | _ => none

def record (l : Listing) (events : List Event) : Listing where
  labels := l.labels ++ events.filterMap labelOf?
  encoded := l.encoded ++ events.filterMap wordOf?

def length (l : Listing) : Nat := l.encoded.length

def labelRow (label : Label) : ListingRow :=
  { line := label.line, address := label.address, word := none, source := label.name }

def wordRow (entry : Instruction × Word) : ListingRow :=
  { line := entry.1.line
    address := entry.1.address
    word := some entry.2
    source := "    " ++ entry.1.source }

def rows (l : Listing) : List ListingRow :=
  (l.labels.map labelRow ++ l.encoded.map wordRow).mergeSort fun a b => a.line ≤ b.line

def addressText (address : UInt32) : Text := Text.fixedDigits 16 8 address.toNat

def rowCells (r : ListingRow) : List Text :=
  [Text.signedDecimal r.line, addressText r.address, (r.word.map Word.digits).getD [], r.source]

def symbolCells (label : Label) : List Text :=
  [label.name, addressText label.address, Text.signedDecimal label.line]

def grid (l : Listing) : Grid where
  title := "Listing"
  header := ["Line", "Address", "Word", "Source"]
  rows := l.rows.map rowCells
  numeric := [true]

def symbolGrid (l : Listing) : Grid where
  title := "Symbols"
  header := ["Label", "Address", "Line"]
  rows := l.labels.map symbolCells
  numeric := [false, false, true]

def text (l : Listing) : Text := l.grid.text ++ "\n\n" ++ l.symbolGrid.text ++ "\n"

end Listing

end TableAsm
