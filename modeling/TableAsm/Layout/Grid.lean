import TableAsm.Layout.Paragraph
import TableAsm.Text.Capital

namespace TableAsm

structure Grid where
  title : Text := []
  header : List Text := []
  rows : List (List Text) := []
  numeric : List Bool := []

namespace Grid

/-- A line after its carriage returns: each moves back to the start, and what follows overwrites.
Stray bytes of such a line become the replacement character. -/
def overwritten (line : Text) : Text :=
  let parts := line.splitAt Text.carriageReturn
  if parts.length ≤ 1 then line
  else
    let shown := parts.foldl
      (fun (shown : List Rune) part =>
        let runes := Text.runes part
        runes ++ shown.drop runes.length)
      []
    shown.flatMap fun r => (Rune.ofCode r.code).bytes

def shown (cell : Text) : Text :=
  let spaced : Text := cell.flatMap fun b => if b = 0x09 then [0x20, 0x20, 0x20, 0x20] else [b]
  let lines := spaced.splitAt Text.newline
  let terminated := lines.dropLast.map Text.dropCarriageReturn
  Text.joined "\n" ((terminated ++ lines.getLast?.toList).map overwritten)

def spaces (n : Nat) : Text := List.replicate n Text.space

def dropSpacesRight (line : Text) : Text := (line.reverse.dropWhile (· == Text.space)).reverse

def aligned (right : Bool) (width : Nat) (line : Text) : Text :=
  if right then
    let line : Text := line.dropWhile (· == Text.space)
    spaces (width - line.shownWidth) ++ line
  else
    let line := dropSpacesRight line
    line ++ spaces (width - line.shownWidth)

def widths (rows : List (List Text)) : List Nat :=
  let columns := rows.foldl (fun n row => max n row.length) 0
  (List.range columns).map fun i =>
    rows.foldl (fun w row => max w (Text.widestLine (row.getD i []))) 0

def rule (widths : List Nat) : Text :=
  [0x2b] ++ widths.flatMap fun w => List.replicate (w + 2) 0x2d ++ [0x2b]

def rowLines (widths : List Nat) (numeric : List Bool) (row : List Text) : List Text :=
  let cells := widths.zipIdx.map fun (_, i) => Text.splitAt Text.newline (row.getD i [])
  let height := cells.foldl (fun h cell => max h cell.length) 1
  (List.range height).map fun k =>
    (widths.zip cells).zipIdx.foldl
      (fun (line : Text) ((w, cell), i) =>
        line ++ " " ++ aligned (numeric.getD i false) w (cell.getD k []) ++ " |")
      "|"

def titleLines (limit : Nat) (title : Text) : List Text :=
  ((title.inBox limit).splitAt Text.newline).map Text.trim

def titleBox (widths : List Nat) (title : Text) : List Text :=
  let total := widths.foldl (fun n width => n + width + 3) 1
  let limit := total - 4
  let top : Text := [0x2b] ++ List.replicate (total - 2) 0x2d ++ [0x2b]
  top :: (titleLines limit title).map fun line => ("| " : Text) ++ aligned false limit line ++ " |"

def lines (g : Grid) : List Text :=
  let header := g.header.map fun cell => (shown cell).capitals
  let rows := g.rows.map fun row => row.map shown
  let widths := widths (header :: rows)
  let numeric := if rows.isEmpty then widths.map fun _ => true else g.numeric
  let top := (if g.title.isEmpty then [] else titleBox widths g.title) ++ [rule widths]
  let head := if header.isEmpty then [] else rowLines widths numeric header ++ [rule widths]
  top ++ head ++ rows.flatMap (rowLines widths numeric) ++ [rule widths]

def text (g : Grid) : Text := Text.joined "\n" g.lines

end Grid

end TableAsm
