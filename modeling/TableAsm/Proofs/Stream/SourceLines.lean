import TableAsm.Proofs.Text.Splitting
import TableAsm.Stream.Input

namespace TableAsm

/-- The lines of a text, without the newlines that end them. What stands behind the last newline is a
line if there is anything. -/
inductive Lines : Text → List Text → Prop where
  | none : Lines [] []
  | unended {line : Text} (plain : Text.newline ∉ line) (some : line ≠ []) : Lines line [line]
  | ended {line rest : Text} {lines : List Text} (plain : Text.newline ∉ line) (later : Lines rest lines) :
      Lines (line ++ Text.newline :: rest) (line :: lines)

theorem rawLines_line {line : Text} (plain : Text.newline ∉ line) (rest : Text) :
    rawLines (line ++ Text.newline :: rest) = line :: rawLines rest := by
  obtain ⟨first, others, split⟩ : ∃ first others, rest.splitAt Text.newline = first :: others :=
    ⟨_, _, rfl⟩
  simp only [rawLines, Text.splitAt_line plain, split, List.getLast?_cons_cons, List.dropLast_cons_cons]
  split <;> rfl

theorem rawLines_unended {line : Text} (plain : Text.newline ∉ line) (some : line ≠ []) :
    rawLines line = [line] := by
  simp [rawLines, Text.splitAt_plain plain, some]

theorem lines_rawLines (t : Text) : Lines t (rawLines t) := by
  induction t using Text.split_induction Text.newline with
  | last part plain =>
    by_cases empty : part = []
    · subst empty
      exact .none
    · rw [rawLines_unended plain empty]
      exact .unended plain empty
  | part part rest plain ih =>
    rw [rawLines_line plain]
    exact .ended plain ih

theorem lines_iff {t : Text} {lines : List Text} : Lines t lines ↔ rawLines t = lines := by
  constructor
  · intro each
    induction each with
    | none => rfl
    | unended plain some => exact rawLines_unended plain some
    | ended plain _ ih => rw [rawLines_line plain, ih]
  · rintro rfl
    exact lines_rawLines t

namespace LineInput

variable {limit : Nat} (input : ByteInput)

/-- The lines that a reader with a buffer of the given size delivers. -/
def fitting (limit : Nat) (t : Text) : List Text := (rawLines t).takeWhile fun line => line.length < limit

theorem ofBytes_short (short : ∀ line ∈ rawLines input.bytes, line.length < limit) :
    ofBytes limit input =
      { lines := (rawLines input.bytes).map Text.dropCarriageReturn
        failure? := input.failure?.map ReadError.message } := by
  have all : ((rawLines input.bytes).takeWhile fun line => line.length < limit) = rawLines input.bytes := by
    rw [List.takeWhile_eq_self_iff]
    simpa using short
  simp only [ofBytes, all, Nat.lt_irrefl, if_false]

theorem ofBytes_wider {wider : Nat} (larger : limit ≤ wider)
    (short : ∀ line ∈ rawLines input.bytes, line.length < limit) :
    ofBytes limit input = ofBytes wider input := by
  have shorter : ∀ line ∈ rawLines input.bytes, line.length < wider := fun line member =>
    Nat.lt_of_lt_of_le (short line member) larger
  rw [ofBytes_short input short, ofBytes_short input shorter]

theorem ofBytes_long (long : ∃ line ∈ rawLines input.bytes, limit ≤ line.length) :
    ofBytes limit input =
      { lines := (fitting limit input.bytes).map Text.dropCarriageReturn
        failure? := some lineTooLong } := by
  have front : fitting limit input.bytes <+: rawLines input.bytes := List.takeWhile_prefix _
  have cut : (fitting limit input.bytes).length < (rawLines input.bytes).length := by
    refine Nat.lt_of_le_of_ne front.length_le ?_
    intro same
    obtain ⟨line, member, long⟩ := long
    have kept := List.takeWhile_eq_self_iff.mp (front.eq_of_length same) line member
    simp only [decide_eq_true_eq] at kept
    omega
  rw [fitting] at cut
  simp only [ofBytes, if_pos cut]
  rfl

theorem fitting_iff {t : Text} {front : List Text} (long : ∃ line ∈ rawLines t, limit ≤ line.length) :
    fitting limit t = front ↔
      ∃ line back, rawLines t = front ++ line :: back ∧ (∀ earlier ∈ front, earlier.length < limit) ∧
        limit ≤ line.length := by
  constructor
  · rintro rfl
    have whole : fitting limit t ++ (rawLines t).dropWhile (fun line => line.length < limit) = rawLines t :=
      List.takeWhile_append_dropWhile
    have short : ∀ earlier ∈ fitting limit t, earlier.length < limit := fun earlier member => by
      simpa using List.mem_takeWhile_imp member
    cases rest : (rawLines t).dropWhile fun line => line.length < limit with
    | nil =>
      obtain ⟨line, member, beyond⟩ := long
      rw [rest, List.append_nil] at whole
      exact absurd (short line (whole ▸ member)) (Nat.not_lt.mpr beyond)
    | cons line back =>
      have beyond := List.head?_dropWhile_not (fun line : Text => decide (line.length < limit)) (rawLines t)
      rw [rest] at whole beyond
      exact ⟨line, back, whole.symm, short, by simpa using beyond⟩
  · rintro ⟨line, back, whole, short, beyond⟩
    rw [fitting, whole, List.takeWhile_append_of_pos (by simpa using short),
      List.takeWhile_cons_of_neg (by simpa using beyond), List.append_nil]

end LineInput

end TableAsm
