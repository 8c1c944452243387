import TableAsm.Proofs.Text.Trimming
import TableAsm.Source.Token

namespace TableAsm

def gapSeparated (t : Text) : List Text := (t.splitOnP isGap).filter fun piece => !piece.isEmpty

/-- A text that can be a piece: not empty, and without a gap. -/
structure Unbroken (t : Text) : Prop where
  nonempty : t ≠ []
  solid : ∀ b ∈ t, isGap b = false

namespace Text

/-- Induction over a text run by run. Each run is followed by a byte of the other sort, or by
nothing. -/
theorem gap_induction {motive : Text → Prop} (nil : motive [])
    (gap : ∀ run rest, run ≠ [] → (∀ b ∈ run, isGap b = true) → (∀ c ∈ rest.head?, isGap c = false) →
      motive rest → motive (run ++ rest))
    (piece : ∀ run rest, Unbroken run → (∀ c ∈ rest.head?, isGap c = true) →
      motive rest → motive (run ++ rest)) (t : Text) : motive t := by
  generalize size : t.length = n
  induction n using Nat.strongRecOn generalizing t with
  | ind n ih =>
    cases t with
    | nil => exact nil
    | cons b rest =>
      have shorter (p : UInt8 → Bool) : motive (rest.dropWhile p) := by
        apply ih _ _ _ rfl
        have bound := (List.dropWhile_suffix (l := rest) p).length_le
        rw [← size, List.length_cons]
        omega
      cases sort : isGap b with
      | true =>
        rw [← List.takeWhile_append_dropWhile (p := isGap) (l := rest), ← List.cons_append]
        apply gap _ _ (List.cons_ne_nil _ _) _ _ (shorter isGap)
        · intro c member
          rcases List.mem_cons.mp member with rfl | member
          · exact sort
          · exact List.mem_takeWhile_imp member
        · intro c first
          simpa [Option.mem_def.mp first] using List.head?_dropWhile_not isGap rest
      | false =>
        rw [← List.takeWhile_append_dropWhile (p := fun c => !isGap c) (l := rest), ← List.cons_append]
        apply piece _ _ ⟨List.cons_ne_nil _ _, _⟩ _ (shorter _)
        · intro c member
          rcases List.mem_cons.mp member with rfl | member
          · exact sort
          · simpa using List.mem_takeWhile_imp member
        · intro c first
          simpa [Option.mem_def.mp first] using List.head?_dropWhile_not (fun c => !isGap c) rest

end Text

theorem isGap_ascii {b : UInt8} (gap : isGap b = true) : b < 0x80 := by
  simp only [isGap, Bool.or_eq_true, beq_iff_eq] at gap
  rcases gap with (((rfl | rfl) | rfl) | rfl) | rfl <;> decide

theorem isBlank_of_isGap {b : UInt8} (gap : isGap b = true) : (⟨b.toNat, [b]⟩ : Rune).isBlank = true := by
  simp only [isGap, Bool.or_eq_true, beq_iff_eq] at gap
  rcases gap with (((rfl | rfl) | rfl) | rfl) | rfl <;> decide

theorem Text.fresh_of_gap {t : Text} (ends : ∀ c ∈ t.head?, isGap c = true) : t.Fresh :=
  fun c first => Rune.not_isContinuation_of_ascii (isGap_ascii (ends c first))

theorem Text.solid_of_no_blank {t : Text} (solid : t.hasBlank = false) : ∀ b ∈ t, isGap b = false := by
  intro b member
  by_contra gap
  simp only [Bool.not_eq_false] at gap
  have differ := Text.isBlank_of_no_blank solid (Text.mem_runes_of_ascii (isGap_ascii gap) member)
  rw [isBlank_of_isGap gap] at differ
  cases differ

@[simp] theorem gapSeparated_nil : gapSeparated [] = [] := rfl

theorem gapSeparated_gap {run : Text} (gaps : ∀ b ∈ run, isGap b = true) (rest : Text) :
    gapSeparated (run ++ rest) = gapSeparated rest := by
  induction run with
  | nil => rfl
  | cons b run ih =>
    have first : isGap b = true := gaps b List.mem_cons_self
    have others := ih fun c member => gaps c (List.mem_cons_of_mem b member)
    rw [← others]
    simp [gapSeparated, List.splitOnP_cons_eq_if_modifyHead, first]

theorem gapSeparated_piece {run rest : Text} (unbroken : Unbroken run)
    (ends : ∀ c ∈ rest.head?, isGap c = true) :
    gapSeparated (run ++ rest) = run :: gapSeparated rest := by
  have present : run.isEmpty = false := by simpa using unbroken.nonempty
  cases rest with
  | nil => simp [gapSeparated, List.splitOnP_eq_singleton unbroken.solid, present]
  | cons c rest =>
    have single : ∀ b ∈ [c], isGap b = true := by simpa using ends
    have after : gapSeparated (c :: rest) = gapSeparated rest := gapSeparated_gap single rest
    rw [after, gapSeparated,
      List.splitOnP_append_cons_of_forall_mem unbroken.solid c (ends c rfl), List.filter_cons,
      if_pos (by simp [present]), gapSeparated]

theorem gapSeparated_unbroken {t piece : Text} (member : piece ∈ gapSeparated t) : Unbroken piece := by
  induction t using Text.gap_induction with
  | nil => simp at member
  | gap run rest _ gaps _ ih => exact ih (by rwa [gapSeparated_gap gaps] at member)
  | piece run rest unbroken ends ih =>
    rw [gapSeparated_piece unbroken ends] at member
    rcases List.mem_cons.mp member with rfl | member
    · exact unbroken
    · exact ih member

theorem gapSeparated_within {t piece : Text} (member : piece ∈ gapSeparated t) : piece <:+: t := by
  induction t using Text.gap_induction with
  | nil => simp at member
  | gap run rest _ gaps _ ih =>
    rw [gapSeparated_gap gaps] at member
    exact (ih member).trans (List.suffix_append run rest).isInfix
  | piece run rest unbroken ends ih =>
    rw [gapSeparated_piece unbroken ends] at member
    rcases List.mem_cons.mp member with rfl | member
    · exact (List.prefix_append _ rest).isInfix
    · exact (ih member).trans (List.suffix_append run rest).isInfix

theorem gapSeparated_eq_nil {t : Text} (none : gapSeparated t = []) : ∀ b ∈ t, isGap b = true := by
  induction t using Text.gap_induction with
  | nil => simp
  | gap run rest _ gaps _ ih =>
    rw [gapSeparated_gap gaps] at none
    intro b member
    rcases List.mem_append.mp member with member | member
    · exact gaps b member
    · exact ih none b member
  | piece run rest unbroken ends _ => simp [gapSeparated_piece unbroken ends] at none

theorem gapSeparated_eq_cons {t piece : Text} {pieces : List Text}
    (separated : gapSeparated t = piece :: pieces) (starts : ∀ c ∈ t.head?, isGap c = false) :
    ∃ rest, t = piece ++ rest ∧ (∀ c ∈ rest.head?, isGap c = true) ∧ gapSeparated rest = pieces := by
  induction t using Text.gap_induction with
  | nil => simp at separated
  | gap run rest nonempty gaps _ _ =>
    obtain ⟨b, run, rfl⟩ := List.exists_cons_of_ne_nil nonempty
    have differ := starts b rfl
    rw [gaps b List.mem_cons_self] at differ
    cases differ
  | piece run rest unbroken ends _ =>
    rw [gapSeparated_piece unbroken ends] at separated
    cases separated
    exact ⟨rest, rfl, ends, rfl⟩

theorem Text.head_not_gap {t : Text} (solid : t.StartsSolid) : ∀ c ∈ t.head?, isGap c = false := by
  intro c first
  obtain ⟨rest, rfl⟩ := List.head?_eq_some_iff.mp first
  by_contra gap
  simp only [Bool.not_eq_false] at gap
  have blank := solid ⟨c.toNat, [c]⟩ (by rw [Text.runes_cons_ascii (isGap_ascii gap)]; rfl)
  rw [isBlank_of_isGap gap] at blank
  cases blank

theorem Text.not_endsSolid_of_gaps {t : Text} (nonempty : t ≠ []) (gaps : ∀ b ∈ t, isGap b = true) :
    ¬ t.EndsSolid := by
  intro solid
  obtain ⟨front, b, rfl⟩ := (List.eq_nil_or_concat t).resolve_left nonempty
  have gap := gaps b (by simp)
  have fresh : Text.Fresh [b] := Text.fresh_of_gap (by simpa using gap)
  rw [List.concat_eq_append, Text.endsSolid_append (List.cons_ne_nil _ _) fresh] at solid
  have blank := solid ⟨b.toNat, [b]⟩ (by rw [Text.runes_cons_ascii (isGap_ascii gap)]; rfl)
  rw [isBlank_of_isGap gap] at blank
  cases blank

theorem Text.endsSolid_gap_append {run t : Text} (gaps : ∀ b ∈ run, isGap b = true) (nonempty : t ≠ []) :
    Text.EndsSolid (run ++ t) ↔ t.EndsSolid := by
  induction run with
  | nil => rfl
  | cons b run ih =>
    have ascii : b < 0x80 := isGap_ascii (gaps b List.mem_cons_self)
    have others := ih fun c member => gaps c (List.mem_cons_of_mem b member)
    have present : Text.runes (run ++ t) ≠ [] := Text.runes_ne_nil (by simp [nonempty])
    rw [← others, List.cons_append]
    simp only [Text.EndsSolid, Text.runes_cons_ascii ascii, List.getLast?_cons_of_ne_nil present]

theorem gapSeparated_endsSolid {t : Text} (solid : t.EndsSolid) :
    ∀ last ∈ (gapSeparated t).getLast?, last.EndsSolid := by
  induction t using Text.gap_induction with
  | nil => simp
  | gap run rest _ gaps _ ih =>
    rw [gapSeparated_gap gaps]
    by_cases alone : rest = []
    · simp [alone]
    · exact ih ((Text.endsSolid_gap_append gaps alone).mp solid)
  | piece run rest unbroken ends ih =>
    rw [gapSeparated_piece unbroken ends]
    by_cases alone : rest = []
    · rw [alone, List.append_nil] at solid
      simpa [alone] using solid
    · rw [Text.endsSolid_append alone (Text.fresh_of_gap ends)] at solid
      have more : gapSeparated rest ≠ [] :=
        fun none => Text.not_endsSolid_of_gaps alone (gapSeparated_eq_nil none) solid
      rw [List.getLast?_cons_of_ne_nil more]
      exact ih solid

theorem Text.joined_cons (separator head : Text) (tail : List Text) :
    Text.joined separator (head :: tail) = head ++ tail.flatMap (separator ++ ·) := by
  induction tail generalizing head with
  | nil => simp [Text.joined]
  | cons next tail ih =>
    rw [List.flatMap_cons, List.append_assoc, ← ih next]
    simp [Text.joined]

theorem space_eq : ((" " : String) : Text) = [Text.space] := by decide

theorem isGap_of_mem_space {b : UInt8} (member : b ∈ ((" " : String) : Text)) : isGap b = true := by
  rw [space_eq, List.mem_singleton] at member
  subst member
  decide

theorem spaced_starts_with_gap (pieces : List Text) :
    ∀ c ∈ (pieces.flatMap ((" " : Text) ++ ·)).head?, isGap c = true := by
  cases pieces with
  | nil => simp
  | cons next pieces =>
    intro c first
    exact isGap_of_mem_space (by simpa [space_eq] using first.symm)

theorem gapSeparated_spaced {pieces : List Text} (unbroken : ∀ piece ∈ pieces, Unbroken piece) :
    gapSeparated (pieces.flatMap ((" " : Text) ++ ·)) = pieces := by
  induction pieces with
  | nil => rfl
  | cons piece pieces ih =>
    rw [List.flatMap_cons, List.append_assoc, gapSeparated_gap fun _ => isGap_of_mem_space,
      gapSeparated_piece (unbroken piece List.mem_cons_self) (spaced_starts_with_gap pieces),
      ih fun other member => unbroken other (List.mem_cons_of_mem piece member)]

theorem gapSeparated_joined {pieces : List Text} (unbroken : ∀ piece ∈ pieces, Unbroken piece) :
    gapSeparated (Text.joined " " pieces) = pieces := by
  cases pieces with
  | nil => rfl
  | cons piece pieces =>
    have spaced := gapSeparated_spaced unbroken
    rw [List.flatMap_cons, List.append_assoc, gapSeparated_gap fun _ => isGap_of_mem_space] at spaced
    rw [Text.joined_cons]
    exact spaced

def Gaps (t : Text) : Prop := ∀ b ∈ t, isGap b = true

instance (t : Text) : Decidable (Gaps t) := inferInstanceAs (Decidable (∀ b ∈ t, isGap b = true))

def gapRunes (run : Text) : List Rune := run.map fun b => ⟨b.toNat, [b]⟩

theorem ofRunes_gapRunes (run : Text) : Text.ofRunes (gapRunes run) = run := by
  induction run with
  | nil => rfl
  | cons b run ih => exact congrArg (b :: ·) ih

namespace Gaps

variable {run : Text}

theorem head (gaps : Gaps run) (nonempty : run ≠ []) (back : Text) :
    ∀ c ∈ (run ++ back).head?, isGap c = true := by
  obtain ⟨b, run, rfl⟩ := List.exists_cons_of_ne_nil nonempty
  intro c first
  cases first
  exact gaps b List.mem_cons_self

theorem blank (gaps : Gaps run) : ∀ r ∈ gapRunes run, r.isBlank = true := by
  intro r member
  obtain ⟨b, among, rfl⟩ := List.mem_map.mp member
  exact isBlank_of_isGap (gaps b among)

theorem runes_append (gaps : Gaps run) (back : Text) :
    Text.runes (run ++ back) = gapRunes run ++ Text.runes back := by
  induction run with
  | nil => rfl
  | cons b run ih =>
    have ascii : b < 0x80 := isGap_ascii (gaps b List.mem_cons_self)
    have others := ih fun c member => gaps c (List.mem_cons_of_mem b member)
    rw [List.cons_append, Text.runes_cons_ascii ascii, others]
    rfl

theorem runes_between (gaps : Gaps run) (nonempty : run ≠ []) (front back : Text) :
    Text.runes (front ++ (run ++ back)) = Text.runes front ++ (gapRunes run ++ Text.runes back) := by
  have fresh : Text.Fresh (run ++ back) := Text.fresh_of_gap (gaps.head nonempty back)
  rw [Text.runes_append fresh, gaps.runes_append]

theorem allBlank (gaps : Gaps run) : Text.AllBlank run := by
  have whole := gaps.runes_append []
  rw [List.append_nil, Text.runes_nil, List.append_nil] at whole
  rw [Text.AllBlank, whole]
  exact gaps.blank

theorem separated (gaps : Gaps run) (nonempty : run ≠ []) (front back : Text) :
    gapSeparated (front ++ (run ++ back)) = gapSeparated front ++ gapSeparated back := by
  induction front using Text.gap_induction with
  | nil => rw [List.nil_append, gapSeparated_gap gaps, gapSeparated_nil, List.nil_append]
  | gap first rest _ all _ ih => rw [List.append_assoc, gapSeparated_gap all, gapSeparated_gap all, ih]
  | piece first rest unbroken ends ih =>
    have later : ∀ c ∈ (rest ++ (run ++ back)).head?, isGap c = true := by
      cases rest with
      | nil => exact gaps.head nonempty back
      | cons c rest => exact ends
    rw [List.append_assoc, gapSeparated_piece unbroken later, gapSeparated_piece unbroken ends, ih,
      List.cons_append]

end Gaps

/-- Which gaps stand in one place of a text makes no difference to its pieces, even if trimming takes
them away. -/
theorem gapSeparated_trim_gaps {run other : Text} (gaps : Gaps run) (gaps' : Gaps other)
    (some : run ≠ []) (some' : other ≠ []) (front back : Text) :
    gapSeparated (Text.trim (front ++ (run ++ back))) =
      gapSeparated (Text.trim (front ++ (other ++ back))) := by
  rw [Text.trim_eq_solidPart, Text.trim_eq_solidPart, gaps.runes_between some,
    gaps'.runes_between some']
  by_cases opening : ∀ r ∈ Text.runes front, r.isBlank = true
  · rw [Rune.solidPart_blank_append opening, Rune.solidPart_blank_append opening,
      Rune.solidPart_blank_append gaps.blank, Rune.solidPart_blank_append gaps'.blank]
  by_cases closing : ∀ r ∈ Text.runes back, r.isBlank = true
  · rw [← List.append_assoc, ← List.append_assoc, Rune.solidPart_append_blank _ closing,
      Rune.solidPart_append_blank _ closing, Rune.solidPart_append_blank _ gaps.blank,
      Rune.solidPart_append_blank _ gaps'.blank]
  rw [Rune.solidPart_between opening _ closing, Rune.solidPart_between opening _ closing]
  simp only [Text.ofRunes_append, ofRunes_gapRunes]
  rw [gaps.separated some, gaps'.separated some']

end TableAsm
