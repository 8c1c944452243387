import Mathlib.Data.List.DropRight
import TableAsm.Proofs.Text.Runes

namespace TableAsm

namespace Text

def StartsSolid (t : Text) : Prop := ∀ r ∈ t.runes.head?, r.isBlank = false

def EndsSolid (t : Text) : Prop := ∀ r ∈ t.runes.getLast?, r.isBlank = false

theorem trim_eq_ofRunes (t : Text) :
    t.trim = ofRunes ((t.runes.dropWhile Rune.isBlank).rdropWhile Rune.isBlank) := rfl

theorem runes_trim (t : Text) :
    t.trim.runes = (t.runes.dropWhile Rune.isBlank).rdropWhile Rune.isBlank := by
  have back : runes (ofRunes (t.runes.dropWhile Rune.isBlank)) = t.runes.dropWhile Rune.isBlank :=
    runes_ofRunes_back (List.takeWhile_append_dropWhile (p := Rune.isBlank)).symm
  have cut := back.trans (List.rdropWhile_append_rtakeWhile (p := Rune.isBlank)).symm
  exact runes_ofRunes_front cut

theorem startsSolid_trim (t : Text) : t.trim.StartsSolid := by
  intro r first
  rw [runes_trim] at first
  -- What is dropped from the right leaves the first rune in place.
  obtain ⟨dropped, whole⟩ := List.rdropWhile_prefix (p := Rune.isBlank) (t.runes.dropWhile Rune.isBlank)
  have head : (t.runes.dropWhile Rune.isBlank).head? = some r := by
    rw [← whole, List.head?_append, first]
    rfl
  simpa [head] using List.head?_dropWhile_not Rune.isBlank t.runes

theorem endsSolid_trim (t : Text) : t.trim.EndsSolid := by
  intro r last
  rw [runes_trim] at last
  obtain ⟨nonempty, rfl⟩ := List.mem_getLast?_eq_getLast last
  simpa using List.rdropWhile_last_not Rune.isBlank _ nonempty

theorem trim_eq_self_of_solid {t : Text} (starts : t.StartsSolid) (ends : t.EndsSolid) :
    t.trim = t := by
  have front : t.runes.dropWhile Rune.isBlank = t.runes := by
    cases list : t.runes with
    | nil => rfl
    | cons r rs => exact List.dropWhile_cons_of_neg (by simp [starts r (by simp [list])])
  have back : t.runes.rdropWhile Rune.isBlank = t.runes := by
    rw [List.rdropWhile_eq_self_iff]
    intro nonempty
    simp [ends _ (List.getLast?_eq_some_getLast nonempty)]
  rw [trim_eq_ofRunes, front, back, ofRunes_runes]

theorem trim_eq_self_iff (t : Text) : t.trim = t ↔ t.StartsSolid ∧ t.EndsSolid := by
  constructor
  · intro same
    have starts := startsSolid_trim t
    have ends := endsSolid_trim t
    rw [same] at starts ends
    exact ⟨starts, ends⟩
  · rintro ⟨starts, ends⟩
    exact trim_eq_self_of_solid starts ends

theorem trim_trim (t : Text) : t.trim.trim = t.trim :=
  trim_eq_self_of_solid (startsSolid_trim t) (endsSolid_trim t)

theorem runes_ne_nil {t : Text} (nonempty : t ≠ []) : t.runes ≠ [] := by
  intro none
  apply nonempty
  rw [← ofRunes_runes t, none, ofRunes_nil]

theorem startsSolid_append {front back : Text} (nonempty : front ≠ []) (fresh : back.Fresh) :
    (front ++ back).StartsSolid ↔ front.StartsSolid := by
  have head : (front ++ back).runes.head? = front.runes.head? := by
    rw [runes_append fresh, List.head?_append_of_ne_nil _ (runes_ne_nil nonempty)]
  simp only [StartsSolid, head]

theorem endsSolid_append {front back : Text} (nonempty : back ≠ []) (fresh : back.Fresh) :
    (front ++ back).EndsSolid ↔ back.EndsSolid := by
  have last : (front ++ back).runes.getLast? = back.runes.getLast? := by
    rw [runes_append fresh, List.getLast?_append_of_ne_nil _ (runes_ne_nil nonempty)]
  simp only [EndsSolid, last]

theorem isBlank_of_no_blank {t : Text} {r : Rune} (solid : t.hasBlank = false) (member : r ∈ t.runes) :
    r.isBlank = false := by
  simp only [hasBlank, List.any_eq_false, Bool.not_eq_true] at solid
  exact solid r member

theorem startsSolid_of_no_blank {t : Text} (solid : t.hasBlank = false) : t.StartsSolid :=
  fun _ first => isBlank_of_no_blank solid (List.mem_of_mem_head? first)

theorem endsSolid_of_no_blank {t : Text} (solid : t.hasBlank = false) : t.EndsSolid :=
  fun _ last => isBlank_of_no_blank solid (List.mem_of_mem_getLast? last)

theorem ascii_of_visible {b : UInt8} (visible : 0x21 ≤ b ∧ b < 0x7f) : b < 0x80 :=
  UInt8.lt_trans visible.2 (by decide)

theorem isBlank_visible {b : UInt8} (visible : 0x21 ≤ b ∧ b < 0x7f) :
    (⟨b.toNat, [b]⟩ : Rune).isBlank = false := by
  simp only [UInt8.lt_iff_toNat_lt, UInt8.le_iff_toNat_le, UInt8.reduceToNat] at visible
  simp [Rune.isBlank, blankRanges]
  omega

theorem no_blank_of_visible {t : Text} (visible : ∀ b ∈ t, 0x21 ≤ b ∧ b < 0x7f) :
    t.hasBlank = false := by
  induction t with
  | nil => simp [hasBlank]
  | cons b rest ih =>
    have first := visible b List.mem_cons_self
    have others := ih fun c member => visible c (List.mem_cons_of_mem b member)
    rw [hasBlank, runes_cons_ascii (ascii_of_visible first), List.any_cons, isBlank_visible first,
      Bool.false_or]
    exact others

end Text

namespace Rune

def solidPart (rs : List Rune) : List Rune := (rs.dropWhile isBlank).rdropWhile isBlank

variable {front back : List Rune}

theorem dropWhile_append_left (some : ¬ ∀ r ∈ front, r.isBlank = true) (back : List Rune) :
    (front ++ back).dropWhile isBlank = front.dropWhile isBlank ++ back := by
  have kept : front.dropWhile isBlank ≠ [] := fun none => some (List.dropWhile_eq_nil_iff.mp none)
  rw [List.dropWhile_append, if_neg (by simpa using kept)]

theorem rdropWhile_append_left (front : List Rune) (blank : ∀ r ∈ back, r.isBlank = true) :
    (front ++ back).rdropWhile isBlank = front.rdropWhile isBlank := by
  have reversed : ∀ r ∈ back.reverse, r.isBlank = true := by simpa using blank
  rw [List.rdropWhile, List.reverse_append, List.dropWhile_append_of_pos reversed, List.rdropWhile]

theorem rdropWhile_append_right (front : List Rune) (some : ¬ ∀ r ∈ back, r.isBlank = true) :
    (front ++ back).rdropWhile isBlank = front ++ back.rdropWhile isBlank := by
  have reversed : ¬ ∀ r ∈ back.reverse, r.isBlank = true := by simpa using some
  rw [List.rdropWhile, List.reverse_append, dropWhile_append_left reversed, List.reverse_append,
    List.reverse_reverse, List.rdropWhile]

theorem solidPart_blank_append (blank : ∀ r ∈ front, r.isBlank = true) (back : List Rune) :
    solidPart (front ++ back) = solidPart back := by
  rw [solidPart, List.dropWhile_append_of_pos blank, solidPart]

theorem solidPart_append_blank (front : List Rune) (blank : ∀ r ∈ back, r.isBlank = true) :
    solidPart (front ++ back) = solidPart front := by
  by_cases all : ∀ r ∈ front, r.isBlank = true
  · rw [solidPart_blank_append all, solidPart, solidPart, List.dropWhile_eq_nil_iff.mpr blank,
      List.dropWhile_eq_nil_iff.mpr all]
  · rw [solidPart, dropWhile_append_left all, rdropWhile_append_left _ blank, solidPart]

theorem solidPart_between (some : ¬ ∀ r ∈ front, r.isBlank = true) (middle : List Rune)
    (more : ¬ ∀ r ∈ back, r.isBlank = true) :
    solidPart (front ++ (middle ++ back)) =
      front.dropWhile isBlank ++ (middle ++ back.rdropWhile isBlank) := by
  rw [solidPart, dropWhile_append_left some, ← List.append_assoc, rdropWhile_append_right _ more,
    List.append_assoc]

end Rune

namespace Rune

variable {b : UInt8} {rest : Text}

theorem ascii_of_blank (blank : (read b rest).isBlank = true) (alone : extraBytes b rest = 0) :
    b < 0x80 := by
  by_contra beyond
  rw [read, alone, List.take_zero, sequenceCode, List.length_nil] at blank
  simp only [if_neg beyond, List.foldl_nil] at blank
  cases blank

theorem extraBytes_append_of_blank (blank : (read b rest).isBlank = true) (back : Text) :
    extraBytes b (rest ++ back) = extraBytes b rest := by
  by_cases alone : extraBytes b rest = 0
  · rw [alone, extraBytes_ascii (ascii_of_blank blank alone)]
  · exact extraBytes_append_of_ne_zero alone back

theorem not_isContinuation_of_blank (blank : (read b rest).isBlank = true) :
    isContinuation b = false := by
  by_cases alone : extraBytes b rest = 0
  · exact not_isContinuation_of_ascii (ascii_of_blank blank alone)
  · obtain ⟨_, _, _, _, _, starts, -⟩ := completes_of_extraBytes alone
    exact not_isContinuation_of_starts starts

end Rune

namespace Text

theorem trim_eq_solidPart (t : Text) : t.trim = ofRunes (Rune.solidPart t.runes) := rfl

def AllBlank (t : Text) : Prop := ∀ r ∈ t.runes, r.isBlank = true

namespace AllBlank

variable {blank : Text} (all : AllBlank blank)

include all

theorem runes_append (back : Text) : runes (blank ++ back) = blank.runes ++ back.runes := by
  induction blank using rune_induction with
  | nil => simp
  | cons b rest ih =>
    unfold AllBlank at all
    rw [runes_cons, List.forall_mem_cons] at all
    have same := Rune.extraBytes_append_of_blank all.1 back
    have within := Rune.extraBytes_le_length b rest
    rw [List.cons_append, runes_cons, runes_cons, same, Rune.read_append (same ▸ within),
      List.drop_append_of_le_length within, ih all.2, List.cons_append]

theorem fresh : blank.Fresh := by
  cases blank with
  | nil => simp [Fresh]
  | cons b rest =>
    have first := all (Rune.read b rest) (by simp [runes_cons])
    intro c head
    cases head
    exact Rune.not_isContinuation_of_blank first

theorem not_mem {b : UInt8} (visible : 0x21 ≤ b ∧ b < 0x7f) : b ∉ blank := by
  intro member
  have differ := all _ (mem_runes_of_ascii (ascii_of_visible visible) member)
  rw [isBlank_visible visible] at differ
  cases differ

theorem trim_append (t : Text) : trim (blank ++ t) = t.trim := by
  rw [trim_eq_solidPart, all.runes_append, Rune.solidPart_blank_append all, trim_eq_solidPart]

theorem append_trim (t : Text) : trim (t ++ blank) = t.trim := by
  rw [trim_eq_solidPart, Text.runes_append all.fresh, Rune.solidPart_append_blank _ all,
    trim_eq_solidPart]

end AllBlank

theorem trim_between (t : Text) :
    ∃ before after, AllBlank before ∧ AllBlank after ∧ t = before ++ (t.trim ++ after) := by
  have front : t.runes = t.runes.takeWhile Rune.isBlank ++ t.runes.dropWhile Rune.isBlank :=
    List.takeWhile_append_dropWhile.symm
  have back := (runes_ofRunes_back front).trans
    (List.rdropWhile_append_rtakeWhile (p := Rune.isBlank)).symm
  refine ⟨ofRunes (t.runes.takeWhile Rune.isBlank),
    ofRunes ((t.runes.dropWhile Rune.isBlank).rtakeWhile Rune.isBlank), ?_, ?_, ?_⟩
  · intro r member
    rw [runes_ofRunes_front front] at member
    exact List.mem_takeWhile_imp member
  · intro r member
    rw [runes_ofRunes_back back] at member
    exact List.mem_rtakeWhile_imp member
  · rw [trim_eq_ofRunes, ← ofRunes_append, List.rdropWhile_append_rtakeWhile,
      ← ofRunes_append, List.takeWhile_append_dropWhile, ofRunes_runes]

theorem trim_within (t : Text) : t.trim <:+: t := by
  obtain ⟨before, after, -, -, whole⟩ := trim_between t
  exact ⟨before, after, (List.append_assoc ..).trans whole.symm⟩

end Text

end TableAsm
