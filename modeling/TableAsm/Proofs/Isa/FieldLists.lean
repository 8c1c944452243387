import Mathlib.Data.List.Perm.Basic
import TableAsm.Isa.Mask
import TableAsm.Proofs.Text.Splitting

namespace TableAsm

theorem Text.length_runes_le_capitals (t : Text) : t.runes.length ≤ t.capitals.length := by
  have each (r : Rune) : 1 ≤ (Rune.ofCode (capitalCode r.code)).bytes.length := by
    unfold Rune.ofCode
    split
    · rw [Text.ofChar, String.length_utf8EncodeChar]
      exact Char.utf8Size_pos _
    · decide
  rw [Text.capitals, List.length_flatMap]
  induction t.runes with
  | nil => rfl
  | cons r rest ih =>
    have first := each r
    simp only [List.map_cons, List.sum_cons, List.length_cons]
    omega

namespace FieldMask

/-- The names of the fields of a mask, in the order in which they print. -/
def names (m : FieldMask) : List Text := (named.filter fun entry => m.has entry.1).map Prod.snd

/-- The mask with the fields that are named. -/
def ofNames (names : List Text) : FieldMask :=
  (named.filter fun entry => names.contains entry.2).foldl (fun m entry => m.union entry.1) empty

/-- The number of bits that are set. -/
def setBits (m : FieldMask) : Nat := (List.range 8).countP fun bit => m.bits.toNat.testBit bit

theorem exists_of_small {m : FieldMask} (small : m.bits < 16) :
    ∃ k : Fin 16, m = ⟨UInt8.ofNat k⟩ := by
  refine ⟨⟨m.bits.toNat, small⟩, ?_⟩
  rw [UInt8.ofNat_toNat]

theorem named_nodup : (named.map Prod.snd).Nodup := by
  decide +kernel

theorem find?_named : ∀ entry ∈ named, (named.find? fun other => other.2 == entry.2) = some entry := by
  decide +kernel

theorem names_nodup (m : FieldMask) : m.names.Nodup :=
  named_nodup.sublist (List.filter_sublist.map Prod.snd)

theorem names_subset (m : FieldMask) : ∀ name ∈ m.names, name ∈ named.map Prod.snd :=
  fun _ member => (List.filter_sublist.map Prod.snd).subset member

section

variable {m m' : FieldMask} (small : m.bits < 16)

include small

theorem mem_names : ∀ entry ∈ named, m.has entry.1 = true → entry.2 ∈ m.names := by
  obtain ⟨k, rfl⟩ := exists_of_small small
  revert k
  decide +kernel

theorem names_union :
    ∀ entry ∈ named, m.has entry.1 = false →
      (m.union entry.1).bits < 16 ∧ (m.union entry.1).names.Perm (entry.2 :: m.names) := by
  obtain ⟨k, rfl⟩ := exists_of_small small
  revert k
  decide +kernel

theorem eq_of_names_perm (small' : m'.bits < 16) : m.names.Perm m'.names → m = m' := by
  obtain ⟨k, rfl⟩ := exists_of_small small
  obtain ⟨k', rfl⟩ := exists_of_small small'
  revert k k'
  decide +kernel

theorem setBits_eq : m.setBits = m.names.length := by
  obtain ⟨k, rfl⟩ := exists_of_small small
  revert k
  decide +kernel

theorem ofText?_text : ofText? m.text = .ok m := by
  obtain ⟨k, rfl⟩ := exists_of_small small
  revert k
  decide +kernel

end

/-- The names in a field list, trimmed and in capitals. -/
def listed (t : Text) : List Text := (t.splitAt Text.comma).map fun part => part.trim.capitals

/-- The field list says that there are no fields. -/
def SaysNone (t : Text) : Prop := t.trim = [] ∨ t.trim.sameName "NONE" = true

theorem readNames_eq_ok_iff {whole : Text} {m m' : FieldMask} (small : m.bits < 16) {parts : List Text} :
    readNames whole m parts = .ok m' ↔
      m'.bits < 16 ∧ m'.names.Perm ((parts.map fun part => part.trim.capitals) ++ m.names) := by
  induction parts generalizing m with
  | nil =>
    simp only [readNames, Except.ok.injEq, List.map_nil, List.nil_append]
    constructor
    · rintro rfl
      exact ⟨small, .refl _⟩
    · rintro ⟨small', same⟩
      exact (eq_of_names_perm small' small same).symm
  | cons part rest ih =>
    rw [List.map_cons, List.cons_append, readNames]
    generalize part.trim.capitals = name
    by_cases known : name ∈ named.map Prod.snd
    · obtain ⟨entry, member, rfl⟩ := List.mem_map.mp known
      simp only [find?_named entry member]
      cases present : m.has entry.1 with
      | true =>
        -- A name that the mask has would stand in the list of names twice.
        have again := mem_names small entry member present
        simp only [if_true, reduceCtorEq, false_iff, not_and]
        intro _ same
        have once := same.nodup_iff.mp m'.names_nodup
        exact (List.nodup_cons.mp once).1 (List.mem_append_right _ again)
      | false =>
        obtain ⟨small', added⟩ := names_union small entry member present
        have moved := (added.append_left (rest.map fun part => part.trim.capitals)).trans
          List.perm_middle
        simp only [Bool.false_eq_true, if_false, ih small']
        constructor
        · rintro ⟨bound, same⟩
          exact ⟨bound, same.trans moved⟩
        · rintro ⟨bound, same⟩
          exact ⟨bound, same.trans moved.symm⟩
    · have unknown : (named.find? fun other => other.2 == name) = none := by
        rw [List.find?_eq_none]
        intro entry member same
        exact known (List.mem_map.mpr ⟨entry, member, by simpa using same⟩)
      simp only [unknown, reduceCtorEq, false_iff, not_and]
      intro _ same
      exact known (m'.names_subset name (same.symm.subset List.mem_cons_self))

theorem visible_comma : 0x21 ≤ Text.comma ∧ Text.comma < 0x7f := by
  decide

theorem listed_trim (t : Text) : listed t.trim = listed t := by
  have parts := congrArg (List.map Text.capitals) (Text.map_trim_splitAt_trim visible_comma t)
  rw [List.map_map, List.map_map] at parts
  exact parts

theorem ofText?_of_saysNone {t : Text} (none : SaysNone t) : ofText? t = .ok empty := by
  have condition : (t.trim.isEmpty || t.trim.sameName "NONE") = true := by
    simpa [SaysNone] using none
  simp only [ofText?, condition, if_true]

theorem ofText?_eq_ok_iff {t : Text} (some : ¬ SaysNone t) {m : FieldMask} :
    ofText? t = .ok m ↔ m.bits < 16 ∧ m.names.Perm (listed t) := by
  have condition : ¬ (t.trim.isEmpty || t.trim.sameName "NONE") = true := by
    simpa [SaysNone] using some
  have nothing : empty.names = [] := by decide
  have read : readNames t.trim empty (t.trim.splitAt Text.comma) = .ok m ↔ _ :=
    readNames_eq_ok_iff (by decide)
  rw [nothing, List.append_nil, ← listed, listed_trim] at read
  simp only [ofText?, if_neg condition, read]

/-- Every name is that of a field, and none stands twice. -/
def Distinct (names : List Text) : Prop := names.Nodup ∧ ∀ name ∈ names, name ∈ named.map Prod.snd

theorem names_ofNames (names : List Text) :
    (ofNames names).bits < 16 ∧
      (ofNames names).names = (named.map Prod.snd).filter fun name => names.contains name := by
  simp only [ofNames, named, List.map_cons, List.map_nil, List.filter_cons, List.filter_nil]
  generalize names.contains ("RD" : Text) = rd?
  generalize names.contains ("RS1" : Text) = rs1?
  generalize names.contains ("RS2" : Text) = rs2?
  generalize names.contains ("IMM" : Text) = imm?
  revert rd? rs1? rs2? imm?
  decide +kernel

theorem Distinct.perm {names : List Text} (distinct : Distinct names) :
    (ofNames names).names.Perm names := by
  rw [(names_ofNames names).2, List.perm_ext_iff_of_nodup (named_nodup.filter _) distinct.1]
  intro name
  rw [List.mem_filter, List.contains_iff_mem]
  exact ⟨And.right, fun member => ⟨distinct.2 name member, member⟩⟩

theorem distinct_of_perm {m : FieldMask} {names : List Text} (same : m.names.Perm names) :
    Distinct names :=
  ⟨same.nodup_iff.mp m.names_nodup, fun name member => m.names_subset name (same.symm.subset member)⟩

theorem SaysNone.no_comma {t : Text} (none : SaysNone t) : Text.comma ∉ t := by
  rw [← Text.mem_trim_iff visible_comma]
  intro member
  rcases none with empty | same
  · rw [empty] at member
    cases member
  · -- The letters of the word are no commas, in either case.
    have rune := Text.mem_runes_of_ascii (Text.ascii_of_visible visible_comma) member
    have folded := List.mem_map_of_mem (f := fun r : Rune => foldedCode r.code) rune
    rw [eq_of_beq same] at folded
    exact absurd folded (by decide)

theorem SaysNone.not_distinct {t : Text} (none : SaysNone t) : ¬ Distinct (listed t) := by
  intro distinct
  have short : ∀ name ∈ named.map Prod.snd, 0 < name.length ∧ name.length < 4 := by decide
  have alone : listed t = [t.trim.capitals] := by
    rw [listed, Text.splitAt_plain none.no_comma, List.map_singleton]
  obtain ⟨least, most⟩ := short _ (distinct.2 t.trim.capitals (by simp [alone]))
  rcases none with empty | same
  · rw [empty] at least
    exact absurd least (by decide)
  · have four := congrArg List.length (eq_of_beq same)
    have bound := t.trim.length_runes_le_capitals
    simp only [List.length_map] at four
    have word : "NONE".toList.length = 4 := by decide
    omega

theorem Distinct.ofText? {t : Text} (distinct : Distinct (listed t)) :
    FieldMask.ofText? t = .ok (ofNames (listed t)) :=
  (ofText?_eq_ok_iff fun none => none.not_distinct distinct).mpr
    ⟨(names_ofNames _).1, distinct.perm⟩

theorem ofText?_succeeds_iff {t : Text} :
    (∃ m, ofText? t = .ok m) ↔ SaysNone t ∨ Distinct (listed t) := by
  by_cases none : SaysNone t
  · exact iff_of_true ⟨empty, ofText?_of_saysNone none⟩ (.inl none)
  · rw [or_iff_right none]
    constructor
    · rintro ⟨m, read⟩
      exact distinct_of_perm ((ofText?_eq_ok_iff none).mp read).2
    · intro distinct
      exact ⟨_, distinct.ofText?⟩

theorem small_of_ofText? {t : Text} {m : FieldMask} (read : ofText? t = .ok m) : m.bits < 16 := by
  by_cases none : SaysNone t
  · rw [ofText?_of_saysNone none] at read
    cases read
    decide
  · exact ((ofText?_eq_ok_iff none).mp read).1

theorem ofText?_perm {t t' : Text} (parts : (t'.splitAt Text.comma).Perm (t.splitAt Text.comma)) :
    (ofText? t').toOption = (ofText? t).toOption := by
  by_cases several : Text.comma ∈ t
  · have several' : Text.comma ∈ t' := by
      by_contra alone
      rw [Text.splitAt_plain alone] at parts
      exact alone (Text.eq_of_splitAt_eq_singleton (List.singleton_perm.mp parts).symm ▸ several)
    have names : (listed t').Perm (listed t) := parts.map _
    have same (m : FieldMask) : ofText? t' = .ok m ↔ ofText? t = .ok m := by
      rw [ofText?_eq_ok_iff fun none => none.no_comma several',
        ofText?_eq_ok_iff fun none => none.no_comma several]
      exact and_congr_right fun _ => ⟨fun each => each.trans names, fun each => each.trans names.symm⟩
    cases read : ofText? t with
    | ok m => rw [(same m).mpr read]
    | error problem =>
      cases read' : ofText? t' with
      | ok m => cases read.symm.trans ((same m).mp read')
      | error _ => rfl
  · rw [Text.splitAt_plain several] at parts
    rw [Text.eq_of_splitAt_eq_singleton (List.perm_singleton.mp parts)]

/-- Field lists. A list is read if it says that there are no fields, which gives the empty mask, or if
it names fields, each once, which gives the mask with just these fields, a bit for each part. In what
order the parts stand makes no difference. A mask that is read has only bits of fields, and prints as
a list that is read as the same mask. -/
theorem ofText?_exact (t : Text) :
    ((∃ m, ofText? t = .ok m) ↔ SaysNone t ∨ Distinct (listed t)) ∧
      (SaysNone t → ofText? t = .ok empty) ∧
      (Distinct (listed t) → ofText? t = .ok (ofNames (listed t)) ∧
        (ofNames (listed t)).setBits = (t.splitAt Text.comma).length) ∧
      (∀ t' : Text, (t'.splitAt Text.comma).Perm (t.splitAt Text.comma) →
        (ofText? t').toOption = (ofText? t).toOption) ∧
      ∀ m, ofText? t = .ok m → m.bits ≤ 15 ∧ ofText? m.text = .ok m := by
  refine ⟨ofText?_succeeds_iff, ofText?_of_saysNone, ?_, fun _ => ofText?_perm, ?_⟩
  · intro distinct
    refine ⟨distinct.ofText?, ?_⟩
    rw [setBits_eq (names_ofNames _).1, distinct.perm.length_eq, listed, List.length_map]
  · intro m read
    have small := small_of_ofText? read
    refine ⟨?_, ofText?_text small⟩
    rw [UInt8.le_iff_toNat_le]
    exact Nat.le_of_lt_succ small

end FieldMask

end TableAsm
