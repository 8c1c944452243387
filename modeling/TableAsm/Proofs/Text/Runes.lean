import Mathlib.Tactic.ByContra
import Mathlib.Tactic.SplitIfs
import TableAsm.Text.Blank

namespace TableAsm

namespace Rune

def Completes (b : UInt8) (tail : Text) : Prop :=
  ∃ n low high c more, continuation? b = some (n, low, high) ∧ tail = c :: more ∧
    low ≤ c ∧ c ≤ high ∧ more.length = n - 1 ∧ more.all isContinuation = true

theorem continuation?_bounds {b low high : UInt8} {n : Nat}
    (starts : continuation? b = some (n, low, high)) : 0 < n ∧ 0x80 ≤ low ∧ high ≤ 0xbf := by
  unfold continuation? at starts
  split_ifs at starts
  all_goals
    cases starts
    decide

theorem Completes.length {b low high : UInt8} {n : Nat} {tail : Text} (completes : Completes b tail)
    (starts : continuation? b = some (n, low, high)) : tail.length = n := by
  obtain ⟨m, l, h, c, more, starts', rfl, -, -, length, -⟩ := completes
  have positive := (continuation?_bounds starts').1
  cases starts.symm.trans starts'
  simp only [List.length_cons, length]
  omega

theorem Completes.isContinuation {b c : UInt8} {tail : Text} (completes : Completes b tail)
    (member : c ∈ tail) : isContinuation c = true := by
  obtain ⟨n, low, high, first, more, starts, rfl, above, below, -, rest⟩ := completes
  obtain ⟨-, least, greatest⟩ := continuation?_bounds starts
  rcases List.mem_cons.mp member with rfl | member
  · simp only [Rune.isContinuation, Bool.and_eq_true, decide_eq_true_eq]
    exact ⟨UInt8.le_trans least above, UInt8.le_trans below greatest⟩
  · exact List.all_eq_true.mp rest c member

theorem extraBytes_of_completes {b : UInt8} {tail : Text} (completes : Completes b tail)
    (rest : Text) : extraBytes b (tail ++ rest) = tail.length := by
  have whole := completes
  obtain ⟨n, low, high, c, more, starts, rfl, above, below, length, continues⟩ := completes
  have taken : (more ++ rest).take (n - 1) = more := by rw [← length, List.take_left]
  rw [whole.length starts]
  simp only [extraBytes, List.cons_append, starts, taken]
  rw [if_pos]
  simp only [above, below, length, continues, decide_true, beq_self_eq_true, Bool.and_self]

theorem completes_of_extraBytes {b : UInt8} {rest : Text} (some : extraBytes b rest ≠ 0) :
    Completes b (rest.take (extraBytes b rest)) := by
  unfold extraBytes at some ⊢
  split at some
  · rename_i n low high c more starts
    have positive := (continuation?_bounds starts).1
    simp only at some ⊢
    split_ifs at some ⊢ with valid
    · simp only [Bool.and_eq_true, decide_eq_true_eq, beq_iff_eq] at valid
      obtain ⟨⟨⟨above, below⟩, length⟩, continues⟩ := valid
      refine ⟨n, low, high, c, more.take (n - 1), starts, ?_, above, below, length, continues⟩
      obtain ⟨k, rfl⟩ : ∃ k, n = k + 1 := ⟨n - 1, by omega⟩
      simp
    · exact absurd rfl some
  · exact absurd rfl some

theorem length_take_extraBytes (b : UInt8) (rest : Text) :
    (rest.take (extraBytes b rest)).length = extraBytes b rest := by
  by_cases none : extraBytes b rest = 0
  · simp [none]
  · have completes := completes_of_extraBytes none
    have whole := extraBytes_of_completes completes (rest.drop (extraBytes b rest))
    rw [List.take_append_drop] at whole
    exact whole.symm

theorem extraBytes_le_length (b : UInt8) (rest : Text) : extraBytes b rest ≤ rest.length := by
  have same := length_take_extraBytes b rest
  rw [List.length_take] at same
  omega

theorem extraBytes_append_of_ne_zero {b : UInt8} {front : Text} (some : extraBytes b front ≠ 0)
    (back : Text) : extraBytes b (front ++ back) = extraBytes b front := by
  have completes := completes_of_extraBytes some
  have whole := extraBytes_of_completes completes (front.drop (extraBytes b front) ++ back)
  rwa [← List.append_assoc, List.take_append_drop, length_take_extraBytes] at whole

theorem extraBytes_append_of_le {b : UInt8} {front back : Text}
    (within : extraBytes b (front ++ back) ≤ front.length) :
    extraBytes b front = extraBytes b (front ++ back) := by
  by_cases none : extraBytes b (front ++ back) = 0
  · by_contra differ
    rw [none] at differ
    exact differ ((extraBytes_append_of_ne_zero differ back).symm.trans none)
  · have completes := completes_of_extraBytes none
    rw [List.take_append_of_le_length within] at completes
    have read := extraBytes_of_completes completes (front.drop (extraBytes b (front ++ back)))
    rw [List.take_append_drop, List.length_take, Nat.min_eq_left within] at read
    exact read

theorem extraBytes_append_of_fresh {back : Text}
    (fresh : ∀ c ∈ back.head?, isContinuation c = false) (b : UInt8) (front : Text) :
    extraBytes b (front ++ back) = extraBytes b front := by
  symm
  apply extraBytes_append_of_le
  by_contra beyond
  have none : extraBytes b (front ++ back) ≠ 0 := by omega
  have bound := extraBytes_le_length b (front ++ back)
  cases back with
  | nil => simp only [List.append_nil] at beyond bound; omega
  | cons c back =>
    have completes := completes_of_extraBytes none
    have member : c ∈ (front ++ c :: back).take (extraBytes b (front ++ c :: back)) := by
      rw [List.mem_take_iff_getElem]
      exact ⟨front.length, by simp; omega, by simp⟩
    have continues := completes.isContinuation member
    rw [fresh c rfl] at continues
    cases continues

theorem extraBytes_ascii {b : UInt8} (ascii : b < 0x80) (rest : Text) : extraBytes b rest = 0 := by
  by_contra some
  obtain ⟨n, low, high, c, more, starts, -⟩ := completes_of_extraBytes some
  simp only [UInt8.lt_iff_toNat_lt, UInt8.reduceToNat] at ascii
  simp only [continuation?, UInt8.le_iff_toNat_le, ← UInt8.toNat_inj, UInt8.reduceToNat] at starts
  repeat rw [if_neg (by omega)] at starts
  cases starts

theorem not_isContinuation_of_ascii {b : UInt8} (ascii : b < 0x80) : isContinuation b = false := by
  simp only [isContinuation, Bool.and_eq_false_iff, decide_eq_false_iff_not, UInt8.not_le]
  exact .inl ascii

theorem not_isContinuation_of_starts {b : UInt8} {more : Nat × UInt8 × UInt8}
    (starts : continuation? b = some more) : isContinuation b = false := by
  simp only [isContinuation, Bool.and_eq_false_iff, decide_eq_false_iff_not]
  simp only [continuation?, UInt8.le_iff_toNat_le, ← UInt8.toNat_inj, UInt8.reduceToNat] at starts ⊢
  split_ifs at starts
  all_goals omega

theorem read_append {b : UInt8} {front back : Text}
    (within : extraBytes b (front ++ back) ≤ front.length) : read b (front ++ back) = read b front := by
  have same := extraBytes_append_of_le within
  simp only [read, same, List.take_append_of_le_length within]

end Rune

namespace Text

def Fresh (t : Text) : Prop := ∀ c ∈ t.head?, Rune.isContinuation c = false

theorem rune_induction {motive : Text → Prop} (nil : motive [])
    (cons : ∀ b rest, motive (rest.drop (Rune.extraBytes b rest)) → motive (b :: rest)) (t : Text) :
    motive t := by
  generalize size : t.length = n
  induction n using Nat.strongRecOn generalizing t with
  | ind n ih =>
    cases t with
    | nil => exact nil
    | cons b rest =>
      apply cons
      apply ih _ _ _ rfl
      simp only [← size, List.length_drop, List.length_cons]
      omega

theorem runesOnto_eq (acc : List Rune) (skip : Nat) (t : Text) :
    runesOnto acc skip t = acc.reverse ++ runes (t.drop skip) := by
  induction t generalizing acc skip with
  | nil => simp [runes, runesOnto]
  | cons b rest ih =>
    cases skip with
    | zero =>
      have first : runes (b :: rest) = [Rune.read b rest].reverse ++ runes (rest.drop (Rune.extraBytes b rest)) := by
        rw [runes, runesOnto, ih]
      rw [runesOnto, ih, List.drop_zero, first]
      simp
    | succ skip => rw [runesOnto, ih, List.drop_succ_cons]

@[simp] theorem runes_nil : runes [] = [] := by
  simp [runes, runesOnto]

theorem runes_cons (b : UInt8) (rest : Text) :
    runes (b :: rest) = Rune.read b rest :: runes (rest.drop (Rune.extraBytes b rest)) := by
  rw [runes, runesOnto, runesOnto_eq]
  simp

theorem runes_cons_ascii {b : UInt8} (ascii : b < 0x80) (rest : Text) :
    runes (b :: rest) = ⟨b.toNat, [b]⟩ :: runes rest := by
  rw [runes_cons, Rune.extraBytes_ascii ascii, List.drop_zero, Rune.read, Rune.extraBytes_ascii ascii]
  simp [Rune.sequenceCode, ascii]

@[simp] theorem ofRunes_nil : ofRunes [] = [] := rfl

@[simp] theorem ofRunes_cons (r : Rune) (rs : List Rune) :
    ofRunes (r :: rs) = r.bytes ++ ofRunes rs := rfl

@[simp] theorem ofRunes_append (rs more : List Rune) :
    ofRunes (rs ++ more) = ofRunes rs ++ ofRunes more := List.flatMap_append

@[simp] theorem ofRunes_runes (t : Text) : ofRunes t.runes = t := by
  induction t using rune_induction with
  | nil => simp
  | cons b rest ih =>
    rw [runes_cons, ofRunes_cons, ih]
    simp [Rune.read]

theorem runes_append {back : Text} (fresh : back.Fresh) (front : Text) :
    runes (front ++ back) = runes front ++ runes back := by
  induction front using rune_induction with
  | nil => simp
  | cons b rest ih =>
    have same := Rune.extraBytes_append_of_fresh fresh b rest
    have within := Rune.extraBytes_le_length b rest
    rw [List.cons_append, runes_cons, runes_cons, same, Rune.read_append (same ▸ within),
      List.drop_append_of_le_length within, ih, List.cons_append]

theorem runes_ofRunes_front {t : Text} {front back : List Rune} (cut : t.runes = front ++ back) :
    runes (ofRunes front) = front := by
  induction t using rune_induction generalizing front with
  | nil =>
    obtain ⟨rfl, -⟩ := List.append_eq_nil_iff.mp (runes_nil ▸ cut.symm)
    exact runes_nil
  | cons b rest ih =>
    rw [runes_cons] at cut
    cases front with
    | nil => simp
    | cons r front =>
      obtain ⟨rfl, tail⟩ := List.cons.inj (cut.trans (List.cons_append ..))
      have length := Rune.length_take_extraBytes b rest
      -- The rest of the text, cut where the runes kept end.
      have parts : rest = (rest.take (Rune.extraBytes b rest) ++ ofRunes front) ++ ofRunes back := by
        have bytes := congrArg ofRunes tail
        rw [ofRunes_runes, ofRunes_append] at bytes
        rw [List.append_assoc, ← bytes, List.take_append_drop]
      generalize kept : rest.take (Rune.extraBytes b rest) ++ ofRunes front = left at parts
      have within : Rune.extraBytes b (left ++ ofRunes back) ≤ left.length := by
        rw [← parts, ← kept, List.length_append, length]
        omega
      have same : Rune.extraBytes b left = Rune.extraBytes b rest := by
        rw [Rune.extraBytes_append_of_le within, ← parts]
      have front_bytes : ofRunes (Rune.read b rest :: front) = b :: left := by
        rw [ofRunes_cons, ← kept, Rune.read, List.cons_append]
      have dropped : left.drop (Rune.extraBytes b rest) = ofRunes front := by
        rw [← kept, List.drop_left' length]
      rw [front_bytes, runes_cons, same, dropped, ih tail]
      conv_rhs => rw [parts, Rune.read_append within]

theorem runes_ofRunes_back {t : Text} {front back : List Rune} (cut : t.runes = front ++ back) :
    runes (ofRunes back) = back := by
  induction t using rune_induction generalizing front with
  | nil =>
    obtain ⟨-, rfl⟩ := List.append_eq_nil_iff.mp (runes_nil ▸ cut.symm)
    exact runes_nil
  | cons b rest ih =>
    cases front with
    | nil => rw [List.nil_append] at cut; rw [← cut, ofRunes_runes]
    | cons r front =>
      rw [runes_cons] at cut
      exact ih (List.cons.inj (cut.trans (List.cons_append ..))).2

theorem mem_runes_of_ascii {b : UInt8} {t : Text} (ascii : b < 0x80) (member : b ∈ t) :
    (⟨b.toNat, [b]⟩ : Rune) ∈ t.runes := by
  obtain ⟨front, back, rfl⟩ := List.append_of_mem member
  have fresh : Fresh (b :: back) := by
    intro c head
    cases head
    exact Rune.not_isContinuation_of_ascii ascii
  simp [runes_append fresh, runes_cons_ascii ascii]

@[simp] theorem ofString_eq_nil_iff {s : String} : ofString s = [] ↔ s = "" := by
  rw [ofString, ← String.utf8ByteSize_eq_zero_iff]
  constructor
  · intro none
    have size := congrArg List.length none
    simpa using size
  · intro size
    apply List.eq_nil_of_length_eq_zero
    simpa using size

theorem ofString_ofList (cs : List Char) : ofString (String.ofList cs) = cs.flatMap ofChar := by
  rw [ofString, String.toUTF8_eq_toByteArray, String.toByteArray_ofList, List.utf8Encode,
    List.data_toByteArray]
  rfl

end Text

end TableAsm
