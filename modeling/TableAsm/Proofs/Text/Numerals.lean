import Mathlib.Data.List.Forall2
import Mathlib.Data.List.Induction
import Mathlib.Data.List.TakeWhile
import Mathlib.Data.Nat.Digits.Defs
import Mathlib.Tactic.SplitIfs
import TableAsm.Proofs.Text.Runes
import TableAsm.Text.Numeral

namespace TableAsm.Text

def isDigitOf (base : Nat) (b : UInt8) : Bool :=
  match digitValue? b with
  | some d => d < base
  | none => false

def valueFrom (base : Nat) (n : Nat) (digits : Text) : Nat :=
  digits.foldl (fun n b => n * base + (digitValue? b).getD 0) n

def numeralValue (base : Nat) (digits : Text) : Nat := valueFrom base 0 digits

@[simp] theorem valueFrom_nil (base n : Nat) : valueFrom base n [] = n := rfl

@[simp] theorem valueFrom_cons (base n : Nat) (b : UInt8) (digits : Text) :
    valueFrom base n (b :: digits) = valueFrom base (n * base + (digitValue? b).getD 0) digits := rfl

theorem valueFrom_append (base n : Nat) (front back : Text) :
    valueFrom base n (front ++ back) = valueFrom base (valueFrom base n front) back :=
  List.foldl_append

theorem le_valueFrom {base : Nat} (positive : 0 < base) (n : Nat) (digits : Text) :
    n ≤ valueFrom base n digits := by
  induction digits generalizing n with
  | nil => exact Nat.le_refl n
  | cons b digits ih =>
    have step : n ≤ n * base + (digitValue? b).getD 0 :=
      Nat.le_trans (Nat.le_mul_of_pos_right n positive) (Nat.le_add_right _ _)
    rw [valueFrom_cons]
    exact Nat.le_trans step (ih _)

theorem digitValue?_of_isDigitOf {base : Nat} {b : UInt8} (digit : isDigitOf base b = true) :
    ∃ d, digitValue? b = some d ∧ d < base := by
  unfold isDigitOf at digit
  split at digit
  · rename_i d value
    exact ⟨d, value, of_decide_eq_true digit⟩
  · cases digit

/-- The outcome of reading digits: the leading digits decide about the range, and only if they are
in range the first byte that is no digit counts. -/
theorem readDigits_eq {base max n : Nat} (positive : 0 < base) (bound : n ≤ max) (t : Text) :
    readDigits base max n t =
      if max < valueFrom base n (t.takeWhile (isDigitOf base)) then .error .outOfRange
      else if t.all (isDigitOf base) = true then .ok (valueFrom base n t)
      else .error .malformed := by
  induction t generalizing n with
  | nil => simp [readDigits, Nat.not_lt.mpr bound]
  | cons b rest ih =>
    cases digit : isDigitOf base b with
    | false =>
      have refused : readDigits base max n (b :: rest) = .error .malformed := by
        unfold isDigitOf at digit
        cases value : digitValue? b with
        | none => simp [readDigits, value]
        | some d =>
          rw [value] at digit
          simp [readDigits, value, Nat.le_of_not_lt (of_decide_eq_false digit)]
      simp [refused, digit, Nat.not_lt.mpr bound]
    | true =>
      obtain ⟨d, value, small⟩ := digitValue?_of_isDigitOf digit
      have leading : (b :: rest).takeWhile (isDigitOf base) = b :: rest.takeWhile (isDigitOf base) := by
        rw [List.takeWhile_cons, digit, if_pos rfl]
      rw [readDigits, leading, List.all_cons, digit]
      simp only [value, valueFrom_cons, Option.getD_some, Bool.true_and, if_neg (Nat.not_le.mpr small)]
      by_cases large : max < n * base + d
      · have beyond := Nat.lt_of_lt_of_le large
          (le_valueFrom positive (n * base + d) (rest.takeWhile (isDigitOf base)))
        rw [if_pos large, if_pos beyond]
      · rw [if_neg large, ih (Nat.not_lt.mp large)]

theorem readNatural_eq {base max : Nat} (positive : 0 < base) {t : Text} (nonempty : t ≠ []) :
    readNatural base max t =
      if max < numeralValue base (t.takeWhile (isDigitOf base)) then .error .outOfRange
      else if t.all (isDigitOf base) = true then .ok (numeralValue base t)
      else .error .malformed := by
  have present : ¬ t.isEmpty = true := by simpa using nonempty
  rw [readNatural, if_neg present, readDigits_eq positive (Nat.zero_le max)]
  rfl

def Digit (base : Nat) (b : UInt8) (d : Nat) : Prop :=
  d < base ∧ (d < 10 ∧ b.toNat = 0x30 + d ∨
    10 ≤ d ∧ (b.toNat = 0x61 + (d - 10) ∨ b.toNat = 0x41 + (d - 10)))

/-- The bytes stand for the digits of `v` in the base, the most significant first; zeros may lead. -/
def Spells (base : Nat) (t : Text) (v : Nat) : Prop :=
  t ≠ [] ∧ ∃ digits, List.Forall₂ (Digit base) t digits ∧ Nat.ofDigits base digits.reverse = v

def Overruns (base max : Nat) (t : Text) : Prop :=
  ∃ digits v b rest, t = digits ++ b :: rest ∧ Spells base digits v ∧ max < v ∧ ∀ d, ¬ Digit base b d

section

variable {base max : Nat} {t : Text} {v : Nat}

theorem digit_iff (small : base ≤ 36) {b : UInt8} {d : Nat} :
    Digit base b d ↔ isDigitOf base b = true ∧ (digitValue? b).getD 0 = d := by
  simp only [Digit, isDigitOf, digitValue?, UInt8.le_iff_toNat_le, UInt8.reduceToNat]
  split_ifs
  all_goals simp only [Option.getD_some, decide_eq_true_eq, false_and, iff_false]
  all_goals omega

theorem isDigitOf_eq_false_iff (small : base ≤ 36) {b : UInt8} :
    isDigitOf base b = false ↔ ∀ d, ¬ Digit base b d := by
  simp [digit_iff small]

theorem forall₂_digit_iff (small : base ≤ 36) {digits : List Nat} :
    List.Forall₂ (Digit base) t digits ↔
      (∀ b ∈ t, isDigitOf base b = true) ∧ t.map (fun b => (digitValue? b).getD 0) = digits := by
  induction t generalizing digits with
  | nil =>
    simp only [List.forall₂_nil_left_iff, List.map_nil, List.not_mem_nil, false_implies, implies_true,
      true_and, eq_comm]
  | cons b t ih =>
    cases digits with
    | nil => simp
    | cons d digits =>
      simp only [List.forall₂_cons, digit_iff small, ih, List.forall_mem_cons, List.map_cons, List.cons.injEq]
      tauto

theorem numeralValue_eq_ofDigits (base : Nat) (t : Text) :
    numeralValue base t = Nat.ofDigits base (t.map fun b => (digitValue? b).getD 0).reverse := by
  induction t using List.reverseRecOn with
  | nil => rfl
  | append_singleton t b ih =>
    rw [numeralValue, valueFrom_append]
    change numeralValue base t * base + _ = _
    rw [ih, List.map_append, List.map_singleton, List.reverse_append, List.reverse_singleton,
      List.singleton_append, Nat.ofDigits_cons, Nat.mul_comm, Nat.add_comm]

theorem spells_iff (small : base ≤ 36) :
    Spells base t v ↔ t ≠ [] ∧ (∀ b ∈ t, isDigitOf base b = true) ∧ numeralValue base t = v := by
  simp only [Spells, forall₂_digit_iff small]
  constructor
  · rintro ⟨nonempty, _, ⟨digits, rfl⟩, rfl⟩
    exact ⟨nonempty, digits, numeralValue_eq_ofDigits base t⟩
  · rintro ⟨nonempty, digits, rfl⟩
    exact ⟨nonempty, _, ⟨digits, rfl⟩, (numeralValue_eq_ofDigits base t).symm⟩

theorem Spells.digits (small : base ≤ 36) (spells : Spells base t v) :
    ∀ b ∈ t, isDigitOf base b = true :=
  ((spells_iff small).mp spells).2.1

theorem Overruns.not_spells (small : base ≤ 36) (overruns : Overruns base max t) : ¬ Spells base t v := by
  obtain ⟨digits, n, b, rest, rfl, -, -, bad⟩ := overruns
  intro spells
  have digit := spells.digits small b (by simp)
  rw [(isDigitOf_eq_false_iff small).mpr bad] at digit
  cases digit

/-- The leading digits are too many either because the whole numeral is out of range, or in front of
a byte that is no digit. -/
theorem exceeds_iff (small : base ≤ 36) :
    max < numeralValue base (t.takeWhile (isDigitOf base)) ↔
      (∃ v, Spells base t v ∧ max < v) ∨ Overruns base max t := by
  constructor
  · intro large
    have nonempty : t.takeWhile (isDigitOf base) ≠ [] := by
      intro none
      rw [none] at large
      exact Nat.not_lt_zero max large
    have leading : Spells base (t.takeWhile (isDigitOf base)) _ :=
      (spells_iff small).mpr ⟨nonempty, fun _ => List.mem_takeWhile_imp, rfl⟩
    have split := List.takeWhile_append_dropWhile (p := isDigitOf base) (l := t)
    have bad := List.head?_dropWhile_not (isDigitOf base) t
    cases rest : t.dropWhile (isDigitOf base) with
    | nil =>
      rw [rest, List.append_nil] at split
      rw [split] at leading large
      exact .inl ⟨_, leading, large⟩
    | cons b rest' =>
      rw [rest] at split bad
      have stray : isDigitOf base b = false := by simpa using bad
      exact .inr ⟨_, _, b, rest', split.symm, leading, large, (isDigitOf_eq_false_iff small).mp stray⟩
  · rintro (⟨v, spells, large⟩ | ⟨digits, v, b, rest, rfl, spells, large, bad⟩)
    · obtain ⟨-, digits, rfl⟩ := (spells_iff small).mp spells
      rw [List.takeWhile_eq_self_iff.mpr digits]
      exact large
    · obtain ⟨-, each, rfl⟩ := (spells_iff small).mp spells
      have stray := (isDigitOf_eq_false_iff small).mpr bad
      rw [List.takeWhile_append_of_pos each, List.takeWhile_cons_of_neg (by simp [stray]), List.append_nil]
      exact large

theorem readNatural_eq_ok_iff (positive : 0 < base) (small : base ≤ 36) :
    readNatural base max t = .ok v ↔ Spells base t v ∧ v ≤ max := by
  rw [spells_iff small]
  by_cases empty : t = []
  · simp [readNatural, empty]
  rw [readNatural_eq positive empty]
  by_cases digits : ∀ b ∈ t, isDigitOf base b = true
  · rw [List.takeWhile_eq_self_iff.mpr digits, if_pos (List.all_eq_true.mpr digits)]
    by_cases large : max < numeralValue base t
    · simp only [if_pos large, reduceCtorEq, false_iff, not_and]
      rintro ⟨-, -, rfl⟩
      exact Nat.not_le.mpr large
    · simp only [if_neg large, Except.ok.injEq]
      constructor
      · rintro rfl
        exact ⟨⟨empty, digits, rfl⟩, Nat.not_lt.mp large⟩
      · rintro ⟨⟨-, -, value⟩, -⟩
        exact value
  · rw [if_neg (fun all => digits (List.all_eq_true.mp all))]
    simp only [digits, false_and, and_false, iff_false]
    split <;> simp

theorem readNatural_eq_outOfRange_iff (positive : 0 < base) (small : base ≤ 36) :
    readNatural base max t = .error .outOfRange ↔
      (∃ v, Spells base t v ∧ max < v) ∨ Overruns base max t := by
  rw [← exceeds_iff small]
  by_cases empty : t = []
  · subst empty
    simp [readNatural, numeralValue]
  rw [readNatural_eq positive empty]
  split
  · simp_all
  · rename_i fits
    split <;> simp [fits]

theorem readNatural_eq_malformed_iff (positive : 0 < base) (small : base ≤ 36) :
    readNatural base max t = .error .malformed ↔
      (t = [] ∨ ∃ b ∈ t, ∀ d, ¬ Digit base b d) ∧ ¬ Overruns base max t := by
  by_cases empty : t = []
  · subst empty
    simp [readNatural, Overruns]
  simp only [← isDigitOf_eq_false_iff small]
  rw [readNatural_eq positive empty, or_iff_right empty]
  by_cases large : max < numeralValue base (t.takeWhile (isDigitOf base))
  · rw [if_pos large]
    simp only [Except.error.injEq, reduceCtorEq, false_iff, not_and, not_not]
    rintro ⟨b, member, bad⟩
    refine ((exceeds_iff small).mp large).resolve_left ?_
    rintro ⟨v, spells, -⟩
    rw [spells.digits small b member] at bad
    cases bad
  · have bounded : ¬ Overruns base max t := fun overruns => large ((exceeds_iff small).mpr (.inr overruns))
    rw [if_neg large]
    simp [bounded]

end

theorem digitValue?_digitByte {d : Nat} (small : d < 16) : digitValue? (digitByte d) = some d := by
  have table : ∀ d : Fin 16, digitValue? (digitByte d.val) = some d.val := by decide
  exact table ⟨d, small⟩

theorem isDigitOf_digitByte {base d : Nat} (small : base ≤ 16) (below : d < base) :
    isDigitOf base (digitByte d) = true := by
  simp [isDigitOf, digitValue?_digitByte (Nat.lt_of_lt_of_le below small), below]

theorem isDigitOf_ten (b : UInt8) : isDigitOf 10 b = isDigit b := by
  have equal : isDigitOf 10 b = true ↔ isDigit b = true := by
    simp only [isDigitOf, digitValue?, isDigit, UInt8.le_iff_toNat_le, UInt8.reduceToNat,
      Bool.and_eq_true, decide_eq_true_eq]
    split_ifs <;> simp <;> omega
  exact Bool.eq_iff_iff.mpr equal

theorem visible_of_digit {base : Nat} {b : UInt8} (digit : isDigitOf base b = true) :
    0x21 ≤ b ∧ b < 0x7f := by
  obtain ⟨d, value, -⟩ := digitValue?_of_isDigitOf digit
  simp only [digitValue?, UInt8.le_iff_toNat_le, UInt8.lt_iff_toNat_lt, UInt8.reduceToNat] at value ⊢
  split_ifs at value <;> omega

theorem length_fixedDigits (base width n : Nat) : (fixedDigits base width n).length = width := by
  induction width generalizing n with
  | zero => rfl
  | succ width ih => rw [fixedDigits, List.length_append, ih, List.length_singleton]

theorem fixedDigits_digits {base : Nat} (positive : 0 < base) (small : base ≤ 16) (width n : Nat) :
    ∀ b ∈ fixedDigits base width n, isDigitOf base b = true := by
  induction width generalizing n with
  | zero => simp [fixedDigits]
  | succ width ih =>
    intro b member
    rw [fixedDigits, List.mem_append, List.mem_singleton] at member
    rcases member with member | rfl
    · exact ih _ b member
    · exact isDigitOf_digitByte small (Nat.mod_lt n positive)

theorem numeralValue_fixedDigits {base : Nat} (positive : 0 < base) (small : base ≤ 16) (width n : Nat) :
    numeralValue base (fixedDigits base width n) = n % Nat.pow base width := by
  induction width generalizing n with
  | zero => exact (Nat.mod_one n).symm
  | succ width ih =>
    have bound := Nat.lt_of_lt_of_le (Nat.mod_lt n positive) small
    have split : n % Nat.pow base (width + 1) = n % base + base * (n / base % Nat.pow base width) := by
      rw [Nat.pow_eq, Nat.pow_eq, Nat.pow_succ, Nat.mul_comm, Nat.mod_mul]
    rw [numeralValue, fixedDigits, valueFrom_append]
    change valueFrom base (numeralValue base (fixedDigits base width (n / base))) _ = _
    rw [ih, split, valueFrom_cons, digitValue?_digitByte bound, valueFrom_nil, Option.getD_some,
      Nat.mul_comm, Nat.add_comm]

theorem spells_fixedDigits {base : Nat} (positive : 0 < base) (small : base ≤ 16) {width n : Nat}
    (some : 0 < width) (fits : n < Nat.pow base width) : Spells base (fixedDigits base width n) n := by
  rw [spells_iff (Nat.le_trans small (by decide))]
  refine ⟨?_, fixedDigits_digits positive small width n, ?_⟩
  · rw [← List.length_pos_iff, length_fixedDigits]
    exact some
  · rw [numeralValue_fixedDigits positive small, Nat.mod_eq_of_lt fits]

theorem fixedDigits_add (base high low n : Nat) :
    fixedDigits base (high + low) n =
      fixedDigits base high (n / Nat.pow base low) ++ fixedDigits base low n := by
  induction low generalizing n with
  | zero => simp [fixedDigits]
  | succ low ih =>
    have shifted : n / base / Nat.pow base low = n / Nat.pow base (low + 1) := by
      rw [Nat.div_div_eq_div_mul, Nat.pow_eq, Nat.pow_eq, Nat.pow_succ, Nat.mul_comm]
    rw [← Nat.add_assoc, fixedDigits, ih, shifted, List.append_assoc, fixedDigits]

theorem fixedDigits_mod (base width n : Nat) :
    fixedDigits base width (n % Nat.pow base width) = fixedDigits base width n := by
  induction width generalizing n with
  | zero => rfl
  | succ width ih =>
    have power : Nat.pow base (width + 1) = base * Nat.pow base width := by
      rw [Nat.pow_eq, Nat.pow_eq, Nat.pow_succ, Nat.mul_comm]
    rw [fixedDigits, power, Nat.mod_mul_right_div_self, Nat.mod_mul_right_mod, ih, fixedDigits]

theorem fixedDigits_two (width n : Nat) :
    fixedDigits 2 width n =
      (List.range width).map fun i => if n.testBit (width - 1 - i) then 0x31 else 0x30 := by
  induction width generalizing n with
  | zero => rfl
  | succ width ih =>
    have last : digitByte (n % 2) = if n.testBit 0 then 0x31 else 0x30 := by
      rw [Nat.testBit_zero]
      rcases Nat.mod_two_eq_zero_or_one n with even | odd
      · rw [even]
        rfl
      · rw [odd]
        rfl
    have front : (List.range width).map (fun i => if (n / 2).testBit (width - 1 - i) then 0x31 else 0x30) =
        (List.range width).map fun i => if n.testBit (width + 1 - 1 - i) then (0x31 : UInt8) else 0x30 := by
      apply List.map_congr_left
      intro i member
      have below := List.mem_range.mp member
      have shifted : width + 1 - 1 - i = (width - 1 - i) + 1 := by omega
      rw [shifted, Nat.testBit_add_one]
    rw [fixedDigits, ih, List.range_succ, List.map_append, List.map_singleton, last, front,
      Nat.add_sub_cancel, Nat.sub_self]

section

variable {base : Nat} {t : Text} {v d : Nat}

theorem Spells.unique (small : base ≤ 36) (spells : Spells base t v) {v' : Nat}
    (spells' : Spells base t v') : v = v' := by
  obtain ⟨-, -, rfl⟩ := (spells_iff small).mp spells
  exact ((spells_iff small).mp spells').2.2

theorem spells_digitByte (small : base ≤ 16) (below : d < base) : Spells base [digitByte d] d := by
  have value := digitValue?_digitByte (Nat.lt_of_lt_of_le below small)
  rw [spells_iff (Nat.le_trans small (by decide))]
  refine ⟨by simp, by simp [isDigitOf_digitByte small below], ?_⟩
  simp [numeralValue, value]

theorem Spells.concat (small : base ≤ 16) (spells : Spells base t v) (below : d < base) :
    Spells base (t ++ [digitByte d]) (v * base + d) := by
  have value := digitValue?_digitByte (Nat.lt_of_lt_of_le below small)
  rw [spells_iff (Nat.le_trans small (by decide))] at spells ⊢
  obtain ⟨-, digits, rfl⟩ := spells
  refine ⟨by simp, ?_, ?_⟩
  · intro b member
    rcases List.mem_append.mp member with member | member
    · exact digits b member
    · rw [List.mem_singleton.mp member]
      exact isDigitOf_digitByte small below
  · rw [numeralValue, valueFrom_append, valueFrom_cons, value]
    rfl

theorem Spells.zeros_append (positive : 0 < base) (small : base ≤ 36) (spells : Spells base t v)
    (count : Nat) : Spells base (List.replicate count 0x30 ++ t) v := by
  have zero : digitValue? 0x30 = some 0 := by decide
  induction count with
  | zero => exact spells
  | succ count ih =>
    rw [spells_iff small] at ih ⊢
    obtain ⟨-, digits, value⟩ := ih
    rw [List.replicate_succ, List.cons_append]
    refine ⟨by simp, List.forall_mem_cons.mpr ⟨by simp [isDigitOf, zero, positive], digits⟩, ?_⟩
    rw [numeralValue, valueFrom_cons, zero, Nat.zero_mul]
    exact value

theorem ofChar_digitChar (small : d < 16) : ofChar (Nat.digitChar d) = [digitByte d] := by
  have table : ∀ d : Fin 16, ofChar (Nat.digitChar d.val) = [digitByte d.val] := by decide
  exact table ⟨d, small⟩

theorem spells_toDigits (two : 1 < base) (small : base ≤ 16) (n : Nat) :
    Spells base ((Nat.toDigits base n).flatMap ofChar) n := by
  induction n using Nat.strongRecOn with
  | ind n ih =>
    by_cases below : n < base
    · rw [Nat.toDigits_of_lt_base below, List.flatMap_singleton, ofChar_digitChar (by omega)]
      exact spells_digitByte small below
    · have last := Nat.mod_lt n (by omega : 0 < base)
      have whole := (ih (n / base) (Nat.div_lt_self (by omega) two)).concat small last
      rw [Nat.div_add_mod'] at whole
      rw [Nat.toDigits_of_base_le two (by omega), List.flatMap_append, List.flatMap_singleton,
        ofChar_digitChar (by omega)]
      exact whole

end

theorem spells_hex (n : Nat) : Spells 16 (hex n) n := spells_toDigits (by decide) (by decide) n

theorem spells_hexPadded (width n : Nat) : Spells 16 (hexPadded width n) n :=
  (spells_hex n).zeros_append (by decide) (by decide) _

theorem spells_decimal (n : Nat) : Spells 10 (decimal n) n := by
  have digits : Spells 10 ((Nat.toDigits 10 n).flatMap ofChar) n := spells_toDigits (by decide) (by decide) n
  rwa [← ofString_ofList, ← Nat.repr_eq_ofList_toDigits] at digits

theorem decimal_injective : Function.Injective decimal := by
  intro n m same
  have digits := spells_decimal n
  rw [same] at digits
  exact digits.unique (by decide) (spells_decimal m)

theorem isDigit_of_mem_decimal {n : Nat} {b : UInt8} (member : b ∈ decimal n) : isDigit b = true := by
  rw [← isDigitOf_ten]
  exact (spells_decimal n).digits (by decide) b member

end TableAsm.Text
