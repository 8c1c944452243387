import TableAsm.Proofs.Isa.RegisterFiles
import TableAsm.Proofs.Source.Classification

namespace TableAsm

/-- The number that the digits at the start of a text stand for. -/
def leadingNumber (t : Text) : Nat := Text.numeralValue 10 (t.takeWhile Text.isDigit)

theorem readNatural_decimal {t : Text} (nonempty : t ≠ []) (mixed : t.all Text.isDigit = false) :
    Text.readNatural 10 Text.max32 t =
      if leadingNumber t ≤ Text.max32 then .error .malformed else .error .outOfRange := by
  have digits : Text.isDigitOf 10 = Text.isDigit := funext Text.isDigitOf_ten
  rw [Text.readNatural_eq (by decide) nonempty, digits, mixed, ← leadingNumber]
  by_cases fits : leadingNumber t ≤ Text.max32
  · rw [if_pos fits, if_neg (Nat.not_lt.mpr fits), if_neg (by decide)]
  · rw [if_neg fits, if_pos (Nat.not_le.mp fits)]

theorem nameLike_of_flawless {name : Text} (flawless : registerNameFlaw? name = none)
    (fits : leadingNumber name ≤ Text.max32) : NameLike name := by
  obtain ⟨nonempty, -, -, unlabelled, notHex, mixed⟩ := registerNameFlaw?_eq_none_iff.mp flawless
  refine ⟨nonempty, unlabelled, after?_eq_none_iff.mpr notHex, ?_⟩
  rw [readNatural_decimal nonempty mixed, if_pos fits]

theorem classify_shadowed {name : Text} (flawless : registerNameFlaw? name = none)
    (large : ¬ leadingNumber name ≤ Text.max32) (symbols : SymbolTable)
    (register? : Text → Option UInt8) :
    classify name symbols register? = .error (literalOutOfRange "decimal" name) := by
  obtain ⟨nonempty, -, -, unlabelled, notHex, mixed⟩ := registerNameFlaw?_eq_none_iff.mp flawless
  have bare : Bare name := ⟨nonempty, unlabelled, after?_eq_none_iff.mpr notHex⟩
  have decimal := readNatural_decimal nonempty mixed
  rw [if_neg large] at decimal
  rw [classify_bare bare, decimal]

theorem registerName_word {name : Text} (flawless : registerNameFlaw? name = none) :
    LoneWord name := by
  obtain ⟨nonempty, solid, plain, unlabelled, -, -⟩ := registerNameFlaw?_eq_none_iff.mp flawless
  exact loneWord_of_no_blank nonempty solid plain unlabelled

/-- An admitted name is read as its register exactly if its leading digits, taken as a number, fit
in 32 bits. Otherwise it is refused as a number out of range. -/
theorem classify_admitted_name {names : List Text} {r : Registers}
    (admitted : Registers.ofNames names = .ok r) {i : Nat} (inside : i < names.length)
    (symbols : SymbolTable) :
    classify names[i] symbols r.index? =
      if leadingNumber names[i] ≤ Text.max32 then
        .ok { kind := .register, value := UInt32.ofNat i, token := names[i] }
      else .error (literalOutOfRange "decimal" names[i]) := by
  obtain ⟨sound, rfl⟩ := Registers.ofNames_eq_ok_iff.mp admitted
  have flawless := sound.flawless _ (List.getElem_mem inside)
  by_cases fits : leadingNumber names[i] ≤ Text.max32
  · have small := sound.small_index inside
    have value : (UInt8.ofNat i).toUInt32 = UInt32.ofNat i := by
      rw [← UInt32.toNat_inj, UInt8.toNat_toUInt32, UInt8.toNat_ofNat', UInt32.toNat_ofNat']
      omega
    rw [if_pos fits, classify_of_nameLike (nameLike_of_flawless flawless fits) symbols
      (sound.index?_getElem inside), value]
  · rw [if_neg fits, classify_shadowed flawless fits]

/-- Of two admitted names that start with a numeral of ten digits, the second is in range. -/
theorem classify_admitted_name_at_limit :
    let names : List Text := ["4294967296X", "4294967295X"]
    Registers.ofNames names = .ok ⟨names⟩ ∧
      classify "4294967295X" [] (Registers.index? ⟨names⟩) =
        .ok { kind := .register, value := 1, token := "4294967295X" } := by
  have admitted : Registers.ofNames ["4294967296X", "4294967295X"] =
      .ok ⟨["4294967296X", "4294967295X"]⟩ := by
    rfl
  exact ⟨admitted, classify_admitted_name admitted (i := 1) (by decide) []⟩

/-- An admitted name that is never read as its register. -/
theorem admitted_name_unreachable :
    Registers.ofNames ["4294967296X"] = .ok ⟨["4294967296X"]⟩ ∧
      ∀ symbols, classify "4294967296X" symbols (Registers.index? ⟨["4294967296X"]⟩) =
        .error (literalOutOfRange "decimal" "4294967296X") := by
  exact ⟨rfl, fun symbols => rfl⟩

end TableAsm
