import TableAsm.Proofs.Source.Classification
import TableAsm.Proofs.Word.StrayBits
import TableAsm.Word.Explain

namespace TableAsm

/-- The ranges follow each other from `top` down to zero. Each ends where the one before it starts. -/
def Descends : (top : Nat) → List (Nat × Nat) → Prop
  | top, [] => top = 0
  | top, range :: ranges => range.2 = top ∧ range.1 < range.2 ∧ Descends range.1 ranges

/-- A half-open range as it is shown. -/
def rangeText (range : Nat × Nat) : Text :=
  "[" ++ Text.decimal range.1 ++ "," ++ Text.decimal range.2 ++ ")"

namespace BitField

/-- The bits of the field: the lowest, and the first above them. -/
def range (f : BitField) : Nat × Nat := (f.shift, f.shift + f.width)

theorem layout_descends : Descends 64 (layout.map range) := by
  simp [Descends, layout, range, fields, group, opcode, rd, rs1, rs2, imm]

theorem toNat_get {f : BitField} (fits : f.width ≤ 64) (w : Word) :
    (f.get w).toNat = w.toNat / Nat.pow 2 f.shift % Nat.pow 2 f.width := by
  rw [get, toNat_cut fits, Word.lowered_eq_ushiftRight, BitVec.toNat_ushiftRight, Nat.shiftRight_eq_div_pow]
  rfl

theorem flatten_digits {fields : List BitField} {top : Nat} (descends : Descends top (fields.map range))
    (bound : top ≤ 64) (w : Word) :
    (fields.map fun f => Text.fixedDigits 2 f.width (f.get w).toNat).flatten =
      Text.fixedDigits 2 top w.toNat := by
  -- The first field holds the highest digits below the top, the fields behind it all the others.
  induction fields generalizing top with
  | nil =>
    have low : top = 0 := descends
    rw [low]
    rfl
  | cons f fields ih =>
    obtain ⟨high, -, below⟩ := descends
    have whole : f.width + f.shift = top := by
      rw [Nat.add_comm]
      exact high
    have digits : Text.fixedDigits 2 f.width (f.get w).toNat =
        Text.fixedDigits 2 f.width (w.toNat / Nat.pow 2 f.shift) := by
      rw [toNat_get (by omega), Text.fixedDigits_mod]
    have others := ih below (by rw [range]; omega)
    rw [List.map_cons, List.flatten_cons, others, digits, ← whole, Text.fixedDigits_add, range]

end BitField

def leadingValue? (base : Nat) (t : Text) : Option Nat :=
  let digits := t.takeWhile (Text.isDigitOf base)
  if digits.isEmpty then none else some (Text.numeralValue base digits)

/-- The number that a text starts with: in hexadecimal behind the mark, else in decimal. -/
def shownNumber? (t : Text) : Option Nat :=
  match Text.after? hexMark t with
  | some digits => leadingValue? 16 digits
  | none => leadingValue? 10 t

theorem leadingValue?_spelled {base : Nat} {digits rest : Text} {n : Nat} (small : base ≤ 36)
    (spells : Text.Spells base digits n) (ends : ∀ b ∈ rest.head?, Text.isDigitOf base b = false) :
    leadingValue? base (digits ++ rest) = some n := by
  obtain ⟨present, each, value⟩ := (Text.spells_iff small).mp spells
  have stop : rest.takeWhile (Text.isDigitOf base) = [] := by
    cases rest with
    | nil => rfl
    | cons b rest => rw [List.takeWhile_cons_of_neg (by simp [ends b rfl])]
  have nonempty : ¬ digits.isEmpty = true := by simpa using present
  simp only [leadingValue?, List.takeWhile_append_of_pos each, stop, List.append_nil, if_neg nonempty, value]

theorem shownNumber?_hexadecimal {digits rest : Text} {n : Nat} (spells : Text.Spells 16 digits n)
    (ends : ∀ b ∈ rest.head?, Text.isDigitOf 16 b = false) :
    shownNumber? (hexMark ++ (digits ++ rest)) = some n := by
  have marked : Text.after? hexMark (hexMark ++ (digits ++ rest)) = some (digits ++ rest) :=
    after?_eq_some_iff.mpr rfl
  simp only [shownNumber?, marked, leadingValue?_spelled (by decide) spells ends]

theorem shownNumber?_decimal (n : Nat) : shownNumber? (Text.decimal n) = some n := by
  have spells := Text.spells_decimal n
  have value : leadingValue? 10 (Text.decimal n ++ []) = some n :=
    leadingValue?_spelled (by decide) spells (by simp)
  rw [List.append_nil] at value
  simp only [shownNumber?, spells.bare.unmarked, value]

namespace ExplainRow

theorem meaning_cases (r : ExplainRow) :
    (∃ mask : Text, r.meaning = hexMark ++ (Text.hex r.value.toNat ++ Text.space :: mask)) ∨
    r.meaning = hexMark ++ (Text.hexPadded 8 r.value.toNat ++ []) ∨
    r.meaning = Text.decimal r.value.toNat := by
  have opening : ((" (" : String) : Text) = Text.space :: (("(" : String) : Text) := by decide
  unfold meaning
  split
  · refine .inl ⟨("(" : String) ++ FieldMask.text ⟨UInt8.ofBitVec (r.value.setWidth 8)⟩ ++ (")" : String), ?_⟩
    rw [opening]
    simp [hexMark]
  · split
    · refine .inr (.inl ?_)
      rw [List.append_nil]
      rfl
    · exact .inr (.inr rfl)

theorem shownNumber?_meaning (r : ExplainRow) : shownNumber? r.meaning = some r.value.toNat := by
  rcases r.meaning_cases with ⟨mask, shown⟩ | immediate | plain
  · rw [shown]
    refine shownNumber?_hexadecimal (Text.spells_hex _) ?_
    simp only [List.head?_cons, Option.mem_some_iff, forall_eq']
    decide
  · rw [immediate]
    exact shownNumber?_hexadecimal (Text.spells_hexPadded 8 _) (by simp)
  · rw [plain, shownNumber?_decimal]

end ExplainRow

namespace Fields

/-- The content under the names of the fields, from the most significant down. -/
def components (f : Fields) : List (Text × Nat) :=
  [("FIELDS", f.mask.bits.toNat), ("GROUP", f.group.toNat), ("OPCODE", f.opcode.toNat), ("RD", f.rd.toNat),
    ("RS1", f.rs1.toNat), ("RS2", f.rs2.toNat), ("IMM", f.imm.toNat)]

theorem components_decode (w : Word) :
    (decode w).components = BitField.layout.map fun f => (f.name, (f.get w).toNat) := by
  have imm : (decode w).imm.toNat = (BitField.imm.get w).toNat := toNat_value_decode w .imm
  rw [components, imm]
  simp (disch := decide) only [decode, toNat_byteOf]
  rfl

end Fields

/-- The cells of a table below a header. -/
def Grid.column (g : Grid) (name : Text) : List Text := g.rows.map fun row => row.getD (g.header.idxOf name) []

namespace Word

theorem column_explanation {name : Text} {i : Nat} (w : Word)
    (place : List.idxOf name (["Field", "Bits", "Binary", "Value"] : List Text) = i) :
    (explanation w).column name = w.explainRows.map fun r => r.cells.getD i [] := by
  have place : (explanation w).header.idxOf name = i := place
  simp only [Grid.column, place]
  exact List.map_map

/-- Every bit of a word is shown once, and every value is that of its field. -/
theorem explain_exact (w : Word) :
    let column := (explanation w).column
    (column "Binary").flatten = (List.range 64).map (fun i => if w.getMsbD i then 0x31 else 0x30) ∧
    Text.Spells 2 (column "Binary").flatten w.toNat ∧
    (∃ ranges, column "Bits" = ranges.map rangeText ∧ Descends 64 ranges ∧
      List.Forall₂ (fun range digits => digits.length = range.2 - range.1) ranges (column "Binary")) ∧
    column "Field" = (Fields.decode w).components.map Prod.fst ∧
    (column "Value").map shownNumber? = (Fields.decode w).components.map fun c => some c.2 := by
  have field : (explanation w).column "Field" = w.explainRows.map fun r => r.field.name :=
    column_explanation (i := 0) w (by decide)
  have bits : (explanation w).column "Bits" = w.explainRows.map ExplainRow.range :=
    column_explanation (i := 1) w (by decide)
  have binary : (explanation w).column "Binary" = w.explainRows.map ExplainRow.binary :=
    column_explanation (i := 2) w (by decide)
  have value : (explanation w).column "Value" = w.explainRows.map ExplainRow.meaning :=
    column_explanation (i := 3) w (by decide)
  have digits : (w.explainRows.map ExplainRow.binary).flatten = Text.fixedDigits 2 64 w.toNat := by
    rw [explainRows, List.map_map]
    exact BitField.flatten_digits BitField.layout_descends (Nat.le_refl 64) w
  dsimp only
  rw [field, bits, binary, value, digits]
  refine ⟨?_, ?_, ⟨BitField.layout.map BitField.range, ?_, BitField.layout_descends, ?_⟩, ?_, ?_⟩
  · rw [Text.fixedDigits_two]
    apply List.map_congr_left
    intro i member
    have inside := List.mem_range.mp member
    rw [BitVec.getMsbD_eq_getLsbD, decide_eq_true inside, Bool.true_and, BitVec.testBit_toNat]
  · exact Text.spells_fixedDigits (by decide) (by decide) (by decide) w.isLt
  · rw [explainRows, List.map_map, List.map_map]
    rfl
  · rw [explainRows, List.map_map, List.forall₂_map_left_iff, List.forall₂_map_right_iff, List.forall₂_same]
    intro f _
    rw [Function.comp_apply, ExplainRow.binary, Text.length_fixedDigits]
    exact (Nat.add_sub_cancel_left _ _).symm
  · rw [Fields.components_decode, explainRows, List.map_map, List.map_map]
    rfl
  · rw [Fields.components_decode, explainRows, List.map_map, List.map_map, List.map_map]
    apply List.map_congr_left
    intro f _
    exact ExplainRow.shownNumber?_meaning _

end Word

end TableAsm
