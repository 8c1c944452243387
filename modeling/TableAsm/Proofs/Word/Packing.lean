import TableAsm.Word.Fields

namespace TableAsm

namespace BitField

def Inside (f : BitField) : Prop := f.shift + f.width ≤ 64

def Apart (f g : BitField) : Prop := f.shift + f.width ≤ g.shift ∨ g.shift + g.width ≤ f.shift

instance (f : BitField) : Decidable f.Inside := inferInstanceAs (Decidable (_ ≤ _))

instance (f g : BitField) : Decidable (f.Apart g) := inferInstanceAs (Decidable (_ ∨ _))

theorem toNat_mask {f : BitField} (fits : f.width ≤ 64) : f.mask.toNat = Nat.pow 2 f.width - 1 := by
  rw [mask, Word.raised_eq_shiftLeft, Nat.pow_eq]
  rcases Nat.lt_or_eq_of_le fits with short | whole
  · have bound : 2 ^ f.width < 2 ^ 64 := Nat.pow_lt_pow_right (by decide) short
    have positive : 0 < 2 ^ f.width := Nat.two_pow_pos f.width
    simp only [BitVec.toNat_sub, BitVec.toNat_shiftLeft, BitVec.toNat_ofNat, Nat.shiftLeft_eq]
    rw [Nat.mod_eq_of_lt (by omega : 1 < 2 ^ 64), Nat.one_mul, Nat.mod_eq_of_lt bound]
    omega
  · rw [whole]
    decide

theorem getLsbD_mask {f : BitField} (fits : f.width ≤ 64) (i : Nat) :
    f.mask.getLsbD i = decide (i < f.width) := by
  rw [← BitVec.testBit_toNat, toNat_mask fits]
  exact Nat.testBit_two_pow_sub_one f.width i

theorem getLsbD_get {f : BitField} (inside : f.Inside) (w : Word) (i : Nat) :
    (f.get w).getLsbD i = (w.getLsbD (f.shift + i) && decide (i < f.width)) := by
  have fits : f.width ≤ 64 := Nat.le_trans (Nat.le_add_left _ _) inside
  rw [get, Word.lowered_eq_ushiftRight, BitVec.getLsbD_and, BitVec.getLsbD_ushiftRight, getLsbD_mask fits]

theorem getLsbD_put {f : BitField} (inside : f.Inside) (w v : Word) (i : Nat) :
    (f.put w v).getLsbD i =
      if f.shift ≤ i ∧ i < f.shift + f.width then v.getLsbD (i - f.shift) else w.getLsbD i := by
  have bound : f.shift + f.width ≤ 64 := inside
  have fits : f.width ≤ 64 := by omega
  rw [put, Word.raised_eq_shiftLeft, Word.raised_eq_shiftLeft]
  simp only [BitVec.getLsbD_or, BitVec.getLsbD_and, BitVec.getLsbD_not, BitVec.getLsbD_shiftLeft,
    getLsbD_mask fits]
  by_cases low : i < f.shift
  · have outside : ¬ (f.shift ≤ i ∧ i < f.shift + f.width) := by omega
    by_cases small : i < 64
    · simp [low, outside, small]
    · simp [low, outside, small, BitVec.getLsbD_of_ge w i (by omega)]
  · by_cases high : i < f.shift + f.width
    · have small : i < 64 := by omega
      have offset : i - f.shift < f.width := by omega
      simp [low, high, small, offset, Nat.not_lt.mp low]
    · have outside : ¬ (f.shift ≤ i ∧ i < f.shift + f.width) := by omega
      have offset : ¬ i - f.shift < f.width := by omega
      by_cases small : i < 64
      · simp [low, outside, small, offset]
      · simp [low, outside, small, offset, BitVec.getLsbD_of_ge w i (by omega)]

theorem get_put_self {f : BitField} (inside : f.Inside) (w v : Word) :
    f.get (f.put w v) = v &&& f.mask := by
  have fits : f.width ≤ 64 := Nat.le_trans (Nat.le_add_left _ _) inside
  apply BitVec.eq_of_getLsbD_eq
  intro i _
  rw [getLsbD_get inside, getLsbD_put inside, BitVec.getLsbD_and, getLsbD_mask fits]
  by_cases low : i < f.width
  · simp [low]
  · simp [low]

theorem get_put_apart {f g : BitField} (inside : f.Inside) (other : g.Inside) (apart : f.Apart g)
    (w v : Word) : f.get (g.put w v) = f.get w := by
  apply BitVec.eq_of_getLsbD_eq
  intro i _
  rw [getLsbD_get inside, getLsbD_get inside, getLsbD_put other]
  by_cases low : i < f.width
  · have outside : ¬ (g.shift ≤ f.shift + i ∧ f.shift + i < g.shift + g.width) := by
      rcases apart with below | above <;> omega
    simp [outside]
  · simp [low]

end BitField

namespace Fields

/-- Every field of the word can hold its value. -/
structure Fits (f : Fields) : Prop where
  mask : f.mask.bits < 16
  group : f.group < 32
  rd : f.rd < 32
  rs1 : f.rs1 < 32
  rs2 : f.rs2 < 32

theorem toNat_cutByte {f : BitField} (narrow : f.width ≤ 8) (x : UInt8) :
    (UInt8.ofBitVec ((x.toBitVec.setWidth 64 &&& f.mask).setWidth 8)).toNat =
      x.toNat % Nat.pow 2 f.width := by
  have bound : x.toNat % Nat.pow 2 f.width ≤ x.toNat := Nat.mod_le _ _
  have small := x.toNat_lt
  rw [UInt8.toNat_ofBitVec, BitVec.toNat_setWidth, BitVec.toNat_and, BitVec.toNat_setWidth,
    BitField.toNat_mask (Nat.le_trans narrow (by decide)), UInt8.toNat_toBitVec,
    Nat.mod_eq_of_lt (Nat.lt_trans small (by decide)), Nat.pow_eq, Nat.and_two_pow_sub_one_eq_mod,
    Nat.mod_eq_of_lt]
  exact Nat.lt_of_le_of_lt bound small

theorem cutByte_eq_mod {f : BitField} (narrow : f.width ≤ 8) (x : UInt8) {m : UInt8}
    (size : m.toNat = Nat.pow 2 f.width) :
    UInt8.ofBitVec ((x.toBitVec.setWidth 64 &&& f.mask).setWidth 8) = x % m := by
  rw [← UInt8.toNat_inj, toNat_cutByte narrow, UInt8.toNat_mod, size]

theorem cutOpcode_eq_self (x : UInt8) :
    UInt8.ofBitVec ((x.toBitVec.setWidth 64 &&& BitField.opcode.mask).setWidth 8) = x := by
  rw [← UInt8.toNat_inj, toNat_cutByte (by decide)]
  exact Nat.mod_eq_of_lt x.toNat_lt

theorem cutImmediate_eq_self (v : UInt32) :
    UInt32.ofBitVec ((v.toBitVec.setWidth 64 &&& BitField.imm.mask).setWidth 32) = v := by
  have small := v.toNat_lt
  have mask := BitField.toNat_mask (f := BitField.imm) (by decide)
  rw [← UInt32.toNat_inj, UInt32.toNat_ofBitVec, BitVec.toNat_setWidth, BitVec.toNat_and,
    BitVec.toNat_setWidth, mask, UInt32.toNat_toBitVec, Nat.pow_eq, Nat.and_two_pow_sub_one_eq_mod]
  change v.toNat % 2 ^ 64 % 2 ^ 32 % 2 ^ 32 = v.toNat
  omega

/-- Packing cuts each value to the width of its field, and no value reaches into another field. -/
theorem decode_encode_cut (f : Fields) :
    decode f.encode =
      { f with
        mask := ⟨f.mask.bits % 16⟩
        group := f.group % 32
        rd := f.rd % 32
        rs1 := f.rs1 % 32
        rs2 := f.rs2 % 32 } := by
  simp (disch := decide) only [decode, byteOf, encode, BitField.get_put_apart, BitField.get_put_self]
  rw [cutByte_eq_mod (f := BitField.fields) (by decide) _ (m := 16) (by decide),
    cutByte_eq_mod (f := BitField.group) (by decide) _ (m := 32) (by decide),
    cutByte_eq_mod (f := BitField.rd) (by decide) _ (m := 32) (by decide),
    cutByte_eq_mod (f := BitField.rs1) (by decide) _ (m := 32) (by decide),
    cutByte_eq_mod (f := BitField.rs2) (by decide) _ (m := 32) (by decide), cutOpcode_eq_self,
    cutImmediate_eq_self]

theorem mod_eq_self_iff {x size : UInt8} (positive : 0 < size) : x % size = x ↔ x < size := by
  rw [UInt8.lt_iff_toNat_lt] at positive ⊢
  rw [← UInt8.toNat_inj, UInt8.toNat_mod]
  exact Nat.mod_eq_iff_lt (Nat.ne_of_gt positive)

theorem fits_iff_decode_encode {f : Fields} : f.Fits ↔ decode f.encode = f := by
  rw [decode_encode_cut]
  constructor
  · rintro ⟨mask, group, rd, rs1, rs2⟩
    rw [(mod_eq_self_iff (by decide)).mpr mask, (mod_eq_self_iff (by decide)).mpr group,
      (mod_eq_self_iff (by decide)).mpr rd, (mod_eq_self_iff (by decide)).mpr rs1,
      (mod_eq_self_iff (by decide)).mpr rs2]
  · intro same
    obtain ⟨⟨bits⟩, group, opcode, rd, rs1, rs2, imm⟩ := f
    simp only [mk.injEq, FieldMask.mk.injEq, true_and, and_true] at same
    obtain ⟨mask, group, rd, rs1, rs2⟩ := same
    exact ⟨(mod_eq_self_iff (by decide)).mp mask, (mod_eq_self_iff (by decide)).mp group,
      (mod_eq_self_iff (by decide)).mp rd, (mod_eq_self_iff (by decide)).mp rs1,
      (mod_eq_self_iff (by decide)).mp rs2⟩

theorem decode_encode {f : Fields} (fits : f.Fits) : decode f.encode = f :=
  fits_iff_decode_encode.mp fits

end Fields

end TableAsm
