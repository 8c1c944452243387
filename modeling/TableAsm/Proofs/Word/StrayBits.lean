import TableAsm.Proofs.Word.Codec
import TableAsm.Proofs.Word.Slots

namespace TableAsm

namespace BitField

theorem toNat_get_lt {f : BitField} (fits : f.width ≤ 64) (w : Word) :
    (f.get w).toNat < Nat.pow 2 f.width := by
  rw [get, toNat_cut fits]
  exact Nat.mod_lt _ (Nat.pow_pos (by decide))

theorem get_and {f : BitField} (inside : f.Inside) (v w : Word) :
    f.get (v &&& w) = f.get v &&& f.get w := by
  apply BitVec.eq_of_getLsbD_eq
  intro i _
  simp only [BitVec.getLsbD_and, getLsbD_get inside]
  cases decide (i < f.width) <;> simp

end BitField

/-- Where the content of a slot stands in a word. -/
def Slot.bits : Slot → BitField
  | rd => .rd
  | rs1 => .rs1
  | rs2 => .rs2
  | imm => .imm

namespace Fields

theorem toNat_byteOf {f : BitField} (narrow : f.width ≤ 8) (w : Word) :
    (byteOf f w).toNat = (f.get w).toNat := by
  have small := BitField.toNat_get_lt (f := f) (by omega) w
  have bound : Nat.pow 2 f.width ≤ 2 ^ 8 := Nat.pow_le_pow_right (by decide) narrow
  rw [byteOf, UInt8.toNat_ofBitVec, BitVec.toNat_setWidth]
  exact Nat.mod_eq_of_lt (Nat.lt_of_lt_of_le small bound)

theorem toNat_value_decode (w : Word) (slot : Slot) :
    ((decode w).value slot).toNat = (slot.bits.get w).toNat := by
  cases slot with
  | rd => exact (UInt8.toNat_toUInt32 _).trans (toNat_byteOf (by decide) w)
  | rs1 => exact (UInt8.toNat_toUInt32 _).trans (toNat_byteOf (by decide) w)
  | rs2 => exact (UInt8.toNat_toUInt32 _).trans (toNat_byteOf (by decide) w)
  | imm =>
    have small := BitField.toNat_get_lt (f := .imm) (by decide) w
    simp only [value, decode, Slot.bits, UInt32.toNat_ofBitVec, BitVec.toNat_setWidth]
    exact Nat.mod_eq_of_lt small

theorem Fits.canonical {f : Fields} (fits : f.Fits) : f.canonical.Fits := by
  have cut (named : Bool) {x : UInt8} (small : x < 32) : (if named then x else 0) < 32 := by
    cases named with
    | true => exact small
    | false => exact (by decide : (0 : UInt8) < 32)
  exact ⟨fits.mask, fits.group, cut _ fits.rd, cut _ fits.rs1, cut _ fits.rs2⟩

/-- The fields have one key, and the same content in each slot that their mask names. -/
structure SameNamed (f g : Fields) : Prop where
  keys : f.key = g.key
  values : ∀ slot : Slot, f.mask.has slot.field = true → f.value slot = g.value slot

theorem canonical_eq_iff {f g : Fields} : f.canonical = g.canonical ↔ f.SameNamed g := by
  constructor
  · intro same
    have keys : f.canonical.key = g.canonical.key := congrArg key same
    rw [key_canonical, key_canonical] at keys
    refine ⟨keys, ?_⟩
    intro slot named
    have mask : f.mask = g.mask := congrArg Encoding.fields keys
    have value := congrArg (fun f => f.value slot) same
    simpa only [value_canonical, ← mask, named, if_true] using value
  · intro same
    have mask : f.mask = g.mask := congrArg Encoding.fields same.keys
    refine eq_of_values (f := f.canonical) (g := g.canonical) same.keys ?_
    intro slot
    rw [value_canonical, value_canonical, ← mask]
    split
    · rename_i named
      exact same.values slot named
    · rfl

end Fields

namespace Word

theorem decode_canonical (w : Word) : Fields.decode w.canonical = (Fields.decode w).canonical :=
  Fields.decode_encode (Fields.decode_fits w).canonical

theorem canonical_eq_self_iff (w : Word) :
    w.canonical = w ↔
      ∀ slot : Slot, (Fields.decode w).mask.has slot.field = false → (Fields.decode w).value slot = 0 := by
  rw [← Fields.canonical_eq_self_iff]
  constructor
  · intro same
    rw [← decode_canonical, same]
  · intro same
    rw [canonical, same, Fields.encode_decode]

theorem canonical_canonical (w : Word) : w.canonical.canonical = w.canonical := by
  rw [canonical, decode_canonical, Fields.canonical_canonical, ← canonical]

theorem canonical_eq_iff {v w : Word} :
    v.canonical = w.canonical ↔ (Fields.decode v).SameNamed (Fields.decode w) := by
  rw [← Fields.canonical_eq_iff]
  constructor
  · intro same
    rw [← decode_canonical, same, decode_canonical]
  · intro same
    rw [canonical, same, ← canonical]

theorem get_canonical_key (w : Word) :
    ∀ f ∈ [BitField.fields, .group, .opcode], f.get w.canonical = f.get w := by
  have keys : (Fields.decode w.canonical).key = (Fields.decode w).key := by
    rw [decode_canonical, Fields.key_canonical]
  simp only [Fields.key, Fields.decode, Encoding.mk.injEq, FieldMask.mk.injEq] at keys
  obtain ⟨mask, group, opcode⟩ := keys
  have kept {f : BitField} (narrow : f.width ≤ 8)
      (same : Fields.byteOf f w.canonical = Fields.byteOf f w) : f.get w.canonical = f.get w := by
    apply BitVec.eq_of_toNat_eq
    rw [← Fields.toNat_byteOf narrow, ← Fields.toNat_byteOf narrow, same]
  simp only [List.forall_mem_cons]
  exact ⟨kept (by decide) mask, kept (by decide) group, kept (by decide) opcode, by simp⟩

theorem get_canonical_slot (w : Word) (slot : Slot) :
    slot.bits.get w.canonical =
      if (Fields.decode w).mask.has slot.field then slot.bits.get w else 0 := by
  apply BitVec.eq_of_toNat_eq
  rw [← Fields.toNat_value_decode, decode_canonical, Fields.value_canonical]
  split
  · rw [Fields.toNat_value_decode]
  · rfl

theorem canonical_and_self (w : Word) : w.canonical &&& w = w.canonical := by
  have key := get_canonical_key w
  have slots : ∀ f ∈ FieldMask.printed.map Slot.bits,
      f.get w.canonical = f.get w ∨ f.get w.canonical = 0 := by
    intro f listed
    obtain ⟨slot, -, rfl⟩ := List.mem_map.mp listed
    rw [get_canonical_slot]
    split
    · exact .inl rfl
    · exact .inr rfl
  have parts : BitField.layout =
      [BitField.fields, .group, .opcode] ++ FieldMask.printed.map Slot.bits := rfl
  apply BitField.eq_of_get
  intro f listed
  rw [BitField.get_and (BitField.layout_inside f listed)]
  rw [parts, List.mem_append] at listed
  rcases listed with listed | listed
  · rw [key f listed, BitVec.and_self]
  · rcases slots f listed with same | zero
    · rw [same, BitVec.and_self]
    · rw [zero]
      exact BitVec.zero_and

end Word

end TableAsm
