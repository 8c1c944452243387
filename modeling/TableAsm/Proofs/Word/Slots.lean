import TableAsm.Word.Fields

namespace TableAsm

namespace FieldMask

def printed : List Slot := [.rd, .rs1, .rs2, .imm]

theorem layouts_printed : ∀ entry ∈ layouts,
    entry.2 = printed.filter (fun slot => entry.1.has slot.field) ∧ entry.2.length ≤ 3 ∧
      entry.1.bits < 16 := by
  decide

theorem layout?_mem {m : FieldMask} {slots : List Slot} (layout : m.layout? = some slots) :
    (m, slots) ∈ layouts := by
  obtain ⟨front, back, whole, -⟩ := List.lookup_eq_some_iff.mp layout
  rw [whole]
  simp

theorem layout?_printed {m : FieldMask} {slots : List Slot} (layout : m.layout? = some slots) :
    slots = printed.filter fun slot => m.has slot.field :=
  (layouts_printed _ (layout?_mem layout)).1

theorem layout?_length {m : FieldMask} {slots : List Slot} (layout : m.layout? = some slots) :
    slots.length ≤ 3 :=
  (layouts_printed _ (layout?_mem layout)).2.1

theorem layout?_small {m : FieldMask} {slots : List Slot} (layout : m.layout? = some slots) :
    m.bits < 16 :=
  (layouts_printed _ (layout?_mem layout)).2.2

theorem layout?_nodup {m : FieldMask} {slots : List Slot} (layout : m.layout? = some slots) :
    slots.Nodup := by
  have whole : printed.Nodup := by decide
  rw [layout?_printed layout]
  exact List.Pairwise.filter _ whole

theorem mem_layout?_iff {m : FieldMask} {slots : List Slot} (layout : m.layout? = some slots)
    (slot : Slot) : slot ∈ slots ↔ m.has slot.field = true := by
  have known : slot ∈ printed := by cases slot <;> decide
  rw [layout?_printed layout, List.mem_filter]
  exact and_iff_right known

end FieldMask

namespace Fields

def value (f : Fields) : Slot → UInt32
  | .rd => f.rd.toUInt32
  | .rs1 => f.rs1.toUInt32
  | .rs2 => f.rs2.toUInt32
  | .imm => f.imm

theorem eq_of_values {f g : Fields} (keys : f.key = g.key)
    (values : ∀ slot, f.value slot = g.value slot) : f = g := by
  have rd := values .rd
  have rs1 := values .rs1
  have rs2 := values .rs2
  have imm := values .imm
  obtain ⟨mask, group, opcode, _, _, _, _⟩ := f
  obtain ⟨mask', group', opcode', _, _, _, _⟩ := g
  simp only [key, Encoding.mk.injEq] at keys
  simp only [value, UInt8.toUInt32_inj] at rd rs1 rs2 imm
  obtain ⟨rfl, rfl, rfl⟩ := keys
  subst rd rs1 rs2 imm
  rfl

@[simp] theorem key_set (f : Fields) (slot : Slot) (v : UInt32) : (f.set slot v).key = f.key := by
  cases slot <;> rfl

theorem value_set_of_ne (f : Fields) {slot other : Slot} (differ : other ≠ slot) (v : UInt32) :
    (f.set slot v).value other = f.value other := by
  cases slot <;> cases other <;> simp_all [set, value]

theorem value_set_self (f : Fields) {slot : Slot} {v : UInt32}
    (byte : slot.isRegister = true → v.toUInt8.toUInt32 = v) : (f.set slot v).value slot = v := by
  cases slot with
  | imm => rfl
  | _ => exact byte rfl

theorem toUInt8_value (f : Fields) {slot : Slot} (register : slot.isRegister = true) :
    (f.value slot).toUInt8 = f.registerIn slot := by
  cases slot with
  | imm => cases register
  | _ => exact UInt8.toUInt8_toUInt32 _

theorem byte_value (f : Fields) {slot : Slot} (register : slot.isRegister = true) :
    (f.value slot).toUInt8.toUInt32 = f.value slot := by
  cases slot with
  | imm => cases register
  | _ => exact congrArg UInt8.toUInt32 (UInt8.toUInt8_toUInt32 _)

@[simp] theorem key_canonical (f : Fields) : f.canonical.key = f.key := rfl

theorem value_canonical (f : Fields) (slot : Slot) :
    f.canonical.value slot = if f.mask.has slot.field then f.value slot else 0 := by
  by_cases named : f.mask.has slot.field = true
  · rw [if_pos named]
    cases slot <;> simp_all [canonical, value, Slot.field]
  · rw [if_neg named]
    cases slot <;> simp_all [canonical, value, Slot.field]

theorem canonical_eq_self_iff (f : Fields) :
    f.canonical = f ↔ ∀ slot : Slot, f.mask.has slot.field = false → f.value slot = 0 := by
  constructor
  · intro same slot unnamed
    have value := value_canonical f slot
    rw [same, unnamed] at value
    simpa using value
  · intro zero
    apply eq_of_values (key_canonical f)
    intro slot
    rw [value_canonical]
    cases named : f.mask.has slot.field with
    | true => rfl
    | false => simp [zero slot named]

@[simp] theorem canonical_canonical (f : Fields) : f.canonical.canonical = f.canonical := by
  rw [canonical_eq_self_iff]
  intro slot unnamed
  have outside : f.mask.has slot.field = false := unnamed
  simp [value_canonical, outside]

end Fields

namespace Format

def blank (f : Format) : Fields := { mask := f.fields, group := f.group, opcode := f.opcode }

theorem blank_value (f : Format) (slot : Slot) : f.blank.value slot = 0 := by
  cases slot <;> rfl

theorem blank_canonical (f : Format) : f.blank.canonical = f.blank := by
  rw [Fields.canonical_eq_self_iff]
  exact fun slot _ => f.blank_value slot

end Format

end TableAsm
