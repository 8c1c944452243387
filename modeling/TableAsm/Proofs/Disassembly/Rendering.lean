import TableAsm.Disassembly.Render
import TableAsm.Proofs.Assembly.Binding
import TableAsm.Proofs.Source.RegisterNames

namespace TableAsm

/-- What a slot with the given value is rendered as. -/
def Shows (registers : Registers) (slot : Slot) (v : UInt32) (text : Text) : Prop :=
  if slot.isRegister then registers.name? v.toUInt8 = some text else text = Text.literal32 v

def ShowsAll (registers : Registers) (f : Fields) (slots : List Slot) (texts : List Text) : Prop :=
  List.Forall₂ (fun slot text => Shows registers slot (f.value slot) text) slots texts

theorem shows_register {registers : Registers} {f : Fields} {slot : Slot} {text : Text}
    (register : slot.isRegister = true) :
    Shows registers slot (f.value slot) text ↔ registers.name (f.registerIn slot) = .ok text := by
  rw [Shows, if_pos register, f.toUInt8_value register, Registers.name_eq_ok_iff]

theorem showsAll_nil {registers : Registers} {f : Fields} {texts : List Text} :
    ShowsAll registers f [] texts ↔ texts = [] := by
  rw [ShowsAll, List.forall₂_nil_left_iff]

theorem showsAll_cons {registers : Registers} {f : Fields} {slot : Slot} {slots : List Slot}
    {texts : List Text} :
    ShowsAll registers f (slot :: slots) texts ↔
      ∃ text rest, Shows registers slot (f.value slot) text ∧ ShowsAll registers f slots rest ∧
        texts = text :: rest := by
  rw [ShowsAll, List.forall₂_cons_left_iff]
  rfl

theorem showsAll_append {registers : Registers} {f : Fields} {front back : List Slot}
    {texts : List Text} :
    ShowsAll registers f (front ++ back) texts ↔
      ∃ first second, ShowsAll registers f front first ∧ ShowsAll registers f back second ∧
        texts = first ++ second := by
  induction front generalizing texts with
  | nil => simp [showsAll_nil]
  | cons slot front ih =>
    simp only [List.cons_append, showsAll_cons, ih]
    constructor
    · rintro ⟨text, _, shown, ⟨first, second, left, right, rfl⟩, rfl⟩
      exact ⟨text :: first, second, ⟨text, first, shown, left, rfl⟩, right, rfl⟩
    · rintro ⟨_, second, ⟨text, first, shown, left, rfl⟩, right, rfl⟩
      exact ⟨text, first ++ second, shown, ⟨first, second, left, right, rfl⟩, rfl⟩

section

variable {format : Format} {fields : Fields} {registers : Registers}

theorem renderRegisters_eq_ok_iff {slots : List Slot} {text : Text}
    (kinds : ∀ slot ∈ slots, slot.isRegister = true) :
    renderRegisters format fields registers slots = .ok text ↔
      ∃ texts, ShowsAll registers fields (slots.filter fun slot => format.fields.has slot.field) texts ∧
        text = texts.flatMap ((" " : Text) ++ ·) := by
  induction slots generalizing text with
  | nil => simp [renderRegisters, showsAll_nil, eq_comm]
  | cons slot slots ih =>
    have register := kinds slot List.mem_cons_self
    have rest : ∀ other ∈ slots, other.isRegister = true :=
      fun other member => kinds other (List.mem_cons_of_mem slot member)
    rw [renderRegisters]
    by_cases named : format.fields.has slot.field = true
    · rw [if_pos named, List.filter_cons, if_pos named]
      simp only [showsAll_cons, shows_register register]
      constructor
      · intro rendered
        split at rendered
        · cases rendered
        · rename_i name found
          split at rendered
          · cases rendered
          · rename_i tail others
            obtain ⟨texts, shown, rfl⟩ := (ih rest).mp others
            cases rendered
            refine ⟨name :: texts, ⟨name, texts, found, shown, rfl⟩, ?_⟩
            rw [List.flatMap_cons, space_eq]
            rfl
      · rintro ⟨_, ⟨name, texts, found, shown, rfl⟩, rfl⟩
        simp only [found, (ih rest).mpr ⟨texts, shown, rfl⟩, List.flatMap_cons, space_eq]
        rfl
    · rw [if_neg named, List.filter_cons, if_neg named, ih rest]

theorem render_eq_ok_iff_names {text : Text} :
    render format fields registers = .ok text ↔
      ∃ names, renderRegisters format fields registers [.rd, .rs1, .rs2] = .ok names ∧
        text = format.mnemonic ++ names ++
          if format.fields.has .imm then " " ++ Text.literal32 fields.imm else [] := by
  unfold render
  cases renderRegisters format fields registers [.rd, .rs1, .rs2] with
  | error failure => simp
  | ok names =>
    simp only [Except.ok.injEq, exists_eq_left']
    exact eq_comm

theorem render_eq_ok_iff {slots : List Slot} {text : Text}
    (layout : format.fields.layout? = some slots) :
    render format fields registers = .ok text ↔
      ∃ texts, ShowsAll registers fields slots texts ∧
        text = Text.joined " " (format.mnemonic :: texts) := by
  have kinds : ∀ slot ∈ [Slot.rd, .rs1, .rs2], slot.isRegister = true := by decide
  -- The immediate is the last slot that can print, so it is split off the layout.
  let kept : Slot → Bool := fun slot => format.fields.has slot.field
  have whole : slots = [.rd, .rs1, .rs2].filter kept ++ [.imm].filter kept := by
    rw [FieldMask.layout?_printed layout, ← List.filter_append]
    rfl
  have last (second : List Text) : ShowsAll registers fields ([.imm].filter kept) second ↔
      second = if format.fields.has .imm then [Text.literal32 fields.imm] else [] := by
    by_cases named : format.fields.has .imm = true
    · simp [kept, Slot.field, named, showsAll_cons, showsAll_nil, Shows, Slot.isRegister, Fields.value]
    · simp [kept, Slot.field, named, showsAll_nil]
  rw [render_eq_ok_iff_names, whole]
  simp only [showsAll_append, last, renderRegisters_eq_ok_iff kinds, Text.joined_cons]
  constructor
  · rintro ⟨_, ⟨texts, shown, rfl⟩, rfl⟩
    refine ⟨_, ⟨texts, _, shown, rfl, rfl⟩, ?_⟩
    rw [List.flatMap_append, List.append_assoc]
    by_cases named : format.fields.has .imm = true <;> simp [named]
  · rintro ⟨_, ⟨texts, _, shown, rfl, rfl⟩, rfl⟩
    refine ⟨_, ⟨texts, shown, rfl⟩, ?_⟩
    rw [List.flatMap_append, List.append_assoc]
    by_cases named : format.fields.has .imm = true <;> simp [named]

end

/-- The slot shows the text, and the text is not taken for anything but what it shows. -/
structure Legible (registers : Registers) (slot : Slot) (v : UInt32) (text : Text) : Prop where
  shown : Shows registers slot v text
  nameLike : slot.isRegister = true → NameLike text

def LegibleAll (registers : Registers) (f : Fields) (slots : List Slot) (texts : List Text) : Prop :=
  List.Forall₂ (fun slot text => Legible registers slot (f.value slot) text) slots texts

theorem LegibleAll.shown {registers : Registers} {f : Fields} {slots : List Slot} {texts : List Text}
    (legible : LegibleAll registers f slots texts) : ShowsAll registers f slots texts :=
  List.Forall₂.imp (fun _ _ each => each.shown) legible

section

variable {names : List Text} {slot : Slot} {v : UInt32} {text : Text}

theorem Shows.word (sound : SoundNames names) (shown : Shows ⟨names⟩ slot v text) :
    LoneWord text := by
  unfold Shows at shown
  split at shown
  · have member : text ∈ names := List.mem_of_getElem? shown
    exact registerName_word (sound.flawless text member)
  · rw [shown]
    exact literal32_word v

theorem ShowsAll.words (sound : SoundNames names) {f : Fields} {slots : List Slot}
    {texts : List Text} (shown : ShowsAll ⟨names⟩ f slots texts) :
    ∀ text ∈ texts, LoneWord text := by
  induction shown with
  | nil => simp
  | cons first _ ih => exact List.forall_mem_cons.mpr ⟨first.word sound, ih⟩

theorem Legible.carried (sound : SoundNames names) (legible : Legible ⟨names⟩ slot v text)
    (byte : slot.isRegister = true → v.toUInt8.toUInt32 = v) (symbols : SymbolTable) :
    Carried symbols (Registers.index? ⟨names⟩) slot v text := by
  refine ⟨(legible.shown.word sound).nonempty, ?_⟩
  have shown := legible.shown
  unfold Shows at shown
  by_cases register : slot.isRegister = true
  · rw [if_pos register] at shown
    have found := sound.index?_of_name? shown
    exact ⟨_, classify_of_nameLike (legible.nameLike register) symbols found,
      (Slot.operandKind_register.mpr register).symm, byte register⟩
  · rw [if_neg register] at shown
    subst shown
    have kind : slot.operandKind = .immediate := by
      rw [Slot.operandKind, if_neg register]
    exact ⟨_, classify_literal32 v symbols _, kind.symm, rfl⟩

theorem Carried.legible {symbols : SymbolTable} {token : Text} (sound : SoundNames names)
    (carried : Carried symbols (Registers.index? ⟨names⟩) slot v token) :
    Legible ⟨names⟩ slot v (if slot.isRegister then token else Text.literal32 v) := by
  by_cases register : slot.isRegister = true
  · obtain ⟨like, index, found, rfl⟩ := carried.register register
    rw [if_pos register]
    refine ⟨?_, fun _ => like⟩
    rw [Shows, if_pos register, UInt8.toUInt8_toUInt32]
    exact sound.name?_of_index? found
  · rw [if_neg register]
    refine ⟨?_, fun is => absurd is register⟩
    rw [Shows, if_neg register]

end

end TableAsm
