import Mathlib.Data.List.Forall2
import TableAsm.Assembly.Bind
import TableAsm.Proofs.Source.Classification
import TableAsm.Proofs.Word.Slots

namespace TableAsm

/-- The token is an operand of the slot's kind with the given value. -/
structure Carried (symbols : SymbolTable) (register? : Text → Option UInt8) (slot : Slot) (v : UInt32)
    (token : Text) : Prop where
  nonempty : token ≠ []
  classified : ∃ operand, classify token symbols register? = .ok operand ∧
    operand.kind = slot.operandKind ∧ operand.value = v

def Carries (symbols : SymbolTable) (register? : Text → Option UInt8) (f : Fields) (slots : List Slot)
    (tokens : List Text) : Prop :=
  ∃ used spare, tokens = used ++ spare ∧
    List.Forall₂ (fun slot token => Carried symbols register? slot (f.value slot) token) slots used ∧
    ∀ token ∈ spare, token = []

theorem exists_of_forall₂ {α β : Type} {R : α → β → Prop} {l : List α} {m : List β}
    (each : List.Forall₂ R l m) {a : α} (member : a ∈ l) : ∃ b ∈ m, R a b := by
  induction each with
  | nil => simp at member
  | cons first _ ih =>
    rcases List.mem_cons.mp member with rfl | member
    · exact ⟨_, List.mem_cons_self, first⟩
    · obtain ⟨b, among, related⟩ := ih member
      exact ⟨b, List.mem_cons_of_mem _ among, related⟩

theorem Slot.operandKind_register {slot : Slot} :
    slot.operandKind = .register ↔ slot.isRegister = true := by
  cases slot <;> decide

section

variable {symbols : SymbolTable} {register? : Text → Option UInt8} {slot : Slot} {v : UInt32}
  {token : Text}

theorem Carried.register (carried : Carried symbols register? slot v token)
    (register : slot.isRegister = true) :
    NameLike token ∧ ∃ index, register? token = some index ∧ v = index.toUInt32 := by
  obtain ⟨operand, classified, kind, rfl⟩ := carried.classified
  exact classify_register classified (kind.trans (Slot.operandKind_register.mpr register))

theorem Carried.byte (carried : Carried symbols register? slot v token)
    (register : slot.isRegister = true) : v.toUInt8.toUInt32 = v := by
  obtain ⟨-, index, -, rfl⟩ := carried.register register
  rw [UInt8.toUInt8_toUInt32]

end

section

variable {format : Format} {symbols : SymbolTable} {register? : Text → Option UInt8}

theorem bindFrom_no_slots {position : Nat} {tokens : List Text} {f g : Fields} :
    bindFrom format symbols register? position [] tokens f = .ok g ↔
      (∀ token ∈ tokens, token = []) ∧ g = f := by
  induction tokens generalizing position with
  | nil => simp [bindFrom, eq_comm]
  | cons token tokens ih =>
    rw [bindFrom]
    cases token with
    | nil => simp [ih]
    | cons b token => simp

theorem bindFrom_slot {position : Nat} {slot : Slot} {slots : List Slot} {token : Text}
    {tokens : List Text} {f g : Fields} :
    bindFrom format symbols register? position (slot :: slots) (token :: tokens) f = .ok g ↔
      ∃ v, Carried symbols register? slot v token ∧
        bindFrom format symbols register? (position + 1) slots tokens (f.set slot v) = .ok g := by
  rw [bindFrom]
  constructor
  · intro bound
    split at bound
    · cases bound
    · rename_i present
      split at bound
      · cases bound
      · rename_i operand classified
        split at bound
        · rename_i kind
          exact ⟨operand.value, ⟨by simpa using present, operand, classified, kind, rfl⟩, bound⟩
        · cases bound
  · rintro ⟨v, ⟨nonempty, operand, classified, kind, rfl⟩, bound⟩
    have present : ¬ token.isEmpty = true := by simpa using nonempty
    simp only [if_neg present, classified, if_pos kind]
    exact bound

theorem carries_nil {f : Fields} {tokens : List Text} :
    Carries symbols register? f [] tokens ↔ ∀ token ∈ tokens, token = [] := by
  constructor
  · rintro ⟨used, spare, rfl, carried, empty⟩
    cases carried
    exact empty
  · intro empty
    exact ⟨[], tokens, rfl, .nil, empty⟩

theorem carries_cons {f : Fields} {slot : Slot} {slots : List Slot} {token : Text}
    {tokens : List Text} :
    Carries symbols register? f (slot :: slots) (token :: tokens) ↔
      Carried symbols register? slot (f.value slot) token ∧ Carries symbols register? f slots tokens := by
  constructor
  · rintro ⟨used, spare, whole, carried, empty⟩
    cases carried with
    | cons first rest =>
      obtain ⟨rfl, rfl⟩ := List.cons.inj whole
      exact ⟨first, _, spare, rfl, rest, empty⟩
  · rintro ⟨first, used, spare, rfl, rest, empty⟩
    exact ⟨token :: used, spare, rfl, .cons first rest, empty⟩

theorem values_set_iff {f g : Fields} {slot : Slot} {slots : List Slot} (absent : slot ∉ slots)
    {v : UInt32} (byte : slot.isRegister = true → v.toUInt8.toUInt32 = v) :
    (∀ other, other ∉ slots → g.value other = (f.set slot v).value other) ↔
      g.value slot = v ∧ ∀ other, other ∉ slot :: slots → g.value other = f.value other := by
  constructor
  · intro values
    refine ⟨?_, ?_⟩
    · rw [values slot absent, Fields.value_set_self f byte]
    · intro other outside
      obtain ⟨differ, later⟩ := not_or.mp (List.mem_cons.not.mp outside)
      rw [values other later, Fields.value_set_of_ne f differ]
  · rintro ⟨set, values⟩ other later
    by_cases same : other = slot
    · rw [same, set, Fields.value_set_self f byte]
    · rw [Fields.value_set_of_ne f same]
      exact values other (List.mem_cons.not.mpr (not_or.mpr ⟨same, later⟩))

theorem bindFrom_eq_ok_iff {position : Nat} {slots : List Slot} {tokens : List Text} {f g : Fields}
    (distinct : slots.Nodup) (room : slots.length ≤ tokens.length) :
    bindFrom format symbols register? position slots tokens f = .ok g ↔
      Carries symbols register? g slots tokens ∧ g.key = f.key ∧
        ∀ slot, slot ∉ slots → g.value slot = f.value slot := by
  induction slots generalizing position tokens f with
  | nil =>
    rw [bindFrom_no_slots, carries_nil]
    apply and_congr_right
    intro _
    constructor
    · rintro rfl
      exact ⟨rfl, fun _ _ => rfl⟩
    · rintro ⟨keys, values⟩
      exact Fields.eq_of_values keys fun slot => values slot List.not_mem_nil
  | cons slot slots ih =>
    obtain ⟨absent, others⟩ := List.nodup_cons.mp distinct
    cases tokens with
    | nil => simp at room
    | cons token tokens =>
      have space : slots.length ≤ tokens.length := by simpa using room
      rw [bindFrom_slot, carries_cons]
      constructor
      · rintro ⟨v, carried, bound⟩
        obtain ⟨rest, keys, values⟩ := (ih others space).mp bound
        obtain ⟨rfl, kept⟩ := (values_set_iff absent carried.byte).mp values
        exact ⟨⟨carried, rest⟩, keys.trans (Fields.key_set f slot _), kept⟩
      · rintro ⟨⟨carried, rest⟩, keys, values⟩
        have kept := (values_set_iff absent carried.byte).mpr ⟨rfl, values⟩
        exact ⟨_, carried, (ih others space).mpr ⟨rest, keys.trans (Fields.key_set f slot _).symm, kept⟩⟩

end

theorem bind_eq_ok_iff {instruction : Instruction} {format : Format} {symbols : SymbolTable}
    {register? : Text → Option UInt8} {g : Fields} :
    bind instruction format symbols register? = .ok g ↔
      ∃ slots, format.fields.layout? = some slots ∧
        Carries symbols register? g slots instruction.operands.toList ∧ g.key = format.key ∧
        g.canonical = g := by
  unfold bind
  cases layout : format.fields.layout? with
  | none => simp
  | some slots =>
    have room : slots.length ≤ instruction.operands.toList.length := FieldMask.layout?_length layout
    simp only [Option.some.injEq, exists_eq_left']
    rw [bindFrom_eq_ok_iff (FieldMask.layout?_nodup layout) room]
    apply and_congr_right
    intro _
    apply and_congr_right
    intro keys
    have mask : g.mask = format.fields := congrArg Encoding.fields keys
    rw [Fields.canonical_eq_self_iff]
    apply forall_congr'
    intro slot
    rw [FieldMask.mem_layout?_iff layout, mask, Bool.not_eq_true]
    change _ → g.value slot = format.blank.value slot ↔ _
    rw [format.blank_value]

end TableAsm
