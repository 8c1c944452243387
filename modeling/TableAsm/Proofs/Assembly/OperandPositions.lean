import TableAsm.Proofs.Assembly.Encoding

namespace TableAsm

section

variable (symbols : SymbolTable) (register? : Text → Option UInt8)

/-- The token is what a position with this slot needs; behind the last slot that is nothing. -/
def Suits (token : Text) : Option Slot → Prop
  | some slot => ∃ v, Carried symbols register? slot v token
  | none => token = []

def AllSuit (slots : List Slot) (tokens : List Text) : Prop :=
  ∀ (i : Nat) (token : Text), tokens[i]? = some token → Suits symbols register? token slots[i]?

/-- The token at the position is the first that does not suit. -/
structure FirstMisfit (slots : List Slot) (tokens : List Text) (i : Nat) (token : Text) : Prop where
  here : tokens[i]? = some token
  unsuited : ¬ Suits symbols register? token slots[i]?
  before : ∀ j < i, ∀ other, tokens[j]? = some other → Suits symbols register? other slots[j]?

/-- What a failure says about a token that does not suit. -/
inductive Blames (token : Text) : Option Slot → Failure → Prop
  | unclassified {slot : Slot} {failure : Failure}
      (refused : classify token symbols register? = .error failure) : Blames token (some slot) failure
  | misplaced {slot? : Option Slot} {fault : Fault}
      (known : slot? = none ∨ ∃ operand, classify token symbols register? = .ok operand)
      (mismatch : fault.kind = .operandKindMismatch) (named : fault.token = token) :
      Blames token slot? (Failure.ofFault fault)

/-- The fields are those of the format, with the values of the operands in the slots of the layout. -/
structure Fills (format : Format) (slots : List Slot) (tokens : List Text) (f : Fields) : Prop where
  keys : f.key = format.key
  filled : ∀ (i : Nat) (slot : Slot), slots[i]? = some slot →
    ∃ token, tokens[i]? = some token ∧ Carried symbols register? slot (f.value slot) token
  zero : ∀ slot, slot ∉ slots → f.value slot = 0
  canonical : f.canonical = f

end

section

variable {symbols : SymbolTable} {register? : Text → Option UInt8} {slots : List Slot} {token : Text}
  {tokens : List Text}

theorem Carries.filled {f : Fields} (carries : Carries symbols register? f slots tokens) {i : Nat}
    {slot : Slot} (here : slots[i]? = some slot) :
    ∃ token, tokens[i]? = some token ∧ Carried symbols register? slot (f.value slot) token := by
  induction slots generalizing tokens i with
  | nil => cases here
  | cons first slots ih =>
    cases tokens with
    | nil =>
      obtain ⟨used, spare, whole, carried, -⟩ := carries
      obtain ⟨rfl, -⟩ := List.nil_eq_append_iff.mp whole
      cases carried
    | cons token tokens =>
      obtain ⟨carried, rest⟩ := carries_cons.mp carries
      cases i with
      | zero =>
        cases here
        exact ⟨token, rfl, carried⟩
      | succ i => exact ih rest here

theorem Carries.allSuit {f : Fields} (carries : Carries symbols register? f slots tokens) :
    AllSuit symbols register? slots tokens := by
  intro i token here
  cases slot : slots[i]? with
  | some slot =>
    obtain ⟨other, there, carried⟩ := carries.filled slot
    rw [here] at there
    cases there
    exact ⟨_, carried⟩
  | none =>
    obtain ⟨used, spare, rfl, carried, empty⟩ := carries
    rw [List.getElem?_eq_none_iff, carried.length_eq] at slot
    rw [List.getElem?_append_right slot] at here
    exact empty token (List.mem_of_getElem? here)

theorem FirstMisfit.cons {first : Text} (suits : Suits symbols register? first slots.head?) {i : Nat}
    (later : FirstMisfit symbols register? slots.tail tokens i token) :
    FirstMisfit symbols register? slots (first :: tokens) (i + 1) token := by
  obtain ⟨here, unsuited, before⟩ := later
  rw [List.getElem?_tail] at unsuited
  refine ⟨here, unsuited, ?_⟩
  intro j early other there
  cases j with
  | zero =>
    cases there
    rw [← List.head?_eq_getElem?]
    exact suits
  | succ j =>
    have suited := before j (by omega) other there
    rwa [List.getElem?_tail] at suited

theorem firstMisfit_head (unsuited : ¬ Suits symbols register? token slots.head?) :
    FirstMisfit symbols register? slots (token :: tokens) 0 token := by
  rw [List.head?_eq_getElem?] at unsuited
  exact ⟨rfl, unsuited, fun j early => absurd early (Nat.not_lt_zero j)⟩

theorem bindFrom_eq_error {format : Format} {position : Nat} {f : Fields} {failure : Failure}
    (refused : bindFrom format symbols register? position slots tokens f = .error failure) :
    ∃ i token, FirstMisfit symbols register? slots tokens i token ∧
      Blames symbols register? token slots[i]? failure := by
  fun_induction bindFrom format symbols register? position slots tokens f with
  | case1 => cases refused
  | case2 position token tokens f empty ih =>
    obtain ⟨i, other, misfit, blames⟩ := ih refused
    have suits : Suits symbols register? token none := List.isEmpty_iff.mp empty
    exact ⟨i + 1, other, misfit.cons suits, blames⟩
  | case3 position token tokens f present =>
    cases refused
    have unsuited : ¬ Suits symbols register? token none := fun suits => present (List.isEmpty_iff.mpr suits)
    exact ⟨0, token, firstMisfit_head unsuited, .misplaced (.inl rfl) rfl rfl⟩
  | case4 position slot slots token tokens f empty =>
    cases refused
    obtain rfl := List.isEmpty_iff.mp empty
    have unsuited : ¬ Suits symbols register? [] (some slot) := fun ⟨v, carried⟩ => carried.nonempty rfl
    exact ⟨0, [], firstMisfit_head unsuited, .misplaced (.inr ⟨_, rfl⟩) rfl rfl⟩
  | case5 position slot slots token tokens f present cause unknown =>
    cases refused
    refine ⟨0, token, firstMisfit_head ?_, .unclassified unknown⟩
    rintro ⟨v, -, operand, classified, -⟩
    rw [unknown] at classified
    cases classified
  | case6 position slot slots token tokens f present operand known kind ih =>
    obtain ⟨i, other, misfit, blames⟩ := ih refused
    have suits : Suits symbols register? token (some slot) :=
      ⟨_, by simpa using present, operand, known, kind, rfl⟩
    exact ⟨i + 1, other, misfit.cons suits, blames⟩
  | case7 position slot slots token tokens f present operand known kind =>
    cases refused
    refine ⟨0, token, firstMisfit_head ?_, .misplaced (.inr ⟨operand, known⟩) rfl rfl⟩
    rintro ⟨v, -, other, classified, suited, -⟩
    rw [known] at classified
    cases classified
    exact kind suited

end

section

variable {instruction : Instruction} {format : Format} {symbols : SymbolTable}
  {register? : Text → Option UInt8} {slots : List Slot}

theorem bind_laidOut (layout : format.fields.layout? = some slots) :
    bind instruction format symbols register? =
      bindFrom format symbols register? 0 slots instruction.operands.toList format.blank := by
  simp only [bind, layout]
  rfl

theorem bind_eq_error (layout : format.fields.layout? = some slots) {failure : Failure}
    (refused : bind instruction format symbols register? = .error failure) :
    ∃ i token, FirstMisfit symbols register? slots instruction.operands.toList i token ∧
      Blames symbols register? token slots[i]? failure := by
  rw [bind_laidOut layout] at refused
  exact bindFrom_eq_error refused

theorem bind_fills {f : Fields} (bound : bind instruction format symbols register? = .ok f) :
    ∃ slots, format.fields.layout? = some slots ∧
      AllSuit symbols register? slots instruction.operands.toList ∧
      Fills symbols register? format slots instruction.operands.toList f := by
  obtain ⟨slots, layout, carries, keys, canonical⟩ := bind_eq_ok_iff.mp bound
  refine ⟨slots, layout, carries.allSuit, keys, fun i slot => carries.filled, ?_, canonical⟩
  intro slot outside
  have mask : f.mask = format.fields := congrArg Encoding.fields keys
  have unnamed : f.mask.has slot.field = false := by
    rw [mask, ← Bool.not_eq_true, ← FieldMask.mem_layout?_iff layout]
    exact outside
  exact (Fields.canonical_eq_self_iff f).mp canonical slot unnamed

end

/-- Operands bind exactly if the format has a layout and every position has what it needs. The fields are
then those that the operands fill, and the word of a format that was checked gives them back, its registers
being those of a register file. Otherwise a format without a layout is at fault, or the first position that
has not what it needs. -/
theorem bind_exact (instruction : Instruction) (format : Format) (symbols : SymbolTable)
    (register? : Text → Option UInt8) :
    ((∃ f, bind instruction format symbols register? = .ok f) ↔
      ∃ slots, format.fields.layout? = some slots ∧
        AllSuit symbols register? slots instruction.operands.toList) ∧
    (∀ f, bind instruction format symbols register? = .ok f →
      (∃ slots, format.fields.layout? = some slots ∧
        Fills symbols register? format slots instruction.operands.toList f) ∧
      ∀ names registers draft, Registers.ofNames names = .ok registers → register? = registers.index? →
        Draft.problems draft = [] → format ∈ draft.formats → Fields.decode f.encode = f) ∧
    (format.fields.layout? = none →
      bind instruction format symbols register? = .error (missingLayout format)) ∧
    ∀ slots failure, format.fields.layout? = some slots →
      bind instruction format symbols register? = .error failure →
      ∃ i token, FirstMisfit symbols register? slots instruction.operands.toList i token ∧
        Blames symbols register? token slots[i]? failure := by
  refine ⟨⟨?_, ?_⟩, ?_, ?_, ?_⟩
  · rintro ⟨f, bound⟩
    obtain ⟨slots, layout, suited, -⟩ := bind_fills bound
    exact ⟨slots, layout, suited⟩
  · rintro ⟨slots, layout, suited⟩
    cases outcome : bind instruction format symbols register? with
    | ok f => exact ⟨f, rfl⟩
    | error failure =>
      obtain ⟨i, token, misfit, -⟩ := bind_eq_error layout outcome
      exact absurd (suited i token misfit.here) misfit.unsuited
  · intro f bound
    obtain ⟨slots, layout, -, fills⟩ := bind_fills bound
    refine ⟨⟨slots, layout, fills⟩, ?_⟩
    rintro names registers draft admitted rfl checked listed
    obtain ⟨sound, rfl⟩ := Registers.ofNames_eq_ok_iff.mp admitted
    obtain ⟨-, formats⟩ := Draft.problems_eq_nil_iff.mp checked
    have grouped := formats.grouped format listed
    exact Fields.decode_encode (bound_fits grouped (fun _ _ => sound.index?_small) bound)
  · intro missing
    simp only [bind, missing]
  · intro slots failure layout refused
    exact bind_eq_error layout refused

theorem bind_exact_greatest :
    let format : Format := { mnemonic := "SET", fields := ⟨9⟩, group := 31, opcode := 255 }
    let instruction : Instruction := { mnemonic := "SET", operands := .ofList ["R1", "0xFFFFFFFF"] }
    Registers.ofNames ["R0", "R1"] = .ok ⟨["R0", "R1"]⟩ ∧ Draft.problems { formats := [format] } = [] ∧
      ∃ f, bind instruction format [] (Registers.index? ⟨["R0", "R1"]⟩) = .ok f ∧
        f.value .rd = 1 ∧ f.value .imm = 0xffffffff ∧ Fields.decode f.encode = f := by
  intro format instruction
  have admitted : Registers.ofNames ["R0", "R1"] = .ok ⟨["R0", "R1"]⟩ := rfl
  have checked : Draft.problems { formats := [format] } = [] := by decide
  have bound : bind instruction format [] (Registers.index? ⟨["R0", "R1"]⟩) =
      .ok { mask := ⟨9⟩, group := 31, opcode := 255, rd := 1, imm := 0xffffffff } := by decide
  obtain ⟨-, each, -, -⟩ := bind_exact instruction format [] (Registers.index? ⟨["R0", "R1"]⟩)
  have round := (each _ bound).2 _ _ _ admitted rfl checked List.mem_cons_self
  exact ⟨admitted, checked, _, bound, rfl, rfl, round⟩

/-- Behind the layout a token is out of place whatever it is, and a mask without a layout comes first. -/
theorem extra_operand_unread :
    let bare : Format := { mnemonic := "OP0", fields := .empty, group := 17, opcode := 125 }
    let unlaid : Format := { mnemonic := "OP0", fields := .rd, group := 17, opcode := 125 }
    let instruction : Instruction := { mnemonic := "OP0", operands := .ofList ["bogus"] }
    FirstMisfit [] (fun _ => none) [] instruction.operands.toList 0 "bogus" ∧
      ∃ refused extra missing, classify "bogus" [] (fun _ => none) = .error refused ∧
        bind instruction bare [] (fun _ => none) = .error extra ∧
        bind instruction unlaid [] (fun _ => none) = .error missing ∧
        refused.kind? = some .unknownOperand ∧ extra.kind? = some .operandKindMismatch ∧
        missing.kind? = some .invalidTable := by
  intro bare unlaid instruction
  have unsuited : ¬ Suits [] (fun _ => none) "bogus" (none : Option Slot) := by
    intro suits
    have empty : ("bogus" : Text) = [] := suits
    exact absurd empty (by decide)
  exact ⟨firstMisfit_head unsuited, _, _, _, rfl, rfl, rfl, rfl, rfl, rfl⟩

end TableAsm
