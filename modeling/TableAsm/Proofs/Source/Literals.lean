import TableAsm.Proofs.Source.Classification

namespace TableAsm

/-- A numeral of more than 32 bits stands in front of a byte that is no digit. -/
inductive Overlong : Text → Prop
  | hexadecimal {t : Text} (overruns : Text.Overruns 16 Text.max32 t) : Overlong (hexMark ++ t)
  | decimal {t : Text} (overruns : Text.Overruns 10 Text.max32 t) : Overlong t

theorem Text.Overruns.bare {token : Text} (overruns : Text.Overruns 10 Text.max32 token) :
    Bare token := by
  obtain ⟨digits, v, b, rest, rfl, spells, large, -⟩ := overruns
  have each := spells.digits (by decide)
  refine ⟨by simp, ?_, ?_⟩
  · intro sigil
    rw [List.head?_append_of_ne_nil _ spells.1] at sigil
    exact spells.bare.unlabelled sigil
  · rw [Option.eq_none_iff_forall_ne_some]
    intro t mark
    have whole := after?_eq_some_iff.mp mark
    rw [hexMark_eq] at whole
    -- The digits in front of the second byte of the mark are at most its zero.
    match digits, spells, each, whole with
    | [], spells, _, _ => exact spells.1 rfl
    | [d], spells, _, whole =>
      simp only [List.cons_append, List.cons.injEq] at whole
      rw [whole.1] at spells
      obtain ⟨-, -, rfl⟩ := (Text.spells_iff (by decide)).mp spells
      exact absurd large (by decide)
    | d :: x :: digits, _, each, whole =>
      have digit := each x (by simp)
      simp only [List.cons_append, List.cons.injEq] at whole
      rw [whole.2.1] at digit
      exact absurd digit (by decide)

section

variable {token : Text} {symbols : SymbolTable} {register? : Text → Option UInt8}

theorem classify_eq_immediate_iff {operand : Operand} (immediate : operand.kind = .immediate) :
    classify token symbols register? = .ok operand ↔ Denoted symbols token operand := by
  refine ⟨fun classified => ?_, Denoted.classify⟩
  rcases classify_cases classified with rfl | denoted | ⟨-, index, -, rfl⟩
  · cases immediate
  · exact denoted
  · cases immediate

theorem toNat_of_fits {v : Nat} (fits : v ≤ Text.max32) : (UInt32.ofNat v).toNat = v := by
  simp only [Text.max32] at fits
  rw [UInt32.toNat_ofNat']
  omega

def Immediate (symbols : SymbolTable) (register? : Text → Option UInt8) (token : Text) (v : Nat) : Prop :=
  ∃ operand, classify token symbols register? = .ok operand ∧ operand.kind = .immediate ∧
    operand.value.toNat = v

theorem immediate_iff {v : Nat} :
    Immediate symbols register? token v ↔
      (token.head? = some labelSigil ∧
        ∃ address, symbols.address? token = some address ∧ address.toNat = v) ∨
      (Literal token v ∧ v ≤ Text.max32) := by
  constructor
  · rintro ⟨operand, classified, immediate, rfl⟩
    cases (classify_eq_immediate_iff immediate).mp classified with
    | label sigil found => exact .inl ⟨sigil, _, found, rfl⟩
    | literal literal fits =>
      rw [toNat_of_fits fits]
      exact .inr ⟨literal, fits⟩
  · rintro (⟨sigil, address, found, rfl⟩ | ⟨literal, fits⟩)
    · exact ⟨_, classify_defined sigil found register?, rfl, rfl⟩
    · exact ⟨_, (Denoted.literal literal fits).classify, rfl, toNat_of_fits fits⟩

end

/-- A token is an immediate with a value exactly if it is a label at that address, or digits that spell
this number of 32 bits, in either base and case and behind any zeros. A number written out is one, and
register names decide about none. -/
theorem classify_immediate_exact (token : Text) (symbols : SymbolTable) (register? : Text → Option UInt8) :
    (∀ v, Immediate symbols register? token v ↔
      (token.head? = some labelSigil ∧
        ∃ address, symbols.address? token = some address ∧ address.toNat = v) ∨
      (Literal token v ∧ v ≤ Text.max32)) ∧
    (∀ v, classify (Text.literal32 v) symbols register? =
      .ok { kind := .immediate, value := v, token := Text.literal32 v }) ∧
    ∀ (other? : Text → Option UInt8) (operand : Operand), operand.kind = .immediate →
      (classify token symbols register? = .ok operand ↔ classify token symbols other? = .ok operand) := by
  refine ⟨fun v => immediate_iff, fun v => classify_literal32 v symbols register?, ?_⟩
  intro other? operand immediate
  rw [classify_eq_immediate_iff immediate, classify_eq_immediate_iff immediate]

section

variable {token : Text} {symbols : SymbolTable} {register? : Text → Option UInt8}

def Refused (symbols : SymbolTable) (register? : Text → Option UInt8) (token : Text) (kind : Kind) : Prop :=
  ∃ failure, classify token symbols register? = .error failure ∧ failure.kind? = some kind

/-- The kind of fault that a token calls for by its form. -/
inductive Assigned (symbols : SymbolTable) (register? : Text → Option UInt8) (token : Text) : Kind → Prop
  | outOfRange {v : Nat} (literal : Literal token v) (large : Text.max32 < v) :
      Assigned symbols register? token .literalOutOfRange
  | malformed {t : Text} (marked : token = hexMark ++ t)
      (bad : t = [] ∨ ∃ b ∈ t, ∀ d, ¬ Text.Digit 16 b d) :
      Assigned symbols register? token .malformedLiteral
  | unresolved (sigil : token.head? = some labelSigil) (undefined : symbols.address? token = none) :
      Assigned symbols register? token .unresolvedSymbol
  | unknown (unlabelled : token.head? ≠ some labelSigil) (unmarked : hexMark.isPrefixOf token = false)
      (bad : ∃ b ∈ token, ∀ d, ¬ Text.Digit 10 b d) (unnamed : register? token = none) :
      Assigned symbols register? token .unknownOperand

theorem refused_label_iff (sigil : token.head? = some labelSigil) {kind : Kind} :
    Refused symbols register? token kind ↔
      symbols.address? token = none ∧ kind = .unresolvedSymbol := by
  cases found : symbols.address? token with
  | none =>
    obtain ⟨failure, fault, refused, named, unresolved⟩ := classify_undefined sigil found register?
    have kinds : failure.kind? = some .unresolvedSymbol := by
      rw [Failure.kind?, named, Option.map_some, unresolved]
    simp [Refused, refused, kinds, eq_comm]
  | some address => simp [Refused, classify_defined sigil found]

theorem refused_hexadecimal_iff {t : Text} {kind : Kind} :
    Refused symbols register? (hexMark ++ t) kind ↔
      (Text.readNatural 16 Text.max32 t = .error .outOfRange ∧ kind = .literalOutOfRange) ∨
      (Text.readNatural 16 Text.max32 t = .error .malformed ∧ kind = .malformedLiteral) := by
  have range : (literalOutOfRange "hexadecimal" (hexMark ++ t)).kind? = some .literalOutOfRange := rfl
  have form : (malformedLiteral "hexadecimal" (hexMark ++ t) t).kind? = some .malformedLiteral := rfl
  rw [Refused, classify_hexadecimal]
  cases Text.readNatural 16 Text.max32 t with
  | ok v => simp
  | error problem => cases problem <;> simp [range, form, eq_comm]

theorem refused_bare_iff (bare : Bare token) {kind : Kind} :
    Refused symbols register? token kind ↔
      (Text.readNatural 10 Text.max32 token = .error .outOfRange ∧ kind = .literalOutOfRange) ∨
      (Text.readNatural 10 Text.max32 token = .error .malformed ∧ register? token = none ∧
        kind = .unknownOperand) := by
  have range : (literalOutOfRange "decimal" token).kind? = some .literalOutOfRange := rfl
  rw [Refused, classify_bare bare]
  cases Text.readNatural 10 Text.max32 token with
  | ok v => simp
  | error problem =>
    cases problem with
    | outOfRange => simp [range, eq_comm]
    | malformed =>
      cases register? token with
      | some index => simp
      | none => simp [Failure.kind?, Failure.fault?, Failure.ofFault, Link.fault?, eq_comm]

theorem Refused.unique {kind other : Kind} (refused : Refused symbols register? token kind)
    (again : Refused symbols register? token other) : kind = other := by
  obtain ⟨failure, failed, named⟩ := refused
  obtain ⟨failure', failed', named'⟩ := again
  rw [failed] at failed'
  cases failed'
  rw [named] at named'
  exact Option.some.inj named'

theorem Overlong.refused (overlong : Overlong token) :
    Refused symbols register? token .literalOutOfRange := by
  cases overlong with
  | hexadecimal overruns =>
    have read := (Text.readNatural_eq_outOfRange_iff (by decide) (by decide)).mpr (.inr overruns)
    exact refused_hexadecimal_iff.mpr (.inl ⟨read, rfl⟩)
  | decimal overruns =>
    have read := (Text.readNatural_eq_outOfRange_iff (by decide) (by decide)).mpr (.inr overruns)
    exact (refused_bare_iff overruns.bare).mpr (.inl ⟨read, rfl⟩)

theorem Overlong.not_literal (overlong : Overlong token) (v : Nat) : ¬ Literal token v := by
  -- The mark tells the two bases apart, and within one base a byte that is no digit is there.
  intro literal
  cases overlong with
  | hexadecimal overruns =>
    generalize whole : hexMark ++ _ = token at literal
    cases literal with
    | hexadecimal spells =>
      rw [List.append_cancel_left whole] at overruns
      exact overruns.not_spells (by decide) spells
    | decimal spells =>
      have unmarked := spells.bare.unmarked
      rw [after?_eq_some_iff.mpr whole.symm] at unmarked
      cases unmarked
  | decimal overruns =>
    cases literal with
    | hexadecimal spells =>
      have unmarked := overruns.bare.unmarked
      rw [after?_eq_some_iff.mpr rfl] at unmarked
      cases unmarked
    | decimal spells => exact overruns.not_spells (by decide) spells

theorem Assigned.refused {kind : Kind} (short : ¬ Overlong token)
    (assigned : Assigned symbols register? token kind) : Refused symbols register? token kind := by
  cases assigned with
  | outOfRange literal large =>
    cases literal with
    | hexadecimal spells =>
      have read := (Text.readNatural_eq_outOfRange_iff (by decide) (by decide)).mpr
        (.inl ⟨_, spells, large⟩)
      exact refused_hexadecimal_iff.mpr (.inl ⟨read, rfl⟩)
    | decimal spells =>
      have read := (Text.readNatural_eq_outOfRange_iff (by decide) (by decide)).mpr
        (.inl ⟨_, spells, large⟩)
      exact (refused_bare_iff spells.bare).mpr (.inl ⟨read, rfl⟩)
  | malformed marked bad =>
    subst marked
    have read := (Text.readNatural_eq_malformed_iff (by decide) (by decide)).mpr
      ⟨bad, fun overruns => short (.hexadecimal overruns)⟩
    exact refused_hexadecimal_iff.mpr (.inr ⟨read, rfl⟩)
  | unresolved sigil undefined => exact (refused_label_iff sigil).mpr ⟨undefined, rfl⟩
  | unknown unlabelled unmarked bad unnamed =>
    have nonempty : token ≠ [] := by
      rintro rfl
      obtain ⟨b, member, -⟩ := bad
      cases member
    have bare : Bare token := ⟨nonempty, unlabelled, after?_eq_none_iff.mpr unmarked⟩
    have read := (Text.readNatural_eq_malformed_iff (by decide) (by decide)).mpr
      ⟨.inr bad, fun overruns => short (.decimal overruns)⟩
    exact (refused_bare_iff bare).mpr (.inr ⟨read, unnamed, rfl⟩)

theorem Refused.assigned {kind : Kind} (short : ¬ Overlong token)
    (refused : Refused symbols register? token kind) : Assigned symbols register? token kind := by
  rcases token_cases token with rfl | sigil | ⟨t, rfl⟩ | bare
  · obtain ⟨failure, failed, -⟩ := refused
    cases failed
  · obtain ⟨undefined, rfl⟩ := (refused_label_iff sigil).mp refused
    exact .unresolved sigil undefined
  · rcases refused_hexadecimal_iff.mp refused with ⟨read, rfl⟩ | ⟨read, rfl⟩
    · rcases (Text.readNatural_eq_outOfRange_iff (by decide) (by decide)).mp read with
        ⟨v, spells, large⟩ | overruns
      · exact .outOfRange (.hexadecimal spells) large
      · exact absurd (.hexadecimal overruns) short
    · obtain ⟨bad, -⟩ := (Text.readNatural_eq_malformed_iff (by decide) (by decide)).mp read
      exact .malformed rfl bad
  · rcases (refused_bare_iff bare).mp refused with ⟨read, rfl⟩ | ⟨read, unnamed, rfl⟩
    · rcases (Text.readNatural_eq_outOfRange_iff (by decide) (by decide)).mp read with
        ⟨v, spells, large⟩ | overruns
      · exact .outOfRange (.decimal spells) large
      · exact absurd (.decimal overruns) short
    · obtain ⟨bad, -⟩ := (Text.readNatural_eq_malformed_iff (by decide) (by decide)).mp read
      have unmarked := after?_eq_none_iff.mp bare.unmarked
      exact .unknown bare.unlabelled unmarked (bad.resolve_left bare.nonempty) unnamed

end

/-- Tokens are refused for the reasons that their form assigns exactly if no numeral out of range stands in
front of a byte that is no digit. Such a token is always a literal out of range. -/
theorem refused_as_assigned_iff (token : Text) (symbols : SymbolTable) (register? : Text → Option UInt8) :
    ((∀ kind, Refused symbols register? token kind ↔ Assigned symbols register? token kind) ↔
      ¬ Overlong token) ∧
    (Overlong token → ∀ kind, Refused symbols register? token kind ↔ kind = .literalOutOfRange) := by
  refine ⟨⟨?_, ?_⟩, ?_⟩
  · intro same overlong
    cases (same _).mp overlong.refused with
    | outOfRange literal large => exact overlong.not_literal _ literal
  · intro short kind
    exact ⟨Refused.assigned short, Assigned.refused short⟩
  · intro overlong kind
    constructor
    · intro refused
      exact refused.unique overlong.refused
    · rintro rfl
      exact overlong.refused

/-- The byte behind a numeral out of range is not looked at. -/
theorem overlong_numerals_refused :
    (Refused [] (fun _ => none) "4294967296X" .literalOutOfRange ∧
      Assigned [] (fun _ => none) "4294967296X" .unknownOperand ∧
      ¬ Refused [] (fun _ => none) "4294967296X" .unknownOperand) ∧
    Refused [] (fun _ => none) "0x100000000G" .literalOutOfRange ∧
      Assigned [] (fun _ => none) "0x100000000G" .malformedLiteral ∧
      ¬ Refused [] (fun _ => none) "0x100000000G" .malformedLiteral := by
  have decimal : Refused [] (fun _ => none) "4294967296X" .literalOutOfRange := ⟨_, rfl, rfl⟩
  have hexadecimal : Refused [] (fun _ => none) "0x100000000G" .literalOutOfRange := ⟨_, rfl, rfl⟩
  refine ⟨⟨decimal, ?_, ?_⟩, hexadecimal, ?_, ?_⟩
  · refine .unknown (by decide) (by decide) ⟨0x58, by decide, ?_⟩ rfl
    exact (Text.isDigitOf_eq_false_iff (by decide)).mp (by decide)
  · intro unknown
    cases unknown.unique decimal
  · refine .malformed (t := "100000000G") (by decide) (.inr ⟨0x47, by decide, ?_⟩)
    exact (Text.isDigitOf_eq_false_iff (by decide)).mp (by decide)
  · intro malformed
    cases malformed.unique hexadecimal

end TableAsm
