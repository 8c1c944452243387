import Mathlib.Tactic.SplitIfs
import TableAsm.Proofs.Source.Lines
import TableAsm.Proofs.Text.Numerals
import TableAsm.Source.Operand

namespace TableAsm

/-- A token that is tried as a register name. -/
structure NameLike (token : Text) : Prop where
  nonempty : token ≠ []
  unlabelled : token.head? ≠ some labelSigil
  notHex : Text.after? hexMark token = none
  notDecimal : Text.readNatural 10 Text.max32 token = .error .malformed

theorem after?_eq_some_iff {start t rest : Text} : Text.after? start t = some rest ↔ t = start ++ rest := by
  induction start generalizing t with
  | nil => simp [Text.after?, eq_comm]
  | cons a start ih =>
    cases t with
    | nil => simp [Text.after?]
    | cons b t =>
      rw [Text.after?, List.cons_append, List.cons.injEq]
      by_cases same : a = b
      · simp [same, ih]
      · simp [same, Ne.symm same]

theorem after?_eq_none_iff {start t : Text} :
    Text.after? start t = none ↔ start.isPrefixOf t = false := by
  rw [Option.eq_none_iff_forall_ne_some, ← Bool.not_eq_true, List.isPrefixOf_iff_prefix]
  simp only [Ne, after?_eq_some_iff]
  constructor
  · rintro differ ⟨rest, whole⟩
    exact differ rest whole.symm
  · rintro differ rest rfl
    exact differ (List.prefix_append start rest)

section

variable {token : Text} {symbols : SymbolTable}

theorem not_isEmpty_of_sigil (sigil : token.head? = some labelSigil) : ¬ token.isEmpty = true := by
  intro empty
  rw [List.isEmpty_iff.mp empty] at sigil
  cases sigil

theorem classify_defined (sigil : token.head? = some labelSigil) {address : UInt32}
    (found : symbols.address? token = some address) (register? : Text → Option UInt8) :
    classify token symbols register? =
      .ok { kind := .immediate, value := address, symbol := token, token } := by
  simp only [classify, if_neg (not_isEmpty_of_sigil sigil), if_pos sigil, found]

theorem classify_undefined (sigil : token.head? = some labelSigil)
    (missing : symbols.address? token = none) (register? : Text → Option UInt8) :
    ∃ failure fault, classify token symbols register? = .error failure ∧
      failure.fault? = some fault ∧ fault.kind = .unresolvedSymbol := by
  simp only [classify, if_neg (not_isEmpty_of_sigil sigil), if_pos sigil, missing]
  exact ⟨_, _, rfl, rfl, rfl⟩

theorem classify_unlabelled (unlabelled : token.head? ≠ some labelSigil) (known : SymbolTable)
    (register? : Text → Option UInt8) :
    classify token symbols register? = classify token known register? := by
  simp only [classify, if_neg unlabelled]

end

/-- A token that is tried as a decimal numeral. -/
structure Bare (token : Text) : Prop where
  nonempty : token ≠ []
  unlabelled : token.head? ≠ some labelSigil
  unmarked : Text.after? hexMark token = none

theorem token_cases (token : Text) :
    token = [] ∨ token.head? = some labelSigil ∨ (∃ t, token = hexMark ++ t) ∨ Bare token := by
  by_cases empty : token = []
  · exact .inl empty
  by_cases sigil : token.head? = some labelSigil
  · exact .inr (.inl sigil)
  cases mark : Text.after? hexMark token with
  | some t => exact .inr (.inr (.inl ⟨t, after?_eq_some_iff.mp mark⟩))
  | none => exact .inr (.inr (.inr ⟨empty, sigil, mark⟩))

theorem hexMark_eq : hexMark = [0x30, 0x78] := by decide

theorem Text.Spells.bare {token : Text} {v : Nat} (spells : Text.Spells 10 token v) : Bare token := by
  have digits := spells.digits (by decide)
  refine ⟨spells.1, ?_, ?_⟩
  · intro sigil
    obtain ⟨rest, rfl⟩ := List.head?_eq_some_iff.mp sigil
    have digit := digits labelSigil List.mem_cons_self
    exact absurd digit (by decide)
  · rw [Option.eq_none_iff_forall_ne_some]
    intro t mark
    have digit := digits 0x78 (by rw [after?_eq_some_iff.mp mark, hexMark_eq]; simp)
    exact absurd digit (by decide)

theorem classify_hexadecimal (t : Text) (symbols : SymbolTable) (register? : Text → Option UInt8) :
    classify (hexMark ++ t) symbols register? =
      match Text.readNatural 16 Text.max32 t with
      | .ok v => .ok { kind := .immediate, value := UInt32.ofNat v, token := hexMark ++ t }
      | .error .outOfRange => .error (literalOutOfRange "hexadecimal" (hexMark ++ t))
      | .error .malformed => .error (malformedLiteral "hexadecimal" (hexMark ++ t) t) := by
  have present : (hexMark ++ t).isEmpty = false := by rw [hexMark_eq]; rfl
  have unlabelled : (hexMark ++ t).head? ≠ some labelSigil := by
    rw [hexMark_eq, List.cons_append, List.head?_cons]
    decide
  have mark : Text.after? hexMark (hexMark ++ t) = some t := after?_eq_some_iff.mpr rfl
  cases read : Text.readNatural 16 Text.max32 t with
  | ok v => simp only [classify, present, Bool.false_eq_true, if_false, if_neg unlabelled, mark, read]
  | error problem =>
    cases problem <;>
      simp only [classify, present, Bool.false_eq_true, if_false, if_neg unlabelled, mark, read]

theorem classify_bare {token : Text} (bare : Bare token) (symbols : SymbolTable)
    (register? : Text → Option UInt8) :
    classify token symbols register? =
      match Text.readNatural 10 Text.max32 token with
      | .ok v => .ok { kind := .immediate, value := UInt32.ofNat v, token }
      | .error .outOfRange => .error (literalOutOfRange "decimal" token)
      | .error .malformed =>
        match register? token with
        | some index => .ok { kind := .register, value := index.toUInt32, token }
        | none => .error <| Failure.ofFault
            { kind := .unknownOperand
              token
              message := token.quoted ++ " is neither a literal, a label nor a register" } := by
  have present : token.isEmpty = false := by simpa using bare.nonempty
  have unlabelled := bare.unlabelled
  have unmarked := bare.unmarked
  cases read : Text.readNatural 10 Text.max32 token with
  | ok v => simp only [classify, present, Bool.false_eq_true, if_false, if_neg unlabelled, unmarked, read]
  | error problem =>
    cases problem <;> cases found : register? token <;>
      simp only [classify, present, Bool.false_eq_true, if_false, if_neg unlabelled, unmarked, read, found]

/-- The token is a numeral for the number: hexadecimal behind the mark, or decimal. -/
inductive Literal : Text → Nat → Prop
  | hexadecimal {digits : Text} {v : Nat} (spells : Text.Spells 16 digits v) :
      Literal (hexMark ++ digits) v
  | decimal {digits : Text} {v : Nat} (spells : Text.Spells 10 digits v) : Literal digits v

section

variable {token : Text} {symbols : SymbolTable} {register? : Text → Option UInt8}

/-- The operand is the address of the label, or the number that the token spells. -/
inductive Denoted (symbols : SymbolTable) (token : Text) : Operand → Prop
  | label {address : UInt32} (sigil : token.head? = some labelSigil)
      (found : symbols.address? token = some address) :
      Denoted symbols token { kind := .immediate, value := address, symbol := token, token }
  | literal {v : Nat} (literal : Literal token v) (fits : v ≤ Text.max32) :
      Denoted symbols token { kind := .immediate, value := UInt32.ofNat v, token }

theorem Denoted.classify {operand : Operand} (denoted : Denoted symbols token operand) :
    classify token symbols register? = .ok operand := by
  cases denoted with
  | label sigil found => exact classify_defined sigil found register?
  | literal literal fits =>
    cases literal with
    | hexadecimal spells =>
      have read := (Text.readNatural_eq_ok_iff (by decide) (by decide)).mpr ⟨spells, fits⟩
      rw [classify_hexadecimal, read]
    | decimal spells =>
      have read := (Text.readNatural_eq_ok_iff (by decide) (by decide)).mpr ⟨spells, fits⟩
      rw [classify_bare spells.bare, read]

theorem classify_of_nameLike (like : NameLike token) (symbols : SymbolTable) {index : UInt8}
    (found : register? token = some index) :
    classify token symbols register? =
      .ok { kind := .register, value := index.toUInt32, token } := by
  have bare : Bare token := ⟨like.nonempty, like.unlabelled, like.notHex⟩
  rw [classify_bare bare, like.notDecimal]
  simp only [found]

theorem Denoted.immediate {operand : Operand} (denoted : Denoted symbols token operand) :
    operand.kind = .immediate := by
  cases denoted with
  | label => rfl
  | literal => rfl

/-- An operand is nothing, a number that does not depend on the register names, or a register. -/
theorem classify_cases {operand : Operand} (classified : classify token symbols register? = .ok operand) :
    operand = {} ∨ Denoted symbols token operand ∨
      NameLike token ∧ ∃ index, register? token = some index ∧
        operand = { kind := .register, value := index.toUInt32, token } := by
  rcases token_cases token with rfl | sigil | ⟨t, rfl⟩ | bare
  · cases classified
    exact .inl rfl
  · refine .inr (.inl ?_)
    cases found : symbols.address? token with
    | none =>
      obtain ⟨failure, -, refused, -⟩ := classify_undefined sigil found register?
      rw [refused] at classified
      cases classified
    | some address =>
      rw [classify_defined sigil found] at classified
      cases classified
      exact .label sigil found
  · refine .inr (.inl ?_)
    rw [classify_hexadecimal] at classified
    cases read : Text.readNatural 16 Text.max32 t with
    | error problem =>
      rw [read] at classified
      cases problem <;> cases classified
    | ok v =>
      obtain ⟨spells, fits⟩ := (Text.readNatural_eq_ok_iff (by decide) (by decide)).mp read
      rw [read] at classified
      cases classified
      exact .literal (.hexadecimal spells) fits
  · rw [classify_bare bare] at classified
    cases read : Text.readNatural 10 Text.max32 token with
    | ok v =>
      obtain ⟨spells, fits⟩ := (Text.readNatural_eq_ok_iff (by decide) (by decide)).mp read
      rw [read] at classified
      cases classified
      exact .inr (.inl (.literal (.decimal spells) fits))
    | error problem =>
      rw [read] at classified
      cases problem with
      | outOfRange => cases classified
      | malformed =>
        have like : NameLike token := ⟨bare.nonempty, bare.unlabelled, bare.unmarked, read⟩
        cases found : register? token with
        | none =>
          rw [found] at classified
          cases classified
        | some index =>
          rw [found] at classified
          cases classified
          exact .inr (.inr ⟨like, index, rfl, rfl⟩)

theorem classify_register {operand : Operand} (classified : classify token symbols register? = .ok operand)
    (register : operand.kind = .register) :
    NameLike token ∧ ∃ index, register? token = some index ∧ operand.value = index.toUInt32 := by
  rcases classify_cases classified with rfl | denoted | ⟨like, index, found, rfl⟩
  · cases register
  · rw [denoted.immediate] at register
    cases register
  · exact ⟨like, index, found, rfl⟩

end

theorem readNatural_fixedDigits (v : UInt32) :
    Text.readNatural 16 Text.max32 (Text.fixedDigits 16 8 v.toNat) = .ok v.toNat := by
  have spells : Text.Spells 16 (Text.fixedDigits 16 8 v.toNat) v.toNat :=
    Text.spells_fixedDigits (by decide) (by decide) (by decide) v.toNat_lt
  have fits : v.toNat ≤ Text.max32 := by
    have bound := v.toNat_lt
    simp only [Text.max32]
    omega
  exact (Text.readNatural_eq_ok_iff (by decide) (by decide)).mpr ⟨spells, fits⟩

theorem literal32_eq (v : UInt32) :
    Text.literal32 v = 0x30 :: 0x78 :: Text.fixedDigits 16 8 v.toNat := by
  change hexMark ++ _ = _
  rw [hexMark_eq]
  rfl

theorem classify_literal32 (v : UInt32) (symbols : SymbolTable) (register? : Text → Option UInt8) :
    classify (Text.literal32 v) symbols register? =
      .ok { kind := .immediate, value := v, token := Text.literal32 v } := by
  have marked : Text.literal32 v = hexMark ++ Text.fixedDigits 16 8 v.toNat := rfl
  rw [marked, classify_hexadecimal, readNatural_fixedDigits]
  simp only [UInt32.ofNat_toNat]

theorem literal32_visible (v : UInt32) : ∀ b ∈ Text.literal32 v, 0x21 ≤ b ∧ b < 0x7f := by
  intro b member
  rw [literal32_eq, List.mem_cons, List.mem_cons] at member
  rcases member with rfl | rfl | member
  · decide
  · decide
  · exact Text.visible_of_digit (Text.fixedDigits_digits (by decide) (by decide) _ _ b member)

theorem literal32_word (v : UInt32) : LoneWord (Text.literal32 v) := by
  have solid := Text.no_blank_of_visible (literal32_visible v)
  refine loneWord_of_no_blank ?_ solid ?_ ?_
  · rw [literal32_eq]
    exact List.cons_ne_nil _ _
  · intro member
    rw [literal32_eq, List.mem_cons, List.mem_cons] at member
    rcases member with first | second | member
    · exact absurd first (by decide)
    · exact absurd second (by decide)
    · have digit := Text.fixedDigits_digits (by decide : 0 < 16) (by decide) _ _ _ member
      exact absurd digit (by decide)
  · rw [literal32_eq, List.head?_cons]
    decide

end TableAsm
