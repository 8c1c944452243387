import TableAsm.Proofs.Assembly.Outcomes

/-!
Programs that agree. Two operand tokens, each with the labels of its own program, agree if both are
operands of one kind with one value, or both are refused with one kind of fault. Binding and encoding
look at nothing else; so programs whose operands agree write the same words, and stop at instructions
in the same place.
-/
namespace TableAsm

/-- Related values, or failures whose outermost faults are of the same kind. -/
inductive Agree {α β : Type} (R : α → β → Prop) : Except Failure α → Except Failure β → Prop
  | ok {a : α} {b : β} (related : R a b) : Agree R (.ok a) (.ok b)
  | error {e e' : Failure} {f f' : Fault} (first : e.fault? = some f) (second : e'.fault? = some f')
      (kinds : f.kind = f'.kind) : Agree R (.error e) (.error e')

theorem Agree.atLine {α β : Type} {R : α → β → Prop} {e e' : Failure} {f f' : Fault}
    (first : e.fault? = some f) (second : e'.fault? = some f') (kinds : f.kind = f'.kind)
    (line line' : Int) : Agree R (.error (e.atLine line)) (.error (e'.atLine line')) := by
  refine .error (Failure.fault?_atLine first line) (Failure.fault?_atLine second line') ?_
  rw [Fault.kind_atLine, Fault.kind_atLine, kinds]

/-- The tokens are both absent or both present, and what is present is classified alike. -/
structure SameOperand (symbols known : SymbolTable) (register? : Text → Option UInt8) (x y : Text) :
    Prop where
  absent : x = [] ↔ y = []
  classified : Agree (fun o o' : Operand => o.kind = o'.kind ∧ o.value = o'.value)
    (classify x symbols register?) (classify y known register?)

theorem SameOperand.unlabelled {token : Text} (word : token.head? ≠ some labelSigil)
    (symbols known : SymbolTable) (register? : Text → Option UInt8) :
    SameOperand symbols known register? token token := by
  refine ⟨Iff.rfl, ?_⟩
  rw [← classify_unlabelled word known register?]
  cases classified : classify token symbols register? with
  | ok operand => exact .ok ⟨rfl, rfl⟩
  | error failure =>
    obtain ⟨fault, outermost, -⟩ := (classify_ofSource classified).unplaced
    exact .error outermost outermost rfl

theorem SameOperand.labels {x y : Text} (sigil : x.head? = some labelSigil)
    (sigil' : y.head? = some labelSigil) {symbols known : SymbolTable}
    (same : symbols.address? x = known.address? y) (register? : Text → Option UInt8) :
    SameOperand symbols known register? x y := by
  refine ⟨?_, ?_⟩
  · constructor
    · rintro rfl
      cases sigil
    · rintro rfl
      cases sigil'
  · cases found : known.address? y with
    | some address =>
      rw [classify_defined sigil (same.trans found), classify_defined sigil' found]
      exact .ok ⟨rfl, rfl⟩
    | none =>
      obtain ⟨failure, fault, refused, outermost, kind⟩ :=
        classify_undefined sigil (same.trans found) register?
      obtain ⟨failure', fault', refused', outermost', kind'⟩ :=
        classify_undefined sigil' found register?
      rw [refused, refused']
      exact .error outermost outermost' (kind.trans kind'.symm)

section

variable {format : Format} {symbols known : SymbolTable} {register? : Text → Option UInt8}

theorem bindFrom_agree {tokens others : List Text}
    (same : List.Forall₂ (SameOperand symbols known register?) tokens others) (position : Nat)
    (slots : List Slot) (f : Fields) :
    Agree Eq (bindFrom format symbols register? position slots tokens f)
      (bindFrom format known register? position slots others f) := by
  induction same generalizing position slots f with
  | nil =>
    rw [bindFrom, bindFrom]
    exact .ok rfl
  | @cons x y tokens others first _ ih =>
    have empty : x.isEmpty = y.isEmpty := by
      rw [Bool.eq_iff_iff, List.isEmpty_iff, List.isEmpty_iff, first.absent]
    cases slots with
    | nil =>
      rw [bindFrom, bindFrom, empty]
      split
      · exact ih _ _ _
      · exact .error rfl rfl rfl
    | cons slot slots =>
      rw [bindFrom, bindFrom, empty]
      split
      · exact .error rfl rfl rfl
      · have classified := first.classified
        generalize classify x symbols register? = left, classify y known register? = right
          at classified
        cases classified with
        | error refused rejected kinds => exact .error refused rejected kinds
        | @ok o o' related =>
          obtain ⟨kind, value⟩ := related
          simp only [kind, value]
          split
          · exact ih _ _ _
          · exact .error rfl rfl rfl

end

namespace Table

variable {t : Table} {symbols known : SymbolTable}

/-- The instructions have the same word, or are refused for the same kind of reason. -/
def Alike (t : Table) (symbols known : SymbolTable) (i j : Instruction) : Prop :=
  Agree Eq (t.encodeInstruction i symbols) (t.encodeInstruction j known)

theorem alike_of_operands {i j : Instruction} (mnemonic : i.mnemonic = j.mnemonic)
    (operands : List.Forall₂ (SameOperand symbols known t.registers.index?)
      i.operands.toList j.operands.toList) : t.Alike symbols known i j := by
  unfold Alike encodeInstruction
  rw [mnemonic]
  cases found : t.ofMnemonic j.mnemonic with
  | error failure =>
    obtain ⟨fault, outermost, -⟩ := (ofMnemonic_ofSource found).unplaced
    exact .atLine outermost outermost rfl _ _
  | ok format =>
    have bound : Agree Eq (bind i format symbols t.registers.index?)
        (bind j format known t.registers.index?) := by
      unfold bind
      cases format.fields.layout? with
      | none => exact .error rfl rfl rfl
      | some slots => exact bindFrom_agree operands 0 slots _
    simp only
    generalize bind i format symbols t.registers.index? = left,
      bind j format known t.registers.index? = right at bound
    cases bound with
    | ok same => exact .ok (congrArg Fields.encode same)
    | error refused rejected kinds => exact .atLine refused rejected kinds _ _

end Table

/-- No failures, or failures at instructions in the same place: faults of one kind, each with the line
of its instruction, or one refusal of the output. -/
inductive SameFailure (instructions others : List Instruction) :
    Option Failure → Option Failure → Prop
  | neither : SameFailure instructions others none none
  | refused {n : Nat} {i j : Instruction} {e e' : Failure} {f f' : Fault}
      (place : instructions[n]? = some i) (place' : others[n]? = some j)
      (first : e.fault? = some f) (second : e'.fault? = some f') (kinds : f.kind = f'.kind)
      (line : f.line = i.line) (line' : f'.line = j.line) :
      SameFailure instructions others (some e) (some e')
  | unwritten {n : Nat} {i j : Instruction} (place : instructions[n]? = some i)
      (place' : others[n]? = some j) (cause : Failure) :
      SameFailure instructions others (some (cause.inContext (Table.wordAccount i)))
        (some (cause.inContext (Table.wordAccount j)))

/-- Runs of two programs that leave the same output and fail alike. -/
structure SameRun {σ : Type} (p q : Program) (r s : Run σ) : Prop where
  out : r.out = s.out
  failure : SameFailure p.instructions q.instructions r.failure s.failure

theorem SameFailure.cons {instructions others : List Instruction} {e e' : Option Failure}
    (same : SameFailure instructions others e e') (i j : Instruction) :
    SameFailure (i :: instructions) (j :: others) e e' := by
  cases same with
  | neither => exact .neither
  | @refused n _ _ _ _ _ _ place place' first second kinds line line' =>
    exact .refused (n := n + 1) place place' first second kinds line line'
  | @unwritten n _ _ place place' cause => exact .unwritten (n := n + 1) place place' cause

namespace Table

variable {t : Table} {symbols known : SymbolTable} {σ : Type}

theorem emit_alike {instructions others : List Instruction}
    (alike : List.Forall₂ (t.Alike symbols known) instructions others)
    (write : σ → Text → σ × Option Failure) (out : σ) :
    let r := t.emit symbols write out instructions
    let s := t.emit known write out others
    r.out = s.out ∧ SameFailure instructions others r.failure s.failure := by
  induction alike generalizing out with
  | nil => exact ⟨rfl, .neither⟩
  | @cons i j rest others first _ ih =>
    unfold Alike at first
    generalize left : t.encodeInstruction i symbols = x, right : t.encodeInstruction j known = y
      at first
    simp only [emit, left, right]
    cases first with
    | error refused rejected kinds =>
      obtain ⟨fault, outermost, line⟩ := encodeInstruction_line left
      obtain ⟨fault', outermost', line'⟩ := encodeInstruction_line right
      rw [refused] at outermost
      rw [rejected] at outermost'
      cases outermost
      cases outermost'
      exact ⟨rfl, .refused (n := 0) rfl rfl refused rejected kinds line line'⟩
    | @ok word _ same =>
      subst same
      simp only
      cases write out word.bytes with
      | mk next failure? =>
        cases failure? with
        | some cause => exact ⟨rfl, .unwritten (n := 0) rfl rfl cause⟩
        | none =>
          obtain ⟨written, failed⟩ := ih next
          exact ⟨written, failed.cons i j⟩

theorem assemble_alike {input other : LineInput} {p q : Program}
    (scanned : (scan input).result = .ok p) (scanned' : (scan other).result = .ok q)
    (alike : List.Forall₂ (t.Alike p.symbols q.symbols) p.instructions q.instructions)
    (write : σ → Text → σ × Option Failure) (out : σ) :
    SameRun p q (t.assemble input write out) (t.assemble other write out) := by
  obtain ⟨written, failed⟩ := emit_alike alike write out
  simp only [assemble, scanned, scanned', emitProgram]
  exact ⟨written, failed⟩

end Table

end TableAsm
