import TableAsm.Proofs.Assembly.Agreement
import TableAsm.Proofs.Assembly.Labels

/-!
Programs without labels. A source that scans can be written without labels: label lines are left out,
and a label among the operands is replaced by the literal of its address. What is assembled is the same.
Nor does it change with the names, the order and the lines of labels, as long as each operand refers to
a label with the same number of instructions before it.
-/
namespace TableAsm

namespace SymbolTable

/-- The literal of a label's address. Anything but a label that is defined is left as it is. -/
def inline (s : SymbolTable) (token : Text) : Text :=
  match s.address? token with
  | some address => Text.literal32 address
  | none => token

def inlineLine? (s : SymbolTable) (raw : Text) : Option Text :=
  match parseLine raw with
  | .ok (some (.label _)) => none
  | .ok (some (.instruction mnemonic operands)) =>
    some (Text.joined " " (mnemonic :: operands.map s.inline))
  | _ => some raw

def inlineLines (s : SymbolTable) (lines : List Text) : List Text := lines.filterMap s.inlineLine?

theorem inline_cases (s : SymbolTable) (token : Text) :
    (s.address? token = none ∧ s.inline token = token) ∨
      ∃ address, s.address? token = some address ∧ s.inline token = Text.literal32 address := by
  unfold inline
  cases s.address? token with
  | none => exact .inl ⟨rfl, rfl⟩
  | some address => exact .inr ⟨address, rfl, rfl⟩

theorem inline_token {token : Text} (s : SymbolTable) (piece : SourceToken token) :
    SourceToken (s.inline token) := by
  obtain ⟨-, same⟩ | ⟨address, -, same⟩ := s.inline_cases token
  · rwa [same]
  · rw [same]
    exact (literal32_word address).token

theorem inline_endsSolid {token : Text} (s : SymbolTable) (ends : token.EndsSolid) :
    (s.inline token).EndsSolid := by
  obtain ⟨-, same⟩ | ⟨address, -, same⟩ := s.inline_cases token
  · rwa [same]
  · rw [same]
    exact (literal32_word address).ends

theorem Sigils.inline_nil {s : SymbolTable} (sigils : s.Sigils) : s.inline [] = [] := by
  obtain ⟨-, same⟩ | ⟨address, found, -⟩ := s.inline_cases []
  · exact same
  · cases sigils [] address found

theorem Sigils.sameOperand {s : SymbolTable} (sigils : s.Sigils) (register? : Text → Option UInt8)
    (token : Text) : SameOperand s [] register? token (s.inline token) := by
  obtain ⟨missing, same⟩ | ⟨address, found, same⟩ := s.inline_cases token
  · rw [same]
    by_cases sigil : token.head? = some labelSigil
    · exact .labels sigil sigil missing register?
    · exact .unlabelled sigil s [] register?
  · have sigil := sigils token address found
    have present : token ≠ [] := by simpa using not_isEmpty_of_sigil sigil
    rw [same]
    refine ⟨iff_of_false present (literal32_word address).nonempty, ?_⟩
    rw [classify_defined sigil found, classify_literal32]
    exact .ok ⟨rfl, rfl⟩

end SymbolTable

/-- The second lines are the first without labels, however their white space and comments are
written. -/
inductive Inlined (s : SymbolTable) : List Text → List Text → Prop
  | nil : Inlined s [] []
  | label {raw name : Text} {rest others : List Text}
      (parsed : parseLine raw = .ok (some (.label name))) (after : Inlined s rest others) :
      Inlined s (raw :: rest) others
  | blank {raw raw' : Text} {rest others : List Text} (parsed : parseLine raw = .ok none)
      (parsed' : parseLine raw' = .ok none) (after : Inlined s rest others) :
      Inlined s (raw :: rest) (raw' :: others)
  | instruction {raw raw' mnemonic : Text} {operands rest others : List Text}
      (parsed : parseLine raw = .ok (some (.instruction mnemonic operands)))
      (parsed' : parseLine raw' = .ok (some (.instruction mnemonic (operands.map s.inline))))
      (after : Inlined s rest others) : Inlined s (raw :: rest) (raw' :: others)

/-- The second instruction is the first without labels. -/
structure Instruction.Inlined (s : SymbolTable) (i j : Instruction) : Prop where
  mnemonic : j.mnemonic = i.mnemonic
  operands : j.operands.toList = i.operands.toList.map s.inline
  address : j.address = i.address

theorem Operands.toList_ofList_map {f : Text → Text} (empty : f [] = []) (tokens : List Text) :
    (ofList (tokens.map f)).toList = (ofList tokens).toList.map f := by
  have each (n : Nat) : (tokens.map f).getD n [] = f (tokens.getD n []) := by
    rw [List.getD_eq_getElem?_getD, List.getElem?_map, List.getD_eq_getElem?_getD]
    cases tokens[n]? with
    | none => exact empty.symm
    | some token => rfl
  simp only [ofList, toList, each, List.map_cons, List.map_nil]

section

variable {failure? : Option Text} {count : Nat} {address : UInt32} {symbols s : SymbolTable}
  {lines others : List Text} {p : Program}

theorem parseLine_inlined {raw mnemonic : Text} {operands : List Text}
    (parsed : parseLine raw = .ok (some (.instruction mnemonic operands))) (s : SymbolTable) :
    parseLine (Text.joined " " (mnemonic :: operands.map s.inline)) =
      .ok (some (.instruction mnemonic (operands.map s.inline))) := by
  obtain ⟨word, starts, -⟩ := parseLine_mnemonic parsed
  have ends := parseLine_endsSolid parsed
  refine parseLine_spaced word starts ?_ ?_
  · refine List.forall_mem_map.mpr ?_
    intro operand member
    exact s.inline_token (parseLine_token parsed (List.mem_cons_of_mem _ member))
  · rcases List.eq_nil_or_concat operands with rfl | ⟨front, last, rfl⟩
    · exact ends
    · rw [List.getLast?_cons_of_ne_nil (by simp)] at ends ⊢
      have solid : last.EndsSolid := ends last (by simp)
      simpa using s.inline_endsSolid solid

theorem scanFrom_inlineLines
    (scanned : (scanFrom failure? count address symbols lines).result = .ok p) (s : SymbolTable) :
    Inlined s lines (s.inlineLines lines) := by
  unfold SymbolTable.inlineLines
  induction lines generalizing count address symbols p with
  | nil => exact .nil
  | cons raw rest ih =>
    rw [List.filterMap_cons]
    obtain ⟨parsed, ok⟩ | ⟨name, known, q, parsed, -, ok, -⟩ | ⟨i, q, stems, -, -, ok, -⟩ :=
      scanFrom_cons_eq_ok scanned
    · simp only [SymbolTable.inlineLine?, parsed]
      exact .blank parsed parsed (ih ok)
    · simp only [SymbolTable.inlineLine?, parsed]
      exact .label parsed (ih ok)
    · obtain ⟨operands, parsed, -⟩ := stems
      simp only [SymbolTable.inlineLine?, parsed]
      exact .instruction parsed (parseLine_inlined parsed s) (ih ok)

theorem scanFrom_inlined (scanned : (scanFrom failure? count address symbols lines).result = .ok p)
    (aligned : address.toNat % 8 = 0) (sigils : s.Sigils) (inlined : Inlined s lines others)
    (start : Nat) :
    ∃ q, (scanFrom none start address [] others).result = .ok q ∧ q.labels = [] ∧ q.symbols = [] ∧
      List.Forall₂ (Instruction.Inlined s) p.instructions q.instructions := by
  induction inlined generalizing count address symbols p start with
  | nil =>
    obtain rfl := scanFrom_nil_eq_ok scanned
    exact ⟨{}, rfl, rfl, rfl, .nil⟩
  | label parsed _ ih =>
    obtain ⟨same, -⟩ | ⟨name, known, q, -, -, ok, rfl⟩ | ⟨i, q, ⟨operands, same, -⟩, -⟩ :=
      scanFrom_cons_eq_ok scanned
    · simp [parsed] at same
    · exact ih ok aligned start
    · simp [parsed] at same
  | blank parsed parsed' _ ih =>
    obtain ⟨-, ok⟩ | ⟨name, known, q, same, -⟩ | ⟨i, q, ⟨operands, same, -⟩, -⟩ :=
      scanFrom_cons_eq_ok scanned
    · simp only [scanFrom, parsed']
      exact ih ok aligned (start + 1)
    · simp [parsed] at same
    · simp [parsed] at same
  | @instruction raw raw' mnemonic operands rest others parsed parsed' _ ih =>
    obtain ⟨same, -⟩ | ⟨name, known, q, same, -⟩ |
        ⟨i, q, ⟨tokens, same, few, listed⟩, place, -, ok, rfl⟩ :=
      scanFrom_cons_eq_ok scanned
    · simp [parsed] at same
    · simp [parsed] at same
    · rw [parsed] at same
      cases same
      have fitting : Instruction.surplus? (operands.map s.inline) = none := by
        rw [Instruction.surplus?_eq_none_iff, List.length_map]
        exact few
      obtain ⟨q', scanned', labels, known, each⟩ := ih ok (aligned_next aligned) (start + 1)
      simp only [scanFrom, parsed', if_neg (room_of_aligned aligned), fitting, Scan.withInstruction,
        scanned', Except.map]
      refine ⟨_, rfl, labels, known, .cons ⟨rfl, ?_, place.symm⟩ each⟩
      rw [listed]
      exact Operands.toList_ofList_map sigils.inline_nil operands

end

/-- The tokens refer to the same: they are equal and no label, or both are labels with the same number
of instructions before them, or both are labels that are not defined. -/
def SameReference (p q : Program) (x y : Text) : Prop :=
  (x.head? ≠ some labelSigil ∧ x = y) ∨
    (x.head? = some labelSigil ∧ y.head? = some labelSigil ∧ p.target? x = q.target? y)

instance (p q : Program) (x y : Text) : Decidable (SameReference p q x y) :=
  inferInstanceAs (Decidable (_ ∨ _))

/-- The instructions differ at most in their labels, and these refer to the same. -/
structure SameInstruction (p q : Program) (i j : Instruction) : Prop where
  mnemonic : i.mnemonic = j.mnemonic
  operands : List.Forall₂ (SameReference p q) i.operands.toList j.operands.toList

section

variable {t : Table} {input other : LineInput} {p q : Program}

theorem SameReference.sameOperand (scanned : (scan input).result = .ok p)
    (scanned' : (scan other).result = .ok q) {x y : Text} (same : SameReference p q x y)
    (register? : Text → Option UInt8) : SameOperand p.symbols q.symbols register? x y := by
  obtain ⟨word, rfl⟩ | ⟨sigil, sigil', target⟩ := same
  · exact .unlabelled word p.symbols q.symbols register?
  · have addresses : p.symbols.address? x = q.symbols.address? y := by
      rw [scan_address? scanned, scan_address? scanned', target]
    exact .labels sigil sigil' addresses register?

theorem SameInstruction.alike (scanned : (scan input).result = .ok p)
    (scanned' : (scan other).result = .ok q) {i j : Instruction} (same : SameInstruction p q i j) :
    t.Alike p.symbols q.symbols i j := by
  refine Table.alike_of_operands same.mnemonic (same.operands.imp ?_)
  intro x y reference
  exact reference.sameOperand scanned scanned' t.registers.index?

theorem Instruction.Inlined.alike {s : SymbolTable} (sigils : s.Sigils) {i j : Instruction}
    (inlined : Instruction.Inlined s i j) : t.Alike s [] i j := by
  refine Table.alike_of_operands inlined.mnemonic.symm ?_
  rw [inlined.operands, List.forall₂_map_right_iff, List.forall₂_same]
  intro token _
  exact sigils.sameOperand t.registers.index? token

end

/-- Labels are nothing but their addresses. A source that scans can be written without labels, and
however that is done, it scans to the same instructions with the addresses of the labels in their
places, leaves the same output, whatever the output is, and fails at the same instruction with the same
kind of fault, or not at all. So does every source with the same instructions whose labels, by whatever
names, in whatever order and on whatever lines, refer to the same. -/
theorem Table.labels_are_addresses (t : Table) {input : LineInput} {p : Program}
    (scanned : (scan input).result = .ok p) :
    Inlined p.symbols input.lines (p.symbols.inlineLines input.lines) ∧
      (∀ lines, Inlined p.symbols input.lines lines →
        ∃ q, (scan { lines }).result = .ok q ∧ q.labels = [] ∧
          List.Forall₂ (Instruction.Inlined p.symbols) p.instructions q.instructions ∧
          ∀ {σ : Type} (write : σ → Text → σ × Option Failure) (out : σ),
            SameRun p q (t.assemble input write out) (t.assemble { lines } write out)) ∧
      ∀ other q, (scan other).result = .ok q →
        List.Forall₂ (SameInstruction p q) p.instructions q.instructions →
          ∀ {σ : Type} (write : σ → Text → σ × Option Failure) (out : σ),
            SameRun p q (t.assemble input write out) (t.assemble other write out) := by
  have sigils := scan_sigils scanned
  refine ⟨scanFrom_inlineLines scanned p.symbols, ?_, ?_⟩
  · intro lines inlined
    obtain ⟨q, ok, labels, known, each⟩ := scanFrom_inlined scanned rfl sigils inlined 0
    have scanned' : (scan { lines }).result = .ok q := ok
    have alike : List.Forall₂ (t.Alike p.symbols q.symbols) p.instructions q.instructions := by
      rw [known]
      exact each.imp fun i j inlined => inlined.alike sigils
    exact ⟨q, scanned', labels, each, fun write out => assemble_alike scanned scanned' alike write out⟩
  · intro other q scanned' same σ write out
    exact assemble_alike scanned scanned' (same.imp fun i j => SameInstruction.alike scanned scanned')
      write out

/-- A reference forward, one backward, and a label where a register is needed: written without labels,
and with the names of the labels exchanged. -/
theorem Table.labels_are_addresses_exchanged :
    let input : LineInput :=
      { lines := ["@top", "J  @end ; forward", "@loop", "J @loop", "@end", "@spare", "JR @top"] }
    let plain : LineInput := { lines := ["J 0x00000010", "J 0x00000008", "JR 0x00000000"] }
    let other : LineInput := { lines := ["@end", "J @loop", "@top", "J @top", "@loop", "JR @end"] }
    let r := Mu.table.assemble input Sink.write {}
    ∃ p q q', (scan input).result = .ok p ∧ (scan plain).result = .ok q ∧
      (scan other).result = .ok q' ∧ SameRun p q r (Mu.table.assemble plain Sink.write {}) ∧
      SameRun p q' r (Mu.table.assemble other Sink.write {}) := by
  intro input plain other r
  let p : Program :=
    { instructions :=
        [{ source := "J  @end", line := 2, mnemonic := "J", operands := .ofList ["@end"] },
          { source := "J @loop", line := 4, address := 8, mnemonic := "J", operands := .ofList ["@loop"] },
          { source := "JR @top", line := 7, address := 16, mnemonic := "JR", operands := .ofList ["@top"] }]
      labels := [⟨"@top", 0, 1⟩, ⟨"@loop", 8, 3⟩, ⟨"@end", 16, 5⟩, ⟨"@spare", 16, 6⟩]
      symbols := [("@spare", 16), ("@end", 16), ("@loop", 8), ("@top", 0)] }
  let q' : Program :=
    { instructions :=
        [{ source := "J @loop", line := 2, mnemonic := "J", operands := .ofList ["@loop"] },
          { source := "J @top", line := 4, address := 8, mnemonic := "J", operands := .ofList ["@top"] },
          { source := "JR @end", line := 6, address := 16, mnemonic := "JR", operands := .ofList ["@end"] }]
      labels := [⟨"@end", 0, 1⟩, ⟨"@top", 8, 3⟩, ⟨"@loop", 16, 5⟩]
      symbols := [("@loop", 16), ("@top", 8), ("@end", 0)] }
  have scanned : (scan input).result = .ok p := by decide +kernel
  have scanned' : (scan other).result = .ok q' := by decide +kernel
  have inlined : p.symbols.inlineLines input.lines = plain.lines := by decide +kernel
  have same : List.Forall₂ (SameInstruction p q') p.instructions q'.instructions := by
    refine .cons ⟨rfl, ?_⟩ (.cons ⟨rfl, ?_⟩ (.cons ⟨rfl, ?_⟩ .nil))
    all_goals exact .cons (by decide +kernel) (.cons (by decide +kernel) (.cons (by decide +kernel) .nil))
  obtain ⟨written, without, renamed⟩ := labels_are_addresses Mu.table scanned
  rw [inlined] at written
  obtain ⟨q, plainly, -, -, runs⟩ := without plain.lines written
  exact ⟨p, q, q', scanned, plainly, scanned', runs Sink.write {},
    renamed other q' scanned' same Sink.write {}⟩

end TableAsm
