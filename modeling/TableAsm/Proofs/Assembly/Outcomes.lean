import TableAsm.Isa.Mu
import TableAsm.Proofs.Assembly.Refusals
import TableAsm.Proofs.Stream.Scripts

namespace TableAsm

namespace Table

variable {t : Table}

theorem encodeInstruction_line {i : Instruction} {symbols : SymbolTable} {failure : Failure}
    (refused : t.encodeInstruction i symbols = .error failure) :
    ∃ fault, failure.fault? = some fault ∧ fault.line = i.line := by
  unfold encodeInstruction at refused
  split at refused
  · rename_i cause unknown
    cases refused
    exact (ofMnemonic_ofSource unknown).unplaced.atLine i.line
  · rename_i format found
    split at refused
    · rename_i cause unbound
      cases refused
      unfold bind at unbound
      split at unbound
      · cases unbound
        exact Failure.Unplaced.atLine ⟨_, rfl, rfl⟩ i.line
      · exact (bindFrom_ofSource unbound).unplaced.atLine i.line
    · cases refused

/-- Why an instruction has no word. -/
def refusal? (t : Table) (symbols : SymbolTable) (i : Instruction) : Option Failure :=
  match t.encodeInstruction i symbols with
  | .error failure => some failure
  | .ok _ => none

theorem refusal?_eq_some_iff {symbols : SymbolTable} {i : Instruction} {failure : Failure} :
    t.refusal? symbols i = some failure ↔ t.encodeInstruction i symbols = .error failure := by
  unfold refusal?
  cases t.encodeInstruction i symbols <;> simp

/-- The number of instructions before the first that has no word. -/
def encodable (t : Table) (symbols : SymbolTable) (instructions : List Instruction) : Nat :=
  instructions.findIdx fun i => (t.refusal? symbols i).isSome

section

variable (symbols : SymbolTable) (i : Instruction) (rest : List Instruction)

theorem encodable_of_error {failure : Failure}
    (refused : t.encodeInstruction i symbols = .error failure) :
    t.encodable symbols (i :: rest) = 0 := by
  simp [encodable, List.findIdx_cons, refusal?_eq_some_iff.mpr refused]

theorem encodable_of_ok {word : Word} (encoded : t.encodeInstruction i symbols = .ok word) :
    t.encodable symbols (i :: rest) = t.encodable symbols rest + 1 := by
  have none : t.refusal? symbols i = none := by simp [refusal?, encoded]
  simp [encodable, List.findIdx_cons, none]

end

theorem encodable_refused {symbols : SymbolTable} {instructions : List Instruction} {i : Instruction}
    (found : instructions[t.encodable symbols instructions]? = some i) :
    ∃ failure, t.encodeInstruction i symbols = .error failure := by
  obtain ⟨inside, rfl⟩ := List.getElem?_eq_some_iff.mp found
  obtain ⟨failure, refused⟩ := Option.isSome_iff_exists.mp (List.findIdx_getElem (w := inside))
  exact ⟨failure, refusal?_eq_some_iff.mp refused⟩

theorem encodable_le_length (symbols : SymbolTable) (instructions : List Instruction) :
    t.encodable symbols instructions ≤ instructions.length := List.findIdx_le_length

theorem refusal_encodable_eq_none_iff {symbols : SymbolTable} {instructions : List Instruction} :
    instructions[t.encodable symbols instructions]?.bind (t.refusal? symbols) = none ↔
      t.encodable symbols instructions = instructions.length := by
  constructor
  · intro none
    by_contra short
    have inside := Nat.lt_of_le_of_ne (t.encodable_le_length symbols instructions) short
    have found := List.getElem?_eq_getElem inside
    obtain ⟨failure, refused⟩ := encodable_refused found
    rw [found, Option.bind_some, refusal?_eq_some_iff.mpr refused] at none
    cases none
  · intro all
    rw [all, List.getElem?_length]
    rfl

def wordDeliveries (instructions : List Instruction) (words : List Word) : List Delivery :=
  (instructions.zip words).map fun entry => wordDelivery entry.1 entry.2

theorem wordDeliveries_chunks {instructions : List Instruction} {words : List Word}
    (length : instructions.length = words.length) :
    (wordDeliveries instructions words).map Delivery.chunk = words.map Word.bytes := by
  calc (wordDeliveries instructions words).map Delivery.chunk
    _ = ((instructions.zip words).map Prod.snd).map Word.bytes := by
      rw [wordDeliveries, List.map_map, List.map_map]
      rfl
    _ = words.map Word.bytes := by rw [List.map_snd_zip length.ge]

theorem wordDeliveries_accounts {instructions : List Instruction} {words : List Word}
    (length : instructions.length = words.length) :
    (wordDeliveries instructions words).map Delivery.account = instructions.map wordAccount := by
  calc (wordDeliveries instructions words).map Delivery.account
    _ = ((instructions.zip words).map Prod.fst).map wordAccount := by
      rw [wordDeliveries, List.map_map, List.map_map]
      rfl
    _ = instructions.map wordAccount := by rw [List.map_fst_zip length.le]

theorem emission_deliveries (symbols : SymbolTable) (instructions : List Instruction) :
    let front := instructions.take (t.encodable symbols instructions)
    ∃ words, t.EncodesAll symbols front words ∧
      (t.emission symbols instructions).deliveries = wordDeliveries front words := by
  induction instructions with
  | nil => exact ⟨[], .nil, rfl⟩
  | cons i rest ih =>
    simp only [emission]
    cases encoded : t.encodeInstruction i symbols with
    | error failure =>
      rw [encodable_of_error symbols i rest encoded]
      exact ⟨[], .nil, rfl⟩
    | ok word =>
      obtain ⟨words, each, deliveries⟩ := ih
      rw [encodable_of_ok symbols i rest encoded, List.take_succ_cons]
      refine ⟨word :: words, .cons encoded each, ?_⟩
      exact congrArg (wordDelivery i word :: ·) deliveries

theorem emission_words (symbols : SymbolTable) (instructions : List Instruction) :
    let s := t.emission symbols instructions
    let front := instructions.take (t.encodable symbols instructions)
    ∃ words, t.EncodesAll symbols front words ∧ s.chunks = words.map Word.bytes ∧
      s.deliveries.map Delivery.account = front.map wordAccount := by
  intro s front
  obtain ⟨words, each, deliveries⟩ := t.emission_deliveries symbols instructions
  have length : front.length = words.length := each.length_eq
  refine ⟨words, each, ?_, ?_⟩
  · rw [Script.chunks, deliveries, wordDeliveries_chunks length]
  · rw [deliveries, wordDeliveries_accounts length]

theorem emission_ending (symbols : SymbolTable) (instructions : List Instruction) :
    (t.emission symbols instructions).ending = instructions.findSome? (t.refusal? symbols) := by
  induction instructions with
  | nil => rfl
  | cons i rest ih =>
    rw [emission, List.findSome?_cons, refusal?]
    cases t.encodeInstruction i symbols with
    | error failure => rfl
    | ok word => exact ih

theorem findSome?_eq_getElem?_bind {α β : Type} (f : α → Option β) (l : List α) :
    l.findSome? f = l[l.findIdx fun a => (f a).isSome]?.bind f := by
  induction l with
  | nil => rfl
  | cons a rest ih =>
    rw [List.findSome?_cons, List.findIdx_cons]
    cases found : f a with
    | some b => simp [found]
    | none => simpa using ih

theorem emit_outcome (symbols : SymbolTable) (instructions : List Instruction) (sink : Sink) :
    let r := t.emit symbols Sink.write sink instructions
    let stop := t.encodable symbols instructions
    ∃ words, t.EncodesAll symbols (instructions.take stop) words ∧
      (sink.Admits stop →
        r.out.accepted = sink.accepted ++ words.map Word.bytes ∧
        r.failure = instructions[stop]?.bind (t.refusal? symbols)) ∧
      ∀ n, sink.budget = some n → n < stop →
        r.out.accepted = sink.accepted ++ (words.take n).map Word.bytes ∧
        r.failure = instructions[n]?.map fun i => (Failure.ofMessage sink.refusal).inContext (wordAccount i) := by
  obtain ⟨words, each, chunks, accounts⟩ := t.emission_words symbols instructions
  have length : (t.emission symbols instructions).deliveries.length = t.encodable symbols instructions := by
    have same := congrArg List.length accounts
    simpa [encodable_le_length] using same
  simp only [emit_eq_run]
  refine ⟨words, each, ?_, ?_⟩
  · intro admits
    rw [← length] at admits
    obtain ⟨accepted, failure⟩ := Script.run_admitted admits
    rw [accepted, failure, chunks, emission_ending, findSome?_eq_getElem?_bind]
    exact ⟨rfl, rfl⟩
  · intro n budget early
    have inside : n < (t.emission symbols instructions).deliveries.length := length ▸ early
    obtain ⟨accepted, failure⟩ := Script.run_refused budget inside
    rw [accepted, failure, chunks, List.map_take]
    refine ⟨rfl, ?_⟩
    have at_n := congrArg (·[n]?) accounts
    simp only [List.getElem?_map, List.getElem?_eq_getElem inside, List.getElem?_take_of_lt early] at at_n
    obtain ⟨i, found, same⟩ := Option.map_eq_some_iff.mp at_n.symm
    rw [found, Option.map_some, same]

end Table

end TableAsm
