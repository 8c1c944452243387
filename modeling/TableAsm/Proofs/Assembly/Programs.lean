import Mathlib.Data.List.Forall2
import TableAsm.Proofs.Assembly.Addresses
import TableAsm.Proofs.Assembly.Places

namespace TableAsm

def isLabelLine (raw : Text) : Bool := (labelName? raw).isSome

def places (test : Text → Bool) (lines : List Text) : List Nat :=
  (List.range lines.length).filter fun n => lines[n]?.any test

/-- The instruction is what the line at a place says. -/
structure Instruction.Stands (lines : List Text) (n : Nat) (i : Instruction) : Prop where
  line : i.line = n + 1
  address : i.address.toNat = wordSize * instructionCount (lines.take n)
  words : ∃ raw operands, lines[n]? = some raw ∧ i.source = stripComment raw ∧
    parseLine raw = .ok (some (.instruction i.mnemonic operands)) ∧
    i.operands.toList = operands.rightpad Operands.capacity []

structure Label.Stands (lines : List Text) (n : Nat) (l : Label) : Prop where
  line : l.line = n + 1
  address : l.address.toNat = wordSize * instructionCount (lines.take n)
  words : ∃ raw, lines[n]? = some raw ∧ parseLine raw = .ok (some (.label l.name))

/-- The program says what the lines say, and nothing else. -/
structure Program.Reads (p : Program) (lines : List Text) : Prop where
  instructions : List.Forall₂ (Instruction.Stands lines) (places isInstructionLine lines) p.instructions
  labels : List.Forall₂ (Label.Stands lines) (places isLabelLine lines) p.labels
  addresses : ∀ i, (inside : i < p.instructions.length) →
    p.instructions[i].address.toNat = wordSize * i
  instructionLines : p.instructions.Pairwise fun earlier later => earlier.line < later.line
  labelLines : p.labels.Pairwise fun earlier later => earlier.line < later.line
  apart : ∀ i ∈ p.instructions, ∀ l ∈ p.labels, i.line ≠ l.line
  names : (p.labels.map Label.name).Nodup
  symbols : ∀ name address,
    p.symbols.address? name = some address ↔ ∃ l ∈ p.labels, l.name = name ∧ l.address = address

theorem forall₂_filter_filterMap {α β : Type} {R : α → β → Prop} {test : α → Bool} {f : α → Option β}
    {l : List α}
    (each : ∀ a ∈ l, (test a = true ∧ ∃ b, f a = some b ∧ R a b) ∨ (test a = false ∧ f a = none)) :
    List.Forall₂ R (l.filter test) (l.filterMap f) := by
  induction l with
  | nil => exact .nil
  | cons a l ih =>
    obtain ⟨first, others⟩ := List.forall_mem_cons.mp each
    rcases first with ⟨passed, b, found, related⟩ | ⟨failed, none⟩
    · rw [List.filter_cons_of_pos passed, List.filterMap_cons_some found]
      exact .cons related (ih others)
    · rw [List.filter_cons_of_neg (by simp [failed]), List.filterMap_cons_none none]
      exact ih others

theorem SymbolTable.address?_eq_some_iff_mem {symbols : SymbolTable}
    (distinct : (symbols.map Prod.fst).Nodup) {name : Text} {address : UInt32} :
    symbols.address? name = some address ↔ (name, address) ∈ symbols := by
  unfold address?
  induction symbols with
  | nil => simp
  | cons entry rest ih =>
    obtain ⟨first, value⟩ := entry
    obtain ⟨absent, others⟩ := List.nodup_cons.mp distinct
    by_cases same : name = first
    · subst same
      have once : (name, address) ∉ rest := fun member => absent (List.mem_map.mpr ⟨_, member, rfl⟩)
      simp [once, eq_comm]
    · simp [List.lookup_cons, beq_false_of_ne same, same, ih others]

theorem addressBehind_toNat {lines : List Text} (short : instructionCount lines < addressableWords)
    (n : Nat) : (addressBehind (lines.take n)).toNat = wordSize * instructionCount (lines.take n) := by
  have within : instructionCount (lines.take n) ≤ instructionCount lines :=
    (List.take_sublist n lines).countP_le
  rw [addressBehind, UInt32.toNat_ofNat']
  exact word_address_iff.mpr (Nat.lt_of_le_of_lt within short)

theorem Operands.toList_ofList_rightpad {operands : List Text} (few : operands.length ≤ capacity) :
    (ofList operands).toList = operands.rightpad capacity [] := by
  match operands, few with
  | [], _ => rfl
  | [_], _ => rfl
  | [_, _], _ => rfl
  | [_, _, _], _ => rfl

/-- What is picked from the events of all lines stands, place by place, for the lines that pass a test. -/
theorem forall₂_places {β : Type} {R : Nat → β → Prop} {test : Text → Bool} {pick : Event → Option β}
    {lines : List Text}
    (each : ∀ n, (inside : n < lines.length) →
      let picked := (lineEvent? (lines.take n) lines[n]).bind pick
      (test lines[n] = true ∧ ∃ b, picked = some b ∧ R n b) ∨ (test lines[n] = false ∧ picked = none)) :
    List.Forall₂ R (places test lines) ((lineEvents lines).filterMap pick) := by
  rw [lineEvents, List.filterMap_filterMap]
  apply forall₂_filter_filterMap
  intro n member
  have inside := List.mem_range.mp member
  simpa [eventAt?, inside] using each n inside

section

variable {lines : List Text} (faultless : Faultless lines)
  (short : instructionCount lines < addressableWords)

include faultless short

theorem lineInstructions_stand :
    List.Forall₂ (Instruction.Stands lines) (places isInstructionLine lines) (lineInstructions lines) := by
  apply forall₂_places
  intro n inside
  have found := List.getElem?_eq_getElem inside
  have fine : lineFault? (lines.take n) lines[n] = none := by simpa [faultAt?, found] using faultless n
  rcases parseLine_cases lines[n] with ⟨failure, parsed⟩ | parsed | ⟨name, parsed⟩ |
      ⟨mnemonic, operands, parsed⟩
  · exact .inr (by simp [isInstructionLine, lineEvent?, parsed])
  · exact .inr (by simp [isInstructionLine, lineEvent?, parsed])
  · exact .inr (by simp [isInstructionLine, lineEvent?, parsed, parsedOf?])
  · have few : operands.length ≤ Operands.capacity := by simpa [lineFault?, parsed] using fine
    have padded := Operands.toList_ofList_rightpad few
    refine .inl ⟨by rw [isInstructionLine, parsed], ?_⟩
    simp only [lineEvent?, parsed, Option.bind_some, parsedOf?, List.length_take_of_le inside.le]
    exact ⟨_, rfl, rfl, addressBehind_toNat short n, _, operands, found, rfl, parsed, padded⟩

omit faultless in
theorem lineLabels_stand :
    List.Forall₂ (Label.Stands lines) (places isLabelLine lines) (lineLabels lines) := by
  apply forall₂_places
  intro n inside
  have found := List.getElem?_eq_getElem inside
  rcases parseLine_cases lines[n] with ⟨failure, parsed⟩ | parsed | ⟨name, parsed⟩ |
      ⟨mnemonic, operands, parsed⟩
  · exact .inr (by simp [isLabelLine, labelName?, lineEvent?, parsed])
  · exact .inr (by simp [isLabelLine, labelName?, lineEvent?, parsed])
  · have label : isLabelLine lines[n] = true := by
      rw [isLabelLine, labelName?, parsed]
      rfl
    refine .inl ⟨label, ?_⟩
    simp only [lineEvent?, parsed, Option.bind_some, Listing.labelOf?, List.length_take_of_le inside.le]
    exact ⟨_, rfl, rfl, addressBehind_toNat short n, _, found, parsed⟩
  · exact .inr (by simp [isLabelLine, labelName?, lineEvent?, parsed, Listing.labelOf?])

end

theorem map_line_of_forall₂ {α : Type} {R : Nat → α → Prop} {line : α → Int} {ns : List Nat}
    {entries : List α} (placed : ∀ n a, R n a → line a = n + 1) (each : List.Forall₂ R ns entries) :
    entries.map line = ns.map fun n : Nat => (n : Int) + 1 := by
  induction each with
  | nil => rfl
  | cons first _ ih => rw [List.map_cons, List.map_cons, ih, placed _ _ first]

theorem increasing_of_places {α : Type} {R : Nat → α → Prop} {line : α → Int} {test : Text → Bool}
    {lines : List Text} {entries : List α} (placed : ∀ n a, R n a → line a = n + 1)
    (each : List.Forall₂ R (places test lines) entries) :
    entries.Pairwise fun earlier later => line earlier < line later := by
  have order : (places test lines).Pairwise (· < ·) := List.pairwise_lt_range.filter _
  rw [← List.pairwise_map (f := line), map_line_of_forall₂ placed each, List.pairwise_map]
  exact order.imp fun {n m} before => by omega

theorem labelNames_nodup {lines : List Text} (faultless : Faultless lines) : (labelNames lines).Nodup := by
  induction lines using List.reverseRecOn with
  | nil => exact List.nodup_nil
  | append_singleton front raw ih =>
    have distinct := ih faultless.front
    have fine := faultless.last
    rw [labelNames_concat]
    cases named : labelName? raw with
    | none => simpa using distinct
    | some name =>
      have parsed : parseLine raw = .ok (some (.label name)) := by
        unfold labelName? at named
        split at named
        · rename_i parsed
          cases named
          exact parsed
        · cases named
      have fresh : name ∉ labelNames front := by simpa [lineFault?, parsed] using fine
      rw [Option.toList_some, List.nodup_append_comm]
      exact List.nodup_cons.mpr ⟨fresh, distinct⟩

theorem symbolsBehind_eq_some_iff {lines : List Text} (faultless : Faultless lines) {name : Text}
    {address : UInt32} :
    (symbolsBehind lines).address? name = some address ↔
      ∃ l ∈ lineLabels lines, l.name = name ∧ l.address = address := by
  have distinct : ((symbolsBehind lines).map Prod.fst).Nodup := by
    have names : (symbolsBehind lines).map Prod.fst = (labelNames lines).reverse := by
      rw [← lineLabels_names, ← List.map_reverse, symbolsBehind, List.map_map]
      rfl
    rw [names, List.nodup_reverse]
    exact labelNames_nodup faultless
  rw [SymbolTable.address?_eq_some_iff_mem distinct]
  simp [symbolsBehind]

theorem Program.ofLines_reads {lines : List Text} (faultless : Faultless lines)
    (short : instructionCount lines < addressableWords) : (Program.ofLines lines).Reads lines := by
  have instructions := lineInstructions_stand faultless short
  have labels := lineLabels_stand short
  have scanned : (scan { lines }).result = .ok (.ofLines lines) := by rw [scan_faultless faultless]
  refine ⟨instructions, labels, ?_, ?_, ?_, ?_, ?_, ?_⟩
  · intro i inside
    have counted := scanFrom_addresses scanned i inside
    have few : i < instructionCount lines := length_lineInstructions lines ▸ inside
    rw [UInt32.toNat_zero, Nat.zero_add, word_address_iff.mpr (Nat.lt_trans few short)] at counted
    exact counted
  · exact increasing_of_places (fun n i stands => stands.line) instructions
  · exact increasing_of_places (fun n l stands => stands.line) labels
  · -- One line cannot be read both as an instruction and as a label.
    intro i member l member' same
    obtain ⟨n, -, stands⟩ := exists_of_forall₂ instructions.flip member
    obtain ⟨m, -, stands'⟩ := exists_of_forall₂ labels.flip member'
    obtain ⟨raw, operands, found, -, parsed, -⟩ := stands.words
    obtain ⟨raw', found', parsed'⟩ := stands'.words
    have here := stands.line
    have there := stands'.line
    obtain rfl : n = m := by omega
    rw [found] at found'
    cases found'
    rw [parsed] at parsed'
    cases parsed'
  · have names := labelNames_nodup faultless
    rw [← lineLabels_names] at names
    exact names
  · intro name address
    exact symbolsBehind_eq_some_iff faultless

/-- A source is refused for the first line with a fault, in words that give its number and the kind of
the fault; without such a line it is refused only if it cannot be read to its end, and otherwise read
as the program that its lines stand for. -/
theorem scan_program {lines : List Text} (short : instructionCount lines < addressableWords)
    (failure? : Option Text) :
    let result := (scan { lines, failure? }).result
    ((∃ failure, result = .error failure) ↔ (∃ n kind, faultAt? lines n = some kind) ∨ failure? ≠ none) ∧
      (∀ n kind, faultAt? lines n = some kind → (∀ m < n, faultAt? lines m = none) →
        ∃ failure fault, result = .error failure ∧ failure.States fault ∧ fault.kind = kind ∧
          fault.line = n + 1) ∧
      ((∀ n, faultAt? lines n = none) →
        match failure? with
        | some words => result = .error (readFailure words lines.length)
        | none => ∃ p, result = .ok p ∧ p.Reads lines) := by
  intro result
  refine ⟨?_, ?_, ?_⟩
  · rcases faultless_or_first lines with faultless | ⟨front, raw, back, kind, rfl, faultless, fault⟩
    · have outcome : result = _ := congrArg Scan.result (scan_faultless faultless failure?)
      cases failure? <;> simp [outcome, faultless _]
    · obtain ⟨failure, stopped, -⟩ := scan_fault faultless fault back failure?
      have here := faultAt?_here front raw back
      have refused : result = .error failure := congrArg Scan.result stopped
      exact iff_of_true ⟨failure, refused⟩ (.inl ⟨front.length, kind, here.trans fault⟩)
  · intro n kind fault first
    obtain ⟨front, raw, back, rfl, rfl, charged⟩ := faultAt?_eq_some fault
    have faultless : Faultless front := faultless_of_first first
    obtain ⟨failure, stopped, cause, states, same, line⟩ := scan_fault faultless charged back failure?
    exact ⟨failure, cause, congrArg Scan.result stopped, states, same, line⟩
  · intro faultless
    have outcome : result = _ := congrArg Scan.result (scan_faultless faultless failure?)
    cases failure? with
    | some words => exact outcome
    | none => exact ⟨_, outcome, Program.ofLines_reads faultless short⟩

/-- Labels before, between and behind instructions, a comment and an empty line. -/
theorem scan_program_labelled :
    let lines : List Text := ["@A", "SET R0 1 ; one", "", "@B", "HALT", "@C"]
    instructionCount lines < addressableWords ∧ ∃ p, (scan { lines }).result = .ok p ∧ p.Reads lines := by
  intro lines
  have short : instructionCount lines < addressableWords := by decide +kernel
  have clean : (List.range lines.length).all (fun n => faultAt? lines n = none) = true := by decide +kernel
  have faultless : ∀ n, faultAt? lines n = none := by
    intro n
    by_cases inside : n < lines.length
    · simpa using List.all_eq_true.mp clean n (List.mem_range.mpr inside)
    · exact faultAt?_outside (Nat.not_lt.mp inside)
  exact ⟨short, (scan_program short none).2.2 faultless⟩

end TableAsm
