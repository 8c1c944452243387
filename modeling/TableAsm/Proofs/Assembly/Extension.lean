import TableAsm.Proofs.Assembly.Programs
import TableAsm.Proofs.Stream.Runs
import TableAsm.Proofs.Assembly.Outcomes

namespace TableAsm

def SymbolTable.Within (symbols known : SymbolTable) : Prop :=
  ∀ name address, symbols.address? name = some address → known.address? name = some address

section

variable {symbols known : SymbolTable} (within : symbols.Within known)

include within

theorem classify_within {token : Text} {register? : Text → Option UInt8} {operand : Operand}
    (classified : classify token symbols register? = .ok operand) :
    classify token known register? = .ok operand := by
  by_cases sigil : token.head? = some labelSigil
  · cases found : symbols.address? token with
    | none =>
      obtain ⟨failure, fault, refused, -⟩ := classify_undefined sigil found register?
      rw [refused] at classified
      cases classified
    | some address =>
      have kept := within token address found
      rw [classify_defined sigil found] at classified
      rw [classify_defined sigil kept]
      exact classified
  · rw [← classify_unlabelled sigil known register?]
    exact classified

theorem carries_within {register? : Text → Option UInt8} {f : Fields} {slots : List Slot}
    {tokens : List Text} (carries : Carries symbols register? f slots tokens) :
    Carries known register? f slots tokens := by
  obtain ⟨used, spare, whole, each, empty⟩ := carries
  refine ⟨used, spare, whole, each.imp ?_, empty⟩
  rintro slot token ⟨nonempty, operand, classified, kind, value⟩
  exact ⟨nonempty, operand, classify_within within classified, kind, value⟩

theorem Table.encodeInstruction_within {t : Table} {i : Instruction} {word : Word}
    (encoded : t.encodeInstruction i symbols = .ok word) : t.encodeInstruction i known = .ok word := by
  obtain ⟨format, fields, found, bound, rfl⟩ := encodeInstruction_eq_ok_iff.mp encoded
  obtain ⟨slots, layout, carries, key, canonical⟩ := bind_eq_ok_iff.mp bound
  have rebound : bind i format known t.registers.index? = .ok fields :=
    bind_eq_ok_iff.mpr ⟨slots, layout, carries_within within carries, key, canonical⟩
  exact encodeInstruction_eq_ok_iff.mpr ⟨format, fields, found, rebound, rfl⟩

end

theorem line_of_lineEvent? {earlier : List Text} {raw : Text} {i : Instruction}
    (member : i ∈ (lineEvent? earlier raw).toList.filterMap parsedOf?) : i.line = earlier.length + 1 := by
  rcases parseLine_cases raw with ⟨failure, parsed⟩ | parsed | ⟨name, parsed⟩ | ⟨mnemonic, operands, parsed⟩
  · simp [lineEvent?, parsed] at member
  · simp [lineEvent?, parsed] at member
  · simp [lineEvent?, parsed, parsedOf?] at member
  · simp only [lineEvent?, parsed, Option.toList_some, List.filterMap_cons, parsedOf?, List.filterMap_nil,
      List.mem_singleton] at member
    rw [member]

theorem lineEvents_append (front back : List Text) :
    ∃ more, lineEvents (front ++ back) = lineEvents front ++ more ∧
      ∀ i ∈ more.filterMap parsedOf?, (front.length : Int) < i.line := by
  induction back using List.reverseRecOn with
  | nil => exact ⟨[], by simp, by simp⟩
  | append_singleton back raw ih =>
    obtain ⟨more, whole, later⟩ := ih
    refine ⟨more ++ (lineEvent? (front ++ back) raw).toList, ?_, ?_⟩
    · rw [← List.append_assoc, lineEvents_concat, whole, List.append_assoc]
    · intro i member
      rw [List.filterMap_append, List.mem_append] at member
      rcases member with member | member
      · exact later i member
      · have number := line_of_lineEvent? member
        rw [List.length_append] at number
        omega

theorem lineInstructions_append (front back : List Text) :
    ∃ more, lineInstructions (front ++ back) = lineInstructions front ++ more ∧
      more.length = instructionCount back ∧ ∀ i ∈ more, (front.length : Int) < i.line := by
  obtain ⟨more, whole, later⟩ := lineEvents_append front back
  have listed : lineInstructions (front ++ back) = lineInstructions front ++ more.filterMap parsedOf? := by
    rw [lineInstructions, whole, List.filterMap_append]
    rfl
  refine ⟨more.filterMap parsedOf?, listed, ?_, later⟩
  have counted := congrArg List.length listed
  rw [List.length_append, length_lineInstructions, length_lineInstructions, instructionCount,
    List.countP_append] at counted
  exact (Nat.add_left_cancel counted).symm

theorem symbolsBehind_within {front back : List Text} (faultless : Faultless (front ++ back)) :
    (symbolsBehind front).Within (symbolsBehind (front ++ back)) := by
  intro name address known
  obtain ⟨more, whole, -⟩ := lineEvents_append front back
  obtain ⟨label, member, same, value⟩ := (symbolsBehind_eq_some_iff faultless.front).mp known
  refine (symbolsBehind_eq_some_iff faultless).mpr ⟨label, ?_, same, value⟩
  rw [lineLabels, whole, List.filterMap_append]
  exact List.mem_append_left _ member

namespace Table

variable {t : Table} {symbols : SymbolTable}

theorem emission_append {front : List Instruction} {words : List Word}
    (each : t.EncodesAll symbols front words) (more : List Instruction) :
    t.emission symbols (front ++ more) =
      { deliveries := wordDeliveries front words ++ (t.emission symbols more).deliveries
        ending := (t.emission symbols more).ending } := by
  induction each with
  | nil => rfl
  | cons encoded _ ih =>
    rw [List.cons_append, emission, encoded, ih]
    rfl

/-- A source that assembles keeps its bytes when lines are added behind it. Assembly of the longer
source writes them first, whatever comes after; it adds one word for each instruction line if it
succeeds, and fails only for one of the added lines. -/
theorem assemble_append (t : Table) {front back : List Text} {p : Program}
    (assembled : (t.assemble { lines := front } Sink.write {}).failure = none)
    (scanned : (scan { lines := front ++ back }).result = .ok p) :
    let r := t.assemble { lines := front } Sink.write {}
    let r' := t.assemble { lines := front ++ back } Sink.write {}
    r.out.bytes <+: r'.out.bytes ∧
      (r'.failure = none →
        r'.out.bytes.length = r.out.bytes.length + wordSize * instructionCount back) ∧
      ∀ failure, r'.failure = some failure →
        ∃ fault, failure.fault? = some fault ∧ (front.length : Int) < fault.line := by
  intro r r'
  have wrote : r.Wrote r.out.accepted := ⟨assembled, rfl⟩
  obtain ⟨q, words, scanned', each, chunks⟩ := assemble_unlimited.mp wrote
  obtain ⟨-, rfl⟩ := scan_eq_ok scanned'
  obtain ⟨faultless, rfl⟩ := scan_eq_ok scanned
  obtain ⟨more, listed, count, later⟩ := lineInstructions_append front back
  -- The words were made with the labels of the front alone; the labels of the back change none.
  have kept : t.EncodesAll (symbolsBehind (front ++ back)) (lineInstructions front) words :=
    each.imp fun i word encoded => encodeInstruction_within (symbolsBehind_within faultless) encoded
  let tail := t.emission (symbolsBehind (front ++ back)) more
  have assembly : t.assembly { lines := front ++ back } =
      { deliveries := wordDeliveries (lineInstructions front) words ++ tail.deliveries
        ending := tail.ending } := by
    rw [Table.assembly, scanned]
    exact (congrArg (t.emission _) listed).trans (emission_append kept more)
  obtain ⟨accepted, failure⟩ := t.assemble_unlimited_run { lines := front ++ back }
  rw [assembly] at accepted failure
  have bytes : r.out.bytes = words.flatMap Word.bytes := Run.Wrote.bytes (chunks ▸ wrote)
  have bytes' : r'.out.bytes = words.flatMap Word.bytes ++ tail.bytes := by
    rw [Sink.bytes, accepted, Script.chunks, List.map_append, wordDeliveries_chunks kept.length_eq,
      List.flatten_append]
    rfl
  refine ⟨?_, ?_, ?_⟩
  · rw [bytes, bytes']
    exact List.prefix_append _ _
  · intro succeeded
    have completes : tail.Completes tail.chunks := ⟨failure.symm.trans succeeded, rfl⟩
    obtain ⟨added, encoded, written⟩ := emission_completes.mp completes
    have tailBytes : tail.bytes = added.flatMap Word.bytes := by rw [Script.bytes, written, List.flatMap]
    have length : added.length = instructionCount back := encoded.length_eq.symm.trans count
    rw [bytes, bytes', List.length_append, tailBytes, Word.length_flatMap_bytes added, length]
  · intro cause failed
    have ending : tail.ending = some cause := failure.symm.trans failed
    rw [emission_ending] at ending
    obtain ⟨i, member, refused⟩ := List.exists_of_findSome?_eq_some ending
    obtain ⟨fault, outermost, line⟩ := encodeInstruction_line (refusal?_eq_some_iff.mp refused)
    exact ⟨fault, outermost, line ▸ later i member⟩

/-- Added lines may use what the front defines. If one of them has no word, the front is still written. -/
theorem assemble_append_mu :
    let front : List Text := ["@Top", "SET R1 @Top", "J @Top"]
    let back : List Text := ["@End ; new", "JEQ @End", "", "CALL @Top"]
    let broken : List Text := ["JEQ @Top", "J @Gone"]
    let out (lines : List Text) := (Mu.table.assemble { lines } Sink.write {}).out.bytes
    (out front).length = 16 ∧ out front <+: out (front ++ back) ∧ (out (front ++ back)).length = 32 ∧
      out front <+: out (front ++ broken) ∧ (out (front ++ broken)).length = 24 := by
  intro front back broken out
  have assembled : (Mu.table.assemble { lines := front } Sink.write {}).failure = none := by decide +kernel
  have succeeds : (Mu.table.assemble { lines := front ++ back } Sink.write {}).failure = none := by
    decide +kernel
  have scanned : (scan { lines := front ++ back }).result = .ok (.ofLines (front ++ back)) := by
    decide +kernel
  have scanned' : (scan { lines := front ++ broken }).result = .ok (.ofLines (front ++ broken)) := by
    decide +kernel
  have length : (out front).length = 16 := by decide +kernel
  obtain ⟨kept, added, -⟩ := assemble_append Mu.table assembled scanned
  obtain ⟨kept', -, -⟩ := assemble_append Mu.table assembled scanned'
  have added' : (out (front ++ back)).length = (out front).length + wordSize * instructionCount back :=
    added succeeds
  have count : instructionCount back = 2 := by decide +kernel
  refine ⟨length, kept, ?_, kept', by decide +kernel⟩
  rw [added', length, count]
  rfl

end Table

end TableAsm
