import TableAsm.Proofs.Assembly.Agreement
import TableAsm.Proofs.Source.Layouts

namespace TableAsm

theorem Operands.present_ofList {tokens : List Text} (nonempty : ∀ token ∈ tokens, token ≠ [])
    (few : tokens.length ≤ capacity) : (ofList tokens).present = tokens := by
  obtain ⟨spare, whole, empty⟩ := toList_ofList few
  have kept : (tokens.filter fun token => !token.isEmpty) = tokens := by
    rw [List.filter_eq_self]
    intro token member
    simpa using nonempty token member
  have dropped : (spare.filter fun token => !token.isEmpty) = [] := by
    rw [List.filter_eq_nil_iff]
    intro token member
    simp [empty token member]
  rw [present, whole, List.filter_append, kept, dropped, List.append_nil]

theorem Stems.linePieces_text {raw : Text} {i : Instruction} (stems : Stems raw i) :
    linePieces i.text = linePieces raw := by
  obtain ⟨operands, parsed, few, listed⟩ := stems
  have tokens : ∀ operand ∈ operands, SourceToken operand := fun operand member =>
    parseLine_token parsed (List.mem_cons_of_mem _ member)
  have present : i.operands.present = operands := by
    rw [listed]
    exact Operands.present_ofList (fun operand member => (tokens operand member).nonempty) few
  obtain ⟨word, starts, -⟩ := parseLine_mnemonic parsed
  have spaced := parseLine_spaced word starts tokens (parseLine_endsSolid parsed)
  rw [← present, ← Instruction.text, present] at spaced
  obtain ⟨pieces, -⟩ := parseLine_eq_instruction_iff.mp parsed
  obtain ⟨pieces', -⟩ := parseLine_eq_instruction_iff.mp spaced
  rw [linePieces, linePieces, pieces, pieces']

inductive LineEdit : Text → Text → Prop
  | comment (raw remark : Text) : LineEdit raw (raw ++ commentMark :: remark)
  | before {run : Text} (gaps : Gaps run) (raw : Text) : LineEdit raw (run ++ raw)
  | after {run : Text} (gaps : Gaps run) (raw : Text) : LineEdit raw (raw ++ run)
  | between {run other : Text} (gaps : Gaps run) (gaps' : Gaps other) (some : run ≠ [])
      (some' : other ≠ []) (front back : Text) :
      LineEdit (front ++ (run ++ back)) (front ++ (other ++ back))
  | canonical {raw : Text} {i : Instruction} (stems : Stems raw i) : LineEdit raw i.text

theorem LineEdit.linePieces_eq {raw raw' : Text} (edit : LineEdit raw raw') :
    linePieces raw = linePieces raw' := by
  cases edit with
  | comment _ remark => exact (linePieces_comment raw remark).symm
  | before gaps => exact (linePieces_gaps_append gaps raw).symm
  | after gaps => exact (linePieces_append_gaps gaps raw).symm
  | between gaps gaps' some some' front back =>
    exact linePieces_gaps_between gaps gaps' some some' front back
  | canonical stems => exact stems.linePieces_text.symm

theorem parseLine_agree {raw raw' : Text} (same : linePieces raw = linePieces raw') :
    Agree Eq (parseLine raw) (parseLine raw') := by
  cases parsed : parseLine raw with
  | ok statement =>
    rw [parseLine_eq_ok_iff, same, ← parseLine_eq_ok_iff] at parsed
    rw [parsed]
    exact .ok rfl
  | error failure =>
    cases parsed' : parseLine raw' with
    | ok statement =>
      rw [parseLine_eq_ok_iff, ← same, ← parseLine_eq_ok_iff, parsed] at parsed'
      cases parsed'
    | error failure' =>
      obtain ⟨problem, rfl⟩ := parseLine_eq_error parsed
      obtain ⟨problem', rfl⟩ := parseLine_eq_error parsed'
      exact .error rfl rfl rfl

/-- One change to the layout of a source, and the place where each line is found after it. -/
inductive Edit : List Text → List Text → (Nat → Nat) → Prop
  | insert (front back : List Text) {line : Text} (blank : BlankLine line) :
      Edit (front ++ back) (front ++ line :: back) fun n => if n < front.length then n else n + 1
  | rewrite (front back : List Text) {raw raw' : Text} (edit : LineEdit raw raw') :
      Edit (front ++ raw :: back) (front ++ raw' :: back) id

/-- Any number of changes to the layout of a source, and the place where each line is found after
them. -/
inductive Relaid (lines : List Text) : List Text → (Nat → Nat) → Prop
  | same : Relaid lines lines id
  | edit {middle others : List Text} {place move : Nat → Nat} (earlier : Relaid lines middle place)
      (edit : Edit middle others move) : Relaid lines others (move ∘ place)

/-- Lines that stand at places that correspond and say the same, with blank lines among the second.
The numbers of lines before them are `count` and `count'`. -/
inductive Aligned (place : Nat → Nat) : (count count' : Nat) → List Text → List Text → Prop
  | nil {count count' : Nat} : Aligned place count count' [] []
  | line {count count' : Nat} {raw raw' : Text} {rest others : List Text}
      (same : linePieces raw = linePieces raw') (here : place count = count')
      (after : Aligned place (count + 1) (count' + 1) rest others) :
      Aligned place count count' (raw :: rest) (raw' :: others)
  | blank {count count' : Nat} {line : Text} {rest others : List Text} (blank : BlankLine line)
      (after : Aligned place count (count' + 1) rest others) :
      Aligned place count count' rest (line :: others)

theorem Aligned.append {place : Nat → Nat} {count count' : Nat} {front rest others : List Text}
    (here : ∀ n < front.length, place (count + n) = count' + n)
    (after : Aligned place (count + front.length) (count' + front.length) rest others) :
    Aligned place count count' (front ++ rest) (front ++ others) := by
  induction front generalizing count count' with
  | nil => exact after
  | cons raw front ih =>
    have first := here 0 (by simp)
    refine .line rfl first (ih ?_ ?_)
    · intro n inside
      have next := here (n + 1) (by simpa using inside)
      rw [Nat.add_right_comm, Nat.add_assoc, next]
      omega
    · have one (c : Nat) : c + 1 + front.length = c + (raw :: front).length := by
        rw [List.length_cons]
        omega
      rw [one, one]
      exact after

theorem Aligned.shifted {place : Nat → Nat} {count count' : Nat} (lines : List Text)
    (here : ∀ n, place (count + n) = count' + n) : Aligned place count count' lines lines := by
  have whole : Aligned place count count' (lines ++ []) (lines ++ []) :=
    .append (fun n _ => here n) .nil
  rwa [List.append_nil] at whole

theorem Edit.aligned {lines others : List Text} {place : Nat → Nat} (edit : Edit lines others place) :
    Aligned place 0 0 lines others := by
  cases edit with
  | insert front back blank =>
    refine .append ?_ (.blank blank (.shifted back ?_))
    · intro n inside
      simp [inside]
    · intro n
      have late : ¬ 0 + front.length + n < front.length := by omega
      rw [if_neg late]
      omega
  | rewrite front back edit =>
    refine .append ?_ (.line edit.linePieces_eq rfl (.shifted back ?_))
    · intro n _
      rfl
    · intro n
      rfl

/-- The instructions are the same up to their lines, which correspond. -/
structure Instruction.Moved (place : Nat → Nat) (count : Nat) (i j : Instruction) : Prop where
  mnemonic : i.mnemonic = j.mnemonic
  operands : i.operands = j.operands
  line : ∃ n < count, i.line = n + 1 ∧ j.line = place n + 1

/-- The failures are faults of one kind at lines that correspond, or one failure to read, after all
the lines of each source. -/
inductive Failure.Moved (failure? : Option Text) (place : Nat → Nat) (count count' : Nat) :
    Failure → Failure → Prop
  | fault {n : Nat} {e e' : Failure} {f f' : Fault} (inside : n < count) (first : e.fault? = some f)
      (second : e'.fault? = some f') (kinds : f.kind = f'.kind) (line : f.line = n + 1)
      (line' : f'.line = place n + 1) : Moved failure? place count count' e e'
  | unread {words : Text} (unread : failure? = some words) :
      Moved failure? place count count' (readFailure words count) (readFailure words count')

/-- Scans that differ only in the lines that things are on. -/
inductive MovedScan (failure? : Option Text) (place : Nat → Nat) (count count' : Nat) :
    Except Failure Program → Except Failure Program → Prop
  | ok {p q : Program} (symbols : p.symbols = q.symbols)
      (instructions : List.Forall₂ (Instruction.Moved place count) p.instructions q.instructions) :
      MovedScan failure? place count count' (.ok p) (.ok q)
  | error {e e' : Failure} (moved : Failure.Moved failure? place count count' e e') :
      MovedScan failure? place count count' (.error e) (.error e')

section

variable {failure? : Option Text} {place move : Nat → Nat} {count count' count'' : Nat}

theorem MovedScan.withLabel {s s' : Scan} (moved : MovedScan failure? place count count' s.result s'.result)
    (label label' : Label) :
    MovedScan failure? place count count' (s.withLabel label).result (s'.withLabel label').result := by
  unfold Scan.withLabel
  generalize s.result = left, s'.result = right at moved
  cases moved with
  | ok symbols instructions => exact .ok symbols instructions
  | error moved => exact .error moved

theorem MovedScan.withInstruction {s s' : Scan}
    (moved : MovedScan failure? place count count' s.result s'.result) {i j : Instruction}
    (first : Instruction.Moved place count i j) :
    MovedScan failure? place count count' (s.withInstruction i).result (s'.withInstruction j).result := by
  unfold Scan.withInstruction
  generalize s.result = left, s'.result = right at moved
  cases moved with
  | ok symbols instructions => exact .ok symbols (.cons first instructions)
  | error moved => exact .error moved

theorem Failure.Moved.atLine {e e' : Failure} {f f' : Fault} (first : e.fault? = some f)
    (second : e'.fault? = some f') (zero : f.line = 0) (zero' : f'.line = 0) (kinds : f.kind = f'.kind)
    {n : Nat} (inside : n < count) :
    Failure.Moved failure? place count count' (e.atLine (n + 1)) (e'.atLine (place n + 1)) := by
  refine .fault inside (Failure.fault?_atLine first _) (Failure.fault?_atLine second _) ?_ ?_ ?_
  · rw [Fault.kind_atLine, Fault.kind_atLine, kinds]
  · rw [Fault.atLine, if_pos zero]
  · rw [Fault.atLine, if_pos zero']

theorem movedScan_cons {raw raw' : Text} {rest others : List Text}
    (same : linePieces raw = linePieces raw') (here : place count = count') {total total' : Nat}
    (inside : count < total) (address : UInt32) (symbols : SymbolTable)
    (after : ∀ address symbols, MovedScan failure? place total total'
      (scanFrom failure? (count + 1) address symbols rest).result
      (scanFrom failure? (count' + 1) address symbols others).result) :
    MovedScan failure? place total total' (scanFrom failure? count address symbols (raw :: rest)).result
      (scanFrom failure? count' address symbols (raw' :: others)).result := by
  subst here
  have agree := parseLine_agree same
  generalize parsed : parseLine raw = left, parsed' : parseLine raw' = right at agree
  simp only [scanFrom, parsed, parsed']
  cases agree with
  | error first second kinds =>
    obtain ⟨problem, rfl⟩ := parseLine_eq_error parsed
    obtain ⟨problem', rfl⟩ := parseLine_eq_error parsed'
    cases first
    cases second
    exact .error (.atLine rfl rfl rfl rfl kinds inside)
  | @ok statement _ related =>
    subst related
    match statement with
    | none => exact after address symbols
    | some (.label name) =>
      simp only [SymbolTable.define]
      cases symbols.address? name with
      | some earlier => exact .error (.atLine rfl rfl rfl rfl rfl inside)
      | none => exact (after address _).withLabel _ _
    | some (.instruction mnemonic operands) =>
      simp only
      split
      · exact .error (.atLine rfl rfl rfl rfl rfl inside)
      cases surplus : Instruction.surplus? operands with
      | some fault =>
        obtain ⟨token, -, rfl⟩ := Option.map_eq_some_iff.mp surplus
        exact .error (.atLine rfl rfl rfl rfl rfl inside)
      | none =>
        exact (after (address + 8) symbols).withInstruction ⟨rfl, rfl, count, inside, rfl, rfl⟩

theorem Aligned.movedScan {lines others : List Text} (aligned : Aligned place count count' lines others)
    (failure? : Option Text) (address : UInt32) (symbols : SymbolTable) :
    MovedScan failure? place (count + lines.length) (count' + others.length)
      (scanFrom failure? count address symbols lines).result
      (scanFrom failure? count' address symbols others).result := by
  induction aligned generalizing address symbols with
  | nil =>
    cases failure? with
    | none => exact .ok rfl .nil
    | some words => exact .error (.unread rfl)
  | @line count count' raw raw' rest others same here _ ih =>
    have next (c : Nat) (l : List Text) : c + 1 + l.length = c + (l.length + 1) := by omega
    simp only [next] at ih
    exact movedScan_cons same here (by rw [List.length_cons]; omega) address symbols ih
  | @blank count count' line rest others blank _ ih =>
    have next : count' + 1 + others.length = count' + (others.length + 1) := by omega
    rw [next] at ih
    simp only [scanFrom, blank.parsed]
    exact ih address symbols

theorem Instruction.Moved.trans {i j k : Instruction} (first : Instruction.Moved place count i j)
    (second : Instruction.Moved move count' j k) : Instruction.Moved (move ∘ place) count i k := by
  obtain ⟨n, inside, line, middle⟩ := first.line
  obtain ⟨m, -, middle', line'⟩ := second.line
  have same : m = place n := by omega
  refine ⟨first.mnemonic.trans second.mnemonic, first.operands.trans second.operands, n, inside, line, ?_⟩
  rw [line', same]
  rfl

theorem fault?_readFailure (words : Text) (count : Nat) : (readFailure words count).fault? = none := rfl

theorem Failure.Moved.trans {e e' e'' : Failure} (first : Failure.Moved failure? place count count' e e')
    (second : Failure.Moved failure? move count' count'' e' e'') :
    Failure.Moved failure? (move ∘ place) count count'' e e'' := by
  cases first with
  | @fault n _ _ f g inside found found' kinds line middle =>
    cases second with
    | @fault m _ _ g' h _ also found'' kinds' middle' line' =>
      rw [found'] at also
      cases also
      have same : m = place n := by omega
      refine .fault inside found found'' (kinds.trans kinds') line ?_
      rw [line', same]
      rfl
    | unread => rw [fault?_readFailure] at found'; cases found'
  | @unread words given =>
    generalize same : readFailure words count' = middle at second
    cases second with
    | fault _ found => rw [← same, fault?_readFailure] at found; cases found
    | @unread words' given' =>
      obtain rfl : words = words' := Option.some.inj (given.symm.trans given')
      exact .unread given

theorem forall₂_moved_trans {is js ks : List Instruction}
    (first : List.Forall₂ (Instruction.Moved place count) is js)
    (second : List.Forall₂ (Instruction.Moved move count') js ks) :
    List.Forall₂ (Instruction.Moved (move ∘ place) count) is ks := by
  induction first generalizing ks with
  | nil =>
    cases second
    exact .nil
  | cons moved _ ih =>
    cases second with
    | cons moved' later => exact .cons (moved.trans moved') (ih later)

theorem MovedScan.trans {s s' s'' : Except Failure Program}
    (first : MovedScan failure? place count count' s s')
    (second : MovedScan failure? move count' count'' s' s'') :
    MovedScan failure? (move ∘ place) count count'' s s'' := by
  cases first with
  | ok symbols instructions =>
    cases second with
    | ok symbols' instructions' =>
      exact .ok (symbols.trans symbols') (forall₂_moved_trans instructions instructions')
  | error moved =>
    cases second with
    | error moved' => exact .error (moved.trans moved')

theorem Relaid.movedScan {lines others : List Text} (relaid : Relaid lines others place)
    (failure? : Option Text) :
    MovedScan failure? place lines.length others.length (scan { lines, failure? }).result
      (scan { lines := others, failure? }).result := by
  have one {lines others : List Text} {place : Nat → Nat} (aligned : Aligned place 0 0 lines others) :
      MovedScan failure? place lines.length others.length (scan { lines, failure? }).result
        (scan { lines := others, failure? }).result := by
    have moved := aligned.movedScan failure? 0 []
    rwa [Nat.zero_add, Nat.zero_add] at moved
  induction relaid with
  | same => exact one (.shifted lines fun _ => rfl)
  | edit _ edit ih => exact ih.trans (one edit.aligned)

end

/-- Both runs succeed, or both fail: the scans do, or the instructions on lines that correspond have
no word for one kind of reason, or the output refuses their words. -/
inductive MovedOutcome (failure? : Option Text) (place : Nat → Nat) (count count' : Nat) :
    Option Failure → Option Failure → Prop
  | neither : MovedOutcome failure? place count count' none none
  | failed {e e' : Failure} (moved : Failure.Moved failure? place count count' e e') :
      MovedOutcome failure? place count count' (some e) (some e')
  | unwritten {n : Nat} {i j : Instruction} (inside : n < count) (line : i.line = n + 1)
      (line' : j.line = place n + 1) (cause : Failure) :
      MovedOutcome failure? place count count' (some (cause.inContext (Table.wordAccount i)))
        (some (cause.inContext (Table.wordAccount j)))

theorem SameOperand.refl (symbols : SymbolTable) (register? : Text → Option UInt8) (token : Text) :
    SameOperand symbols symbols register? token token := by
  by_cases sigil : token.head? = some labelSigil
  · exact .labels sigil sigil rfl register?
  · exact .unlabelled sigil symbols symbols register?

theorem Instruction.Moved.alike {t : Table} {place : Nat → Nat} {count : Nat} {i j : Instruction}
    (moved : Instruction.Moved place count i j) (symbols : SymbolTable) : t.Alike symbols symbols i j := by
  refine Table.alike_of_operands moved.mnemonic ?_
  rw [moved.operands, List.forall₂_same]
  intro token _
  exact .refl symbols t.registers.index? token

theorem SameFailure.moved {place : Nat → Nat} {count : Nat} {instructions others : List Instruction}
    (moved : List.Forall₂ (Instruction.Moved place count) instructions others) {e e' : Option Failure}
    (same : SameFailure instructions others e e') (failure? : Option Text) (count' : Nat) :
    MovedOutcome failure? place count count' e e' := by
  have lines {n : Nat} {i j : Instruction} (found : instructions[n]? = some i)
      (found' : others[n]? = some j) : ∃ m < count, i.line = m + 1 ∧ j.line = place m + 1 := by
    obtain ⟨inside, rfl⟩ := List.getElem?_eq_some_iff.mp found
    obtain ⟨inside', rfl⟩ := List.getElem?_eq_some_iff.mp found'
    exact (moved.get inside inside').line
  cases same with
  | neither => exact .neither
  | refused found found' first second kinds line line' =>
    obtain ⟨m, inside, number, number'⟩ := lines found found'
    exact .failed (.fault inside first second kinds (line.trans number) (line'.trans number'))
  | unwritten found found' cause =>
    obtain ⟨m, inside, number, number'⟩ := lines found found'
    exact .unwritten inside number number' cause

/-- Assembly does not depend on layout. Whatever the table and the output, a source and the same
source after any number of changes to its layout leave the same output, and both succeed or both fail:
with one kind of fault at lines that correspond, or with one failure to read or to write. -/
theorem Table.assemble_relaid (t : Table) {lines others : List Text} {place : Nat → Nat}
    (relaid : Relaid lines others place) (failure? : Option Text) {σ : Type}
    (write : σ → Text → σ × Option Failure) (out : σ) :
    let r := t.assemble { lines, failure? } write out
    let r' := t.assemble { lines := others, failure? } write out
    r.out = r'.out ∧
      MovedOutcome failure? place lines.length others.length r.failure r'.failure := by
  have scans := relaid.movedScan failure?
  generalize left : (scan { lines, failure? }).result = s,
    right : (scan { lines := others, failure? }).result = s' at scans
  simp only [assemble, left, right]
  cases scans with
  | error moved => exact ⟨rfl, .failed moved⟩
  | @ok p q symbols instructions =>
    have alike : List.Forall₂ (t.Alike p.symbols q.symbols) p.instructions q.instructions := by
      rw [← symbols]
      exact instructions.imp fun i j moved => moved.alike p.symbols
    obtain ⟨written, same⟩ := emit_alike alike write out
    exact ⟨written, same.moved instructions failure? others.length⟩

/-- A comment line, a blank line of odd white space, a comment behind a line, an indented line, wider
gaps and a line in the words of its instruction: the label where a register is needed moves from the
third line to the fifth. -/
theorem Table.assemble_relaid_comments :
    let lines : List Text := ["@top", "J \t @top", "JR @top"]
    let others : List Text := ["; start", "@top", "J @top", "\u00a0\t", "  JR \t @top;; no register"]
    let r := Mu.table.assemble { lines } Sink.write {}
    let r' := Mu.table.assemble { lines := others } Sink.write {}
    ∃ place, Relaid lines others place ∧ place 2 = 4 ∧ r.out = r'.out ∧
      MovedOutcome none place 3 5 r.failure r'.failure := by
  intro lines others r r'
  let i : Instruction := { mnemonic := "J", operands := .ofList ["@top"] }
  have stems : Stems "J \t @top" i := ⟨["@top"], by decide +kernel, by decide, rfl⟩
  have canonical : LineEdit "J \t @top" "J @top" := by
    have spelled : i.text = "J @top" := by decide +kernel
    exact spelled ▸ .canonical stems
  have wider : LineEdit "JR @top" "JR \t @top" := by
    have narrow : ("JR" : Text) ++ (" " ++ "@top") = "JR @top" := by decide +kernel
    have wide : ("JR" : Text) ++ (" \t " ++ "@top") = "JR \t @top" := by decide +kernel
    rw [← narrow, ← wide]
    exact .between (by decide +kernel) (by decide +kernel) (by decide +kernel) (by decide +kernel) _ _
  have remarked : LineEdit "JR \t @top" "JR \t @top;; no register" := by
    have whole : ("JR \t @top" : Text) ++ commentMark :: "; no register" = "JR \t @top;; no register" := by
      decide +kernel
    exact whole ▸ .comment _ _
  have indented : LineEdit "JR \t @top;; no register" "  JR \t @top;; no register" := by
    have whole : ("  " : Text) ++ "JR \t @top;; no register" = "  JR \t @top;; no register" := by
      decide +kernel
    exact whole ▸ .before (by decide +kernel) _
  have note : BlankLine "; start" := by decide +kernel
  have odd : BlankLine "\u00a0\t" := by decide +kernel
  have opened := Relaid.same.edit (.insert [] lines note)
  have reworded := opened.edit (.rewrite ["; start", "@top"] ["JR @top"] canonical)
  have parted := reworded.edit (.insert ["; start", "@top", "J @top"] ["JR @top"] odd)
  let front : List Text := ["; start", "@top", "J @top", "\u00a0\t"]
  have spaced := parted.edit (.rewrite front [] wider)
  have relaid := (spaced.edit (.rewrite front [] remarked)).edit (.rewrite front [] indented)
  exact ⟨_, relaid, rfl, assemble_relaid Mu.table relaid none Sink.write {}⟩

end TableAsm
