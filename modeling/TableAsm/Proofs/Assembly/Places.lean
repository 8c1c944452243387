import TableAsm.Assembly.Listing
import TableAsm.Proofs.Assembly.Refusals

/-!
Lines at their places. Whether a line belongs to a program, and what it adds to it, is settled by the
line and those before it: a label may not be named again, an address is one word for each instruction
line before. The scan keeps no more than this. Behind lines without fault it has gathered what they
add, and at the first line with a fault it stops with a failure of that kind and line.
-/
namespace TableAsm

theorem parseLine_cases (raw : Text) :
    (∃ failure, parseLine raw = .error failure) ∨ parseLine raw = .ok none ∨
      (∃ name, parseLine raw = .ok (some (.label name))) ∨
      ∃ mnemonic operands, parseLine raw = .ok (some (.instruction mnemonic operands)) := by
  match parseLine raw with
  | .error failure => exact .inl ⟨failure, rfl⟩
  | .ok none => exact .inr (.inl rfl)
  | .ok (some (.label name)) => exact .inr (.inr (.inl ⟨name, rfl⟩))
  | .ok (some (.instruction mnemonic operands)) => exact .inr (.inr (.inr ⟨mnemonic, operands, rfl⟩))

def labelName? (raw : Text) : Option Text :=
  match parseLine raw with
  | .ok (some (.label name)) => some name
  | _ => none

def isInstructionLine (raw : Text) : Bool :=
  match parseLine raw with
  | .ok (some (.instruction ..)) => true
  | _ => false

def labelNames (lines : List Text) : List Text := lines.filterMap labelName?

def instructionCount (lines : List Text) : Nat := lines.countP isInstructionLine

def lineFault? (earlier : List Text) (raw : Text) : Option Kind :=
  match parseLine raw with
  | .error _ => some .malformedLine
  | .ok none => none
  | .ok (some (.label name)) =>
    if (labelNames earlier).contains name then some .duplicateSymbol else none
  | .ok (some (.instruction _ operands)) =>
    if Operands.capacity < operands.length then some .operandKindMismatch else none

def addressBehind (earlier : List Text) : UInt32 :=
  UInt32.ofNat (wordSize * instructionCount earlier)

def lineEvent? (earlier : List Text) (raw : Text) : Option Event :=
  match parseLine raw with
  | .ok (some (.label name)) =>
    some (.labelDefined { name, address := addressBehind earlier, line := earlier.length + 1 })
  | .ok (some (.instruction mnemonic operands)) =>
    some (.parsed
      { source := stripComment raw, line := earlier.length + 1, address := addressBehind earlier
        mnemonic, operands := .ofList operands })
  | _ => none

def gathered {β : Type} (give : List Text → Text → Option β) (lines : List Text) : List β :=
  (List.range lines.length).filterMap fun n => lines[n]?.bind (give (lines.take n))

theorem gathered_concat {β : Type} (give : List Text → Text → Option β) (front : List Text) (raw : Text) :
    gathered give (front ++ [raw]) = gathered give front ++ (give front raw).toList := by
  have same : (List.range front.length).filterMap
      (fun n => (front ++ [raw])[n]?.bind (give ((front ++ [raw]).take n))) = gathered give front := by
    apply List.filterMap_congr
    intro n member
    have inside := List.mem_range.mp member
    rw [List.getElem?_append_left inside, List.take_append_of_le_length inside.le]
  have last : [front.length].filterMap
      (fun n => (front ++ [raw])[n]?.bind (give ((front ++ [raw]).take n))) = (give front raw).toList := by
    rw [List.filterMap_cons, List.getElem?_concat_length, Option.bind_some, List.take_left]
    cases give front raw <;> rfl
  rw [gathered, List.length_append, List.length_singleton, List.range_succ, List.filterMap_append,
    same, last]

/-- The fault of the line at a place. -/
def faultAt? (lines : List Text) (n : Nat) : Option Kind :=
  lines[n]?.bind (lineFault? (lines.take n))

def eventAt? (lines : List Text) (n : Nat) : Option Event :=
  lines[n]?.bind (lineEvent? (lines.take n))

def lineEvents (lines : List Text) : List Event := (List.range lines.length).filterMap (eventAt? lines)

def Faultless (lines : List Text) : Prop := ∀ n, faultAt? lines n = none

def parsedOf? : Event → Option Instruction
  | .parsed i => some i
  | _ => none

def lineInstructions (lines : List Text) : List Instruction := (lineEvents lines).filterMap parsedOf?

def lineLabels (lines : List Text) : List Label := (lineEvents lines).filterMap Listing.labelOf?

def symbolsBehind (lines : List Text) : SymbolTable :=
  (lineLabels lines).reverse.map fun l => (l.name, l.address)

/-- The program that lines stand for. -/
def Program.ofLines (lines : List Text) : Program where
  instructions := lineInstructions lines
  labels := lineLabels lines
  symbols := symbolsBehind lines

section

variable {front : List Text} {n : Nat}

theorem faultAt?_append (inside : n < front.length) (back : List Text) :
    faultAt? (front ++ back) n = faultAt? front n := by
  rw [faultAt?, faultAt?, List.getElem?_append_left inside, List.take_append_of_le_length inside.le]

theorem faultAt?_outside (outside : front.length ≤ n) : faultAt? front n = none := by
  rw [faultAt?, List.getElem?_eq_none outside]
  rfl

theorem faultAt?_here (front : List Text) (raw : Text) (back : List Text) :
    faultAt? (front ++ raw :: back) front.length = lineFault? front raw := by
  simp [faultAt?]

end

theorem faultAt?_eq_some {lines : List Text} {n : Nat} {kind : Kind} (fault : faultAt? lines n = some kind) :
    ∃ front raw back, lines = front ++ raw :: back ∧ n = front.length ∧
      lineFault? front raw = some kind := by
  obtain ⟨raw, found, charged⟩ := Option.bind_eq_some_iff.mp fault
  obtain ⟨inside, rfl⟩ := List.getElem?_eq_some_iff.mp found
  refine ⟨lines.take n, lines[n], lines.drop (n + 1), ?_, ?_, charged⟩
  · rw [List.getElem_cons_drop, List.take_append_drop]
  · rw [List.length_take_of_le inside.le]

theorem faultless_of_first {front back : List Text}
    (first : ∀ n < front.length, faultAt? (front ++ back) n = none) : Faultless front := by
  intro n
  by_cases inside : n < front.length
  · rw [← faultAt?_append inside back]
    exact first n inside
  · exact faultAt?_outside (Nat.not_lt.mp inside)

theorem Faultless.front {front back : List Text} (faultless : Faultless (front ++ back)) :
    Faultless front :=
  faultless_of_first fun n _ => faultless n

theorem Faultless.last {front : List Text} {raw : Text} (faultless : Faultless (front ++ [raw])) :
    lineFault? front raw = none := by
  rw [← faultAt?_here front raw []]
  exact faultless front.length

theorem Faultless.concat {front : List Text} {raw : Text} (faultless : Faultless front)
    (last : lineFault? front raw = none) : Faultless (front ++ [raw]) := by
  intro n
  rcases Nat.lt_trichotomy n front.length with inside | rfl | outside
  · rw [faultAt?_append inside]
    exact faultless n
  · rw [faultAt?_here, last]
  · have past : (front ++ [raw]).length ≤ n := by
      rw [List.length_append]
      exact outside
    exact faultAt?_outside past

theorem faultless_or_first (lines : List Text) :
    Faultless lines ∨ ∃ front raw back kind, lines = front ++ raw :: back ∧ Faultless front ∧
      lineFault? front raw = some kind := by
  induction lines using List.reverseRecOn with
  | nil => exact .inl fun n => faultAt?_outside (Nat.zero_le n)
  | append_singleton lines raw ih =>
    rcases ih with faultless | ⟨front, first, back, kind, rfl, faultless, fault⟩
    · cases fault : lineFault? lines raw with
      | none => exact .inl (faultless.concat fault)
      | some kind => exact .inr ⟨lines, raw, [], kind, rfl, faultless, fault⟩
    · exact .inr ⟨front, first, back ++ [raw], kind, by simp, faultless, fault⟩

theorem lineEvents_concat (front : List Text) (raw : Text) :
    lineEvents (front ++ [raw]) = lineEvents front ++ (lineEvent? front raw).toList :=
  gathered_concat lineEvent? front raw

theorem lineInstructions_concat (front : List Text) (raw : Text) :
    lineInstructions (front ++ [raw]) =
      lineInstructions front ++ (lineEvent? front raw).toList.filterMap parsedOf? := by
  rw [lineInstructions, lineEvents_concat, List.filterMap_append]
  rfl

theorem lineLabels_concat (front : List Text) (raw : Text) :
    lineLabels (front ++ [raw]) = lineLabels front ++ (lineEvent? front raw).toList.filterMap Listing.labelOf? := by
  rw [lineLabels, lineEvents_concat, List.filterMap_append]
  rfl

theorem symbolsBehind_concat (front : List Text) (raw : Text) :
    symbolsBehind (front ++ [raw]) =
      ((lineEvent? front raw).toList.filterMap Listing.labelOf?).reverse.map (fun l => (l.name, l.address)) ++
        symbolsBehind front := by
  rw [symbolsBehind, lineLabels_concat, List.reverse_append, List.map_append]
  rfl

theorem instructionCount_concat (front : List Text) (raw : Text) :
    instructionCount (front ++ [raw]) =
      instructionCount front + if isInstructionLine raw then 1 else 0 := by
  rw [instructionCount, List.countP_append, List.countP_singleton]
  rfl

theorem labelNames_concat (front : List Text) (raw : Text) :
    labelNames (front ++ [raw]) = labelNames front ++ (labelName? raw).toList := by
  rw [labelNames, List.filterMap_append, List.filterMap_cons]
  cases labelName? raw <;> rfl

theorem length_lineInstructions (lines : List Text) :
    (lineInstructions lines).length = instructionCount lines := by
  induction lines using List.reverseRecOn with
  | nil => rfl
  | append_singleton front raw ih =>
    rw [lineInstructions_concat, List.length_append, ih, instructionCount_concat]
    congr 1
    rcases parseLine_cases raw with ⟨failure, parsed⟩ | parsed | ⟨name, parsed⟩ | ⟨mnemonic, operands, parsed⟩
    all_goals
      simp only [lineEvent?, isInstructionLine, parsed]
      rfl

theorem lineLabels_names (lines : List Text) : (lineLabels lines).map Label.name = labelNames lines := by
  induction lines using List.reverseRecOn with
  | nil => rfl
  | append_singleton front raw ih =>
    rw [lineLabels_concat, List.map_append, ih, labelNames_concat]
    congr 1
    rcases parseLine_cases raw with ⟨failure, parsed⟩ | parsed | ⟨name, parsed⟩ | ⟨mnemonic, operands, parsed⟩
    all_goals
      simp only [lineEvent?, labelName?, parsed]
      rfl

theorem symbolsBehind_address? {lines : List Text} {name : Text} :
    (symbolsBehind lines).address? name = none ↔ name ∉ labelNames lines := by
  rw [← lineLabels_names, SymbolTable.address?, List.lookup_eq_none_iff]
  simp only [symbolsBehind, List.mem_map, List.mem_reverse, bne_iff_ne]
  constructor
  · rintro differ ⟨label, member, rfl⟩
    exact differ _ ⟨label, member, rfl⟩ rfl
  · rintro absent _ ⟨label, member, rfl⟩ same
    exact absent ⟨label, member, same.symm⟩

def Scan.behind (events : List Event) (s : Scan) : Scan where
  events := events ++ s.events
  result := s.result.map fun p =>
    { p with
      instructions := events.filterMap parsedOf? ++ p.instructions
      labels := events.filterMap Listing.labelOf? ++ p.labels }

theorem Scan.behind_nil (s : Scan) : s.behind [] = s := by
  obtain ⟨events, result⟩ := s
  cases result <;> rfl

theorem Scan.behind_append (first second : List Event) (s : Scan) :
    s.behind (first ++ second) = (s.behind second).behind first := by
  obtain ⟨events, result⟩ := s
  cases result <;> simp [behind, Except.map]

def scanBehind (failure? : Option Text) (earlier rest : List Text) : Scan :=
  scanFrom failure? earlier.length (addressBehind earlier) (symbolsBehind earlier) rest

/-- The failure is a fault of this kind at this line, in words of its own. -/
def Failure.Charges (e : Failure) (kind : Kind) (line : Int) : Prop :=
  ∃ f, e.States f ∧ f.kind = kind ∧ f.line = line

theorem Failure.States.charges {e : Failure} {f : Fault} (states : e.States f) (unplaced : f.line = 0)
    (line : Int) : (e.atLine line).Charges f.kind line := by
  refine ⟨f.atLine line, states.atLine line, f.kind_atLine line, ?_⟩
  rw [Fault.atLine, if_pos unplaced]

theorem Fault.charges {f : Fault} (worded : f.message ≠ []) (unplaced : f.line = 0) (line : Int) :
    ((Failure.ofFault f).atLine line).Charges f.kind line :=
  Failure.States.charges ⟨rfl, worded⟩ unplaced line

theorem addressBehind_aligned (lines : List Text) : (addressBehind lines).toNat % 8 = 0 := by
  rw [addressBehind, UInt32.toNat_ofNat', wordSize]
  omega

theorem addressBehind_next {front : List Text} {raw : Text} (instruction : isInstructionLine raw = true) :
    addressBehind (front ++ [raw]) = addressBehind front + 8 := by
  rw [addressBehind, instructionCount_concat, if_pos instruction, Nat.mul_add, UInt32.ofNat_add]
  rfl

theorem addressBehind_same {front : List Text} {raw : Text} (other : isInstructionLine raw = false) :
    addressBehind (front ++ [raw]) = addressBehind front := by
  rw [addressBehind, instructionCount_concat, if_neg (by simp [other])]
  rfl

theorem scanBehind_faultless {earlier : List Text} {raw : Text} (faultless : lineFault? earlier raw = none)
    (failure? : Option Text) (rest : List Text) :
    scanBehind failure? earlier (raw :: rest) =
      (scanBehind failure? (earlier ++ [raw]) rest).behind (lineEvent? earlier raw).toList := by
  have next : (earlier ++ [raw]).length = earlier.length + 1 := by simp
  unfold scanBehind
  rw [next, scanFrom, symbolsBehind_concat]
  rcases parseLine_cases raw with ⟨failure, parsed⟩ | parsed | ⟨name, parsed⟩ | ⟨mnemonic, operands, parsed⟩
  · simp [lineFault?, parsed] at faultless
  · have other : isInstructionLine raw = false := by rw [isInstructionLine, parsed]
    rw [addressBehind_same other]
    simp [lineEvent?, parsed, Scan.behind_nil]
  · have other : isInstructionLine raw = false := by rw [isInstructionLine, parsed]
    have fresh : name ∉ labelNames earlier := by simpa [lineFault?, parsed] using faultless
    have unknown := symbolsBehind_address?.mpr fresh
    rw [addressBehind_same other]
    simp only [parsed, SymbolTable.define, unknown, lineEvent?]
    rfl
  · have instruction : isInstructionLine raw = true := by rw [isInstructionLine, parsed]
    have few : ¬ Operands.capacity < operands.length := by simpa [lineFault?, parsed] using faultless
    have fits := Instruction.surplus?_eq_none_iff.mpr (Nat.not_lt.mp few)
    have room := room_of_aligned (addressBehind_aligned earlier)
    rw [addressBehind_next instruction]
    simp only [parsed, if_neg room, fits, lineEvent?]
    rfl

theorem scanBehind_fault {earlier : List Text} {raw : Text} {kind : Kind}
    (fault : lineFault? earlier raw = some kind) (failure? : Option Text) (rest : List Text) :
    ∃ failure, scanBehind failure? earlier (raw :: rest) = .stopped failure ∧
      failure.Charges kind (earlier.length + 1) := by
  unfold scanBehind
  rw [scanFrom]
  rcases parseLine_cases raw with ⟨failure, parsed⟩ | parsed | ⟨name, parsed⟩ | ⟨mnemonic, operands, parsed⟩
  · simp only [lineFault?, parsed] at fault ⊢
    cases fault
    obtain ⟨problem, rfl⟩ := parseLine_eq_error parsed
    have states : (malformedLine (stripComment raw) problem).States _ := ⟨rfl, by simp⟩
    exact ⟨_, rfl, states.charges rfl _⟩
  · simp [lineFault?, parsed] at fault
  · simp only [lineFault?, parsed] at fault ⊢
    split at fault
    · -- A name is in the symbol table once a line before has it.
      rename_i known
      cases fault
      have defined : (symbolsBehind earlier).address? name ≠ none :=
        fun unknown => symbolsBehind_address?.mp unknown (List.contains_iff_mem.mp known)
      obtain ⟨address, found⟩ := Option.ne_none_iff_exists'.mp defined
      simp only [SymbolTable.define, found]
      exact ⟨_, rfl, Fault.charges (by simp) rfl _⟩
    · cases fault
  · simp only [lineFault?, parsed] at fault ⊢
    split at fault
    · rename_i many
      cases fault
      have room := room_of_aligned (addressBehind_aligned earlier)
      rw [if_neg room, Instruction.surplus?, List.getElem?_eq_getElem many]
      exact ⟨_, rfl, Fault.charges (by simp [Instruction.surplusOperand]) rfl _⟩
    · cases fault

theorem scan_front {front : List Text} (faultless : Faultless front) (failure? : Option Text)
    (back : List Text) :
    scan { lines := front ++ back, failure? } = (scanBehind failure? front back).behind (lineEvents front) := by
  -- The state of the scan is a function of the lines behind it, so the last line of the front is the
  -- one to take off.
  induction front using List.reverseRecOn generalizing back with
  | nil => exact (Scan.behind_nil _).symm
  | append_singleton front raw ih =>
    rw [List.append_assoc, List.singleton_append, ih faultless.front,
      scanBehind_faultless faultless.last, lineEvents_concat, Scan.behind_append]

theorem scan_faultless {lines : List Text} (faultless : Faultless lines) (failure? : Option Text) :
    scan { lines, failure? } =
      { events := lineEvents lines
        result := match failure? with
          | none => .ok (.ofLines lines)
          | some words => .error (readFailure words lines.length) } := by
  have whole := scan_front faultless failure? []
  rw [List.append_nil] at whole
  rw [whole]
  cases failure? <;> simp [scanBehind, scanFrom, scanEnd, Scan.stopped, Scan.behind, Except.map,
    Program.ofLines, lineInstructions, lineLabels, readFailure]

theorem scan_fault {front : List Text} {raw : Text} {kind : Kind} (faultless : Faultless front)
    (fault : lineFault? front raw = some kind) (back : List Text) (failure? : Option Text) :
    ∃ failure, scan { lines := front ++ raw :: back, failure? } =
        { events := lineEvents front, result := .error failure } ∧
      failure.Charges kind (front.length + 1) := by
  obtain ⟨failure, stopped, charges⟩ := scanBehind_fault fault failure? back
  refine ⟨failure, ?_, charges⟩
  rw [scan_front faultless, stopped, Scan.behind, Scan.stopped, List.append_nil]
  rfl

theorem scan_eq_ok {input : LineInput} {p : Program} (scanned : (scan input).result = .ok p) :
    Faultless input.lines ∧ p = .ofLines input.lines := by
  obtain ⟨lines, failure?⟩ := input
  rcases faultless_or_first lines with faultless | ⟨front, raw, back, kind, rfl, faultless, fault⟩
  · rw [scan_faultless faultless] at scanned
    cases failure? with
    | none =>
      cases scanned
      exact ⟨faultless, rfl⟩
    | some words => cases scanned
  · obtain ⟨failure, stopped, -⟩ := scan_fault faultless fault back failure?
    rw [stopped] at scanned
    cases scanned

end TableAsm
