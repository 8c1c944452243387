import TableAsm.Assembly.Scan
import TableAsm.Proofs.Assembly.Encoding

namespace TableAsm

/-- The instruction is what the line says. -/
def Stems (raw : Text) (instruction : Instruction) : Prop :=
  ∃ operands, parseLine raw = .ok (some (.instruction instruction.mnemonic operands)) ∧
    operands.length ≤ Operands.capacity ∧ instruction.operands = .ofList operands

/-- The failure of a source that could not be read on after some lines. -/
def readFailure (words : Text) (count : Nat) : Failure :=
  (Failure.ofMessage words).inContext ("reading source after line " ++ Text.decimal count)

theorem Instruction.surplus?_eq_none_iff {operands : List Text} :
    surplus? operands = none ↔ operands.length ≤ Operands.capacity := by
  rw [surplus?, Option.map_eq_none_iff, List.getElem?_eq_none_iff]

theorem Except.map_eq_ok {ε α β : Type} {f : α → β} {x : Except ε α} {b : β}
    (mapped : x.map f = .ok b) : ∃ a, x = .ok a ∧ f a = b := by
  cases x with
  | error e => cases mapped
  | ok a => exact ⟨a, rfl, by simpa [Except.map] using mapped⟩

theorem scanFrom_cons_eq_ok {failure? : Option Text} {count : Nat} {address : UInt32}
    {symbols : SymbolTable} {raw : Text} {rest : List Text} {p : Program}
    (scanned : (scanFrom failure? count address symbols (raw :: rest)).result = .ok p) :
    (parseLine raw = .ok none ∧
        (scanFrom failure? (count + 1) address symbols rest).result = .ok p) ∨
      (∃ name known q, parseLine raw = .ok (some (.label name)) ∧
        symbols.define { name, address, line := count + 1 } = .ok known ∧
        (scanFrom failure? (count + 1) address known rest).result = .ok q ∧
        p = { q with labels := { name, address, line := count + 1 } :: q.labels }) ∨
      ∃ (instruction : Instruction) (q : Program), Stems raw instruction ∧
        instruction.address = address ∧ instruction.line = count + 1 ∧
        (scanFrom failure? (count + 1) (address + 8) symbols rest).result = .ok q ∧
        p = { q with instructions := instruction :: q.instructions } := by
  simp only [scanFrom] at scanned
  split at scanned
  · cases scanned
  · rename_i parsed
    exact .inl ⟨parsed, scanned⟩
  · rename_i name parsed
    split at scanned
    · cases scanned
    · rename_i known defined
      obtain ⟨q, ok, rfl⟩ := Except.map_eq_ok scanned
      exact .inr (.inl ⟨name, known, q, parsed, defined, ok, rfl⟩)
  · rename_i mnemonic operands parsed
    split at scanned
    · cases scanned
    · split at scanned
      · cases scanned
      · rename_i few
        obtain ⟨q, ok, rfl⟩ := Except.map_eq_ok scanned
        have stems := Instruction.surplus?_eq_none_iff.mp few
        exact .inr (.inr ⟨_, q, ⟨operands, parsed, stems, rfl⟩, rfl, rfl, ok, rfl⟩)

theorem scanFrom_nil_eq_ok {failure? : Option Text} {count : Nat} {address : UInt32}
    {symbols : SymbolTable} {p : Program}
    (scanned : (scanFrom failure? count address symbols []).result = .ok p) : p = { symbols } := by
  cases failure? with
  | some message => cases scanned
  | none =>
    cases scanned
    rfl

theorem scanFrom_lines {failure? : Option Text} {count : Nat} {address : UInt32}
    {symbols : SymbolTable} {lines : List Text} {p : Program}
    (scanned : (scanFrom failure? count address symbols lines).result = .ok p) :
    ∀ i ∈ p.instructions, ∃ (n : Nat) (raw : Text), lines[n]? = some raw ∧ Stems raw i ∧
      i.line = count + n + 1 := by
  induction lines generalizing count address symbols p with
  | nil =>
    obtain rfl := scanFrom_nil_eq_ok scanned
    simp
  | cons raw rest ih =>
    intro i member
    have later : (∃ (n : Nat) (line : Text), rest[n]? = some line ∧ Stems line i ∧
          i.line = ↑(count + 1) + n + 1) →
        ∃ (n : Nat) (line : Text), (raw :: rest)[n]? = some line ∧ Stems line i ∧
          i.line = count + n + 1 := by
      rintro ⟨n, line, found, stems, number⟩
      exact ⟨n + 1, line, found, stems, by omega⟩
    obtain ⟨-, ok⟩ | ⟨name, known, q, -, -, ok, rfl⟩ | ⟨first, q, stems, -, number, ok, rfl⟩ :=
      scanFrom_cons_eq_ok scanned
    · exact later (ih ok i member)
    · exact later (ih ok i member)
    · rcases List.mem_cons.mp member with rfl | member
      · exact ⟨0, raw, rfl, stems, by omega⟩
      · exact later (ih ok i member)

theorem scan_stems {input : LineInput} {p : Program} (scanned : (scan input).result = .ok p) :
    ∀ instruction ∈ p.instructions, ∃ raw ∈ input.lines, Stems raw instruction := by
  intro instruction member
  obtain ⟨n, raw, found, stems, -⟩ := scanFrom_lines scanned instruction member
  exact ⟨raw, List.mem_of_getElem? found, stems⟩

theorem scanFrom_read {failure? : Option Text} {count : Nat} {address : UInt32}
    {symbols : SymbolTable} {lines : List Text} {p : Program}
    (scanned : (scanFrom failure? count address symbols lines).result = .ok p) : failure? = none := by
  induction lines generalizing count address symbols p with
  | nil =>
    cases failure? with
    | none => rfl
    | some words => cases scanned
  | cons raw rest ih =>
    obtain ⟨-, ok⟩ | ⟨_, _, _, -, -, ok, -⟩ | ⟨_, _, -, -, -, ok, -⟩ := scanFrom_cons_eq_ok scanned
    all_goals exact ih ok

theorem room_of_aligned {address : UInt32} (aligned : address.toNat % 8 = 0) :
    ¬ Text.max32 + 1 < address.toNat + wordSize := by
  have bound := address.toNat_lt
  simp only [Text.max32, wordSize]
  omega

theorem aligned_next {address : UInt32} (aligned : address.toNat % 8 = 0) :
    (address + 8).toNat % 8 = 0 := by
  rw [UInt32.toNat_add, show (8 : UInt32).toNat = 8 from rfl]
  omega

/-- The first lines of a source that scans give no fault of their own: a reader that fails behind them
is all there is to report. -/
theorem scanFrom_front {failure? : Option Text} {count : Nat} {address : UInt32}
    {symbols : SymbolTable} {front back : List Text} {p : Program}
    (scanned : (scanFrom failure? count address symbols (front ++ back)).result = .ok p)
    (aligned : address.toNat % 8 = 0) (words : Text) :
    (scanFrom (some words) count address symbols front).result =
      .error (readFailure words (count + front.length)) := by
  induction front generalizing count address symbols p with
  | nil => rfl
  | cons raw front ih =>
    have next : count + (raw :: front).length = count + 1 + front.length := by
      rw [List.length_cons]
      omega
    rw [next]
    obtain ⟨parsed, ok⟩ | ⟨name, known, q, parsed, defined, ok, -⟩ |
        ⟨i, q, ⟨operands, parsed, few, -⟩, -, -, ok, -⟩ := scanFrom_cons_eq_ok scanned
    · simp only [scanFrom, parsed]
      exact ih ok aligned
    · simp only [scanFrom, parsed, defined, Scan.withLabel, ih ok aligned, Except.map]
    · simp only [scanFrom, parsed, if_neg (room_of_aligned aligned),
        Instruction.surplus?_eq_none_iff.mpr few, Scan.withInstruction, ih ok (aligned_next aligned),
        Except.map]

theorem scanFrom_instructions {lines : List Text} (stem : ∀ raw ∈ lines, ∃ i, Stems raw i)
    (count : Nat) {address : UInt32} (aligned : address.toNat % 8 = 0) (symbols : SymbolTable) :
    ∃ p, (scanFrom none count address symbols lines).result = .ok p ∧ p.symbols = symbols ∧
      List.Forall₂ Stems lines p.instructions := by
  induction lines generalizing count address with
  | nil => exact ⟨{ symbols }, rfl, rfl, .nil⟩
  | cons raw rest ih =>
    obtain ⟨⟨i, operands, parsed, few, -⟩, others⟩ := List.forall_mem_cons.mp stem
    obtain ⟨p, scanned, rfl, stems⟩ := ih others (count + 1) (aligned_next aligned)
    simp only [scanFrom, parsed, if_neg (room_of_aligned aligned),
      Instruction.surplus?_eq_none_iff.mpr few, Scan.withInstruction, scanned, Except.map]
    exact ⟨_, rfl, rfl, .cons ⟨operands, parsed, few, rfl⟩ stems⟩

theorem Table.Denotes.encodes {t : Table} {raw : Text} {word : Word} (denotes : t.Denotes raw word)
    {i : Instruction} (stems : Stems raw i) (symbols : SymbolTable) :
    t.encodeInstruction i symbols = .ok word := by
  obtain ⟨mnemonic, operands, parsed, -, encodes⟩ := denotes
  obtain ⟨tokens, same, -, listed⟩ := stems
  rw [parsed] at same
  cases same
  exact encodes i symbols rfl listed

theorem encodes_of_denotes {t : Table} {lines : List Text} {words : List Word}
    {instructions : List Instruction} (denote : List.Forall₂ t.Denotes lines words)
    (stems : List.Forall₂ Stems lines instructions) :
    List.Forall₂ (fun i word => ∀ known, t.encodeInstruction i known = .ok word) instructions words := by
  induction denote generalizing instructions with
  | nil =>
    cases stems
    exact .nil
  | cons first _ ih =>
    cases stems with
    | cons stem stems => exact .cons (first.encodes stem) (ih stems)

theorem scanFrom_denotes {t : Table} {lines : List Text} {words : List Word}
    (denote : List.Forall₂ t.Denotes lines words) (count : Nat) {address : UInt32}
    (aligned : address.toNat % 8 = 0) (symbols : SymbolTable) :
    ∃ p, (scanFrom none count address symbols lines).result = .ok p ∧ p.symbols = symbols ∧
      List.Forall₂ (fun i word => ∀ known, t.encodeInstruction i known = .ok word) p.instructions words := by
  have stem : ∀ raw ∈ lines, ∃ i, Stems raw i := by
    intro raw member
    obtain ⟨word, -, mnemonic, operands, parsed, few, -⟩ := exists_of_forall₂ denote member
    exact ⟨{ mnemonic, operands := .ofList operands }, operands, parsed, few, rfl⟩
  obtain ⟨p, scanned, known, stems⟩ := scanFrom_instructions stem count aligned symbols
  exact ⟨p, scanned, known, encodes_of_denotes denote stems⟩

end TableAsm
