import TableAsm.Proofs.Assembly.Scanning

/-!
Addresses. The address of an instruction, and that of a label, is one word for each instruction
before it, counted in 32 bits. The test for the end of the address space never refuses an
instruction: the count goes round from the last word of the space to the first, so the addresses
are the numbers they stand for exactly as long as the program is no longer than the space.
-/
namespace TableAsm

/-- The number of words in the address space. -/
def addressableWords : Nat := UInt32.size / wordSize

theorem word_address_iff {n : Nat} :
    wordSize * n % UInt32.size = wordSize * n ↔ n < addressableWords := by
  have positive : 0 < UInt32.size := by decide
  have words : wordSize * addressableWords = UInt32.size := by decide
  rw [Nat.mod_eq_iff_lt positive.ne', ← words]
  exact Nat.mul_lt_mul_left (by decide)

theorem address_start (address : UInt32) :
    (address.toNat + wordSize * 0) % UInt32.size = address.toNat := by
  rw [Nat.mul_zero, Nat.add_zero]
  exact Nat.mod_eq_of_lt address.toNat_lt

theorem address_next (address : UInt32) (n : Nat) :
    ((address + 8).toNat + wordSize * n) % UInt32.size =
      (address.toNat + wordSize * (n + 1)) % UInt32.size := by
  have next : (address + 8).toNat = (address.toNat + wordSize) % UInt32.size :=
    UInt32.toNat_add address 8
  rw [next, Nat.mod_add_mod, Nat.mul_succ, Nat.add_assoc, Nat.add_comm wordSize]

namespace Program

/-- The number of instructions before a line. -/
def before (p : Program) (line : Int) : Nat := p.instructions.countP fun i => i.line < line

/-- Addresses are the numbers they stand for, and no two instructions share one. -/
structure Unwrapped (p : Program) : Prop where
  increasing : p.instructions.Pairwise fun earlier later => earlier.address < later.address
  instructions : ∀ i, (inside : i < p.instructions.length) →
    p.instructions[i].address.toNat = wordSize * i
  labels : ∀ label ∈ p.labels, label.address.toNat = wordSize * p.before label.line

end Program

section

variable {failure? : Option Text} {count : Nat} {address : UInt32} {symbols : SymbolTable}
  {lines : List Text} {p : Program}

theorem scanFrom_addresses
    (scanned : (scanFrom failure? count address symbols lines).result = .ok p) :
    ∀ i, (inside : i < p.instructions.length) →
      p.instructions[i].address.toNat = (address.toNat + wordSize * i) % UInt32.size := by
  induction lines generalizing count address symbols p with
  | nil =>
    obtain rfl := scanFrom_nil_eq_ok scanned
    intro i inside
    cases inside
  | cons raw rest ih =>
    obtain ⟨-, ok⟩ | ⟨name, known, q, -, -, ok, rfl⟩ | ⟨first, q, -, start, -, ok, rfl⟩ :=
      scanFrom_cons_eq_ok scanned
    · exact ih ok
    · intro i inside
      exact ih ok i inside
    · intro i inside
      cases i with
      | zero => rw [List.getElem_cons_zero, start, address_start]
      | succ i =>
        have later := ih ok i (Nat.lt_of_succ_lt_succ inside)
        rw [List.getElem_cons_succ, later, address_next]

theorem scanFrom_before
    (scanned : (scanFrom failure? count address symbols lines).result = .ok p) {line : Int}
    (early : line ≤ count + 1) : p.before line = 0 := by
  rw [Program.before, List.countP_eq_zero]
  intro i member
  obtain ⟨n, -, -, -, number⟩ := scanFrom_lines scanned i member
  rw [decide_eq_true_eq]
  omega

theorem scanFrom_labels
    (scanned : (scanFrom failure? count address symbols lines).result = .ok p) :
    ∀ label ∈ p.labels, (count : Int) < label.line ∧
      label.address.toNat = (address.toNat + wordSize * p.before label.line) % UInt32.size := by
  induction lines generalizing count address symbols p with
  | nil =>
    obtain rfl := scanFrom_nil_eq_ok scanned
    simp
  | cons raw rest ih =>
    intro label member
    obtain ⟨-, ok⟩ | ⟨name, known, q, -, -, ok, rfl⟩ | ⟨first, q, -, -, number, ok, rfl⟩ :=
      scanFrom_cons_eq_ok scanned
    · obtain ⟨later, value⟩ := ih ok label member
      exact ⟨by omega, value⟩
    · rcases List.mem_cons.mp member with rfl | member
      · have none : q.before (count + 1) = 0 := scanFrom_before ok (by omega)
        refine ⟨Int.lt_succ count, ?_⟩
        change address.toNat = (address.toNat + wordSize * q.before (count + 1)) % UInt32.size
        rw [none, address_start]
      · obtain ⟨later, value⟩ := ih ok label member
        exact ⟨by omega, value⟩
    · obtain ⟨later, value⟩ := ih ok label member
      have one : Program.before { q with instructions := first :: q.instructions } label.line =
          q.before label.line + 1 := by
        have earlier : first.line < label.line := by omega
        simp only [Program.before]
        rw [List.countP_cons_of_pos (by simpa using earlier)]
      refine ⟨by omega, ?_⟩
      rw [one, value, address_next]

end

/-- Addresses are taken modulo the size of the address space, whatever the length of the source. They
are the numbers they stand for exactly if no instruction and no label stands behind the last word. -/
theorem scan_addresses {input : LineInput} {p : Program} (scanned : (scan input).result = .ok p) :
    (∀ i, (inside : i < p.instructions.length) →
        p.instructions[i].address.toNat = wordSize * i % UInt32.size) ∧
      (∀ label ∈ p.labels, label.address.toNat = wordSize * p.before label.line % UInt32.size) ∧
      (p.Unwrapped ↔ p.instructions.length ≤ addressableWords ∧
        ∀ label ∈ p.labels, p.before label.line < addressableWords) := by
  have counted : ∀ i, (inside : i < p.instructions.length) →
      p.instructions[i].address.toNat = wordSize * i % UInt32.size := by
    intro i inside
    simpa using scanFrom_addresses scanned i inside
  have labelled : ∀ label ∈ p.labels,
      label.address.toNat = wordSize * p.before label.line % UInt32.size := by
    intro label member
    simpa using (scanFrom_labels scanned label member).2
  refine ⟨counted, labelled, ?_⟩
  constructor
  · intro unwrapped
    refine ⟨?_, ?_⟩
    · by_contra long
      have inside : addressableWords < p.instructions.length := Nat.not_le.mp long
      have wrapped := (counted _ inside).symm.trans (unwrapped.instructions _ inside)
      exact Nat.lt_irrefl _ (word_address_iff.mp wrapped)
    · intro label member
      exact word_address_iff.mp ((labelled label member).symm.trans (unwrapped.labels label member))
  · rintro ⟨short, early⟩
    have numbers : ∀ i, (inside : i < p.instructions.length) →
        p.instructions[i].address.toNat = wordSize * i := by
      intro i inside
      rw [counted i inside, word_address_iff.mpr (Nat.lt_of_lt_of_le inside short)]
    refine ⟨?_, numbers, ?_⟩
    · rw [List.pairwise_iff_getElem]
      intro i j first second order
      rw [UInt32.lt_iff_toNat_lt, numbers i first, numbers j second]
      exact Nat.mul_lt_mul_of_pos_left order (by decide)
    · intro label member
      rw [labelled label member, word_address_iff.mpr (early label member)]

/-- A source with labels before, between and behind its instructions. -/
theorem scan_addresses_labelled :
    let input : LineInput := { lines := ["@A", "SET R0 1", "", "@B ; next", "HALT", "@C"] }
    let p : Program :=
      { instructions :=
          [{ source := "SET R0 1", line := 2, mnemonic := "SET", operands := .ofList ["R0", "1"] },
            { source := "HALT", line := 5, address := 8, mnemonic := "HALT" }]
        labels := [⟨"@A", 0, 1⟩, ⟨"@B", 8, 4⟩, ⟨"@C", 16, 6⟩]
        symbols := [("@C", 16), ("@B", 8), ("@A", 0)] }
    (scan input).result = .ok p ∧ p.Unwrapped := by
  intro input p
  have scanned : (scan input).result = .ok p := by decide +kernel
  have short : p.instructions.length ≤ addressableWords := by decide
  have early : ∀ label ∈ p.labels, p.before label.line < addressableWords := by decide
  obtain ⟨-, -, exactly⟩ := scan_addresses scanned
  exact ⟨scanned, exactly.mpr ⟨short, early⟩⟩

/-- One instruction more than the address space has words: the source is scanned, and its last
instruction gets the address of its first. -/
theorem scan_wraps :
    ∃ p first last, (scan { lines := List.replicate (addressableWords + 1) "NOP" }).result = .ok p ∧
      p.instructions[0]? = some first ∧ p.instructions[addressableWords]? = some last ∧
      first.address = last.address ∧ ¬ p.Unwrapped := by
  have stem : ∀ raw ∈ List.replicate (addressableWords + 1) (("NOP" : String) : Text), ∃ i, Stems raw i := by
    intro raw member
    rw [List.eq_of_mem_replicate member]
    have parsed : parseLine "NOP" = .ok (some (.instruction "NOP" [])) := by decide +kernel
    exact ⟨{ mnemonic := "NOP" }, [], parsed, by decide, rfl⟩
  have aligned : (0 : UInt32).toNat % 8 = 0 := rfl
  obtain ⟨p, scanned, -, stems⟩ := scanFrom_instructions stem 0 aligned []
  have length : p.instructions.length = addressableWords + 1 := by
    rw [← stems.length_eq, List.length_replicate]
  have start : 0 < p.instructions.length := by omega
  have finish : addressableWords < p.instructions.length := by omega
  have low := scanFrom_addresses scanned 0 start
  have high := scanFrom_addresses scanned addressableWords finish
  have same : p.instructions[0].address = p.instructions[addressableWords].address := by
    rw [← UInt32.toNat_inj, low, high]
    rfl
  refine ⟨p, _, _, scanned, List.getElem?_eq_getElem start, List.getElem?_eq_getElem finish, same, ?_⟩
  intro unwrapped
  have order := List.pairwise_iff_getElem.mp unwrapped.increasing 0 addressableWords start finish (by decide)
  rw [same] at order
  exact absurd order (UInt32.lt_irrefl _)

end TableAsm
