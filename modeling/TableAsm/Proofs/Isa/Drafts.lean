import TableAsm.Proofs.Isa.RegisterFiles

namespace TableAsm

/-- The formats that make an instruction set. -/
structure SoundFormats (formats : List Format) : Prop where
  named : ∀ f ∈ formats, f.mnemonic ≠ []
  laidOut : ∀ f ∈ formats, ∃ slots, f.fields.layout? = some slots
  grouped : ∀ f ∈ formats, f.group ≤ Format.maxGroup
  mnemonics : (formats.map Format.mnemonic).Nodup
  keys : (formats.map Format.key).Nodup

namespace Format

theorem earliest?_eq_none_iff {passes : Format → Bool} {formats : List Format} {i : Nat} :
    earliest? passes formats i = none ↔
      ∀ j, (inside : j < formats.length) → j < i → passes formats[j] = false := by
  constructor
  · intro none j inside before
    by_contra passed
    rw [Bool.not_eq_false] at passed
    have some : (formats.findIdx? passes).isSome = true := by
      rw [List.findIdx?_isSome, List.any_eq_true]
      exact ⟨_, List.getElem_mem inside, passed⟩
    obtain ⟨first, found⟩ := Option.isSome_iff_exists.mp some
    have least := (List.findIdx?_eq_some_iff_getElem.mp found).2.2
    have late : ¬ first < i := by
      intro early
      have some := earliest?_eq_some_iff.mpr ⟨found, early⟩
      rw [none] at some
      cases some
    exact least j (by omega) passed
  · intro refused
    rw [Option.eq_none_iff_forall_ne_some]
    intro first some
    obtain ⟨found, early⟩ := earliest?_eq_some_iff.mp some
    obtain ⟨inside, passed, -⟩ := List.findIdx?_eq_some_iff_getElem.mp found
    rw [refused first inside early] at passed
    cases passed

theorem mnemonicProblem?_eq_none_iff {formats : List Format} {i : Nat} {f : Format}
    (named : f.mnemonic ≠ []) : f.mnemonicProblem? formats i = none ↔
      ∀ j, (inside : j < formats.length) → j < i → formats[j].mnemonic ≠ f.mnemonic := by
  have present : f.mnemonic.isEmpty = false := by simpa using named
  simp [mnemonicProblem?, present, earliest?_eq_none_iff]

theorem keyProblem?_eq_none_iff {formats : List Format} {i : Nat} {f : Format} :
    f.keyProblem? formats i = none ↔
      ∀ j, (inside : j < formats.length) → j < i → formats[j].key ≠ f.key := by
  have indexed : (earliest? (fun e => e.key == f.key) formats i).bind (formats[·]?) = none ↔
      earliest? (fun e => e.key == f.key) formats i = none := by
    rw [Option.bind_eq_none_iff]
    constructor
    · intro absent
      rw [Option.eq_none_iff_forall_ne_some]
      intro first some
      obtain ⟨inside, -⟩ := List.findIdx?_eq_some_iff_getElem.mp (earliest?_eq_some_iff.mp some).1
      have missing := absent first some
      rw [List.getElem?_eq_getElem inside] at missing
      cases missing
    · intro none first some
      rw [none] at some
      cases some
  rw [keyProblem?, Option.map_eq_none_iff, indexed, earliest?_eq_none_iff]
  simp

theorem problems_eq_nil_iff {formats : List Format} {i : Nat} {f : Format} :
    f.problems formats i = [] ↔
      f.mnemonic ≠ [] ∧ (∃ slots, f.fields.layout? = some slots) ∧ f.group ≤ maxGroup ∧
        (∀ j, (inside : j < formats.length) → j < i → formats[j].mnemonic ≠ f.mnemonic) ∧
        ∀ j, (inside : j < formats.length) → j < i → formats[j].key ≠ f.key := by
  have parts : f.problems formats i = [] ↔
      f.nameProblem? i = none ∧ f.layoutProblem? = none ∧ f.groupProblem? = none ∧
        f.mnemonicProblem? formats i = none ∧ f.keyProblem? formats i = none := by
    simp [problems, List.filterMap_eq_nil_iff]
  have name : f.nameProblem? i = none ↔ f.mnemonic ≠ [] := by simp [nameProblem?]
  have layout : f.layoutProblem? = none ↔ ∃ slots, f.fields.layout? = some slots := by
    rw [layoutProblem?, ← Option.isSome_iff_exists]
    cases f.fields.layout? <;> simp
  have group : f.groupProblem? = none ↔ f.group ≤ maxGroup := by simp [groupProblem?]
  rw [parts, name, layout, group, keyProblem?_eq_none_iff]
  constructor
  · rintro ⟨named, laidOut, grouped, mnemonic, key⟩
    exact ⟨named, laidOut, grouped, (mnemonicProblem?_eq_none_iff named).mp mnemonic, key⟩
  · rintro ⟨named, laidOut, grouped, mnemonic, key⟩
    exact ⟨named, laidOut, grouped, (mnemonicProblem?_eq_none_iff named).mpr mnemonic, key⟩

end Format

theorem nodup_map_iff {α β : Type} {l : List α} {g : α → β} :
    (l.map g).Nodup ↔ ∀ i, (last : i < l.length) → ∀ j, (first : j < l.length) → j < i → g l[j] ≠ g l[i] := by
  rw [List.Nodup, List.pairwise_map, List.pairwise_iff_getElem]
  constructor
  · intro differ i last j first before
    exact differ j i first last before
  · intro differ j i first last before
    exact differ i last j first before

theorem formatProblems_eq_nil_iff {formats : List Format} :
    (formats.zipIdx.flatMap fun (f, i) => f.problems formats i) = [] ↔ SoundFormats formats := by
  have each : (formats.zipIdx.flatMap fun (f, i) => f.problems formats i) = [] ↔
      ∀ i, (inside : i < formats.length) → formats[i].problems formats i = [] := by
    rw [List.flatMap_eq_nil_iff]
    exact forall_mem_zipIdx (P := fun f i => Format.problems formats i f = [])
  simp only [each, Format.problems_eq_nil_iff]
  constructor
  · intro none
    have member {f : Format} (among : f ∈ formats) := List.getElem_of_mem among
    refine ⟨?_, ?_, ?_, ?_, ?_⟩
    · intro f among
      obtain ⟨i, inside, rfl⟩ := member among
      exact (none i inside).1
    · intro f among
      obtain ⟨i, inside, rfl⟩ := member among
      exact (none i inside).2.1
    · intro f among
      obtain ⟨i, inside, rfl⟩ := member among
      exact (none i inside).2.2.1
    · exact nodup_map_iff.mpr fun i inside => (none i inside).2.2.2.1
    · exact nodup_map_iff.mpr fun i inside => (none i inside).2.2.2.2
  · intro sound i inside
    have among := List.getElem_mem inside
    exact ⟨sound.named _ among, sound.laidOut _ among, sound.grouped _ among,
      nodup_map_iff.mp sound.mnemonics i inside, nodup_map_iff.mp sound.keys i inside⟩

namespace Draft

theorem problems_eq_nil_iff {d : Draft} :
    d.problems = [] ↔ SoundNames d.registers ∧ SoundFormats d.formats := by
  rw [problems, List.append_eq_nil_iff, registerProblems_eq_nil_iff, formatProblems_eq_nil_iff]

theorem build_eq_ok_iff {d : Draft} {t : Table} :
    d.build = .ok t ↔ SoundNames d.registers ∧ SoundFormats d.formats ∧
      t = { name := d.name, formats := d.formats, registers := ⟨d.registers⟩ } := by
  unfold build
  cases faults : d.problems with
  | cons fault rest =>
    have unsound : ¬ (SoundNames d.registers ∧ SoundFormats d.formats) := by
      rw [← problems_eq_nil_iff, faults]
      simp
    simp only [reduceCtorEq, false_iff, ← and_assoc, not_and]
    exact fun sound => absurd sound unsound
  | nil =>
    obtain ⟨names, formats⟩ := problems_eq_nil_iff.mp faults
    simp only [Registers.ofNames_eq_ok_iff.mpr ⟨names, rfl⟩, names, formats, true_and, Except.ok.injEq]
    exact eq_comm

theorem build_eq_error_iff {d : Draft} {failure : Failure} :
    d.build = .error failure ↔ d.problems ≠ [] ∧ failure = { root := .problems d.problems } := by
  unfold build
  cases faults : d.problems with
  | cons fault rest => simp [eq_comm]
  | nil =>
    -- Names without a problem always make a register file.
    obtain ⟨names, -⟩ := problems_eq_nil_iff.mp faults
    simp [Registers.ofNames_eq_ok_iff.mpr ⟨names, rfl⟩]

end Draft

namespace Registers

/-- What a register file says of the names that it was made from. -/
structure Numbers (r : Registers) (names : List Text) : Prop where
  named : ∀ i : UInt8, (inside : i.toNat < names.length) → r.name i = .ok names[i.toNat]
  unnamed : ∀ i : UInt8, names.length ≤ i.toNat → r.name i = .error (r.outOfRange i)
  index_of_name : ∀ (i : UInt8) (name : Text), r.name i = .ok name → r.index? name = some i
  name_of_index : ∀ (i : UInt8) (name : Text), r.index? name = some i → r.name i = .ok name ∧ i < 32

theorem numbers_of_sound {names : List Text} (sound : SoundNames names) : Numbers ⟨names⟩ names := by
  constructor
  · intro i inside
    rw [name_eq_ok_iff, name?, List.getElem?_eq_getElem inside]
  · intro i outside
    rcases name_cases ⟨names⟩ i with ⟨inside, -⟩ | ⟨-, refused⟩
    · exact absurd inside (Nat.not_lt.mpr outside)
    · exact refused
  · intro i name named
    exact sound.index?_of_name? (name_eq_ok_iff.mp named)
  · intro i name found
    exact ⟨name_eq_ok_iff.mpr (sound.name?_of_index? found), sound.index?_small found⟩

/-- The two checks of register names agree. Names make no register file exactly if a draft with no
formats has a problem with them, and the fault is then the first that the draft reports. Names that
make one are numbered by it, each by its place. So the only failure to build a draft is its report. -/
theorem checks_agree (names : List Text) :
    let problems := ({ registers := names } : Draft).problems
    ((∃ fault, ofNames names = .error fault) ↔ problems ≠ []) ∧
      (∀ fault, ofNames names = .error fault ↔ problems.head? = some fault) ∧
      (∀ r, ofNames names = .ok r → r.Numbers names) ∧
      ∀ (name : Text) (formats : List Format) (failure : Failure),
        let d : Draft := { name, formats, registers := names }
        d.build = .error failure ↔ d.problems ≠ [] ∧ failure = { root := .problems d.problems } := by
  intro problems
  have only : problems = registerProblems names := by simp [problems, Draft.problems]
  have same (fault : Fault) : ofNames names = .error fault ↔ problems.head? = some fault := by
    rw [only]
    exact ofNames_eq_error_iff
  refine ⟨?_, same, ?_, ?_⟩
  · simp only [same, ← Option.isSome_iff_exists, List.isSome_head?, ne_eq]
  · intro r made
    obtain ⟨sound, rfl⟩ := ofNames_eq_ok_iff.mp made
    exact numbers_of_sound sound
  · intro name formats failure d
    exact Draft.build_eq_error_iff

end Registers

end TableAsm
