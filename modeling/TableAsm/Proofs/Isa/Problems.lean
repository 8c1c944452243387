import TableAsm.Proofs.Isa.Drafts

/-!
The report of a draft. A problem has a site: the number of registers, a register, or a check of a
format. The report lists the problems that there are in the order of their sites, each once, and
nothing else; where something is repeated, it names the earliest position of it.
-/
namespace TableAsm

inductive FormatCheck where
  | mnemonic
  | layout
  | group
  | mnemonicAgain
  | keyAgain

namespace FormatCheck

def all : List FormatCheck := [mnemonic, layout, group, mnemonicAgain, keyAgain]

def rank : FormatCheck → Nat
  | mnemonic => 0
  | layout => 1
  | group => 2
  | mnemonicAgain => 3
  | keyAgain => 4

theorem mem_all (check : FormatCheck) : check ∈ all := by
  cases check <;> simp [all]

theorem all_increasing : all.Pairwise fun a b => a.rank < b.rank := by
  simp [all, rank]

end FormatCheck

/-- Where a draft can have a problem. -/
inductive Site where
  | count
  | register (i : Nat)
  | format (i : Nat) (check : FormatCheck)

namespace Site

/-- The number of registers comes first, then the registers, then the formats. -/
def Before : Site → Site → Prop
  | count, count => False
  | count, _ => True
  | register i, register j => i < j
  | register _, format _ _ => True
  | format i a, format j b => i < j ∨ i = j ∧ a.rank < b.rank
  | _, _ => False

/-- Formats that share a key are ambiguous; any other problem makes the table invalid. -/
def kind : Site → Kind
  | format _ .keyAgain => .ambiguousEncoding
  | _ => .invalidTable

end Site

def FirstWith {α : Type} (l : List α) (P : α → Prop) (first : Nat) : Prop :=
  (∃ a, l[first]? = some a ∧ P a) ∧ ∀ j < first, ∀ a, l[j]? = some a → ¬ P a

theorem findIdx?_eq_some_iff_firstWith {α : Type} {l : List α} {p : α → Bool} {first : Nat} :
    l.findIdx? p = some first ↔ FirstWith l (fun a => p a = true) first := by
  rw [FirstWith, List.findIdx?_eq_some_iff_getElem]
  constructor
  · rintro ⟨inside, passed, before⟩
    refine ⟨⟨_, List.getElem?_eq_getElem inside, passed⟩, ?_⟩
    intro j early a found
    obtain ⟨_, rfl⟩ := List.getElem?_eq_some_iff.mp found
    exact before j early
  · rintro ⟨⟨a, found, passed⟩, before⟩
    obtain ⟨inside, rfl⟩ := List.getElem?_eq_some_iff.mp found
    refine ⟨inside, passed, ?_⟩
    intro j early
    exact before j early _ (List.getElem?_eq_getElem (by omega))

namespace Draft

/-- The problems of a draft, each at its site. -/
inductive HasProblem (d : Draft) : Site → Fault → Prop
  | tooMany (many : maxRegisters < d.registers.length) :
      HasProblem d .count (tooManyRegisters d.registers.length)
  | badName {i : Nat} {name : Text} {fault : Fault} (at_i : d.registers[i]? = some name)
      (flawed : registerNameFault? name = some fault) : HasProblem d (.register i) fault
  | nameAgain {i first : Nat} {name : Text} (at_i : d.registers[i]? = some name)
      (flawless : registerNameFault? name = none) (earlier : first < i)
      (earliest : FirstWith d.registers (· = name) first) :
      HasProblem d (.register i) (repeatedRegister name first i)
  | noMnemonic {i : Nat} {f : Format} (at_i : d.formats[i]? = some f) (empty : f.mnemonic = []) :
      HasProblem d (.format i .mnemonic)
        { kind := .invalidTable, message := "format " ++ Text.decimal i ++ " has no mnemonic" }
  | noLayout {i : Nat} {f : Format} (at_i : d.formats[i]? = some f) (none : f.fields.layout? = none) :
      HasProblem d (.format i .layout) (missingLayout f)
  | largeGroup {i : Nat} {f : Format} (at_i : d.formats[i]? = some f) (large : Format.maxGroup < f.group) :
      HasProblem d (.format i .group)
        { kind := .invalidTable
          token := f.mnemonic
          message := f.mnemonic ++ " uses opcode group " ++ Text.decimal f.group.toNat ++
            ", the group field holds at most " ++ Text.decimal Format.maxGroup.toNat }
  | mnemonicAgain {i first : Nat} {f : Format} (at_i : d.formats[i]? = some f) (named : f.mnemonic ≠ [])
      (earlier : first < i) (earliest : FirstWith d.formats (·.mnemonic = f.mnemonic) first) :
      HasProblem d (.format i .mnemonicAgain)
        { kind := .invalidTable
          token := f.mnemonic
          message := "mnemonic " ++ f.mnemonic ++ " defined by formats " ++ Text.decimal first ++
            " and " ++ Text.decimal i ++ "; each addressing form needs its own mnemonic" }
  | keyAgain {i first : Nat} {f holder : Format} (at_i : d.formats[i]? = some f) (earlier : first < i)
      (at_first : d.formats[first]? = some holder)
      (earliest : FirstWith d.formats (·.key = f.key) first) :
      HasProblem d (.format i .keyAgain)
        { kind := .ambiguousEncoding
          token := f.mnemonic
          message := holder.mnemonic ++ " and " ++ f.mnemonic ++ " share encoding " ++ f.key.text }

theorem HasProblem.kind {d : Draft} {site : Site} {fault : Fault} (problem : d.HasProblem site fault) :
    fault.kind = site.kind := by
  cases problem with
  | badName at_i flawed =>
    obtain ⟨flaw, -, rfl⟩ := Option.map_eq_some_iff.mp flawed
    rfl
  | _ => rfl

end Draft

theorem registerProblem?_eq_some_iff {names : List Text} {i : Nat} {name : Text} {fault : Fault} :
    registerProblem? names i name = some fault ↔
      registerNameFault? name = some fault ∨
        registerNameFault? name = none ∧
          ∃ first < i, FirstWith names (· = name) first ∧ fault = repeatedRegister name first i := by
  have positions (first : Nat) : names.idxOf? name = some first ↔ FirstWith names (· = name) first := by
    rw [List.idxOf?, findIdx?_eq_some_iff_firstWith]
    simp only [beq_iff_eq]
  simp only [← positions]
  unfold registerProblem?
  cases registerNameFault? name with
  | some flaw => simp
  | none =>
    cases names.idxOf? name with
    | none => simp
    | some first =>
      by_cases earlier : first < i
      · simp [earlier, eq_comm]
      · simp [earlier]

namespace Format

variable {formats : List Format} {i : Nat} {f : Format} {fault : Fault}

theorem earliest?_eq_some_iff_firstWith {passes : Format → Bool} {first : Nat} :
    earliest? passes formats i = some first ↔
      first < i ∧ FirstWith formats (fun e => passes e = true) first := by
  rw [earliest?_eq_some_iff, findIdx?_eq_some_iff_firstWith, and_comm]

theorem mnemonicProblem?_eq_some_iff :
    f.mnemonicProblem? formats i = some fault ↔
      f.mnemonic ≠ [] ∧ ∃ first < i, FirstWith formats (·.mnemonic = f.mnemonic) first ∧
        fault =
          { kind := .invalidTable
            token := f.mnemonic
            message := "mnemonic " ++ f.mnemonic ++ " defined by formats " ++ Text.decimal first ++
              " and " ++ Text.decimal i ++ "; each addressing form needs its own mnemonic" } := by
  by_cases empty : f.mnemonic = []
  · simp [mnemonicProblem?, empty]
  · have present : f.mnemonic.isEmpty = false := by simpa using empty
    simp only [mnemonicProblem?, present, Bool.false_eq_true, if_false, Option.map_eq_some_iff,
      earliest?_eq_some_iff_firstWith, beq_iff_eq, and_assoc, ne_eq, empty, not_false_eq_true, true_and]
    simp only [eq_comm]

theorem keyProblem?_eq_some_iff :
    f.keyProblem? formats i = some fault ↔
      ∃ first < i, FirstWith formats (·.key = f.key) first ∧
        ∃ holder, formats[first]? = some holder ∧ fault =
          { kind := .ambiguousEncoding
            token := f.mnemonic
            message := holder.mnemonic ++ " and " ++ f.mnemonic ++ " share encoding " ++ f.key.text } := by
  rw [keyProblem?, Option.map_eq_some_iff]
  simp only [Option.bind_eq_some_iff, earliest?_eq_some_iff_firstWith, beq_iff_eq]
  constructor
  · rintro ⟨holder, ⟨first, ⟨earlier, earliest⟩, at_first⟩, rfl⟩
    exact ⟨first, earlier, earliest, holder, at_first, rfl⟩
  · rintro ⟨first, earlier, earliest, holder, at_first, rfl⟩
    exact ⟨holder, ⟨first, ⟨earlier, earliest⟩, at_first⟩, rfl⟩

def problemOf? (formats : List Format) (i : Nat) (f : Format) : FormatCheck → Option Fault
  | .mnemonic => f.nameProblem? i
  | .layout => f.layoutProblem?
  | .group => f.groupProblem?
  | .mnemonicAgain => f.mnemonicProblem? formats i
  | .keyAgain => f.keyProblem? formats i

theorem problems_eq (formats : List Format) (i : Nat) (f : Format) :
    f.problems formats i = FormatCheck.all.filterMap (f.problemOf? formats i) := rfl

end Format

namespace Draft

variable {d : Draft}

def problemAt? (d : Draft) : Site → Option Fault
  | .count =>
    if maxRegisters < d.registers.length then some (tooManyRegisters d.registers.length) else none
  | .register i => d.registers[i]?.bind fun name => registerProblem? d.registers i name
  | .format i check => d.formats[i]?.bind fun f => f.problemOf? d.formats i check

theorem problemAt?_register {i : Nat} {fault : Fault} :
    d.problemAt? (.register i) = some fault ↔ d.HasProblem (.register i) fault := by
  simp only [problemAt?, Option.bind_eq_some_iff, registerProblem?_eq_some_iff]
  constructor
  · rintro ⟨name, at_i, flawed | ⟨flawless, first, earlier, earliest, rfl⟩⟩
    · exact .badName at_i flawed
    · exact .nameAgain at_i flawless earlier earliest
  · intro problem
    cases problem with
    | badName at_i flawed => exact ⟨_, at_i, .inl flawed⟩
    | nameAgain at_i flawless earlier earliest =>
      exact ⟨_, at_i, .inr ⟨flawless, _, earlier, earliest, rfl⟩⟩

theorem problemAt?_format {i : Nat} {check : FormatCheck} {fault : Fault} :
    d.problemAt? (.format i check) = some fault ↔ d.HasProblem (.format i check) fault := by
  simp only [problemAt?, Option.bind_eq_some_iff]
  cases check with
  | mnemonic =>
    simp only [Format.problemOf?, Format.nameProblem?, List.isEmpty_iff, Option.ite_none_right_eq_some]
    constructor
    · rintro ⟨f, at_i, empty, ⟨⟩⟩
      exact .noMnemonic at_i empty
    · intro problem
      cases problem with
      | noMnemonic at_i empty => exact ⟨_, at_i, empty, rfl⟩
  | layout =>
    simp only [Format.problemOf?, Format.layoutProblem?, Option.isNone_iff_eq_none,
      Option.ite_none_right_eq_some]
    constructor
    · rintro ⟨f, at_i, none, ⟨⟩⟩
      exact .noLayout at_i none
    · intro problem
      cases problem with
      | noLayout at_i none => exact ⟨_, at_i, none, rfl⟩
  | group =>
    simp only [Format.problemOf?, Format.groupProblem?, Option.ite_none_right_eq_some]
    constructor
    · rintro ⟨f, at_i, large, ⟨⟩⟩
      exact .largeGroup at_i large
    · intro problem
      cases problem with
      | largeGroup at_i large => exact ⟨_, at_i, large, rfl⟩
  | mnemonicAgain =>
    simp only [Format.problemOf?, Format.mnemonicProblem?_eq_some_iff]
    constructor
    · rintro ⟨f, at_i, named, first, earlier, earliest, rfl⟩
      exact .mnemonicAgain at_i named earlier earliest
    · intro problem
      cases problem with
      | mnemonicAgain at_i named earlier earliest =>
        exact ⟨_, at_i, named, _, earlier, earliest, rfl⟩
  | keyAgain =>
    simp only [Format.problemOf?, Format.keyProblem?_eq_some_iff]
    constructor
    · rintro ⟨f, at_i, first, earlier, earliest, holder, at_first, rfl⟩
      exact .keyAgain at_i earlier at_first earliest
    · intro problem
      cases problem with
      | keyAgain at_i earlier at_first earliest =>
        exact ⟨_, at_i, _, earlier, earliest, _, at_first, rfl⟩

theorem problemAt?_eq_some_iff {site : Site} {fault : Fault} :
    d.problemAt? site = some fault ↔ d.HasProblem site fault := by
  cases site with
  | count =>
    simp only [problemAt?, Option.ite_none_right_eq_some]
    constructor
    · rintro ⟨many, ⟨⟩⟩
      exact .tooMany many
    · rintro ⟨many⟩
      exact ⟨many, rfl⟩
  | register i => exact problemAt?_register
  | format i check => exact problemAt?_format

def sites (d : Draft) : List Site :=
  .count :: (d.registers.zipIdx.map fun entry => .register entry.2) ++
    d.formats.zipIdx.flatMap fun entry => FormatCheck.all.map (.format entry.2)

theorem problems_eq_filterMap (d : Draft) : d.problems = d.sites.filterMap d.problemAt? := by
  have count : [Site.count].filterMap d.problemAt? =
      if maxRegisters < d.registers.length then [tooManyRegisters d.registers.length] else [] := by
    by_cases many : maxRegisters < d.registers.length <;> simp [problemAt?, many]
  have registers : (d.registers.zipIdx.map fun entry => Site.register entry.2).filterMap d.problemAt? =
      d.registers.zipIdx.filterMap fun entry => registerProblem? d.registers entry.2 entry.1 := by
    rw [List.filterMap_map]
    apply List.filterMap_congr
    rintro ⟨name, i⟩ entry
    have at_i := List.mk_mem_zipIdx_iff_getElem?.mp entry
    simp [problemAt?, at_i]
  have formats : (d.formats.zipIdx.flatMap fun entry =>
        FormatCheck.all.map (Site.format entry.2)).filterMap d.problemAt? =
      d.formats.zipIdx.flatMap fun entry => entry.1.problems d.formats entry.2 := by
    rw [List.filterMap_flatMap]
    apply List.flatMap_congr
    rintro ⟨f, i⟩ entry
    have at_i := List.mk_mem_zipIdx_iff_getElem?.mp entry
    simp only [List.filterMap_map, Format.problems_eq]
    apply List.filterMap_congr
    intro check _
    simp [problemAt?, at_i]
  rw [sites, ← List.singleton_append, List.append_assoc, List.filterMap_append, List.filterMap_append,
    count, registers, formats, ← List.append_assoc]
  rfl

theorem zipIdx_increasing {α : Type} (l : List α) :
    l.zipIdx.Pairwise fun earlier later => earlier.2 < later.2 := by
  have indices : (l.zipIdx.map Prod.snd).Pairwise (· < ·) := by
    rw [List.zipIdx_map_snd]
    exact List.pairwise_lt_range'
  exact List.pairwise_map.mp indices

theorem formatSites_increasing {α : Type} (l : List α) :
    (l.zipIdx.flatMap fun entry => FormatCheck.all.map (Site.format entry.2)).Pairwise Site.Before := by
  rw [List.pairwise_flatMap]
  refine ⟨?_, ?_⟩
  · intro entry _
    rw [List.pairwise_map]
    exact FormatCheck.all_increasing.imp fun before => .inr ⟨rfl, before⟩
  · refine (zipIdx_increasing l).imp ?_
    intro earlier later before first among second within
    obtain ⟨_, -, rfl⟩ := List.mem_map.mp among
    obtain ⟨_, -, rfl⟩ := List.mem_map.mp within
    exact .inl before

theorem sites_increasing (d : Draft) : d.sites.Pairwise Site.Before := by
  have registers : (d.registers.zipIdx.map fun entry => Site.register entry.2).Pairwise Site.Before :=
    List.pairwise_map.mpr (zipIdx_increasing d.registers)
  have formats := formatSites_increasing d.formats
  rw [sites, List.cons_append, List.pairwise_cons, List.pairwise_append]
  refine ⟨?_, registers, formats, ?_⟩
  · intro site member
    rcases List.mem_append.mp member with among | among
    · obtain ⟨_, -, rfl⟩ := List.mem_map.mp among
      trivial
    · obtain ⟨_, -, within⟩ := List.mem_flatMap.mp among
      obtain ⟨_, -, rfl⟩ := List.mem_map.mp within
      trivial
  · intro first among second within
    obtain ⟨_, -, rfl⟩ := List.mem_map.mp among
    obtain ⟨_, -, within⟩ := List.mem_flatMap.mp within
    obtain ⟨_, -, rfl⟩ := List.mem_map.mp within
    trivial

theorem HasProblem.mem_sites {site : Site} {fault : Fault} (problem : d.HasProblem site fault) :
    site ∈ d.sites := by
  have register {i : Nat} {name : Text} (at_i : d.registers[i]? = some name) : .register i ∈ d.sites := by
    have entry := List.mk_mem_zipIdx_iff_getElem?.mpr at_i
    simp only [sites, List.cons_append, List.mem_cons, List.mem_append]
    exact .inr (.inl (List.mem_map.mpr ⟨_, entry, rfl⟩))
  have format {i : Nat} {f : Format} (at_i : d.formats[i]? = some f) (check : FormatCheck) :
      .format i check ∈ d.sites := by
    have entry := List.mk_mem_zipIdx_iff_getElem?.mpr at_i
    simp only [sites, List.cons_append, List.mem_cons, List.mem_append]
    exact .inr (.inr (List.mem_flatMap.mpr ⟨_, entry, List.mem_map.mpr ⟨check, check.mem_all, rfl⟩⟩))
  cases problem with
  | tooMany many => exact List.mem_cons_self
  | badName at_i | nameAgain at_i => exact register at_i
  | noMnemonic at_i | noLayout at_i | largeGroup at_i | mnemonicAgain at_i | keyAgain at_i =>
    exact format at_i _

/-- The report of a draft. It is empty exactly if names and formats are sound. It lists just the
problems that the draft has, each once, in the order of their sites; the kind of a problem is that of
its site. -/
theorem problems_exact (d : Draft) :
    (d.problems = [] ↔ SoundNames d.registers ∧ SoundFormats d.formats) ∧
      ∃ entries : List (Site × Fault),
        d.problems = entries.map Prod.snd ∧
        entries.Pairwise (fun earlier later => earlier.1.Before later.1) ∧
        ∀ site fault, ((site, fault) ∈ entries ↔ d.HasProblem site fault) ∧
          (d.HasProblem site fault → fault.kind = site.kind) := by
  refine ⟨problems_eq_nil_iff, d.sites.filterMap fun site => (d.problemAt? site).map (site, ·), ?_, ?_, ?_⟩
  · rw [problems_eq_filterMap, List.map_filterMap]
    simp only [Option.map_map, Function.comp_def, Option.map_id']
  · rw [List.pairwise_filterMap]
    refine d.sites_increasing.imp ?_
    intro first second before earlier left later right
    obtain ⟨_, -, rfl⟩ := Option.map_eq_some_iff.mp left
    obtain ⟨_, -, rfl⟩ := Option.map_eq_some_iff.mp right
    exact before
  · intro site fault
    refine ⟨?_, HasProblem.kind⟩
    rw [List.mem_filterMap]
    constructor
    · rintro ⟨other, -, found⟩
      obtain ⟨_, found, ⟨⟩⟩ := Option.map_eq_some_iff.mp found
      exact problemAt?_eq_some_iff.mp found
    · intro problem
      exact ⟨site, problem.mem_sites, by rw [problemAt?_eq_some_iff.mpr problem, Option.map_some]⟩

end Draft

end TableAsm
