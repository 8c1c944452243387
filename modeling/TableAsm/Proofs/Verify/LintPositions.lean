import TableAsm.Proofs.Isa.Problems
import TableAsm.Proofs.Text.Numerals
import TableAsm.Proofs.Text.Splitting
import TableAsm.Proofs.Verify.Lints

/-!
Positions in a lint. A document is linted in two stages: its field lists are parsed, and the formats
of those that parse are checked as a draft. An issue about a field list gives the position of its
entry in the document. An issue about a format gives its position among the formats that parse, which
falls behind by one for each entry before it that does not. The two agree in every issue if and only if
no such entry stands before a format that an issue names by number.
-/
namespace TableAsm

theorem zipIdx_filterMap {α β : Type} (f : α → Option β) (l : List α) :
    (l.filterMap f).zipIdx =
      l.zipIdx.filterMap fun entry => (f entry.1).map (·, ((l.take entry.2).filterMap f).length) := by
  induction l using List.reverseRecOn with
  | nil => rfl
  | append_singleton front a ih =>
    have same : front.zipIdx.filterMap
          (fun entry => (f entry.1).map (·, (((front ++ [a]).take entry.2).filterMap f).length)) =
        (front.filterMap f).zipIdx := by
      rw [ih]
      apply List.filterMap_congr
      rintro ⟨b, i⟩ entry
      obtain ⟨inside, -⟩ := List.getElem?_eq_some_iff.mp (List.mk_mem_zipIdx_iff_getElem?.mp entry)
      rw [List.take_append_of_le_length inside.le]
    rw [List.filterMap_append, List.zipIdx_append, List.zipIdx_append, List.filterMap_append, same]
    congr 1
    cases found : f a <;> simp [found]

namespace Document

variable {d : Document}

/-- The format of the entry at a position, if its field list parses. -/
def formatAt? (d : Document) (i : Nat) : Option Format :=
  d.formats[i]?.bind fun e => e.format.toOption

def parsed (d : Document) : List Format := d.formats.filterMap fun e => e.format.toOption

/-- The number of entries before a position that parse. -/
def parsedBefore (d : Document) (i : Nat) : Nat :=
  ((d.formats.take i).filterMap fun e => e.format.toOption).length

theorem parsedBefore_succ (d : Document) (i : Nat) :
    d.parsedBefore (i + 1) = d.parsedBefore i + if d.formatAt? i = none then 0 else 1 := by
  rw [parsedBefore, List.take_add_one, List.filterMap_append, List.length_append, ← parsedBefore, formatAt?]
  congr 1
  cases d.formats[i]? with
  | none => rfl
  | some e => cases found : e.format.toOption <;> simp [found]

theorem parsedBefore_le (d : Document) (i : Nat) : d.parsedBefore i ≤ i := by
  induction i with
  | zero => rfl
  | succ i ih =>
    rw [parsedBefore_succ]
    split <;> omega

theorem parsedBefore_mono (d : Document) : Monotone d.parsedBefore := by
  apply monotone_nat_of_le_succ
  intro i
  rw [parsedBefore_succ]
  omega

theorem parsedBefore_lt {i j : Nat} {f : Format} (at_i : d.formatAt? i = some f) :
    d.parsedBefore i < d.parsedBefore j ↔ i < j := by
  constructor
  · intro less
    by_contra late
    exact Nat.not_lt.mpr (d.parsedBefore_mono (Nat.not_lt.mp late)) less
  · intro before
    have next : d.parsedBefore (i + 1) = d.parsedBefore i + 1 := by simp [parsedBefore_succ, at_i]
    have more : d.parsedBefore (i + 1) ≤ d.parsedBefore j := d.parsedBefore_mono before
    omega

theorem parsedBefore_eq_self_iff {i : Nat} :
    d.parsedBefore i = i ↔ ∀ j < i, d.formatAt? j ≠ none := by
  induction i with
  | zero => simp [parsedBefore]
  | succ i ih =>
    have few := d.parsedBefore_le i
    rw [parsedBefore_succ, Nat.forall_lt_succ_right, ← ih]
    by_cases missing : d.formatAt? i = none
    · simp only [missing, if_true, ne_eq, not_true_eq_false, and_false, iff_false]
      omega
    · simp [missing]

theorem parsed_eq_some_iff {k : Nat} {f : Format} :
    d.parsed[k]? = some f ↔ ∃ i, d.formatAt? i = some f ∧ d.parsedBefore i = k := by
  constructor
  · intro found
    obtain ⟨inside, rfl⟩ := List.getElem?_eq_some_iff.mp found
    have cut : d.parsed = d.parsed.take k ++ d.parsed[k] :: d.parsed.drop (k + 1) := by simp
    -- Entries that do not parse may stand between the format before this one and its own entry.
    obtain ⟨front, rest, whole, before, after⟩ := List.filterMap_eq_append_iff.mp cut
    obtain ⟨skipped, e, back, rfl, unparsed, here, -⟩ := List.filterMap_eq_cons_iff.mp after
    rw [← List.append_assoc] at whole
    refine ⟨(front ++ skipped).length, ?_, ?_⟩
    · rw [formatAt?, whole, List.getElem?_append_right (Nat.le_refl _), Nat.sub_self]
      exact here
    · rw [parsedBefore, whole, List.take_left, List.filterMap_append, before,
        List.filterMap_eq_nil_iff.mpr unparsed, List.append_nil, List.length_take_of_le inside.le]
  · rintro ⟨i, at_i, rfl⟩
    obtain ⟨e, found, here⟩ := Option.bind_eq_some_iff.mp at_i
    obtain ⟨inside, rfl⟩ := List.getElem?_eq_some_iff.mp found
    have split : d.parsed =
        (d.formats.take i).filterMap (fun e => e.format.toOption) ++
          f :: (d.formats.drop (i + 1)).filterMap fun e => e.format.toOption := by
      have whole : d.formats = d.formats.take i ++ d.formats[i] :: d.formats.drop (i + 1) := by simp
      nth_rewrite 1 [parsed, whole]
      rw [List.filterMap_append, List.filterMap_cons]
      simp only [here]
    rw [split, parsedBefore, List.getElem?_append_right (Nat.le_refl _), Nat.sub_self,
      List.getElem?_cons_zero]

/-- The format at the position parses and has a property, and none before it has. -/
def FirstFormat (d : Document) (P : Format → Prop) (first : Nat) : Prop :=
  (∃ f, d.formatAt? first = some f ∧ P f) ∧ ∀ j < first, ∀ f, d.formatAt? j = some f → ¬ P f

theorem firstWith_parsed {P : Format → Prop} {k : Nat} :
    FirstWith d.parsed P k ↔ ∃ first, d.FirstFormat P first ∧ d.parsedBefore first = k := by
  constructor
  · rintro ⟨⟨f, found, holds⟩, before⟩
    obtain ⟨first, at_first, rfl⟩ := parsed_eq_some_iff.mp found
    refine ⟨first, ⟨⟨f, at_first, holds⟩, ?_⟩, rfl⟩
    intro j early g at_j
    exact before _ ((parsedBefore_lt at_j).mpr early) g (parsed_eq_some_iff.mpr ⟨j, at_j, rfl⟩)
  · rintro ⟨first, ⟨⟨f, at_first, holds⟩, before⟩, rfl⟩
    refine ⟨⟨f, parsed_eq_some_iff.mpr ⟨first, at_first, rfl⟩, holds⟩, ?_⟩
    intro k early g found
    obtain ⟨j, at_j, rfl⟩ := parsed_eq_some_iff.mp found
    exact before j ((parsedBefore_lt at_j).mp early) g at_j

/-- What is wrong with the formats that parse, at their positions in the document, in words that give
each position a number. -/
inductive Complaint (d : Document) (number : Nat → Nat) : Site → Fault → Prop
  | noMnemonic {i : Nat} {f : Format} (at_i : d.formatAt? i = some f) (empty : f.mnemonic = []) :
      Complaint d number (.format i .mnemonic)
        { kind := .invalidTable, message := "format " ++ Text.decimal (number i) ++ " has no mnemonic" }
  | noLayout {i : Nat} {f : Format} (at_i : d.formatAt? i = some f) (none : f.fields.layout? = none) :
      Complaint d number (.format i .layout) (missingLayout f)
  | largeGroup {i : Nat} {f : Format} (at_i : d.formatAt? i = some f) (large : Format.maxGroup < f.group) :
      Complaint d number (.format i .group)
        { kind := .invalidTable
          token := f.mnemonic
          message := f.mnemonic ++ " uses opcode group " ++ Text.decimal f.group.toNat ++
            ", the group field holds at most " ++ Text.decimal Format.maxGroup.toNat }
  | mnemonicAgain {i first : Nat} {f : Format} (at_i : d.formatAt? i = some f) (named : f.mnemonic ≠ [])
      (earlier : first < i) (earliest : d.FirstFormat (·.mnemonic = f.mnemonic) first) :
      Complaint d number (.format i .mnemonicAgain)
        { kind := .invalidTable
          token := f.mnemonic
          message := "mnemonic " ++ f.mnemonic ++ " defined by formats " ++ Text.decimal (number first) ++
            " and " ++ Text.decimal (number i) ++ "; each addressing form needs its own mnemonic" }
  | keyAgain {i first : Nat} {f holder : Format} (at_i : d.formatAt? i = some f) (earlier : first < i)
      (at_first : d.formatAt? first = some holder)
      (earliest : d.FirstFormat (·.key = f.key) first) :
      Complaint d number (.format i .keyAgain)
        { kind := .ambiguousEncoding
          token := f.mnemonic
          message := holder.mnemonic ++ " and " ++ f.mnemonic ++ " share encoding " ++ f.key.text }

/-- The problems of the formats that parse, as those of a draft, are complaints that number them among
themselves. -/
theorem complaint_parsedBefore_iff {i : Nat} {check : FormatCheck} {fault : Fault} :
    d.Complaint d.parsedBefore (.format i check) fault ↔
      d.formatAt? i ≠ none ∧
        ({ formats := d.parsed } : Draft).HasProblem (.format (d.parsedBefore i) check) fault := by
  have found {i : Nat} {f : Format} (at_i : d.formatAt? i = some f) :
      d.parsed[d.parsedBefore i]? = some f := parsed_eq_some_iff.mpr ⟨i, at_i, rfl⟩
  constructor
  · intro complaint
    cases complaint with
    | noMnemonic at_i empty => exact ⟨by simp [at_i], .noMnemonic (found at_i) empty⟩
    | noLayout at_i none => exact ⟨by simp [at_i], .noLayout (found at_i) none⟩
    | largeGroup at_i large => exact ⟨by simp [at_i], .largeGroup (found at_i) large⟩
    | mnemonicAgain at_i named earlier earliest =>
      obtain ⟨g, at_first, -⟩ := earliest.1
      exact ⟨by simp [at_i], .mnemonicAgain (found at_i) named ((parsedBefore_lt at_first).mpr earlier)
        (firstWith_parsed.mpr ⟨_, earliest, rfl⟩)⟩
    | keyAgain at_i earlier at_first earliest =>
      exact ⟨by simp [at_i], .keyAgain (found at_i) ((parsedBefore_lt at_first).mpr earlier)
        (found at_first) (firstWith_parsed.mpr ⟨_, earliest, rfl⟩)⟩
  · rintro ⟨parses, problem⟩
    obtain ⟨f, at_i⟩ := Option.ne_none_iff_exists'.mp parses
    have same {g : Format} (at_k : d.parsed[d.parsedBefore i]? = some g) : d.formatAt? i = some g := by
      rw [at_i, ← found at_i, at_k]
    cases problem with
    | noMnemonic at_k empty => exact .noMnemonic (same at_k) empty
    | noLayout at_k none => exact .noLayout (same at_k) none
    | largeGroup at_k large => exact .largeGroup (same at_k) large
    | mnemonicAgain at_k named earlier earliest =>
      obtain ⟨first, least, rfl⟩ := firstWith_parsed.mp earliest
      obtain ⟨g, at_first, -⟩ := least.1
      exact .mnemonicAgain (same at_k) named ((parsedBefore_lt at_first).mp earlier) least
    | keyAgain at_k earlier at_holder earliest =>
      obtain ⟨first, least, rfl⟩ := firstWith_parsed.mp earliest
      obtain ⟨g, at_first, -⟩ := least.1
      obtain rfl : g = _ := Option.some.inj ((found at_first).symm.trans at_holder)
      exact .keyAgain (same at_k) ((parsedBefore_lt at_first).mp earlier) at_first least

def complaintAt? (d : Document) : Site → Option Fault
  | .format i check => (d.formatAt? i).bind fun f => f.problemOf? d.parsed (d.parsedBefore i) check
  | _ => none

theorem complaintAt?_eq_some_iff {site : Site} {fault : Fault} :
    d.complaintAt? site = some fault ↔ d.Complaint d.parsedBefore site fault := by
  cases site with
  | count | register i => exact iff_of_false (by simp [complaintAt?]) fun complaint => nomatch complaint
  | format i check =>
    rw [complaint_parsedBefore_iff, ← Draft.problemAt?_format, complaintAt?, Draft.problemAt?]
    cases at_i : d.formatAt? i with
    | none => simp
    | some f => simp [parsed_eq_some_iff.mpr ⟨i, at_i, rfl⟩]

def formatSites (d : Document) : List Site :=
  d.formats.zipIdx.flatMap fun entry => FormatCheck.all.map (.format entry.2)

theorem Complaint.mem_formatSites {number : Nat → Nat} {site : Site} {fault : Fault}
    (complaint : d.Complaint number site fault) : site ∈ d.formatSites := by
  have inside {i : Nat} {f : Format} (at_i : d.formatAt? i = some f) (check : FormatCheck) :
      .format i check ∈ d.formatSites := by
    obtain ⟨e, found, -⟩ := Option.bind_eq_some_iff.mp at_i
    have entry := List.mk_mem_zipIdx_iff_getElem?.mpr found
    exact List.mem_flatMap.mpr ⟨_, entry, List.mem_map.mpr ⟨check, check.mem_all, rfl⟩⟩
  cases complaint with
  | noMnemonic at_i | noLayout at_i | largeGroup at_i | mnemonicAgain at_i | keyAgain at_i =>
    exact inside at_i _

theorem parsed_problems (d : Document) :
    d.parsed.zipIdx.flatMap (fun entry => entry.1.problems d.parsed entry.2) =
      d.formatSites.filterMap d.complaintAt? := by
  have numbered := zipIdx_filterMap (fun e : FormatEntry => e.format.toOption) d.formats
  rw [← parsed] at numbered
  rw [numbered, formatSites, List.filterMap_flatMap, List.filterMap_eq_flatMap_toList, List.flatMap_assoc]
  apply List.flatMap_congr
  rintro ⟨e, i⟩ entry
  have at_i := List.mk_mem_zipIdx_iff_getElem?.mp entry
  simp only [List.filterMap_map, Function.comp_def, complaintAt?, formatAt?, at_i, Option.bind_some]
  cases e.format.toOption with
  | none => simp
  | some f => simp [Format.problems_eq, parsedBefore]

theorem lint_complaints (d : Document) :
    d.lint = listIssues 0 d.formats ++ lintDraft { registers := d.registers } ++
      (d.formatSites.filterMap d.complaintAt?).map fun fault => Issue.ofFailure .table (.ofFault fault) := by
  rw [lint_eq, ← parsed, ← parsed_problems, List.append_assoc, lintDraft, lintDraft, ← List.map_append]
  simp [Draft.problems]

theorem lint_entries (d : Document) :
    ∃ entries : List (Site × Fault),
      d.lint = listIssues 0 d.formats ++ lintDraft { registers := d.registers } ++
        entries.map (fun entry => Issue.ofFailure .table (.ofFault entry.2)) ∧
      entries.Pairwise (fun earlier later => earlier.1.Before later.1) ∧
      ∀ site fault, (site, fault) ∈ entries ↔ d.Complaint d.parsedBefore site fault := by
  refine ⟨d.formatSites.filterMap fun site => (d.complaintAt? site).map (site, ·), ?_, ?_, ?_⟩
  · rw [lint_complaints, List.map_filterMap, List.map_filterMap]
    simp only [Option.map_map, Function.comp_def]
  · rw [List.pairwise_filterMap]
    refine (Draft.formatSites_increasing d.formats).imp ?_
    intro first second before earlier left later right
    obtain ⟨_, -, rfl⟩ := Option.map_eq_some_iff.mp left
    obtain ⟨_, -, rfl⟩ := Option.map_eq_some_iff.mp right
    exact before
  · intro site fault
    rw [← complaintAt?_eq_some_iff, List.mem_filterMap]
    constructor
    · rintro ⟨_, -, found⟩
      obtain ⟨_, found, ⟨⟩⟩ := Option.map_eq_some_iff.mp found
      exact found
    · intro found
      exact ⟨site, (complaintAt?_eq_some_iff.mp found).mem_formatSites, by rw [found, Option.map_some]⟩

/-- The entry parses, and what is wrong with it is said with its number: it has no mnemonic, or that
of an earlier format. -/
def Numbered (d : Document) (i : Nat) : Prop :=
  ∃ f, d.formatAt? i = some f ∧
    (f.mnemonic = [] ∨ ∃ first < i, d.FirstFormat (·.mnemonic = f.mnemonic) first)

theorem Complaint.renumber {number other : Nat → Nat}
    (agree : ∀ i, d.Numbered i → ∀ j ≤ i, number j = other j) {site : Site} {fault : Fault}
    (complaint : d.Complaint number site fault) : d.Complaint other site fault := by
  cases complaint with
  | @noMnemonic i f at_i empty =>
    rw [agree i ⟨f, at_i, .inl empty⟩ i (Nat.le_refl i)]
    exact .noMnemonic at_i empty
  | noLayout at_i none => exact .noLayout at_i none
  | largeGroup at_i large => exact .largeGroup at_i large
  | @mnemonicAgain i first f at_i named earlier earliest =>
    have same := agree i ⟨f, at_i, .inr ⟨first, earlier, earliest⟩⟩
    rw [same i (Nat.le_refl i), same first earlier.le]
    exact .mnemonicAgain at_i named earlier earliest
  | keyAgain at_i earlier at_first earliest => exact .keyAgain at_i earlier at_first earliest

theorem decimal_pair_inj {first second first' second' : Nat}
    (same : Text.decimal first ++ " and " ++ Text.decimal second =
      Text.decimal first' ++ " and " ++ Text.decimal second') :
    first = first' ∧ second = second' := by
  have plain (n : Nat) : Text.space ∉ Text.decimal n := by
    intro member
    exact absurd (Text.isDigit_of_mem_decimal member) (by decide)
  have and : (" and " : Text) = Text.space :: "and " := by decide
  rw [and, List.append_assoc, List.append_assoc] at same
  have parts := congrArg (Text.splitAt Text.space) same
  rw [List.cons_append, List.cons_append, Text.splitAt_line (plain first), Text.splitAt_line (plain first')]
    at parts
  have left := (List.cons.inj parts).1
  rw [left] at same
  exact ⟨Text.decimal_injective left,
    Text.decimal_injective (List.append_cancel_left (List.append_cancel_left same))⟩

section

variable {number : Nat → Nat} {i : Nat} {fault : Fault}

theorem Complaint.noMnemonic_message (complaint : d.Complaint number (.format i .mnemonic) fault) :
    fault.message = "format " ++ Text.decimal (number i) ++ " has no mnemonic" := by
  cases complaint
  rfl

theorem Complaint.mnemonicAgain_message (complaint : d.Complaint number (.format i .mnemonicAgain) fault) :
    ∃ f first, d.formatAt? i = some f ∧
      fault.message = "mnemonic " ++ f.mnemonic ++ " defined by formats " ++
        Text.decimal (number first) ++ " and " ++ Text.decimal (number i) ++
        "; each addressing form needs its own mnemonic" := by
  cases complaint with
  | mnemonicAgain at_i named earlier earliest => exact ⟨_, _, at_i, rfl⟩

theorem number_eq_of_complaints {other : Nat → Nat}
    (same : ∀ site fault, d.Complaint number site fault → d.Complaint other site fault)
    (numbered : d.Numbered i) : number i = other i := by
  obtain ⟨f, at_i, cause⟩ := numbered
  by_cases empty : f.mnemonic = []
  · have message := (same _ _ (.noMnemonic at_i empty)).noMnemonic_message
    exact Text.decimal_injective (List.append_cancel_left (List.append_cancel_right message))
  · obtain ⟨first, earlier, earliest⟩ := cause.resolve_left empty
    obtain ⟨g, first', at_i', message⟩ :=
      (same _ _ (.mnemonicAgain at_i empty earlier earliest)).mnemonicAgain_message
    cases at_i.symm.trans at_i'
    -- The words before and behind the two numbers are the same.
    simp only [List.append_assoc] at message
    have pair := List.append_cancel_left (List.append_cancel_left (List.append_cancel_left message))
    simp only [← List.append_assoc] at pair
    exact (decimal_pair_inj (List.append_cancel_right pair)).2

end

/-- Numbers and positions agree in all complaints just if everything parses that stands before a format
whose number is given. -/
theorem complaints_agree_iff :
    (∀ site fault, d.Complaint d.parsedBefore site fault ↔ d.Complaint id site fault) ↔
      ∀ i, d.Numbered i → ∀ j < i, d.formatAt? j ≠ none := by
  constructor
  · intro same i numbered
    exact parsedBefore_eq_self_iff.mp
      (number_eq_of_complaints (fun site fault => (same site fault).mp) numbered)
  · intro settled site fault
    have agree : ∀ i, d.Numbered i → ∀ j ≤ i, d.parsedBefore j = id j := by
      intro i numbered j within
      exact parsedBefore_eq_self_iff.mpr fun k before => settled i numbered k (by omega)
    exact ⟨.renumber agree, .renumber fun i numbered j within => (agree i numbered j within).symm⟩

/-- The lint of a document lists, behind the issues of its field lists and its registers, just what is
wrong with the formats that parse, in their order; it numbers them by how many before them parse. That
number is the position in the document just if all before it parse, and so the lint says what the
positions would say exactly if nothing before a format that is named by its number fails to parse. -/
theorem lint_positions (d : Document) :
    (∃ entries : List (Site × Fault),
        d.lint = listIssues 0 d.formats ++ lintDraft { registers := d.registers } ++
          entries.map (fun entry => Issue.ofFailure .table (.ofFault entry.2)) ∧
        entries.Pairwise (fun earlier later => earlier.1.Before later.1) ∧
        ∀ site fault, (site, fault) ∈ entries ↔ d.Complaint d.parsedBefore site fault) ∧
      (∀ i, d.parsedBefore i = i ↔ ∀ j < i, d.formatAt? j ≠ none) ∧
      ((∀ site fault, d.Complaint d.parsedBefore site fault ↔ d.Complaint id site fault) ↔
        ∀ i, d.Numbered i → ∀ j < i, d.formatAt? j ≠ none) :=
  ⟨d.lint_entries, fun _ => parsedBefore_eq_self_iff, complaints_agree_iff⟩

/-- One entry does not parse, and the formats behind it are named by positions that are not theirs. -/
theorem lint_position_behind :
    let d : Document :=
      { registers := ["R0"]
        formats := [{ mnemonic := "BAD", fields := "XX", opcode := 1 }, { fields := "IMM", opcode := 2 },
          { mnemonic := "A", fields := "NONE", opcode := 3 }, { mnemonic := "A", fields := "RS1", opcode := 4 }] }
    (d.formatAt? 1).map Format.mnemonic = some [] ∧
      (d.formatAt? 2).map Format.mnemonic = some "A" ∧ (d.formatAt? 3).map Format.mnemonic = some "A" ∧
      d.lint.map Issue.message =
        ["format 0 (BAD): unknown field \"XX\" in \"XX\"", "format 0 has no mnemonic",
          "mnemonic A defined by formats 1 and 2; each addressing form needs its own mnemonic"] := by
  decide +kernel

end Document

end TableAsm
