import TableAsm.Proofs.Fault.Positions
import TableAsm.Proofs.Stream.Runs
import TableAsm.Proofs.Verify.CanonicalWords
import TableAsm.Proofs.Word.StrayBits

/-!
The check of a stream against its disassembly, for any table. Both take the same words at the same
offsets. The disassembler stops at the first word that does not decode, or at a rest that is no word;
the check goes on, and the first of its issues that has a kind is the failure of the disassembler.
Its issues without a kind are the words with a bit outside the fields that their masks name.
-/
namespace TableAsm

def Issue.hasKind (issue : Issue) : Bool := issue.kind.isSome

namespace Table

variable {t : Table}

theorem wordIssue?_of_error (offset : Nat) {word : Word} {failure : Failure}
    (refused : t.decodeWord word = .error failure) :
    ∃ issue fault, t.wordIssue? offset word = some issue ∧ DecodingFault failure fault ∧
      issue.offset = offset ∧ issue.kind = some fault.kind := by
  obtain ⟨fault, found⟩ := decodeWord_fault refused
  have kind : (Issue.ofFailure .word failure).kind = some fault.kind := by
    rw [Issue.ofFailure, found.1]
  unfold wordIssue?
  rw [refused]
  exact ⟨_, fault, rfl, found, rfl, kind⟩

theorem wordIssue?_of_ok (offset : Nat) {word : Word} {decoded : Decoded}
    (ok : t.decodeWord word = .ok decoded) :
    t.wordIssue? offset word = none ∧ word.canonical = word ∨
      ∃ issue, t.wordIssue? offset word = some issue ∧ word.canonical ≠ word ∧
        issue.offset = offset ∧ issue.kind = none := by
  cases found : t.wordIssue? offset word with
  | none => exact .inl ⟨rfl, (wordIssue?_eq_none_iff.mp found).2⟩
  | some issue =>
    have stray : word.canonical ≠ word := by
      intro same
      rw [wordIssue?_eq_none_iff.mpr ⟨⟨decoded, ok⟩, same⟩] at found
      cases found
    refine .inr ⟨issue, rfl, stray, ?_⟩
    simp only [wordIssue?, ok] at found
    split at found
    · cases found
    · cases found
      exact ⟨rfl, rfl⟩

def restIssue (offset : Nat) (left : Text) : List Issue :=
  if left.isEmpty then [] else [trailingIssue offset left.length]

def streamIssues (t : Table) (left : Text) (offset : Nat) (words : List Word) : List Issue :=
  t.wordIssuesFrom offset words ++ restIssue (offset + wordSize * words.length) left

theorem checkWords_eq (t : Table) (bytes : Text) :
    t.checkWords { bytes } = (t.streamIssues (frames bytes).2 0 (frames bytes).1, none) := by
  simp only [checkWords, streamIssues, restIssue, wordEnd, Nat.zero_add, Nat.mul_comm wordSize]
  cases (frames bytes).2 with
  | nil => simp
  | cons b left => rfl

theorem streamIssues_cons (left : Text) (offset : Nat) (word : Word) (rest : List Word) :
    t.streamIssues left offset (word :: rest) =
      (t.wordIssue? offset word).toList ++ t.streamIssues left (offset + wordSize) rest := by
  rw [streamIssues, streamIssues, wordIssuesFrom, List.append_assoc, List.length_cons, Nat.mul_succ,
    Nat.add_assoc, Nat.add_comm wordSize]

/-- The issue says what the fault of a failure says, at the place where the run has stopped. -/
def Pinpoints (failure : Failure) (issue : Issue) (stop : Nat) : Prop :=
  ∃ fault, failure.fault? = some fault ∧ issue.kind = some fault.kind ∧
    issue.offset = fault.offset ∧ fault.offset = stop

theorem decodingFault_atOffset {failure : Failure} {fault : Fault}
    (found : DecodingFault failure fault) (offset : Int) :
    (failure.atOffset offset).fault? = some { fault with offset } := by
  rw [Failure.fault?_atOffset found.1, Fault.atOffset, found.2.1, if_pos (by decide)]

/-- The run ends with a failure exactly if there is an issue with a kind, and the first of these is
that failure. -/
theorem decoding_pinpointed (t : Table) (left : Text) (offset : Nat) (words : List Word) :
    let s := t.decoding left none offset words
    Option.Rel (Pinpoints · · (offset + wordSize * s.deliveries.length)) s.ending
      ((t.streamIssues left offset words).find? Issue.hasKind) := by
  induction words generalizing offset with
  | nil =>
    simp only [decoding, streamIssues, wordIssuesFrom, restIssue, streamEnd, wordEnd, List.nil_append]
    cases left with
    | nil => exact .none
    | cons b left => exact .some ⟨_, rfl, rfl, rfl, rfl⟩
  | cons word rest ih =>
    rw [streamIssues_cons]
    simp only [decoding]
    cases ok : t.decodeWord word with
    | error failure =>
      obtain ⟨issue, fault, found, faulty, place, kind⟩ := wordIssue?_of_error offset ok
      have first : issue.hasKind = true := by rw [Issue.hasKind, kind]; rfl
      rw [found, Option.toList_some, List.singleton_append, List.find?_cons_of_pos first]
      exact .some ⟨_, decodingFault_atOffset faulty offset, kind, place, rfl⟩
    | ok decoded =>
      have next := ih (offset + wordSize)
      have skipped : (t.wordIssue? offset word).toList.find? Issue.hasKind = none := by
        obtain ⟨none, -⟩ | ⟨issue, found, -, -, kind⟩ := wordIssue?_of_ok offset ok
        · rw [none]
          rfl
        · have silent : ¬ issue.hasKind = true := by rw [Issue.hasKind, kind]; decide
          rw [found, Option.toList_some, List.find?_cons_of_neg silent]
          rfl
      rw [List.find?_append, skipped, Option.none_or]
      simp only [Script.following, List.length_cons, Nat.mul_succ] at next ⊢
      rwa [Nat.add_comm (wordSize * _), ← Nat.add_assoc]

theorem mem_streamIssues_iff {left : Text} {offset : Nat} {words : List Word} {issue : Issue} :
    issue ∈ t.streamIssues left offset words ↔
      (∃ k word, words[k]? = some word ∧ t.wordIssue? (offset + wordSize * k) word = some issue) ∨
        left ≠ [] ∧ issue = trailingIssue (offset + wordSize * words.length) left.length := by
  induction words generalizing offset with
  | nil => cases left <;> simp [streamIssues, wordIssuesFrom, restIssue]
  | cons word rest ih =>
    have step (n : Nat) : offset + wordSize + wordSize * n = offset + wordSize * (n + 1) := by
      rw [Nat.mul_succ, Nat.add_assoc, Nat.add_comm wordSize]
    simp only [streamIssues_cons, List.mem_append, ih, Option.mem_toList, List.length_cons, step]
    rw [← or_assoc]
    apply or_congr_left
    constructor
    · rintro (found | ⟨k, other, at_k, found⟩)
      · exact ⟨0, word, rfl, found⟩
      · exact ⟨k + 1, other, at_k, found⟩
    · rintro ⟨k, other, at_k, found⟩
      cases k with
      | zero =>
        cases at_k
        exact .inl found
      | succ k => exact .inr ⟨k, other, at_k, found⟩

theorem wordIssue?_offset {offset : Nat} {word : Word} {issue : Issue}
    (found : t.wordIssue? offset word = some issue) :
    issue.offset = offset ∧ issue.kind ≠ some .truncatedStream := by
  cases ok : t.decodeWord word with
  | error failure =>
    obtain ⟨same, fault, shown, faulty, place, kind⟩ := wordIssue?_of_error offset ok
    rw [found] at shown
    cases shown
    refine ⟨place, ?_⟩
    rw [kind]
    rcases faulty.2.2 with unknown | ambiguous
    · simp [unknown]
    · simp [ambiguous]
  | ok decoded =>
    obtain ⟨none, -⟩ | ⟨same, shown, -, place, kind⟩ := wordIssue?_of_ok offset ok
    · rw [none] at found
      cases found
    · rw [found] at shown
      cases shown
      exact ⟨place, by simp [kind]⟩

theorem streamIssues_offset {left : Text} {offset : Nat} {words : List Word} {issue : Issue}
    (member : issue ∈ t.streamIssues left offset words) :
    ∃ k : Nat, issue.offset = ↑(offset + wordSize * k) := by
  rcases mem_streamIssues_iff.mp member with ⟨k, word, -, found⟩ | ⟨-, rfl⟩
  · exact ⟨k, (wordIssue?_offset found).1⟩
  · exact ⟨words.length, rfl⟩

theorem streamIssues_increasing (t : Table) (left : Text) (offset : Nat) (words : List Word) :
    (t.streamIssues left offset words).Pairwise fun earlier later => earlier.offset < later.offset := by
  induction words generalizing offset with
  | nil => cases left <;> simp [streamIssues, wordIssuesFrom, restIssue]
  | cons word rest ih =>
    rw [streamIssues_cons, List.pairwise_append]
    refine ⟨?_, ih _, ?_⟩
    · cases t.wordIssue? offset word <;> simp
    · intro earlier first later second
      have here := (wordIssue?_offset (Option.mem_toList.mp first)).1
      obtain ⟨k, beyond⟩ := streamIssues_offset second
      have positive : 0 < wordSize := by decide
      omega

theorem kindless_iff (offset : Nat) {word : Word} :
    (∃ issue, t.wordIssue? offset word = some issue ∧ issue.kind = none) ↔
      (∃ decoded, t.decodeWord word = .ok decoded) ∧ word.canonical ≠ word := by
  constructor
  · rintro ⟨issue, found, silent⟩
    cases ok : t.decodeWord word with
    | error failure =>
      obtain ⟨same, fault, shown, -, -, kind⟩ := wordIssue?_of_error offset ok
      rw [found] at shown
      cases shown
      rw [silent] at kind
      cases kind
    | ok decoded =>
      refine ⟨⟨decoded, rfl⟩, ?_⟩
      intro same
      rw [wordIssue?_eq_none_iff.mpr ⟨⟨decoded, ok⟩, same⟩] at found
      cases found
  · rintro ⟨⟨decoded, ok⟩, stray⟩
    obtain ⟨-, same⟩ | ⟨issue, found, -, -, kind⟩ := wordIssue?_of_ok offset ok
    · exact absurd same stray
    · exact ⟨issue, found, kind⟩

/-- The failure of the disassembler is the first issue with a kind, at the end of what was written. -/
theorem disassemble_pinpointed (t : Table) (bytes : Text) :
    let r := t.disassemble { bytes } Sink.write {}
    let first := (t.checkWords { bytes }).1.find? Issue.hasKind
    (r.failure = none ↔ first = none) ∧
      ∀ failure, r.failure = some failure → ∃ issue, first = some issue ∧
        Pinpoints failure issue (wordSize * r.out.accepted.length) := by
  obtain ⟨accepted, ending⟩ := t.disassemble_unlimited_run { bytes }
  have pinpointed := t.decoding_pinpointed (frames bytes).2 0 (frames bytes).1
  simp only [accepted, ending, Script.chunks, List.length_map, checkWords_eq, disassembly,
    Nat.zero_add] at pinpointed ⊢
  generalize (t.decoding (frames bytes).2 none 0 (frames bytes).1).ending = failure?,
    (t.streamIssues (frames bytes).2 0 (frames bytes).1).find? Issue.hasKind = first at pinpointed ⊢
  cases pinpointed with
  | none =>
    refine ⟨iff_of_true rfl rfl, ?_⟩
    intro failure failed
    cases failed
  | some pinned =>
    refine ⟨by simp, ?_⟩
    intro failure failed
    cases failed
    exact ⟨_, rfl, pinned⟩

theorem mem_checkWords_iff {bytes : Text} {issue : Issue} :
    issue ∈ (t.checkWords { bytes }).1 ↔
      (∃ k, k < bytes.length / wordSize ∧
        t.wordIssue? (wordSize * k) (.ofBytes (bytes.drop (wordSize * k))) = some issue) ∨
        bytes.length % wordSize ≠ 0 ∧
          issue = trailingIssue (wordSize * (bytes.length / wordSize)) (frames bytes).2.length := by
  simp only [checkWords_eq, mem_streamIssues_iff, Nat.zero_add, frames_getElem?_eq_some_iff,
    frames_rest_ne_nil_iff, length_frames_words]
  apply or_congr_left
  apply exists_congr
  intro k
  constructor
  · rintro ⟨_, ⟨inside, rfl⟩, found⟩
    exact ⟨inside, found⟩
  · rintro ⟨inside, found⟩
    exact ⟨_, ⟨inside, rfl⟩, found⟩

/-- The word at a place has an issue without a kind exactly if it decodes and is not canonical. -/
theorem checkWords_kindless_iff {bytes : Text} {k : Nat} :
    (∃ issue ∈ (t.checkWords { bytes }).1, issue.offset = ↑(wordSize * k) ∧ issue.kind = none) ↔
      k < bytes.length / wordSize ∧
        (∃ decoded, t.decodeWord (.ofBytes (bytes.drop (wordSize * k))) = .ok decoded) ∧
        Word.canonical (.ofBytes (bytes.drop (wordSize * k))) ≠ .ofBytes (bytes.drop (wordSize * k)) := by
  rw [← kindless_iff (wordSize * k)]
  constructor
  · rintro ⟨issue, member, place, kind⟩
    rcases mem_checkWords_iff.mp member with ⟨n, inside, found⟩ | ⟨-, rfl⟩
    · have same : n = k := by
        have other := (wordIssue?_offset found).1
        have positive : 0 < wordSize := by decide
        rw [place, Int.ofNat_inj] at other
        exact (Nat.eq_of_mul_eq_mul_left positive other).symm
      subst same
      exact ⟨inside, issue, found, kind⟩
    · cases kind
  · rintro ⟨inside, issue, found, kind⟩
    have place := (wordIssue?_offset found).1
    exact ⟨issue, mem_checkWords_iff.mpr (.inl ⟨k, inside, found⟩), place, kind⟩

end Table

/-- For every table and every stream that can be read to its end: the disassembler fails exactly if
some issue of the check has a kind, and then as the first such issue says, after writing one line for
each word before it. There is at most one issue for each word, and one for a rest that is no word, in
the order of their offsets; a word has an issue without a kind exactly if it decodes and has a bit
outside the fields that its mask names. -/
theorem checkWords_follows_disassemble (t : Table) (bytes : Text) :
    let issues := (t.checkWords { bytes }).1
    let r := t.disassemble { bytes } Sink.write {}
    let count := bytes.length / wordSize
    (t.checkWords { bytes }).2 = none ∧
      (r.failure = none ↔ ∀ issue ∈ issues, issue.kind = none) ∧
      (∀ failure, r.failure = some failure → ∃ issue fault,
        issues.find? Issue.hasKind = some issue ∧ failure.fault? = some fault ∧
          issue.kind = some fault.kind ∧ issue.offset = fault.offset ∧
          fault.offset = ↑(wordSize * r.out.accepted.length)) ∧
      issues.Pairwise (fun earlier later => earlier.offset < later.offset) ∧
      (∀ issue ∈ issues, ∃ k : Nat, issue.offset = ↑(wordSize * k) ∧
        if issue.kind = some .truncatedStream then k = count ∧ bytes.length % wordSize ≠ 0
        else k < count) ∧
      ∀ k : Nat,
        let word := Word.ofBytes (bytes.drop (wordSize * k))
        let fields := Fields.decode word
        ((∃ issue ∈ issues, issue.offset = ↑(wordSize * k) ∧ issue.kind = none) ↔
          k < count ∧ (∃ decoded, t.decodeWord word = .ok decoded) ∧ fields.canonical.encode ≠ word) ∧
        (fields.canonical.encode ≠ word ↔
          ∃ slot : Slot, fields.mask.has slot.field = false ∧ fields.value slot ≠ 0) := by
  intro issues r count
  obtain ⟨succeeds, fails⟩ := t.disassemble_pinpointed bytes
  refine ⟨by rw [t.checkWords_eq], ?_, ?_, ?_, ?_, ?_⟩
  · rw [succeeds]
    simp [issues, Issue.hasKind]
  · intro failure failed
    obtain ⟨issue, first, fault, outermost, kind, place, stop⟩ := fails failure failed
    exact ⟨issue, fault, first, outermost, kind, place, stop⟩
  · have increasing := t.streamIssues_increasing (frames bytes).2 0 (frames bytes).1
    rwa [show issues = _ from congrArg Prod.fst (t.checkWords_eq bytes)]
  · intro issue member
    rcases Table.mem_checkWords_iff.mp member with ⟨k, inside, found⟩ | ⟨rest, rfl⟩
    · obtain ⟨place, kind⟩ := Table.wordIssue?_offset found
      refine ⟨k, place, ?_⟩
      rw [if_neg kind]
      exact inside
    · exact ⟨count, rfl, rfl, rest⟩
  · intro k word fields
    refine ⟨Table.checkWords_kindless_iff, ?_⟩
    change word.canonical ≠ word ↔ _
    rw [Ne, Word.canonical_eq_self_iff]
    simp only [not_forall, exists_prop]
    rfl

end TableAsm
