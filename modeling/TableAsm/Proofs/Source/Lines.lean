import TableAsm.Proofs.Source.Lexing

namespace TableAsm

/-- A text that a line can hold as one token. -/
structure SourceToken (t : Text) : Prop extends Unbroken t where
  plain : commentMark ∉ t
  named : t ≠ [labelSigil]

/-- A text that a line can hold as one word. -/
structure SourceWord (t : Text) : Prop extends Unbroken t where
  plain : commentMark ∉ t
  unlabelled : t.head? ≠ some labelSigil

theorem SourceWord.token {t : Text} (word : SourceWord t) : SourceToken t := by
  refine ⟨word.toUnbroken, word.plain, ?_⟩
  rintro rfl
  exact word.unlabelled rfl

/-- A word that a line can hold by itself. -/
structure LoneWord (t : Text) : Prop extends SourceWord t where
  starts : t.StartsSolid
  ends : t.EndsSolid

theorem loneWord_of_no_blank {t : Text} (nonempty : t ≠ []) (solid : t.hasBlank = false)
    (plain : commentMark ∉ t) (unlabelled : t.head? ≠ some labelSigil) : LoneWord t :=
  ⟨⟨⟨nonempty, Text.solid_of_no_blank solid⟩, plain, unlabelled⟩, Text.startsSolid_of_no_blank solid,
    Text.endsSolid_of_no_blank solid⟩

theorem stripComment_plain (raw : Text) : commentMark ∉ stripComment raw := by
  intro member
  have kept := (Text.trim_within _).subset member
  simpa using List.mem_takeWhile_imp kept

theorem stripComment_eq_self_iff (t : Text) :
    stripComment t = t ↔ commentMark ∉ t ∧ t.StartsSolid ∧ t.EndsSolid := by
  constructor
  · intro same
    have plain := stripComment_plain t
    have whole : t.trim = t := by
      have trimmed := Text.trim_trim (t.takeWhile (· != commentMark))
      rwa [← stripComment, same] at trimmed
    rw [same] at plain
    exact ⟨plain, (Text.trim_eq_self_iff t).mp whole⟩
  · rintro ⟨plain, solid⟩
    have kept : t.takeWhile (· != commentMark) = t := by
      rw [List.takeWhile_eq_self_iff]
      intro b member
      have differ : b ≠ commentMark := fun same => plain (same ▸ member)
      simpa using differ
    rw [stripComment, kept]
    exact (Text.trim_eq_self_iff t).mpr solid

/-- What pieces say: nothing, a label alone, or a word and anything after it. A bare sigil is not
read. -/
def Statement.ofPieces? (pieces : List Text) : Option (Option Statement) :=
  if [labelSigil] ∈ pieces then none
  else
    match pieces with
    | [] => some none
    | first :: rest =>
      if first.head? = some labelSigil then
        if rest = [] then some (some (.label first)) else none
      else some (some (.instruction first rest))

def linePieces (raw : Text) : List Text := gapSeparated (stripComment raw)

theorem ofTokens?_toOption {tokens : List Token}
    (lexemes : ∀ token ∈ tokens, token.lexeme = pieceLexeme token.text)
    (named : [labelSigil] ∉ tokens.map Token.text) :
    (Statement.ofTokens? tokens).toOption = Statement.ofPieces? (tokens.map Token.text) := by
  unfold Statement.ofPieces?
  rw [if_neg named]
  cases tokens with
  | nil => rfl
  | cons first rest =>
    have lexeme := lexemes first List.mem_cons_self
    by_cases sigil : first.text.head? = some labelSigil
    · have label : first.lexeme = .label := by rw [lexeme, pieceLexeme, if_pos sigil]
      cases rest <;> simp [Statement.ofTokens?, label, sigil, Except.toOption]
    · have word : first.lexeme = .word := by rw [lexeme, pieceLexeme, if_neg sigil]
      simp [Statement.ofTokens?, word, sigil, Except.toOption]

theorem ofText?_toOption {t : Text} (plain : commentMark ∉ t) :
    (Statement.ofText? t).toOption = Statement.ofPieces? (gapSeparated t) := by
  by_cases bare : [labelSigil] ∈ gapSeparated t
  · obtain ⟨problem, refused⟩ := lexFrom_unreadable t {} [] plain bare
    unfold Statement.ofPieces?
    rw [if_pos bare, Statement.ofText?, tokens, refused]
    rfl
  · obtain ⟨tokens, lexed, texts, lexemes⟩ := lexFrom_readable t {} [] plain bare
    rw [← texts] at bare ⊢
    rw [← ofTokens?_toOption lexemes bare, Statement.ofText?, TableAsm.tokens, lexed]
    rfl

theorem parseLine_toOption (raw : Text) :
    (parseLine raw).toOption = Statement.ofPieces? (linePieces raw) := by
  rw [linePieces]
  by_cases empty : stripComment raw = []
  · rw [parseLine, empty]
    rfl
  · have present : (stripComment raw).isEmpty = false := by simpa using empty
    rw [← ofText?_toOption (stripComment_plain raw)]
    simp only [parseLine, present, Bool.false_eq_true, if_false]
    cases Statement.ofText? (stripComment raw) <;> rfl

theorem parseLine_eq_ok_iff {raw : Text} {statement : Option Statement} :
    parseLine raw = .ok statement ↔ Statement.ofPieces? (linePieces raw) = some statement := by
  rw [← parseLine_toOption]
  cases parseLine raw <;> simp [Except.toOption]

theorem parseLine_eq_error {raw : Text} {failure : Failure} (refused : parseLine raw = .error failure) :
    ∃ problem, failure = malformedLine (stripComment raw) problem := by
  simp only [parseLine] at refused
  split at refused
  · cases refused
  split at refused
  · cases refused
  · rename_i problem _
    cases refused
    exact ⟨problem, rfl⟩

theorem Statement.ofPieces?_cases {pieces : List Text} {statement : Option Statement}
    (read : ofPieces? pieces = some statement) :
    [labelSigil] ∉ pieces ∧
      ((pieces = [] ∧ statement = none) ∨
        (∃ name, pieces = [name] ∧ name.head? = some labelSigil ∧ statement = some (.label name)) ∨
        ∃ first rest, pieces = first :: rest ∧ first.head? ≠ some labelSigil ∧
          statement = some (.instruction first rest)) := by
  unfold ofPieces? at read
  split at read
  · cases read
  rename_i named
  refine ⟨named, ?_⟩
  cases pieces with
  | nil =>
    cases read
    exact .inl ⟨rfl, rfl⟩
  | cons first rest =>
    simp only at read
    split at read
    · rename_i sigil
      split at read
      · rename_i alone
        cases read
        exact .inr (.inl ⟨first, by rw [alone], sigil, rfl⟩)
      · cases read
    · rename_i unlabelled
      cases read
      exact .inr (.inr ⟨first, rest, rfl, unlabelled, rfl⟩)

theorem parseLine_eq_instruction_iff {raw mnemonic : Text} {operands : List Text} :
    parseLine raw = .ok (some (.instruction mnemonic operands)) ↔
      gapSeparated (stripComment raw) = mnemonic :: operands ∧ mnemonic.head? ≠ some labelSigil ∧
        [labelSigil] ∉ mnemonic :: operands := by
  rw [parseLine_eq_ok_iff, ← linePieces]
  constructor
  · intro read
    obtain ⟨named, ⟨-, none⟩ | ⟨name, -, -, label⟩ | ⟨first, rest, pieces, unlabelled, word⟩⟩ :=
      Statement.ofPieces?_cases read
    · cases none
    · cases label
    · cases word
      exact ⟨pieces, unlabelled, pieces ▸ named⟩
  · rintro ⟨pieces, unlabelled, named⟩
    unfold Statement.ofPieces?
    rw [pieces, if_neg named]
    simp only [if_neg unlabelled]

theorem parseLine_label {raw name : Text} (parsed : parseLine raw = .ok (some (.label name))) :
    name.head? = some labelSigil := by
  rw [parseLine_eq_ok_iff] at parsed
  obtain ⟨-, ⟨-, none⟩ | ⟨found, -, sigil, label⟩ | ⟨first, rest, -, -, word⟩⟩ :=
    Statement.ofPieces?_cases parsed
  · cases none
  · cases label
    exact sigil
  · cases word

theorem parseLine_endsSolid {raw mnemonic : Text} {operands : List Text}
    (parsed : parseLine raw = .ok (some (.instruction mnemonic operands))) :
    ∀ last ∈ (mnemonic :: operands).getLast?, last.EndsSolid := by
  obtain ⟨pieces, -⟩ := parseLine_eq_instruction_iff.mp parsed
  rw [← pieces]
  exact gapSeparated_endsSolid (Text.endsSolid_trim _)

theorem parseLine_token {raw mnemonic token : Text} {operands : List Text}
    (parsed : parseLine raw = .ok (some (.instruction mnemonic operands)))
    (member : token ∈ mnemonic :: operands) : SourceToken token := by
  obtain ⟨pieces, -, named⟩ := parseLine_eq_instruction_iff.mp parsed
  have among : token ∈ gapSeparated (stripComment raw) := pieces ▸ member
  refine ⟨gapSeparated_unbroken among, ?_, ?_⟩
  · intro mark
    exact stripComment_plain raw ((gapSeparated_within among).subset mark)
  · rintro rfl
    exact named member

/-- The first word of an instruction line. Alone on its line it has no white space behind it. -/
theorem parseLine_mnemonic {raw mnemonic : Text} {operands : List Text}
    (parsed : parseLine raw = .ok (some (.instruction mnemonic operands))) :
    SourceWord mnemonic ∧ mnemonic.StartsSolid ∧ (operands = [] → mnemonic.EndsSolid) := by
  obtain ⟨pieces, unlabelled, -⟩ := parseLine_eq_instruction_iff.mp parsed
  have token := parseLine_token parsed List.mem_cons_self
  have starts : (stripComment raw).StartsSolid := Text.startsSolid_trim _
  obtain ⟨rest, whole, gap, -⟩ := gapSeparated_eq_cons pieces (Text.head_not_gap starts)
  rw [whole] at starts
  refine ⟨⟨token.toUnbroken, token.plain, unlabelled⟩, ?_, ?_⟩
  · exact (Text.startsSolid_append token.nonempty (Text.fresh_of_gap gap)).mp starts
  · rintro rfl
    exact parseLine_endsSolid parsed mnemonic rfl

theorem joined_startsSolid {mnemonic : Text} (operands : List Text) (nonempty : mnemonic ≠ [])
    (starts : mnemonic.StartsSolid) : (Text.joined " " (mnemonic :: operands)).StartsSolid := by
  have fresh := Text.fresh_of_gap (spaced_starts_with_gap operands)
  rw [Text.joined_cons]
  exact (Text.startsSolid_append nonempty fresh).mpr starts

theorem joined_endsSolid {tokens : List Text} (nonempty : ∀ token ∈ tokens, token ≠ [])
    (ends : ∀ last ∈ tokens.getLast?, last.EndsSolid) : (Text.joined " " tokens).EndsSolid := by
  rcases List.eq_nil_or_concat tokens with rfl | ⟨front, last, rfl⟩
  · simp [Text.joined, Text.EndsSolid]
  · have present : last ≠ [] := nonempty last (by simp)
    have solid : last.EndsSolid := ends last (by simp)
    cases front with
    | nil => simpa [Text.joined] using solid
    | cons first front =>
      have gap := spaced_starts_with_gap [last]
      rw [List.flatMap_singleton] at gap
      rw [List.concat_eq_append, List.cons_append, Text.joined_cons, List.flatMap_append,
        List.flatMap_singleton, ← List.append_assoc,
        Text.endsSolid_append (by simp [present]) (Text.fresh_of_gap gap)]
      exact (Text.endsSolid_gap_append (fun _ => isGap_of_mem_space) present).mpr solid

theorem joined_plain {mnemonic : Text} {operands : List Text} (plain : commentMark ∉ mnemonic)
    (words : ∀ operand ∈ operands, commentMark ∉ operand) :
    commentMark ∉ Text.joined " " (mnemonic :: operands) := by
  rw [Text.joined_cons, List.mem_append, List.mem_flatMap]
  rintro (member | ⟨operand, among, member⟩)
  · exact plain member
  · rcases List.mem_append.mp member with gap | member
    · exact absurd gap (by decide)
    · exact words operand among member

/-- A word and tokens joined by single spaces make the instruction line of this word and these
tokens. -/
theorem parseLine_spaced {mnemonic : Text} {operands : List Text} (word : SourceWord mnemonic)
    (starts : mnemonic.StartsSolid) (tokens : ∀ operand ∈ operands, SourceToken operand)
    (ends : ∀ last ∈ (mnemonic :: operands).getLast?, last.EndsSolid) :
    parseLine (Text.joined " " (mnemonic :: operands)) =
      .ok (some (.instruction mnemonic operands)) := by
  have each : ∀ token ∈ mnemonic :: operands, SourceToken token :=
    List.forall_mem_cons.mpr ⟨word.token, tokens⟩
  have stripped : stripComment (Text.joined " " (mnemonic :: operands)) =
      Text.joined " " (mnemonic :: operands) := by
    rw [stripComment_eq_self_iff]
    exact ⟨joined_plain word.plain fun operand member => (tokens operand member).plain,
      joined_startsSolid operands word.nonempty starts,
      joined_endsSolid (fun token member => (each token member).nonempty) ends⟩
  rw [parseLine_eq_instruction_iff, stripped,
    gapSeparated_joined fun token member => (each token member).toUnbroken]
  exact ⟨rfl, word.unlabelled, fun bare => (each _ bare).named rfl⟩

theorem parseLine_joined {mnemonic : Text} {operands : List Text} (word : SourceWord mnemonic)
    (starts : mnemonic.StartsSolid) (ends : operands = [] → mnemonic.EndsSolid)
    (words : ∀ operand ∈ operands, LoneWord operand) :
    parseLine (Text.joined " " (mnemonic :: operands)) =
      .ok (some (.instruction mnemonic operands)) := by
  refine parseLine_spaced word starts (fun operand member => (words operand member).token) ?_
  rcases List.eq_nil_or_concat operands with rfl | ⟨front, last, rfl⟩
  · simpa using ends rfl
  · rw [List.getLast?_cons_of_ne_nil (by simp)]
    simpa using (words last (by simp)).ends

theorem parseLine_self_iff {t : Text} :
    parseLine t = .ok (some (.instruction t [])) ↔ LoneWord t := by
  constructor
  · intro parsed
    obtain ⟨word, starts, ends⟩ := parseLine_mnemonic parsed
    exact ⟨word, starts, ends rfl⟩
  · intro mnemonic
    have none : ∀ operand ∈ ([] : List Text), LoneWord operand := by simp
    have joined := parseLine_joined mnemonic.toSourceWord mnemonic.starts (fun _ => mnemonic.ends) none
    simpa [Text.joined] using joined

end TableAsm
