import Mathlib.Data.List.Nodup
import TableAsm.Proofs.Assembly.Programs
import TableAsm.Proofs.Assembly.Traces
import TableAsm.Proofs.Text.Numerals

/-!
Listings. Labels are reported while a source is scanned and words while it is written, but a listing
shows both in the order of the source: one row for each label line and one for each instruction whose
word was written. Where the writing stops, the labels behind it are still shown.
-/
namespace TableAsm

/-- The row of a line behind others. The words are those of the first instruction lines; an
instruction without a word has no row. -/
def lineRow? (words : List Word) (earlier : List Text) (raw : Text) : Option ListingRow :=
  match parseLine raw with
  | .ok (some (.label name)) =>
    some { line := earlier.length + 1, address := addressBehind earlier, word := none, source := name }
  | .ok (some (.instruction ..)) =>
    words[instructionCount earlier]?.map fun word =>
      { line := earlier.length + 1
        address := addressBehind earlier
        word := some word
        source := "    " ++ stripComment raw }
  | _ => none

def sourceRows (lines : List Text) (words : List Word) : List ListingRow := gathered (lineRow? words) lines

theorem lineRow?_eq_some {words : List Word} {earlier : List Text} {raw : Text} {row : ListingRow}
    (shown : lineRow? words earlier raw = some row) :
    row.line = earlier.length + 1 ∧ row.address = addressBehind earlier ∧
      ∀ word, row.word = some word → words[instructionCount earlier]? = some word := by
  unfold lineRow? at shown
  split at shown
  · cases shown
    exact ⟨rfl, rfl, nofun⟩
  · obtain ⟨word, found, rfl⟩ := Option.map_eq_some_iff.mp shown
    exact ⟨rfl, rfl, fun _ has => has ▸ found⟩
  · cases shown

theorem zip_concat {α β : Type} (l : List α) (a : α) (l' : List β) :
    (l ++ [a]).zip l' = l.zip l' ++ (l'[l.length]?.map (a, ·)).toList := by
  induction l generalizing l' with
  | nil => cases l' <;> rfl
  | cons b l ih =>
    cases l' with
    | nil => rfl
    | cons c l' => simp [ih]

theorem sourceRows_perm (lines : List Text) (words : List Word) :
    (sourceRows lines words).Perm
      ((lineLabels lines).map Listing.labelRow ++
        ((lineInstructions lines).zip words).map Listing.wordRow) := by
  induction lines using List.reverseRecOn with
  | nil => exact .refl _
  | append_singleton front raw ih =>
    rw [sourceRows, gathered_concat, ← sourceRows, lineLabels_concat, lineInstructions_concat]
    rcases parseLine_cases raw with ⟨failure, parsed⟩ | parsed | ⟨name, parsed⟩ | ⟨mnemonic, operands, parsed⟩
    · simpa [lineRow?, lineEvent?, parsed] using ih
    · simpa [lineRow?, lineEvent?, parsed] using ih
    · simp only [lineRow?, lineEvent?, parsed, Option.toList_some, List.filterMap_cons, List.filterMap_nil,
        Listing.labelOf?, parsedOf?, List.append_nil, List.map_append, List.map_singleton]
      rw [List.append_assoc]
      exact (ih.append_right _).trans
        ((List.append_assoc ..).symm ▸ (List.perm_append_comm.append_left _))
    · simp only [lineRow?, lineEvent?, parsed, Option.toList_some, List.filterMap_cons, List.filterMap_nil,
        Listing.labelOf?, parsedOf?, List.append_nil, zip_concat, length_lineInstructions, List.map_append]
      rw [← List.append_assoc]
      cases words[instructionCount front]? with
      | none => simpa using ih
      | some word => exact ih.append_right _

theorem sourceRows_words (lines : List Text) (words : List Word) :
    (sourceRows lines words).filterMap ListingRow.word = words.take (instructionCount lines) := by
  induction lines using List.reverseRecOn with
  | nil => rfl
  | append_singleton front raw ih =>
    rw [sourceRows, gathered_concat, ← sourceRows, List.filterMap_append, ih, instructionCount_concat]
    rcases parseLine_cases raw with ⟨failure, parsed⟩ | parsed | ⟨name, parsed⟩ | ⟨mnemonic, operands, parsed⟩
    · simp [lineRow?, isInstructionLine, parsed]
    · simp [lineRow?, isInstructionLine, parsed]
    · simp [lineRow?, isInstructionLine, parsed]
    · simp only [lineRow?, isInstructionLine, parsed, if_true, List.take_add_one]
      cases words[instructionCount front]? <;> rfl

theorem gathered_pairwise {β : Type} {R : β → β → Prop} {give : List Text → Text → Option β}
    {lines : List Text}
    (ordered : ∀ n m raw raw' b b', n < m → m < lines.length → give (lines.take n) raw = some b →
      give (lines.take m) raw' = some b' → R b b') :
    (gathered give lines).Pairwise R := by
  rw [gathered, List.pairwise_filterMap]
  refine List.pairwise_lt_range.imp_of_mem ?_
  intro n m _ inside before b given b' given'
  obtain ⟨raw, -, given⟩ := Option.bind_eq_some_iff.mp given
  obtain ⟨raw', -, given'⟩ := Option.bind_eq_some_iff.mp given'
  exact ordered n m raw raw' b b' before (List.mem_range.mp inside) given given'

theorem sourceRows_lines (lines : List Text) (words : List Word) :
    (sourceRows lines words).Pairwise fun above below => above.line < below.line := by
  apply gathered_pairwise
  intro n m raw raw' above below before inside shown shown'
  obtain ⟨here, -⟩ := lineRow?_eq_some shown
  obtain ⟨there, -⟩ := lineRow?_eq_some shown'
  rw [here, there, List.length_take_of_le inside.le, List.length_take_of_le (before.trans inside).le]
  omega

theorem sourceRows_addresses {lines : List Text} (short : instructionCount lines < addressableWords)
    (words : List Word) :
    (sourceRows lines words).Pairwise fun above below => above.address ≤ below.address := by
  apply gathered_pairwise
  intro n m raw raw' above below before _ shown shown'
  obtain ⟨-, here, -⟩ := lineRow?_eq_some shown
  obtain ⟨-, there, -⟩ := lineRow?_eq_some shown'
  have more : instructionCount (lines.take n) ≤ instructionCount (lines.take m) :=
    (List.take_sublist_take_left before.le).countP_le
  rw [here, there, UInt32.le_iff_toNat_le, addressBehind_toNat short, addressBehind_toNat short]
  exact Nat.mul_le_mul_left wordSize more

theorem gathered_split {β : Type} {give : List Text → Text → Option β} {lines : List Text}
    {before after : List β} {b : β} (cut : gathered give lines = before ++ b :: after) :
    ∃ front raw, before = gathered give front ∧ give front raw = some b := by
  induction lines using List.reverseRecOn generalizing after with
  | nil => simp [gathered] at cut
  | append_singleton front raw ih =>
    rw [gathered_concat] at cut
    cases given : give front raw with
    | none =>
      rw [given, Option.toList_none, List.append_nil] at cut
      exact ih cut
    | some last =>
      rw [given, Option.toList_some] at cut
      rcases List.eq_nil_or_concat after with rfl | ⟨after, c, rfl⟩
      · obtain ⟨same, alike⟩ := List.append_inj' cut rfl
        cases alike
        exact ⟨front, raw, same.symm, given⟩
      · have shorter : gathered give front ++ [last] = (before ++ b :: after) ++ [c] := by simpa using cut
        exact ih (List.append_inj_left' shorter rfl)

theorem sourceRows_next {lines : List Text} {words : List Word} {before between after : List ListingRow}
    {row later : ListingRow}
    (cut : sourceRows lines words = before ++ row :: (between ++ later :: after))
    (bare : ∀ r ∈ row :: between, r.word = none) (written : later.word ≠ none) :
    row.address = later.address := by
  have cut' : sourceRows lines words = (before ++ row :: between) ++ later :: after := by
    rw [cut, List.append_assoc, List.cons_append]
  obtain ⟨front, raw, here, shown⟩ := gathered_split cut
  obtain ⟨front', raw', there, shown'⟩ := gathered_split cut'
  obtain ⟨-, address, -⟩ := lineRow?_eq_some shown
  obtain ⟨-, address', counts⟩ := lineRow?_eq_some shown'
  obtain ⟨word, has⟩ := Option.ne_none_iff_exists'.mp written
  obtain ⟨inside, -⟩ := List.getElem?_eq_some_iff.mp (counts word has)
  -- No word stands between the two rows, so both stand behind the same number of words.
  have counted : words.take (instructionCount front) = words.take (instructionCount front') := by
    have none : (row :: between).filterMap ListingRow.word = [] := List.filterMap_eq_nil_iff.mpr bare
    calc words.take (instructionCount front)
      _ = before.filterMap ListingRow.word := by rw [← sourceRows_words, here, sourceRows]
      _ = (before ++ row :: between).filterMap ListingRow.word := by
        rw [List.filterMap_append, none, List.append_nil]
      _ = words.take (instructionCount front') := by rw [← sourceRows_words, there, sourceRows]
  have same : instructionCount front = instructionCount front' := by
    have lengths := congrArg List.length counted
    rw [List.length_take, List.length_take] at lengths
    omega
  rw [address, address', addressBehind, addressBehind, same]

def Hexadecimal (width : Nat) (t : Text) (v : Nat) : Prop := t.length = width ∧ Text.Spells 16 t v

/-- The cells of a row. The word of a label is left empty. -/
inductive ListingRow.Listed : ListingRow → List Text → Prop
  | label {line : Nat} {address : UInt32} {name number place : Text} (numbered : Text.Spells 10 number line)
      (placed : Hexadecimal 8 place address.toNat) :
      Listed { line, address, word := none, source := name } [number, place, [], name]
  | word {line : Nat} {address : UInt32} {w : Word} {source number place digits : Text}
      (numbered : Text.Spells 10 number line) (placed : Hexadecimal 8 place address.toNat)
      (valued : Hexadecimal 16 digits w.toNat) :
      Listed { line, address, word := some w, source } [number, place, digits, source]

/-- The cells of a label in the table of symbols. -/
inductive Label.Listed : Label → List Text → Prop
  | cells {line : Nat} {address : UInt32} {name number place : Text} (numbered : Text.Spells 10 number line)
      (placed : Hexadecimal 8 place address.toNat) : Listed { name, line, address } [name, place, number]

theorem hexadecimal_fixedDigits {width n : Nat} (some : 0 < width) (fits : n < Nat.pow 16 width) :
    Hexadecimal width (Text.fixedDigits 16 width n) n :=
  ⟨Text.length_fixedDigits 16 width n, Text.spells_fixedDigits (by decide) (by decide) some fits⟩

theorem hexadecimal_address (address : UInt32) :
    Hexadecimal 8 (Listing.addressText address) address.toNat :=
  hexadecimal_fixedDigits (by decide) address.toNat_lt

theorem listed_rowCells {row : ListingRow} {line : Nat} (numbered : row.line = line) :
    row.Listed (Listing.rowCells row) := by
  obtain ⟨_, address, word, source⟩ := row
  cases numbered
  cases word with
  | none => exact .label (Text.spells_decimal line) (hexadecimal_address address)
  | some w =>
    exact .word (Text.spells_decimal line) (hexadecimal_address address)
      (hexadecimal_fixedDigits (by decide) w.isLt)

theorem listed_symbolCells {label : Label} {line : Nat} (numbered : label.line = line) :
    label.Listed (Listing.symbolCells label) := by
  obtain ⟨name, address, _⟩ := label
  cases numbered
  exact .cells (Text.spells_decimal line) (hexadecimal_address address)

theorem sourceRows_numbered {lines : List Text} {words : List Word} {row : ListingRow}
    (member : row ∈ sourceRows lines words) : ∃ line : Nat, row.line = line := by
  obtain ⟨before, after, cut⟩ := List.append_of_mem member
  obtain ⟨front, raw, -, shown⟩ := gathered_split cut
  exact ⟨front.length + 1, (lineRow?_eq_some shown).1⟩

/-- A listing shows lines and the words written for them. -/
structure Listing.Shows (l : Listing) (lines : List Text) (p : Program)
    (written : List (Instruction × Word)) : Prop where
  /-- Every label, and every instruction that was written, has one row. -/
  merged : l.rows.Perm (p.labels.map labelRow ++ written.map wordRow)
  /-- The rows are those that the lines give, from the first to the last. -/
  rows : l.rows = sourceRows lines (written.map Prod.snd)
  lineOrder : l.rows.Pairwise fun above below => above.line < below.line
  addressOrder : l.rows.Pairwise fun above below => above.address ≤ below.address
  words : l.rows.filterMap ListingRow.word = written.map Prod.snd
  /-- A label has the address of the next instruction, if that was written. -/
  next : ∀ before row between later after, l.rows = before ++ row :: (between ++ later :: after) →
    (∀ r ∈ row :: between, r.word = none) → later.word ≠ none → row.address = later.address
  cells : List.Forall₂ ListingRow.Listed l.rows l.grid.rows
  symbols : List.Forall₂ Label.Listed p.labels l.symbolGrid.rows

theorem mergeSort_eq_sourceRows {lines : List Text} {words : List Word} {rows : List ListingRow}
    (merged : rows.Perm (sourceRows lines words)) :
    rows.mergeSort (fun a b => a.line ≤ b.line) = sourceRows lines words := by
  have increasing := sourceRows_lines lines words
  have apart : ((sourceRows lines words).map ListingRow.line).Nodup := by
    rw [List.Nodup, List.pairwise_map]
    exact increasing.imp fun less => less.ne
  have transitive : ∀ a b c : ListingRow, decide (a.line ≤ b.line) = true →
      decide (b.line ≤ c.line) = true → decide (a.line ≤ c.line) = true := by
    simpa using fun a b c : ListingRow => Int.le_trans
  have total : ∀ a b : ListingRow, (decide (a.line ≤ b.line) || decide (b.line ≤ a.line)) = true := by
    simpa using fun a b : ListingRow => Int.le_total a.line b.line
  have sorted := List.pairwise_mergeSort transitive total rows
  have perm := (rows.mergeSort_perm fun a b => a.line ≤ b.line).trans merged
  refine perm.eq_of_pairwise ?_ sorted (increasing.imp fun less => by simpa using less.le)
  intro a b member member' le ge
  have same : a.line = b.line := Int.le_antisymm (by simpa using le) (by simpa using ge)
  exact List.inj_on_of_nodup_map apart (perm.mem_iff.mp member) member' same

theorem Listing.shows {lines : List Text} (short : instructionCount lines < addressableWords) {n : Nat}
    {words : List Word} (length : ((lineInstructions lines).take n).length = words.length) :
    let written := ((lineInstructions lines).take n).zip words
    ({ labels := lineLabels lines, encoded := written } : Listing).Shows lines (.ofLines lines) written := by
  intro written
  let l : Listing := { labels := lineLabels lines, encoded := written }
  have few : words.length ≤ n ∧ words.length ≤ instructionCount lines := by
    rw [← length_lineInstructions, ← length, List.length_take]
    omega
  have front : written = (lineInstructions lines).zip words := by
    have all : ((lineInstructions lines).zip words).length ≤ n := by
      rw [List.length_zip]
      omega
    rw [← List.take_of_length_le all, List.zip, List.take_zipWith, List.take_of_length_le few.1]
    rfl
  have second : written.map Prod.snd = words := List.map_snd_zip length.ge
  have merged : (l.labels.map labelRow ++ l.encoded.map wordRow).Perm (sourceRows lines words) := by
    have each := (sourceRows_perm lines words).symm
    rw [← front] at each
    exact each
  have rows : l.rows = sourceRows lines words := mergeSort_eq_sourceRows merged
  have taken : (sourceRows lines words).filterMap ListingRow.word = words := by
    rw [sourceRows_words, List.take_of_length_le few.2]
  constructor
  · exact List.mergeSort_perm _ _
  · rw [second]
    exact rows
  · exact rows ▸ sourceRows_lines lines words
  · exact rows ▸ sourceRows_addresses short words
  · rw [second]
    exact rows ▸ taken
  · intro before row between later after cut
    exact sourceRows_next (rows ▸ cut)
  · refine List.forall₂_map_right_iff.mpr (List.forall₂_same.mpr ?_)
    intro row member
    obtain ⟨line, numbered⟩ := sourceRows_numbered (rows ▸ member)
    exact listed_rowCells numbered
  · refine List.forall₂_map_right_iff.mpr (List.forall₂_same.mpr ?_)
    intro label member
    have row : labelRow label ∈ l.labels.map labelRow ++ l.encoded.map wordRow :=
      List.mem_append_left _ (List.mem_map_of_mem member)
    obtain ⟨line, numbered⟩ := sourceRows_numbered (merged.mem_iff.mp row)
    exact listed_symbolCells numbered

end TableAsm
