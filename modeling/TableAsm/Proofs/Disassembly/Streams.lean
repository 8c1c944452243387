import TableAsm.Isa.Mu
import TableAsm.Proofs.Stream.Runs

/-!
Streams of words, decoded one after the other. What is written is the longest front of the complete
words that decodes. Behind it the stream ends, or cannot be read, or stops inside a word, or has a word
that does not decode, and the failure says where. A stream behind another one is decoded as it would
be alone, with every offset greater by the length of the first.
-/
namespace TableAsm

section

variable {σ : Type}

/-- The output takes the lines one after the other. -/
inductive Accepts (write : σ → Text → σ × Option Failure) : σ → List Text → σ → Prop
  | nil (out : σ) : Accepts write out [] out
  | cons {out next last : σ} {line : Text} {rest : List Text} (taken : write out line = (next, none))
      (later : Accepts write next rest last) : Accepts write out (line :: rest) last

theorem Script.run_cases (s : Script) (write : σ → Text → σ × Option Failure) (out : σ) :
    (∃ last, Accepts write out s.chunks last ∧
        s.run write out =
          { out := last, events := s.deliveries.map Delivery.event, failure := s.ending }) ∨
      ∃ n d last next cause, s.deliveries[n]? = some d ∧ Accepts write out (s.chunks.take n) last ∧
        write last d.chunk = (next, some cause) ∧
        s.run write out =
          { out := next
            events := (s.deliveries.take n).map Delivery.event
            failure := some (cause.inContext d.account) } := by
  obtain ⟨deliveries, ending⟩ := s
  simp only [run, chunks]
  induction deliveries generalizing out with
  | nil => exact .inl ⟨out, .nil out, rfl⟩
  | cons d rest ih =>
    simp only [deliver]
    cases written : write out d.chunk with
    | mk next cause? =>
      cases cause? with
      | some cause => exact .inr ⟨0, d, out, next, cause, rfl, .nil out, written, rfl⟩
      | none =>
        rcases ih next with ⟨last, taken, run⟩ | ⟨n, e, last, after, cause, at_n, taken, refused, run⟩
        · exact .inl ⟨last, .cons written taken, congrArg (Run.after d.event) run⟩
        · exact .inr ⟨n + 1, e, last, after, cause, at_n, .cons written taken, refused,
            congrArg (Run.after d.event) run⟩

end

/-- The complete words of a stream. -/
def ByteInput.words (input : ByteInput) : List Word :=
  (List.range (input.bytes.length / wordSize)).map fun k => .ofBytes (input.bytes.drop (wordSize * k))

theorem ByteInput.words_eq (input : ByteInput) : input.words = (frames input.bytes).1 := by
  rw [frames_eq, words]

namespace Table

variable {t : Table}

def decodedFront (t : Table) : List Word → List Decoded
  | [] => []
  | word :: rest =>
    match t.decodeWord word with
    | .error _ => []
    | .ok decoded => decoded :: t.decodedFront rest

/-- No longer front of the words decodes. -/
structure LongestFront (t : Table) (words : List Word) (decoded : List Decoded) : Prop where
  decodes : t.DecodesAll (words.take decoded.length) decoded
  longest : ∀ front others, front <+: words → t.DecodesAll front others → front.length ≤ decoded.length

theorem LongestFront.length_le {words : List Word} {decoded : List Decoded}
    (front : t.LongestFront words decoded) : decoded.length ≤ words.length := by
  rw [← front.decodes.length_eq]
  exact List.length_take_le' _ _

theorem decodedFront_append {words : List Word} {decoded : List Decoded}
    (decodes : t.DecodesAll words decoded) (rest : List Word) :
    t.decodedFront (words ++ rest) = decoded ++ t.decodedFront rest := by
  induction decodes with
  | nil => rfl
  | cons first _ ih =>
    rw [List.cons_append, decodedFront, first]
    exact congrArg (_ :: ·) ih

theorem decodedFront_decodes (t : Table) (words : List Word) :
    t.DecodesAll (words.take (t.decodedFront words).length) (t.decodedFront words) := by
  induction words with
  | nil => exact .nil
  | cons word rest ih =>
    rw [decodedFront]
    cases ok : t.decodeWord word with
    | error failure => exact .nil
    | ok decoded => exact .cons ok ih

theorem decodedFront_longest (t : Table) (words : List Word) :
    t.LongestFront words (t.decodedFront words) := by
  refine ⟨t.decodedFront_decodes words, ?_⟩
  rintro front others ⟨rest, rfl⟩ decodes
  rw [decodedFront_append decodes, List.length_append, decodes.length_eq]
  exact Nat.le_add_right _ _

theorem decodedFront_stops {words : List Word} {word : Word}
    (here : words[(t.decodedFront words).length]? = some word) :
    ∃ cause, t.decodeWord word = .error cause := by
  induction words with
  | nil => cases here
  | cons first rest ih =>
    rw [decodedFront] at here
    cases ok : t.decodeWord first with
    | error cause =>
      rw [ok] at here
      cases here
      exact ⟨cause, ok⟩
    | ok decoded =>
      rw [ok] at here
      exact ih here

def leftOver (offset left : Nat) : Failure :=
  .ofFault
    { kind := .truncatedStream
      offset
      message := Text.decimal left ++ " trailing bytes do not form a " ++ Text.decimal wordSize ++
        "-byte word" }

/-- What there is to report behind so many decoded words: the word that does not decode, the error of the
reader whatever it wraps, or the bytes left over. -/
inductive EndsWith (t : Table) (input : ByteInput) (count : Nat) : Option Failure → Prop
  | undecodable {word : Word} {cause : Failure} {fault : Fault} (here : input.words[count]? = some word)
      (refused : t.decodeWord word = .error cause) (found : cause.fault? = some fault) :
      EndsWith t input count (some (cause.mapFault fun f => { f with offset := (wordSize * count : Nat) }))
  | unread {cause : ReadError} (through : count = input.words.length) (given : input.failure? = some cause) :
      EndsWith t input count (some (atWord "reading" (wordSize * count) (.ofMessage cause.message)))
  | truncated (through : count = input.words.length) (intact : input.failure? = none)
      (left : input.bytes.length % wordSize ≠ 0) :
      EndsWith t input count (some (leftOver (wordSize * count) (input.bytes.length % wordSize)))
  | whole (through : count = input.words.length) (intact : input.failure? = none)
      (even : input.bytes.length % wordSize = 0) : EndsWith t input count none

/-- All words are decoded, and the reader gives an error of its own that passes for an end. -/
def EndMistaken (input : ByteInput) (count : Nat) : Prop :=
  count = input.words.length ∧
    ∃ cause, input.failure? = some cause ∧ (cause.isEnd = true ∨ cause.isUnexpectedEnd = true)

/-- What is reported. An error that passes for the end of the stream is not, nor are the bytes before it;
one that passes for an end inside a word is reported as that, even if no bytes are left. -/
inductive StopsWith (t : Table) (input : ByteInput) (count : Nat) : Option Failure → Prop
  | proper {ending : Option Failure} (holds : t.EndsWith input count ending)
      (other : ¬ EndMistaken input count) : StopsWith t input count ending
  | unreported {cause : ReadError} (through : count = input.words.length)
      (given : input.failure? = some cause) (wrapped : cause.isEnd = true) : StopsWith t input count none
  | miscalled {cause : ReadError} (through : count = input.words.length)
      (given : input.failure? = some cause) (other : cause.isEnd = false)
      (wrapped : cause.isUnexpectedEnd = true) :
      StopsWith t input count (some (leftOver (wordSize * count) (input.bytes.length % wordSize)))

theorem StopsWith.endsWith_iff {input : ByteInput} {count : Nat} {ending : Option Failure}
    (stops : t.StopsWith input count ending) : t.EndsWith input count ending ↔ ¬ EndMistaken input count := by
  have beyond {word : Word} (through : count = input.words.length) : input.words[count]? ≠ some word := by
    simp [through]
  cases stops with
  | proper holds other => exact iff_of_true holds other
  | unreported through given wrapped =>
    refine iff_of_false ?_ (not_not_intro ⟨through, _, given, .inl wrapped⟩)
    rintro (_ | _ | _ | ⟨-, intact, -⟩)
    rw [given] at intact
    cases intact
  | miscalled through given other wrapped =>
    refine iff_of_false ?_ (not_not_intro ⟨through, _, given, .inr wrapped⟩)
    generalize reported : some (leftOver _ _) = ending
    rintro (⟨here, -, -⟩ | ⟨-, -⟩ | ⟨-, intact, -⟩ | _)
    · exact beyond through here
    · have links := congrArg (Option.map Failure.links) reported
      cases links
    · rw [given] at intact
      cases intact
    · cases reported

/-- How the run ends at an offset: for want of a word, or at one that does not decode. -/
def stopAt (t : Table) (left : Text) (failure? : Option ReadError) (offset : Nat) : Option Word → Option Failure
  | none => streamEnd offset left failure?
  | some word =>
    match t.decodeWord word with
    | .error failure => some (failure.atOffset offset)
    | .ok _ => none

theorem decoding_eq (left : Text) (failure? : Option ReadError) (offset : Nat) (words : List Word) :
    t.decoding left failure? offset words =
      { deliveries := (t.decodedFront words).mapIdx fun k d => lineDelivery (offset + wordSize * k) d
        ending :=
          let count := (t.decodedFront words).length
          t.stopAt left failure? (offset + wordSize * count) words[count]? } := by
  induction words generalizing offset with
  | nil => rfl
  | cons word rest ih =>
    rw [decoding, decodedFront]
    cases ok : t.decodeWord word with
    | error failure => simp [stopAt, ok]
    | ok decoded =>
      have next (k : Nat) : offset + wordSize + wordSize * k = offset + wordSize * (k + 1) := by
        rw [Nat.mul_succ, Nat.add_assoc, Nat.add_comm wordSize]
      simp only [ih, next, Script.following, List.mapIdx_cons, List.length_cons, List.getElem?_cons_succ]
      rfl

theorem disassembly_eq (t : Table) (input : ByteInput) :
    t.disassembly input =
      { deliveries := (t.decodedFront input.words).mapIdx fun k d => lineDelivery (wordSize * k) d
        ending :=
          let count := (t.decodedFront input.words).length
          t.stopAt (frames input.bytes).2 input.failure? (wordSize * count) input.words[count]? } := by
  simp only [disassembly, decoding_eq, Nat.zero_add, input.words_eq]

theorem chunks_disassembly (t : Table) (input : ByteInput) :
    (t.disassembly input).chunks = (t.decodedFront input.words).map Decoded.text := by
  rw [disassembly_eq, Script.chunks, List.mapIdx_eq_zipIdx_map, List.map_map]
  conv_rhs => rw [← List.zipIdx_map_fst 0 (t.decodedFront input.words), List.map_map]
  rfl

/-- The events of decoded words, from the start of a stream. -/
def decodedEvents (decoded : List Decoded) : List Event :=
  decoded.mapIdx fun k d => .decoded { d with offset := wordSize * k }

theorem events_disassembly (t : Table) (input : ByteInput) :
    (t.disassembly input).deliveries.map Delivery.event = decodedEvents (t.decodedFront input.words) := by
  rw [disassembly_eq, decodedEvents, List.mapIdx_eq_zipIdx_map, List.mapIdx_eq_zipIdx_map, List.map_map]
  rfl

theorem decodeWord_atOffset {word : Word} {cause : Failure} (refused : t.decodeWord word = .error cause) :
    ∃ fault, cause.fault? = some fault ∧
      ∀ offset, cause.atOffset offset = cause.mapFault fun f => { f with offset } := by
  obtain ⟨fault, found, unset, -⟩ := decodeWord_fault refused
  exact ⟨fault, found, Failure.atOffset_unset found (by omega)⟩

theorem truncatedWord_atOffset (count : Nat) (offset : Int) :
    (truncatedWord count).atOffset offset = (truncatedWord count).mapFault fun f => { f with offset } :=
  Failure.atOffset_unset rfl (show (-1 : Int) < 0 by decide) offset

theorem stopsWith_ending (t : Table) (input : ByteInput) :
    t.StopsWith input (t.decodedFront input.words).length (t.disassembly input).ending := by
  rw [disassembly_eq]
  have inside := (t.decodedFront_longest input.words).length_le
  cases here : input.words[(t.decodedFront input.words).length]? with
  | some word =>
    obtain ⟨cause, refused⟩ := decodedFront_stops here
    obtain ⟨fault, found, placed⟩ := decodeWord_atOffset refused
    simp only [stopAt, refused, placed, here]
    refine .proper (.undecodable here refused found) ?_
    rintro ⟨through, -⟩
    rw [through, List.getElem?_eq_none (Nat.le_refl _)] at here
    cases here
  | none =>
    have through := Nat.le_antisymm inside (List.getElem?_eq_none_iff.mp here)
    have rest : (frames input.bytes).2.length = input.bytes.length % wordSize :=
      length_frames_rest input.bytes
    simp only [stopAt, here, streamEnd]
    cases stop : wordEnd (frames input.bytes).2 input.failure? with
    | finished =>
      rcases wordEnd_eq_finished_iff.mp stop with ⟨whole, intact⟩ | ⟨cause, given, wrapped⟩
      · rw [whole] at rest
        exact .proper (.whole through intact rest.symm) (by simp [EndMistaken, intact])
      · exact .unreported through given wrapped
    | cut count =>
      obtain ⟨rfl, ⟨left, intact⟩ | ⟨cause, given, other, wrapped⟩⟩ := wordEnd_eq_cut_iff.mp stop
      · rw [rest]
        refine .proper (.truncated through intact ?_) (by simp [EndMistaken, intact])
        rw [← rest]
        exact mt List.length_eq_zero_iff.mp left
      · rw [rest]
        exact .miscalled through given other wrapped
    | unread message =>
      obtain ⟨cause, given, other, late, rfl⟩ := wordEnd_eq_unread_iff.mp stop
      exact .proper (.unread through given) (by simp [EndMistaken, given, other, late])

end Table

/-- The event at a greater offset. -/
def Event.shifted (distance : Nat) : Event → Event
  | decoded word => decoded { word with offset := word.offset + distance }
  | other => other

/-- The second failure is the first at a greater offset. -/
inductive Failure.Shifted (distance : Nat) : Failure → Failure → Prop
  | fault {e : Failure} {f : Fault} (found : e.fault? = some f) (placed : 0 ≤ f.offset) :
      Shifted distance e (e.mapFault fun f => { f with offset := f.offset + distance })
  | unread (offset : Nat) (message : Text) :
      Shifted distance (atWord "reading" offset (.ofMessage message))
        (atWord "reading" (offset + distance) (.ofMessage message))

theorem Failure.shifted_of_fault {e : Failure} {f : Fault} (found : e.fault? = some f) (offset distance : Nat) :
    Failure.Shifted distance (e.mapFault fun f => { f with offset := (offset : Int) })
      (e.mapFault fun f => { f with offset := ((offset + distance : Nat) : Int) }) := by
  have near : (e.mapFault fun f => { f with offset := (offset : Int) }).fault? =
      some { f with offset := (offset : Int) } := by
    rw [fault?_mapFault, found, Option.map_some]
  have far : Shifted distance _ _ := .fault near (Int.natCast_nonneg offset)
  rwa [mapFault_mapFault] at far

namespace Table

variable {t : Table}

theorem stopAt_shifted (t : Table) (left : Text) (failure? : Option ReadError) (offset distance : Nat)
    (word? : Option Word) :
    Option.Rel (Failure.Shifted distance) (t.stopAt left failure? offset word?)
      (t.stopAt left failure? (offset + distance) word?) := by
  cases word? with
  | some word =>
    simp only [stopAt]
    cases refused : t.decodeWord word with
    | ok decoded => exact .none
    | error cause =>
      obtain ⟨fault, found, placed⟩ := decodeWord_atOffset refused
      simp only [placed]
      exact .some (Failure.shifted_of_fault found offset distance)
  | none =>
    simp only [stopAt, streamEnd]
    cases wordEnd left failure? with
    | finished => exact .none
    | cut count =>
      simp only [truncatedWord_atOffset]
      exact .some (Failure.shifted_of_fault rfl offset distance)
    | unread message => exact .some (.unread offset message)

theorem decodedEvents_append (first second : List Decoded) :
    decodedEvents (first ++ second) =
      decodedEvents first ++ (decodedEvents second).map (Event.shifted (wordSize * first.length)) := by
  have later (k : Nat) : wordSize * (k + first.length) = wordSize * k + wordSize * first.length :=
    Nat.mul_add _ _ _
  simp only [decodedEvents, List.mapIdx_append, later]
  simp only [List.mapIdx_eq_zipIdx_map, List.map_map]
  rfl

theorem disassembly_append {x : Text} (y : ByteInput) (ended : (t.disassembly { bytes := x }).ending = none) :
    let first : ByteInput := { bytes := x }
    let whole : ByteInput := { y with bytes := x ++ y.bytes }
    t.decodedFront whole.words = t.decodedFront first.words ++ t.decodedFront y.words ∧
      x.length = wordSize * (t.decodedFront first.words).length ∧
      Option.Rel (Failure.Shifted x.length) (t.disassembly y).ending (t.disassembly whole).ending := by
  intro first whole
  obtain ⟨stop, decoded, decodes, -⟩ := decoding_completes.mp ⟨ended, rfl⟩
  have rest : (frames x).2 = [] := by simpa using wordEnd_eq_finished_iff.mp stop
  rw [← first.words_eq] at decodes
  have words : whole.words = first.words ++ y.words := by
    rw [whole.words_eq, frames_append rest, first.words_eq, y.words_eq]
  have left : (frames whole.bytes).2 = (frames y.bytes).2 := by rw [frames_append rest]
  have alone : t.decodedFront first.words = decoded := by
    simpa [decodedFront] using decodedFront_append decodes []
  have front : t.decodedFront whole.words = decoded ++ t.decodedFront y.words := by
    rw [words, decodedFront_append decodes]
  have length : x.length = wordSize * decoded.length := by
    have stream := congrArg List.length (frames_spec x)
    rwa [rest, List.append_nil, Word.length_flatMap_bytes, ← first.words_eq, decodes.length_eq] at stream
  rw [alone]
  refine ⟨front, length, ?_⟩
  simp only [disassembly_eq, front, left]
  rw [words, List.length_append, List.getElem?_append_right (by rw [decodes.length_eq]; omega),
    decodes.length_eq, Nat.add_sub_cancel_left, Nat.add_comm, Nat.mul_add, ← length]
  exact t.stopAt_shifted _ _ _ _ _

/-- A run writes the lines and ends so, or the output refuses one and the run has written those before it. -/
theorem disassemble_cases {σ : Type} (t : Table) (input : ByteInput)
    (write : σ → Text → σ × Option Failure) (out : σ) :
    let decoded := t.decodedFront input.words
    let lines := decoded.map Decoded.text
    (∃ last, Accepts write out lines last ∧
        t.disassemble input write out =
          { out := last, events := decodedEvents decoded, failure := (t.disassembly input).ending }) ∨
      ∃ k line last next cause, lines[k]? = some line ∧ Accepts write out (lines.take k) last ∧
        write last line = (next, some cause) ∧
        t.disassemble input write out =
          { out := next
            events := (decodedEvents decoded).take k
            failure := some (atWord "writing" (wordSize * k) cause) } := by
  intro decoded lines
  have chunks : (t.disassembly input).chunks = lines := t.chunks_disassembly input
  have events := t.events_disassembly input
  rw [disassemble_eq_run]
  rcases (t.disassembly input).run_cases write out with
    ⟨last, taken, run⟩ | ⟨k, d, last, next, cause, at_k, taken, refused, run⟩
  · rw [chunks] at taken
    rw [events] at run
    exact .inl ⟨last, taken, run⟩
  · rw [chunks] at taken
    rw [List.map_take, events] at run
    rw [disassembly_eq, List.getElem?_mapIdx] at at_k
    obtain ⟨word, at_word, rfl⟩ := Option.map_eq_some_iff.mp at_k
    have line : lines[k]? = some word.text := by rw [List.getElem?_map, at_word, Option.map_some]
    exact .inr ⟨k, word.text, last, next, cause, line, taken, refused, run⟩

theorem disassemble_fresh (t : Table) (input : ByteInput) :
    let run := t.disassemble input Sink.write {}
    run.out.accepted = (t.decodedFront input.words).map Decoded.text ∧
      run.events = decodedEvents (t.decodedFront input.words) ∧
      run.failure = (t.disassembly input).ending := by
  intro run
  obtain ⟨accepted, failure⟩ := t.disassemble_unlimited_run input
  have events := ((t.disassembly input).run_taken {}).2
  rw [← disassemble_eq_run, Sink.taken, List.take_length, events_disassembly] at events
  rw [chunks_disassembly] at accepted
  exact ⟨accepted, events, failure⟩

end Table

/-- The lines of a stream are those of the longest front of its words that decodes. The run ends as the
stream does behind that front, unless the reader's own error is mistaken for an end. An output takes all
these lines, or refuses one and has taken those before it. A stream behind a whole one is decoded as if
alone, further on. -/
theorem Table.disassemble_streams (t : Table) :
    (∀ input : ByteInput, ∃ decoded ending,
      t.LongestFront input.words decoded ∧ t.StopsWith input decoded.length ending ∧
      (t.EndsWith input decoded.length ending ↔
        ¬ (decoded.length = input.words.length ∧
          ∃ cause, input.failure? = some cause ∧ (cause.isEnd = true ∨ cause.isUnexpectedEnd = true))) ∧
      (t.disassemble input Sink.write {}).out.accepted = decoded.map Decoded.text ∧
      (t.disassemble input Sink.write {}).failure = ending ∧
      ∀ {σ : Type} (write : σ → Text → σ × Option Failure) (out : σ),
        let lines := decoded.map Decoded.text
        let run := t.disassemble input write out
        (∃ last, Accepts write out lines last ∧
          run = { out := last, events := decodedEvents decoded, failure := ending }) ∨
        ∃ k line last next cause, lines[k]? = some line ∧ Accepts write out (lines.take k) last ∧
          write last line = (next, some cause) ∧
          run =
            { out := next
              events := (decodedEvents decoded).take k
              failure := some (atWord "writing" (wordSize * k) cause) }) ∧
    ∀ (x : Text) (y : ByteInput),
      let first := t.disassemble { bytes := x } Sink.write {}
      let second := t.disassemble y Sink.write {}
      let whole := t.disassemble { y with bytes := x ++ y.bytes } Sink.write {}
      first.failure = none →
        whole.out.accepted = first.out.accepted ++ second.out.accepted ∧
        whole.events = first.events ++ second.events.map (Event.shifted x.length) ∧
        Option.Rel (Failure.Shifted x.length) second.failure whole.failure := by
  refine ⟨fun input => ?_, fun x y => ?_⟩
  · obtain ⟨lines, -, failure⟩ := t.disassemble_fresh input
    have stops := t.stopsWith_ending input
    exact ⟨t.decodedFront input.words, (t.disassembly input).ending, t.decodedFront_longest input.words,
      stops, stops.endsWith_iff, lines, failure, fun write out => t.disassemble_cases input write out⟩
  · intro first second whole succeeds
    obtain ⟨firstLines, firstEvents, firstFailure⟩ := t.disassemble_fresh { bytes := x }
    obtain ⟨secondLines, secondEvents, secondFailure⟩ := t.disassemble_fresh y
    obtain ⟨lines, events, failure⟩ := t.disassemble_fresh { y with bytes := x ++ y.bytes }
    obtain ⟨front, length, shifted⟩ := disassembly_append y (firstFailure.symm.trans succeeds)
    refine ⟨?_, ?_, ?_⟩
    · rw [lines, firstLines, secondLines, front, List.map_append]
    · rw [events, firstEvents, secondEvents, front, decodedEvents_append, ← length]
    · rw [failure, secondFailure]
      exact shifted

/-- An instruction without operands, and behind it the same one with three bytes left over. -/
theorem Table.disassemble_streams_left :
    let nop : Text := [0, 0, 0, 0, 0, 0, 0x80, 0x0f]
    let rest : ByteInput := { bytes := nop ++ [1, 2, 3] }
    let first := Mu.table.disassemble { bytes := nop } Sink.write {}
    let second := Mu.table.disassemble rest Sink.write {}
    let whole := Mu.table.disassemble { bytes := nop ++ rest.bytes } Sink.write {}
    first.failure = none ∧ whole.out.accepted = first.out.accepted ++ second.out.accepted ∧
      whole.out.accepted = ["NOP", "NOP"] ∧
      ∃ near far, second.failure = some near ∧ whole.failure = some far ∧ near.Shifted 8 far ∧
        near.fault?.map Fault.offset = some 8 ∧ far.fault?.map Fault.offset = some 16 := by
  intro nop rest first second whole
  have success : first.failure = none := by decide +kernel
  obtain ⟨accepted, -, shifted⟩ := Mu.table.disassemble_streams.2 nop rest success
  refine ⟨success, accepted, by decide +kernel, ?_⟩
  have near : (second.failure.bind Failure.fault?).map Fault.offset = some 8 := by decide +kernel
  have far : (whole.failure.bind Failure.fault?).map Fault.offset = some 16 := by decide +kernel
  change Option.Rel _ second.failure whole.failure at shifted
  cases shifted with
  | some shifted => exact ⟨_, _, rfl, rfl, shifted, near, far⟩

/-- Three bytes and then an error that wraps the end of the input: nothing is written and nothing
reported. Without any bytes, an error that wraps an early end is called a word of no bytes. -/
theorem Table.wrapped_end_unreported :
    let cut : ByteInput := { bytes := [1, 2, 3], failure? := some { message := "cut: EOF", isEnd := true } }
    let early : ByteInput :=
      { bytes := [], failure? := some { message := "unexpected EOF", isUnexpectedEnd := true } }
    let lost := (Mu.table.disassemble cut Sink.write {}).failure
    let called := (Mu.table.disassemble early Sink.write {}).failure
    lost = none ∧
      called = some (.ofFault
        { kind := .truncatedStream, offset := 0, message := "0 trailing bytes do not form a 8-byte word" }) ∧
      (∀ decoded, Mu.table.LongestFront cut.words decoded → ¬ Mu.table.EndsWith cut decoded.length lost) ∧
      ∀ decoded, Mu.table.LongestFront early.words decoded → ¬ Mu.table.EndsWith early decoded.length called := by
  intro cut early lost called
  have silent : lost = none := by decide +kernel
  have wordOfNone : called = some (leftOver 0 0) := by decide +kernel
  have reached {input : ByteInput} (short : input.words.length = 0) {decoded : List Decoded}
      (front : Mu.table.LongestFront input.words decoded) : decoded.length = input.words.length :=
    Nat.le_antisymm front.length_le (by omega)
  refine ⟨silent, wordOfNone, ?_, ?_⟩
  · intro decoded front ends
    have through := reached (by decide +kernel) front
    have stops : Mu.table.StopsWith cut decoded.length lost := silent ▸ .unreported through rfl rfl
    exact stops.endsWith_iff.mp ends ⟨through, _, rfl, .inl rfl⟩
  · intro decoded front ends
    have through := reached (by decide +kernel) front
    have nothing : wordSize * decoded.length = 0 := by
      rw [through]
      decide +kernel
    have stops := StopsWith.miscalled (t := Mu.table) through rfl rfl rfl
    rw [nothing] at stops
    rw [wordOfNone] at ends
    exact stops.endsWith_iff.mp ends ⟨through, _, rfl, .inr rfl⟩

end TableAsm
