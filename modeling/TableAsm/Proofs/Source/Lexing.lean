import TableAsm.Proofs.Source.Pieces
import TableAsm.Source.Statement

namespace TableAsm

def pieceLexeme (piece : Text) : Lexeme :=
  if piece.head? = some labelSigil then .label else .word

theorem isTokenByte_eq_not_gap {b : UInt8} (plain : b ≠ commentMark) : isTokenByte b = !isGap b := by
  simp [isTokenByte, plain]

theorem takeWhile_isTokenByte {run rest : Text} (solid : ∀ b ∈ run, isGap b = false)
    (plain : commentMark ∉ run) (ends : ∀ c ∈ rest.head?, isGap c = true) :
    (run ++ rest).takeWhile isTokenByte = run := by
  have accepted : ∀ b ∈ run, isTokenByte b = true := by
    intro b member
    have differ : b ≠ commentMark := fun same => plain (same ▸ member)
    rw [isTokenByte_eq_not_gap differ, solid b member, Bool.not_false]
  rw [List.takeWhile_append_of_pos accepted]
  cases rest with
  | nil => simp
  | cons c rest => simp [isTokenByte, ends c rfl]

theorem lexFrom_gap {run rest : Text} (place : Place) (read : List Token) (nonempty : run ≠ [])
    (gaps : ∀ b ∈ run, isGap b = true) (ends : ∀ c ∈ rest.head?, isGap c = false) :
    lexFrom place read (run ++ rest) = lexFrom (place.advance run) read rest := by
  obtain ⟨b, run, rfl⟩ := List.exists_cons_of_ne_nil nonempty
  have first : isGap b = true := gaps b List.mem_cons_self
  have taken : (run ++ rest).takeWhile isGap = run := by
    rw [List.takeWhile_append_of_pos fun c member => gaps c (List.mem_cons_of_mem b member)]
    cases rest with
    | nil => simp
    | cons c rest => simp [ends c rfl]
  rw [List.cons_append, lexFrom]
  simp [lexeme?, first, taken]

theorem lexFrom_piece {run rest : Text} (place : Place) (read : List Token) (unbroken : Unbroken run)
    (plain : commentMark ∉ run) (named : run ≠ [labelSigil]) (ends : ∀ c ∈ rest.head?, isGap c = true) :
    lexFrom place read (run ++ rest) =
      lexFrom (place.advance run) (⟨pieceLexeme run, run, place⟩ :: read) rest := by
  obtain ⟨b, run, rfl⟩ := List.exists_cons_of_ne_nil unbroken.nonempty
  have first : isGap b = false := unbroken.solid b List.mem_cons_self
  have differ : b ≠ commentMark := fun same => plain (same ▸ List.mem_cons_self)
  have taken : (run ++ rest).takeWhile isTokenByte = run :=
    takeWhile_isTokenByte (fun c member => unbroken.solid c (List.mem_cons_of_mem b member))
      (fun member => plain (List.mem_cons_of_mem b member)) ends
  rw [List.cons_append, lexFrom]
  by_cases sigil : b = labelSigil
  · subst sigil
    have name : run.isEmpty = false := by
      rw [List.isEmpty_eq_false_iff]
      rintro rfl
      exact named rfl
    simp [lexeme?, first, taken, name, pieceLexeme]
  · simp [lexeme?, first, taken, sigil, differ, pieceLexeme]

theorem lexFrom_bare {rest : Text} (place : Place) (read : List Token)
    (ends : ∀ c ∈ rest.head?, isGap c = true) :
    lexFrom place read ([labelSigil] ++ rest) = .error (.unreadable place (labelSigil :: rest)) := by
  have first : isGap labelSigil = false := by decide
  have none : rest.takeWhile isTokenByte = [] := by
    cases rest with
    | nil => rfl
    | cons c rest => simp [isTokenByte, ends c rfl]
  rw [List.singleton_append, lexFrom]
  simp [lexeme?, first, none]

theorem lexFrom_readable (t : Text) (place : Place) (read : List Token) (plain : commentMark ∉ t)
    (named : [labelSigil] ∉ gapSeparated t) :
    ∃ tokens, lexFrom place read t = .ok (read.reverse ++ tokens) ∧
      tokens.map Token.text = gapSeparated t ∧
      ∀ token ∈ tokens, token.lexeme = pieceLexeme token.text := by
  induction t using Text.gap_induction generalizing place read with
  | nil => exact ⟨[], by rw [lexFrom, List.append_nil], rfl, by simp⟩
  | gap run rest nonempty gaps ends ih =>
    rw [lexFrom_gap place read nonempty gaps ends]
    rw [gapSeparated_gap gaps] at named ⊢
    exact ih _ _ (fun member => plain (List.mem_append_right run member)) named
  | piece run rest unbroken ends ih =>
    rw [gapSeparated_piece unbroken ends] at named ⊢
    have differ : run ≠ [labelSigil] := fun same => named (same ▸ List.mem_cons_self)
    obtain ⟨tokens, lexed, texts, lexemes⟩ := ih (place.advance run) (⟨pieceLexeme run, run, place⟩ :: read)
      (fun member => plain (List.mem_append_right run member))
      (fun member => named (List.mem_cons_of_mem run member))
    refine ⟨⟨pieceLexeme run, run, place⟩ :: tokens, ?_, ?_, ?_⟩
    · rw [lexFrom_piece place read unbroken (fun member => plain (List.mem_append_left rest member))
        differ ends, lexed]
      simp
    · rw [List.map_cons, texts]
    · intro token member
      rcases List.mem_cons.mp member with rfl | member
      · rfl
      · exact lexemes token member

theorem lexFrom_unreadable (t : Text) (place : Place) (read : List Token) (plain : commentMark ∉ t)
    (bare : [labelSigil] ∈ gapSeparated t) : ∃ problem, lexFrom place read t = .error problem := by
  induction t using Text.gap_induction generalizing place read with
  | nil => simp at bare
  | gap run rest nonempty gaps ends ih =>
    rw [lexFrom_gap place read nonempty gaps ends]
    rw [gapSeparated_gap gaps] at bare
    exact ih _ _ (fun member => plain (List.mem_append_right run member)) bare
  | piece run rest unbroken ends ih =>
    rw [gapSeparated_piece unbroken ends] at bare
    by_cases same : run = [labelSigil]
    · subst same
      exact ⟨_, lexFrom_bare place read ends⟩
    · rw [lexFrom_piece place read unbroken (fun member => plain (List.mem_append_left rest member))
        same ends]
      apply ih _ _ (fun member => plain (List.mem_append_right run member))
      exact (List.mem_cons.mp bare).resolve_left (Ne.symm same)

end TableAsm
