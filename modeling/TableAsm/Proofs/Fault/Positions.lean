import TableAsm.Fault.Basic

namespace TableAsm

namespace Failure

theorem fault?_mapFault (change : Fault → Fault) (e : Failure) :
    (e.mapFault change).fault? = e.fault?.map change := by
  obtain ⟨links, root⟩ := e
  simp only [mapFault, fault?]
  induction links with
  | nil => rfl
  | cons link rest ih =>
    cases link with
    | fault f => rfl
    | context account => exact ih

theorem mapFault_mapFault (first second : Fault → Fault) (e : Failure) :
    (e.mapFault first).mapFault second = e.mapFault (second ∘ first) := by
  obtain ⟨links, root⟩ := e
  simp only [mapFault, mk.injEq, and_true]
  induction links with
  | nil => rfl
  | cons link rest ih =>
    cases link with
    | fault f => rfl
    | context account => exact congrArg (.context account :: ·) ih

theorem mapFault_congr {e : Failure} {f : Fault} (found : e.fault? = some f) {first second : Fault → Fault}
    (same : first f = second f) : e.mapFault first = e.mapFault second := by
  obtain ⟨links, root⟩ := e
  simp only [mapFault, fault?, mk.injEq, and_true] at found ⊢
  induction links with
  | nil => rfl
  | cons link rest ih =>
    cases link with
    | fault g =>
      cases found
      rw [mapLinks, mapLinks, same]
    | context account => exact congrArg (.context account :: ·) (ih found)

theorem fault?_atLine {e : Failure} {f : Fault} (found : e.fault? = some f) (line : Int) :
    (e.atLine line).fault? = some (f.atLine line) := by
  rw [Failure.atLine, found, Option.isSome_some, if_pos rfl, fault?_mapFault, found]
  rfl

theorem fault?_atOffset {e : Failure} {f : Fault} (found : e.fault? = some f) (offset : Int) :
    (e.atOffset offset).fault? = some (f.atOffset offset) := by
  rw [Failure.atOffset, found, Option.isSome_some, if_pos rfl, fault?_mapFault, found]
  rfl

theorem atOffset_unset {e : Failure} {f : Fault} (found : e.fault? = some f) (unset : f.offset < 0)
    (offset : Int) : e.atOffset offset = e.mapFault fun f => { f with offset } := by
  rw [Failure.atOffset, found, Option.isSome_some, if_pos rfl]
  exact mapFault_congr found (if_pos unset)

def Unplaced (e : Failure) : Prop := ∃ f, e.fault? = some f ∧ f.line = 0

theorem Unplaced.atLine {e : Failure} (unplaced : e.Unplaced) (line : Int) :
    ∃ f, (e.atLine line).fault? = some f ∧ f.line = line := by
  obtain ⟨f, found, zero⟩ := unplaced
  refine ⟨f.atLine line, fault?_atLine found line, ?_⟩
  rw [Fault.atLine, if_pos zero]

end Failure

namespace Fault

theorem kind_atLine (f : Fault) (line : Int) : (f.atLine line).kind = f.kind := by
  unfold Fault.atLine
  split <;> rfl

theorem message_atLine (f : Fault) (line : Int) : (f.atLine line).message = f.message := by
  unfold Fault.atLine
  split <;> rfl

theorem kind_atOffset (f : Fault) (offset : Int) : (f.atOffset offset).kind = f.kind := by
  unfold Fault.atOffset
  split <;> rfl

theorem message_atOffset (f : Fault) (offset : Int) : (f.atOffset offset).message = f.message := by
  unfold Fault.atOffset
  split <;> rfl

end Fault

namespace Failure

/-- The failure is the fault itself, in words of the fault's own. Nothing is said around it, and it was
not put around an error that is no fault: such a wrapper has no message. -/
def States (e : Failure) (f : Fault) : Prop := e.links.head? = some (.fault f) ∧ f.message ≠ []

namespace States

variable {e : Failure} {f : Fault}

theorem fault? (states : e.States f) : e.fault? = some f := by
  obtain ⟨rest, links⟩ := List.head?_eq_some_iff.mp states.1
  rw [Failure.fault?, links]
  rfl

theorem mapFault (states : e.States f) {change : Fault → Fault}
    (kept : (change f).message = f.message) : (e.mapFault change).States (change f) := by
  obtain ⟨rest, links⟩ := List.head?_eq_some_iff.mp states.1
  refine ⟨?_, kept ▸ states.2⟩
  rw [Failure.mapFault, links]
  rfl

theorem atLine (states : e.States f) (line : Int) : (e.atLine line).States (f.atLine line) := by
  rw [Failure.atLine, states.fault?, Option.isSome_some, if_pos rfl]
  exact states.mapFault (f.message_atLine line)

theorem atOffset (states : e.States f) (offset : Int) :
    (e.atOffset offset).States (f.atOffset offset) := by
  rw [Failure.atOffset, states.fault?, Option.isSome_some, if_pos rfl]
  exact states.mapFault (f.message_atOffset offset)

end States

end Failure

end TableAsm
