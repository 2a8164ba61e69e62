/-
What the events of the radio say about it. The radio is up until a call that takes
it down succeeds, and then down until a call that brings it up succeeds. If no
call is made or succeeds that the radio is not in a state for, the calls that
succeed alternate.
-/

import HidBridge.Radio
import Mathlib.Data.List.Induction

namespace HidBridge

namespace RadioEvent

def leaves (up : Bool) : RadioEvent → Bool
  | .ended .bringUp none => true
  | .ended .tearDown none => false
  | _ => up

def fits (up : Bool) : RadioEvent → Bool
  | .began .bringUp => !up
  | .began .tearDown => up
  | .began (.send _) => up
  | .ended .bringUp none => !up
  | .ended .tearDown none => up
  | _ => true

def change? : RadioEvent → Option RadioOperation
  | .ended .bringUp none => some .bringUp
  | .ended .tearDown none => some .tearDown
  | _ => none

end RadioEvent

namespace Radio

def upAfter (events : List RadioEvent) : Bool := events.foldl RadioEvent.leaves true

def isUp (radio : Radio) : Bool := upAfter radio.events

/-- The operations that have succeeded in changing whether the radio is up. -/
def changes (events : List RadioEvent) : List RadioOperation :=
  events.filterMap RadioEvent.change?

/-- Each event was one for the radio as it was then. -/
def Disciplined (events : List RadioEvent) : Prop :=
  ∀ earlier event later, events = earlier ++ event :: later →
    event.fits (upAfter earlier) = true

/-- So many operations by turns, of which the first takes the radio down. -/
def alternating : Nat → List RadioOperation
  | 0 => []
  | count + 1 => alternating count ++ [if count % 2 = 0 then .tearDown else .bringUp]

theorem upAfter_append (events : List RadioEvent) (event : RadioEvent) :
    upAfter (events ++ [event]) = event.leaves (upAfter events) := by
  unfold upAfter
  rw [List.foldl_append, List.foldl_cons, List.foldl_nil]

theorem changes_append (events : List RadioEvent) (event : RadioEvent) :
    changes (events ++ [event]) = changes events ++ event.change?.toList := by
  unfold changes
  rw [List.filterMap_append]
  cases said : event.change? <;>
    simp only [List.filterMap_cons, List.filterMap_nil, said, Option.toList]

theorem disciplined_nil : Disciplined [] := by
  intro earlier event later same
  have impossible := congrArg List.length same
  simp only [List.length_nil, List.length_append, List.length_cons] at impossible
  omega

theorem Disciplined.append {events : List RadioEvent} (disciplined : Disciplined events)
    {event : RadioEvent} (fits : event.fits (upAfter events) = true) :
    Disciplined (events ++ [event]) := by
  intro earlier found later same
  rcases List.eq_nil_or_concat later with none | ⟨init, last, some⟩
  · rw [none] at same
    have parts := List.append_inj' same rfl
    rw [← parts.1, ← (List.cons.inj parts.2).1]
    exact fits
  · rw [some, List.concat_eq_append, ← List.cons_append, ← List.append_assoc] at same
    exact disciplined earlier found init (List.append_inj' same rfl).1

theorem Disciplined.initial {events : List RadioEvent} {event : RadioEvent}
    (disciplined : Disciplined (events ++ [event])) :
    Disciplined events ∧ event.fits (upAfter events) = true := by
  refine ⟨?_, disciplined events event [] rfl⟩
  intro earlier found later same
  apply disciplined earlier found (later ++ [event])
  rw [same, List.append_assoc, List.cons_append]

theorem change_of_fits {event : RadioEvent} {up : Bool} (fits : event.fits up = true) :
    (event.change? = none ∧ event.leaves up = up) ∨
    (event.change? = some (if up then .tearDown else .bringUp) ∧ event.leaves up = !up) := by
  cases event with
  | began call => exact Or.inl ⟨rfl, rfl⟩
  | ended call failure =>
      cases failure with
      | some cause => cases call <;> exact Or.inl ⟨rfl, rfl⟩
      | none =>
          cases call with
          | send message => exact Or.inl ⟨rfl, rfl⟩
          | bringUp =>
              cases up with
              | true => cases fits
              | false => exact Or.inr ⟨rfl, rfl⟩
          | tearDown =>
              cases up with
              | true => exact Or.inr ⟨rfl, rfl⟩
              | false => cases fits

/-- Operations that have succeeded alternate, and the radio is up after an even
number of them. -/
theorem Disciplined.changes_eq {events : List RadioEvent} (disciplined : Disciplined events) :
    changes events = alternating (changes events).length ∧
      upAfter events = decide ((changes events).length % 2 = 0) := by
  induction events using List.reverseRecOn with
  | nil => exact ⟨rfl, rfl⟩
  | append_singleton events event ih =>
      obtain ⟨earlier, fits⟩ := disciplined.initial
      obtain ⟨turns, up⟩ := ih earlier
      rw [changes_append, upAfter_append]
      rcases change_of_fits fits with ⟨none, still⟩ | ⟨some, turned⟩
      · rw [none, still, Option.toList_none, List.append_nil]
        exact ⟨turns, up⟩
      · have parity : ((changes events).length + 1) % 2 = 0 ↔
            ¬(changes events).length % 2 = 0 := by omega
        rw [some, turned, Option.toList_some, List.length_append, List.length_singleton,
          alternating, ← turns, up]
        simp only [parity, decide_eq_true_eq, decide_not, and_self]

theorem count_alternating (count : Nat) :
    (alternating count).count .tearDown = (count + 1) / 2 ∧
      (alternating count).count .bringUp = count / 2 := by
  induction count with
  | zero => exact ⟨rfl, rfl⟩
  | succ count ih =>
      rw [alternating, List.count_append, List.count_append, ih.1, ih.2]
      split
      · rename_i even
        have one : [RadioOperation.tearDown].count .tearDown = 1 := rfl
        have none : [RadioOperation.tearDown].count .bringUp = 0 := rfl
        rw [one, none]
        omega
      · rename_i odd
        have none : [RadioOperation.bringUp].count .tearDown = 0 := rfl
        have one : [RadioOperation.bringUp].count .bringUp = 1 := rfl
        rw [none, one]
        omega

theorem Disciplined.down_iff {events : List RadioEvent} (disciplined : Disciplined events) :
    upAfter events = false ↔
      (changes events).count .tearDown = (changes events).count .bringUp + 1 := by
  obtain ⟨turns, up⟩ := disciplined.changes_eq
  have counts := count_alternating (changes events).length
  rw [← turns] at counts
  rw [up, counts.1, counts.2, decide_eq_false_iff_not]
  omega

end Radio

end HidBridge
