/-
The worlds that a bridge can get into. Between any two changes from outside each
task may have taken any number of turns, and steps put aside earlier may be taken
inside calls of the radio, as deep inside each other as one likes.
-/

import HidBridge.Proofs.Bridge.Primitives

namespace HidBridge

namespace World

inductive Reachable : World → Prop where
  | new (settings : Settings) (depth : Nat) : Reachable (.new settings depth)
  | take {world : World} (depth : Nat) (step : Step) :
    Reachable world → Reachable (world.take (interlude depth) step).2
  | process {world : World} (depth : Nat) (owner : ConverterOwner) (report : Report) :
    Reachable world → Reachable (world.process (interlude depth) owner report).2
  | check {world : World} (depth asOf : Nat) :
    Reachable world → Reachable (world.check (interlude depth) asOf).2
  | rearm {world : World} (asOf : Nat) : Reachable world → Reachable (world.rearm asOf).2
  | consumerTurn {world : World} (depth : Nat) :
    Reachable world → Reachable (world.consumerTurn (interlude depth))
  | timerTurn {world : World} (depth : Nat) :
    Reachable world → Reachable (world.runTimer (interlude depth))
  | forget {world : World} : Reachable world → Reachable { world with nested := [] }

namespace Reachable

theorem turns {turn : World → World}
    (one : ∀ {current : World}, Reachable current → Reachable (turn current)) (count : Nat)
    {world : World} (reachable : Reachable world) :
    Reachable (Nat.repeat turn count world) := by
  induction count with
  | zero => exact reachable
  | succ count ih => exact one ih

theorem settle {world : World} (depth : Nat) (reachable : Reachable world) :
    Reachable (world.settle (interlude depth)) := by
  apply turns _ _ reachable
  intro current currently
  exact timerTurn depth (turns (fun earlier => consumerTurn depth earlier) _ currently)

/-- Whole steps, with the turns that the tasks take after them, lead to worlds
that can be reached. -/
theorem advanceBy {world : World} (depth : Nat) (step : Step) (reachable : Reachable world) :
    Reachable (world.advanceBy (interlude depth) step).2 := by
  have taken := settle depth (take depth step (forget reachable))
  simp only [World.advanceBy]
  exact taken

end Reachable

end World

/-- An invariant of the changes that runs are made of holds in every world that
can be reached, if it holds at first, and what was noted can be forgotten. -/
theorem Primitives.reachable {Inv : World → Prop} {Frame : World → World → Prop}
    (kept : Primitives Inv Frame) (first : ∀ settings depth, Inv (.new settings depth))
    (forget : ∀ {world}, Inv world → Keeps Inv Frame world { world with nested := [] })
    {world : World} (reachable : world.Reachable) :
    ∃ settings depth, Keeps Inv Frame (.new settings depth) world := by
  have next {before after : World} (one : Inv before → Keeps Inv Frame before after)
      (earlier : ∃ settings depth, Keeps Inv Frame (.new settings depth) before) :
      ∃ settings depth, Keeps Inv Frame (.new settings depth) after := by
    obtain ⟨settings, depth, before⟩ := earlier
    exact ⟨settings, depth, kept.andThen before (one before.inv)⟩
  induction reachable with
  | new settings depth => exact ⟨settings, depth, kept.idle (first settings depth)⟩
  | take depth step _earlier ih =>
      exact next (fun inv => kept.take (kept.interlude depth) inv step) ih
  | process depth owner report _earlier ih =>
      exact next (fun inv => kept.process (kept.interlude depth) inv owner report) ih
  | check depth asOf _earlier ih =>
      exact next (fun inv => kept.check (kept.interlude depth) inv asOf) ih
  | rearm asOf _earlier ih => exact next (fun inv => kept.rearm inv asOf) ih
  | consumerTurn depth _earlier ih =>
      exact next (fun inv => kept.consumerTurn (kept.interlude depth) inv) ih
  | timerTurn depth _earlier ih =>
      exact next (fun inv => kept.runTimer (kept.interlude depth) inv) ih
  | forget _earlier ih => exact next forget ih

end HidBridge
