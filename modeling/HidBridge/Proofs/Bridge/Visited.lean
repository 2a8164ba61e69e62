/-
The worlds that runs pass through: those between steps, those between the steps
that are taken inside a call of the radio, and those in which a report or a
deadline is handled in the course of a step or a turn. Lifecycle, flag and radio
fit together in all of them, also while the lock is held.
-/

import HidBridge.Proofs.Bridge.Frames

namespace HidBridge

namespace World

inductive Visited : World → Prop where
  | new (settings : Settings) (depth : Nat) : Visited (.new settings depth)
  /-- Whatever lifecycle, flag and radio are not about may change at any time. -/
  | beside {before after : World} :
    after.core = before.core → Visited before → Visited after
  | take {world : World} (depth : Nat) (step : Step) :
    Visited world → Visited (world.take (interlude depth) step).2
  | process {world : World} (depth : Nat) (owner : ConverterOwner) (report : Report) :
    Visited world → Visited (world.process (interlude depth) owner report).2
  | resume {world : World} (depth : Nat) :
    Visited world → Visited (world.resume (interlude depth)).2
  | check {world : World} (depth asOf : Nat) :
    Visited world → Visited (world.check (interlude depth) asOf).2
  | rearm {world : World} (asOf : Nat) : Visited world → Visited (world.rearm asOf).2
  | consumerTurn {world : World} (depth : Nat) :
    Visited world → Visited (world.consumerTurn (interlude depth))
  | timerTurn {world : World} (depth : Nat) :
    Visited world → Visited (world.runTimer (interlude depth))
  | note {world : World} (step : Step) (answer : Answer) :
    Visited world → Visited (world.note step answer)
  | forget {world : World} : Visited world → Visited { world with nested := [] }
  | bringingUp {world : World} {next : Lifecycle} :
    world.bridge.locked = false → world.bridge.lifecycle.startResume = some next →
    Visited world → Visited ((world.hold next).begun .bringUp)
  | takingDown {world : World} {asOf : Nat} {next : Lifecycle} :
    world.bridge.locked = false →
    world.bridge.lifecycle.startCheck asOf world.links = (none, next) →
    Visited world → Visited ((world.hold next).begun .tearDown)
  /-- Inside a call that sends. Whoever makes it has seen that the radio is not
  suspended, or has just resumed it. -/
  | sending {world : World} (message : Output.Message) :
    world.bridge.suspended = false → Visited world → Visited (world.begun (.send message))

namespace Visited

variable {world : World}

theorem coherent (visited : world.Visited) : world.Coherent := by
  have kept := coherent_primitives
  have calm := kept.interlude
  induction visited with
  | new settings depth => exact coherent_new settings depth
  | beside same _earlier ih => exact (ih.beside same).inv
  | take depth step _earlier ih => exact (kept.take (calm depth) ih step).inv
  | process depth owner report _earlier ih =>
      exact (kept.process (calm depth) ih owner report).inv
  | resume depth _earlier ih => exact (kept.resume (calm depth) ih).1.inv
  | check depth asOf _earlier ih => exact (kept.check (calm depth) ih asOf).inv
  | rearm asOf _earlier ih => exact (kept.rearm ih asOf).inv
  | consumerTurn depth _earlier ih => exact (kept.consumerTurn (calm depth) ih).inv
  | timerTurn depth _earlier ih => exact (kept.runTimer (calm depth) ih).inv
  | note step answer _earlier ih => exact (ih.note step answer).inv
  | forget _earlier ih => exact ih.forget.inv
  | bringingUp free resumed _earlier ih => exact ih.begun_bringUp free resumed
  | takingDown free started _earlier ih => exact ih.begun_tearDown free started
  | sending message awake _earlier ih => exact ih.begun_send awake message

theorem nested (visited : world.Visited) (depth : Nat) (steps : List Step) :
    Visited (steps.foldl (fun current step => current.takeNested (interlude depth) step)
      world) := by
  induction steps generalizing world with
  | nil => exact visited
  | cons step rest ih => exact ih (.note _ _ (.take depth step visited))

theorem resumed {awake : World} {depth : Nat} (visited : world.Visited)
    (ready : world.resume (interlude depth) = (.ok (), awake)) (message : Output.Message) :
    Visited (awake.begun (.send message)) := by
  have up := (coherent_primitives.resume (coherent_primitives.interlude depth)
    visited.coherent).2
  have after := visited.resume depth
  rw [ready] at up after
  exact .sending message (up rfl) after

end Visited

theorem Reachable.visited {world : World} (reachable : world.Reachable) : world.Visited := by
  induction reachable with
  | new settings depth => exact .new settings depth
  | take depth step _earlier ih => exact .take depth step ih
  | process depth owner report _earlier ih => exact .process depth owner report ih
  | check depth asOf _earlier ih => exact .check depth asOf ih
  | rearm asOf _earlier ih => exact .rearm asOf ih
  | consumerTurn depth _earlier ih => exact .consumerTurn depth ih
  | timerTurn depth _earlier ih => exact .timerTurn depth ih
  | forget _earlier ih => exact .forget ih

end World

end HidBridge
