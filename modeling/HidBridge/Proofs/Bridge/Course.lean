/-
Quiet runs, event by event. Steps, turns of the tasks and the passing of time are
events of their own, in any order. Each event does one thing to the intake at most.
-/

import HidBridge.Proofs.Bridge.Quiet
import HidBridge.Proofs.Intake.Origin

namespace HidBridge

namespace World

inductive Event where
  | step (step : Step)
  | check (asOf : Nat)
  | rearm (asOf : Nat)
  | consumerTurn
  | timerTurn

/-- While time passes the tasks take no turns. These are events of their own. -/
def act (world : World) : Event → World
  | .step (.advance time) => world.wait time
  | .step step => (world.take (interlude 0) step).2
  | .check asOf => (world.check (interlude 0) asOf).2
  | .rearm asOf => (world.rearm asOf).2
  | .consumerTurn => world.consumerTurn (interlude 0)
  | .timerTurn => world.runTimer (interlude 0)

theorem act_step {world : World} {step : Step} (timeless : ∀ time, step ≠ .advance time) :
    world.act (.step step) = (world.take (interlude 0) step).2 := by
  cases step with
  | advance time => exact absurd rfl (timeless time)
  | _ => rfl

def after (world : World) (events : List Event) : World := events.foldl act world

def collect {α : Type} (said : World → Event → Option α) : World → List Event → List α
  | _, [] => []
  | world, event :: rest => (said world event).toList ++ (world.act event).collect said rest

theorem after_append (world : World) (earlier later : List Event) :
    world.after (earlier ++ later) = (world.after earlier).after later := List.foldl_append

theorem collect_append {α : Type} (said : World → Event → Option α) (world : World)
    (earlier later : List Event) :
    world.collect said (earlier ++ later) =
      world.collect said earlier ++ (world.after earlier).collect said later := by
  induction earlier generalizing world with
  | nil => rfl
  | cons event rest ih =>
      rw [List.cons_append, collect, collect, ih, List.append_assoc]
      rfl

theorem collect_append_single {α : Type} (said : World → Event → Option α) (world : World)
    (earlier : List Event) (event : Event) :
    world.collect said (earlier ++ [event]) =
      world.collect said earlier ++ (said (world.after earlier) event).toList := by
  rw [collect_append, collect, collect, List.append_nil]

theorem Quiet.act {world : World} (quiet : world.Quiet) (event : Event) :
    (world.act event).Quiet := by
  cases event with
  | step step =>
      by_cases elapses : ∃ time, step = .advance time
      · obtain ⟨time, same⟩ := elapses
        rw [same]
        exact quiet.wait time
      · rw [act_step (not_exists.mp elapses)]
        exact quiet.take step
  | check asOf => exact quiet.check asOf
  | rearm asOf => exact quiet.rearm asOf
  | consumerTurn => exact quiet.consumerTurn
  | timerTurn => exact quiet.timerTurn

theorem Quiet.exists_events {world : World} (quiet : world.Quiet) (step : Step) :
    ∃ events, world.after events = (world.advanceBy (interlude 0) step).2 := by
  have unnoted : world.nested = [] := quiet.calm.unnoted
  have same : { world with nested := [] } = world :=
    congrArg (fun nested => { world with nested }) unnoted.symm
  have more {current : World} (event : Event)
      (earlier : ∃ events, world.after events = current) :
      ∃ events, world.after events = current.act event := by
    obtain ⟨events, reached⟩ := earlier
    exact ⟨events ++ [event], by rw [after_append, reached]; rfl⟩
  have settles {current : World} (earlier : ∃ events, world.after events = current) :
      ∃ events, world.after events = current.settle (interlude 0) :=
    repeat_keeps (fun later => ∃ events, world.after events = later)
      (fun before => more .timerTurn
        (repeat_keeps (fun later => ∃ events, world.after events = later)
          (more .consumerTurn) _ before)) _ earlier
  have start : ∃ events, world.after events = world := ⟨[], rfl⟩
  simp only [World.advanceBy]
  rw [same]
  apply settles
  by_cases elapses : ∃ time, step = .advance time
  · obtain ⟨time, isAdvance⟩ := elapses
    rw [isAdvance]
    simp only [World.take]
    exact settles (more (.step (.advance time)) start)
  · rw [← act_step (not_exists.mp elapses)]
    exact more (.step step) start

theorem Quiet.after {world : World} (quiet : world.Quiet) (events : List Event) :
    (world.after events).Quiet := by
  induction events generalizing world with
  | nil => exact quiet
  | cons event rest ih => exact ih (quiet.act event)

theorem Quiet.advanceBy {world : World} (quiet : world.Quiet) (step : Step) :
    (world.advanceBy (interlude 0) step).2.Quiet := by
  obtain ⟨events, same⟩ := quiet.exists_events step
  rw [← same]
  exact quiet.after events

/-! ### The intake -/

def onIntake? (world : World) : Event → Option Relay.Event
  | .step (.connect interfaceId descriptor) => some (.connect interfaceId descriptor)
  | .step (.disconnect interfaceId) => some (.disconnect interfaceId)
  | .step (.report interfaceId (some reportId) payload) =>
    some (.submit interfaceId reportId payload)
  | .step (.report interfaceId none payload) => some (.submitTransfer interfaceId payload)
  | .step .pump => some .receive
  | .consumerTurn => if world.consumer.stage = .receiving then some .receive else none
  | _ => none

/-- The report that an event takes out of the queue, to handle it. -/
def taken? (world : World) (event : Event) : Option Report :=
  match world.onIntake? event with
  | some .receive => world.bridge.intake.queue.head?
  | _ => none

end World

end HidBridge
