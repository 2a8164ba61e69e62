/-
The timer task and the deadline. The task reads the deadline under the lock and waits
for it without the lock, so the deadline may move while it waits. Then it is told. So
it never waits for a deadline that has moved without knowing.
-/

import HidBridge.Proofs.Bridge.Lasting
import HidBridge.Proofs.Bridge.Quiet

namespace HidBridge

/-- A timer task that waits and has not been told anything waits for the deadline, if
there is one. -/
def Bridge.Heeds (bridge : Bridge) (timer : TimerStage) : Prop :=
  ∀ target, timer = .waiting target → bridge.deadlineMoved = false →
    bridge.lifecycle.deadline = none ∨ bridge.lifecycle.deadline = target

theorem Bridge.Heeds.of_deadline {before after : Bridge} {timer : TimerStage}
    (heeds : before.Heeds timer) (moved : after.deadlineMoved = before.deadlineMoved)
    (deadline : after.lifecycle.deadline = none ∨
      after.lifecycle.deadline = before.lifecycle.deadline) : after.Heeds timer := by
  intro target waiting unmoved
  rcases deadline with none | same
  · exact Or.inl none
  · rw [same]
    exact heeds target waiting (moved.symm.trans unmoved)

namespace World

structure Watchful (world : World) : Prop where
  now : world.bridge.Heeds world.timer
  noted : ∀ noted, noted ∈ world.nested → noted.bridge.Heeds noted.timer

namespace Watchful

theorem follows {before after : World} (watchful : before.Watchful)
    (lifecycle : before.bridge.lifecycle.Follows after.bridge.lifecycle)
    (same : after.surroundings = before.surroundings) : after.Watchful := by
  have moved : after.bridge.deadlineMoved = before.bridge.deadlineMoved :=
    congrArg Surroundings.deadlineMoved same
  have timer : after.timer = before.timer := congrArg Surroundings.timer same
  have nested : after.nested = before.nested := congrArg Surroundings.nested same
  refine { now := ?_, noted := ?_ }
  · rw [timer]
    exact watchful.now.of_deadline moved lifecycle.deadline
  · rw [nested]
    exact watchful.noted

theorem of_timerRead {world : World}
    (noted : ∀ noted, noted ∈ world.nested → noted.bridge.Heeds noted.timer) :
    world.timerRead.Watchful := by
  unfold World.timerRead
  split
  · exact
      { now := fun _target waiting _unmoved => nomatch waiting
        noted := noted }
  · exact
      { now := fun _target waiting _unmoved => Or.inr (TimerStage.waiting.inj waiting)
        noted := noted }

variable {world : World} (watchful : world.Watchful)

include watchful

theorem timerHear : world.timerHear.Watchful := by
  unfold World.timerHear
  split
  · exact of_timerRead watchful.noted
  · exact watchful

theorem note (step : Step) (answer : Answer) : (world.note step answer).Watchful where
  now := watchful.now
  noted := noted_note watchful.noted step answer watchful.now

end Watchful

theorem lasting_watchful : Lasting Watchful where
  follows := Watchful.follows
  note := fun step answer watchful => watchful.note step answer
  forget := fun watchful =>
    { now := watchful.now, noted := fun _noted member => nomatch member }
  setTimer := fun _stage notWaiting watchful =>
    { now := fun target waiting _unmoved => absurd waiting (notWaiting target)
      noted := watchful.noted }
  timerRead := fun watchful => .of_timerRead watchful.noted
  timerHear := Watchful.timerHear
  armDeadline := fun _asOf watchful =>
    { now := fun _target _waiting unmoved => nomatch unmoved
      noted := watchful.noted }
  adopt := fun _accepted watchful =>
    { now := fun target waiting unmoved => watchful.now target waiting unmoved
      noted := watchful.noted }

theorem watchful_new (settings : Settings) (depth : Nat) : (new settings depth).Watchful :=
  { now := fun _target waiting _unmoved => nomatch waiting
    noted := fun _noted member => nomatch member }

theorem Reachable.watchful {world : World} (reachable : world.Reachable) : world.Watchful :=
  lasting_watchful.reachable watchful_new reachable

theorem Quiet.watchful {world : World} (quiet : world.Quiet) : world.Watchful := by
  obtain ⟨settings, depth, kept⟩ := lasting_watchful.primitives.quiet coherent_new quiet
  exact kept.frame.extra (watchful_new settings depth)

/-! ### When both tasks have run -/

/-- The timer task waits, has not been told anything, and what it waits for has not
come. -/
structure Rested (world : World) (target : Option Nat) : Prop where
  waiting : world.timer = .waiting target
  unmoved : world.bridge.deadlineMoved = false
  ahead : ∀ deadline, target = some deadline → world.clock < deadline

section Tasks

variable {world : World} (calm : world.Calm)

theorem Rested.runTimer {target : Option Nat} (rested : world.Rested target)
    (inside : Interlude) : world.runTimer inside = world := by
  rcases runTimer_waiting rested.waiting inside with
    ⟨deadline, same, due, _turn⟩ | ⟨_ahead, turn⟩
  · exact absurd due (Nat.not_le_of_lt (rested.ahead deadline same))
  · rw [turn]
    exact if_neg (Bool.eq_false_iff.mp rested.unmoved)

include calm

theorem Calm.consumerTurn_progress :
    (world.Drained ∧ world.consumerTurn (interlude 0) = world) ∨
      (world.consumerTurn (interlude 0)).bridge.intake.queue.length + 1 =
        world.bridge.intake.queue.length := by
  rcases calm.drained_or with drained | ⟨report, rest, receiving, waiting⟩
  · exact Or.inl ⟨drained, calm.consumerTurn_drained drained⟩
  · have intake := intake_of_outside (outside_consumerTurn calm.unlocked receiving waiting)
    rw [intake, waiting]
    exact Or.inr rfl

theorem Calm.drained_turns (count : Nat) :
    let last := Nat.repeat (fun current => current.consumerTurn (interlude 0)) count world
    last.Drained ∨
      last.bridge.intake.queue.length + count = world.bridge.intake.queue.length := by
  induction count with
  | zero => exact Or.inr rfl
  | succ count ih =>
      have earlier := repeat_keeps Calm (fun before => before.consumerTurn) count calm
      dsimp only at ih ⊢
      rw [Nat.repeat]
      generalize Nat.repeat (fun current => current.consumerTurn (interlude 0)) count world =
        before at ih earlier ⊢
      rcases earlier.consumerTurn_progress with ⟨drained, same⟩ | handled
      · rw [same]
        exact Or.inl drained
      · rcases ih with drained | left
        · rw [earlier.consumerTurn_drained drained]
          exact Or.inl drained
        · exact Or.inr (by omega)

theorem Calm.drained_runConsumer : (world.runConsumer (interlude 0)).Drained := by
  rcases calm.drained_turns (world.workload + 2) with drained | left
  · exact drained
  · unfold workload at left
    omega

theorem Calm.runConsumer_drained (drained : world.Drained) :
    world.runConsumer (interlude 0) = world := by
  have none : Nat.repeat (fun current : World => current.consumerTurn (interlude 0)) 0 world =
      world := rfl
  exact repeat_stays none (calm.consumerTurn_drained drained) (Nat.zero_le _)

theorem Calm.timer_runConsumer : (world.runConsumer (interlude 0)).timer = world.timer := by
  have next {current : World} (both : current.Calm ∧ current.timer = world.timer) :
      (current.consumerTurn (interlude 0)).Calm ∧
        (current.consumerTurn (interlude 0)).timer = world.timer :=
    ⟨both.1.consumerTurn,
      (congrArg Posture.timer both.1.posture_consumerTurn).trans both.2⟩
  exact (repeat_keeps (fun current => current.Calm ∧ current.timer = world.timer) next _
    ⟨calm, rfl⟩).2

theorem Calm.timerCheck_eq (asOf : Nat) :
    world.timerCheck (interlude 0) asOf =
      ((world.setTimer .busy).checkDeadline (interlude 0) asOf).2.timerRead :=
  if_neg (Bool.eq_false_iff.mp calm.unlocked)

/-- A turn of the timer task changes nothing or ends with reading the deadline. Reports
are not affected. -/
theorem Calm.runTimer_cases :
    (world.runTimer (interlude 0) = world ∧
      (world.timer = .absent ∨ ∃ target, world.Rested target)) ∨
    ∃ read : World, world.runTimer (interlude 0) = read.timerRead ∧
      read.bridge.locked = false ∧ read.consumer.stage = world.consumer.stage ∧
      read.bridge.intake = world.bridge.intake := by
  rcases calm.timer with absent | starting | ⟨target, waiting⟩
  · have stage : world.timer = .absent := absent
    unfold World.runTimer
    rw [stage]
    exact Or.inl ⟨rfl, Or.inl rfl⟩
  · have stage : world.timer = .starting := starting
    unfold World.runTimer
    rw [stage]
    exact Or.inr ⟨world, rfl, calm.unlocked, rfl, rfl⟩
  · rcases runTimer_waiting waiting (interlude 0) with
      ⟨deadline, _same, _due, turn⟩ | ⟨ahead, turn⟩
    · have busy : (world.setTimer .busy).bridge.locked = false := calm.free
      have outside := outside_checkDeadline busy world.clock
      have free := (locked_of_outside outside).trans busy
      have stage := stage_of_outside outside
      have intake := intake_of_outside outside
      rw [turn, calm.timerCheck_eq]
      exact Or.inr ⟨_, rfl, free, stage, intake⟩
    · rw [turn, timerHear_free calm.unlocked]
      split
      · exact Or.inr ⟨world, rfl, calm.unlocked, rfl, rfl⟩
      · rename_i unmoved
        exact Or.inl ⟨rfl, Or.inr ⟨target, waiting, Bool.eq_false_iff.mpr unmoved, ahead⟩⟩

theorem Calm.drained_runTimer (drained : world.Drained) :
    (world.runTimer (interlude 0)).Drained := by
  rcases calm.runTimer_cases with ⟨same, _nothing⟩ | ⟨read, turn, free, consumer, intake⟩
  · rw [same]
    exact drained
  · have idle : read.Drained := by
      unfold Drained
      rw [consumer, intake]
      exact drained
    rw [turn, timerRead_free free]
    exact idle

theorem Calm.waiting_runTimer (present : world.timer ≠ .absent) :
    ∃ target, (world.runTimer (interlude 0)).timer = .waiting target ∧
      (world.runTimer (interlude 0)).bridge.deadlineMoved = false := by
  rcases calm.runTimer_cases with
    ⟨same, absent | ⟨target, rested⟩⟩ | ⟨read, turn, free, _consumer, _intake⟩
  · exact absurd absent present
  · rw [same]
    exact ⟨target, rested.waiting, rested.unmoved⟩
  · rw [turn, timerRead_free free]
    exact ⟨read.bridge.lifecycle.deadline, rfl, rfl⟩

omit calm in
theorem deadline_checkDeadline_due {asOf : Nat}
    (due : ∀ deadline, world.bridge.lifecycle.deadline = some deadline → deadline ≤ asOf) :
    (world.checkDeadline (interlude 0) asOf).2.bridge.lifecycle.deadline = none := by
  unfold World.checkDeadline
  split
  · rename_i outcome next started
    exact Lifecycle.deadline_startCheck_due started due
  · rename_i next started
    exact (Lifecycle.deadline_endCheck next _).trans
      (Lifecycle.deadline_startCheck_due started due)

theorem Calm.rested_runTimer {target : Option Nat} (waiting : world.timer = .waiting target)
    (unmoved : world.bridge.deadlineMoved = false) (heeds : world.bridge.Heeds world.timer) :
    ∃ next, (world.runTimer (interlude 0)).Rested next := by
  rcases runTimer_waiting waiting (interlude 0) with
    ⟨deadline, same, due, turn⟩ | ⟨ahead, turn⟩
  · have busy : (world.setTimer .busy).bridge.locked = false := calm.free
    have outside := outside_checkDeadline busy world.clock
    have free := (locked_of_outside outside).trans busy
    have usedUp : ((world.setTimer .busy).checkDeadline (interlude 0)
        world.clock).2.bridge.lifecycle.deadline = none := by
      apply deadline_checkDeadline_due
      intro armed isArmed
      rcases heeds target waiting unmoved with disarmed | read
      · exact nomatch disarmed.symm.trans isArmed
      · have both : some deadline = some armed := same.symm.trans (read.symm.trans isArmed)
        rw [← Option.some.inj both]
        exact due
    rw [turn, calm.timerCheck_eq, timerRead_free free, usedUp]
    exact ⟨none, rfl, rfl, nofun⟩
  · have hears : world.timerHear = world := if_neg (Bool.eq_false_iff.mp unmoved)
    rw [turn, hears]
    exact ⟨target, waiting, unmoved, ahead⟩

end Tasks

def round (world : World) : World := (world.runConsumer (interlude 0)).runTimer (interlude 0)

theorem Quiet.round {world : World} (quiet : world.Quiet) : world.round.Quiet :=
  .timerTurn quiet.runConsumer

/-- After two rounds neither task can go on, and what the timer task waits for has not
come. -/
theorem Quiet.settles {world : World} (quiet : world.Quiet) (present : world.timer ≠ .absent) :
    world.settle (interlude 0) = world.round.round ∧
      world.round.round.Drained ∧ ∃ target, world.round.round.Rested target := by
  have first : world.round.Quiet := quiet.round
  have drained : world.round.Drained :=
    quiet.calm.runConsumer.drained_runTimer quiet.calm.drained_runConsumer
  have next {current : World} (calm : current.Calm) (drained : current.Drained) :
      current.round = current.runTimer (interlude 0) := by
    unfold World.round
    rw [calm.runConsumer_drained drained]
  have stillPresent : (world.runConsumer (interlude 0)).timer ≠ .absent := by
    rw [quiet.calm.timer_runConsumer]
    exact present
  obtain ⟨target, waiting, unmoved⟩ := quiet.calm.runConsumer.waiting_runTimer stillPresent
  obtain ⟨last, rested⟩ := first.calm.rested_runTimer waiting unmoved first.watchful.now
  have twice : world.round.round = world.round.runTimer (interlude 0) :=
    next first.calm drained
  rw [← twice] at rested
  have lastDrained : world.round.round.Drained := by
    rw [twice]
    exact first.calm.drained_runTimer drained
  have stable : world.round.round.round = world.round.round :=
    (next first.round.calm lastDrained).trans (rested.runTimer _)
  have twoRounds : Nat.repeat World.round 2 world = world.round.round := rfl
  have enough : 2 ≤ 4 * (world.workload + 2) := by omega
  exact ⟨repeat_stays twoRounds stable enough, lastDrained, last, rested⟩

/-- The timer task never misses that the deadline has moved, whatever happens between
any two of its turns and inside calls of the radio. So when time has passed in a quiet
run and no task can go on, a deadline that is armed has not come. -/
theorem deadline_heeded (world : World) :
    (world.Reachable →
      world.bridge.Heeds world.timer ∧
        ∀ noted, noted ∈ world.nested → noted.bridge.Heeds noted.timer) ∧
    (world.Quiet → world.timer ≠ .absent → ∀ time,
      let last := (world.take (interlude 0) (.advance time)).2
      last.consumerTurn (interlude 0) = last ∧ last.runTimer (interlude 0) = last ∧
        ∀ deadline, last.bridge.lifecycle.deadline = some deadline →
          last.clock < deadline) := by
  refine ⟨fun reachable => ⟨reachable.watchful.now, reachable.watchful.noted⟩, ?_⟩
  intro quiet present time
  have waited : (world.wait time).Quiet := quiet.wait time
  obtain ⟨settled, drained, target, rested⟩ := waited.settles present
  have rounds : (world.wait time).round.round.Quiet := waited.round.round
  simp only [World.take]
  rw [settled]
  refine ⟨rounds.calm.consumerTurn_drained drained, rested.runTimer _, ?_⟩
  intro deadline armed
  rcases rounds.watchful.now target rested.waiting rested.unmoved with disarmed | read
  · rw [disarmed] at armed
    cases armed
  · exact rested.ahead deadline (read.symm.trans armed)

def watching : World :=
  ((((new .default 4).take (interlude 0) (.spawn .timer)).2.runTimer (interlude 0)).take
    (interlude 0) (.connect 1 [0x05, 0x09, 0x19, 0x01, 0x29, 0x03, 0x75, 0x01, 0x95, 0x03, 0x81,
      0x02])).2.runTimer (interlude 0)

/-- Somebody else checks the deadline first, and the task goes on waiting for it. -/
def forestalled : World :=
  ((watching.take (interlude 0) (.during .tearDown [.settings])).2.take (interlude 1)
    (.check Settings.default.quietTime)).2

theorem watching_heeded :
    (forestalled.Reachable ∧
      forestalled.nested.map (fun noted => (noted.timer, noted.bridge.lifecycle.deadline)) =
        [(.waiting (some Settings.default.quietTime), none)] ∧
      forestalled.bridge.Heeds forestalled.timer) ∧
    watching.Quiet ∧ watching.timer ≠ .absent ∧
      let last := (watching.take (interlude 0) (.advance Limits.second)).2
      last.runTimer (interlude 0) = last ∧
        last.bridge.lifecycle.deadline = some Settings.default.quietTime ∧
        last.clock < Settings.default.quietTime := by
  have reachable : forestalled.Reachable :=
    .take 1 _ (.take 0 _ (.timerTurn 0 (.take 0 _ (.timerTurn 0 (.take 0 _
      (.new .default 4))))))
  have quiet : watching.Quiet := .timerTurn (.take _ (.timerTurn (.take _ (.new .default 4))))
  have present : watching.timer ≠ .absent := by decide +kernel
  have armed : (watching.take (interlude 0)
      (.advance Limits.second)).2.bridge.lifecycle.deadline =
        some Settings.default.quietTime := by decide +kernel
  obtain ⟨_drained, rested, ahead⟩ := (deadline_heeded watching).2 quiet present Limits.second
  exact ⟨⟨reachable, by decide +kernel, ((deadline_heeded forestalled).1 reachable).1⟩, quiet,
    present, rested, armed, ahead _ armed⟩

end World

end HidBridge
