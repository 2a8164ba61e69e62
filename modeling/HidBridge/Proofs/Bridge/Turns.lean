/-
The consumer task when it is the only one and nothing was put aside for calls of the radio.
Each of its turns ends with the task waiting for the next report, whatever came of the last
one, and it runs until there are no more.
-/

import HidBridge.Proofs.Bridge.Rearming

namespace HidBridge

namespace World

/-! ### Nothing put aside -/

section Unfilled

variable {world : World} (depth : Nat) (nothing : world.pending = [])

include nothing

theorem call_unfilled (call : RadioCall) :
    world.call (interlude depth) call = world.call (interlude 0) call := by
  have none : ({ world with radio := world.radio.begin call } : World).takePending
      call.operation = none := by
    simp [takePending, nothing]
  unfold World.call
  rw [interlude_of_none none depth, interlude_of_none none 0]

theorem resumeRadio_unfilled :
    world.resumeRadio (interlude depth) = world.resumeRadio (interlude 0) := by
  simp only [resumeRadio, call_unfilled depth, pending_hold, nothing]

theorem forward_unfilled (message : Output.Message) :
    world.forward (interlude depth) message = world.forward (interlude 0) message := by
  simp only [forward, call_unfilled depth, nothing]

theorem deliver_unfilled (owner : ConverterOwner) (report : Report) :
    world.deliver (interlude depth) owner report = world.deliver (interlude 0) owner report := by
  have still : (world.convert owner report).2.pending = [] := by simp [nothing]
  unfold deliver
  cases result : world.convert owner report with
  | mk outcome next =>
      rw [result] at still
      cases outcome with
      | error fault => rfl
      | ok message =>
          cases message with
          | none => rfl
          | some message => simp only [forward_unfilled depth still]

theorem consumerDeliver_unfilled (report : Report) :
    world.consumerDeliver (interlude depth) report =
      world.consumerDeliver (interlude 0) report := by
  simp only [consumerDeliver, deliver_unfilled depth, pending_setConsumer, nothing]

section Free

variable (free : world.bridge.locked = false)

include free

theorem process_unfilled (owner : ConverterOwner) (report : Report) :
    world.process (interlude depth) owner report =
      world.process (interlude 0) owner report := by
  unfold process
  rw [resume_free free, resume_free free, resumeRadio_unfilled depth nothing]
  have woken := pending_of_outside (outside_wake free)
  unfold wake at woken
  generalize (if world.bridge.suspended = true then world.resumeRadio (interlude 0)
    else (Except.ok (), world)) = outcome at woken ⊢
  obtain ⟨ready, awake⟩ := outcome
  have still : awake.pending = [] := woken.trans nothing
  cases ready with
  | error fault => rfl
  | ok _ => simp only [deliver_unfilled depth still]

theorem consumerResume_unfilled (report : Report) :
    world.consumerResume (interlude depth) report =
      world.consumerResume (interlude 0) report := by
  have busyFree : (world.setConsumer .busy).bridge.locked = false := free
  have woken := pending_of_outside (outside_resumeRadio busyFree)
  simp only [consumerResume, resumeRadio_unfilled depth, pending_setConsumer, nothing]
  cases result : (world.setConsumer .busy).resumeRadio (interlude 0) with
  | mk ready awake =>
      rw [result, pending_setConsumer, nothing] at woken
      cases ready with
      | error fault => rfl
      | ok _ => exact consumerDeliver_unfilled depth woken report

theorem consumerProcess_unfilled (report : Report) :
    world.consumerProcess (interlude depth) report =
      world.consumerProcess (interlude 0) report := by
  simp only [consumerProcess, consumerResume_unfilled depth, consumerDeliver_unfilled depth,
    nothing, free]

theorem consumerTurn_unfilled :
    world.consumerTurn (interlude depth) = world.consumerTurn (interlude 0) := by
  simp only [consumerTurn, consumerProcess_unfilled depth, consumerResume_unfilled depth,
    pending_setIntake, bridge_setIntake, nothing, free]

theorem pump_unfilled : world.pump (interlude depth) = world.pump (interlude 0) := by
  simp only [pump, process_unfilled depth, pending_setIntake, bridge_setIntake, nothing, free]

end Free

end Unfilled

/-! ### Turns of the task -/

theorem consumerTurn_empty {world : World} {inside : Interlude}
    (receiving : world.consumer.stage = .receiving)
    (empty : world.bridge.intake.queue = []) : world.consumerTurn inside = world := by
  unfold consumerTurn Intake.receive
  rw [receiving, empty]

theorem release_same {world : World} (free : world.bridge.locked = false)
    (shown : world.bridge.lifecycle.isSuspended = world.bridge.suspended) :
    world.release world.bridge.lifecycle = world := by
  unfold release
  rw [shown]
  exact congrArg (fun locked => { world with bridge := { world.bridge with locked } }) free.symm

theorem resumeRadio_awake {world : World} (coherent : world.Coherent)
    (free : world.bridge.locked = false) (awake : world.bridge.suspended = false)
    (inside : Interlude) : world.resumeRadio inside = (.ok (), world) := by
  have shown : world.bridge.lifecycle.isSuspended = world.bridge.suspended :=
    (coherent.now.free free).trans coherent.now.shown.symm
  unfold resumeRadio
  cases started : world.bridge.lifecycle.startResume with
  | none => exact congrArg (Prod.mk _) (release_same free shown)
  | some next =>
      have asleep := (Lifecycle.isSuspended_startResume_some started).1
      cases asleep.symm.trans (shown.trans awake)

/-- A task that waited for the lock to bring the radio up handles the report as if it had
only taken it now. -/
theorem consumerResume_eq_process {world : World} (coherent : world.Coherent)
    (free : world.bridge.locked = false) (report : Report) :
    world.consumerResume (interlude 0) report = world.consumerProcess (interlude 0) report := by
  have busy : Keeps Coherent Guarded world (world.setConsumer .busy) := coherent.beside rfl
  unfold consumerProcess
  cases suspended : world.bridge.suspended with
  | true => rw [if_pos rfl, free, if_neg Bool.false_ne_true]
  | false =>
      rw [if_neg Bool.false_ne_true]
      unfold consumerResume
      rw [resumeRadio_awake busy.inv free suspended]
      rfl

theorem consumerTurn_awaitingRadio {world : World} (coherent : world.Coherent)
    (free : world.bridge.locked = false) {report : Report} {limit : Nat}
    (held : world.consumer.stage = .awaitingRadio report limit) :
    world.consumerTurn (interlude 0) =
      ((world.setConsumer .busy).process (interlude 0) .consumer report).2.setConsumer
        .receiving := by
  unfold consumerTurn
  rw [held]
  dsimp only
  rw [free, consumerResume_eq_process coherent free]
  exact consumerProcess_free free report

theorem consumerTurn_awaitingRearm {world : World} {inside : Interlude}
    (free : world.bridge.locked = false) {asOf limit : Nat}
    (held : world.consumer.stage = .awaitingRearm asOf limit) :
    world.consumerTurn inside = (world.armDeadline asOf).setConsumer .receiving := by
  unfold consumerTurn
  rw [held]
  dsimp only
  rw [free]
  rfl

/-- The consumer task is the only one, and nothing was put aside for calls of the radio. -/
structure Alone (world : World) : Prop where
  free : world.bridge.locked = false
  nothing : world.pending = []
  timer : world.timer = .absent

theorem Alone.of_outside {before after : World} (alone : before.Alone)
    (same : after.outside = before.outside) : after.Alone :=
  { free := (locked_of_outside same).trans alone.free
    nothing := (pending_of_outside same).trans alone.nothing
    timer := (timer_of_outside same).trans alone.timer }

theorem Alone.process {world : World} (alone : world.Alone) (owner : ConverterOwner)
    (report : Report) : (world.process (interlude 0) owner report).2.Alone :=
  alone.of_outside (outside_process alone.free owner report)

theorem Alone.setConsumer {world : World} (alone : world.Alone) (stage : ConsumerStage) :
    (world.setConsumer stage).Alone :=
  { free := alone.free
    nothing := alone.nothing
    timer := alone.timer }

/-- The task has nothing in hand, and these reports are still to come. -/
structure Waits (world : World) (queue : List Report) : Prop where
  alone : world.Alone
  receiving : world.consumer.stage = .receiving
  queue : world.bridge.intake.queue = queue

theorem Waits.turn {world : World} {queue : List Report} (waits : world.Waits queue)
    (depth : Nat) : (world.consumerTurn (interlude depth)).Waits queue.tail := by
  have free := waits.alone.free
  rw [consumerTurn_unfilled depth waits.alone.nothing free]
  cases queue with
  | nil =>
      rw [consumerTurn_empty waits.receiving waits.queue]
      exact waits
  | cons report rest =>
      have outside := outside_consumerTurn free waits.receiving waits.queue
      have taken : (world.setQueue rest).Alone :=
        { free, nothing := waits.alone.nothing, timer := waits.alone.timer }
      exact
        { alone := taken.of_outside outside
          receiving := (stage_of_outside outside).trans waits.receiving
          queue := congrArg Intake.queue (intake_of_outside outside) }

theorem Waits.turn_handles {world : World} {report : Report} {rest : List Report}
    (waits : world.Waits (report :: rest)) (depth : Nat) :
    world.consumerTurn (interlude depth) =
      (((world.setQueue rest).setConsumer .busy).process (interlude depth) .consumer
        report).2.setConsumer .receiving := by
  have free := waits.alone.free
  have nothing := waits.alone.nothing
  have taken : ((world.setQueue rest).setConsumer .busy).bridge.locked = false := free
  have still : ((world.setQueue rest).setConsumer .busy).pending = [] := nothing
  rw [consumerTurn_unfilled depth nothing free, process_unfilled depth still taken]
  exact consumerTurn_receiving free waits.receiving waits.queue

def afterTurns (world : World) (inside : Interlude) (count : Nat) : World :=
  Nat.repeat (fun current => current.consumerTurn inside) count world

/-- The turns that the task needs for what it has in hand while it waits for the lock. -/
def inHand (world : World) : Nat := if world.consumer.stage = .receiving then 0 else 1

theorem afterTurns_inHand {world : World} (waiting : world.consumer.stage ≠ .receiving)
    (inside : Interlude) :
    world.afterTurns inside world.inHand = world.consumerTurn inside := by
  have one : world.inHand = 1 := if_neg waiting
  rw [one]
  rfl

theorem runTimer_absent {world : World} {inside : Interlude} (absent : world.timer = .absent) :
    world.runTimer inside = world := by
  unfold runTimer
  rw [absent]

section Start

variable {world : World} (coherent : world.Coherent) (alone : world.Alone)
  (present : world.consumer.stage ≠ .absent) (idle : world.consumer.stage ≠ .busy)

include coherent alone present idle

theorem waits_inHand (depth : Nat) :
    (world.afterTurns (interlude depth) world.inHand).Waits world.bridge.intake.queue := by
  cases stage : world.consumer.stage with
  | absent => exact absurd stage present
  | busy => exact absurd stage idle
  | receiving =>
      have none : world.inHand = 0 := if_pos stage
      rw [none]
      exact { alone, receiving := stage, queue := rfl }
  | awaitingRadio report limit =>
      have waiting : world.consumer.stage ≠ .receiving := by
        rw [stage]
        nofun
      have intake :=
        intake_of_outside (outside_process (alone.setConsumer .busy).free .consumer report)
      rw [afterTurns_inHand waiting, consumerTurn_unfilled depth alone.nothing alone.free,
        consumerTurn_awaitingRadio coherent alone.free stage]
      exact
        { alone := ((alone.setConsumer .busy).process .consumer report).setConsumer .receiving
          receiving := rfl
          queue := congrArg Intake.queue intake }
  | awaitingRearm asOf limit =>
      have waiting : world.consumer.stage ≠ .receiving := by
        rw [stage]
        nofun
      rw [afterTurns_inHand waiting, consumerTurn_awaitingRearm alone.free stage]
      exact
        { alone := { free := alone.free, nothing := alone.nothing, timer := alone.timer }
          receiving := rfl
          queue := rfl }

theorem waits_afterTurns (depth count : Nat) :
    (world.afterTurns (interlude depth) (world.inHand + count)).Waits
      (world.bridge.intake.queue.drop count) := by
  induction count with
  | zero => exact waits_inHand coherent alone present idle depth
  | succ count ih =>
      have after := ih.turn depth
      rw [List.tail_drop] at after
      exact after

/-- The task takes as many turns as there are reports, and one for what it has in hand. -/
theorem settle_alone (depth : Nat) :
    world.settle (interlude depth) =
      world.afterTurns (interlude depth) (world.inHand + world.bridge.intake.queue.length) := by
  have drained := waits_afterTurns coherent alone present idle depth
    world.bridge.intake.queue.length
  rw [List.drop_length] at drained
  generalize reached : world.afterTurns (interlude depth)
    (world.inHand + world.bridge.intake.queue.length) = last at drained ⊢
  have stays : last.consumerTurn (interlude depth) = last :=
    consumerTurn_empty drained.receiving drained.queue
  have enough : world.inHand + world.bridge.intake.queue.length ≤ world.workload + 2 := by
    unfold inHand workload
    split <;> omega
  have ran : world.runConsumer (interlude depth) = last := repeat_stays reached stays enough
  have first : (world.runConsumer (interlude depth)).runTimer (interlude depth) = last := by
    rw [ran]
    exact runTimer_absent drained.alone.timer
  have again : (last.runConsumer (interlude depth)).runTimer (interlude depth) = last := by
    have still : last.runConsumer (interlude depth) = last :=
      repeat_stays rfl stays (Nat.zero_le _)
    rw [still]
    exact runTimer_absent drained.alone.timer
  have one : 1 ≤ 4 * (world.workload + 2) := by omega
  have once : Nat.repeat (fun current : World =>
      (current.runConsumer (interlude depth)).runTimer (interlude depth)) 1 world = last := first
  exact repeat_stays once again one

end Start

end World

end HidBridge
