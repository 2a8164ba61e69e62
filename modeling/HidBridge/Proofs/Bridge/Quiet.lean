/-
Runs in which nothing happens inside calls of the radio. The lock is free between any
two changes, no task is kept waiting for it, and a report is handled in one go, be it
by a step or by the consumer task.
-/

import HidBridge.Proofs.Bridge.Lifecycle

namespace HidBridge

namespace World

inductive Quiet : World → Prop where
  | new (settings : Settings) (depth : Nat) : Quiet (.new settings depth)
  | take {world : World} (step : Step) :
    Quiet world → Quiet (world.take (interlude 0) step).2
  | process {world : World} (owner : ConverterOwner) (report : Report) :
    Quiet world → Quiet (world.process (interlude 0) owner report).2
  | check {world : World} (asOf : Nat) :
    Quiet world → Quiet (world.check (interlude 0) asOf).2
  | rearm {world : World} (asOf : Nat) : Quiet world → Quiet (world.rearm asOf).2
  | wait {world : World} (time : Nat) : Quiet world → Quiet (world.wait time)
  | consumerTurn {world : World} :
    Quiet world → Quiet (world.consumerTurn (interlude 0))
  | timerTurn {world : World} : Quiet world → Quiet (world.runTimer (interlude 0))

end World

/-- An invariant of the changes that runs are made of holds in quiet runs, if it holds
at first. -/
theorem Primitives.quiet {Inv : World → Prop} {Frame : World → World → Prop}
    (kept : Primitives Inv Frame) (first : ∀ settings depth, Inv (.new settings depth))
    {world : World} (quiet : world.Quiet) :
    ∃ settings depth, Keeps Inv Frame (.new settings depth) world := by
  have calm := kept.interlude 0
  have next {before after : World} (one : Inv before → Keeps Inv Frame before after)
      (earlier : ∃ settings depth, Keeps Inv Frame (.new settings depth) before) :
      ∃ settings depth, Keeps Inv Frame (.new settings depth) after := by
    obtain ⟨settings, depth, before⟩ := earlier
    exact ⟨settings, depth, kept.andThen before (one before.inv)⟩
  induction quiet with
  | new settings depth => exact ⟨settings, depth, kept.idle (first settings depth)⟩
  | take step _earlier ih => exact next (fun inv => kept.take calm inv step) ih
  | process owner report _earlier ih =>
      exact next (fun inv => kept.process calm inv owner report) ih
  | check asOf _earlier ih => exact next (fun inv => kept.check calm inv asOf) ih
  | rearm asOf _earlier ih => exact next (fun inv => kept.rearm inv asOf) ih
  | wait time _earlier ih => exact next (kept.wait time) ih
  | consumerTurn _earlier ih => exact next (kept.consumerTurn calm) ih
  | timerTurn _earlier ih => exact next (kept.runTimer calm) ih

namespace World

structure Posture where
  locked : Bool
  sessionBusy : Bool
  consumer : ConsumerStage
  timer : TimerStage
  nested : List NestedAnswer

def posture (world : World) : Posture :=
  { locked := world.bridge.locked
    sessionBusy := world.sessionBusy
    consumer := world.consumer.stage
    timer := world.timer
    nested := world.nested }

/-- All of a world that handling a report or checking the deadline is not about. -/
structure Outside where
  posture : Posture
  intake : Intake
  sensitivity : Nat
  settings : Settings
  links : Links
  clock : Nat
  pending : List Pending

def outside (world : World) : Outside :=
  { posture := world.posture
    intake := world.bridge.intake
    sensitivity := world.bridge.sensitivity
    settings := world.bridge.settings
    links := world.links
    clock := world.clock
    pending := world.pending }

section SameOutside

variable {before after : World} (same : after.outside = before.outside)

include same

theorem posture_of_outside : after.posture = before.posture := congrArg Outside.posture same

theorem locked_of_outside : after.bridge.locked = before.bridge.locked :=
  congrArg Posture.locked (posture_of_outside same)

theorem stage_of_outside : after.consumer.stage = before.consumer.stage :=
  congrArg Posture.consumer (posture_of_outside same)

theorem timer_of_outside : after.timer = before.timer :=
  congrArg Posture.timer (posture_of_outside same)

theorem intake_of_outside : after.bridge.intake = before.bridge.intake :=
  congrArg Outside.intake same

theorem links_of_outside : after.links = before.links := congrArg Outside.links same

theorem pending_of_outside : after.pending = before.pending := congrArg Outside.pending same

end SameOutside

/-! ### What operations do when nothing happens inside calls -/

theorem call_quiet (world : World) (call : RadioCall) :
    world.call (interlude 0) call =
      ((world.radio.call call).1, { world with radio := (world.radio.call call).2 }) := rfl

def wake (world : World) : Except Fault Unit × World :=
  if world.bridge.suspended then world.resumeRadio (interlude 0) else (.ok (), world)

def handOver (world : World) (owner : ConverterOwner) (report : Report) :
    Except Fault Delivery × World :=
  let (result, next) := world.deliver (interlude 0) owner report
  (result, if next.pushesBack result then next.armDeadline next.clock else next)

def setQueue (world : World) (queue : List Report) : World :=
  world.setIntake { world.bridge.intake with queue }

section Outside

variable (world : World) (owner : ConverterOwner) (report : Report)

@[simp]
theorem outside_convert : (world.convert owner report).2.outside = world.outside := by
  cases owner <;> rfl

@[simp]
theorem outside_forward (message : Output.Message) :
    (world.forward (interlude 0) message).2.outside = world.outside := by
  unfold forward
  split <;> rfl

@[simp]
theorem outside_deliver :
    (world.deliver (interlude 0) owner report).2.outside = world.outside := by
  rcases world.deliver_forms owner report (interlude 0) with silent | ⟨message, forwarded⟩
  · rw [silent, outside_convert]
  · rw [forwarded, outside_forward, outside_convert]

@[simp]
theorem outside_armDeadline (asOf : Nat) : (world.armDeadline asOf).outside = world.outside := rfl

@[simp]
theorem outside_handOver : (world.handOver owner report).2.outside = world.outside := by
  unfold handOver
  dsimp only
  split <;> simp

@[simp]
theorem outside_setConsumer (stage : ConsumerStage) :
    (world.setConsumer stage).outside =
      { world.outside with posture := { world.posture with consumer := stage } } := rfl

@[simp]
theorem posture_setQueue (queue : List Report) :
    (world.setQueue queue).posture = world.posture := rfl

@[simp]
theorem locked_deliver :
    (world.deliver (interlude 0) owner report).2.bridge.locked = world.bridge.locked :=
  locked_of_outside (world.outside_deliver owner report)

end Outside

section Free

variable {world : World} {inside : Interlude} (free : world.bridge.locked = false)

include free

theorem underLock_free {α : Type} (milliseconds : Nat)
    (action : World → Except Fault α × World) :
    world.underLock milliseconds action = action world := if_neg (Bool.eq_false_iff.mp free)

theorem rearm_free (asOf : Nat) : world.rearm asOf = (.ok (), world.armDeadline asOf) :=
  underLock_free free _ _

theorem check_free (asOf : Nat) :
    world.check inside asOf =
      (.ok (world.checkDeadline inside asOf).1, (world.checkDeadline inside asOf).2) :=
  underLock_free free _ _

theorem resume_free : world.resume inside = world.resumeRadio inside :=
  underLock_free free _ _

theorem outside_release (lifecycle : Lifecycle) :
    (world.release lifecycle).outside = world.outside := by
  unfold outside posture release
  rw [free]

theorem outside_transition (next lifecycle : Lifecycle) (call : RadioCall) :
    (((world.hold next).call (interlude 0) call).2.release lifecycle).outside =
      world.outside := by
  rw [call_quiet]
  unfold outside posture release hold
  rw [free]

theorem outside_resumeRadio :
    (world.resumeRadio (interlude 0)).2.outside = world.outside := by
  unfold resumeRadio
  cases world.bridge.lifecycle.startResume with
  | none => exact outside_release free _
  | some next => exact outside_transition free next _ .bringUp

theorem outside_checkDeadline (asOf : Nat) :
    (world.checkDeadline (interlude 0) asOf).2.outside = world.outside := by
  unfold checkDeadline
  split
  · exact outside_release free _
  · exact outside_transition free _ _ .tearDown

theorem outside_wake : world.wake.2.outside = world.outside := by
  unfold wake
  split
  · exact outside_resumeRadio free
  · rfl

theorem process_free (owner : ConverterOwner) (report : Report) :
    world.process (interlude 0) owner report =
      match world.wake with
      | (.error fault, awake) => (.error fault, awake)
      | (.ok _, awake) => awake.handOver owner report := by
  have woken := outside_wake free
  have same : (if world.bridge.suspended = true then world.resumeRadio (interlude 0)
      else (.ok (), world)) = world.wake := rfl
  unfold process
  rw [resume_free free, same]
  cases result : world.wake with
  | mk ready awake =>
      rw [result] at woken
      cases ready with
      | error fault => rfl
      | ok _ =>
          have unlocked : awake.bridge.locked = false := (locked_of_outside woken).trans free
          simp only [rearm_free, locked_deliver, unlocked, handOver]

theorem outside_process (owner : ConverterOwner) (report : Report) :
    (world.process (interlude 0) owner report).2.outside = world.outside := by
  have woken := outside_wake free
  rw [process_free free]
  cases result : world.wake with
  | mk ready awake =>
      rw [result] at woken
      cases ready with
      | error fault => exact woken
      | ok _ => exact (awake.outside_handOver owner report).trans woken

theorem consumerProcess_free (report : Report) :
    world.consumerProcess (interlude 0) report =
      ((world.setConsumer .busy).process (interlude 0) .consumer report).2.setConsumer
        .receiving := by
  have busyFree : (world.setConsumer .busy).bridge.locked = false := free
  have delivered (awake : World)
      (same : awake.outside = (world.setConsumer .busy).outside) :
      awake.consumerDeliver (interlude 0) report =
        (awake.handOver .consumer report).2.setConsumer .receiving := by
    have busy : awake.setConsumer .busy = awake := setConsumer_same (stage_of_outside same)
    have unlocked : awake.bridge.locked = false := (locked_of_outside same).trans free
    unfold consumerDeliver handOver
    simp only [busy, locked_deliver, unlocked]
    split <;> rfl
  rw [process_free busyFree]
  unfold consumerProcess wake
  cases suspended : world.bridge.suspended with
  | false =>
      rw [bridge_setConsumer, suspended, if_neg Bool.false_ne_true, if_neg Bool.false_ne_true]
      exact delivered (world.setConsumer .busy) rfl
  | true =>
      have woken := outside_resumeRadio busyFree
      rw [bridge_setConsumer, suspended, free, if_pos rfl, if_pos rfl,
        if_neg Bool.false_ne_true]
      unfold consumerResume
      cases result : (world.setConsumer .busy).resumeRadio (interlude 0) with
      | mk ready awake =>
          rw [result] at woken
          cases ready with
          | error fault => rfl
          | ok _ => exact delivered awake woken

theorem consumerTurn_receiving (receiving : world.consumer.stage = .receiving)
    {report : Report} {rest : List Report}
    (waiting : world.bridge.intake.queue = report :: rest) :
    world.consumerTurn (interlude 0) =
      (((world.setQueue rest).setConsumer .busy).process (interlude 0) .consumer
        report).2.setConsumer .receiving := by
  have queueFree : (world.setQueue rest).bridge.locked = false := free
  unfold consumerTurn Intake.receive
  rw [receiving, waiting]
  exact consumerProcess_free queueFree report

theorem outside_consumerTurn (receiving : world.consumer.stage = .receiving)
    {report : Report} {rest : List Report}
    (waiting : world.bridge.intake.queue = report :: rest) :
    (world.consumerTurn (interlude 0)).outside = (world.setQueue rest).outside := by
  have busy : ((world.setQueue rest).setConsumer .busy).bridge.locked = false := free
  have same : (world.setQueue rest).setConsumer .receiving = world.setQueue rest :=
    setConsumer_same receiving
  rw [consumerTurn_receiving free receiving waiting, outside_setConsumer,
    posture_of_outside (outside_process busy .consumer report), outside_process busy]
  exact congrArg outside same

end Free

/-! ### What the tasks are doing in quiet runs -/

theorem repeat_keeps (Inv : World → Prop) {turn : World → World}
    (one : ∀ {current : World}, Inv current → Inv (turn current)) (count : Nat) {world : World}
    (first : Inv world) : Inv (Nat.repeat turn count world) := by
  induction count with
  | zero => exact first
  | succ count ih => exact one ih

theorem repeat_stays {turn : World → World} {world last : World} {enough : Nat}
    (reached : Nat.repeat turn enough world = last) (stays : turn last = last) {count : Nat}
    (more : enough ≤ count) : Nat.repeat turn count world = last := by
  induction more with
  | refl => exact reached
  | step _more ih =>
      rw [Nat.repeat, ih]
      exact stays

/-- Nothing is busy, and tasks that are there wait for something to do, not for the
lock. -/
structure Posture.Calm (posture : Posture) : Prop where
  free : posture.locked = false
  sessionFree : posture.sessionBusy = false
  consumer : posture.consumer = .absent ∨ posture.consumer = .receiving
  timer : posture.timer = .absent ∨ posture.timer = .starting ∨
    ∃ target, posture.timer = .waiting target
  unnoted : posture.nested = []

def Calm (world : World) : Prop := world.posture.Calm

theorem calm_new (settings : Settings) (depth : Nat) : (new settings depth).Calm where
  free := rfl
  sessionFree := rfl
  consumer := Or.inl rfl
  timer := Or.inl rfl
  unnoted := rfl

theorem timerRead_free {world : World} (free : world.bridge.locked = false) :
    world.timerRead =
      { world with
        timer := .waiting world.bridge.lifecycle.deadline
        bridge := { world.bridge with deadlineMoved := false } } :=
  if_neg (Bool.eq_false_iff.mp free)

theorem timerHear_free {world : World} (free : world.bridge.locked = false) :
    world.timerHear = if world.bridge.deadlineMoved then world.timerRead else world := by
  unfold timerHear
  split
  · rw [timerRead_free free]
    exact timerRead_free free
  · rfl

/-- With no deadline read, or one that has not come, only news of the deadline make the
timer task go on. -/
theorem runTimer_waiting {world : World} {target : Option Nat}
    (waiting : world.timer = .waiting target) (inside : Interlude) :
    (∃ deadline, target = some deadline ∧ deadline ≤ world.clock ∧
      world.runTimer inside = world.timerCheck inside world.clock) ∨
    (∀ deadline, target = some deadline → world.clock < deadline) ∧
      world.runTimer inside = world.timerHear := by
  unfold runTimer
  rw [waiting]
  cases target with
  | none => exact Or.inr ⟨nofun, rfl⟩
  | some deadline =>
      by_cases due : deadline ≤ world.clock
      · exact Or.inl ⟨deadline, rfl, due, if_pos due⟩
      · refine Or.inr ⟨?_, if_neg due⟩
        intro other same
        rw [← Option.some.inj same]
        exact Nat.lt_of_not_le due

def Drained (world : World) : Prop :=
  world.consumer.stage = .absent ∨ world.bridge.intake.queue = []

theorem pump_empty {world : World} {inside : Interlude}
    (empty : world.bridge.intake.queue = []) : world.pump inside = (.empty, world) := by
  unfold pump Intake.receive
  rw [empty]

theorem pump_waiting {world : World} {inside : Interlude} (sessionFree : world.sessionBusy = false)
    {report : Report} {rest : List Report}
    (waiting : world.bridge.intake.queue = report :: rest) :
    world.pump inside =
      let (result, last) :=
        { world.setQueue rest with sessionBusy := true }.process inside .session report
      (.ofResult .delivered result, { last with sessionBusy := false }) := by
  unfold pump Intake.receive
  rw [waiting]
  exact if_neg (Bool.eq_false_iff.mp sessionFree)

namespace Calm

theorem beside {before after : World} (calm : before.Calm)
    (same : after.posture = before.posture) : after.Calm := by
  unfold Calm
  rw [same]
  exact calm

variable {world : World} (calm : world.Calm)

include calm

theorem unlocked : world.bridge.locked = false := calm.free

theorem setConsumer {stage : ConsumerStage} (either : stage = .absent ∨ stage = .receiving) :
    (world.setConsumer stage).Calm :=
  { free := calm.free
    sessionFree := calm.sessionFree
    consumer := either
    timer := calm.timer
    unnoted := calm.unnoted }

theorem setTimer {timer : TimerStage}
    (either : timer = .absent ∨ timer = .starting ∨ ∃ target, timer = .waiting target) :
    (world.setTimer timer).Calm :=
  { free := calm.free
    sessionFree := calm.sessionFree
    consumer := calm.consumer
    timer := either
    unnoted := calm.unnoted }

theorem rearm (asOf : Nat) : (world.rearm asOf).2.Calm := by
  rw [rearm_free calm.free]
  exact calm.beside rfl

theorem process (owner : ConverterOwner) (report : Report) :
    (world.process (interlude 0) owner report).2.Calm :=
  calm.beside (posture_of_outside (outside_process calm.free owner report))

theorem check (asOf : Nat) : (world.check (interlude 0) asOf).2.Calm := by
  rw [check_free calm.free]
  exact calm.beside (posture_of_outside (outside_checkDeadline calm.free asOf))

theorem pump : (world.pump (interlude 0)).2.Calm := by
  cases waiting : world.bridge.intake.queue with
  | nil =>
      rw [pump_empty waiting]
      exact calm
  | cons report rest =>
      have busy : { world.setQueue rest with sessionBusy := true }.bridge.locked = false :=
        calm.free
      have posture := posture_of_outside (outside_process busy .session report)
      rw [World.pump_waiting calm.sessionFree waiting]
      refine calm.beside ?_
      refine (congrArg (fun posture => { posture with sessionBusy := false }) posture).trans ?_
      exact congrArg (fun sessionBusy => { world.posture with sessionBusy })
        calm.sessionFree.symm

theorem consumerTurn_drained (drained : world.Drained) :
    world.consumerTurn (interlude 0) = world := by
  have stages : world.consumer.stage = .absent ∨ world.consumer.stage = .receiving :=
    calm.consumer
  unfold World.consumerTurn Intake.receive
  rcases stages with absent | receiving
  · rw [absent]
  · rcases drained with absent | empty
    · rw [absent]
    · rw [receiving, empty]

theorem drained_or :
    world.Drained ∨ ∃ report rest, world.consumer.stage = .receiving ∧
      world.bridge.intake.queue = report :: rest := by
  cases waiting : world.bridge.intake.queue with
  | nil => exact Or.inl (Or.inr waiting)
  | cons report rest =>
      rcases calm.consumer with absent | receiving
      · exact Or.inl (Or.inl absent)
      · exact Or.inr ⟨report, rest, receiving, rfl⟩

theorem posture_consumerTurn : (world.consumerTurn (interlude 0)).posture = world.posture := by
  rcases calm.drained_or with drained | ⟨report, rest, receiving, waiting⟩
  · rw [calm.consumerTurn_drained drained]
  · have outside := outside_consumerTurn calm.unlocked receiving waiting
    exact (posture_of_outside outside).trans (world.posture_setQueue rest)

theorem consumerTurn : (world.consumerTurn (interlude 0)).Calm :=
  calm.beside calm.posture_consumerTurn

theorem timerRead : world.timerRead.Calm := by
  rw [timerRead_free calm.free]
  exact (calm.setTimer (Or.inr (Or.inr ⟨world.bridge.lifecycle.deadline, rfl⟩))).beside rfl

theorem timerHear : world.timerHear.Calm := by
  rw [timerHear_free calm.free]
  split
  · exact calm.timerRead
  · exact calm

theorem timerCheck (asOf : Nat) : (world.timerCheck (interlude 0) asOf).Calm := by
  have busy : (world.setTimer .busy).bridge.locked = false := calm.free
  have posture := posture_of_outside (outside_checkDeadline busy asOf)
  unfold World.timerCheck
  rw [if_neg (Bool.eq_false_iff.mp calm.unlocked)]
  generalize ((world.setTimer .busy).checkDeadline (interlude 0) asOf).2 = checked at posture ⊢
  have still : checked.bridge.locked = false :=
    (congrArg Posture.locked posture).trans calm.free
  have waiting := calm.setTimer (Or.inr (Or.inr ⟨checked.bridge.lifecycle.deadline, rfl⟩))
  rw [timerRead_free still]
  exact waiting.beside
    (congrArg
      (fun posture => { posture with timer := .waiting checked.bridge.lifecycle.deadline })
      posture)

theorem runTimer : (world.runTimer (interlude 0)).Calm := by
  rcases calm.timer with absent | starting | ⟨target, waiting⟩
  · have stage : world.timer = .absent := absent
    unfold World.runTimer
    rw [stage]
    exact calm
  · have stage : world.timer = .starting := starting
    unfold World.runTimer
    rw [stage]
    exact calm.timerRead
  · rcases runTimer_waiting waiting (interlude 0) with
      ⟨deadline, _same, _due, turn⟩ | ⟨_ahead, turn⟩
    · rw [turn]
      exact calm.timerCheck _
    · rw [turn]
      exact calm.timerHear

theorem runConsumer : (world.runConsumer (interlude 0)).Calm :=
  repeat_keeps Calm (fun earlier => earlier.consumerTurn) _ calm

theorem settle : (world.settle (interlude 0)).Calm :=
  repeat_keeps Calm (fun earlier => earlier.runConsumer.runTimer) _ calm

theorem take (step : Step) : (world.take (interlude 0) step).2.Calm := by
  cases step with
  | connect interfaceId descriptor =>
      simp only [World.take, World.connect]
      split
      · exact calm.beside rfl
      · rename_i generation intake _connected
        have connected : (world.setIntake intake).Calm := calm.beside rfl
        exact connected.rearm _
  | report interfaceId reportId payload =>
      cases reportId <;> exact calm.beside rfl
  | disconnect interfaceId => exact calm.beside rfl
  | pump => exact calm.pump
  | apply key value =>
      simp only [World.take, World.apply]
      split
      · exact calm
      · rename_i changed _accepted
        rw [underLock_free calm.unlocked]
        exact calm.beside rfl
  | settings => exact calm
  | activity =>
      simp only [World.take, World.activity, underLock_free calm.unlocked]
      exact calm
  | check ahead => exact calm.check _
  | rearm ahead => exact calm.rearm _
  | converter interfaceId reportId => exact calm
  | links usbDevice blePeer prioritySession => exact calm.beside rfl
  | failures bringUp tearDown send =>
      cases bringUp <;> cases tearDown <;> cases send <;> exact calm.beside rfl
  | advance time =>
      have waited : (world.wait time).Calm := calm.beside rfl
      simp only [World.take]
      exact waited.settle
  | spawn task =>
      cases task with
      | consumer => exact (calm.setConsumer (Or.inr rfl)).beside rfl
      | timer => exact (calm.setTimer (Or.inr (Or.inl rfl))).beside rfl
  | during operation steps => exact calm.beside rfl

end Calm

theorem Quiet.calm {world : World} (quiet : world.Quiet) : world.Calm := by
  induction quiet with
  | new settings depth => exact calm_new settings depth
  | take step _earlier ih => exact ih.take step
  | process owner report _earlier ih => exact ih.process owner report
  | check asOf _earlier ih => exact ih.check asOf
  | rearm asOf _earlier ih => exact ih.rearm asOf
  | wait time _earlier ih => exact ih.beside rfl
  | consumerTurn _earlier ih => exact ih.consumerTurn
  | timerTurn _earlier ih => exact ih.runTimer

theorem Quiet.runConsumer {world : World} (quiet : world.Quiet) :
    (world.runConsumer (interlude 0)).Quiet := repeat_keeps Quiet .consumerTurn _ quiet

end World

end HidBridge
