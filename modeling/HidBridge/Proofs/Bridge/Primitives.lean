/-
What every run of a bridge is made of. Each step, each turn of a task and
everything inside calls of the radio comes down to a few changes of the world. An
invariant that these keep is kept by all of them, and so is a relation between the
world before and the world after, such as that something stays the same while the
lifecycle lock is held.
-/

import HidBridge.Bridge.Run

namespace HidBridge

/-! ### What each change is about -/

section Changes

variable (world : World) (intake : Intake) (lifecycle : Lifecycle) (stage : ConsumerStage)
  (converter : Converter) (owner : ConverterOwner) (report : Report)

@[simp]
theorem World.bridge_setIntake :
    (world.setIntake intake).bridge = { world.bridge with intake } := rfl

@[simp]
theorem World.bridge_setConsumer : (world.setConsumer stage).bridge = world.bridge := rfl

@[simp]
theorem World.bridge_hold :
    (world.hold lifecycle).bridge = { world.bridge with lifecycle, locked := true } := rfl

@[simp]
theorem World.bridge_release :
    (world.release lifecycle).bridge =
      { world.bridge with
        lifecycle, suspended := lifecycle.isSuspended, locked := false } := rfl

@[simp]
theorem World.pending_setIntake : (world.setIntake intake).pending = world.pending := rfl

@[simp]
theorem World.pending_setConsumer : (world.setConsumer stage).pending = world.pending := rfl

@[simp]
theorem World.pending_hold : (world.hold lifecycle).pending = world.pending := rfl

theorem World.setConsumer_same {world : World} {stage : ConsumerStage}
    (same : world.consumer.stage = stage) : world.setConsumer stage = world := by
  rw [← same]
  rfl

@[simp]
theorem World.bridge_setConverter :
    (world.setConverter converter owner).bridge = world.bridge := by
  cases owner <;> rfl

@[simp]
theorem World.links_setConverter : (world.setConverter converter owner).links = world.links := by
  cases owner <;> rfl

@[simp]
theorem World.radio_setConverter : (world.setConverter converter owner).radio = world.radio := by
  cases owner <;> rfl

@[simp]
theorem World.pending_setConverter :
    (world.setConverter converter owner).pending = world.pending := by
  cases owner <;> rfl

@[simp]
theorem World.bridge_convert : (world.convert owner report).2.bridge = world.bridge :=
  bridge_setConverter world _ owner

@[simp]
theorem World.links_convert : (world.convert owner report).2.links = world.links :=
  links_setConverter world _ owner

@[simp]
theorem World.radio_convert : (world.convert owner report).2.radio = world.radio :=
  radio_setConverter world _ owner

@[simp]
theorem World.pending_convert : (world.convert owner report).2.pending = world.pending :=
  pending_setConverter world _ owner

end Changes

/-- An invariant holds after a change, and the change is within a frame. -/
structure Keeps (Inv : World → Prop) (Frame : World → World → Prop) (before after : World) :
    Prop where
  inv : Inv after
  frame : Frame before after

def Interlude.Keeping (Inv : World → Prop) (Frame : World → World → Prop)
    (inside : Interlude) : Prop :=
  ∀ operation world, Inv world → Keeps Inv Frame world (inside operation world)

/-- The changes that runs are made of keep an invariant, within a frame. -/
structure Primitives (Inv : World → Prop) (Frame : World → World → Prop) : Prop where
  refl : ∀ world, Frame world world
  trans : ∀ {first second third}, Frame first second → Frame second third → Frame first third
  wait : ∀ {world} time, Inv world → Keeps Inv Frame world (world.wait time)
  connect : ∀ {world} interfaceId descriptor, Inv world →
    Keeps Inv Frame world
      (world.setIntake (world.bridge.intake.connect interfaceId descriptor).2)
  disconnect : ∀ {world} interfaceId, Inv world →
    Keeps Inv Frame world (world.disconnect interfaceId)
  submit : ∀ {world} interfaceId reportId payload, Inv world →
    Keeps Inv Frame world
      (world.setIntake (world.bridge.intake.submit interfaceId reportId payload).2)
  submitTransfer : ∀ {world} interfaceId transfer, Inv world →
    Keeps Inv Frame world
      (world.setIntake (world.bridge.intake.submitTransfer interfaceId transfer).2)
  receive : ∀ {world report intake}, Inv world →
    world.bridge.intake.receive = some (report, intake) →
    Keeps Inv Frame world (world.setIntake intake)
  convert : ∀ {world} owner report, Inv world →
    Keeps Inv Frame world (world.convert owner report).2
  sessionBusy : ∀ {world} sessionBusy, Inv world →
    Keeps Inv Frame world { world with sessionBusy }
  links : ∀ {world} usbDevice blePeer prioritySession, Inv world →
    Keeps Inv Frame world (world.setLinks usbDevice blePeer prioritySession)
  failure : ∀ {world} operation failure, Inv world →
    Keeps Inv Frame world (world.setFailure operation failure)
  pending : ∀ {world} pending, Inv world → Keeps Inv Frame world { world with pending }
  note : ∀ {world inside} step, Interlude.Keeping Inv Frame inside → Inv world →
    Keeps Inv Frame world (world.take inside step).2 →
    Keeps Inv Frame world (world.takeNested inside step)
  spawn : ∀ {world} task, Inv world → Keeps Inv Frame world (world.spawn task)
  setConsumer : ∀ {world} stage, Inv world → Keeps Inv Frame world (world.setConsumer stage)
  setTimer : ∀ {world} stage, (∀ deadline, stage ≠ .waiting deadline) → Inv world →
    Keeps Inv Frame world (world.setTimer stage)
  timerRead : ∀ {world}, Inv world → Keeps Inv Frame world world.timerRead
  timerHear : ∀ {world}, Inv world → Keeps Inv Frame world world.timerHear
  armDeadline : ∀ {world} asOf, Inv world → world.bridge.locked = false →
    Keeps Inv Frame world (world.armDeadline asOf)
  adopt : ∀ {world key value changed}, Inv world → world.bridge.locked = false →
    world.bridge.settings.apply key value = .ok changed →
    Keeps Inv Frame world (world.adopt changed)
  send : ∀ {world inside} message, Interlude.Keeping Inv Frame inside → Inv world →
    world.bridge.suspended = false →
    Keeps Inv Frame world (world.call inside (.send message)).2
  checkDeadline : ∀ {world inside} asOf, Interlude.Keeping Inv Frame inside → Inv world →
    world.bridge.locked = false →
    Keeps Inv Frame world (world.checkDeadline inside asOf).2
  resumeRadio : ∀ {world inside}, Interlude.Keeping Inv Frame inside → Inv world →
    world.bridge.locked = false →
    Keeps Inv Frame world (world.resumeRadio inside).2 ∧
      ((world.resumeRadio inside).1 = .ok () →
        (world.resumeRadio inside).2.bridge.suspended = false)

theorem World.noted_note {holds : NestedAnswer → Prop} {world : World}
    (noted : ∀ noted, noted ∈ world.nested → holds noted) (step : Step) (answer : Answer)
    (now : holds ⟨step, answer, world.clock, world.bridge, world.radio, world.timer⟩) :
    ∀ noted, noted ∈ (world.note step answer).nested → holds noted :=
  List.forall_mem_append.mpr ⟨noted, List.forall_mem_singleton.mpr now⟩

section Deliver

variable (world : World) (owner : ConverterOwner) (report : Report)

theorem World.deliver_forms (inside : Interlude) :
    (world.deliver inside owner report).2 = (world.convert owner report).2 ∨
    ∃ message, (world.deliver inside owner report).2 =
      ((world.convert owner report).2.forward inside message).2 := by
  unfold deliver
  cases world.convert owner report with
  | mk outcome next =>
      cases outcome with
      | error fault => exact Or.inl rfl
      | ok message =>
          cases message with
          | none => exact Or.inl rfl
          | some message => exact Or.inr ⟨message, rfl⟩

end Deliver

namespace Primitives

variable {Inv : World → Prop} {Frame : World → World → Prop} (kept : Primitives Inv Frame)
  {inside : Interlude} (calm : inside.Keeping Inv Frame) {world : World}

include kept

theorem idle (inv : Inv world) : Keeps Inv Frame world world :=
  { inv, frame := kept.refl world }

theorem andThen {first second third : World} (earlier : Keeps Inv Frame first second)
    (later : Keeps Inv Frame second third) : Keeps Inv Frame first third :=
  { inv := later.inv, frame := kept.trans earlier.frame later.frame }

theorem underLock {α : Type} (inv : Inv world) (milliseconds : Nat)
    {action : World → Except Fault α × World}
    (free : world.bridge.locked = false → Keeps Inv Frame world (action world).2) :
    Keeps Inv Frame world (world.underLock milliseconds action).2 := by
  unfold World.underLock
  split
  · exact kept.wait _ inv
  · rename_i unlocked
    exact free (Bool.eq_false_iff.mpr unlocked)

theorem rearm (inv : Inv world) (asOf : Nat) : Keeps Inv Frame world (world.rearm asOf).2 :=
  kept.underLock inv _ (fun free => kept.armDeadline asOf inv free)

theorem activity (inv : Inv world) : Keeps Inv Frame world world.activity.2 :=
  kept.underLock inv _ (fun _free => kept.idle inv)

theorem apply (inv : Inv world) (key : String) (value : SettingValue) :
    Keeps Inv Frame world (world.apply key value).2 := by
  unfold World.apply
  split
  · exact kept.idle inv
  · rename_i changed accepted
    exact kept.underLock inv _ (fun free => kept.adopt inv free accepted)

theorem connectStep (inv : Inv world) (interfaceId : InterfaceId) (descriptor : List UInt8) :
    Keeps Inv Frame world (world.connect interfaceId descriptor).2 := by
  have connected := kept.connect interfaceId descriptor inv
  unfold World.connect
  split
  · rename_i fault intake result
    rw [result] at connected
    exact connected
  · rename_i generation intake result
    rw [result] at connected
    exact kept.andThen connected (kept.rearm connected.inv _)

theorem submitStep (inv : Inv world) (interfaceId : InterfaceId) (reportId : Option ReportId)
    (payload : List UInt8) :
    Keeps Inv Frame world (world.submit interfaceId reportId payload).2 := by
  unfold World.submit
  cases reportId with
  | some reportId =>
      have submitted := kept.submit interfaceId reportId payload inv
      exact kept.andThen submitted (kept.wait _ submitted.inv)
  | none =>
      have submitted := kept.submitTransfer interfaceId payload inv
      exact kept.andThen submitted (kept.wait _ submitted.inv)

include calm

theorem check (inv : Inv world) (asOf : Nat) :
    Keeps Inv Frame world (world.check inside asOf).2 :=
  kept.underLock inv _ (fun free => kept.checkDeadline asOf calm inv free)

theorem resume (inv : Inv world) :
    Keeps Inv Frame world (world.resume inside).2 ∧
      ((world.resume inside).1 = .ok () →
        (world.resume inside).2.bridge.suspended = false) := by
  unfold World.resume World.underLock
  split
  · exact ⟨kept.wait _ inv, fun impossible => nomatch impossible⟩
  · rename_i unlocked
    exact kept.resumeRadio calm inv (Bool.eq_false_iff.mpr unlocked)

theorem forward (inv : Inv world) (awake : world.bridge.suspended = false)
    (message : Output.Message) : Keeps Inv Frame world (world.forward inside message).2 := by
  unfold World.forward
  split
  · exact kept.send message calm inv awake
  · exact kept.idle inv

theorem deliver (inv : Inv world) (awake : world.bridge.suspended = false)
    (owner : ConverterOwner) (report : Report) :
    Keeps Inv Frame world (world.deliver inside owner report).2 := by
  have converted := kept.convert owner report inv
  have up : (world.convert owner report).2.bridge.suspended = false := by simp [awake]
  rcases world.deliver_forms owner report inside with silent | ⟨message, forwarded⟩
  · rw [silent]
    exact converted
  · rw [forwarded]
    exact kept.andThen converted
      (kept.forward calm converted.inv up message)

theorem process (inv : Inv world) (owner : ConverterOwner) (report : Report) :
    Keeps Inv Frame world (world.process inside owner report).2 := by
  have delivered {awake : World} (resumed : Keeps Inv Frame world awake)
      (up : awake.bridge.suspended = false) :
      Keeps Inv Frame world
        (if (awake.deliver inside owner report).2.pushesBack
            (awake.deliver inside owner report).1 then
          ((awake.deliver inside owner report).2.rearm
            (awake.deliver inside owner report).2.clock).2
        else (awake.deliver inside owner report).2) := by
    have first := kept.andThen resumed (kept.deliver calm resumed.inv up owner report)
    split
    · exact kept.andThen first (kept.rearm first.inv _)
    · exact first
  unfold World.process
  cases suspended : world.bridge.suspended with
  | false =>
      rw [if_neg Bool.false_ne_true]
      exact delivered (kept.idle inv) suspended
  | true =>
      rw [if_pos rfl]
      obtain ⟨resumed, up⟩ := kept.resume calm inv
      cases result : world.resume inside with
      | mk outcome awake =>
          rw [result] at resumed up
          cases outcome with
          | error fault => exact resumed
          | ok _ => exact delivered resumed (up rfl)

theorem pump (inv : Inv world) : Keeps Inv Frame world (world.pump inside).2 := by
  unfold World.pump
  split
  · exact kept.idle inv
  · rename_i report intake received
    have first := kept.receive inv received
    dsimp only
    split
    · exact kept.andThen first (kept.process calm first.inv .nobody report)
    · have busy := kept.andThen first (kept.sessionBusy true first.inv)
      have processed := kept.andThen busy (kept.process calm busy.inv .session report)
      exact kept.andThen processed (kept.sessionBusy false processed.inv)

/-! ### Turns of the tasks -/

theorem consumerDeliver (inv : Inv world) (awake : world.bridge.suspended = false)
    (report : Report) : Keeps Inv Frame world (world.consumerDeliver inside report) := by
  have busy := kept.setConsumer .busy inv
  have delivered := kept.andThen busy (kept.deliver calm busy.inv awake .consumer report)
  unfold World.consumerDeliver
  dsimp only
  split
  · split
    · exact kept.andThen delivered (kept.setConsumer _ delivered.inv)
    · rename_i unlocked
      have armed := kept.andThen delivered
        (kept.armDeadline ((world.setConsumer .busy).deliver inside .consumer report).2.clock
          delivered.inv (Bool.eq_false_iff.mpr unlocked))
      exact kept.andThen armed (kept.setConsumer _ armed.inv)
  · exact kept.andThen delivered (kept.setConsumer _ delivered.inv)

theorem consumerResume (inv : Inv world) (free : world.bridge.locked = false)
    (report : Report) : Keeps Inv Frame world (world.consumerResume inside report) := by
  have busy := kept.setConsumer .busy inv
  obtain ⟨resumed, up⟩ := kept.resumeRadio calm busy.inv free
  unfold World.consumerResume
  cases result : (world.setConsumer .busy).resumeRadio inside with
  | mk outcome next =>
      rw [result] at resumed up
      have awake := kept.andThen busy resumed
      cases outcome with
      | error fault => exact kept.andThen awake (kept.setConsumer _ awake.inv)
      | ok _ => exact kept.andThen awake (kept.consumerDeliver calm awake.inv (up rfl) report)

theorem consumerProcess (inv : Inv world) (report : Report) :
    Keeps Inv Frame world (world.consumerProcess inside report) := by
  unfold World.consumerProcess
  split
  · split
    · exact kept.setConsumer _ inv
    · rename_i unlocked
      exact kept.consumerResume calm inv (Bool.eq_false_iff.mpr unlocked) report
  · rename_i awake
    exact kept.consumerDeliver calm inv (Bool.eq_false_iff.mpr awake) report

theorem consumerTurn (inv : Inv world) : Keeps Inv Frame world (world.consumerTurn inside) := by
  unfold World.consumerTurn
  split
  · exact kept.idle inv
  · exact kept.idle inv
  · split
    · exact kept.idle inv
    · rename_i report intake received
      have first := kept.receive inv received
      exact kept.andThen first (kept.consumerProcess calm first.inv report)
  · rename_i report limit _stage
    split
    · rename_i unlocked
      exact kept.consumerResume calm inv ((Bool.not_eq_true' _).mp unlocked) report
    · split
      · exact kept.setConsumer _ inv
      · exact kept.idle inv
  · rename_i asOf limit _stage
    split
    · rename_i unlocked
      have armed := kept.armDeadline asOf inv ((Bool.not_eq_true' _).mp unlocked)
      exact kept.andThen armed (kept.setConsumer _ armed.inv)
    · split
      · exact kept.setConsumer _ inv
      · exact kept.idle inv

omit calm in
theorem turns {turn : World → World}
    (one : ∀ {current}, Inv current → Keeps Inv Frame current (turn current))
    (count : Nat) (inv : Inv world) : Keeps Inv Frame world (Nat.repeat turn count world) := by
  induction count with
  | zero => exact kept.idle inv
  | succ count ih => exact kept.andThen ih (one ih.inv)

theorem runConsumer (inv : Inv world) : Keeps Inv Frame world (world.runConsumer inside) :=
  kept.turns (kept.consumerTurn calm) _ inv

theorem timerCheck (inv : Inv world) (asOf : Nat) :
    Keeps Inv Frame world (world.timerCheck inside asOf) := by
  unfold World.timerCheck
  split
  · exact kept.setTimer _ (fun _deadline => nofun) inv
  · rename_i unlocked
    have busy := kept.setTimer .busy (fun _deadline => nofun) inv
    have checked := kept.andThen busy
      (kept.checkDeadline asOf calm busy.inv (Bool.eq_false_iff.mpr unlocked))
    exact kept.andThen checked (kept.timerRead checked.inv)

theorem runTimer (inv : Inv world) : Keeps Inv Frame world (world.runTimer inside) := by
  unfold World.runTimer
  split
  · exact kept.idle inv
  · exact kept.idle inv
  · exact kept.timerRead inv
  · split
    · exact kept.timerRead inv
    · split
      · exact kept.setTimer _ (fun _deadline => nofun) inv
      · exact kept.idle inv
  · split
    · exact kept.timerRead inv
    · exact kept.idle inv
  · exact kept.timerHear inv
  · split
    · exact kept.timerCheck calm inv _
    · exact kept.timerHear inv
  · split
    · exact kept.timerCheck calm inv _
    · split
      · exact kept.timerRead inv
      · exact kept.idle inv

theorem settle (inv : Inv world) : Keeps Inv Frame world (world.settle inside) := by
  apply kept.turns _ _ inv
  intro current inv
  have consumed := kept.runConsumer calm inv
  exact kept.andThen consumed (kept.runTimer calm consumed.inv)

/-! ### Steps, and steps inside calls -/

theorem take (inv : Inv world) (step : Step) :
    Keeps Inv Frame world (world.take inside step).2 := by
  cases step with
  | connect interfaceId descriptor => exact kept.connectStep inv interfaceId descriptor
  | report interfaceId reportId payload => exact kept.submitStep inv interfaceId reportId payload
  | disconnect interfaceId => exact kept.disconnect interfaceId inv
  | pump => exact kept.pump calm inv
  | apply key value => exact kept.apply inv key value
  | settings => exact kept.idle inv
  | activity => exact kept.activity inv
  | check ahead => exact kept.check calm inv _
  | rearm ahead => exact kept.rearm inv _
  | converter interfaceId reportId => exact kept.idle inv
  | links usbDevice blePeer prioritySession =>
      exact kept.links usbDevice blePeer prioritySession inv
  | failures bringUp tearDown send =>
      have first := kept.failure .bringUp bringUp inv
      have second := kept.andThen first (kept.failure .tearDown tearDown first.inv)
      exact kept.andThen second (kept.failure .send send second.inv)
  | advance time =>
      have waited := kept.wait time inv
      simp only [World.take]
      exact kept.andThen waited (kept.settle calm waited.inv)
  | spawn task => exact kept.spawn task inv
  | during operation steps => exact kept.pending _ inv

theorem takeNested (inv : Inv world) (step : Step) :
    Keeps Inv Frame world (world.takeNested inside step) :=
  kept.note step calm inv (kept.take calm inv step)

theorem takeAllNested (inv : Inv world) (steps : List Step) :
    Keeps Inv Frame world
      (steps.foldl (fun current step => current.takeNested inside step) world) := by
  induction steps generalizing world with
  | nil => exact kept.idle inv
  | cons step rest ih =>
      have first := kept.takeNested calm inv step
      exact kept.andThen first (ih first.inv)

omit calm in
/-- However deep calls lie inside each other, what happens inside them keeps the
invariant. -/
theorem interlude (depth : Nat) : (World.interlude depth).Keeping Inv Frame := by
  induction depth with
  | zero =>
      intro _operation _world inv
      exact kept.idle inv
  | succ depth ih =>
      intro operation world inv
      simp only [World.interlude]
      cases taken : world.takePending operation with
      | none => exact kept.idle inv
      | some both =>
          obtain ⟨found, _isFor, same⟩ := Option.map_eq_some_iff.mp taken
          have left := kept.pending
            (world.pending.eraseP (fun pending => decide (pending.operation = operation))) inv
          rw [← same]
          exact kept.andThen left (kept.takeAllNested ih left.inv found.steps)

end Primitives

end HidBridge
