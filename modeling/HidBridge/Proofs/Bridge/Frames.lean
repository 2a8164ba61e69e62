/-
Further relations between the world before and the world after, kept by every run
in which lifecycle, flag and radio fit together. A relation that holds across each
change of the intake, across changes that concern neither intake nor radio, and
from the beginning of a call of the radio to its end, holds across whole runs.
-/

import HidBridge.Proofs.Bridge.Lifecycle

namespace HidBridge

namespace World

def begun (world : World) (call : RadioCall) : World :=
  { world with radio := world.radio.begin call }

/-- The world after a call of the radio, from the world at the end of what
happened inside. -/
def ended (world : World) (call : RadioCall) (failure : Option RadioFault) : World :=
  { world with
    radio := { world.radio with events := world.radio.events ++ [.ended call failure] } }

theorem call_eq (world : World) (inside : Interlude) (call : RadioCall) :
    ∃ failure, world.call inside call =
      (failure, (inside call.operation (world.begun call)).ended call failure) :=
  ⟨_, rfl⟩

namespace Coherent

variable {world : World} (coherent : world.Coherent)

include coherent

theorem isUp_of_awake (awake : world.bridge.suspended = false) : world.radio.isUp = true := by
  have shown := coherent.now.shown
  rw [awake] at shown
  exact (Bool.not_eq_false' _).mp shown.symm

theorem isUp_of_suspended (suspended : world.bridge.suspended = true) :
    world.radio.isUp = false := by
  have shown := coherent.now.shown
  rw [suspended] at shown
  exact (Bool.not_eq_true' _).mp shown.symm

theorem forget : Keeps Coherent Guarded world { world with nested := [] } :=
  { inv := { now := coherent.now, noted := fun _noted member => nomatch member }
    frame := { locked := rfl, held := fun _held => ⟨rfl, rfl, rfl, rfl, rfl⟩ } }

theorem begun_send (awake : world.bridge.suspended = false) (message : Output.Message) :
    (world.begun (.send message)).Coherent :=
  (coherent.event (.began (.send message)) (coherent.isUp_of_awake awake) rfl).inv

theorem begun_tearDown {asOf : Nat} {next : Lifecycle} (free : world.bridge.locked = false)
    (started : world.bridge.lifecycle.startCheck asOf world.links = (none, next)) :
    ((world.hold next).begun .tearDown).Coherent := by
  obtain ⟨up, held⟩ := coherent.hold_startCheck free started
  exact (held.event (.began .tearDown) up rfl).inv

theorem begun_bringUp {next : Lifecycle} (free : world.bridge.locked = false)
    (resumed : world.bridge.lifecycle.startResume = some next) :
    ((world.hold next).begun .bringUp).Coherent := by
  obtain ⟨isDown, held⟩ := coherent.hold_startResume free resumed
  exact (held.event (.began .bringUp) ((Bool.not_eq_true' _).mpr isDown) rfl).inv

end Coherent

structure Dealings where
  intake : Intake
  session : Converter
  consumer : Converter
  events : List RadioEvent

/-- What the bridge has to do with devices and with the radio. -/
def dealings (world : World) : Dealings :=
  { intake := world.bridge.intake
    session := world.session
    consumer := world.consumer.converter
    events := world.radio.events }

section Dealings

variable (world : World)

@[simp]
theorem dealings_timerRead : world.timerRead.dealings = world.dealings := by
  unfold timerRead
  split <;> rfl

@[simp]
theorem dealings_timerHear : world.timerHear.dealings = world.dealings := by
  unfold timerHear
  split
  · rw [dealings_timerRead]
    rfl
  · rfl

@[simp]
theorem dealings_setFailure (operation : RadioOperation)
    (failure : Option (Option RadioFault)) :
    (world.setFailure operation failure).dealings = world.dealings := by
  cases failure with
  | none => rfl
  | some failure => cases operation <;> rfl

end Dealings

/-- A relation that runs keep beside what the lock guards. -/
structure Framing (Extra : World → World → Prop) : Prop where
  trans : ∀ {first second third}, Guarded first second → Extra first second →
    Extra second third → Extra first third
  beside : ∀ {before after : World}, after.dealings = before.dealings → Extra before after
  connect : ∀ {world} interfaceId descriptor,
    Extra world (world.setIntake (world.bridge.intake.connect interfaceId descriptor).2)
  disconnect : ∀ {world} interfaceId, Extra world (world.disconnect interfaceId)
  submit : ∀ {world} interfaceId reportId payload,
    Extra world (world.setIntake (world.bridge.intake.submit interfaceId reportId payload).2)
  submitTransfer : ∀ {world} interfaceId transfer,
    Extra world (world.setIntake (world.bridge.intake.submitTransfer interfaceId transfer).2)
  receive : ∀ {world report intake}, world.bridge.intake.receive = some (report, intake) →
    Extra world (world.setIntake intake)
  convert : ∀ {world} owner report, Extra world (world.convert owner report).2
  spawn : ∀ {world} task, Extra world (world.spawn task)
  send : ∀ {world last} message failure, world.bridge.suspended = false →
    Extra (world.begun (.send message)) last → Extra world (last.ended (.send message) failure)
  /-- The end of a call that was begun under the lock, when the lock was free. -/
  underLock : ∀ {world last} call failure next lifecycle, world.bridge.locked = false →
    Extra ((world.hold next).begun call) last →
    Extra world ((last.ended call failure).release lifecycle)

structure Framed (Extra : World → World → Prop) (before after : World) : Prop where
  guarded : Guarded before after
  extra : Extra before after

theorem framed {Extra : World → World → Prop} {before after : World}
    (first : Keeps Coherent Guarded before after) (extra : Extra before after) :
    Keeps Coherent (Framed Extra) before after :=
  { inv := first.inv, frame := { guarded := first.frame, extra } }

theorem guarded_of_framed {Extra : World → World → Prop} {inside : Interlude}
    (calm : inside.Keeping Coherent (Framed Extra)) : inside.Keeping Coherent Guarded :=
  fun operation world coherent =>
    { inv := (calm operation world coherent).inv
      frame := (calm operation world coherent).frame.guarded }

namespace Framing

variable {Extra : World → World → Prop} (framing : Framing Extra) {world : World}
  {inside : Interlude}

include framing

theorem checkDeadline (asOf : Nat) (coherent : world.Coherent)
    (free : world.bridge.locked = false)
    (calm : ∀ operation world, World.Coherent world → Extra world (inside operation world)) :
    Extra world (world.checkDeadline inside asOf).2 := by
  unfold World.checkDeadline
  split
  · exact framing.beside rfl
  · rename_i next started
    exact framing.underLock .tearDown _ next _ free
      (calm .tearDown _ (coherent.begun_tearDown free started))

theorem resumeRadio (coherent : world.Coherent) (free : world.bridge.locked = false)
    (calm : ∀ operation world, World.Coherent world → Extra world (inside operation world)) :
    Extra world (world.resumeRadio inside).2 := by
  unfold World.resumeRadio
  split
  · exact framing.beside rfl
  · rename_i next resumed
    exact framing.underLock .bringUp _ next _ free
      (calm .bringUp _ (coherent.begun_bringUp free resumed))

theorem primitives : Primitives Coherent (Framed Extra) := by
  have kept := coherent_primitives
  exact
    { refl := fun world => { guarded := .refl world, extra := framing.beside rfl }
      trans := fun earlier later =>
        { guarded := earlier.guarded.trans later.guarded
          extra := framing.trans earlier.guarded earlier.extra later.extra }
      wait := fun time coherent =>
        framed (kept.wait time coherent) (framing.beside rfl)
      connect := fun interfaceId descriptor coherent =>
        framed (kept.connect interfaceId descriptor coherent)
          (framing.connect interfaceId descriptor)
      disconnect := fun interfaceId coherent =>
        framed (kept.disconnect interfaceId coherent) (framing.disconnect interfaceId)
      submit := fun interfaceId reportId payload coherent =>
        framed (kept.submit interfaceId reportId payload coherent)
          (framing.submit interfaceId reportId payload)
      submitTransfer := fun interfaceId transfer coherent =>
        framed (kept.submitTransfer interfaceId transfer coherent)
          (framing.submitTransfer interfaceId transfer)
      receive := fun coherent received =>
        framed (kept.receive coherent received) (framing.receive received)
      convert := fun owner report coherent =>
        framed (kept.convert owner report coherent) (framing.convert owner report)
      sessionBusy := fun sessionBusy coherent =>
        framed (kept.sessionBusy sessionBusy coherent) (framing.beside rfl)
      links := fun usbDevice blePeer prioritySession coherent =>
        framed (kept.links usbDevice blePeer prioritySession coherent)
          (framing.beside rfl)
      failure := fun operation failure coherent =>
        framed (kept.failure operation failure coherent)
          (framing.beside (dealings_setFailure _ operation failure))
      pending := fun pending coherent =>
        framed (kept.pending pending coherent) (framing.beside rfl)
      note := fun step calm coherent taken =>
        framed
          (kept.note step (guarded_of_framed calm) coherent
            { inv := taken.inv, frame := taken.frame.guarded })
          (framing.trans taken.frame.guarded taken.frame.extra (framing.beside rfl))
      spawn := fun task coherent => framed (kept.spawn task coherent) (framing.spawn task)
      setConsumer := fun stage coherent =>
        framed (kept.setConsumer stage coherent) (framing.beside rfl)
      setTimer := fun stage notWaiting coherent =>
        framed (kept.setTimer stage notWaiting coherent) (framing.beside rfl)
      timerRead := fun coherent =>
        framed (kept.timerRead coherent) (framing.beside (dealings_timerRead _))
      timerHear := fun coherent =>
        framed (kept.timerHear coherent) (framing.beside (dealings_timerHear _))
      armDeadline := fun asOf coherent free =>
        framed (kept.armDeadline asOf coherent free) (framing.beside rfl)
      adopt := fun coherent free accepted =>
        framed (kept.adopt coherent free accepted) (framing.beside rfl)
      send := fun message calm coherent awake =>
        framed (kept.send message (guarded_of_framed calm) coherent awake)
          (framing.send message _ awake
            (calm .send _ (coherent.begun_send awake message)).frame.extra)
      checkDeadline := fun asOf calm coherent free =>
        framed (kept.checkDeadline asOf (guarded_of_framed calm) coherent free)
          (framing.checkDeadline asOf coherent free
            (fun operation world coherent => (calm operation world coherent).frame.extra))
      resumeRadio := by
        intro world inside calm coherent free
        obtain ⟨resumed, awake⟩ := kept.resumeRadio (guarded_of_framed calm) coherent free
        exact ⟨framed resumed (framing.resumeRadio coherent free
          (fun operation world coherent => (calm operation world coherent).frame.extra)), awake⟩ }

theorem interlude (depth : Nat) : (World.interlude depth).Keeping Coherent (Framed Extra) :=
  framing.primitives.interlude depth

/-- Every world that can be reached is so related to the first one. -/
theorem reachable (reached : world.Reachable) :
    ∃ settings depth, Extra (.new settings depth) world := by
  have forget {world : World} (coherent : world.Coherent) :
      Keeps Coherent (Framed Extra) world { world with nested := [] } :=
    { inv := coherent.forget.inv
      frame := { guarded := coherent.forget.frame, extra := framing.beside rfl } }
  obtain ⟨settings, depth, kept⟩ := framing.primitives.reachable coherent_new forget reached
  exact ⟨settings, depth, kept.frame.extra⟩

end Framing

end World

end HidBridge
