/-
The lifecycle, what is shown of it to readers without the lock, and the radio
itself. While the lock is free they agree. While the lock is held the lifecycle is
ahead of the radio, which is what a call of the radio is about to change, and
nothing that happens inside the call moves either of them.
-/

import HidBridge.Proofs.Bridge.Events
import HidBridge.Proofs.Bridge.Reachable
import HidBridge.Proofs.Sleep.Lifecycle

namespace HidBridge

/-- The lifecycle, its flag and the radio fit together. -/
structure Bridge.Coherent (bridge : Bridge) (radio : Radio) : Prop where
  disciplined : Radio.Disciplined radio.events
  shown : bridge.suspended = !radio.isUp
  free : bridge.locked = false → bridge.lifecycle.isSuspended = !radio.isUp
  held : bridge.locked = true → bridge.lifecycle.isSuspended = radio.isUp

namespace World

structure Coherent (world : World) : Prop where
  now : world.bridge.Coherent world.radio
  noted : ∀ noted, noted ∈ world.nested → noted.bridge.Coherent noted.radio

structure Unmoved (before after : World) : Prop where
  lifecycle : after.bridge.lifecycle = before.bridge.lifecycle
  suspended : after.bridge.suspended = before.bridge.suspended
  sensitivity : after.bridge.sensitivity = before.bridge.sensitivity
  settings : after.bridge.settings = before.bridge.settings
  isUp : after.radio.isUp = before.radio.isUp

/-- The lock is given back by whoever takes it, and what it guards stays the same
while it is held. -/
structure Guarded (before after : World) : Prop where
  locked : after.bridge.locked = before.bridge.locked
  held : before.bridge.locked = true → Unmoved before after

theorem Guarded.refl (world : World) : Guarded world world :=
  { locked := rfl
    held := fun _held =>
      { lifecycle := rfl, suspended := rfl, sensitivity := rfl, settings := rfl, isUp := rfl } }

theorem Guarded.trans {first second third : World} (earlier : Guarded first second)
    (later : Guarded second third) : Guarded first third := by
  refine { locked := later.locked.trans earlier.locked, held := ?_ }
  intro held
  have one := earlier.held held
  have other := later.held (earlier.locked.trans held)
  exact
    { lifecycle := other.lifecycle.trans one.lifecycle
      suspended := other.suspended.trans one.suspended
      sensitivity := other.sensitivity.trans one.sensitivity
      settings := other.settings.trans one.settings
      isUp := other.isUp.trans one.isUp }

structure Core where
  locked : Bool
  lifecycle : Lifecycle
  suspended : Bool
  sensitivity : Nat
  settings : Settings
  events : List RadioEvent
  nested : List NestedAnswer

def core (world : World) : Core :=
  { locked := world.bridge.locked
    lifecycle := world.bridge.lifecycle
    suspended := world.bridge.suspended
    sensitivity := world.bridge.sensitivity
    settings := world.bridge.settings
    events := world.radio.events
    nested := world.nested }

section Core

variable (world : World)

@[simp]
theorem core_convert (owner : ConverterOwner) (report : Report) :
    (world.convert owner report).2.core = world.core := by
  cases owner <;> rfl

@[simp]
theorem core_setFailure (operation : RadioOperation) (failure : Option (Option RadioFault)) :
    (world.setFailure operation failure).core = world.core := by
  cases failure with
  | none => rfl
  | some failure => cases operation <;> rfl

@[simp]
theorem core_spawn (task : Task) : (world.spawn task).core = world.core := by
  cases task <;> rfl

@[simp]
theorem core_timerRead : world.timerRead.core = world.core := by
  unfold timerRead
  split <;> rfl

@[simp]
theorem core_timerHear : world.timerHear.core = world.core := by
  unfold timerHear
  split
  · rw [core_timerRead]
    rfl
  · rfl

end Core

theorem Coherent.beside {before after : World} (coherent : before.Coherent)
    (same : after.core = before.core) : Keeps Coherent Guarded before after := by
  have locked : after.bridge.locked = before.bridge.locked := congrArg Core.locked same
  have lifecycle : after.bridge.lifecycle = before.bridge.lifecycle :=
    congrArg Core.lifecycle same
  have suspended : after.bridge.suspended = before.bridge.suspended :=
    congrArg Core.suspended same
  have events : after.radio.events = before.radio.events := congrArg Core.events same
  have nested : after.nested = before.nested := congrArg Core.nested same
  have up : after.radio.isUp = before.radio.isUp := congrArg Radio.upAfter events
  have now := coherent.now
  refine { inv := { now := ?_, noted := ?_ }, frame := { locked, held := ?_ } }
  · refine { disciplined := ?_, shown := ?_, free := ?_, held := ?_ }
    · rw [events]
      exact now.disciplined
    · rw [suspended, up]
      exact now.shown
    · rw [locked, lifecycle, up]
      exact now.free
    · rw [locked, lifecycle, up]
      exact now.held
  · rw [nested]
    exact coherent.noted
  · intro _held
    exact
      { lifecycle
        suspended
        sensitivity := congrArg Core.sensitivity same
        settings := congrArg Core.settings same
        isUp := up }

theorem Coherent.underFreeLock {before after : World} (coherent : before.Coherent)
    (wasFree : before.bridge.locked = false) (isFree : after.bridge.locked = false)
    (activity : after.bridge.lifecycle.isSuspended = before.bridge.lifecycle.isSuspended)
    (shown : after.bridge.suspended = before.bridge.lifecycle.isSuspended)
    (radio : after.radio = before.radio) (nested : after.nested = before.nested) :
    Keeps Coherent Guarded before after := by
  have now := coherent.now
  have down := now.free wasFree
  refine { inv := { now := ?_, noted := ?_ }, frame := { locked := ?_, held := ?_ } }
  · rw [radio]
    exact
      { disciplined := now.disciplined
        shown := shown.trans down
        free := fun _free => activity.trans down
        held := fun held => absurd (held.symm.trans isFree) Bool.noConfusion }
  · rw [nested]
    exact coherent.noted
  · rw [isFree, wasFree]
  · intro held
    rw [wasFree] at held
    cases held

theorem Coherent.event {world : World} (coherent : world.Coherent) (event : RadioEvent)
    (fits : event.fits world.radio.isUp = true)
    (still : event.leaves world.radio.isUp = world.radio.isUp) :
    Keeps Coherent Guarded world
      { world with radio := { world.radio with events := world.radio.events ++ [event] } } := by
  have up : Radio.upAfter (world.radio.events ++ [event]) = world.radio.isUp :=
    (Radio.upAfter_append _ _).trans still
  have now := coherent.now
  refine
    { inv := { now := ?_, noted := coherent.noted }
      frame := { locked := rfl, held := ?_ } }
  · refine { disciplined := now.disciplined.append fits, shown := ?_, free := ?_, held := ?_ }
    · exact now.shown.trans (congrArg not up.symm)
    · exact fun free => (now.free free).trans (congrArg not up.symm)
    · exact fun held => (now.held held).trans up.symm
  · intro _held
    exact { lifecycle := rfl, suspended := rfl, sensitivity := rfl, settings := rfl, isUp := up }

theorem Coherent.call {world : World} (coherent : world.Coherent) {inside : Interlude}
    (calm : inside.Keeping Coherent Guarded) (call : RadioCall)
    (fits : (RadioEvent.began call).fits world.radio.isUp = true) :
    ∃ next failure, Keeps Coherent Guarded world next ∧
      world.call inside call =
        (failure,
          { next with
            radio := { next.radio with events := next.radio.events ++ [.ended call failure] } }) := by
  have begun := coherent.event (.began call) fits rfl
  have filled := calm call.operation _ begun.inv
  exact ⟨_, _, { inv := filled.inv, frame := begun.frame.trans filled.frame }, rfl⟩

theorem Coherent.send {world : World} (coherent : world.Coherent) {inside : Interlude}
    (calm : inside.Keeping Coherent Guarded) (message : Output.Message)
    (awake : world.bridge.suspended = false) :
    Keeps Coherent Guarded world (world.call inside (.send message)).2 := by
  have up : world.radio.isUp = true := by
    have shown := coherent.now.shown
    rw [awake] at shown
    exact (Bool.not_eq_false' _).mp shown.symm
  obtain ⟨next, failure, kept, called⟩ := coherent.call calm (.send message) up
  rw [called]
  have ended := kept.inv.event (.ended (.send message) failure) rfl rfl
  exact { inv := ended.inv, frame := kept.frame.trans ended.frame }

/-- The end of a call under the lock, with which the lock is given back. What the
call has done to the radio and what the lifecycle makes of it agree. -/
theorem Coherent.release {world : World} (coherent : world.Coherent) (event : RadioEvent)
    (fits : event.fits world.radio.isUp = true) (lifecycle : Lifecycle)
    (agree : lifecycle.isSuspended = !event.leaves world.radio.isUp) :
    Coherent
      (World.release
        { world with radio := { world.radio with events := world.radio.events ++ [event] } }
        lifecycle) := by
  have up : Radio.upAfter (world.radio.events ++ [event]) = event.leaves world.radio.isUp :=
    Radio.upAfter_append _ _
  refine { now := ?_, noted := coherent.noted }
  exact
    { disciplined := coherent.now.disciplined.append fits
      shown := agree.trans (congrArg not up.symm)
      free := fun _free => agree.trans (congrArg not up.symm)
      held := fun impossible => nomatch impossible }

theorem Coherent.hold {world : World} (coherent : world.Coherent) {lifecycle : Lifecycle}
    (ahead : lifecycle.isSuspended = world.radio.isUp) : (world.hold lifecycle).Coherent :=
  { now :=
      { disciplined := coherent.now.disciplined
        shown := coherent.now.shown
        free := fun impossible => nomatch impossible
        held := fun _held => ahead }
    noted := coherent.noted }

theorem guarded_of_free {before after : World} (wasFree : before.bridge.locked = false)
    (isFree : after.bridge.locked = false) : Guarded before after :=
  { locked := isFree.trans wasFree.symm
    held := fun held => absurd (held.symm.trans wasFree) Bool.noConfusion }

end World

namespace Lifecycle

theorem isSuspended_startCheck_some {lifecycle next : Lifecycle} {now : Nat} {links : Links}
    {outcome : CheckOutcome} (started : lifecycle.startCheck now links = (some outcome, next)) :
    next.isSuspended = lifecycle.isSuspended := by
  rcases startCheck_cases started with
    ⟨_suspended, _said, rfl⟩ | ⟨_active, _early, _said, rfl⟩ |
      ⟨_active, _come, _reason, _held, _said, rfl⟩ | ⟨_active, _come, _free, impossible, _same⟩
  · rfl
  · rfl
  · rfl
  · cases impossible

theorem isSuspended_startCheck_none {lifecycle next : Lifecycle} {now : Nat} {links : Links}
    (started : lifecycle.startCheck now links = (none, next)) :
    lifecycle.isSuspended = false ∧ next.isSuspended = true := by
  rcases startCheck_cases started with
    ⟨_suspended, impossible, _same⟩ | ⟨_active, _early, impossible, _same⟩ |
      ⟨_active, _come, _reason, _held, impossible, _same⟩ | ⟨active, _come, _free, _none, rfl⟩
  · cases impossible
  · cases impossible
  · cases impossible
  · constructor
    · rw [isSuspended, active]
      rfl
    · rfl

theorem isSuspended_startResume_none {lifecycle : Lifecycle}
    (resumed : lifecycle.startResume = none) : lifecycle.isSuspended = false := by
  refine decide_eq_false ?_
  intro suspended
  rw [startResume_eq_some_iff.mpr ⟨suspended, rfl⟩] at resumed
  cases resumed

theorem isSuspended_startResume_some {lifecycle next : Lifecycle}
    (resumed : lifecycle.startResume = some next) :
    lifecycle.isSuspended = true ∧ next.isSuspended = false := by
  obtain ⟨suspended, same⟩ := startResume_eq_some_iff.mp resumed
  constructor
  · exact decide_eq_true suspended
  · rw [same]
    rfl

end Lifecycle

namespace World

section Start

variable {world : World} (coherent : world.Coherent) (free : world.bridge.locked = false)
  {next : Lifecycle}

include coherent free

/-- The radio is up when a check begins to have it taken down. -/
theorem Coherent.hold_startCheck {asOf : Nat}
    (started : world.bridge.lifecycle.startCheck asOf world.links = (none, next)) :
    world.radio.isUp = true ∧ (world.hold next).Coherent := by
  obtain ⟨wasActive, ahead⟩ := Lifecycle.isSuspended_startCheck_none started
  have down := coherent.now.free free
  rw [wasActive] at down
  have up : world.radio.isUp = true := (Bool.not_eq_false' _).mp down.symm
  exact ⟨up, coherent.hold (ahead.trans up.symm)⟩

/-- The radio is down when a resume begins to have it brought up. -/
theorem Coherent.hold_startResume (resumed : world.bridge.lifecycle.startResume = some next) :
    world.radio.isUp = false ∧ (world.hold next).Coherent := by
  obtain ⟨wasSuspended, ahead⟩ := Lifecycle.isSuspended_startResume_some resumed
  have down := coherent.now.free free
  rw [wasSuspended] at down
  have isDown : world.radio.isUp = false := (Bool.not_eq_true' _).mp down.symm
  exact ⟨isDown, coherent.hold (ahead.trans isDown.symm)⟩

end Start

theorem Coherent.checkDeadline {world : World} (coherent : world.Coherent)
    {inside : Interlude} (calm : inside.Keeping Coherent Guarded) (asOf : Nat)
    (free : world.bridge.locked = false) :
    Keeps Coherent Guarded world (world.checkDeadline inside asOf).2 := by
  unfold World.checkDeadline
  split
  · rename_i outcome next started
    have activity := Lifecycle.isSuspended_startCheck_some started
    exact coherent.underFreeLock free rfl activity activity rfl rfl
  · rename_i next started
    have ahead := (Lifecycle.isSuspended_startCheck_none started).2
    obtain ⟨up, held⟩ := coherent.hold_startCheck free started
    obtain ⟨last, failure, kept, called⟩ := held.call calm .tearDown up
    have unmoved := kept.frame.held rfl
    have upStill : last.radio.isUp = true := unmoved.isUp.trans up
    have lifecycle : last.bridge.lifecycle = next := unmoved.lifecycle
    rw [called]
    refine { inv := kept.inv.release _ ?_ _ ?_, frame := guarded_of_free free rfl }
    · rw [upStill]
      cases failure <;> rfl
    · rw [upStill]
      cases failure with
      | none =>
          simp only [Lifecycle.endCheck, lifecycle, ahead]
          rfl
      | some cause => rfl

theorem Coherent.resumeRadio {world : World} (coherent : world.Coherent)
    {inside : Interlude} (calm : inside.Keeping Coherent Guarded)
    (free : world.bridge.locked = false) :
    Keeps Coherent Guarded world (world.resumeRadio inside).2 ∧
      ((world.resumeRadio inside).1 = .ok () →
        (world.resumeRadio inside).2.bridge.suspended = false) := by
  unfold World.resumeRadio
  cases resumed : world.bridge.lifecycle.startResume with
  | none =>
      have active := Lifecycle.isSuspended_startResume_none resumed
      exact ⟨coherent.underFreeLock free rfl rfl rfl rfl rfl, fun _ok => active⟩
  | some next =>
      have ahead := (Lifecycle.isSuspended_startResume_some resumed).2
      obtain ⟨isDown, held⟩ := coherent.hold_startResume free resumed
      obtain ⟨last, failure, kept, called⟩ :=
        held.call calm .bringUp ((Bool.not_eq_true' _).mpr isDown)
      have unmoved := kept.frame.held rfl
      have downStill : last.radio.isUp = false := unmoved.isUp.trans isDown
      have lifecycle : last.bridge.lifecycle = next := unmoved.lifecycle
      dsimp only
      rw [called]
      refine ⟨{ inv := kept.inv.release _ ?_ _ ?_, frame := guarded_of_free free rfl }, ?_⟩
      · rw [downStill]
        cases failure <;> rfl
      · rw [downStill]
        cases failure with
        | none =>
            simp only [Lifecycle.endResume, lifecycle, ahead]
            rfl
        | some cause => rfl
      · cases failure with
        | none =>
            intro _ok
            simp only [Lifecycle.endResume, bridge_release, lifecycle, ahead]
        | some cause => exact fun impossible => nomatch impossible

theorem Coherent.note {world : World} (coherent : world.Coherent) (step : Step)
    (answer : Answer) : Keeps Coherent Guarded world (world.note step answer) where
  inv :=
    { now := coherent.now
      noted := noted_note coherent.noted step answer coherent.now }
  frame := { locked := rfl, held := fun _held => ⟨rfl, rfl, rfl, rfl, rfl⟩ }

/-- All changes that runs are made of keep lifecycle, flag and radio together. -/
theorem coherent_primitives : Primitives Coherent Guarded where
  refl := Guarded.refl
  trans := Guarded.trans
  wait := fun _time coherent => coherent.beside rfl
  connect := fun _interfaceId _descriptor coherent => coherent.beside rfl
  disconnect := fun _interfaceId coherent => coherent.beside rfl
  submit := fun _interfaceId _reportId _payload coherent => coherent.beside rfl
  submitTransfer := fun _interfaceId _transfer coherent => coherent.beside rfl
  receive := fun coherent _received => coherent.beside rfl
  convert := fun _owner _report coherent => coherent.beside (core_convert ..)
  sessionBusy := fun _sessionBusy coherent => coherent.beside rfl
  links := fun _usbDevice _blePeer _prioritySession coherent => coherent.beside rfl
  failure := fun _operation _failure coherent => coherent.beside (core_setFailure ..)
  pending := fun _pending coherent => coherent.beside rfl
  note := by
    intro world inside step _calm _coherent taken
    have noted := taken.inv.note step (world.take inside step).1
    exact { inv := noted.inv, frame := taken.frame.trans noted.frame }
  spawn := fun _task coherent => coherent.beside (core_spawn ..)
  setConsumer := fun _stage coherent => coherent.beside rfl
  setTimer := fun _stage _notWaiting coherent => coherent.beside rfl
  timerRead := fun coherent => coherent.beside (core_timerRead _)
  timerHear := fun coherent => coherent.beside (core_timerHear _)
  armDeadline := fun _asOf coherent free =>
    coherent.underFreeLock free free rfl
      (coherent.now.shown.trans (coherent.now.free free).symm) rfl rfl
  adopt := fun coherent free _accepted =>
    coherent.underFreeLock free free rfl
      (coherent.now.shown.trans (coherent.now.free free).symm) rfl rfl
  send := fun message calm coherent awake => coherent.send calm message awake
  checkDeadline := fun asOf calm coherent free => coherent.checkDeadline calm asOf free
  resumeRadio := fun calm coherent free => coherent.resumeRadio calm free

theorem coherent_new (settings : Settings) (depth : Nat) : (new settings depth).Coherent :=
  { now :=
      { disciplined := Radio.disciplined_nil
        shown := rfl
        free := fun _free => rfl
        held := fun impossible => nomatch impossible }
    noted := fun _noted member => nomatch member }

theorem Reachable.coherent {world : World} (reachable : world.Reachable) :
    world.Coherent ∧ world.bridge.locked = false := by
  obtain ⟨settings, depth, kept⟩ := coherent_primitives.reachable coherent_new
    (fun {world} coherent =>
      { inv := { now := coherent.now, noted := fun _noted member => nomatch member }
        frame := { locked := rfl, held := fun _held => ⟨rfl, rfl, rfl, rfl, rfl⟩ } }) reachable
  exact ⟨kept.inv, kept.frame.locked⟩

end World

/-- While the lock is free, the flag, the lifecycle and the calls of the radio that
have succeeded say the same. -/
def Bridge.Agrees (bridge : Bridge) (radio : Radio) : Prop :=
  bridge.locked = false →
    (bridge.suspended = true ↔ bridge.lifecycle.activity = .suspended) ∧
      (bridge.lifecycle.activity = .suspended ↔
        (Radio.changes radio.events).count .tearDown =
          (Radio.changes radio.events).count .bringUp + 1)

theorem Bridge.Coherent.agrees {bridge : Bridge} {radio : Radio}
    (coherent : bridge.Coherent radio) : bridge.Agrees radio := by
  intro free
  have suspended : bridge.lifecycle.isSuspended = true ↔
      bridge.lifecycle.activity = .suspended := decide_eq_true_iff
  have down : bridge.lifecycle.isSuspended = true ↔ radio.isUp = false := by
    rw [coherent.free free, Bool.not_eq_true']
  constructor
  · rw [coherent.shown, ← coherent.free free]
    exact suspended
  · rw [← suspended, down]
    exact coherent.disciplined.down_iff

namespace World

/-- Whatever happens, and whatever happens inside calls of the radio: the radio is
taken down only while it is up and brought up only while it is down, so the calls
that succeed alternate, and while the lock is free nobody is told otherwise. -/
theorem Reachable.lifecycle_agrees {world : World} (reachable : world.Reachable) :
    (∀ earlier call later, world.radio.events = earlier ++ .began call :: later →
      (call = .tearDown → Radio.upAfter earlier = true) ∧
        (call = .bringUp → Radio.upAfter earlier = false)) ∧
    (∃ count, Radio.changes world.radio.events = Radio.alternating count) ∧
    world.bridge.locked = false ∧
    world.bridge.Agrees world.radio ∧
    ∀ noted, noted ∈ world.nested → noted.bridge.Agrees noted.radio := by
  obtain ⟨coherent, free⟩ := reachable.coherent
  have disciplined := coherent.now.disciplined
  refine ⟨?_, ⟨_, disciplined.changes_eq.1⟩, free, coherent.now.agrees, ?_⟩
  · intro earlier call later same
    have fits := disciplined earlier (.began call) later same
    constructor
    · intro tearDown
      rw [tearDown] at fits
      exact fits
    · intro bringUp
      rw [bringUp] at fits
      exact (Bool.not_eq_true' _).mp fits
  · intro noted member
    exact (coherent.noted noted member).agrees

/-- Three buttons are connected, and at the deadline the radio goes to sleep. What
is tried inside the call that takes it down finds the lock busy. -/
def asleep : World :=
  ((((new .default 4).take (interlude 0)
      (.connect 1 [0x05, 0x09, 0x19, 0x01, 0x29, 0x03, 0x75, 0x01, 0x95, 0x03, 0x81, 0x02])).2.take
    (interlude 0) (.during .tearDown [.rearm 0, .activity])).2.take
    (interlude 1) (.check Settings.default.quietTime)).2

/-- A report brings the radio up, and while the report is sent the next deadline
comes. -/
def asleepAgain : World :=
  (((asleep.take (interlude 0) (.report 1 none [0x02])).2.take
    (interlude 0) (.during .send [.rearm 0, .check Settings.default.quietTime])).2.take
    (interlude 1) .pump).2

theorem asleepAgain_agrees :
    asleepAgain.Reachable ∧
      Radio.changes asleepAgain.radio.events = [.tearDown, .bringUp, .tearDown] ∧
      asleepAgain.nested.map (fun noted => (noted.bridge.locked, noted.bridge.suspended)) =
        [(true, false), (true, false), (false, false), (false, true)] ∧
      asleepAgain.bridge.suspended = true := by
  have reachable : asleepAgain.Reachable :=
    .take 1 _ (.take 0 _ (.take 0 _ (.take 1 _ (.take 0 _ (.take 0 _ (.new .default 4))))))
  obtain ⟨_attempts, _turns, free, agrees, _noted⟩ := reachable.lifecycle_agrees
  refine ⟨reachable, by decide +kernel, by decide +kernel, ?_⟩
  exact (agrees free).1.mpr (by decide +kernel)

end World

end HidBridge
