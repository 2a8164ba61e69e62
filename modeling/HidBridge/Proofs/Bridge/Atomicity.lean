/-
Calls of the radio under the lock, and the steps that are taken inside them. A step
that cannot do without the lock is refused, no other call under the lock is begun, and
all that the lock guards stays as it is. So what comes of a check or a resume depends
on how its own call ends and on nothing that happens inside.
-/

import HidBridge.Proofs.Bridge.Frames
import HidBridge.Proofs.Intake.Staleness

namespace HidBridge

/-- With these settings the step cannot be taken without the lock. -/
def Step.needsLock (settings : Settings) : Step → Bool
  | .activity => true
  | .check _ => true
  | .rearm _ => true
  | .apply key value => (settings.apply key value).isOk
  | _ => false

def RadioEvent.concernsMessage : RadioEvent → Bool
  | .began (.send _) => true
  | .ended (.send _) _ => true
  | _ => false

namespace World

def Held (world : World) : Prop := world.bridge.locked = true

/-- What was noted in between. Steps that cannot do without the lock were refused. -/
def Refuses (before after : World) : Prop :=
  ∃ notes, after.nested = before.nested ++ notes ∧
    ∀ noted, noted ∈ notes → noted.step.needsLock before.bridge.settings = true →
      noted.answer = .refused .lockTimeout

/-- What happened to the radio in between. Nothing but messages were sent. -/
def Utters (before after : World) : Prop :=
  ∃ more, after.radio.events = before.radio.events ++ more ∧
    ∀ event, event ∈ more → event.concernsMessage = true

/-- The lock is still held, and nothing has come through to what it guards. -/
structure Sealed (before after : World) : Prop where
  locked : after.bridge.locked = before.bridge.locked
  lifecycle : after.bridge.lifecycle = before.bridge.lifecycle
  suspended : after.bridge.suspended = before.bridge.suspended
  sensitivity : after.bridge.sensitivity = before.bridge.sensitivity
  settings : after.bridge.settings = before.bridge.settings
  utters : Utters before after
  refuses : Refuses before after

theorem Sealed.of_core {before after : World} (same : after.core = before.core) :
    Sealed before after where
  locked := congrArg Core.locked same
  lifecycle := congrArg Core.lifecycle same
  suspended := congrArg Core.suspended same
  sensitivity := congrArg Core.sensitivity same
  settings := congrArg Core.settings same
  utters :=
    ⟨[], (congrArg Core.events same).trans (List.append_nil _).symm,
      fun _event member => nomatch member⟩
  refuses :=
    ⟨[], (congrArg Core.nested same).trans (List.append_nil _).symm,
      fun _noted member => nomatch member⟩

theorem Utters.trans {first second third : World} (earlier : Utters first second)
    (later : Utters second third) : Utters first third := by
  obtain ⟨one, firstEq, firstMessages⟩ := earlier
  obtain ⟨other, secondEq, secondMessages⟩ := later
  refine ⟨one ++ other, by rw [secondEq, firstEq, List.append_assoc], ?_⟩
  intro event member
  rcases List.mem_append.mp member with present | present
  · exact firstMessages event present
  · exact secondMessages event present

theorem Refuses.trans {first second third : World} (earlier : Refuses first second)
    (settings : second.bridge.settings = first.bridge.settings)
    (later : Refuses second third) : Refuses first third := by
  obtain ⟨one, firstEq, firstRefused⟩ := earlier
  obtain ⟨other, secondEq, secondRefused⟩ := later
  rw [settings] at secondRefused
  refine ⟨one ++ other, by rw [secondEq, firstEq, List.append_assoc], ?_⟩
  intro noted member
  rcases List.mem_append.mp member with present | present
  · exact firstRefused noted present
  · exact secondRefused noted present

theorem Sealed.trans {first second third : World} (earlier : Sealed first second)
    (later : Sealed second third) : Sealed first third where
  locked := later.locked.trans earlier.locked
  lifecycle := later.lifecycle.trans earlier.lifecycle
  suspended := later.suspended.trans earlier.suspended
  sensitivity := later.sensitivity.trans earlier.sensitivity
  settings := later.settings.trans earlier.settings
  utters := earlier.utters.trans later.utters
  refuses := earlier.refuses.trans earlier.settings later.refuses

theorem Sealed.event (world : World) (event : RadioEvent)
    (message : event.concernsMessage = true) :
    Sealed world
      { world with radio := { world.radio with events := world.radio.events ++ [event] } } where
  locked := rfl
  lifecycle := rfl
  suspended := rfl
  sensitivity := rfl
  settings := rfl
  utters := by
    refine ⟨[event], rfl, ?_⟩
    intro found member
    rw [List.mem_singleton.mp member]
    exact message
  refuses := ⟨[], (List.append_nil _).symm, fun _noted member => nomatch member⟩

theorem underLock_held {α : Type} {world : World} (held : world.Held) (milliseconds : Nat)
    (action : World → Except Fault α × World) :
    world.underLock milliseconds action =
      (.error .lockTimeout, world.wait (milliseconds * Limits.millisecond)) := if_pos held

theorem answer_needsLock {world : World} (held : world.Held) (inside : Interlude) {step : Step}
    (needs : step.needsLock world.bridge.settings = true) :
    (world.take inside step).1 = .refused .lockTimeout := by
  cases step with
  | activity =>
      simp only [World.take, World.activity, underLock_held held]
      rfl
  | check ahead =>
      simp only [World.take, World.check, underLock_held held]
      rfl
  | rearm ahead =>
      simp only [World.take, World.rearm, underLock_held held]
      rfl
  | apply key value =>
      cases accepted : world.bridge.settings.apply key value with
      | error fault =>
          rw [Step.needsLock, accepted] at needs
          cases needs
      | ok changed =>
          simp only [World.take, World.apply, accepted, underLock_held held]
          rfl
  | _ => cases needs

theorem Sealed.note {world next : World} (kept : Sealed world next) {step : Step}
    {answer : Answer}
    (refused : step.needsLock world.bridge.settings = true → answer = .refused .lockTimeout) :
    Sealed world (next.note step answer) := by
  obtain ⟨notes, same, earlier⟩ := kept.refuses
  let last : NestedAnswer :=
    ⟨step, answer, next.clock, next.bridge, next.radio, next.timer⟩
  refine { kept with refuses := ⟨notes ++ [last], ?_, ?_⟩ }
  · exact (congrArg (· ++ [last]) same).trans (List.append_assoc _ _ _)
  · intro noted member
    rcases List.mem_append.mp member with present | last
    · exact earlier noted present
    · rw [List.mem_singleton.mp last]
      exact refused

theorem Held.beside {before after : World} (held : before.Held)
    (same : after.core = before.core) : Keeps Held Sealed before after :=
  { inv := (congrArg Core.locked same).trans held, frame := .of_core same }

theorem Held.not_free {world : World} (held : world.Held) {goal : Prop}
    (free : world.bridge.locked = false) : goal :=
  absurd (free.symm.trans held) Bool.noConfusion

/-- While the lock is held, all changes that runs are made of leave alone what it
guards, in whatever state the bridge is. -/
theorem held_primitives : Primitives Held Sealed where
  refl := fun _world => .of_core rfl
  trans := Sealed.trans
  wait := fun _time held => held.beside rfl
  connect := fun _interfaceId _descriptor held => held.beside rfl
  disconnect := fun _interfaceId held => held.beside rfl
  submit := fun _interfaceId _reportId _payload held => held.beside rfl
  submitTransfer := fun _interfaceId _transfer held => held.beside rfl
  receive := fun held _received => held.beside rfl
  convert := fun _owner _report held => held.beside (core_convert ..)
  sessionBusy := fun _sessionBusy held => held.beside rfl
  links := fun _usbDevice _blePeer _prioritySession held => held.beside rfl
  failure := fun _operation _failure held => held.beside (core_setFailure ..)
  pending := fun _pending held => held.beside rfl
  note := by
    intro world inside step _calm held taken
    exact
      { inv := taken.inv
        frame := taken.frame.note (answer_needsLock held inside) }
  spawn := fun _task held => held.beside (core_spawn ..)
  setConsumer := fun _stage held => held.beside rfl
  setTimer := fun _stage _notWaiting held => held.beside rfl
  timerRead := fun held => held.beside (core_timerRead _)
  timerHear := fun held => held.beside (core_timerHear _)
  armDeadline := fun _asOf held free => held.not_free free
  adopt := fun held free _accepted => held.not_free free
  send := by
    intro world inside message calm held _awake
    obtain ⟨failure, called⟩ := world.call_eq inside (.send message)
    have begun := Sealed.event world (.began (.send message)) rfl
    have filled := calm .send (world.begun (.send message)) held
    have ended := Sealed.event (inside .send (world.begun (.send message)))
      (.ended (.send message) failure) rfl
    rw [called]
    exact
      { inv := ended.locked.trans filled.inv
        frame := (begun.trans filled.frame).trans ended }
  checkDeadline := fun _asOf _calm held free => held.not_free free
  resumeRadio := fun _calm held free => held.not_free free

/-- A whole call under the lock, at the end of which the lock is given back. -/
structure Transition (call : RadioCall) (failure : Option RadioFault) (before after : World) :
    Prop where
  events : ∃ inside,
    after.radio.events =
      before.radio.events ++ .began call :: (inside ++ [.ended call failure]) ∧
    ∀ event, event ∈ inside → event.concernsMessage = true
  refuses : Refuses before after
  locked : after.bridge.locked = false
  suspended : after.bridge.suspended = after.bridge.lifecycle.isSuspended
  sensitivity : after.bridge.sensitivity = before.bridge.sensitivity
  settings : after.bridge.settings = before.bridge.settings

/-- A call under the lock ends with the lifecycle that it was begun with, and what is
made of it is set when the lock is given back. -/
theorem transition_call (world : World) (next : Lifecycle) (depth : Nat) (call : RadioCall) :
    ∃ failure after, (world.hold next).call (interlude depth) call = (failure, after) ∧
      after.bridge.lifecycle = next ∧
      ∀ lifecycle, Transition call failure world (after.release lifecycle) := by
  obtain ⟨failure, called⟩ := (world.hold next).call_eq (interlude depth) call
  have inside := held_primitives.interlude depth call.operation
    ((world.hold next).begun call) rfl
  obtain ⟨more, same, messages⟩ := inside.frame.utters
  refine ⟨failure, _, called, inside.frame.lifecycle, ?_⟩
  intro lifecycle
  refine
    { events := ⟨more, ?_, messages⟩
      refuses := inside.frame.refuses
      locked := rfl
      suspended := rfl
      sensitivity := inside.frame.sensitivity
      settings := inside.frame.settings }
  refine (congrArg (· ++ [RadioEvent.ended call failure]) same).trans ?_
  exact (List.append_assoc _ _ _).trans (List.append_assoc _ _ _)

/-- Whatever steps are taken while the lock is held, and inside messages that are sent
meanwhile, and so on: those that cannot do without the lock are refused, none of them
brings the radio up or takes it down, and what the lock guards is the same afterwards.
What a check or a resume comes to that makes a call under the lock, and the lifecycle
that it leaves, follow from how this call ends. -/
theorem transitions_sealed (world : World) (depth : Nat) :
    (world.bridge.locked = true → ∀ steps : List Step,
      Sealed world
        (steps.foldl (fun current step => current.takeNested (interlude depth) step) world)) ∧
    (∀ asOf next, world.bridge.locked = false →
      world.bridge.lifecycle.startCheck asOf world.links = (none, next) →
      ∃ failure,
        Transition .tearDown failure world
          (world.checkDeadline (interlude depth) asOf).2 ∧
        ((world.checkDeadline (interlude depth) asOf).1,
            (world.checkDeadline (interlude depth) asOf).2.bridge.lifecycle) =
          next.endCheck failure) ∧
    ∀ next, world.bridge.locked = false → world.bridge.lifecycle.startResume = some next →
      ∃ failure,
        Transition .bringUp failure world (world.resumeRadio (interlude depth)).2 ∧
        ((world.resumeRadio (interlude depth)).1,
            (world.resumeRadio (interlude depth)).2.bridge.lifecycle) =
          next.endResume failure := by
  refine ⟨?_, ?_, ?_⟩
  · intro held steps
    exact (held_primitives.takeAllNested (held_primitives.interlude depth) held steps).frame
  · intro asOf next _free started
    obtain ⟨failure, after, called, lifecycle, transition⟩ :=
      world.transition_call next depth .tearDown
    refine ⟨failure, ?_⟩
    simp only [World.checkDeadline, started, called, lifecycle]
    exact ⟨transition _, rfl⟩
  · intro next _free resumed
    obtain ⟨failure, after, called, lifecycle, transition⟩ :=
      world.transition_call next depth .bringUp
    refine ⟨failure, ?_⟩
    simp only [World.resumeRadio, resumed, called, lifecycle]
    exact ⟨transition _, rfl⟩

/-- A report waits to be sent inside the call that takes the radio down, and a setting
waits to be changed there. Inside the message the deadline is to be checked and armed. -/
def drowsy : World :=
  ((((new .default 4).take (interlude 0) (.connect 1 Relay.buttons)).2.take
    (interlude 0) (.report 1 none [0x02])).2.take
    (interlude 0) (.during .send [.check 0, .rearm 0])).2.take
    (interlude 0) (.during .tearDown
      [.pump, .apply Settings.mouseSensitivityKey (.int 50), .activity]) |>.2

def dozing : Lifecycle := { drowsy.bridge.lifecycle.disarm with activity := .suspended }

def woken : Lifecycle := { asleep.bridge.lifecycle with activity := .active }

theorem drowsy_sealed :
    let checked := drowsy.checkDeadline (interlude 2) Settings.default.quietTime
    let resumed := asleep.resumeRadio (interlude 1)
    ((drowsy.hold dozing).bridge.locked = true ∧
      Sealed (drowsy.hold dozing)
        ([Step.pump, .rearm 0].foldl
          (fun current step => current.takeNested (interlude 2) step) (drowsy.hold dozing))) ∧
    (drowsy.bridge.locked = false ∧
      drowsy.bridge.lifecycle.startCheck Settings.default.quietTime drowsy.links =
        (none, dozing) ∧
      (∃ failure, Transition .tearDown failure drowsy checked.2 ∧
        (checked.1, checked.2.bridge.lifecycle) = dozing.endCheck failure) ∧
      checked.2.nested.map NestedAnswer.answer =
        [.refused .lockTimeout, .refused .lockTimeout,
          .delivered (.sent (.mouse { Output.Mouse.empty with buttons := 2 })),
          .refused .lockTimeout, .refused .lockTimeout]) ∧
    asleep.bridge.locked = false ∧ asleep.bridge.lifecycle.startResume = some woken ∧
      ∃ failure, Transition .bringUp failure asleep resumed.2 ∧
        (resumed.1, resumed.2.bridge.lifecycle) = woken.endResume failure := by
  have free : drowsy.bridge.locked = false := by decide +kernel
  have started : drowsy.bridge.lifecycle.startCheck Settings.default.quietTime drowsy.links =
      (none, dozing) := by decide +kernel
  have asleepFree : asleep.bridge.locked = false := by decide +kernel
  have wakes : asleep.bridge.lifecycle.startResume = some woken := by decide +kernel
  exact
    ⟨⟨rfl, ((drowsy.hold dozing).transitions_sealed 2).1 rfl _⟩,
      ⟨free, started, (drowsy.transitions_sealed 2).2.1 _ _ free started, by decide +kernel⟩,
      asleepFree, wakes, (asleep.transitions_sealed 1).2.2 _ asleepFree wakes⟩

end World

end HidBridge
