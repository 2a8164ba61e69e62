/-
What moves the deadline, over everything that can be asked of a bridge while its lock is
free and nobody else touches it inside the calls of the radio. The clock and the links may
change there: what counts for a report is how they are after its message was sent.
-/

import HidBridge.Proofs.Bridge.Rearming

namespace HidBridge

/-- Inside calls of the radio nobody touches the bridge. -/
def Interlude.SparesBridge (inside : Interlude) : Prop :=
  ∀ operation world, (inside operation world).bridge = world.bridge

namespace World

inductive Operation where
  | connect (interfaceId : InterfaceId) (descriptor : List UInt8)
  | report (interfaceId : InterfaceId) (reportId : Option ReportId) (payload : List UInt8)
  | disconnect (interfaceId : InterfaceId)
  | process (owner : ConverterOwner) (report : Report)
  | pump
  | resume
  | rearm (asOf : Nat)
  | check (asOf : Nat)
  | apply (key : String) (value : SettingValue)
  | settings
  | activity

def Operation.handles : Operation → Bool
  | .process _ _ => true
  | .pump => true
  | _ => false

def Operation.mayArm : Operation → Bool
  | .connect _ _ => true
  | .rearm _ => true
  | operation => operation.handles

def Operation.isCheck : Operation → Bool
  | .check _ => true
  | _ => false

def perform (world : World) (inside : Interlude) : Operation → Answer × World
  | .connect interfaceId descriptor => world.take inside (.connect interfaceId descriptor)
  | .report interfaceId reportId payload =>
    world.take inside (.report interfaceId reportId payload)
  | .disconnect interfaceId => world.take inside (.disconnect interfaceId)
  | .process owner report =>
    let (result, next) := world.process inside owner report
    (.ofResult .delivered result, next)
  | .pump => world.take inside .pump
  | .resume =>
    let (result, next) := world.resume inside
    (.ofUnit result, next)
  | .rearm asOf =>
    let (result, next) := world.rearm asOf
    (.ofUnit result, next)
  | .check asOf =>
    let (result, next) := world.check inside asOf
    (.ofResult .checked result, next)
  | .apply key value => world.take inside (.apply key value)
  | .settings => world.take inside .settings
  | .activity => world.take inside .activity

/-- The deadline is to be armed as of an instant: layouts were stored, or this was asked for,
or a message was sent and both sides are linked afterwards. -/
inductive Arms (before : World) : Operation → Answer → World → Nat → Prop where
  | connect {interfaceId : InterfaceId} {descriptor : List UInt8} {generation : Nat}
      {answer : Answer} {after : World} :
    (before.bridge.intake.connect interfaceId descriptor).1 = .ok generation →
    Arms before (.connect interfaceId descriptor) answer after before.clock
  | rearm {asOf : Nat} {answer : Answer} {after : World} :
    Arms before (.rearm asOf) answer after asOf
  | sent {operation : Operation} {message : Output.Message} {after : World} :
    operation.handles = true → after.links.usbDevice = true → after.links.blePeer = true →
    Arms before operation (.delivered (.sent message)) after after.clock

/-- A check that finds the radio suspended or the deadline come. -/
inductive UsesUp (before : World) : Operation → Prop where
  | suspended {asOf : Nat} :
    before.bridge.lifecycle.activity = .suspended → UsesUp before (.check asOf)
  | due {asOf deadline : Nat} :
    before.bridge.lifecycle.deadline = some deadline → deadline ≤ asOf →
    UsesUp before (.check asOf)

/-- The deadline after an operation, given what it answers and leaves behind. -/
structure Arming (before : World) (operation : Operation) (answer : Answer) (after : World) :
    Prop where
  armed : ∀ asOf, Arms before operation answer after asOf →
    after.bridge.lifecycle.deadline = some (asOf + before.bridge.lifecycle.timeout)
  usedUp : UsesUp before operation → after.bridge.lifecycle.deadline = none
  still : (∀ asOf, ¬Arms before operation answer after asOf) → ¬UsesUp before operation →
    after.bridge.lifecycle.deadline = before.bridge.lifecycle.deadline

theorem not_arms {before after : World} {operation : Operation} {answer : Answer}
    (other : operation.mayArm = false) (asOf : Nat) : ¬Arms before operation answer after asOf := by
  intro arms
  cases arms with
  | connect _stored => cases other
  | rearm => cases other
  | sent handles _usb _ble =>
      have may : operation.mayArm = true := by
        cases operation <;> first | rfl | exact handles
      cases other.symm.trans may

theorem not_usesUp {before : World} {operation : Operation} (other : operation.isCheck = false) :
    ¬UsesUp before operation := by
  intro used
  cases used <;> cases other

theorem Arming.of_still {before after : World} {operation : Operation} {answer : Answer}
    (unarmed : ∀ asOf, ¬Arms before operation answer after asOf)
    (unchecked : operation.isCheck = false)
    (same : after.bridge.lifecycle.deadline = before.bridge.lifecycle.deadline) :
    Arming before operation answer after where
  armed asOf arms := absurd arms (unarmed asOf)
  usedUp used := absurd used (not_usesUp unchecked)
  still _unarmed _unused := same

theorem Arming.of_armed {before after : World} {operation : Operation} {answer : Answer}
    {asOf : Nat} (arms : Arms before operation answer after asOf)
    (only : ∀ other, Arms before operation answer after other → other = asOf)
    (unchecked : operation.isCheck = false)
    (deadline : after.bridge.lifecycle.deadline =
      some (asOf + before.bridge.lifecycle.timeout)) :
    Arming before operation answer after where
  armed := by
    intro other alike
    rw [only other alike]
    exact deadline
  usedUp used := absurd used (not_usesUp unchecked)
  still unarmed _unused := absurd arms (unarmed asOf)

theorem Arming.of_handled {before after : World} {operation : Operation}
    (handles : operation.handles = true) {result : Except Fault Delivery}
    (deadline : after.bridge.lifecycle.deadline =
      if after.pushesBack result then some (after.clock + before.bridge.lifecycle.timeout)
      else before.bridge.lifecycle.deadline) :
    Arming before operation (.ofResult .delivered result) after where
  armed := by
    intro asOf arms
    generalize said : Answer.ofResult .delivered result = answer at arms
    cases arms with
    | connect _stored => cases handles
    | rearm => cases handles
    | sent _handles usb ble =>
        cases result with
        | error fault => cases said
        | ok delivery =>
            cases said
            exact deadline.trans (if_pos ((Bool.and_eq_true _ _).mpr ⟨usb, ble⟩))
  usedUp := by
    intro used
    cases used <;> cases handles
  still := by
    intro unarmed _unused
    rw [deadline]
    refine if_neg ?_
    intro pushes
    obtain ⟨⟨message, sent⟩, linked⟩ := (pushesBack_iff after result).mp pushes
    obtain ⟨usb, ble⟩ := (Bool.and_eq_true _ _).mp linked
    rw [sent] at unarmed
    exact unarmed after.clock (.sent handles usb ble)

theorem usesUp_check_iff {world : World} {asOf : Nat} :
    UsesUp world (.check asOf) ↔
      world.bridge.lifecycle.activity = .suspended ∨
        world.bridge.lifecycle.isDue asOf = true := by
  rw [Lifecycle.isDue_iff]
  constructor
  · intro used
    cases used with
    | suspended sleeps => exact Or.inl sleeps
    | due armed come => exact Or.inr ⟨_, armed, come⟩
  · rintro (sleeps | ⟨deadline, armed, come⟩)
    · exact .suspended sleeps
    · exact .due armed come

theorem deadline_pushed {world : World} (free : world.bridge.locked = false)
    (result : Except Fault Delivery) :
    let after := if world.pushesBack result then (world.rearm world.clock).2 else world
    after.bridge.lifecycle.deadline =
      if after.pushesBack result then some (after.clock + world.bridge.lifecycle.timeout)
      else world.bridge.lifecycle.deadline := by
  rw [rearm_free free]
  cases pushes : world.pushesBack result with
  | true =>
      have again : (world.armDeadline world.clock).pushesBack result = true := pushes
      exact (if_pos again).symm
  | false => exact (if_neg (Bool.eq_false_iff.mp pushes)).symm

section Spared

variable {inside : Interlude} (spares : inside.SparesBridge)

include spares

theorem bridge_call_spared (world : World) (call : RadioCall) :
    (world.call inside call).2.bridge = world.bridge := spares call.operation _

theorem lifecycle_call_spared (world : World) (next : Lifecycle) (call : RadioCall) :
    ((world.hold next).call inside call).2.bridge.lifecycle = next := by
  rw [bridge_call_spared spares, bridge_hold]

theorem bridge_deliver_spared (world : World) (owner : ConverterOwner) (report : Report) :
    (world.deliver inside owner report).2.bridge = world.bridge := by
  have bridge := world.bridge_convert owner report
  rcases world.deliver_forms owner report inside with silent | ⟨message, forwarded⟩
  · rw [silent]
    exact bridge
  · rw [forwarded]
    unfold forward
    split
    · exact (bridge_call_spared spares _ _).trans bridge
    · exact bridge

theorem deadline_resumeRadio_spared (world : World) :
    let next := (world.resumeRadio inside).2.bridge
    next.locked = false ∧ next.lifecycle.deadline = world.bridge.lifecycle.deadline ∧
      next.lifecycle.timeout = world.bridge.lifecycle.timeout := by
  unfold resumeRadio
  cases started : world.bridge.lifecycle.startResume with
  | none => exact ⟨rfl, rfl, rfl⟩
  | some next =>
      have begun := (Lifecycle.startResume_eq_some_iff.mp started).2
      have held := lifecycle_call_spared spares world next .bringUp
      dsimp only
      rw [held.trans begun]
      cases ((world.hold next).call inside .bringUp).1 <;> exact ⟨rfl, rfl, rfl⟩

theorem deadline_checkDeadline_spared (world : World) (asOf : Nat) :
    let after := (world.checkDeadline inside asOf).2.bridge.lifecycle
    (UsesUp world (.check asOf) → after.deadline = none) ∧
      (¬UsesUp world (.check asOf) → after.deadline = world.bridge.lifecycle.deadline) := by
  rw [usesUp_check_iff]
  unfold checkDeadline
  cases started : world.bridge.lifecycle.startCheck asOf world.links with
  | mk outcome next =>
      rcases Lifecycle.startCheck_cases started with
        ⟨suspended, rfl, rfl⟩ | ⟨active, early, rfl, rfl⟩ |
          ⟨active, come, reason, held, rfl, rfl⟩ | ⟨active, come, unheld, rfl, same⟩
      · exact ⟨fun _used => rfl, fun unused => absurd (Or.inl suspended) unused⟩
      · refine ⟨?_, fun _unused => rfl⟩
        rintro (suspended | come)
        · cases active.symm.trans suspended
        · cases early.symm.trans come
      · exact ⟨fun _used => rfl, fun unused => absurd (Or.inr come) unused⟩
      · refine ⟨fun _used => ?_, fun unused => absurd (Or.inr come) unused⟩
        have held := lifecycle_call_spared spares world next .tearDown
        refine (Lifecycle.deadline_endCheck _ _).trans ?_
        exact congrArg Lifecycle.deadline (held.trans same)

variable {world : World} (free : world.bridge.locked = false)

include free

theorem deadline_process_spared (owner : ConverterOwner) (report : Report) :
    let done := world.process inside owner report
    done.2.bridge.lifecycle.deadline =
      if done.2.pushesBack done.1 then some (done.2.clock + world.bridge.lifecycle.timeout)
      else world.bridge.lifecycle.deadline := by
  have woken : ∀ ready awake,
      (if world.bridge.suspended = true then world.resumeRadio inside else (.ok (), world)) =
          (ready, awake) →
        awake.bridge.locked = false ∧
          awake.bridge.lifecycle.deadline = world.bridge.lifecycle.deadline ∧
          awake.bridge.lifecycle.timeout = world.bridge.lifecycle.timeout := by
    intro ready awake result
    split at result
    · have resumed := deadline_resumeRadio_spared spares world
      rw [result] at resumed
      exact resumed
    · rw [← (Prod.mk.inj result).2]
      exact ⟨free, rfl, rfl⟩
  unfold process
  rw [resume_free free]
  cases result : (if world.bridge.suspended = true then world.resumeRadio inside
      else (.ok (), world)) with
  | mk ready awake =>
      obtain ⟨unlocked, deadline, timeout⟩ := woken ready awake result
      cases ready with
      | error fault => exact deadline
      | ok _ =>
          have bridge := bridge_deliver_spared spares awake owner report
          rw [← deadline, ← timeout, ← bridge]
          exact deadline_pushed ((congrArg Bridge.locked bridge).trans unlocked) _

theorem arming_pump :
    Arming world .pump (world.perform inside .pump).1 (world.perform inside .pump).2 := by
  simp only [perform, take, pump]
  split
  · refine .of_still ?_ rfl rfl
    intro asOf arms
    cases arms
  · rename_i report intake _received
    split
    · exact .of_handled rfl
        (@deadline_process_spared _ spares (world.setIntake intake) free .nobody report)
    · exact .of_handled rfl
        (@deadline_process_spared _ spares { world.setIntake intake with sessionBusy := true }
          free .session report)

end Spared

theorem arming_connect {inside : Interlude} {world : World} (free : world.bridge.locked = false)
    (interfaceId : InterfaceId) (descriptor : List UInt8) :
    let done := world.perform inside (.connect interfaceId descriptor)
    Arming world (.connect interfaceId descriptor) done.1 done.2 := by
  cases result : world.bridge.intake.connect interfaceId descriptor with
  | mk outcome intake =>
      cases outcome with
      | error fault =>
          simp only [perform, take, connect, result]
          refine .of_still ?_ rfl rfl
          rintro asOf ⟨stored⟩
          cases (congrArg Prod.fst result).symm.trans stored
      | ok generation =>
          simp only [perform, take, connect, result, rearm_free, bridge_setIntake, free]
          refine .of_armed (.connect (congrArg Prod.fst result)) ?_ rfl rfl
          rintro other ⟨_stored⟩
          rfl

/-- While the lock is free, the deadline is armed by an interface that is taken in, on demand,
and by a message that is sent while both sides are linked. Checks that find it come, or the
radio suspended, use it up. Whatever else is asked of a bridge, and however that ends, the
deadline stays as it is. -/
theorem arming_perform {inside : Interlude} (spares : inside.SparesBridge) {world : World}
    (free : world.bridge.locked = false) (operation : Operation) :
    Arming world operation (world.perform inside operation).1
      (world.perform inside operation).2 := by
  cases operation with
  | connect interfaceId descriptor => exact arming_connect free interfaceId descriptor
  | report interfaceId reportId payload => exact .of_still (not_arms rfl) rfl rfl
  | disconnect interfaceId => exact .of_still (not_arms rfl) rfl rfl
  | process owner report => exact .of_handled rfl (deadline_process_spared spares free owner report)
  | pump => exact arming_pump spares free
  | resume =>
      simp only [perform, resume_free free]
      exact .of_still (not_arms rfl) rfl (deadline_resumeRadio_spared spares world).2.1
  | rearm asOf =>
      simp only [perform, rearm_free free]
      refine .of_armed .rearm ?_ rfl rfl
      rintro other ⟨⟩
      rfl
  | check asOf =>
      obtain ⟨used, unused⟩ := deadline_checkDeadline_spared spares world asOf
      simp only [perform, check_free free]
      refine { armed := ?_, usedUp := used, still := fun _unarmed => unused }
      intro other arms
      exact absurd arms (not_arms rfl other)
  | apply key value =>
      refine .of_still (not_arms rfl) rfl ?_
      simp only [perform, take, apply]
      cases world.bridge.settings.apply key value with
      | error fault => rfl
      | ok changed =>
          dsimp only
          rw [underLock_free free]
          rfl
  | settings => exact .of_still (not_arms rfl) rfl rfl
  | activity =>
      refine .of_still (not_arms rfl) rfl ?_
      simp only [perform, take, activity]
      rw [underLock_free free]

def pullsPlug : Interlude
  | .send, world => world.setLinks (some false) none none
  | _, world => world

/-- A second after the device was attached its button is pressed. Only if it is still there
once the message was sent, the deadline is pushed back. -/
theorem attached_arming :
    let later := attached.wait Limits.second
    let kept := later.perform (interlude 0) (.process .session pressed)
    let pulled := later.perform pullsPlug (.process .session pressed)
    let checked := later.perform (interlude 0) (.check Settings.default.quietTime)
    (kept.1 = .delivered (.sent (.mouse (pressed.toMouse 100))) ∧
      kept.2.bridge.lifecycle.deadline = some (Limits.second + Settings.default.quietTime)) ∧
    (pulled.1 = .delivered (.sent (.mouse (pressed.toMouse 100))) ∧
      pulled.2.bridge.lifecycle.deadline = some Settings.default.quietTime) ∧
    checked.2.bridge.lifecycle.deadline = none := by
  intro later kept pulled checked
  have free : later.bridge.locked = false := by decide +kernel
  have armed : later.bridge.lifecycle.deadline = some Settings.default.quietTime := by
    decide +kernel
  have spared : (interlude 0).SparesBridge := fun _operation _world => rfl
  have pullSpared : pullsPlug.SparesBridge := by
    intro operation world
    cases operation <;> rfl
  have keptSent : kept.1 = .delivered (.sent (.mouse (pressed.toMouse 100))) := by
    decide +kernel
  have pulledSent : pulled.1 = .delivered (.sent (.mouse (pressed.toMouse 100))) := by
    decide +kernel
  refine ⟨⟨keptSent, ?_⟩, ⟨pulledSent, ?_⟩, ?_⟩
  · have arming : Arming later _ kept.1 kept.2 :=
      arming_perform spared free (.process .session pressed)
    rw [keptSent] at arming
    exact arming.armed Limits.second (.sent rfl (by decide +kernel) (by decide +kernel))
  · have arming : Arming later _ pulled.1 pulled.2 :=
      arming_perform pullSpared free (.process .session pressed)
    have gone : pulled.2.links.usbDevice = false := by decide +kernel
    rw [pulledSent] at arming
    refine (arming.still ?_ (not_usesUp rfl)).trans armed
    intro asOf arms
    cases arms with
    | sent _handles usb _ble => cases gone.symm.trans usb
  · have arming := arming_perform spared free (.check Settings.default.quietTime)
    exact arming.usedUp (.due armed (Nat.le_refl _))

end World

end HidBridge
