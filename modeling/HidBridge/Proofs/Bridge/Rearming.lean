/-
What becomes of the deadline when a report finds the radio suspended and has it brought
up. The resume leaves the deadline alone, and of the ways in which the handling of the
report ends only one arms it: the message is sent while both sides are linked. So the
radio goes back to sleep by itself if that happens, or if the deadline was armed while it
slept.
-/

import HidBridge.Proofs.Bridge.Atomicity
import HidBridge.Proofs.Bridge.Memory
import HidBridge.Proofs.Bridge.Quiet
import HidBridge.Proofs.Bridge.Sending

namespace HidBridge

namespace World

theorem interlude_of_none {world : World} {operation : RadioOperation}
    (nothing : world.takePending operation = none) (depth : Nat) :
    interlude depth operation world = world := by
  cases depth with
  | zero => rfl
  | succ depth => simp only [interlude, nothing]

/-- What happens inside a call that sends a message of this bridge. -/
structure InsideSend (world begun : World) : Prop where
  bridge : begun.bridge = world.bridge
  events : ∃ message, begun.radio.events = world.radio.events ++ [.began (.send message)]
  pending : begun.takePending .send ≠ none

/-- A delivery leaves the bridge alone, apart from what steps inside the call that sends
do to it. -/
theorem bridge_deliver (world : World) (depth : Nat) (owner : ConverterOwner) (report : Report) :
    (world.deliver (interlude depth) owner report).2.bridge = world.bridge ∨
    ∃ begun, InsideSend world begun ∧
      (world.deliver (interlude depth) owner report).2.bridge =
        (interlude depth .send begun).bridge := by
  have bridge := world.bridge_convert owner report
  have radio := world.radio_convert owner report
  rcases world.deliver_forms owner report (interlude depth) with silent | ⟨message, forwarded⟩
  · rw [silent]
    exact Or.inl bridge
  · rw [forwarded]
    generalize (world.convert owner report).2 = next at bridge radio
    unfold World.forward
    split
    · obtain ⟨failure, called⟩ := next.call_eq (interlude depth) (.send message)
      rw [called]
      cases nothing : (next.begun (.send message)).takePending .send with
      | none =>
          have same := interlude_of_none nothing depth
          refine Or.inl ?_
          dsimp only
          exact (congrArg World.bridge same).trans bridge
      | some both =>
          refine Or.inr ⟨next.begun (.send message), ?_, rfl⟩
          refine { bridge, events := ⟨message, ?_⟩, pending := ?_ }
          · rw [← radio]
            rfl
          · rw [nothing]
            exact Option.some_ne_none both
    · exact Or.inl bridge

theorem lifecycle_resume {world : World} (free : world.bridge.locked = false)
    (sleeps : world.bridge.lifecycle.activity = .suspended) {depth : Nat}
    (resumed : (world.resume (interlude depth)).1 = .ok ()) :
    (world.resume (interlude depth)).2.bridge.lifecycle =
        { world.bridge.lifecycle with activity := .active } ∧
      (world.resume (interlude depth)).2.bridge.suspended = false ∧
      (world.resume (interlude depth)).2.bridge.locked = false := by
  have started : world.bridge.lifecycle.startResume =
      some { world.bridge.lifecycle with activity := .active } :=
    Lifecycle.startResume_eq_some_iff.mpr ⟨sleeps, rfl⟩
  obtain ⟨failure, after, called, lifecycle, _transition⟩ :=
    world.transition_call { world.bridge.lifecycle with activity := .active } depth .bringUp
  rw [resume_free free] at resumed ⊢
  simp only [World.resumeRadio, started, called, lifecycle] at resumed ⊢
  cases failure with
  | none => exact ⟨rfl, rfl, rfl⟩
  | some cause => cases resumed

/-- A check has the radio taken down exactly if the deadline has come and nothing holds
it. -/
theorem takesDown_iff {world : World} (free : world.bridge.locked = false) (depth asOf : Nat) :
    (∃ failure, Transition .tearDown failure world (world.check (interlude depth) asOf).2) ↔
      world.bridge.lifecycle.activity = .active ∧
      (∃ deadline, world.bridge.lifecycle.deadline = some deadline ∧ deadline ≤ asOf) ∧
      world.links.hold? world.bridge.lifecycle.sleepEnabled = none := by
  have silent {next : Lifecycle} :
      ¬∃ failure, Transition .tearDown failure world (world.release next) := by
    rintro ⟨_failure, transition⟩
    obtain ⟨inside, same, _messages⟩ := transition.events
    exact List.cons_ne_nil _ _ (List.self_eq_append_right.mp same)
  rw [check_free free, ← Lifecycle.isDue_iff]
  cases started : world.bridge.lifecycle.startCheck asOf world.links with
  | mk outcome next =>
      rcases Lifecycle.startCheck_cases started with
        ⟨suspended, rfl, same⟩ | ⟨active, early, rfl, same⟩ |
          ⟨active, come, reason, held, rfl, same⟩ | ⟨active, come, unheld, rfl, same⟩
      · simp only [World.checkDeadline, started]
        refine iff_of_false silent ?_
        rintro ⟨active, _come, _unheld⟩
        cases suspended.symm.trans active
      · simp only [World.checkDeadline, started]
        refine iff_of_false silent ?_
        rintro ⟨_active, come, _unheld⟩
        cases early.symm.trans come
      · simp only [World.checkDeadline, started]
        refine iff_of_false silent ?_
        rintro ⟨_active, _come, unheld⟩
        cases held.symm.trans unheld
      · obtain ⟨failure, after, called, lifecycle, transition⟩ :=
          world.transition_call next depth .tearDown
        simp only [World.checkDeadline, started, called]
        exact iff_of_true ⟨failure, transition _⟩ ⟨active, come, unheld⟩

/-- A report that finds the radio suspended and has it brought up is delivered, and after
that the lock is free to push the deadline back. -/
theorem Visited.process_resumed {world : World} (visited : world.Visited)
    (free : world.bridge.locked = false) (sleeps : world.bridge.lifecycle.activity = .suspended)
    {depth : Nat} (resumed : (world.resume (interlude depth)).1 = .ok ())
    (owner : ConverterOwner) (report : Report) :
    let delivered :=
      (world.resume (interlude depth)).2.deliver (interlude depth) owner report
    world.process (interlude depth) owner report =
      (delivered.1,
        if delivered.2.pushesBack delivered.1 then delivered.2.armDeadline delivered.2.clock
        else delivered.2) := by
  have coherent := visited.coherent
  have suspended : world.bridge.suspended = true := by
    rw [coherent.now.shown, ← coherent.now.free free]
    exact decide_eq_true sleeps
  obtain ⟨_lifecycle, up, unlocked⟩ := lifecycle_resume free sleeps resumed
  have awake := (visited.resume depth).coherent
  have stillUnlocked := (coherent_primitives.deliver (coherent_primitives.interlude depth) awake up
    owner report).frame.locked.trans unlocked
  rw [process_of_ok suspended (Prod.ext resumed rfl) up]
  simp only [World.process, up, Bool.false_eq_true, if_false, rearm_free stillUnlocked]

theorem pushesBack_iff (world : World) (result : Except Fault Delivery) :
    world.pushesBack result = true ↔
      (∃ message, result = .ok (.sent message)) ∧ world.links.rearmsOnDelivery = true := by
  unfold pushesBack
  split
  · rename_i message
    exact ⟨fun rearms => ⟨⟨message, rfl⟩, rearms⟩, And.right⟩
  · rename_i other
    constructor
    · exact nofun
    · intro ⟨⟨message, sent⟩, _rearms⟩
      exact absurd sent (other message)

/-- A report that finds the radio suspended and has it brought up arms the deadline if
its message is sent while both sides are linked. Otherwise the deadline is what it was
while the radio slept, or what steps inside the call that sends have made of it. As long
as the lifecycle stays like that, a check has the radio taken down again exactly if a
deadline is armed and has come, and nothing holds the radio. -/
theorem Visited.rearms_if_sent {world : World} (visited : world.Visited)
    (free : world.bridge.locked = false) (sleeps : world.bridge.lifecycle.activity = .suspended)
    (depth : Nat) (owner : ConverterOwner) (report : Report)
    (resumed : (world.resume (interlude depth)).1 = .ok ()) :
    let done := world.process (interlude depth) owner report
    let rearmed := (∃ message, done.1 = .ok (.sent message)) ∧
      done.2.links.rearmsOnDelivery = true
    (rearmed →
      done.2.bridge.lifecycle.deadline =
        some (done.2.clock + done.2.bridge.lifecycle.timeout) ∧
      done.2.bridge.deadlineMoved = true) ∧
    (¬rearmed →
      done.2.bridge.lifecycle = { world.bridge.lifecycle with activity := .active } ∨
      ∃ begun, InsideSend (world.resume (interlude depth)).2 begun ∧
        done.2.bridge.lifecycle = (interlude depth .send begun).bridge.lifecycle) ∧
    ∀ later : World, later.bridge.lifecycle = done.2.bridge.lifecycle →
      later.bridge.locked = false → ∀ asOf,
        (∃ failure, Transition .tearDown failure later
          (later.check (interlude depth) asOf).2) ↔
        done.2.bridge.lifecycle.activity = .active ∧
        (∃ deadline, done.2.bridge.lifecycle.deadline = some deadline ∧ deadline ≤ asOf) ∧
        later.links.hold? done.2.bridge.lifecycle.sleepEnabled = none := by
  have lifecycle := (lifecycle_resume free sleeps resumed).1
  have bridge := (world.resume (interlude depth)).2.bridge_deliver depth owner report
  rw [visited.process_resumed free sleeps resumed]
  generalize (world.resume (interlude depth)).2.deliver (interlude depth) owner report =
    delivered at bridge ⊢
  obtain ⟨outcome, next⟩ := delivered
  dsimp only at bridge ⊢
  refine ⟨?_, ?_, ?_⟩
  · intro ⟨sent, linked⟩
    cases pushes : next.pushesBack outcome with
    | true => exact ⟨rfl, rfl⟩
    | false =>
        rw [pushes] at linked
        cases pushes.symm.trans ((pushesBack_iff next outcome).mpr ⟨sent, linked⟩)
  · intro notRearmed
    cases pushes : next.pushesBack outcome with
    | true =>
        rw [pushes] at notRearmed
        exact absurd ((pushesBack_iff next outcome).mp pushes) notRearmed
    | false =>
        rw [if_neg Bool.false_ne_true, ← lifecycle]
        rcases bridge with same | ⟨begun, inside, same⟩
        · exact Or.inl (congrArg Bridge.lifecycle same)
        · exact Or.inr ⟨begun, inside, congrArg Bridge.lifecycle same⟩
  · intro later same lockFree asOf
    rw [takesDown_iff lockFree, same]

def resting : World := (attached.check (interlude 0) Settings.default.quietTime).2

theorem pressed_rearms :
    let done := resting.process (interlude 0) .session pressed
    resting.Visited ∧ resting.bridge.lifecycle.deadline = none ∧
      done.2.bridge.lifecycle.deadline = some Settings.default.quietTime ∧
      ∃ failure, Transition .tearDown failure done.2
        (done.2.check (interlude 0) Settings.default.quietTime).2 := by
  intro done
  have visited : resting.Visited := .check 0 _ (.take 0 _ (.new .default 4))
  have sent : done.1 = .ok (.sent (.mouse (pressed.toMouse 100))) := by decide +kernel
  have linked : done.2.links.rearmsOnDelivery = true := by decide +kernel
  have timed : done.2.clock + done.2.bridge.lifecycle.timeout = Settings.default.quietTime := by
    decide +kernel
  obtain ⟨rearms, _otherwise, again⟩ := visited.rearms_if_sent (by decide +kernel)
    (by decide +kernel) 0 .session pressed (by decide +kernel)
  have armed := (rearms ⟨⟨_, sent⟩, linked⟩).1
  rw [timed] at armed
  refine ⟨visited, by decide +kernel, armed, ?_⟩
  exact (again done.2 rfl (by decide +kernel) _).mpr
    ⟨by decide +kernel, ⟨_, armed, Nat.le_refl _⟩, by decide +kernel⟩

/-- A control that the radio knows nothing of is connected, and used while the radio
sleeps. -/
def unheeded : World :=
  ((((new .default 4).take (interlude 0)
      (.connect 1 [0x05, 0x0C, 0x19, 0x01, 0x29, 0x01, 0x75, 0x08, 0x95, 0x01, 0x81, 0x02])).2.take
    (interlude 0) (.check Settings.default.quietTime)).2.take
    (interlude 0) (.report 1 none [0x02])).2

def turned : Report :=
  { interfaceId := 1
    reportId := 0
    generation := 1
    samples :=
      [{ field :=
          { page := 0x0C
            usage := 1
            usageMaximum := 1
            unitSize := 8
            unitCount := 1
            logicalMinimum := 0
            logicalMaximum := 0
            flags := .ofData 0x02
            offset := 0
            width := 8 }
         value := 2 }]
    payload := [0x02] }

/-- There is nothing to be sent, and the radio stays up that was brought up for it. -/
theorem turned_stays_awake :
    let done := unheeded.process (interlude 0) .session turned
    (unheeded.Reachable ∧ unheeded.bridge.locked = false ∧
      unheeded.bridge.lifecycle.activity = .suspended ∧
      unheeded.bridge.intake.queue = [turned]) ∧
    (unheeded.resume (interlude 0)).1 = .ok () ∧ done.1 = .ok .ignored ∧
      done.2.bridge.lifecycle.activity = .active ∧ done.2.bridge.lifecycle.deadline = none ∧
      (done.2.check (interlude 0) (3600 * Limits.second)).1 = .ok .notDue := by
  have reachable : unheeded.Reachable := .take 0 _ (.take 0 _ (.take 0 _ (.new .default 4)))
  exact ⟨⟨reachable, by decide +kernel, by decide +kernel, by decide +kernel⟩,
    by decide +kernel, by decide +kernel, by decide +kernel, by decide +kernel,
    by decide +kernel⟩

end World

end HidBridge
