/-
Handling a report, apart from converting it. Whoever handles a report, and with whichever
converter: what the bridge and the radio come to depends on what the report is converted to,
and the converters are not touched by anything else.
-/

import HidBridge.Proofs.Bridge.Traffic

namespace HidBridge

structure Users where
  session : Converter
  sessionBusy : Bool
  consumer : Consumer

namespace World

def users (world : World) : Users :=
  { session := world.session
    sessionBusy := world.sessionBusy
    consumer := world.consumer }

def withUsers (world : World) (users : Users) : World :=
  { world with
    session := users.session
    sessionBusy := users.sessionBusy
    consumer := users.consumer }

def passOn (world : World) : Except Fault (Option Output.Message) → Except Fault Delivery × World
  | .error fault => (.error fault, world)
  | .ok none => (.ok .ignored, world)
  | .ok (some message) =>
    let (sent, last) := world.forward (interlude 0) message
    if sent then
      (.ok (.sent message),
        if last.links.rearmsOnDelivery then last.armDeadline last.clock else last)
    else (.ok .dropped, last)

def handle (world : World) (converted : Except Fault (Option Output.Message)) :
    Except Fault Delivery × World :=
  match world.wake with
  | (.error fault, awake) => (.error fault, awake)
  | (.ok _, awake) => awake.passOn converted

section Users

variable (world : World) (users : Users)

@[simp]
theorem bridge_withUsers : (world.withUsers users).bridge = world.bridge := rfl

@[simp]
theorem links_withUsers : (world.withUsers users).links = world.links := rfl

@[simp]
theorem clock_withUsers : (world.withUsers users).clock = world.clock := rfl

@[simp]
theorem armDeadline_withUsers (asOf : Nat) :
    (world.withUsers users).armDeadline asOf = (world.armDeadline asOf).withUsers users := rfl

theorem convert_users (owner : ConverterOwner) (report : Report) :
    (world.convert owner report).2 =
      world.withUsers (world.convert owner report).2.users := by
  cases owner <;> rfl

theorem resumeRadio_withUsers :
    (world.withUsers users).resumeRadio (interlude 0) =
      ((world.resumeRadio (interlude 0)).1,
        (world.resumeRadio (interlude 0)).2.withUsers users) := by
  unfold resumeRadio
  rw [bridge_withUsers]
  cases world.bridge.lifecycle.startResume <;> rfl

theorem wake_withUsers :
    (world.withUsers users).wake = (world.wake.1, world.wake.2.withUsers users) := by
  unfold wake
  rw [bridge_withUsers]
  split
  · exact world.resumeRadio_withUsers users
  · rfl

theorem forward_withUsers (message : Output.Message) :
    (world.withUsers users).forward (interlude 0) message =
      ((world.forward (interlude 0) message).1,
        (world.forward (interlude 0) message).2.withUsers users) := by
  unfold forward
  rw [links_withUsers]
  split <;> rfl

theorem passOn_withUsers (converted : Except Fault (Option Output.Message)) :
    (world.withUsers users).passOn converted =
      ((world.passOn converted).1, (world.passOn converted).2.withUsers users) := by
  cases converted with
  | error fault => rfl
  | ok message =>
      cases message with
      | none => rfl
      | some message =>
          simp only [passOn, forward_withUsers]
          cases world.forward (interlude 0) message with
          | mk sent last =>
              cases sent with
              | false => rfl
              | true =>
                  cases rearms : last.links.rearmsOnDelivery <;> simp [rearms]

theorem handle_withUsers (converted : Except Fault (Option Output.Message)) :
    (world.withUsers users).handle converted =
      ((world.handle converted).1, (world.handle converted).2.withUsers users) := by
  unfold handle
  rw [wake_withUsers]
  cases world.wake with
  | mk ready awake =>
      cases ready with
      | error fault => rfl
      | ok _ => exact awake.passOn_withUsers users converted

theorem handOver_eq (owner : ConverterOwner) (report : Report) :
    world.handOver owner report =
      (world.convert owner report).2.passOn (world.convert owner report).1 := by
  unfold handOver deliver
  cases world.convert owner report with
  | mk converted next =>
      cases converted with
      | error fault => rfl
      | ok message =>
          cases message with
          | none => rfl
          | some message =>
              simp only [passOn]
              cases next.forward (interlude 0) message with
              | mk sent last => cases sent <;> rfl

end Users

/-- A report that is processed is handled as it is converted, and nothing else about the
users makes a difference. -/
theorem process_eq_handle {world : World} (free : world.bridge.locked = false)
    (owner : ConverterOwner) (report : Report) :
    ∃ users, world.process (interlude 0) owner report =
      ((world.handle (world.convert owner report).1).1,
        (world.handle (world.convert owner report).1).2.withUsers users) := by
  have converted := (world.convert_wake owner report).1
  rw [process_free free]
  unfold handle
  cases result : world.wake with
  | mk ready awake =>
      rw [result] at converted
      cases ready with
      | error fault => exact ⟨awake.users, rfl⟩
      | ok _ =>
          dsimp only at converted ⊢
          rw [handOver_eq, convert_users, passOn_withUsers, converted]
          exact ⟨_, rfl⟩

theorem process_withUsers {world : World} (free : world.bridge.locked = false) (users : Users)
    {owner other : ConverterOwner} {report : Report}
    (alike : ((world.withUsers users).convert other report).1 =
      (world.convert owner report).1) :
    let one := world.process (interlude 0) owner report
    let two := (world.withUsers users).process (interlude 0) other report
    two.1 = one.1 ∧ two.2 = one.2.withUsers two.2.users := by
  have otherFree : (world.withUsers users).bridge.locked = false := free
  obtain ⟨first, oneEq⟩ := process_eq_handle free owner report
  obtain ⟨second, twoEq⟩ := process_eq_handle otherFree other report
  rw [alike, handle_withUsers] at twoEq
  rw [oneEq, twoEq]
  exact ⟨rfl, rfl⟩

end World

end HidBridge
