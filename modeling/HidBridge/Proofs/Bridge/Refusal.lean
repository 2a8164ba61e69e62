/-
What a device event that is refused leaves behind. An event that finds no place or cannot be
read leaves the table of layouts alone. An interface that is taken in while the lock stays
busy is refused as well, but its layouts have been stored by then. Nothing is said here about
what the sender of the event does next.
-/

import HidBridge.Proofs.Bridge.Atomicity
import HidBridge.Proofs.Bridge.Quiet

namespace HidBridge

def Step.isDevice : Step → Bool
  | .connect _ _ => true
  | .report _ _ _ => true
  | .disconnect _ => true
  | _ => false

theorem Answer.ofUnit_eq_refused_iff {result : Except Fault Unit} {fault : Fault} :
    Answer.ofUnit result = .refused fault ↔ result = .error fault := by
  cases result with
  | ok done =>
      constructor
      · intro impossible
        cases impossible
      · intro impossible
        cases impossible
  | error reason =>
      constructor
      · intro same
        rw [Answer.refused.inj same]
      · intro same
        rw [Except.error.inj same]
        rfl

namespace Intake

theorem submit_ne_lockTimeout (intake : Intake) (interfaceId : InterfaceId)
    (reportId : ReportId) (payload : List UInt8) :
    (intake.submit interfaceId reportId payload).1 ≠ .error .lockTimeout := by
  unfold submit decode read
  cases intake.table.get? interfaceId with
  | none => exact nofun
  | some entry =>
      cases found : entry.interface.input? reportId with
      | none =>
          simp only [found]
          exact nofun
      | some layout =>
          simp only [found, Layout.read]
          by_cases long : Limits.reportBytes < payload.length
          · simp only [long, if_true]
            exact nofun
          · simp only [long, if_false, enqueue]
            split <;> exact nofun

theorem submitTransfer_ne_lockTimeout (intake : Intake) (interfaceId : InterfaceId)
    (transfer : List UInt8) :
    (intake.submitTransfer interfaceId transfer).1 ≠ .error .lockTimeout := by
  unfold submitTransfer
  cases intake.table.get? interfaceId with
  | none => exact nofun
  | some entry => exact intake.submit_ne_lockTimeout interfaceId _ _

end Intake

namespace World

/-- What taking an interface in can come to. Where there is no place for it nothing changes.
Otherwise its layouts are stored, and then the deadline is armed if the lock is free. -/
theorem connect_cases (world : World) (interfaceId : InterfaceId) (descriptor : List UInt8) :
    world.connect interfaceId descriptor = (.error .interfaceTableFull, world) ∨
    ∃ table : Table,
      table.get? interfaceId =
        some
          { generation := world.bridge.intake.table.nextGeneration
            interface := .ofDescriptor interfaceId descriptor } ∧
      (∀ other, other ≠ interfaceId →
        table.get? other = world.bridge.intake.table.get? other) ∧
      world.connect interfaceId descriptor =
        (world.setIntake { world.bridge.intake with table }).rearm world.clock := by
  have own := Interface.id_ofDescriptor interfaceId descriptor
  rcases world.bridge.intake.table.insert_cases (.ofDescriptor interfaceId descriptor) with
    ⟨full, _unknown, _places⟩ | ⟨entries, stored, found, others⟩
  · left
    simp only [connect, Intake.connect, full]
    rfl
  · right
    rw [own] at found others
    refine ⟨_, found, others, ?_⟩
    simp only [connect, Intake.connect, stored]

theorem submit_keeps (world : World) (interfaceId : InterfaceId) (reportId : Option ReportId)
    (payload : List UInt8) :
    (world.submit interfaceId reportId payload).1 ≠ .error .lockTimeout ∧
      (world.submit interfaceId reportId payload).2.bridge.intake.table =
        world.bridge.intake.table := by
  cases reportId with
  | none =>
      exact ⟨world.bridge.intake.submitTransfer_ne_lockTimeout interfaceId payload,
        Relay.table_submitTransfer world.bridge.intake interfaceId payload⟩
  | some reportId =>
      exact ⟨world.bridge.intake.submit_ne_lockTimeout interfaceId reportId payload,
        Relay.table_submit world.bridge.intake interfaceId reportId payload⟩

/-- A device event that is refused leaves the table alone, unless it is refused because the
lock stays busy. Then it is an interface that is taken in: its layouts are stored with a
generation of their own, those of all other interfaces stay, and the deadline is not armed. -/
theorem table_of_refused (world : World) (inside : Interlude) {step : Step} {fault : Fault}
    (device : step.isDevice = true) (refused : (world.take inside step).1 = .refused fault) :
    let before := world.bridge
    let after := (world.take inside step).2.bridge
    (fault ≠ .lockTimeout ∧ after.intake.table = before.intake.table) ∨
      (fault = .lockTimeout ∧ before.locked = true ∧
        ∃ interfaceId descriptor, step = .connect interfaceId descriptor ∧
          after.intake.table.get? interfaceId =
            some
              { generation := before.intake.table.nextGeneration
                interface := .ofDescriptor interfaceId descriptor } ∧
          (∀ other, other ≠ interfaceId →
            after.intake.table.get? other = before.intake.table.get? other) ∧
          after.lifecycle = before.lifecycle) := by
  cases step with
  | connect interfaceId descriptor =>
      have answer : (world.connect interfaceId descriptor).1 = .error fault :=
        Answer.ofUnit_eq_refused_iff.mp refused
      rcases world.connect_cases interfaceId descriptor with full | ⟨table, own, others, stored⟩
      · left
        rw [full] at answer
        constructor
        · rw [← Except.error.inj answer]
          exact nofun
        · exact congrArg (fun result => result.2.bridge.intake.table) full
      · right
        let next := world.setIntake { world.bridge.intake with table }
        cases locked : world.bridge.locked with
        | false =>
            have free : next.bridge.locked = false := locked
            rw [stored, rearm_free free] at answer
            cases answer
        | true =>
            have held : next.Held := locked
            have late : next.rearm world.clock =
                (.error .lockTimeout, next.wait (Limits.lockWait * Limits.millisecond)) :=
              underLock_held held _ _
            rw [stored, late] at answer
            have last : (world.take inside (.connect interfaceId descriptor)).2 =
                next.wait (Limits.lockWait * Limits.millisecond) :=
              congrArg Prod.snd (stored.trans late)
            rw [last]
            exact ⟨(Except.error.inj answer).symm, rfl, interfaceId, descriptor, rfl, own, others,
              rfl⟩
  | report interfaceId reportId payload =>
      obtain ⟨unlocked, table⟩ := world.submit_keeps interfaceId reportId payload
      left
      constructor
      · intro timeout
        rw [timeout] at refused
        exact unlocked (Answer.ofUnit_eq_refused_iff.mp refused)
      · exact table
  | disconnect interfaceId => cases refused
  | _ => cases device

/-- A deadline is armed, and an interface is to be taken in inside the call that takes the
radio down. -/
def dozingOff : World :=
  (((new .default 4).take (interlude 0) (.rearm 0)).2.take (interlude 0)
    (.during .tearDown [.connect 1 Relay.buttons])).2

theorem dozingOff_refused :
    let held := dozingOff.hold dozingOff.bridge.lifecycle
    let connected := held.take (interlude 0) (.connect 1 Relay.buttons)
    connected.1 = .refused .lockTimeout ∧
      connected.2.bridge.intake.table.get? 1 =
        some { generation := 1, interface := .ofDescriptor 1 Relay.buttons } := by
  intro held connected
  have refused : connected.1 = .refused .lockTimeout := by decide +kernel
  rcases table_of_refused held (interlude 0) rfl refused with
    ⟨other, _same⟩ | ⟨_timeout, _locked, interfaceId, descriptor, same, stored, _others⟩
  · exact absurd rfl other
  · obtain ⟨rfl, rfl⟩ := Step.connect.inj same
    exact ⟨refused, stored⟩

/-- The check finds the deadline come. Inside its call an interface is refused, and it is there
afterwards. -/
theorem refused_and_stored :
    let checked := dozingOff.checkDeadline (interlude 1) Settings.default.quietTime
    (dozingOff.Reachable ∧ dozingOff.bridge.intake.table = .empty) ∧
      checked.2.nested.map NestedAnswer.answer = [.refused .lockTimeout] ∧
      checked.2.bridge.intake.table.entries =
        [{ generation := 1, interface := .ofDescriptor 1 Relay.buttons }] := by
  have reachable : dozingOff.Reachable := .take 0 _ (.take 0 _ (.new .default 4))
  exact ⟨⟨reachable, by decide +kernel⟩, by decide +kernel, by decide +kernel⟩

end World

end HidBridge
