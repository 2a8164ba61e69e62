/-
Reports that come with their number, and transfers that start with it. Whether a driver has
split the number off or the bridge does it makes no difference: both ways lead to the same
layout, and to the same answer, queue and counters.
-/

import HidBridge.Bridge.Operations
import HidBridge.Proofs.Intake.Accounting
import HidBridge.Proofs.Layout.Truncation

namespace HidBridge

namespace Interface

/-- The transfer that carries a report of the interface. -/
def join (interface : Interface) (reportId : ReportId) (payload : List UInt8) : List UInt8 :=
  if interface.namesReports then reportId :: payload else payload

/-- The number by which the interface knows a report. -/
def known (interface : Interface) (reportId : ReportId) : ReportId :=
  if interface.namesReports then reportId else 0

variable (interface : Interface) (reportId : ReportId)

theorem split_join (payload : List UInt8) :
    interface.split (interface.join reportId payload) = (interface.known reportId, payload) := by
  unfold join known
  cases names : interface.namesReports with
  | true => simp only [split, names, if_true]
  | false => cases payload <;> simp only [split, names, Bool.false_eq_true, if_false]

theorem input?_known : interface.input? (interface.known reportId) = interface.input? reportId := by
  unfold input? layout? known
  cases interface.namesReports <;> rfl

theorem reportId_of_input? {interface : Interface} {reportId : ReportId} {layout : Layout}
    (found : interface.input? reportId = some layout) :
    layout.reportId = interface.known reportId := by
  have serves := List.find?_some found
  exact (Layout.serves_iff.mp serves).1

theorem join_ofDescriptor (id : InterfaceId) (descriptor payload : List UInt8) :
    (ofDescriptor id descriptor).join reportId payload =
      if (Descriptor.shortItems descriptor).any Descriptor.ShortItem.namesReport then
        reportId :: payload
      else payload := by
  unfold join ofDescriptor
  rw [namesReports_ofItems]

end Interface

namespace Intake

def Carries (intake : Intake) (interfaceId : InterfaceId) (reportId : ReportId)
    (payload transfer : List UInt8) : Prop :=
  ∀ entry, intake.table.get? interfaceId = some entry →
    transfer = entry.interface.join reportId payload

variable {intake : Intake} {interfaceId : InterfaceId} {reportId : ReportId}
  {payload transfer : List UInt8}

theorem submit_congr {other : ReportId}
    (same : intake.read interfaceId other payload = intake.read interfaceId reportId payload) :
    intake.submit interfaceId other payload = intake.submit interfaceId reportId payload := by
  unfold submit decode
  rw [same]

theorem submit_of_absent (absent : intake.table.get? interfaceId = none) :
    intake.submit interfaceId reportId payload =
      (.error .unknownInterface, { intake with counters := intake.counters.addUnknown }) := by
  unfold submit decode read
  rw [absent]

theorem read_known {entry : Attached} (found : intake.table.get? interfaceId = some entry) :
    intake.read interfaceId (entry.interface.known reportId) payload =
      intake.read interfaceId reportId payload := by
  unfold read
  rw [found]
  dsimp only
  rw [entry.interface.input?_known]

theorem submitTransfer_of_carries
    (carries : intake.Carries interfaceId reportId payload transfer) :
    intake.submitTransfer interfaceId transfer =
      intake.submit interfaceId reportId payload := by
  unfold submitTransfer
  cases found : intake.table.get? interfaceId with
  | none => exact (submit_of_absent found).symm
  | some entry =>
      dsimp only
      rw [carries entry found, entry.interface.split_join]
      exact submit_congr (read_known found)

/-- A report that is queued has the payload without its number, and the number by which
its interface knows it. -/
theorem queued_of_submit (accepted : (intake.submit interfaceId reportId payload).1 = .ok ()) :
    ∃ entry report, intake.table.get? interfaceId = some entry ∧
      (intake.submit interfaceId reportId payload).2.queue = intake.queue ++ [report] ∧
      report.reportId = entry.interface.known reportId ∧ report.payload = payload := by
  have admits := intake.admits_submit interfaceId reportId payload
  have readable := (admits.accepted_iff.mp accepted).1
  cases reading : intake.read interfaceId reportId payload with
  | error fault =>
      rw [reading] at readable
      cases readable
  | ok report =>
      obtain ⟨entry, layout, found, input, reads⟩ := Relay.layout_of_read reading
      have number := (Relay.parts_of_read reads).2.1.trans (Interface.reportId_of_input? input)
      refine ⟨entry, report, found, admits.queue_of_accepted reading accepted, number, ?_⟩
      unfold Layout.read at reads
      split at reads
      · cases reads
      · rw [← Except.ok.inj reads]

/-- A report whose number was split off, and the transfer that carries it, have the same
answer and leave the same intake behind, whatever becomes of them. -/
theorem Carries.as_submitted (carries : intake.Carries interfaceId reportId payload transfer) :
    intake.submitTransfer interfaceId transfer = intake.submit interfaceId reportId payload ∧
      (∀ world : World, world.bridge.intake = intake →
        world.submit interfaceId none transfer =
          world.submit interfaceId (some reportId) payload) ∧
      ((intake.submit interfaceId reportId payload).1 = .ok () →
        ∃ entry report, intake.table.get? interfaceId = some entry ∧
          (intake.submit interfaceId reportId payload).2.queue = intake.queue ++ [report] ∧
          report.reportId = entry.interface.known reportId ∧ report.payload = payload) ∧
      ∀ descriptor,
        (Interface.ofDescriptor interfaceId descriptor).join reportId payload =
          if (Descriptor.shortItems descriptor).any Descriptor.ShortItem.namesReport then
            reportId :: payload
          else payload := by
  have same := submitTransfer_of_carries carries
  refine ⟨same, ?_, queued_of_submit, ?_⟩
  · rintro world rfl
    unfold World.submit
    dsimp only
    rw [same]
  · intro descriptor
    exact Interface.join_ofDescriptor reportId interfaceId descriptor payload

/-- Interface 1 does not name its reports, so a number that a driver has split off all the
same is not part of the transfer, and not recorded either. -/
theorem unnamed_as_submitted :
    let intake := ((Relay.new 1 100).after [.connect 1 Relay.buttons]).intake
    intake.Carries 1 7 [0x02] [0x02] ∧
      intake.submitTransfer 1 [0x02] = intake.submit 1 7 [0x02] ∧
      (intake.submitTransfer 1 [0x02]).2.queue.map Report.reportId = [0] := by
  intro intake
  have carries : intake.Carries 1 7 [0x02] [0x02] := by
    intro entry found
    have own : entry = { generation := 1, interface := .ofDescriptor 1 Relay.buttons } :=
      (Option.some.inj found).symm
    rw [own]
    rfl
  obtain ⟨same, _world, _queued, _named⟩ := carries.as_submitted
  refine ⟨carries, same, ?_⟩
  rw [same]
  rfl

end Intake

end HidBridge
