/-
Where the reports come from that were accepted in a run of an intake. Each of them has
a submission of its own, and was read with the layouts of that moment.
-/

import HidBridge.Proofs.Intake.Accounting

namespace HidBridge

namespace Relay

def handedIn? (relay : Relay) : Event → Option (InterfaceId × ReportId × List UInt8)
  | .submit interfaceId reportId payload => some (interfaceId, reportId, payload)
  | .submitTransfer interfaceId transfer =>
    (relay.intake.table.get? interfaceId).map
      (fun entry => (interfaceId, entry.interface.split transfer))
  | _ => none

/-- The event submits the report, which is what its payload reads as with the layout
that the interface has for it. -/
def Submits (relay : Relay) (event : Event) (layout : Layout) (report : Report) : Prop :=
  ∃ entry reportId payload,
    relay.handedIn? event = some (report.interfaceId, reportId, payload) ∧
    relay.intake.table.get? report.interfaceId = some entry ∧
    entry.interface.input? reportId = some layout ∧
    layout.read report.interfaceId entry.generation payload = .ok report

theorem table_of_handedIn {relay : Relay} {event : Event}
    {submission : InterfaceId × ReportId × List UInt8}
    (given : relay.handedIn? event = some submission) :
    (relay.take event).intake.table = relay.intake.table := by
  rw [table_take]
  cases event with
  | submit interfaceId reportId payload => rfl
  | submitTransfer interfaceId transfer => rfl
  | _ => cases given

theorem reading_of_accepted {reading : Except Fault Report} {answer : Except Fault Unit}
    {report : Report} (accepted : submitted reading answer = .accepted report) :
    reading = .ok report := by
  unfold submitted at accepted
  split at accepted
  · split at accepted
    · rename_i own
      rw [Outcome.accepted.inj accepted]
    · cases accepted
  · cases accepted
  · cases accepted

theorem submits_of_read {relay : Relay} {event : Event} {interfaceId : InterfaceId}
    {reportId : ReportId} {payload : List UInt8} {report : Report}
    (given : relay.handedIn? event = some (interfaceId, reportId, payload))
    (read : relay.intake.read interfaceId reportId payload = .ok report) :
    ∃ layout, relay.Submits event layout report := by
  obtain ⟨entry, layout, found, input, reads⟩ := layout_of_read read
  obtain ⟨forInterface, _forReport, _generation, _count⟩ := parts_of_read reads
  rw [← forInterface] at given found reads
  exact ⟨layout, entry, reportId, payload, given, found, input, reads⟩

theorem submits_of_accepted {relay : Relay} {event : Event} {report : Report}
    (accepted : relay.outcome event = .accepted report) :
    ∃ layout, relay.Submits event layout report := by
  cases event with
  | submit interfaceId reportId payload =>
      exact submits_of_read rfl (reading_of_accepted accepted)
  | submitTransfer interfaceId transfer =>
      have read := reading_of_accepted accepted
      unfold Intake.readTransfer at read
      cases found : relay.intake.table.get? interfaceId with
      | none =>
          rw [found] at read
          cases read
      | some entry =>
          rw [found] at read
          refine submits_of_read ?_ read
          unfold handedIn?
          dsimp only
          rw [found]
          rfl
  | decode interfaceId reportId payload =>
      unfold outcome at accepted
      dsimp only at accepted
      split at accepted <;> cases accepted
  | receive =>
      unfold outcome at accepted
      dsimp only at accepted
      split at accepted <;> cases accepted
  | _ => cases accepted

theorem eq_accepted {outcome : Outcome} {report : Report}
    (accepted : outcome.accepted? = some report) : outcome = .accepted report := by
  cases outcome with
  | accepted own => rw [Option.some.inj accepted]
  | _ => cases accepted

theorem accepted_cons (relay : Relay) (event : Event) (rest : List Event) :
    relay.accepted (event :: rest) =
      (relay.outcome event).accepted?.toList ++ (relay.take event).accepted rest := by
  unfold accepted
  rw [outcomes, List.filterMap_cons]
  cases (relay.outcome event).accepted? <;> rfl

/-- The submission of a report, by its place among those that were accepted. -/
theorem exists_submission {relay : Relay} {events : List Event} {earlier later : List Report}
    {report : Report} (same : relay.accepted events = earlier ++ report :: later) :
    ∃ before submission since layout, events = before ++ submission :: since ∧
      relay.accepted before = earlier ∧
      (relay.after before).Submits submission layout report := by
  induction events generalizing relay earlier with
  | nil =>
      have impossible : earlier ++ report :: later = [] := same.symm
      exact absurd (List.append_eq_nil_iff.mp impossible).2 (List.cons_ne_nil _ _)
  | cons event rest ih =>
      rw [accepted_cons] at same
      cases outcome : (relay.outcome event).accepted? with
      | none =>
          rw [outcome] at same
          obtain ⟨before, submission, since, layout, split, passed, submits⟩ := ih same
          refine ⟨event :: before, submission, since, layout, ?_, ?_, submits⟩
          · rw [split, List.cons_append]
          · rw [accepted_cons, outcome]
            exact passed
      | some first =>
          rw [outcome] at same
          cases earlier with
          | nil =>
              have own : first = report := (List.cons.inj same).1
              rw [own] at outcome
              obtain ⟨layout, submits⟩ := submits_of_accepted (eq_accepted outcome)
              exact ⟨[], event, rest, layout, rfl, rfl, submits⟩
          | cons head earlier =>
              have parts := List.cons.inj same
              have tail : (relay.take event).accepted rest = earlier ++ report :: later :=
                parts.2
              obtain ⟨before, submission, since, layout, split, passed, submits⟩ := ih tail
              refine ⟨event :: before, submission, since, layout, ?_, ?_, submits⟩
              · rw [split, List.cons_append]
              · rw [accepted_cons, outcome, passed, ← parts.1]
                rfl

theorem received?_outcome (relay : Relay) (event : Event) :
    (relay.outcome event).received? =
      match event with
      | .receive => relay.intake.queue.head?
      | _ => none := by
  have unreceived (reading : Except Fault Report) (answer : Except Fault Unit) :
      (submitted reading answer).received? = none := by
    unfold submitted
    split
    · split <;> rfl
    · rfl
    · rfl
  cases event with
  | submit interfaceId reportId payload => exact unreceived _ _
  | submitTransfer interfaceId transfer => exact unreceived _ _
  | decode interfaceId reportId payload =>
      unfold outcome
      dsimp only
      split <;> rfl
  | receive =>
      unfold outcome Intake.receive
      cases relay.intake.queue <;> rfl
  | _ => rfl

theorem received_append_single (relay : Relay) (earlier : List Event) (event : Event) :
    relay.received (earlier ++ [event]) =
      relay.received earlier ++ ((relay.after earlier).outcome event).received?.toList := by
  unfold received
  rw [outcomes_append, List.filterMap_append]
  rfl

end Relay

end HidBridge
