/-
What becomes of the reports in a run of an intake. Reports are received in the
order in which they were accepted, none of them gets lost or is received twice, and
the counters tell what all submissions have come to.

A submission that does not wait for a place in the queue comes to the same as one
that does: a full queue stays full while a producer waits.
-/

import HidBridge.Proofs.Intake.Staleness
import Mathlib.Data.List.Induction

namespace HidBridge

inductive Outcome where
  | accepted (report : Report)
  | full
  | unreadable
  | received (report : Report)
  | silent
  deriving DecidableEq

namespace Outcome

def accepted? : Outcome → Option Report
  | .accepted report => some report
  | _ => none

def received? : Outcome → Option Report
  | .received report => some report
  | _ => none

def isAccepted (outcome : Outcome) : Bool := outcome.accepted?.isSome

end Outcome

namespace Counters

def tally (outcomes : List Outcome) : Counters :=
  { decoded := outcomes.countP Outcome.isAccepted % 0x100000000
    dropped := outcomes.count .full % 0x100000000
    unknown := outcomes.count .unreadable % 0x100000000 }

def move (counters : Counters) : Except Fault Unit → Counters
  | .ok _ => counters.addDecoded
  | .error .queueFull => counters.addDropped
  | .error _ => counters.addUnknown

theorem succ_mod (count : Nat) : succ (count % 0x100000000) = (count + 1) % 0x100000000 :=
  Nat.mod_add_mod count 0x100000000 1

variable (outcomes : List Outcome)

theorem tally_accepted (report : Report) :
    tally (outcomes ++ [.accepted report]) = (tally outcomes).addDecoded := by
  unfold tally addDecoded
  simp only [succ_mod, List.countP_append, List.count_append]
  rfl

theorem tally_full : tally (outcomes ++ [.full]) = (tally outcomes).addDropped := by
  unfold tally addDropped
  simp only [succ_mod, List.countP_append, List.count_append]
  rfl

theorem tally_unreadable :
    tally (outcomes ++ [.unreadable]) = (tally outcomes).addUnknown := by
  unfold tally addUnknown
  simp only [succ_mod, List.countP_append, List.count_append]
  rfl

theorem tally_received (report : Report) :
    tally (outcomes ++ [.received report]) = tally outcomes := by
  unfold tally
  simp only [List.countP_append, List.count_append]
  rfl

theorem tally_silent : tally (outcomes ++ [.silent]) = tally outcomes := by
  unfold tally
  simp only [List.countP_append, List.count_append]
  rfl

end Counters

namespace Intake

/-- What can come of a submission that reads as given: its answer, and the intake
after it. -/
inductive Admits (intake : Intake) (reading : Except Fault Report) :
    Except Fault Unit → Intake → Prop where
  | queued (report : Report) :
    reading = .ok report → intake.queue.length < intake.depth →
    Admits intake reading (.ok ())
      { intake with
        queue := intake.queue ++ [report]
        counters := intake.counters.addDecoded }
  | full (report : Report) :
    reading = .ok report → intake.depth ≤ intake.queue.length →
    Admits intake reading (.error .queueFull)
      { intake with counters := intake.counters.addDropped }
  | unreadable (fault : Fault) :
    reading = .error fault → fault ≠ .queueFull →
    Admits intake reading (.error fault)
      { intake with counters := intake.counters.addUnknown }

def readTransfer (intake : Intake) (interfaceId : InterfaceId) (transfer : List UInt8) :
    Except Fault Report :=
  match intake.table.get? interfaceId with
  | none => .error .unknownInterface
  | some entry =>
    let (reportId, payload) := entry.interface.split transfer
    intake.read interfaceId reportId payload

theorem read_ne_queueFull (intake : Intake) (interfaceId : InterfaceId) (reportId : ReportId)
    (payload : List UInt8) : intake.read interfaceId reportId payload ≠ .error .queueFull := by
  unfold read
  split
  · exact nofun
  · split
    · exact nofun
    · unfold Layout.read
      split <;> exact nofun

theorem admits_submit (intake : Intake) (interfaceId : InterfaceId) (reportId : ReportId)
    (payload : List UInt8) :
    intake.Admits (intake.read interfaceId reportId payload)
      (intake.submit interfaceId reportId payload).1
      (intake.submit interfaceId reportId payload).2 := by
  have notFull := intake.read_ne_queueFull interfaceId reportId payload
  unfold submit decode
  cases reading : intake.read interfaceId reportId payload with
  | error fault =>
      rw [reading] at notFull
      exact .unreadable fault rfl (fun same => notFull (congrArg _ same))
  | ok report =>
      dsimp only
      unfold enqueue
      split
      · rename_i room
        exact .queued report rfl room
      · rename_i noRoom
        exact .full report rfl (Nat.le_of_not_lt noRoom)

theorem admits_submitTransfer (intake : Intake) (interfaceId : InterfaceId)
    (transfer : List UInt8) :
    intake.Admits (intake.readTransfer interfaceId transfer)
      (intake.submitTransfer interfaceId transfer).1
      (intake.submitTransfer interfaceId transfer).2 := by
  unfold submitTransfer readTransfer
  cases intake.table.get? interfaceId with
  | none => exact .unreadable .unknownInterface rfl nofun
  | some entry => exact intake.admits_submit interfaceId _ _

namespace Admits

variable {intake next : Intake} {reading : Except Fault Report} {answer : Except Fault Unit}
  (admits : intake.Admits reading answer next)

include admits

theorem accepted_iff :
    answer = .ok () ↔ reading.isOk = true ∧ intake.queue.length < intake.depth := by
  cases admits with
  | queued report read room =>
      exact ⟨fun _accepted => ⟨by rw [read]; rfl, room⟩, fun _both => rfl⟩
  | full report _read noRoom =>
      exact ⟨nofun, fun both => absurd both.2 (Nat.not_lt_of_le noRoom)⟩
  | unreadable fault read _notFull =>
      refine ⟨nofun, fun both => ?_⟩
      rw [read] at both
      exact nomatch both.1

theorem queue_of_full (full : answer = .error .queueFull) : next.queue = intake.queue := by
  cases admits with
  | queued report _read _room => cases full
  | full report _read _noRoom => rfl
  | unreadable fault _read _notFull => rfl

theorem queue_of_accepted {report : Report} (read : reading = .ok report)
    (accepted : answer = .ok ()) : next.queue = intake.queue ++ [report] := by
  cases admits with
  | queued own ownRead _room =>
      rw [read] at ownRead
      rw [Except.ok.inj ownRead]
  | full own _read _noRoom => cases accepted
  | unreadable fault _read _notFull => cases accepted

theorem counters_eq : next.counters = intake.counters.move answer := by
  cases admits with
  | queued report _read _room => rfl
  | full report _read _noRoom => rfl
  | unreadable fault _read notFull => cases fault <;> first | rfl | exact absurd rfl notFull

end Admits

end Intake

namespace Relay

def reading? (relay : Relay) : Event → Option (Except Fault Report)
  | .submit interfaceId reportId payload => some (relay.intake.read interfaceId reportId payload)
  | .submitTransfer interfaceId transfer => some (relay.intake.readTransfer interfaceId transfer)
  | _ => none

def answer? (relay : Relay) : Event → Option (Except Fault Unit)
  | .submit interfaceId reportId payload =>
    some (relay.intake.submit interfaceId reportId payload).1
  | .submitTransfer interfaceId transfer =>
    some (relay.intake.submitTransfer interfaceId transfer).1
  | _ => none

def submitted (reading : Except Fault Report) : Except Fault Unit → Outcome
  | .ok _ =>
    match reading with
    | .ok report => .accepted report
    | .error _ => .silent
  | .error .queueFull => .full
  | .error _ => .unreadable

def outcome (relay : Relay) : Event → Outcome
  | .submit interfaceId reportId payload =>
    submitted (relay.intake.read interfaceId reportId payload)
      (relay.intake.submit interfaceId reportId payload).1
  | .submitTransfer interfaceId transfer =>
    submitted (relay.intake.readTransfer interfaceId transfer)
      (relay.intake.submitTransfer interfaceId transfer).1
  | .decode interfaceId reportId payload =>
    if (relay.intake.decode interfaceId reportId payload).1.isOk then .silent else .unreadable
  | .receive =>
    match relay.intake.receive with
    | some (report, _intake) => .received report
    | none => .silent
  | _ => .silent

def outcomes : Relay → List Event → List Outcome
  | _, [] => []
  | relay, event :: rest => relay.outcome event :: (relay.take event).outcomes rest

theorem outcomes_append (relay : Relay) (earlier later : List Event) :
    relay.outcomes (earlier ++ later) =
      relay.outcomes earlier ++ (relay.after earlier).outcomes later := by
  induction earlier generalizing relay with
  | nil => rfl
  | cons event rest ih =>
      rw [List.cons_append, outcomes, outcomes, ih, List.cons_append]
      rfl

theorem after_append_single (relay : Relay) (earlier : List Event) (event : Event) :
    relay.after (earlier ++ [event]) = (relay.after earlier).take event :=
  relay.after_append earlier [event]

def accepted (relay : Relay) (events : List Event) : List Report :=
  (relay.outcomes events).filterMap Outcome.accepted?

def received (relay : Relay) (events : List Event) : List Report :=
  (relay.outcomes events).filterMap Outcome.received?

/-- What outcomes say about the intake after them. -/
structure Accounted (depth : Nat) (outcomes : List Outcome) (intake : Intake) : Prop where
  places : intake.depth = depth
  bounded : intake.queue.length ≤ depth
  conserved : outcomes.filterMap Outcome.received? ++ intake.queue =
    outcomes.filterMap Outcome.accepted?
  counters : intake.counters = .tally outcomes

namespace Accounted

variable {depth : Nat} {outcomes : List Outcome} {intake next : Intake}
  (accounted : Accounted depth outcomes intake)

include accounted

theorem append (outcome : Outcome) (places : next.depth = intake.depth)
    (bounded : next.queue.length ≤ intake.depth)
    (flow : outcome.received?.toList ++ next.queue =
      intake.queue ++ outcome.accepted?.toList)
    (counters : next.counters = .tally (outcomes ++ [outcome])) :
    Accounted depth (outcomes ++ [outcome]) next := by
  have single {α : Type} (f : Outcome → Option α) :
      [outcome].filterMap f = (f outcome).toList := by
    cases said : f outcome <;>
      simp only [List.filterMap_cons, List.filterMap_nil, said, Option.toList]
  refine
    { places := places.trans accounted.places
      bounded := accounted.places ▸ bounded
      conserved := ?_
      counters }
  rw [List.filterMap_append, List.filterMap_append, single, single, List.append_assoc, flow,
    ← List.append_assoc, accounted.conserved]

theorem still (outcome : Outcome) (received : outcome.received? = none)
    (accepted : outcome.accepted? = none) (places : next.depth = intake.depth)
    (queue : next.queue = intake.queue)
    (counters : next.counters = .tally (outcomes ++ [outcome])) :
    Accounted depth (outcomes ++ [outcome]) next := by
  apply accounted.append outcome places
  · rw [queue, accounted.places]
    exact accounted.bounded
  · rw [received, accepted, queue]
    exact (List.append_nil _).symm
  · exact counters

theorem silent (places : next.depth = intake.depth) (queue : next.queue = intake.queue)
    (counters : next.counters = intake.counters) :
    Accounted depth (outcomes ++ [.silent]) next :=
  accounted.still .silent rfl rfl places queue
    ((counters.trans accounted.counters).trans (Counters.tally_silent _).symm)

theorem unreadable :
    Accounted depth (outcomes ++ [.unreadable])
      { intake with counters := intake.counters.addUnknown } :=
  accounted.still .unreadable rfl rfl rfl rfl
    ((congrArg _ accounted.counters).trans (Counters.tally_unreadable _).symm)

theorem submitted {reading : Except Fault Report} {answer : Except Fault Unit}
    (admits : intake.Admits reading answer next) :
    Accounted depth (outcomes ++ [Relay.submitted reading answer]) next := by
  cases admits with
  | queued report read room =>
      rw [read]
      refine accounted.append (.accepted report) rfl ?_ rfl
        ((congrArg _ accounted.counters).trans (Counters.tally_accepted _ _).symm)
      rw [List.length_append, List.length_singleton]
      exact room
  | full report read noRoom =>
      exact accounted.still .full rfl rfl rfl rfl
        ((congrArg _ accounted.counters).trans (Counters.tally_full _).symm)
  | unreadable fault read notFull =>
      have same : Relay.submitted reading (.error fault) = .unreadable := by
        cases fault <;> first | rfl | exact absurd rfl notFull
      rw [same]
      exact accounted.unreadable

end Accounted

theorem Accounted.take {depth : Nat} {outcomes : List Outcome} {relay : Relay}
    (accounted : Accounted depth outcomes relay.intake) (event : Event) :
    Accounted depth (outcomes ++ [relay.outcome event]) (relay.take event).intake := by
  cases event with
  | connect interfaceId descriptor => exact accounted.silent rfl rfl rfl
  | disconnect interfaceId => exact accounted.silent rfl rfl rfl
  | decode interfaceId reportId payload =>
      cases reading : relay.intake.read interfaceId reportId payload with
      | ok report =>
          simp only [outcome, Relay.take, Intake.decode, reading]
          exact accounted.silent rfl rfl rfl
      | error fault =>
          simp only [outcome, Relay.take, Intake.decode, reading]
          exact accounted.unreadable
  | submit interfaceId reportId payload =>
      exact accounted.submitted (relay.intake.admits_submit interfaceId reportId payload)
  | submitTransfer interfaceId transfer =>
      exact accounted.submitted (relay.intake.admits_submitTransfer interfaceId transfer)
  | receive =>
      cases waiting : relay.intake.queue with
      | nil =>
          simp only [outcome, Relay.take, Intake.receive, waiting]
          exact accounted.silent rfl rfl rfl
      | cons report rest =>
          simp only [outcome, Relay.take, Intake.receive, waiting]
          have bounded := accounted.bounded
          rw [waiting, List.length_cons, ← accounted.places] at bounded
          refine accounted.append (.received report) rfl (Nat.le_of_succ_le bounded) ?_
            (accounted.counters.trans (Counters.tally_received _ _).symm)
          exact waiting.symm.trans (List.append_nil _).symm
  | convert report => exact accounted.silent rfl rfl rfl
  | setSensitivity sensitivity => exact accounted.silent rfl rfl rfl
  | renew sensitivity => exact accounted.silent rfl rfl rfl

theorem accounted_after (depth sensitivity : Nat) (events : List Event) :
    Accounted depth ((new depth sensitivity).outcomes events)
      ((new depth sensitivity).after events).intake := by
  induction events using List.reverseRecOn with
  | nil =>
      exact
        { places := rfl
          bounded := Nat.zero_le depth
          conserved := rfl
          counters := rfl }
  | append_singleton earlier event ih =>
      rw [outcomes_append, after_append_single]
      exact ih.take event

theorem admits_of_reading {relay : Relay} {event : Event} {reading : Except Fault Report}
    (reads : relay.reading? event = some reading) :
    ∃ answer, relay.answer? event = some answer ∧
      relay.intake.Admits reading answer (relay.take event).intake := by
  cases event with
  | submit interfaceId reportId payload =>
      rw [← Option.some.inj reads]
      exact ⟨_, rfl, relay.intake.admits_submit interfaceId reportId payload⟩
  | submitTransfer interfaceId transfer =>
      rw [← Option.some.inj reads]
      exact ⟨_, rfl, relay.intake.admits_submitTransfer interfaceId transfer⟩
  | _ => cases reads

/-- In every run the reports that were received and those that wait are the ones that
were accepted, in order, and never more wait than there are places. The counters tell
how often each outcome has come about. A submission is accepted exactly if it can be
read and there is a place for it, and comes last; if there is no place the queue stays
as it is. Either way it moves one counter. What waits is not affected by interfaces
that come and go. -/
theorem reports_accounted (depth sensitivity : Nat) (events : List Event) :
    let first := new depth sensitivity
    let last := first.after events
    let outcomes := first.outcomes events
    first.received events ++ last.intake.queue = first.accepted events ∧
    last.intake.queue.length ≤ depth ∧
    last.intake.counters =
      { decoded := outcomes.countP Outcome.isAccepted % 0x100000000
        dropped := outcomes.count .full % 0x100000000
        unknown := outcomes.count .unreadable % 0x100000000 } ∧
    (∀ event reading, last.reading? event = some reading →
      ∃ answer, last.answer? event = some answer ∧
        let next := (last.take event).intake
        (answer = .ok () ↔ reading.isOk = true ∧ last.intake.queue.length < depth) ∧
        (∀ report, reading = .ok report → answer = .ok () →
          next.queue = last.intake.queue ++ [report]) ∧
        (answer = .error .queueFull → next.queue = last.intake.queue) ∧
        next.counters = last.intake.counters.move answer) ∧
    (∀ interfaceId descriptor,
      (last.take (.connect interfaceId descriptor)).intake.queue = last.intake.queue) ∧
    ∀ interfaceId, (last.take (.disconnect interfaceId)).intake.queue = last.intake.queue := by
  have accounted := accounted_after depth sensitivity events
  refine ⟨accounted.conserved, accounted.bounded, accounted.counters, ?_,
    fun _interfaceId _descriptor => rfl, fun _interfaceId => rfl⟩
  intro event reading reads
  obtain ⟨answer, answered, admits⟩ := admits_of_reading reads
  have accepted := admits.accepted_iff
  rw [accounted.places] at accepted
  exact ⟨answer, answered, accepted, fun report => admits.queue_of_accepted,
    admits.queue_of_full, admits.counters_eq⟩

/-- There is place for one report. Two submissions cannot be read, and the one that
comes after the report that waits finds no place. -/
theorem crowded_accounted :
    let relay := (new 1 100).after
      [.connect 1 buttons, .submitTransfer 2 [0x02], .submit 1 0 [0x01], .decode 1 0 []]
    let crowded := relay.take (.submit 1 0 [0x02])
    ((new 1 100).take (.connect 1 buttons)).answer? (.submit 1 0 [0x01]) = some (.ok ()) ∧
      relay.intake.counters = { decoded := 1, dropped := 0, unknown := 1 } ∧
      relay.answer? (.submit 1 0 [0x02]) = some (.error .queueFull) ∧
      crowded.intake.queue = relay.intake.queue ∧
      crowded.intake.counters = { decoded := 1, dropped := 1, unknown := 1 } := by
  have empty := (reports_accounted 1 100 [.connect 1 buttons]).2.2.2.1
    (.submit 1 0 [0x01]) _ rfl
  obtain ⟨answer, answered, accepted, _last, _untouched, _moved⟩ := empty
  have filled := reports_accounted 1 100
    [.connect 1 buttons, .submitTransfer 2 [0x02], .submit 1 0 [0x01], .decode 1 0 []]
  obtain ⟨other, otherAnswered, _accepted, _last, untouched, moved⟩ :=
    filled.2.2.2.1 (.submit 1 0 [0x02]) _ rfl
  have counters := filled.2.2.1
  have isFull : other = .error .queueFull := by
    refine Option.some.inj (otherAnswered.symm.trans ?_)
    decide +kernel
  rw [isFull] at otherAnswered untouched moved
  refine ⟨answered.trans (congrArg some (accepted.mpr (by decide +kernel))), ?_,
    otherAnswered, untouched rfl, moved.trans ?_⟩
  · exact counters.trans (by decide +kernel)
  · rw [counters]
    decide +kernel

end Relay

end HidBridge
