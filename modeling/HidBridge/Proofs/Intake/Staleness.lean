/-
Runs of an intake with a converter that asks its table and no other. A report
that was read in a run is converted later in the run by the layout that it was
read with, unless its interface has been connected or disconnected meanwhile.
Then it is refused. What happens to other interfaces makes no difference.
-/

import HidBridge.Intake.Basic
import HidBridge.Proofs.Intake.Cache

namespace HidBridge

/-- An intake and a converter that asks its table. -/
structure Relay where
  intake : Intake
  converter : Converter

namespace Relay

inductive Event where
  | connect (interfaceId : InterfaceId) (descriptor : List UInt8)
  | disconnect (interfaceId : InterfaceId)
  | decode (interfaceId : InterfaceId) (reportId : ReportId) (payload : List UInt8)
  | submit (interfaceId : InterfaceId) (reportId : ReportId) (payload : List UInt8)
  | submitTransfer (interfaceId : InterfaceId) (transfer : List UInt8)
  | receive
  | convert (report : Report)
  | setSensitivity (sensitivity : Nat)
  | renew (sensitivity : Nat)

def new (depth sensitivity : Nat) : Relay :=
  { intake := .empty depth, converter := .new sensitivity }

def convert (relay : Relay) (report : Report) : Except Fault (Option Output.Message) × Converter :=
  relay.converter.convert relay.intake.table.lookup report

def take (relay : Relay) : Event → Relay
  | .connect interfaceId descriptor =>
    { relay with intake := (relay.intake.connect interfaceId descriptor).2 }
  | .disconnect interfaceId => { relay with intake := (relay.intake.disconnect interfaceId).2 }
  | .decode interfaceId reportId payload =>
    { relay with intake := (relay.intake.decode interfaceId reportId payload).2 }
  | .submit interfaceId reportId payload =>
    { relay with intake := (relay.intake.submit interfaceId reportId payload).2 }
  | .submitTransfer interfaceId transfer =>
    { relay with intake := (relay.intake.submitTransfer interfaceId transfer).2 }
  | .receive =>
    match relay.intake.receive with
    | none => relay
    | some (_report, intake) => { relay with intake }
  | .convert report => { relay with converter := (relay.convert report).2 }
  | .setSensitivity sensitivity =>
    { relay with converter := { relay.converter with sensitivity } }
  | .renew sensitivity => { relay with converter := .new sensitivity }

def after (relay : Relay) (events : List Event) : Relay := events.foldl take relay

def installs (relay : Relay) : Event → Bool
  | .connect interfaceId descriptor => (relay.intake.connect interfaceId descriptor).1.isOk
  | _ => false

def installCount : Relay → List Event → Nat
  | _, [] => 0
  | relay, event :: rest => (relay.installs event).toNat + (relay.take event).installCount rest

def concerns (relay : Relay) (interfaceId : InterfaceId) : Event → Bool
  | .connect connected descriptor =>
    connected == interfaceId && relay.installs (.connect connected descriptor)
  | .disconnect disconnected => disconnected == interfaceId
  | _ => false

/-- Some event of a run stores layouts of an interface or forgets them. -/
def touched (interfaceId : InterfaceId) : Relay → List Event → Bool
  | _, [] => false
  | relay, event :: rest =>
    relay.concerns interfaceId event || touched interfaceId (relay.take event) rest

theorem after_append (relay : Relay) (earlier later : List Event) :
    relay.after (earlier ++ later) = (relay.after earlier).after later :=
  List.foldl_append

theorem installCount_append (relay : Relay) (earlier later : List Event) :
    relay.installCount (earlier ++ later) =
      relay.installCount earlier + (relay.after earlier).installCount later := by
  induction earlier generalizing relay with
  | nil => exact (Nat.zero_add _).symm
  | cons event rest ih =>
      rw [List.cons_append, installCount, installCount, ih, Nat.add_assoc]
      rfl

/-! ### The table after one event -/

def Event.change (table : Table) : Event → Table
  | .connect interfaceId descriptor => (table.insert (.ofDescriptor interfaceId descriptor)).2
  | .disconnect interfaceId => (table.remove interfaceId).2
  | _ => table

theorem table_decode (intake : Intake) (interfaceId : InterfaceId) (reportId : ReportId)
    (payload : List UInt8) :
    (intake.decode interfaceId reportId payload).2.table = intake.table := by
  unfold Intake.decode
  split <;> rfl

theorem table_submit (intake : Intake) (interfaceId : InterfaceId) (reportId : ReportId)
    (payload : List UInt8) :
    (intake.submit interfaceId reportId payload).2.table = intake.table := by
  have decoded := table_decode intake interfaceId reportId payload
  unfold Intake.submit
  split
  · rename_i report next result
    rw [result] at decoded
    unfold Intake.enqueue
    split <;> exact decoded
  · rename_i fault next result
    rw [result] at decoded
    exact decoded

theorem table_submitTransfer (intake : Intake) (interfaceId : InterfaceId)
    (transfer : List UInt8) :
    (intake.submitTransfer interfaceId transfer).2.table = intake.table := by
  unfold Intake.submitTransfer
  split
  · rfl
  · exact table_submit intake interfaceId _ _

theorem table_receive {intake next : Intake} {report : Report}
    (received : intake.receive = some (report, next)) : next.table = intake.table := by
  unfold Intake.receive at received
  split at received
  · cases received
  · rw [← (Prod.mk.inj (Option.some.inj received)).2]

theorem table_take (relay : Relay) (event : Event) :
    (relay.take event).intake.table = event.change relay.intake.table := by
  cases event with
  | connect interfaceId descriptor => rfl
  | disconnect interfaceId => rfl
  | decode interfaceId reportId payload =>
      exact table_decode relay.intake interfaceId reportId payload
  | submit interfaceId reportId payload =>
      exact table_submit relay.intake interfaceId reportId payload
  | submitTransfer interfaceId transfer =>
      exact table_submitTransfer relay.intake interfaceId transfer
  | receive =>
      unfold take
      dsimp only
      cases received : relay.intake.receive with
      | none => rfl
      | some both => exact table_receive received
  | convert report => rfl
  | setSensitivity sensitivity => rfl
  | renew sensitivity => rfl

theorem nextGeneration_take {relay : Relay} {event : Event}
    (room : relay.intake.table.nextGeneration + (relay.installs event).toNat ≤
      Limits.maxUInt32) :
    (relay.take event).intake.table.nextGeneration =
      relay.intake.table.nextGeneration + (relay.installs event).toNat := by
  rw [table_take]
  cases event with
  | connect interfaceId descriptor =>
      unfold installs Intake.connect at room ⊢
      unfold Event.change
      dsimp only at room ⊢
      rcases relay.intake.table.insert_cases (.ofDescriptor interfaceId descriptor) with
        ⟨refused, _unknown, _full⟩ | ⟨entries, stored, _own, _others⟩
      · rw [refused]
        rfl
      · rw [stored] at room ⊢
        exact Table.succGeneration_of_lt (Nat.lt_of_succ_le room)
  | _ => rfl

/-! ### What every run keeps -/

structure Sound (relay : Relay) : Prop where
  dated : relay.intake.table.Dated
  agrees : relay.converter.Agrees relay.intake.table

theorem sound_new (depth sensitivity : Nat) : (new depth sensitivity).Sound :=
  { dated := Table.dated_empty, agrees := Converter.agrees_new sensitivity _ }

theorem generation_lt_of_room {relay : Relay} {interfaceId : InterfaceId}
    {descriptor : List UInt8}
    (room : relay.intake.table.nextGeneration +
      (relay.installs (.connect interfaceId descriptor)).toNat ≤ Limits.maxUInt32)
    (generation : Nat)
    (stored : (relay.intake.table.insert (.ofDescriptor interfaceId descriptor)).1 =
      .ok generation) : generation < Limits.maxUInt32 := by
  rcases relay.intake.table.insert_cases (.ofDescriptor interfaceId descriptor) with
    ⟨refused, _unknown, _full⟩ | ⟨entries, accepted, _own, _others⟩
  · rw [refused] at stored
    cases stored
  · have installed : relay.installs (.connect interfaceId descriptor) = true := by
      unfold installs Intake.connect
      dsimp only
      rw [accepted]
      rfl
    rw [accepted] at stored
    rw [installed] at room
    rw [← Except.ok.inj stored]
    exact Nat.lt_of_succ_le room

theorem agrees_take {relay : Relay} {event : Event}
    (room : relay.intake.table.nextGeneration + (relay.installs event).toNat ≤
      Limits.maxUInt32)
    {converter : Converter} (agrees : converter.Agrees relay.intake.table) :
    converter.Agrees (relay.take event).intake.table := by
  rw [table_take]
  cases event with
  | connect interfaceId descriptor => exact agrees.insert _ (generation_lt_of_room room)
  | disconnect interfaceId => exact agrees.remove _
  | _ => exact agrees

theorem dated_take {relay : Relay} {event : Event}
    (room : relay.intake.table.nextGeneration + (relay.installs event).toNat ≤
      Limits.maxUInt32)
    (dated : relay.intake.table.Dated) : (relay.take event).intake.table.Dated := by
  rw [table_take]
  cases event with
  | connect interfaceId descriptor => exact dated.insert _ (generation_lt_of_room room)
  | disconnect interfaceId => exact dated.remove _
  | _ => exact dated

theorem Sound.take {relay : Relay} (sound : relay.Sound) {event : Event}
    (room : relay.intake.table.nextGeneration + (relay.installs event).toNat ≤
      Limits.maxUInt32) :
    (relay.take event).Sound := by
  refine { dated := dated_take room sound.dated, agrees := ?_ }
  have unused := agrees_take room sound.agrees
  cases event with
  | convert report => exact sound.agrees.convert sound.dated report
  | setSensitivity sensitivity => exact sound.agrees.setSensitivity sensitivity
  | renew sensitivity => exact Converter.agrees_new sensitivity _
  | receive =>
      have converter : (relay.take .receive).converter = relay.converter := by
        unfold Relay.take
        dsimp only
        split <;> rfl
      rw [converter]
      exact unused
  | _ => exact unused

theorem get?_take (relay : Relay) (interfaceId : InterfaceId) (event : Event) :
    (relay.concerns interfaceId event = false ∧
      (relay.take event).intake.table.get? interfaceId =
        relay.intake.table.get? interfaceId) ∨
    (relay.concerns interfaceId event = true ∧
      ∀ current, (relay.take event).intake.table.get? interfaceId = some current →
        current.generation = relay.intake.table.nextGeneration) := by
  rw [table_take]
  cases event with
  | connect connected descriptor =>
      unfold concerns installs Intake.connect Event.change
      dsimp only
      have id := Interface.id_ofDescriptor connected descriptor
      rcases relay.intake.table.insert_cases (.ofDescriptor connected descriptor) with
        ⟨refused, _unknown, _full⟩ | ⟨entries, stored, own, others⟩
      · rw [refused]
        exact Or.inl ⟨Bool.and_false _, rfl⟩
      · rw [stored]
        rw [id] at own others
        by_cases same : connected = interfaceId
        · refine Or.inr ⟨by rw [beq_iff_eq.mpr same]; rfl, ?_⟩
          intro current found
          rw [← same, own] at found
          rw [← Option.some.inj found]
        · refine Or.inl ⟨by rw [beq_eq_false_iff_ne.mpr same]; rfl, ?_⟩
          exact others interfaceId (Ne.symm same)
  | disconnect disconnected =>
      unfold concerns Event.change
      dsimp only
      by_cases same : disconnected = interfaceId
      · refine Or.inr ⟨beq_iff_eq.mpr same, ?_⟩
        intro current found
        rw [← same, Table.get?_remove_same] at found
        cases found
      · exact Or.inl ⟨beq_eq_false_iff_ne.mpr same,
          Table.get?_remove_other _ (Ne.symm same)⟩
  | _ => exact Or.inl ⟨rfl, rfl⟩

theorem sound_after {relay : Relay} (sound : relay.Sound) {events : List Event}
    (room : relay.intake.table.nextGeneration + relay.installCount events ≤ Limits.maxUInt32) :
    (relay.after events).Sound ∧
      (relay.after events).intake.table.nextGeneration =
        relay.intake.table.nextGeneration + relay.installCount events := by
  induction events generalizing relay with
  | nil => exact ⟨sound, rfl⟩
  | cons event rest ih =>
      unfold installCount at room ⊢
      have roomFirst : relay.intake.table.nextGeneration + (relay.installs event).toNat ≤
          Limits.maxUInt32 := by omega
      have next := nextGeneration_take roomFirst
      have kept := ih (sound.take roomFirst) (by omega)
      refine ⟨kept.1, ?_⟩
      have later : ((relay.take event).after rest).intake.table.nextGeneration = _ := kept.2
      rw [next, Nat.add_assoc] at later
      exact later

/-- The first generation is 1, so there is one for every connection but the last that
can be counted. -/
theorem sound_of_few {depth sensitivity : Nat} {events : List Event}
    (few : (new depth sensitivity).installCount events < Limits.maxUInt32) :
    ((new depth sensitivity).after events).Sound ∧
      ((new depth sensitivity).after events).intake.table.nextGeneration =
        1 + (new depth sensitivity).installCount events := by
  have first : (new depth sensitivity).intake.table.nextGeneration = 1 := rfl
  have room : (new depth sensitivity).intake.table.nextGeneration +
      (new depth sensitivity).installCount events ≤ Limits.maxUInt32 := by omega
  exact sound_after (sound_new depth sensitivity) room

/-- Layouts of a generation are current until their interface is touched, and
are never current again. -/
theorem get?_after {relay : Relay} {events : List Event} (interfaceId : InterfaceId)
    {generation : Nat} (earlier : generation < relay.intake.table.nextGeneration)
    (room : relay.intake.table.nextGeneration + relay.installCount events ≤ Limits.maxUInt32) :
    (touched interfaceId relay events = false →
      (relay.after events).intake.table.get? interfaceId =
        relay.intake.table.get? interfaceId) ∧
    (touched interfaceId relay events = true ∨
        (∀ current, relay.intake.table.get? interfaceId = some current →
          current.generation ≠ generation) →
      ∀ current, (relay.after events).intake.table.get? interfaceId = some current →
        current.generation ≠ generation) := by
  induction events generalizing relay with
  | nil =>
      refine ⟨fun _untouched => rfl, ?_⟩
      intro either
      rcases either with impossible | gone
      · cases impossible
      · exact gone
  | cons event rest ih =>
      unfold installCount at room
      have roomFirst : relay.intake.table.nextGeneration + (relay.installs event).toNat ≤
          Limits.maxUInt32 := by omega
      have next := nextGeneration_take roomFirst
      have earlierStill :
          generation < (relay.take event).intake.table.nextGeneration := by omega
      have rested := ih earlierStill (by omega)
      unfold touched
      rcases relay.get?_take interfaceId event with ⟨unconcerned, same⟩ | ⟨concerned, newer⟩
      · rw [unconcerned, Bool.false_or]
        rw [same] at rested
        exact rested
      · rw [concerned, Bool.true_or]
        refine ⟨fun impossible => absurd impossible Bool.noConfusion, ?_⟩
        intro _either
        apply rested.2
        apply Or.inr
        intro current found
        rw [newer current found]
        omega

theorem layout_of_read {intake : Intake} {interfaceId : InterfaceId} {reportId : ReportId}
    {payload : List UInt8} {report : Report}
    (read : intake.read interfaceId reportId payload = .ok report) :
    ∃ entry layout, intake.table.get? interfaceId = some entry ∧
      entry.interface.input? reportId = some layout ∧
      layout.read interfaceId entry.generation payload = .ok report := by
  unfold Intake.read at read
  cases found : intake.table.get? interfaceId with
  | none =>
      rw [found] at read
      cases read
  | some entry =>
      rw [found] at read
      dsimp only at read
      cases input : entry.interface.input? reportId with
      | none =>
          rw [input] at read
          cases read
      | some layout =>
          rw [input] at read
          exact ⟨entry, layout, rfl, input, read⟩

theorem read_of_decode {intake : Intake} {interfaceId : InterfaceId} {reportId : ReportId}
    {payload : List UInt8} {report : Report}
    (decoded : (intake.decode interfaceId reportId payload).1 = .ok report) :
    intake.read interfaceId reportId payload = .ok report := by
  unfold Intake.decode at decoded
  split at decoded
  · rename_i same
    rw [same]
    exact decoded
  · cases decoded

theorem parts_of_read {layout : Layout} {interfaceId : InterfaceId} {generation : Nat}
    {payload : List UInt8} {report : Report}
    (read : layout.read interfaceId generation payload = .ok report) :
    report.interfaceId = interfaceId ∧ report.reportId = layout.reportId ∧
      report.generation = generation ∧ report.samples.length = layout.fields.length := by
  unfold Layout.read at read
  split at read
  · cases read
  · rw [← Except.ok.inj read]
    exact ⟨rfl, rfl, rfl, List.length_map _⟩

/-- A report that was read with a current layout, and later a converter that agrees
with the table, whatever else it was used for. -/
theorem Sound.convert_by {relay : Relay} (sound : relay.Sound) {later : List Event}
    (room : relay.intake.table.nextGeneration + relay.installCount later ≤ Limits.maxUInt32)
    {interfaceId : InterfaceId} {reportId : ReportId} {payload : List UInt8} {report : Report}
    {entry : Attached} {layout : Layout}
    (found : relay.intake.table.get? interfaceId = some entry)
    (input : entry.interface.input? reportId = some layout)
    (read : layout.read interfaceId entry.generation payload = .ok report)
    {converter : Converter} (agrees : converter.Agrees (relay.after later).intake.table) :
    (converter.convert (relay.after later).intake.table.lookup report).1 =
      if touched interfaceId relay later then
        if ((relay.after later).intake.table.get? interfaceId).isSome then .error .staleReport
        else .error .unknownInterface
      else .ok (report.compose converter.sensitivity layout.classify) := by
  obtain ⟨forInterface, forReport, generation, count⟩ := parts_of_read read
  have current := get?_after interfaceId (sound.dated interfaceId entry found) room
  cases concerned : touched interfaceId relay later with
  | false =>
      have still := (current.1 concerned).trans found
      rw [← forInterface] at still
      rw [if_neg Bool.false_ne_true]
      refine Converter.convert_of_current agrees still generation.symm ?_ count
      rw [forReport]
      exact Interface.input?_reportId input
  | true =>
      rw [if_pos rfl]
      have gone := current.2 (Or.inl concerned)
      cases now : (relay.after later).intake.table.get? interfaceId with
      | none =>
          rw [← forInterface] at now
          exact Converter.convert_of_absent _ now
      | some entryNow =>
          have different := gone entryNow now
          rw [← generation] at different
          rw [← forInterface] at now
          exact Converter.convert_of_stale _ now different

/-- A report that was read in a run is converted by the layout it was read with
as long as its interface is not touched, and is refused from then on. Whether the
interface is unknown or the report stale only says if the interface is back. -/
theorem convert_after_decode {depth sensitivity : Nat} (earlier later : List Event)
    {interfaceId : InterfaceId} {reportId : ReportId} {payload : List UInt8} {report : Report}
    (few : (new depth sensitivity).installCount
      (earlier ++ .decode interfaceId reportId payload :: later) < Limits.maxUInt32)
    (decoded : (((new depth sensitivity).after earlier).intake.decode interfaceId reportId
      payload).1 = .ok report) :
    ∃ entry layout,
      ((new depth sensitivity).after earlier).intake.table.get? interfaceId = some entry ∧
      entry.interface.input? reportId = some layout ∧
      layout.read interfaceId entry.generation payload = .ok report ∧
      let read := ((new depth sensitivity).after earlier).take
        (.decode interfaceId reportId payload)
      let last := read.after later
      (last.convert report).1 =
        if touched interfaceId read later then
          if (last.intake.table.get? interfaceId).isSome then .error .staleReport
          else .error .unknownInterface
        else .ok (report.compose last.converter.sensitivity layout.classify) := by
  obtain ⟨entry, layout, found, input, read⟩ := layout_of_read (read_of_decode decoded)
  refine ⟨entry, layout, found, input, read, ?_⟩
  rw [installCount_append, installCount] at few
  have fewEarlier : (new depth sensitivity).installCount earlier < Limits.maxUInt32 := by omega
  obtain ⟨soundEarlier, nextEarlier⟩ := sound_of_few fewEarlier
  have roomRead : ((new depth sensitivity).after earlier).intake.table.nextGeneration +
      (((new depth sensitivity).after earlier).installs
        (.decode interfaceId reportId payload)).toNat ≤ Limits.maxUInt32 := by omega
  have same := ((new depth sensitivity).after earlier).table_take
    (.decode interfaceId reportId payload)
  have next := nextGeneration_take roomRead
  have soundRead := soundEarlier.take roomRead
  have roomLater : (((new depth sensitivity).after earlier).take
      (.decode interfaceId reportId payload)).intake.table.nextGeneration +
        (((new depth sensitivity).after earlier).take
          (.decode interfaceId reportId payload)).installCount later ≤ Limits.maxUInt32 := by
    omega
  refine soundRead.convert_by roomLater ?_ input read (sound_after soundRead roomLater).1.agrees
  rw [same]
  exact found

def buttons : List UInt8 :=
  [0x05, 0x09, 0x19, 0x01, 0x29, 0x03, 0x75, 0x01, 0x95, 0x03, 0x81, 0x02,
    0x75, 0x05, 0x95, 0x01, 0x81, 0x01]

/-- The second button is pressed on interface 1. Interface 2 comes and goes before
the report is converted, and when interface 1 itself has been connected anew, the
report is stale. -/
theorem convert_pressed :
    ∃ report,
      (((new 4 100).after [.connect 1 buttons]).intake.decode 1 0 [0x02]).1 = .ok report ∧
      (((new 4 100).after [.connect 1 buttons, .decode 1 0 [0x02], .connect 2 buttons,
          .disconnect 2, .setSensitivity 50]).convert report).1 =
        .ok (some (.mouse (report.toMouse 50))) ∧
      (((new 4 100).after [.connect 1 buttons, .decode 1 0 [0x02], .disconnect 1,
          .connect 1 buttons]).convert report).1 = .error .staleReport := by
  have readable :
      (((new 4 100).after [.connect 1 buttons]).intake.decode 1 0 [0x02]).1.isOk = true := by
    decide
  cases decoded : (((new 4 100).after [.connect 1 buttons]).intake.decode 1 0 [0x02]).1 with
  | error fault =>
      rw [decoded] at readable
      cases readable
  | ok report =>
      refine ⟨report, rfl, ?_, ?_⟩
      · obtain ⟨entry, layout, found, input, _read, result⟩ := convert_after_decode
          [.connect 1 buttons] [.connect 2 buttons, .disconnect 2, .setSensitivity 50]
          (by decide) decoded
        have entryEq : entry = { generation := 1, interface := .ofDescriptor 1 buttons } :=
          (Option.some.inj found).symm
        have mouse : ((Interface.ofDescriptor 1 buttons).input? 0).map Layout.classify =
            some .mouse := by decide
        rw [entryEq] at input
        rw [input] at mouse
        rw [Option.some.inj mouse] at result
        exact result
      · obtain ⟨entry, layout, _found, _input, _read, result⟩ := convert_after_decode
          [.connect 1 buttons] [.disconnect 1, .connect 1 buttons] (by decide) decoded
        exact result

end Relay

end HidBridge
