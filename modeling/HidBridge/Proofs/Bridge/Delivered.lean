/-
What becomes of the reports in quiet runs. They are handled in the order in which they
were accepted, each of them once. What is passed to the radio for a report is what it
comes to with the layout that it was read with and the sensitivity that is set when it
is handled.
-/

import HidBridge.Proofs.Bridge.Traffic

namespace HidBridge

namespace World

def passes? (world : World) (event : Event) : Option Output.Message :=
  ((world.act event).radio.passed.drop world.radio.passed.length).head?

/-- The report that is handled with an event, and what is passed to the radio. -/
def delivery? (world : World) (event : Event) : Option (Report × Option Output.Message) :=
  (world.taken? event).map (fun report => (report, world.passes? event))

def history (world : World) (events : List Event) : List Relay.Event :=
  world.collect onIntake? events

def deliveries (world : World) (events : List Event) : List (Report × Option Output.Message) :=
  world.collect delivery? events

/-- The sensitivity that was set last in a run, or else the first one. -/
def sensitivityAfter (world : World) (events : List Event) : Nat :=
  (world.collect sensitivity? events).getLast?.getD world.bridge.sensitivity

theorem history_append (world : World) (earlier later : List Event) :
    world.history (earlier ++ later) =
      world.history earlier ++ (world.after earlier).history later :=
  world.collect_append onIntake? earlier later

theorem sensitivityAfter_append_single (world : World) (earlier : List Event) (event : Event) :
    world.sensitivityAfter (earlier ++ [event]) =
      ((world.after earlier).sensitivity? event).getD (world.sensitivityAfter earlier) := by
  unfold sensitivityAfter
  rw [collect_append_single]
  cases (world.after earlier).sensitivity? event with
  | none => rw [Option.toList_none, List.append_nil, Option.getD_none]
  | some sensitivity =>
      rw [Option.toList_some, List.getLast?_concat, Option.getD_some, Option.getD_some]

theorem passes?_eq {world : World} {event : Event} {message : Option Output.Message}
    (passed : (world.act event).radio.passed = world.radio.passed ++ message.toList) :
    world.passes? event = message := by
  unfold passes?
  rw [passed, List.drop_left]
  cases message <;> rfl

/-- What a history of the intake, the deliveries and the sensitivity say of what comes
of them. -/
structure Tracked (start : Relay) (history : List Relay.Event)
    (deliveries : List (Report × Option Output.Message)) (inForce : Nat) (traffic : Traffic) :
    Prop where
  intake : (start.after history).intake = traffic.intake
  received : start.received history = deliveries.map Prod.fst
  passed : traffic.passed = deliveries.filterMap Prod.snd
  agrees : traffic.Agrees
  sensitivity : traffic.sensitivity = inForce
  settings : traffic.settings.mouseSensitivity = inForce

theorem tracked_new (settings : Settings) (depth : Nat) :
    Tracked (.new depth settings.mouseSensitivity) [] [] settings.mouseSensitivity
      (new settings depth).traffic where
  intake := rfl
  received := rfl
  passed := rfl
  agrees :=
    { session := Converter.agrees_new _ _
      consumer := Converter.agrees_new _ _ }
  sensitivity := rfl
  settings := rfl

theorem Quiet.coherent {world : World} (quiet : world.Quiet) : world.Coherent := by
  obtain ⟨settings, depth, kept⟩ := coherent_primitives.quiet coherent_new quiet
  exact kept.inv

theorem Quiet.delivery?_taken {world : World} (quiet : world.Quiet) {event : Event}
    {report : Report} (taken : world.taken? event = some report) :
    ∃ owner rest, world.bridge.intake.queue = report :: rest ∧
      world.onIntake? event = some .receive ∧
      (world.act event).traffic = world.handled owner report rest ∧
      world.delivery? event = some (report, (world.setQueue rest).message? owner report) := by
  obtain ⟨owner, rest, waiting, receives, traffic⟩ :=
    traffic_taken quiet.coherent quiet.calm taken
  have passed : (world.act event).radio.passed = world.radio.passed ++
      ((world.setQueue rest).message? owner report).toList := congrArg Traffic.passed traffic
  refine ⟨owner, rest, waiting, receives, traffic, ?_⟩
  unfold delivery?
  rw [taken, passes?_eq passed]
  rfl

theorem delivery?_idle {world : World} {event : Event} (idle : world.taken? event = none) :
    world.delivery? event = none := by
  unfold delivery?
  rw [idle]
  rfl

namespace Tracked

variable {start : Relay} {history : List Relay.Event}
  {deliveries : List (Report × Option Output.Message)} {inForce : Nat} {world : World}
  (tracked : Tracked start history deliveries inForce world.traffic) (quiet : world.Quiet)

include tracked

/-- The history goes on with what an event does to the intake, and tells which report
is taken. -/
theorem received_append (event : Event) :
    start.received (history ++ (world.onIntake? event).toList) =
      deliveries.map Prod.fst ++ (world.taken? event).toList := by
  unfold taken?
  rw [← tracked.received]
  cases world.onIntake? event with
  | none => rw [Option.toList_none, List.append_nil, Option.toList_none, List.append_nil]
  | some more =>
      have received := (start.after history).received?_outcome more
      rw [tracked.intake] at received
      rw [Option.toList_some, Relay.received_append_single, received]
      cases more <;> rfl

include quiet

theorem act_taken (dated : world.bridge.intake.table.Dated) {event : Event} {report : Report}
    (taken : world.taken? event = some report) :
    Tracked start (history ++ (world.onIntake? event).toList)
      (deliveries ++ (world.delivery? event).toList)
      ((world.sensitivity? event).getD inForce) (world.act event).traffic := by
  have received := tracked.received_append event
  obtain ⟨owner, rest, waiting, receives, traffic, delivery⟩ := quiet.delivery?_taken taken
  obtain ⟨intake, sensitivity, settings⟩ := world.handled_still owner report rest
  rw [receives, taken] at received
  rw [sensitivity?_of_taken taken, delivery, receives, traffic]
  have next : ((start.after history).take .receive).intake =
      (world.setQueue rest).bridge.intake := by
    have before : (start.after history).intake = world.bridge.intake := tracked.intake
    simp only [Relay.take, before, Intake.receive, waiting]
    rfl
  have before : world.radio.passed = deliveries.filterMap Prod.snd := tracked.passed
  exact
    { intake := by
        rw [Relay.after_append, intake]
        exact next
      received := by
        rw [received, List.map_append]
        rfl
      passed := by
        refine (congrArg (· ++ _) before).trans ?_
        rw [List.filterMap_append]
        cases (world.setQueue rest).message? owner report <;> rfl
      agrees := agrees_handled tracked.agrees dated owner report rest
      sensitivity := sensitivity.trans tracked.sensitivity
      settings := (congrArg Settings.mouseSensitivity settings).trans tracked.settings }

omit quiet in
theorem agrees_onIntake {event : Event}
    (room : ∀ more, world.onIntake? event = some more →
      (start.after history).intake.table.nextGeneration +
        ((start.after history).installs more).toNat ≤ Limits.maxUInt32)
    {converter : Converter} (agrees : converter.Agrees world.bridge.intake.table) :
    converter.Agrees
      ((start.after history).after (world.onIntake? event).toList).intake.table := by
  have before : (start.after history).intake = world.bridge.intake := tracked.intake
  rw [← before] at agrees
  cases does : world.onIntake? event with
  | none => exact agrees
  | some more => exact Relay.agrees_take (room more does) agrees

theorem act_idle {event : Event} (idle : world.taken? event = none)
    (room : ∀ more, world.onIntake? event = some more →
      (start.after history).intake.table.nextGeneration +
        ((start.after history).installs more).toNat ≤ Limits.maxUInt32) :
    Tracked start (history ++ (world.onIntake? event).toList)
      (deliveries ++ (world.delivery? event).toList)
      ((world.sensitivity? event).getD inForce) (world.act event).traffic := by
  have received := tracked.received_append event
  rw [idle, Option.toList_none, List.append_nil] at received
  rw [delivery?_idle idle, Option.toList_none, List.append_nil]
  have session := tracked.agrees_onIntake room tracked.agrees.session
  have consumer := tracked.agrees_onIntake room tracked.agrees.consumer
  have unaltered : (start.after (history ++ [])).intake = world.bridge.intake := by
    rw [List.append_nil]
    exact tracked.intake
  have happened := traffic_idle tracked.intake quiet.calm idle
  generalize (world.act event).traffic = traffic at happened ⊢
  cases happened with
  | intake event unset =>
      rw [unset]
      exact
        { intake := congrArg Relay.intake (start.after_append history _)
          received
          passed := tracked.passed
          agrees := { session, consumer }
          sensitivity := tracked.sensitivity
          settings := tracked.settings }
  | spawn =>
      exact
        { intake := unaltered
          received
          passed := tracked.passed
          agrees :=
            { session := tracked.agrees.session
              consumer := Converter.agrees_new _ _ }
          sensitivity := tracked.sensitivity
          settings := tracked.settings }
  | apply key value changed accepted =>
      have set := sensitivity?_apply quiet.calm.unlocked accepted
      have before : world.bridge.settings.mouseSensitivity = inForce := tracked.settings
      rw [before] at set
      exact
        { intake := unaltered
          received
          passed := tracked.passed
          agrees :=
            { session := tracked.agrees.session
              consumer := tracked.agrees.consumer }
          sensitivity := set.symm
          settings := set.symm }

end Tracked

theorem quiet_after (settings : Settings) (depth : Nat) (events : List Event) :
    ((new settings depth).after events).Quiet :=
  (Quiet.new settings depth).after events

section Runs

variable {settings : Settings} {depth : Nat} {events earlier later : List Event}

theorem few_earlier
    (few : (Relay.new depth settings.mouseSensitivity).installCount
      ((new settings depth).history (earlier ++ later)) < Limits.maxUInt32) :
    (Relay.new depth settings.mouseSensitivity).installCount
      ((new settings depth).history earlier) < Limits.maxUInt32 := by
  rw [history_append, Relay.installCount_append] at few
  omega

theorem tracked_after
    (few : (Relay.new depth settings.mouseSensitivity).installCount
      ((new settings depth).history events) < Limits.maxUInt32) :
    Tracked (.new depth settings.mouseSensitivity) ((new settings depth).history events)
      ((new settings depth).deliveries events) ((new settings depth).sensitivityAfter events)
      ((new settings depth).after events).traffic := by
  -- From the end, since a delivery is told from what has gone before it.
  induction events using List.reverseRecOn with
  | nil => exact tracked_new settings depth
  | append_singleton earlier event ih =>
      have fewEarlier := few_earlier few
      have tracked := ih fewEarlier
      have quiet := quiet_after settings depth earlier
      obtain ⟨sound, generation⟩ := Relay.sound_of_few fewEarlier
      unfold history deliveries at *
      rw [collect_append_single, Relay.installCount_append] at few
      rw [collect_append_single, collect_append_single, sensitivityAfter_append_single,
        after_append]
      cases taken : ((new settings depth).after earlier).taken? event with
      | some report =>
          have same : _ = ((new settings depth).after earlier).bridge.intake := tracked.intake
          have dated := sound.dated
          rw [same] at dated
          exact tracked.act_taken quiet dated taken
      | none =>
          refine tracked.act_idle quiet taken ?_
          intro more does
          rw [does, Option.toList_some, Relay.installCount, Relay.installCount] at few
          rw [generation]
          omega

theorem message?_submitted {start : Relay} {before since : List Relay.Event}
    {submission : Relay.Event} {deliveries : List (Report × Option Output.Message)}
    {inForce : Nat} {world : World} {layout : Layout} {report : Report}
    (tracked : Tracked start (before ++ submission :: since) deliveries inForce world.traffic)
    (sound : (start.after before).Sound)
    (room : (start.after before).intake.table.nextGeneration +
      (start.after before).installCount (submission :: since) ≤ Limits.maxUInt32)
    (submits : (start.after before).Submits submission layout report)
    (owner : ConverterOwner) (rest : List Report) :
    (world.setQueue rest).message? owner report =
      if world.ready && !Relay.touched report.interfaceId
          ((start.after before).take submission) since then
        report.compose inForce layout.classify
      else none := by
  obtain ⟨entry, reportId, payload, given, found, input, read⟩ := submits
  unfold Relay.installCount at room
  have roomFirst : (start.after before).intake.table.nextGeneration +
      ((start.after before).installs submission).toNat ≤ Limits.maxUInt32 := by omega
  have generation := Relay.nextGeneration_take roomFirst
  have soundThen := sound.take roomFirst
  have unchanged := Relay.table_of_handedIn given
  have now : (((start.after before).take submission).after since).intake =
      world.bridge.intake :=
    (congrArg Relay.intake (start.after_append before (submission :: since))).symm.trans
      tracked.intake
  have inForce_eq : world.bridge.sensitivity = inForce := tracked.sensitivity
  have agrees := (tracked.agrees.converterOf owner).setSensitivity world.bridge.sensitivity
  rw [← now] at agrees
  rw [← unchanged] at found
  have converted := soundThen.convert_by (by omega) found input read agrees
  rw [now] at converted
  have same : ((world.setQueue rest).convert owner report).1 = _ := converted
  have ready : (world.setQueue rest).ready = world.ready := rfl
  unfold message?
  rw [same, ready, inForce_eq]
  cases world.ready with
  | false => rfl
  | true =>
      cases Relay.touched report.interfaceId ((start.after before).take submission) since with
      | false => rfl
      | true =>
          rw [if_pos rfl, if_pos rfl]
          split <;> rfl

theorem handled_in_order
    (few : (Relay.new depth settings.mouseSensitivity).installCount
      ((new settings depth).history events) < Limits.maxUInt32) :
    ((new settings depth).deliveries events).map Prod.fst ++
        ((new settings depth).after events).bridge.intake.queue =
      (Relay.new depth settings.mouseSensitivity).accepted
        ((new settings depth).history events) := by
  have tracked := tracked_after few
  have intake : _ = ((new settings depth).after events).bridge.intake := tracked.intake
  have accounted := Relay.accounted_after depth settings.mouseSensitivity
    ((new settings depth).history events)
  rw [← tracked.received, ← intake]
  exact accounted.conserved

theorem taken_of_delivery {world : World} (quiet : world.Quiet) {event : Event}
    {report : Report} {message : Option Output.Message}
    (delivered : world.delivery? event = some (report, message)) :
    ∃ owner rest, world.bridge.intake.queue = report :: rest ∧
      message = (world.setQueue rest).message? owner report := by
  obtain ⟨own, taken, _same⟩ := Option.map_eq_some_iff.mp delivered
  obtain ⟨owner, rest, waiting, _receives, _traffic, delivery⟩ := quiet.delivery?_taken taken
  obtain ⟨isOwn, isMessage⟩ := Prod.mk.inj (Option.some.inj (delivered.symm.trans delivery))
  rw [← isOwn] at waiting isMessage
  exact ⟨owner, rest, waiting, isMessage⟩

end Runs

/-- Whatever happens in a quiet run, as long as there are generations left. The reports
that were handled and those that wait are the ones that were accepted, in order, and
what was passed to the radio comes from reports that were handled, in order. A report
is handled after all those that were accepted before it. It is passed on if the radio
is up or comes up, a host is connected, and its interface has been neither connected
nor disconnected since it was submitted. What is passed on then is what it comes to
with the layout that it was read with and the sensitivity that was set last. -/
theorem reports_delivered (settings : Settings) (depth : Nat) (events : List Event)
    (few : (Relay.new depth settings.mouseSensitivity).installCount
      ((new settings depth).history events) < Limits.maxUInt32) :
    let first := new settings depth
    let start := Relay.new depth settings.mouseSensitivity
    let last := first.after events
    (start.after (first.history events)).intake = last.bridge.intake ∧
    (first.deliveries events).map Prod.fst ++ last.bridge.intake.queue =
      start.accepted (first.history events) ∧
    last.radio.passed = (first.deliveries events).filterMap Prod.snd ∧
    (((first.deliveries events).filter (fun delivery => delivery.2.isSome)).map
      Prod.fst).Sublist (start.accepted (first.history events)) ∧
    ∀ earlier event later report message, events = earlier ++ event :: later →
      (first.after earlier).delivery? event = some (report, message) →
      ∃ before submission since layout,
        first.history earlier = before ++ submission :: since ∧
        start.accepted before = (first.deliveries earlier).map Prod.fst ∧
        (start.after before).Submits submission layout report ∧
        message =
          if (first.after earlier).ready && !Relay.touched report.interfaceId
              ((start.after before).take submission) since then
            report.compose (first.sensitivityAfter earlier) layout.classify
          else none := by
  intro first start last
  have tracked := tracked_after few
  have order := handled_in_order few
  have sent : (((first.deliveries events).filter (fun delivery => delivery.2.isSome)).map
      Prod.fst).Sublist (start.accepted (first.history events)) := by
    rw [← order]
    exact (List.filter_sublist.map Prod.fst).trans (List.sublist_append_left _ _)
  refine ⟨tracked.intake, order, tracked.passed, sent, ?_⟩
  intro earlier event later report message split delivered
  rw [split] at few
  have fewEarlier := few_earlier few
  obtain ⟨owner, rest, waiting, passed⟩ :=
    taken_of_delivery (quiet_after settings depth earlier) delivered
  have orderEarlier := handled_in_order fewEarlier
  rw [waiting] at orderEarlier
  obtain ⟨before, submission, since, layout, history, accepted, submits⟩ :=
    Relay.exists_submission orderEarlier.symm
  have trackedEarlier := tracked_after fewEarlier
  rw [history] at trackedEarlier fewEarlier
  refine ⟨before, submission, since, layout, history, accepted, submits, ?_⟩
  rw [Relay.installCount_append] at fewEarlier
  have fewBefore : start.installCount before < Limits.maxUInt32 :=
    Nat.lt_of_le_of_lt (Nat.le_add_right _ _) fewEarlier
  obtain ⟨sound, generation⟩ := Relay.sound_of_few fewBefore
  rw [passed]
  exact message?_submitted trackedEarlier sound (by rw [generation]; omega) submits owner rest

def unplugging : List Event :=
  [.step (.connect 1 Relay.buttons), .step (.connect 2 Relay.buttons), .step (.spawn .consumer),
    .step (.report 1 none [0x02]), .step (.report 2 (some 0) [0x01]),
    .step (.report 1 none [0x04]), .step (.disconnect 2), .consumerTurn]

theorem unplugging_delivered :
    (Relay.new 4 Settings.default.mouseSensitivity).installCount
        ((new .default 4).history (unplugging ++ [.step .pump])) = 2 ∧
      ((new .default 4).after (unplugging ++ [.step .pump])).radio.passed =
        [.mouse { Output.Mouse.empty with buttons := 2 }] ∧
      ∃ report before submission since layout,
        ((new .default 4).after unplugging).delivery? (.step .pump) = some (report, none) ∧
        (new .default 4).history unplugging = before ++ submission :: since ∧
        ((Relay.new 4 Settings.default.mouseSensitivity).after before).Submits submission layout
          report := by
  have few : (Relay.new 4 Settings.default.mouseSensitivity).installCount
      ((new .default 4).history (unplugging ++ [.step .pump])) = 2 := by decide +kernel
  have unsent : (((new .default 4).after unplugging).delivery? (.step .pump)).map Prod.snd =
      some none := by decide +kernel
  obtain ⟨⟨report, message⟩, delivered, same⟩ := Option.map_eq_some_iff.mp unsent
  have isNone : message = none := same
  rw [isNone] at delivered
  obtain ⟨_intake, _order, _passed, _sent, each⟩ :=
    reports_delivered .default 4 (unplugging ++ [.step .pump]) (by rw [few]; decide)
  obtain ⟨before, submission, since, layout, history, _accepted, submits, _message⟩ :=
    each unplugging (.step .pump) [] report none rfl delivered
  exact ⟨few, by decide +kernel, report, before, submission, since, layout, delivered, history,
    submits⟩

end World

end HidBridge
