/-
What each event of a quiet run does between the devices and the radio. An event takes
one report out of the queue and handles it, or changes the intake or a setting, or has
nothing to do with reports.
-/

import HidBridge.Proofs.Bridge.Course
import HidBridge.Proofs.Settings

namespace HidBridge

def RadioCall.message? : RadioCall → Option Output.Message
  | .send message => some message
  | _ => none

def RadioEvent.passed? : RadioEvent → Option Output.Message
  | .began call => call.message?
  | .ended _ _ => none

/-- What was passed to the radio to be sent, in order, be it sent or not. -/
def Radio.passed (radio : Radio) : List Output.Message :=
  radio.events.filterMap RadioEvent.passed?

theorem Radio.passed_call (radio : Radio) (call : RadioCall) :
    (radio.call call).2.passed = radio.passed ++ call.message?.toList := by
  unfold passed Radio.call finish begin
  rw [List.filterMap_append, List.filterMap_append, List.append_assoc]
  cases call <;> rfl

theorem Settings.mouseSensitivity_apply {settings changed : Settings} {key : String}
    {value : SettingValue} (accepted : settings.apply key value = .ok changed) :
    (key = mouseSensitivityKey ∧ ∃ number, value = .int number ∧
      changed.mouseSensitivity = number.toNat) ∨
    (key ≠ mouseSensitivityKey ∧
      changed.mouseSensitivity = settings.mouseSensitivity) := by
  cases Settings.apply_eq_ok_iff.mp accepted with
  | sleepTimeout seconds atLeast atMost => exact Or.inr ⟨by decide, rfl⟩
  | sleepEnabled flag => exact Or.inr ⟨by decide, rfl⟩
  | mouseSensitivity percent atLeast atMost => exact Or.inl ⟨rfl, percent, rfl, rfl⟩

namespace World

/-- All of a world that lies between the devices and the radio. -/
structure Traffic where
  intake : Intake
  session : Converter
  consumer : Converter
  sensitivity : Nat
  settings : Settings
  passed : List Output.Message

def traffic (world : World) : Traffic :=
  { intake := world.bridge.intake
    session := world.session
    consumer := world.consumer.converter
    sensitivity := world.bridge.sensitivity
    settings := world.bridge.settings
    passed := world.radio.passed }

section Traffic

variable (world : World)

theorem traffic_call {call : RadioCall} (silent : call.message? = none) (next : Lifecycle) :
    ((world.hold next).call (interlude 0) call).2.traffic = world.traffic := by
  have passed := world.radio.passed_call call
  rw [silent, Option.toList_none, List.append_nil] at passed
  exact congrArg (fun passed => { world.traffic with passed }) passed

@[simp]
theorem traffic_setTimer (timer : TimerStage) :
    (world.setTimer timer).traffic = world.traffic := rfl

@[simp]
theorem traffic_setIntake (intake : Intake) :
    (world.setIntake intake).traffic = { world.traffic with intake } := rfl

@[simp]
theorem traffic_armDeadline (asOf : Nat) :
    (world.armDeadline asOf).traffic = world.traffic := rfl

@[simp]
theorem traffic_resumeRadio :
    (world.resumeRadio (interlude 0)).2.traffic = world.traffic := by
  unfold resumeRadio
  cases world.bridge.lifecycle.startResume with
  | none => rfl
  | some next => exact world.traffic_call rfl next

@[simp]
theorem traffic_checkDeadline (asOf : Nat) :
    (world.checkDeadline (interlude 0) asOf).2.traffic = world.traffic := by
  unfold checkDeadline
  split
  · rfl
  · rename_i next _started
    exact world.traffic_call rfl next

@[simp]
theorem traffic_wake : world.wake.2.traffic = world.traffic := by
  unfold wake
  split <;> simp

@[simp]
theorem traffic_timerRead : world.timerRead.traffic = world.traffic := by
  unfold timerRead
  split <;> rfl

@[simp]
theorem traffic_timerHear : world.timerHear.traffic = world.traffic := by
  unfold timerHear
  split
  · exact traffic_timerRead _
  · rfl

@[simp]
theorem traffic_timerCheck (asOf : Nat) :
    (world.timerCheck (interlude 0) asOf).traffic = world.traffic := by
  unfold timerCheck
  split <;> simp

@[simp]
theorem traffic_runTimer : (world.runTimer (interlude 0)).traffic = world.traffic := by
  unfold runTimer
  split <;> simp [apply_ite traffic]

end Traffic

/-! ### One report -/

def wakes (world : World) : Bool :=
  !world.bridge.suspended || world.radio.bringUpFailure.isNone

def ready (world : World) : Bool := world.wakes && world.links.blePeer

def message? (world : World) (owner : ConverterOwner) (report : Report) :
    Option Output.Message :=
  if world.ready then (world.convert owner report).1.toOption.join else none

theorem wake_form (world : World) :
    ∃ lifecycle locked suspended radio, world.wake.2 =
      { world with
        bridge := { world.bridge with lifecycle, locked, suspended }
        radio } := by
  unfold wake
  split
  · unfold resumeRadio
    split
    · exact ⟨_, _, _, _, rfl⟩
    · exact ⟨_, _, _, _, rfl⟩
  · exact ⟨_, _, _, _, rfl⟩

theorem isOk_wake {world : World} (coherent : world.Coherent)
    (free : world.bridge.locked = false) : world.wake.1.isOk = world.wakes := by
  unfold wake wakes
  cases suspended : world.bridge.suspended with
  | false => rfl
  | true =>
      rw [if_pos rfl]
      unfold resumeRadio
      cases started : world.bridge.lifecycle.startResume with
      | none =>
          have active := Lifecycle.isSuspended_startResume_none started
          rw [coherent.now.free free, ← coherent.now.shown, suspended] at active
          cases active
      | some next =>
          dsimp only
          rw [call_quiet]
          have called : ((world.hold next).radio.call .bringUp).1 =
              world.radio.bringUpFailure := rfl
          rw [called]
          cases world.radio.bringUpFailure <;> rfl

theorem convert_wake (world : World) (owner : ConverterOwner) (report : Report) :
    (world.wake.2.convert owner report).1 = (world.convert owner report).1 ∧
      (world.wake.2.convert owner report).2.traffic =
        (world.convert owner report).2.traffic := by
  have traffic := world.traffic_wake
  obtain ⟨lifecycle, locked, suspended, radio, form⟩ := world.wake_form
  rw [form] at traffic ⊢
  have passed : radio.passed = world.radio.passed := congrArg Traffic.passed traffic
  constructor
  · cases owner <;> rfl
  · have same := congrArg
      (fun passed => { (world.convert owner report).2.traffic with passed }) passed
    cases owner <;> exact same

theorem traffic_forward (world : World) (message : Output.Message) :
    (world.forward (interlude 0) message).2.traffic =
      { world.traffic with
        passed := world.radio.passed ++
          (if world.links.blePeer then some message else none).toList } := by
  unfold forward
  split
  · exact congrArg (fun passed => { world.traffic with passed })
      (world.radio.passed_call (.send message))
  · exact congrArg (fun passed => { world.traffic with passed }) (List.append_nil _).symm

theorem traffic_deliver (world : World) (owner : ConverterOwner) (report : Report) :
    (world.deliver (interlude 0) owner report).2.traffic =
      { (world.convert owner report).2.traffic with
        passed := world.radio.passed ++
          (if world.links.blePeer then (world.convert owner report).1.toOption.join
            else none).toList } := by
  have radio := world.radio_convert owner report
  have links := world.links_convert owner report
  unfold deliver
  cases result : world.convert owner report with
  | mk converted next =>
      rw [result] at radio links
      have silent : next.traffic =
          { next.traffic with
            passed := world.radio.passed ++
              (if world.links.blePeer then (none : Option Output.Message)
                else none).toList } := by
        rw [ite_self, Option.toList_none, List.append_nil, ← radio]
        rfl
      cases converted with
      | error fault => exact silent
      | ok message =>
          cases message with
          | none => exact silent
          | some message =>
              have forwarded := next.traffic_forward message
              rw [radio, links] at forwarded
              exact forwarded

theorem traffic_handOver (world : World) (owner : ConverterOwner) (report : Report) :
    (world.handOver owner report).2.traffic =
      (world.deliver (interlude 0) owner report).2.traffic := by
  unfold handOver
  dsimp only
  split <;> simp

/-- If the radio is up or comes up, the report is converted, and the message passed
on. If not, nothing is done with it. -/
theorem traffic_process {world : World} (coherent : world.Coherent)
    (free : world.bridge.locked = false) (owner : ConverterOwner) (report : Report) :
    (world.process (interlude 0) owner report).2.traffic =
      { (if world.wakes then (world.convert owner report).2.traffic else world.traffic) with
        passed := world.radio.passed ++ (world.message? owner report).toList } := by
  have ready := isOk_wake coherent free
  have traffic := world.traffic_wake
  have links := links_of_outside (outside_wake free)
  obtain ⟨converted, after⟩ := world.convert_wake owner report
  rw [process_free free]
  unfold message? World.ready
  rw [← ready]
  cases result : world.wake with
  | mk outcome awake =>
      rw [result] at traffic links converted after
      cases outcome with
      | error fault =>
          refine traffic.trans ?_
          exact congrArg (fun passed => { world.traffic with passed }) (List.append_nil _).symm
      | ok _ =>
          have passed : awake.radio.passed = world.radio.passed :=
            congrArg Traffic.passed traffic
          have peer : awake.links.blePeer = world.links.blePeer := congrArg Links.blePeer links
          have delivered := (awake.traffic_handOver owner report).trans
            (awake.traffic_deliver owner report)
          rw [converted, after, passed, peer] at delivered
          exact delivered

/-! ### One event -/

structure Traffic.Agrees (traffic : Traffic) : Prop where
  session : traffic.session.Agrees traffic.intake.table
  consumer : traffic.consumer.Agrees traffic.intake.table

theorem Traffic.Agrees.beside {before after : World} (agrees : before.traffic.Agrees)
    (session : after.session = before.session)
    (consumer : after.consumer.converter = before.consumer.converter)
    (table : after.bridge.intake.table = before.bridge.intake.table) :
    after.traffic.Agrees := by
  have sessionAgrees := agrees.session
  have consumerAgrees := agrees.consumer
  unfold traffic at sessionAgrees consumerAgrees ⊢
  dsimp only at sessionAgrees consumerAgrees ⊢
  rw [← session, ← table] at sessionAgrees
  rw [← consumer, ← table] at consumerAgrees
  exact { session := sessionAgrees, consumer := consumerAgrees }

theorem Traffic.Agrees.converterOf {world : World} (agrees : world.traffic.Agrees)
    (owner : ConverterOwner) :
    (world.converterOf owner).Agrees world.bridge.intake.table := by
  cases owner with
  | session => exact agrees.session
  | consumer => exact agrees.consumer
  | nobody => exact Converter.agrees_new _ _

theorem agrees_convert {world : World} (agrees : world.traffic.Agrees)
    (dated : world.bridge.intake.table.Dated) (owner : ConverterOwner) (report : Report) :
    (world.convert owner report).2.traffic.Agrees := by
  cases owner with
  | session =>
      exact
        { session := (agrees.session.setSensitivity _).convert dated report
          consumer := agrees.consumer }
  | consumer =>
      exact
        { session := agrees.session
          consumer := (agrees.consumer.setSensitivity _).convert dated report }
  | nobody => exact { session := agrees.session, consumer := agrees.consumer }

def handled (world : World) (owner : ConverterOwner) (report : Report) (rest : List Report) :
    Traffic :=
  let next := world.setQueue rest
  { (if next.wakes then (next.convert owner report).2.traffic else next.traffic) with
    passed := next.radio.passed ++ (next.message? owner report).toList }

theorem handled_still (world : World) (owner : ConverterOwner) (report : Report)
    (rest : List Report) :
    let next := world.setQueue rest
    (world.handled owner report rest).intake = next.bridge.intake ∧
      (world.handled owner report rest).sensitivity = next.bridge.sensitivity ∧
      (world.handled owner report rest).settings = next.bridge.settings := by
  unfold handled
  dsimp only
  split
  · cases owner <;> exact ⟨rfl, rfl, rfl⟩
  · exact ⟨rfl, rfl, rfl⟩

theorem agrees_handled {world : World} (agrees : world.traffic.Agrees)
    (dated : world.bridge.intake.table.Dated) (owner : ConverterOwner) (report : Report)
    (rest : List Report) : (world.handled owner report rest).Agrees := by
  have queued : (world.setQueue rest).traffic.Agrees := agrees.beside rfl rfl rfl
  unfold handled
  dsimp only
  split
  · have converted := agrees_convert queued dated owner report
    exact { session := converted.session, consumer := converted.consumer }
  · exact { session := queued.session, consumer := queued.consumer }

theorem agrees_process {world : World} (coherent : world.Coherent)
    (free : world.bridge.locked = false) (agrees : world.traffic.Agrees)
    (dated : world.bridge.intake.table.Dated) (owner : ConverterOwner) (report : Report) :
    (world.process (interlude 0) owner report).2.traffic.Agrees := by
  rw [traffic_process coherent free]
  exact agrees_handled agrees dated owner report world.bridge.intake.queue

theorem traffic_pump {world : World} (coherent : world.Coherent) (calm : world.Calm)
    {report : Report} {rest : List Report}
    (waiting : world.bridge.intake.queue = report :: rest) :
    (world.pump (interlude 0)).2.traffic = world.handled .session report rest := by
  have busy : Keeps Coherent Guarded world { world.setQueue rest with sessionBusy := true } :=
    coherent.beside rfl
  rw [pump_waiting calm.sessionFree waiting]
  exact traffic_process busy.inv calm.unlocked .session report

theorem traffic_consumerTurn {world : World} (coherent : world.Coherent) (calm : world.Calm)
    (receiving : world.consumer.stage = .receiving) {report : Report} {rest : List Report}
    (waiting : world.bridge.intake.queue = report :: rest) :
    (world.consumerTurn (interlude 0)).traffic = world.handled .consumer report rest := by
  have busy : Keeps Coherent Guarded world ((world.setQueue rest).setConsumer .busy) :=
    coherent.beside rfl
  rw [consumerTurn_receiving calm.unlocked receiving waiting]
  exact traffic_process busy.inv calm.unlocked .consumer report

/-- The report that an event takes is the next one, and is handled with a converter of
the bridge. -/
theorem traffic_taken {world : World} (coherent : world.Coherent) (calm : world.Calm)
    {event : Event} {report : Report} (taken : world.taken? event = some report) :
    ∃ owner rest, world.bridge.intake.queue = report :: rest ∧
      world.onIntake? event = some .receive ∧
      (world.act event).traffic = world.handled owner report rest := by
  cases event with
  | step step =>
      cases step with
      | pump =>
          obtain ⟨rest, waiting⟩ := List.head?_eq_some_iff.mp taken
          exact ⟨.session, rest, waiting, rfl, traffic_pump coherent calm waiting⟩
      | report interfaceId reportId payload => cases reportId <;> cases taken
      | _ => cases taken
  | consumerTurn =>
      unfold taken? at taken
      by_cases receiving : world.consumer.stage = .receiving
      · have taking : world.onIntake? .consumerTurn = some .receive := if_pos receiving
        rw [taking] at taken
        obtain ⟨rest, waiting⟩ := List.head?_eq_some_iff.mp taken
        exact ⟨.consumer, rest, waiting, taking,
          traffic_consumerTurn coherent calm receiving waiting⟩
      · have resting : world.onIntake? .consumerTurn = none := if_neg receiving
        rw [resting] at taken
        cases taken
  | _ => cases taken

def sensitivity? (world : World) : Event → Option Nat
  | .step (.apply key (.int number)) =>
    if key = Settings.mouseSensitivityKey ∧ (world.apply key (.int number)).1.isOk then
      some number.toNat
    else none
  | _ => none

/-- What happens between the devices and the radio with an event that takes no
report. -/
inductive Idle (world : World) (relay : Relay) : Event → Traffic → Prop where
  | intake (event : Event) :
    world.sensitivity? event = none →
    Idle world relay event
      { world.traffic with intake := (relay.after (world.onIntake? event).toList).intake }
  | spawn :
    Idle world relay (.step (.spawn .consumer))
      { world.traffic with consumer := .new world.bridge.sensitivity }
  | apply (key : String) (value : SettingValue) (changed : Settings) :
    world.bridge.settings.apply key value = .ok changed →
    Idle world relay (.step (.apply key value))
      { world.traffic with settings := changed, sensitivity := changed.mouseSensitivity }

section Unlocked

variable {world : World} (free : world.bridge.locked = false)

include free

theorem traffic_check (asOf : Nat) :
    (world.check (interlude 0) asOf).2.traffic = world.traffic := by
  rw [check_free free]
  exact world.traffic_checkDeadline asOf

theorem traffic_rearm (asOf : Nat) : (world.rearm asOf).2.traffic = world.traffic := by
  rw [rearm_free free, traffic_armDeadline]

theorem traffic_connect (interfaceId : InterfaceId) (descriptor : List UInt8) :
    (world.connect interfaceId descriptor).2.traffic =
      { world.traffic with
        intake := (world.bridge.intake.connect interfaceId descriptor).2 } := by
  unfold connect
  cases world.bridge.intake.connect interfaceId descriptor with
  | mk outcome intake =>
      cases outcome with
      | error fault => rfl
      | ok generation => simp [traffic_rearm, free]

theorem traffic_apply {key : String} {value : SettingValue} {changed : Settings}
    (accepted : world.bridge.settings.apply key value = .ok changed) :
    (world.apply key value).1.isOk = true ∧
      (world.apply key value).2.traffic =
        { world.traffic with
          settings := changed
          sensitivity := changed.mouseSensitivity } := by
  simp only [apply, accepted, underLock_free free]
  exact ⟨rfl, rfl⟩

end Unlocked

theorem apply_refused {world : World} {key : String} {value : SettingValue} {fault : Fault}
    (refused : world.bridge.settings.apply key value = .error fault) :
    world.apply key value = (.error fault, world) := by
  unfold apply
  rw [refused]

theorem sensitivity?_refused {world : World} {key : String} {value : SettingValue}
    {fault : Fault} (refused : world.bridge.settings.apply key value = .error fault) :
    world.sensitivity? (.step (.apply key value)) = none := by
  cases value with
  | bool flag => rfl
  | int number =>
      refine if_neg ?_
      rintro ⟨_own, accepted⟩
      rw [apply_refused refused] at accepted
      cases accepted

theorem intake_receive_empty {relay : Relay} (empty : relay.intake.queue = []) :
    (relay.take .receive).intake = relay.intake := by
  simp only [Relay.take, Intake.receive, empty]

section Idle

variable {world : World} {relay : Relay} (same : relay.intake = world.bridge.intake)

include same

theorem Idle.of_still {event : Event} (unset : world.sensitivity? event = none)
    (untouched : (relay.after (world.onIntake? event).toList).intake = relay.intake)
    (traffic : (world.act event).traffic = world.traffic) :
    world.Idle relay event (world.act event).traffic := by
  have kept : world.Idle relay event _ := .intake event unset
  rw [untouched, same] at kept
  rw [traffic]
  exact kept

omit same in
theorem Idle.of_change {event : Event} {more : Relay.Event}
    (unset : world.sensitivity? event = none) (does : world.onIntake? event = some more)
    (traffic : (world.act event).traffic =
      { world.traffic with intake := (relay.take more).intake }) :
    world.Idle relay event (world.act event).traffic := by
  have kept : world.Idle relay event _ := .intake event unset
  rw [does] at kept
  rw [traffic]
  exact kept

theorem intake_received (empty : world.bridge.intake.queue = []) :
    (relay.after [.receive]).intake = relay.intake :=
  intake_receive_empty (same ▸ empty)

theorem idle_apply (free : world.bridge.locked = false) (key : String) (value : SettingValue) :
    world.Idle relay (.step (.apply key value))
      (world.act (.step (.apply key value))).traffic := by
  cases accepted : world.bridge.settings.apply key value with
  | error fault =>
      refine .of_still same (sensitivity?_refused accepted) rfl ?_
      simp only [act, take, apply_refused accepted]
  | ok changed =>
      have applied : (world.act (.step (.apply key value))).traffic = _ :=
        (traffic_apply free accepted).2
      rw [applied]
      exact .apply key value changed accepted

theorem idle_step (calm : world.Calm) {step : Step}
    (idle : world.taken? (.step step) = none) :
    world.Idle relay (.step step) (world.act (.step step)).traffic := by
  have free : world.bridge.locked = false := calm.unlocked
  cases step with
  | connect interfaceId descriptor =>
      refine .of_change rfl rfl ?_
      rw [Relay.take, same]
      exact traffic_connect free interfaceId descriptor
  | report interfaceId reportId payload =>
      cases reportId <;>
      · refine .of_change rfl rfl ?_
        rw [Relay.take, same]
        rfl
  | disconnect interfaceId =>
      refine .of_change rfl rfl ?_
      rw [Relay.take, same]
      rfl
  | pump =>
      have empty : world.bridge.intake.queue = [] := List.head?_eq_none_iff.mp idle
      refine .of_still same rfl (intake_received same empty) ?_
      simp only [act, take, pump_empty empty]
  | apply key value => exact idle_apply same free key value
  | settings => exact .of_still same rfl rfl rfl
  | activity =>
      refine .of_still same rfl rfl ?_
      simp only [act, take, activity, underLock_free free]
  | check ahead => exact .of_still same rfl rfl (traffic_check free _)
  | rearm ahead => exact .of_still same rfl rfl (traffic_rearm free _)
  | converter interfaceId reportId => exact .of_still same rfl rfl rfl
  | links usbDevice blePeer prioritySession => exact .of_still same rfl rfl rfl
  | failures bringUp tearDown send =>
      refine .of_still same rfl rfl ?_
      cases bringUp <;> cases tearDown <;> cases send <;> rfl
  | advance time => exact .of_still same rfl rfl rfl
  | spawn task =>
      cases task with
      | consumer => exact .spawn
      | timer => exact .of_still same rfl rfl rfl
  | during operation steps => exact .of_still same rfl rfl rfl

theorem idle_consumerTurn (calm : world.Calm) (idle : world.taken? .consumerTurn = none) :
    world.Idle relay .consumerTurn (world.act .consumerTurn).traffic := by
  have rests (drained : world.Drained) : (world.act .consumerTurn).traffic = world.traffic :=
    congrArg traffic (calm.consumerTurn_drained drained)
  have stages : world.consumer.stage = .absent ∨ world.consumer.stage = .receiving :=
    calm.consumer
  unfold taken? at idle
  rcases stages with absent | receiving
  · have resting : world.onIntake? .consumerTurn = none := by
      simp [onIntake?, absent]
    refine .of_still same rfl ?_ (rests (Or.inl absent))
    rw [resting]
    rfl
  · have taking : world.onIntake? .consumerTurn = some .receive := if_pos receiving
    rw [taking] at idle
    have empty : world.bridge.intake.queue = [] := List.head?_eq_none_iff.mp idle
    refine .of_still same rfl ?_ (rests (Or.inr empty))
    rw [taking]
    exact intake_received same empty

theorem traffic_idle (calm : world.Calm) {event : Event} (idle : world.taken? event = none) :
    world.Idle relay event (world.act event).traffic := by
  have free : world.bridge.locked = false := calm.unlocked
  cases event with
  | step step => exact idle_step same calm idle
  | check asOf => exact .of_still same rfl rfl (traffic_check free asOf)
  | rearm asOf => exact .of_still same rfl rfl (traffic_rearm free asOf)
  | consumerTurn => exact idle_consumerTurn same calm idle
  | timerTurn => exact .of_still same rfl rfl world.traffic_runTimer

end Idle

theorem sensitivity?_apply {world : World} (free : world.bridge.locked = false) {key : String}
    {value : SettingValue} {changed : Settings}
    (accepted : world.bridge.settings.apply key value = .ok changed) :
    (world.sensitivity? (.step (.apply key value))).getD
      world.bridge.settings.mouseSensitivity = changed.mouseSensitivity := by
  have answered := (traffic_apply free accepted).1
  rcases Settings.mouseSensitivity_apply accepted with
    ⟨own, number, isInt, same⟩ | ⟨other, same⟩
  · rw [isInt] at answered ⊢
    have set : world.sensitivity? (.step (.apply key (.int number))) = some number.toNat :=
      if_pos ⟨own, answered⟩
    rw [set, same]
    rfl
  · have unset : world.sensitivity? (.step (.apply key value)) = none := by
      cases value with
      | int number => exact if_neg (fun both => other both.1)
      | bool flag => rfl
    rw [unset, same]
    rfl

theorem sensitivity?_of_taken {world : World} {event : Event} {report : Report}
    (taken : world.taken? event = some report) : world.sensitivity? event = none := by
  cases event with
  | step step =>
      cases step with
      | apply key value => cases taken
      | _ => rfl
  | _ => rfl

end World

end HidBridge
