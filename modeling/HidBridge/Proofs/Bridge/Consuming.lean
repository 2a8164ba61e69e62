/-
The consumer task and handling the reports step by step are the same consumer. In a world in
which the task is alone and nothing was put aside for calls of the radio, each of its turns
does what one step does that takes the next report and handles it. A report that cannot be
converted or sent ends neither. What the task had in hand already, no step will take, and
when generations start over the two may convert a report differently.
-/

import HidBridge.Proofs.Bridge.Handling
import HidBridge.Proofs.Bridge.Returning
import HidBridge.Proofs.Bridge.Turns

namespace HidBridge

namespace World

/-! ### The task beside the steps -/

/-- Two worlds that differ in their users only, and in which no converter remembers anything
that the table would not say again. -/
structure Twins (task manual : World) : Prop where
  same : manual = task.withUsers manual.users
  coherent : task.Coherent
  free : task.bridge.locked = false
  dated : task.bridge.intake.table.Dated
  taskAgrees : task.traffic.Agrees
  manualAgrees : manual.traffic.Agrees

theorem Twins.of_used {world : World} (coherent : world.Coherent)
    (free : world.bridge.locked = false)
    (few : ∀ owner, ∃ installs,
      (world.converterOf owner).UsedWith world.bridge.intake installs ∧
        installs < Limits.maxUInt32) : Twins world world := by
  have sound (owner : ConverterOwner) : (world.relay owner).Sound := by
    obtain ⟨installs, used, count⟩ := few owner
    exact used.sound count
  have agrees : world.traffic.Agrees :=
    { session := (sound .session).agrees, consumer := (sound .consumer).agrees }
  exact
    { same := rfl
      coherent
      free
      dated := (sound .session).dated
      taskAgrees := agrees
      manualAgrees := agrees }

namespace Twins

variable {task manual : World} (twins : Twins task manual)

include twins

theorem bridge : manual.bridge = task.bridge := by rw [twins.same, bridge_withUsers]

theorem alike : task.bridge = manual.bridge ∧ task.radio = manual.radio ∧
    task.clock = manual.clock := by
  rw [twins.same]
  exact ⟨rfl, rfl, rfl⟩

theorem manualCoherent : manual.Coherent := by
  have same : manual.core = task.core := by
    rw [twins.same]
    rfl
  exact (twins.coherent.beside same).inv

theorem setConsumer (stage : ConsumerStage) : Twins (task.setConsumer stage) manual :=
  have kept : Keeps Coherent Guarded task (task.setConsumer stage) := twins.coherent.beside rfl
  { same := twins.same
    coherent := kept.inv
    free := twins.free
    dated := twins.dated
    taskAgrees := twins.taskAgrees.beside rfl rfl rfl
    manualAgrees := twins.manualAgrees }

theorem setSession (sessionBusy : Bool) : Twins task { manual with sessionBusy } :=
  { same := congrArg (fun world : World => { world with sessionBusy }) twins.same
    coherent := twins.coherent
    free := twins.free
    dated := twins.dated
    taskAgrees := twins.taskAgrees
    manualAgrees := twins.manualAgrees.beside rfl rfl rfl }

theorem setQueue (queue : List Report) : Twins (task.setQueue queue) (manual.setQueue queue) :=
  have kept : Keeps Coherent Guarded task (task.setQueue queue) := twins.coherent.beside rfl
  { same := congrArg (fun world => world.setQueue queue) twins.same
    coherent := kept.inv
    free := twins.free
    dated := twins.dated
    taskAgrees := twins.taskAgrees.beside rfl rfl rfl
    manualAgrees := twins.manualAgrees.beside rfl rfl rfl }

theorem armDeadline (asOf : Nat) : Twins (task.armDeadline asOf) (manual.armDeadline asOf) :=
  have kept := coherent_primitives.armDeadline asOf twins.coherent twins.free
  { same := congrArg (fun world => world.armDeadline asOf) twins.same
    coherent := kept.inv
    free := twins.free
    dated := twins.dated
    taskAgrees := twins.taskAgrees.beside rfl rfl rfl
    manualAgrees := twins.manualAgrees.beside rfl rfl rfl }

theorem converts_alike (report : Report) :
    (manual.convert .session report).1 = (task.convert .consumer report).1 := by
  have manualAgrees := twins.manualAgrees.converterOf .session
  rw [twins.bridge] at manualAgrees
  have alike := (manualAgrees.setSensitivity task.bridge.sensitivity).convert_eq
    ((twins.taskAgrees.converterOf .consumer).setSensitivity task.bridge.sensitivity) rfl report
  unfold convert
  rw [twins.bridge]
  exact alike

theorem process (report : Report) :
    Twins (task.process (interlude 0) .consumer report).2
      (manual.process (interlude 0) .session report).2 := by
  have manualFree : manual.bridge.locked = false := twins.bridge ▸ twins.free
  have manualDated : manual.bridge.intake.table.Dated := twins.bridge ▸ twins.dated
  have calm := coherent_primitives.interlude 0
  have after := coherent_primitives.process calm twins.coherent .consumer report
  have outside := outside_process twins.free .consumer report
  have alike := twins.converts_alike report
  rw [twins.same] at alike
  have handled := (process_withUsers twins.free manual.users alike).2
  rw [← twins.same] at handled
  have intake : (task.process (interlude 0) .consumer report).2.bridge.intake =
      task.bridge.intake := intake_of_outside outside
  have dated := twins.dated
  rw [← intake] at dated
  exact
    { same := handled
      coherent := after.inv
      free := (locked_of_outside outside).trans twins.free
      dated
      taskAgrees := agrees_process twins.coherent twins.free twins.taskAgrees twins.dated _ _
      manualAgrees :=
        agrees_process twins.manualCoherent manualFree twins.manualAgrees manualDated _ _ }

end Twins

structure InStep (task manual : World) (queue : List Report) : Prop where
  twins : Twins task manual
  waits : task.Waits queue
  sessionFree : manual.sessionBusy = false

theorem InStep.turn {task manual : World} {queue : List Report}
    (inStep : InStep task manual queue) (depth : Nat) :
    InStep (task.consumerTurn (interlude depth)) (manual.pump (interlude depth)).2
      queue.tail := by
  have free := inStep.waits.alone.free
  have nothing := inStep.waits.alone.nothing
  have manualFree : manual.bridge.locked = false := inStep.twins.bridge ▸ free
  have manualNothing : manual.pending = [] := by
    rw [inStep.twins.same]
    exact nothing
  have queues : manual.bridge.intake.queue = queue := by
    rw [inStep.twins.bridge]
    exact inStep.waits.queue
  have after := inStep.waits.turn depth
  rw [pump_unfilled depth manualNothing manualFree]
  rw [consumerTurn_unfilled depth nothing free] at after ⊢
  cases queue with
  | nil =>
      rw [consumerTurn_empty inStep.waits.receiving inStep.waits.queue, pump_empty queues]
      exact inStep
  | cons report rest =>
      have taken := ((inStep.twins.setQueue rest).setConsumer .busy).setSession true
      have handled := ((taken.process report).setConsumer .receiving).setSession false
      rw [← consumerTurn_receiving free inStep.waits.receiving inStep.waits.queue] at handled
      rw [pump_waiting inStep.sessionFree queues]
      exact
        { twins := handled
          waits := after
          sessionFree := rfl }

def afterPumps (world : World) (inside : Interlude) (count : Nat) : World :=
  Nat.repeat (fun current => (current.pump inside).2) count world

/-- A step does what the task has in hand. -/
def takeOver (world : World) (inside : Interlude) : World :=
  match world.consumer.stage with
  | .awaitingRadio report _limit => (world.process inside .session report).2
  | .awaitingRearm asOf _limit => (world.rearm asOf).2
  | _ => world

section Start

variable {world : World} (coherent : world.Coherent) (alone : world.Alone)
  (present : world.consumer.stage ≠ .absent) (idle : world.consumer.stage ≠ .busy)

include coherent alone present idle

theorem inStep_inHand (twins : Twins world world) (sessionFree : world.sessionBusy = false)
    (depth : Nat) :
    InStep (world.afterTurns (interlude depth) world.inHand)
      (world.takeOver (interlude depth)) world.bridge.intake.queue := by
  have waits := waits_inHand coherent alone present idle depth
  unfold takeOver
  cases stage : world.consumer.stage with
  | absent => exact absurd stage present
  | busy => exact absurd stage idle
  | receiving =>
      have none : world.inHand = 0 := if_pos stage
      rw [none] at waits ⊢
      exact { twins, waits, sessionFree }
  | awaitingRadio report limit =>
      have waiting : world.consumer.stage ≠ .receiving := by
        rw [stage]
        nofun
      have handled := ((twins.setConsumer .busy).process report).setConsumer .receiving
      have posture := posture_of_outside (outside_process alone.free .session report)
      rw [← consumerTurn_awaitingRadio coherent alone.free stage,
        ← consumerTurn_unfilled depth alone.nothing alone.free,
        ← afterTurns_inHand waiting] at handled
      dsimp only
      rw [process_unfilled depth alone.nothing alone.free]
      exact
        { twins := handled
          waits
          sessionFree := (congrArg Posture.sessionBusy posture).trans sessionFree }
  | awaitingRearm asOf limit =>
      have waiting : world.consumer.stage ≠ .receiving := by
        rw [stage]
        nofun
      have armed := (twins.armDeadline asOf).setConsumer .receiving
      rw [← consumerTurn_awaitingRearm alone.free stage, ← afterTurns_inHand waiting] at armed
      dsimp only
      rw [rearm_free alone.free]
      exact { twins := armed, waits, sessionFree }

theorem inStep_afterTurns (twins : Twins world world) (sessionFree : world.sessionBusy = false)
    (depth count : Nat) :
    InStep (world.afterTurns (interlude depth) (world.inHand + count))
      ((world.takeOver (interlude depth)).afterPumps (interlude depth) count)
      (world.bridge.intake.queue.drop count) := by
  induction count with
  | zero => exact inStep_inHand coherent alone present idle twins sessionFree depth
  | succ count ih =>
      have after := ih.turn depth
      rw [List.tail_drop] at after
      exact after

end Start

/-- The consumer task is the only one, and nothing was put aside for calls of the radio.
Time passes, and the task runs until it waits again. Turn by turn it takes the next report,
handles it, and waits for another one, whatever came of it, until there are none left. Its
converter and the session converter were used with the intake of the bridge and no other, so
until generations start over the bridge, the radio and the clock come to be what steps make
of them that handle the reports one by one at the same instant, beginning with what the task
had in hand. -/
theorem Reachable.consumes_as_pumped {world : World} (reachable : world.Reachable)
    (present : world.consumer.stage ≠ .absent) (alone : world.timer = .absent)
    (nothing : world.pending = []) (depth time : Nat) :
    let inside := interlude depth
    let start := world.wait time
    let turned := fun count => start.afterTurns inside (start.inHand + count)
    let pumped := fun count => (start.takeOver inside).afterPumps inside count
    let waiting := world.bridge.intake.queue
    let ran := (world.take inside (.advance time)).2
    (∀ count,
      (turned count).consumer.stage = .receiving ∧
      (turned count).bridge.intake.queue = waiting.drop count ∧
      ∀ report rest, waiting.drop count = report :: rest →
        turned (count + 1) =
          ((((turned count).setQueue rest).setConsumer .busy).process inside .consumer
            report).2.setConsumer .receiving) ∧
    (ran = turned waiting.length ∧ ran.consumer.stage = .receiving ∧
      ran.bridge.intake.queue = []) ∧
    (∀ owner, ∃ installs,
      (world.converterOf owner).UsedWith world.bridge.intake installs) ∧
    ((∀ owner, ∃ installs,
        (world.converterOf owner).UsedWith world.bridge.intake installs ∧
          installs < Limits.maxUInt32) →
      (∀ count, (turned count).bridge = (pumped count).bridge ∧
        (turned count).radio = (pumped count).radio ∧
        (turned count).clock = (pumped count).clock) ∧
      ran.bridge = (pumped waiting.length).bridge ∧
      ran.radio = (pumped waiting.length).radio ∧
      ran.clock = (pumped waiting.length).clock ∧
      (pumped waiting.length).bridge.intake.queue = []) := by
  intro inside start turned pumped waiting ran
  obtain ⟨coherent, free⟩ := reachable.coherent
  obtain ⟨sessionFree, idle⟩ := reachable.idle
  have kept : Keeps Coherent Guarded world start := coherent.beside rfl
  have startAlone : start.Alone := { free, nothing, timer := alone }
  have waits (count : Nat) : (turned count).Waits (waiting.drop count) :=
    waits_afterTurns kept.inv startAlone present idle depth count
  have settled : ran = turned waiting.length := by
    have run := settle_alone kept.inv startAlone present idle depth
    simp only [ran, World.take]
    exact run
  have drained : ran.bridge.intake.queue = [] := by
    rw [settled, (waits waiting.length).queue]
    exact List.drop_length
  refine ⟨?_, ⟨settled, ?_, drained⟩, reachable.usedWith, ?_⟩
  · intro count
    refine ⟨(waits count).receiving, (waits count).queue, ?_⟩
    intro report rest next
    have before := waits count
    rw [next] at before
    exact before.turn_handles depth
  · rw [settled]
    exact (waits waiting.length).receiving
  · intro few
    have twins : Twins start start := .of_used kept.inv free few
    have inStep (count : Nat) : Twins (turned count) (pumped count) :=
      (inStep_afterTurns kept.inv startAlone present idle twins sessionFree depth count).twins
    have alike (count : Nat) : (turned count).bridge = (pumped count).bridge ∧
        (turned count).radio = (pumped count).radio ∧
        (turned count).clock = (pumped count).clock := (inStep count).alike
    obtain ⟨bridge, radio, clock⟩ := alike waiting.length
    rw [← settled] at bridge radio clock
    have empty := drained
    rw [bridge] at empty
    exact ⟨alike, bridge, radio, clock, empty⟩

/-- A button is pressed and released. In between interface 2 says something and is gone
before anybody heard of it. -/
def piledUp : World :=
  let steps : List Step :=
    [.connect 1 Relay.buttons, .report 1 none [0x02], .connect 2 Relay.buttons,
      .report 2 none [0x01], .disconnect 2, .report 1 none [0x00], .spawn .consumer]
  steps.foldl (fun world step => (world.take (interlude 0) step).2) (.new .default 4)

def piling : List Relay.Event :=
  [.connect 1 Relay.buttons, .submitTransfer 1 [0x02], .connect 2 Relay.buttons,
    .submitTransfer 2 [0x01], .disconnect 2, .submitTransfer 1 [0x00]]

theorem piledUp_consumed :
    let ran := (piledUp.take (interlude 0) (.advance Limits.second)).2
    let pumped := (piledUp.wait Limits.second).afterPumps (interlude 0) 3
    piledUp.Reachable ∧ piledUp.consumer.stage ≠ .absent ∧ piledUp.timer = .absent ∧
      piledUp.pending = [] ∧ piledUp.bridge.intake.queue.length = 3 ∧
      ran.bridge = pumped.bridge ∧ ran.radio = pumped.radio ∧
      ran.bridge.intake.queue = [] ∧ pumped.radio.calls .send = 2 := by
  have reachable : piledUp.Reachable :=
    .take 0 _ (.take 0 _ (.take 0 _ (.take 0 _ (.take 0 _ (.take 0 _ (.take 0 _
      (.new .default 4)))))))
  have present : piledUp.consumer.stage ≠ .absent := by decide +kernel
  have alone : piledUp.timer = .absent := by decide +kernel
  have nothing : piledUp.pending = [] := rfl
  have few (owner : ConverterOwner) : ∃ installs,
      (piledUp.converterOf owner).UsedWith piledUp.bridge.intake installs ∧
        installs < Limits.maxUInt32 := by
    have intake : ((Relay.new 4 100).after (piling ++ [.renew 100])).intake =
        piledUp.bridge.intake := by decide +kernel
    have converter : ((Relay.new 4 100).after (piling ++ [.renew 100])).converter =
        piledUp.converterOf owner := by
      cases owner <;> decide +kernel
    exact ⟨2, ⟨4, 100, _, congrArg₂ Relay.mk intake converter, by decide +kernel⟩, by decide⟩
  obtain ⟨_turns, ⟨_settled, _waits, empty⟩, _used, same⟩ :=
    reachable.consumes_as_pumped present alone nothing 0 Limits.second
  obtain ⟨_each, bridge, radio, _clock, _drained⟩ := same few
  have three : piledUp.bridge.intake.queue.length = 3 := by decide +kernel
  rw [three] at bridge radio
  exact ⟨reachable, present, alone, nothing, three, bridge, radio, empty, by decide +kernel⟩

/-! ### Where the two differ -/

theorem afterPumps_empty {world : World} (empty : world.bridge.intake.queue = [])
    (inside : Interlude) (count : Nat) : world.afterPumps inside count = world := by
  induction count with
  | zero => rfl
  | succ count ih =>
      unfold afterPumps at ih ⊢
      rw [Nat.repeat, ih, pump_empty empty]

/-- While the radio is brought up for one report, the task takes another one. -/
def heldUp : World :=
  let steps : List Step :=
    [.connect 1 Relay.buttons, .check (30 * Limits.second), .report 1 none [0x02],
      .during .bringUp
        [.spawn .consumer, .report 1 none [0x00], .advance Limits.millisecond],
      .pump]
  steps.foldl (fun world step => (world.take (interlude 1) step).2) (.new .default 4)

def dials : List UInt8 :=
  [0x05, 0x0C, 0x19, 0x01, 0x29, 0x04, 0x75, 0x01, 0x95, 0x04, 0x81, 0x02]

/-- The session converter has seen a report of dials, which nothing is to be sent for. -/
def dialled : World :=
  let steps : List Step := [.connect 1 dials, .report 1 none [0x02], .pump]
  steps.foldl (fun world step => (world.take (interlude 0) step).2) (.new .default 4)

def dialledAs (interface : Interface) (generation : Nat) : World :=
  dialled.setIntake
    { dialled.bridge.intake with
      table :=
        { entries := [{ generation, interface }]
          nextGeneration := Table.succGeneration generation } }

theorem dialledAs_connect {interface : Interface} (first : interface.id = 1) (generation : Nat) :
    ((dialledAs interface generation).take (interlude 0) (.connect 1 Relay.buttons)).2 =
      dialledAs (.ofDescriptor 1 Relay.buttons) (Table.succGeneration generation) := by
  have present : Attached.isFor ⟨generation, interface⟩ 1 = true := Attached.isFor_iff.mpr first
  have free : dialled.bridge.locked = false := by decide +kernel
  have armed : dialled.bridge.lifecycle.rearm dialled.clock = dialled.bridge.lifecycle := by
    decide +kernel
  have moved : dialled.bridge.deadlineMoved = true := by decide +kernel
  simp only [take, connect, dialledAs, setIntake, Intake.connect, Table.insert, Table.store,
    Interface.id_ofDescriptor, List.any_cons, List.any_nil, List.map_cons, List.map_nil, present,
    Bool.or_false, if_true, rearm, underLock, free, Bool.false_eq_true, if_false, armDeadline,
    armed]
  rw [← moved]

def reconnected (count : Nat) : World :=
  Nat.repeat (fun world => (world.take (interlude 0) (.connect 1 Relay.buttons)).2) count dialled

theorem reachable_reconnected (count : Nat) : (reconnected count).Reachable := by
  have reachable : dialled.Reachable := .take 0 _ (.take 0 _ (.take 0 _ (.new .default 4)))
  exact Reachable.turns (fun earlier => .take 0 (.connect 1 Relay.buttons) earlier) count
    reachable

theorem reconnected_succ (count : Nat) :
    reconnected (count + 1) =
      dialledAs (.ofDescriptor 1 Relay.buttons)
        (Nat.repeat Table.succGeneration (count + 1) 1) := by
  induction count with
  | zero =>
      have same :
          dialled.bridge.intake = (dialledAs (.ofDescriptor 1 dials) 1).bridge.intake := by
        decide +kernel
      have first : dialled = dialledAs (.ofDescriptor 1 dials) 1 :=
        congrArg dialled.setIntake same
      have next := dialledAs_connect (Interface.id_ofDescriptor 1 dials) 1
      rw [← first] at next
      exact next
  | succ count ih =>
      have next := dialledAs_connect (Interface.id_ofDescriptor 1 Relay.buttons)
        (Nat.repeat Table.succGeneration (count + 1) 1)
      rw [← ih] at next
      exact next

theorem repeat_succGeneration {count : Nat} (room : count < Limits.maxUInt32) :
    Nat.repeat Table.succGeneration count 1 = count + 1 := by
  induction count with
  | zero => rfl
  | succ count ih =>
      have earlier : count + 1 < Limits.maxUInt32 := room
      rw [Nat.repeat, ih (by omega), Table.succGeneration_of_lt earlier]

/-- With as many connections as there are generations, that of the dials comes round. -/
theorem reconnected_round :
    reconnected Limits.maxUInt32 = dialledAs (.ofDescriptor 1 Relay.buttons) 1 := by
  have last : Limits.maxUInt32 = Limits.maxUInt32 - 1 + 1 := by decide
  rw [last, reconnected_succ, Nat.repeat, repeat_succGeneration (by decide)]
  rfl

def pressedBeside (world : World) : World :=
  ((world.take (interlude 0) (.spawn .consumer)).2.take
    (interlude 0) (.report 1 none [0x02])).2

theorem Reachable.pressedBeside {world : World} (reachable : world.Reachable) :
    world.pressedBeside.Reachable := .take 0 _ (.take 0 _ reachable)

def startedOver : World := (reconnected Limits.maxUInt32).pressedBeside

theorem startedOver_eq :
    startedOver = (dialledAs (.ofDescriptor 1 Relay.buttons) 1).pressedBeside := by
  unfold startedOver
  rw [reconnected_round]

/-- The task sends one more report than steps that take the waiting ones, in a world in which
it has a report in hand, and in one in which a generation has come round. -/
theorem sends_unlike_pumps :
    (heldUp.Reachable ∧ heldUp.consumer.stage ≠ .absent ∧ heldUp.timer = .absent ∧
      heldUp.pending = [] ∧ heldUp.bridge.intake.queue = [] ∧
      (heldUp.take (interlude 0) (.advance Limits.second)).2.radio.calls .send = 2 ∧
      ∀ count,
        ((heldUp.wait Limits.second).afterPumps (interlude 0) count).radio.calls .send = 1) ∧
    (startedOver.Reachable ∧ startedOver.consumer.stage ≠ .absent ∧
      startedOver.timer = .absent ∧ startedOver.pending = [] ∧
      startedOver.bridge.intake.queue.length = 1 ∧
      (startedOver.take (interlude 0) (.advance Limits.second)).2.radio.calls .send = 1 ∧
      ((startedOver.wait Limits.second).afterPumps (interlude 0) 1).radio.calls .send = 0) := by
  have reached : heldUp.Reachable :=
    .take 1 _ (.take 1 _ (.take 1 _ (.take 1 _ (.take 1 _ (.new .default 4)))))
  have empty : heldUp.bridge.intake.queue = [] := by decide +kernel
  have again : startedOver.Reachable :=
    (reachable_reconnected Limits.maxUInt32).pressedBeside
  refine ⟨⟨reached, by decide +kernel, by decide +kernel, by decide +kernel, empty,
    by decide +kernel, ?_⟩, again, ?_⟩
  · intro count
    have stillEmpty : (heldUp.wait Limits.second).bridge.intake.queue = [] := by decide +kernel
    rw [afterPumps_empty stillEmpty]
    decide +kernel
  · rw [startedOver_eq]
    exact ⟨by decide +kernel, by decide +kernel, by decide +kernel, by decide +kernel,
      by decide +kernel, by decide +kernel⟩

end World

end HidBridge
