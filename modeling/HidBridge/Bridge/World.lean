/-
A bridge with all that surrounds it: the clock, the links, the radio, the tasks
beside it and the steps put aside for calls of the radio. What can be done with it is
done one step at a time. A step may put other steps aside that are taken later,
inside a call of the radio.

The lifecycle is behind a lock. The lock is held from before a call that brings
the radio up or takes it down until after it, so only what happens inside such a
call finds it busy.

Whoever runs goes on until there is something to wait for, and nobody else runs in
between. So a report is handled without a gap between looking whether the radio is
suspended and sending, and the timer task waits for the deadline that it has just
read. Others run inside a call of the radio, which is where the steps put aside are
taken, and while a task waits for a report, for the deadline or for the lock.
A step does not wait for others. It is refused when it finds the lock busy, and a
report when it finds the queue full; the clock has gone on then for as long as it
would have waited, and nobody has given the lock back or taken a report out of the
queue meanwhile. So a submission that waits and one that does not come to the same.
-/

import HidBridge.Conversion.Converter
import HidBridge.Intake.Basic
import HidBridge.Sleep.Lifecycle

namespace HidBridge

/-! ### Steps -/

inductive Task where
  | consumer
  | timer
  deriving DecidableEq

inductive Step where
  | connect (interfaceId : InterfaceId) (descriptor : List UInt8)
  /-- Without a report number the payload is a whole transfer. -/
  | report (interfaceId : InterfaceId) (reportId : Option ReportId) (payload : List UInt8)
  | disconnect (interfaceId : InterfaceId)
  | pump
  | apply (key : String) (value : SettingValue)
  | settings
  | activity
  | check (ahead : Nat)
  | rearm (ahead : Nat)
  | converter (interfaceId : InterfaceId) (reportId : ReportId)
  | links (usbDevice blePeer prioritySession : Option Bool)
  | failures (bringUp tearDown send : Option (Option RadioFault))
  | advance (time : Nat)
  | spawn (task : Task)
  | during (operation : RadioOperation) (steps : List Step)

mutual

/-- Reports that a step may add to the queue and radio calls that it may fill
with steps, those put aside included. -/
def Step.weight : Step → Nat
  | .report _ _ _ => 1
  | .during _ steps => Step.totalWeight steps + 1
  | _ => 0

def Step.totalWeight : List Step → Nat
  | [] => 0
  | step :: rest => step.weight + Step.totalWeight rest

end

structure Pending where
  operation : RadioOperation
  steps : List Step

def Pending.weight (pending : Pending) : Nat := Step.totalWeight pending.steps + 1

def Pending.totalWeight : List Pending → Nat
  | [] => 0
  | pending :: rest => pending.weight + Pending.totalWeight rest

inductive Delivery where
  | sent (message : Output.Message)
  | ignored
  | dropped
  deriving DecidableEq

inductive Answer where
  | nothing
  | done
  | empty
  | delivered (delivery : Delivery)
  | settings (settings : Settings)
  | activity (activity : Activity)
  | checked (outcome : CheckOutcome)
  /-- The summary kept for a report, the sensitivity of the converter and that
  of a new one. -/
  | converter (cached : Option Summary) (sensitivity fresh : Nat)
  | refused (fault : Fault)
  deriving DecidableEq

namespace Answer

def ofResult {α : Type} (accepted : α → Answer) : Except Fault α → Answer
  | .ok value => accepted value
  | .error fault => refused fault

def ofUnit : Except Fault Unit → Answer := ofResult (fun _ => done)

end Answer

/-! ### The world around a bridge -/

structure Bridge where
  intake : Intake
  lifecycle : Lifecycle
  locked : Bool
  suspended : Bool
  /-- The deadline has moved and the timer task has not seen it yet. -/
  deadlineMoved : Bool
  sensitivity : Nat
  settings : Settings
  deriving DecidableEq

namespace Bridge

def new (settings : Settings) (depth : Nat) : Bridge :=
  { intake := .empty depth
    lifecycle := .ofSettings settings
    locked := false
    suspended := false
    deadlineMoved := false
    sensitivity := settings.mouseSensitivity
    settings }

def converter (bridge : Bridge) : Converter := .new bridge.sensitivity

end Bridge

/-- What the consumer task is doing when it is not running. -/
inductive ConsumerStage where
  | absent
  | receiving
  | awaitingRadio (report : Report) (limit : Nat)
  | awaitingRearm (asOf limit : Nat)
  | busy
  deriving DecidableEq

structure Consumer where
  stage : ConsumerStage
  converter : Converter
  deriving DecidableEq

/-- What the timer task is doing when it is not running. -/
inductive TimerStage where
  | absent
  | starting
  | awaitingRead (limit : Nat)
  | backingOff (retry : Nat)
  | waiting (deadline : Option Nat)
  | awaitingCheck (asOf limit : Nat)
  | busy
  deriving DecidableEq

/-- A step taken inside a call of the radio and the answer to it, with the clock,
the bridge, the radio and the timer task as they were after it. -/
structure NestedAnswer where
  step : Step
  answer : Answer
  clock : Nat
  bridge : Bridge
  radio : Radio
  timer : TimerStage

structure World where
  bridge : Bridge
  links : Links
  radio : Radio
  clock : Nat
  session : Converter
  sessionBusy : Bool
  consumer : Consumer
  timer : TimerStage
  pending : List Pending
  nested : List NestedAnswer

/-- What happens inside a call of the radio. -/
abbrev Interlude := RadioOperation → World → World

namespace World

/-- A bridge with both sides linked, a reliable radio and no tasks. -/
def new (settings : Settings) (depth : Nat) : World :=
  let bridge := Bridge.new settings depth
  { bridge
    links := { usbDevice := true, blePeer := true, prioritySession := false }
    radio := .reliable
    clock := 0
    session := bridge.converter
    sessionBusy := false
    consumer := { stage := .absent, converter := bridge.converter }
    timer := .absent
    pending := []
    nested := [] }

def wait (world : World) (time : Nat) : World := { world with clock := world.clock + time }

def setIntake (world : World) (intake : Intake) : World :=
  { world with bridge := { world.bridge with intake } }

def hold (world : World) (lifecycle : Lifecycle) : World :=
  { world with bridge := { world.bridge with lifecycle, locked := true } }

/-- Sets the lifecycle, shows what it is to readers without the lock, and gives
the lock back. -/
def release (world : World) (lifecycle : Lifecycle) : World :=
  { world with
    bridge :=
      { world.bridge with lifecycle, suspended := lifecycle.isSuspended, locked := false } }

def call (world : World) (inside : Interlude) (call : RadioCall) : Option RadioFault × World :=
  let next := inside call.operation { world with radio := world.radio.begin call }
  let (failure, radio) := next.radio.finish call
  (failure, { next with radio })

/-- Does something under the lock, or gives up when the lock stays busy for as
long as the caller waits. -/
def underLock {α : Type} (world : World) (milliseconds : Nat)
    (action : World → Except Fault α × World) : Except Fault α × World :=
  if world.bridge.locked then
    (.error .lockTimeout, world.wait (milliseconds * Limits.millisecond))
  else action world

end World

end HidBridge
