/-
The operations of a bridge. Those that need the lifecycle lock wait for it, and
are refused if it stays busy. The way of a report from the queue to the radio is one
of them: the radio is brought up if it is suspended, the report is converted and
sent, and the deadline is pushed back.
-/

import HidBridge.Bridge.World

namespace HidBridge

/-- Whose converter is used for a report: that of the session, that of the consumer
task, or a new one. -/
inductive ConverterOwner where
  | session
  | consumer
  | nobody
  deriving DecidableEq

namespace World

/-! ### Under the lock, which is free before -/

def resumeRadio (world : World) (inside : Interlude) : Except Fault Unit × World :=
  match world.bridge.lifecycle.startResume with
  | none => (.ok (), world.release world.bridge.lifecycle)
  | some next =>
    let (failure, after) := (world.hold next).call inside .bringUp
    let (result, last) := after.bridge.lifecycle.endResume failure
    (result, after.release last)

def checkDeadline (world : World) (inside : Interlude) (asOf : Nat) : CheckOutcome × World :=
  match world.bridge.lifecycle.startCheck asOf world.links with
  | (some outcome, next) => (outcome, world.release next)
  | (none, next) =>
    let (failure, after) := (world.hold next).call inside .tearDown
    let (outcome, last) := after.bridge.lifecycle.endCheck failure
    (outcome, after.release last)

def armDeadline (world : World) (asOf : Nat) : World :=
  { world with
    bridge :=
      { world.bridge with
        lifecycle := world.bridge.lifecycle.rearm asOf
        deadlineMoved := true } }

/-! ### Waiting for the lock -/

def resume (world : World) (inside : Interlude) : Except Fault Unit × World :=
  world.underLock Limits.lockWait (fun free => free.resumeRadio inside)

def check (world : World) (inside : Interlude) (asOf : Nat) : Except Fault CheckOutcome × World :=
  world.underLock Limits.timerLockWait (fun free =>
    let (outcome, next) := free.checkDeadline inside asOf
    (.ok outcome, next))

def rearm (world : World) (asOf : Nat) : Except Fault Unit × World :=
  world.underLock Limits.lockWait (fun free => (.ok (), free.armDeadline asOf))

def activity (world : World) : Except Fault Activity × World :=
  world.underLock Limits.lockWait (fun free => (.ok free.bridge.lifecycle.activity, free))

def connect (world : World) (interfaceId : InterfaceId) (descriptor : List UInt8) :
    Except Fault Unit × World :=
  match world.bridge.intake.connect interfaceId descriptor with
  | (.error fault, intake) => (.error fault, world.setIntake intake)
  | (.ok _, intake) => (world.setIntake intake).rearm world.clock

def disconnect (world : World) (interfaceId : InterfaceId) : World :=
  world.setIntake (world.bridge.intake.disconnect interfaceId).2

def submit (world : World) (interfaceId : InterfaceId) (reportId : Option ReportId)
    (payload : List UInt8) : Except Fault Unit × World :=
  let (result, intake) :=
    match reportId with
    | some reportId => world.bridge.intake.submit interfaceId reportId payload
    | none => world.bridge.intake.submitTransfer interfaceId payload
  (result, (world.setIntake intake).wait (Intake.waited result))

def adopt (world : World) (settings : Settings) : World :=
  { world with
    bridge :=
      { world.bridge with
        lifecycle := world.bridge.lifecycle.configure settings.quietTime settings.sleepEnabled
        sensitivity := settings.mouseSensitivity
        settings } }

/-- Changes one setting. Nothing changes if the value is refused or the lock
stays busy. -/
def apply (world : World) (key : String) (value : SettingValue) : Except Fault Unit × World :=
  match world.bridge.settings.apply key value with
  | .error fault => (.error fault, world)
  | .ok changed => world.underLock Limits.lockWait (fun free => (.ok (), free.adopt changed))

/-! ### Delivering a report -/

def converterOf (world : World) : ConverterOwner → Converter
  | .session => world.session
  | .consumer => world.consumer.converter
  | .nobody => world.bridge.converter

def setConverter (world : World) (converter : Converter) : ConverterOwner → World
  | .session => { world with session := converter }
  | .consumer => { world with consumer := { world.consumer with converter } }
  | .nobody => world

def convert (world : World) (owner : ConverterOwner) (report : Report) :
    Except Fault (Option Output.Message) × World :=
  let current : Converter :=
    { world.converterOf owner with sensitivity := world.bridge.sensitivity }
  let (result, converter) := current.convert world.bridge.intake.table.lookup report
  (result, world.setConverter converter owner)

def forward (world : World) (inside : Interlude) (message : Output.Message) : Bool × World :=
  if world.links.blePeer then
    let (failure, after) := world.call inside (.send message)
    (failure.isNone, after)
  else (false, world)

def deliver (world : World) (inside : Interlude) (owner : ConverterOwner) (report : Report) :
    Except Fault Delivery × World :=
  match world.convert owner report with
  | (.error fault, next) => (.error fault, next)
  | (.ok none, next) => (.ok .ignored, next)
  | (.ok (some message), next) =>
    let (sent, last) := next.forward inside message
    (.ok (if sent then .sent message else .dropped), last)

def pushesBack (world : World) : Except Fault Delivery → Bool
  | .ok (.sent _) => world.links.rearmsOnDelivery
  | _ => false

/-- Handles one report that was taken out of the queue. A radio that cannot be
brought up drops the report; a deadline that cannot be pushed back does not. -/
def process (world : World) (inside : Interlude) (owner : ConverterOwner) (report : Report) :
    Except Fault Delivery × World :=
  let (ready, awake) :=
    if world.bridge.suspended then world.resume inside else (.ok (), world)
  match ready with
  | .error fault => (.error fault, awake)
  | .ok _ =>
    let (result, next) := awake.deliver inside owner report
    (result, if next.pushesBack result then (next.rearm next.clock).2 else next)

/-- Handles the next waiting report. While the session converter is in use, a
new one is used. -/
def pump (world : World) (inside : Interlude) : Answer × World :=
  match world.bridge.intake.receive with
  | none => (.empty, world)
  | some (report, intake) =>
    let next := world.setIntake intake
    if next.sessionBusy then
      let (result, last) := next.process inside .nobody report
      (.ofResult .delivered result, last)
    else
      let (result, last) := { next with sessionBusy := true }.process inside .session report
      (.ofResult .delivered result, { last with sessionBusy := false })

end World

end HidBridge
