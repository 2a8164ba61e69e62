/-
The lifecycle of the radio: it is active or suspended, and an armed deadline says
when it may sleep. Whether it may then depends on three links and on the setting
that allows sleep at all, and on nothing else. Time comes from the caller.

A check that suspends the radio and a resume that brings it back have two halves,
before and after the call of the radio. The new state is taken on before the
call and taken back if the call fails.
-/

import HidBridge.Radio
import HidBridge.Settings

namespace HidBridge

structure Links where
  usbDevice : Bool
  blePeer : Bool
  prioritySession : Bool
  deriving DecidableEq

/-- Why the radio stays awake after its deadline has passed. -/
inductive Hold where
  | sleepDisabled
  | noUsbDevice
  | noBlePeer
  | prioritySession
  deriving DecidableEq

namespace Links

def hold? (links : Links) (sleepEnabled : Bool) : Option Hold :=
  if !sleepEnabled then some .sleepDisabled
  else if !links.usbDevice then some .noUsbDevice
  else if !links.blePeer then some .noBlePeer
  else if links.prioritySession then some .prioritySession
  else none

/-- A report that was sent pushes the deadline back if both sides are linked. -/
def rearmsOnDelivery (links : Links) : Bool := links.usbDevice && links.blePeer

/-- Output is paused when the radio sleeps and a device could still be used. -/
def outputPaused (links : Links) (suspended : Bool) : Bool := suspended && links.usbDevice

end Links

inductive Activity where
  | active
  | suspended
  deriving DecidableEq

inductive CheckOutcome where
  | notDue
  | inert (reason : Hold)
  | suspended
  | tearDownFailed (cause : RadioFault)
  | alreadySuspended
  deriving DecidableEq

structure Lifecycle where
  activity : Activity
  deadline : Option Nat
  timeout : Nat
  sleepEnabled : Bool
  deriving DecidableEq

namespace Lifecycle

def new (timeout : Nat) (sleepEnabled : Bool) : Lifecycle :=
  { activity := .active, deadline := none, timeout, sleepEnabled }

def new? (timeout : Nat) (sleepEnabled : Bool) : Option Lifecycle :=
  if timeout ≤ Limits.maxDuration then some (new timeout sleepEnabled) else none

def ofSettings (settings : Settings) : Lifecycle :=
  new settings.quietTime settings.sleepEnabled

def isSuspended (lifecycle : Lifecycle) : Bool := decide (lifecycle.activity = .suspended)

/-- Takes new values. A deadline that is armed stays where it is. -/
def configure (lifecycle : Lifecycle) (timeout : Nat) (sleepEnabled : Bool) : Lifecycle :=
  { lifecycle with timeout, sleepEnabled }

def configure? (lifecycle : Lifecycle) (timeout : Nat) (sleepEnabled : Bool) :
    Option Lifecycle :=
  if timeout ≤ Limits.maxDuration then some (lifecycle.configure timeout sleepEnabled) else none

def rearm (lifecycle : Lifecycle) (now : Nat) : Lifecycle :=
  { lifecycle with deadline := some (now + lifecycle.timeout) }

/-- Arms the deadline if it is an instant that the clock can show. -/
def rearm? (lifecycle : Lifecycle) (now : Nat) : Option Lifecycle :=
  if now + lifecycle.timeout ≤ Limits.maxInstant then some (lifecycle.rearm now) else none

def disarm (lifecycle : Lifecycle) : Lifecycle := { lifecycle with deadline := none }

def isDue (lifecycle : Lifecycle) (now : Nat) : Bool :=
  match lifecycle.deadline with
  | some deadline => decide (deadline ≤ now)
  | none => false

/-- The first half of a check. Without an outcome the radio is to be taken down,
and `endCheck` follows. A deadline that has come is used up. -/
def startCheck (lifecycle : Lifecycle) (now : Nat) (links : Links) :
    Option CheckOutcome × Lifecycle :=
  match lifecycle.activity with
  | .suspended => (some .alreadySuspended, lifecycle.disarm)
  | .active =>
    if lifecycle.isDue now then
      match links.hold? lifecycle.sleepEnabled with
      | some reason => (some (.inert reason), lifecycle.disarm)
      | none => (none, { lifecycle.disarm with activity := .suspended })
    else (some .notDue, lifecycle)

def endCheck (lifecycle : Lifecycle) : Option RadioFault → CheckOutcome × Lifecycle
  | none => (.suspended, lifecycle)
  | some cause => (.tearDownFailed cause, { lifecycle with activity := .active })

/-- The first half of a resume. Without a new state the radio is up already. -/
def startResume (lifecycle : Lifecycle) : Option Lifecycle :=
  match lifecycle.activity with
  | .active => none
  | .suspended => some { lifecycle with activity := .active }

def endResume (lifecycle : Lifecycle) : Option RadioFault → Except Fault Unit × Lifecycle
  | none => (.ok (), lifecycle)
  | some cause => (.error (.radio cause), { lifecycle with activity := .suspended })

def check (lifecycle : Lifecycle) (radio : Radio) (now : Nat) (links : Links) :
    CheckOutcome × Lifecycle × Radio :=
  match lifecycle.startCheck now links with
  | (some outcome, next) => (outcome, next, radio)
  | (none, next) =>
    let (failure, called) := radio.call .tearDown
    let (outcome, last) := next.endCheck failure
    (outcome, last, called)

/-- A whole resume, with nothing inside the call of the radio. It says whether
the radio was brought up. -/
def resume (lifecycle : Lifecycle) (radio : Radio) : Except Fault Bool × Lifecycle × Radio :=
  match lifecycle.startResume with
  | none => (.ok false, lifecycle, radio)
  | some next =>
    let (failure, called) := radio.call .bringUp
    let (result, last) := next.endResume failure
    (result.map (fun _ => true), last, called)

end Lifecycle

end HidBridge
