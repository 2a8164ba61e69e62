/-
The radio as the bridge uses it: three operations, each of which may fail. What
happened is kept as a list of events. Every call begins and ends, and whatever
happens inside a call lies between the two.
-/

import HidBridge.Fault
import HidBridge.Output.Message

namespace HidBridge

inductive RadioOperation where
  | bringUp
  | tearDown
  | send
  deriving DecidableEq

inductive RadioCall where
  | bringUp
  | tearDown
  | send (message : Output.Message)
  deriving DecidableEq

def RadioCall.operation : RadioCall → RadioOperation
  | .bringUp => .bringUp
  | .tearDown => .tearDown
  | .send _ => .send

inductive RadioEvent where
  | began (call : RadioCall)
  | ended (call : RadioCall) (failure : Option RadioFault)
  deriving DecidableEq

structure Radio where
  bringUpFailure : Option RadioFault
  tearDownFailure : Option RadioFault
  sendFailure : Option RadioFault
  events : List RadioEvent
  deriving DecidableEq

namespace Radio

def reliable : Radio :=
  { bringUpFailure := none, tearDownFailure := none, sendFailure := none, events := [] }

def failure (radio : Radio) : RadioOperation → Option RadioFault
  | .bringUp => radio.bringUpFailure
  | .tearDown => radio.tearDownFailure
  | .send => radio.sendFailure

def setFailure (radio : Radio) (failure : Option RadioFault) : RadioOperation → Radio
  | .bringUp => { radio with bringUpFailure := failure }
  | .tearDown => { radio with tearDownFailure := failure }
  | .send => { radio with sendFailure := failure }

def begin (radio : Radio) (call : RadioCall) : Radio :=
  { radio with events := radio.events ++ [.began call] }

/-- A call fails or succeeds by the failures set when it ends. -/
def finish (radio : Radio) (call : RadioCall) : Option RadioFault × Radio :=
  let failure := radio.failure call.operation
  (failure, { radio with events := radio.events ++ [.ended call failure] })

def call (radio : Radio) (call : RadioCall) : Option RadioFault × Radio :=
  (radio.begin call).finish call

/-- Calls of one operation that have begun. -/
def calls (radio : Radio) (operation : RadioOperation) : Nat :=
  radio.events.countP (fun event =>
    match event with
    | .began call => decide (call.operation = operation)
    | .ended _ _ => false)

end Radio

def RadioEvent.sent? : RadioEvent → Option Output.Message
  | .ended (.send message) none => some message
  | _ => none

def Radio.sent (radio : Radio) : List Output.Message := radio.events.filterMap RadioEvent.sent?

end HidBridge
