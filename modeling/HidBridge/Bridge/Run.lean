/-
Runs of a bridge: steps are taken one after another, the tasks run after each of
them, and what can be seen from outside is recorded.

Steps put aside are taken inside calls of the radio, also inside calls that such
steps make. Each call uses up steps put aside, so calls lie inside each other
only as deep as there are steps to put aside.
-/

import HidBridge.Bridge.Background

namespace HidBridge

namespace World

def setLinks (world : World) (usbDevice blePeer prioritySession : Option Bool) : World :=
  { world with
    links :=
      { usbDevice := usbDevice.getD world.links.usbDevice
        blePeer := blePeer.getD world.links.blePeer
        prioritySession := prioritySession.getD world.links.prioritySession } }

def setFailure (world : World) (operation : RadioOperation) :
    Option (Option RadioFault) → World
  | none => world
  | some failure => { world with radio := world.radio.setFailure failure operation }

def take (world : World) (inside : Interlude) : Step → Answer × World
  | .connect interfaceId descriptor =>
    let (result, next) := world.connect interfaceId descriptor
    (.ofUnit result, next)
  | .report interfaceId reportId payload =>
    let (result, next) := world.submit interfaceId reportId payload
    (.ofUnit result, next)
  | .disconnect interfaceId => (.done, world.disconnect interfaceId)
  | .pump => world.pump inside
  | .apply key value =>
    let (result, next) := world.apply key value
    (.ofUnit result, next)
  | .settings => (.settings world.bridge.settings, world)
  | .activity =>
    let (result, next) := world.activity
    (.ofResult .activity result, next)
  | .check ahead =>
    let (result, next) := world.check inside (world.clock + ahead)
    (.ofResult .checked result, next)
  | .rearm ahead =>
    let (result, next) := world.rearm (world.clock + ahead)
    (.ofUnit result, next)
  | .converter interfaceId reportId =>
    (.converter (world.session.cached? interfaceId reportId) world.session.sensitivity
      world.bridge.converter.sensitivity, world)
  | .links usbDevice blePeer prioritySession =>
    (.nothing, world.setLinks usbDevice blePeer prioritySession)
  | .failures bringUp tearDown send =>
    (.nothing,
      ((world.setFailure .bringUp bringUp).setFailure .tearDown tearDown).setFailure .send send)
  | .advance time => (.nothing, (world.wait time).settle inside)
  | .spawn task => (.nothing, world.spawn task)
  | .during operation steps =>
    (.nothing, { world with pending := world.pending ++ [{ operation, steps }] })

def note (world : World) (step : Step) (answer : Answer) : World :=
  { world with
    nested :=
      world.nested ++
        [{ step
           answer
           clock := world.clock
           bridge := world.bridge
           radio := world.radio
           timer := world.timer }] }

def takeNested (world : World) (inside : Interlude) (step : Step) : World :=
  let (answer, next) := world.take inside step
  next.note step answer

/-- The steps put aside for the next call of an operation, those put aside first
coming first. -/
def takePending (world : World) (operation : RadioOperation) : Option (List Step × World) :=
  let isFor := fun pending : Pending => decide (pending.operation = operation)
  (world.pending.find? isFor).map (fun pending =>
    (pending.steps, { world with pending := world.pending.eraseP isFor }))

/-- What happens inside a call of the radio, with calls inside each other at most
as deep as given. -/
def interlude : (depth : Nat) → Interlude
  | 0 => fun _ world => world
  | depth + 1 => fun operation world =>
    match world.takePending operation with
    | none => world
    | some (steps, next) =>
      steps.foldl (fun current step => current.takeNested (interlude depth) step) next

end World

structure Observation where
  answer : Answer
  clock : Nat
  activity : Activity
  paused : Bool
  hasDevices : Bool
  counters : Counters
  bringUps : Nat
  tearDowns : Nat
  sends : Nat
  sent : List Output.Message
  nested : List NestedAnswer

namespace World

/-- What can be seen now, after `seen` events of the radio had been seen. -/
def observe (world : World) (answer : Answer) (seen : Nat) : Observation :=
  { answer
    clock := world.clock
    activity := world.bridge.lifecycle.activity
    paused := world.links.outputPaused world.bridge.suspended
    hasDevices := world.bridge.intake.hasDevices
    counters := world.bridge.intake.counters
    bringUps := world.radio.calls .bringUp
    tearDowns := world.radio.calls .tearDown
    sends := world.radio.calls .send
    sent := (world.radio.events.drop seen).filterMap RadioEvent.sent?
    nested := world.nested }

def advanceBy (world : World) (inside : Interlude) (step : Step) : Observation × World :=
  let (answer, next) := { world with nested := [] }.take inside step
  let settled := next.settle inside
  (settled.observe answer world.radio.events.length, settled)

def runWith (inside : Interlude) : World → List Step → List Observation
  | _, [] => []
  | world, step :: rest =>
    let (observation, next) := world.advanceBy inside step
    observation :: next.runWith inside rest

/-- Takes steps one after another, those put aside inside calls of the radio. -/
def run (world : World) (steps : List Step) : List Observation :=
  world.runWith (interlude (Step.totalWeight steps)) steps

end World

end HidBridge
