/-
The tasks that run beside the steps. A task runs until it has to wait; then its
stage says what it waits for. Where it waits for the lock, it gets the lock as
soon as it finds it free, and gives up once its limit has come.
-/

import HidBridge.Bridge.Operations

namespace HidBridge.World

def setConsumer (world : World) (stage : ConsumerStage) : World :=
  { world with consumer := { world.consumer with stage } }

def setTimer (world : World) (timer : TimerStage) : World := { world with timer }

def limit (world : World) (milliseconds : Nat) : Nat :=
  world.clock + milliseconds * Limits.millisecond

def consumerDeliver (world : World) (inside : Interlude) (report : Report) : World :=
  let (result, next) := (world.setConsumer .busy).deliver inside .consumer report
  if next.pushesBack result then
    if next.bridge.locked then
      next.setConsumer (.awaitingRearm next.clock (next.limit Limits.lockWait))
    else (next.armDeadline next.clock).setConsumer .receiving
  else next.setConsumer .receiving

def consumerResume (world : World) (inside : Interlude) (report : Report) : World :=
  match (world.setConsumer .busy).resumeRadio inside with
  | (.ok _, next) => next.consumerDeliver inside report
  | (.error _, next) => next.setConsumer .receiving

def consumerProcess (world : World) (inside : Interlude) (report : Report) : World :=
  if world.bridge.suspended then
    if world.bridge.locked then
      world.setConsumer (.awaitingRadio report (world.limit Limits.lockWait))
    else world.consumerResume inside report
  else world.consumerDeliver inside report

/-- One turn of the consumer task. A turn of a task that has to wait changes
nothing. -/
def consumerTurn (world : World) (inside : Interlude) : World :=
  match world.consumer.stage with
  | .absent => world
  | .busy => world
  | .receiving =>
    match world.bridge.intake.receive with
    | none => world
    | some (report, intake) => (world.setIntake intake).consumerProcess inside report
  | .awaitingRadio report limit =>
    if !world.bridge.locked then world.consumerResume inside report
    else if limit ≤ world.clock then world.setConsumer .receiving
    else world
  | .awaitingRearm asOf limit =>
    if !world.bridge.locked then (world.armDeadline asOf).setConsumer .receiving
    else if limit ≤ world.clock then world.setConsumer .receiving
    else world

/-- Reports that the tasks may still come to handle at this instant, and radio
calls that may still be filled with steps. -/
def workload (world : World) : Nat :=
  world.bridge.intake.queue.length + Pending.totalWeight world.pending

def runConsumer (world : World) (inside : Interlude) : World :=
  Nat.repeat (fun current => current.consumerTurn inside) (world.workload + 2) world

/-- The timer task reads the deadline and waits for it. What was said about the
deadline before is then known. -/
def timerRead (world : World) : World :=
  if world.bridge.locked then
    world.setTimer (.awaitingRead (world.limit Limits.timerLockWait))
  else
    { world with
      timer := .waiting world.bridge.lifecycle.deadline
      bridge := { world.bridge with deadlineMoved := false } }

def timerHear (world : World) : World :=
  if world.bridge.deadlineMoved then
    timerRead { world with bridge := { world.bridge with deadlineMoved := false } }
  else world

def timerCheck (world : World) (inside : Interlude) (asOf : Nat) : World :=
  if world.bridge.locked then
    world.setTimer (.awaitingCheck asOf (world.limit Limits.timerLockWait))
  else ((world.setTimer .busy).checkDeadline inside asOf).2.timerRead

def runTimer (world : World) (inside : Interlude) : World :=
  match world.timer with
  | .absent => world
  | .busy => world
  | .starting => world.timerRead
  | .awaitingRead limit =>
    if !world.bridge.locked then world.timerRead
    else if limit ≤ world.clock then
      world.setTimer (.backingOff (world.limit Limits.timerLockWait))
    else world
  | .backingOff retry => if retry ≤ world.clock then world.timerRead else world
  | .waiting none => world.timerHear
  | .waiting (some deadline) =>
    if deadline ≤ world.clock then world.timerCheck inside world.clock else world.timerHear
  | .awaitingCheck asOf limit =>
    if !world.bridge.locked then world.timerCheck inside asOf
    else if limit ≤ world.clock then world.timerRead
    else world

/-- Both tasks run, the consumer first, until neither can go on at the present
instant. Handling a report may move the deadline, and a deadline that has come
may fill the queue, which the workload bounds. -/
def settle (world : World) (inside : Interlude) : World :=
  Nat.repeat (fun current => (current.runConsumer inside).runTimer inside)
    (4 * (world.workload + 2)) world

def spawn (world : World) : Task → World
  | .consumer =>
    { world with consumer := { stage := .receiving, converter := world.bridge.converter } }
  | .timer => { world with timer := .starting }

end HidBridge.World
