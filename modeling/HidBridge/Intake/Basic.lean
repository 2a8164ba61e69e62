/-
The way of a report from a device into the queue: it is read with the layouts of
its interface and waits for the consumer. Every submission moves exactly one of
three counters.
-/

import HidBridge.Intake.Table
import HidBridge.Report

namespace HidBridge

structure Counters where
  decoded : Nat
  dropped : Nat
  unknown : Nat
  deriving DecidableEq

namespace Counters

def zero : Counters := { decoded := 0, dropped := 0, unknown := 0 }

/-- Counters have 32 bits and start over after their largest number. -/
def succ (count : Nat) : Nat := (count + 1) % 0x100000000

def addDecoded (counters : Counters) : Counters :=
  { counters with decoded := succ counters.decoded }

def addDropped (counters : Counters) : Counters :=
  { counters with dropped := succ counters.dropped }

def addUnknown (counters : Counters) : Counters :=
  { counters with unknown := succ counters.unknown }

end Counters

structure Intake where
  table : Table
  queue : List Report
  depth : Nat
  counters : Counters
  deriving DecidableEq

namespace Intake

def empty (depth : Nat) : Intake :=
  { table := .empty, queue := [], depth, counters := .zero }

def connect (intake : Intake) (interfaceId : InterfaceId) (descriptor : List UInt8) :
    Except Fault Nat × Intake :=
  let (result, table) := intake.table.insert (.ofDescriptor interfaceId descriptor)
  (result, { intake with table })

/-- Reports that wait are not affected. -/
def disconnect (intake : Intake) (interfaceId : InterfaceId) : Bool × Intake :=
  let (found, table) := intake.table.remove interfaceId
  (found, { intake with table })

def read (intake : Intake) (interfaceId : InterfaceId) (reportId : ReportId)
    (payload : List UInt8) : Except Fault Report :=
  match intake.table.get? interfaceId with
  | none => .error .unknownInterface
  | some entry =>
    match entry.interface.input? reportId with
    | none => .error .unknownReport
    | some layout => layout.read interfaceId entry.generation payload

def decode (intake : Intake) (interfaceId : InterfaceId) (reportId : ReportId)
    (payload : List UInt8) : Except Fault Report × Intake :=
  match intake.read interfaceId reportId payload with
  | .ok report => (.ok report, intake)
  | .error fault => (.error fault, { intake with counters := intake.counters.addUnknown })

def enqueue (intake : Intake) (report : Report) : Except Fault Unit × Intake :=
  if intake.queue.length < intake.depth then
    (.ok (),
      { intake with
        queue := intake.queue ++ [report]
        counters := intake.counters.addDecoded })
  else (.error .queueFull, { intake with counters := intake.counters.addDropped })

def submit (intake : Intake) (interfaceId : InterfaceId) (reportId : ReportId)
    (payload : List UInt8) : Except Fault Unit × Intake :=
  match intake.decode interfaceId reportId payload with
  | (.ok report, next) => next.enqueue report
  | (.error fault, next) => (.error fault, next)

def submitTransfer (intake : Intake) (interfaceId : InterfaceId) (transfer : List UInt8) :
    Except Fault Unit × Intake :=
  match intake.table.get? interfaceId with
  | none => (.error .unknownInterface, { intake with counters := intake.counters.addUnknown })
  | some entry =>
    let (reportId, payload) := entry.interface.split transfer
    intake.submit interfaceId reportId payload

def receive (intake : Intake) : Option (Report × Intake) :=
  match intake.queue with
  | [] => none
  | report :: rest => some (report, { intake with queue := rest })

def hasDevices (intake : Intake) : Bool := !intake.table.isEmpty

/-- How long a submission has waited. A full queue stays full while a producer
waits, so only a report that is dropped in the end has waited. -/
def waited : Except Fault Unit → Nat
  | .error .queueFull => Limits.enqueueWait * Limits.millisecond
  | _ => 0

end Intake

end HidBridge
