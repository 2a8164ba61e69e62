/-
The layouts of the attached interfaces. Each set of layouts that is stored gets
a generation of its own, so layouts that replace others can be told from them.
-/

import HidBridge.Descriptor.Declarations
import HidBridge.Fault
import HidBridge.Conversion.Converter

namespace HidBridge

structure Attached where
  generation : Nat
  interface : Interface
  deriving DecidableEq

def Attached.isFor (entry : Attached) (interfaceId : InterfaceId) : Bool :=
  entry.interface.id == interfaceId

structure Table where
  entries : List Attached
  nextGeneration : Nat
  deriving DecidableEq

namespace Table

def empty : Table := { entries := [], nextGeneration := 1 }

/-- Generations are numbers of 32 bits, and zero is never one. -/
def succGeneration (generation : Nat) : Nat :=
  if generation + 1 ≤ Limits.maxUInt32 then generation + 1 else 1

def store (table : Table) (entries : List Attached) : Table :=
  { entries, nextGeneration := succGeneration table.nextGeneration }

/-- Stores layouts in place of those of the same interface, and gives the
generation that they get. -/
def insert (table : Table) (interface : Interface) : Except Fault Nat × Table :=
  let entry : Attached := { generation := table.nextGeneration, interface }
  if table.entries.any (fun old => old.isFor interface.id) then
    (.ok table.nextGeneration,
      table.store (table.entries.map (fun old => if old.isFor interface.id then entry else old)))
  else if table.entries.length < Limits.interfaces then
    (.ok table.nextGeneration, table.store (table.entries ++ [entry]))
  else (.error .interfaceTableFull, table)

def remove (table : Table) (interfaceId : InterfaceId) : Bool × Table :=
  (table.entries.any (fun entry => entry.isFor interfaceId),
    { table with entries := table.entries.filter (fun entry => !entry.isFor interfaceId) })

def get? (table : Table) (interfaceId : InterfaceId) : Option Attached :=
  table.entries.find? (fun entry => entry.isFor interfaceId)

def size (table : Table) : Nat := table.entries.length

def isEmpty (table : Table) : Bool := table.entries.isEmpty

def summary? (table : Table) (interfaceId : InterfaceId) (reportId : ReportId) :
    Option Summary :=
  match table.get? interfaceId with
  | none => none
  | some entry =>
    (entry.interface.input? reportId).map (fun layout =>
      { generation := entry.generation
        reportClass := layout.classify
        fieldCount := layout.fields.length })

def lookup (table : Table) : Lookup :=
  { generation := fun interfaceId => (table.get? interfaceId).map Attached.generation
    summary := table.summary? }

end Table

end HidBridge
