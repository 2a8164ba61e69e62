/-
The layout of one report in one direction: its fields in the order in which the
descriptor declares them, without overlap, and the number of bits up to the end
of the last one. A field says which usages it stands for, how its data are divided
into units, and where it lies in the payload.

A declaration asks for one field as a block, or for several fields of one unit
each. Fields are appended one by one; the first that does not fit ends it. An
interface has at most one layout for each report number and direction, in the order
in which the descriptor first uses them.
-/

import HidBridge.Limits
import HidBridge.Usage

namespace HidBridge

/-! ### One field -/

structure Flags where
  isConstant : Bool
  isVariable : Bool
  isRelative : Bool
  isArray : Bool
  deriving DecidableEq

namespace Flags

def padding : Flags :=
  { isConstant := true, isVariable := false, isRelative := false, isArray := false }

def ofData (data : Nat) : Flags :=
  { isConstant := data.testBit 0
    isVariable := data.testBit 1
    isRelative := data.testBit 2
    isArray := !data.testBit 1 }

end Flags

structure Field where
  page : Nat
  /-- The usage, or the first usage of an array. Padding has usage 0. -/
  usage : Nat
  usageMaximum : Nat
  unitSize : Nat
  unitCount : Nat
  logicalMinimum : Int
  logicalMaximum : Int
  flags : Flags
  offset : Nat
  width : Nat
  deriving DecidableEq

namespace Field

def isUsageArray (field : Field) : Bool :=
  field.flags.isArray && !field.flags.isConstant

def covers (field : Field) (usage : Nat) : Bool :=
  decide (field.usage ≤ usage) && decide (usage ≤ field.usageMaximum)

/-- Units that lie at bits the field table cannot address have no offset. -/
def unitOffset? (field : Field) (index : Nat) : Option Nat :=
  let start := index * field.unitSize
  if start ≤ Limits.maxUInt16 ∧ field.offset + start ≤ Limits.maxUInt16 then
    some (field.offset + start)
  else none

end Field

/-! ### One report -/

abbrev InterfaceId := UInt8

/-- The number that names a report within its interface; 0 where reports are not
named. -/
abbrev ReportId := UInt8

inductive Direction where
  | input
  | output
  deriving DecidableEq

structure Layout where
  reportId : ReportId
  direction : Direction
  fields : List Field
  bits : Nat
  application : Option Usage
  deriving DecidableEq

inductive Emission where
  | block (field : Field) (bits : Nat)
  | units (count unitBits : Nat) (field : Nat → Field) (unusedBits : Nat)

structure Declaration where
  reportId : ReportId
  direction : Direction
  application : Option Usage
  emission : Emission

namespace Layout

def empty (reportId : ReportId) (direction : Direction) (application : Option Usage) : Layout :=
  { reportId, direction, fields := [], bits := 0, application }

def bytes (layout : Layout) : Nat := (layout.bits + 7) / 8

/-- Appends one field at the end of the report. A field that passes the longest
report or finds the field table full changes nothing. -/
def append? (layout : Layout) (field : Field) (bits : Nat) : Option Layout :=
  if layout.bits + bits ≤ Limits.reportBits ∧ layout.fields.length < Limits.reportFields then
    some
      { layout with
        fields := layout.fields ++ [{ field with offset := layout.bits, width := bits }]
        bits := layout.bits + bits }
  else none

/-- Leaves bits unused. The report ends where the longest report does. -/
def skip (layout : Layout) (bits : Nat) : Layout :=
  { layout with bits := min (layout.bits + bits) Limits.reportBits }

/-- Appends the units from `start` on, and says whether all of them fitted. -/
def appendUnits (unitBits : Nat) (field : Nat → Field) :
    (start remaining : Nat) → Layout → Layout × Bool
  | _, 0, layout => (layout, true)
  | start, remaining + 1, layout =>
    match layout.append? (field start) unitBits with
    | none => (layout, false)
    | some longer => appendUnits unitBits field (start + 1) remaining longer

def emit (layout : Layout) : Emission → Layout
  | .block field bits => (layout.append? field bits).getD layout
  | .units count unitBits field unusedBits =>
    match appendUnits unitBits field 0 count layout with
    | (longer, true) => longer.skip unusedBits
    | (longer, false) => longer

def ofDeclaration (declaration : Declaration) : Layout :=
  (empty declaration.reportId declaration.direction declaration.application).emit
    declaration.emission

def serves (layout : Layout) (reportId : ReportId) (direction : Direction) : Bool :=
  layout.reportId == reportId && decide (layout.direction = direction)

end Layout

/-! ### One interface -/

structure Interface where
  id : InterfaceId
  layouts : List Layout
  namesReports : Bool
  deriving DecidableEq

namespace Interface

def empty (id : InterfaceId) (namesReports : Bool) : Interface :=
  { id, layouts := [], namesReports }

/-- The layout of a report. Where reports are not named, every number stands for
the one unnamed report. -/
def layout? (interface : Interface) (reportId : ReportId) (direction : Direction) :
    Option Layout :=
  let wanted := if interface.namesReports then reportId else 0
  interface.layouts.find? (fun layout => layout.serves wanted direction)

def input? (interface : Interface) (reportId : ReportId) : Option Layout :=
  interface.layout? reportId .input

def output? (interface : Interface) (reportId : ReportId) : Option Layout :=
  interface.layout? reportId .output

def fieldCount (interface : Interface) (reportId : ReportId) : Nat :=
  match interface.input? reportId with
  | some layout => layout.fields.length
  | none => 0

def split (interface : Interface) : List UInt8 → ReportId × List UInt8
  | [] => (0, [])
  | first :: rest => if interface.namesReports then (first, rest) else (0, first :: rest)

/-- Appends to the layout of a report, which the first declaration for it
creates. Where every place for a layout is taken, a new report is left out. -/
def declare (interface : Interface) (declaration : Declaration) : Interface :=
  let isWanted := fun layout : Layout =>
    layout.serves declaration.reportId declaration.direction
  if interface.layouts.any isWanted then
    { interface with
      layouts := interface.layouts.map (fun layout =>
        if isWanted layout then layout.emit declaration.emission else layout) }
  else if interface.layouts.length < Limits.layoutsPerInterface then
    { interface with layouts := interface.layouts ++ [.ofDeclaration declaration] }
  else interface

end Interface

end HidBridge
