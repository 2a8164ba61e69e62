/-
The usages that a report selects on a page, and the reports that the radio would
send for it: one composed as a keyboard report and one composed as a mouse report.

A unit of an array selects the usage that its index stands for; any other field
selects its own usage when its value is not zero.
-/

import HidBridge.Conversion.Class
import HidBridge.Output.Message
import HidBridge.Report

namespace HidBridge

/-- The usage that an index of an array stands for. Index zero stands for
nothing, and so does an index outside the logical bounds or past the last usage.
Bounds in the wrong order do not limit the index from above. -/
def Field.indexed? (field : Field) (index : Nat) : Option Nat :=
  let number : Int := index
  if index = 0 then none
  else if number < field.logicalMinimum then none
  else if field.logicalMinimum ≤ field.logicalMaximum ∧ field.logicalMaximum < number then none
  else
    let usage : Int := field.usage + (number - field.logicalMinimum)
    if usage ≤ field.usageMaximum then some usage.toNat else none

def Field.unitUsage? (field : Field) (payload : List UInt8) (unit : Nat) : Option Nat :=
  (field.unitOffset? unit).bind (fun offset =>
    field.indexed? (Bits.unsigned payload offset field.unitSize))

def Field.arrayUsages (field : Field) (payload : List UInt8) : List Nat :=
  (List.range field.unitCount).filterMap (field.unitUsage? payload)

namespace Sample

/-- An array over several usages selects by its indices. -/
def selectsByIndex (sample : Sample) : Bool :=
  sample.field.isUsageArray && sample.field.usage != sample.field.usageMaximum

def usages (sample : Sample) (payload : List UInt8) : List Nat :=
  if sample.selectsByIndex then sample.field.arrayUsages payload
  else if sample.value ≠ 0 then [sample.field.usage]
  else []

def isDataOn (sample : Sample) (page : Page) : Bool :=
  !sample.field.flags.isConstant && sample.field.isOn page

end Sample

namespace Report

def selected (report : Report) (page : Page) : List Nat :=
  (report.samples.filter (fun sample => sample.isDataOn page)).flatMap
    (fun sample => sample.usages report.payload)

/-- The value of the last field of data that `wanted` accepts, or zero. -/
def lastValue (report : Report) (page : Page) (wanted : Nat → Bool) : Int :=
  match
    (report.samples.filter
      (fun sample => sample.isDataOn page && wanted sample.field.usage)).getLast? with
  | some sample => sample.value
  | none => 0

def desktopValue (report : Report) (usage : Desktop) : Int :=
  report.lastValue .genericDesktop (fun code => decide (Desktop.ofCode code = usage))

def panValue (report : Report) : Int :=
  report.lastValue .consumer (fun code => code == Usage.acPan)

end Report

/-! ### Composing -/

/-- Mouse sensitivity is in percent. -/
abbrev unscaled : Nat := 100

/-- Scales a movement, and drops what is left of a step toward zero. -/
def scaleMovement (sensitivity : Nat) (movement : Int) : Int :=
  if sensitivity = unscaled then movement
  else
    Output.Mouse.clamp (-0x80000000) 0x7FFFFFFF ((movement * sensitivity).tdiv unscaled)

namespace Report

def toKeyboard (report : Report) : Output.Keyboard :=
  Output.Keyboard.empty.pressAll (report.selected .keyboard)

/-- The wheels are never scaled. -/
def toMouse (report : Report) (sensitivity : Nat) : Output.Mouse :=
  { Output.Mouse.empty.pressAll (report.selected .button) with
    x := Output.Mouse.clampAxis (scaleMovement sensitivity (report.desktopValue .x))
    y := Output.Mouse.clampAxis (scaleMovement sensitivity (report.desktopValue .y))
    wheel := Output.Mouse.clampWheel (report.desktopValue .wheel)
    pan := Output.Mouse.clampWheel report.panValue }

def compose (report : Report) (sensitivity : Nat) : ReportClass → Option Output.Message
  | .keyboard => some (.keyboard report.toKeyboard)
  | .mouse => some (.mouse (report.toMouse sensitivity))
  | .unsupported => none

end Report

end HidBridge
