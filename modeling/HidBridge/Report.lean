/-
A report as the bridge hands it on: the fields of its layout with their values,
and the payload they were read from. It holds all that is needed later, also
when the layout has been replaced meanwhile.
-/

import HidBridge.Bits
import HidBridge.Fault
import HidBridge.Layout.Basic

namespace HidBridge

structure Sample where
  field : Field
  value : Int
  deriving DecidableEq

structure Report where
  interfaceId : InterfaceId
  reportId : ReportId
  generation : Nat
  samples : List Sample
  payload : List UInt8
  deriving DecidableEq

def Field.sample (field : Field) (payload : List UInt8) : Sample :=
  { field, value := Bits.signed payload field.offset field.width }

def Layout.read (layout : Layout) (interfaceId : InterfaceId) (generation : Nat)
    (payload : List UInt8) : Except Fault Report :=
  if Limits.reportBytes < payload.length then .error .reportTooLong
  else
    .ok
      { interfaceId
        reportId := layout.reportId
        generation
        samples := layout.fields.map (fun field => field.sample payload)
        payload }

def Report.find? (report : Report) (usage : Usage) : Option Sample :=
  report.samples.find? (fun sample =>
    sample.field.page == usage.page && sample.field.covers usage.code &&
      !sample.field.flags.isConstant)

end HidBridge
