/-
What an input report carries, judged by the usages of its data fields and by the
application that it belongs to.
-/

import HidBridge.Layout.Basic

namespace HidBridge

inductive ReportClass where
  | keyboard
  | mouse
  | unsupported
  deriving DecidableEq

namespace Layout

def desktopApplication? (layout : Layout) : Option Desktop :=
  match layout.application with
  | some usage =>
    if Page.ofCode usage.page = .genericDesktop then some (.ofCode usage.code) else none
  | none => none

def inKeyboard (layout : Layout) : Bool :=
  match layout.desktopApplication? with
  | some .keyboard => true
  | some .keypad => true
  | _ => false

def inPointer (layout : Layout) : Bool :=
  layout.application.isNone ||
    match layout.desktopApplication? with
    | some .mouse => true
    | some .pointer => true
    | _ => false

def dataFields (layout : Layout) : List Field :=
  layout.fields.filter (fun field => !field.flags.isConstant)

end Layout

namespace Field

def isOn (field : Field) (page : Page) : Bool := decide (Page.ofCode field.page = page)

def isAxis (field : Field) : Bool :=
  field.isOn .genericDesktop &&
    match Desktop.ofCode field.usage with
    | .x => true
    | .y => true
    | .wheel => true
    | _ => false

end Field

/-- Keys make a keyboard, whatever else is there. Without keys, axes make a
mouse. Buttons count as one or the other by their application. -/
def Layout.classify (layout : Layout) : ReportClass :=
  let fields := layout.dataFields
  let hasKeys := fields.any (fun field => field.isOn .keyboard)
  let hasButtons := fields.any (fun field => field.isOn .button)
  let hasAxes := fields.any Field.isAxis
  if hasKeys || (hasButtons && layout.inKeyboard) then .keyboard
  else if hasAxes || (hasButtons && layout.inPointer) then .mouse
  else .unsupported

end HidBridge
