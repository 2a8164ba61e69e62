/-
What the main items of a descriptor declare. An input or output item declares
fields of a report; what they are depends on the items before it. Feature items
declare nothing.
-/

import HidBridge.Descriptor.Context
import HidBridge.Layout.Basic

namespace HidBridge

namespace Descriptor

/-- The product of two numbers, or the largest number of 32 bits if it is more. -/
def boundedProduct (left right : Nat) : Nat := min (left * right) Limits.maxUInt32

/-- Data in units too wide to be read are padding. -/
def effectiveFlags (flags : Flags) (unitSize : Nat) : Flags :=
  if Limits.readableBits < unitSize ∧ flags.isConstant = false then .padding else flags

/-- What an item with these flags asks to append. Padding is one block, and so is
an array with a range. A variable item with a range has one field for each usage
of the range, and any further units are unused. Every other item has one field
for each unit. -/
def emission (flags : Flags) (globals : Globals) (locals : Locals) : Emission :=
  let size := globals.unitSize
  let count := globals.unitCount
  let unit : Field :=
    { page := globals.page
      usage := 0
      usageMaximum := 0
      unitSize := min size Limits.maxUInt16
      unitCount := 1
      logicalMinimum := globals.logicalMinimum
      logicalMaximum := globals.logicalMaximum
      flags
      offset := 0
      width := 0 }
  let oneUsage := fun usage : Nat => { unit with usage, usageMaximum := usage }
  if flags.isConstant then
    .block
      { unit with
        unitCount := min count Limits.maxUInt16
        logicalMinimum := 0
        logicalMaximum := 0
        flags := .padding }
      (boundedProduct size count)
  else if locals.hasRange then
    if flags.isArray then
      .block
        { unit with
          usage := locals.usageMinimum
          usageMaximum := locals.usageMaximum
          unitCount := min count Limits.maxUInt16 }
        (boundedProduct size count)
    else
      let used := min count locals.rangeLength
      .units used size (fun index => oneUsage (locals.usageMinimum + index))
        (boundedProduct (count - used) size)
  else .units count size (fun index => oneUsage (locals.usageOf index)) 0

def ShortItem.direction? (item : ShortItem) : Option Direction :=
  match item.kind, item.tag with
  | .mainItem, 0x8 => some .input
  | .mainItem, 0x9 => some .output
  | _, _ => none

namespace Context

def declaration (context : Context) (direction : Direction) (data : Nat) : Declaration :=
  { reportId := context.globals.reportId
    direction
    application := context.nesting.application?
    emission :=
      emission (effectiveFlags (.ofData data) context.globals.unitSize) context.globals
        context.locals }

/-- What an item declares, if it declares anything. Without data there is nothing
to declare. -/
def declared? (context : Context) (item : ShortItem) : Option Declaration :=
  if context.globals.unitSize = 0 ∨ context.globals.unitCount = 0 then none
  else item.direction?.map (fun direction => context.declaration direction item.data)

def declarations : Context → List ShortItem → List Declaration
  | _, [] => []
  | context, item :: rest =>
    match context.declared? item with
    | some declaration => declaration :: (context.take item).declarations rest
    | none => (context.take item).declarations rest

end Context

def ShortItem.namesReport (item : ShortItem) : Bool :=
  decide (item.kind = .globalItem) && item.tag == 0x8 && UInt8.ofNat item.data != 0

end Descriptor

/-- The layouts that items give to an interface. If any of them gives a report a
number, every transfer starts with the number of its report. -/
def Interface.ofItems (id : InterfaceId) (items : List Descriptor.ShortItem) : Interface :=
  (Descriptor.Context.initial.declarations items).foldl Interface.declare
    (.empty id (items.any Descriptor.ShortItem.namesReport))

/-- The layouts that a descriptor gives to an interface. Every sequence of bytes
is a descriptor. -/
def Interface.ofDescriptor (id : InterfaceId) (bytes : List UInt8) : Interface :=
  .ofItems id (Descriptor.shortItems bytes)

end HidBridge
