/-
What the items of a descriptor say before a main item uses it: values that hold
until they are changed, values that hold for one main item only, and the
collections that are open. Items that are not known say nothing.
-/

import HidBridge.Descriptor.Item
import HidBridge.Limits
import HidBridge.Usage

namespace HidBridge.Descriptor

structure Globals where
  page : Nat
  logicalMinimum : Int
  logicalMaximum : Int
  unitSize : Nat
  unitCount : Nat
  reportId : UInt8
  deriving DecidableEq

namespace Globals

def initial : Globals :=
  { page := 0, logicalMinimum := 0, logicalMaximum := 0, unitSize := 0, unitCount := 0,
    reportId := 0 }

def take (globals : Globals) (item : ShortItem) : Globals :=
  match item.tag with
  | 0x0 => { globals with page := item.data % 0x10000 }
  | 0x1 => { globals with logicalMinimum := item.signed }
  | 0x2 => { globals with logicalMaximum := item.signed }
  | 0x7 => { globals with unitSize := item.data }
  | 0x8 => { globals with reportId := UInt8.ofNat item.data }
  | 0x9 => { globals with unitCount := item.data }
  | _ => globals

end Globals

/-- Values that hold for one main item, except `current`, the usage declared
last, which outlives it. -/
structure Locals where
  usages : List Nat
  current : Nat
  usageMinimum : Nat
  usageMaximum : Nat
  hasRange : Bool
  deriving DecidableEq

namespace Locals

def initial : Locals :=
  { usages := [], current := 0, usageMinimum := 0, usageMaximum := 0, hasRange := false }

def reset (locals : Locals) : Locals :=
  { initial with current := locals.current }

/-- A usage past the last place is not listed, but is still the current one. -/
def addUsage (locals : Locals) (usage : Nat) : Locals :=
  { locals with
    usages :=
      if locals.usages.length < Limits.usages then locals.usages ++ [usage] else locals.usages
    current := usage }

def take (locals : Locals) (item : ShortItem) : Locals :=
  let usage := item.data % 0x10000
  match item.tag with
  | 0x0 => locals.addUsage usage
  | 0x1 => { locals with usageMinimum := usage, hasRange := true }
  | 0x2 => { locals with usageMaximum := usage, hasRange := true }
  | _ => locals

/-- The usage of one unit of an item without a range: the listed one, or the last
of the list, or the current one where nothing is listed. -/
def usageOf (locals : Locals) (unit : Nat) : Nat :=
  match locals.usages[unit]? with
  | some usage => usage
  | none => locals.usages.getLast?.getD locals.current

/-- Usages in the range. A range that ends before it begins has one. -/
def rangeLength (locals : Locals) : Nat :=
  locals.usageMaximum - locals.usageMinimum + 1

end Locals

structure Collection where
  kind : Nat
  usage : Usage
  deriving DecidableEq

def Collection.application : Nat := 1

/-- The open collections, innermost first, as far as they are remembered, and
the number of those inside them that are not. -/
structure Nesting where
  remembered : List Collection
  deeper : Nat
  deriving DecidableEq

namespace Nesting

def initial : Nesting := { remembered := [], deeper := 0 }

def enter (nesting : Nesting) (collection : Collection) : Nesting :=
  if nesting.remembered.length < Limits.collectionDepth then
    { nesting with remembered := collection :: nesting.remembered }
  else { nesting with deeper := nesting.deeper + 1 }

def leave (nesting : Nesting) : Nesting :=
  if 0 < nesting.deeper then { nesting with deeper := nesting.deeper - 1 }
  else { nesting with remembered := nesting.remembered.tail }

def application? (nesting : Nesting) : Option Usage :=
  (nesting.remembered.find? (fun collection => collection.kind == Collection.application)).map
    Collection.usage

end Nesting

structure Context where
  globals : Globals
  locals : Locals
  nesting : Nesting
  deriving DecidableEq

namespace Context

def initial : Context := { globals := .initial, locals := .initial, nesting := .initial }

def collection (context : Context) (kind : Nat) : Collection :=
  { kind, usage := { page := context.globals.page, code := context.locals.usageOf 0 } }

def nest (context : Context) (item : ShortItem) : Nesting :=
  match item.tag with
  | 0xA => context.nesting.enter (context.collection item.data)
  | 0xC => context.nesting.leave
  | _ => context.nesting

def take (context : Context) (item : ShortItem) : Context :=
  match item.kind with
  | .mainItem => { context with nesting := context.nest item, locals := context.locals.reset }
  | .globalItem => { context with globals := context.globals.take item }
  | .localItem => { context with locals := context.locals.take item }
  | .reserved => context

end Context

end HidBridge.Descriptor
