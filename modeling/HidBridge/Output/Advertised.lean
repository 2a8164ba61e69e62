/-
The report descriptor that the radio shows to its host: a mouse as report 1, and
a keyboard with five lights as report 2. It is given as items, and the host is
shown their bytes.
-/

import HidBridge.Descriptor.Item

namespace HidBridge.Output.Advertised

open Descriptor

def mouseReportId : UInt8 := 1

def keyboardReportId : UInt8 := 2

def usagePage (page : Nat) : ShortItem := ⟨.globalItem, 0x0, .one, page⟩

def logicalMinimum (width : Width) (number : Int) : ShortItem :=
  ⟨.globalItem, 0x1, width, Words.unsigned (8 * width.bytes) number⟩

def logicalMaximum (width : Width) (number : Int) : ShortItem :=
  ⟨.globalItem, 0x2, width, Words.unsigned (8 * width.bytes) number⟩

def reportSize (bits : Nat) : ShortItem := ⟨.globalItem, 0x7, .one, bits⟩

def reportId (number : UInt8) : ShortItem := ⟨.globalItem, 0x8, .one, number.toNat⟩

def reportCount (count : Nat) : ShortItem := ⟨.globalItem, 0x9, .one, count⟩

def usage (width : Width) (code : Nat) : ShortItem := ⟨.localItem, 0x0, width, code⟩

def usageMinimum (code : Nat) : ShortItem := ⟨.localItem, 0x1, .one, code⟩

def usageMaximum (code : Nat) : ShortItem := ⟨.localItem, 0x2, .one, code⟩

def input (flags : Nat) : ShortItem := ⟨.mainItem, 0x8, .one, flags⟩

def output (flags : Nat) : ShortItem := ⟨.mainItem, 0x9, .one, flags⟩

def application : ShortItem := ⟨.mainItem, 0xA, .one, 1⟩

def physical : ShortItem := ⟨.mainItem, 0xA, .one, 0⟩

def endCollection : ShortItem := ⟨.mainItem, 0xC, .none, 0⟩

/-- Padding, a position, a change, and an index, as the flags of a main item. -/
def padding : Nat := 0x01

def absolute : Nat := 0x02

def relative : Nat := 0x06

def index : Nat := 0x00

/-- Two axes, two wheels, five buttons and three bits of padding. -/
def mouseItems : List ShortItem :=
  [usagePage 0x01, usage .one 0x02, application, reportId mouseReportId,
    usage .one 0x01, physical,
    usagePage 0x01, usage .one 0x30, usage .one 0x31, reportCount 2, reportSize 16,
    logicalMinimum .two (-32768), logicalMaximum .two 32767, input relative,
    usage .one 0x38, reportCount 1, reportSize 8,
    logicalMinimum .one (-127), logicalMaximum .one 127, input relative,
    usagePage 0x0C, usage .two 0x238, reportCount 1, reportSize 8,
    logicalMinimum .one (-127), logicalMaximum .one 127, input relative,
    usagePage 0x09, usageMinimum 1, usageMaximum 5, reportCount 5, reportSize 1,
    logicalMinimum .one 0, logicalMaximum .one 1, input absolute,
    reportCount 1, reportSize 3, input padding,
    endCollection, endCollection]

/-- Eight modifiers, a reserved byte, five lights with three bits of padding in
the other direction, and six key codes. -/
def keyboardItems : List ShortItem :=
  [usagePage 0x01, usage .one 0x06, application, reportId keyboardReportId,
    usagePage 0x07, usageMinimum 0xE0, usageMaximum 0xE7,
    logicalMinimum .one 0, logicalMaximum .one 1, reportSize 1, reportCount 8, input absolute,
    reportCount 1, reportSize 8, input padding,
    usagePage 0x08, usageMinimum 1, usageMaximum 5, reportCount 5, reportSize 1,
    output absolute, reportCount 1, reportSize 3, output padding,
    usagePage 0x07, usageMinimum 0x00, usageMaximum 0x65,
    logicalMinimum .one 0, logicalMaximum .one 0x65, reportCount 6, reportSize 8, input index,
    endCollection]

def items : List Item := (mouseItems ++ keyboardItems).map Item.short

def descriptor : List UInt8 := items.flatMap Item.encode

end HidBridge.Output.Advertised
