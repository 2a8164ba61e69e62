/-
The items of a report descriptor. A short item is one byte that holds its tag,
its kind and its width, followed by up to four bytes of data. A long item is a
byte of its own, the number of bytes in its body, its tag and its body.

Items are read by a reader that takes one byte at a time and hands out an item
with the item's last byte. So reading a descriptor that was cut off hands out
exactly the items that are complete, and what a byte means depends only on the
bytes before it.
-/

import HidBridge.Bits

namespace HidBridge.Descriptor

inductive Kind where
  | mainItem
  | globalItem
  | localItem
  | reserved
  deriving DecidableEq

namespace Kind

def code : Kind → Nat
  | .mainItem => 0
  | .globalItem => 1
  | .localItem => 2
  | .reserved => 3

def ofCode : Nat → Kind
  | 0 => .mainItem
  | 1 => .globalItem
  | 2 => .localItem
  | _ => .reserved

end Kind

inductive Width where
  | none
  | one
  | two
  | four
  deriving DecidableEq

namespace Width

def code : Width → Nat
  | .none => 0
  | .one => 1
  | .two => 2
  | .four => 3

def ofCode : Nat → Width
  | 0 => .none
  | 1 => .one
  | 2 => .two
  | _ => .four

def bytes : Width → Nat
  | .none => 0
  | .one => 1
  | .two => 2
  | .four => 4

end Width

structure ShortItem where
  kind : Kind
  tag : Nat
  width : Width
  data : Nat
  deriving DecidableEq

namespace ShortItem

/-- The data as a number whose sign is its own topmost bit. -/
def signed (item : ShortItem) : Int :=
  Words.signed (8 * item.width.bytes) item.data

def ofBytes (lead : UInt8) (body : List UInt8) : ShortItem :=
  { kind := .ofCode (lead.toNat / 4 % 4)
    tag := lead.toNat / 16
    width := .ofCode (lead.toNat % 4)
    data := Words.ofBytes body }

def lead (item : ShortItem) : UInt8 :=
  UInt8.ofNat (16 * item.tag + 4 * item.kind.code + item.width.code)

end ShortItem

inductive Item where
  | short (item : ShortItem)
  | long (tag : UInt8) (body : List UInt8)
  deriving DecidableEq

def longLead : UInt8 := 0xFE

namespace Item

def encode : Item → List UInt8
  | .short item => item.lead :: Words.toBytes item.width.bytes item.data
  | .long tag body => longLead :: UInt8.ofNat body.length :: tag :: body

/-- Items that have a place in a descriptor: a tag is four bits, the data fit the
width, no short item starts like a long one, and a long item's body is counted
by one byte. -/
def WellFormed : Item → Prop
  | .short item =>
    item.tag < 16 ∧ item.data < Nat.pow 256 item.width.bytes ∧ item.lead ≠ longLead
  | .long _ body => body.length < 256

def short? : Item → Option ShortItem
  | .short item => some item
  | .long _ _ => none

end Item

/-- What a reader is in the middle of, with the bytes taken so far, latest
first, and the number of bytes still missing. -/
inductive Stage where
  | between
  | shortBody (lead : UInt8) (taken : List UInt8) (missing : Nat)
  | longSize
  | longTag (size : UInt8)
  | longBody (size tag : UInt8) (taken : List UInt8) (missing : Nat)
  deriving DecidableEq

namespace Stage

def awaitShort (lead : UInt8) (taken : List UInt8) : Nat → Stage × Option Item
  | 0 => (.between, some (.short (.ofBytes lead taken.reverse)))
  | missing + 1 => (.shortBody lead taken (missing + 1), none)

def awaitLong (size tag : UInt8) (taken : List UInt8) : Nat → Stage × Option Item
  | 0 => (.between, some (.long tag taken.reverse))
  | missing + 1 => (.longBody size tag taken (missing + 1), none)

def take (byte : UInt8) : Stage → Stage × Option Item
  | .between =>
    if byte = longLead then (.longSize, none)
    else awaitShort byte [] (Width.ofCode (byte.toNat % 4)).bytes
  | .shortBody lead taken missing => awaitShort lead (byte :: taken) (missing - 1)
  | .longSize => (.longTag byte, none)
  | .longTag size => awaitLong size byte [] size.toNat
  | .longBody size tag taken missing => awaitLong size tag (byte :: taken) (missing - 1)

def items : Stage → List UInt8 → List Item
  | _, [] => []
  | stage, byte :: rest =>
    match stage.take byte with
    | (next, none) => next.items rest
    | (next, some item) => item :: next.items rest

def after : Stage → List UInt8 → Stage
  | stage, [] => stage
  | stage, byte :: rest => (stage.take byte).1.after rest

/-- Reading may stop anywhere and go on from there. -/
theorem after_append (stage : Stage) (first second : List UInt8) :
    stage.after (first ++ second) = (stage.after first).after second := by
  induction first generalizing stage with
  | nil => rfl
  | cons byte rest ih => exact ih (stage.take byte).1

theorem items_append (stage : Stage) (first second : List UInt8) :
    stage.items (first ++ second) = stage.items first ++ (stage.after first).items second := by
  induction first generalizing stage with
  | nil => rfl
  | cons byte rest ih =>
      have later := ih (stage.take byte).1
      rcases taken : stage.take byte with ⟨next, _ | item⟩
      · rw [taken] at later
        simp only [List.cons_append, items, after, taken, later]
      · rw [taken] at later
        simp only [List.cons_append, items, after, taken, later]

def held : Stage → List UInt8
  | .between => []
  | .shortBody lead taken _ => lead :: taken.reverse
  | .longSize => [longLead]
  | .longTag size => [longLead, size]
  | .longBody size tag taken _ => longLead :: size :: tag :: taken.reverse

end Stage

/-- The items of a descriptor, up to the first one that is cut off. -/
def items (bytes : List UInt8) : List Item := Stage.between.items bytes

def shortItems (bytes : List UInt8) : List ShortItem := (items bytes).filterMap Item.short?

end HidBridge.Descriptor
