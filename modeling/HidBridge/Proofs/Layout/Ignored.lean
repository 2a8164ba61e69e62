/-
Items that say nothing: long items, short items of the reserved kind, and global and local items
with a tag that is not known. Such an item can be put between any two items of a descriptor, or
be left out there, and the layouts stay as they are.
-/

import HidBridge.Proofs.Descriptor.Framing
import HidBridge.Proofs.Layout.Directions

namespace HidBridge

namespace Descriptor

def Globals.knownTags : List Nat := [0x0, 0x1, 0x2, 0x7, 0x8, 0x9]

def Locals.knownTags : List Nat := [0x0, 0x1, 0x2]

/-- No main item is ignored: whatever its tag, it ends what was said for it. -/
inductive ShortItem.Ignored (item : ShortItem) : Prop where
  | unknownGlobal : item.kind = .globalItem → item.tag ∉ Globals.knownTags → item.Ignored
  | unknownLocal : item.kind = .localItem → item.tag ∉ Locals.knownTags → item.Ignored
  | reserved : item.kind = .reserved → item.Ignored

inductive Item.Ignored : Item → Prop where
  | short {item : ShortItem} : item.Ignored → (Item.short item).Ignored
  | long (tag : UInt8) (body : List UInt8) : (Item.long tag body).Ignored

theorem Globals.take_unknown (globals : Globals) {item : ShortItem}
    (unknown : item.tag ∉ knownTags) : globals.take item = globals := by
  unfold take
  split
  case h_7 => rfl
  all_goals
    rename_i tag
    exact absurd (by rw [tag]; decide) unknown

theorem Locals.take_unknown (locals : Locals) {item : ShortItem}
    (unknown : item.tag ∉ knownTags) : locals.take item = locals := by
  unfold take
  dsimp only
  split
  case h_4 => rfl
  all_goals
    rename_i tag
    exact absurd (by rw [tag]; decide) unknown

namespace ShortItem.Ignored

variable {item : ShortItem} (ignored : item.Ignored)

include ignored

theorem kind_ne : item.kind ≠ .mainItem := by
  cases ignored with
  | unknownGlobal kind _unknown => simp [kind]
  | unknownLocal kind _unknown => simp [kind]
  | reserved kind => simp [kind]

theorem take (context : Context) : context.take item = context := by
  cases ignored with
  | unknownGlobal kind unknown =>
      simp only [Context.take, kind, context.globals.take_unknown unknown]
  | unknownLocal kind unknown =>
      simp only [Context.take, kind, context.locals.take_unknown unknown]
  | reserved kind => simp only [Context.take, kind]

theorem declared? (context : Context) : context.declared? item = none := by
  have nothing : item.direction? = none := by
    cases found : item.direction? with
    | none => rfl
    | some direction => exact absurd (direction?_eq_some found).1 ignored.kind_ne
  simp only [Context.declared?, nothing, Option.map_none, ite_self]

theorem namesReport : item.namesReport = false := by
  cases ignored with
  | unknownGlobal kind unknown =>
      have notNumber : item.tag ≠ 0x8 := by
        intro tag
        exact unknown (by rw [tag]; decide)
      simp [ShortItem.namesReport, notNumber]
  | unknownLocal kind _unknown => simp [ShortItem.namesReport, kind]
  | reserved kind => simp [ShortItem.namesReport, kind]

theorem declarations (context : Context) (before after : List ShortItem) :
    context.declarations (before ++ item :: after) = context.declarations (before ++ after) := by
  rw [Context.declarations_append, Context.declarations_append, Context.declarations,
    ignored.declared?, ignored.take]

theorem ofItems (id : InterfaceId) (before after : List ShortItem) :
    Interface.ofItems id (before ++ item :: after) = Interface.ofItems id (before ++ after) := by
  simp only [Interface.ofItems, ignored.declarations, List.any_append, List.any_cons,
    ignored.namesReport, Bool.false_or]

end ShortItem.Ignored

/-! ### Between the bytes of other items -/

theorem Stage.held_eq_nil {stage : Stage} (nothing : stage.held = []) : stage = .between := by
  cases stage with
  | between => rfl
  | shortBody lead taken missing => cases nothing
  | longSize => cases nothing
  | longTag size => cases nothing
  | longBody size tag taken missing => cases nothing

theorem shortItems_append {first : List UInt8} (complete : unread first = [])
    (second : List UInt8) : shortItems (first ++ second) = shortItems first ++ shortItems second := by
  have between : Stage.between.after first = .between := Stage.held_eq_nil complete
  simp only [shortItems, items, Stage.items_append, between, List.filterMap_append]

end Descriptor

namespace Interface

open Descriptor

/-- Behind any complete items, and before any bytes at all, a complete item that says nothing
makes no difference to what is declared. -/
theorem ofDescriptor_ignoring (id : InterfaceId) {before single : List UInt8} {item : Item}
    (complete : unread before = []) (one : items single = [item]) (whole : unread single = [])
    (ignored : item.Ignored) (after : List UInt8) :
    ofDescriptor id (before ++ single ++ after) = ofDescriptor id (before ++ after) := by
  have read : shortItems (before ++ single ++ after) =
      shortItems before ++ (shortItems single ++ shortItems after) := by
    rw [List.append_assoc, shortItems_append complete, shortItems_append whole]
  rw [ofDescriptor, ofDescriptor, read, shortItems_append complete, shortItems, shortItems, one]
  cases ignored with
  | short nothing => exact nothing.ofItems id _ _
  | long tag body => rfl

/-- Between two usages of one field stands a long item whose body reads like a third usage and
an input item. The last item was cut off. -/
theorem usages_ignoring :
    let before : List UInt8 :=
      [0x05, 0x01, 0x15, 0x81, 0x25, 0x7F, 0x75, 0x08, 0x95, 0x02, 0x09, 0x30]
    let single : List UInt8 := [0xFE, 0x04, 0x09, 0x09, 0x38, 0x81, 0x06]
    let after : List UInt8 := [0x09, 0x31, 0x81, 0x06, 0x26, 0xFF]
    (unread before = [] ∧ items single = [.long 0x09 [0x09, 0x38, 0x81, 0x06]] ∧
      unread single = [] ∧ (Item.long 0x09 [0x09, 0x38, 0x81, 0x06]).Ignored) ∧
      ofDescriptor 0 (before ++ single ++ after) = ofDescriptor 0 (before ++ after) ∧
      (ofDescriptor 0 (before ++ after)).layouts.map (fun layout =>
        layout.fields.map Field.usage) = [[0x30, 0x31]] := by
  intro before single after
  have complete : unread before = [] := by decide
  have one : items single = [.long 0x09 [0x09, 0x38, 0x81, 0x06]] := by decide
  have whole : unread single = [] := by decide
  have ignored : (Item.long 0x09 [0x09, 0x38, 0x81, 0x06]).Ignored := .long _ _
  refine ⟨⟨complete, one, whole, ignored⟩, ?_, by decide⟩
  exact ofDescriptor_ignoring 0 complete one whole ignored after

end Interface

end HidBridge
