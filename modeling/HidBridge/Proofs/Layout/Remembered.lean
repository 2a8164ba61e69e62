/-
Usages that are not remembered. A context lists the first usages before a main item only. The
same reading without such a limit finds other usages for the units past the last place, but a
report has no place for the fields of those units, so it gives the same layouts.
-/

import HidBridge.Proofs.Descriptor.History
import HidBridge.Proofs.Layout.Append
import Mathlib.Data.List.Forall2

namespace HidBridge

namespace Descriptor

/-! ### Reading without a limit -/

def Locals.takeUnlimited (locals : Locals) (item : ShortItem) : Locals :=
  match item.tag with
  | 0x0 =>
    { locals with
      usages := locals.usages ++ [item.data % 0x10000], current := item.data % 0x10000 }
  | _ => locals.take item

namespace Context

def takeUnlimited (context : Context) (item : ShortItem) : Context :=
  match item.kind with
  | .localItem => { context with locals := context.locals.takeUnlimited item }
  | _ => context.take item

def declarationsUnlimited : Context → List ShortItem → List Declaration
  | _, [] => []
  | context, item :: rest =>
    match context.declared? item with
    | some declaration => declaration :: (context.takeUnlimited item).declarationsUnlimited rest
    | none => (context.takeUnlimited item).declarationsUnlimited rest

end Context

/-! ### What is remembered of it -/

def Locals.remembered (locals : Locals) : Locals :=
  { locals with usages := locals.usages.take Limits.usages }

theorem Locals.usageOf_remembered (locals : Locals) {unit : Nat} (few : unit < Limits.usages) :
    locals.remembered.usageOf unit = locals.usageOf unit := by
  simp only [usageOf, remembered, List.getElem?_take_of_lt few]
  cases listed : locals.usages[unit]? with
  | some usage => rfl
  | none =>
      have short := List.getElem?_eq_none_iff.mp listed
      rw [List.take_of_length_le (Nat.le_trans short (Nat.le_of_lt few))]

theorem Locals.remembered_take (locals : Locals) (item : ShortItem) :
    (locals.takeUnlimited item).remembered = locals.remembered.take item := by
  unfold takeUnlimited
  split
  · rename_i tag
    simp only [take, tag, addUsage, remembered, History.take_append_single]
    rfl
  · rename_i other
    unfold take
    dsimp only
    split
    · rename_i tag
      exact absurd tag other
    · rfl
    · rfl
    · rfl

namespace Context

def remembered (context : Context) : Context :=
  { context with locals := context.locals.remembered }

theorem collection_remembered (context : Context) (kind : Nat) :
    context.remembered.collection kind = context.collection kind := by
  have first : context.locals.remembered.usageOf 0 = context.locals.usageOf 0 :=
    context.locals.usageOf_remembered (by decide)
  simp only [collection, remembered, first]

theorem remembered_take (context : Context) (item : ShortItem) :
    (context.takeUnlimited item).remembered = context.remembered.take item := by
  cases kind : item.kind with
  | mainItem =>
      have nest : context.remembered.nest item = context.nest item := by
        simp only [Context.nest, collection_remembered]
        rfl
      simp only [takeUnlimited, take, kind, nest]
      rfl
  | globalItem =>
      simp only [takeUnlimited, take, kind]
      rfl
  | localItem =>
      simp only [takeUnlimited, take, kind, remembered, Locals.remembered_take]
  | reserved => simp only [takeUnlimited, take, kind]

end Context

end Descriptor

/-! ### Emissions that cannot be told apart -/

/-- The same, but for units that no report has a place for. -/
inductive Emission.Alike : Emission → Emission → Prop where
  | block (field : Field) (bits : Nat) : (block field bits).Alike (block field bits)
  | units {field other : Nat → Field} (count unitBits unusedBits : Nat) :
    (∀ index, index < Limits.reportFields → field index = other index) →
    (units count unitBits field unusedBits).Alike (units count unitBits other unusedBits)

structure Declaration.Alike (first second : Declaration) : Prop where
  reportId : first.reportId = second.reportId
  direction : first.direction = second.direction
  application : first.application = second.application
  emission : first.emission.Alike second.emission

namespace Layout

theorem appendUnits_alike {field other : Nat → Field}
    (alike : ∀ index, index < Limits.reportFields → field index = other index)
    (unitBits : Nat) {start : Nat} (remaining : Nat) {layout : Layout}
    (behind : start ≤ layout.fields.length) :
    appendUnits unitBits field start remaining layout =
      appendUnits unitBits other start remaining layout := by
  induction remaining generalizing start layout with
  | zero => rfl
  | succ remaining ih =>
      have first : layout.append? (field start) unitBits =
          layout.append? (other start) unitBits := by
        by_cases room : start < Limits.reportFields
        · rw [alike start room]
        · have full : ¬(layout.bits + unitBits ≤ Limits.reportBits ∧
              layout.fields.length < Limits.reportFields) := by omega
          rw [append?, append?, if_neg full, if_neg full]
      simp only [appendUnits, first]
      cases appended : layout.append? (other start) unitBits with
      | none => rfl
      | some longer =>
          have one := congrArg (fun layout => layout.fields.length)
            (append?_eq_some_iff.mp appended).2
          simp only [extend, List.length_append, List.length_singleton] at one
          exact ih (by omega)

theorem emit_alike {first second : Emission} (alike : first.Alike second) (layout : Layout) :
    layout.emit first = layout.emit second := by
  cases alike with
  | block field bits => rfl
  | units count unitBits unusedBits same =>
      simp only [emit, appendUnits_alike same unitBits count (Nat.zero_le _)]

end Layout

namespace Interface

theorem declare_alike {first second : Declaration} (alike : first.Alike second)
    (interface : Interface) : interface.declare first = interface.declare second := by
  obtain ⟨reportId, direction, application, emission⟩ := alike
  simp only [declare, Layout.ofDeclaration, reportId, direction, application,
    Layout.emit_alike emission]

theorem declare_all_alike {first second : List Declaration}
    (alike : List.Forall₂ Declaration.Alike first second) (interface : Interface) :
    first.foldl declare interface = second.foldl declare interface := by
  induction alike generalizing interface with
  | nil => rfl
  | cons one _rest ih => rw [List.foldl_cons, List.foldl_cons, declare_alike one, ih]

end Interface

namespace Descriptor

theorem emission_alike (flags : Flags) (globals : Globals) (locals : Locals) :
    (emission flags globals locals.remembered).Alike (emission flags globals locals) := by
  have hasRange : locals.remembered.hasRange = locals.hasRange := rfl
  have rangeLength : locals.remembered.rangeLength = locals.rangeLength := rfl
  unfold emission
  rw [hasRange, rangeLength]
  dsimp only
  split
  · exact .block _ _
  · split
    · split
      · exact .block _ _
      · exact .units _ _ _ (fun _index _few => rfl)
    · refine .units _ _ _ ?_
      intro index few
      rw [locals.usageOf_remembered few]

namespace Context

theorem declared?_alike (context : Context) (item : ShortItem) :
    (context.remembered.declared? item = none ∧ context.declared? item = none) ∨
      ∃ first second, context.remembered.declared? item = some first ∧
        context.declared? item = some second ∧ first.Alike second := by
  have globals : context.remembered.globals = context.globals := rfl
  unfold declared?
  rw [globals]
  by_cases empty : context.globals.unitSize = 0 ∨ context.globals.unitCount = 0
  · exact Or.inl ⟨if_pos empty, if_pos empty⟩
  · rw [if_neg empty, if_neg empty]
    cases item.direction? with
    | none => exact Or.inl ⟨rfl, rfl⟩
    | some direction =>
        refine Or.inr ⟨_, _, rfl, rfl, ?_⟩
        exact
          { reportId := rfl
            direction := rfl
            application := rfl
            emission := emission_alike _ context.globals context.locals }

theorem declarations_alike (context : Context) (items : List ShortItem) :
    List.Forall₂ Declaration.Alike (context.remembered.declarations items)
      (context.declarationsUnlimited items) := by
  induction items generalizing context with
  | nil => exact .nil
  | cons item rest ih =>
      have later := ih (context.takeUnlimited item)
      rw [remembered_take] at later
      rcases context.declared?_alike item with ⟨left, right⟩ | ⟨first, second, left, right, alike⟩
      · simp only [declarations, declarationsUnlimited, left, right]
        exact later
      · simp only [declarations, declarationsUnlimited, left, right]
        exact .cons alike later

end Context

end Descriptor

namespace Interface

/-- The layouts that a descriptor gives when every usage is listed. -/
def ofDescriptorUnlimited (id : InterfaceId) (bytes : List UInt8) : Interface :=
  (Descriptor.Context.initial.declarationsUnlimited (Descriptor.shortItems bytes)).foldl declare
    (empty id ((Descriptor.shortItems bytes).any Descriptor.ShortItem.namesReport))

/-- However many usages a descriptor lists before a main item, and however many units the item
has, nothing of its layouts depends on usages that were not remembered. -/
theorem ofDescriptor_unlimited (id : InterfaceId) (bytes : List UInt8) :
    ofDescriptor id bytes = ofDescriptorUnlimited id bytes :=
  declare_all_alike (Descriptor.Context.initial.declarations_alike (Descriptor.shortItems bytes)) _

/-- Of forty-nine usages the last is not remembered, and the last unit has another usage. -/
example :
    let locals := { Descriptor.Locals.initial with usages := List.range 49, current := 48 }
    locals.usageOf 48 = 48 ∧ locals.remembered.usageOf 48 = 47 := by
  decide

end Interface

end HidBridge
