/-
What a descriptor has declared is never taken back. Items that follow append to the
layouts that are there and create layouts behind them. So the layouts of a descriptor that
was cut off are those that the whole descriptor gives, up to where it was cut.
-/

import HidBridge.Proofs.Descriptor.History
import HidBridge.Proofs.Descriptor.Reading
import HidBridge.Proofs.Layout.WellFormed
import Mathlib.Data.List.Forall2

namespace HidBridge

namespace Layout

/-- The same report, with more fields behind those that it had. -/
structure Grows (before after : Layout) : Prop where
  reportId : after.reportId = before.reportId
  direction : after.direction = before.direction
  application : after.application = before.application
  fields : before.fields <+: after.fields
  bits : before.bits ≤ after.bits

theorem Grows.refl (layout : Layout) : layout.Grows layout :=
  ⟨rfl, rfl, rfl, List.prefix_rfl, Nat.le_refl _⟩

theorem Grows.trans {first second third : Layout} (earlier : first.Grows second)
    (later : second.Grows third) : first.Grows third where
  reportId := later.reportId.trans earlier.reportId
  direction := later.direction.trans earlier.direction
  application := later.application.trans earlier.application
  fields := earlier.fields.trans later.fields
  bits := Nat.le_trans earlier.bits later.bits

theorem grows_append? {layout longer : Layout} {field : Field} {bits : Nat}
    (appended : layout.append? field bits = some longer) : layout.Grows longer := by
  rw [(append?_eq_some_iff.mp appended).2]
  exact ⟨rfl, rfl, rfl, List.prefix_append _ _, Nat.le_add_right _ _⟩

theorem grows_appendUnits (unitBits : Nat) (field : Nat → Field) (start remaining : Nat)
    (layout : Layout) : layout.Grows (appendUnits unitBits field start remaining layout).1 := by
  induction remaining generalizing start layout with
  | zero => exact .refl layout
  | succ remaining ih =>
      simp only [appendUnits]
      cases appended : layout.append? (field start) unitBits with
      | none => exact .refl layout
      | some longer => exact (grows_append? appended).trans (ih (start + 1) longer)

theorem grows_skip {layout : Layout} (short : layout.bits ≤ Limits.reportBits) (bits : Nat) :
    layout.Grows (layout.skip bits) :=
  ⟨rfl, rfl, rfl, List.prefix_rfl, Nat.le_min.mpr ⟨Nat.le_add_right _ _, short⟩⟩

theorem grows_emit {layout : Layout} {emission : Emission} (wellFormed : layout.WellFormed)
    (sound : emission.WellFormed) : layout.Grows (layout.emit emission) := by
  cases emission with
  | block field bits =>
      simp only [emit]
      cases appended : layout.append? field bits with
      | none => exact .refl layout
      | some longer => exact grows_append? appended
  | units count unitBits field unusedBits =>
      have short := (wellFormed.appendUnits sound.2 0 count).short
      have grows := grows_appendUnits unitBits field 0 count layout
      simp only [emit]
      split
      · rename_i longer units
        rw [units] at short grows
        exact grows.trans (grows_skip short unusedBits)
      · rename_i longer units
        rw [units] at grows
        exact grows

theorem grows_receive {layout : Layout} {declaration : Declaration}
    (wellFormed : layout.WellFormed) (sound : declaration.emission.WellFormed) :
    layout.Grows (layout.receive declaration) := by
  unfold receive
  split
  · exact grows_emit wellFormed sound
  · exact .refl layout

end Layout

namespace Interface

/-- All layouts are still there, in the same places, and each has grown. -/
structure Grows (before after : Interface) : Prop where
  id : after.id = before.id
  namesReports : before.namesReports = true → after.namesReports = true
  layouts : ∃ grown more, after.layouts = grown ++ more ∧
    List.Forall₂ Layout.Grows before.layouts grown

theorem Grows.declare {first interface : Interface} {declaration : Declaration}
    (grows : first.Grows interface) (wellFormed : interface.WellFormed)
    (sound : declaration.emission.WellFormed) : first.Grows (interface.declare declaration) := by
  obtain ⟨grown, more, same, longer⟩ := grows.layouts
  rcases interface.declare_cases declaration with
    ⟨_known, declared⟩ | ⟨_unknown, _room, declared⟩ | ⟨_unknown, _full, declared⟩
  · rw [declared]
    refine
      { id := grows.id
        namesReports := grows.namesReports
        layouts := ⟨grown.map (.receive declaration), more.map (.receive declaration), ?_, ?_⟩ }
    · dsimp only
      rw [same, List.map_append]
    · obtain ⟨length, each⟩ := List.forall₂_iff_zip.mp longer
      refine List.forall₂_map_right_iff.mpr (List.forall₂_iff_zip.mpr ⟨length, ?_⟩)
      intro before layout paired
      have present : layout ∈ interface.layouts := by
        rw [same]
        exact List.mem_append_left more (List.of_mem_zip paired).2
      exact (each paired).trans
        (Layout.grows_receive (wellFormed.layouts layout present) sound)
  · rw [declared]
    refine
      { id := grows.id
        namesReports := grows.namesReports
        layouts := ⟨grown, more ++ [.ofDeclaration declaration], ?_, longer⟩ }
    dsimp only
    rw [same, List.append_assoc]
  · rw [declared]
    exact grows

theorem Grows.declare_all {declarations : List Declaration} {first interface : Interface}
    (grows : first.Grows interface) (wellFormed : interface.WellFormed)
    (sound : ∀ declaration, declaration ∈ declarations → declaration.emission.WellFormed ∧
      (interface.namesReports = false → declaration.reportId = 0)) :
    first.Grows (declarations.foldl Interface.declare interface) := by
  induction declarations generalizing interface with
  | nil => exact grows
  | cons declaration rest ih =>
      have own := sound declaration List.mem_cons_self
      apply ih (grows.declare wellFormed own.1) (wellFormed.declare own.1 own.2)
      intro other member
      rw [namesReports_declare]
      exact sound other (List.mem_cons_of_mem _ member)

theorem declare_named (interface : Interface) (namesReports : Bool) (declaration : Declaration) :
    ({ interface with namesReports }).declare declaration =
      { interface.declare declaration with namesReports } := by
  unfold declare
  dsimp only
  split
  · rfl
  · split <;> rfl

theorem declare_all_named (interface : Interface) (namesReports : Bool)
    (declarations : List Declaration) :
    declarations.foldl declare { interface with namesReports } =
      { declarations.foldl declare interface with namesReports } := by
  induction declarations generalizing interface with
  | nil => rfl
  | cons declaration rest ih => rw [List.foldl_cons, declare_named, ih, List.foldl_cons]

end Interface

theorem Descriptor.Context.declarations_append (context : Context)
    (first second : List ShortItem) :
    context.declarations (first ++ second) =
      context.declarations first ++ (context.after first).declarations second := by
  induction first generalizing context with
  | nil => rfl
  | cons item rest ih =>
      simp only [List.cons_append, declarations]
      cases context.declared? item with
      | none => exact ih (context.take item)
      | some declaration => exact congrArg (List.cons declaration) (ih (context.take item))

namespace Interface

theorem namesReports_ofItems (id : InterfaceId) (items : List Descriptor.ShortItem) :
    (ofItems id items).namesReports = items.any Descriptor.ShortItem.namesReport :=
  congrArg namesReports (declare_all_named (empty id false) _ _)

theorem grows_ofItems (id : InterfaceId) (first second : List Descriptor.ShortItem) :
    (ofItems id first).Grows (ofItems id (first ++ second)) := by
  let named := (first ++ second).any Descriptor.ShortItem.namesReport
  let early := Descriptor.Context.initial.declarations first
  let late := (Descriptor.Context.initial.after first).declarations second
  have sound : ∀ declaration, declaration ∈ early ++ late →
      declaration.emission.WellFormed ∧ (named = false → declaration.reportId = 0) := by
    intro declaration member
    rw [← Descriptor.Context.declarations_append] at member
    obtain ⟨emission, unnamed⟩ := Descriptor.Context.declarations_wellFormed member
    exact ⟨emission, fun none => unnamed none rfl⟩
  -- Items that come later may be the first to name a report, and then the declarations of
  -- the first part are read as if those reports were named from the start.
  have earlySame : early.foldl declare (empty id named) =
      { ofItems id first with namesReports := named } :=
    declare_all_named (empty id _) named early
  have wellFormed : (early.foldl declare (empty id named)).WellFormed :=
    (wellFormed_empty id named).declare_all
      (fun declaration member => sound declaration (List.mem_append_left _ member))
  have whole : ofItems id (first ++ second) =
      late.foldl declare (early.foldl declare (empty id named)) := by
    rw [ofItems, Descriptor.Context.declarations_append, List.foldl_append]
  have start : (ofItems id first).Grows (early.foldl declare (empty id named)) := by
    rw [earlySame]
    refine { id := rfl, namesReports := ?_, layouts := ⟨_, [], (List.append_nil _).symm, ?_⟩ }
    · intro names
      rw [namesReports_ofItems] at names
      simp only [named, List.any_append, names, Bool.true_or]
    · exact List.forall₂_same.mpr (fun layout _member => .refl layout)
  rw [whole]
  apply start.declare_all wellFormed
  intro declaration member
  rw [earlySame]
  exact sound declaration (List.mem_append_right _ member)

/-- Cutting a descriptor off takes away the end of what it declares. The layouts that are
left are the first layouts of the whole, for the same reports, with the first fields of
each. They are what is declared by the items that end before the cut, where the items are
those that the whole descriptor consists of, long ones included. -/
theorem ofDescriptor_take (id : InterfaceId) (bytes : List UInt8) (limit : Nat) :
    (ofDescriptor id (bytes.take limit)).Grows (ofDescriptor id bytes) ∧
    ofDescriptor id (bytes.take limit) =
      ofItems id ((Descriptor.endingBy limit (Descriptor.items bytes)).filterMap
        Descriptor.Item.short?) ∧
    (∀ item, item ∈ Descriptor.items bytes → item.WellFormed) ∧
    ∃ rest, bytes = (Descriptor.items bytes).flatMap Descriptor.Item.encode ++ rest ∧
      ∀ item : Descriptor.Item, item.WellFormed → ¬item.encode <+: rest := by
  refine ⟨?_, ?_, Descriptor.items_eq_iff.mp rfl⟩
  · have whole := Descriptor.Stage.items_append .between (bytes.take limit) (bytes.drop limit)
    rw [List.take_append_drop] at whole
    have split : Descriptor.shortItems bytes =
        Descriptor.shortItems (bytes.take limit) ++
          ((Descriptor.Stage.between.after (bytes.take limit)).items
            (bytes.drop limit)).filterMap Descriptor.Item.short? :=
      (congrArg (List.filterMap Descriptor.Item.short?) whole).trans List.filterMap_append
    rw [ofDescriptor, ofDescriptor, split]
    exact grows_ofItems id _ _
  · rw [ofDescriptor, Descriptor.shortItems, Descriptor.items_take]

end Interface

end HidBridge
