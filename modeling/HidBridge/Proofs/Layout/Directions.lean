/-
Input items and output items do not disturb each other. When the items of one direction are
feature items instead, the layouts of the other direction stay as they were. Behind them there
may be layouts for which all places had been taken.
-/

import HidBridge.Proofs.Descriptor.Reading
import HidBridge.Proofs.Layout.Reports
import HidBridge.Proofs.Layout.Truncation

namespace HidBridge

namespace Descriptor

/-- An item that declares something for the other direction becomes a feature item with the
same data. -/
def ShortItem.keeping (kept : Direction) (item : ShortItem) : ShortItem :=
  match item.direction? with
  | none => item
  | some direction => if direction = kept then item else { item with tag := 0xB }

def Item.keeping (kept : Direction) : Item → Item
  | .short item => .short (item.keeping kept)
  | .long tag body => .long tag body

/-- A descriptor that declares nothing but what it declares for one direction. What is left of
an item that was cut off stays. -/
def keeping (kept : Direction) (bytes : List UInt8) : List UInt8 :=
  ((items bytes).map (Item.keeping kept)).flatMap Item.encode ++ (Stage.between.after bytes).held

theorem ShortItem.direction?_eq_some {item : ShortItem} {direction : Direction}
    (found : item.direction? = some direction) :
    item.kind = .mainItem ∧ (item.tag = 0x8 ∨ item.tag = 0x9) := by
  unfold direction? at found
  split at found
  · rename_i kind tag
    exact ⟨kind, Or.inl tag⟩
  · rename_i kind tag
    exact ⟨kind, Or.inr tag⟩
  · cases found

theorem ShortItem.keeping_cases (kept : Direction) (item : ShortItem) :
    (item.keeping kept = item ∧ ∀ direction, item.direction? = some direction →
      direction = kept) ∨
    (item.keeping kept = { item with tag := 0xB } ∧ item.kind = .mainItem ∧
      (item.tag = 0x8 ∨ item.tag = 0x9) ∧
      ∃ direction, item.direction? = some direction ∧ direction ≠ kept) := by
  unfold keeping
  cases found : item.direction? with
  | none => exact Or.inl ⟨rfl, nofun⟩
  | some direction =>
      by_cases same : direction = kept
      · refine Or.inl ⟨if_pos same, ?_⟩
        intro other isOther
        rw [← Option.some.inj isOther]
        exact same
      · obtain ⟨kind, tag⟩ := direction?_eq_some found
        exact Or.inr ⟨if_neg same, kind, tag, direction, rfl, same⟩

theorem Item.wellFormed_keeping {item : Item} (wellFormed : item.WellFormed) (kept : Direction) :
    (item.keeping kept).WellFormed := by
  cases item with
  | long tag body => exact wellFormed
  | short item =>
      simp only [Item.keeping]
      rcases item.keeping_cases kept with ⟨same, _own⟩ | ⟨changed, kind, _tag, _other⟩
      · rw [same]
        exact wellFormed
      · rw [changed]
        have fits : 0xB < 16 := by decide
        refine ⟨fits, wellFormed.2.1, ?_⟩
        simp only [ShortItem.lead, kind]
        cases item.width <;> decide

theorem items_keeping (kept : Direction) (bytes : List UInt8) :
    items (keeping kept bytes) = (items bytes).map (Item.keeping kept) := by
  have wellFormed : ∀ item, item ∈ items bytes → item.WellFormed :=
    fun _item => wellFormed_of_mem_items
  have nothing : items (Stage.between.after bytes).held = [] := by
    have whole := items_flatMap_encode_append wellFormed (Stage.between.after bytes).held
    rw [← written_items] at whole
    exact List.self_eq_append_right.mp whole
  unfold keeping
  rw [items_flatMap_encode_append, nothing, List.append_nil]
  intro item member
  obtain ⟨before, present, same⟩ := List.mem_map.mp member
  rw [← same]
  exact Item.wellFormed_keeping (wellFormed before present) kept

theorem shortItems_keeping (kept : Direction) (bytes : List UInt8) :
    shortItems (keeping kept bytes) = (shortItems bytes).map (ShortItem.keeping kept) := by
  unfold shortItems
  rw [items_keeping, List.filterMap_map, List.map_filterMap]
  apply List.filterMap_congr
  intro item _member
  cases item <;> rfl

theorem ShortItem.namesReport_keeping (kept : Direction) (item : ShortItem) :
    (item.keeping kept).namesReport = item.namesReport := by
  rcases item.keeping_cases kept with ⟨same, _own⟩ | ⟨changed, kind, _tag, _other⟩
  · rw [same]
  · rw [changed]
    unfold namesReport
    rw [kind]
    rfl

namespace Context

theorem take_keeping (context : Context) (kept : Direction) (item : ShortItem) :
    context.take (item.keeping kept) = context.take item := by
  rcases item.keeping_cases kept with ⟨same, _own⟩ | ⟨changed, kind, tag, _other⟩
  · rw [same]
  · rw [changed]
    rcases tag with input | output
    · simp only [take, nest, kind, input]
    · simp only [take, nest, kind, output]

theorem declared?_keeping (context : Context) (kept : Direction) (item : ShortItem) :
    context.declared? (item.keeping kept) =
      (context.declared? item).filter (fun declaration =>
        decide (declaration.direction = kept)) := by
  unfold declared?
  split
  · rfl
  · rcases item.keeping_cases kept with ⟨same, own⟩ | ⟨changed, kind, _tag, other⟩
    · rw [same]
      cases found : item.direction? with
      | none => rfl
      | some direction => exact (if_pos (decide_eq_true (own direction found))).symm
    · obtain ⟨direction, found, different⟩ := other
      have feature : ShortItem.direction? { item with tag := 0xB } = none := by
        simp only [ShortItem.direction?, kind]
      rw [changed, found, feature]
      exact (if_neg (fun same => different (of_decide_eq_true same))).symm

theorem declarations_keeping (context : Context) (kept : Direction) (items : List ShortItem) :
    context.declarations (items.map (ShortItem.keeping kept)) =
      (context.declarations items).filter (fun declaration =>
        decide (declaration.direction = kept)) := by
  induction items generalizing context with
  | nil => rfl
  | cons item rest ih =>
      have later := ih (context.take item)
      simp only [List.map_cons, declarations, take_keeping, declared?_keeping]
      cases context.declared? item with
      | none => exact later
      | some declaration =>
          by_cases own : declaration.direction = kept
          · simp only [Option.filter, own, decide_true, if_true, List.filter_cons, later]
          · simp only [Option.filter, own, decide_false, Bool.false_eq_true, if_false,
              List.filter_cons, later]

end Context

end Descriptor

theorem Layout.ofReport_filter (kept : Direction) {report : ReportId × Direction}
    (own : report.2 = kept) (declarations : List Declaration) :
    ofReport report (declarations.filter (fun declaration =>
        decide (declaration.direction = kept))) =
      ofReport report declarations := by
  have same : (declarations.filter (fun declaration =>
      decide (declaration.direction = kept))).filter (fun declaration =>
        decide (declaration.report = report)) =
      declarations.filter (fun declaration => decide (declaration.report = report)) := by
    rw [List.filter_filter]
    apply List.filter_congr
    intro declaration _member
    by_cases isFor : declaration.report = report
    · have direction : declaration.direction = kept := (congrArg Prod.snd isFor).trans own
      rw [decide_eq_true isFor, decide_eq_true direction, Bool.and_self]
    · rw [decide_eq_false isFor, Bool.false_and]
  unfold ofReport
  rw [same]

namespace Interface

def layoutsOf (interface : Interface) (direction : Direction) : List Layout :=
  interface.layouts.filter (fun layout => decide (layout.direction = direction))

theorem named_filter (kept : Direction) (declarations : List Declaration) :
    named (declarations.filter (fun declaration => decide (declaration.direction = kept))) =
      (named declarations).filter (fun report => decide (report.2 = kept)) := by
  induction declarations using List.reverseRecOn with
  | nil => rfl
  | append_singleton declarations declaration ih =>
      rw [List.filter_append]
      by_cases own : declaration.direction = kept
      · have isKept : decide (declaration.direction = kept) = true := decide_eq_true own
        have reportKept : decide (declaration.report.2 = kept) = true := isKept
        have known : declaration.report ∈ named (declarations.filter (fun declaration =>
            decide (declaration.direction = kept))) ↔ declaration.report ∈ named declarations := by
          rw [ih, List.mem_filter]
          exact and_iff_left reportKept
        simp only [List.filter_cons, isKept, if_true, List.filter_nil]
        by_cases present : declaration.report ∈ named declarations
        · rw [named_append_known (known.mpr present), named_append_known present, ih]
        · rw [named_append_new (fun early => present (known.mp early)), named_append_new present,
            ih, List.filter_append]
          simp only [List.filter_cons, reportKept, if_true, List.filter_nil]
      · have isOther : decide (declaration.direction = kept) = false := decide_eq_false own
        have reportOther : decide (declaration.report.2 = kept) = false := isOther
        simp only [List.filter_cons, isOther, Bool.false_eq_true, if_false, List.filter_nil,
          List.append_nil, ih]
        by_cases present : declaration.report ∈ named declarations
        · rw [named_append_known present]
        · rw [named_append_new present, List.filter_append]
          simp only [List.filter_cons, reportOther, Bool.false_eq_true, if_false, List.filter_nil,
            List.append_nil]

theorem layoutsOf_ofItems (id : InterfaceId) (items : List Descriptor.ShortItem)
    (kept : Direction) :
    (ofItems id items).layoutsOf kept =
      (((named (Descriptor.Context.initial.declarations items)).take
        Limits.layoutsPerInterface).filter (fun report => decide (report.2 = kept))).map
          (fun report => Layout.ofReport report (Descriptor.Context.initial.declarations items)) := by
  unfold layoutsOf
  rw [layouts_ofItems, List.filter_map]
  refine congrArg _ (List.filter_congr ?_)
  intro report _member
  have same := congrArg Prod.snd
    (Layout.report_ofReport report (Descriptor.Context.initial.declarations items))
  exact congrArg (fun direction => decide (direction = kept)) same

theorem layouts_keeping (id : InterfaceId) (items : List Descriptor.ShortItem)
    (kept : Direction) :
    (ofItems id (items.map (Descriptor.ShortItem.keeping kept))).layouts =
      (((named (Descriptor.Context.initial.declarations items)).filter
        (fun report => decide (report.2 = kept))).take Limits.layoutsPerInterface).map
          (fun report => Layout.ofReport report (Descriptor.Context.initial.declarations items)) := by
  rw [layouts_ofItems, Descriptor.Context.declarations_keeping, named_filter]
  apply List.map_congr_left
  intro report member
  have own := (List.mem_filter.mp (List.mem_of_mem_take member)).2
  exact Layout.ofReport_filter kept (of_decide_eq_true own) _

/-- For every descriptor, and for either direction, let the items of the other direction be
feature items. Then the layouts of the direction begin with those that there were before, and
there are no more of them if any place was left. Transfers start with the number of their
report in the same cases. -/
theorem layoutsOf_keeping (id : InterfaceId) (bytes : List UInt8) (kept : Direction) :
    let whole := ofDescriptor id bytes
    let alone := ofDescriptor id (Descriptor.keeping kept bytes)
    Descriptor.items (Descriptor.keeping kept bytes) =
        (Descriptor.items bytes).map (Descriptor.Item.keeping kept) ∧
      whole.layoutsOf kept <+: alone.layoutsOf kept ∧
      (whole.layouts.length < Limits.layoutsPerInterface →
        alone.layoutsOf kept = whole.layoutsOf kept) ∧
      alone.namesReports = whole.namesReports := by
  have short := Descriptor.shortItems_keeping kept bytes
  unfold ofDescriptor
  rw [short]
  generalize Descriptor.shortItems bytes = items
  generalize declared : Descriptor.Context.initial.declarations items = declarations
  have whole := layoutsOf_ofItems id items kept
  have alone : (ofItems id (items.map (Descriptor.ShortItem.keeping kept))).layoutsOf kept =
      (((named declarations).filter (fun report => decide (report.2 = kept))).take
        Limits.layoutsPerInterface).map (fun report =>
          Layout.ofReport report declarations) := by
    have layouts := layouts_keeping id items kept
    rw [declared] at layouts
    unfold layoutsOf
    rw [layouts]
    apply List.filter_eq_self.mpr
    intro layout member
    obtain ⟨report, early, same⟩ := List.mem_map.mp member
    have own := (List.mem_filter.mp (List.mem_of_mem_take early)).2
    have direction := congrArg Prod.snd (Layout.report_ofReport report declarations)
    rw [← same]
    exact decide_eq_true (direction.trans (of_decide_eq_true own))
  rw [declared] at whole
  refine ⟨Descriptor.items_keeping kept bytes, ?_, ?_, ?_⟩
  · rw [whole, alone]
    apply List.IsPrefix.map
    apply List.prefix_take_iff.mpr
    constructor
    · exact (List.take_prefix _ _).filter _
    · exact Nat.le_trans (List.length_filter_le _ _) (List.length_take_le _ _)
  · intro room
    have length := congrArg List.length (layouts_ofItems id items)
    rw [declared, List.length_map, List.length_take] at length
    have few : (named declarations).length ≤ Limits.layoutsPerInterface := by omega
    rw [whole, alone, List.take_of_length_le few, List.take_of_length_le]
    exact Nat.le_trans (List.length_filter_le _ _) few
  · rw [namesReports_ofItems, namesReports_ofItems, List.any_map]
    congr 1
    funext item
    exact Descriptor.ShortItem.namesReport_keeping kept item

end Interface

end HidBridge
