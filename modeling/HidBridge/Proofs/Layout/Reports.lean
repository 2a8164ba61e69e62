/-
The layouts of an interface, each by itself. A report that declarations name has a layout
exactly if it is among the first that are named, and what its layout comes to depends on the
declarations for that report alone.
-/

import HidBridge.Descriptor.Declarations
import HidBridge.Proofs.Keyed
import HidBridge.Proofs.Layout.Append
import Mathlib.Data.List.Induction

namespace HidBridge

def Declaration.report (declaration : Declaration) : ReportId × Direction :=
  (declaration.reportId, declaration.direction)

namespace Layout

def report (layout : Layout) : ReportId × Direction := (layout.reportId, layout.direction)

theorem serves_report_iff {layout : Layout} {declaration : Declaration} :
    layout.serves declaration.reportId declaration.direction = true ↔
      layout.report = declaration.report := by
  rw [serves_iff, report, Declaration.report, Prod.mk.injEq]

/-- What declarations make of one report, whichever others they are for. -/
def ofReport (report : ReportId × Direction) (declarations : List Declaration) : Layout :=
  let own := declarations.filter (fun declaration => decide (declaration.report = report))
  own.foldl (fun layout declaration => layout.emit declaration.emission)
    (empty report.1 report.2 (own.head?.bind Declaration.application))

section OneMore

variable {report : ReportId × Direction} (declarations : List Declaration)
  {declaration : Declaration}

theorem ofReport_append_other (other : declaration.report ≠ report) :
    ofReport report (declarations ++ [declaration]) = ofReport report declarations := by
  have same : (declarations ++ [declaration]).filter
      (fun declaration => decide (declaration.report = report)) =
        declarations.filter (fun declaration => decide (declaration.report = report)) := by
    rw [List.filter_append, List.filter_cons_of_neg, List.filter_nil, List.append_nil]
    exact Bool.eq_false_iff.mp (decide_eq_false other)
  unfold ofReport
  rw [same]

theorem filter_append_own (own : declaration.report = report) :
    (declarations ++ [declaration]).filter
        (fun declaration => decide (declaration.report = report)) =
      declarations.filter (fun declaration => decide (declaration.report = report)) ++
        [declaration] := by
  rw [List.filter_append, List.filter_cons_of_pos, List.filter_nil]
  exact decide_eq_true own

theorem ofReport_append_known (own : declaration.report = report)
    (known : report ∈ declarations.map Declaration.report) :
    ofReport report (declarations ++ [declaration]) =
      (ofReport report declarations).emit declaration.emission := by
  obtain ⟨earlier, member, same⟩ := List.mem_map.mp known
  have present : earlier ∈ declarations.filter
      (fun declaration => decide (declaration.report = report)) :=
    List.mem_filter.mpr ⟨member, decide_eq_true same⟩
  unfold ofReport
  rw [filter_append_own declarations own, List.foldl_append, List.foldl_cons, List.foldl_nil,
    List.head?_append]
  cases listed : declarations.filter
      (fun declaration => decide (declaration.report = report)) with
  | nil =>
      rw [listed] at present
      cases present
  | cons first rest => rfl

theorem ofReport_append_new (own : declaration.report = report)
    (unknown : report ∉ declarations.map Declaration.report) :
    ofReport report (declarations ++ [declaration]) = ofDeclaration declaration := by
  have none : declarations.filter
      (fun declaration => decide (declaration.report = report)) = [] := by
    apply List.filter_eq_nil_iff.mpr
    intro earlier member same
    exact unknown (List.mem_map.mpr ⟨earlier, member, of_decide_eq_true same⟩)
  unfold ofReport
  rw [filter_append_own declarations own, none, ← own]
  rfl

theorem report_ofReport (report : ReportId × Direction) (declarations : List Declaration) :
    (ofReport report declarations).report = report := by
  induction declarations using List.reverseRecOn with
  | nil => rfl
  | append_singleton declarations declaration ih =>
      by_cases own : declaration.report = report
      · by_cases known : report ∈ declarations.map Declaration.report
        · obtain ⟨reportId, direction⟩ :=
            reportId_emit (ofReport report declarations) declaration.emission
          rw [ofReport_append_known declarations own known]
          exact (Prod.ext reportId direction).trans ih
        · obtain ⟨reportId, direction⟩ := reportId_ofDeclaration declaration
          rw [ofReport_append_new declarations own known, ← own]
          exact Prod.ext reportId direction
      · rw [ofReport_append_other declarations own]
        exact ih

end OneMore

end Layout

namespace Interface

def named (declarations : List Declaration) : List (ReportId × Direction) :=
  (declarations.map Declaration.report).eraseDups

theorem mem_named {declarations : List Declaration} {report : ReportId × Direction} :
    report ∈ named declarations ↔ report ∈ declarations.map Declaration.report :=
  List.mem_eraseDups

theorem named_append_known {declarations : List Declaration} {declaration : Declaration}
    (known : declaration.report ∈ named declarations) :
    named (declarations ++ [declaration]) = named declarations := by
  rw [named, List.map_append, List.map_singleton, eraseDups_append_known (mem_named.mp known),
    named]

theorem named_append_new {declarations : List Declaration} {declaration : Declaration}
    (unknown : declaration.report ∉ named declarations) :
    named (declarations ++ [declaration]) = named declarations ++ [declaration.report] := by
  have absent : declaration.report ∉ declarations.map Declaration.report :=
    fun known => unknown (mem_named.mpr known)
  rw [named, List.map_append, List.map_singleton, eraseDups_append_new absent, named]

def firstNamed (declarations : List Declaration) : List (ReportId × Direction) :=
  (named declarations).take Limits.layoutsPerInterface

section OneMore

variable {before : Interface} {declarations : List Declaration} {declaration : Declaration}
  (layouts : before.layouts =
    (firstNamed declarations).map (fun report => Layout.ofReport report declarations))

include layouts

theorem mem_firstNamed_of_serves {layout : Layout} (member : layout ∈ before.layouts)
    (serves : layout.serves declaration.reportId declaration.direction = true) :
    declaration.report ∈ firstNamed declarations := by
  rw [layouts] at member
  obtain ⟨report, early, same⟩ := List.mem_map.mp member
  rw [← Layout.serves_report_iff.mp serves, ← same, Layout.report_ofReport]
  exact early

theorem not_mem_firstNamed
    (unknown : ∀ layout, layout ∈ before.layouts →
      layout.serves declaration.reportId declaration.direction = false) :
    declaration.report ∉ firstNamed declarations := by
  intro early
  have member := List.mem_map_of_mem
    (f := fun report => Layout.ofReport report declarations) early
  rw [← layouts] at member
  have serves := Layout.serves_report_iff.mpr
    (Layout.report_ofReport declaration.report declarations)
  rw [unknown _ member] at serves
  cases serves

theorem map_ofReport_append_other (unknown : declaration.report ∉ firstNamed declarations) :
    (firstNamed declarations).map (fun report =>
        Layout.ofReport report (declarations ++ [declaration])) = before.layouts := by
  rw [layouts]
  apply List.map_congr_left
  intro report early
  apply Layout.ofReport_append_other
  intro same
  rw [same] at unknown
  exact unknown early

omit layouts in
theorem receive_ofReport (known : declaration.report ∈ named declarations)
    (report : ReportId × Direction) :
    (Layout.ofReport report declarations).receive declaration =
      Layout.ofReport report (declarations ++ [declaration]) := by
  unfold Layout.receive
  by_cases own : declaration.report = report
  · have serves := Layout.serves_report_iff.mpr
      ((Layout.report_ofReport report declarations).trans own.symm)
    rw [if_pos serves, Layout.ofReport_append_known declarations own (own ▸ mem_named.mp known)]
  · rw [if_neg, Layout.ofReport_append_other declarations own]
    intro serves
    exact own ((Layout.serves_report_iff.mp serves).symm.trans
      (Layout.report_ofReport report declarations))

theorem layouts_declare (declaration : Declaration) :
    (before.declare declaration).layouts =
      (firstNamed (declarations ++ [declaration])).map (fun report =>
        Layout.ofReport report (declarations ++ [declaration])) := by
  have length := congrArg List.length layouts
  rw [List.length_map, firstNamed, List.length_take] at length
  rcases before.declare_cases declaration with
    ⟨⟨layout, member, serves⟩, declared⟩ | ⟨unknown, room, declared⟩ | ⟨unknown, full, declared⟩
  · have present := List.mem_of_mem_take (mem_firstNamed_of_serves layouts member serves)
    rw [declared, firstNamed, named_append_known present, ← firstNamed, layouts, List.map_map]
    apply List.map_congr_left
    intro report _member
    exact receive_ofReport present report
  · have absent := not_mem_firstNamed layouts unknown
    have same := map_ofReport_append_other layouts absent
    have few : (named declarations).length < Limits.layoutsPerInterface := by omega
    have all : firstNamed declarations = named declarations :=
      List.take_of_length_le (Nat.le_of_lt few)
    rw [all] at absent same
    rw [declared, firstNamed, named_append_new absent, List.take_of_length_le, List.map_append,
      same, List.map_singleton, Layout.ofReport_append_new declarations rfl
        (fun known => absent (mem_named.mpr known))]
    rw [List.length_append, List.length_singleton]
    exact few
  · have absent := not_mem_firstNamed layouts unknown
    have many : Limits.layoutsPerInterface ≤ (named declarations).length := by omega
    have still : firstNamed (declarations ++ [declaration]) = firstNamed declarations := by
      unfold firstNamed
      by_cases late : declaration.report ∈ named declarations
      · rw [named_append_known late]
      · rw [named_append_new late, List.take_append_of_le_length many]
    rw [declared, still, map_ofReport_append_other layouts absent]

end OneMore

/-- The layouts are those of the reports named first, each by itself. -/
theorem layouts_declare_all {interface : Interface} (none : interface.layouts = [])
    (declarations : List Declaration) :
    (declarations.foldl declare interface).layouts =
      (firstNamed declarations).map (fun report => Layout.ofReport report declarations) := by
  induction declarations using List.reverseRecOn with
  | nil => exact none
  | append_singleton declarations declaration ih =>
      rw [List.foldl_append, List.foldl_cons, List.foldl_nil]
      exact layouts_declare ih declaration

theorem layouts_ofItems (id : InterfaceId) (items : List Descriptor.ShortItem) :
    (ofItems id items).layouts =
      ((named (Descriptor.Context.initial.declarations items)).take
        Limits.layoutsPerInterface).map (fun report =>
          Layout.ofReport report (Descriptor.Context.initial.declarations items)) :=
  layouts_declare_all rfl _

end Interface

end HidBridge
