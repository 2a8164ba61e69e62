/-
The layouts of a descriptor that asks for no more than there is room for. There
is one layout for each report that an entry names, in the order of first use,
and it has the fields and the bits that the entries of the report ask for. So
none of the limits of the library can be seen in such layouts.
-/

import HidBridge.Proofs.Layout.Grants

namespace HidBridge

namespace Descriptor

theorem declared?_eq (history : History) (item : ShortItem) :
    (Context.initial.after history).declared? item =
      (entryOf? history item).map Entry.declaration := by
  have context := Context.after_initial history
  unfold Context.declared? entryOf?
  rw [context.1]
  cases item.direction? with
  | none => exact ite_self none
  | some direction =>
      by_cases positive : 1 ≤ history.unitSize ∧ 1 ≤ history.unitCount
      · have nonzero : ¬(history.globals.unitSize = 0 ∨ history.globals.unitCount = 0) := by
          simp only [History.globals]
          omega
        simp only [if_neg nonzero, dif_pos positive, Option.map_some]
        rfl
      · have zero : history.globals.unitSize = 0 ∨ history.globals.unitCount = 0 := by
          simp only [History.globals]
          omega
        simp only [if_pos zero, dif_neg positive, Option.map_none]

theorem declarations_eq (history : History) (items : List ShortItem) :
    (Context.initial.after history).declarations items =
      (entriesFrom history items).map Entry.declaration := by
  induction items generalizing history with
  | nil => rfl
  | cons item rest ih =>
      have later := ih (history ++ [item])
      rw [Context.after_append] at later
      simp only [Context.declarations, entriesFrom, declared?_eq, later, List.map_append]
      cases entryOf? history item <;> rfl

end Descriptor

/-- A layout without the application that it belongs to. -/
structure Content where
  reportId : ReportId
  direction : Direction
  fields : List Field
  bits : Nat
  deriving DecidableEq

def Layout.content (layout : Layout) : Content :=
  { reportId := layout.reportId
    direction := layout.direction
    fields := layout.fields
    bits := layout.bits }

def Content.ofEntries (entries : List Descriptor.Entry) (report : ReportId × Direction) : Content :=
  { reportId := report.1
    direction := report.2
    fields := Descriptor.fieldsFrom 0 (Descriptor.entriesOf report entries)
    bits := Descriptor.totalBits (Descriptor.entriesOf report entries) }

namespace Content

def add (content : Content) (entry : Descriptor.Entry) : Content :=
  { content with
    fields := content.fields ++ entry.fields.map (fun field => field.shift content.bits)
    bits := content.bits + entry.bits }

theorem ofEntries_append_same (entries : List Descriptor.Entry) (entry : Descriptor.Entry) :
    ofEntries (entries ++ [entry]) entry.report = (ofEntries entries entry.report).add entry := by
  simp only [ofEntries, add, Descriptor.entriesOf_append_same entries rfl,
    Descriptor.fieldsFrom_append, Descriptor.totalBits_append, Nat.zero_add]

theorem ofEntries_append_other {report : ReportId × Direction} (entries : List Descriptor.Entry)
    {entry : Descriptor.Entry} (other : entry.report ≠ report) :
    ofEntries (entries ++ [entry]) report = ofEntries entries report := by
  simp only [ofEntries, Descriptor.entriesOf_append_other entries other]

theorem ofEntries_unnamed {report : ReportId × Direction} {entries : List Descriptor.Entry}
    (unnamed : report ∉ Descriptor.reports entries) :
    ofEntries entries report =
      { reportId := report.1, direction := report.2, fields := [], bits := 0 } := by
  have none : Descriptor.entriesOf report entries = [] := by
    apply List.filter_eq_nil_iff.mpr
    intro entry member same
    exact unnamed (Descriptor.mem_reports.mpr ⟨entry, member, of_decide_eq_true same⟩)
  simp only [ofEntries, none]
  rfl

theorem room_of_modest {entries : List Descriptor.Entry} {entry : Descriptor.Entry}
    (modest : Descriptor.Modest (entries ++ [entry])) :
    (ofEntries entries entry.report).fields.length + entry.fields.length ≤ Limits.reportFields ∧
      (ofEntries entries entry.report).bits + entry.bits ≤ Limits.reportBits := by
  have present : entry.report ∈ Descriptor.reports (entries ++ [entry]) :=
    Descriptor.mem_reports.mpr
      ⟨entry, List.mem_append_right _ (List.mem_singleton_self entry), rfl⟩
  have fewFields : (ofEntries (entries ++ [entry]) entry.report).fields.length ≤
      Limits.reportFields := modest.fewFields entry.report present
  have fewBits : (ofEntries (entries ++ [entry]) entry.report).bits ≤ Limits.reportBits :=
    modest.fewBits entry.report present
  rw [ofEntries_append_same] at fewFields fewBits
  simp only [add, List.length_append, List.length_map] at fewFields fewBits
  exact ⟨fewFields, fewBits⟩

end Content

namespace Layout

theorem content_emit_entry {layout : Layout} {entry : Descriptor.Entry}
    (room : layout.HasRoom entry.fields.length entry.bits) :
    (layout.emit entry.declaration.emission).content = layout.content.add entry := by
  rw [Descriptor.Entry.emit_entry room]
  rfl

theorem serves_declaration {layout : Layout} {entry : Descriptor.Entry} :
    layout.serves entry.declaration.reportId entry.declaration.direction = true ↔
      (layout.reportId, layout.direction) = entry.report := by
  rw [serves_iff, ← entry.report_declaration, Prod.mk.injEq]

end Layout

namespace Interface

open Descriptor

/-- The contents of an interface are those that entries give to their reports. -/
def Holds (interface : Interface) (entries : List Entry) : Prop :=
  interface.layouts.map Layout.content = (reports entries).map (Content.ofEntries entries)

theorem Holds.mem_reports {interface : Interface} {entries : List Entry}
    (holds : interface.Holds entries) {layout : Layout} (member : layout ∈ interface.layouts) :
    (layout.reportId, layout.direction) ∈ reports entries ∧
      layout.content = Content.ofEntries entries (layout.reportId, layout.direction) := by
  have given : layout.content ∈ (reports entries).map (Content.ofEntries entries) := by
    rw [← holds]
    exact List.mem_map_of_mem member
  obtain ⟨report, named, same⟩ := List.mem_map.mp given
  have reportEq : report = (layout.reportId, layout.direction) :=
    Prod.ext (congrArg Content.reportId same) (congrArg Content.direction same)
  rw [← reportEq]
  exact ⟨named, same.symm⟩

theorem Holds.exists_layout {interface : Interface} {entries : List Entry}
    (holds : interface.Holds entries) {report : ReportId × Direction}
    (named : report ∈ reports entries) :
    ∃ layout, layout ∈ interface.layouts ∧ (layout.reportId, layout.direction) = report := by
  have given : Content.ofEntries entries report ∈ interface.layouts.map Layout.content := by
    rw [holds]
    exact List.mem_map_of_mem named
  obtain ⟨layout, member, same⟩ := List.mem_map.mp given
  exact ⟨layout, member, Prod.ext (congrArg Content.reportId same) (congrArg Content.direction same)⟩

theorem Holds.hasRoom {interface : Interface} {entries : List Entry} {entry : Entry}
    (holds : interface.Holds entries) (modest : Modest (entries ++ [entry])) {layout : Layout}
    (member : layout ∈ interface.layouts)
    (named : (layout.reportId, layout.direction) = entry.report) :
    layout.HasRoom entry.fields.length entry.bits := by
  have content := (holds.mem_reports member).2
  rw [named] at content
  have room := Content.room_of_modest modest
  rw [← content] at room
  exact room

theorem Holds.declare_known {interface : Interface} {entries : List Entry} {entry : Entry}
    (holds : interface.Holds entries) (modest : Modest (entries ++ [entry]))
    (named : entry.report ∈ reports entries) :
    (interface.layouts.map (Layout.receive entry.declaration)).map Layout.content =
      (reports (entries ++ [entry])).map (Content.ofEntries (entries ++ [entry])) := by
  have received : ∀ layout, layout ∈ interface.layouts →
      (layout.receive entry.declaration).content =
        Content.ofEntries (entries ++ [entry]) (layout.reportId, layout.direction) := by
    intro layout member
    have content := (holds.mem_reports member).2
    unfold Layout.receive
    by_cases same : (layout.reportId, layout.direction) = entry.report
    · rw [if_pos (Layout.serves_declaration.mpr same),
        Layout.content_emit_entry (holds.hasRoom modest member same), content, same,
        Content.ofEntries_append_same]
    · rw [if_neg (fun served => same (Layout.serves_declaration.mp served)), content,
        Content.ofEntries_append_other entries (fun other => same other.symm)]
  rw [reports_append, if_pos named, List.map_map]
  calc
    interface.layouts.map (Layout.content ∘ Layout.receive entry.declaration) =
        interface.layouts.map (fun layout =>
          Content.ofEntries (entries ++ [entry]) (layout.reportId, layout.direction)) :=
      List.map_congr_left received
    _ = (interface.layouts.map Layout.content).map (fun content =>
          Content.ofEntries (entries ++ [entry]) (content.reportId, content.direction)) := by
      rw [List.map_map]
      rfl
    _ = ((reports entries).map (Content.ofEntries entries)).map (fun content =>
          Content.ofEntries (entries ++ [entry]) (content.reportId, content.direction)) := by
      rw [holds]
    _ = (reports entries).map (Content.ofEntries (entries ++ [entry])) := by
      rw [List.map_map]
      rfl

theorem Holds.declare_new {interface : Interface} {entries : List Entry} {entry : Entry}
    (holds : interface.Holds entries) (modest : Modest (entries ++ [entry]))
    (unnamed : entry.report ∉ reports entries) :
    (interface.layouts ++ [Layout.ofDeclaration entry.declaration]).map Layout.content =
      (reports (entries ++ [entry])).map (Content.ofEntries (entries ++ [entry])) := by
  have others : (reports entries).map (Content.ofEntries (entries ++ [entry])) =
      (reports entries).map (Content.ofEntries entries) := by
    apply List.map_congr_left
    intro report named
    apply Content.ofEntries_append_other entries
    intro same
    rw [same] at unnamed
    exact unnamed named
  have created : (Layout.ofDeclaration entry.declaration).content =
      Content.ofEntries (entries ++ [entry]) entry.report := by
    have room := Content.room_of_modest modest
    rw [Content.ofEntries_unnamed unnamed] at room
    rw [Content.ofEntries_append_same, Content.ofEntries_unnamed unnamed,
      ← entry.report_declaration]
    exact Layout.content_emit_entry room
  rw [reports_append, if_neg unnamed, List.map_append, List.map_append, holds, others,
    List.map_singleton, List.map_singleton, created]

theorem Holds.declare {interface : Interface} {entries : List Entry} {entry : Entry}
    (holds : interface.Holds entries) (modest : Modest (entries ++ [entry])) :
    (interface.declare entry.declaration).Holds (entries ++ [entry]) := by
  have served : (∃ layout, layout ∈ interface.layouts ∧
      layout.serves entry.declaration.reportId entry.declaration.direction = true) ↔
        entry.report ∈ reports entries := by
    constructor
    · intro ⟨layout, member, serves⟩
      rw [← Layout.serves_declaration.mp serves]
      exact (holds.mem_reports member).1
    · intro named
      obtain ⟨layout, member, same⟩ := holds.exists_layout named
      exact ⟨layout, member, Layout.serves_declaration.mpr same⟩
  have unserved (unknown : ∀ layout, layout ∈ interface.layouts →
      layout.serves entry.declaration.reportId entry.declaration.direction = false) :
      entry.report ∉ reports entries := by
    intro named
    obtain ⟨layout, member, serves⟩ := served.mpr named
    rw [unknown layout member] at serves
    cases serves
  unfold Holds
  rcases interface.declare_cases entry.declaration with
    ⟨known, declared⟩ | ⟨unknown, _room, declared⟩ | ⟨unknown, full, _declared⟩
  · rw [declared]
    exact holds.declare_known modest (served.mp known)
  · rw [declared]
    exact holds.declare_new modest (unserved unknown)
  · have few := modest.fewReports
    have length := congrArg List.length holds
    rw [List.length_map, List.length_map] at length
    rw [reports_append, if_neg (unserved unknown), List.length_append,
      List.length_singleton] at few
    omega

theorem Holds.declare_all (interface : Interface) {entries : List Entry}
    (none : interface.layouts = []) (modest : Modest entries) :
    ((entries.map Entry.declaration).foldl Interface.declare interface).Holds entries := by
  induction entries using List.reverseRecOn with
  | nil =>
      simp only [Holds, List.map_nil, List.foldl_nil, none]
      rfl
  | append_singleton entries entry ih =>
      rw [List.map_append, List.foldl_append, List.map_singleton, List.foldl_cons, List.foldl_nil]
      exact (ih modest.earlier).declare modest

/-- A descriptor that asks for no more than there is room for gets exactly one
layout for each report, with what the entries of the report describe, and usages
of a range stay within it. -/
theorem content_ofDescriptor (id : InterfaceId) {bytes : List UInt8}
    (modest : Modest (entries (shortItems bytes))) :
    (ofDescriptor id bytes).layouts.map Layout.content =
        (reports (entries (shortItems bytes))).map
          (Content.ofEntries (entries (shortItems bytes))) ∧
      (reports (entries (shortItems bytes))).Nodup ∧
      ∀ entry, entry ∈ entries (shortItems bytes) → entry.isPadding = false →
        entry.history.hasRange = true → entry.flags.isArray = false →
        ∀ field, field ∈ entry.fields →
          entry.history.usageMinimum ≤ field.usage ∧
            field.usage ≤ max entry.history.usageMinimum entry.history.usageMaximum ∧
            field.usage < 0x10000 := by
  refine ⟨?_, nodup_reports _, ?_⟩
  · have declared := declarations_eq [] (shortItems bytes)
    have layouts := Holds.declare_all
      (empty id ((shortItems bytes).any ShortItem.namesReport)) rfl modest
    rw [entries, ← declared] at layouts
    exact layouts
  · intro entry _member data range single field member
    exact entry.usage_of_range data range single member

/-- Two reports whose entries alternate: buttons of a range shorter than its
units, an array and two units of one usage in the first, and data too wide to be
read in the second, which goes in the other direction. -/
def interleaved : List UInt8 :=
  [0x85, 0x01, 0x05, 0x09, 0x75, 0x01, 0x95, 0x04, 0x19, 0x01, 0x29, 0x02, 0x81, 0x02,
    0x85, 0x02, 0x75, 0x28, 0x95, 0x01, 0x91, 0x02,
    0x85, 0x01, 0x05, 0x07, 0x75, 0x04, 0x19, 0x04, 0x29, 0x0A, 0x81, 0x00,
    0x05, 0x01, 0x09, 0x30, 0x75, 0x08, 0x95, 0x02, 0x81, 0x06]

theorem content_interleaved :
    Modest (entries (shortItems interleaved)) ∧
      (ofDescriptor 3 interleaved).layouts.map (fun layout =>
          (layout.reportId, layout.direction, layout.bits)) =
        [(1, .input, 24), (2, .output, 40)] ∧
      (ofDescriptor 3 interleaved).layouts.map (fun layout =>
          layout.fields.map (fun field =>
            (field.usage, field.usageMaximum, field.offset, field.width))) =
        [[(1, 1, 0, 1), (2, 2, 1, 1), (4, 10, 4, 4), (48, 48, 8, 8), (48, 48, 16, 8)],
          [(0, 0, 0, 40)]] := by
  have modest : Modest (entries (shortItems interleaved)) :=
    { fewReports := by decide, fewBits := by decide, fewFields := by decide }
  have exactly := (content_ofDescriptor 3 modest).1
  have read {α : Type} (part : Content → α) :
      (ofDescriptor 3 interleaved).layouts.map (fun layout => part layout.content) =
        ((reports (entries (shortItems interleaved))).map
          (Content.ofEntries (entries (shortItems interleaved)))).map part := by
    rw [← exactly, List.map_map]
    rfl
  refine ⟨modest, ?_, ?_⟩
  · refine (read (fun content => (content.reportId, content.direction, content.bits))).trans ?_
    decide
  · refine (read (fun content => content.fields.map (fun field =>
      (field.usage, field.usageMaximum, field.offset, field.width)))).trans ?_
    decide

end Interface

end HidBridge
