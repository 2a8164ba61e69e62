/-
Open collections, and the applications of reports. What is remembered of the open collections
is the outermost of them, and all others are counted, also where collections are left that were
never entered. The application of a report is the innermost one among those remembered at the
first item that gives the report data, and nothing behind that item changes it.
-/

import HidBridge.Proofs.Layout.Exact
import HidBridge.Proofs.Layout.Reports
import HidBridge.Proofs.Layout.Truncation

namespace HidBridge

namespace Descriptor

namespace History

def collection (history : History) (kind : Nat) : Collection :=
  { kind, usage := { page := history.page, code := history.usageOf 0 } }

/-- The open collections, outermost first, after one more item. An end outside all of them
leaves none. -/
def nest (history : History) (opened : List Collection) (item : ShortItem) : List Collection :=
  if item.kind = .mainItem ∧ item.tag = 0xA then opened ++ [history.collection item.data]
  else if item.kind = .mainItem ∧ item.tag = 0xC then opened.dropLast
  else opened

def openedFrom (history : History) (opened : List Collection) : List ShortItem → List Collection
  | [] => opened
  | item :: rest => openedFrom (history ++ [item]) (history.nest opened item) rest

/-- The open collections, however many there are. -/
def opened (history : History) : List Collection := openedFrom [] [] history

theorem openedFrom_append (history : History) (opened : List Collection)
    (items : List ShortItem) (item : ShortItem) :
    openedFrom history opened (items ++ [item]) =
      nest (history ++ items) (openedFrom history opened items) item := by
  induction items generalizing history opened with
  | nil => rw [List.nil_append, openedFrom, openedFrom, openedFrom, List.append_nil]
  | cons first rest ih =>
      rw [List.cons_append, openedFrom, ih, openedFrom, List.append_assoc, List.singleton_append]

theorem opened_append (history : History) (item : ShortItem) :
    opened (history ++ [item]) = history.nest history.opened item :=
  openedFrom_append [] [] history item

def application? (history : History) : Option Usage :=
  ((history.opened.take Limits.collectionDepth).reverse.find? (fun collection =>
    collection.kind == Collection.application)).map Collection.usage

structure Declares (history : History) (item : ShortItem) (report : ReportId × Direction) :
    Prop where
  direction : item.direction? = some report.2
  reportId : history.reportId = report.1
  size : 1 ≤ history.unitSize
  count : 1 ≤ history.unitCount

end History

namespace Nesting

/-- The outermost of the open collections are remembered, and the others are counted. -/
structure Tracks (nesting : Nesting) (opened : List Collection) : Prop where
  depth : opened.length = nesting.remembered.length + nesting.deeper
  outermost : nesting.remembered.reverse = opened.take Limits.collectionDepth
  full : 0 < nesting.deeper → nesting.remembered.length = Limits.collectionDepth

variable {nesting : Nesting} {opened : List Collection}

theorem Tracks.length (tracks : nesting.Tracks opened) :
    nesting.remembered.length = min Limits.collectionDepth opened.length := by
  rw [← List.length_reverse, tracks.outermost, List.length_take]

theorem Tracks.enter (tracks : nesting.Tracks opened) (collection : Collection) :
    (nesting.enter collection).Tracks (opened ++ [collection]) := by
  have length := tracks.length
  have depth := tracks.depth
  unfold Nesting.enter
  split
  · rename_i room
    have few : opened.length < Limits.collectionDepth := by omega
    have whole : opened.take Limits.collectionDepth = opened :=
      List.take_of_length_le (Nat.le_of_lt few)
    refine { depth := ?_, outermost := ?_, full := ?_ }
    · simp only [List.length_append, List.length_cons, List.length_nil]
      omega
    · rw [List.reverse_cons, tracks.outermost, whole, List.take_of_length_le]
      simp only [List.length_append, List.length_singleton]
      omega
    · intro deeper
      have none := tracks.full deeper
      omega
  · rename_i full
    refine { depth := ?_, outermost := ?_, full := ?_ }
    · simp only [List.length_append, List.length_singleton]
      omega
    · rw [tracks.outermost, List.take_append_of_le_length]
      omega
    · intro _deeper
      dsimp only
      omega

theorem Tracks.leave (tracks : nesting.Tracks opened) : nesting.leave.Tracks opened.dropLast := by
  have length := tracks.length
  have depth := tracks.depth
  unfold Nesting.leave
  split
  · rename_i deeper
    have full := tracks.full deeper
    refine { depth := ?_, outermost := ?_, full := fun _deeper => full }
    · dsimp only
      rw [List.length_dropLast]
      omega
    · rw [tracks.outermost, List.dropLast_eq_take, List.take_take]
      congr 1
      omega
  · -- No collection is only counted, so all that are open are remembered.
    rename_i none
    have few : opened.length ≤ Limits.collectionDepth := by omega
    refine { depth := ?_, outermost := ?_, full := fun deeper => absurd deeper none }
    · dsimp only
      rw [List.length_dropLast, List.length_tail]
      omega
    · have less : opened.dropLast.length ≤ Limits.collectionDepth := by
        rw [List.length_dropLast]
        omega
      rw [← List.dropLast_reverse, tracks.outermost, List.take_of_length_le few,
        List.take_of_length_le less]

end Nesting

namespace Context

variable (history : History)

theorem collection_after (kind : Nat) :
    (initial.after history).collection kind = history.collection kind := by
  obtain ⟨globals, locals⟩ := after_initial history
  have first : history.locals.usageOf 0 = history.usageOf 0 :=
    Entry.usageOf_locals history (by decide)
  simp only [collection, globals, locals, first]
  rfl

theorem tracks_after : (initial.after history).nesting.Tracks history.opened := by
  induction history using List.reverseRecOn with
  | nil => exact { depth := rfl, outermost := rfl, full := nofun }
  | append_singleton history item ih =>
      rw [after_append, History.opened_append]
      cases kind : item.kind with
      | mainItem =>
          by_cases enters : item.tag = 0xA
          · simp only [take, nest, History.nest, kind, enters, collection_after]
            exact ih.enter _
          · by_cases leaves : item.tag = 0xC
            · simp only [take, nest, History.nest, kind, leaves]
              exact ih.leave
            · simpa [take, nest, History.nest, kind, enters, leaves] using ih
      | globalItem => simpa [take, History.nest, kind] using ih
      | localItem => simpa [take, History.nest, kind] using ih
      | reserved => simpa [take, History.nest, kind] using ih

theorem application?_after :
    (initial.after history).nesting.application? = history.application? := by
  have outermost := List.reverse_eq_iff.mp (tracks_after history).outermost
  rw [Nesting.application?, outermost, History.application?]

end Context

theorem History.Declares.exists_declared {history : History} {item : ShortItem}
    {report : ReportId × Direction} (declares : history.Declares item report) :
    ∃ declaration, (Context.initial.after history).declared? item = some declaration ∧
      declaration.report = report := by
  have globals := (Context.after_initial history).1
  have some_data : ¬(history.globals.unitSize = 0 ∨ history.globals.unitCount = 0) := by
    have size := declares.size
    have count := declares.count
    simp only [History.globals]
    omega
  refine ⟨(Context.initial.after history).declaration report.2 item.data, ?_, ?_⟩
  · rw [Context.declared?, globals, if_neg some_data, declares.direction, Option.map_some]
  · rw [Declaration.report, Context.declaration, globals]
    exact Prod.ext declares.reportId rfl

/-- What is declared behind a history is for the report that the history names, with the
application that it has opened. -/
theorem History.declares_of_declared {history : History} {item : ShortItem}
    {declaration : Declaration}
    (declared : (Context.initial.after history).declared? item = some declaration) :
    history.Declares item declaration.report ∧
      declaration.application = history.application? := by
  have globals := (Context.after_initial history).1
  rw [Context.declared?, globals] at declared
  split at declared
  · cases declared
  · rename_i some_data
    obtain ⟨direction, found, same⟩ := Option.map_eq_some_iff.mp declared
    simp only [History.globals] at some_data
    rw [← same]
    refine ⟨{ direction := found, reportId := ?_, size := by omega, count := by omega }, ?_⟩
    · rw [Declaration.report, Context.declaration, globals]
      rfl
    · exact Context.application?_after history

/-- The items before the first one that gives data to a report. -/
structure FirstUse (items : List ShortItem) (report : ReportId × Direction) (before : History) :
    Prop where
  declares : ∃ item after, items = before ++ item :: after ∧ before.Declares item report
  first : ∀ earlier item between, before = earlier ++ item :: between →
    ¬History.Declares earlier item report

theorem FirstUse.append {items : List ShortItem} {report : ReportId × Direction}
    {before : History} (firstUse : FirstUse items report before) (more : List ShortItem) :
    FirstUse (items ++ more) report before where
  declares := by
    obtain ⟨item, after, split, declares⟩ := firstUse.declares
    exact ⟨item, after ++ more, by rw [split, List.append_assoc, List.cons_append], declares⟩
  first := firstUse.first

theorem mem_declarations {earlier between : List ShortItem} {item : ShortItem}
    {report : ReportId × Direction} (declares : History.Declares earlier item report) :
    report ∈ (Context.initial.declarations (earlier ++ item :: between)).map
      Declaration.report := by
  obtain ⟨declaration, declared, same⟩ := declares.exists_declared
  refine List.mem_map.mpr ⟨declaration, ?_, same⟩
  rw [Context.declarations_append, Context.declarations, declared]
  exact List.mem_append_right _ List.mem_cons_self

theorem application_ofReport {items : List ShortItem} {report : ReportId × Direction}
    (named : report ∈ (Context.initial.declarations items).map Declaration.report) :
    ∃ before, FirstUse items report before ∧
      (Layout.ofReport report (Context.initial.declarations items)).application =
        before.application? := by
  -- By induction on the items: the last one is the first use of a report that had none, and else
  -- neither the first use nor the application is another one.
  induction items using List.reverseRecOn with
  | nil => cases named
  | append_singleton items item ih =>
      have declared : Context.initial.declarations (items ++ [item]) =
          Context.initial.declarations items ++
            ((Context.initial.after items).declared? item).toList := by
        rw [Context.declarations_append]
        simp only [Context.declarations]
        cases (Context.initial.after items).declared? item <;> rfl
      rw [declared] at named ⊢
      by_cases known : report ∈ (Context.initial.declarations items).map Declaration.report
      · obtain ⟨before, firstUse, same⟩ := ih known
        refine ⟨before, firstUse.append [item], ?_⟩
        rw [← same]
        cases (Context.initial.after items).declared? item with
        | none => rw [Option.toList, List.append_nil]
        | some declaration =>
            rw [Option.toList]
            by_cases own : declaration.report = report
            · rw [Layout.ofReport_append_known _ own known, Layout.application_emit]
            · rw [Layout.ofReport_append_other _ own]
      · rw [List.map_append, List.mem_append] at named
        obtain ⟨declaration, found, own⟩ := List.mem_map.mp (named.resolve_left known)
        have last := Option.mem_toList.mp found
        obtain ⟨declares, application⟩ := History.declares_of_declared last
        rw [own] at declares
        refine ⟨items, { declares := ⟨item, [], rfl, declares⟩, first := ?_ }, ?_⟩
        · intro earlier other between split sooner
          rw [split] at known
          exact known (mem_declarations sooner)
        · rw [Option.mem_def.mp last, Option.toList, Layout.ofReport_append_new _ own known,
            Layout.ofDeclaration, Layout.application_emit]
          exact application

end Descriptor

def Layout.heading (layout : Layout) : (ReportId × Direction) × Option Usage :=
  (layout.report, layout.application)

theorem Layout.headings_of_grows {before after : List Layout}
    (grows : List.Forall₂ Layout.Grows before after) :
    after.map heading = before.map heading := by
  induction grows with
  | nil => rfl
  | cons one _rest ih =>
      simp only [List.map_cons, ih, heading, report, one.reportId, one.direction, one.application]

namespace Interface

open Descriptor

/-- Behind any items, what is remembered are the outermost of the open collections, up to as many
as are ever remembered, and all others are counted. The application of a layout is the innermost
one among those remembered at the first item that gives its report data, and it stays the same
whatever items follow. -/
theorem applications_ofItems (id : InterfaceId) (items : List ShortItem) :
    (Context.initial.after items).nesting.Tracks (History.opened items) ∧
      (∀ layout, layout ∈ (ofItems id items).layouts →
        ∃ before, FirstUse items layout.report before ∧
          layout.application = before.application?) ∧
      ∀ more, (ofItems id items).layouts.map Layout.heading <+:
        (ofItems id (items ++ more)).layouts.map Layout.heading := by
  refine ⟨Context.tracks_after items, ?_, ?_⟩
  · intro layout member
    rw [layouts_ofItems] at member
    obtain ⟨report, early, same⟩ := List.mem_map.mp member
    have named := mem_named.mp (List.mem_of_mem_take early)
    rw [← same, Layout.report_ofReport]
    exact application_ofReport named
  · intro more
    obtain ⟨grown, others, layouts, grows⟩ := (grows_ofItems id items more).layouts
    rw [layouts, List.map_append, Layout.headings_of_grows grows]
    exact List.prefix_append _ _

/-- In a mouse seven more collections are open, and inside them a keyboard, where the first report
gets its data. Then more collections are left than were entered, and in a keyboard of its own the
second report gets its data. -/
def overNested : List UInt8 :=
  [0x05, 0x01, 0x75, 0x08, 0x95, 0x01, 0x85, 0x01, 0x09, 0x02, 0xA1, 0x01,
    0xA1, 0x00, 0xA1, 0x00, 0xA1, 0x00, 0xA1, 0x00, 0xA1, 0x00, 0xA1, 0x00, 0xA1, 0x00,
    0x09, 0x06, 0xA1, 0x01, 0x09, 0x30, 0x81, 0x06,
    0xC0, 0xC0, 0xC0, 0xC0, 0xC0, 0xC0, 0xC0, 0xC0, 0xC0, 0xC0, 0xC0, 0xC0,
    0x09, 0x06, 0xA1, 0x01, 0x85, 0x02, 0x81, 0x02, 0xC0]

theorem overNested_applications :
    let items := shortItems overNested
    (ofItems 0 items).layouts.map Layout.heading =
        [((1, .input), some ⟨0x01, 0x02⟩), ((2, .input), some ⟨0x01, 0x06⟩)] ∧
      (∃ before, FirstUse items (1, .input) before ∧ before.application? = some ⟨0x01, 0x02⟩) ∧
      (History.opened (items.take 15)).length = 9 ∧
      (Context.initial.after (items.take 15)).nesting.deeper = 1 := by
  intro items
  have headings : (ofItems 0 items).layouts.map Layout.heading =
      [((1, .input), some ⟨0x01, 0x02⟩), ((2, .input), some ⟨0x01, 0x06⟩)] := by
    decide
  have nonempty : (ofItems 0 items).layouts ≠ [] := by decide
  obtain ⟨_tracks, applications, _stays⟩ := applications_ofItems 0 items
  obtain ⟨before, firstUse, application⟩ := applications _ (List.head_mem nonempty)
  refine ⟨headings, ⟨before, firstUse, application.symm⟩, by decide, by decide⟩

end Interface

end HidBridge
