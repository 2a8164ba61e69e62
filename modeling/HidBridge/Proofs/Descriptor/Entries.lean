/-
The entries of a descriptor: the input and output items that give a report data,
each read together with the items before it. An entry has fields of its own and
asks for a number of bits. A report has the fields of its entries one after
another, each entry lying behind the bits of all entries before it. None of this
knows how many fields, bits or reports there is room for.
-/

import HidBridge.Proofs.Descriptor.History
import HidBridge.Proofs.Keyed

namespace HidBridge

def Field.shift (field : Field) (bits : Nat) : Field := { field with offset := bits + field.offset }

namespace Descriptor

/-- An input or output item that gives a report data, with all items before it. -/
structure Entry where
  history : History
  direction : Direction
  data : Nat
  sizePos : 1 ≤ history.unitSize
  countPos : 1 ≤ history.unitCount

namespace Entry

def report (entry : Entry) : ReportId × Direction := (entry.history.reportId, entry.direction)

/-- The bits that the entry asks for, used or not. -/
def bits (entry : Entry) : Nat := entry.history.unitSize * entry.history.unitCount

def flags (entry : Entry) : Flags := .ofData entry.data

/-- Constant data are padding, and so are data in units too wide to be read. -/
def isPadding (entry : Entry) : Bool :=
  entry.flags.isConstant || decide (Limits.readableBits < entry.history.unitSize)

def block (entry : Entry) (usage usageMaximum : Nat) : Field :=
  { page := entry.history.page
    usage
    usageMaximum
    unitSize := entry.history.unitSize
    unitCount := entry.history.unitCount
    logicalMinimum := entry.history.logicalMinimum
    logicalMaximum := entry.history.logicalMaximum
    flags := entry.flags
    offset := 0
    width := entry.bits }

def unit (entry : Entry) (index usage : Nat) : Field :=
  { entry.block usage usage with
    unitCount := 1
    offset := index * entry.history.unitSize
    width := entry.history.unitSize }

/-- The fields of an entry, with offsets from its own first bit. -/
def fields (entry : Entry) : List Field :=
  if entry.isPadding then
    [{ entry.block 0 0 with logicalMinimum := 0, logicalMaximum := 0, flags := .padding }]
  else if entry.history.hasRange then
    if entry.flags.isArray then
      [entry.block entry.history.usageMinimum entry.history.usageMaximum]
    else
      (List.range (min entry.history.unitCount entry.history.rangeLength)).map (fun index =>
        entry.unit index (entry.history.usageMinimum + index))
  else
    (List.range entry.history.unitCount).map (fun index =>
      entry.unit index (entry.history.usageOf index))

end Entry

def entryOf? (history : History) (item : ShortItem) : Option Entry :=
  match item.direction? with
  | none => none
  | some direction =>
    if positive : 1 ≤ history.unitSize ∧ 1 ≤ history.unitCount then
      some
        { history, direction, data := item.data
          sizePos := positive.1, countPos := positive.2 }
    else none

def entriesFrom (history : History) : List ShortItem → List Entry
  | [] => []
  | item :: rest => (entryOf? history item).toList ++ entriesFrom (history ++ [item]) rest

def entries (items : List ShortItem) : List Entry := entriesFrom [] items

def reports (entries : List Entry) : List (ReportId × Direction) :=
  entries.foldl
    (fun named entry => if entry.report ∈ named then named else named ++ [entry.report]) []

def entriesOf (report : ReportId × Direction) (entries : List Entry) : List Entry :=
  entries.filter (fun entry => decide (entry.report = report))

def totalBits : List Entry → Nat
  | [] => 0
  | entry :: rest => entry.bits + totalBits rest

/-- The fields of entries, each entry behind all bits of those before it. -/
def fieldsFrom : (offset : Nat) → List Entry → List Field
  | _, [] => []
  | offset, entry :: rest =>
    entry.fields.map (fun field => field.shift offset) ++ fieldsFrom (offset + entry.bits) rest

/-- No report asks for more bits or fields than there is room for, and there are
no more reports than there is room for. -/
structure Modest (entries : List Entry) : Prop where
  fewReports : (reports entries).length ≤ Limits.layoutsPerInterface
  fewBits : ∀ report, report ∈ reports entries →
    totalBits (entriesOf report entries) ≤ Limits.reportBits
  fewFields : ∀ report, report ∈ reports entries →
    (fieldsFrom 0 (entriesOf report entries)).length ≤ Limits.reportFields

/-! ### One more entry -/

theorem reports_append (entries : List Entry) (entry : Entry) :
    reports (entries ++ [entry]) =
      if entry.report ∈ reports entries then reports entries
      else reports entries ++ [entry.report] := by
  unfold reports
  rw [List.foldl_append, List.foldl_cons, List.foldl_nil]

theorem reports_eq (entries : List Entry) :
    reports entries = (entries.map Entry.report).eraseDups := by
  induction entries using List.reverseRecOn with
  | nil => rfl
  | append_singleton entries entry ih =>
      rw [reports_append, ih, List.map_append, List.map_singleton]
      split
      · rename_i known
        exact (eraseDups_append_known (List.mem_eraseDups.mp known)).symm
      · rename_i new
        exact (eraseDups_append_new (fun member => new (List.mem_eraseDups.mpr member))).symm

theorem mem_reports {entries : List Entry} {report : ReportId × Direction} :
    report ∈ reports entries ↔ ∃ entry, entry ∈ entries ∧ entry.report = report := by
  rw [reports_eq, List.mem_eraseDups, List.mem_map]

theorem nodup_reports (entries : List Entry) : (reports entries).Nodup := by
  rw [reports_eq]
  exact nodup_eraseDups _

theorem fieldsFrom_append (offset : Nat) (entries : List Entry) (entry : Entry) :
    fieldsFrom offset (entries ++ [entry]) =
      fieldsFrom offset entries ++
        entry.fields.map (fun field => field.shift (offset + totalBits entries)) := by
  induction entries generalizing offset with
  | nil => simp only [List.nil_append, fieldsFrom, List.append_nil, totalBits, Nat.add_zero]
  | cons first rest ih =>
      simp only [List.cons_append, fieldsFrom, ih, List.append_assoc, totalBits, Nat.add_assoc]

theorem totalBits_append (entries : List Entry) (entry : Entry) :
    totalBits (entries ++ [entry]) = totalBits entries + entry.bits := by
  induction entries with
  | nil => exact Nat.add_comm _ _
  | cons first rest ih => rw [List.cons_append, totalBits, totalBits, ih, Nat.add_assoc]

theorem entriesOf_append_same {report : ReportId × Direction} (entries : List Entry)
    {entry : Entry} (same : entry.report = report) :
    entriesOf report (entries ++ [entry]) = entriesOf report entries ++ [entry] := by
  unfold entriesOf
  rw [List.filter_append, List.filter_cons, if_pos (decide_eq_true same), List.filter_nil]

theorem entriesOf_append_other {report : ReportId × Direction} (entries : List Entry)
    {entry : Entry} (other : entry.report ≠ report) :
    entriesOf report (entries ++ [entry]) = entriesOf report entries := by
  unfold entriesOf
  rw [List.filter_append, List.filter_cons, if_neg (fun same => other (of_decide_eq_true same)),
    List.filter_nil, List.append_nil]

theorem Modest.earlier {entries : List Entry} {entry : Entry}
    (modest : Modest (entries ++ [entry])) : Modest entries := by
  have kept (report : ReportId × Direction) (member : report ∈ reports entries) :
      report ∈ reports (entries ++ [entry]) := by
    rw [reports_append]
    split
    · exact member
    · exact List.mem_append_left _ member
  refine { fewReports := ?_, fewBits := ?_, fewFields := ?_ }
  · have few := modest.fewReports
    rw [reports_append] at few
    split at few
    · exact few
    · rw [List.length_append] at few
      omega
  · intro report member
    have few := modest.fewBits report (kept report member)
    by_cases same : entry.report = report
    · rw [entriesOf_append_same entries same, totalBits_append] at few
      omega
    · rw [entriesOf_append_other entries same] at few
      exact few
  · intro report member
    have few := modest.fewFields report (kept report member)
    by_cases same : entry.report = report
    · rw [entriesOf_append_same entries same, fieldsFrom_append, List.length_append] at few
      omega
    · rw [entriesOf_append_other entries same] at few
      exact few

/-! ### Usages of a range -/

theorem ShortItem.lt_of_local? {item : ShortItem} {tag usage : Nat}
    (said : item.local? tag = some usage) : usage < 0x10000 := by
  unfold ShortItem.local? at said
  split at said
  · rw [← Option.some.inj said]
    exact Nat.mod_lt _ (by decide)
  · cases said

theorem History.usage_lt (history : History) (tag : Nat) :
    (history.last? (ShortItem.local? tag)).getD 0 < 0x10000 := by
  cases found : history.last? (ShortItem.local? tag) with
  | none => exact Nat.succ_pos 0xFFFF
  | some usage =>
      obtain ⟨item, _member, said⟩ := List.exists_of_findSome?_eq_some found
      exact ShortItem.lt_of_local? said

theorem History.usageOf_lt (history : History) (unit : Nat) :
    history.usageOf unit < 0x10000 := by
  have listed {usage : Nat} (member : usage ∈ history.usages) : usage < 0x10000 := by
    obtain ⟨item, _member, said⟩ := List.mem_filterMap.mp member
    exact ShortItem.lt_of_local? said
  unfold History.usageOf
  cases own : history.usages[unit]? with
  | some usage => exact listed (List.mem_of_getElem? own)
  | none =>
      cases last : history.usages.getLast? with
      | some usage => exact listed (List.mem_of_getLast? last)
      | none => exact history.usage_lt 0x0

/-- The usages of a range of variables lie within the range, so counting up from
the first of them never passes the last one or leaves the sixteen bits. -/
theorem Entry.usage_of_range {entry : Entry} (data : entry.isPadding = false)
    (range : entry.history.hasRange = true) (single : entry.flags.isArray = false)
    {field : Field} (member : field ∈ entry.fields) :
    entry.history.usageMinimum ≤ field.usage ∧
      field.usage ≤ max entry.history.usageMinimum entry.history.usageMaximum ∧
      field.usage < 0x10000 := by
  simp only [Entry.fields, data, range, single, Bool.false_eq_true, if_false, if_true] at member
  obtain ⟨index, inRange, same⟩ := List.mem_map.mp member
  have few := List.mem_range.mp inRange
  have usage : field.usage = entry.history.usageMinimum + index := by
    rw [← same]
    rfl
  have minimum : entry.history.usageMinimum < 0x10000 := entry.history.sinceMain.usage_lt 0x1
  have maximum : entry.history.usageMaximum < 0x10000 := entry.history.sinceMain.usage_lt 0x2
  have within : index < entry.history.rangeLength := Nat.lt_of_lt_of_le few (Nat.min_le_right _ _)
  unfold History.rangeLength at within
  split at within <;> omega

theorem Entry.usage_lt {entry : Entry} {field : Field} (member : field ∈ entry.fields) :
    field.usage < 0x10000 ∧ field.usageMaximum < 0x10000 := by
  cases padding : entry.isPadding with
  | true =>
      simp only [Entry.fields, padding, if_true, List.mem_singleton] at member
      rw [member]
      exact ⟨Nat.succ_pos 0xFFFF, Nat.succ_pos 0xFFFF⟩
  | false =>
      cases range : entry.history.hasRange with
      | true =>
          cases array : entry.flags.isArray with
          | true =>
              simp only [Entry.fields, padding, range, array, Bool.false_eq_true, if_false,
                if_true, List.mem_singleton] at member
              rw [member]
              exact ⟨entry.history.sinceMain.usage_lt 0x1, entry.history.sinceMain.usage_lt 0x2⟩
          | false =>
              have small := (entry.usage_of_range padding range array member).2.2
              simp only [Entry.fields, padding, range, array, Bool.false_eq_true, if_false,
                if_true] at member
              obtain ⟨index, _few, same⟩ := List.mem_map.mp member
              rw [← same] at small ⊢
              exact ⟨small, small⟩
      | false =>
          simp only [Entry.fields, padding, range, Bool.false_eq_true, if_false] at member
          obtain ⟨index, _few, same⟩ := List.mem_map.mp member
          rw [← same]
          exact ⟨entry.history.usageOf_lt index, entry.history.usageOf_lt index⟩

end Descriptor

end HidBridge
