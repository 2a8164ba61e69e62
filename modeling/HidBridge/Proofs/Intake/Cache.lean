/-
The summaries that a converter keeps, beside the table that it asks. A kept
summary is of use only while its generation is the current one of its interface,
and then the table would still give the same summary. So keeping summaries
cannot be seen in what is converted.
-/

import HidBridge.Proofs.Conversion.Remembering
import HidBridge.Proofs.Intake.Table

namespace HidBridge

namespace Converter

theorem mem_remember {converter : Converter} {entry kept : Remembered}
    (member : kept ∈ (converter.remember entry).remembered) :
    kept = entry ∨ kept ∈ converter.remembered := by
  rcases converter.remember_cases entry with
    ⟨_known, replaced⟩ | ⟨_new, _room, added⟩ | ⟨_new, _full, alone⟩
  · rw [replaced] at member
    exact Keyed.mem_replace member
  · rw [added] at member
    exact (List.mem_append.mp member).symm.imp_left List.mem_singleton.mp
  · rw [alone] at member
    exact Or.inl (List.mem_singleton.mp member)

theorem mem_of_cached? {converter : Converter} {interfaceId : InterfaceId} {reportId : ReportId}
    {summary : Summary} (cached : converter.cached? interfaceId reportId = some summary) :
    ∃ kept, kept ∈ converter.remembered ∧ kept.interfaceId = interfaceId ∧
      kept.reportId = reportId ∧ kept.summary = summary := by
  rw [cached?_eq] at cached
  obtain ⟨kept, found, same⟩ := Option.map_eq_some_iff.mp cached
  have key : kept.about = (interfaceId, reportId) := Keyed.key_of_get? found
  obtain ⟨interface, report⟩ := Prod.mk.inj key
  exact ⟨kept, List.mem_of_find?_eq_some found, interface, report, same⟩

/-- Converting changes nothing in a converter, or keeps one summary that the
lookup gave. -/
theorem convert_cases (converter : Converter) (lookup : Lookup) (report : Report) :
    (converter.convert lookup report).2 = converter ∨
      ∃ summary, lookup.summary report.interfaceId report.reportId = some summary ∧
        (converter.convert lookup report).2 =
          converter.remember ⟨report.interfaceId, report.reportId, summary⟩ := by
  rcases converter.convert_outcome lookup report with
    ⟨_lacking, _fault, refused, _which⟩ | ⟨_supplied, summary, next, summarised, converted⟩
  · exact Or.inl (congrArg Prod.snd refused)
  · rw [converted]
    cases summarised with
    | kept _summary _current _cached => exact Or.inl rfl
    | asked _summary _current given => exact Or.inr ⟨summary, given, rfl⟩

/-- Each summary that is kept was given by the table before its next generation.
While the generation of the summary is the current one, the table gives the same
summary again. -/
def Agrees (converter : Converter) (table : Table) : Prop :=
  ∀ kept, kept ∈ converter.remembered →
    kept.summary.generation < table.nextGeneration ∧
      ∀ current, table.get? kept.interfaceId = some current →
        current.generation = kept.summary.generation →
          table.summary? kept.interfaceId kept.reportId = some kept.summary

theorem agrees_new (sensitivity : Nat) (table : Table) : (new sensitivity).Agrees table := by
  intro _kept member
  cases member

theorem Agrees.setSensitivity {converter : Converter} {table : Table}
    (agrees : converter.Agrees table) (sensitivity : Nat) :
    Agrees { converter with sensitivity } table := agrees

theorem summary?_congr {table other : Table} {interfaceId : InterfaceId}
    (same : other.get? interfaceId = table.get? interfaceId) (reportId : ReportId) :
    other.summary? interfaceId reportId = table.summary? interfaceId reportId := by
  unfold Table.summary?
  rw [same]

theorem generation_of_summary? {table : Table} {interfaceId : InterfaceId} {reportId : ReportId}
    {summary : Summary} (given : table.summary? interfaceId reportId = some summary) :
    ∃ current, table.get? interfaceId = some current ∧
      summary.generation = current.generation := by
  unfold Table.summary? at given
  split at given
  · cases given
  · rename_i current found
    obtain ⟨layout, _input, same⟩ := Option.map_eq_some_iff.mp given
    refine ⟨current, found, ?_⟩
    rw [← same]

theorem Agrees.insert {converter : Converter} {table : Table} (agrees : converter.Agrees table)
    (interface : Interface)
    (room : ∀ generation, (table.insert interface).1 = .ok generation →
      generation < Limits.maxUInt32) :
    converter.Agrees (table.insert interface).2 := by
  rcases table.insert_cases interface with
    ⟨refused, _unknown, _full⟩ | ⟨entries, stored, own, others⟩
  · rw [refused]
    exact agrees
  · have next : (table.store entries).nextGeneration = table.nextGeneration + 1 :=
      Table.succGeneration_of_lt (room _ (by rw [stored]))
    rw [stored]
    intro kept member
    obtain ⟨earlier, current⟩ := agrees kept member
    refine ⟨by rw [next]; exact Nat.lt_succ_of_lt earlier, ?_⟩
    intro entry found same
    by_cases replaced : kept.interfaceId = interface.id
    · -- The new generation is larger than that of any summary kept.
      rw [replaced, own] at found
      rw [← Option.some.inj found] at same
      have newer : table.nextGeneration = kept.summary.generation := same
      omega
    · rw [others _ replaced] at found
      rw [summary?_congr (others _ replaced)]
      exact current entry found same

theorem Agrees.remove {converter : Converter} {table : Table} (agrees : converter.Agrees table)
    (interfaceId : InterfaceId) : converter.Agrees (table.remove interfaceId).2 := by
  intro kept member
  obtain ⟨earlier, current⟩ := agrees kept member
  refine ⟨earlier, ?_⟩
  intro entry found same
  by_cases removed : kept.interfaceId = interfaceId
  · rw [removed, Table.get?_remove_same] at found
    cases found
  · rw [Table.get?_remove_other _ removed] at found
    rw [summary?_congr (Table.get?_remove_other _ removed)]
    exact current entry found same

theorem Agrees.convert {converter : Converter} {table : Table} (agrees : converter.Agrees table)
    (dated : table.Dated) (report : Report) :
    (converter.convert table.lookup report).2.Agrees table := by
  rcases converter.convert_cases table.lookup report with same | ⟨summary, given, remembered⟩
  · rw [same]
    exact agrees
  · rw [remembered]
    intro kept member
    rcases mem_remember member with new | old
    · rw [new]
      obtain ⟨current, found, generation⟩ := generation_of_summary? given
      refine ⟨?_, fun _current _found _same => given⟩
      rw [generation]
      exact dated _ current found
    · exact agrees kept old

/-- For a report that was read with the current layouts, a summary that is kept is
the one that asking would give. -/
theorem summarise_eq_ask {converter : Converter} {table : Table}
    (agrees : converter.Agrees table) {report : Report} {current : Attached}
    (found : table.get? report.interfaceId = some current)
    (generation : current.generation = report.generation) :
    (converter.summarise table.lookup report).1 = (converter.ask table.lookup report).1 := by
  unfold summarise
  cases cached : converter.cached? report.interfaceId report.reportId with
  | none => rfl
  | some kept =>
      dsimp only
      split
      · rename_i same
        obtain ⟨entry, member, sameInterface, sameReport, isKept⟩ := mem_of_cached? cached
        have still := (agrees entry member).2 current (by rw [sameInterface]; exact found)
          (by rw [isKept, same, generation])
        rw [sameInterface, sameReport, isKept] at still
        have given : table.lookup.summary report.interfaceId report.reportId = some kept := still
        simp only [ask, given, same, if_true]
      · rfl

theorem ask_eq (converter other : Converter) (lookup : Lookup) (report : Report) :
    (converter.ask lookup report).1 = (other.ask lookup report).1 := by
  unfold ask
  cases lookup.summary report.interfaceId report.reportId with
  | none => rfl
  | some summary =>
      dsimp only
      split <;> rfl

theorem summarise_of_agrees {converter : Converter} {table : Table}
    (agrees : converter.Agrees table) {report : Report} {current : Attached} {summary : Summary}
    (found : table.get? report.interfaceId = some current)
    (generation : current.generation = report.generation)
    (given : table.summary? report.interfaceId report.reportId = some summary) :
    (converter.summarise table.lookup report).1 = .ok summary := by
  have given' : table.lookup.summary report.interfaceId report.reportId = some summary := given
  have fresh : summary.generation = report.generation := by
    obtain ⟨entry, same, dated⟩ := generation_of_summary? given
    rw [found] at same
    rw [dated, ← Option.some.inj same, generation]
  rw [summarise_eq_ask agrees found generation]
  simp only [ask, given', fresh, if_true]

theorem convert_of_current {converter : Converter} {table : Table}
    (agrees : converter.Agrees table) {report : Report} {current : Attached} {layout : Layout}
    (found : table.get? report.interfaceId = some current)
    (generation : current.generation = report.generation)
    (input : current.interface.input? report.reportId = some layout)
    (count : report.samples.length = layout.fields.length) :
    (converter.convert table.lookup report).1 =
      .ok (report.compose converter.sensitivity layout.classify) := by
  have given : table.summary? report.interfaceId report.reportId =
      some { generation := current.generation
             reportClass := layout.classify
             fieldCount := layout.fields.length } := by
    simp only [Table.summary?, found, input, Option.map_some]
  have summarised := summarise_of_agrees agrees found generation given
  have isCurrent : table.lookup.generation report.interfaceId = some report.generation := by
    simp only [Table.lookup, found, Option.map_some, generation]
  simp only [Converter.convert, isCurrent, ne_eq, not_true_eq_false, if_false]
  cases result : converter.summarise table.lookup report with
  | mk outcome next =>
      rw [result] at summarised
      have outcomeEq : outcome = _ := summarised
      simp only [outcomeEq, count, not_true_eq_false, if_false]

theorem convert_of_stale (converter : Converter) {table : Table} {report : Report}
    {current : Attached} (found : table.get? report.interfaceId = some current)
    (different : current.generation ≠ report.generation) :
    (converter.convert table.lookup report).1 = .error .staleReport := by
  simp only [Converter.convert, Table.lookup, found, Option.map_some, ne_eq, different,
    not_false_eq_true, if_true]

theorem convert_of_absent (converter : Converter) {table : Table} {report : Report}
    (absent : table.get? report.interfaceId = none) :
    (converter.convert table.lookup report).1 = .error .unknownInterface := by
  simp only [Converter.convert, Table.lookup, absent, Option.map_none]

/-- Two converters that agree with a table convert every report alike, whatever
summaries each of them keeps. -/
theorem Agrees.convert_eq {converter other : Converter} {table : Table}
    (agrees : converter.Agrees table) (otherAgrees : other.Agrees table)
    (sensitivity : converter.sensitivity = other.sensitivity) (report : Report) :
    (converter.convert table.lookup report).1 = (other.convert table.lookup report).1 := by
  cases found : table.get? report.interfaceId with
  | none => rw [convert_of_absent _ found, convert_of_absent _ found]
  | some current =>
      by_cases generation : current.generation = report.generation
      · have summarised : (converter.summarise table.lookup report).1 =
            (other.summarise table.lookup report).1 := by
          rw [summarise_eq_ask agrees found generation,
            summarise_eq_ask otherAgrees found generation]
          exact ask_eq converter other _ report
        have isCurrent : table.lookup.generation report.interfaceId =
            some report.generation := by
          simp only [Table.lookup, found, Option.map_some, generation]
        simp only [Converter.convert, isCurrent, ne_eq, not_true_eq_false, if_false]
        cases one : converter.summarise table.lookup report with
        | mk outcome next =>
            cases two : other.summarise table.lookup report with
            | mk otherOutcome otherNext =>
                rw [one, two] at summarised
                have same : outcome = otherOutcome := summarised
                rw [← same]
                cases outcome with
                | error fault => rfl
                | ok summary =>
                    dsimp only
                    rw [sensitivity]
                    split <;> rfl
      · rw [convert_of_stale _ found generation, convert_of_stale _ found generation]

end Converter

end HidBridge
