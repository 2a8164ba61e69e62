/-
Which summaries a converter keeps, whatever it is told when it asks. There is one place for
each report and a fixed number of places. A summary that is used has the generation of the
report, and only one that finds every place taken by other reports drives them out.
-/

import HidBridge.Conversion.Converter
import HidBridge.Proofs.Keyed

namespace HidBridge

def Remembered.about (entry : Remembered) : InterfaceId × ReportId :=
  (entry.interfaceId, entry.reportId)

def Report.about (report : Report) : InterfaceId × ReportId :=
  (report.interfaceId, report.reportId)

namespace Converter

inductive Call where
  | convert (lookup : Lookup) (report : Report)
  | setSensitivity (sensitivity : Nat)

def take (converter : Converter) : Call → Converter
  | .convert lookup report => (converter.convert lookup report).2
  | .setSensitivity sensitivity => { converter with sensitivity }

def after (converter : Converter) (calls : List Call) : Converter := calls.foldl take converter

/-- Each report has at most one place, and there are not too many. -/
structure Orderly (converter : Converter) : Prop where
  places : converter.remembered.length ≤ Limits.summaries
  distinct : (converter.remembered.map Remembered.about).Nodup

def CrowdedFor (converter : Converter) (report : Report) : Prop :=
  converter.cached? report.interfaceId report.reportId = none ∧
    converter.remembered.length = Limits.summaries

theorem cached?_eq (converter : Converter) (interfaceId : InterfaceId) (reportId : ReportId) :
    converter.cached? interfaceId reportId =
      (Keyed.get? Remembered.about converter.remembered (interfaceId, reportId)).map
        Remembered.summary := rfl

theorem cached?_eq_none_iff {converter : Converter} {interfaceId : InterfaceId}
    {reportId : ReportId} :
    converter.cached? interfaceId reportId = none ↔
      (interfaceId, reportId) ∉ converter.remembered.map Remembered.about := by
  rw [cached?_eq, Option.map_eq_none_iff]
  exact Keyed.get?_eq_none_iff

/-! ### Keeping one summary -/

section Remember

variable (converter : Converter) (entry : Remembered)

theorem remember_cases :
    (entry.about ∈ converter.remembered.map Remembered.about ∧
      (converter.remember entry).remembered =
        Keyed.replace Remembered.about converter.remembered entry) ∨
    (entry.about ∉ converter.remembered.map Remembered.about ∧
      converter.remembered.length < Limits.summaries ∧
      (converter.remember entry).remembered = converter.remembered ++ [entry]) ∨
    (entry.about ∉ converter.remembered.map Remembered.about ∧
      Limits.summaries ≤ converter.remembered.length ∧
      (converter.remember entry).remembered = [entry]) := by
  have known : converter.remembered.any
      (fun old => old.isFor entry.interfaceId entry.reportId) = true ↔
        entry.about ∈ converter.remembered.map Remembered.about :=
    @Keyed.any_eq_true_iff _ _ _ _ Remembered.about converter.remembered entry.about
  unfold remember
  by_cases present : converter.remembered.any
      (fun old => old.isFor entry.interfaceId entry.reportId) = true
  · rw [if_pos present]
    exact Or.inl ⟨known.mp present, rfl⟩
  · rw [if_neg present]
    by_cases room : converter.remembered.length < Limits.summaries
    · rw [if_pos room]
      exact Or.inr (Or.inl ⟨mt known.mpr present, room, rfl⟩)
    · rw [if_neg room]
      exact Or.inr (Or.inr ⟨mt known.mpr present, Nat.le_of_not_lt room, rfl⟩)

theorem cached?_remember_same :
    (converter.remember entry).cached? entry.interfaceId entry.reportId = some entry.summary := by
  have found : Keyed.get? Remembered.about (converter.remember entry).remembered entry.about =
      some entry := by
    rcases converter.remember_cases entry with
      ⟨known, replaced⟩ | ⟨new, _room, added⟩ | ⟨_new, _full, alone⟩
    · rw [replaced]
      exact Keyed.get?_replace_same known
    · rw [added]
      exact Keyed.get?_append_same new
    · rw [alone]
      exact Keyed.get?_cons_same rfl
  exact congrArg (Option.map Remembered.summary) found

end Remember

namespace Orderly

variable {converter : Converter} (orderly : converter.Orderly)

include orderly

theorem remember (entry : Remembered) : (converter.remember entry).Orderly := by
  rcases converter.remember_cases entry with
    ⟨_known, replaced⟩ | ⟨new, room, added⟩ | ⟨_new, _full, alone⟩
  · refine { places := ?_, distinct := ?_ }
    · rw [replaced]
      exact (List.length_map _).symm ▸ orderly.places
    · rw [replaced, Keyed.keys_replace]
      exact orderly.distinct
  · refine { places := ?_, distinct := ?_ }
    · rw [added, List.length_append]
      exact room
    · rw [added]
      exact Keyed.nodup_append orderly.distinct new
  · refine { places := ?_, distinct := ?_ }
    · rw [alone]
      exact Nat.succ_le_of_lt (Nat.zero_lt_succ _)
    · rw [alone]
      exact List.nodup_singleton _

theorem cached?_remember_other {report : Report} (summary : Summary)
    {interfaceId : InterfaceId} {reportId : ReportId}
    (other : (interfaceId, reportId) ≠ report.about) :
    (converter.CrowdedFor report →
      (converter.remember ⟨report.interfaceId, report.reportId, summary⟩).cached? interfaceId
        reportId = none) ∧
    (¬converter.CrowdedFor report →
      (converter.remember ⟨report.interfaceId, report.reportId, summary⟩).cached? interfaceId
        reportId = converter.cached? interfaceId reportId) := by
  let entry : Remembered := ⟨report.interfaceId, report.reportId, summary⟩
  have different : (interfaceId, reportId) ≠ entry.about := other
  rw [cached?_eq, cached?_eq]
  rcases converter.remember_cases entry with
    ⟨known, replaced⟩ | ⟨new, room, added⟩ | ⟨new, full, alone⟩
  · rw [replaced, Keyed.get?_replace_other _ different]
    exact ⟨fun crowded => absurd known (cached?_eq_none_iff.mp crowded.1), fun _room => rfl⟩
  · rw [added, Keyed.get?_append_other _ different]
    exact ⟨fun crowded => absurd crowded.2 (Nat.ne_of_lt room), fun _room => rfl⟩
  · have crowded : converter.CrowdedFor report :=
      ⟨cached?_eq_none_iff.mpr new, Nat.le_antisymm orderly.places full⟩
    rw [alone, Keyed.get?_cons_other different.symm]
    exact ⟨fun _crowded => rfl, fun free => absurd crowded free⟩

end Orderly

/-! ### Converting a report -/

def Summarisable (converter : Converter) (lookup : Lookup) (report : Report) : Prop :=
  ∃ summary : Summary, summary.generation = report.generation ∧
    (converter.cached? report.interfaceId report.reportId = some summary ∨
      lookup.summary report.interfaceId report.reportId = some summary)

/-- What can come of the wish for the summary of a report. A summary that is used has the
generation of the report; it is kept already, or it is kept from now on. -/
inductive Summarised (converter : Converter) (lookup : Lookup) (report : Report) :
    Except Fault Summary → Converter → Prop where
  | unknown : ¬converter.Summarisable lookup report →
    Summarised converter lookup report (.error .unknownReport) converter
  | stale : ¬converter.Summarisable lookup report →
    Summarised converter lookup report (.error .staleReport) converter
  | kept (summary : Summary) : summary.generation = report.generation →
    converter.cached? report.interfaceId report.reportId = some summary →
    Summarised converter lookup report (.ok summary) converter
  | asked (summary : Summary) : summary.generation = report.generation →
    lookup.summary report.interfaceId report.reportId = some summary →
    Summarised converter lookup report (.ok summary)
      (converter.remember ⟨report.interfaceId, report.reportId, summary⟩)

theorem Summarised.summarisable {converter next : Converter} {lookup : Lookup} {report : Report}
    {summary : Summary} (summarised : Summarised converter lookup report (.ok summary) next) :
    converter.Summarisable lookup report := by
  cases summarised with
  | kept _summary current cached => exact ⟨summary, current, Or.inl cached⟩
  | asked _summary current given => exact ⟨summary, current, Or.inr given⟩

section Convert

variable (converter : Converter) (lookup : Lookup) (report : Report)

theorem summarised_ask
    (lapsed : ∀ summary, converter.cached? report.interfaceId report.reportId = some summary →
      summary.generation ≠ report.generation) :
    Summarised converter lookup report (converter.ask lookup report).1
      (converter.ask lookup report).2 := by
  unfold ask
  cases given : lookup.summary report.interfaceId report.reportId with
  | none =>
      refine .unknown ?_
      rintro ⟨summary, current, cached | other⟩
      · exact lapsed summary cached current
      · cases given.symm.trans other
  | some summary =>
      by_cases current : summary.generation = report.generation
      · simp only [if_pos current]
        exact .asked summary current given
      · simp only [if_neg current]
        refine .stale ?_
        rintro ⟨kept, same, cached | other⟩
        · exact lapsed kept cached same
        · rw [Option.some.inj (given.symm.trans other)] at current
          exact current same

theorem summarised_summarise :
    Summarised converter lookup report (converter.summarise lookup report).1
      (converter.summarise lookup report).2 := by
  unfold summarise
  cases cached : converter.cached? report.interfaceId report.reportId with
  | none =>
      refine converter.summarised_ask lookup report ?_
      intro summary found
      cases cached.symm.trans found
  | some summary =>
      by_cases current : summary.generation = report.generation
      · simp only [if_pos current]
        exact .kept summary current cached
      · simp only [if_neg current]
        refine converter.summarised_ask lookup report ?_
        intro kept found
        rw [← Option.some.inj (cached.symm.trans found)]
        exact current

def Supplied : Prop :=
  lookup.generation report.interfaceId = some report.generation ∧
    converter.Summarisable lookup report

/-- A report is refused without a summary, or the fields that its summary counts are
compared with its own. -/
theorem convert_outcome :
    (¬converter.Supplied lookup report ∧
      ∃ fault, converter.convert lookup report = (.error fault, converter) ∧
        (fault = .unknownInterface ∨ fault = .staleReport ∨ fault = .unknownReport)) ∨
    (converter.Supplied lookup report ∧
      ∃ summary next, Summarised converter lookup report (.ok summary) next ∧
        converter.convert lookup report =
          (if summary.fieldCount ≠ report.samples.length then .error .fieldCountMismatch
            else .ok (report.compose converter.sensitivity summary.reportClass), next)) := by
  have summarised := converter.summarised_summarise lookup report
  unfold convert Supplied
  cases lookup.generation report.interfaceId with
  | none => exact Or.inl ⟨fun supplied => (nomatch supplied.1), _, rfl, Or.inl rfl⟩
  | some current =>
      dsimp only
      by_cases same : current = report.generation
      · rw [if_neg (not_not_intro same), same]
        cases result : converter.summarise lookup report with
        | mk outcome next =>
            rw [result] at summarised
            cases outcome with
            | error fault =>
                cases summarised with
                | unknown lacking =>
                    exact Or.inl ⟨fun supplied => lacking supplied.2, _, rfl, Or.inr (Or.inr rfl)⟩
                | stale lacking =>
                    exact Or.inl ⟨fun supplied => lacking supplied.2, _, rfl, Or.inr (Or.inl rfl)⟩
            | ok summary =>
                refine Or.inr ⟨⟨rfl, summarised.summarisable⟩, summary, next, summarised, ?_⟩
                dsimp only
                split <;> rfl
      · rw [if_pos same]
        exact Or.inl ⟨fun supplied => same (Option.some.inj supplied.1), _, rfl,
          Or.inr (Or.inl rfl)⟩

end Convert

theorem Orderly.convert {converter : Converter} (orderly : converter.Orderly) (lookup : Lookup)
    (report : Report) : (converter.convert lookup report).2.Orderly := by
  rcases converter.convert_outcome lookup report with
    ⟨_lacking, fault, refused, _which⟩ | ⟨_supplied, summary, next, summarised, converted⟩
  · rw [refused]
    exact orderly
  · rw [converted]
    cases summarised with
    | kept _summary _current _cached => exact orderly
    | asked _summary _current _given => exact orderly.remember _

theorem orderly_after (sensitivity : Nat) (calls : List Call) :
    ((new sensitivity).after calls).Orderly := by
  have first : (new sensitivity).Orderly :=
    { places := Nat.zero_le _, distinct := List.nodup_nil }
  have next {converter : Converter} (orderly : converter.Orderly) (call : Call) :
      (converter.take call).Orderly := by
    cases call with
    | convert lookup report => exact orderly.convert lookup report
    | setSensitivity sensitivity => exact ⟨orderly.places, orderly.distinct⟩
  generalize new sensitivity = converter at first ⊢
  induction calls generalizing converter with
  | nil => exact first
  | cons call rest ih => exact ih (converter.take call) (next first call)

/-- After a summary was used, it is the one that is kept for the report, and summaries of
other reports stay, unless these took every place. -/
theorem Orderly.cached?_of_summarised {converter next : Converter} (orderly : converter.Orderly)
    {lookup : Lookup} {report : Report} {summary : Summary}
    (summarised : Summarised converter lookup report (.ok summary) next) :
    summary.generation = report.generation ∧
      next.cached? report.interfaceId report.reportId = some summary ∧
      ∀ interfaceId reportId, (interfaceId, reportId) ≠ report.about →
        (converter.CrowdedFor report → next.cached? interfaceId reportId = none) ∧
        (¬converter.CrowdedFor report →
          next.cached? interfaceId reportId = converter.cached? interfaceId reportId) := by
  cases summarised with
  | kept _summary current cached =>
      refine ⟨current, cached, fun interfaceId reportId _other => ?_⟩
      exact ⟨fun crowded => (nomatch cached.symm.trans crowded.1), fun _room => rfl⟩
  | asked _summary current _given =>
      refine ⟨current, converter.cached?_remember_same _, fun interfaceId reportId other => ?_⟩
      exact orderly.cached?_remember_other summary other

/-- Whatever a converter was told in the calls before and is told in this one: there are at
most 32 summaries, each for a report of its own. A report that nothing current is known of
is refused and changes nothing. For any other the summary is kept, with its generation, and
the others stay, unless the report found all places taken by them. -/
theorem convert_keeps (sensitivity : Nat) (calls : List Call) (lookup : Lookup)
    (report : Report) :
    let before := (new sensitivity).after calls
    let result := (before.convert lookup report).1
    let after := (before.convert lookup report).2
    (before.remembered.length ≤ 32 ∧ (before.remembered.map Remembered.about).Nodup) ∧
      ((¬before.Supplied lookup report ∧
        (result = .error .unknownInterface ∨ result = .error .staleReport ∨
          result = .error .unknownReport) ∧ after = before) ∨
        (before.Supplied lookup report ∧
          (result = .error .fieldCountMismatch ∨ ∃ message, result = .ok message) ∧
          (∃ summary, after.cached? report.interfaceId report.reportId = some summary ∧
            summary.generation = report.generation ∧
            lookup.generation report.interfaceId = some summary.generation ∧
            ((∃ message, result = .ok message) ↔
              summary.fieldCount = report.samples.length)) ∧
          ∀ interfaceId reportId, (interfaceId, reportId) ≠ report.about →
            (before.CrowdedFor report → after.cached? interfaceId reportId = none) ∧
            (¬before.CrowdedFor report →
              after.cached? interfaceId reportId = before.cached? interfaceId reportId))) := by
  intro before result after
  have orderly : before.Orderly := orderly_after sensitivity calls
  refine ⟨⟨orderly.places, orderly.distinct⟩, ?_⟩
  rcases before.convert_outcome lookup report with
    ⟨lacking, fault, refused, which⟩ | ⟨supplied, summary, next, summarised, converted⟩
  · have said : result = .error fault := congrArg Prod.fst refused
    refine Or.inl ⟨lacking, ?_, congrArg Prod.snd refused⟩
    rw [said]
    exact which.imp (congrArg _) (Or.imp (congrArg _) (congrArg _))
  · have said : result = _ := congrArg Prod.fst converted
    have same : after = next := congrArg Prod.snd converted
    obtain ⟨generation, kept, others⟩ := orderly.cached?_of_summarised summarised
    rw [← same] at kept others
    have current := supplied.1.trans (congrArg some generation.symm)
    refine Or.inr ⟨supplied, ?_, ⟨summary, kept, generation, current, ?_⟩, others⟩
    · rw [said]
      split
      · exact Or.inl rfl
      · exact Or.inr ⟨_, rfl⟩
    · rw [said]
      split
      · rename_i differ
        exact ⟨fun sent => (nomatch sent.choose_spec), fun agree => absurd agree differ⟩
      · rename_i agree
        exact ⟨fun _sent => Decidable.not_not.mp agree, fun _agree => ⟨_, rfl⟩⟩

end Converter

end HidBridge
