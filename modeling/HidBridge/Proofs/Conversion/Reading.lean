/-
What is selected in a report, in terms of its fields: pages and usages are known by
their codes, and of several fields with one usage the last one has the value. In a
report that was read with a layout, each field of data counts with what the payload
holds there.
-/

import HidBridge.Conversion.Compose

namespace HidBridge

def Page.code : Page → Nat
  | .genericDesktop => 0x01
  | .keyboard => 0x07
  | .led => 0x08
  | .button => 0x09
  | .consumer => 0x0C
  | .unknown code => code

theorem Page.code_ofCode (code : Nat) : (Page.ofCode code).code = code := by
  unfold ofCode
  split <;> rfl

def Desktop.code : Desktop → Nat
  | .pointer => 0x01
  | .mouse => 0x02
  | .keyboard => 0x06
  | .keypad => 0x07
  | .x => 0x30
  | .y => 0x31
  | .wheel => 0x38
  | .unknown code => code

theorem Desktop.code_ofCode (code : Nat) : (Desktop.ofCode code).code = code := by
  unfold ofCode
  split <;> rfl

theorem Desktop.ofCode_eq_iff {usage : Desktop} (known : Desktop.ofCode usage.code = usage)
    (code : Nat) : Desktop.ofCode code = usage ↔ code = usage.code := by
  constructor
  · intro same
    rw [← same, code_ofCode]
  · intro same
    rw [same, known]

theorem Field.isOn_iff {page : Page} (known : Page.ofCode page.code = page) (field : Field) :
    field.isOn page = true ↔ field.page = page.code := by
  rw [isOn, decide_eq_true_iff]
  constructor
  · intro same
    rw [← same, Page.code_ofCode]
  · intro same
    rw [same, known]

theorem Sample.isDataOn_iff {page : Page} (known : Page.ofCode page.code = page)
    (sample : Sample) :
    sample.isDataOn page = true ↔
      sample.field.flags.isConstant = false ∧ sample.field.page = page.code := by
  rw [isDataOn, Bool.and_eq_true, Bool.not_eq_true', Field.isOn_iff known]

def Field.isDataOn (field : Field) (page : Page) : Bool :=
  !field.flags.isConstant && field.isOn page

/-- The report holds the fields with their values in its own payload. -/
def Report.ReadWith (report : Report) (fields : List Field) : Prop :=
  report.samples = fields.map (fun field => field.sample report.payload)

theorem Layout.exists_read (layout : Layout) (interfaceId : InterfaceId) (generation : Nat)
    {payload : List UInt8} (fits : payload.length ≤ Limits.reportBytes) :
    ∃ report, layout.read interfaceId generation payload = .ok report ∧
      report.payload = payload ∧ report.ReadWith layout.fields :=
  ⟨_, if_neg (Nat.not_lt.mpr fits), rfl, rfl⟩

theorem Layout.readWith_of_read {layout : Layout} {interfaceId : InterfaceId} {generation : Nat}
    {payload : List UInt8} {report : Report}
    (isRead : layout.read interfaceId generation payload = .ok report) :
    payload.length ≤ Limits.reportBytes ∧ report.payload = payload ∧
      report.ReadWith layout.fields := by
  unfold Layout.read at isRead
  split at isRead
  · cases isRead
  · rename_i fits
    rw [← Except.ok.inj isRead]
    exact ⟨Nat.le_of_not_lt fits, rfl, rfl⟩

namespace Report

theorem lastValue_cases (report : Report) (page : Page) (wanted : Nat → Bool) :
    (∃ earlier sample later, report.samples = earlier ++ sample :: later ∧
        (sample.isDataOn page && wanted sample.field.usage) = true ∧
        (∀ other, other ∈ later →
          ¬(other.isDataOn page && wanted other.field.usage) = true) ∧
        report.lastValue page wanted = sample.value) ∨
      ((∀ sample, sample ∈ report.samples →
          ¬(sample.isDataOn page && wanted sample.field.usage) = true) ∧
        report.lastValue page wanted = 0) := by
  unfold lastValue
  cases last : (report.samples.filter
      (fun sample => sample.isDataOn page && wanted sample.field.usage)).getLast? with
  | none => exact Or.inr ⟨List.filter_eq_nil_iff.mp (List.getLast?_eq_none_iff.mp last), rfl⟩
  | some sample =>
      obtain ⟨before, found⟩ := List.getLast?_eq_some_iff.mp last
      obtain ⟨first, second, split, _before, rest⟩ := List.filter_eq_append_iff.mp found
      obtain ⟨between, later, parts, _between, chosen, none⟩ := List.filter_eq_cons_iff.mp rest
      refine Or.inl ⟨first ++ between, sample, later, ?_, chosen, ?_, rfl⟩
      · rw [split, parts, List.append_assoc]
      · exact List.filter_eq_nil_iff.mp none

variable {report : Report} {fields : List Field}

theorem ReadWith.selected (read : report.ReadWith fields) (page : Page) :
    report.selected page =
      (fields.filter (fun field => field.isDataOn page)).flatMap
        (fun field => (field.sample report.payload).usages report.payload) := by
  unfold Report.selected
  rw [read, List.filter_map, List.flatMap_map]
  rfl

theorem ReadWith.lastValue (read : report.ReadWith fields) (page : Page)
    (wanted : Nat → Bool) :
    report.lastValue page wanted =
      match (fields.filter
          (fun field => field.isDataOn page && wanted field.usage)).getLast? with
      | some field => Bits.signed report.payload field.offset field.width
      | none => 0 := by
  have last : (report.samples.filter
        (fun sample => sample.isDataOn page && wanted sample.field.usage)).getLast? =
      (fields.filter (fun field => field.isDataOn page && wanted field.usage)).getLast?.map
        (fun field => field.sample report.payload) := by
    rw [read, List.filter_map, List.getLast?_map]
    rfl
  unfold Report.lastValue
  rw [last]
  cases (fields.filter (fun field => field.isDataOn page && wanted field.usage)).getLast? <;> rfl

end Report

end HidBridge
