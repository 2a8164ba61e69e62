/-
An array whose range has one usage only. It is not read element by element: all of its bits
together are one number, and the usage is selected where that number can be read and is not
zero. Element by element, only an element that is the logical minimum would select the usage.
-/

import HidBridge.Proofs.Conversion.Elements

namespace HidBridge

namespace Output.Keyboard

def Presses (keyboard : Keyboard) (usage : Nat) : Prop :=
  usage ∈ keyboard.held ∨
    (firstModifier ≤ usage ∧ usage ≤ lastModifier ∧
      keyboard.modifiers.testBit (usage - firstModifier) = true)

instance (keyboard : Keyboard) (usage : Nat) : Decidable (keyboard.Presses usage) :=
  inferInstanceAs (Decidable (_ ∨ _))

theorem not_presses_empty (usage : Nat) : ¬empty.Presses usage := by
  intro pressed
  rcases pressed with held | ⟨_first, _last, set⟩
  · cases held
  · rw [empty, Nat.zero_testBit] at set
    cases set

theorem presses_press {keyboard : Keyboard} {usage : Nat} (nonzero : usage ≠ 0)
    (small : usage ≤ Limits.maxUInt8) (room : keyboard.held.length < places) :
    (keyboard.press usage).2.Presses usage := by
  by_cases isModifier : firstModifier ≤ usage ∧ usage ≤ lastModifier
  · rw [press, if_pos isModifier]
    refine Or.inr ⟨isModifier.1, isModifier.2, ?_⟩
    rw [Nat.testBit_or, Nat.one_shiftLeft, Nat.testBit_two_pow_self, Bool.or_true]
  · rw [press, if_neg isModifier, if_neg (Nat.not_lt.mpr small)]
    by_cases held : usage ∈ keyboard.held
    · rw [if_pos (Or.inr held)]
      exact Or.inl held
    · rw [if_neg (not_or.mpr ⟨nonzero, held⟩), if_pos room]
      exact Or.inl (List.mem_append_right _ (List.mem_singleton_self usage))

end Output.Keyboard

namespace Field

def WholeSelects (field : Field) (payload : List UInt8) : Prop :=
  field.width ≤ Limits.readableBits ∧ field.contents payload ≠ 0

instance (field : Field) (payload : List UInt8) : Decidable (field.WholeSelects payload) :=
  inferInstanceAs (Decidable (_ ∧ _))

def ElementSelects (field : Field) (payload : List UInt8) : Prop :=
  ∃ unit, unit < field.unitCount ∧ field.Selects (field.element payload unit)

theorem exists_first_element {field : Field} (start : field.offset = 0)
    (readable : field.unitSize ≤ Limits.readableBits) {value : Nat}
    (small : value < 2 ^ field.unitSize) :
    ∃ payload : List UInt8, payload.length ≤ Limits.reportBytes ∧
      ∀ unit, field.element payload unit = if unit = 0 then value else 0 := by
  have fits : value < Nat.pow 256 4 :=
    Nat.lt_of_lt_of_le small (Nat.pow_le_pow_right (by decide) readable)
  refine ⟨Words.toBytes 4 value, ?_, ?_⟩
  · rw [Words.length_toBytes]
    decide
  · intro unit
    rw [element, start, Words.ofBytes_toBytes, Nat.mod_eq_of_lt fits, Nat.zero_add]
    split
    · rename_i first
      rw [first, Nat.zero_mul, Nat.pow_zero, Nat.div_one, Nat.mod_eq_of_lt small]
    · rename_i later
      have beyond : 2 ^ field.unitSize ≤ 2 ^ (unit * field.unitSize) :=
        Nat.pow_le_pow_right (by decide)
          (Nat.le_mul_of_pos_left _ (Nat.pos_of_ne_zero later))
      rw [Nat.div_eq_of_lt (Nat.lt_of_lt_of_le small beyond), Nat.zero_mod]

section Single

variable {field : Field} (single : field.usage = field.usageMaximum)

include single

theorem selects_iff_of_single (element : Nat) :
    field.Selects element ↔ element ≠ 0 ∧ (element : Int) = field.logicalMinimum := by
  unfold Selects usageAt
  rw [single]
  omega

variable (start : field.offset = 0) (width : field.width = field.unitSize * field.unitCount)
  (countPos : 1 ≤ field.unitCount) (readable : field.unitSize ≤ Limits.readableBits)

include start width countPos readable

/-- A field that can be read as a whole selects with every value of its first element but zero, so
each of these values would have to be the logical minimum. -/
theorem eq_of_agree (narrow : field.width ≤ Limits.readableBits)
    (agree : ∀ payload : List UInt8, payload.length ≤ Limits.reportBytes →
      (field.WholeSelects payload ↔ field.ElementSelects payload))
    {value : Nat} (nonzero : value ≠ 0) (small : value < 2 ^ field.unitSize) :
    (value : Int) = field.logicalMinimum := by
  obtain ⟨payload, fits, elements⟩ := exists_first_element start readable small
  have first : field.element payload 0 ≠ 0 := by
    rw [elements, if_pos rfl]
    exact nonzero
  have whole : field.WholeSelects payload :=
    ⟨narrow, (contents_ne_zero_iff width payload).mpr ⟨0, countPos, first⟩⟩
  obtain ⟨unit, _among, selects⟩ := (agree payload fits).mp whole
  rw [selects_iff_of_single single, elements] at selects
  split at selects
  · exact selects.2
  · exact absurd rfl selects.1

/-- The two ways of reading select the usage in the same payloads exactly if elements are single
bits that count from one, or if neither ever selects it. -/
theorem agree_iff (sizePos : 1 ≤ field.unitSize) :
    (∀ payload : List UInt8, payload.length ≤ Limits.reportBytes →
      (field.WholeSelects payload ↔ field.ElementSelects payload)) ↔
    (field.width ≤ Limits.readableBits ∧ field.unitSize = 1 ∧ field.logicalMinimum = 1) ∨
      (Limits.readableBits < field.width ∧
        (field.logicalMinimum < 1 ∨ (2 ^ field.unitSize : Nat) ≤ field.logicalMinimum)) := by
  constructor
  · intro agree
    rcases Nat.lt_or_ge Limits.readableBits field.width with wide | narrow
    · refine Or.inr ⟨wide, ?_⟩
      by_contra possible
      have small : field.logicalMinimum.toNat < 2 ^ field.unitSize := by omega
      obtain ⟨payload, fits, elements⟩ := exists_first_element start readable small
      have selects : field.Selects (field.element payload 0) := by
        rw [selects_iff_of_single single, elements, if_pos rfl]
        omega
      have whole := (agree payload fits).mpr ⟨0, countPos, selects⟩
      exact Nat.not_le.mpr wide whole.1
    · have one := eq_of_agree single start width countPos readable narrow agree Nat.one_ne_zero
        (Nat.one_lt_two_pow (Nat.ne_of_gt sizePos))
      refine Or.inl ⟨narrow, ?_, one.symm⟩
      by_contra larger
      have four : 2 ^ 2 ≤ 2 ^ field.unitSize := Nat.pow_le_pow_right (by decide) (by omega)
      have two := eq_of_agree single start width countPos readable narrow agree
        (Nat.succ_ne_zero 1) (Nat.lt_of_lt_of_le (by decide : 2 < 2 ^ 2) four)
      omega
  · intro either payload _fits
    rcases either with ⟨narrow, bits, minimum⟩ | ⟨wide, never⟩
    · rw [WholeSelects, and_iff_right narrow, contents_ne_zero_iff width]
      refine exists_congr (fun unit => and_congr_right (fun _among => ?_))
      have small := field.element_lt payload unit
      rw [bits] at small
      rw [selects_iff_of_single single, minimum]
      omega
    · refine iff_of_false (fun whole => Nat.not_le.mpr wide whole.1) ?_
      intro ⟨unit, _among, selects⟩
      have small := field.element_lt payload unit
      rw [selects_iff_of_single single] at selects
      omega

end Single

end Field

namespace Descriptor

/-- An array of keys whose range has one usage, small enough for a report. -/
structure Entry.IsSingleKey (entry : Entry) (usage : Nat) : Prop where
  data : entry.flags.isConstant = false
  array : entry.flags.isArray = true
  page : entry.history.page = 0x07
  range : entry.history.hasRange = true
  minimum : entry.history.usageMinimum = usage
  maximum : entry.history.usageMaximum = usage
  readable : entry.history.unitSize ≤ Limits.readableBits
  fits : entry.bits ≤ Limits.reportBits

instance (entry : Entry) (usage : Nat) : Decidable (entry.IsSingleKey usage) :=
  decidable_of_iff
    (entry.flags.isConstant = false ∧ entry.flags.isArray = true ∧ entry.history.page = 0x07 ∧
      entry.history.hasRange = true ∧ entry.history.usageMinimum = usage ∧
      entry.history.usageMaximum = usage ∧ entry.history.unitSize ≤ Limits.readableBits ∧
      entry.bits ≤ Limits.reportBits)
    ⟨fun ⟨data, array, page, range, minimum, maximum, readable, fits⟩ =>
        ⟨data, array, page, range, minimum, maximum, readable, fits⟩,
      fun single =>
        ⟨single.data, single.array, single.page, single.range, single.minimum, single.maximum,
          single.readable, single.fits⟩⟩

theorem Entry.IsSingleKey.fields_grants {entry : Entry} {usage : Nat}
    (single : entry.IsSingleKey usage) :
    (grants 0 0 [entry]).flatMap Grant.fields = [entry.block usage usage] := by
  have data : entry.isPadding = false := by
    rw [isPadding, single.data, Bool.false_or, decide_eq_false_iff_not]
    exact Nat.not_lt.mpr single.readable
  have fields : entry.fields = [entry.block usage usage] := by
    simp only [Entry.fields, data, single.range, single.array, single.minimum, single.maximum,
      Bool.false_eq_true, if_false, if_true]
  have fieldBits : entry.fieldBits = entry.bits := by
    rw [Entry.fieldBits, single.range, single.array, Bool.and_self, Bool.or_true, if_pos rfl]
  have place : 1 ≤ Layout.places 0 0 entry.fieldBits := by
    rw [Layout.le_places_iff (Nat.zero_le _) (Nat.zero_le _) entry.fieldBits_pos, fieldBits,
      Nat.zero_add, Nat.zero_add, Nat.one_mul]
    exact ⟨by decide, single.fits⟩
  have count : (entry.grant 0 0).count = 1 := by
    show min entry.fields.length _ = 1
    rw [fields]
    exact Nat.min_eq_left place
  simp only [grants, List.flatMap_cons, List.flatMap_nil, List.append_nil, Grant.fields, count,
    Entry.grant_entry, fields]
  rfl

end Descriptor

section Keyboard

open Descriptor

variable {entry : Entry} {usage : Nat} (single : entry.IsSingleKey usage) {report : Report}
  (read : report.ReadWith [entry.block usage usage])

include single read

theorem Report.selected_singleKey :
    report.selected .keyboard =
      if (entry.block usage usage).WholeSelects report.payload then [usage] else [] := by
  have onPage : (entry.block usage usage).isDataOn .keyboard = true := by
    rw [Field.isDataOn, Bool.and_eq_true, Field.isOn_keyboard_iff]
    exact ⟨congrArg not single.data, single.page⟩
  have chosen : [entry.block usage usage].filter (fun field => field.isDataOn .keyboard) =
      [entry.block usage usage] := List.filter_cons_of_pos onPage
  rw [read.selected, chosen, List.flatMap_singleton]
  exact Field.usages_whole (fun indexed => indexed.2 rfl) report.payload

theorem Report.presses_singleKey (nonzero : 1 ≤ usage) (small : usage ≤ Limits.maxUInt8) :
    report.toKeyboard.Presses usage ↔
      (entry.block usage usage).WholeSelects report.payload := by
  rw [toKeyboard, selected_singleKey single read]
  split
  · rename_i whole
    exact iff_of_true
      (Output.Keyboard.presses_press (Nat.ne_of_gt nonzero) small (by decide)) whole
  · rename_i nothing
    exact iff_of_false (Output.Keyboard.not_presses_empty usage) nothing

end Keyboard

namespace Interface

open Descriptor

/-- Where a report is nothing but such an array, its key is pressed if the array can be read as
one number that is not zero, whatever the logical bounds. So a wide array never presses its key.
Element by element it would be pressed in the same payloads exactly if the elements are single
bits that count from one, or if the array is wide and no element could select it. -/
theorem singleKey_pressed {id : InterfaceId} {bytes : List UInt8} {layout : Layout}
    (member : layout ∈ (ofDescriptor id bytes).layouts) {entry : Entry}
    (only : entriesOf layout.report (entries (shortItems bytes)) = [entry]) {usage : Nat}
    (single : entry.IsSingleKey usage) (nonzero : 1 ≤ usage) (small : usage ≤ Limits.maxUInt8)
    (interfaceId : InterfaceId) (generation : Nat) :
    (∀ payload : List UInt8, payload.length ≤ Limits.reportBytes →
      ∃ report, layout.read interfaceId generation payload = .ok report ∧
        report.toKeyboard =
          Output.Keyboard.empty.pressAll
            (if (entry.block usage usage).WholeSelects payload then [usage] else []) ∧
        (report.toKeyboard.Presses usage ↔
          entry.bits ≤ Limits.readableBits ∧ Words.ofBytes payload % 2 ^ entry.bits ≠ 0)) ∧
      ((∀ payload report, layout.read interfaceId generation payload = .ok report →
        (report.toKeyboard.Presses usage ↔ (entry.block usage usage).ElementSelects payload)) ↔
      (entry.bits ≤ Limits.readableBits ∧ entry.history.unitSize = 1 ∧
          entry.history.logicalMinimum = 1) ∨
        (Limits.readableBits < entry.bits ∧
          (entry.history.logicalMinimum < 1 ∨
            (2 ^ entry.history.unitSize : Nat) ≤ entry.history.logicalMinimum))) := by
  have fields : layout.fields = [entry.block usage usage] := by
    rw [fields_of_mem member, only]
    exact single.fields_grants
  have presses {payload : List UInt8} {report : Report}
      (isRead : layout.read interfaceId generation payload = .ok report) :
      report.toKeyboard.Presses usage ↔ (entry.block usage usage).WholeSelects payload := by
    obtain ⟨_fits, same, read⟩ := Layout.readWith_of_read isRead
    rw [fields] at read
    rw [← same]
    exact Report.presses_singleKey single read nonzero small
  refine ⟨?_, ?_⟩
  · intro payload fits
    obtain ⟨report, isRead, same, read⟩ := layout.exists_read interfaceId generation fits
    rw [fields] at read
    have selected := Report.selected_singleKey single read
    rw [same] at selected
    have whole : (entry.block usage usage).WholeSelects payload ↔
        entry.bits ≤ Limits.readableBits ∧ Words.ofBytes payload % 2 ^ entry.bits ≠ 0 := by
      rw [Field.WholeSelects, Field.contents, show (entry.block usage usage).offset = 0 from rfl,
        Nat.pow_zero, Nat.div_one]
      rfl
    exact ⟨report, isRead, congrArg Output.Keyboard.empty.pressAll selected,
      (presses isRead).trans whole⟩
  · have oneUsage : (entry.block usage usage).usage = (entry.block usage usage).usageMaximum := rfl
    refine Iff.trans ?_
      (Field.agree_iff oneUsage rfl rfl entry.countPos single.readable entry.sizePos)
    constructor
    · intro agree payload fits
      obtain ⟨report, isRead, _same, _read⟩ := layout.exists_read interfaceId generation fits
      exact (presses isRead).symm.trans (agree payload report isRead)
    · intro agree payload report isRead
      have fits := (Layout.readWith_of_read isRead).1
      exact (presses isRead).trans (agree payload fits)

def singleKey (elements : UInt8) : List UInt8 :=
  [0x05, 0x07, 0x19, 0x04, 0x29, 0x04, 0x15, 0x01, 0x25, 0x01, 0x75, 0x08, 0x95, elements,
    0x81, 0x00]

theorem singleKey_declared : (ofDescriptor 0 (singleKey 1)).layouts ≠ [] := by decide

theorem singleKey_entry : entriesOf (0, .input) (entries (shortItems (singleKey 1))) ≠ [] :=
  List.cons_ne_nil _ _

/-- The one element is 2, which stands for no key. -/
theorem singleKey_anyway :
    ∃ layout, layout ∈ (ofDescriptor 0 (singleKey 1)).layouts ∧
      ∃ report, layout.read 0 1 [2] = .ok report ∧ report.toKeyboard.Presses 4 := by
  have single : (List.head _ singleKey_entry).IsSingleKey 4 := by decide
  obtain ⟨pressed, _agree⟩ := singleKey_pressed (List.head_mem singleKey_declared) rfl single
    (by decide) (by decide) 0 1
  obtain ⟨report, isRead, _keyboard, presses⟩ := pressed [2] (by decide)
  exact ⟨_, List.head_mem singleKey_declared, report, isRead, presses.mpr (by decide)⟩

/-- The first of six elements selects key 4, and no key is pressed. -/
theorem singleKey_lost :
    (∃ entry, entriesOf (0, .input) (entries (shortItems (singleKey 6))) = [entry] ∧
      entry.IsSingleKey 4 ∧ (entry.block 4 4).ElementSelects [1, 0, 0, 0, 0, 0]) ∧
      (ofDescriptor 0 (singleKey 6)).layouts.map (fun layout =>
          (layout.report,
            (layout.read 0 1 [1, 0, 0, 0, 0, 0]).toOption.map Report.toKeyboard)) =
        [((0, .input), some .empty)] ∧
      ¬Output.Keyboard.empty.Presses 4 := by
  have among : 0 < 6 := by decide
  exact ⟨⟨_, rfl, by decide, 0, among, by decide⟩, by decide,
    Output.Keyboard.not_presses_empty 4⟩

end Interface

end HidBridge
