/-
The mouse report for a report, in exact arithmetic. Movement is a part of the last value, rounded
toward zero and cut to sixteen bits; neither the shorter way for the usual sensitivity nor cutting
to 32 bits on the way shows. A button is down if some field of data selects it, wherever the
elements of the field lie. All of this holds of any report, also of one that no layout fits, and
as long as the numbers in it fit their places, so does every number that is computed from them.
-/

import HidBridge.Proofs.Conversion.Elements

namespace HidBridge

namespace Words

def IsSigned (bits : Nat) (number : Int) : Prop :=
  -2 ^ (bits - 1) ≤ number ∧ number < 2 ^ (bits - 1)

instance (bits : Nat) (number : Int) : Decidable (IsSigned bits number) :=
  inferInstanceAs (Decidable (_ ∧ _))

theorem isSigned_mul {number : Int} {factor : Nat} (double : IsSigned 32 number)
    (word : factor ≤ Limits.maxUInt16) : IsSigned 64 (number * factor) := by
  obtain ⟨low, high⟩ := double
  have natural : (0 : Int) ≤ factor := Int.natCast_nonneg factor
  have lower : -2 ^ 31 * (factor : Int) ≤ number * factor :=
    Int.mul_le_mul_of_nonneg_right low natural
  have upper : number * factor ≤ 2 ^ 31 * factor :=
    Int.mul_le_mul_of_nonneg_right (Int.le_of_lt high) natural
  have bound : factor ≤ 0xFFFF := word
  unfold IsSigned
  omega

end Words

/-! ### Movement -/

namespace Output.Mouse

theorem clamp_clamp {low high lower higher : Int} (ordered : low ≤ high) (below : lower ≤ low)
    (above : high ≤ higher) (number : Int) :
    clamp low high (clamp lower higher number) = clamp low high number := by
  unfold clamp
  omega

theorem clampAxis_scaleMovement (sensitivity : Nat) (movement : Int) :
    clampAxis (scaleMovement sensitivity movement) =
      clamp (-32768) 32767 ((movement * sensitivity).tdiv 100) := by
  unfold clampAxis scaleMovement
  split
  · rename_i usual
    rw [usual]
    exact congrArg (clamp _ _) (Int.mul_tdiv_cancel movement (by decide)).symm
  · exact clamp_clamp (by decide) (by decide) (by decide) _

end Output.Mouse

def Sample.IsOf (sample : Sample) (page code : Nat) : Prop :=
  sample.field.flags.isConstant = false ∧ sample.field.page = page ∧ sample.field.usage = code

namespace Report

/-- The value of the last sample of data with a usage, or zero where there is none. -/
def Latest (report : Report) (page code : Nat) (value : Int) : Prop :=
  (∃ earlier sample later, report.samples = earlier ++ sample :: later ∧
      sample.IsOf page code ∧ (∀ other, other ∈ later → ¬other.IsOf page code) ∧
      value = sample.value) ∨
    ((∀ sample, sample ∈ report.samples → ¬sample.IsOf page code) ∧ value = 0)

theorem latest_lastValue (report : Report) {page : Page} {wanted : Nat → Bool} {pageCode code : Nat}
    (same : ∀ sample : Sample,
      (sample.isDataOn page && wanted sample.field.usage) = true ↔ sample.IsOf pageCode code) :
    report.Latest pageCode code (report.lastValue page wanted) := by
  have cases := report.lastValue_cases page wanted
  simp only [same] at cases
  exact cases

theorem latest_desktopValue (report : Report) (usage : Desktop)
    (known : Desktop.ofCode usage.code = usage) :
    report.Latest 0x01 usage.code (report.desktopValue usage) := by
  refine report.latest_lastValue (fun sample => ?_)
  rw [Bool.and_eq_true, Sample.isDataOn_iff rfl, decide_eq_true_iff, Desktop.ofCode_eq_iff known,
    and_assoc]
  rfl

theorem latest_panValue (report : Report) : report.Latest 0x0C 0x238 report.panValue := by
  refine report.latest_lastValue (fun sample => ?_)
  rw [Bool.and_eq_true, Sample.isDataOn_iff rfl, beq_iff_eq, and_assoc]
  rfl

end Report

/-! ### Buttons -/

namespace Field

theorem unitOffset?_cases (field : Field) (unit : Nat) :
    field.unitOffset? unit = some (field.offset + unit * field.unitSize) ∨
      (field.unitOffset? unit = none ∧
        Limits.maxUInt16 < field.offset + unit * field.unitSize) := by
  unfold unitOffset?
  dsimp only
  split
  · exact Or.inl rfl
  · exact Or.inr ⟨rfl, by omega⟩

theorem element_of_far {field : Field} {payload : List UInt8}
    (fits : payload.length ≤ Limits.reportBytes) {unit : Nat}
    (far : Limits.maxUInt16 < field.offset + unit * field.unitSize) :
    field.element payload unit = 0 := by
  have small : Words.ofBytes payload < 2 ^ (field.offset + unit * field.unitSize) := by
    refine Nat.lt_of_lt_of_le (Words.ofBytes_lt_two_pow payload)
      (Nat.pow_le_pow_right (by decide) ?_)
    have bits : 8 * payload.length ≤ Limits.maxUInt16 :=
      Nat.le_trans (Nat.mul_le_mul_left 8 fits) (by decide)
    omega
  rw [element, Nat.div_eq_of_lt small, Nat.zero_mod]

theorem unitUsage?_eq (field : Field) {payload : List UInt8}
    (fits : payload.length ≤ Limits.reportBytes) (unit : Nat) :
    field.unitUsage? payload unit =
      if field.unitSize ≤ Limits.readableBits ∧ field.Selects (field.element payload unit) then
        some (field.usageAt (field.element payload unit)).toNat
      else none := by
  have nothing : ¬field.Selects 0 := fun selects => selects.1 rfl
  rcases field.unitOffset?_cases unit with addressed | ⟨unaddressed, far⟩
  · rw [unitUsage?, addressed, Option.bind_some, indexed?_eq]
    by_cases readable : field.unitSize ≤ Limits.readableBits
    · rw [Bits.unsigned_eq payload _ readable]
      exact (if_congr (and_iff_right readable) rfl rfl).symm
    · rw [Bits.unsigned_of_unreadable payload _ (Nat.lt_of_not_le readable), if_neg nothing,
        if_neg (fun both => readable both.1)]
  · rw [unitUsage?, unaddressed, element_of_far fits far,
      if_neg (fun both => nothing both.2)]
    rfl

end Field

namespace Sample

/-- An array over several usages selects the usages of its elements, as far as they can be read.
Any other field selects its own usage by a value that is not zero. -/
def Selects (sample : Sample) (payload : List UInt8) (usage : Nat) : Prop :=
  if sample.field.flags.isArray = true ∧ sample.field.usage ≠ sample.field.usageMaximum then
    sample.field.unitSize ≤ Limits.readableBits ∧
      ∃ unit, unit < sample.field.unitCount ∧
        sample.field.Selects (sample.field.element payload unit) ∧
        sample.field.usageAt (sample.field.element payload unit) = usage
  else sample.value ≠ 0 ∧ sample.field.usage = usage

theorem mem_usages_iff {sample : Sample} (data : sample.field.flags.isConstant = false)
    {payload : List UInt8} (fits : payload.length ≤ Limits.reportBytes) (usage : Nat) :
    usage ∈ sample.usages payload ↔ sample.Selects payload usage := by
  have byIndex : sample.selectsByIndex = true ↔
      sample.field.flags.isArray = true ∧ sample.field.usage ≠ sample.field.usageMaximum := by
    rw [selectsByIndex, Field.isUsageArray, data, Bool.not_false, Bool.and_true, Bool.and_eq_true,
      bne_iff_ne]
  unfold usages Selects
  by_cases indexed : sample.field.flags.isArray = true ∧
      sample.field.usage ≠ sample.field.usageMaximum
  · rw [if_pos (byIndex.mpr indexed), if_pos indexed, Field.arrayUsages, List.mem_filterMap]
    constructor
    · intro found
      obtain ⟨unit, among, selected⟩ := found
      rw [Field.unitUsage?_eq _ fits] at selected
      split at selected
      · rename_i both
        have positive := both.2.usageAt_nonneg
        have same := Option.some.inj selected
        exact ⟨both.1, unit, List.mem_range.mp among, both.2, by omega⟩
      · cases selected
    · intro found
      obtain ⟨readable, unit, among, selects, same⟩ := found
      refine ⟨unit, List.mem_range.mpr among, ?_⟩
      rw [Field.unitUsage?_eq _ fits, if_pos ⟨readable, selects⟩, same, Int.toNat_natCast]
  · rw [if_neg (fun selects => indexed (byIndex.mp selects)), if_neg indexed]
    split
    · rename_i nonzero
      rw [List.mem_singleton, and_iff_right nonzero, eq_comm]
    · rename_i zero
      exact iff_of_false List.not_mem_nil (fun both => zero both.1)

end Sample

namespace Output.Mouse

theorem testBit_press (mouse : Mouse) (button bit : Nat) :
    (mouse.press button).buttons.testBit bit = true ↔
      mouse.buttons.testBit bit = true ∨ (bit < buttonCount ∧ bit + 1 = button) := by
  unfold press
  split
  · rw [Nat.testBit_or, Bool.or_eq_true, Nat.one_shiftLeft, Nat.testBit_two_pow,
      decide_eq_true_iff]
    exact or_congr_right (by omega)
  · exact (or_iff_left (by omega)).symm

theorem testBit_pressAll (mouse : Mouse) (buttons : List Nat) (bit : Nat) :
    (mouse.pressAll buttons).buttons.testBit bit = true ↔
      mouse.buttons.testBit bit = true ∨ (bit < buttonCount ∧ bit + 1 ∈ buttons) := by
  induction buttons generalizing mouse with
  | nil => exact (or_iff_left (fun pressed => List.not_mem_nil pressed.2)).symm
  | cons button rest ih =>
      rw [pressAll, List.foldl_cons]
      refine (ih (mouse.press button)).trans ?_
      rw [testBit_press, or_assoc, ← and_or_left, List.mem_cons]

end Output.Mouse

/-! ### The report as a whole -/

/-- Usages are numbers of sixteen bits, values and bounds are numbers of 32 bits with a sign. -/
structure Sample.Fits (sample : Sample) : Prop where
  usage : sample.field.usage ≤ Limits.maxUInt16
  usageMaximum : sample.field.usageMaximum ≤ Limits.maxUInt16
  logicalMinimum : Words.IsSigned 32 sample.field.logicalMinimum
  value : Words.IsSigned 32 sample.value

instance (sample : Sample) : Decidable sample.Fits :=
  decidable_of_iff
    (sample.field.usage ≤ Limits.maxUInt16 ∧ sample.field.usageMaximum ≤ Limits.maxUInt16 ∧
      Words.IsSigned 32 sample.field.logicalMinimum ∧ Words.IsSigned 32 sample.value)
    ⟨fun ⟨usage, usageMaximum, logicalMinimum, value⟩ =>
        ⟨usage, usageMaximum, logicalMinimum, value⟩,
      fun fits => ⟨fits.usage, fits.usageMaximum, fits.logicalMinimum, fits.value⟩⟩

/-- What the bridge computes from a sample stays within 64 bits with a sign, and every usage that
an element selects within sixteen bits. -/
structure Sample.Exact (sample : Sample) (sensitivity : Nat) : Prop where
  product : Words.IsSigned 64 (sample.value * sensitivity)
  above : ∀ element : Nat, element < 2 ^ Limits.readableBits →
    Words.IsSigned 64 (element - sample.field.logicalMinimum) ∧
      Words.IsSigned 64 (sample.field.usageAt element)
  selected : ∀ element, sample.field.Selects element →
    0 ≤ sample.field.usageAt element ∧ sample.field.usageAt element ≤ Limits.maxUInt16

theorem Sample.Fits.exact {sample : Sample} (fits : sample.Fits) {sensitivity : Nat}
    (word : sensitivity ≤ Limits.maxUInt16) : sample.Exact sensitivity where
  product := Words.isSigned_mul fits.value word
  above := by
    intro element small
    have usage : sample.field.usage ≤ 0xFFFF := fits.usage
    have ⟨low, high⟩ := fits.logicalMinimum
    have bound : element < 2 ^ 32 := small
    unfold Words.IsSigned Field.usageAt
    omega
  selected := by
    intro element selects
    have last := selects.2.2.2
    have word : sample.field.usageMaximum ≤ 0xFFFF := fits.usageMaximum
    refine ⟨selects.usageAt_nonneg, ?_⟩
    show sample.field.usageAt element ≤ (0xFFFF : Nat)
    omega

namespace Report

theorem mem_selected_iff {report : Report} (fits : report.payload.length ≤ Limits.reportBytes)
    (page : Page) (known : Page.ofCode page.code = page) (usage : Nat) :
    usage ∈ report.selected page ↔
      ∃ sample, sample ∈ report.samples ∧ sample.field.flags.isConstant = false ∧
        sample.field.page = page.code ∧ sample.Selects report.payload usage := by
  unfold selected
  rw [List.mem_flatMap]
  refine exists_congr (fun sample => ?_)
  rw [List.mem_filter, Sample.isDataOn_iff known, and_assoc, and_assoc]
  refine and_congr_right (fun _member => and_congr_right (fun data => and_congr_right ?_))
  intro _onPage
  exact Sample.mem_usages_iff data fits usage

/-- The mouse report for any report whose numbers fit their places. Movement is the last value,
scaled in percent, rounded toward zero and cut to sixteen bits; wheels are the last value, cut to
what is reached in both directions. The buttons that are down are those of the first five that some
field of data selects. No number on the way is too large for its place. -/
theorem toMouse_exact {report : Report} (short : report.payload.length ≤ Limits.reportBytes)
    (fits : ∀ sample, sample ∈ report.samples → sample.Fits) {sensitivity : Nat}
    (word : sensitivity ≤ Limits.maxUInt16) :
    let mouse := report.toMouse sensitivity
    let clamp := Output.Mouse.clamp
    (∃ x y wheel pan,
      (report.Latest 0x01 0x30 x ∧ mouse.x = clamp (-32768) 32767 ((x * sensitivity).tdiv 100)) ∧
      (report.Latest 0x01 0x31 y ∧ mouse.y = clamp (-32768) 32767 ((y * sensitivity).tdiv 100)) ∧
      (report.Latest 0x01 0x38 wheel ∧ mouse.wheel = clamp (-127) 127 wheel) ∧
      (report.Latest 0x0C 0x238 pan ∧ mouse.pan = clamp (-127) 127 pan)) ∧
      (∀ bit, mouse.buttons.testBit bit = true ↔
        bit < 5 ∧ ∃ sample, sample ∈ report.samples ∧ sample.field.flags.isConstant = false ∧
          sample.field.page = 0x09 ∧ sample.Selects report.payload (bit + 1)) ∧
      ∀ sample, sample ∈ report.samples → sample.Exact sensitivity := by
  intro mouse clamp
  refine ⟨⟨report.desktopValue .x, report.desktopValue .y, report.desktopValue .wheel,
    report.panValue, ⟨?_, ?_⟩, ⟨?_, ?_⟩, ⟨?_, rfl⟩, ⟨?_, rfl⟩⟩, ?_, ?_⟩
  · exact report.latest_desktopValue .x rfl
  · exact Output.Mouse.clampAxis_scaleMovement sensitivity _
  · exact report.latest_desktopValue .y rfl
  · exact Output.Mouse.clampAxis_scaleMovement sensitivity _
  · exact report.latest_desktopValue .wheel rfl
  · exact report.latest_panValue
  · intro bit
    have none : ¬Output.Mouse.empty.buttons.testBit bit = true := by
      rw [Output.Mouse.empty, Nat.zero_testBit]
      exact Bool.false_ne_true
    refine (Output.Mouse.testBit_pressAll _ _ bit).trans ((or_iff_right none).trans ?_)
    exact and_congr_right (fun _known => mem_selected_iff short .button rfl (bit + 1))
  · intro sample member
    exact (fits sample member).exact word

def movement (usage : Nat) (value : Int) (isConstant : Bool) : Sample :=
  { field :=
      { page := 0x01, usage, usageMaximum := usage, unitSize := 32, unitCount := 1
        logicalMinimum := -0x80000000, logicalMaximum := 0x7FFFFFFF
        flags := { isConstant, isVariable := true, isRelative := true, isArray := false }
        offset := 0, width := 32 }
    value }

def buttonArray (offset : Nat) : Sample :=
  { field :=
      { page := 0x09, usage := 1, usageMaximum := 5, unitSize := 8, unitCount := 2
        logicalMinimum := 1, logicalMaximum := 5
        flags := { isConstant := false, isVariable := false, isRelative := false, isArray := true }
        offset, width := 16 }
    value := 0 }

/-- The pointer moves as far as a number can say, and the second byte is button 4. Another array
lies behind all that the field table can address. -/
def flung : Report :=
  { interfaceId := 0
    reportId := 0
    generation := 1
    samples :=
      [movement 0x30 5 false, movement 0x31 (-150) false, movement 0x30 (-0x80000000) false,
        buttonArray 0, buttonArray 0xFFFF, movement 0x31 7 true]
    payload := [0, 4] }

theorem flung_exact :
    (∃ y, flung.Latest 0x01 0x31 y ∧
      (flung.toMouse 33).y = Output.Mouse.clamp (-32768) 32767 ((y * (33 : Nat)).tdiv 100)) ∧
      (flung.toMouse 33).buttons.testBit 3 = true ∧
      (buttonArray 0xFFFF).Exact 33 ∧
      ((flung.toMouse 33).x, (flung.toMouse 33).y) = (-32768, -49) := by
  have short : flung.payload.length ≤ Limits.reportBytes := by decide
  have fits : ∀ sample, sample ∈ flung.samples → sample.Fits := by decide
  have word : 33 ≤ Limits.maxUInt16 := by decide
  obtain ⟨⟨_x, y, _wheel, _pan, _sideways, upright, _turns⟩, buttons, exact⟩ :=
    toMouse_exact short fits word
  have selects : (buttonArray 0).Selects flung.payload 4 :=
    ⟨by decide, 1, by decide, by decide, by decide⟩
  refine ⟨⟨y, upright⟩, (buttons 3).mpr ⟨by decide, buttonArray 0, by decide, rfl, rfl, selects⟩,
    exact _ (by decide), by decide⟩

end Report

end HidBridge
