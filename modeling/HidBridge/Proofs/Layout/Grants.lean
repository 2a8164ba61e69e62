/-
What a report takes of an entry. An entry asks for one block, or for units of one field each
with unused bits behind them. The report takes the first fields, as many as find a place. Of
an entry that is taken whole it takes the unused bits too, up to the end of the longest
report.
-/

import HidBridge.Proofs.Descriptor.Entries
import HidBridge.Proofs.Layout.WellFormed

namespace HidBridge

namespace Layout

/-- How many fields of so many bits each find a place behind what is there. -/
def places (used start bits : Nat) : Nat :=
  min (Limits.reportFields - used) ((Limits.reportBits - start) / bits)

theorem le_places_iff {used start bits : Nat} (few : used ≤ Limits.reportFields)
    (short : start ≤ Limits.reportBits) (positive : 1 ≤ bits) (count : Nat) :
    count ≤ places used start bits ↔
      used + count ≤ Limits.reportFields ∧ start + count * bits ≤ Limits.reportBits := by
  unfold places
  rw [Nat.le_min, Nat.le_div_iff_mul_le positive]
  omega

theorem append?_eq_none {layout : Layout} (field : Field) {bits : Nat}
    (full : ¬layout.HasRoom 1 bits) : layout.append? field bits = none := by
  cases appended : layout.append? field bits with
  | none => rfl
  | some longer => exact absurd (append?_eq_some_iff.mp appended).1 full

theorem extend_nothing (layout : Layout) : layout.extend [] 0 = layout := by
  simp only [extend, List.append_nil, Nat.add_zero]

theorem hasRoom_extend_iff {layout : Layout} {field : Field} {count unitBits : Nat} :
    (layout.extend [field] unitBits).HasRoom count (count * unitBits) ↔
      layout.HasRoom (count + 1) ((count + 1) * unitBits) := by
  simp only [HasRoom, extend, List.length_append, List.length_singleton, Nat.succ_mul]
  omega

theorem appendUnits_until {unitBits : Nat} (field : Nat → Field) (start : Nat)
    {count remaining : Nat} {layout : Layout} (enough : count ≤ remaining)
    (room : layout.HasRoom count (count * unitBits))
    (full : count < remaining → ¬layout.HasRoom (count + 1) ((count + 1) * unitBits)) :
    appendUnits unitBits field start remaining layout =
      (layout.extend (unitFields unitBits field start count layout.bits) (count * unitBits),
        decide (count = remaining)) := by
  induction count generalizing start remaining layout with
  | zero =>
      rw [Nat.zero_mul, unitFields, extend_nothing]
      cases remaining with
      | zero => rfl
      | succ remaining =>
          have refused := full (Nat.succ_pos remaining)
          rw [Nat.zero_add, Nat.one_mul] at refused
          simp only [appendUnits, append?_eq_none (field start) refused]
          rfl
  | succ count ih =>
      cases remaining with
      | zero => cases enough
      | succ remaining =>
          have first : layout.HasRoom 1 unitBits := by
            simp only [HasRoom, Nat.succ_mul] at room ⊢
            omega
          have roomBehind : (layout.extend [(field start).placed layout.bits unitBits]
              unitBits).HasRoom count (count * unitBits) := hasRoom_extend_iff.mpr room
          have rest := ih (start + 1) (Nat.le_of_succ_le_succ enough) roomBehind
            (fun fewer more => full (Nat.succ_lt_succ fewer) (hasRoom_extend_iff.mp more))
          simp only [appendUnits, append?_of_hasRoom (field start) first, rest]
          simp only [extend, unitFields, List.append_assoc, List.singleton_append, Nat.add_assoc,
            Nat.succ_mul, Nat.add_comm unitBits, Nat.add_right_cancel_iff]

end Layout

namespace Descriptor

theorem boundedProduct_fits_iff {start left right : Nat} :
    start + boundedProduct left right ≤ Limits.reportBits ↔
      start + left * right ≤ Limits.reportBits := by
  have bound := Limits.reportBits_lt_maxUInt32
  unfold boundedProduct
  omega

theorem min_boundedProduct (start left right : Nat) :
    min (start + boundedProduct left right) Limits.reportBits =
      min (start + left * right) Limits.reportBits := by
  have bound := Limits.reportBits_lt_maxUInt32
  unfold boundedProduct
  omega

namespace Entry

def fieldBits (entry : Entry) : Nat :=
  if entry.isPadding || (entry.history.hasRange && entry.flags.isArray) then entry.bits
  else entry.history.unitSize

def declaration (entry : Entry) : Declaration :=
  (Context.initial.after entry.history).declaration entry.direction entry.data

theorem isPadding_false {entry : Entry} (data : entry.isPadding = false) :
    entry.flags.isConstant = false ∧ entry.history.unitSize ≤ Limits.readableBits ∧
      effectiveFlags entry.flags entry.history.unitSize = entry.flags := by
  unfold isPadding at data
  rw [Bool.or_eq_false_iff, decide_eq_false_iff_not] at data
  exact ⟨data.1, Nat.le_of_not_lt data.2, if_neg (fun wide => data.2 wide.1)⟩

theorem isPadding_true {entry : Entry} (padding : entry.isPadding = true) :
    (effectiveFlags entry.flags entry.history.unitSize).isConstant = true := by
  unfold isPadding at padding
  rw [Bool.or_eq_true, decide_eq_true_eq] at padding
  unfold effectiveFlags
  split
  · rfl
  · rename_i narrow
    rcases padding with constant | wide
    · exact constant
    · cases constant : entry.flags.isConstant with
      | true => rfl
      | false => exact absurd ⟨wide, constant⟩ narrow

theorem usageOf_locals (history : History) {unit : Nat} (few : unit < Limits.usages) :
    history.locals.usageOf unit = history.usageOf unit := by
  simp only [Locals.usageOf, History.usageOf, History.locals]
  by_cases listed : unit < history.usages.length
  · rw [List.getElem?_take_of_lt few, List.getElem?_eq_getElem listed, Option.getD_some]
  · have whole : history.usages.take Limits.usages = history.usages :=
      List.take_of_length_le (by omega)
    rw [whole, List.getElem?_eq_none (Nat.le_of_not_lt listed), Option.getD_none]

theorem rangeLength_locals (history : History) :
    history.locals.rangeLength = history.rangeLength := by
  simp only [Locals.rangeLength, History.rangeLength, History.locals]
  split <;> omega

theorem emission_declaration (entry : Entry) :
    entry.declaration.emission =
      emission (effectiveFlags entry.flags entry.history.unitSize) entry.history.globals
        entry.history.locals := by
  have context := Context.after_initial entry.history
  simp only [declaration, Context.declaration, context.1, context.2]
  rfl

theorem report_declaration (entry : Entry) :
    (entry.declaration.reportId, entry.declaration.direction) = entry.report := by
  have context := Context.after_initial entry.history
  simp only [declaration, Context.declaration, context.1]
  rfl

theorem bits_pos (entry : Entry) : 1 ≤ entry.bits :=
  Nat.mul_pos entry.sizePos entry.countPos

theorem fieldBits_pos (entry : Entry) : 1 ≤ entry.fieldBits := by
  unfold fieldBits
  split
  · exact entry.bits_pos
  · exact entry.sizePos

/-- An entry is one block, with every number as far as it can be counted. -/
structure IsBlock (entry : Entry) (field : Field) : Prop where
  emission : entry.declaration.emission =
    .block field (boundedProduct entry.history.unitSize entry.history.unitCount)
  size : field.unitSize = min entry.history.unitSize Limits.maxUInt16
  count : field.unitCount = min entry.history.unitCount Limits.maxUInt16
  bits : entry.fieldBits = entry.bits
  fields : entry.fields =
    [{ field with
        unitSize := entry.history.unitSize
        unitCount := entry.history.unitCount
        offset := 0
        width := entry.bits }]

/-- An entry is units of one field each, one behind the other, and unused bits follow. -/
structure IsUnits (entry : Entry) (used : Nat) (field : Nat → Field) (usage : Nat → Nat) :
    Prop where
  emission : entry.declaration.emission =
    .units used entry.history.unitSize field
      (boundedProduct (entry.history.unitCount - used) entry.history.unitSize)
  enough : used ≤ entry.history.unitCount
  bits : entry.fieldBits = entry.history.unitSize
  fields : entry.fields = (List.range used).map (fun index => entry.unit index (usage index))
  placed : ∀ index offset, index < Limits.usages →
    (field index).placed offset entry.history.unitSize =
      { entry.unit index (usage index) with offset := offset }

namespace IsUnits

variable {entry : Entry} {used : Nat} {field : Nat → Field} {usage : Nat → Nat}
  (isUnits : entry.IsUnits used field usage)

include isUnits

theorem product :
    used * entry.history.unitSize +
      (entry.history.unitCount - used) * entry.history.unitSize = entry.bits := by
  rw [← Nat.add_mul, Nat.add_sub_cancel' isUnits.enough, Nat.mul_comm]
  rfl

theorem unitFields_eq {count : Nat} (start : Nat) (fewer : count ≤ used)
    (table : count ≤ Limits.reportFields) :
    Layout.unitFields entry.history.unitSize field 0 count start =
      (entry.fields.take count).map (fun field => field.shift start) := by
  rw [Layout.unitFields_eq_map, isUnits.fields, ← List.map_take, List.take_range,
    Nat.min_eq_left fewer, List.map_map]
  apply List.map_congr_left
  intro index member
  have remembered : index < Limits.reportFields :=
    Nat.lt_of_lt_of_le (List.mem_range.mp member) table
  rw [Nat.zero_add, isUnits.placed index _ remembered]
  rfl

end IsUnits

theorem isBlock_of_padding {entry : Entry} (padding : entry.isPadding = true) :
    ∃ field, entry.IsBlock field := by
  have emitted := entry.emission_declaration
  have constant := isPadding_true padding
  simp only [Descriptor.emission, constant, if_true] at emitted
  refine ⟨_, emitted, rfl, rfl, ?_, ?_⟩
  · simp only [fieldBits, padding, Bool.true_or, if_true]
  · simp only [fields, padding, if_true]
    rfl

section Data

variable {entry : Entry} (data : entry.isPadding = false)

include data

theorem isBlock_of_array (range : entry.history.hasRange = true)
    (array : entry.flags.isArray = true) : ∃ field, entry.IsBlock field := by
  have emitted := entry.emission_declaration
  obtain ⟨constant, _readable, same⟩ := isPadding_false data
  have rangeLocals : entry.history.locals.hasRange = true := range
  rw [same] at emitted
  simp only [Descriptor.emission, constant, rangeLocals, array, Bool.false_eq_true, if_false,
    if_true] at emitted
  refine ⟨_, emitted, rfl, rfl, ?_, ?_⟩
  · simp only [fieldBits, range, array, Bool.and_self, Bool.or_true, if_true]
  · simp only [fields, data, range, array, Bool.false_eq_true, if_false, if_true]
    rfl

theorem unitSize_whole : min entry.history.unitSize Limits.maxUInt16 = entry.history.unitSize := by
  have readable := (isPadding_false data).2.1
  have bound : Limits.readableBits ≤ Limits.maxUInt16 := by decide
  exact Nat.min_eq_left (Nat.le_trans readable bound)

theorem isUnits_of_range (range : entry.history.hasRange = true)
    (single : entry.flags.isArray = false) :
    ∃ used field usage, entry.IsUnits used field usage := by
  have emitted := entry.emission_declaration
  have whole := unitSize_whole data
  obtain ⟨constant, _readable, same⟩ := isPadding_false data
  have rangeLocals : entry.history.locals.hasRange = true := range
  rw [same] at emitted
  simp only [Descriptor.emission, constant, rangeLocals, single, Bool.false_eq_true, if_false,
    if_true, rangeLength_locals] at emitted
  refine ⟨_, _, fun index => entry.history.usageMinimum + index, emitted, Nat.min_le_left _ _,
    ?_, ?_, ?_⟩
  · simp only [fieldBits, data, single, Bool.and_false, Bool.or_false, Bool.false_eq_true,
      if_false]
  · simp only [fields, data, range, single, Bool.false_eq_true, if_false, if_true]
    rfl
  · intro index offset _few
    simp only [Field.placed, unit, block, History.globals, History.locals, whole]

theorem isUnits_of_list (list : entry.history.hasRange = false) :
    ∃ used field usage, entry.IsUnits used field usage := by
  have emitted := entry.emission_declaration
  have whole := unitSize_whole data
  obtain ⟨constant, _readable, same⟩ := isPadding_false data
  have listLocals : entry.history.locals.hasRange = false := list
  have nothing : boundedProduct (entry.history.unitCount - entry.history.unitCount)
      entry.history.unitSize = 0 := by
    simp only [boundedProduct, Nat.sub_self, Nat.zero_mul, Nat.zero_min]
  rw [same] at emitted
  simp only [Descriptor.emission, constant, listLocals, Bool.false_eq_true, if_false] at emitted
  rw [← nothing] at emitted
  refine ⟨_, _, entry.history.usageOf, emitted, Nat.le_refl _, ?_, ?_, ?_⟩
  · simp only [fieldBits, data, list, Bool.false_and, Bool.or_false, Bool.false_eq_true, if_false]
  · simp only [fields, data, list, Bool.false_eq_true, if_false]
    rfl
  · intro index offset few
    simp only [usageOf_locals entry.history few, Field.placed, unit, block, History.globals, whole]

end Data

theorem isBlock_or_isUnits (entry : Entry) :
    (∃ field, entry.IsBlock field) ∨ ∃ used field usage, entry.IsUnits used field usage := by
  cases padding : entry.isPadding with
  | true => exact Or.inl (isBlock_of_padding padding)
  | false =>
      cases range : entry.history.hasRange with
      | false => exact Or.inr (isUnits_of_list padding range)
      | true =>
          cases array : entry.flags.isArray with
          | true => exact Or.inl (isBlock_of_array padding range array)
          | false => exact Or.inr (isUnits_of_range padding range array)

end Entry

theorem Entry.length_mul_fieldBits_le (entry : Entry) :
    entry.fields.length * entry.fieldBits ≤ entry.bits := by
  rcases entry.isBlock_or_isUnits with ⟨field, isBlock⟩ | ⟨used, field, usage, isUnits⟩
  · apply Nat.le_of_eq
    rw [isBlock.fields, isBlock.bits, List.length_singleton, Nat.one_mul]
  · rw [isUnits.fields, isUnits.bits, List.length_map, List.length_range, Nat.mul_comm]
    exact Nat.mul_le_mul_left _ isUnits.enough

structure Grant where
  entry : Entry
  start : Nat
  count : Nat

namespace Grant

def fields (grant : Grant) : List Field :=
  (grant.entry.fields.take grant.count).map (fun field => field.shift grant.start)

def Whole (grant : Grant) : Prop := grant.count = grant.entry.fields.length

instance (grant : Grant) : Decidable grant.Whole := inferInstanceAs (Decidable (_ = _))

def bits (grant : Grant) : Nat :=
  if grant.Whole then min grant.entry.bits (Limits.reportBits - grant.start)
  else grant.count * grant.entry.fieldBits

end Grant

def Entry.grant (entry : Entry) (used start : Nat) : Grant :=
  { entry, start
    count := min entry.fields.length (Layout.places used start entry.fieldBits) }

@[simp] theorem Entry.grant_entry (entry : Entry) (used start : Nat) :
    (entry.grant used start).entry = entry := rfl

@[simp] theorem Entry.grant_start (entry : Entry) (used start : Nat) :
    (entry.grant used start).start = start := rfl

section Emit

variable {entry : Entry} {layout : Layout} (few : layout.fields.length ≤ Limits.reportFields)
  (short : layout.bits ≤ Limits.reportBits)

include few short

theorem Entry.emit_block {field : Field} (isBlock : entry.IsBlock field) :
    layout.emit entry.declaration.emission =
      layout.extend (entry.grant layout.fields.length layout.bits).fields
        (entry.grant layout.fields.length layout.bits).bits := by
  have places := Layout.le_places_iff few short entry.bits_pos 1
  rw [Nat.one_mul] at places
  have one : entry.fields.length = 1 := by rw [isBlock.fields, List.length_singleton]
  rw [isBlock.emission]
  by_cases room : layout.HasRoom 1 entry.bits
  · have count : (entry.grant layout.fields.length layout.bits).count = 1 := by
      simp only [grant, one, isBlock.bits]
      exact Nat.min_eq_left (places.mpr room)
    have inside : entry.bits ≤ Limits.reportBits - layout.bits := by
      have fits := room.2
      omega
    have bits : (entry.grant layout.fields.length layout.bits).bits = entry.bits := by
      have whole : (entry.grant layout.fields.length layout.bits).Whole := count.trans one.symm
      rw [Grant.bits, if_pos whole]
      exact Nat.min_eq_left inside
    have less : entry.bits ≤ Limits.reportBits := Nat.le_trans inside (Nat.sub_le _ _)
    have product : boundedProduct entry.history.unitSize entry.history.unitCount = entry.bits :=
      Nat.min_eq_left (Nat.le_trans less (Nat.le_of_lt Limits.reportBits_lt_maxUInt32))
    have numbers := min_maxUInt16_of_product entry.sizePos entry.countPos less
    have size := isBlock.size.trans numbers.1
    have units := isBlock.count.trans numbers.2
    simp only [Layout.emit, product, Layout.append?_of_hasRoom field room, Option.getD_some, bits]
    simp only [Grant.fields, count, grant_entry, grant_start, isBlock.fields]
    rw [← size, ← units]
    rfl
  · have count : (entry.grant layout.fields.length layout.bits).count = 0 := by
      simp only [grant, one, isBlock.bits]
      have none := mt places.mp room
      omega
    have cut : ¬(entry.grant layout.fields.length layout.bits).Whole := by
      intro whole
      have none : 0 = 1 := count.symm.trans (whole.trans one)
      cases none
    have refused : ¬layout.HasRoom 1
        (boundedProduct entry.history.unitSize entry.history.unitCount) :=
      fun fits => room ⟨fits.1, boundedProduct_fits_iff.mp fits.2⟩
    have bits : (entry.grant layout.fields.length layout.bits).bits = 0 := by
      rw [Grant.bits, if_neg cut, count, Nat.zero_mul]
    simp only [Layout.emit, Layout.append?_eq_none field refused, Option.getD_none, bits,
      Grant.fields, count, List.take_zero, List.map_nil, Layout.extend_nothing]

theorem Entry.emit_units {used : Nat} {field : Nat → Field} {usage : Nat → Nat}
    (isUnits : entry.IsUnits used field usage) :
    layout.emit entry.declaration.emission =
      layout.extend (entry.grant layout.fields.length layout.bits).fields
        (entry.grant layout.fields.length layout.bits).bits := by
  have length : entry.fields.length = used := by
    rw [isUnits.fields, List.length_map, List.length_range]
  have places := Layout.le_places_iff few short entry.sizePos
  let granted := entry.grant layout.fields.length layout.bits
  have count : granted.count = min used
      (Layout.places layout.fields.length layout.bits entry.history.unitSize) := by
    simp only [granted, grant, length, isUnits.bits]
  have room : layout.HasRoom granted.count (granted.count * entry.history.unitSize) := by
    apply (places _).mp
    rw [count]
    exact Nat.min_le_right _ _
  have fewer : granted.count ≤ used := by
    rw [count]
    exact Nat.min_le_left _ _
  have full : granted.count < used →
      ¬layout.HasRoom (granted.count + 1) ((granted.count + 1) * entry.history.unitSize) := by
    intro less more
    have fits := (places _).mpr more
    omega
  have appended := Layout.appendUnits_until field 0 fewer room full
  have fields : Layout.unitFields entry.history.unitSize field 0 granted.count layout.bits =
      granted.fields :=
    isUnits.unitFields_eq layout.bits fewer (Nat.le_trans (Nat.le_add_left _ _) room.1)
  simp only [isUnits.emission, Layout.emit, appended, fields]
  by_cases whole : granted.Whole
  · have all : granted.count = used := Eq.trans whole length
    have bits : granted.bits = min entry.bits (Limits.reportBits - layout.bits) := if_pos whole
    simp only [all, decide_true, Layout.skip, Layout.extend, min_boundedProduct]
    rw [show (entry.grant layout.fields.length layout.bits).bits = _ from bits, Nat.add_assoc,
      isUnits.product]
    congr 1
    omega
  · have cut : granted.count ≠ used := fun all => whole (all.trans length.symm)
    have bits : granted.bits = granted.count * entry.history.unitSize := by
      rw [← isUnits.bits]
      exact if_neg whole
    simp only [cut, decide_false]
    rw [← bits]

theorem Entry.emit_grant :
    layout.emit entry.declaration.emission =
      layout.extend (entry.grant layout.fields.length layout.bits).fields
        (entry.grant layout.fields.length layout.bits).bits := by
  rcases entry.isBlock_or_isUnits with ⟨field, isBlock⟩ | ⟨used, field, usage, isUnits⟩
  · exact emit_block few short isBlock
  · exact emit_units few short isUnits

end Emit

theorem Entry.emit_entry {entry : Entry} {layout : Layout}
    (room : layout.HasRoom entry.fields.length entry.bits) :
    layout.emit entry.declaration.emission =
      layout.extend (entry.fields.map (fun field => field.shift layout.bits)) entry.bits := by
  have few : layout.fields.length ≤ Limits.reportFields :=
    Nat.le_trans (Nat.le_add_right _ _) room.1
  have short : layout.bits ≤ Limits.reportBits := Nat.le_trans (Nat.le_add_right _ _) room.2
  have places : entry.fields.length ≤
      Layout.places layout.fields.length layout.bits entry.fieldBits :=
    (Layout.le_places_iff few short entry.fieldBits_pos _).mpr
      ⟨room.1, Nat.le_trans (Nat.add_le_add_left entry.length_mul_fieldBits_le _) room.2⟩
  have whole : (entry.grant layout.fields.length layout.bits).Whole := Nat.min_eq_left places
  have bits : (entry.grant layout.fields.length layout.bits).bits = entry.bits := by
    rw [Grant.bits, if_pos whole]
    exact Nat.min_eq_left (Nat.le_sub_of_add_le' room.2)
  rw [emit_grant few short, bits, Grant.fields, List.take_of_length_le (Nat.le_of_eq whole.symm)]
  rfl

end Descriptor

end HidBridge
