/-
What holds of the layouts that any descriptor gives to an interface, also of one
that is cut off, asks for more than there is room for, or counts in numbers of
32 bits. Layouts are few and each is for a report of its own; their fields lie
one behind the other within the longest report; and every number in a field is
the one that the descriptor gave.
-/

import HidBridge.Descriptor.Declarations
import HidBridge.Proofs.Layout.Append

namespace HidBridge

theorem Limits.reportBits_lt_maxUInt16 : reportBits < maxUInt16 := by decide

theorem Limits.reportBits_lt_maxUInt32 : reportBits < maxUInt32 := by decide

/-- The numbers of a field agree with each other, so none of them was cut down.
Data can be read, and stand for one usage unless they are an array. -/
structure Field.WellFormed (field : Field) : Prop where
  width_eq : field.width = field.unitSize * field.unitCount
  width_pos : 1 ≤ field.width
  readable : field.flags.isConstant = false → field.unitSize ≤ Limits.readableBits
  single : field.flags.isConstant = false → field.flags.isArray = false →
    field.unitCount = 1 ∧ field.usage = field.usageMaximum

/-- The fields lie one behind the other from bit 0 on, within the report. A report
without fields has no bits either. -/
structure Layout.WellFormed (layout : Layout) : Prop where
  few : layout.fields.length ≤ Limits.reportFields
  short : layout.bits ≤ Limits.reportBits
  first : ∀ field, layout.fields.head? = some field → field.offset = 0
  ordered : layout.fields.Pairwise
    (fun earlier later => earlier.offset + earlier.width ≤ later.offset)
  inside : ∀ field, field ∈ layout.fields → field.offset + field.width ≤ layout.bits
  fields : ∀ field, field ∈ layout.fields → field.WellFormed
  bits_of_empty : layout.fields = [] → layout.bits = 0

/-- Layouts are few and each is for a report of its own. Where reports are not
named, all layouts are for the unnamed report, which every number stands for. -/
structure Interface.WellFormed (interface : Interface) : Prop where
  few : interface.layouts.length ≤ Limits.layoutsPerInterface
  distinct : interface.layouts.Pairwise
    (fun left right => (left.reportId, left.direction) ≠ (right.reportId, right.direction))
  layouts : ∀ layout, layout ∈ interface.layouts → layout.WellFormed
  unnamed : interface.namesReports = false →
    (∀ layout, layout ∈ interface.layouts → layout.reportId = 0) ∧
      ∀ left right, interface.input? left = interface.input? right

/-- Whatever fits of an emission is well formed. There is at least one unit, so
bits are left unused only behind a field. -/
def Emission.WellFormed : Emission → Prop
  | .block field bits =>
    ∀ offset, bits ≤ Limits.reportBits → (field.placed offset bits).WellFormed
  | .units count unitBits field _ =>
    1 ≤ count ∧
      ∀ index offset, unitBits ≤ Limits.reportBits →
        ((field index).placed offset unitBits).WellFormed

namespace Layout

theorem wellFormed_empty (reportId : ReportId) (direction : Direction)
    (application : Option Usage) : (empty reportId direction application).WellFormed where
  few := Nat.zero_le _
  short := Nat.zero_le _
  first := by intro field found; cases found
  ordered := List.Pairwise.nil
  inside := by intro field member; cases member
  fields := by intro field member; cases member
  bits_of_empty := fun _ => rfl

theorem WellFormed.append {layout longer : Layout} {field : Field} {bits : Nat}
    (wellFormed : layout.WellFormed)
    (sound : ∀ offset, bits ≤ Limits.reportBits → (field.placed offset bits).WellFormed)
    (appended : layout.append? field bits = some longer) : longer.WellFormed := by
  obtain ⟨room, same⟩ := append?_eq_some_iff.mp appended
  have few := room.1
  have short := room.2
  have placed := sound layout.bits (by omega)
  subst same
  refine
    { few := ?_, short := short, first := ?_, ordered := ?_, inside := ?_, fields := ?_
      bits_of_empty := ?_ }
  · simp only [extend, List.length_append, List.length_singleton]
    exact few
  · intro head found
    cases fieldsAt : layout.fields with
    | nil =>
        simp only [extend, fieldsAt, List.nil_append, List.head?_cons, Option.some.injEq] at found
        subst found
        exact wellFormed.bits_of_empty fieldsAt
    | cons earliest rest =>
        simp only [extend, fieldsAt, List.cons_append, List.head?_cons,
          Option.some.injEq] at found
        subst found
        exact wellFormed.first earliest (by rw [fieldsAt, List.head?_cons])
  · refine List.pairwise_append.mpr ⟨wellFormed.ordered, List.pairwise_singleton _ _, ?_⟩
    intro earlier member later last
    rw [List.mem_singleton.mp last]
    exact wellFormed.inside earlier member
  · intro other member
    rcases List.mem_append.mp member with old | last
    · have inside := wellFormed.inside other old
      simp only [extend]
      omega
    · rw [List.mem_singleton.mp last]
      exact Nat.le_refl _
  · intro other member
    rcases List.mem_append.mp member with old | last
    · exact wellFormed.fields other old
    · rw [List.mem_singleton.mp last]
      exact placed
  · intro impossible
    simp only [extend, List.append_eq_nil_iff, List.cons_ne_self, and_false] at impossible

theorem WellFormed.appendUnits {layout : Layout} (wellFormed : layout.WellFormed) {unitBits : Nat}
    {field : Nat → Field}
    (sound : ∀ index offset, unitBits ≤ Limits.reportBits →
      ((field index).placed offset unitBits).WellFormed) (start remaining : Nat) :
    (appendUnits unitBits field start remaining layout).1.WellFormed := by
  induction remaining generalizing start layout with
  | zero => exact wellFormed
  | succ remaining ih =>
      simp only [Layout.appendUnits]
      cases appended : layout.append? (field start) unitBits with
      | none => exact wellFormed
      | some longer => exact ih (wellFormed.append (sound start) appended) (start + 1)

theorem fields_appendUnits (unitBits : Nat) (field : Nat → Field) (start remaining : Nat)
    (layout : Layout) :
    layout.fields <+: (appendUnits unitBits field start remaining layout).1.fields := by
  induction remaining generalizing start layout with
  | zero => exact List.prefix_rfl
  | succ remaining ih =>
      simp only [appendUnits]
      cases appended : layout.append? (field start) unitBits with
      | none => exact List.prefix_rfl
      | some longer =>
          have first : layout.fields <+: longer.fields := by
            rw [(append?_eq_some_iff.mp appended).2]
            exact List.prefix_append layout.fields _
          exact first.trans (ih (start + 1) longer)

theorem fields_ne_nil_of_appendUnits {unitBits start remaining : Nat} {field : Nat → Field}
    {layout longer : Layout} (some_unit : 1 ≤ remaining)
    (appended : appendUnits unitBits field start remaining layout = (longer, true)) :
    longer.fields ≠ [] := by
  cases remaining with
  | zero => cases some_unit
  | succ remaining =>
      simp only [appendUnits] at appended
      cases first : layout.append? (field start) unitBits with
      | none =>
          rw [first] at appended
          cases appended
      | some next =>
          rw [first] at appended
          have later := fields_appendUnits unitBits field (start + 1) remaining next
          rw [show appendUnits unitBits field (start + 1) remaining next = (longer, true) from
            appended, (append?_eq_some_iff.mp first).2] at later
          intro empty
          rw [empty, List.prefix_nil] at later
          simp only [extend, List.append_eq_nil_iff, List.cons_ne_self, and_false] at later

theorem WellFormed.skip {layout : Layout} (wellFormed : layout.WellFormed) (nonempty : layout.fields ≠ [])
    (bits : Nat) : (layout.skip bits).WellFormed where
  few := wellFormed.few
  short := Nat.min_le_right _ _
  first := wellFormed.first
  ordered := wellFormed.ordered
  inside := by
    intro field member
    have inside := wellFormed.inside field member
    have short := wellFormed.short
    simp only [Layout.skip]
    omega
  fields := wellFormed.fields
  bits_of_empty := fun empty => absurd empty nonempty

theorem WellFormed.emit {layout : Layout} {emission : Emission} (wellFormed : layout.WellFormed)
    (sound : emission.WellFormed) : (layout.emit emission).WellFormed := by
  cases emission with
  | block field bits =>
      simp only [Layout.emit]
      cases appended : layout.append? field bits with
      | none => exact wellFormed
      | some longer => exact wellFormed.append sound appended
  | units count unitBits field unusedBits =>
      have grown := wellFormed.appendUnits sound.2 0 count
      simp only [Layout.emit]
      split
      · rename_i longer units
        rw [units] at grown
        exact grown.skip (fields_ne_nil_of_appendUnits sound.1 units) unusedBits
      · rename_i longer units
        rw [units] at grown
        exact grown

theorem WellFormed.receive {layout : Layout} {declaration : Declaration}
    (wellFormed : layout.WellFormed) (sound : declaration.emission.WellFormed) :
    (layout.receive declaration).WellFormed := by
  unfold Layout.receive
  split
  · exact wellFormed.emit sound
  · exact wellFormed

end Layout

namespace Descriptor

theorem boundedProduct_eq {left right : Nat}
    (short : boundedProduct left right ≤ Limits.reportBits) :
    boundedProduct left right = left * right := by
  have bound := Limits.reportBits_lt_maxUInt32
  unfold boundedProduct at short ⊢
  omega

theorem min_maxUInt16_of_product {left right : Nat} (leftPos : 1 ≤ left) (rightPos : 1 ≤ right)
    (short : left * right ≤ Limits.reportBits) :
    min left Limits.maxUInt16 = left ∧ min right Limits.maxUInt16 = right := by
  have leftLe : left ≤ left * right := Nat.le_mul_of_pos_right left rightPos
  have rightLe : right ≤ left * right := Nat.le_mul_of_pos_left right leftPos
  have bound := Limits.reportBits_lt_maxUInt16
  omega

theorem effectiveFlags_data {flags : Flags} {unitSize : Nat}
    (data : (effectiveFlags flags unitSize).isConstant = false) :
    effectiveFlags flags unitSize = flags ∧ unitSize ≤ Limits.readableBits := by
  unfold effectiveFlags at data ⊢
  split
  · rename_i wide
    rw [if_pos wide] at data
    cases data
  · rename_i narrow
    rw [if_neg narrow] at data
    refine ⟨rfl, Nat.le_of_not_lt ?_⟩
    intro wide
    exact narrow ⟨wide, data⟩

/-- A block of all units of an item, which is padding or an array that can be
read. -/
theorem block_wellFormed {globals : Globals} {field : Field} (sizePos : 1 ≤ globals.unitSize)
    (countPos : 1 ≤ globals.unitCount)
    (size : field.unitSize = min globals.unitSize Limits.maxUInt16)
    (count : field.unitCount = min globals.unitCount Limits.maxUInt16)
    (readable : field.flags.isConstant = false →
      globals.unitSize ≤ Limits.readableBits ∧ field.flags.isArray = true) :
    (Emission.block field (boundedProduct globals.unitSize globals.unitCount)).WellFormed := by
  intro offset short
  have product := boundedProduct_eq short
  rw [product] at short ⊢
  have exactly := min_maxUInt16_of_product sizePos countPos short
  rw [exactly.1] at size
  rw [exactly.2] at count
  refine
    { width_eq := ?_, width_pos := Nat.mul_pos sizePos countPos, readable := ?_, single := ?_ }
  · simp only [Field.placed, size, count]
  · intro data
    rw [Field.placed, size]
    exact (readable data).1
  · intro data notArray
    have isArray := (readable data).2
    rw [Field.placed] at notArray
    rw [notArray] at isArray
    cases isArray

theorem units_wellFormed {globals : Globals} {field : Nat → Field} {count unusedBits : Nat}
    (sizePos : 1 ≤ globals.unitSize) (countPos : 1 ≤ count)
    (readable : globals.unitSize ≤ Limits.readableBits)
    (unit : ∀ index, (field index).unitSize = min globals.unitSize Limits.maxUInt16 ∧
      (field index).unitCount = 1 ∧ (field index).usage = (field index).usageMaximum) :
    (Emission.units count globals.unitSize field unusedBits).WellFormed := by
  refine ⟨countPos, ?_⟩
  intro index offset short
  obtain ⟨size, count, usage⟩ := unit index
  have bound := Limits.reportBits_lt_maxUInt16
  have exactly : min globals.unitSize Limits.maxUInt16 = globals.unitSize := by omega
  rw [exactly] at size
  refine { width_eq := ?_, width_pos := sizePos, readable := ?_, single := ?_ }
  · simp only [Field.placed, size, count, Nat.mul_one]
  · intro _data
    rw [Field.placed, size]
    exact readable
  · intro _data _notArray
    exact ⟨count, usage⟩

theorem emission_wellFormed (flags : Flags) {globals : Globals} (locals : Locals)
    (sizePos : 1 ≤ globals.unitSize) (countPos : 1 ≤ globals.unitCount) :
    (emission (effectiveFlags flags globals.unitSize) globals locals).WellFormed := by
  cases constant : (effectiveFlags flags globals.unitSize).isConstant with
  | true =>
      simp only [emission, constant, if_true]
      exact block_wellFormed sizePos countPos rfl rfl (by intro impossible; cases impossible)
  | false =>
      have readable := (effectiveFlags_data constant).2
      simp only [emission, constant, Bool.false_eq_true, if_false]
      by_cases range : locals.hasRange = true
      · rw [if_pos range]
        by_cases array : (effectiveFlags flags globals.unitSize).isArray = true
        · rw [if_pos array]
          exact block_wellFormed sizePos countPos rfl rfl (fun _ => ⟨readable, array⟩)
        · rw [if_neg array]
          have someUsage : 1 ≤ min globals.unitCount locals.rangeLength := by
            unfold Locals.rangeLength
            omega
          exact units_wellFormed sizePos someUsage readable (fun _ => ⟨rfl, rfl, rfl⟩)
      · rw [if_neg range]
        exact units_wellFormed sizePos countPos readable (fun _ => ⟨rfl, rfl, rfl⟩)

theorem declared?_wellFormed {context : Context} {item : ShortItem} {declaration : Declaration}
    (declared : context.declared? item = some declaration) :
    declaration.reportId = context.globals.reportId ∧ declaration.emission.WellFormed := by
  unfold Context.declared? at declared
  split at declared
  · cases declared
  · rename_i nonzero
    obtain ⟨direction, _found, same⟩ := Option.map_eq_some_iff.mp declared
    subst same
    exact ⟨rfl, emission_wellFormed _ _ (by omega) (by omega)⟩

theorem Context.reportId_take {context : Context} {item : ShortItem}
    (unnamed : item.namesReport = false) (zero : context.globals.reportId = 0) :
    (context.take item).globals.reportId = 0 := by
  cases kind : item.kind with
  | globalItem =>
      simp only [Context.take, kind, Globals.take]
      split
      case h_5 tag =>
        simpa only [ShortItem.namesReport, kind, tag, decide_true, BEq.rfl, Bool.and_self,
          Bool.true_and, bne_eq_false_iff_eq] using unnamed
      all_goals exact zero
  | mainItem => simpa only [Context.take, kind] using zero
  | localItem => simpa only [Context.take, kind] using zero
  | reserved => simpa only [Context.take, kind] using zero

theorem Context.declarations_wellFormed {items : List ShortItem} {context : Context}
    {declaration : Declaration} (declared : declaration ∈ context.declarations items) :
    declaration.emission.WellFormed ∧
      (items.any ShortItem.namesReport = false → context.globals.reportId = 0 →
        declaration.reportId = 0) := by
  induction items generalizing context with
  | nil => cases declared
  | cons item rest ih =>
      have later (member : declaration ∈ (context.take item).declarations rest) :
          declaration.emission.WellFormed ∧
            ((item :: rest).any ShortItem.namesReport = false → context.globals.reportId = 0 →
              declaration.reportId = 0) := by
        obtain ⟨sound, unnamed⟩ := ih member
        refine ⟨sound, ?_⟩
        intro none zero
        rw [List.any_cons, Bool.or_eq_false_iff] at none
        exact unnamed none.2 (Context.reportId_take none.1 zero)
      simp only [Context.declarations] at declared
      cases found : context.declared? item with
      | none =>
          rw [found] at declared
          exact later declared
      | some first =>
          rw [found] at declared
          rcases List.mem_cons.mp declared with same | member
          · subst same
            obtain ⟨reportId, sound⟩ := declared?_wellFormed found
            exact ⟨sound, fun _ zero => reportId.trans zero⟩
          · exact later member

end Descriptor

namespace Interface

theorem input?_of_unnamed {interface : Interface} (unnamed : interface.namesReports = false)
    (left right : ReportId) : interface.input? left = interface.input? right := by
  simp only [input?, layout?, unnamed, Bool.false_eq_true, if_false]

theorem wellFormed_empty (id : InterfaceId) (namesReports : Bool) :
    (empty id namesReports).WellFormed where
  few := Nat.zero_le _
  distinct := List.Pairwise.nil
  layouts := by intro layout member; cases member
  unnamed := by
    intro unnamed
    refine ⟨?_, input?_of_unnamed unnamed⟩
    intro layout member
    cases member

section Declare

variable {interface : Interface} {declaration : Declaration}
  (wellFormed : interface.WellFormed) (sound : declaration.emission.WellFormed)

include wellFormed sound

theorem WellFormed.receive :
    WellFormed
      { interface with layouts := interface.layouts.map (Layout.receive declaration) } := by
  have kept := Layout.reportId_receive declaration
  refine { few := ?_, distinct := ?_, layouts := ?_, unnamed := ?_ }
  · rw [List.length_map]
    exact wellFormed.few
  · refine List.pairwise_map.mpr (wellFormed.distinct.imp ?_)
    intro left right different
    rw [(kept left).1, (kept left).2, (kept right).1, (kept right).2]
    exact different
  · intro layout member
    obtain ⟨old, present, same⟩ := List.mem_map.mp member
    subst same
    exact (wellFormed.layouts old present).receive sound
  · intro unnamed
    refine ⟨?_, input?_of_unnamed unnamed⟩
    intro layout member
    obtain ⟨old, present, same⟩ := List.mem_map.mp member
    subst same
    rw [(kept old).1]
    exact (wellFormed.unnamed unnamed).1 old present

theorem WellFormed.add
    (unknown : ∀ layout, layout ∈ interface.layouts →
      layout.serves declaration.reportId declaration.direction = false)
    (room : interface.layouts.length < Limits.layoutsPerInterface)
    (named : interface.namesReports = false → declaration.reportId = 0) :
    WellFormed
      { interface with layouts := interface.layouts ++ [.ofDeclaration declaration] } := by
  have created := Layout.reportId_ofDeclaration declaration
  refine { few := ?_, distinct := ?_, layouts := ?_, unnamed := ?_ }
  · rw [List.length_append, List.length_singleton]
    exact room
  · refine List.pairwise_append.mpr ⟨wellFormed.distinct, List.pairwise_singleton _ _, ?_⟩
    intro old present new isNew same
    rw [List.mem_singleton.mp isNew, created.1, created.2] at same
    have served := Layout.serves_iff.mpr (Prod.mk.inj same)
    rw [unknown old present] at served
    cases served
  · intro layout member
    rcases List.mem_append.mp member with old | new
    · exact wellFormed.layouts layout old
    · rw [List.mem_singleton.mp new]
      exact (Layout.wellFormed_empty _ _ _).emit sound
  · intro unnamed
    refine ⟨?_, input?_of_unnamed unnamed⟩
    intro layout member
    rcases List.mem_append.mp member with old | new
    · exact (wellFormed.unnamed unnamed).1 layout old
    · rw [List.mem_singleton.mp new, created.1]
      exact named unnamed

theorem WellFormed.declare
    (named : interface.namesReports = false → declaration.reportId = 0) :
    (interface.declare declaration).WellFormed := by
  rcases interface.declare_cases declaration with
    ⟨_known, declared⟩ | ⟨unknown, room, declared⟩ | ⟨_unknown, _full, declared⟩
  · rw [declared]
    exact wellFormed.receive sound
  · rw [declared]
    exact wellFormed.add sound unknown room named
  · rw [declared]
    exact wellFormed

end Declare

theorem WellFormed.declare_all {declarations : List Declaration} {interface : Interface}
    (wellFormed : interface.WellFormed)
    (sound : ∀ declaration, declaration ∈ declarations → declaration.emission.WellFormed ∧
      (interface.namesReports = false → declaration.reportId = 0)) :
    (declarations.foldl Interface.declare interface).WellFormed := by
  induction declarations generalizing interface with
  | nil => exact wellFormed
  | cons declaration rest ih =>
      have first := sound declaration (List.mem_cons_self ..)
      apply ih (wellFormed.declare first.1 first.2)
      intro other member
      rw [namesReports_declare]
      exact sound other (List.mem_cons_of_mem _ member)

theorem wellFormed_ofItems (id : InterfaceId) (items : List Descriptor.ShortItem) :
    (ofItems id items).WellFormed := by
  apply (wellFormed_empty id _).declare_all
  intro declaration declared
  obtain ⟨sound, unnamed⟩ := Descriptor.Context.declarations_wellFormed declared
  exact ⟨sound, fun none => unnamed none rfl⟩

/-- Every sequence of bytes gives an interface that is well formed. -/
theorem wellFormed_ofDescriptor (id : InterfaceId) (bytes : List UInt8) :
    (ofDescriptor id bytes).WellFormed :=
  wellFormed_ofItems id (Descriptor.shortItems bytes)

end Interface

end HidBridge
