/-
Appending to a layout. A field that fits is added at the end of the report, and
a field that does not fit changes nothing. Several units that all fit lie one
behind the other. No declaration changes which report a layout is for, and each
declaration is received by the one layout of its report.
-/

import HidBridge.Layout.Basic

namespace HidBridge

def Field.placed (field : Field) (offset width : Nat) : Field := { field with offset, width }

namespace Layout

def HasRoom (layout : Layout) (fields bits : Nat) : Prop :=
  layout.fields.length + fields ≤ Limits.reportFields ∧
    layout.bits + bits ≤ Limits.reportBits

def extend (layout : Layout) (fields : List Field) (bits : Nat) : Layout :=
  { layout with fields := layout.fields ++ fields, bits := layout.bits + bits }

theorem append?_eq_some_iff {layout longer : Layout} {field : Field} {bits : Nat} :
    layout.append? field bits = some longer ↔
      layout.HasRoom 1 bits ∧ longer = layout.extend [field.placed layout.bits bits] bits := by
  unfold append?
  split
  · rename_i fits
    constructor
    · intro appended
      exact ⟨⟨fits.2, fits.1⟩, (Option.some.inj appended).symm⟩
    · intro ⟨_room, same⟩
      rw [same]
      rfl
  · rename_i refused
    constructor
    · intro impossible
      cases impossible
    · intro ⟨room, _same⟩
      exact absurd ⟨room.2, room.1⟩ refused

theorem append?_of_hasRoom {layout : Layout} (field : Field) {bits : Nat}
    (room : layout.HasRoom 1 bits) :
    layout.append? field bits = some (layout.extend [field.placed layout.bits bits] bits) :=
  append?_eq_some_iff.mpr ⟨room, rfl⟩

def unitFields (unitBits : Nat) (field : Nat → Field) : (start remaining offset : Nat) → List Field
  | _, 0, _ => []
  | start, remaining + 1, offset =>
    (field start).placed offset unitBits ::
      unitFields unitBits field (start + 1) remaining (offset + unitBits)

theorem unitFields_eq_map (unitBits : Nat) (field : Nat → Field) (start remaining offset : Nat) :
    unitFields unitBits field start remaining offset =
      (List.range remaining).map (fun index =>
        (field (start + index)).placed (offset + index * unitBits) unitBits) := by
  induction remaining generalizing start offset with
  | zero => rfl
  | succ remaining ih =>
      rw [unitFields, ih, List.range_succ_eq_map, List.map_cons, List.map_map, Nat.add_zero,
        Nat.zero_mul, Nat.add_zero]
      refine congrArg (List.cons _) (List.map_congr_left ?_)
      intro index _member
      simp only [Function.comp, Nat.succ_eq_add_one, Nat.succ_mul]
      rw [Nat.add_assoc start, Nat.add_comm 1, Nat.add_assoc offset, Nat.add_comm unitBits]

theorem exists_appendUnits (unitBits : Nat) (field : Nat → Field) (start remaining : Nat)
    (layout : Layout) :
    ∃ fields bits,
      (appendUnits unitBits field start remaining layout).1 = { layout with fields, bits } := by
  induction remaining generalizing start layout with
  | zero => exact ⟨_, _, rfl⟩
  | succ remaining ih =>
      simp only [appendUnits]
      cases appended : layout.append? (field start) unitBits with
      | none => exact ⟨_, _, rfl⟩
      | some longer =>
          obtain ⟨fields, bits, later⟩ := ih (start + 1) longer
          rw [later, (append?_eq_some_iff.mp appended).2]
          exact ⟨fields, bits, rfl⟩

theorem exists_emit (layout : Layout) (emission : Emission) :
    ∃ fields bits, layout.emit emission = { layout with fields, bits } := by
  cases emission with
  | block field bits =>
      simp only [emit]
      cases appended : layout.append? field bits with
      | none => exact ⟨_, _, rfl⟩
      | some longer =>
          rw [Option.getD_some, (append?_eq_some_iff.mp appended).2]
          exact ⟨_, _, rfl⟩
  | units count unitBits field unusedBits =>
      obtain ⟨fields, bits, units⟩ := exists_appendUnits unitBits field 0 count layout
      simp only [emit]
      split
      · rename_i longer appended
        rw [appended] at units
        rw [show longer = _ from units]
        exact ⟨_, _, rfl⟩
      · rename_i longer appended
        rw [appended] at units
        exact ⟨_, _, units⟩

theorem reportId_emit (layout : Layout) (emission : Emission) :
    (layout.emit emission).reportId = layout.reportId ∧
      (layout.emit emission).direction = layout.direction := by
  obtain ⟨fields, bits, same⟩ := layout.exists_emit emission
  rw [same]
  exact ⟨rfl, rfl⟩

theorem application_emit (layout : Layout) (emission : Emission) :
    (layout.emit emission).application = layout.application := by
  obtain ⟨fields, bits, same⟩ := layout.exists_emit emission
  rw [same]

theorem serves_iff {layout : Layout} {reportId : ReportId} {direction : Direction} :
    layout.serves reportId direction = true ↔
      layout.reportId = reportId ∧ layout.direction = direction := by
  simp only [serves, Bool.and_eq_true, beq_iff_eq, decide_eq_true_eq]

/-- The layout after a declaration, which may be for another report. -/
def receive (declaration : Declaration) (layout : Layout) : Layout :=
  if layout.serves declaration.reportId declaration.direction then
    layout.emit declaration.emission
  else layout

theorem reportId_receive (declaration : Declaration) (layout : Layout) :
    (layout.receive declaration).reportId = layout.reportId ∧
      (layout.receive declaration).direction = layout.direction := by
  unfold receive
  split
  · exact reportId_emit layout declaration.emission
  · exact ⟨rfl, rfl⟩

theorem reportId_ofDeclaration (declaration : Declaration) :
    (ofDeclaration declaration).reportId = declaration.reportId ∧
      (ofDeclaration declaration).direction = declaration.direction :=
  reportId_emit _ declaration.emission

end Layout

namespace Interface

/-- What a declaration can do to an interface: the layout of its report receives
it, or a layout is created for it, or there is no place for one. -/
theorem declare_cases (interface : Interface) (declaration : Declaration) :
    ((∃ layout, layout ∈ interface.layouts ∧
        layout.serves declaration.reportId declaration.direction = true) ∧
      interface.declare declaration =
        { interface with layouts := interface.layouts.map (Layout.receive declaration) }) ∨
    ((∀ layout, layout ∈ interface.layouts →
        layout.serves declaration.reportId declaration.direction = false) ∧
      interface.layouts.length < Limits.layoutsPerInterface ∧
      interface.declare declaration =
        { interface with layouts := interface.layouts ++ [.ofDeclaration declaration] }) ∨
    ((∀ layout, layout ∈ interface.layouts →
        layout.serves declaration.reportId declaration.direction = false) ∧
      Limits.layoutsPerInterface ≤ interface.layouts.length ∧
      interface.declare declaration = interface) := by
  cases known : interface.layouts.any (fun layout =>
      layout.serves declaration.reportId declaration.direction) with
  | true =>
      exact Or.inl ⟨List.any_eq_true.mp known, if_pos known⟩
  | false =>
      have unknown : ∀ layout, layout ∈ interface.layouts →
          layout.serves declaration.reportId declaration.direction = false := by
        intro layout member
        exact Bool.eq_false_iff.mpr (List.any_eq_false.mp known layout member)
      have declared : interface.declare declaration =
          if interface.layouts.length < Limits.layoutsPerInterface then
            { interface with layouts := interface.layouts ++ [.ofDeclaration declaration] }
          else interface := if_neg (Bool.eq_false_iff.mp known)
      by_cases room : interface.layouts.length < Limits.layoutsPerInterface
      · exact Or.inr (Or.inl ⟨unknown, room, declared.trans (if_pos room)⟩)
      · exact Or.inr (Or.inr ⟨unknown, Nat.le_of_not_lt room, declared.trans (if_neg room)⟩)

theorem namesReports_declare (interface : Interface) (declaration : Declaration) :
    (interface.declare declaration).namesReports = interface.namesReports := by
  rcases interface.declare_cases declaration with
    ⟨_known, declared⟩ | ⟨_unknown, _room, declared⟩ | ⟨_unknown, _full, declared⟩ <;>
    rw [declared]

end Interface

end HidBridge
