/-
The class of a report leaves nothing out that composing it would send, but for buttons and
sideways scrolling of reports that are neither a keyboard's nor a mouse's. The fields that make a
report one or the other are looked for apart from those that are composed, and both searches find
the same ones. Padding has no part in it.
-/

import HidBridge.Proofs.Conversion.Movement

namespace HidBridge

namespace Layout

variable {layout : Layout} {field : Field}

theorem classify_of_key (member : field ∈ layout.fields)
    (dataOn : field.isDataOn .keyboard = true) : layout.classify = .keyboard := by
  rw [Field.isDataOn, Bool.and_eq_true] at dataOn
  have hasKeys : layout.dataFields.any (fun field => field.isOn .keyboard) = true :=
    List.any_eq_true.mpr ⟨field, List.mem_filter.mpr ⟨member, dataOn.1⟩, dataOn.2⟩
  rw [classify, hasKeys, Bool.true_or, if_pos rfl]

theorem classify_of_axis (member : field ∈ layout.fields)
    (data : field.flags.isConstant = false) (axis : field.isAxis = true) :
    layout.classify = .keyboard ∨ layout.classify = .mouse := by
  have isData : (!field.flags.isConstant) = true := by rw [data, Bool.not_false]
  have hasAxes : layout.dataFields.any Field.isAxis = true :=
    List.any_eq_true.mpr ⟨field, List.mem_filter.mpr ⟨member, isData⟩, axis⟩
  rw [classify, hasAxes, Bool.true_or, if_pos rfl]
  split
  · exact Or.inl rfl
  · exact Or.inr rfl

theorem classify_of_dataFields {other : Layout} (fields : other.dataFields = layout.dataFields)
    (application : other.application = layout.application) :
    other.classify = layout.classify := by
  unfold classify inKeyboard inPointer desktopApplication?
  rw [fields, application]

end Layout

theorem Field.isAxis_of_desktop {field : Field} (onPage : field.isOn .genericDesktop = true)
    {usage : Desktop} (same : Desktop.ofCode field.usage = usage)
    (axis : usage = .x ∨ usage = .y ∨ usage = .wheel) : field.isAxis = true := by
  rw [isAxis, onPage, Bool.true_and, same]
  rcases axis with x | y | wheel
  · rw [x]
  · rw [y]
  · rw [wheel]

namespace Report

variable {report : Report}

theorem exists_key_of_pressed (pressed : report.toKeyboard.isEmpty = false) :
    ∃ sample, sample ∈ report.samples ∧ sample.isDataOn .keyboard = true := by
  cases keys : report.samples.filter (fun sample => sample.isDataOn .keyboard) with
  | nil =>
      rw [toKeyboard, selected, keys] at pressed
      cases pressed
  | cons sample rest =>
      have chosen : sample ∈ report.samples.filter (fun sample => sample.isDataOn .keyboard) := by
        rw [keys]
        exact List.mem_cons_self
      exact ⟨sample, List.mem_filter.mp chosen⟩

theorem exists_desktop_of_moved {usage : Desktop} (moved : report.desktopValue usage ≠ 0) :
    ∃ sample, sample ∈ report.samples ∧ sample.isDataOn .genericDesktop = true ∧
      Desktop.ofCode sample.field.usage = usage := by
  rcases report.lastValue_cases .genericDesktop
    (fun code => decide (Desktop.ofCode code = usage)) with
    ⟨_earlier, sample, _later, split, chosen, _none, _value⟩ | ⟨_none, zero⟩
  · rw [Bool.and_eq_true, decide_eq_true_iff] at chosen
    refine ⟨sample, ?_, chosen⟩
    rw [split]
    exact List.mem_append_right _ List.mem_cons_self
  · exact absurd zero moved

theorem clampAxis_of_rest (sensitivity : Nat) :
    Output.Mouse.clampAxis (scaleMovement sensitivity 0) = 0 := by
  rw [Output.Mouse.clampAxis_scaleMovement, Int.zero_mul]
  rfl

theorem exists_axis_of_moved {sensitivity : Nat}
    (moved : (report.toMouse sensitivity).x ≠ 0 ∨ (report.toMouse sensitivity).y ≠ 0 ∨
      (report.toMouse sensitivity).wheel ≠ 0) :
    ∃ sample, sample ∈ report.samples ∧ sample.field.flags.isConstant = false ∧
      sample.field.isAxis = true := by
  have axis {usage : Desktop} (value : report.desktopValue usage ≠ 0)
      (known : usage = .x ∨ usage = .y ∨ usage = .wheel) :
      ∃ sample, sample ∈ report.samples ∧ sample.field.flags.isConstant = false ∧
        sample.field.isAxis = true := by
    obtain ⟨sample, member, dataOn, same⟩ := exists_desktop_of_moved value
    rw [Sample.isDataOn, Bool.and_eq_true, Bool.not_eq_true'] at dataOn
    exact ⟨sample, member, dataOn.1, Field.isAxis_of_desktop dataOn.2 same known⟩
  rcases moved with x | y | wheel
  · refine axis (fun rest => x ?_) (Or.inl rfl)
    rw [toMouse, rest]
    exact clampAxis_of_rest sensitivity
  · refine axis (fun rest => y ?_) (Or.inr (Or.inl rfl))
    rw [toMouse, rest]
    exact clampAxis_of_rest sensitivity
  · refine axis (fun rest => wheel ?_) (Or.inr (Or.inr rfl))
    rw [toMouse, rest]
    rfl

theorem ReadWith.field_mem {fields : List Field} (read : report.ReadWith fields)
    {sample : Sample} (member : sample ∈ report.samples) : sample.field ∈ fields := by
  rw [read] at member
  obtain ⟨field, present, same⟩ := List.mem_map.mp member
  rw [← same]
  exact present

end Report

namespace Layout

/-- Whatever the payload: a report in which a key is pressed is a keyboard's, and one in which
something moves is a keyboard's or a mouse's. So one that is not supported has no key, and at most
buttons and sideways scrolling. The class is the same whatever padding there is. -/
theorem classify_covers (layout : Layout) (interfaceId : InterfaceId) (generation : Nat) :
    (∀ payload : List UInt8, payload.length ≤ Limits.reportBytes →
      ∃ report, layout.read interfaceId generation payload = .ok report ∧
        (report.toKeyboard.isEmpty = false → layout.classify = .keyboard) ∧
        (∀ sensitivity, (report.toMouse sensitivity).x ≠ 0 ∨
            (report.toMouse sensitivity).y ≠ 0 ∨ (report.toMouse sensitivity).wheel ≠ 0 →
          layout.classify = .keyboard ∨ layout.classify = .mouse) ∧
        (layout.classify = .unsupported → report.toKeyboard.isEmpty = true ∧
          ∀ sensitivity, (report.toMouse sensitivity).x = 0 ∧
            (report.toMouse sensitivity).y = 0 ∧ (report.toMouse sensitivity).wheel = 0)) ∧
      ∀ fields : List Field,
        fields.filter (fun field => !field.flags.isConstant) = layout.dataFields →
        { layout with fields }.classify = layout.classify := by
  refine ⟨?_, fun fields same => classify_of_dataFields same rfl⟩
  intro payload fits
  obtain ⟨report, isRead, _payload, read⟩ := layout.exists_read interfaceId generation fits
  have keys (pressed : report.toKeyboard.isEmpty = false) : layout.classify = .keyboard := by
    obtain ⟨sample, member, dataOn⟩ := Report.exists_key_of_pressed pressed
    exact classify_of_key (read.field_mem member) dataOn
  have movement (sensitivity : Nat) (moved : (report.toMouse sensitivity).x ≠ 0 ∨
      (report.toMouse sensitivity).y ≠ 0 ∨ (report.toMouse sensitivity).wheel ≠ 0) :
      layout.classify = .keyboard ∨ layout.classify = .mouse := by
    obtain ⟨sample, member, data, axis⟩ := Report.exists_axis_of_moved moved
    exact classify_of_axis (read.field_mem member) data axis
  refine ⟨report, isRead, keys, movement, ?_⟩
  intro unsupported
  rw [unsupported] at keys movement
  refine ⟨?_, fun sensitivity => ?_⟩
  · cases empty : report.toKeyboard.isEmpty with
    | true => rfl
    | false => cases keys empty
  · have still : ¬((report.toMouse sensitivity).x ≠ 0 ∨ (report.toMouse sensitivity).y ≠ 0 ∨
        (report.toMouse sensitivity).wheel ≠ 0) := by
      intro moved
      rcases movement sensitivity moved with impossible | impossible <;> cases impossible
    omega

/-- A game pad: its buttons would be pressed, and nothing is sent for it. -/
example :
    (Interface.ofDescriptor 0
        [0x05, 0x01, 0x09, 0x05, 0xA1, 0x01, 0x05, 0x09, 0x19, 0x01, 0x29, 0x08, 0x75, 0x01,
          0x95, 0x08, 0x81, 0x02, 0xC0]).layouts.map (fun layout =>
        (layout.classify,
          (layout.read 0 1 [0x03]).toOption.map (fun report => (report.toMouse 100).buttons))) =
      [(.unsupported, some 3)] := by
  decide

end Layout

end HidBridge
