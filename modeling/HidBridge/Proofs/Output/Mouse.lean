/-
Mouse reports, and what the host that is shown the descriptor reads in them:
exactly what was sent. Movement is two bytes in two's complement, a wheel is one,
and buttons are read bit by bit.
-/

import HidBridge.Conversion.Compose
import HidBridge.Proofs.Bits
import HidBridge.Proofs.Conversion.Reading
import HidBridge.Proofs.Output.Advertised
import Mathlib.Data.List.Basic

namespace HidBridge

namespace Output.Mouse

structure WellFormed (mouse : Mouse) : Prop where
  buttons : mouse.buttons < 2 ^ buttonCount
  x : -32768 ≤ mouse.x ∧ mouse.x ≤ 32767
  y : -32768 ≤ mouse.y ∧ mouse.y ≤ 32767
  wheel : -127 ≤ mouse.wheel ∧ mouse.wheel ≤ 127
  pan : -127 ≤ mouse.pan ∧ mouse.pan ≤ 127

theorem clamp_range {low high : Int} (ordered : low ≤ high) (number : Int) :
    low ≤ clamp low high number ∧ clamp low high number ≤ high := by
  unfold clamp
  omega

theorem clamp_of_range {low high number : Int} (inside : low ≤ number ∧ number ≤ high) :
    clamp low high number = number := by
  unfold clamp
  omega

theorem press_button (mouse : Mouse) {bit : Nat} (inside : bit < buttonCount) :
    mouse.press (bit + 1) = { mouse with buttons := mouse.buttons ||| 1 <<< bit } := by
  rw [press, if_pos ⟨Nat.succ_pos bit, inside⟩, Nat.add_sub_cancel]

theorem pressAll_buttons (mouse : Mouse) (number : Nat) :
    mouse.pressAll
        ((List.range buttonCount).flatMap
          (fun bit => if number.testBit bit then [bit + 1] else [])) =
      { mouse with buttons := mouse.buttons ||| number % 2 ^ buttonCount } :=
  Bits.foldl_bits press (fun bit => bit + 1) (fun buttons => { mouse with buttons }) number
    (fun buttons _bit inside => press_button { mouse with buttons } inside) mouse.buttons

theorem buttons_press_lt {mouse : Mouse} (small : mouse.buttons < 2 ^ buttonCount)
    (button : Nat) : (mouse.press button).buttons < 2 ^ buttonCount := by
  unfold press
  split
  · rename_i inside
    have set : 1 <<< (button - 1) < 2 ^ buttonCount := by
      rw [Nat.one_shiftLeft]
      exact Nat.pow_lt_pow_right (by decide) (Nat.sub_one_lt_of_le inside.1 inside.2)
    exact Nat.or_lt_two_pow small set
  · exact small

theorem buttons_pressAll_lt {mouse : Mouse} (small : mouse.buttons < 2 ^ buttonCount)
    (buttons : List Nat) : (mouse.pressAll buttons).buttons < 2 ^ buttonCount := by
  induction buttons generalizing mouse with
  | nil => exact small
  | cons button rest ih => exact ih (buttons_press_lt small button)

end Output.Mouse

theorem Report.wellFormed_toMouse (report : Report) (sensitivity : Nat) :
    (report.toMouse sensitivity).WellFormed :=
  { buttons := Output.Mouse.buttons_pressAll_lt (by decide) _
    x := Output.Mouse.clamp_range (by decide) _
    y := Output.Mouse.clamp_range (by decide) _
    wheel := Output.Mouse.clamp_range (by decide) _
    pan := Output.Mouse.clamp_range (by decide) _ }

namespace Output.Mouse.WellFormed

/-! ### The bytes of a report, as the host reads them -/

variable {mouse : Mouse} (wellFormed : mouse.WellFormed)

include wellFormed

theorem read_x : Bits.signed mouse.encode 0 16 = mouse.x := by
  have range := wellFormed.x
  exact Bits.signed_bytes 0 2 (by decide) rfl
    (by omega) (by omega)

theorem read_y : Bits.signed mouse.encode 16 16 = mouse.y := by
  have range := wellFormed.y
  exact Bits.signed_bytes 2 2 (by decide) rfl
    (by omega) (by omega)

theorem read_wheel : Bits.signed mouse.encode 32 8 = mouse.wheel := by
  have range := wellFormed.wheel
  exact Bits.signed_bytes 4 1 (by decide)
    (Words.toBytes_one _).symm (by omega) (by omega)

theorem read_pan : Bits.signed mouse.encode 40 8 = mouse.pan := by
  have range := wellFormed.pan
  exact Bits.signed_bytes 5 1 (by decide)
    (Words.toBytes_one _).symm (by omega) (by omega)

end Output.Mouse.WellFormed

namespace Output.Advertised

theorem usages_buttonField (mouse : Mouse) {bit : Nat} (inside : bit < Mouse.buttonCount) :
    ((buttonField bit).sample mouse.encode).usages mouse.encode =
      if (UInt8.ofNat mouse.buttons).toNat.testBit bit then [bit + 1] else [] := by
  have found : mouse.encode[6]? = some (UInt8.ofNat mouse.buttons) := rfl
  have isSet := Bits.signed_bit_ne_zero found (Nat.lt_trans inside (by decide : 5 < 8))
  exact (usages_unitField _ _ _ _ _ _ _ _).trans (if_congr isSet rfl rfl)

theorem toMouse_of_read {report : Report} {mouse : Mouse} (wellFormed : mouse.WellFormed)
    (bytes : report.payload = mouse.encode) (read : report.ReadWith mouseLayout.fields) :
    report.toMouse unscaled = mouse := by
  have small : (UInt8.ofNat mouse.buttons).toNat = mouse.buttons :=
    Nat.mod_eq_of_lt (Nat.lt_trans wellFormed.buttons (by decide))
  have buttonFields : mouseLayout.fields.filter (fun field => field.isDataOn .button) =
      (List.range Mouse.buttonCount).map buttonField := by
    decide
  have selected : report.selected .button =
      (List.range Mouse.buttonCount).flatMap
        (fun bit => if mouse.buttons.testBit bit then [bit + 1] else []) := by
    rw [read.selected, buttonFields, bytes, List.flatMap_map]
    refine List.flatMap_congr fun bit member => ?_
    rw [usages_buttonField mouse (List.mem_range.mp member), small]
  have x : report.desktopValue .x = mouse.x := by
    rw [Report.desktopValue, read.lastValue, bytes]
    exact wellFormed.read_x
  have y : report.desktopValue .y = mouse.y := by
    rw [Report.desktopValue, read.lastValue, bytes]
    exact wellFormed.read_y
  have wheel : report.desktopValue .wheel = mouse.wheel := by
    rw [Report.desktopValue, read.lastValue, bytes]
    exact wellFormed.read_wheel
  have pan : report.panValue = mouse.pan := by
    rw [Report.panValue, read.lastValue, bytes]
    exact wellFormed.read_pan
  rw [Report.toMouse, selected, x, y, wheel, pan, Mouse.pressAll_buttons,
    Nat.mod_eq_of_lt wellFormed.buttons]
  unfold scaleMovement Mouse.clampAxis Mouse.clampWheel
  rw [if_pos rfl, if_pos rfl, Mouse.clamp_of_range wellFormed.x, Mouse.clamp_of_range wellFormed.y,
    Mouse.clamp_of_range wellFormed.wheel, Mouse.clamp_of_range wellFormed.pan]
  simp only [Mouse.empty, Nat.zero_or]

theorem exists_read_mouse {mouse : Mouse} (wellFormed : mouse.WellFormed) (id : InterfaceId)
    (generation : Nat) :
    ∃ layout received,
      (Interface.ofDescriptor id descriptor).input? mouseReportId = some layout ∧
      layout.read id generation mouse.encode = .ok received ∧
      received.toMouse unscaled = mouse := by
  have fits : mouse.encode.length ≤ Limits.reportBytes := by
    rw [Mouse.length_encode]
    decide
  obtain ⟨received, isRead, bytes, read⟩ := mouseLayout.exists_read id generation fits
  exact ⟨_, received, input?_mouse id, isRead, toMouse_of_read wellFormed bytes read⟩

end Output.Advertised

namespace Report

open Output.Advertised

/-- The host takes every mouse report that is sent, and reads the same report. So it does
with every report there can be: movement over the whole of sixteen bits each way, both wheels
from -127 to 127, and any of the buttons. -/
theorem mouse_at_host (report : Report) (sensitivity : Nat) (id : InterfaceId)
    (generation : Nat) :
    (∃ layout received,
      (Interface.ofDescriptor id descriptor).input? mouseReportId = some layout ∧
      layout.read id generation (report.toMouse sensitivity).encode = .ok received ∧
      received.toMouse unscaled = report.toMouse sensitivity) ∧
    ∀ mouse : Output.Mouse, mouse.buttons < 2 ^ Output.Mouse.buttonCount →
      -32768 ≤ mouse.x ∧ mouse.x ≤ 32767 → -32768 ≤ mouse.y ∧ mouse.y ≤ 32767 →
      -127 ≤ mouse.wheel ∧ mouse.wheel ≤ 127 → -127 ≤ mouse.pan ∧ mouse.pan ≤ 127 →
      ∃ layout received,
        (Interface.ofDescriptor id descriptor).input? mouseReportId = some layout ∧
        layout.read id generation mouse.encode = .ok received ∧
        received.toMouse unscaled = mouse := by
  refine ⟨exists_read_mouse (report.wellFormed_toMouse sensitivity) id generation, ?_⟩
  intro mouse buttons x y wheel pan
  exact exists_read_mouse { buttons, x, y, wheel, pan } id generation

/-- Every button is held while the mouse goes as far as it can. -/
theorem furthest_at_host :
    let furthest : Output.Mouse :=
      { buttons := 0b11111, x := 32767, y := -32768, wheel := -127, pan := 127 }
    ∃ layout received,
      (Interface.ofDescriptor 0 descriptor).input? mouseReportId = some layout ∧
      layout.read 0 1 furthest.encode = .ok received ∧
      received.toMouse unscaled = furthest := by
  intro furthest
  have report : Report :=
    { interfaceId := 0, reportId := 1, generation := 1, samples := [], payload := [] }
  exact (report.mouse_at_host 100 0 1).2 furthest (by decide) (by decide) (by decide) (by decide)
    (by decide)

end Report

end HidBridge
