/-
Keyboard reports, and what the host that is shown the descriptor reads in them.
Every modifier arrives, and every key up to the largest that the descriptor
announces. Keys above it are placed in reports all the same, and are lost.
-/

import HidBridge.Conversion.Compose
import HidBridge.Proofs.Bits
import HidBridge.Proofs.Conversion.Reading
import HidBridge.Proofs.Output.Advertised
import Mathlib.Data.List.Basic
import Mathlib.Data.List.Induction
import Mathlib.Data.List.Nodup

namespace HidBridge

namespace Output.Keyboard

def IsKey (usage : Nat) : Prop :=
  usage ≠ 0 ∧ usage ≤ Limits.maxUInt8 ∧ ¬(firstModifier ≤ usage ∧ usage ≤ lastModifier)

structure WellFormed (keyboard : Keyboard) : Prop where
  modifiers : keyboard.modifiers < 2 ^ 8
  reserved : keyboard.reserved = 0
  keys : ∀ key, key ∈ keyboard.held → IsKey key
  distinct : keyboard.held.Nodup
  placed : keyboard.held.length ≤ places

theorem wellFormed_empty : empty.WellFormed :=
  { modifiers := by decide
    reserved := rfl
    keys := fun _key member => nomatch member
    distinct := List.nodup_nil
    placed := Nat.zero_le _ }

theorem press_cases (keyboard : Keyboard) (usage : Nat) :
    (∃ bit, bit < 8 ∧ usage = firstModifier + bit ∧
        keyboard.press usage =
          (true, { keyboard with modifiers := keyboard.modifiers ||| 1 <<< bit })) ∨
      (Limits.maxUInt8 < usage ∧ keyboard.press usage = (false, keyboard)) ∨
      (usage ≤ Limits.maxUInt8 ∧ ¬(firstModifier ≤ usage ∧ usage ≤ lastModifier) ∧
        (usage = 0 ∨ usage ∈ keyboard.held) ∧ keyboard.press usage = (true, keyboard)) ∨
      (IsKey usage ∧ usage ∉ keyboard.held ∧ keyboard.held.length < places ∧
        keyboard.press usage = (true, { keyboard with held := keyboard.held ++ [usage] })) ∨
      (IsKey usage ∧ usage ∉ keyboard.held ∧ places ≤ keyboard.held.length ∧
        keyboard.press usage = (false, keyboard)) := by
  unfold Keyboard.press
  split
  · rename_i isModifier
    obtain ⟨first, last⟩ := isModifier
    refine Or.inl ⟨usage - firstModifier, ?_, (Nat.add_sub_cancel' first).symm, rfl⟩
    unfold firstModifier lastModifier at *
    omega
  · rename_i noModifier
    split
    · rename_i large
      exact Or.inr (Or.inl ⟨large, rfl⟩)
    · rename_i notLarge
      have small := Nat.le_of_not_lt notLarge
      split
      · rename_i nothing
        exact Or.inr (Or.inr (Or.inl ⟨small, noModifier, nothing, rfl⟩))
      · rename_i newKey
        obtain ⟨nonzero, unheld⟩ := not_or.mp newKey
        have isKey : IsKey usage := ⟨nonzero, small, noModifier⟩
        split
        · rename_i room
          exact Or.inr (Or.inr (Or.inr (Or.inl ⟨isKey, unheld, room, rfl⟩)))
        · rename_i full
          exact Or.inr (Or.inr (Or.inr (Or.inr ⟨isKey, unheld, Nat.le_of_not_lt full, rfl⟩)))

theorem WellFormed.press {keyboard : Keyboard} (wellFormed : keyboard.WellFormed)
    (usage : Nat) : (keyboard.press usage).2.WellFormed := by
  rcases keyboard.press_cases usage with
    ⟨bit, inside, _same, pressed⟩ | ⟨_large, pressed⟩ | ⟨_small, _none, _held, pressed⟩ |
      ⟨isKey, unheld, room, pressed⟩ | ⟨_isKey, _unheld, _full, pressed⟩ <;> rw [pressed]
  · have set : 1 <<< bit < 2 ^ 8 := by
      rw [Nat.one_shiftLeft]
      exact Nat.pow_lt_pow_right (by decide) inside
    exact { wellFormed with modifiers := Nat.or_lt_two_pow wellFormed.modifiers set }
  · exact wellFormed
  · exact wellFormed
  · refine { wellFormed with keys := ?_, distinct := ?_, placed := ?_ }
    · intro key member
      rcases List.mem_append.mp member with earlier | last
      · exact wellFormed.keys key earlier
      · rw [List.mem_singleton.mp last]
        exact isKey
    · rw [← List.concat_eq_append]
      exact wellFormed.distinct.concat unheld
    · rw [List.length_append, List.length_singleton]
      exact room
  · exact wellFormed

theorem WellFormed.pressAll {keyboard : Keyboard} (wellFormed : keyboard.WellFormed)
    (usages : List Nat) : (keyboard.pressAll usages).WellFormed := by
  induction usages generalizing keyboard with
  | nil => exact wellFormed
  | cons usage rest ih => exact ih (wellFormed.press usage)

theorem pressAll_append (keyboard : Keyboard) (earlier later : List Nat) :
    keyboard.pressAll (earlier ++ later) = (keyboard.pressAll earlier).pressAll later :=
  List.foldl_append

theorem press_modifier (keyboard : Keyboard) {bit : Nat} (inside : bit < 8) :
    (keyboard.press (firstModifier + bit)).2 =
      { keyboard with modifiers := keyboard.modifiers ||| 1 <<< bit } := by
  have isModifier : firstModifier ≤ firstModifier + bit ∧
      firstModifier + bit ≤ lastModifier := by
    unfold firstModifier lastModifier
    omega
  rw [press, if_pos isModifier, Nat.add_sub_cancel_left]

theorem pressAll_modifiers (keyboard : Keyboard) (number : Nat) :
    keyboard.pressAll
        ((List.range 8).flatMap
          (fun bit => if number.testBit bit then [firstModifier + bit] else [])) =
      { keyboard with modifiers := keyboard.modifiers ||| number % 2 ^ 8 } :=
  Bits.foldl_bits (fun (pressed : Keyboard) usage => (pressed.press usage).2)
    (fun bit => firstModifier + bit) (fun modifiers => { keyboard with modifiers }) number
    (fun modifiers _bit inside => press_modifier { keyboard with modifiers } inside)
    keyboard.modifiers

theorem press_key {keyboard : Keyboard} {key : Nat} (isKey : IsKey key)
    (unheld : key ∉ keyboard.held) (room : keyboard.held.length < places) :
    (keyboard.press key).2 = { keyboard with held := keyboard.held ++ [key] } := by
  obtain ⟨nonzero, small, noModifier⟩ := isKey
  rw [press, if_neg noModifier, if_neg (Nat.not_lt.mpr small),
    if_neg (not_or.mpr ⟨nonzero, unheld⟩), if_pos room]

theorem pressAll_keys {keyboard : Keyboard} {keys : List Nat}
    (areKeys : ∀ key, key ∈ keys → IsKey key) (distinct : (keyboard.held ++ keys).Nodup)
    (room : (keyboard.held ++ keys).length ≤ places) :
    keyboard.pressAll keys = { keyboard with held := keyboard.held ++ keys } := by
  induction keys generalizing keyboard with
  | nil => rw [List.append_nil]; rfl
  | cons key rest ih =>
      have unheld : key ∉ keyboard.held := by
        intro member
        exact (List.nodup_append.mp distinct).2.2 key member key List.mem_cons_self rfl
      have enough : keyboard.held.length < places := by
        rw [List.length_append, List.length_cons] at room
        omega
      have pressed := press_key (areKeys key List.mem_cons_self) unheld enough
      rw [List.append_cons] at distinct room ⊢
      rw [pressAll, List.foldl_cons, pressed]
      exact ih (fun key member => areKeys key (List.mem_cons_of_mem _ member)) distinct room

/-! ### The bytes of a report, as the host reads them -/

theorem getElem?_encode (keyboard : Keyboard) :
    keyboard.encode[0]? = some (UInt8.ofNat keyboard.modifiers) := rfl

theorem unsigned_encode {keyboard : Keyboard} {place key : Nat}
    (found : keyboard.keys[place]? = some key) (small : key ≤ Limits.maxUInt8) :
    Bits.unsigned keyboard.encode (8 * (2 + place)) 8 = key := by
  obtain ⟨within, same⟩ := List.getElem?_eq_some_iff.mp found
  have byte : (UInt8.ofNat key).toNat = key := Nat.mod_eq_of_lt (Nat.lt_succ_of_le small)
  have rest : keyboard.encode.drop (2 + place) = (keyboard.keys.drop place).map UInt8.ofNat := by
    rw [List.map_drop, encode, ← List.drop_drop]
    rfl
  have read := Bits.unsigned_bytes keyboard.encode (2 + place) 1 (by decide)
  rw [read, rest, List.drop_eq_getElem_cons within, same]
  exact byte

theorem keys_le {keyboard : Keyboard} (wellFormed : keyboard.WellFormed) {key : Nat}
    (member : key ∈ keyboard.keys) : key ≤ Limits.maxUInt8 := by
  rcases List.mem_append.mp member with held | free
  · exact (wellFormed.keys key held).2.1
  · rw [List.eq_of_mem_replicate free]
    exact Nat.zero_le _

end Output.Keyboard

namespace Output.Advertised

/-- The host takes a place for what it says, unless it is free or says more than
the descriptor announces. -/
theorem indexed?_keysField (key : Nat) :
    keysField.indexed? key = if key = 0 ∨ lastKey < key then none else some key := by
  unfold Field.indexed? keysField
  dsimp only
  by_cases free : key = 0
  · rw [if_pos free, if_pos (Or.inl free)]
  · rw [if_neg free, if_neg (by omega)]
    by_cases large : lastKey < key
    · rw [if_pos (by omega), if_pos (Or.inr large)]
    · rw [if_neg (by omega), if_pos (by omega), if_neg (by omega)]
      congr 1
      omega

theorem unitOffset?_keysField {place : Nat} (inside : place < Keyboard.places) :
    keysField.unitOffset? place = some (8 * (2 + place)) := by
  unfold Field.unitOffset? keysField
  have few : place ≤ 5 := Nat.le_of_lt_succ inside
  have addressable : 0xFFFF = Limits.maxUInt16 := rfl
  dsimp only
  rw [← addressable, if_pos (by omega)]
  congr 1
  omega

theorem filterMap_range {α β : Type} (wanted : α → Option β) (list : List α) :
    (List.range list.length).filterMap (fun index => list[index]?.bind wanted) =
      list.filterMap wanted := by
  induction list using List.reverseRecOn with
  | nil => rfl
  | append_singleton list last ih =>
      have earlier : (List.range list.length).filterMap
            (fun index => (list ++ [last])[index]?.bind wanted) =
          (List.range list.length).filterMap (fun index => list[index]?.bind wanted) := by
        refine List.filterMap_congr fun index member => ?_
        rw [List.getElem?_append_left (List.mem_range.mp member)]
      rw [List.length_append, List.length_singleton, List.range_succ, List.filterMap_append,
        earlier, ih, List.filterMap_append]
      simp only [List.filterMap_cons, List.filterMap_nil, List.getElem?_concat_length,
        Option.bind_some]

theorem arrayUsages_keysField {keyboard : Keyboard} (wellFormed : keyboard.WellFormed) :
    keysField.arrayUsages keyboard.encode =
      keyboard.held.filter (fun key => decide (key ≤ lastKey)) := by
  have length := Keyboard.length_keys keyboard wellFormed.placed
  have units : keysField.arrayUsages keyboard.encode =
      (List.range keyboard.keys.length).filterMap
        (fun place => keyboard.keys[place]?.bind keysField.indexed?) := by
    rw [length]
    refine List.filterMap_congr fun place member => ?_
    have inside : place < Keyboard.places := List.mem_range.mp member
    have within : place < keyboard.keys.length := Nat.lt_of_lt_of_eq inside length.symm
    have found : keyboard.keys[place]? = some keyboard.keys[place] :=
      List.getElem?_eq_getElem within
    have small := Keyboard.keys_le wellFormed (List.mem_of_getElem? found)
    rw [Field.unitUsage?, unitOffset?_keysField inside, Option.bind_some, found,
      Option.bind_some]
    exact congrArg keysField.indexed? (Keyboard.unsigned_encode found small)
  have free (count : Nat) :
      (List.replicate count 0).filterMap keysField.indexed? = [] :=
    List.filterMap_replicate_of_none rfl
  have held : keyboard.held.filterMap keysField.indexed? =
      keyboard.held.filter (fun key => decide (key ≤ lastKey)) := by
    rw [← List.filterMap_eq_filter]
    refine List.filterMap_congr fun key member => ?_
    have nonzero := (wellFormed.keys key member).1
    rw [indexed?_keysField, Option.guard]
    by_cases small : key ≤ lastKey
    · rw [if_neg (by omega), if_pos (decide_eq_true small)]
    · rw [if_pos (by omega), if_neg (by rw [decide_eq_true_iff]; exact small)]
  rw [units, filterMap_range, Keyboard.keys, List.filterMap_append, free, held, List.append_nil]

theorem usages_modifierField (keyboard : Keyboard) {bit : Nat} (inside : bit < 8) :
    ((modifierField bit).sample keyboard.encode).usages keyboard.encode =
      if (UInt8.ofNat keyboard.modifiers).toNat.testBit bit then
        [Keyboard.firstModifier + bit] else [] := by
  have isSet := Bits.signed_bit_ne_zero (Keyboard.getElem?_encode keyboard) inside
  rw [Nat.mul_zero, Nat.zero_add] at isSet
  exact (usages_unitField _ _ _ _ _ _ _ _).trans (if_congr isSet rfl rfl)

theorem dataFields_keyboard :
    keyboardLayout.fields.filter (fun field => field.isDataOn .keyboard) =
      (List.range 8).map modifierField ++ [keysField] := by
  decide

theorem toKeyboard_of_read {report : Report} {keyboard : Keyboard}
    (wellFormed : keyboard.WellFormed) (bytes : report.payload = keyboard.encode)
    (read : report.ReadWith keyboardLayout.fields) :
    report.toKeyboard =
      { keyboard with held := keyboard.held.filter (fun key => decide (key ≤ lastKey)) } := by
  have small : (UInt8.ofNat keyboard.modifiers).toNat = keyboard.modifiers :=
    Nat.mod_eq_of_lt wellFormed.modifiers
  have selected : report.selected .keyboard =
      ((List.range 8).flatMap (fun bit =>
          if (UInt8.ofNat keyboard.modifiers).toNat.testBit bit then
            [Keyboard.firstModifier + bit] else [])) ++
        keyboard.held.filter (fun key => decide (key ≤ lastKey)) := by
    rw [read.selected, dataFields_keyboard, bytes, List.flatMap_append, List.flatMap_map,
      List.flatMap_singleton]
    congr 1
    · exact List.flatMap_congr fun bit member =>
        usages_modifierField keyboard (List.mem_range.mp member)
    · exact arrayUsages_keysField wellFormed
  have some_held := List.filter_sublist (p := fun key => decide (key ≤ lastKey))
    (l := keyboard.held)
  rw [Report.toKeyboard, selected, Keyboard.pressAll_append,
    Keyboard.pressAll_modifiers, small,
    Nat.mod_eq_of_lt wellFormed.modifiers, Keyboard.pressAll_keys]
  · simp only [Keyboard.empty, wellFormed.reserved, Nat.zero_or, List.nil_append]
  · intro key member
    exact wellFormed.keys key (some_held.subset member)
  · exact wellFormed.distinct.sublist some_held
  · exact Nat.le_trans some_held.length_le wellFormed.placed

end Output.Advertised

theorem Report.wellFormed_toKeyboard (report : Report) : report.toKeyboard.WellFormed :=
  Output.Keyboard.wellFormed_empty.pressAll _

namespace Report

open Output.Advertised

/-- The host takes every keyboard report that is sent. It reads all modifiers, and
of the keys held those up to the largest announced, in their order. So it reads
the same report exactly if no key above that one is held. -/
theorem keyboard_at_host (report : Report) (id : InterfaceId) (generation : Nat) :
    ∃ layout received,
      (Interface.ofDescriptor id descriptor).input? keyboardReportId = some layout ∧
      layout.read id generation report.toKeyboard.encode = .ok received ∧
      received.toKeyboard =
        { report.toKeyboard with
          held := report.toKeyboard.held.filter (fun key => decide (key ≤ lastKey)) } ∧
      (received.toKeyboard = report.toKeyboard ↔
        ∀ key, key ∈ report.toKeyboard.held → key ≤ lastKey) := by
  have wellFormed := report.wellFormed_toKeyboard
  have fits : report.toKeyboard.encode.length ≤ Limits.reportBytes := by
    rw [Output.Keyboard.length_encode _ wellFormed.placed]
    decide
  obtain ⟨received, isRead, bytes, read⟩ := keyboardLayout.exists_read id generation fits
  have same := toKeyboard_of_read wellFormed bytes read
  refine ⟨_, received, input?_keyboard id, isRead, same, ?_⟩
  rw [same]
  constructor
  · intro unchanged key member
    rw [← congrArg Output.Keyboard.held unchanged] at member
    exact of_decide_eq_true (List.mem_filter.mp member).2
  · intro announced
    rw [List.filter_eq_self.mpr (fun key member => decide_eq_true (announced key member))]

/-- The report of a device on which the key F13 is pressed. -/
def functionKey : Report :=
  { interfaceId := 0
    reportId := 0
    generation := 1
    samples := [(unitField 0x07 0x68 0 1 false 0 1).sample [1]]
    payload := [1] }

/-- The key is placed in the report that is sent, and the host reads no key. -/
theorem functionKey_lost :
    functionKey.toKeyboard = { modifiers := 0, reserved := 0, held := [0x68] } ∧
      ((Interface.ofDescriptor 0 descriptor).input? keyboardReportId).map (fun layout =>
          (layout.read 0 1 functionKey.toKeyboard.encode).toOption.map Report.toKeyboard) =
        some (some .empty) ∧
      Output.Keyboard.empty ≠ functionKey.toKeyboard := by
  decide +kernel

end Report

end HidBridge
