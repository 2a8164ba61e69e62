/-
What a keyboard report says after usages were pressed in turn, told from the
usages alone. Every modifier among them is set. The places hold the keys that come
first, each once, and a key for which there is no place left is refused as often
as it is pressed.
-/

import HidBridge.Proofs.Keyed
import HidBridge.Proofs.Output.Keyboard

namespace HidBridge.Output.Keyboard

instance (usage : Nat) : Decidable (IsKey usage) := inferInstanceAs (Decidable (_ ∧ _))

/-- The keys among usages, each where it is pressed first. -/
def firstKeys (usages : List Nat) : List Nat :=
  (usages.filter (fun usage => decide (IsKey usage))).eraseDups

theorem firstKeys_append_other {usage : Nat} (noKey : ¬IsKey usage) (usages : List Nat) :
    firstKeys (usages ++ [usage]) = firstKeys usages := by
  unfold firstKeys
  rw [List.filter_append, List.filter_singleton, decide_eq_false noKey, cond_false,
    List.append_nil]

theorem firstKeys_append_known {usage : Nat} {usages : List Nat}
    (known : usage ∈ firstKeys usages) : firstKeys (usages ++ [usage]) = firstKeys usages := by
  have member := List.mem_eraseDups.mp known
  unfold firstKeys
  rw [List.filter_append, List.filter_singleton, (List.mem_filter.mp member).2, cond_true]
  exact eraseDups_append_known member

theorem firstKeys_append_new {usage : Nat} {usages : List Nat} (isKey : IsKey usage)
    (new : usage ∉ firstKeys usages) :
    firstKeys (usages ++ [usage]) = firstKeys usages ++ [usage] := by
  unfold firstKeys
  rw [List.filter_append, List.filter_singleton, decide_eq_true isKey, cond_true]
  exact eraseDups_append_new (fun member => new (List.mem_eraseDups.mpr member))

theorem not_modifier_of_large {usage : Nat} (large : Limits.maxUInt8 < usage) :
    ¬(firstModifier ≤ usage ∧ usage ≤ lastModifier) :=
  fun isModifier => Nat.not_le.mpr large (Nat.le_trans isModifier.2 (by decide))

structure Records (keyboard : Keyboard) (usages : List Nat) : Prop where
  modifiers : ∀ bit, keyboard.modifiers.testBit bit = true ↔
    bit < 8 ∧ firstModifier + bit ∈ usages
  held : keyboard.held = (firstKeys usages).take places

theorem records_empty : empty.Records [] where
  modifiers := by
    intro bit
    rw [empty, Nat.zero_testBit]
    exact iff_of_false Bool.false_ne_true (fun pressed => List.not_mem_nil pressed.2)
  held := rfl

namespace Records

variable {keyboard : Keyboard} {usages : List Nat} (records : keyboard.Records usages)

include records

theorem modifiers_append {usage : Nat}
    (noModifier : ¬(firstModifier ≤ usage ∧ usage ≤ lastModifier)) (bit : Nat) :
    keyboard.modifiers.testBit bit = true ↔
      bit < 8 ∧ firstModifier + bit ∈ usages ++ [usage] := by
  rw [records.modifiers, List.mem_append, List.mem_singleton]
  refine and_congr_right (fun inside => (or_iff_left ?_).symm)
  unfold firstModifier lastModifier at *
  omega

theorem not_mem_firstKeys {usage : Nat} (unheld : usage ∉ keyboard.held)
    (room : keyboard.held.length < places) :
    usage ∉ firstKeys usages ∧ keyboard.held = firstKeys usages := by
  have held := records.held
  have length := congrArg List.length held
  rw [List.length_take] at length
  rw [List.take_of_length_le (by omega)] at held
  exact ⟨held ▸ unheld, held⟩

theorem press (usage : Nat) : (keyboard.press usage).2.Records (usages ++ [usage]) := by
  rcases keyboard.press_cases usage with
    ⟨bit, inside, isModifier, pressed⟩ | ⟨large, pressed⟩ | ⟨_small, noModifier, known, pressed⟩ |
      ⟨isKey, unheld, room, pressed⟩ | ⟨isKey, unheld, full, pressed⟩ <;> rw [pressed]
  · refine { modifiers := ?_, held := ?_ }
    · intro other
      rw [Nat.testBit_or, Bool.or_eq_true, records.modifiers, Nat.one_shiftLeft,
        Nat.testBit_two_pow, decide_eq_true_iff, List.mem_append, List.mem_singleton, isModifier,
        and_or_left]
      exact or_congr_right (by omega)
    · have noKey : ¬IsKey usage := by
        intro isKey
        refine isKey.2.2 ?_
        unfold firstModifier lastModifier at *
        omega
      rw [firstKeys_append_other noKey]
      exact records.held
  · have noKey : ¬IsKey usage := fun isKey => Nat.not_le.mpr large isKey.2.1
    refine { modifiers := records.modifiers_append (not_modifier_of_large large), held := ?_ }
    rw [firstKeys_append_other noKey]
    exact records.held
  · refine { modifiers := records.modifiers_append noModifier, held := ?_ }
    have same : firstKeys (usages ++ [usage]) = firstKeys usages := by
      rcases known with zero | held
      · exact firstKeys_append_other (fun isKey => isKey.1 zero) usages
      · rw [records.held] at held
        exact firstKeys_append_known (List.mem_of_mem_take held)
    rw [same]
    exact records.held
  · obtain ⟨new, held⟩ := records.not_mem_firstKeys unheld room
    refine { modifiers := records.modifiers_append isKey.2.2, held := ?_ }
    rw [held] at room ⊢
    rw [firstKeys_append_new isKey new, List.take_of_length_le]
    rw [List.length_append, List.length_singleton]
    exact room
  · refine { modifiers := records.modifiers_append isKey.2.2, held := ?_ }
    have enough : places ≤ (firstKeys usages).length := by
      rw [records.held, List.length_take] at full
      omega
    by_cases known : usage ∈ firstKeys usages
    · rw [firstKeys_append_known known]
      exact records.held
    · rw [firstKeys_append_new isKey known, List.take_append_of_le_length enough]
      exact records.held

end Records

theorem records_pressAll (usages : List Nat) : (empty.pressAll usages).Records usages := by
  induction usages using List.reverseRecOn with
  | nil => exact records_empty
  | append_singleton usages usage ih =>
      rw [pressAll_append]
      exact ih.press usage

/-- A usage is refused if it is too large, or if it is a key that is not held and every place is
taken. -/
theorem press_eq_false_iff (keyboard : Keyboard) (usage : Nat) :
    (keyboard.press usage).1 = false ↔
      Limits.maxUInt8 < usage ∨
        (IsKey usage ∧ usage ∉ keyboard.held ∧ places ≤ keyboard.held.length) := by
  constructor
  · intro refused
    rcases keyboard.press_cases usage with
      ⟨_bit, _inside, _same, pressed⟩ | ⟨large, _pressed⟩ | ⟨_small, _none, _known, pressed⟩ |
        ⟨_isKey, _unheld, _room, pressed⟩ | ⟨isKey, unheld, full, _pressed⟩
    · rw [pressed] at refused
      cases refused
    · exact Or.inl large
    · rw [pressed] at refused
      cases refused
    · rw [pressed] at refused
      cases refused
    · exact Or.inr ⟨isKey, unheld, full⟩
  · intro either
    rcases either with large | ⟨⟨nonzero, small, noModifier⟩, unheld, full⟩
    · rw [Keyboard.press, if_neg (not_modifier_of_large large), if_pos large]
    · rw [Keyboard.press, if_neg noModifier, if_neg (Nat.not_lt.mpr small),
        if_neg (not_or.mpr ⟨nonzero, unheld⟩), if_neg (Nat.not_lt.mpr full)]

theorem keys_pairwise {keyboard : Keyboard} (wellFormed : keyboard.WellFormed) :
    keyboard.keys.Pairwise (fun earlier later => later ≠ 0 → earlier ≠ 0 ∧ earlier ≠ later) := by
  refine List.pairwise_append.mpr ⟨?_, ?_, ?_⟩
  · refine List.Pairwise.imp_of_mem ?_ wellFormed.distinct
    intro earlier later member _member different _some
    exact ⟨(wellFormed.keys earlier member).1, different⟩
  · exact List.pairwise_replicate.mpr (Or.inr (fun nonzero => absurd rfl nonzero))
  · intro earlier member later free nonzero
    exact absurd (List.eq_of_mem_replicate free) nonzero

/-- After any usages, pressed in turn on an empty report, the modifiers that are set are those
among them, and the places hold the first six of the keys, each where it was pressed first. Free
places come last and are zero. The next usage is refused exactly if it is too large, or if it is a
key that is not held and six keys are. -/
theorem rollover (usages : List Nat) :
    let keyboard := empty.pressAll usages
    let taken := (firstKeys usages).take places
    (∀ bit, keyboard.modifiers.testBit bit = true ↔ bit < 8 ∧ firstModifier + bit ∈ usages) ∧
      keyboard.reserved = 0 ∧
      keyboard.keys = taken ++ List.replicate (places - taken.length) 0 ∧
      keyboard.keys.length = places ∧
      keyboard.keys.Pairwise (fun earlier later => later ≠ 0 → earlier ≠ 0 ∧ earlier ≠ later) ∧
      ∀ usage, (keyboard.press usage).1 = false ↔
        Limits.maxUInt8 < usage ∨ (IsKey usage ∧ usage ∉ taken ∧ taken.length = places) := by
  intro keyboard taken
  have records := records_pressAll usages
  have wellFormed := wellFormed_empty.pressAll usages
  refine ⟨records.modifiers, wellFormed.reserved, ?_, length_keys _ wellFormed.placed,
    keys_pairwise wellFormed, ?_⟩
  · rw [keys, records.held]
  · intro usage
    have full : places ≤ taken.length ↔ taken.length = places := by
      have few : taken.length ≤ places := List.length_take_le _ _
      omega
    rw [press_eq_false_iff, records.held, full]

/-- The seventh key is refused, twice, and a modifier is not. -/
example :
    empty.pressAll [4, 5, 0xE1, 4, 0, 6, 7, 8, 9, 10, 10, 0x104] =
      { modifiers := 2, reserved := 0, held := [4, 5, 6, 7, 8, 9] } := by
  decide

end HidBridge.Output.Keyboard
