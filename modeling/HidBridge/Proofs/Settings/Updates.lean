/-
Settings after any number of updates. What is held under a name is the value that was accepted
last for it, one from a store included, or else the default. Whether a value is accepted depends
on its key and on itself and not on the settings, so updates under different keys commute.
-/

import HidBridge.Proofs.Settings
import Mathlib.Data.List.Induction

namespace HidBridge

namespace Settings

inductive Name where
  | sleepTimeout
  | sleepEnabled
  | mouseSensitivity
  deriving DecidableEq

namespace Name

def key : Name → String
  | .sleepTimeout => sleepTimeoutKey
  | .sleepEnabled => sleepEnabledKey
  | .mouseSensitivity => mouseSensitivityKey

/-- Values that can be held under a name: those of its type and, for a number, its range. -/
def Fits : Name → SettingValue → Prop
  | .sleepTimeout, .int number => 1 ≤ number ∧ number ≤ Limits.maxUInt32
  | .sleepEnabled, .bool _ => True
  | .mouseSensitivity, .int number => minSensitivity ≤ number ∧ number ≤ maxSensitivity
  | _, _ => False

instance : (name : Name) → (value : SettingValue) → Decidable (name.Fits value)
  | .sleepTimeout, .int _ => inferInstanceAs (Decidable (_ ∧ _))
  | .sleepTimeout, .bool _ => inferInstanceAs (Decidable False)
  | .sleepEnabled, .int _ => inferInstanceAs (Decidable False)
  | .sleepEnabled, .bool _ => inferInstanceAs (Decidable True)
  | .mouseSensitivity, .int _ => inferInstanceAs (Decidable (_ ∧ _))
  | .mouseSensitivity, .bool _ => inferInstanceAs (Decidable False)

theorem key_injective {first second : Name} (same : first.key = second.key) : first = second := by
  revert same
  cases first <;> cases second <;> decide

end Name

def value (settings : Settings) : Name → SettingValue
  | .sleepTimeout => .int settings.sleepTimeout
  | .sleepEnabled => .bool settings.sleepEnabled
  | .mouseSensitivity => .int settings.mouseSensitivity

theorem eq_of_value {first second : Settings}
    (same : ∀ name, first.value name = second.value name) : first = second := by
  cases first
  cases second
  have timeout := same .sleepTimeout
  have enabled := same .sleepEnabled
  have sensitivity := same .mouseSensitivity
  simp only [value, SettingValue.int.injEq, SettingValue.bool.injEq, Int.natCast_inj]
    at timeout enabled sensitivity
  rw [timeout, enabled, sensitivity]

theorem Sets.of_fits (settings : Settings) {name : Name} {value : SettingValue}
    (fits : name.Fits value) : ∃ changed, settings.Sets name.key value changed := by
  cases name with
  | sleepTimeout =>
      cases value with
      | bool flag => cases fits
      | int number =>
          obtain ⟨atLeast, atMost⟩ := fits
          lift number to Nat using by omega
          exact ⟨_, .sleepTimeout number (by omega) (by omega)⟩
  | sleepEnabled =>
      cases value with
      | int number => cases fits
      | bool flag => exact ⟨_, .sleepEnabled flag⟩
  | mouseSensitivity =>
      cases value with
      | bool flag => cases fits
      | int number =>
          obtain ⟨atLeast, atMost⟩ := fits
          lift number to Nat using by omega
          exact ⟨_, .mouseSensitivity number (by omega) (by omega)⟩

theorem Sets.exists_name {before changed : Settings} {key : String} {value : SettingValue}
    (sets : before.Sets key value changed) :
    ∃ name : Name, key = name.key ∧ name.Fits value ∧
      ∀ other, changed.value other = if other = name then value else before.value other := by
  cases sets with
  | sleepTimeout seconds atLeast atMost =>
      refine ⟨.sleepTimeout, rfl, ⟨by omega, by omega⟩, ?_⟩
      intro other
      cases other <;> rfl
  | sleepEnabled flag =>
      refine ⟨.sleepEnabled, rfl, trivial, ?_⟩
      intro other
      cases other <;> rfl
  | mouseSensitivity percent atLeast atMost =>
      refine ⟨.mouseSensitivity, rfl, ⟨by omega, by omega⟩, ?_⟩
      intro other
      cases other <;> rfl

structure Update where
  key : String
  value : SettingValue
  deriving DecidableEq

def Update.AcceptedFor (update : Update) (name : Name) : Prop :=
  update.key = name.key ∧ name.Fits update.value

instance (update : Update) (name : Name) : Decidable (update.AcceptedFor name) :=
  inferInstanceAs (Decidable (_ ∧ _))

def update (settings : Settings) (update : Update) : Settings :=
  settings.applyStored update.key (some update.value)

def updated (settings : Settings) (updates : List Update) : Settings := updates.foldl update settings

/-- The value of the last update that is accepted for a name. -/
def lastAccepted? (name : Name) (updates : List Update) : Option SettingValue :=
  ((updates.filter (fun update => decide (update.AcceptedFor name))).map Update.value).getLast?

def offer (key : String) (offered : Option SettingValue) : List Update :=
  (offered.map (Update.mk key)).toList

def offers (store : Store) : List Update :=
  offer sleepTimeoutKey ((store.ints.lookup sleepTimeoutKey).map .int) ++
    offer sleepEnabledKey ((store.bools.lookup sleepEnabledKey).map .bool) ++
    offer mouseSensitivityKey ((store.ints.lookup mouseSensitivityKey).map .int)

/-! ### One update -/

theorem accepted_iff {settings : Settings} {update : Update} :
    (∃ changed, settings.apply update.key update.value = .ok changed) ↔
      ∃ name, update.AcceptedFor name := by
  simp only [apply_eq_ok_iff]
  constructor
  · intro ⟨changed, sets⟩
    obtain ⟨name, key, fits, _held⟩ := sets.exists_name
    exact ⟨name, key, fits⟩
  · intro ⟨name, key, fits⟩
    rw [key]
    exact Sets.of_fits settings fits

theorem update_of_error {settings : Settings} {update : Update} {fault : Fault}
    (refused : settings.apply update.key update.value = .error fault) :
    settings.update update = settings := by
  simp only [Settings.update, applyStored, refused]

theorem value_update (settings : Settings) (update : Update) (name : Name) :
    (settings.update update).value name =
      if update.AcceptedFor name then update.value else settings.value name := by
  cases answer : settings.apply update.key update.value with
  | error fault =>
      have refused : ¬update.AcceptedFor name := by
        intro accepted
        obtain ⟨changed, ok⟩ := accepted_iff.mpr ⟨name, accepted⟩
        cases answer.symm.trans ok
      rw [update_of_error answer, if_neg refused]
  | ok changed =>
      obtain ⟨own, key, fits, held⟩ := (apply_eq_ok_iff.mp answer).exists_name
      have accepted : update.AcceptedFor name ↔ name = own := by
        constructor
        · intro ⟨same, _fits⟩
          exact Name.key_injective (same.symm.trans key)
        · rintro rfl
          exact ⟨key, fits⟩
      have after : settings.update update = changed := by
        simp only [Settings.update, applyStored, answer]
      simp only [after, held, accepted]

/-! ### Any number of updates -/

theorem updated_append (settings : Settings) (first second : List Update) :
    settings.updated (first ++ second) = (settings.updated first).updated second :=
  List.foldl_append

theorem updated_concat (settings : Settings) (updates : List Update) (update : Update) :
    settings.updated (updates ++ [update]) = (settings.updated updates).update update :=
  updated_append settings updates [update]

theorem lastAccepted?_concat (name : Name) (updates : List Update) (update : Update) :
    lastAccepted? name (updates ++ [update]) =
      if update.AcceptedFor name then some update.value else lastAccepted? name updates := by
  unfold lastAccepted?
  by_cases accepted : update.AcceptedFor name
  · simp [List.filter_append, accepted]
  · simp [List.filter_append, accepted]

theorem value_updated (settings : Settings) (updates : List Update) (name : Name) :
    (settings.updated updates).value name =
      (lastAccepted? name updates).getD (settings.value name) := by
  induction updates using List.reverseRecOn with
  | nil => rfl
  | append_singleton updates update ih =>
      rw [updated_concat, value_update, lastAccepted?_concat, ih]
      split <;> rfl

theorem fits_updated {settings : Settings} (fits : ∀ name : Name, name.Fits (settings.value name))
    (updates : List Update) (name : Name) : name.Fits ((settings.updated updates).value name) := by
  induction updates using List.reverseRecOn with
  | nil => exact fits name
  | append_singleton updates update ih =>
      rw [updated_concat, value_update]
      split
      · rename_i accepted
        exact accepted.2
      · exact ih

theorem updated_eq_of_filter (settings : Settings) {first second : List Update}
    (same : ∀ key, first.filter (fun update => decide (update.key = key)) =
      second.filter (fun update => decide (update.key = key))) :
    settings.updated first = settings.updated second := by
  have own (name : Name) (updates : List Update) :
      lastAccepted? name updates =
        lastAccepted? name (updates.filter (fun update => decide (update.key = name.key))) := by
    unfold lastAccepted?
    rw [List.filter_filter]
    congr 2
    apply List.filter_congr
    intro update _member
    rw [← Bool.decide_and]
    have key : update.AcceptedFor name ∧ update.key = name.key ↔ update.AcceptedFor name :=
      and_iff_left_of_imp And.left
    simp only [key]
  apply eq_of_value
  intro name
  rw [value_updated, value_updated, own name first, own name second, same]

theorem updated_offer (settings : Settings) (key : String) (offered : Option SettingValue) :
    settings.updated (offer key offered) = settings.applyStored key offered := by
  cases offered <;> rfl

theorem load_eq_updated (store : Store) : load store = default.updated (offers store) := by
  simp only [load, offers, updated_append, updated_offer]

theorem fits_default (name : Name) : name.Fits (default.value name) := by
  cases name <;> decide

/-- Under each name lies the value that was accepted last for it, one from the store included,
or the default. So a timeout and a sensitivity are always in their ranges. An update is accepted
exactly if its value is of the type of its key and in its range, whatever the settings are. One
that is refused changes nothing, and updates under different keys commute. -/
theorem updates_settle (store : Store) (updates : List Update) :
    let settings := (load store).updated updates
    (∀ name, settings.value name =
      (lastAccepted? name (offers store ++ updates)).getD (default.value name)) ∧
    (1 ≤ settings.sleepTimeout ∧ settings.sleepTimeout ≤ Limits.maxUInt32 ∧
      minSensitivity ≤ settings.mouseSensitivity ∧
      settings.mouseSensitivity ≤ maxSensitivity) ∧
    (∀ update : Update,
      ((∃ changed, settings.apply update.key update.value = .ok changed) ↔
        ∃ name, update.AcceptedFor name) ∧
      ∀ fault, settings.apply update.key update.value = .error fault →
        settings.update update = settings ∧
          ((known update.key ∧ fault = .invalidSetting) ∨
            (¬known update.key ∧ fault = .unknownSetting))) ∧
    ∀ first second : Update, first.key ≠ second.key →
      (settings.update first).update second = (settings.update second).update first := by
  intro settings
  have history : settings = default.updated (offers store ++ updates) := by
    rw [updated_append, ← load_eq_updated]
  refine ⟨?_, ?_, ?_, ?_⟩
  · intro name
    rw [history, value_updated]
  · have fits := fits_updated fits_default (offers store ++ updates)
    rw [← history] at fits
    obtain ⟨timeoutLow, timeoutHigh⟩ := fits .sleepTimeout
    obtain ⟨sensitivityLow, sensitivityHigh⟩ := fits .mouseSensitivity
    omega
  · intro update
    refine ⟨accepted_iff, ?_⟩
    intro fault refused
    exact ⟨update_of_error refused, fault_of_apply refused⟩
  · intro first second different
    have reordered : settings.updated [first, second] = settings.updated [second, first] := by
      apply updated_eq_of_filter
      intro key
      by_cases own : first.key = key
      · have other : second.key ≠ key := fun same => different (own.trans same.symm)
        simp [own, other]
      · simp [own, List.filter_cons]
    exact reordered

/-- The stored timeout is out of range by one bit, and so is the sensitivity. -/
def overlong : Store :=
  { ints := [(sleepTimeoutKey, 0x100000005), (mouseSensitivityKey, 0x10064)]
    bools := [(sleepEnabledKey, false)] }

theorem overlong_settle :
    let settings := (load overlong).updated
      [⟨sleepTimeoutKey, .int 0xFFFFFFFF⟩, ⟨sleepEnabledKey, .int 1⟩]
    settings.value .sleepTimeout = .int 0xFFFFFFFF ∧
      settings.value .mouseSensitivity = .int 100 ∧
      settings.update ⟨mouseSensitivityKey, .int 0x10064⟩ = settings ∧
      (settings.update ⟨mouseSensitivityKey, .int 7⟩).update ⟨sleepTimeoutKey, .int 5⟩ =
        (settings.update ⟨sleepTimeoutKey, .int 5⟩).update ⟨mouseSensitivityKey, .int 7⟩ := by
  intro settings
  have refused : settings.apply mouseSensitivityKey (.int 0x10064) = .error .invalidSetting := by
    decide
  obtain ⟨held, _inRange, answers, commute⟩ := updates_settle overlong
    [⟨sleepTimeoutKey, .int 0xFFFFFFFF⟩, ⟨sleepEnabledKey, .int 1⟩]
  refine ⟨(held .sleepTimeout).trans ?_, (held .mouseSensitivity).trans ?_, ?_, ?_⟩
  · decide
  · decide
  · exact ((answers ⟨mouseSensitivityKey, .int 0x10064⟩).2 .invalidSetting refused).1
  · exact commute ⟨mouseSensitivityKey, .int 7⟩ ⟨sleepTimeoutKey, .int 5⟩ (by decide)

end Settings

end HidBridge
