/-
Changes of one setting: which values fit under which key, and what a value that fits
changes. Everything else is refused, by an unknown key or by a value that does not fit.
-/

import HidBridge.Settings

namespace HidBridge.Settings

/-- A value that fits under a key, with the settings before and after the change. -/
inductive Sets (before : Settings) : String → SettingValue → Settings → Prop where
  | sleepTimeout (seconds : Nat) : 1 ≤ seconds → seconds ≤ Limits.maxUInt32 →
    Sets before sleepTimeoutKey (.int seconds) { before with sleepTimeout := seconds }
  | sleepEnabled (sleepEnabled : Bool) :
    Sets before sleepEnabledKey (.bool sleepEnabled) { before with sleepEnabled }
  | mouseSensitivity (percent : Nat) : minSensitivity ≤ percent → percent ≤ maxSensitivity →
    Sets before mouseSensitivityKey (.int percent) { before with mouseSensitivity := percent }

def known (key : String) : Prop :=
  key = sleepTimeoutKey ∨ key = sleepEnabledKey ∨ key = mouseSensitivityKey

theorem inRange?_eq_some_iff {low high found : Nat} {number : Int} :
    inRange? low high number = some found ↔ low ≤ found ∧ found ≤ high ∧ number = found := by
  unfold inRange?
  split
  · simp only [Option.some.injEq]
    omega
  · simp only [reduceCtorEq, false_iff]
    omega

theorem required_eq_ok_iff {found : Option Settings} {changed : Settings} :
    required found = .ok changed ↔ found = some changed := by
  cases found <;> simp only [required, Except.ok.injEq, Option.some.injEq, reduceCtorEq]

theorem required_eq_error_iff {found : Option Settings} {fault : Fault} :
    required found = .error fault ↔ found = none ∧ fault = .invalidSetting := by
  cases found <;>
    simp only [required, Except.error.injEq, reduceCtorEq, false_and, true_and, eq_comm]

/-- A change is accepted exactly if the value fits under the key, and changes what is
under the key alone. -/
theorem apply_eq_ok_iff {settings changed : Settings} {key : String} {value : SettingValue} :
    settings.apply key value = .ok changed ↔ settings.Sets key value changed := by
  constructor
  · intro accepted
    unfold apply at accepted
    split at accepted
    · rename_i own
      rw [own]
      cases value with
      | bool flag => cases required_eq_ok_iff.mp accepted
      | int number =>
          obtain ⟨seconds, found, same⟩ :=
            Option.map_eq_some_iff.mp (required_eq_ok_iff.mp accepted)
          obtain ⟨atLeast, atMost, rfl⟩ := inRange?_eq_some_iff.mp found
          rw [← same]
          exact .sleepTimeout seconds atLeast atMost
    · split at accepted
      · rename_i own
        rw [own]
        cases value with
        | int number => cases required_eq_ok_iff.mp accepted
        | bool flag =>
            rw [← Option.some.inj (required_eq_ok_iff.mp accepted)]
            exact .sleepEnabled flag
      · split at accepted
        · rename_i own
          rw [own]
          cases value with
          | bool flag => cases required_eq_ok_iff.mp accepted
          | int number =>
              obtain ⟨percent, found, same⟩ :=
                Option.map_eq_some_iff.mp (required_eq_ok_iff.mp accepted)
              obtain ⟨atLeast, atMost, rfl⟩ := inRange?_eq_some_iff.mp found
              rw [← same]
              exact .mouseSensitivity percent atLeast atMost
        · cases accepted
  · intro sets
    cases sets with
    | sleepTimeout seconds atLeast atMost =>
        have found := inRange?_eq_some_iff.mpr ⟨atLeast, atMost, rfl⟩
        exact required_eq_ok_iff.mpr (Option.map_eq_some_iff.mpr ⟨seconds, found, rfl⟩)
    | sleepEnabled flag => rfl
    | mouseSensitivity percent atLeast atMost =>
        have found := inRange?_eq_some_iff.mpr ⟨atLeast, atMost, rfl⟩
        exact required_eq_ok_iff.mpr (Option.map_eq_some_iff.mpr ⟨percent, found, rfl⟩)

theorem fault_of_apply {settings : Settings} {key : String} {value : SettingValue} {fault : Fault}
    (refused : settings.apply key value = .error fault) :
    (known key ∧ fault = .invalidSetting) ∨ (¬known key ∧ fault = .unknownSetting) := by
  unfold apply at refused
  split at refused
  · rename_i own
    exact Or.inl ⟨Or.inl own, (required_eq_error_iff.mp refused).2⟩
  · rename_i notTimeout
    split at refused
    · rename_i own
      exact Or.inl ⟨Or.inr (Or.inl own), (required_eq_error_iff.mp refused).2⟩
    · rename_i notEnabled
      split at refused
      · rename_i own
        exact Or.inl ⟨Or.inr (Or.inr own), (required_eq_error_iff.mp refused).2⟩
      · rename_i notSensitivity
        refine Or.inr ⟨?_, (Except.error.inj refused).symm⟩
        intro isKnown
        rcases isKnown with timeout | enabled | sensitivity
        · exact notTimeout timeout
        · exact notEnabled enabled
        · exact notSensitivity sensitivity

end HidBridge.Settings
