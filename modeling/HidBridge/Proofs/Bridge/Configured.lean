/-
The settings of a bridge lie in three places: the settings themselves, the lifecycle and
the sensitivity. They say the same in every world that runs pass through, also inside a
call of the radio, where changes are refused.
-/

import HidBridge.Proofs.Bridge.Lasting
import HidBridge.Proofs.Bridge.Sending
import HidBridge.Proofs.Settings

namespace HidBridge

/-- What is derived from the settings is what they say now. -/
structure Bridge.Configured (bridge : Bridge) : Prop where
  timeout : bridge.lifecycle.timeout = bridge.settings.quietTime
  sleepEnabled : bridge.lifecycle.sleepEnabled = bridge.settings.sleepEnabled
  sensitivity : bridge.sensitivity = bridge.settings.mouseSensitivity

theorem Bridge.Configured.follows {before after : Bridge} (configured : before.Configured)
    (lifecycle : before.lifecycle.Follows after.lifecycle)
    (sensitivity : after.sensitivity = before.sensitivity)
    (settings : after.settings = before.settings) : after.Configured where
  timeout := by rw [lifecycle.timeout, settings, configured.timeout]
  sleepEnabled := by rw [lifecycle.sleepEnabled, settings, configured.sleepEnabled]
  sensitivity := by rw [sensitivity, settings, configured.sensitivity]

namespace World

structure Configured (world : World) : Prop where
  now : world.bridge.Configured
  noted : ∀ noted, noted ∈ world.nested → noted.bridge.Configured

namespace Configured

theorem follows {before after : World} (configured : before.Configured)
    (lifecycle : before.bridge.lifecycle.Follows after.bridge.lifecycle)
    (sensitivity : after.bridge.sensitivity = before.bridge.sensitivity)
    (settings : after.bridge.settings = before.bridge.settings)
    (nested : after.nested = before.nested) : after.Configured where
  now := configured.now.follows lifecycle sensitivity settings
  noted := by
    rw [nested]
    exact configured.noted

theorem beside {before after : World} (same : after.core = before.core)
    (configured : before.Configured) : after.Configured := by
  have lifecycle : after.bridge.lifecycle = before.bridge.lifecycle := congrArg Core.lifecycle same
  refine configured.follows ?_ (congrArg Core.sensitivity same) (congrArg Core.settings same)
    (congrArg Core.nested same)
  rw [lifecycle]
  exact .refl _

variable {world : World} (configured : world.Configured)

include configured

theorem note (step : Step) (answer : Answer) : (world.note step answer).Configured where
  now := configured.now
  noted := noted_note configured.noted step answer configured.now

theorem timerRead : world.timerRead.Configured := by
  unfold World.timerRead
  split <;> exact configured.follows (.refl _) rfl rfl rfl

theorem timerHear : world.timerHear.Configured := by
  unfold World.timerHear
  split
  · exact timerRead (configured.follows (.refl _) rfl rfl rfl)
  · exact configured

end Configured

theorem lasting_configured : Lasting Configured where
  follows := fun configured lifecycle same =>
    configured.follows lifecycle (congrArg Surroundings.sensitivity same)
      (congrArg Surroundings.settings same) (congrArg Surroundings.nested same)
  note := fun step answer configured => configured.note step answer
  forget := fun configured =>
    { now := configured.now, noted := fun _noted member => nomatch member }
  setTimer := fun _stage _notWaiting configured => configured.follows (.refl _) rfl rfl rfl
  timerRead := Configured.timerRead
  timerHear := Configured.timerHear
  armDeadline := fun _asOf configured =>
    { now := ⟨configured.now.timeout, configured.now.sleepEnabled, configured.now.sensitivity⟩
      noted := configured.noted }
  adopt := fun _accepted configured =>
    { now := ⟨rfl, rfl, rfl⟩
      noted := configured.noted }

theorem Visited.configured {world : World} (visited : world.Visited) : world.Configured :=
  lasting_configured.visited
    (fun _settings _depth =>
      { now := ⟨rfl, rfl, rfl⟩, noted := fun _noted member => nomatch member })
    Configured.beside visited

/-- One setting is changed, and nothing outside the settings. -/
structure Adopts (world : World) (key : String) (value : SettingValue) (next : World) : Prop where
  sets : world.bridge.settings.Sets key value next.bridge.settings
  deadline : next.bridge.lifecycle.deadline = world.bridge.lifecycle.deadline
  activity : next.bridge.lifecycle.activity = world.bridge.lifecycle.activity
  rest : next =
    { world with
      bridge :=
        { world.bridge with
          lifecycle := next.bridge.lifecycle
          sensitivity := next.bridge.sensitivity
          settings := next.bridge.settings } }

theorem apply_cases (world : World) (key : String) (value : SettingValue) :
    (world.bridge.locked = false ∧ (world.apply key value).1 = .ok () ∧
      world.Adopts key value (world.apply key value).2) ∨
    ∃ fault waited, world.apply key value = (.error fault, world.wait waited) ∧
      (world.bridge.settings.apply key value = .error fault ∨
        (world.bridge.locked = true ∧ fault = .lockTimeout)) := by
  unfold World.apply
  cases accepted : world.bridge.settings.apply key value with
  | error fault => exact Or.inr ⟨fault, 0, rfl, Or.inl rfl⟩
  | ok changed =>
      simp only [World.underLock]
      cases locked : world.bridge.locked with
      | true => exact Or.inr ⟨.lockTimeout, _, rfl, Or.inr ⟨rfl, rfl⟩⟩
      | false =>
          have sets := Settings.apply_eq_ok_iff.mp accepted
          exact Or.inl ⟨rfl, rfl, { sets, deadline := rfl, activity := rfl, rest := rfl }⟩

theorem apply_eq_ok_iff {world : World} {key : String} {value : SettingValue} :
    (world.apply key value).1 = .ok () ↔
      world.bridge.locked = false ∧ ∃ changed, world.bridge.settings.Sets key value changed := by
  rcases world.apply_cases key value with
    ⟨free, accepted, adopts⟩ | ⟨fault, waited, refused, invalid | ⟨locked, _same⟩⟩
  · exact ⟨fun _ok => ⟨free, _, adopts.sets⟩, fun _both => accepted⟩
  · rw [refused]
    constructor
    · exact nofun
    · intro ⟨_free, changed, sets⟩
      cases invalid.symm.trans (Settings.apply_eq_ok_iff.mpr sets)
  · rw [refused]
    constructor
    · exact nofun
    · intro ⟨free, _sets⟩
      cases locked.symm.trans free

/-- In every world that runs pass through, the lifecycle goes by the settings, reports are
converted with the sensitivity in them, and so it is after any change. A change that is
refused leaves the bridge as it was. One that is accepted changes the setting under its
key and leaves the deadline armed as it was. -/
theorem Visited.settings_agree {world : World} (visited : world.Visited) :
    world.bridge.Configured ∧
    (∀ noted, noted ∈ world.nested → noted.bridge.Configured) ∧
    (∀ owner report, (world.convert owner report).1 =
      ({ world.converterOf owner with
        sensitivity := world.bridge.settings.mouseSensitivity }.convert
          world.bridge.intake.table.lookup report).1) ∧
    ∀ key value,
      (world.apply key value).2.bridge.Configured ∧
      ((world.apply key value).1 = .ok () ↔
        world.bridge.locked = false ∧
          ∃ changed, world.bridge.settings.Sets key value changed) ∧
      ((world.apply key value).1 = .ok () →
        world.Adopts key value (world.apply key value).2) ∧
      ∀ fault, (world.apply key value).1 = .error fault →
        (world.apply key value).2.bridge = world.bridge ∧
          ((Settings.known key ∧ fault = .invalidSetting) ∨
            (¬Settings.known key ∧ fault = .unknownSetting) ∨
            (world.bridge.locked = true ∧ fault = .lockTimeout)) := by
  have configured := visited.configured
  refine ⟨configured.now, configured.noted, ?_, ?_⟩
  · intro owner report
    rw [← configured.now.sensitivity]
    rfl
  · intro key value
    have after : (world.apply key value).2.Configured :=
      (lasting_configured.primitives.apply visited.coherent key value).frame.extra configured
    refine ⟨after.now, apply_eq_ok_iff, ?_, ?_⟩
    · intro ok
      rcases world.apply_cases key value with
        ⟨_free, _accepted, adopts⟩ | ⟨fault, waited, refused, _why⟩
      · exact adopts
      · rw [refused] at ok
        cases ok
    · intro fault error
      rcases world.apply_cases key value with
        ⟨_free, accepted, _adopts⟩ | ⟨cause, waited, refused, why⟩
      · cases error.symm.trans accepted
      · rw [refused] at error ⊢
        rw [← Except.error.inj error]
        refine ⟨rfl, ?_⟩
        rcases why with invalid | busy
        · rcases Settings.fault_of_apply invalid with known | unknown
          · exact Or.inl known
          · exact Or.inr (Or.inl unknown)
        · exact Or.inr (Or.inr busy)

def plugged : World := ((new .default 4).take (interlude 0) (.connect 1 [])).2

theorem waking_settings_agree :
    (waking.Visited ∧
      (waking.apply Settings.mouseSensitivityKey (.int 300)).1 = .error .lockTimeout ∧
      (waking.apply Settings.mouseSensitivityKey (.int 300)).2.bridge = waking.bridge) ∧
    plugged.Visited ∧
      (plugged.apply Settings.sleepTimeoutKey (.int 5)).2.bridge.lifecycle.deadline =
        some Settings.default.quietTime ∧
      (plugged.apply Settings.sleepTimeoutKey (.int 5)).2.bridge.lifecycle.timeout =
        5 * Limits.second := by
  have inside : waking.Visited :=
    .bringingUp (by decide +kernel) (by decide +kernel) asleep_visited
  have outside : plugged.Visited := .take 0 _ (.new .default 4)
  have busy : (waking.apply Settings.mouseSensitivityKey (.int 300)).1 = .error .lockTimeout := by
    decide +kernel
  have accepted : (plugged.apply Settings.sleepTimeoutKey (.int 5)).1 = .ok () := by
    decide +kernel
  have stored : (plugged.apply Settings.sleepTimeoutKey (.int 5)).2.bridge.settings.quietTime =
      5 * Limits.second := by decide +kernel
  obtain ⟨_now, _noted, _used, changes⟩ := inside.settings_agree
  obtain ⟨_agrees, _accepts, _adopts, refused⟩ := changes Settings.mouseSensitivityKey (.int 300)
  obtain ⟨_first, _later, _converted, updates⟩ := outside.settings_agree
  obtain ⟨agrees, _ok, adopts, _refused⟩ := updates Settings.sleepTimeoutKey (.int 5)
  refine ⟨⟨inside, busy, (refused .lockTimeout busy).1⟩, outside, ?_, ?_⟩
  · rw [(adopts accepted).deadline]
    decide +kernel
  · rw [agrees.timeout, stored]

end World

end HidBridge
