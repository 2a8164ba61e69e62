/-
Settings of the bridge. Each has a key, a type of value and a range; a value that
does not fit is refused and changes nothing.
-/

import HidBridge.Fault
import HidBridge.Limits

namespace HidBridge

inductive SettingValue where
  | int (number : Int)
  | bool (flag : Bool)
  deriving DecidableEq

/-- Stored values, each under its key. Integers and flags are stored apart. -/
structure Store where
  ints : List (String × Int)
  bools : List (String × Bool)
  deriving DecidableEq

structure Settings where
  /-- Quiet time before the radio sleeps, in seconds. -/
  sleepTimeout : Nat
  sleepEnabled : Bool
  mouseSensitivity : Nat
  deriving DecidableEq

namespace Settings

def sleepTimeoutKey : String := "power.sleepTimeout"

def sleepEnabledKey : String := "power.enableSleep"

def mouseSensitivityKey : String := "mouse.sensitivity"

abbrev minSensitivity : Nat := 1

abbrev maxSensitivity : Nat := 1000

def default : Settings :=
  { sleepTimeout := 30, sleepEnabled := true, mouseSensitivity := 100 }

def inRange? (low high : Nat) (number : Int) : Option Nat :=
  if (low : Int) ≤ number ∧ number ≤ high then some number.toNat else none

def setSleepTimeout? (settings : Settings) : SettingValue → Option Settings
  | .int number =>
    (inRange? 1 Limits.maxUInt32 number).map (fun sleepTimeout => { settings with sleepTimeout })
  | .bool _ => none

def setSleepEnabled? (settings : Settings) : SettingValue → Option Settings
  | .int _ => none
  | .bool sleepEnabled => some { settings with sleepEnabled }

def setMouseSensitivity? (settings : Settings) : SettingValue → Option Settings
  | .int number =>
    (inRange? minSensitivity maxSensitivity number).map
      (fun mouseSensitivity => { settings with mouseSensitivity })
  | .bool _ => none

def required : Option Settings → Except Fault Settings
  | some settings => .ok settings
  | none => .error .invalidSetting

def apply (settings : Settings) (key : String) (value : SettingValue) : Except Fault Settings :=
  if key = sleepTimeoutKey then required (settings.setSleepTimeout? value)
  else if key = sleepEnabledKey then required (settings.setSleepEnabled? value)
  else if key = mouseSensitivityKey then required (settings.setMouseSensitivity? value)
  else .error .unknownSetting

def applyStored (settings : Settings) (key : String) : Option SettingValue → Settings
  | none => settings
  | some value =>
    match settings.apply key value with
    | .ok changed => changed
    | .error _ => settings

/-- The settings in a store, with the defaults for those that are missing there
or do not fit. -/
def load (store : Store) : Settings :=
  let int := fun key => (store.ints.lookup key).map SettingValue.int
  let bool := fun key => (store.bools.lookup key).map SettingValue.bool
  let timed := default.applyStored sleepTimeoutKey (int sleepTimeoutKey)
  let enabled := timed.applyStored sleepEnabledKey (bool sleepEnabledKey)
  enabled.applyStored mouseSensitivityKey (int mouseSensitivityKey)

/-- Quiet time before the radio sleeps, in microseconds. -/
def quietTime (settings : Settings) : Nat := settings.sleepTimeout * Limits.second

end Settings

end HidBridge
