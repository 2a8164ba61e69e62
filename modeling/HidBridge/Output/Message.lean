/-
What the radio sends: a keyboard report or a mouse report, and its bytes.

A keyboard report has a bit for each modifier key and six places for the codes of
other keys, in the order in which they were pressed. A mouse report has movement in
two directions of sixteen bits each, two wheels of eight bits each, and a bit for
each of five buttons.
-/

import HidBridge.Bits

namespace HidBridge.Output

structure Keyboard where
  /-- Bit `k` stands for the modifier of usage `0xE0 + k`. -/
  modifiers : Nat
  reserved : Nat
  held : List Nat
  deriving DecidableEq

namespace Keyboard

abbrev places : Nat := 6

abbrev size : Nat := 8

def firstModifier : Nat := 0xE0

def lastModifier : Nat := 0xE7

def empty : Keyboard := { modifiers := 0, reserved := 0, held := [] }

/-- Presses a usage of the keyboard page and says whether the report could take
it. Usage zero is no key, and a key that is held is not placed again. -/
def press (keyboard : Keyboard) (usage : Nat) : Bool × Keyboard :=
  if firstModifier ≤ usage ∧ usage ≤ lastModifier then
    (true,
      { keyboard with modifiers := keyboard.modifiers ||| 1 <<< (usage - firstModifier) })
  else if Limits.maxUInt8 < usage then (false, keyboard)
  else if usage = 0 ∨ usage ∈ keyboard.held then (true, keyboard)
  else if keyboard.held.length < places then
    (true, { keyboard with held := keyboard.held ++ [usage] })
  else (false, keyboard)

def pressAll (keyboard : Keyboard) (usages : List Nat) : Keyboard :=
  usages.foldl (fun pressed usage => (pressed.press usage).2) keyboard

/-- The six places, the free ones zero. -/
def keys (keyboard : Keyboard) : List Nat :=
  keyboard.held ++ List.replicate (places - keyboard.held.length) 0

theorem length_keys (keyboard : Keyboard) (fits : keyboard.held.length ≤ places) :
    keyboard.keys.length = places := by
  rw [keys, List.length_append, List.length_replicate]
  omega

def isEmpty (keyboard : Keyboard) : Bool :=
  keyboard.modifiers == 0 && keyboard.keys.all (fun key => key == 0)

def encode (keyboard : Keyboard) : List UInt8 :=
  UInt8.ofNat keyboard.modifiers :: UInt8.ofNat keyboard.reserved ::
    keyboard.keys.map UInt8.ofNat

theorem length_encode (keyboard : Keyboard) (fits : keyboard.held.length ≤ places) :
    keyboard.encode.length = size := by
  rw [encode, List.length_cons, List.length_cons, List.length_map, length_keys keyboard fits]

end Keyboard

structure Mouse where
  /-- Bit `k` stands for button `k + 1`. -/
  buttons : Nat
  x : Int
  y : Int
  wheel : Int
  pan : Int
  deriving DecidableEq

namespace Mouse

abbrev buttonCount : Nat := 5

abbrev size : Nat := 7

def empty : Mouse := { buttons := 0, x := 0, y := 0, wheel := 0, pan := 0 }

/-- Presses a button. Buttons that the report does not have are ignored. -/
def press (mouse : Mouse) (button : Nat) : Mouse :=
  if 1 ≤ button ∧ button ≤ buttonCount then
    { mouse with buttons := mouse.buttons ||| 1 <<< (button - 1) }
  else mouse

def pressAll (mouse : Mouse) (buttons : List Nat) : Mouse := buttons.foldl press mouse

def clamp (low high number : Int) : Int := max low (min high number)

def clampAxis (number : Int) : Int := clamp (-32768) 32767 number

/-- Wheels reach equally far in both directions. -/
def clampWheel (number : Int) : Int := clamp (-127) 127 number

def isIdle (mouse : Mouse) : Bool :=
  mouse.buttons == 0 && mouse.x == 0 && mouse.y == 0 && mouse.wheel == 0 && mouse.pan == 0

def encode (mouse : Mouse) : List UInt8 :=
  Words.toBytes 2 (Words.unsigned 16 mouse.x) ++ Words.toBytes 2 (Words.unsigned 16 mouse.y) ++
    [UInt8.ofNat (Words.unsigned 8 mouse.wheel), UInt8.ofNat (Words.unsigned 8 mouse.pan),
      UInt8.ofNat mouse.buttons]

theorem length_encode (mouse : Mouse) : mouse.encode.length = size := by
  rw [encode, List.length_append, List.length_append, Words.length_toBytes,
    Words.length_toBytes]
  rfl

end Mouse

inductive Message where
  | keyboard (report : Keyboard)
  | mouse (report : Mouse)
  deriving DecidableEq

def Message.encode : Message → List UInt8
  | .keyboard report => report.encode
  | .mouse report => report.encode

/-- Writes bytes to the front of a buffer and counts them. A buffer that is too
short stays as it is. -/
def write (bytes buffer : List UInt8) : Nat × List UInt8 :=
  if buffer.length < bytes.length then (0, buffer)
  else (bytes.length, bytes ++ buffer.drop bytes.length)

end HidBridge.Output
