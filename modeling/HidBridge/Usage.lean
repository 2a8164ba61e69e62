/-
Usages: what a field of a report stands for. A usage is a code on a page, and
the pages and codes named here are those that the bridge acts on.
-/

namespace HidBridge

structure Usage where
  page : Nat
  code : Nat
  deriving DecidableEq

inductive Page where
  | genericDesktop
  | keyboard
  | led
  | button
  | consumer
  | unknown (code : Nat)
  deriving DecidableEq

def Page.ofCode : Nat → Page
  | 0x01 => .genericDesktop
  | 0x07 => .keyboard
  | 0x08 => .led
  | 0x09 => .button
  | 0x0C => .consumer
  | code => .unknown code

inductive Desktop where
  | pointer
  | mouse
  | keyboard
  | keypad
  | x
  | y
  | wheel
  | unknown (code : Nat)
  deriving DecidableEq

def Desktop.ofCode : Nat → Desktop
  | 0x01 => .pointer
  | 0x02 => .mouse
  | 0x06 => .keyboard
  | 0x07 => .keypad
  | 0x30 => .x
  | 0x31 => .y
  | 0x38 => .wheel
  | code => .unknown code

/-- Horizontal scrolling, on the consumer page. -/
def Usage.acPan : Nat := 0x238

end HidBridge
