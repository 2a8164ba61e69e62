/-
What a host makes of the descriptor that it is shown: one layout for the mouse
report and one for the keyboard report, whichever interface it takes the
descriptor for.
-/

import HidBridge.Conversion.Compose
import HidBridge.Descriptor.Declarations
import HidBridge.Output.Advertised
import HidBridge.Output.Message

namespace HidBridge

namespace Interface

theorem declare_setId (interface : Interface) (id : InterfaceId) (declaration : Declaration) :
    Interface.declare { interface with id } declaration =
      { interface.declare declaration with id } := by
  unfold declare
  dsimp only
  split
  · rfl
  · split <;> rfl

theorem ofDescriptor_setId (id other : InterfaceId) (bytes : List UInt8) :
    ofDescriptor id bytes = { ofDescriptor other bytes with id } := by
  have kept (declarations : List Declaration) (interface : Interface) :
      declarations.foldl declare { interface with id } =
        { declarations.foldl declare interface with id } := by
    induction declarations generalizing interface with
    | nil => rfl
    | cons declaration rest ih =>
        rw [List.foldl_cons, List.foldl_cons, declare_setId, ih]
  exact kept _ (.empty other _)

theorem input?_ofDescriptor (id other : InterfaceId) (bytes : List UInt8)
    (reportId : ReportId) :
    (ofDescriptor id bytes).input? reportId = (ofDescriptor other bytes).input? reportId := by
  rw [ofDescriptor_setId id other]
  rfl

end Interface

namespace Output.Advertised

def unitField (page usage : Nat) (low high : Int) (isRelative : Bool)
    (offset width : Nat) : Field :=
  { page
    usage
    usageMaximum := usage
    unitSize := width
    unitCount := 1
    logicalMinimum := low
    logicalMaximum := high
    flags := { isConstant := false, isVariable := true, isRelative, isArray := false }
    offset
    width }

theorem usages_unitField (page usage : Nat) (low high : Int) (isRelative : Bool)
    (offset width : Nat) (payload : List UInt8) :
    ((unitField page usage low high isRelative offset width).sample payload).usages payload =
      if Bits.signed payload offset width ≠ 0 then [usage] else [] :=
  if_neg Bool.false_ne_true

def paddingField (page offset width : Nat) : Field :=
  { page
    usage := 0
    usageMaximum := 0
    unitSize := width
    unitCount := 1
    logicalMinimum := 0
    logicalMaximum := 0
    flags := .padding
    offset
    width }

def axisField (usage offset : Nat) : Field :=
  unitField 0x01 usage (-32768) 32767 true offset 16

def wheelField (page usage offset : Nat) : Field :=
  unitField page usage (-127) 127 true offset 8

def buttonField (bit : Nat) : Field := unitField 0x09 (bit + 1) 0 1 false (48 + bit) 1

def mouseLayout : Layout :=
  { reportId := mouseReportId
    direction := .input
    fields :=
      [axisField 0x30 0, axisField 0x31 16, wheelField 0x01 0x38 32,
        wheelField 0x0C Usage.acPan 40] ++
        (List.range Mouse.buttonCount).map buttonField ++ [paddingField 0x09 53 3]
    bits := 8 * Mouse.size
    application := some { page := 0x01, code := 0x02 } }

def modifierField (bit : Nat) : Field :=
  unitField 0x07 (Keyboard.firstModifier + bit) 0 1 false bit 1

abbrev lastKey : Nat := 0x65

def keysField : Field :=
  { page := 0x07
    usage := 0
    usageMaximum := lastKey
    unitSize := 8
    unitCount := Keyboard.places
    logicalMinimum := 0
    logicalMaximum := lastKey
    flags := { isConstant := false, isVariable := false, isRelative := false, isArray := true }
    offset := 16
    width := 48 }

def keyboardLayout : Layout :=
  { reportId := keyboardReportId
    direction := .input
    fields := (List.range 8).map modifierField ++ [paddingField 0x07 8 8, keysField]
    bits := 8 * Keyboard.size
    application := some { page := 0x01, code := 0x06 } }

theorem input?_mouse (id : InterfaceId) :
    (Interface.ofDescriptor id descriptor).input? mouseReportId = some mouseLayout := by
  rw [Interface.input?_ofDescriptor id 0]
  decide +kernel

theorem input?_keyboard (id : InterfaceId) :
    (Interface.ofDescriptor id descriptor).input? keyboardReportId = some keyboardLayout := by
  rw [Interface.input?_ofDescriptor id 0]
  decide +kernel

end Output.Advertised

end HidBridge
