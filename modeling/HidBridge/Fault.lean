/-
What can go wrong, by cause. A fault of the radio keeps its own cause; every
other fault carries no data. Each fault has one sentence for the user and one
short label for diagnostics.
-/

namespace HidBridge

inductive RadioFault where
  | code (number : Int)
  | initFailed
  | deinitFailed
  | notConnected
  deriving DecidableEq

def RadioFault.label : RadioFault → String
  | .code number => "Raw(" ++ toString number ++ ")"
  | .initFailed => "InitFailed"
  | .deinitFailed => "DeinitFailed"
  | .notConnected => "NotConnected"

inductive Fault where
  | unknownInterface
  | unknownReport
  | reportTooLong
  | interfaceTableFull
  | queueFull
  | fieldCountMismatch
  | staleReport
  | lockTimeout
  | radio (cause : RadioFault)
  | unknownSetting
  | invalidSetting
  deriving DecidableEq

namespace Fault

def message : Fault → String
  | .unknownInterface => "no report map for interface"
  | .unknownReport => "unknown report id"
  | .reportTooLong => "report exceeds 64 bytes"
  | .interfaceTableFull => "interface table full"
  | .queueFull => "report queue full"
  | .fieldCountMismatch => "field count mismatch"
  | .staleReport => "stale report map"
  | .lockTimeout => "lifecycle lock timeout"
  | .radio cause => "ble stack error: " ++ cause.label
  | .unknownSetting => "unknown setting"
  | .invalidSetting => "invalid setting value"

def kind : Fault → String
  | .unknownInterface => "UnknownInterface"
  | .unknownReport => "UnknownReport"
  | .reportTooLong => "ReportTooLong"
  | .interfaceTableFull => "InterfaceTableFull"
  | .queueFull => "QueueFull"
  | .fieldCountMismatch => "FieldCountMismatch"
  | .staleReport => "StaleReport"
  | .lockTimeout => "LockTimeout"
  | .radio _ => "Ble"
  | .unknownSetting => "UnknownSetting"
  | .invalidSetting => "InvalidSetting"

def label : Fault → String
  | .radio cause => kind (.radio cause) ++ "(" ++ cause.label ++ ")"
  | fault => fault.kind

end Fault

end HidBridge
