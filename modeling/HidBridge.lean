import HidBridge.Bridge.Run
import HidBridge.Output.Advertised
import HidBridge.Proofs.Bridge.Atomicity
import HidBridge.Proofs.Bridge.Configured
import HidBridge.Proofs.Bridge.Course
import HidBridge.Proofs.Bridge.Deadline
import HidBridge.Proofs.Bridge.Delivered
import HidBridge.Proofs.Bridge.Memory
import HidBridge.Proofs.Bridge.Quiet
import HidBridge.Proofs.Bridge.Rearming
import HidBridge.Proofs.Bridge.Sending
import HidBridge.Proofs.Bridge.Traffic
import HidBridge.Proofs.Intake.Origin
import HidBridge.Proofs.Layout.Exact
import HidBridge.Proofs.Layout.Truncation
import HidBridge.Proofs.Output.Keyboard
import HidBridge.Proofs.Output.Mouse
import HidBridge.Proofs.Sleep.History
import HidBridge.Proofs.Layout.Directions
import HidBridge.Proofs.Layout.Places
import HidBridge.Proofs.Bridge.Refusal
import HidBridge.Proofs.Bridge.Handling
import HidBridge.Proofs.Bridge.Returning
import HidBridge.Proofs.Bridge.Consuming
import HidBridge.Proofs.Extraction
import HidBridge.Proofs.Descriptor.Framing
import HidBridge.Proofs.Conversion.Elements
import HidBridge.Proofs.Conversion.SingleUsage
import HidBridge.Proofs.Conversion.Movement
import HidBridge.Proofs.Conversion.Padding
import HidBridge.Proofs.Conversion.Class
import HidBridge.Proofs.Output.Rollover
import HidBridge.Proofs.Intake.FiniteMap
import HidBridge.Proofs.Intake.Splitting
import HidBridge.Proofs.Conversion.Remembering
import HidBridge.Proofs.Bridge.Arming
import HidBridge.Proofs.Settings.Updates
import HidBridge.Proofs.Layout.Ignored
import HidBridge.Proofs.Layout.Remembered
import HidBridge.Proofs.Layout.Applications
