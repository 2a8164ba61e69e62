/-
Capacities and waiting times of the bridge. Capacities count bytes, bits or
entries. Waiting times are in milliseconds; instants and durations elsewhere in
the library are in microseconds.
-/

namespace HidBridge.Limits

/-- Longest report payload, without the byte that names the report. -/
abbrev reportBytes : Nat := 64

abbrev reportBits : Nat := reportBytes * 8

abbrev reportFields : Nat := 48

/-- Report layouts of one interface, both directions counted together. -/
abbrev layoutsPerInterface : Nat := 8

abbrev interfaces : Nat := 4

/-- Open collections that are remembered; deeper ones are only counted. -/
abbrev collectionDepth : Nat := 8

abbrev usages : Nat := reportFields

/-- Widest unit of data that can be read as a number. -/
abbrev readableBits : Nat := 32

abbrev queueDepth : Nat := 4

abbrev summaries : Nat := interfaces * layoutsPerInterface

abbrev enqueueWait : Nat := 100

abbrev timerLockWait : Nat := 250

abbrev lockWait : Nat := 25

abbrev millisecond : Nat := 1000

abbrev second : Nat := 1000 * millisecond

abbrev maxUInt8 : Nat := 0xFF

abbrev maxUInt16 : Nat := 0xFFFF

abbrev maxUInt32 : Nat := 0xFFFFFFFF

abbrev maxInstant : Nat := 0xFFFFFFFFFFFFFFFF

/-- Longest duration that can be given in microseconds. It is rounded up to whole
ticks of the clock, for which one more microsecond must still be countable. -/
abbrev maxDuration : Nat := maxInstant - 1

end HidBridge.Limits
