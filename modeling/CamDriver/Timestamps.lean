/-!
# CamDriver.Timestamps

The per-frame stamp every source attaches to a frame, and the provenance of
its timestamp.  Python integers are unbounded, so every field is an `Int`.
-/

namespace CamDriver

/-- Which source produced a stamp's `timestampNs`. -/
inductive TimestampSource where
  | ptpChunk | camera | sof | rtpNtp | system
deriving DecidableEq, Repr

/-- The string a provenance is written as (`TimestampSource.value`). -/
def TimestampSource.value : TimestampSource → String
  | .ptpChunk => "ptp_chunk"
  | .camera => "camera"
  | .sof => "sof"
  | .rtpNtp => "rtp_ntp"
  | .system => "system"

/-- `TimestampSource(value)`: the provenance a string names, if any. -/
def TimestampSource.ofValue (s : String) : Option TimestampSource :=
  if s = "ptp_chunk" then some .ptpChunk
  else if s = "camera" then some .camera
  else if s = "sof" then some .sof
  else if s = "rtp_ntp" then some .rtpNtp
  else if s = "system" then some .system
  else none

@[simp] theorem TimestampSource.ofValue_value (src : TimestampSource) :
    TimestampSource.ofValue src.value = some src := by
  cases src <;> decide

/-- One frame's identity and clocks. -/
structure FrameStamp where
  frameId : Int
  timestampNs : Int
  source : TimestampSource
  systemNs : Int
  cameraNs : Int
  chunkNs : Option Int
deriving DecidableEq, Repr

/-- A frame stamped with one number in every field. -/
def plainStamp (n : Int) : FrameStamp :=
  { frameId := n, timestampNs := n, source := .system, systemNs := n, cameraNs := n,
    chunkNs := none }

end CamDriver
