import Mathlib.Data.List.DropRight
import CamDriver.Lib.Machine
import CamDriver.Uvc.Header

/-!
# CamDriver.Uvc.Assembler

The frame assembly state machine of `UvcFrameExtractor`: `_finalize`, `_feed`,
`_begin`, and the poisoning that every lost payload is meant to cause.

A frame is being assembled (`accum`), or the extractor waits for one after an
EOF (`await`), or it skips the rest of a poisoned one (`skip`).  A frame ends
at its EOF bit or, when that payload was lost, at the toggle of the frame-ID
bit.  The capture walk drives the assembler with `AsmOp`s; `feed` is the only
one that completes frames.
-/

namespace CamDriver.Uvc

/-- What the extractor was configured with; `maxPayload` 0 is "unknown". -/
structure UvcConfig where
  expectedSize : Option Nat
  mjpeg : Bool
  maxPayload : Nat
  strict : Bool
deriving DecidableEq, Repr

/-- A yielded frame: its timestamp and its bytes. -/
abbrev UvcFrame := Int × List UInt8

inductive AsmPhase where
  | accum | await | skip
deriving DecidableEq, Repr

/-- The part of `ExtractorStats` the assembler counts; `sizesSeen` lists the
wrong sizes in the order they were observed. -/
structure AsmStats where
  framesOk : Nat
  errFrames : Nat
  truncated : Nat
  badHeader : Nat
  trailing : Nat
  sizeDrops : Nat
  sizesSeen : List Nat
deriving DecidableEq, Repr

/-- `fid` is the current frame's ID bit, or the last finished one's. -/
structure Assembler where
  phase : AsmPhase
  fid : Option Bool
  buf : List UInt8
  startTs : Int
  stats : AsmStats
deriving DecidableEq, Repr

namespace Assembler

/-- `_reset`. -/
def reset : Assembler :=
  { phase := .await, fid := none, buf := [], startTs := 0,
    stats := { framesOk := 0, errFrames := 0, truncated := 0, badHeader := 0, trailing := 0,
               sizeDrops := 0, sizesSeen := [] } }

/-- `bytes.rstrip(b"\x00")`. -/
def rstripZeros (bs : List UInt8) : List UInt8 := bs.rdropWhile (· == 0)

def noteOk (s : Assembler) : Assembler :=
  { s with stats := { s.stats with framesOk := s.stats.framesOk + 1 } }

def noteSizeDrop (s : Assembler) (size : Nat) : Assembler :=
  { s with stats := { s.stats with
      sizeDrops := s.stats.sizeDrops + 1, sizesSeen := s.stats.sizesSeen ++ [size] } }

def noteErr (s : Assembler) : Assembler :=
  { s with stats := { s.stats with errFrames := s.stats.errFrames + 1 } }

def noteBadHeader (s : Assembler) : Assembler :=
  { s with stats := { s.stats with badHeader := s.stats.badHeader + 1 } }

def noteTrailing (s : Assembler) : Assembler :=
  { s with stats := { s.stats with trailing := s.stats.trailing + 1 } }

def noteTruncated (s : Assembler) : Assembler :=
  { s with stats := { s.stats with truncated := s.stats.truncated + 1 } }

/-- Give the current frame up: nothing of it is kept, the rest is skipped. -/
def dropFrame (s : Assembler) : Assembler := { s with buf := [], phase := .skip }

/-- `if self._state == _ACCUM`: poison the frame being assembled, if there is one. -/
def poison (s : Assembler) : Assembler := if s.phase = .accum then s.dropFrame else s

/-- `_finalize`: emit the assembled bytes if they validate.  A raw frame is
checked against the expected size, a JPEG for its SOI and EOI markers. -/
def finalize (cfg : UvcConfig) (s : Assembler) : Assembler × List UvcFrame :=
  let cleared := { s with buf := [] }
  if cfg.mjpeg then
    let trimmed := rstripZeros s.buf
    if [0xff, 0xd8] <+: trimmed ∧ [0xff, 0xd9] <:+ trimmed then
      (cleared.noteOk, [(s.startTs, trimmed)])
    else (cleared.noteSizeDrop trimmed.length, [])
  else if cfg.expectedSize = none ∨ cfg.expectedSize = some s.buf.length then
    (cleared.noteOk, [(s.startTs, s.buf)])
  else (cleared.noteSizeDrop s.buf.length, [])

/-- `_begin`. -/
def begin (s : Assembler) (fid : Bool) (ts : Int) : Assembler :=
  { s with phase := .accum, fid := some fid, startTs := ts, buf := [] }

/-- The frame boundary of a lost EOF: the toggle finalizes the old frame and
starts the new one. -/
def toggle (cfg : UvcConfig) (s : Assembler) (fid : Bool) (ts : Int) :
    Assembler × List UvcFrame :=
  if s.fid = some fid then (s, [])
  else
    let r := s.finalize cfg
    (r.1.begin fid ts, r.2)

/-- The `ACCUM` part of `_feed`, for a payload with header bits `info`. -/
def accumulate (cfg : UvcConfig) (s : Assembler) (info : UInt8) (data : List UInt8) (ts : Int) :
    Assembler × List UvcFrame :=
  if errBit info then (s.noteErr.dropFrame, [])
  else
    let r := s.toggle cfg (fidBit info) ts
    let grown := { r.1 with buf := r.1.buf ++ data }
    if eofBit info then
      let f := grown.finalize cfg
      ({ f.1 with phase := .await }, r.2 ++ f.2)
    else (grown, r.2)

/-- `_feed` behind the header parse: a payload with header bits `info`. -/
def feedData (cfg : UvcConfig) (s : Assembler) (info : UInt8) (data : List UInt8) (ts : Int) :
    Assembler × List UvcFrame :=
  match s.phase with
  | .await =>
    -- a data payload with the finished FID is a new frame: the one between was lost
    if s.fid = some (fidBit info) ∧ data = [] then (s.noteTrailing, [])
    else (s.begin (fidBit info) ts).accumulate cfg info data ts
  | .skip =>
    if s.fid = some (fidBit info) then (s, [])
    else (s.begin (fidBit info) ts).accumulate cfg info data ts
  | .accum => s.accumulate cfg info data ts

/-- `_feed`: one complete UVC payload. -/
def feed (cfg : UvcConfig) (s : Assembler) (payload : List UInt8) (ts : Int) :
    Assembler × List UvcFrame :=
  match parseUvcHeader cfg.strict payload with
  | none => (s.noteBadHeader.poison, [])
  | some (hlen, info) => s.feedData cfg info (payload.drop hlen) ts

end Assembler

/-- What the capture walk does to the assembler. -/
inductive AsmOp where
  /-- a complete payload, with the time of the URB that carried its first byte -/
  | feed (payload : List UInt8) (ts : Int)
  /-- a lost packet or a URB with missing bytes: count it and poison -/
  | lost
  /-- a payload that outgrew the assembly bound: count it, leave the frame alone -/
  | overrun
deriving DecidableEq, Repr

/-- Apply one operation. -/
def asmStep (cfg : UvcConfig) (s : Assembler) : AsmOp → Assembler × List UvcFrame
  | .feed payload ts => s.feed cfg payload ts
  | .lost => (s.noteTruncated.poison, [])
  | .overrun => (s.noteTruncated, [])

/-- The frames a list of operations yields, in order. -/
def asmFrames (cfg : UvcConfig) (s : Assembler) (ops : List AsmOp) : List UvcFrame :=
  (Machine.history (asmStep cfg) s ops).flatMap Prod.snd

/-- The assembler after a list of operations. -/
def asmFinal (cfg : UvcConfig) (s : Assembler) (ops : List AsmOp) : Assembler :=
  Machine.final (asmStep cfg) s ops

/-! ## Lists of operations -/

@[simp] theorem asmFrames_nil (cfg : UvcConfig) (s : Assembler) : asmFrames cfg s [] = [] := rfl

@[simp] theorem asmFinal_nil (cfg : UvcConfig) (s : Assembler) : asmFinal cfg s [] = s := rfl

/-- The frames of a run are those of its first operation and those of the rest. -/
theorem asmFrames_cons (cfg : UvcConfig) (s : Assembler) (op : AsmOp) (ops : List AsmOp) :
    asmFrames cfg s (op :: ops) =
      (asmStep cfg s op).2 ++ asmFrames cfg (asmStep cfg s op).1 ops := by
  simp [asmFrames, Machine.history]

theorem asmFinal_cons (cfg : UvcConfig) (s : Assembler) (op : AsmOp) (ops : List AsmOp) :
    asmFinal cfg s (op :: ops) = asmFinal cfg (asmStep cfg s op).1 ops := rfl

/-- The frames of two runs, one behind the other. -/
theorem asmFrames_append (cfg : UvcConfig) (s : Assembler) (ops ops' : List AsmOp) :
    asmFrames cfg s (ops ++ ops') =
      asmFrames cfg s ops ++ asmFrames cfg (asmFinal cfg s ops) ops' := by
  simp [asmFrames, asmFinal, Machine.history_append]

/-- The state behind two runs. -/
theorem asmFinal_append (cfg : UvcConfig) (s : Assembler) (ops ops' : List AsmOp) :
    asmFinal cfg s (ops ++ ops') = asmFinal cfg (asmFinal cfg s ops) ops' :=
  Machine.final_append _ _ _ _

end CamDriver.Uvc
