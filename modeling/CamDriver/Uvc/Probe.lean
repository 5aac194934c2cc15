import Mathlib.Data.Finset.Card
import Mathlib.Data.Finset.Option
import Mathlib.Data.List.MinMax
import Mathlib.Data.Rat.Floor
import CamDriver.Uvc.Extractor

/-!
# CamDriver.Uvc.Probe

`probe`: one pass over a capture that collects its IN streams, scores each of
them for UVC payload headers, and picks the busiest one with a good score;
`selectStream` and `iterFrames`, which extract that stream when nothing is
pinned.

The scoring pass has its own idea of where a payload starts: an isochronous
packet is one, and so is the buffer of every bulk URB.  The descriptors of an
enumeration, which only name a format for display, are not modelled.
-/

namespace CamDriver.Uvc

def xferIntr : Nat := 1
def xferCtrl : Nat := 2

/-! ## Scoring -/

/-- `_SCORE_SAMPLES`. -/
def scoreSamples : Nat := 200

/-- `_SCORE_FID_PAYLOADS`. -/
def scoreFidPayloads : Nat := 200000

/-- The FID of a block that starts with a sane header. -/
def blockFid (block : List UInt8) : Option Bool :=
  (parseUvcHeader false block).map fun header => fidBit header.2

/-- `_ScoreState`: how many blocks were sampled and how many of them start with
a header, how many were examined for the FID toggle, and the FIDs seen. -/
structure ScoreState where
  sampled : Nat
  plausibleCount : Nat
  seen : Nat
  fids : Finset Bool
deriving DecidableEq

namespace ScoreState

def init : ScoreState := { sampled := 0, plausibleCount := 0, seen := 0, fids := ∅ }

/-- `_settled`. -/
def Settled (s : ScoreState) : Prop := scoreSamples ≤ s.sampled ∧ 1 < s.fids.card

instance (s : ScoreState) : Decidable s.Settled := inferInstanceAs (Decidable (_ ∧ _))

/-- `feed`. -/
def feed (s : ScoreState) (block : List UInt8) : ScoreState :=
  if block = [] ∨ s.Settled ∨ scoreFidPayloads ≤ s.seen then s
  else
    let sampling := s.sampled < scoreSamples
    { sampled := if sampling then s.sampled + 1 else s.sampled,
      plausibleCount :=
        if sampling ∧ (blockFid block).isSome then s.plausibleCount + 1 else s.plausibleCount,
      seen := s.seen + 1,
      fids := s.fids ∪ (blockFid block).toFinset }

/-- `score`: the share of sampled blocks with a header, halved while only one
FID was seen. -/
def score (s : ScoreState) : ℚ :=
  if s.sampled = 0 then 0
  else
    let frac : ℚ := s.plausibleCount / s.sampled
    if 1 < s.fids.card then frac else frac * (1 / 2)

end ScoreState

/-! ## Streams -/

/-- The key of `stats` and `scores`. -/
structure StreamKey where
  bus : Nat
  dev : Nat
  ep : Nat
  xfer : Nat
deriving DecidableEq, Repr

namespace StreamKey

def endpoint (k : StreamKey) : Endpoint := { bus := k.bus, dev := k.dev, ep := k.ep }

/-- A stream that can carry video. -/
def Video (k : StreamKey) : Prop := k.xfer = xferIso ∨ k.xfer = xferBulk

instance (k : StreamKey) : Decidable k.Video := inferInstanceAs (Decidable (_ ∨ _))

end StreamKey

/-- What the pass counts for one stream. -/
structure StreamStats where
  key : StreamKey
  urbs : Nat
  payloadBytes : Nat
  score : ScoreState
deriving DecidableEq

namespace StreamStats

def new (key : StreamKey) : StreamStats := { key, urbs := 0, payloadBytes := 0, score := .init }

/-- A completion with its data blocks; interrupt streams are not scored. -/
def add (s : StreamStats) (blocks : List (List UInt8)) : StreamStats :=
  { s with
    urbs := s.urbs + 1,
    payloadBytes := s.payloadBytes + (blocks.map List.length).sum,
    score := if s.key.Video then blocks.foldl ScoreState.feed s.score else s.score }

@[simp] theorem key_add (s : StreamStats) (blocks : List (List UInt8)) :
    (s.add blocks).key = s.key := rfl

/-- The counts of a completion go to its stream, which is new the first time. -/
def note (key : StreamKey) (blocks : List (List UInt8)) : List StreamStats → List StreamStats
  | [] => [(new key).add blocks]
  | s :: stats => if s.key = key then s.add blocks :: stats else s :: note key blocks stats

end StreamStats

/-- `Negotiated`: the VS_PROBE/VS_COMMIT values of a device. -/
structure Negotiated where
  formatIndex : Nat
  frameIndex : Nat
  fps : Option ℚ
  maxVideoFrameSize : Nat
  maxPayloadSize : Nat
deriving DecidableEq, Repr

/-- The fields `_vs_ctrl` reads; `interval` is in units of 100 ns. -/
def readNegotiated (data : List UInt8) : Negotiated :=
  let nat := fun off width => Endian.little.decode (Bytes.field data off width)
  let interval := nat 4 4
  { formatIndex := nat 2 1, frameIndex := nat 3 1,
    fps := if interval = 0 then none else some (10000000 / interval),
    maxVideoFrameSize := nat 18 4, maxPayloadSize := nat 22 4 }

namespace Urb

def streamKey (u : Urb) : StreamKey := { bus := u.bus, dev := u.dev, ep := u.ep, xfer := u.xfer }

/-- The data blocks of a completion: the isochronous packets that are there, or
the captured buffer. -/
def blocks (e : Endian) (u : Urb) : List (List UInt8) :=
  if u.xfer = xferIso then
    (u.isoPayloads e).filterMap fun packet => if packet.2 then none else some packet.1
  else if u.hasData then [u.data]
  else []

/-- The completions that are counted. -/
def Counted (u : Urb) : Prop :=
  u.type = typeC ∧ u.isIn = true ∧ (u.xfer = xferIso ∨ u.xfer = xferBulk ∨ u.xfer = xferIntr)

instance (u : Urb) : Decidable u.Counted := inferInstanceAs (Decidable (_ ∧ _ ∧ _))

end Urb

/-! ## The pass -/

/-- The record of a packet. -/
def readUrb (settled : Option Endian) (p : Packet) : Option Urb :=
  if IsUsb p then (parse settled p.linktype p.ts p.record).2 else none

structure ProbeState where
  settled : Option Endian
  packets : Nat
  linktypes : List Nat
  firstTs : Option Int
  lastTs : Option Int
  pendingSetup : Nat × Nat → Option (List UInt8)
  negotiated : Nat × Nat → Option Negotiated
  committed : Nat × Nat → Option Negotiated
  stats : List StreamStats

namespace ProbeState

def init : ProbeState :=
  { settled := none, packets := 0, linktypes := [], firstTs := none, lastTs := none,
    pendingSetup := fun _ => none, negotiated := fun _ => none, committed := fun _ => none,
    stats := [] }

/-- `_vs_ctrl`: into `committed` or into `negotiated`. -/
def vsCtrl (s : ProbeState) (commit : Bool) (u : Urb) : ProbeState :=
  if u.data.length < 26 then s
  else
    let device := (u.bus, u.dev)
    let neg := some (readNegotiated u.data)
    if commit then { s with committed := Function.update s.committed device neg }
    else { s with negotiated := Function.update s.negotiated device neg }

/-- A control transfer: SET_CUR rides on its submission, the answer to GET_CUR
comes with the completion of the setup that asked for it. -/
def control (s : ProbeState) (u : Urb) : ProbeState :=
  let byte := fun (setup : List UInt8) i => (setup.getD i 0).toNat
  if u.type = typeS ∧ u.hasSetup then
    if byte u.setup 0 = 0x21 ∧ byte u.setup 1 = 0x01 ∧
        (byte u.setup 3 = 1 ∨ byte u.setup 3 = 2) ∧ u.hasData then
      s.vsCtrl (byte u.setup 3 = 2) u
    else if 128 ≤ byte u.setup 0 then
      { s with pendingSetup := Function.update s.pendingSetup u.key (some u.setup) }
    else s
  else if u.type = typeC ∧ u.hasData then
    match s.pendingSetup u.key with
    | none => s
    | some setup =>
      let s := { s with pendingSetup := Function.update s.pendingSetup u.key none }
      if byte setup 0 = 0xa1 ∧ byte setup 1 = 0x81 ∧ (byte setup 3 = 1 ∨ byte setup 3 = 2) then
        s.vsCtrl false u
      else s
  else s

/-- One usbmon record. -/
def record (s : ProbeState) (u : Urb) : ProbeState :=
  let s := { s with firstTs := s.firstTs.or (some u.ts), lastTs := some u.ts }
  if u.xfer = xferCtrl then s.control u
  else if u.Counted then
    { s with stats := StreamStats.note u.streamKey (u.blocks (s.settled.getD .little)) s.stats }
  else s

/-- One round of the loop over `iter_packets`. -/
def step (s : ProbeState) (p : Packet) : ProbeState :=
  let s' := { s with
    packets := s.packets + 1,
    linktypes := if p.linktype ∈ s.linktypes then s.linktypes else s.linktypes ++ [p.linktype],
    settled := settledAfter s.settled p }
  match readUrb s.settled p with
  | none => s'
  | some u => s'.record u

end ProbeState

/-! ## The result -/

structure StreamInfo where
  key : StreamKey
  urbs : Nat
  payloadBytes : Nat
  uvcScore : ℚ
  negotiated : Option Negotiated
deriving DecidableEq, Repr

structure ProbeResult where
  packets : Nat
  linktypes : List Nat
  durationNs : Int
  streams : List StreamInfo
  best : Option StreamInfo
deriving DecidableEq, Repr

/-- What `probe` and `select_stream` raise. -/
inductive ProbeError where
  | file (err : PcapError)
  | noUsbmon (seen : List Nat)
  | noMatch (bus dev ep : Option Nat) (streams : List StreamInfo)
  | noUvc (streams : List StreamInfo)
deriving DecidableEq, Repr

namespace ProbeState

def info (s : ProbeState) (stats : StreamStats) : StreamInfo :=
  let device := (stats.key.bus, stats.key.dev)
  { key := stats.key, urbs := stats.urbs, payloadBytes := stats.payloadBytes,
    uvcScore := stats.score.score, negotiated := (s.committed device).or (s.negotiated device) }

/-- The streams, busiest first. -/
def streams (s : ProbeState) : List StreamInfo :=
  (s.stats.map s.info).mergeSort fun a b => b.payloadBytes ≤ a.payloadBytes

def duration (s : ProbeState) : Int :=
  match s.firstTs, s.lastTs with
  | some t, some t' => t' - t
  | _, _ => 0

def result (s : ProbeState) : Except ProbeError ProbeResult :=
  if ∃ linktype ∈ s.linktypes, linktype = linktypeUsbmon64 ∨ linktype = linktypeUsbmon48 then
    .ok
      { packets := s.packets, linktypes := s.linktypes, durationNs := s.duration,
        streams := s.streams,
        best := s.streams.find? fun info => info.key.Video ∧ 9 / 10 ≤ info.uvcScore }
  else .error (.noUsbmon s.linktypes)

end ProbeState

/-- `probe`, given what `iter_packets` yields for the file.  A pass that stops
at `max_packets` does not get to the reader's error. -/
def probe (maxPackets : Option Nat) (file : Yielded) : Except ProbeError ProbeResult :=
  let final := fun ps => (List.foldl ProbeState.step .init ps).result
  match maxPackets.filter (· < file.1.length), file.2 with
  | some n, _ => final (file.1.take n)
  | none, some err => .error (.file err)
  | none, none => final file.1

/-! ## Selection -/

/-- A stream that agrees with the pins. -/
def StreamInfo.Matches (bus dev ep : Option Nat) (info : StreamInfo) : Prop :=
  info.key.Video ∧ (∀ b ∈ bus, info.key.bus = b) ∧ (∀ d ∈ dev, info.key.dev = d) ∧
    ∀ e ∈ ep, info.key.ep = e % 128

instance (bus dev ep : Option Nat) (info : StreamInfo) :
    Decidable (info.Matches bus dev ep) :=
  inferInstanceAs (Decidable (_ ∧ _ ∧ _ ∧ _))

/-- `select_stream`. -/
def selectStream (pr : ProbeResult) (bus dev ep : Option Nat) : Except ProbeError StreamInfo :=
  if bus = none ∧ dev = none ∧ ep = none then
    match pr.best with
    | some info => .ok info
    | none => .error (.noUvc pr.streams)
  else
    match (pr.streams.filter (·.Matches bus dev ep)).argmax StreamInfo.payloadBytes with
    | some info => .ok info
    | none => .error (.noMatch bus dev ep pr.streams)

/-- The payload size a stream negotiated, 0 if none is known. -/
def StreamInfo.maxPayload (info : StreamInfo) : Nat :=
  (info.negotiated.map Negotiated.maxPayloadSize).getD 0

/-- `iter_frames`: the frames, and what the reader raises behind them.  Without
all three pins a probe pass selects the stream. -/
def iterFrames (bus dev ep : Option Nat) (expectedSize : Option Nat) (mjpeg : Bool)
    (maxPayloadSize : Option Nat) (strict : Bool) (file : Yielded) :
    Except ProbeError (List UvcFrame × Option PcapError) :=
  let frames := fun pin maxPayload =>
    (extractFrames pin { expectedSize, mjpeg, maxPayload, strict } file.1, file.2)
  match bus, dev, ep with
  | some bus, some dev, some ep => .ok (frames { bus, dev, ep } (maxPayloadSize.getD 0))
  | _, _, _ => do
    let pr ← probe none file
    let best ← selectStream pr bus dev ep
    return frames best.key.endpoint (maxPayloadSize.getD best.maxPayload)

end CamDriver.Uvc
