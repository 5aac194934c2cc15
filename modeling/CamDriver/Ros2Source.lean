import CamDriver.Formats
import CamDriver.Lib.Extremes
import CamDriver.Lib.Machine
import CamDriver.Text

/-!
# CamDriver.Ros2Source

The ROS 2 image source: `Feeder`, from a message to a frame on the socket, as it is or through
the convert pipeline.

The pipeline carries a stamp as a PTS over a base, the least stamp so far.  The base may sink
while a frame is in conversion, and the frame comes out as much too early:
`feederHolds_run` says by how much, for the messages and the streaming thread in any order.
-/

namespace CamDriver

/-! ## Formats: `framing.py` -/

/-- `ENCODINGS`: media type, GStreamer format or Bayer pattern, bytes per pixel. -/
def encodings : List (String × String × String × Option Nat) :=
  [("rgb8", "video/x-raw", "RGB", some 3), ("bgr8", "video/x-raw", "BGR", some 3),
    ("rgba8", "video/x-raw", "RGBA", some 4), ("bgra8", "video/x-raw", "BGRA", some 4),
    ("mono8", "video/x-raw", "GRAY8", some 1), ("8UC1", "video/x-raw", "GRAY8", some 1),
    ("mono16", "video/x-raw", "GRAY16_LE", some 2), ("16UC1", "video/x-raw", "GRAY16_LE", some 2),
    ("yuv422_yuy2", "video/x-raw", "YUY2", some 2), ("yuyv", "video/x-raw", "YUY2", some 2),
    ("yuv422", "video/x-raw", "UYVY", some 2), ("uyvy", "video/x-raw", "UYVY", some 2),
    ("nv12", "video/x-raw", "NV12", none), ("nv24", "video/x-raw", "NV24", none),
    ("bayer_rggb8", "video/x-bayer", "rggb", some 1),
    ("bayer_bggr8", "video/x-bayer", "bggr", some 1),
    ("bayer_gbrg8", "video/x-bayer", "gbrg", some 1),
    ("bayer_grbg8", "video/x-bayer", "grbg", some 1)]

/-- `Encoding`. -/
structure Encoding where
  encoding : String
  media : String
  format : String
  bytesPerPixel : Option Nat
deriving DecidableEq, Repr

namespace Encoding

def bayer (enc : Encoding) : Bool := enc.media = "video/x-bayer"

/-- `Encoding.__init__`; `none`: the encoding is not supported. -/
def new (encoding : String) (isBigendian : Bool) : Option Encoding :=
  let enc := String.ofList (strip encoding.toList)
  let entry := (encodings.lookup (String.ofList (enc.toList.map Char.toLower))).orElse
    fun _ => encodings.lookup enc
  entry.map fun (media, format, bytesPerPixel) =>
    { encoding := enc, media, bytesPerPixel
      format := if format = "GRAY16_LE" ∧ isBigendian then "GRAY16_BE" else format }

end Encoding

/-- `GST_RAW`. -/
def gstRaw : List String :=
  ["GRAY8", "GRAY16_LE", "GRAY16_BE", "I420", "NV12", "YUY2", "RGB", "BGR", "NV24", "YV12", "UYVY",
    "RGBA", "BGRA", "RGBx", "BGRx"]

/-- `frame_bytes`. -/
def frameBytes (gstFormat : String) (width height : Nat) : Nat :=
  let px := width * height
  if gstFormat ∈ ["GRAY16_LE", "GRAY16_BE"] then px * 2
  else if gstFormat ∈ ["I420", "NV12", "YV12"] then px * 3 / 2
  else if gstFormat ∈ ["YUY2", "UYVY"] then px * 2
  else if gstFormat ∈ ["NV24", "RGB", "BGR"] then px * 3
  else if gstFormat ∈ ["RGBA", "BGRA", "RGBx", "BGRx"] then px * 4
  else px

/-- `Pinned`. -/
structure Pinned where
  pixelFormat : String
  width : Nat
  height : Nat
  format : String
  bayer : Option CfaPattern
deriving DecidableEq, Repr

namespace Pinned

/-- `Pinned.__init__`; `none`: no such format can be pinned. -/
def new (pixelFormat : String) (width height : Nat) : Option Pinned :=
  let pf := String.ofList (strip (if pixelFormat = "" then "RGB" else pixelFormat).toList)
  let cfa := bayerMap (((pf.toList.drop 5).take 2).map Char.toUpper)
  if pf ∈ gstRaw then some { pixelFormat := pf, width, height, format := pf, bayer := none }
  else if "Bayer".toList <+: pf.toList ∧ 7 ≤ pf.toList.length ∧ cfa.isSome ∧
      "8".toList <:+ pf.toList then
    some { pixelFormat := pf, width, height, format := "GRAY8", bayer := cfa }
  else if "Mono".toList <+: pf.toList then
    some
      { pixelFormat := pf, width, height, bayer := none
        format := if isIn "16" pf || isIn "12" pf || isIn "10" pf then "GRAY16_LE" else "GRAY8" }
  else none

def bytes (p : Pinned) : Nat := frameBytes p.format p.width p.height

/-- `matches`: the bytes of the message are the pinned frame. -/
def fits (p : Pinned) (enc : Encoding) (width height : Nat) : Bool :=
  if (width, height) ≠ (p.width, p.height) then false
  else
    match p.bayer with
    | some pattern => enc.bayer && enc.format = pattern.name
    | none => !enc.bayer && enc.format = p.format

end Pinned

/-- `unpad_rows`. -/
def unpadRows (data : List UInt8) (step rowBytes height : Nat) : List UInt8 :=
  if step ≤ rowBytes ∨ rowBytes = 0 then data
  else (List.range height).flatMap fun r => (data.drop (r * step)).take rowBytes

/-! ## The feeder: `node.py` -/

/-- `sensor_msgs/Image`. -/
structure RosImage where
  encoding : String
  width : Nat
  height : Nat
  isBigendian : Bool
  step : Nat
  data : List UInt8
  stamp : Int
deriving DecidableEq, Repr

/-- `sensor_msgs/CompressedImage`. -/
structure RosCompressed where
  format : String
  data : List UInt8
  stamp : Int
deriving DecidableEq, Repr

/-- What a convert pipeline is built for. -/
inductive ConvertInput where
  | image (media format : String) (width height : Nat)
  | png
  | jpeg
deriving DecidableEq, Repr

/-- A message that got as far as a PTS: its stamp, and the bytes that were pushed on. -/
structure Handled where
  stamp : Int
  payload : List UInt8
  direct : Bool
deriving DecidableEq, Repr

/-- A buffer in the convert pipeline; `nth`: its message among those handled. -/
structure ConvertJob where
  pts : Int
  nth : Nat
deriving DecidableEq, Repr

/-- What `_on_converted` holds, between reading the base and `_emit`; `pulledAt`: how many
messages were handled by then. -/
structure PulledFrame where
  stamp : Int
  pixels : List UInt8
  nth : Nat
  pulledAt : Nat
deriving DecidableEq, Repr

/-- A frame of `_emit`. -/
structure FedFrame where
  frameId : Nat
  stamp : Int
  pts : Int
  pixels : List UInt8
  /-- the output took it -/
  taken : Bool
  direct : Bool
  nth : Nat
  pulledAt : Nat
  emittedAt : Nat
deriving DecidableEq, Repr

/-- `Feeder`. -/
structure Feeder where
  ptsBase : Int
  emitted : Nat
  dropped : Nat
  failed : Bool
  cvCaps : Option ConvertInput
  inFlight : List ConvertJob
  pulled : Option PulledFrame
  handled : List Handled
  out : List FedFrame
deriving DecidableEq, Repr

/-- `_rel_pts`: the PTS, and the base after it. -/
def relPts (ptsBase stamp : Int) : Int × Int :=
  let ptsBase := if ptsBase = 0 then stamp else ptsBase
  let ptsBase := if stamp < ptsBase then stamp else ptsBase
  (stamp - ptsBase, ptsBase)

namespace Feeder

def init : Feeder :=
  { ptsBase := 0, emitted := 0, dropped := 0, failed := false, cvCaps := none, inFlight := [],
    pulled := none, handled := [], out := [] }

/-- `_drop_once`, and the drop of an encoding that is not supported. -/
def drop (s : Feeder) : Feeder := { s with dropped := s.dropped + 1 }

/-- `_emit`; `taken`: the output returned OK. -/
def emit (s : Feeder) (stamp : Int) (pixels : List UInt8) (direct : Bool) (nth pulledAt : Nat)
    (taken : Bool) : Feeder :=
  let r := relPts s.ptsBase stamp
  { s with
    emitted := s.emitted + 1
    ptsBase := r.2
    dropped := if taken then s.dropped else s.dropped + 1
    out := s.out ++
      [{ frameId := s.emitted + 1, stamp, pts := r.1, pixels, taken, direct, nth, pulledAt,
         emittedAt := s.handled.length }] }

/-- `_ensure_convert`: a new pipeline takes nothing over from the old one. -/
def ensureConvert (s : Feeder) (caps : ConvertInput) : Feeder :=
  if s.cvCaps = some caps then s else { s with cvCaps := some caps, inFlight := [] }

/-- `_push_convert`. -/
def pushConvert (s : Feeder) (payload : List UInt8) (stamp : Int) (taken : Bool) : Feeder :=
  let r := relPts s.ptsBase stamp
  { s with
    ptsBase := r.2
    handled := s.handled ++ [{ stamp, payload, direct := false }]
    inFlight :=
      if taken then s.inFlight ++ [{ pts := r.1, nth := s.handled.length }] else s.inFlight
    dropped := if taken then s.dropped else s.dropped + 1 }

/-- A message that is the pinned frame already. -/
def pushDirect (s : Feeder) (pixels : List UInt8) (stamp : Int) (taken : Bool) : Feeder :=
  let entered : Feeder :=
    { s with handled := s.handled ++ [{ stamp, payload := pixels, direct := true }] }
  entered.emit stamp pixels true s.handled.length (s.handled.length + 1) taken

/-- The stamp of a message that comes at `now`. -/
def stampOr (stamp now : Int) : Int := if stamp ≤ 0 then now else stamp

/-- The rows of a message, tightly packed. -/
def packed (enc : Encoding) (msg : RosImage) : List UInt8 :=
  match enc.bytesPerPixel with
  | none => msg.data
  | some bpp =>
    if bpp * msg.width = 0 then msg.data
    else unpadRows msg.data msg.step (bpp * msg.width) msg.height

/-- `push_image`. -/
def pushImage (pinned : Pinned) (s : Feeder) (now : Int) (msg : RosImage) (taken : Bool) : Feeder :=
  if s.failed then s
  else
    match Encoding.new msg.encoding msg.isBigendian with
    | none => s.drop
    | some enc =>
      let pixels := packed enc msg
      if pinned.fits enc msg.width msg.height then
        if pixels.length ≠ pinned.bytes then s.drop
        else s.pushDirect pixels (stampOr msg.stamp now) taken
      else
        (s.ensureConvert (.image enc.media enc.format msg.width msg.height)).pushConvert pixels
          (stampOr msg.stamp now) taken

/-- The decoder of a compressed message. -/
def decoderOf (format : String) : Option ConvertInput :=
  let f := format.toLower
  if isIn "png" f then some .png
  else if isIn "jpeg" f || isIn "jpg" f || f = "" then some .jpeg
  else none

/-- `push_compressed`. -/
def pushCompressed (s : Feeder) (now : Int) (msg : RosCompressed) (taken : Bool) : Feeder :=
  if s.failed then s
  else
    match decoderOf msg.format with
    | none => s.drop
    | some caps => (s.ensureConvert caps).pushConvert msg.data (stampOr msg.stamp now) taken

/-- The first half of `_on_converted`; the buffers before the one that came are lost. -/
def pull (s : Feeder) (i : Nat) (pixels : List UInt8) : Option Feeder :=
  s.inFlight[i]?.map fun job =>
    { s with
      inFlight := s.inFlight.drop (i + 1)
      pulled := some
        { stamp := s.ptsBase + job.pts, pixels, nth := job.nth, pulledAt := s.handled.length } }

end Feeder

inductive FeederEvent where
  | image (now : Int) (msg : RosImage) (taken : Bool)
  | compressed (now : Int) (msg : RosCompressed) (taken : Bool)
  /-- the streaming thread pulls a converted frame -/
  | pull (i : Nat) (pixels : List UInt8)
  /-- and emits it -/
  | emit (taken : Bool)
  /-- an error of the convert pipeline -/
  | convertError
  /-- an error of the output pipeline -/
  | outputError
deriving DecidableEq, Repr

namespace Feeder

/-- One step of a thread; to stop the old pipeline, the new one waits for its thread. -/
def next (pinned : Pinned) (s : Feeder) : FeederEvent → Option Feeder
  | .image now msg taken =>
    let s' := s.pushImage pinned now msg taken
    if s'.cvCaps ≠ s.cvCaps ∧ s.pulled.isSome then none else some s'
  | .compressed now msg taken =>
    let s' := s.pushCompressed now msg taken
    if s'.cvCaps ≠ s.cvCaps ∧ s.pulled.isSome then none else some s'
  | .pull i pixels => if s.pulled.isSome then none else s.pull i pixels
  | .emit taken =>
    s.pulled.map fun frame =>
      let released : Feeder := { s with pulled := none }
      released.emit frame.stamp frame.pixels false frame.nth frame.pulledAt taken
  | .convertError => some { s with cvCaps := none }
  | .outputError => some { s with failed := true }

/-! ## What was fed -/

/-- The least stamp of the first `n` messages. -/
def lowest (handled : List Handled) (n : Nat) : Int :=
  Extremes.least 0 ((handled.take n).map (·.stamp))

/-- A job in the convert pipeline. -/
structure JobOk (handled : List Handled) (job : ConvertJob) : Prop where
  converted : ∃ h, handled[job.nth]? = some h ∧ h.direct = false ∧
    job.pts = h.stamp - lowest handled (job.nth + 1)

/-- A frame that is of a message, and what its stamp is. -/
structure Stamped (handled : List Handled) (nth pulledAt : Nat) (stamp : Int) : Prop where
  later : nth < pulledAt
  inside : pulledAt ≤ handled.length
  /-- by as much as the base sank in between, it is too early -/
  stamp : ∃ h, handled[nth]? = some h ∧
    stamp = h.stamp - (lowest handled (nth + 1) - lowest handled pulledAt)

/-- A frame on the socket. -/
structure FrameOk (handled : List Handled) (f : FedFrame) : Prop where
  stamped : Stamped handled f.nth f.pulledAt f.stamp
  later : f.pulledAt ≤ f.emittedAt
  inside : f.emittedAt ≤ handled.length
  pts : f.pts = f.stamp - lowest handled f.emittedAt
  own : ∃ h, handled[f.nth]? = some h ∧ h.direct = f.direct ∧
    (f.direct = true → f.pixels = h.payload ∧ f.pulledAt = f.nth + 1)

/-- The messages that were converted, from the first that came out to those in the pipeline. -/
def convertedOrder (s : Feeder) : List Nat :=
  (s.out.filter fun f => !f.direct).map (·.nth) ++ s.pulled.toList.map (·.nth) ++
    s.inFlight.map (·.nth)

/-- Those that were the pinned frame. -/
def directOrder (s : Feeder) : List Nat := (s.out.filter (·.direct)).map (·.nth)

/-- The invariant. -/
structure Fed (s : Feeder) : Prop where
  positive : ∀ h ∈ s.handled, 0 < h.stamp
  base : s.ptsBase = lowest s.handled s.handled.length
  emitted : s.emitted = s.out.length
  ids : ∀ (i : Nat) (f : FedFrame), s.out[i]? = some f → f.frameId = i + 1
  jobs : ∀ job ∈ s.inFlight, JobOk s.handled job
  pulled : ∀ frame ∈ s.pulled, Stamped s.handled frame.nth frame.pulledAt frame.stamp ∧
    ∃ h, s.handled[frame.nth]? = some h ∧ h.direct = false
  frames : ∀ f ∈ s.out, FrameOk s.handled f
  converted : s.convertedOrder.Pairwise (· < ·)
  direct : s.directOrder.Pairwise (· < ·)

section Lowest

variable {handled : List Handled}

/-- The oldest stamp so far does not change behind its place. -/
theorem lowest_append {n : Nat} (h : n ≤ handled.length) (more : List Handled) :
    lowest (handled ++ more) n = lowest handled n := by
  rw [lowest, List.take_append_of_le_length h, lowest]

/-- With one more it is the older of the two. -/
theorem lowest_concat_length (h : Handled) :
    lowest (handled ++ [h]) (handled.length + 1) =
      Extremes.least 0 (handled.map (·.stamp) ++ [h.stamp]) := by
  simp [lowest, List.take_of_length_le]

/-- It is the least of all stamps. -/
theorem lowest_length :
    lowest handled handled.length = Extremes.least 0 (handled.map (·.stamp)) := by
  rw [lowest, List.take_length]

/-- The oldest stamp so far falls only. -/
theorem lowest_le_of_le (handled : List Handled) {m n : Nat} (hm : 0 < m) (hmn : m ≤ n) :
    lowest handled n ≤ lowest handled m := by
  cases handled with
  | nil => simp [lowest]
  | cons h handled =>
      obtain ⟨k, rfl⟩ := Nat.exists_eq_add_of_le hmn
      rw [lowest, List.take_add, List.map_append]
      refine Extremes.least_append_le ?_ _
      simp; omega

/-- It is no younger than any of them. -/
theorem lowest_le_stamp {n : Nat} {h : Handled} (hmem : h ∈ handled.take n) :
    lowest handled n ≤ h.stamp :=
  Extremes.least_le (List.mem_map_of_mem hmem)

/-- The base is never the mark of no base, once there was a message. -/
theorem lowest_pos (hpos : ∀ h ∈ handled, 0 < h.stamp) (hne : handled ≠ []) {n : Nat}
    (hn : 0 < n) : 0 < lowest handled n := by
  have htake : (handled.take n).map (·.stamp) ≠ [] := by simp [hne, hn.ne']
  obtain ⟨h, hmem, heq⟩ := List.mem_map.1 (Extremes.least_mem (z := 0) htake)
  rw [lowest, ← heq]
  exact hpos h (List.mem_of_mem_take hmem)

/-- A stamp that is not below the base leaves it alone. -/
theorem relPts_of_le {base stamp : Int} (hbase : 0 < base) (hle : base ≤ stamp) :
    relPts base stamp = (stamp - base, base) := by
  simp [relPts, hbase.ne', not_lt.2 hle]

/-- The base is the least stamp so far. -/
theorem relPts_lowest (hpos : ∀ h ∈ handled, 0 < h.stamp) (h : Handled) :
    relPts (lowest handled handled.length) h.stamp =
      (h.stamp - lowest (handled ++ [h]) (handled.length + 1),
        lowest (handled ++ [h]) (handled.length + 1)) := by
  rw [lowest_concat_length]
  by_cases hnil : handled = []
  · subst hnil
    simp [lowest, relPts, Extremes.least]
  · have hbase := lowest_pos hpos hnil (List.length_pos_of_ne_nil hnil)
    have hne : handled.map (·.stamp) ≠ [] := by simpa using hnil
    rw [lowest_length] at hbase ⊢
    by_cases hlt : h.stamp < Extremes.least 0 (handled.map (·.stamp))
    · have hleast : Extremes.least 0 (handled.map (·.stamp) ++ [h.stamp]) = h.stamp :=
        Extremes.least_concat_of_lt fun x hx => hlt.le.trans (Extremes.least_le hx)
      rw [hleast]
      simp [relPts, hbase.ne', hlt]
    · have hleast : Extremes.least 0 (handled.map (·.stamp) ++ [h.stamp]) =
          Extremes.least 0 (handled.map (·.stamp)) :=
        Extremes.least_append_of_le hne (by simpa using not_lt.1 hlt)
      rw [hleast, relPts_of_le hbase (not_lt.1 hlt)]

/-- A job stays that of its message. -/
theorem JobOk.append {job : ConvertJob} (h : JobOk handled job) (more : List Handled) :
    JobOk (handled ++ more) job := by
  obtain ⟨m, hm, hdirect, hpts⟩ := h.converted
  obtain ⟨hlt, -⟩ := List.getElem?_eq_some_iff.1 hm
  refine ⟨m, by rwa [List.getElem?_append_left hlt], hdirect, ?_⟩
  rwa [lowest_append (by omega)]

/-- A stamp stays that of its job. -/
theorem Stamped.append {nth pulledAt : Nat} {stamp : Int} (h : Stamped handled nth pulledAt stamp)
    (more : List Handled) : Stamped (handled ++ more) nth pulledAt stamp where
  later := h.later
  inside := by
    have hinside := h.inside
    rw [List.length_append]
    omega
  stamp := by
    have hinside := h.inside
    have hlater := h.later
    obtain ⟨m, hm, hstamp⟩ := h.stamp
    obtain ⟨hlt, -⟩ := List.getElem?_eq_some_iff.1 hm
    refine ⟨m, by rwa [List.getElem?_append_left hlt], ?_⟩
    rwa [lowest_append (by omega), lowest_append hinside]

/-- A frame stays that of both. -/
theorem FrameOk.append {f : FedFrame} (h : FrameOk handled f) (more : List Handled) :
    FrameOk (handled ++ more) f where
  stamped := h.stamped.append more
  later := h.later
  inside := by
    have hinside := h.inside
    rw [List.length_append]
    omega
  pts := by rw [lowest_append h.inside, h.pts]
  own := by
    obtain ⟨m, hm, hown⟩ := h.own
    obtain ⟨hlt, -⟩ := List.getElem?_eq_some_iff.1 hm
    exact ⟨m, by rwa [List.getElem?_append_left hlt], hown⟩

/-- The stamp of a frame is at or above the base it was pulled over. -/
theorem Stamped.lowest_le {nth pulledAt : Nat} {stamp : Int}
    (h : Stamped handled nth pulledAt stamp) : lowest handled pulledAt ≤ stamp := by
  obtain ⟨m, hm, hstamp⟩ := h.stamp
  have hmem : m ∈ handled.take (nth + 1) := by
    rw [List.take_add_one, hm]
    simp
  have hle := lowest_le_stamp hmem
  omega

end Lowest

/-- An order that grows by a later one. -/
theorem pairwise_concat {order : List Nat} {n : Nat} (h : order.Pairwise (· < ·))
    (hlt : ∀ m ∈ order, m < n) : (order ++ [n]).Pairwise (· < ·) := by
  rw [List.pairwise_append]
  exact ⟨h, List.pairwise_singleton _ _, by simpa using hlt⟩

section Steps

variable {s : Feeder} (h : Fed s)
include h

/-- What was converted has been handled. -/
theorem Fed.converted_lt : ∀ n ∈ s.convertedOrder, n < s.handled.length := by
  intro n hn
  simp only [convertedOrder, List.mem_append, List.mem_map, List.mem_filter, Option.mem_toList]
    at hn
  rcases hn with (⟨f, ⟨hf, -⟩, rfl⟩ | ⟨frame, hframe, rfl⟩) | ⟨job, hjob, rfl⟩
  · have hstamped := (h.frames f hf).stamped
    exact hstamped.later.trans_le hstamped.inside
  · have hstamped := (h.pulled frame hframe).1
    exact hstamped.later.trans_le hstamped.inside
  · obtain ⟨m, hm, -⟩ := (h.jobs job hjob).converted
    exact (List.getElem?_eq_some_iff.1 hm).1

theorem Fed.direct_lt : ∀ n ∈ s.directOrder, n < s.handled.length := by
  intro n hn
  simp only [directOrder, List.mem_map, List.mem_filter] at hn
  obtain ⟨f, ⟨hf, -⟩, rfl⟩ := hn
  have hstamped := (h.frames f hf).stamped
  exact hstamped.later.trans_le hstamped.inside

/-- One frame more, with the next id. -/
theorem ids_concat {f : FedFrame} (hf : f.frameId = s.emitted + 1) :
    ∀ (i : Nat) (g : FedFrame), (s.out ++ [f])[i]? = some g → g.frameId = i + 1 := by
  intro i g hg
  rw [List.getElem?_append] at hg
  split at hg
  case isTrue hlt => exact h.ids i g hg
  case isFalse hge =>
    obtain ⟨hlast, heq⟩ := List.getElem?_eq_some_iff.1 hg
    simp only [List.length_singleton] at hlast
    simp only [List.getElem_singleton] at heq
    rw [← heq, hf, h.emitted]
    omega

/-- A message that is dropped. -/
theorem Fed.drop : Fed s.drop := ⟨h.positive, h.base, h.emitted, h.ids, h.jobs, h.pulled, h.frames,
  h.converted, h.direct⟩

/-- A converter that is built. -/
theorem Fed.ensureConvert (caps : ConvertInput) : Fed (s.ensureConvert caps) := by
  unfold Feeder.ensureConvert
  split
  · exact h
  · refine ⟨h.positive, h.base, h.emitted, h.ids, fun job hjob => ?_, h.pulled, h.frames, ?_,
      h.direct⟩
    · cases hjob
    · refine h.converted.sublist ?_
      exact List.Sublist.append_left (List.nil_sublist _) _

/-- A message that goes to the converter. -/
theorem Fed.pushConvert {stamp : Int} (hstamp : 0 < stamp) (payload : List UInt8) (taken : Bool) :
    Fed (s.pushConvert payload stamp taken) := by
  have hrel := relPts_lowest h.positive { stamp, payload, direct := false }
  rw [← h.base] at hrel
  unfold Feeder.pushConvert
  rw [hrel]
  refine
    { positive := ?_
      base := by simp
      emitted := h.emitted
      ids := h.ids
      jobs := fun job hjob => ?_
      pulled := fun frame hframe => ?_
      frames := fun f hf => (h.frames f hf).append _
      converted := ?_
      direct := h.direct }
  · intro m hm
    obtain hm | hm := List.mem_append.1 hm
    · exact h.positive m hm
    · rw [List.mem_singleton.1 hm]
      exact hstamp
  · cases taken
    · exact (h.jobs job hjob).append _
    · obtain hjob | hjob := List.mem_append.1 hjob
      · exact (h.jobs job hjob).append _
      · rw [List.mem_singleton.1 hjob]
        exact ⟨_, List.getElem?_concat_length, rfl, rfl⟩
  · obtain ⟨hstamped, m, hm, hdirect⟩ := h.pulled frame hframe
    refine ⟨hstamped.append _, m, ?_, hdirect⟩
    rwa [List.getElem?_append_left (List.getElem?_eq_some_iff.1 hm).1]
  · cases taken
    · exact h.converted
    · have horder := pairwise_concat h.converted h.converted_lt
      simpa [convertedOrder] using horder

/-- A message that is sent as it is. -/
theorem Fed.pushDirect {stamp : Int} (hstamp : 0 < stamp) (pixels : List UInt8) (taken : Bool) :
    Fed (s.pushDirect pixels stamp taken) := by
  have hrel := relPts_lowest h.positive { stamp, payload := pixels, direct := true }
  rw [← h.base] at hrel
  dsimp only at hrel
  simp only [Feeder.pushDirect, Feeder.emit, hrel]
  refine
    { positive := ?_
      base := by simp
      emitted := by simp [h.emitted]
      ids := ?_
      jobs := fun job hjob => (h.jobs job hjob).append _
      pulled := fun frame hframe => ?_
      frames := fun f hf => ?_
      converted := ?_
      direct := ?_ }
  · intro m hm
    obtain hm | hm := List.mem_append.1 hm
    · exact h.positive m hm
    · rw [List.mem_singleton.1 hm]
      exact hstamp
  · exact ids_concat h rfl
  · obtain ⟨hstamped, m, hm, hdirect⟩ := h.pulled frame hframe
    refine ⟨hstamped.append _, m, ?_, hdirect⟩
    rwa [List.getElem?_append_left (List.getElem?_eq_some_iff.1 hm).1]
  · obtain hf | hf := List.mem_append.1 hf
    · exact (h.frames f hf).append _
    · rw [List.mem_singleton.1 hf]
      exact
        { stamped := ⟨Nat.lt_succ_self _, by simp, _, List.getElem?_concat_length, by simp⟩
          later := by simp
          inside := le_rfl
          pts := by simp
          own := ⟨_, List.getElem?_concat_length, rfl, fun _ => ⟨rfl, rfl⟩⟩ }
  · have horder := h.converted
    simpa [convertedOrder] using horder
  · have horder := pairwise_concat h.direct h.direct_lt
    simpa [directOrder] using horder

/-- A frame that is pulled off the converter. -/
theorem Fed.pull {i : Nat} {pixels : List UInt8} {s' : Feeder} (hnone : s.pulled = none)
    (hs : s.pull i pixels = some s') : Fed s' := by
  simp only [Feeder.pull, Option.map_eq_some_iff] at hs
  obtain ⟨job, hjob, rfl⟩ := hs
  have hmem : job ∈ s.inFlight := List.mem_of_getElem? hjob
  obtain ⟨m, hm, hdirect, hpts⟩ := (h.jobs job hmem).converted
  refine
    { positive := h.positive
      base := h.base
      emitted := h.emitted
      ids := h.ids
      jobs := fun j hj => h.jobs j (List.mem_of_mem_drop hj)
      pulled := ?_
      frames := h.frames
      converted := ?_
      direct := h.direct }
  · rintro frame ⟨⟩
    refine ⟨⟨(List.getElem?_eq_some_iff.1 hm).1, le_rfl, m, hm, ?_⟩, m, hm, hdirect⟩
    dsimp only
    rw [h.base, hpts]
    omega
  · obtain ⟨hi, hget⟩ := List.getElem?_eq_some_iff.1 hjob
    have hdrop : s.inFlight.drop i = job :: s.inFlight.drop (i + 1) := by
      rw [List.drop_eq_getElem_cons hi, hget]
    have hlater : List.Sublist ((s.inFlight.drop i).map (·.nth)) (s.inFlight.map (·.nth)) :=
      (List.drop_sublist i s.inFlight).map _
    refine h.converted.sublist ?_
    simpa [convertedOrder, hnone, hdrop] using hlater

/-- A frame that is sent. -/
theorem Fed.emit {frame : PulledFrame} (hframe : s.pulled = some frame) (taken : Bool) :
    Fed (Feeder.emit { s with pulled := none } frame.stamp frame.pixels false frame.nth
      frame.pulledAt taken) := by
  obtain ⟨hstamped, m, hm, hdirect⟩ := h.pulled frame hframe
  have hlt : frame.nth < s.handled.length := (List.getElem?_eq_some_iff.1 hm).1
  have hne : s.handled ≠ [] := List.ne_nil_of_length_pos (by omega)
  have hbase : 0 < s.ptsBase := h.base ▸ lowest_pos h.positive hne (by omega)
  -- the base may have sunk since the frame was pulled, never risen
  have hle : s.ptsBase ≤ frame.stamp := by
    have hlow := lowest_le_of_le s.handled (Nat.zero_lt_of_lt hstamped.later)
      hstamped.inside
    rw [h.base]
    exact hlow.trans hstamped.lowest_le
  simp only [Feeder.emit, relPts_of_le hbase hle]
  refine
    { positive := h.positive
      base := h.base
      emitted := by simp [h.emitted]
      ids := ids_concat h rfl
      jobs := h.jobs
      pulled := fun g hg => by cases hg
      frames := fun f hf => ?_
      converted := ?_
      direct := ?_ }
  · obtain hf | hf := List.mem_append.1 hf
    · exact h.frames f hf
    · rw [List.mem_singleton.1 hf]
      exact
        { stamped := hstamped
          later := hstamped.inside
          inside := le_rfl
          pts := by rw [h.base]
          own := ⟨m, hm, hdirect, by simp⟩ }
  · have horder := h.converted
    simpa [convertedOrder, hframe] using horder
  · have horder := h.direct
    simpa [directOrder] using horder

end Steps

/-! ## Runs -/

/-- A message comes at a time after 1970. -/
def AfterEpoch : FeederEvent → Prop
  | .image now _ _ | .compressed now _ _ => 0 < now
  | _ => True

/-- A message without a stamp takes its arrival. -/
theorem stampOr_pos {stamp now : Int} (h : 0 < now) : 0 < stampOr stamp now := by
  unfold stampOr
  split
  · exact h
  · omega

theorem fed_next {pinned : Pinned} {s s' : Feeder} {event : FeederEvent} (h : Fed s)
    (hclock : AfterEpoch event) (hs : s.next pinned event = some s') : Fed s' := by
  cases event with
  | image now msg taken =>
      simp only [next, Option.ite_none_left_eq_some, Option.some.injEq] at hs
      obtain ⟨-, rfl⟩ := hs
      unfold pushImage
      split
      · exact h
      · split
        · exact h.drop
        · dsimp only
          split
          · split
            · exact h.drop
            · exact h.pushDirect (stampOr_pos hclock) _ _
          · exact (h.ensureConvert _).pushConvert (stampOr_pos hclock) _ _
  | compressed now msg taken =>
      simp only [next, Option.ite_none_left_eq_some, Option.some.injEq] at hs
      obtain ⟨-, rfl⟩ := hs
      unfold pushCompressed
      split
      · exact h
      · split
        · exact h.drop
        · exact (h.ensureConvert _).pushConvert (stampOr_pos hclock) _ _
  | pull i pixels =>
      simp only [next, Option.ite_none_left_eq_some, Bool.not_eq_true, Option.isSome_eq_false_iff,
        Option.isNone_iff_eq_none] at hs
      exact h.pull hs.1 hs.2
  | emit taken =>
      simp only [next, Option.map_eq_some_iff] at hs
      obtain ⟨frame, hframe, rfl⟩ := hs
      exact h.emit hframe taken
  | convertError =>
      cases hs
      exact ⟨h.positive, h.base, h.emitted, h.ids, h.jobs, h.pulled, h.frames, h.converted,
        h.direct⟩
  | outputError =>
      cases hs
      exact ⟨h.positive, h.base, h.emitted, h.ids, h.jobs, h.pulled, h.frames, h.converted,
        h.direct⟩

/-- A feeder that has been built. -/
theorem fed_init : Fed init where
  positive := by simp [init]
  base := rfl
  emitted := rfl
  ids := by simp [init]
  jobs := by simp [init]
  pulled := by simp [init]
  frames := by simp [init]
  converted := .nil
  direct := .nil

/-- What a message becomes: its stamp, the bytes pushed on, and whether they are the pinned
frame. -/
def entryOf (pinned : Pinned) : FeederEvent → Option Handled
  | .image now msg _ =>
    (Encoding.new msg.encoding msg.isBigendian).bind fun enc =>
      let payload := packed enc msg
      let direct := pinned.fits enc msg.width msg.height
      if direct ∧ payload.length ≠ pinned.bytes then none
      else some { stamp := stampOr msg.stamp now, payload, direct }
  | .compressed now msg _ =>
    (decoderOf msg.format).map fun _ =>
      { stamp := stampOr msg.stamp now, payload := msg.data, direct := false }
  | _ => none

/-- The messages of a run that are handled: all until the output fails. -/
def entriesOf (pinned : Pinned) (events : List FeederEvent) : List Handled :=
  (events.takeWhile (· ≠ .outputError)).filterMap (entryOf pinned)

/-- Building a converter handles no message. -/
theorem ensureConvert_handled (s : Feeder) (caps : ConvertInput) :
    (s.ensureConvert caps).handled = s.handled ∧ (s.ensureConvert caps).failed = s.failed := by
  unfold ensureConvert
  split <;> exact ⟨rfl, rfl⟩

/-- A message that comes to a feeder that has not failed is handled. -/
theorem handled_next {pinned : Pinned} {s s' : Feeder} {event : FeederEvent}
    (hs : s.next pinned event = some s') :
    s'.failed = (s.failed || event = .outputError) ∧
      s'.handled = s.handled ++ (if s.failed then [] else (entryOf pinned event).toList) := by
  cases event with
  | image now msg taken =>
      simp only [next, Option.ite_none_left_eq_some, Option.some.injEq] at hs
      obtain ⟨-, rfl⟩ := hs
      unfold pushImage
      cases hfailed : s.failed with
      | true => simp [hfailed]
      | false =>
          cases henc : Encoding.new msg.encoding msg.isBigendian with
          | none => simp [entryOf, henc, drop, hfailed]
          | some enc =>
              by_cases hfits : pinned.fits enc msg.width msg.height = true
              · by_cases hsize : (packed enc msg).length = pinned.bytes
                · simp [entryOf, henc, hfits, hsize, pushDirect, emit, hfailed]
                · simp [entryOf, henc, hfits, hsize, drop, hfailed]
              · simp [entryOf, henc, hfits, pushConvert, ensureConvert_handled, hfailed]
  | compressed now msg taken =>
      simp only [next, Option.ite_none_left_eq_some, Option.some.injEq] at hs
      obtain ⟨-, rfl⟩ := hs
      unfold pushCompressed
      cases hfailed : s.failed with
      | true => simp [hfailed]
      | false =>
          cases hcaps : decoderOf msg.format with
          | none => simp [entryOf, hcaps, drop, hfailed]
          | some caps => simp [entryOf, hcaps, pushConvert, ensureConvert_handled, hfailed]
  | pull i pixels =>
      simp only [next, pull, Option.ite_none_left_eq_some, Option.map_eq_some_iff] at hs
      obtain ⟨-, job, -, rfl⟩ := hs
      simp [entryOf]
  | emit taken =>
      simp only [next, Option.map_eq_some_iff] at hs
      obtain ⟨frame, -, rfl⟩ := hs
      simp [entryOf, emit]
  | convertError =>
      cases hs
      simp [entryOf]
  | outputError =>
      cases hs
      simp [entryOf]

/-- So in a run all are, up to the failure. -/
theorem handled_exec {pinned : Pinned} (events : List FeederEvent) {s s' : Feeder}
    (hs : Machine.exec (next pinned) s events = some s') :
    s'.handled = s.handled ++ (if s.failed then [] else entriesOf pinned events) := by
  induction events generalizing s with
  | nil =>
      cases hs
      simp [entriesOf]
  | cons event events ih =>
      simp only [Machine.exec, Option.bind_eq_some_iff] at hs
      obtain ⟨t, ht, hs⟩ := hs
      obtain ⟨hfailed, hhandled⟩ := handled_next ht
      rw [ih hs, hfailed, hhandled]
      cases hs : s.failed with
      | true => simp
      | false =>
          by_cases hout : event = .outputError
          · simp [hout, entriesOf, entryOf]
          · cases hentry : entryOf pinned event <;> simp [hout, entriesOf, hentry]

/-- What a run of the feeder has sent. -/
structure FeederHolds (pinned : Pinned) (events : List FeederEvent) (s : Feeder) : Prop where
  /-- the ids count the frames from 1, converted or not -/
  ids : ∀ (i : Nat) (f : FedFrame), s.out[i]? = some f → f.frameId = i + 1
  /-- no message comes twice -/
  once : (s.out.map (·.nth)).Nodup
  /-- the converted frames keep their order among themselves, and so do the others -/
  order : ∀ direct, ((s.out.filter (·.direct = direct)).map (·.nth)).Pairwise (· < ·)
  /-- a message that is the pinned frame keeps its bytes and its stamp -/
  direct : ∀ f ∈ s.out, f.direct = true → ∃ m, (entriesOf pinned events)[f.nth]? = some m ∧
    f.stamp = m.stamp ∧ f.pixels = m.payload
  /-- a converted one is too early by as much as the base sank in between -/
  converted : ∀ f ∈ s.out, ∃ m, (entriesOf pinned events)[f.nth]? = some m ∧
    m.stamp - f.stamp = lowest (entriesOf pinned events) (f.nth + 1) -
      lowest (entriesOf pinned events) f.pulledAt ∧ f.stamp ≤ m.stamp
  /-- so it keeps its stamp where no later message, up to then, is before the first ones -/
  kept : ∀ f ∈ s.out, ∀ m, (entriesOf pinned events)[f.nth]? = some m →
    (∀ k later, f.nth < k → k < f.pulledAt → (entriesOf pinned events)[k]? = some later →
      lowest (entriesOf pinned events) (f.nth + 1) ≤ later.stamp) → f.stamp = m.stamp
  /-- the PTS is the time since the least stamp of the messages before the frame -/
  pts : ∀ f ∈ s.out, f.pts = f.stamp - lowest (entriesOf pinned events) f.emittedAt ∧
    0 ≤ f.pts ∧ 0 < f.stamp

/-- Where no stamp is below the least one, the least one stays. -/
theorem lowest_eq_of_ge {handled : List Handled} {m n : Nat} (hm : 0 < m) (hmn : m ≤ n)
    (h : ∀ k later, m ≤ k → k < n → handled[k]? = some later →
      lowest handled m ≤ later.stamp) : lowest handled n = lowest handled m := by
  cases handled with
  | nil => simp [lowest]
  | cons first handled =>
      obtain ⟨d, rfl⟩ := Nat.exists_eq_add_of_le hmn
      rw [lowest, List.take_add, List.map_append]
      refine Extremes.least_append_of_le (by simp; omega) fun a ha => ?_
      obtain ⟨later, hlater, rfl⟩ := List.mem_map.1 ha
      obtain ⟨i, hget⟩ := List.mem_iff_getElem?.1 hlater
      rw [List.getElem?_take, List.getElem?_drop] at hget
      split at hget
      case isTrue hi => exact h (m + i) later (by omega) (by omega) hget
      case isFalse => cases hget

theorem fed_exec {pinned : Pinned} (events : List FeederEvent) {s s' : Feeder} (h : Fed s)
    (hclock : ∀ event ∈ events, AfterEpoch event)
    (hs : Machine.exec (next pinned) s events = some s') : Fed s' := by
  induction events generalizing s with
  | nil =>
      cases hs
      exact h
  | cons event events ih =>
      simp only [Machine.exec, Option.bind_eq_some_iff] at hs
      obtain ⟨t, ht, hs⟩ := hs
      exact ih (fed_next h (hclock _ List.mem_cons_self) ht)
        (fun e he => hclock e (List.mem_cons_of_mem _ he)) hs

/-- A message is not sent as it is and converted as well. -/
theorem Fed.once {s : Feeder} (h : Fed s) : (s.out.map (·.nth)).Nodup := by
  have hperm := (List.filter_append_perm (fun f : FedFrame => f.direct) s.out).map (·.nth)
  have hconverted := (List.pairwise_append.1 (List.pairwise_append.1 h.converted).1).1
  rw [← hperm.nodup_iff, List.map_append, List.nodup_append]
  refine ⟨h.direct.imp fun hlt => hlt.ne, hconverted.imp fun hlt => hlt.ne, ?_⟩
  intro m hm n hn heq
  obtain ⟨f, hf, rfl⟩ := List.mem_map.1 hm
  obtain ⟨g, hg, rfl⟩ := List.mem_map.1 hn
  obtain ⟨hfmem, hfdirect⟩ := List.mem_filter.1 hf
  obtain ⟨hgmem, hgdirect⟩ := List.mem_filter.1 hg
  obtain ⟨m, hm, hmf, -⟩ := (h.frames f hfmem).own
  obtain ⟨m', hm', hmg, -⟩ := (h.frames g hgmem).own
  have hsame : m = m' := by
    rw [heq, hm'] at hm
    exact (Option.some.inj hm).symm
  rw [hsame, hmg] at hmf
  rw [hfdirect] at hmf
  simp [hmf] at hgdirect

/-- A frame is never later than its message. -/
theorem Fed.stamp_le {s : Feeder} (h : Fed s) {f : FedFrame} (hf : f ∈ s.out) :
    ∃ m, s.handled[f.nth]? = some m ∧
      m.stamp - f.stamp = lowest s.handled (f.nth + 1) - lowest s.handled f.pulledAt ∧
      f.stamp ≤ m.stamp := by
  obtain ⟨m, hm, hstamp⟩ := (h.frames f hf).stamped.stamp
  have hsank := lowest_le_of_le s.handled (m := f.nth + 1) (by omega)
    (h.frames f hf).stamped.later
  refine ⟨m, hm, ?_, ?_⟩ <;> omega

/-- No frame has a stamp before the epoch. -/
theorem Fed.stamp_pos {s : Feeder} (h : Fed s) {f : FedFrame} (hf : f ∈ s.out) :
    0 < f.stamp := by
  obtain ⟨m, hm, -⟩ := (h.frames f hf).stamped.stamp
  have hlater := (h.frames f hf).stamped.later
  have hpositive := lowest_pos h.positive (n := f.pulledAt)
    (List.ne_nil_of_mem (List.mem_of_getElem? hm)) (by omega)
  exact hpositive.trans_le (h.frames f hf).stamped.lowest_le

/-- What the run of a feeder keeps. -/
theorem Fed.holds {s : Feeder} (h : Fed s) {pinned : Pinned} {events : List FeederEvent}
    (hhandled : entriesOf pinned events = s.handled) : FeederHolds pinned events s := by
  refine
    { ids := h.ids
      once := h.once
      order := fun direct => ?_
      direct := fun f hf hdirect => ?_
      converted := fun f hf => ?_
      kept := fun f hf m hm hlater => ?_
      pts := fun f hf => ?_ }
  · cases direct
    · have horder := (List.pairwise_append.1 (List.pairwise_append.1 h.converted).1).1
      simpa using horder
    · simpa [directOrder] using h.direct
  · rw [hhandled]
    obtain ⟨m, hm, -, hown⟩ := (h.frames f hf).own
    obtain ⟨m', hm', hstamp⟩ := (h.frames f hf).stamped.stamp
    obtain rfl : m = m' := Option.some.inj (hm.symm.trans hm')
    obtain ⟨hpixels, hpulled⟩ := hown hdirect
    refine ⟨m, hm, ?_, hpixels⟩
    rw [hstamp, hpulled]
    omega
  · rw [hhandled]
    exact h.stamp_le hf
  · rw [hhandled] at hm hlater
    obtain ⟨m', hm', hstamp⟩ := (h.frames f hf).stamped.stamp
    obtain rfl : m = m' := Option.some.inj (hm.symm.trans hm')
    have hstays := lowest_eq_of_ge (m := f.nth + 1) (by omega) (h.frames f hf).stamped.later
      fun k later hk => hlater k later hk
    omega
  · rw [hhandled]
    have hpts := (h.frames f hf).pts
    have hlow := (h.frames f hf).stamped.lowest_le
    have hlater := (h.frames f hf).stamped.later
    have hsank := lowest_le_of_le s.handled (by omega) (h.frames f hf).later
    refine ⟨hpts, ?_, h.stamp_pos hf⟩
    omega

/-- **The feeder**, in every run. -/
theorem feederHolds_run (pinned : Pinned) (events : List FeederEvent)
    (hclock : ∀ event ∈ events, AfterEpoch event) {s : Feeder}
    (h : Machine.exec (next pinned) init events = some s) : FeederHolds pinned events s := by
  have hhandled := handled_exec events h
  exact (fed_exec events fed_init hclock h).holds (by simpa [init] using hhandled.symm)

/-- A frame in conversion, and one that is older and needs none. -/
def olderFrame : List FeederEvent :=
  [.image 1 ⟨"bgr8", 1, 1, false, 3, [1, 2, 3], 100⟩ true,
   .image 1 ⟨"rgb8", 1, 1, false, 3, [4, 5, 6], 40⟩ true,
   .pull 0 [3, 2, 1], .emit true]

/-- The pinned format of such a run. -/
def onePixel : Pinned :=
  { pixelFormat := "RGB", width := 1, height := 1, format := "RGB", bayer := none }

/-- The second message is older than the first, which is being converted. -/
theorem feederHolds_olderFrame : ∃ s, Machine.exec (next onePixel) init olderFrame = some s ∧
    s.out.map (fun f => (f.nth, f.stamp)) = [(1, 40), (0, 40)] ∧
    FeederHolds onePixel olderFrame s :=
  ⟨_, rfl, by decide, feederHolds_run onePixel olderFrame (by simp [olderFrame, AfterEpoch]) rfl⟩

end Feeder

end CamDriver
