import Mathlib.Data.List.ReduceOption
import CamDriver.Uvc.Extractor

/-!
# CamDriver.Uvc.Wire

What was on the wire, read off the records of a capture: payloads in order, and
a `hole` for every payload that is not all there.

The records are read in the byte order of the host that wrote them (`hostRecord`), whatever the
parser takes that to be; everything else is stated independently of the extractor, too.  A bulk
payload is followed byte by byte through its URBs, the bytes a URB had but the capture does not
are `none`, and so are those of a URB that completed with an error.
-/

namespace CamDriver.Uvc

/-- One payload, as far as the capture shows it. -/
inductive WireItem where
  | payload (bytes : List UInt8) (ts : Int)
  | hole
deriving DecidableEq, Repr

/-! ## Isochronous URBs -/

def WireItem.ofPacket (ts : Int) (packet : List UInt8 × Bool) : WireItem :=
  if packet.2 then .hole else .payload packet.1 ts

namespace Urb

/-- The packets of an isochronous URB, described in the record or not. -/
def isoCount (e : Endian) (u : Urb) : Nat := max u.ndesc (isoNumdesc e u.setup).toNat

/-- Packet `i`: its descriptor tells, and a packet without one is missing. -/
def isoItem (e : Endian) (u : Urb) (i : Nat) : Option WireItem :=
  if i < u.ndesc ∧ u.descOffset i + 16 ≤ u.record.length then
    (u.isoPacket e i).map (WireItem.ofPacket u.ts)
  else some .hole

def isoItems (e : Endian) (u : Urb) : List WireItem :=
  if u.status ≠ 0 then [.hole] else (List.range (u.isoCount e)).filterMap (u.isoItem e)

/-! ## Bulk URBs -/

/-- All bytes of a bulk URB are in the capture. -/
def Whole (u : Urb) : Prop := u.length = 0 ∨ (u.hasData = true ∧ u.length ≤ u.data.length)

instance (u : Urb) : Decidable u.Whole := inferInstanceAs (Decidable (_ ∨ _))

/-- The bytes of a bulk URB, as far as they are known.  An errored URB lost at
least one. -/
def wireBytes (u : Urb) : List (Option UInt8) :=
  if u.status ≠ 0 then List.replicate (max 1 u.length) none
  else if u.length = 0 then []
  else if u.hasData then u.data.map some ++ List.replicate (u.length - u.data.length) none
  else List.replicate u.length none

end Urb

/-- The payload on the bus (`cur`, its first byte at `curTs`), the requested
lengths of the submissions in flight, and which completions were last cut short
by the capture. -/
structure WireState where
  cur : List (Option UInt8)
  curTs : Int
  req : Nat × Nat → Option Nat
  cutShort : Nat × Nat → Bool

def WireState.reset : WireState :=
  { cur := [], curTs := 0, req := fun _ => none, cutShort := fun _ => false }

/-- A finished payload: all of its bytes are known, or it is a hole. -/
def WireItem.ofBytes (p : List (Option UInt8) × Int) : WireItem :=
  if none ∈ p.1 then .hole else .payload p.1.reduceOption p.2

namespace WireState

def submit (s : WireState) (key : Nat × Nat) (length : Nat) : WireState :=
  { s with
    req := Function.update s.req key (some length),
    cutShort := Function.update s.cutShort key false }

/-- A bulk URB ends its payload if it is short, or if nothing tells. -/
def EndsPayload (s : WireState) (u : Urb) : Prop :=
  u.length = 0 ∨ s.req u.key = none ∨ ∃ r ∈ s.req u.key, u.length < r

instance (s : WireState) (u : Urb) : Decidable (s.EndsPayload u) :=
  inferInstanceAs (Decidable (_ ∨ _ ∨ _))

/-- The payloads a bulk URB leads to, with the unfinished rest. -/
def carried (maxPayload : Nat) (s : WireState) (u : Urb) : Peeled (Option UInt8) :=
  peel maxPayload u.ts (s.cur ++ u.wireBytes) (if s.cur = [] then u.ts else s.curTs)

/-- A completed bulk URB. -/
def bulk (maxPayload : Nat) (s : WireState) (u : Urb) : WireState × List WireItem :=
  let r := s.carried maxPayload u
  ({ cur := if s.EndsPayload u then [] else r.rest,
     curTs := r.restTs,
     req := Function.update s.req u.key none,
     cutShort := Function.update s.cutShort u.key (u.hasData && u.data.length < u.length) },
    r.fed.map WireItem.ofBytes ++
      if s.EndsPayload u ∧ r.rest ≠ [] then [WireItem.ofBytes (r.rest, r.restTs)] else [])

/-- One record of the endpoint; `e` is the byte order of the host. -/
def step (maxPayload : Nat) (s : WireState) (e : Endian) (u : Urb) :
    WireState × List WireItem :=
  if u.type = typeS then (if u.xfer = xferBulk then s.submit u.key u.length else s, [])
  else if u.type ≠ typeC then (s, [])
  else if u.xfer = xferIso then (s, u.isoItems e)
  else if u.xfer = xferBulk then s.bulk maxPayload u
  else (s, [])

end WireState

/-! ## Captures -/

/-- The record of a packet as the host wrote it, if it belongs to the endpoint. -/
def hostRecord (host : Endian) (pin : Endpoint) (p : Packet) : Option Urb :=
  if IsUsb p then (parseWith host p.linktype p.ts p.record).filter (pin.Selects ·) else none

/-- The payloads of one packet of a capture.  A usbmon record without its header may have been
any URB's. -/
def WireState.packet (host : Endian) (pin : Endpoint) (maxPayload : Nat) (s : WireState)
    (p : Packet) : WireState × List WireItem :=
  if IsUsb p ∧ p.record.length < headerLength p.linktype then (s, [.hole])
  else
    match hostRecord host pin p with
    | none => (s, [])
    | some u => s.step maxPayload host u

/-- The payloads of a capture. -/
def wireItems (host : Endian) (pin : Endpoint) (maxPayload : Nat) (s : WireState)
    (ps : List Packet) : List WireItem :=
  (Machine.history (WireState.packet host pin maxPayload) s ps).flatMap Prod.snd

theorem wireItems_cons (host : Endian) (pin : Endpoint) (maxPayload : Nat) (s : WireState)
    (p : Packet) (ps : List Packet) :
    wireItems host pin maxPayload s (p :: ps) =
      (s.packet host pin maxPayload p).2 ++
        wireItems host pin maxPayload (s.packet host pin maxPayload p).1 ps := by
  simp [wireItems, Machine.history]

end CamDriver.Uvc
