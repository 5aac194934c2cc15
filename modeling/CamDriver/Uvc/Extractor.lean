import CamDriver.Uvc.Bulk

/-!
# CamDriver.Uvc.Extractor

`UvcFrameExtractor.__iter__`: the walk over the packets of a capture.  Records
of other devices and endpoints are skipped, submissions are noted, and every
completion becomes assembler operations that are applied at once.
-/

namespace CamDriver.Uvc

/-- The stream an extractor is pinned to. -/
structure Endpoint where
  bus : Nat
  dev : Nat
  ep : Nat
deriving DecidableEq, Repr

/-- `_USB_LINKTYPES`. -/
def IsUsb (p : Packet) : Prop :=
  p.linktype = linktypeUsbmon64 ∨ p.linktype = linktypeUsbmon48

instance (p : Packet) : Decidable (IsUsb p) := inferInstanceAs (Decidable (_ ∨ _))

/-- An IN record of the endpoint. -/
def Endpoint.Selects (pin : Endpoint) (u : Urb) : Prop :=
  u.dev = pin.dev ∧ u.bus = pin.bus ∧ u.isIn = true ∧ u.ep = pin.ep % 128

instance (pin : Endpoint) (u : Urb) : Decidable (pin.Selects u) :=
  inferInstanceAs (Decidable (_ ∧ _ ∧ _ ∧ _))

/-- The record of a packet, if it belongs to the endpoint. -/
def selected (pin : Endpoint) (settled : Option Endian) (p : Packet) : Option Urb :=
  if IsUsb p then (parse settled p.linktype p.ts p.record).2.filter (pin.Selects ·) else none

/-- The byte order that is settled after a packet. -/
def settledAfter (settled : Option Endian) (p : Packet) : Option Endian :=
  if IsUsb p then (parse settled p.linktype p.ts p.record).1 else settled

/-- What the walk keeps besides the assembler. -/
structure Walk where
  settled : Option Endian
  bulk : BulkState
  urbs : Nat
  firstTs : Option Int
  lastTs : Option Int

def Walk.reset : Walk :=
  { settled := none, bulk := .reset, urbs := 0, firstTs := none, lastTs := none }

namespace Walk

/-- A completion is counted, with its time. -/
def noteUrb (w : Walk) (ts : Int) : Walk :=
  { w with urbs := w.urbs + 1, firstTs := w.firstTs.or (some ts), lastTs := some ts }

/-- The operations of an isochronous completion. -/
def isoOps (e : Endian) (u : Urb) : List AsmOp :=
  (u.isoPayloads e).map fun packet => if packet.2 then .lost else .feed packet.1 u.ts

/-- A record of the endpoint. -/
def record (maxPayload : Nat) (w : Walk) (u : Urb) : Walk × List AsmOp :=
  if u.type = typeS then
    (if u.xfer = xferBulk then { w with bulk := w.bulk.submit u.key u.length } else w, [])
  else if u.type ≠ typeC then (w, [])
  else
    let w := w.noteUrb u.ts
    if u.xfer = xferIso then (w, isoOps (w.settled.getD .little) u)
    else if u.xfer = xferBulk then
      let r := w.bulk.feedBulk maxPayload u u.ts
      ({ w with bulk := r.1 }, r.2)
    else (w, [])

/-- One round of the loop over `iter_packets`. -/
def step (pin : Endpoint) (maxPayload : Nat) (w : Walk) (p : Packet) : Walk × List AsmOp :=
  let w' := { w with settled := settledAfter w.settled p }
  match selected pin w.settled p with
  | none => (w', [])
  | some u => w'.record maxPayload u

end Walk

/-- The extractor: the walk and the assembler it drives. -/
structure Extractor where
  walk : Walk
  asm : Assembler

def Extractor.reset : Extractor := { walk := .reset, asm := .reset }

/-- One packet: its operations are applied and the frames they complete yielded. -/
def Extractor.step (pin : Endpoint) (cfg : UvcConfig) (x : Extractor) (p : Packet) :
    Extractor × List UvcFrame :=
  let r := x.walk.step pin cfg.maxPayload p
  ({ walk := r.1, asm := asmFinal cfg x.asm r.2 }, asmFrames cfg x.asm r.2)

/-- The frames an extractor yields for the packets of a capture. -/
def extractFrames (pin : Endpoint) (cfg : UvcConfig) (ps : List Packet) : List UvcFrame :=
  (Machine.history (Extractor.step pin cfg) .reset ps).flatMap Prod.snd

/-- The assembler operations of a walk. -/
def walkOps (pin : Endpoint) (maxPayload : Nat) (w : Walk) (ps : List Packet) : List AsmOp :=
  (Machine.history (Walk.step pin maxPayload) w ps).flatMap Prod.snd

theorem walkOps_cons (pin : Endpoint) (maxPayload : Nat) (w : Walk) (p : Packet)
    (ps : List Packet) :
    walkOps pin maxPayload w (p :: ps) =
      (w.step pin maxPayload p).2 ++ walkOps pin maxPayload (w.step pin maxPayload p).1 ps := by
  simp [walkOps, Machine.history]

/-- Extraction is assembly of the walk's operations. -/
theorem extractFrames_eq (pin : Endpoint) (cfg : UvcConfig) (ps : List Packet) :
    extractFrames pin cfg ps = asmFrames cfg .reset (walkOps pin cfg.maxPayload .reset ps) := by
  suffices h : ∀ x : Extractor,
      (Machine.history (Extractor.step pin cfg) x ps).flatMap Prod.snd =
        asmFrames cfg x.asm (walkOps pin cfg.maxPayload x.walk ps) from h .reset
  induction ps with
  | nil => exact fun _ => rfl
  | cons p ps ih =>
      intro x
      rw [walkOps_cons, asmFrames_append, Machine.history, List.flatMap_cons, ih]
      rfl

end CamDriver.Uvc
