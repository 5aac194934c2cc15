import CamDriver.Uvc.BulkCuts
import CamDriver.Uvc.Sound
import CamDriver.Uvc.Wire

/-!
# CamDriver.Uvc.CaptureSound

Soundness of the extractor: the frames it yields against what was on the wire.

`Sound` says what a frame may be made of.  The walk keeps it as long as every record is
`Readable`: its header and descriptors are in the capture, it is read in the byte order of the
host that wrote it, no URB completed with an error, a bulk URB with missing bytes ends its
payload, and no payload outgrows the assembly bound.  The proof follows the extractor's bulk
state along the wire (`Tracks`) and shows that each record's operations cover the payloads on
the wire (`Covers`): a payload is fed as it was, and every hole is answered by a poisoning.
-/

namespace CamDriver.Uvc

/-! ## What was on the wire -/

def TimedPayload.item (p : TimedPayload) : WireItem := .payload p.1 p.2

/-- A frame made of complete, error-free payloads of one frame, without a hole
between them. -/
def Sound (cfg : UvcConfig) (items : List WireItem) (f : UvcFrame) : Prop :=
  ∃ pre seg post, items = pre ++ seg.map TimedPayload.item ++ post ∧ FrameFrom cfg seg f

/-! ## Readable records -/

/-- The wire, and the byte order that the parser has settled on the way. -/
structure WireWalk where
  settled : Option Endian
  wire : WireState

def WireWalk.reset : WireWalk := { settled := none, wire := .reset }

def WireWalk.step (host : Endian) (pin : Endpoint) (maxPayload : Nat) (w : WireWalk)
    (p : Packet) : WireWalk × List WireItem :=
  let r := w.wire.packet host pin maxPayload p
  ({ settled := settledAfter w.settled p, wire := r.1 }, r.2)

/-- A completed isochronous URB whose packets are all described, and read in the byte order of
the host. -/
structure IsoReadable (host : Endian) (settled : Option Endian) (u : Urb) : Prop where
  status : u.status = 0
  described : (isoNumdesc host u.setup).toNat ≤ u.ndesc
  in_record : u.descOffset u.ndesc ≤ u.record.length
  order : u.ndesc ≠ 0 → settled.getD .little = host

instance (host : Endian) (settled : Option Endian) (u : Urb) :
    Decidable (IsoReadable host settled u) :=
  decidable_of_iff (_ ∧ _ ∧ _ ∧ _)
    ⟨fun ⟨hs, hd, hr, ho⟩ => ⟨hs, hd, hr, ho⟩, fun h => ⟨h.1, h.2, h.3, h.4⟩⟩

/-- A completed bulk URB without error.  If all of its bytes are there, they
stay within the bound and its request is not a stale one; otherwise it ends its
payload. -/
structure BulkReadable (maxPayload : Nat) (w : WireState) (u : Urb) : Prop where
  status : u.status = 0
  bounded : u.length ≠ 0 → u.Whole → w.cur.length + u.data.length ≤ bulkLimit
  request : u.length ≠ 0 → u.Whole → w.req u.key = none → w.cutShort u.key = false
  ends : ¬ u.Whole → (w.bulk maxPayload u).1.cur = []

instance (maxPayload : Nat) (w : WireState) (u : Urb) :
    Decidable (BulkReadable maxPayload w u) :=
  decidable_of_iff (_ ∧ _ ∧ _ ∧ _)
    ⟨fun ⟨hs, hb, hr, he⟩ => ⟨hs, hb, hr, he⟩, fun h => ⟨h.1, h.2, h.3, h.4⟩⟩

/-- A packet that does not mislead the extractor. -/
structure Readable (host : Endian) (pin : Endpoint) (maxPayload : Nat) (w : WireWalk)
    (p : Packet) : Prop where
  header : IsUsb p → headerLength p.linktype ≤ p.record.length
  /-- a record of the endpoint is read as the host wrote it, and no other is taken for one -/
  order : selected pin w.settled p = hostRecord host pin p
  iso : ∀ u ∈ hostRecord host pin p, u.type = typeC → u.xfer = xferIso →
    IsoReadable host (settledAfter w.settled p) u
  bulk : ∀ u ∈ hostRecord host pin p, u.type = typeC → u.xfer = xferBulk →
    BulkReadable maxPayload w.wire u

instance (host : Endian) (pin : Endpoint) (maxPayload : Nat) (w : WireWalk) (p : Packet) :
    Decidable (Readable host pin maxPayload w p) :=
  decidable_of_iff (_ ∧ _ ∧ _ ∧ _)
    ⟨fun ⟨hh, ho, hi, hb⟩ => ⟨hh, ho, hi, hb⟩, fun h => ⟨h.1, h.2, h.3, h.4⟩⟩

/-! ## Covering the wire -/

/-- Operations that do not connect what the wire separates: payloads are fed in
order, and a poisoning may answer any stretch of the wire. -/
inductive Covers : List WireItem → List AsmOp → Prop where
  | nil : Covers [] []
  | feed (p : TimedPayload) (h : Covers items ops) : Covers (p.item :: items) (p.op :: ops)
  | lost (block : List WireItem) (h : Covers items ops) : Covers (block ++ items) (.lost :: ops)

namespace Covers

theorem append {items items' : List WireItem} {ops ops' : List AsmOp} (h : Covers items ops)
    (h' : Covers items' ops') : Covers (items ++ items') (ops ++ ops') := by
  induction h with
  | nil => exact h'
  | feed p _ ih => exact .feed p ih
  | lost block _ ih =>
      rw [List.append_assoc]
      exact .lost block ih

theorem map_feed (ps : List TimedPayload) :
    Covers (ps.map TimedPayload.item) (ps.map TimedPayload.op) := by
  induction ps with
  | nil => exact .nil
  | cons p ps ih => exact .feed p ih

/-- A stretch answered by one poisoning. -/
theorem poison (block : List WireItem) : Covers block [.lost] := by
  have h := Covers.lost block .nil
  rwa [List.append_nil] at h

theorem overrun_not_mem {items : List WireItem} {ops : List AsmOp} (h : Covers items ops) :
    .overrun ∉ ops := by
  induction h with
  | nil => simp
  | feed p _ ih => simpa [TimedPayload.op] using ih
  | lost block _ ih => simpa using ih

/-- What was fed in one go was on the wire in one go. -/
theorem split_feed {seg : List TimedPayload} {items : List WireItem} {post : List AsmOp}
    (h : Covers items (seg.map TimedPayload.op ++ post)) :
    ∃ items', items = seg.map TimedPayload.item ++ items' ∧ Covers items' post := by
  induction seg generalizing items with
  | nil => exact ⟨items, rfl, h⟩
  | cons p seg ih =>
      generalize hops : (p :: seg).map TimedPayload.op ++ post = ops at h
      cases h with
      | nil => simp at hops
      | feed q h =>
          simp only [List.map_cons, List.cons_append, List.cons.injEq] at hops
          obtain ⟨hpq, rfl⟩ := hops
          obtain ⟨items', rfl, h'⟩ := ih h
          have hpq : p = q := by
            simp only [TimedPayload.op, AsmOp.feed.injEq] at hpq
            exact Prod.ext hpq.1 hpq.2
          exact ⟨items', by rw [hpq]; rfl, h'⟩
      | lost => simp [TimedPayload.op] at hops

theorem split {pre post : List AsmOp} {items : List WireItem} (h : Covers items (pre ++ post)) :
    ∃ items₁ items₂, items = items₁ ++ items₂ ∧ Covers items₂ post := by
  induction pre generalizing items with
  | nil => exact ⟨[], items, rfl, h⟩
  | cons op pre ih =>
      generalize hops : op :: pre ++ post = ops at h
      cases h with
      | nil => simp at hops
      | feed q h =>
          simp only [List.cons_append, List.cons.injEq] at hops
          obtain ⟨-, rfl⟩ := hops
          obtain ⟨items₁, items₂, rfl, h'⟩ := ih h
          exact ⟨q.item :: items₁, items₂, rfl, h'⟩
      | lost block h =>
          simp only [List.cons_append, List.cons.injEq] at hops
          obtain ⟨-, rfl⟩ := hops
          obtain ⟨items₁, items₂, rfl, h'⟩ := ih h
          exact ⟨block ++ items₁, items₂, by rw [List.append_assoc], h'⟩

/-- **Transfer**: what is emitted from covering operations is sound. -/
theorem sound {cfg : UvcConfig} {items : List WireItem} {ops : List AsmOp} {f : UvcFrame}
    (h : Covers items ops) (hf : Emitted cfg ops f) : Sound cfg items f := by
  obtain ⟨pre, seg, post, rfl, hfrom⟩ := hf
  rw [List.append_assoc] at h
  obtain ⟨items₁, items₂, rfl, h₂⟩ := h.split
  obtain ⟨items₃, rfl, -⟩ := h₂.split_feed
  exact ⟨items₁, seg, items₃, by rw [List.append_assoc], hfrom⟩

end Covers

/-! ## Isochronous completions -/

theorem covers_packets (ts : Int) (f : Nat → Option (List UInt8 × Bool)) (is : List Nat) :
    Covers (is.filterMap fun i => (f i).map (WireItem.ofPacket ts))
      ((is.filterMap f).map fun packet =>
        if packet.2 then AsmOp.lost else .feed packet.1 ts) := by
  induction is with
  | nil => exact .nil
  | cons i is ih =>
      cases hf : f i with
      | none => simpa [hf] using ih
      | some packet =>
          obtain ⟨bytes, lost⟩ := packet
          cases lost with
          | false =>
              simpa [hf, WireItem.ofPacket, TimedPayload.item, TimedPayload.op] using
                Covers.feed (bytes, ts) ih
          | true => simpa [hf, WireItem.ofPacket] using Covers.lost [.hole] ih

/-- A readable isochronous URB is covered packet by packet. -/
theorem covers_iso {host : Endian} {settled : Option Endian} {u : Urb}
    (h : IsoReadable host settled u) :
    Covers (u.isoItems host) (Walk.isoOps (settled.getD .little) u) := by
  have hcount : u.isoCount host = u.ndesc := Nat.max_eq_left h.described
  have hdesc : ∀ i ∈ List.range u.ndesc, u.descOffset i + 16 ≤ u.record.length := by
    intro i hi
    have hi := List.mem_range.mp hi
    have hin := h.in_record
    simp only [Urb.descOffset] at hin ⊢
    omega
  have hitems : u.isoItems host = (List.range u.ndesc).filterMap
      fun i => (u.isoPacket host i).map (WireItem.ofPacket u.ts) := by
    rw [Urb.isoItems, if_neg (by simp [h.status]), hcount]
    refine List.filterMap_congr fun i hi => ?_
    rw [Urb.isoItem, if_pos ⟨List.mem_range.mp hi, hdesc i hi⟩]
  have hpayloads (e : Endian) :
      u.isoPayloads e = (List.range u.ndesc).filterMap (u.isoPacket e) := by
    rw [Urb.isoPayloads, List.takeWhile_eq_self_iff.mpr (by simpa using hdesc)]
  rw [hitems, Walk.isoOps, hpayloads]
  by_cases hnone : u.ndesc = 0
  · rw [hnone]
    exact .nil
  · rw [h.order hnone]
    exact covers_packets u.ts (u.isoPacket host) (List.range u.ndesc)

/-! ## Bulk completions -/

/-- The extractor's bulk state follows the payload on the bus.  A submission
whose completion the capture cut short is not forgotten. -/
structure Tracks (maxPayload : Nat) (b : BulkState) (w : WireState) : Prop where
  cur : w.cur = b.pending.map some
  cont : b.cont = decide (b.pending ≠ [])
  ts : b.pending ≠ [] → b.pendingTs = w.curTs
  length_lt : maxPayload ≠ 0 → b.pending.length < maxPayload
  req : ∀ key, b.req key = w.req key ∨ (w.req key = none ∧ w.cutShort key = true)

theorem Tracks.reset (maxPayload : Nat) : Tracks maxPayload .reset .reset :=
  ⟨rfl, rfl, fun h => absurd rfl h, Nat.pos_of_ne_zero, fun _ => .inl rfl⟩

theorem Tracks.submit {maxPayload : Nat} {b : BulkState} {w : WireState}
    (h : Tracks maxPayload b w) (key : Nat × Nat) (length : Nat) :
    Tracks maxPayload (b.submit key length) (w.submit key length) := by
  refine { h with req := fun key' => ?_ }
  by_cases hk : key' = key
  · left
    simp [BulkState.submit, WireState.submit, hk]
  · simpa [BulkState.submit, WireState.submit, hk] using h.req key'

/-- Both request tables after a completion. -/
theorem Tracks.req_complete {maxPayload : Nat} {b : BulkState} {w : WireState}
    (h : Tracks maxPayload b w) (u : Urb) (cut : Bool) (key : Nat × Nat) :
    (b.popReq u.key).req key = Function.update w.req u.key none key ∨
      (Function.update w.req u.key none key = none ∧
        Function.update w.cutShort u.key cut key = true) := by
  by_cases hk : key = u.key
  · left
    simp [BulkState.popReq, hk]
  · simpa [BulkState.popReq, hk] using h.req key

@[simp] theorem WireItem.ofBytes_map_some (bytes : List UInt8) (ts : Int) :
    WireItem.ofBytes (bytes.map some, ts) = TimedPayload.item (bytes, ts) := by
  simp [WireItem.ofBytes, TimedPayload.item, List.reduceOption, List.filterMap_map]

theorem map_ofBytes (fed : List TimedPayload) :
    (fed.map fun p => (p.1.map some, p.2)).map WireItem.ofBytes = fed.map TimedPayload.item := by
  rw [List.map_map]
  exact List.map_congr_left fun p _ => WireItem.ofBytes_map_some p.1 p.2

/-- A URB with missing bytes that ends its payload is answered by a poisoning. -/
theorem bulk_not_whole {maxPayload : Nat} {b : BulkState} {w : WireState} {u : Urb}
    (h : Tracks maxPayload b w) (hu : BulkReadable maxPayload w u) (hwhole : ¬ u.Whole) :
    Covers (w.bulk maxPayload u).2 (b.feedBulk maxPayload u u.ts).2 ∧
      Tracks maxPayload (b.feedBulk maxPayload u u.ts).1 (w.bulk maxPayload u).1 := by
  have hcur := hu.ends hwhole
  rw [Urb.Whole, not_or] at hwhole
  obtain ⟨hlen, hwhole⟩ := hwhole
  by_cases hdata : u.hasData = true
  · have hshort : u.data.length < u.length := by
      rw [not_and] at hwhole
      have := hwhole hdata
      omega
    simp only [BulkState.feedBulk, if_neg hlen, hdata, not_true_eq_false, if_false, if_pos hshort]
    refine ⟨.poison _, hcur, rfl, fun h => absurd rfl h, Nat.pos_of_ne_zero, fun key => ?_⟩
    by_cases hk : key = u.key
    · right
      simp [WireState.bulk, hk, hdata, hshort]
    · simpa [WireState.bulk, BulkState.clear, hk] using h.req key
  · simp only [BulkState.feedBulk, if_neg hlen, if_pos hdata]
    exact ⟨.poison _, hcur, rfl, fun h => absurd rfl h, Nat.pos_of_ne_zero, h.req_complete u _⟩

/-- A zero-length URB ends the payload on the bus. -/
theorem bulk_zero {maxPayload : Nat} {b : BulkState} {w : WireState} {u : Urb}
    (h : Tracks maxPayload b w) (hstatus : u.status = 0) (hlen : u.length = 0) :
    Covers (w.bulk maxPayload u).2 (b.feedBulk maxPayload u u.ts).2 ∧
      Tracks maxPayload (b.feedBulk maxPayload u u.ts).1 (w.bulk maxPayload u).1 := by
  have hbytes : u.wireBytes = [] := by simp [Urb.wireBytes, hstatus, hlen]
  have hends : w.EndsPayload u := .inl hlen
  have hcarried : w.carried maxPayload u =
      { fed := [], rest := b.pending.map some,
        restTs := if w.cur = [] then u.ts else w.curTs } := by
    rw [WireState.carried, hbytes, List.append_nil, h.cur, peel_of_lt]
    simpa using h.length_lt
  simp only [WireState.bulk, BulkState.feedBulk, if_pos hlen, hcarried, hends, true_and,
    List.map_nil, List.nil_append]
  refine ⟨?_, rfl, rfl, fun h => absurd rfl h, Nat.pos_of_ne_zero, h.req_complete u _⟩
  by_cases hp : b.pending = []
  · simpa [hp] using Covers.nil
  · have hcur : w.cur ≠ [] := by simpa [h.cur] using hp
    rw [if_pos (by simpa using hp), if_neg hcur, ← h.ts hp, if_pos ⟨by simp [h.cont, hp], hp⟩,
      WireItem.ofBytes_map_some]
    exact .feed (b.pending, b.pendingTs) .nil

/-- A URB with all of its bytes is cut up as the bus did it. -/
theorem bulk_append {maxPayload : Nat} {b : BulkState} {w : WireState} {u : Urb}
    (h : Tracks maxPayload b w) (hu : BulkReadable maxPayload w u) (hwhole : u.Whole)
    (hlen : u.length ≠ 0) :
    Covers (w.bulk maxPayload u).2 (b.append maxPayload u u.ts).2 ∧
      Tracks maxPayload (b.append maxPayload u u.ts).1 (w.bulk maxPayload u).1 := by
  obtain ⟨hdata, hlong⟩ : u.hasData = true ∧ u.length ≤ u.data.length := hwhole.resolve_left hlen
  have hbytes : u.wireBytes = u.data.map some := by
    have hz : u.length - u.data.length = 0 := by omega
    simp [Urb.wireBytes, hu.status, hlen, hdata, hz]
  have hpending : (if b.cont then b.pending else []) = b.pending := by
    by_cases hp : b.pending = [] <;> simp [h.cont, hp]
  have hts : (if b.cont then b.pendingTs else u.ts) = if w.cur = [] then u.ts else w.curTs := by
    by_cases hp : b.pending = []
    · simp [h.cont, h.cur, hp]
    · simp [h.cont, h.cur, hp, h.ts hp]
  have hreq : b.req u.key = w.req u.key := by
    rcases h.req u.key with heq | ⟨hnone, hcut⟩
    · exact heq
    · rw [hu.request hlen hwhole hnone] at hcut
      cases hcut
  have hover : ¬ bulkLimit < (b.pending ++ u.data).length := by
    have hle := hu.bounded hlen hwhole
    rw [h.cur, List.length_map] at hle
    rw [List.length_append]
    omega
  have hends : ((∃ r ∈ b.req u.key, u.length < r) ∨ b.req u.key = none) ↔ w.EndsPayload u := by
    rw [hreq, WireState.EndsPayload, or_iff_right hlen, or_comm]
  simp only [WireState.bulk, WireState.carried, BulkState.append, hpending, hts, hbytes, h.cur,
    ← List.map_append, peel_map, if_neg hover, List.map_eq_nil_iff]
  generalize hr : peel maxPayload u.ts (b.pending ++ u.data)
    (if b.pending = [] then u.ts else w.curTs) = r
  have hrest : maxPayload ≠ 0 → r.rest.length < maxPayload := fun h0 => by
    rw [← hr]
    exact length_rest_peel maxPayload u.ts _ _ h0
  rw [map_ofBytes]
  by_cases hend : w.EndsPayload u
  · rw [if_pos (hends.mpr hend), if_pos hend]
    refine ⟨?_, rfl, rfl, fun h => absurd rfl h, Nat.pos_of_ne_zero, h.req_complete u _⟩
    by_cases hnil : r.rest = []
    · rw [if_pos hnil, if_neg (fun hc => hc.2 (by simpa using hnil)), List.append_nil]
      exact Covers.map_feed r.fed
    · rw [if_neg hnil, if_pos ⟨hend, by simpa using hnil⟩, WireItem.ofBytes_map_some]
      exact (Covers.map_feed r.fed).append (.feed (r.rest, r.restTs) .nil)
  · rw [if_neg (fun hc => hend (hends.mp hc)), if_neg hend, if_neg (fun hc => hend hc.1),
      List.append_nil]
    exact ⟨.map_feed r.fed, rfl, by simp, fun _ => rfl, hrest, h.req_complete u _⟩

/-- **Bulk step**: a readable completion keeps the extractor on the bus. -/
theorem covers_bulk {maxPayload : Nat} {b : BulkState} {w : WireState} {u : Urb}
    (h : Tracks maxPayload b w) (hu : BulkReadable maxPayload w u) :
    Covers (w.bulk maxPayload u).2 (b.feedBulk maxPayload u u.ts).2 ∧
      Tracks maxPayload (b.feedBulk maxPayload u u.ts).1 (w.bulk maxPayload u).1 := by
  by_cases hwhole : u.Whole
  · by_cases hlen : u.length = 0
    · exact bulk_zero h hu.status hlen
    · obtain ⟨hdata, hlong⟩ := hwhole.resolve_left hlen
      have heq : b.feedBulk maxPayload u u.ts = b.append maxPayload u u.ts := by
        simp [BulkState.feedBulk, hlen, hdata, hlong]
      rw [heq]
      exact bulk_append h hu hwhole hlen
  · exact bulk_not_whole h hu hwhole

/-! ## Captures -/

/-- The walk of the extractor beside the wire. -/
structure WalkTracks (maxPayload : Nat) (x : Walk) (w : WireWalk) : Prop where
  settled : x.settled = w.settled
  bulk : Tracks maxPayload x.bulk w.wire

/-- **Packet step**: the operations of a readable packet cover what it put on
the wire. -/
theorem covers_packet {host : Endian} {pin : Endpoint} {maxPayload : Nat} {x : Walk}
    {w : WireWalk} {p : Packet} (h : WalkTracks maxPayload x w)
    (hp : Readable host pin maxPayload w p) :
    Covers (w.step host pin maxPayload p).2 (x.step pin maxPayload p).2 ∧
      WalkTracks maxPayload (x.step pin maxPayload p).1 (w.step host pin maxPayload p).1 := by
  have hheader : ¬ (IsUsb p ∧ p.record.length < headerLength p.linktype) := fun ⟨husb, hlt⟩ => by
    have hle := hp.header husb
    omega
  simp only [WireWalk.step, WireState.packet, Walk.step, h.settled, hp.order, if_neg hheader]
  cases hsel : hostRecord host pin p with
  | none => exact ⟨.nil, rfl, h.bulk⟩
  | some u =>
      simp only [Walk.record, WireState.step]
      by_cases hs : u.type = typeS
      · by_cases hx : u.xfer = xferBulk
        · simpa [hs, hx] using ⟨Covers.nil, rfl, h.bulk.submit u.key u.length⟩
        · simpa [hs, hx] using ⟨Covers.nil, rfl, h.bulk⟩
      · by_cases hc : u.type = typeC
        · by_cases hi : u.xfer = xferIso
          · simp only [hc, if_pos hi]
            exact ⟨covers_iso (hp.iso u hsel hc hi), rfl, h.bulk⟩
          · by_cases hb : u.xfer = xferBulk
            · obtain ⟨hcov, htracks⟩ := covers_bulk h.bulk (hp.bulk u hsel hc hb)
              simp only [hc, if_neg hi, if_pos hb]
              exact ⟨hcov, rfl, htracks⟩
            · simpa [hs, hc, hi, hb] using ⟨Covers.nil, rfl, h.bulk⟩
        · simpa [hs, hc] using ⟨Covers.nil, rfl, h.bulk⟩

/-- **Capture run**: as long as every packet is readable, the operations of the
walk cover the wire. -/
theorem covers_of_readable {host : Endian} {pin : Endpoint} {maxPayload : Nat} {ps : List Packet}
    {x : Walk} {w : WireWalk} (h : WalkTracks maxPayload x w)
    (hps : Machine.Meets (WireWalk.step host pin maxPayload) (Readable host pin maxPayload)
      w ps) :
    Covers (wireItems host pin maxPayload w.wire ps) (walkOps pin maxPayload x ps) := by
  induction ps generalizing x w with
  | nil => exact .nil
  | cons p ps ih =>
      obtain ⟨hcov, htracks⟩ := covers_packet h hps.1
      rw [wireItems_cons, walkOps_cons]
      exact hcov.append (ih htracks hps.2)

/-- A completion on endpoint 1 of device 2 on bus 1. -/
def bulkPacket (ts : Int) (status : Nat) (data : List UInt8) : Packet :=
  { linktype := linktypeUsbmon64, ts, record := bulkHeader 7 status data.length ++ data }

/-- The first and the last payload of a JPEG; the one between them completed
with `-EPROTO` and no data. -/
def erroredCapture : List Packet :=
  [bulkPacket 10 0 [2, 0, 0xff, 0xd8, 7], bulkPacket 11 (2 ^ 32 - 71) [],
    bulkPacket 12 0 [2, 2, 0xff, 0xd9]]

/-- The same payloads with nothing between them. -/
def cleanCapture : List Packet :=
  [bulkPacket 10 0 [2, 0, 0xff, 0xd8, 7], bulkPacket 12 0 [2, 2, 0xff, 0xd9]]

def mjpegConfig : UvcConfig :=
  { expectedSize := none, mjpeg := true, maxPayload := 0, strict := false }

end CamDriver.Uvc
