import CamDriver.Uvc.Bulk

/-!
# CamDriver.Uvc.BulkCuts

How a bus may cut bulk payloads into URBs (`Carry`, `Cut`), and when
`_feed_bulk` puts them together again.

A payload ends in a short URB, in a zero-length one, or by reaching
`max_payload`; only in the last case the next one may start in the same URB.
The assembler follows any such cut, except that it compares the pending bytes
with its 64 MiB bound before it peels whole payloads off them: one URB that
finishes a payload and carries enough of the next ones is thrown away.
-/

namespace CamDriver.Uvc

/-- A payload on the bus, with the time of the URB that carries its first byte. -/
structure BulkPayload where
  bytes : List UInt8
  ts : Int
deriving DecidableEq, Repr

/-! ## Legal cuts -/

/-- A URB of time `ts` carries the bytes `d`.  Before it `sent` of the first of
`ps` is on the bus already, after it `sent'` of the first of `ps'`. -/
inductive Carry (maxPayload : Nat) (ts : Int) :
    List UInt8 → List BulkPayload → List UInt8 → List UInt8 → List BulkPayload → Prop where
  | nothing : Carry maxPayload ts sent ps [] sent ps
  | part (hd : d ≠ []) (hpre : sent ++ d <+: p.bytes) (hmax : (sent ++ d).length ≠ maxPayload)
      (hts : sent = [] → p.ts = ts) : Carry maxPayload ts sent (p :: ps) d (sent ++ d) (p :: ps)
  | full (hall : sent ++ d = p.bytes) (hmax : p.bytes.length = maxPayload)
      (hts : sent = [] → p.ts = ts) (h : Carry maxPayload ts [] ps d' sent' ps') :
      Carry maxPayload ts sent (p :: ps) (d ++ d') sent' ps'

/-- The payload on the bus, if there is one, is complete. -/
inductive Ends : List UInt8 → List BulkPayload → List BulkPayload → Prop where
  | idle : Ends [] ps ps
  | last (p : BulkPayload) (h : p.bytes = sent) : Ends sent (p :: ps) ps

/-- A completion with all of its bytes in the capture. -/
structure Urb.Captured (u : Urb) : Prop where
  length_pos : u.length ≠ 0
  hasData : u.hasData = true
  length_data : u.data.length = u.length

/-- The records of a bus that sends `ps`, `sent` of the first one before them.
The last argument lists, for each data URB, the unfinished bytes it finds and
its own. -/
inductive Cut (maxPayload : Nat) : (Nat × Nat → Option Nat) → List UInt8 → List BulkPayload →
    List BulkEvent → List Nat → Prop where
  | done : Cut maxPayload req [] [] [] []
  | submit (h : Cut maxPayload (Function.update req key (some length)) sent ps evs loads) :
      Cut maxPayload req sent ps (.submit key length :: evs) loads
  | zlp (hlen : u.length = 0) (hend : Ends sent ps ps')
      (h : Cut maxPayload (Function.update req u.key none) [] ps' evs loads) :
      Cut maxPayload req sent ps (.complete u :: evs) loads
  | full (hcap : u.Captured) (hreq : req u.key = some u.length)
      (hc : Carry maxPayload u.ts sent ps u.data sent' ps')
      (h : Cut maxPayload (Function.update req u.key none) sent' ps' evs loads) :
      Cut maxPayload req sent ps (.complete u :: evs) ((sent.length + u.length) :: loads)
  | short (hcap : u.Captured) (hreq : req u.key = some r) (hlt : u.length < r)
      (hc : Carry maxPayload u.ts sent ps u.data sent' ps') (hend : Ends sent' ps' ps'')
      (h : Cut maxPayload (Function.update req u.key none) [] ps'' evs loads) :
      Cut maxPayload req sent ps (.complete u :: evs) ((sent.length + u.length) :: loads)

/-! ## Following a cut -/

/-- What `_feed_bulk` passes to `_feed`. -/
def AsmOp.fed : AsmOp → Option (List UInt8 × Int)
  | .feed payload ts => some (payload, ts)
  | _ => none

def fedPayloads (ops : List AsmOp) : List (List UInt8 × Int) := ops.filterMap AsmOp.fed

def BulkPayload.op (p : BulkPayload) : AsmOp := .feed p.bytes p.ts

/-- What is fed, in two parts. -/
theorem fedPayloads_append (ops ops' : List AsmOp) :
    fedPayloads (ops ++ ops') = fedPayloads ops ++ fedPayloads ops' :=
  List.filterMap_append

@[simp] theorem fedPayloads_map_op (ps : List BulkPayload) :
    fedPayloads (ps.map BulkPayload.op) = ps.map fun p => (p.bytes, p.ts) := by
  induction ps with
  | nil => rfl
  | cons p ps ih => rw [List.map_cons, List.map_cons, ← ih]; rfl

/-- Payloads are not empty, and not longer than `max_payload` if it is set. -/
def Sizes (maxPayload : Nat) (ps : List BulkPayload) : Prop :=
  ∀ p ∈ ps, p.bytes ≠ [] ∧ (maxPayload ≠ 0 → p.bytes.length ≤ maxPayload)

instance (maxPayload : Nat) (ps : List BulkPayload) : Decidable (Sizes maxPayload ps) := by
  unfold Sizes; infer_instance

/-- Time and prefix of the payload on the bus. -/
def Started (sent : List UInt8) (ps : List BulkPayload) (ts : Int) : Prop :=
  sent ≠ [] → ∃ p ∈ ps.head?, p.ts = ts ∧ sent <+: p.bytes

/-- **Peeling follows the bus**: the loop cuts off exactly the payloads a URB
completes by reaching `max_payload`. -/
theorem peel_of_carry {maxPayload : Nat} {ts : Int} {sent d sent' : List UInt8}
    {ps ps' : List BulkPayload} (h : Carry maxPayload ts sent ps d sent' ps') {pendingTs : Int}
    (hsize : Sizes maxPayload ps) (hstart : Started sent ps pendingTs)
    (hlt : maxPayload ≠ 0 → sent.length < maxPayload) (hts : sent = [] → pendingTs = ts) :
    ∃ fin ts', ps = fin ++ ps' ∧ Started sent' ps' ts' ∧
      (maxPayload ≠ 0 → sent'.length < maxPayload) ∧
      peel maxPayload ts (sent ++ d) pendingTs =
        { fed := fin.map fun p => (p.bytes, p.ts), rest := sent', restTs := ts' } := by
  induction h generalizing pendingTs with
  | nothing =>
      exact ⟨[], pendingTs, rfl, hstart, hlt, by rw [List.append_nil, peel_of_lt _ _ hlt]; rfl⟩
  | @part d sent p ps hd hpre hmax hpts =>
      have hlt' : maxPayload ≠ 0 → (sent ++ d).length < maxPayload := fun h0 => by
        have hle := (hsize p List.mem_cons_self).2 h0
        have := hpre.length_le
        omega
      refine ⟨[], pendingTs, rfl, fun _ => ⟨p, rfl, ?_, hpre⟩, hlt',
        by rw [peel_of_lt _ _ hlt']; rfl⟩
      by_cases hs : sent = []
      · rw [hpts hs, hts hs]
      · obtain ⟨q, hq, hqts, -⟩ := hstart hs
        cases hq
        exact hqts
  | @full sent d ps d' sent' ps' p hall hmax hpts _ ih =>
      have h0 : maxPayload ≠ 0 := fun h0 => (hsize p List.mem_cons_self).1 <| by
        rw [← List.length_eq_zero_iff, hmax, h0]
      obtain ⟨fin, ts', hps, hst, hlt', hpeel⟩ := @ih ts
        (fun q hq => hsize q (List.mem_cons_of_mem _ hq)) (fun h => absurd rfl h)
        (fun _ => Nat.pos_of_ne_zero h0) (fun _ => rfl)
      refine ⟨p :: fin, ts', by rw [hps]; rfl, hst, hlt', ?_⟩
      have hpt : pendingTs = p.ts := by
        by_cases hs : sent = []
        · rw [hpts hs, hts hs]
        · obtain ⟨q, hq, hqts, -⟩ := hstart hs
          cases hq
          exact hqts.symm
      rw [List.nil_append] at hpeel
      rw [← List.append_assoc, hall, peel_append hmax h0, hpeel, hpt]
      rfl

/-- The bulk state between two records of a cut. -/
structure Sync (maxPayload : Nat) (s : BulkState) (req : Nat × Nat → Option Nat)
    (sent : List UInt8) (ps : List BulkPayload) : Prop where
  req_eq : s.req = req
  pending : s.pending = sent
  cont : s.cont = decide (sent ≠ [])
  started : Started sent ps s.pendingTs
  length_lt : maxPayload ≠ 0 → sent.length < maxPayload

/-- Nothing has been sent yet. -/
theorem Sync.reset (maxPayload : Nat) (ps : List BulkPayload) :
    Sync maxPayload .reset (fun _ => none) [] ps :=
  ⟨rfl, rfl, rfl, fun h => absurd rfl h, Nat.pos_of_ne_zero⟩

/-- A payload has ended. -/
theorem Sync.idle {maxPayload : Nat} {s : BulkState} (req : Nat × Nat → Option Nat)
    (ps : List BulkPayload) (hreq : s.req = req) : Sync maxPayload s.clear req [] ps :=
  ⟨hreq, rfl, rfl, fun h => absurd rfl h, Nat.pos_of_ne_zero⟩

/-! ## One record -/

/-- What ends a payload flushes it. -/
theorem flush_of_ends {maxPayload : Nat} {sent : List UInt8} {ps ps' : List BulkPayload} {ts : Int}
    (h : Ends sent ps ps') (hsize : Sizes maxPayload ps) (hstart : Started sent ps ts) :
    ∃ fin, ps = fin ++ ps' ∧
      (if sent = [] then [] else [AsmOp.feed sent ts]) = fin.map BulkPayload.op := by
  cases h with
  | idle => exact ⟨[], rfl, rfl⟩
  | last p hp =>
      have hne : sent ≠ [] := hp ▸ (hsize p List.mem_cons_self).1
      obtain ⟨q, hq, hqts, -⟩ := hstart hne
      cases hq
      exact ⟨[p], rfl, by rw [if_neg hne, ← hp, ← hqts]; rfl⟩

/-- A zero-length URB. -/
theorem zlp_step {maxPayload : Nat} {s : BulkState} {req : Nat × Nat → Option Nat}
    {sent : List UInt8} {ps ps' : List BulkPayload} {u : Urb} (hs : Sync maxPayload s req sent ps)
    (hsize : Sizes maxPayload ps) (hlen : u.length = 0) (hend : Ends sent ps ps') :
    ∃ fin, ps = fin ++ ps' ∧
      (bulkStep maxPayload s (.complete u)).2 = fin.map BulkPayload.op ∧
      Sync maxPayload (bulkStep maxPayload s (.complete u)).1
        (Function.update req u.key none) [] ps' := by
  obtain ⟨fin, hps, hflush⟩ := flush_of_ends hend hsize hs.started
  refine ⟨fin, hps, ?_, ?_⟩
  · rw [← hflush]
    by_cases hne : sent = [] <;> simp [bulkStep, BulkState.feedBulk, hlen, hs.pending, hs.cont, hne]
  · simp only [bulkStep, BulkState.feedBulk, if_pos hlen]
    exact Sync.idle _ _ (by simp [BulkState.popReq, hs.req_eq])

/-- The buffer a data URB leads to, and what is peeled off it. -/
theorem peel_of_sync {maxPayload : Nat} {s : BulkState} {req : Nat × Nat → Option Nat}
    {sent sent' : List UInt8} {ps ps' : List BulkPayload} {u : Urb}
    (hs : Sync maxPayload s req sent ps) (hsize : Sizes maxPayload ps)
    (hc : Carry maxPayload u.ts sent ps u.data sent' ps') :
    ∃ fin ts', ps = fin ++ ps' ∧ Started sent' ps' ts' ∧
      (maxPayload ≠ 0 → sent'.length < maxPayload) ∧
      peel maxPayload u.ts ((if s.cont then s.pending else []) ++ u.data)
          (if s.cont then s.pendingTs else u.ts) =
        { fed := fin.map fun p => (p.bytes, p.ts), rest := sent', restTs := ts' } := by
  rw [hs.cont, hs.pending]
  by_cases hne : sent = []
  · subst hne
    exact peel_of_carry hc hsize (fun h => absurd rfl h) hs.length_lt (fun _ => rfl)
  · have hp := peel_of_carry hc hsize hs.started hs.length_lt (fun h => absurd h hne)
    simpa [hne] using hp

/-- A captured URB is appended unless it overruns the bound. -/
theorem bulkStep_captured {maxPayload : Nat} {s : BulkState} {u : Urb} (hcap : u.Captured) :
    bulkStep maxPayload s (.complete u) = s.append maxPayload u u.ts := by
  have hlen : ¬ u.data.length < u.length := by rw [hcap.length_data]; omega
  simp [bulkStep, BulkState.feedBulk, hcap.length_pos, hcap.hasData, hlen]

/-- What is pending and comes is as long as both. -/
theorem length_appended {maxPayload : Nat} {s : BulkState} {req : Nat × Nat → Option Nat}
    {sent : List UInt8} {ps : List BulkPayload} {u : Urb} (hs : Sync maxPayload s req sent ps)
    (hcap : u.Captured) :
    ((if s.cont then s.pending else []) ++ u.data).length = sent.length + u.length := by
  rw [hs.cont, hs.pending, List.length_append, hcap.length_data]
  by_cases hne : sent = [] <;> simp [hne]

/-- A URB as long as it was asked for: the payload goes on. -/
theorem full_step {maxPayload : Nat} {s : BulkState} {req : Nat × Nat → Option Nat}
    {sent sent' : List UInt8} {ps ps' : List BulkPayload} {u : Urb}
    (hs : Sync maxPayload s req sent ps) (hsize : Sizes maxPayload ps) (hcap : u.Captured)
    (hreq : req u.key = some u.length) (hc : Carry maxPayload u.ts sent ps u.data sent' ps')
    (hle : sent.length + u.length ≤ bulkLimit) :
    ∃ fin, ps = fin ++ ps' ∧
      (bulkStep maxPayload s (.complete u)).2 = fin.map BulkPayload.op ∧
      Sync maxPayload (bulkStep maxPayload s (.complete u)).1
        (Function.update req u.key none) sent' ps' := by
  obtain ⟨fin, ts', hps, hstart, hlt, hpeel⟩ := peel_of_sync hs hsize hc
  have hover : ¬ bulkLimit < ((if s.cont then s.pending else []) ++ u.data).length := by
    rw [length_appended hs hcap]
    omega
  rw [bulkStep_captured hcap]
  simp only [BulkState.append, if_neg hover, hpeel, hs.req_eq, hreq]
  refine ⟨fin, hps, ?_, ?_⟩
  · simp [BulkPayload.op]
  · exact ⟨by simp [BulkState.popReq, hs.req_eq], by simp, by simp, by simpa using hstart, hlt⟩

/-- A short URB: the payload ends with it. -/
theorem short_step {maxPayload : Nat} {s : BulkState} {req : Nat × Nat → Option Nat}
    {sent sent' : List UInt8} {ps ps' ps'' : List BulkPayload} {u : Urb} {r : Nat}
    (hs : Sync maxPayload s req sent ps) (hsize : Sizes maxPayload ps) (hcap : u.Captured)
    (hreq : req u.key = some r) (hlt : u.length < r)
    (hc : Carry maxPayload u.ts sent ps u.data sent' ps') (hend : Ends sent' ps' ps'')
    (hle : sent.length + u.length ≤ bulkLimit) :
    ∃ fin, ps = fin ++ ps'' ∧
      (bulkStep maxPayload s (.complete u)).2 = fin.map BulkPayload.op ∧
      Sync maxPayload (bulkStep maxPayload s (.complete u)).1
        (Function.update req u.key none) [] ps'' := by
  obtain ⟨fin, ts', hps, hstart, -, hpeel⟩ := peel_of_sync hs hsize hc
  have hsize' : Sizes maxPayload ps' := fun p hp => hsize p (hps ▸ List.mem_append_right _ hp)
  obtain ⟨fin', hps', hflush⟩ := flush_of_ends hend hsize' hstart
  have hover : ¬ bulkLimit < ((if s.cont then s.pending else []) ++ u.data).length := by
    rw [length_appended hs hcap]
    omega
  rw [bulkStep_captured hcap]
  simp only [BulkState.append, if_neg hover, hpeel, hs.req_eq, hreq]
  refine ⟨fin ++ fin', by rw [hps, hps', List.append_assoc], ?_, ?_⟩
  · rw [List.map_append, ← hflush]
    by_cases hne : sent' = [] <;> simp [hlt, hne, BulkPayload.op]
  · simp only [Option.mem_def, Option.some.injEq, exists_eq_left', hlt, true_or, if_true]
    exact Sync.idle _ _ (by simp [BulkState.popReq, hs.req_eq])

/-- Above the bound everything pending is given up. -/
theorem overrun_step {maxPayload : Nat} {s : BulkState} {req : Nat × Nat → Option Nat}
    {sent : List UInt8} {ps : List BulkPayload} {u : Urb} (hs : Sync maxPayload s req sent ps)
    (hcap : u.Captured) (hgt : bulkLimit < sent.length + u.length) :
    (bulkStep maxPayload s (.complete u)).2 = [.overrun] ∧
      (bulkStep maxPayload s (.complete u)).1.pending = [] := by
  have hover : bulkLimit < ((if s.cont then s.pending else []) ++ u.data).length := by
    rw [length_appended hs hcap]
    exact hgt
  rw [bulkStep_captured hcap]
  simp only [BulkState.append, if_pos hover, BulkState.clear, and_self]

/-! ## Counting bytes -/

/-- Bytes a record brings to `_feed_bulk`. -/
def BulkEvent.bytes : BulkEvent → Nat
  | .submit _ _ => 0
  | .complete u => if u.length = 0 then 0 else u.data.length

def fedBytes (ops : List AsmOp) : Nat := ((fedPayloads ops).map fun p => p.1.length).sum

def payloadBytes (ps : List BulkPayload) : Nat := (ps.map fun p => p.bytes.length).sum

/-- The bytes that are fed, in two parts. -/
theorem fedBytes_append (ops ops' : List AsmOp) :
    fedBytes (ops ++ ops') = fedBytes ops + fedBytes ops' := by
  simp [fedBytes, fedPayloads_append]

/-- The bytes of the payloads, in two parts. -/
theorem payloadBytes_append (ps ps' : List BulkPayload) :
    payloadBytes (ps ++ ps') = payloadBytes ps + payloadBytes ps' := by
  simp [payloadBytes]

/-- Where the same payloads are fed, so are as many bytes. -/
theorem fedBytes_eq {ops : List AsmOp} {ps : List BulkPayload}
    (h : fedPayloads ops = ps.map fun p => (p.bytes, p.ts)) : fedBytes ops = payloadBytes ps := by
  simp only [fedBytes, h, payloadBytes, List.map_map]
  rfl

@[simp] theorem fedBytes_nil : fedBytes [] = 0 := rfl

@[simp] theorem fedBytes_lost : fedBytes [.lost] = 0 := rfl

@[simp] theorem fedBytes_overrun : fedBytes [.overrun] = 0 := rfl

@[simp] theorem fedBytes_feed (payload : List UInt8) (ts : Int) :
    fedBytes [.feed payload ts] = payload.length := by
  simp [fedBytes, fedPayloads, AsmOp.fed]

/-- The bytes of what is fed one by one. -/
theorem fedBytes_map_feed (fed : List (List UInt8 × Int)) :
    fedBytes (fed.map fun p => .feed p.1 p.2) = (fed.flatMap Prod.fst).length := by
  induction fed with
  | nil => rfl
  | cons p fed ih =>
      rw [List.map_cons, ← List.singleton_append, fedBytes_append, fedBytes_feed, ih,
        List.flatMap_cons, List.length_append]

/-- What is peeled off was in the buffer. -/
theorem fedBytes_peel (maxPayload : Nat) (ts : Int) (pending : List UInt8) (pendingTs : Int) :
    fedBytes ((peel maxPayload ts pending pendingTs).fed.map fun p => .feed p.1 p.2) +
      (peel maxPayload ts pending pendingTs).rest.length = pending.length := by
  rw [fedBytes_map_feed, ← List.length_append, flatten_peel]

/-- No byte is fed twice, or comes from nowhere. -/
theorem fedBytes_append_step (maxPayload : Nat) (s : BulkState) (u : Urb) (ts : Int) :
    fedBytes (s.append maxPayload u ts).2 + (s.append maxPayload u ts).1.pending.length ≤
      s.pending.length + u.data.length := by
  have hbuf : ((if s.cont then s.pending else []) ++ u.data).length ≤
      s.pending.length + u.data.length := by
    rw [List.length_append]
    split <;> simp
  simp only [BulkState.append]
  generalize (if s.cont then s.pending else []) ++ u.data = pending at hbuf
  generalize (if s.cont then s.pendingTs else ts) = pendingTs
  have hpeel := fedBytes_peel maxPayload ts pending pendingTs
  by_cases hover : bulkLimit < pending.length
  · simp [hover, BulkState.clear]
  · rw [if_neg hover]
    by_cases hend : (∃ r ∈ s.req u.key, u.length < r) ∨ s.req u.key = none
    · rw [if_pos hend]
      by_cases hrest : (peel maxPayload ts pending pendingTs).rest = []
      · simp only [BulkState.clear, if_pos hrest, List.length_nil]
        omega
      · simp only [BulkState.clear, if_neg hrest, fedBytes_append, fedBytes_feed, List.length_nil]
        omega
    · rw [if_neg hend]
      exact hpeel ▸ hbuf

/-- No record feeds more than what was pending and what it brings. -/
theorem fedBytes_step (maxPayload : Nat) (s : BulkState) (ev : BulkEvent) :
    fedBytes (bulkStep maxPayload s ev).2 + (bulkStep maxPayload s ev).1.pending.length ≤
      s.pending.length + ev.bytes := by
  cases ev with
  | submit key length => simp [bulkStep, BulkState.submit]
  | complete u =>
      simp only [bulkStep, BulkState.feedBulk, BulkEvent.bytes]
      by_cases hlen : u.length = 0
      · by_cases hc : s.cont ∧ s.pending ≠ [] <;> simp [hlen, hc, BulkState.clear]
      · by_cases hdata : u.hasData
        · by_cases hcut : u.data.length < u.length
          · simp [hlen, hdata, hcut, BulkState.clear]
          · simpa [hlen, hdata, hcut] using fedBytes_append_step maxPayload s u u.ts
        · simp [hlen, hdata, BulkState.clear]

/-- A run feeds at most what was pending and what its records bring. -/
theorem fedBytes_bulkOps_le (maxPayload : Nat) (s : BulkState) (evs : List BulkEvent) :
    fedBytes (bulkOps maxPayload s evs) ≤ s.pending.length + (evs.map BulkEvent.bytes).sum := by
  induction evs generalizing s with
  | nil => simp [bulkOps, Machine.history]
  | cons ev evs ih =>
      have hstep := fedBytes_step maxPayload s ev
      have hrest := ih (bulkStep maxPayload s ev).1
      rw [bulkOps_cons, fedBytes_append, List.map_cons, List.sum_cons]
      omega

/-- A URB carries the end of one payload, whole ones and the beginning of another. -/
theorem payloadBytes_of_carry {maxPayload : Nat} {ts : Int} {sent d sent' : List UInt8}
    {ps ps' : List BulkPayload} (h : Carry maxPayload ts sent ps d sent' ps') :
    payloadBytes ps + sent'.length = sent.length + d.length + payloadBytes ps' := by
  induction h with
  | nothing => simp [Nat.add_comm]
  | part => simp [Nat.add_comm]
  | full hall _ _ _ ih =>
      have hp := congrArg List.length hall
      simp only [payloadBytes, List.map_cons, List.sum_cons, List.length_append,
        List.length_nil] at *
      omega

/-- A payload ends with what has been sent. -/
theorem payloadBytes_of_ends {sent : List UInt8} {ps ps' : List BulkPayload}
    (h : Ends sent ps ps') : payloadBytes ps = sent.length + payloadBytes ps' := by
  cases h with
  | idle => simp
  | last p hp => simp [payloadBytes, ← hp]

/-- A cut carries the bytes of its payloads. -/
theorem payloadBytes_of_cut {maxPayload : Nat} {req : Nat × Nat → Option Nat}
    {sent : List UInt8} {ps : List BulkPayload} {evs : List BulkEvent} {loads : List Nat}
    (h : Cut maxPayload req sent ps evs loads) :
    payloadBytes ps = sent.length + (evs.map BulkEvent.bytes).sum := by
  induction h with
  | done => rfl
  | submit _ ih => simpa [BulkEvent.bytes] using ih
  | zlp hlen hend _ ih =>
      have he := payloadBytes_of_ends hend
      simp only [List.map_cons, List.sum_cons, BulkEvent.bytes, if_pos hlen, List.length_nil] at *
      omega
  | full hcap _ hc _ ih =>
      have hp := payloadBytes_of_carry hc
      simp only [List.map_cons, List.sum_cons, BulkEvent.bytes, if_neg hcap.length_pos] at *
      omega
  | short hcap _ _ hc hend _ ih =>
      have hp := payloadBytes_of_carry hc
      have he := payloadBytes_of_ends hend
      simp only [List.map_cons, List.sum_cons, BulkEvent.bytes, if_neg hcap.length_pos,
        List.length_nil] at *
      omega

/-! ## Whole cuts -/

/-- **Cut run**: within the bound, the payloads are fed one by one. -/
theorem bulkOps_of_cut {maxPayload : Nat} {s : BulkState} {req : Nat × Nat → Option Nat}
    {sent : List UInt8} {ps : List BulkPayload} {evs : List BulkEvent} {loads : List Nat}
    (h : Cut maxPayload req sent ps evs loads) (hs : Sync maxPayload s req sent ps)
    (hsize : Sizes maxPayload ps) (hloads : ∀ n ∈ loads, n ≤ bulkLimit) :
    bulkOps maxPayload s evs = ps.map BulkPayload.op ∧
      (bulkFinal maxPayload s evs).pending = [] := by
  induction h generalizing s with
  | done => exact ⟨rfl, hs.pending⟩
  | submit _ ih =>
      rw [bulkOps_cons, bulkFinal_cons]
      exact ih { hs with req_eq := by simp [bulkStep, BulkState.submit, hs.req_eq] } hsize hloads
  | zlp hlen hend _ ih =>
      obtain ⟨fin, rfl, hops, hs'⟩ := zlp_step hs hsize hlen hend
      obtain ⟨ho, hp⟩ := ih hs' (fun p hp => hsize p (List.mem_append_right _ hp)) hloads
      rw [bulkOps_cons, bulkFinal_cons, hops, ho, List.map_append]
      exact ⟨rfl, hp⟩
  | full hcap hreq hc _ ih =>
      rw [List.forall_mem_cons] at hloads
      obtain ⟨fin, rfl, hops, hs'⟩ := full_step hs hsize hcap hreq hc hloads.1
      obtain ⟨ho, hp⟩ := ih hs' (fun p hp => hsize p (List.mem_append_right _ hp)) hloads.2
      rw [bulkOps_cons, bulkFinal_cons, hops, ho, List.map_append]
      exact ⟨rfl, hp⟩
  | short hcap hreq hlt hc hend _ ih =>
      rw [List.forall_mem_cons] at hloads
      obtain ⟨fin, rfl, hops, hs'⟩ := short_step hs hsize hcap hreq hlt hc hend hloads.1
      obtain ⟨ho, hp⟩ := ih hs' (fun p hp => hsize p (List.mem_append_right _ hp)) hloads.2
      rw [bulkOps_cons, bulkFinal_cons, hops, ho, List.map_append]
      exact ⟨rfl, hp⟩

/-- A URB above the bound: what it and the records before it brought is never
fed, so the payloads cannot be complete. -/
theorem fedBytes_lt_of_overrun {maxPayload : Nat} {s : BulkState}
    {req req' : Nat × Nat → Option Nat} {sent sent' : List UInt8} {ps ps' : List BulkPayload}
    {u : Urb} {evs : List BulkEvent} {loads : List Nat} (hs : Sync maxPayload s req sent ps)
    (hcap : u.Captured) (hgt : bulkLimit < sent.length + u.length)
    (hbytes : payloadBytes ps + sent'.length = sent.length + u.data.length + payloadBytes ps')
    (h : Cut maxPayload req' sent' ps' evs loads) :
    fedBytes (bulkOps maxPayload s (.complete u :: evs)) < payloadBytes ps := by
  obtain ⟨hops, hpend⟩ := overrun_step hs hcap hgt
  have hrest := fedBytes_bulkOps_le maxPayload (bulkStep maxPayload s (.complete u)).1 evs
  have hcut := payloadBytes_of_cut h
  have hzero : fedBytes [.overrun] = 0 := rfl
  have hlen := hcap.length_data
  rw [hpend, List.length_nil] at hrest
  rw [bulkOps_cons, hops, fedBytes_append, hzero]
  omega

/-- **Cut run above the bound**: some bytes of the payloads are never fed. -/
theorem fedBytes_lt_of_cut {maxPayload : Nat} {s : BulkState} {req : Nat × Nat → Option Nat}
    {sent : List UInt8} {ps : List BulkPayload} {evs : List BulkEvent} {loads : List Nat}
    (h : Cut maxPayload req sent ps evs loads) (hs : Sync maxPayload s req sent ps)
    (hsize : Sizes maxPayload ps) (hloads : ¬ ∀ n ∈ loads, n ≤ bulkLimit) :
    fedBytes (bulkOps maxPayload s evs) < payloadBytes ps := by
  have hfin : ∀ fin : List BulkPayload,
      fedBytes (fin.map BulkPayload.op) = payloadBytes fin := fun fin =>
    fedBytes_eq (fedPayloads_map_op fin)
  induction h generalizing s with
  | done => exact absurd (by simp) hloads
  | submit _ ih =>
      rw [bulkOps_cons]
      exact ih { hs with req_eq := by simp [bulkStep, BulkState.submit, hs.req_eq] } hsize hloads
  | zlp hlen hend _ ih =>
      obtain ⟨fin, rfl, hops, hs'⟩ := zlp_step hs hsize hlen hend
      have hlt := ih hs' (fun p hp => hsize p (List.mem_append_right _ hp)) hloads
      rw [bulkOps_cons, hops, fedBytes_append, hfin, payloadBytes_append]
      exact Nat.add_lt_add_left hlt _
  | @full _ _ _ _ _ _ _ _ hcap hreq hc hcut ih =>
      rcases Nat.lt_or_ge bulkLimit _ with hgt | hle
      · exact fedBytes_lt_of_overrun hs hcap hgt (payloadBytes_of_carry hc) hcut
      · obtain ⟨fin, rfl, hops, hs'⟩ := full_step hs hsize hcap hreq hc hle
        rw [List.forall_mem_cons, not_and] at hloads
        have hlt := ih hs' (fun p hp => hsize p (List.mem_append_right _ hp)) (hloads hle)
        rw [bulkOps_cons, hops, fedBytes_append, hfin, payloadBytes_append]
        exact Nat.add_lt_add_left hlt _
  | short hcap hreq hlt hc hend hcut ih =>
      rcases Nat.lt_or_ge bulkLimit _ with hgt | hle
      · have hbytes := payloadBytes_of_carry hc
        have hend' := payloadBytes_of_ends hend
        exact fedBytes_lt_of_overrun hs hcap hgt (by simp only [List.length_nil]; omega) hcut
      · obtain ⟨fin, rfl, hops, hs'⟩ := short_step hs hsize hcap hreq hlt hc hend hle
        rw [List.forall_mem_cons, not_and] at hloads
        have hlt' := ih hs' (fun p hp => hsize p (List.mem_append_right _ hp)) (hloads hle)
        rw [bulkOps_cons, hops, fedBytes_append, hfin, payloadBytes_append]
        exact Nat.add_lt_add_left hlt' _

/-- **Bulk segmentation**: a legal cut gives back its payloads, each with the
time of the URB that carried its first byte, if and only if no URB finds and
brings more than the bound together. -/
theorem fedPayloads_of_cut_iff {maxPayload : Nat} {ps : List BulkPayload} {evs : List BulkEvent}
    {loads : List Nat} (hcut : Cut maxPayload (fun _ => none) [] ps evs loads)
    (hsize : Sizes maxPayload ps) :
    (fedPayloads (bulkOps maxPayload .reset evs) = ps.map (fun p => (p.bytes, p.ts)) ∧
        (bulkFinal maxPayload .reset evs).pending = []) ↔
      ∀ n ∈ loads, n ≤ bulkLimit := by
  constructor
  · intro h
    by_contra hloads
    have hlt := fedBytes_lt_of_cut hcut (Sync.reset maxPayload ps) hsize hloads
    have heq := fedBytes_eq h.1
    omega
  · intro hloads
    obtain ⟨hops, hpend⟩ := bulkOps_of_cut hcut (Sync.reset maxPayload ps) hsize hloads
    exact ⟨by rw [hops, fedPayloads_map_op], hpend⟩

/-! ## Two payloads in one URB -/

/-- The little-endian header of a completed, fully captured bulk URB. -/
def bulkHeader (urbId status length : Nat) : List UInt8 :=
  Endian.little.encode 8 urbId ++ [0x43, 3, 0x81, 2, 1, 0, 0x2d, 0] ++ List.replicate 12 0 ++
    Endian.little.encode 4 status ++ Endian.little.encode 4 length ++
    Endian.little.encode 4 length ++ List.replicate 24 0

def bulkUrb (urbId : Nat) (ts : Int) (data : List UInt8) : Urb :=
  { urbId, type := typeC, xfer := xferBulk, ep := 1, isIn := true, dev := 2, bus := 1,
    hasSetup := false, hasData := true, status := 0, length := data.length, lenCap := data.length,
    setup := List.replicate 8 0, ndesc := 0, hdrLen := 64, ts,
    record := bulkHeader urbId 0 data.length ++ data }

/-- The header of a record. -/
theorem length_bulkHeader (urbId status length : Nat) :
    (bulkHeader urbId status length).length = 64 := by
  simp [bulkHeader]

@[simp] theorem data_bulkUrb (urbId : Nat) (ts : Int) (data : List UInt8) :
    (bulkUrb urbId ts data).data = data := by
  have hlen : (bulkHeader urbId 0 data.length ++ data).length = 64 + data.length := by
    rw [List.length_append, length_bulkHeader]
  have hstop : 64 + min data.length ((bulkHeader urbId 0 data.length ++ data).length - 64) =
      (bulkHeader urbId 0 data.length ++ data).length := by omega
  simp only [bulkUrb, Urb.data, Nat.zero_mul, Nat.add_zero, hstop, List.take_length]
  exact List.drop_left' (length_bulkHeader _ _ _)

/-- A URB with all of its bytes. -/
theorem captured_bulkUrb (urbId : Nat) (ts : Int) {data : List UInt8} (h : data ≠ []) :
    (bulkUrb urbId ts data).Captured :=
  ⟨by simpa [bulkUrb] using h, rfl, congrArg List.length (data_bulkUrb urbId ts data)⟩

/-- Submission and completion of one URB that carries two whole payloads. -/
def twoInOne (p q : BulkPayload) : List BulkEvent :=
  [.submit (1, 7) (p.bytes.length + q.bytes.length),
    .complete (bulkUrb 7 p.ts (p.bytes ++ q.bytes))]

/-- Two full payloads in one URB. -/
theorem cut_twoInOne {maxPayload : Nat} {p q : BulkPayload} (hp : p.bytes.length = maxPayload)
    (hq : q.bytes.length = maxPayload) (h0 : maxPayload ≠ 0) (hts : q.ts = p.ts) :
    Cut maxPayload (fun _ => none) [] [p, q] (twoInOne p q)
      [p.bytes.length + q.bytes.length] := by
  have hne : p.bytes ++ q.bytes ≠ [] := by
    rw [← List.length_pos_iff, List.length_append]
    omega
  have hq' : Carry maxPayload p.ts [] [q] (q.bytes ++ []) [] [] :=
    .full rfl hq (fun _ => hts) .nothing
  have hc : Carry maxPayload p.ts [] [p, q] (p.bytes ++ q.bytes) [] [] :=
    .full rfl hp (fun _ => rfl) (q.bytes.append_nil ▸ hq')
  have hload : [p.bytes.length + q.bytes.length] =
      [([] : List UInt8).length + (bulkUrb 7 p.ts (p.bytes ++ q.bytes)).length] := by
    simp [bulkUrb]
  rw [hload]
  refine .submit (.full (captured_bulkUrb 7 p.ts hne) ?_ ?_ .done)
  · simp [bulkUrb, Urb.key]
  · rw [data_bulkUrb]
    exact hc

/-- Two payloads of 40 MiB, `max_payload` long. -/
def largePayload : BulkPayload := { bytes := List.replicate (40 * 1024 * 1024) 0, ts := 0 }

theorem length_largePayload : largePayload.bytes.length = 40 * 1024 * 1024 :=
  List.length_replicate

/-- The claimed law, for every legal cut: nothing but the payloads, and nothing
left over.  Two large payloads in one URB break it. -/
theorem not_bulkSegmentation :
    ¬ ∀ (maxPayload : Nat) (ps : List BulkPayload) (evs : List BulkEvent) (loads : List Nat),
      Sizes maxPayload ps → (∀ p ∈ ps, p.bytes.length < bulkLimit) →
      Cut maxPayload (fun _ => none) [] ps evs loads →
      fedPayloads (bulkOps maxPayload .reset evs) = ps.map (fun p => (p.bytes, p.ts)) ∧
        (bulkFinal maxPayload .reset evs).pending = [] := by
  intro h
  have hlen := length_largePayload
  have hcut := cut_twoInOne hlen hlen (by decide) rfl
  have hsize : Sizes (40 * 1024 * 1024) [largePayload, largePayload] := by
    intro p hp
    have hp : p = largePayload := by simpa using hp
    subst hp
    exact ⟨fun he => by simp [he] at hlen, fun _ => hlen.le⟩
  have hbound : ∀ p ∈ [largePayload, largePayload], p.bytes.length < bulkLimit := by
    intro p hp
    have hp : p = largePayload := by simpa using hp
    rw [hp, hlen]
    decide
  have hlt := fedBytes_lt_of_cut hcut (Sync.reset _ _) hsize
    (by simp only [List.forall_mem_singleton, hlen]; decide)
  have heq := fedBytes_eq (h _ _ _ _ hsize hbound hcut).1
  omega

/-- A payload of `max_payload` bytes and the start of the next one in a full
URB, the rest in a short one. -/
def twoUrbs : List BulkEvent :=
  [.submit (1, 7) 5, .complete (bulkUrb 7 10 [2, 0, 1, 2, 2]),
    .submit (1, 7) 5, .complete (bulkUrb 7 20 [0])]

/-- A payload over two URBs, and the beginning of the next. -/
theorem fedPayloads_twoUrbs :
    fedPayloads (bulkOps 4 .reset twoUrbs) = [([2, 0, 1, 2], 10), ([2, 0], 10)] ∧
      (bulkFinal 4 .reset twoUrbs).pending = [] := by
  have hcap : (bulkUrb 7 10 [2, 0, 1, 2, 2]).Captured := captured_bulkUrb 7 10 (by decide)
  have hcap' : (bulkUrb 7 20 [0]).Captured := captured_bulkUrb 7 20 (by decide)
  have hfirst : Carry 4 10 [] [⟨[2, 0, 1, 2], 10⟩, ⟨[2, 0], 10⟩]
      (bulkUrb 7 10 [2, 0, 1, 2, 2]).data [2] [⟨[2, 0], 10⟩] := by
    have hrest : Carry 4 10 [] [⟨[2, 0], 10⟩] [2] [2] [⟨[2, 0], 10⟩] :=
      .part (by decide) (by decide) (by decide) (fun _ => rfl)
    rw [data_bulkUrb]
    exact @Carry.full 4 10 [] [2, 0, 1, 2] _ _ _ _ _ rfl rfl (fun _ => rfl) hrest
  have hsecond : Carry 4 20 [2] [⟨[2, 0], 10⟩] (bulkUrb 7 20 [0]).data [2, 0] [⟨[2, 0], 10⟩] := by
    rw [data_bulkUrb]
    exact .part (by decide) (by decide) (by decide) nofun
  have hlt : (bulkUrb 7 20 [0]).length < 5 := by decide
  have hcut : Cut 4 (fun _ => none) [] [⟨[2, 0, 1, 2], 10⟩, ⟨[2, 0], 10⟩] twoUrbs [5, 2] :=
    .submit <| .full hcap (Function.update_self ..) hfirst <|
      .submit <| .short hcap' (Function.update_self ..) hlt hsecond (.last _ rfl) .done
  exact (fedPayloads_of_cut_iff hcut (by decide)).mpr (by decide)

end CamDriver.Uvc
