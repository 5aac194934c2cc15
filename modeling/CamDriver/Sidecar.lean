import Mathlib.Data.List.ReduceOption
import CamDriver.Lib.Machine
import CamDriver.SidecarCsv

/-!
# CamDriver.Sidecar

`SidecarWriter` under a recording session: the feeder that pushes and adds rows
under the session lock, the thread that writes the CSV, and the main loop that
closes the session and writes the summary.

Every statement that another thread can come between is a step of its own.  The
file has two parts, the text on disk and the text still in the file object's
buffer, of which any part can reach the disk at any time (`spill`).

While the writer keeps up (`KeepsUp`), a CSV that the JSON does not attest as
failed is exactly the accepted frames (`attestsCsv_of_keepsUp`).
-/

namespace CamDriver

open Csv (Text)

/-- `queue.Queue(maxsize=20000)`. -/
def sidecarQueueRows : Nat := 20000

/-- Where the writer thread (`_run`) is. -/
inductive WriterPc where
  /-- the CSV is not open yet -/
  | starting
  | getting
  | writing (row : SidecarRow)
  /-- `f.flush()` of every hundredth row -/
  | flushing
  /-- after the sentinel -/
  | finalFlush
  /-- an `OSError` was raised and its handler has not run -/
  | failing
  | draining
  | ended
deriving DecidableEq, Repr

/-- `SidecarWriter` and its CSV; `none` in the queue is the sentinel. -/
structure SidecarWriter where
  queue : List (Option SidecarRow)
  started : Bool
  dropped : Nat
  failed : Bool
  writer : WriterPc
  rows : Nat
  disk : Option Text
  buffer : Text
deriving DecidableEq, Repr

namespace SidecarWriter

/-- After `start`. -/
def start : SidecarWriter :=
  { queue := [], started := true, dropped := 0, failed := false, writer := .starting, rows := 0,
    disk := none, buffer := [] }

/-- `put_nowait`, which refuses a row of a full queue. -/
def put (w : SidecarWriter) (row : SidecarRow) : SidecarWriter :=
  if w.queue.length < sidecarQueueRows then { w with queue := w.queue ++ [some row] }
  else { w with dropped := w.dropped + 1 }

/-- The buffered text reaches the disk. -/
def flush (w : SidecarWriter) (writer : WriterPc) : SidecarWriter :=
  { w with disk := w.disk.map (· ++ w.buffer), buffer := [], writer := writer }

end SidecarWriter

/-- One atomic step of the writer thread, or of the file system. -/
inductive WriterStep where
  | openCsv
  | get
  | writerow
  | flush
  /-- some of the buffer reaches the disk -/
  | spill (n : Nat)
  /-- an I/O call fails; `n` characters of the row were buffered -/
  | ioError (n : Nat)
  /-- the handler of the `OSError` -/
  | markFailed
  | drain
deriving DecidableEq, Repr

/-- `_run`; `none` when the thread is not at that statement. -/
def SidecarWriter.step (w : SidecarWriter) : WriterStep → Option SidecarWriter
  | .openCsv =>
    match w.writer with
    | .starting =>
      some { w with disk := some [], buffer := Csv.line csvFields, writer := .getting }
    | _ => none
  | .get =>
    match w.writer, w.queue with
    | .getting, some row :: queue => some { w with queue := queue, writer := .writing row }
    | .getting, none :: queue => some { w with queue := queue, writer := .finalFlush }
    | _, _ => none
  | .writerow =>
    match w.writer with
    | .writing row =>
      let rows := w.rows + 1
      some { w with
        buffer := w.buffer ++ rowLine row
        rows := rows
        writer := if rows % 100 = 0 then .flushing else .getting }
    | _ => none
  | .flush =>
    match w.writer with
    | .flushing => some (w.flush .getting)
    | .finalFlush => some (w.flush .ended)
    | _ => none
  | .spill n =>
    match w.disk with
    | some text =>
      some { w with disk := some (text ++ w.buffer.take n), buffer := w.buffer.drop n }
    | none => none
  | .ioError n =>
    match w.writer with
    | .writing row =>
      some { w with buffer := w.buffer ++ (rowLine row).take n, writer := .failing }
    | .starting | .flushing | .finalFlush => some { w with writer := .failing }
    | _ => none
  | .markFailed =>
    match w.writer with
    | .failing => some { w with failed := true, writer := .draining }
    | _ => none
  | .drain =>
    match w.writer, w.queue with
    | .draining, [] => some { w with writer := .ended }
    | .draining, _ :: queue => some { w with queue := queue }
    | _, _ => none

/-- Where `push` is after the muxer took the frame. -/
inductive AddPc where
  | idle
  | adding (row : SidecarRow)
  /-- `add` found the writer alive -/
  | putting (row : SidecarRow)
deriving DecidableEq, Repr

/-- Where the main loop is between `begin_close` and the end of `finish_close`. -/
inductive ClosePc where
  | recording
  | closed
  /-- `stop` has put the sentinel, or has given up on it -/
  | joining
  | stopped
  | summarized
deriving DecidableEq, Repr

/-- What the finalized JSON says. -/
structure Summary where
  session : Attestation
  sidecarCsvFailed : Bool
deriving DecidableEq, Repr

/-- A session with its sidecar. -/
structure SidecarRun where
  session : RecordingSession
  sidecar : SidecarWriter
  feeder : AddPc
  main : ClosePc
  summary : Option Summary
deriving DecidableEq, Repr

/-- A session that has just been started. -/
def SidecarRun.start (index : Nat) (encoded blocking : Bool) (dropsNow : DropSummary) :
    SidecarRun :=
  { session := RecordingSession.start index encoded blocking dropsNow
    sidecar := SidecarWriter.start
    feeder := .idle
    main := .recording
    summary := none }

/-- One atomic step of one of the threads. -/
inductive SidecarStep where
  /-- `push`, up to the call of `add` -/
  | push (baseTs : Int) (env : PushEnv) (stamp : FrameStamp) (pts : Int)
  /-- `add`: is there a consumer? -/
  | check
  | put
  | writer (l : WriterStep)
  | beginClose
  /-- `stop`: the sentinel is put, or the second it waits for room is over -/
  | putSentinel
  /-- the writer has ended -/
  | join
  /-- `join(timeout=5)` is over -/
  | joinTimeout
  | writeSummary (dropsNow : DropSummary)
  /-- the session's bus reports an error -/
  | recordError
deriving DecidableEq, Repr

/-- One step; `none` when the thread is not at that statement. -/
def SidecarRun.step (p : SidecarRun) : SidecarStep → Option SidecarRun
  | .push baseTs env stamp pts =>
    match p.feeder with
    | .idle =>
      let r := p.session.offer baseTs env stamp pts
      some { p with session := r.1, feeder := if r.2 = .ok then .adding (stamp, pts) else .idle }
    | _ => none
  | .check =>
    match p.feeder with
    | .adding row =>
      some { p with feeder :=
        if ¬ p.sidecar.started ∨ p.sidecar.failed then .idle else .putting row }
    | _ => none
  | .put =>
    match p.feeder with
    | .putting row => some { p with sidecar := p.sidecar.put row, feeder := .idle }
    | _ => none
  | .writer l => (p.sidecar.step l).map fun w => { p with sidecar := w }
  | .beginClose =>
    match p.main, p.feeder with
    | .recording, .idle => some { p with session := p.session.beginClose, main := .closed }
    | _, _ => none
  | .putSentinel =>
    match p.main with
    | .closed =>
      if ¬ p.sidecar.started then some { p with main := .stopped }
      else if p.sidecar.queue.length < sidecarQueueRows then
        some { p with sidecar := { p.sidecar with queue := p.sidecar.queue ++ [none] },
                      main := .joining }
      else some { p with main := .joining }
    | _ => none
  | .join =>
    match p.main, p.sidecar.writer with
    | .joining, .ended =>
      some { p with sidecar := { p.sidecar with started := false }, main := .stopped }
    | _, _ => none
  | .joinTimeout =>
    match p.main with
    | .joining => some { p with sidecar := { p.sidecar with started := false }, main := .stopped }
    | _ => none
  | .writeSummary dropsNow =>
    match p.main with
    | .stopped =>
      some { p with main := .summarized
                    summary := some { session := p.session.attest dropsNow
                                      sidecarCsvFailed := p.sidecar.failed } }
    | _ => none
  | .recordError => some { p with session := { p.session with error := true } }

/-! ## Rows on their way -/

/-- The row in the writer's hands. -/
def WriterPc.hand : WriterPc → List SidecarRow
  | .writing row => [row]
  | _ => []

/-- The row in the feeder's hands. -/
def AddPc.hand : AddPc → List SidecarRow
  | .adding row | .putting row => [row]
  | .idle => []

namespace SidecarWriter

/-- The CSV is open, and no row is on its way to it. -/
def Drained (w : SidecarWriter) : Prop :=
  w.writer ≠ .starting ∧ w.writer.hand = [] ∧ w.queue.reduceOption = [] ∧ w.buffer = []

instance (w : SidecarWriter) : Decidable w.Drained := inferInstanceAs (Decidable (_ ∧ _))

/-- No I/O error has been raised. -/
structure Healthy (w : SidecarWriter) : Prop where
  failed : w.failed = false
  failing : w.writer ≠ .failing
  draining : w.writer ≠ .draining

/-- What was put is in the file, in the writer's hands, or in the queue. -/
def Carries (w : SidecarWriter) (put : List SidecarRow) : Prop :=
  if w.writer = .starting then w.disk = none ∧ w.queue.reduceOption = put
  else ∃ text written, w.disk = some text ∧ text ++ w.buffer = csvText written ∧
    written ++ w.writer.hand ++ w.queue.reduceOption = put

theorem carries_start : start.Carries [] := by simp [Carries, start, List.reduceOption_nil]

/-- `Carries` once the CSV is open. -/
theorem carries_of_open {w : SidecarWriter} (h : w.writer ≠ .starting) {put : List SidecarRow}
    (text : Text) (written : List SidecarRow) (hdisk : w.disk = some text)
    (htext : text ++ w.buffer = csvText written)
    (hput : written ++ w.writer.hand ++ w.queue.reduceOption = put) : w.Carries put := by
  rw [Carries, if_neg h]
  exact ⟨text, written, hdisk, htext, hput⟩

theorem Carries.open {w : SidecarWriter} {put : List SidecarRow} (hc : w.Carries put)
    (h : w.writer ≠ .starting) : ∃ text written, w.disk = some text ∧
      text ++ w.buffer = csvText written ∧
        written ++ w.writer.hand ++ w.queue.reduceOption = put := by
  rwa [Carries, if_neg h] at hc

/-- A flush moves the buffer, not the rows. -/
theorem Carries.flush {w : SidecarWriter} {put : List SidecarRow} (hc : w.Carries put)
    (h : w.writer ≠ .starting) (hhand : w.writer.hand = []) {pc : WriterPc} (hpc : pc ≠ .starting)
    (hpchand : pc.hand = []) : (w.flush pc).Carries put := by
  obtain ⟨text, written, hdisk, htext, hput⟩ := hc.open h
  refine carries_of_open hpc (text ++ w.buffer) written ?_ ?_ ?_
  · simp [SidecarWriter.flush, hdisk]
  · simpa [SidecarWriter.flush] using htext
  · simpa [SidecarWriter.flush, hhand, hpchand] using hput

/-- An error is never forgotten. -/
theorem healthy_of_step {w w' : SidecarWriter} {l : WriterStep}
    (hd : w.writer = .draining → w.failed = true) (hs : w.step l = some w') (h : w'.Healthy) :
    w.Healthy := by
  have hfailed : w.failed = false := by
    by_contra hf
    have hstays : w'.failed = true := by
      cases l <;> simp only [step] at hs <;> grind [flush]
    exact absurd h.failed (by simp [hstays])
  refine ⟨hfailed, fun hpc => ?_, fun hpc => by simp [hd hpc] at hfailed⟩
  cases l with
  | markFailed =>
      simp only [step, hpc, Option.some.injEq] at hs
      subst hs
      exact absurd h.failed (by simp)
  | spill n =>
      have hstays : w'.writer = w.writer := by
        simp only [step] at hs
        grind
      exact h.failing (hstays.trans hpc)
  | _ => simp [step, hpc] at hs

/-- A draining writer has set the flag. -/
theorem draining_of_step {w w' : SidecarWriter} {l : WriterStep}
    (hd : w.writer = .draining → w.failed = true) (hs : w.step l = some w') :
    w'.writer = .draining → w'.failed = true := by
  cases l <;> simp only [step] at hs <;> grind [flush]

/-- **One step of the writer** loses no row, unless it fails. -/
theorem carries_of_step {w w' : SidecarWriter} {l : WriterStep} {put : List SidecarRow}
    (hd : w.writer = .draining → w.failed = true) (hs : w.step l = some w') (h' : w'.Healthy)
    (hc : w.Carries put) : w'.Carries put := by
  cases l with
  | openCsv =>
      cases hpc : w.writer with
      | starting =>
          simp only [step, hpc, Option.some.injEq] at hs
          subst hs
          have hput : w.queue.reduceOption = put := by
            rw [Carries, if_pos hpc] at hc
            exact hc.2
          refine carries_of_open (by simp) [] [] rfl (by simp) ?_
          simpa [WriterPc.hand] using hput
      | _ => simp [step, hpc] at hs
  | get =>
      cases hpc : w.writer with
      | getting =>
          obtain ⟨text, written, hdisk, htext, hput⟩ := hc.open (by simp [hpc])
          cases hq : w.queue with
          | nil => simp [step, hpc, hq] at hs
          | cons head queue =>
              cases head with
              | none =>
                  simp only [step, hpc, hq, Option.some.injEq] at hs
                  subst hs
                  exact carries_of_open (by simp) text written hdisk htext (by
                    simpa [hpc, WriterPc.hand, hq] using hput)
              | some row =>
                  simp only [step, hpc, hq, Option.some.injEq] at hs
                  subst hs
                  exact carries_of_open (by simp) text written hdisk htext (by
                    simpa [hpc, WriterPc.hand, hq] using hput)
      | _ => simp [step, hpc] at hs
  | writerow =>
      cases hpc : w.writer with
      | writing row =>
          obtain ⟨text, written, hdisk, htext, hput⟩ := hc.open (by simp [hpc])
          simp only [step, hpc, Option.some.injEq] at hs
          subst hs
          have hwritten : text ++ (w.buffer ++ rowLine row) = csvText (written ++ [row]) := by
            rw [csvText_concat, ← htext, List.append_assoc]
          have hrest : (written ++ [row]) ++ w.queue.reduceOption = put := by
            simpa [hpc, WriterPc.hand] using hput
          split
          · exact carries_of_open (by simp) text (written ++ [row]) hdisk hwritten
              (by simpa [WriterPc.hand] using hrest)
          · exact carries_of_open (by simp) text (written ++ [row]) hdisk hwritten
              (by simpa [WriterPc.hand] using hrest)
      | _ => simp [step, hpc] at hs
  | flush =>
      cases hpc : w.writer with
      | flushing =>
          simp only [step, hpc, Option.some.injEq] at hs
          exact hs ▸ hc.flush (by simp [hpc]) (by simp [hpc, WriterPc.hand]) (by simp) rfl
      | finalFlush =>
          simp only [step, hpc, Option.some.injEq] at hs
          exact hs ▸ hc.flush (by simp [hpc]) (by simp [hpc, WriterPc.hand]) (by simp) rfl
      | _ => simp [step, hpc] at hs
  | spill n =>
      cases hdisk : w.disk with
      | none => simp [step, hdisk] at hs
      | some text =>
          simp only [step, hdisk, Option.some.injEq] at hs
          subst hs
          have hopen : w.writer ≠ .starting := by
            intro hstart
            rw [Carries, if_pos hstart, hdisk] at hc
            exact nomatch hc.1
          obtain ⟨text', written, hdisk', htext, hput⟩ := hc.open hopen
          obtain rfl : text = text' := Option.some.inj (hdisk.symm.trans hdisk')
          refine carries_of_open ?_ (text ++ w.buffer.take n) written rfl ?_ ?_
          · exact hopen
          · simpa [List.append_assoc, List.take_append_drop] using htext
          · exact hput
  | ioError n =>
      cases hpc : w.writer <;> simp only [step, hpc, Option.some.injEq, reduceCtorEq] at hs <;>
        subst hs <;> exact absurd rfl h'.failing
  | markFailed =>
      cases hpc : w.writer with
      | failing =>
          simp only [step, hpc, Option.some.injEq] at hs
          subst hs
          exact absurd h'.failed (by simp)
      | _ => simp [step, hpc] at hs
  | drain =>
      cases hpc : w.writer with
      | draining =>
          have := (healthy_of_step hd hs h').draining
          exact absurd hpc this
      | _ => simp [step, hpc] at hs

/-- A row that finds room, or a writer that will attest its failure, is not lost
unseen. -/
theorem carries_put {w : SidecarWriter} {put : List SidecarRow} (hc : w.Carries put)
    (hroom : w.queue.length < sidecarQueueRows) (row : SidecarRow) :
    (w.put row).Carries (put ++ [row]) := by
  have hput : w.put row = { w with queue := w.queue ++ [some row] } := if_pos hroom
  rw [hput]
  by_cases hpc : w.writer = .starting
  · rw [Carries, if_pos hpc] at hc ⊢
    exact ⟨hc.1, by simp [List.reduceOption_append, hc.2]⟩
  · obtain ⟨text, written, hdisk, htext, hrows⟩ := hc.open hpc
    refine carries_of_open ?_ text written hdisk htext ?_
    · exact hpc
    · simp [List.reduceOption_append, ← hrows]

/-- The sentinel is not a row. -/
theorem carries_sentinel {w : SidecarWriter} {put : List SidecarRow} (hc : w.Carries put) :
    ({ w with queue := w.queue ++ [none] } : SidecarWriter).Carries put := by
  simpa [Carries, List.reduceOption_append] using hc

/-- What is drained stays so: no step of the writer changes the CSV any more. -/
theorem drained_of_step {w w' : SidecarWriter} {l : WriterStep} (h : w.Drained)
    (hs : w.step l = some w') : w'.Drained ∧ w'.disk = w.disk := by
  obtain ⟨hstart, hhand, hqueue, hbuffer⟩ := h
  cases l with
  | openCsv =>
      cases hpc : w.writer with
      | starting => exact absurd hpc hstart
      | _ => simp [step, hpc] at hs
  | get =>
      cases hpc : w.writer with
      | getting =>
          cases hq : w.queue with
          | nil => simp [step, hpc, hq] at hs
          | cons head queue =>
              cases head with
              | some row => simp [hq] at hqueue
              | none =>
                  simp only [step, hpc, hq, Option.some.injEq] at hs
                  subst hs
                  exact ⟨⟨by simp, rfl, by simpa [hq] using hqueue, hbuffer⟩, rfl⟩
      | _ => simp [step, hpc] at hs
  | writerow =>
      cases hpc : w.writer with
      | writing row => simp [hpc, WriterPc.hand] at hhand
      | _ => simp [step, hpc] at hs
  | flush =>
      have hflush : ∀ pc, (w.flush pc).disk = w.disk := by
        intro pc
        cases hd : w.disk <;> simp [SidecarWriter.flush, hd, hbuffer]
      cases hpc : w.writer with
      | flushing =>
          simp only [step, hpc, Option.some.injEq] at hs
          subst hs
          exact ⟨⟨by simp [flush], rfl, hqueue, rfl⟩, hflush _⟩
      | finalFlush =>
          simp only [step, hpc, Option.some.injEq] at hs
          subst hs
          exact ⟨⟨by simp [flush], rfl, hqueue, rfl⟩, hflush _⟩
      | _ => simp [step, hpc] at hs
  | spill n =>
      cases hd : w.disk with
      | none => simp [step, hd] at hs
      | some text =>
          simp only [step, hd, hbuffer, List.take_nil, List.drop_nil, List.append_nil,
            Option.some.injEq] at hs
          subst hs
          exact ⟨⟨hstart, hhand, hqueue, rfl⟩, rfl⟩
  | ioError n =>
      cases hpc : w.writer with
      | starting => exact absurd hpc hstart
      | writing row => simp [hpc, WriterPc.hand] at hhand
      | flushing | finalFlush =>
          simp only [step, hpc, Option.some.injEq] at hs
          subst hs
          exact ⟨⟨by simp, rfl, hqueue, hbuffer⟩, rfl⟩
      | _ => simp [step, hpc] at hs
  | markFailed =>
      cases hpc : w.writer with
      | failing =>
          simp only [step, hpc, Option.some.injEq] at hs
          subst hs
          exact ⟨⟨by simp, rfl, hqueue, hbuffer⟩, rfl⟩
      | _ => simp [step, hpc] at hs
  | drain =>
      cases hpc : w.writer with
      | draining =>
          cases hq : w.queue with
          | nil =>
              simp only [step, hpc, hq, Option.some.injEq] at hs
              subst hs
              exact ⟨⟨by simp, rfl, rfl, hbuffer⟩, rfl⟩
          | cons head queue =>
              simp only [step, hpc, hq, Option.some.injEq] at hs
              subst hs
              have hrest : queue.reduceOption = [] := by
                cases head with
                | none => simpa [hq] using hqueue
                | some row => simp [hq] at hqueue
              exact ⟨⟨by simp, rfl, hrest, hbuffer⟩, rfl⟩
      | _ => simp [step, hpc] at hs

/-- A drained CSV is the text of what was put. -/
theorem disk_of_drained {w : SidecarWriter} {put : List SidecarRow} (h : w.Drained)
    (hc : w.Carries put) : w.disk = some (csvText put) := by
  obtain ⟨hstart, hhand, hqueue, hbuffer⟩ := h
  obtain ⟨text, written, hdisk, htext, hput⟩ := hc.open hstart
  rw [hhand, hqueue, List.append_nil, List.append_nil] at hput
  rw [hbuffer, List.append_nil, hput] at htext
  rw [hdisk, htext]

end SidecarWriter

/-! ## Runs -/

/-- What a reader of the finalized session relies on: the CSV has the rows of
the accepted frames, as many as the JSON says, and loads as their stamps. -/
structure OneToOne (p : SidecarRun) (sum : Summary) (text : Text) : Prop where
  rows : (Csv.readRows text).tail = p.session.accepted.map rowFields
  count : sum.session.framesRecorded = p.session.accepted.length
  stamps : loadStamps text = some (p.session.accepted.map Prod.fst)

/-- The writer keeps up: no row meets a full queue, and when the summary is
written none is on its way and no I/O error waits for its handler.  After a
failure that the summary attests, anything goes. -/
def KeepsUp (p : SidecarRun) : SidecarStep → Prop
  | .put => p.sidecar.failed = true ∨ p.sidecar.queue.length < sidecarQueueRows
  | .writeSummary _ => p.sidecar.failed = true ∨
      (p.sidecar.Drained ∧ p.sidecar.writer ≠ .failing)
  | _ => True

instance (p : SidecarRun) : (l : SidecarStep) → Decidable (KeepsUp p l)
  | .put => inferInstanceAs (Decidable (_ ∨ _))
  | .writeSummary _ => inferInstanceAs (Decidable (_ ∨ _))
  | .push _ _ _ _ | .check | .writer _ | .beginClose | .putSentinel | .join | .joinTimeout
  | .recordError => isTrue trivial

/-- The invariant of a run in which the writer keeps up. -/
structure SidecarInv (p : SidecarRun) : Prop where
  wf : p.session.Wf
  draining : p.sidecar.writer = .draining → p.sidecar.failed = true
  carries : p.sidecar.Healthy →
    ∃ put, p.sidecar.Carries put ∧ put ++ p.feeder.hand = p.session.accepted
  started : p.main ≠ .stopped → p.main ≠ .summarized → p.sidecar.started = true
  closed : p.main ≠ .recording → p.session.closed = true ∧ p.feeder = .idle
  summary : ∀ sum, p.summary = some sum → p.main = .summarized ∧
    sum.session.framesRecorded = p.session.accepted.length ∧
    (sum.sidecarCsvFailed = false →
      p.sidecar.Drained ∧ p.sidecar.disk = some (csvText p.session.accepted))

theorem sidecarInv_start (index : Nat) (encoded blocking : Bool) (dropsNow : DropSummary) :
    SidecarInv (SidecarRun.start index encoded blocking dropsNow) where
  wf := RecordingSession.wf_start index encoded blocking dropsNow
  draining h := nomatch h
  carries _ := ⟨[], SidecarWriter.carries_start, rfl⟩
  started _ _ := rfl
  closed h := absurd rfl h
  summary _ h := nomatch h

/-- Only a running main loop has written no summary yet. -/
theorem SidecarInv.summary_eq_none {p : SidecarRun} (h : SidecarInv p)
    (hm : p.main ≠ .summarized) : p.summary = none := by
  cases hs : p.summary with
  | none => rfl
  | some sum => exact absurd (h.summary sum hs).1 hm

/-- A frame that arrives. -/
theorem SidecarInv.push {p : SidecarRun} (h : SidecarInv p) (hidle : p.feeder = .idle)
    (baseTs : Int) (env : PushEnv) (stamp : FrameStamp) (pts : Int) :
    SidecarInv { p with
      session := (p.session.offer baseTs env stamp pts).1
      feeder := if (p.session.offer baseTs env stamp pts).2 = .ok then .adding (stamp, pts)
        else .idle } := by
  by_cases hm : p.main = .recording
  · have hnone := h.summary_eq_none (by simp [hm])
    rcases p.session.offer_cases baseTs env stamp pts with ⟨hok, hacc⟩ | ⟨hno, href⟩
    · refine ⟨hacc.wf h.wf, h.draining, fun hh => ?_, h.started, fun hne => absurd hm hne,
        fun sum hs => by simp [hnone] at hs⟩
      obtain ⟨put, hc, hput⟩ := h.carries hh
      refine ⟨put, hc, ?_⟩
      rw [hidle] at hput
      simp only [AddPc.hand, List.append_nil] at hput
      simp [hok, AddPc.hand, hacc.accepted, hput]
    · refine ⟨href.wf h.wf, h.draining, fun hh => ?_, h.started, fun hne => absurd hm hne,
        fun sum hs => by simp [hnone] at hs⟩
      obtain ⟨put, hc, hput⟩ := h.carries hh
      refine ⟨put, hc, ?_⟩
      rw [hidle] at hput
      simp [hno, href.accepted, hput]
  · have hclosed := (h.closed hm).1
    rw [RecordingSession.offer_of_closed hclosed]
    have hsame : ({ p with
        session := p.session
        feeder := if PushResult.skipped = PushResult.ok then .adding (stamp, pts) else .idle } :
        SidecarRun) = p := by
      simp [← hidle]
    exact hsame ▸ h

/-- `stop` returns, whether the writer has ended or not. -/
theorem SidecarInv.stopped {p : SidecarRun} (h : SidecarInv p) (hm : p.main = .joining) :
    SidecarInv { p with sidecar := { p.sidecar with started := false }, main := .stopped } := by
  have hnone := h.summary_eq_none (by simp [hm])
  refine ⟨h.wf, h.draining, fun hh => ?_, fun hne => absurd rfl hne,
    fun _ => h.closed (by simp [hm]), fun sum hs => by simp [hnone] at hs⟩
  obtain ⟨put, hc, hput⟩ := h.carries ⟨hh.1, hh.2, hh.3⟩
  exact ⟨put, hc, hput⟩

/-- **Step lemma**: every step keeps the invariant, as long as the writer keeps up. -/
theorem sidecarInv_step (p : SidecarRun) (l : SidecarStep) (p' : SidecarRun) (h : SidecarInv p)
    (hk : KeepsUp p l) (hs : SidecarRun.step p l = some p') : SidecarInv p' := by
  cases l with
  | push baseTs env stamp pts =>
      cases hf : p.feeder with
      | idle =>
          simp only [SidecarRun.step, hf, Option.some.injEq] at hs
          exact hs ▸ h.push hf baseTs env stamp pts
      | _ => simp [SidecarRun.step, hf] at hs
  | check =>
      cases hf : p.feeder with
      | adding row =>
          have hm : p.main = .recording := by
            by_contra hm
            simp [(h.closed hm).2] at hf
          have hstarted := h.started (by simp [hm]) (by simp [hm])
          have hnone := h.summary_eq_none (by simp [hm])
          simp only [SidecarRun.step, hf, Option.some.injEq] at hs
          subst hs
          refine ⟨h.wf, h.draining, fun hh => ?_, h.started, fun hne => absurd hm hne,
            fun sum hs => by simp [hnone] at hs⟩
          obtain ⟨put, hc, hput⟩ := h.carries hh
          refine ⟨put, hc, ?_⟩
          have hfailed : p.sidecar.failed = false := hh.failed
          rw [hf] at hput
          simpa [hstarted, hfailed, AddPc.hand] using hput
      | _ => simp [SidecarRun.step, hf] at hs
  | put =>
      cases hf : p.feeder with
      | putting row =>
          have hm : p.main = .recording := by
            by_contra hm
            simp [(h.closed hm).2] at hf
          have hnone := h.summary_eq_none (by simp [hm])
          simp only [SidecarRun.step, hf, Option.some.injEq] at hs
          subst hs
          have hsame : (p.sidecar.put row).writer = p.sidecar.writer ∧
              (p.sidecar.put row).failed = p.sidecar.failed ∧
              (p.sidecar.put row).started = p.sidecar.started := by
            unfold SidecarWriter.put
            split <;> exact ⟨rfl, rfl, rfl⟩
          refine ⟨h.wf, ?_, fun hh => ?_, ?_, fun hne => absurd hm hne,
            fun sum hs => by simp [hnone] at hs⟩
          · simpa only [hsame.1, hsame.2.1] using h.draining
          · have hfailed : p.sidecar.failed = false := hsame.2.1 ▸ hh.failed
            have hhealthy : p.sidecar.Healthy :=
              ⟨hfailed, hsame.1 ▸ hh.failing, hsame.1 ▸ hh.draining⟩
            obtain ⟨put, hc, hput⟩ := h.carries hhealthy
            have hroom := hk.resolve_left (by simp [hfailed])
            refine ⟨put ++ [row], SidecarWriter.carries_put hc hroom row, ?_⟩
            rw [hf] at hput
            simpa [AddPc.hand] using hput
          · simpa only [hsame.2.2] using h.started
      | _ => simp [SidecarRun.step, hf] at hs
  | writer l =>
      cases hw : p.sidecar.step l with
      | none => simp [SidecarRun.step, hw] at hs
      | some w =>
          simp only [SidecarRun.step, hw, Option.map_some, Option.some.injEq] at hs
          subst hs
          have hstarted : w.started = p.sidecar.started := by
            cases l <;> simp only [SidecarWriter.step] at hw <;> grind [SidecarWriter.flush]
          refine ⟨h.wf, SidecarWriter.draining_of_step h.draining hw, fun hh => ?_, ?_, h.closed,
            fun sum hs => ?_⟩
          · obtain ⟨put, hc, hput⟩ :=
              h.carries (SidecarWriter.healthy_of_step h.draining hw hh)
            exact ⟨put, SidecarWriter.carries_of_step h.draining hw hh hc, hput⟩
          · simpa only [hstarted] using h.started
          · obtain ⟨hm, hcount, hcsv⟩ := h.summary sum hs
            refine ⟨hm, hcount, fun hf => ?_⟩
            obtain ⟨hd, hdisk⟩ := hcsv hf
            obtain ⟨hd', hdisk'⟩ := SidecarWriter.drained_of_step hd hw
            exact ⟨hd', hdisk'.trans hdisk⟩
  | beginClose =>
      cases hm : p.main with
      | recording =>
          cases hf : p.feeder with
          | idle =>
              have hnone := h.summary_eq_none (by simp [hm])
              simp only [SidecarRun.step, hm, hf, Option.some.injEq] at hs
              subst hs
              exact ⟨⟨h.wf.1, h.wf.2, h.wf.3⟩, h.draining, hf ▸ h.carries,
                fun _ _ => h.started (by simp [hm]) (by simp [hm]), fun _ => ⟨rfl, rfl⟩,
                fun sum hs => by simp [hnone] at hs⟩
          | _ => simp [SidecarRun.step, hm, hf] at hs
      | _ => simp [SidecarRun.step, hm] at hs
  | putSentinel =>
      cases hm : p.main with
      | closed =>
          have hnone := h.summary_eq_none (by simp [hm])
          have hstarted := h.started (by simp [hm]) (by simp [hm])
          have hclosed := h.closed (by simp [hm])
          simp only [SidecarRun.step, hm, hstarted, not_true_eq_false, if_false] at hs
          split at hs
          · obtain rfl := Option.some.inj hs
            exact ⟨h.wf, h.draining, fun hh => by
                obtain ⟨put, hc, hput⟩ := h.carries ⟨hh.1, hh.2, hh.3⟩
                exact ⟨put, SidecarWriter.carries_sentinel hc, hput⟩,
              fun _ _ => rfl, fun _ => hclosed, fun sum hs => by simp [hnone] at hs⟩
          · obtain rfl := Option.some.inj hs
            exact ⟨h.wf, h.draining, h.carries, fun _ _ => hstarted, fun _ => hclosed,
              fun sum hs => by simp [hnone] at hs⟩
      | _ => simp [SidecarRun.step, hm] at hs
  | join =>
      cases hm : p.main with
      | joining =>
          cases hw : p.sidecar.writer with
          | ended =>
              simp only [SidecarRun.step, hm, hw, Option.some.injEq] at hs
              have hstop := h.stopped hm
              simp only [hw] at hstop
              exact hs ▸ hstop
          | _ => simp [SidecarRun.step, hm, hw] at hs
      | _ => simp [SidecarRun.step, hm] at hs
  | joinTimeout =>
      cases hm : p.main with
      | joining =>
          simp only [SidecarRun.step, hm, Option.some.injEq] at hs
          exact hs ▸ h.stopped hm
      | _ => simp [SidecarRun.step, hm] at hs
  | writeSummary dropsNow =>
      cases hm : p.main with
      | stopped =>
          have hclosed := h.closed (by simp [hm])
          simp only [SidecarRun.step, hm, Option.some.injEq] at hs
          subst hs
          refine ⟨h.wf, h.draining, h.carries, fun _ hne => absurd rfl hne, fun _ => hclosed,
            fun sum hs => ?_⟩
          obtain rfl := Option.some.inj hs
          refine ⟨rfl, h.wf.frames_eq, fun hf => ?_⟩
          have hfailed : p.sidecar.failed = false := hf
          obtain ⟨hd, hfailing⟩ := hk.resolve_left (by simp [hfailed])
          have hdraining : p.sidecar.writer ≠ .draining := by
            intro hpc
            simp [h.draining hpc] at hfailed
          obtain ⟨put, hc, hput⟩ := h.carries ⟨hfailed, hfailing, hdraining⟩
          rw [hclosed.2, AddPc.hand, List.append_nil] at hput
          exact ⟨hd, hput ▸ SidecarWriter.disk_of_drained hd hc⟩
      | _ => simp [SidecarRun.step, hm] at hs
  | recordError =>
      simp only [SidecarRun.step, Option.some.injEq] at hs
      subst hs
      exact ⟨⟨h.wf.1, h.wf.2, fun _ herr => nomatch herr⟩, h.draining, h.carries, h.started,
        h.closed, h.summary⟩

/-- What the JSON promises of the CSV unless it carries `sidecar_csv_failed`. -/
def AttestsCsv (p : SidecarRun) : Prop :=
  ∀ sum, p.summary = some sum → sum.sidecarCsvFailed = false →
    ∃ text, p.sidecar.disk = some text ∧ OneToOne p sum text

/-- **CSV and video stay one to one**: in every run in which the writer keeps
up, a finalized session that is not attested as failed has a CSV of exactly the
accepted frames. -/
theorem attestsCsv_of_keepsUp (index : Nat) (encoded blocking : Bool) (dropsNow : DropSummary)
    (steps : List SidecarStep) (p : SidecarRun)
    (hk : Machine.Along SidecarRun.step KeepsUp
      (SidecarRun.start index encoded blocking dropsNow) steps)
    (h : Machine.exec SidecarRun.step (SidecarRun.start index encoded blocking dropsNow) steps =
      some p) : AttestsCsv p := by
  intro sum hsum hfailed
  have hinv := Machine.exec_inv_along sidecarInv_step
    (sidecarInv_start index encoded blocking dropsNow) hk h
  obtain ⟨-, hcount, hcsv⟩ := hinv.summary sum hsum
  refine ⟨_, (hcsv hfailed).2, ?_⟩
  exact
    { rows := by rw [readRows_csvText, List.tail_cons]
      count := hcount
      stamps := loadStamps_csvText p.session.accepted }

/-- A frame that is accepted, and its row put. -/
def addSteps (n : Int) : List SidecarStep :=
  [.push 0 acceptingEnv (plainStamp n) n, .check, .put]

/-- Two frames, and a writer that ends before the summary is written. -/
def timelySteps : List SidecarStep :=
  [.writer .openCsv] ++ addSteps 0 ++ addSteps 7 ++
    [.writer .get, .writer .writerow, .writer (.spill 5), .beginClose, .writer .get,
      .writer .writerow, .putSentinel, .writer .get, .writer .flush, .join,
      .writeSummary DropStats.init.summary]

/-- One frame, and a writer that is still writing its row after `stop` has
waited for it. -/
def lateSteps : List SidecarStep :=
  [.writer .openCsv] ++ addSteps 0 ++
    [.writer .get, .beginClose, .putSentinel, .joinTimeout,
      .writeSummary DropStats.init.summary]

/-- A session to start with. -/
def firstSession : SidecarRun := SidecarRun.start 1 false false DropStats.init.summary

/-- The timely run attests two frames. -/
theorem attestsCsv_timelySteps :
    ∃ p, Machine.exec SidecarRun.step firstSession timelySteps = some p ∧
      p.summary.map (fun sum => (sum.session.framesRecorded, sum.sidecarCsvFailed)) =
        some (2, false) ∧
      AttestsCsv p :=
  ⟨_, rfl, rfl, attestsCsv_of_keepsUp 1 false false DropStats.init.summary timelySteps _
    (by decide) rfl⟩

/-- `join` gives up after five seconds and the summary is written all the same. -/
theorem not_attestsCsv_lateSteps :
    ¬ ∀ (index : Nat) (encoded blocking : Bool) (dropsNow : DropSummary)
      (steps : List SidecarStep) (p : SidecarRun),
      Machine.exec SidecarRun.step (SidecarRun.start index encoded blocking dropsNow) steps =
        some p → AttestsCsv p := by
  intro h
  obtain ⟨text, hdisk, hone⟩ := h 1 false false DropStats.init.summary lateSteps _ rfl _ rfl rfl
  obtain rfl := Option.some.inj hdisk
  exact absurd hone.rows (by decide)

end CamDriver
