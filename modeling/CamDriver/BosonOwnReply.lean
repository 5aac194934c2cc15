import CamDriver.BosonPoll

/-!
# CamDriver.BosonOwnReply

When a command of a Boson is answered by its own reply.

What a command takes is a reply that came in whole while it read (`Sound.taken`), with its
sequence number and its function id.  The numbers of one port object count its requests
(`Counted`), and start again with the next one.  So an earlier request only has the number
of a later one where it went to an earlier port object, or 2^32 requests before
(`Counted.late`).
-/

namespace CamDriver

namespace Boson

/-! ## The line -/

/-- Dropping bytes of the line takes them off the frames. -/
theorem bytes_dropBytes (n : Nat) (rest : List UInt8) (replies : List Reply) :
    (dropBytes n rest replies).bytes = (rest ++ replies.flatMap Reply.frame).drop n := by
  induction replies generalizing n rest with
  | nil => simp [dropBytes, SerialLine.bytes]
  | cons r replies ih =>
      rw [dropBytes]
      split
      · next hn => rw [List.drop_append_of_le_length hn, SerialLine.bytes]
      · next hn =>
          rw [ih, List.flatMap_cons, @List.drop_append _ rest,
            List.drop_of_length_le (Nat.le_of_not_le hn), List.nil_append]

/-- So the line without its first bytes is what it says. -/
theorem SerialLine.bytes_drop (line : SerialLine) (n : Nat) :
    (line.drop n).bytes = line.bytes.drop n :=
  bytes_dropBytes n line.rest line.replies

/-- A sequence number is the request's number modulo 2^32. -/
theorem seqOf_toNat (seq : UInt32) : seqOf seq.toNat = seq := by
  have h := toNat_seqOf seq.toNat
  have lt := seq.toNat_lt
  exact UInt32.toNat_inj.1 (by omega)

/-- A reply's frame decodes to its fields. -/
theorem Reply.decodeFrame_frame (r : Reply) : decodeFrame r.frame = .ok r.fields := by
  rw [frame, decodeFrame_encodeFrame, seqOf_toNat]
  rfl

/-- It begins with the start marker, ends with the end marker, and neither is inside. -/
theorem Reply.frame_eq (r : Reply) :
    r.frame = startByte :: escape r.fields.body ++ [endByte] := by
  rw [frame, encodeFrame, seqOf_toNat]
  rfl

/-- Behind its first byte, a frame has no start marker. -/
theorem Reply.start_notMem_drop (r : Reply) {n : Nat} (h : 0 < n) :
    startByte ∉ r.frame.drop n := by
  obtain ⟨m, rfl⟩ := Nat.exists_eq_succ_of_ne_zero (Nat.ne_of_gt h)
  rw [r.frame_eq, List.cons_append, List.drop_succ_cons]
  intro hmem
  obtain hmem | hmem := List.mem_append.1 (List.mem_of_mem_drop hmem)
  · exact start_notMem_escape _ hmem
  · exact absurd (List.mem_singleton.1 hmem) (by decide)

/-- What is left of a dropped frame has no start marker. -/
theorem start_notMem_dropBytes {n : Nat} {rest : List UInt8} {replies : List Reply}
    (h : startByte ∉ rest.drop n) : startByte ∉ (dropBytes n rest replies).rest := by
  induction replies generalizing n rest with
  | nil => exact h
  | cons r replies ih =>
      rw [dropBytes]
      split
      · exact h
      · next hn => exact ih (r.start_notMem_drop (Nat.sub_pos_of_lt (Nat.lt_of_not_le hn)))

/-- Whole replies are left at the end only. -/
theorem suffix_dropBytes (n : Nat) (rest : List UInt8) (replies : List Reply) :
    (dropBytes n rest replies).replies <:+ replies := by
  induction replies generalizing n rest with
  | nil => exact List.suffix_rfl
  | cons r replies ih =>
      rw [dropBytes]
      split
      · exact List.suffix_rfl
      · exact (ih _ _).trans (List.suffix_cons r replies)

/-- No frame begins in the rest of one. -/
def SerialLine.Clean (line : SerialLine) : Prop := startByte ∉ line.rest

/-- So a clean line stays clean, however many bytes are dropped. -/
theorem SerialLine.Clean.drop {line : SerialLine} (h : line.Clean) (n : Nat) :
    (line.drop n).Clean :=
  start_notMem_dropBytes fun hmem => h (List.mem_of_mem_drop hmem)

/-- The frames of the line are those of the replies on it. -/
theorem SerialLine.Clean.frames {line : SerialLine} (h : line.Clean) :
    Framing.frames startByte endByte [] line.bytes = line.replies.map Reply.frame := by
  have bodies : line.replies.flatMap Reply.frame =
      (line.replies.map fun r => escape r.fields.body).flatMap fun body =>
        startByte :: body ++ [endByte] := by
    rw [List.flatMap_map]
    exact List.flatMap_congr fun r _ => r.frame_eq
  rw [SerialLine.bytes, Framing.frames_append, (Framing.outside h).1, (Framing.outside h).2,
    List.nil_append, bodies, Framing.frames_flatten, List.map_map]
  · exact List.map_congr_left fun r _ => r.frame_eq.symm
  · intro body hbody
    obtain ⟨r, -, rfl⟩ := List.mem_map.1 hbody
    exact end_notMem_escape _

/-- Of the bytes at the front of the line, the frames are those of the first replies. -/
theorem SerialLine.Clean.frames_take {line : SerialLine} (h : line.Clean) (n : Nat) :
    Framing.frames startByte endByte [] (line.bytes.take n) =
      (line.replies.take (Framing.frames startByte endByte [] (line.bytes.take n)).length).map
        Reply.frame := by
  have split := h.frames
  rw [← List.take_append_drop n line.bytes, Framing.frames_append] at split
  rw [List.map_take, ← split, List.take_left]

/-! ## What a command takes -/

/-- The reads of a command take some bytes off the line, and it looks at the frames in
them. -/
theorem receive_spec (seq functionId : UInt32) {buf : List UInt8}
    (h : Framing.Unfinished startByte endByte buf) (line : SerialLine) (reads : List Nat) :
    ∃ n, (receive seq functionId buf line reads).reply =
        (Framing.frames startByte endByte buf (line.bytes.take n)).findSome?
          (replyOf seq functionId) ∧
      (receive seq functionId buf line reads).frames =
        (Framing.frames startByte endByte buf (line.bytes.take n)).length := by
  induction reads generalizing buf line with
  | nil => exact ⟨0, rfl, rfl⟩
  | cons m reads ih =>
      obtain ⟨n, hreply, hframes⟩ := ih (Framing.unfinished_keeps h (line.bytes.take (min m 4096)))
        (line.drop (min m 4096))
      rw [line.bytes_drop] at hreply hframes
      have fed : FrameSplitter.feed buf (line.bytes.take (min m 4096)) = _ :=
        Framing.feed_eq h (line.bytes.take (min m 4096))
      cases found : (Framing.frames startByte endByte buf
          (line.bytes.take (min m 4096))).findSome? (replyOf seq functionId) with
      | some fields =>
          refine ⟨min m 4096, ?_⟩
          simp only [receive, SerialLine.read, fed, found, and_self]
      | none =>
          refine ⟨min m 4096 + n, ?_⟩
          simp only [receive, SerialLine.read, fed, found, List.take_add, Framing.frames_append,
            List.findSome?_append, List.length_append, Option.none_or, hreply, hframes, and_self]

/-- What holds of a line however much of it is dropped holds behind the reads. -/
theorem receive_line {P : SerialLine → Prop} (hP : ∀ line n, P line → P (line.drop n))
    (seq functionId : UInt32) (buf : List UInt8) {line : SerialLine} (h : P line)
    (reads : List Nat) : P (receive seq functionId buf line reads).line := by
  induction reads generalizing buf line with
  | nil => exact h
  | cons m reads ih =>
      have hread := hP line (min m 4096) h
      dsimp only [receive, SerialLine.read]
      split
      · exact hread
      · exact ih _ hread

/-- A reply that is taken has the number and the function of the request. -/
theorem replyOf_frame {seq functionId : UInt32} {r : Reply} {fields : Fields}
    (h : replyOf seq functionId r.frame = some fields) :
    r.fields = fields ∧ fields.seq = seq ∧ fields.functionId = functionId := by
  rw [replyOf, r.decodeFrame_frame] at h
  dsimp only at h
  split at h
  · cases h
  · next hsame =>
      cases h
      rw [not_or, not_not, not_not] at hsame
      exact ⟨rfl, hsame⟩

/-- A payload comes from a reply of status 0. -/
theorem outcomeOf_eq_ok {timeout : String} {functionId : UInt32} {failure : Option PortFailure}
    {reply : Option Fields} {payload : List UInt8}
    (h : outcomeOf timeout functionId failure reply = .ok payload) :
    ∃ fields, reply = some fields ∧ fields.status = 0 ∧ fields.payload = payload := by
  unfold outcomeOf at h
  split at h
  · next fields =>
      split at h
      · cases h
      · next hstatus => exact ⟨fields, rfl, not_not.1 hstatus, Except.ok.inj h⟩
  · split at h <;> cases h

/-! ## Own replies -/

namespace CommandRecord

/-- A successful reply with the sequence number and the function id of the command. -/
def Carries (e : CommandRecord) (payload : List UInt8) (r : Reply) : Prop :=
  r.fields = ⟨e.request.seq, e.request.functionId, 0, payload⟩

/-- What the command returned is the payload of a reply that came in, and each reply that
it may be of is one to its own request. -/
def OwnReply (e : CommandRecord) : Prop :=
  ∀ payload, e.outcome = .ok payload →
    (∃ r ∈ e.arrived, e.Carries payload r) ∧
      ∀ r ∈ e.arrived, e.Carries payload r → r.request = e.request

/-- No successful reply with the sequence number and the function id of the command came in
whole while it read that is to a request of an earlier port object, or to one 2^32 requests
before. -/
def Undisturbed (e : CommandRecord) : Prop :=
  ∀ r ∈ e.arrived, r.status = 0 → r.request.seq = e.request.seq →
    r.request.functionId = e.request.functionId →
      ¬ (r.request.port < e.request.port ∨ r.request.number + 2 ^ 32 ≤ e.request.number)

instance (e : CommandRecord) : Decidable e.Undisturbed :=
  inferInstanceAs (Decidable (∀ r ∈ e.arrived, r.status = 0 → r.request.seq = e.request.seq →
    r.request.functionId = e.request.functionId →
      ¬ (r.request.port < e.request.port ∨ r.request.number + 2 ^ 32 ≤ e.request.number)))

/-- The command took a reply that came in, to a request written up to then. -/
structure Sound (sent : List Request) (e : CommandRecord) : Prop where
  request : e.request ∈ sent
  arrived : ∀ r ∈ e.arrived, r.request ∈ sent ∧ r.request.number ≤ e.request.number
  taken : ∀ payload, e.outcome = .ok payload → ∃ r ∈ e.arrived, e.Carries payload r

/-- More requests do no harm. -/
theorem Sound.mono {sent sent' : List Request} {e : CommandRecord} (h : e.Sound sent)
    (hsent : sent ⊆ sent') : e.Sound sent' where
  request := hsent h.request
  arrived r hr := ⟨hsent (h.arrived r hr).1, (h.arrived r hr).2⟩
  taken := h.taken

end CommandRecord

/-! ## The camera's side -/

/-- What is on the line, and what came off it, are replies to requests that were written. -/
structure CameraLink.Sound (link : CameraLink) : Prop where
  clean : link.line.Clean
  replies : ∀ r ∈ link.line.replies, r.request ∈ link.sent
  awaiting : ∀ q ∈ link.awaiting, q ∈ link.sent
  records : ∀ e ∈ link.records, e.Sound link.sent

namespace CameraLink.Sound

variable {link : CameraLink}

/-- The camera answers one request. -/
theorem answer (h : link.Sound) (a : Answer) : (link.answer a).Sound := by
  unfold CameraLink.answer
  split
  · exact h
  · next request hrequest =>
      have written := h.awaiting request (List.mem_of_getElem? hrequest)
      refine ⟨h.clean, ?_, fun q hq => h.awaiting q (List.mem_of_mem_eraseIdx hq), h.records⟩
      intro r hr
      obtain hr | hr := List.mem_append.1 hr
      · exact h.replies r hr
      · rw [List.mem_singleton.1 hr]
        exact written

theorem answers (h : link.Sound) (as : List Answer) :
    (as.foldl CameraLink.answer link).Sound := by
  induction as generalizing link with
  | nil => exact h
  | cons a as ih => exact ih (h.answer a)

/-- Answers are no requests. -/
theorem sent_answers (as : List Answer) (link : CameraLink) :
    (as.foldl CameraLink.answer link).sent = link.sent := by
  induction as generalizing link with
  | nil => rfl
  | cons a as ih =>
      rw [List.foldl_cons, ih]
      unfold CameraLink.answer
      split <;> rfl

/-- The number of the call does not matter. -/
theorem called (h : link.Sound) (n : Nat) : CameraLink.Sound { link with calls := n } :=
  ⟨h.clean, h.replies, h.awaiting, h.records⟩

/-- A drain takes bytes off the line. -/
theorem drain (h : link.Sound) (course : Course) : (link.drain course).Sound :=
  have h := h.answers course.before
  { clean := h.clean.drop course.drained
    replies := fun r hr => h.replies r ((suffix_dropBytes _ _ _).subset hr)
    awaiting := h.awaiting
    records := h.records }

theorem write (h : link.Sound) (request : Request) (whole : Bool) :
    (link.write request whole).Sound := by
  have written : link.sent ⊆ link.sent ++ [request] := List.subset_append_left _ _
  refine ⟨h.clean, fun r hr => written (h.replies r hr), ?_,
    fun e he => (h.records e he).mono written⟩
  intro q hq
  unfold CameraLink.write at hq
  cases whole with
  | false => exact written (h.awaiting q hq)
  | true =>
      obtain hq | hq := List.mem_append.1 hq
      · exact written (h.awaiting q hq)
      · exact List.mem_append_right _ hq

/-- A command that reads takes a reply on the line. -/
theorem listen (h : link.Sound) (timeout : String) {request : Request} (course : Course)
    (hrequest : request ∈ link.sent) (hlast : ∀ q ∈ link.sent, q.number ≤ request.number) :
    (link.listen timeout request course).2.Sound := by
  have answered := h.answers course.behind
  have sent := sent_answers course.behind link
  unfold CameraLink.listen
  generalize course.behind.foldl CameraLink.answer link = link' at answered sent
  dsimp only
  have fresh : Framing.Unfinished startByte endByte [] := .inl rfl
  obtain ⟨n, hreply, hframes⟩ :=
    receive_spec request.seq request.functionId fresh link'.line course.reads
  rw [answered.clean.frames_take n, ← hframes] at hreply
  refine ⟨?_, ?_, answered.awaiting, ?_⟩
  · exact receive_line (P := SerialLine.Clean) (fun line n hline => hline.drop n) _ _ _
      answered.clean _
  · exact receive_line (P := fun line => ∀ r ∈ line.replies, r.request ∈ link'.sent)
      (fun line n hline r hr => hline r ((suffix_dropBytes _ _ _).subset hr)) _ _ _
      answered.replies _
  · intro e he
    obtain he | he := List.mem_append.1 he
    · exact answered.records e he
    · rw [List.mem_singleton.1 he]
      refine ⟨sent ▸ hrequest, ?_, ?_⟩
      · intro r hr
        have written := answered.replies r (List.mem_of_mem_take hr)
        exact ⟨written, hlast _ (sent ▸ written)⟩
      · intro payload hpayload
        dsimp only at hpayload
        obtain ⟨fields, htaken, hstatus, hbody⟩ := outcomeOf_eq_ok hpayload
        rw [hreply] at htaken
        obtain ⟨frame, hframe, hof⟩ := List.exists_of_findSome?_eq_some htaken
        obtain ⟨r, hr, rfl⟩ := List.mem_map.1 hframe
        obtain ⟨hfields, hseq, hfunction⟩ := replyOf_frame hof
        refine ⟨r, hr, ?_⟩
        rw [CommandRecord.Carries, hfields, ← hseq, ← hfunction, ← hstatus, ← hbody]

end CameraLink.Sound

/-! ## Sequence numbers -/

/-- The requests are numbered as they were written, those to one port object have one
sequence number after the other, and `port` is the last object, with the number of its last
request. -/
structure Counted (port : Port) (sent : List Request) : Prop where
  numbers : sent.map Request.number = List.range sent.length
  ports : ∀ q ∈ sent, q.port ≤ port.number
  last : ∀ q ∈ sent, q.port = port.number →
    port.seq = q.seq + UInt32.ofNat (sent.length - 1 - q.number)
  ordered : ∀ q ∈ sent, ∀ q' ∈ sent, q.number ≤ q'.number → q.port ≤ q'.port
  counted : ∀ q ∈ sent, ∀ q' ∈ sent, q.port = q'.port → q.number ≤ q'.number →
    q'.seq = q.seq + UInt32.ofNat (q'.number - q.number)

namespace Counted

variable {port : Port} {sent : List Request}

/-- A number is below the count of the requests. -/
theorem number_lt (h : Counted port sent) {q : Request} (hq : q ∈ sent) :
    q.number < sent.length := by
  have mem : q.number ∈ sent.map Request.number := List.mem_map_of_mem hq
  rwa [h.numbers, List.mem_range] at mem

/-- Of one port every number is sent once. -/
theorem eq_of_number_eq (h : Counted port sent) {q q' : Request} (hq : q ∈ sent)
    (hq' : q' ∈ sent) (hnumber : q.number = q'.number) : q = q' := by
  have nodup : (sent.map Request.number).Nodup := h.numbers ▸ List.nodup_range
  exact List.inj_on_of_nodup_map nodup hq hq' hnumber

/-- A port that has sent nothing. -/
theorem init : Counted ⟨0, 0, false⟩ [] :=
  ⟨rfl, by simp, by simp, by simp, by simp⟩

/-- It does not matter whether the port object is open. -/
theorem of_eq {port' : Port} (h : Counted port sent) (hnumber : port'.number = port.number)
    (hseq : port'.seq = port.seq) : Counted port' sent := by
  refine ⟨h.numbers, ?_, ?_, h.ordered, h.counted⟩
  · rw [hnumber]
    exact h.ports
  · rw [hnumber, hseq]
    exact h.last

/-- A new port object begins at zero; nothing was written to it. -/
theorem make (h : Counted port sent) (isOpen : Bool) :
    Counted ⟨port.number + 1, 0, isOpen⟩ sent := by
  refine ⟨h.numbers, fun q hq => Nat.le_succ_of_le (h.ports q hq), ?_, h.ordered, h.counted⟩
  intro q hq hport
  have older := h.ports q hq
  dsimp only at hport
  omega

/-- One more request has the next sequence number. -/
theorem write (h : Counted port sent) (functionId : UInt32) :
    Counted { port with seq := port.seq + 1 }
      (sent ++ [⟨sent.length, port.number, port.seq + 1, functionId⟩]) := by
  have next : ∀ q ∈ sent, q.port = port.number →
      port.seq + 1 = q.seq + UInt32.ofNat (sent.length - q.number) := by
    intro q hq hport
    have lt := h.number_lt hq
    have count : sent.length - q.number = sent.length - 1 - q.number + 1 := by omega
    rw [count, UInt32.ofNat_add, ← UInt32.add_assoc, ← h.last q hq hport]
    rfl
  constructor
  · rw [List.map_append, h.numbers, List.length_append, List.length_singleton, List.range_succ]
    rfl
  · intro q hq
    obtain hq | hq := List.mem_append.1 hq
    · exact h.ports q hq
    · rw [List.mem_singleton.1 hq]
  · intro q hq hport
    rw [List.length_append, List.length_singleton, Nat.add_sub_cancel]
    obtain hq | hq := List.mem_append.1 hq
    · exact next q hq hport
    · rw [List.mem_singleton.1 hq, Nat.sub_self]
      exact (UInt32.add_zero _).symm
  · intro q hq q' hq' hle
    obtain hq | hq := List.mem_append.1 hq <;> obtain hq' | hq' := List.mem_append.1 hq'
    · exact h.ordered q hq q' hq' hle
    · rw [List.mem_singleton.1 hq']
      exact h.ports q hq
    · rw [List.mem_singleton.1 hq] at hle
      exact absurd (h.number_lt hq') (Nat.not_lt.2 hle)
    · rw [List.mem_singleton.1 hq, List.mem_singleton.1 hq']
  · intro q hq q' hq' hport hle
    obtain hq | hq := List.mem_append.1 hq <;> obtain hq' | hq' := List.mem_append.1 hq'
    · exact h.counted q hq q' hq' hport hle
    · rw [List.mem_singleton.1 hq'] at hport ⊢
      exact next q hq hport
    · rw [List.mem_singleton.1 hq] at hle
      exact absurd (h.number_lt hq') (Nat.not_lt.2 hle)
    · rw [List.mem_singleton.1 hq, List.mem_singleton.1 hq', Nat.sub_self]
      exact (UInt32.add_zero _).symm

/-- An earlier request with the same sequence number went to an earlier port object, or was
written 2^32 requests before. -/
theorem late (h : Counted port sent) {q q' : Request} (hq : q ∈ sent) (hq' : q' ∈ sent)
    (hne : q ≠ q') (hle : q.number ≤ q'.number) (hseq : q.seq = q'.seq) :
    q.port < q'.port ∨ q.number + 2 ^ 32 ≤ q'.number := by
  rw [or_iff_not_imp_left]
  intro hport
  have same : q.port = q'.port :=
    Nat.le_antisymm (h.ordered q hq q' hq' hle) (Nat.le_of_not_lt hport)
  have count := congrArg UInt32.toNat (h.counted q hq q' hq' same hle)
  have ne : q.number ≠ q'.number := fun heq => hne (h.eq_of_number_eq hq hq' heq)
  rw [← hseq, UInt32.toNat_add, UInt32.toNat_ofNat'] at count
  have bound := q.seq.toNat_lt
  omega

end Counted

/-! ## Runs -/

/-- A drain sends nothing. -/
theorem CameraLink.sent_drain (link : CameraLink) (course : Course) :
    (link.drain course).sent = link.sent :=
  Sound.sent_answers course.before link

theorem CameraLink.sent_listen (link : CameraLink) (timeout : String) (request : Request)
    (course : Course) : (link.listen timeout request course).2.sent = link.sent :=
  Sound.sent_answers course.behind link

/-- Every command took a reply that came in, and the requests are counted. -/
structure Kept (port : Port) (link : CameraLink) : Prop where
  sound : link.Sound
  counted : Counted port link.sent

/-- A command keeps the link and the count of its port. -/
theorem Kept.command {port : Port} {link : CameraLink} (h : Kept port link) (timeout : String)
    (functionId : UInt32) (course : Course) :
    Kept (port.command timeout functionId course link).2.1
      (port.command timeout functionId course link).2.2 := by
  have sound := (h.sound.called (link.calls + 1)).drain course
  have sent := CameraLink.sent_drain { link with calls := link.calls + 1 } course
  have counted := h.counted.write functionId
  unfold Port.command
  generalize CameraLink.drain { link with calls := link.calls + 1 } course = drained at sound sent
  rw [← show drained.sent = link.sent from sent] at counted
  split
  · exact h
  · dsimp only
    split
    · refine ⟨sound, ?_⟩
      rw [sent]
      exact h.counted
    · split
      · exact ⟨sound.write _ false, counted⟩
      · have last : ∀ q ∈ drained.sent ++
            [⟨drained.sent.length, port.number, port.seq + 1, functionId⟩],
              q.number ≤ drained.sent.length := by
          intro q hq
          have lt := counted.number_lt hq
          rw [List.length_append, List.length_singleton] at lt
          exact Nat.le_of_lt_succ lt
        refine ⟨(sound.write _ true).listen timeout course ?_ last, ?_⟩
        · exact List.mem_append_right _ (List.mem_singleton_self _)
        · rw [CameraLink.sent_listen]
          exact counted

section Runs

variable (cfg : BosonConfig) (world : BosonWorld)

/-- `Kept`, of a provider. -/
def KeptState (s : BosonState) : Prop := Kept s.port s.link

/-- A closed port sends nothing more. -/
theorem keptState_closePort {s : BosonState} (h : KeptState s) : KeptState s.closePort :=
  ⟨h.sound, h.counted.of_eq rfl rfl⟩

theorem keptState_close {s : BosonState} (h : KeptState s) : KeptState s.close := by
  unfold BosonState.close
  split
  · exact keptState_closePort h
  · exact h

/-- A port that is gone is closed. -/
theorem keptState_onGone {f : BosonState → BosonState}
    (hf : ∀ s, KeptState s → KeptState (f s)) (e : PortError) (s : BosonState)
    (h : KeptState s) : KeptState (onGone f e s) := by
  cases e with
  | gone => exact hf s h
  | bad message => exact h

/-- A command of a poll. -/
theorem keeps_command (functionId : UInt32) :
    Effects.Keeps KeptState (command cfg world functionId) fun _ => True := by
  intro s hs
  have kept := Kept.command hs cfg.timeout functionId (world.course s.link.calls)
  simp only [EStateM.run, command]
  generalize s.port.command cfg.timeout functionId (world.course s.link.calls) s.link = out at kept
  obtain ⟨outcome, port, link⟩ := out
  cases outcome with
  | ok payload => exact ⟨kept, trivial⟩
  | error e => exact kept

/-- A payload that is unpacked changes nothing. -/
theorem keeps_unpack (need : Nat) (body : List UInt8) :
    Effects.Keeps KeptState (unpack need body) fun _ => True :=
  Effects.ite (fun _ => Effects.fail _) fun _ => Effects.ret trivial

/-- A command, and what its reply is read as. -/
theorem keeps_unpacked (functionId : UInt32) (need : Nat) :
    Effects.Keeps KeptState (command cfg world functionId >>= unpack need) fun _ => True :=
  Effects.seq (keeps_command cfg world functionId) fun body _ => keeps_unpack need body

/-- The commands that identify the camera. -/
theorem keeps_identify : Effects.Keeps KeptState (identify cfg world) fun _ => True := by
  refine Effects.seq (Effects.tried (keeps_command cfg world fnPartNumber)) fun _ _ => ?_
  refine Effects.seq (Effects.tried (keeps_unpacked cfg world fnCameraSn 4)) fun _ _ => ?_
  exact Effects.ret trivial

/-- A port that is opened counts from 0. -/
theorem keeps_ensurePort : Effects.Keeps KeptState (ensurePort cfg world) fun _ => True := by
  refine Effects.seq Effects.here fun s hs => Effects.ite (fun _ => Effects.ret trivial) fun _ => ?_
  have made : KeptState (s.makePort (world.opens (s.port.number + 1))) :=
    ⟨hs.sound, hs.counted.make _⟩
  refine Effects.seq (Effects.put made) fun _ _ => Effects.ite (fun _ => Effects.fail _) fun _ => ?_
  refine Effects.seq (Effects.cleaned (keeps_identify cfg world) ?_) fun hw _ => ?_
  · exact keptState_onGone fun s => keptState_closePort
  · exact Effects.change fun s hs => hs

theorem keeps_readRound (r : HealthValues × List String)
    (item : String × UInt32 × Nat × (List UInt8 → HealthValue)) :
    Effects.Keeps KeptState (readRound cfg world r item) fun _ => True := by
  obtain ⟨key, functionId, need, parse⟩ := item
  refine Effects.seq Effects.here fun s _ => Effects.ite (fun _ => Effects.ret trivial) fun _ => ?_
  have read := Effects.cleaned (keeps_unpacked cfg world functionId need)
    (keptState_onGone fun s => keptState_close)
  refine Effects.seq (Effects.tried read) fun got _ => ?_
  cases got with
  | ok body => exact Effects.ret trivial
  | error e => exact Effects.ret trivial

theorem keeps_poll : Effects.Keeps KeptState (poll cfg world) fun _ => True := by
  refine Effects.seq (keeps_ensurePort cfg world) fun _ _ => ?_
  have reads : Effects.Keeps KeptState (pollReads.foldlM (readRound cfg world) (∅, []))
      fun _ => True :=
    Effects.loop (fun item _ r _ => keeps_readRound cfg world r item) trivial
  refine Effects.seq reads fun r _ => Effects.ite (fun _ => ?_) fun _ => ?_
  · exact Effects.seq (Effects.change fun s => keptState_close) fun _ _ => Effects.fail _
  · exact Effects.seq Effects.here fun s _ => Effects.ret trivial

/-- A poll or a close. -/
theorem keptState_step {s : BosonState} (h : KeptState s) (action : BosonAction) :
    KeptState (bosonStep cfg world s action).1 := by
  cases action with
  | poll =>
      have kept := keeps_poll cfg world s h
      unfold bosonStep
      dsimp only
      split at kept
      · next reports s' hrun =>
          rw [hrun]
          exact kept.1
      · next e s' hrun =>
          rw [hrun]
          exact kept
  | close => exact keptState_close h

theorem keptState_afterActions (actions : List BosonAction) :
    KeptState (afterActions cfg world actions) := by
  have init : KeptState .init :=
    ⟨⟨List.not_mem_nil, by simp [BosonState.init, CameraLink.init],
      by simp [BosonState.init, CameraLink.init], by simp [BosonState.init, CameraLink.init]⟩,
      Counted.init⟩
  exact Machine.inv_history (I := fun s _ => KeptState s) init
    (fun s _ action hs => keptState_step cfg world hs action) actions

/-- An earlier request whose reply a command can take for its own went to an earlier port
object, or was written 2^32 requests before: between two requests of one object the counter has
gone on. -/
theorem late_of_same_number (actions : List BosonAction) :
    ∀ e ∈ (afterActions cfg world actions).link.records, ∀ r ∈ e.arrived,
      r.request.seq = e.request.seq → r.request ≠ e.request →
        r.request.port < e.request.port ∨ r.request.number + 2 ^ 32 ≤ e.request.number := by
  intro e he r hr hseq hne
  have kept := keptState_afterActions cfg world actions
  have sound := kept.sound.records e he
  obtain ⟨hwritten, hle⟩ := sound.arrived r hr
  exact kept.counted.late hwritten sound.request hne hle hseq

/-- Where no successful reply with its number and its function id, to a request of an earlier
port object, comes in while a command reads, every payload a command returns is that of its own
reply: late replies to the requests of its own port object it leaves alone. -/
theorem commands_ownReply (actions : List BosonAction)
    (h : ∀ e ∈ (afterActions cfg world actions).link.records, e.Undisturbed) :
    ∀ e ∈ (afterActions cfg world actions).link.records, e.OwnReply := by
  intro e he payload hpayload
  have kept := keptState_afterActions cfg world actions
  refine ⟨(kept.sound.records e he).taken payload hpayload, fun r hr hcarries => ?_⟩
  by_contra hother
  have hseq : r.request.seq = e.request.seq := congrArg Fields.seq hcarries
  exact h e he r hr (congrArg Fields.status hcarries) hseq
    (congrArg Fields.functionId hcarries)
    (late_of_same_number cfg world actions e he r hr hseq hother)

end Runs

/-! ## A silent camera -/

/-- A course in which the camera does nothing. -/
def silence : Course :=
  { stopped := false, before := [], drained := 0, behind := [], reads := [], failure := none }

/-- A provider with no text for numbers. -/
def plainConfig : BosonConfig := ⟨"/dev/ttyACM0", "0.5", ⟨fun _ => "", fun _ => ""⟩⟩

/-- The camera answers the n-th command alone, with the first of the requests it has not
answered. -/
def answersAt (n : Nat) : BosonWorld :=
  { opens := fun _ => true
    course := fun k =>
      if k = n then { silence with behind := [⟨0, 0, [0x61]⟩], reads := [4096] } else silence }

/-- The camera answers the first command late, and the second one behind that. -/
def answersLate : BosonWorld :=
  { opens := fun _ => true
    course := fun k =>
      if k = 1 then { silence with behind := [⟨0, 0, [0x61]⟩, ⟨0, 0, [0x62]⟩], reads := [4096] }
      else silence }

/-- The second command reads both replies, and takes its own. -/
theorem commands_ownReply_second :
    ∃ e ∈ (afterActions plainConfig answersLate [.poll]).link.records,
      e.arrived.map Reply.payload = [[0x61], [0x62]] ∧ e.outcome = .ok [0x62] ∧ e.OwnReply := by
  have second : (afterActions plainConfig answersLate [.poll]).link.records[1]? =
      some ⟨⟨1, 1, 2, fnCameraSn⟩,
        [⟨⟨0, 1, 1, fnPartNumber⟩, 0, [0x61]⟩, ⟨⟨1, 1, 2, fnCameraSn⟩, 0, [0x62]⟩],
        .ok [0x62]⟩ := by
    decide +kernel
  have own := commands_ownReply plainConfig answersLate [.poll] (by decide +kernel)
  exact ⟨_, List.mem_of_getElem? second, rfl, rfl, own _ (List.mem_of_getElem? second)⟩

/-- A camera that answered nothing for a whole poll answers the first command of the next
port object with the reply to the first one of the port object before. -/
theorem not_commands_ownReply :
    ¬ ∀ (cfg : BosonConfig) (world : BosonWorld) (actions : List BosonAction),
      ∀ e ∈ (afterActions cfg world actions).link.records, e.OwnReply := by
  intro own
  have late : (afterActions plainConfig (answersAt 6) [.poll, .poll]).link.records[6]? =
      some ⟨⟨6, 2, 1, fnPartNumber⟩, [⟨⟨0, 1, 1, fnPartNumber⟩, 0, [0x61]⟩], .ok [0x61]⟩ := by
    decide +kernel
  have taken := own plainConfig (answersAt 6) [.poll, .poll] _ (List.mem_of_getElem? late)
    [0x61] rfl
  exact absurd (taken.2 _ (List.mem_singleton_self _) rfl) (by decide)

end Boson

end CamDriver
