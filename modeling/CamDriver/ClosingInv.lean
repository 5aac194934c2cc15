import CamDriver.Closing

/-!
# CamDriver.ClosingInv

What holds in every state of a session that is closed: who may be where (`Order`), how
often end-of-stream is emitted (`Eos`), what a cancelled push is told (`Cancelled`), and
what `finish_close` reports (`FinishAt`).
-/

namespace CamDriver

/-! ## The order: who is where -/

/-- The push holds `lock`, but has not got past the guard, or is refused. -/
def PushPc.outside : PushPc → Bool
  | .locked => true
  | .leaving _ result => result ≠ .ok
  | _ => false

/-- Outside of `push-buffer` a push has nothing to promise. -/
theorem PushPc.quiet_of_outside {pc : PushPc} (h : pc.outside = true) (frame : PushedFrame) :
    pc.Quiet frame := by
  cases pc with
  | locked => exact ⟨rfl, rfl, rfl⟩
  | leaving flow result => exact quiet_of_refused (by simpa [outside] using h) frame
  | _ => cases h

namespace ClosingSession

/-- The flags a `begin_close` has set where it stands. -/
def FlagsAt (s : ClosingSession) : Option CloserPc → Prop
  | none | some .entered => True
  | some .marked | some (.decided _) | some (.joining _) | some (.joined _) =>
    s.closing = true ∧ s.closed = false
  | some (.shut _) => s.closed = true ∧ s.appsrc = true ∧ s.returned = 0
  | some .unlocking => s.closed = true ∧ s.returned = 0
  | some .leaving => s.closed = true

/-- Once a `begin_close` has returned, no other needs the appsrc. -/
theorem FlagsAt.tearing {s : ClosingSession} {pc : Option CloserPc} (h : s.FlagsAt pc)
    (hreturned : 0 < s.returned) :
    FlagsAt { s with appsrc := false, finish := .reporting } pc := by
  cases pc with
  | none => trivial
  | some pc =>
      cases pc with
      | shut eosSent => exact absurd h.2.2 (Nat.ne_of_gt hreturned)
      | _ => exact h

/-- The calls are where they exclude each other. -/
structure Order (s : ClosingSession) : Prop where
  exclusive : s.closeHoldsLock = true → s.push = none
  flags : s.FlagsAt s.close
  closing_of_closed : s.closed = true → s.closing = true
  closing_of_eos : 0 < s.eosEmitted → s.closing = true
  outside : s.closed = true → ∀ frame pc, s.push = some (frame, pc) → pc.outside = true
  returned : 0 < s.returned → s.closed = true
  appsrc : s.appsrc = false → s.closed = true
  finish : s.finish ≠ .notStarted → 0 < s.returned ∧ s.watch = false

/-- A session that is open. -/
theorem order_start (setup : CloseSetup) : (start setup).Order :=
  ⟨nofun, trivial, nofun, nofun, nofun, nofun, nofun, fun h => absurd rfl h⟩

/-- What the statements of a push leave alone. -/
structure SameClose (s s' : ClosingSession) : Prop where
  close : s'.close = s.close
  finish : s'.finish = s.finish
  closing : s'.closing = s.closing
  closed : s'.closed = s.closed
  appsrc : s'.appsrc = s.appsrc
  eosEmitted : s'.eosEmitted = s.eosEmitted
  returned : s'.returned = s.returned
  watch : s'.watch = s.watch
  eosSeen : s'.eosSeen = s.eosSeen
  eosPopped : s'.eosPopped = s.eosPopped
  truncated : s'.truncated = s.truncated

/-- A push leaves what closes alone. -/
theorem PushMove.sameClose {s s' : ClosingSession} {frame : PushedFrame} {pc : PushPc}
    (hmove : s.PushMove frame pc s') : SameClose s s' := by
  cases hmove <;> exact ⟨rfl, rfl, rfl, rfl, rfl, rfl, rfl, rfl, rfl, rfl, rfl⟩

/-- Who holds the lock depends on the closer only. -/
theorem closeHoldsLock_congr {s s' : ClosingSession} (h : s'.close = s.close) :
    s'.closeHoldsLock = s.closeHoldsLock := by
  simp only [closeHoldsLock, h]

/-- Only a push may change, and where the session is closed it is outside. -/
theorem Order.of_sameClose {s s' : ClosingSession} (h : s.Order) (hsame : SameClose s s')
    (hexclusive : s.closeHoldsLock = true → s'.push = none)
    (houtside : s.closed = true → ∀ frame pc, s'.push = some (frame, pc) → pc.outside = true) :
    s'.Order where
  exclusive := by rwa [closeHoldsLock_congr hsame.close]
  flags := by
    have hflags := h.flags
    rw [hsame.close]
    unfold FlagsAt at hflags ⊢
    rwa [hsame.closing, hsame.closed, hsame.appsrc, hsame.returned]
  closing_of_closed := by
    rw [hsame.closed, hsame.closing]
    exact h.closing_of_closed
  closing_of_eos := by
    rw [hsame.eosEmitted, hsame.closing]
    exact h.closing_of_eos
  outside := by rwa [hsame.closed]
  returned := by
    rw [hsame.returned, hsame.closed]
    exact h.returned
  appsrc := by
    rw [hsame.appsrc, hsame.closed]
    exact h.appsrc
  finish := by
    rw [hsame.finish, hsame.returned, hsame.watch]
    exact h.finish

/-- A push outside stays outside: `_closing` is set. -/
theorem PushMove.outside {s s' : ClosingSession} {frame : PushedFrame} {pc : PushPc}
    (hmove : s.PushMove frame pc s') (hpc : pc.outside = true) (hclosed : s.closed = true) :
    ∀ frame' pc', s'.push = some (frame', pc') → pc'.outside = true := by
  intro frame' pc' hpush'
  cases hmove with
  | looksIn hclosing hopen => simp [hclosed] at hopen
  | goesOn awaitKey hasFirst haccepting _ =>
      cases pc <;> simp_all [PushPc.outside, PushPc.accepting]
  | accepts heos => cases hpc
  | returns flow hflow => cases hpc
  | counts => cases hpc
  | writes => cases hpc
  | refuses hasFirst error _ _ _ hresult =>
      cases hpush'
      simpa [PushPc.outside] using hresult
  | isCancelled => cases hpc
  | leaves => cases hpush'

/-- A push keeps the order of the statements. -/
theorem PushMove.order {s s' : ClosingSession} {frame : PushedFrame} {pc : PushPc}
    (hmove : s.PushMove frame pc s') (hpush : s.push = some (frame, pc)) (h : s.Order) :
    s'.Order := by
  refine h.of_sameClose hmove.sameClose ?_ ?_
  · intro hheld
    rw [h.exclusive hheld] at hpush
    cases hpush
  · intro hclosed
    exact hmove.outside (h.outside hclosed frame pc hpush) hclosed

theorem order_closeStep {setup : CloseSetup} {s s' : ClosingSession} {pc : CloserPc}
    (hclose : s.close = some pc) (hs : s.closeStep setup pc = some s') (h : s.Order) :
    s'.Order := by
  have hflags := h.flags
  rw [hclose] at hflags
  cases pc with
  | entered =>
      simp only [closeStep] at hs
      split at hs
      · next hclosed =>
          cases hs
          exact { h with exclusive := nofun, flags := hclosed }
      · next hopen =>
          have hopen : s.closed = false := by simpa using hopen
          cases hs
          exact { h with
            exclusive := nofun, flags := ⟨rfl, hopen⟩, closing_of_closed := fun _ => rfl,
            closing_of_eos := fun _ => rfl }
  | marked =>
      cases hs
      exact { h with exclusive := nofun, flags := hflags }
  | decided eosSent =>
      cases hs
      exact { h with exclusive := nofun, flags := hflags, closing_of_eos := fun _ => hflags.1 }
  | joining eosSent =>
      simp only [closeStep] at hs
      split at hs
      · next hfree =>
          cases hs
          exact { h with exclusive := fun _ => by simpa using hfree, flags := hflags }
      · cases hs
  | joined eosSent =>
      have hfree : s.push = none := h.exclusive (by simp [closeHoldsLock, hclose])
      have hreturned : s.returned = 0 := by
        by_contra hne
        simpa [hflags.2] using h.returned (Nat.pos_of_ne_zero hne)
      have happsrc : s.appsrc = true := by
        by_contra hgone
        simpa [hflags.2] using h.appsrc (by simpa using hgone)
      cases hs
      exact { h with
        exclusive := fun _ => hfree, flags := ⟨rfl, happsrc, hreturned⟩,
        closing_of_closed := fun _ => hflags.1,
        outside := fun _ frame pc hpush => by simp [hfree] at hpush,
        returned := fun _ => rfl, appsrc := fun _ => rfl }
  | shut eosSent =>
      have hfree : s.push = none := h.exclusive (by simp [closeHoldsLock, hclose])
      cases hs
      exact { h with
        exclusive := fun _ => hfree, flags := ⟨hflags.1, hflags.2.2⟩,
        closing_of_eos := fun _ => h.closing_of_closed hflags.1 }
  | unlocking =>
      cases hs
      exact { h with exclusive := nofun, flags := hflags.1 }
  | leaving =>
      cases hs
      exact { h with
        exclusive := nofun, flags := trivial, returned := fun _ => hflags,
        finish := fun hne => ⟨Nat.succ_pos _, (h.finish hne).2⟩ }

theorem order_finishStep {setup : CloseSetup} {timedOut : Bool} {s s' : ClosingSession}
    (hs : s.finishStep setup timedOut s.finish = some s') (h : s.Order) : s'.Order := by
  cases hfinish : s.finish with
  | notStarted =>
      simp only [hfinish, finishStep, Option.ite_none_right_eq_some] at hs
      obtain ⟨hreturned, hs⟩ := hs
      cases hs
      exact { h with finish := fun _ => ⟨hreturned, rfl⟩ }
  | started =>
      have hstarted := h.finish (by simp [hfinish])
      simp only [hfinish, finishStep, Option.some.injEq] at hs
      split at hs
      · subst hs
        exact { h with finish := fun _ => hstarted }
      · split at hs
        · subst hs
          exact { h with finish := fun _ => hstarted }
        · split at hs <;> subst hs <;> exact { h with finish := fun _ => hstarted }
  | popping =>
      have hstarted := h.finish (by simp [hfinish])
      simp only [hfinish, finishStep] at hs
      split at hs
      · cases hs
        exact { h with finish := fun _ => hstarted }
      · cases hs
        exact { h with finish := fun _ => hstarted }
      · cases hs
        exact { h with finish := fun _ => hstarted }
      · cases hs
  | tearing =>
      have hstarted := h.finish (by simp [hfinish])
      simp only [hfinish, finishStep, Option.some.injEq] at hs
      subst hs
      exact { h with
        flags := h.flags.tearing hstarted.1, appsrc := fun _ => h.returned hstarted.1,
        finish := fun _ => hstarted }
  | reporting =>
      have hstarted := h.finish (by simp [hfinish])
      simp only [hfinish, finishStep, Option.some.injEq] at hs
      subst hs
      exact { h with finish := fun _ => hstarted }
  | done truncated error =>
      simp [hfinish, finishStep] at hs

/-! ## End-of-stream -/

/-- A sent EOS has a frame before it. -/
def Sent (setup : CloseSetup) (s : ClosingSession) (eosSent : Bool) : Prop :=
  eosSent = true → 0 < s.frames ∧ setup.blocking = true

/-- Where the EOS was not sent ahead, no push waits for room: the queue is empty. -/
def Joinable (setup : CloseSetup) (s : ClosingSession) (eosSent : Bool) : Prop :=
  eosSent = false → setup.blocking = true →
    ∀ frame pc, s.push = some (frame, pc) → pc.accepting = true → s.accepted = []

/-- How often end-of-stream is emitted where a `begin_close` stands, and why. -/
def EosAt (setup : CloseSetup) (s : ClosingSession) : Option CloserPc → Prop
  | some (.decided b) => s.eosEmitted = 0 ∧ s.Sent setup b ∧ s.Joinable setup b
  | some (.joining b) => s.eosEmitted = b.toNat ∧ s.Sent setup b ∧ s.Joinable setup b
  | some (.joined b) | some (.shut b) => s.eosEmitted = b.toNat ∧ s.Sent setup b
  | _ => s.eosEmitted = if s.closed = true ∧ 0 < s.frames then 1 else 0

/-- End-of-stream is emitted as the close protocol wants it. -/
structure Eos (setup : CloseSetup) (s : ClosingSession) : Prop where
  place : s.EosAt setup s.close
  level : s.accepted = [] → s.level = 0

/-- No EOS has been sent yet. -/
theorem eos_start (setup : CloseSetup) : (start setup).Eos setup := ⟨rfl, fun _ => rfl⟩

/-- A push counts frames only while the session is open. -/
theorem PushMove.frames {s s' : ClosingSession} {frame : PushedFrame} {pc : PushPc}
    (hmove : s.PushMove frame pc s') :
    s'.frames = s.frames ∨ (pc.outside = false ∧ s'.frames = s.frames + 1) := by
  cases hmove with
  | counts => exact .inr ⟨rfl, rfl⟩
  | _ => exact .inl rfl

/-- What has been sent stays sent. -/
theorem PushMove.sent {setup : CloseSetup} {s s' : ClosingSession} {frame : PushedFrame}
    {pc : PushPc} (hmove : s.PushMove frame pc s') {b : Bool} (h : s.Sent setup b) :
    s'.Sent setup b := by
  intro hb
  obtain ⟨hframes, hblocking⟩ := h hb
  rcases hmove.frames with heq | ⟨-, heq⟩
  · exact ⟨heq ▸ hframes, hblocking⟩
  · exact ⟨heq ▸ Nat.succ_pos _, hblocking⟩

/-- Once `_closing` is set no push starts to accept. -/
theorem PushMove.joinable {setup : CloseSetup} {s s' : ClosingSession} {frame : PushedFrame}
    {pc : PushPc} (hmove : s.PushMove frame pc s') (hpush : s.push = some (frame, pc))
    (hclosing : s.closing = true) {b : Bool} (h : s.Joinable setup b) : s'.Joinable setup b := by
  intro hb hblocking frame' pc' hpush' haccepting
  cases hmove with
  | looksIn hopen _ => simp [hclosing] at hopen
  | goesOn awaitKey hasFirst hpc hpc' => exact h hb hblocking frame pc hpush hpc
  | leaves => cases hpush'
  | returns flow hflow =>
      cases hpush'
      cases haccepting
  | _ =>
      cases hpush'
      cases haccepting

/-- What is emitted at the end does not change either: there are no new frames. -/
theorem PushMove.emitted {s s' : ClosingSession} {frame : PushedFrame} {pc : PushPc}
    (hmove : s.PushMove frame pc s') (hpush : s.push = some (frame, pc)) (horder : s.Order)
    (h : s.eosEmitted = if s.closed = true ∧ 0 < s.frames then 1 else 0) :
    s'.eosEmitted = if s'.closed = true ∧ 0 < s'.frames then 1 else 0 := by
  rw [hmove.sameClose.eosEmitted, hmove.sameClose.closed, h]
  rcases hmove.frames with heq | ⟨hinside, -⟩
  · rw [heq]
  · have hopen : s.closed = false := by
      by_contra hclosed
      simpa [hinside] using horder.outside (by simpa using hclosed) frame pc hpush
    simp [hopen]

/-- A push sends no EOS. -/
theorem PushMove.eos {setup : CloseSetup} {s s' : ClosingSession} {frame : PushedFrame}
    {pc : PushPc} (hmove : s.PushMove frame pc s') (hpush : s.push = some (frame, pc))
    (horder : s.Order) (h : s.Eos setup) : s'.Eos setup := by
  have hsame := hmove.sameClose
  have hflags := horder.flags
  have hplace := h.place
  constructor
  · rw [hsame.close]
    cases hclose : s.close with
    | none =>
        rw [hclose] at hplace
        exact hmove.emitted hpush horder hplace
    | some closePc =>
        rw [hclose] at hplace hflags
        cases closePc with
        | decided b =>
            exact ⟨hsame.eosEmitted.trans hplace.1, hmove.sent hplace.2.1,
              hmove.joinable hpush hflags.1 hplace.2.2⟩
        | joining b =>
            exact ⟨hsame.eosEmitted.trans hplace.1, hmove.sent hplace.2.1,
              hmove.joinable hpush hflags.1 hplace.2.2⟩
        | joined b => exact ⟨hsame.eosEmitted.trans hplace.1, hmove.sent hplace.2⟩
        | shut b => exact ⟨hsame.eosEmitted.trans hplace.1, hmove.sent hplace.2⟩
        | _ => exact hmove.emitted hpush horder hplace
  · intro hempty
    cases hmove with
    | accepts _ => simp [at_] at hempty
    | _ => exact h.level hempty

/-- `begin_close` sends it once. -/
theorem eos_closeStep {setup : CloseSetup} {s s' : ClosingSession} {pc : CloserPc}
    (hclose : s.close = some pc) (hs : s.closeStep setup pc = some s') (hbooks : s.Books)
    (horder : s.Order) (h : s.Eos setup) : s'.Eos setup := by
  have hflags := horder.flags
  have hplace := h.place
  rw [hclose] at hplace hflags
  cases pc with
  | entered =>
      simp only [closeStep] at hs
      split at hs
      · cases hs
        exact ⟨hplace, h.level⟩
      · cases hs
        exact ⟨hplace, h.level⟩
  | marked =>
      have hnone : s.eosEmitted = 0 := by simpa [EosAt, hflags.2] using hplace
      have happsrc : s.appsrc = true := by
        by_contra hgone
        simpa [hflags.2] using horder.appsrc (by simpa using hgone)
      cases hs
      refine ⟨⟨hnone, ?_, ?_⟩, h.level⟩
      · intro hb
        simpa [happsrc] using hb
      · intro hb hblocking frame ppc hpush haccepting
        have hframes : s.frames = 0 := by simpa [happsrc, hblocking] using hb
        have hbalanced : s.Balanced := by
          rw [Books, show s.push = some (frame, ppc) from hpush] at hbooks
          exact (balanced_iff (PushPc.quiet_of_accepting haccepting frame)).mp hbooks
        apply List.eq_nil_of_length_eq_zero
        rw [hbalanced.accepted, hbalanced.frames, hframes]
  | decided b =>
      cases hs
      refine ⟨⟨?_, hplace.2⟩, h.level⟩
      rw [hplace.1]
      cases b <;> rfl
  | joining b =>
      simp only [closeStep] at hs
      split at hs
      · cases hs
        exact ⟨⟨hplace.1, hplace.2.1⟩, h.level⟩
      · cases hs
  | joined b =>
      cases hs
      exact ⟨hplace, h.level⟩
  | shut b =>
      cases hs
      refine ⟨?_, h.level⟩
      obtain ⟨hclosed, happsrc, -⟩ := hflags
      obtain ⟨hemitted, hsent⟩ := hplace
      show (if s.appsrc ∧ 0 < s.frames ∧ ¬ b then s.eosEmitted + 1 else s.eosEmitted) =
        if s.closed = true ∧ 0 < s.frames then 1 else 0
      cases b with
      | false =>
          simp [happsrc, hclosed, hemitted]
      | true =>
          simp [happsrc, hclosed, hemitted, (hsent rfl).1]
  | unlocking =>
      cases hs
      exact ⟨hplace, h.level⟩
  | leaving =>
      cases hs
      exact ⟨hplace, h.level⟩

/-! ## Cancelled pushes -/

/-- A push that gets EOS from the appsrc is skipped. -/
structure Cancelled (s : ClosingSession) : Prop where
  closing : ∀ frame, s.push = some (frame, .flowed .eos) → s.closing = true
  leaving : ∀ frame result, s.push = some (frame, .leaving (some .eos) result) → result = .skipped
  results : ∀ d ∈ s.results, d.flow = some .eos → d.result = .skipped

/-- Nothing has been cancelled. -/
theorem cancelled_start (setup : CloseSetup) : (start setup).Cancelled := by
  constructor <;> simp [start]

/-- A push that is not answered EOS. -/
theorem Cancelled.of_push {s s' : ClosingSession} {frame : PushedFrame} {pc : PushPc}
    (h : s.Cancelled) (hresults : s'.results = s.results) (hpush : s'.push = some (frame, pc))
    (hflowed : pc ≠ .flowed .eos) (hleaving : ∀ result, pc ≠ .leaving (some .eos) result) :
    s'.Cancelled where
  closing := by
    intro f hf
    rw [hpush] at hf
    cases hf
    contradiction
  leaving := by
    intro f result hf
    rw [hpush] at hf
    cases hf
    exact absurd rfl (hleaving result)
  results := by
    rw [hresults]
    exact h.results

/-- A push is answered EOS only behind `begin_close`. -/
theorem PushMove.cancelled {s s' : ClosingSession} {frame : PushedFrame} {pc : PushPc}
    (hmove : s.PushMove frame pc s') (hpush : s.push = some (frame, pc)) (horder : s.Order)
    (h : s.Cancelled) : s'.Cancelled := by
  cases hmove with
  | looksIn hclosing hclosed => exact h.of_push rfl rfl nofun nofun
  | goesOn awaitKey hasFirst hpc hpc' =>
      refine h.of_push rfl rfl ?_ ?_
      · rintro rfl
        cases hpc'
      · rintro result rfl
        cases hpc'
  | accepts heos => exact h.of_push rfl rfl nofun nofun
  | counts => exact h.of_push rfl rfl nofun nofun
  | writes => exact h.of_push rfl rfl nofun nofun
  | returns flow hflow =>
      refine ⟨fun f hf => ?_, fun f result hf => ?_, h.results⟩
      · cases hf
        have heos : 0 < s.eosEmitted := by simpa using hflow
        exact horder.closing_of_eos heos
      · cases hf
  | refuses hasFirst error hpc herror hflow hresult =>
      refine h.of_push rfl rfl nofun ?_
      rintro result ⟨⟩
      exact hflow rfl
  | isCancelled =>
      refine ⟨fun f hf => ?_, fun f result hf => ?_, h.results⟩
      · cases hf
      · have hclosing := h.closing frame hpush
        cases hf
        simp [hclosing]
  | @leaves flow result =>
      refine ⟨fun f hf => ?_, fun f result hf => ?_, fun d hd hflow => ?_⟩
      · cases hf
      · cases hf
      · rcases List.mem_append.mp hd with hd | hd
        · exact h.results d hd hflow
        · obtain rfl := List.mem_singleton.mp hd
          cases hflow
          exact h.leaving frame result hpush

/-! ## What `finish_close` reports -/

/-- There was nothing to drain, or the drain has been seen. -/
def Drained (s : ClosingSession) : Prop :=
  s.frames = 0 ∨ s.eosSeen = true ∨ s.eosPopped = true

/-- What is known about the report where `finish_close` stands. -/
def FinishAt (s : ClosingSession) : FinishPc → Prop
  | .notStarted | .started | .popping => True
  | .tearing | .reporting => s.truncated = false → s.error = false → s.Drained
  | .done truncated error => truncated = false → error = false → s.Drained

/-- What `finish_close` has found stays so. -/
theorem FinishAt.mono {s s' : ClosingSession} {pc : FinishPc} (h : s.FinishAt pc)
    (htruncated : s'.truncated = s.truncated) (herror : s'.error = false → s.error = false)
    (hdrained : s.Drained → s'.Drained) : s'.FinishAt pc := by
  cases pc with
  | tearing => exact fun ht he => hdrained (h (htruncated ▸ ht) (herror he))
  | reporting => exact fun ht he => hdrained (h (htruncated ▸ ht) (herror he))
  | done truncated error => exact fun ht he => hdrained (h ht he)
  | _ => trivial

/-- A push clears no error. -/
theorem PushMove.error {s s' : ClosingSession} {frame : PushedFrame} {pc : PushPc}
    (hmove : s.PushMove frame pc s') (h : s'.error = false) : s.error = false := by
  cases hmove with
  | refuses hasFirst error hpc herror hflow hresult =>
      by_contra hne
      have herr := herror (by simpa using hne)
      simp [answers, at_, herr] at h
  | _ => exact h

/-- `finish_close` runs once the session is closed, so no push counts a frame under it. -/
theorem PushMove.finishAt {s s' : ClosingSession} {frame : PushedFrame} {pc : PushPc}
    (hmove : s.PushMove frame pc s') (hpush : s.push = some (frame, pc)) (horder : s.Order)
    (h : s.FinishAt s.finish) : s'.FinishAt s'.finish := by
  have hsame := hmove.sameClose
  rw [hsame.finish]
  by_cases hstarted : s.finish = .notStarted
  · rw [hstarted]
    trivial
  · have hclosed := horder.returned (horder.finish hstarted).1
    have hframes : s'.frames = s.frames := by
      rcases hmove.frames with heq | ⟨hinside, -⟩
      · exact heq
      · simp [horder.outside hclosed frame pc hpush] at hinside
    refine h.mono hsame.truncated hmove.error fun hdrained => ?_
    rwa [Drained, hframes, hsame.eosSeen, hsame.eosPopped]

theorem finishAt_finishStep {setup : CloseSetup} {timedOut : Bool} {s s' : ClosingSession}
    (hs : s.finishStep setup timedOut s.finish = some s') (h : s.FinishAt s.finish) :
    s'.FinishAt s'.finish := by
  cases hfinish : s.finish with
  | notStarted =>
      simp only [hfinish, finishStep, Option.ite_none_right_eq_some] at hs
      obtain ⟨-, hs⟩ := hs
      cases hs
      trivial
  | started =>
      simp only [hfinish, finishStep, Option.some.injEq] at hs
      split at hs
      · subst hs
        exact nofun
      · split at hs
        · next hdrained =>
            subst hs
            intro _ _
            exact hdrained.imp_right .inl
        · split at hs
          · subst hs
            trivial
          · subst hs
            exact nofun
  | popping =>
      simp only [hfinish, finishStep] at hs
      split at hs
      · cases hs
        exact nofun
      · cases hs
        exact fun _ _ => .inr (.inr rfl)
      · cases hs
        exact nofun
      · cases hs
  | tearing =>
      rw [hfinish] at h
      simp only [hfinish, finishStep, Option.some.injEq] at hs
      subst hs
      exact h
  | reporting =>
      rw [hfinish] at h
      simp only [hfinish, finishStep, Option.some.injEq] at hs
      subst hs
      exact h
  | done truncated error =>
      simp [hfinish, finishStep] at hs

/-! ## Every run -/

/-- What holds in every state of a run. -/
structure Inv (setup : CloseSetup) (s : ClosingSession) : Prop where
  books : s.Books
  order : s.Order
  eos : s.Eos setup
  cancelled : s.Cancelled
  finish : s.FinishAt s.finish

/-- A session that is open. -/
theorem inv_start (setup : CloseSetup) : (start setup).Inv setup :=
  ⟨books_start setup, order_start setup, eos_start setup, cancelled_start setup, trivial⟩

/-- A push that takes the lock. -/
theorem inv_enter {setup : CloseSetup} {s : ClosingSession} (frame : PushedFrame)
    (hfree : s.push = none) (hheld : s.closeHoldsLock = false) (h : s.Inv setup) :
    (s.at_ frame .locked).Inv setup where
  books := by
    have hbooks : s.Balanced := by simpa only [Books, hfree] using h.books
    have hquiet : PushPc.locked.Quiet frame := ⟨rfl, rfl, rfl⟩
    obtain ⟨ha, hf, hr⟩ := hbooks
    exact (balanced_iff hquiet).mpr ⟨ha, hf, hr⟩
  order := by
    have hsame : SameClose s (s.at_ frame .locked) :=
      ⟨rfl, rfl, rfl, rfl, rfl, rfl, rfl, rfl, rfl, rfl, rfl⟩
    apply h.order.of_sameClose hsame
    · intro hlock
      simp [hheld] at hlock
    · intro _ f pc hpush
      cases hpush
      rfl
  eos := by
    have hplace := h.eos.place
    have hjoinable : ∀ b, (s.at_ frame .locked).Joinable setup b := by
      intro b _ _ f pc hpush haccepting
      cases hpush
      cases haccepting
    refine ⟨?_, h.eos.level⟩
    show EosAt setup (s.at_ frame .locked) s.close
    cases hclose : s.close with
    | none => rwa [hclose] at hplace
    | some pc =>
        rw [hclose] at hplace
        cases pc with
        | decided b => exact ⟨hplace.1, hplace.2.1, hjoinable b⟩
        | joining b => exact ⟨hplace.1, hplace.2.1, hjoinable b⟩
        | _ => exact hplace
  cancelled := h.cancelled.of_push rfl rfl nofun nofun
  finish := h.finish.mono rfl id id

theorem inv_push {setup : CloseSetup} {env : PushAnswer} {s s' : ClosingSession}
    {frame : PushedFrame} {pc : PushPc} (hpush : s.push = some (frame, pc))
    (hs : s.pushStep setup env frame pc = some s') (h : s.Inv setup) : s'.Inv setup :=
  have hmove := pushMove_of_pushStep hs
  { books := hmove.books hpush h.books
    order := hmove.order hpush h.order
    eos := hmove.eos hpush h.order h.eos
    cancelled := hmove.cancelled hpush h.order h.cancelled
    finish := hmove.finishAt hpush h.order h.finish }

/-- What the statements of `begin_close` leave alone. -/
structure SameFeed (s s' : ClosingSession) : Prop where
  push : s'.push = s.push
  frames : s'.frames = s.frames
  rows : s'.rows = s.rows
  results : s'.results = s.results
  accepted : s'.accepted = s.accepted

/-- The counters are those of the pushes. -/
theorem Books.of_sameFeed {s s' : ClosingSession} (h : s.Books) (hsame : SameFeed s s') :
    s'.Books := by
  unfold Books at h ⊢
  rw [hsame.push]
  cases hpush : s.push with
  | none =>
      rw [hpush] at h
      obtain ⟨ha, hf, hr⟩ := h
      constructor
      · rw [hsame.accepted, hsame.rows, ha]
      · rw [hsame.rows, hsame.frames, hf]
      · rw [hsame.rows, pushed, hsame.results, hr, pushed]
  | some p =>
      rw [hpush] at h
      obtain ⟨ha, hf, hr⟩ := h
      constructor
      · rw [hsame.accepted, hsame.rows, ha]
      · rw [hsame.accepted, hsame.frames, hf]
      · rw [hsame.rows, pushed, hsame.results, hr, pushed]

/-- What the pushes were answered does not change. -/
theorem Cancelled.of_sameFeed {s s' : ClosingSession} (h : s.Cancelled) (hsame : SameFeed s s')
    (hclosing : s.closing = true → s'.closing = true) : s'.Cancelled where
  closing := by
    rw [hsame.push]
    exact fun frame hpush => hclosing (h.closing frame hpush)
  leaving := by
    rw [hsame.push]
    exact h.leaving
  results := by
    rw [hsame.results]
    exact h.results

/-- What a statement of `begin_close` touches. -/
structure CloseMove (s s' : ClosingSession) : Prop where
  feed : SameFeed s s'
  closing : s.closing = true → s'.closing = true
  finish : s'.finish = s.finish
  error : s'.error = s.error
  truncated : s'.truncated = s.truncated
  eosSeen : s'.eosSeen = s.eosSeen
  eosPopped : s'.eosPopped = s.eosPopped

/-- A statement of `begin_close` is a move of the closer. -/
theorem closeMove_of_closeStep {setup : CloseSetup} {s s' : ClosingSession} {pc : CloserPc}
    (hs : s.closeStep setup pc = some s') : CloseMove s s' := by
  cases pc with
  | entered =>
      simp only [closeStep] at hs
      split at hs
      · cases hs
        exact ⟨⟨rfl, rfl, rfl, rfl, rfl⟩, id, rfl, rfl, rfl, rfl, rfl⟩
      · cases hs
        exact ⟨⟨rfl, rfl, rfl, rfl, rfl⟩, fun _ => rfl, rfl, rfl, rfl, rfl, rfl⟩
  | joining eosSent =>
      simp only [closeStep, Option.ite_none_right_eq_some] at hs
      obtain ⟨-, hs⟩ := hs
      cases hs
      exact ⟨⟨rfl, rfl, rfl, rfl, rfl⟩, id, rfl, rfl, rfl, rfl, rfl⟩
  | _ =>
      cases hs
      exact ⟨⟨rfl, rfl, rfl, rfl, rfl⟩, id, rfl, rfl, rfl, rfl, rfl⟩

/-- It keeps the invariant. -/
theorem inv_close {setup : CloseSetup} {s s' : ClosingSession} {pc : CloserPc}
    (hclose : s.close = some pc) (hs : s.closeStep setup pc = some s') (h : s.Inv setup) :
    s'.Inv setup :=
  have hmove := closeMove_of_closeStep hs
  { books := h.books.of_sameFeed hmove.feed
    order := order_closeStep hclose hs h.order
    eos := eos_closeStep hclose hs h.books h.order h.eos
    cancelled := h.cancelled.of_sameFeed hmove.feed hmove.closing
    finish := by
      rw [hmove.finish]
      refine h.finish.mono hmove.truncated (fun he => hmove.error ▸ he) fun hdrained => ?_
      rwa [Drained, hmove.feed.frames, hmove.eosSeen, hmove.eosPopped] }

/-- What the others leave alone: the calls, and what the appsrc has taken and been told. -/
structure SameCalls (s s' : ClosingSession) : Prop where
  feed : SameFeed s s'
  close : s'.close = s.close
  closing : s'.closing = s.closing
  closed : s'.closed = s.closed
  eosEmitted : s'.eosEmitted = s.eosEmitted
  returned : s'.returned = s.returned
  level : s'.level ≤ s.level

/-- Nothing else sends an EOS. -/
theorem Eos.of_sameCalls {setup : CloseSetup} {s s' : ClosingSession} (h : s.Eos setup)
    (hsame : SameCalls s s') : s'.Eos setup := by
  obtain ⟨hplace, hlevel⟩ := h
  constructor
  · unfold EosAt Sent Joinable at hplace ⊢
    rwa [hsame.close, hsame.closed, hsame.eosEmitted, hsame.feed.push, hsame.feed.frames,
      hsame.feed.accepted]
  · intro hempty
    rw [hsame.feed.accepted] at hempty
    have := hsame.level
    have := hlevel hempty
    omega

/-- `finish_close` makes no such call. -/
theorem sameCalls_of_finishStep {setup : CloseSetup} {timedOut : Bool} {s s' : ClosingSession}
    {pc : FinishPc} (hs : s.finishStep setup timedOut pc = some s') : SameCalls s s' := by
  cases pc with
  | notStarted =>
      simp only [finishStep, Option.ite_none_right_eq_some] at hs
      obtain ⟨-, hs⟩ := hs
      cases hs
      exact ⟨⟨rfl, rfl, rfl, rfl, rfl⟩, rfl, rfl, rfl, rfl, rfl, Nat.le_refl _⟩
  | started =>
      simp only [finishStep, Option.some.injEq] at hs
      split at hs
      · subst hs
        exact ⟨⟨rfl, rfl, rfl, rfl, rfl⟩, rfl, rfl, rfl, rfl, rfl, Nat.le_refl _⟩
      · split at hs
        · subst hs
          exact ⟨⟨rfl, rfl, rfl, rfl, rfl⟩, rfl, rfl, rfl, rfl, rfl, Nat.le_refl _⟩
        · split at hs <;> subst hs <;>
            exact ⟨⟨rfl, rfl, rfl, rfl, rfl⟩, rfl, rfl, rfl, rfl, rfl, Nat.le_refl _⟩
  | popping =>
      simp only [finishStep] at hs
      split at hs <;> cases hs <;>
        exact ⟨⟨rfl, rfl, rfl, rfl, rfl⟩, rfl, rfl, rfl, rfl, rfl, Nat.le_refl _⟩
  | tearing =>
      cases hs
      exact ⟨⟨rfl, rfl, rfl, rfl, rfl⟩, rfl, rfl, rfl, rfl, rfl, Nat.le_refl _⟩
  | reporting =>
      cases hs
      exact ⟨⟨rfl, rfl, rfl, rfl, rfl⟩, rfl, rfl, rfl, rfl, rfl, Nat.le_refl _⟩
  | done truncated error => cases hs

/-- The steps that are no call's. -/
def Step.isOutside : Step → Bool
  | .finish _ | .drain _ | .post _ | .dispatch => true
  | _ => false

theorem sameCalls_of_next {setup : CloseSetup} {s s' : ClosingSession} {step : Step}
    (hstep : step.isOutside = true) (hs : s.next setup step = some s') : SameCalls s s' := by
  cases step with
  | finish timedOut => exact sameCalls_of_finishStep hs
  | drain bytes =>
      cases hs
      exact ⟨⟨rfl, rfl, rfl, rfl, rfl⟩, rfl, rfl, rfl, rfl, rfl, Nat.sub_le _ _⟩
  | post message =>
      cases message with
      | eos =>
          simp only [next, Option.ite_none_right_eq_some] at hs
          cases hs.2
          exact ⟨⟨rfl, rfl, rfl, rfl, rfl⟩, rfl, rfl, rfl, rfl, rfl, Nat.le_refl _⟩
      | error =>
          cases hs
          exact ⟨⟨rfl, rfl, rfl, rfl, rfl⟩, rfl, rfl, rfl, rfl, rfl, Nat.le_refl _⟩
  | dispatch =>
      simp only [next, Option.ite_none_right_eq_some] at hs
      obtain ⟨-, hs⟩ := hs
      split at hs <;> cases hs <;>
        exact ⟨⟨rfl, rfl, rfl, rfl, rfl⟩, rfl, rfl, rfl, rfl, rfl, Nat.le_refl _⟩
  | _ => cases hstep

/-- A statement of `finish_close`. -/
theorem inv_finish {setup : CloseSetup} {timedOut : Bool} {s s' : ClosingSession}
    (hs : s.finishStep setup timedOut s.finish = some s') (h : s.Inv setup) : s'.Inv setup :=
  have hsame := sameCalls_of_finishStep hs
  { books := h.books.of_sameFeed hsame.feed
    order := order_finishStep hs h.order
    eos := h.eos.of_sameCalls hsame
    cancelled := h.cancelled.of_sameFeed hsame.feed fun hc => hsame.closing ▸ hc
    finish := finishAt_finishStep hs h.finish }

/-- The watch is on until `finish_close` starts, so what it sees changes no report. -/
theorem inv_dispatch {setup : CloseSetup} {s : ClosingSession} {bus : List BusMessage}
    {error eosSeen : Bool} (hwatch : s.watch = true) (h : s.Inv setup) :
    ({ s with bus := bus, error := error, eosSeen := eosSeen } : ClosingSession).Inv setup where
  books := h.books.of_sameFeed ⟨rfl, rfl, rfl, rfl, rfl⟩
  order := { h.order with }
  eos := h.eos.of_sameCalls ⟨⟨rfl, rfl, rfl, rfl, rfl⟩, rfl, rfl, rfl, rfl, rfl, Nat.le_refl _⟩
  cancelled := h.cancelled.of_sameFeed ⟨rfl, rfl, rfl, rfl, rfl⟩ id
  finish := by
    have hnot : s.finish = .notStarted := by
      by_contra hne
      simp [(h.order.finish hne).2] at hwatch
    rw [show ({ s with bus := bus, error := error, eosSeen := eosSeen } : ClosingSession).finish =
      .notStarted from hnot]
    trivial

theorem inv_next {setup : CloseSetup} {s s' : ClosingSession} {step : Step} (h : s.Inv setup)
    (hs : s.next setup step = some s') : s'.Inv setup := by
  cases step with
  | enter frame =>
      simp only [next, Option.ite_none_right_eq_some] at hs
      obtain ⟨⟨hfree, hheld⟩, hs⟩ := hs
      cases hs
      exact inv_enter frame (by simpa using hfree) (by simpa using hheld) h
  | push env =>
      obtain ⟨⟨frame, pc⟩, hpush, hs⟩ := Option.bind_eq_some_iff.mp hs
      exact inv_push hpush hs h
  | beginClose =>
      simp only [next, Option.ite_none_right_eq_some] at hs
      obtain ⟨hnone, hs⟩ := hs
      have hnone : s.close = none := by simpa using hnone
      have hplace := h.eos.place
      rw [hnone] at hplace
      cases hs
      exact {
        books := h.books.of_sameFeed ⟨rfl, rfl, rfl, rfl, rfl⟩
        order := { h.order with exclusive := nofun, flags := trivial }
        eos := ⟨hplace, h.eos.level⟩
        cancelled := h.cancelled.of_sameFeed ⟨rfl, rfl, rfl, rfl, rfl⟩ id
        finish := h.finish.mono rfl id id }
  | close =>
      obtain ⟨pc, hclose, hs⟩ := Option.bind_eq_some_iff.mp hs
      exact inv_close hclose hs h
  | finish timedOut => exact inv_finish hs h
  | drain bytes =>
      cases hs
      exact {
        books := h.books.of_sameFeed ⟨rfl, rfl, rfl, rfl, rfl⟩
        order := { h.order with }
        eos := h.eos.of_sameCalls
          ⟨⟨rfl, rfl, rfl, rfl, rfl⟩, rfl, rfl, rfl, rfl, rfl, Nat.sub_le _ _⟩
        cancelled := h.cancelled.of_sameFeed ⟨rfl, rfl, rfl, rfl, rfl⟩ id
        finish := h.finish.mono rfl id id }
  | post message =>
      have hposted : s' = { s with bus := s.bus ++ [message] } := by
        cases message with
        | eos =>
            simp only [next, Option.ite_none_right_eq_some] at hs
            exact (Option.some.inj hs.2).symm
        | error => exact (Option.some.inj hs).symm
      subst hposted
      exact {
        books := h.books.of_sameFeed ⟨rfl, rfl, rfl, rfl, rfl⟩
        order := { h.order with }
        eos := h.eos.of_sameCalls
          ⟨⟨rfl, rfl, rfl, rfl, rfl⟩, rfl, rfl, rfl, rfl, rfl, Nat.le_refl _⟩
        cancelled := h.cancelled.of_sameFeed ⟨rfl, rfl, rfl, rfl, rfl⟩ id
        finish := h.finish.mono rfl id id }
  | dispatch =>
      simp only [next, Option.ite_none_right_eq_some] at hs
      obtain ⟨hwatch, hs⟩ := hs
      split at hs
      · cases hs
      · cases hs
        exact inv_dispatch hwatch h
      · cases hs
        exact inv_dispatch hwatch h

end ClosingSession

end CamDriver
