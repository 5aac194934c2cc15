import CamDriver.ClosingInv

/-!
# CamDriver.CloseProtocol

The close protocol of a recording session: `begin_close` comes back, and what it leaves
behind is complete.

`Inv.progress` rules a deadlock out, `work_run` bounds what the calls can still do;
`closeProtocol_run` is the protocol for every run.
-/

namespace CamDriver

/-! ## The calls end -/

/-- The statements a push has before it, at most. -/
def PushPc.work : PushPc → Nat
  | .locked => 9
  | .notClosing => 8
  | .isOpen => 7
  | .gated => 6
  | .bounded => 5
  | .pushing => 4
  | .flowed _ => 3
  | .counted => 2
  | .leaving _ _ => 1

/-- The statements a `begin_close` has before it, at most. -/
def CloserPc.work : CloserPc → Nat
  | .entered => 8
  | .marked => 7
  | .decided _ => 6
  | .joining _ => 5
  | .joined _ => 4
  | .shut _ => 3
  | .unlocking => 2
  | .leaving => 1

namespace ClosingSession

/-- The statements before the push under way. -/
def pushWork (s : ClosingSession) : Nat := (s.push.map fun p => p.2.work).getD 0

/-- The statements before the `begin_close` under way. -/
def closeWork (s : ClosingSession) : Nat := (s.close.map CloserPc.work).getD 0

/-- The statements of calls in a run. -/
def callSteps (steps : List Step) : Nat :=
  steps.countP fun step => match step with
    | .push _ | .close => true
    | _ => false

/-- The pushes that take `lock` in a run. -/
def entries (steps : List Step) : Nat :=
  steps.countP fun step => match step with
    | .enter _ => true
    | _ => false

/-- A push does one statement of its work. -/
theorem work_pushStep {setup : CloseSetup} {env : PushAnswer} {s s' : ClosingSession}
    {frame : PushedFrame} {pc : PushPc} (hs : s.pushStep setup env frame pc = some s') :
    s'.pushWork + 1 ≤ pc.work := by
  cases pc with
  | locked =>
      simp only [pushStep, Option.some.injEq] at hs
      split at hs <;> subst hs <;> simp [pushWork, answers, at_, PushPc.work]
  | notClosing =>
      simp only [pushStep, Option.some.injEq] at hs
      split at hs <;> subst hs <;> simp [pushWork, answers, at_, PushPc.work]
  | isOpen =>
      simp only [pushStep] at hs
      split at hs <;> cases hs <;> simp [pushWork, answers, at_, PushPc.work]
  | gated =>
      simp only [pushStep, Option.some.injEq] at hs
      split at hs <;> subst hs <;> simp [pushWork, answers, at_, PushPc.work]
  | bounded =>
      simp only [pushStep] at hs
      split at hs
      · cases hs
        simp [pushWork, at_, PushPc.work]
      · split at hs <;> cases hs <;> simp [pushWork, answers, at_, PushPc.work]
  | pushing =>
      simp only [pushStep] at hs
      split at hs
      · cases hs
        simp [pushWork, at_, PushPc.work]
      · split at hs
        · cases hs
          simp [pushWork, at_, PushPc.work]
        · split at hs <;> cases hs
          simp [pushWork, at_, PushPc.work]
  | flowed flow => cases flow <;> cases hs <;> simp [pushWork, answers, at_, PushPc.work]
  | counted =>
      cases hs
      simp [pushWork, answers, at_, PushPc.work]
  | leaving flow result =>
      cases hs
      simp [pushWork, PushPc.work]

/-- A `begin_close` does one statement of its work, and returns at the last. -/
theorem work_closeStep {setup : CloseSetup} {s s' : ClosingSession} {pc : CloserPc}
    (hs : s.closeStep setup pc = some s') :
    s'.closeWork + 1 ≤ pc.work ∧
      (s'.close = none ∧ s'.returned = s.returned + 1 ∨
        s'.close ≠ none ∧ s'.returned = s.returned) := by
  cases pc with
  | entered =>
      simp only [closeStep, Option.some.injEq] at hs
      split at hs <;> subst hs <;> simp [closeWork, CloserPc.work]
  | joining eosSent =>
      simp only [closeStep, Option.ite_none_right_eq_some] at hs
      obtain ⟨-, hs⟩ := hs
      cases hs
      simp [closeWork, CloserPc.work]
  | _ =>
      cases hs
      simp [closeWork, CloserPc.work]

/-- A call under way, or the push that holds its lock, can go on, whatever the pipeline
answers: a `begin_close` is never stuck. -/
theorem Inv.progress {setup : CloseSetup} {s : ClosingSession} (h : s.Inv setup)
    (hclose : s.close ≠ none) :
    (∃ s', s.next setup .close = some s') ∨
      ∀ env, ∃ s', s.next setup (.push env) = some s' := by
  obtain ⟨pc, hpc⟩ := Option.ne_none_iff_exists'.mp hclose
  have hplace := h.eos.place
  rw [hpc] at hplace
  cases pc with
  | joining b =>
      cases hpush : s.push with
      | none =>
          left
          simp [next, hpc, closeStep, hpush]
      | some p =>
          obtain ⟨frame, pc⟩ := p
          right
          intro env
          simp only [next, hpush, Option.bind_some]
          cases pc with
          | pushing =>
              by_cases hflow : env.flowOk = true
              · by_cases heos : 0 < s.eosEmitted
                · simp [pushStep, hflow, heos]
                · have hb : b = false := by
                    cases b
                    · rfl
                    · simp [hplace.1] at heos
                  have hroom : ¬ (setup.blocking = true ∧ s.isFull setup = true) := by
                    rintro ⟨hblocking, hfull⟩
                    have hempty := hplace.2.2 hb hblocking frame .pushing hpush rfl
                    have hlevel := h.eos.level hempty
                    simp [isFull, hlevel] at hfull
                  simp [pushStep, hflow, heos, hroom]
              · simp [pushStep, hflow]
          | isOpen =>
              simp only [pushStep]
              split <;> simp
          | bounded =>
              simp only [pushStep]
              split
              · simp
              · split <;> simp
          | flowed flow => cases flow <;> simp [pushStep]
          | _ => simp [pushStep]
  | _ =>
      left
      simp [next, hpc, closeStep]

/-- The statements before the calls under way. -/
def work (s : ClosingSession) : Nat := s.pushWork + s.closeWork

/-- A step outside the calls leaves their work as it is. -/
theorem SameCalls.work {s s' : ClosingSession} (h : SameCalls s s') : s'.work = s.work := by
  simp only [ClosingSession.work, pushWork, closeWork, h.feed.push, h.close]

/-- Nothing is used up, and nothing is new. -/
theorem SameCalls.work_next {s s' : ClosingSession} {step : Step} (h : SameCalls s s')
    (hclose : s.close ≠ none) (hnone : callSteps [step] = 0) :
    s'.close = none ∧ s'.returned = s.returned + 1 ∨
      (s'.close ≠ none ∧ s'.returned = s.returned) ∧
        callSteps [step] + s'.work ≤ s.work + 9 * entries [step] := by
  refine .inr ⟨⟨h.close ▸ hclose, h.returned⟩, ?_⟩
  rw [hnone, h.work]
  omega

/-- Until the `begin_close` under way returns, every statement of a call uses up work, and
only a push that takes the lock brings new work. -/
theorem work_next {setup : CloseSetup} {s s' : ClosingSession} {step : Step}
    (hs : s.next setup step = some s') (hclose : s.close ≠ none) :
    s'.close = none ∧ s'.returned = s.returned + 1 ∨
      (s'.close ≠ none ∧ s'.returned = s.returned) ∧
        callSteps [step] + s'.work ≤ s.work + 9 * entries [step] := by
  cases step with
  | enter frame =>
      simp only [next, Option.ite_none_right_eq_some] at hs
      obtain ⟨-, hs⟩ := hs
      cases hs
      have hnone : callSteps [.enter frame] = 0 := rfl
      have hone : entries [.enter frame] = 1 := rfl
      have hafter : (s.at_ frame .locked).pushWork = 9 := rfl
      have hsame : (s.at_ frame .locked).closeWork = s.closeWork := rfl
      refine .inr ⟨⟨hclose, rfl⟩, ?_⟩
      simp only [work, hafter, hsame, hone, hnone]
      omega
  | push env =>
      obtain ⟨⟨frame, pc⟩, hpush, hs⟩ := Option.bind_eq_some_iff.mp hs
      have hsame := (pushMove_of_pushStep hs).sameClose
      have hwork : s'.pushWork + 1 ≤ pc.work := work_pushStep hs
      have hbefore : s.pushWork = pc.work := by simp [pushWork, hpush]
      have hone : callSteps [.push env] = 1 := rfl
      have hnone : entries [.push env] = 0 := rfl
      refine .inr ⟨⟨hsame.close ▸ hclose, hsame.returned⟩, ?_⟩
      simp only [work, closeWork, hsame.close, hbefore, hone, hnone]
      omega
  | beginClose =>
      simp only [next, Option.ite_none_right_eq_some, Option.isNone_iff_eq_none] at hs
      exact absurd hs.1 hclose
  | close =>
      obtain ⟨pc, hpc, hs⟩ := Option.bind_eq_some_iff.mp hs
      obtain ⟨hwork, hreturned | hunder⟩ := work_closeStep hs
      · exact .inl hreturned
      · have hpush := (closeMove_of_closeStep hs).feed.push
        have hbefore : s.closeWork = pc.work := by simp [closeWork, hpc]
        have hone : callSteps [.close] = 1 := rfl
        have hnone : entries [.close] = 0 := rfl
        refine .inr ⟨hunder, ?_⟩
        simp only [work, pushWork, hpush, hbefore, hone, hnone]
        omega
  | finish timedOut => exact (sameCalls_of_next rfl hs).work_next hclose rfl
  | drain bytes => exact (sameCalls_of_next rfl hs).work_next hclose rfl
  | post message => exact (sameCalls_of_next rfl hs).work_next hclose rfl
  | dispatch => exact (sameCalls_of_next rfl hs).work_next hclose rfl

/-- A call that has returned stays returned. -/
theorem returned_next {setup : CloseSetup} {s s' : ClosingSession} {step : Step}
    (hs : s.next setup step = some s') : s.returned ≤ s'.returned := by
  cases step with
  | enter frame =>
      simp only [next, Option.ite_none_right_eq_some] at hs
      obtain ⟨-, hs⟩ := hs
      cases hs
      exact Nat.le_refl _
  | push env =>
      obtain ⟨p, -, hs⟩ := Option.bind_eq_some_iff.mp hs
      exact Nat.le_of_eq (pushMove_of_pushStep hs).sameClose.returned.symm
  | beginClose =>
      simp only [next, Option.ite_none_right_eq_some] at hs
      obtain ⟨-, hs⟩ := hs
      cases hs
      exact Nat.le_refl _
  | close =>
      obtain ⟨pc, -, hs⟩ := Option.bind_eq_some_iff.mp hs
      obtain ⟨-, ⟨-, hreturned⟩ | ⟨-, hreturned⟩⟩ := work_closeStep hs <;> omega
  | finish timedOut => exact Nat.le_of_eq (sameCalls_of_next rfl hs).returned.symm
  | drain bytes => exact Nat.le_of_eq (sameCalls_of_next rfl hs).returned.symm
  | post message => exact Nat.le_of_eq (sameCalls_of_next rfl hs).returned.symm
  | dispatch => exact Nat.le_of_eq (sameCalls_of_next rfl hs).returned.symm

theorem callSteps_cons (step : Step) (steps : List Step) :
    callSteps (step :: steps) = callSteps [step] + callSteps steps := by
  simp only [callSteps, List.countP_cons, List.countP_nil]
  omega

theorem entries_cons (step : Step) (steps : List Step) :
    entries (step :: steps) = entries [step] + entries steps := by
  simp only [entries, List.countP_cons, List.countP_nil]
  omega

/-- An open call still has a step to do. -/
theorem work_pos {s : ClosingSession} (h : s.close ≠ none) : 0 < s.work := by
  obtain ⟨pc, hpc⟩ := Option.ne_none_iff_exists'.mp h
  have hwork : 0 < pc.work := by cases pc <;> simp [CloserPc.work]
  simp only [work, closeWork, hpc, Option.map_some, Option.getD_some]
  omega

/-- As long as the `begin_close` under way has not returned, the calls have done less than
their work. -/
theorem work_run {setup : CloseSetup} {s t : ClosingSession} {steps : List Step}
    (hrun : Machine.exec (next setup) s steps = some t) (hclose : s.close ≠ none)
    (hreturned : t.returned = s.returned) :
    callSteps steps < s.work + 9 * entries steps := by
  induction steps generalizing s with
  | nil => exact work_pos hclose
  | cons step steps ih =>
      rw [Machine.exec_cons, Option.bind_eq_some_iff] at hrun
      obtain ⟨s', hs', hrest⟩ := hrun
      rcases work_next hs' hclose with ⟨-, hback⟩ | ⟨⟨hunder, hsame⟩, hwork⟩
      · have hlater : s'.returned ≤ t.returned :=
          Machine.exec_inv (fun x _ _ hx hnext => Nat.le_trans hx (returned_next hnext))
            (Nat.le_refl _) hrest
        omega
      · have hrest := ih hrest hunder (hreturned.trans hsame.symm)
        rw [callSteps_cons, entries_cons]
        omega

/-- What the session has taken. -/
structure SameTaken (s s' : ClosingSession) : Prop where
  accepted : s'.accepted = s.accepted
  rows : s'.rows = s.rows
  frames : s'.frames = s.frames
  pushed : s'.pushed = s.pushed

theorem SameFeed.taken {s s' : ClosingSession} (h : SameFeed s s') : SameTaken s s' where
  accepted := h.accepted
  rows := h.rows
  frames := h.frames
  pushed := by rw [pushed, pushed, h.results]

/-- Two stretches in which nothing is taken. -/
theorem SameTaken.trans {s s' s'' : ClosingSession} (h : SameTaken s s')
    (h' : SameTaken s' s'') : SameTaken s s'' where
  accepted := h'.accepted.trans h.accepted
  rows := h'.rows.trans h.rows
  frames := h'.frames.trans h.frames
  pushed := h'.pushed.trans h.pushed

/-- A closed session takes nothing from a push. -/
theorem PushMove.taken {s s' : ClosingSession} {frame : PushedFrame} {pc : PushPc}
    (hmove : s.PushMove frame pc s') (hpc : pc.outside = true) (hclosed : s.closed = true) :
    SameTaken s s' := by
  cases hmove with
  | looksIn hclosing hopen => simp [hclosed] at hopen
  | goesOn awaitKey hasFirst hpc' _ => exact ⟨rfl, rfl, rfl, rfl⟩
  | returns flow hflow => exact ⟨rfl, rfl, rfl, rfl⟩
  | refuses hasFirst error hpc' herror hflow hresult => exact ⟨rfl, rfl, rfl, rfl⟩
  | isCancelled => exact ⟨rfl, rfl, rfl, rfl⟩
  | @leaves flow result =>
      have hresult : result ≠ .ok := by simpa [PushPc.outside] using hpc
      exact ⟨rfl, rfl, rfl, by simp [pushed, hresult]⟩
  | _ => cases hpc

/-- No push is accepted once a `begin_close` has returned. -/
theorem Inv.taken {setup : CloseSetup} {s s' : ClosingSession} {step : Step} (h : s.Inv setup)
    (hs : s.next setup step = some s') (hreturned : 0 < s.returned) : SameTaken s s' := by
  cases step with
  | enter frame =>
      simp only [next, Option.ite_none_right_eq_some] at hs
      obtain ⟨-, hs⟩ := hs
      cases hs
      exact ⟨rfl, rfl, rfl, rfl⟩
  | push env =>
      obtain ⟨⟨frame, pc⟩, hpush, hs⟩ := Option.bind_eq_some_iff.mp hs
      have hclosed := h.order.returned hreturned
      exact (pushMove_of_pushStep hs).taken (h.order.outside hclosed frame pc hpush) hclosed
  | beginClose =>
      simp only [next, Option.ite_none_right_eq_some] at hs
      obtain ⟨-, hs⟩ := hs
      cases hs
      exact ⟨rfl, rfl, rfl, rfl⟩
  | close =>
      obtain ⟨pc, -, hs⟩ := Option.bind_eq_some_iff.mp hs
      exact (closeMove_of_closeStep hs).feed.taken
  | finish timedOut => exact (sameCalls_of_next rfl hs).feed.taken
  | drain bytes => exact (sameCalls_of_next rfl hs).feed.taken
  | post message => exact (sameCalls_of_next rfl hs).feed.taken
  | dispatch => exact (sameCalls_of_next rfl hs).feed.taken

/-- Behind the return of the close no frame is taken any more. -/
theorem Inv.taken_run {setup : CloseSetup} {s t : ClosingSession} {steps : List Step}
    (h : s.Inv setup) (hreturned : 0 < s.returned)
    (hrun : Machine.exec (next setup) s steps = some t) : SameTaken s t := by
  have hrun' : t.Inv setup ∧ 0 < t.returned ∧ SameTaken s t :=
    Machine.exec_inv (I := fun x => x.Inv setup ∧ 0 < x.returned ∧ SameTaken s x)
      (fun x step x' ⟨hx, hr, hsame⟩ hnext =>
        ⟨inv_next hx hnext, Nat.lt_of_lt_of_le hr (returned_next hnext),
          hsame.trans (hx.taken hnext hr)⟩)
      ⟨h, hreturned, rfl, rfl, rfl, rfl⟩ hrun
  exact hrun'.2.2

/-! ## The protocol -/

/-- Where no push is inside, the books are balanced. -/
theorem Books.balanced {s : ClosingSession} (h : s.Books)
    (hpush : ∀ frame pc, s.push = some (frame, pc) → pc.outside = true) : s.Balanced := by
  unfold Books at h
  split at h
  · exact h
  · next frame pc hp =>
      obtain ⟨ha, hf, hr⟩ :=
        (balanced_iff (PushPc.quiet_of_outside (hpush frame pc hp) frame)).mp h
      exact ⟨ha, hf, hr⟩

/-- What is counted is accepted. -/
theorem Books.length {s : ClosingSession} (h : s.Books) :
    s.frames ≤ s.accepted.length := by
  unfold Books at h
  split at h
  · obtain ⟨ha, hf, -⟩ := h
    exact Nat.le_of_eq (by rw [ha, hf])
  · have := h.frames
    omega

/-- The end of stream is sent once at most. -/
theorem Inv.emitted_le {setup : CloseSetup} {s : ClosingSession} (h : s.Inv setup) :
    s.eosEmitted ≤ 1 := by
  have hplace := h.eos.place
  unfold EosAt at hplace
  split at hplace
  · omega
  · next b _ =>
      have := hplace.1
      cases b <;> simp_all
  · next b _ =>
      have := hplace.1
      cases b <;> simp_all
  · next b _ =>
      have := hplace.1
      cases b <;> simp_all
  · split at hplace <;> omega

/-- It is sent only behind a frame. -/
theorem Inv.frames_pos_of_emitted {setup : CloseSetup} {s : ClosingSession} (h : s.Inv setup)
    (heos : 0 < s.eosEmitted) : 0 < s.frames := by
  have hplace := h.eos.place
  have hsent : ∀ b : Bool, s.eosEmitted = b.toNat → s.Sent setup b → 0 < s.frames := by
    intro b hemitted hb
    cases b with
    | false => simp [hemitted] at heos
    | true => exact (hb rfl).1
  unfold EosAt at hplace
  split at hplace
  · omega
  · exact hsent _ hplace.1 hplace.2.1
  · exact hsent _ hplace.1 hplace.2
  · exact hsent _ hplace.1 hplace.2
  · split at hplace
    · next hboth => exact hboth.2
    · omega

/-- Once a `begin_close` has returned, end-of-stream is as it stays. -/
theorem Inv.emitted {setup : CloseSetup} {s : ClosingSession} (h : s.Inv setup)
    (hreturned : 0 < s.returned) : s.eosEmitted = if 0 < s.frames then 1 else 0 := by
  have hclosed := h.order.returned hreturned
  have hflags := h.order.flags
  have hplace := h.eos.place
  cases hclose : s.close with
  | none => simpa [hclose, EosAt, hclosed] using hplace
  | some pc =>
      rw [hclose] at hflags hplace
      cases pc with
      | decided b => simp [FlagsAt, hclosed] at hflags
      | joining b => simp [FlagsAt, hclosed] at hflags
      | joined b => simp [FlagsAt, hclosed] at hflags
      | shut b => exact absurd hflags.2.2 (Nat.ne_of_gt hreturned)
      | _ => simpa [EosAt, hclosed] using hplace

/-- What the close protocol promises in a state. -/
structure CloseProtocol (setup : CloseSetup) (s : ClosingSession) : Prop where
  /-- a `begin_close`, or the push it waits for, can go on, whatever the pipeline answers -/
  progress : s.close ≠ none → (∃ s', s.next setup .close = some s') ∨
    ∀ env, ∃ s', s.next setup (.push env) = some s'
  /-- until it returns the calls have only so many statements, but for pushes that come later -/
  returns : s.close ≠ none → ∀ steps t, Machine.exec (next setup) s steps = some t →
    t.returned = s.returned → callSteps steps < s.work + 9 * entries steps
  /-- after it returned nothing is accepted -/
  refuses : 0 < s.returned → ∀ steps t, Machine.exec (next setup) s steps = some t → SameTaken s t
  /-- the appsrc, the counter, the sidecar and the answers agree, up to the push under way -/
  books : ∀ frame pc, s.push = some (frame, pc) → s.BooksAt frame pc
  balanced : s.push = none ∨ 0 < s.returned → s.Balanced
  once : s.eosEmitted ≤ 1
  onlyOnce : 0 < s.returned → s.eosEmitted = if s.accepted = [] then 0 else 1
  never : s.accepted = [] → s.eosEmitted = 0
  cancelled : ∀ d ∈ s.results, d.flow = some .eos → d.result = .skipped
  finished : s.finish = .done false false →
    s.accepted = [] ∨ s.eosSeen = true ∨ s.eosPopped = true

/-- The conjuncts of the protocol, read off the invariant. -/
theorem Inv.closeProtocol {setup : CloseSetup} {s : ClosingSession} (h : s.Inv setup) :
    s.CloseProtocol setup := by
  have hclosed : 0 < s.returned → s.Balanced := fun hreturned =>
    h.books.balanced (h.order.outside (h.order.returned hreturned))
  have hframes : 0 < s.returned → (0 < s.frames ↔ s.accepted ≠ []) := by
    intro hreturned
    obtain ⟨ha, hf, -⟩ := hclosed hreturned
    rw [← hf, ← ha]
    exact List.length_pos_iff
  constructor
  · exact h.progress
  · exact fun hclose steps t hrun hreturned => work_run hrun hclose hreturned
  · exact fun hreturned steps t hrun => h.taken_run hreturned hrun
  · intro frame pc hpush
    simpa only [Books, hpush] using h.books
  · rintro (hfree | hreturned)
    · simpa only [Books, hfree] using h.books
    · exact hclosed hreturned
  · exact h.emitted_le
  · intro hreturned
    rw [h.emitted hreturned]
    simp [hframes hreturned]
  · intro hempty
    have hlength := h.books.length
    by_contra hne
    have := h.frames_pos_of_emitted (Nat.pos_of_ne_zero hne)
    simp [hempty] at hlength
    omega
  · exact h.cancelled.results
  · intro hdone
    have hstarted := h.order.finish (by simp [hdone])
    have hreport := h.finish
    rw [hdone] at hreport
    rcases hreport rfl rfl with hnone | hseen
    · left
      by_contra hne
      have := (hframes hstarted.1).mpr hne
      omega
    · exact .inr hseen

/-- **The close protocol**: whatever the order of the statements of pushes, closers, the bus
and `finish_close`. -/
theorem closeProtocol_run (setup : CloseSetup) {steps : List Step} {s : ClosingSession}
    (hrun : Machine.exec (next setup) (start setup) steps = some s) : s.CloseProtocol setup :=
  have h : s.Inv setup := Machine.exec_inv (fun _ _ _ h hs => inv_next h hs) (inv_start setup) hrun
  h.closeProtocol

/-- A playback feed with room for ten bytes. -/
def tenBytes : CloseSetup := { blocking := true, maxBytes := 10, encoded := false, drains := true }

/-- A frame that fills it. -/
def tenByteFrame (id : Int) : PushedFrame := { row := (plainStamp id, id), size := 10 }

/-- One frame is in, a second waits for room when the close begins, a third comes after it;
the recorder drains in time. -/
def cancelledRun : List Step :=
  let push := Step.push { syncPoint := true, headerWritten := true, flowOk := true }
  [.enter (tenByteFrame 1)] ++ List.replicate 9 push ++
  [.enter (tenByteFrame 2)] ++ List.replicate 5 push ++
  [.beginClose] ++ List.replicate 3 .close ++ List.replicate 3 push ++ List.replicate 5 .close ++
  [.enter (tenByteFrame 3), push, push, .post .eos] ++ List.replicate 5 (.finish false)

theorem closeProtocol_cancelled :
    ∃ s, Machine.exec (next tenBytes) (start tenBytes) cancelledRun = some s ∧
      s.accepted = [tenByteFrame 1] ∧ s.finish = .done false false ∧
      s.results.map PushDone.flow = [some .ok, some .eos, none] ∧ s.CloseProtocol tenBytes := by
  have hrun : (Machine.exec (next tenBytes) (start tenBytes) cancelledRun).map
      (fun s => (s.accepted, s.finish, s.results.map PushDone.flow)) =
      some ([tenByteFrame 1], .done false false, [some .ok, some .eos, none]) := by
    decide +kernel
  obtain ⟨s, hs, hfacts⟩ := Option.map_eq_some_iff.mp hrun
  simp only [Prod.mk.injEq] at hfacts
  exact ⟨s, hs, hfacts.1, hfacts.2.1, hfacts.2.2, closeProtocol_run tenBytes hs⟩

end ClosingSession

end CamDriver
