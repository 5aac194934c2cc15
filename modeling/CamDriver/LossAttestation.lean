import CamDriver.Pipeline

/-!
# CamDriver.LossAttestation

What a session's JSON says about its own losses: the thread that feeds the recording,
which counts a refused frame once `push` has returned, against the main loop, which takes
the snapshots the JSON is the difference of.

`CamDriver.Pipeline` has `_feed_recording` in one step; here the answer and its count are two,
and the answers of every session are kept.
-/

namespace CamDriver

/-! ## The machine -/

/-- Where the thread that feeds the recording is. -/
inductive FeedingPc where
  | idle
  /-- `_stopping` was false -/
  | entered (stamp : FrameStamp) (pts : Int)
  /-- `_session` is read -/
  | ready (stamp : FrameStamp) (pts : Int) (sess : Nat)
  /-- `push` has returned -/
  | answered (stamp : FrameStamp) (sess : Nat) (result : PushResult)
  /-- `_account` is left -/
  | counted (stamp : FrameStamp)
deriving DecidableEq, Repr

/-- `CapturePipeline`, as far as losses go; `answers` is what each session's `push` said. -/
structure FeedingPipeline where
  drops : DropStats
  feeder : FeedingPc
  main : MainPc
  stopping : Bool
  sessionSeq : Nat
  sessions : List RecordingSession
  session : Option Nat
  answers : List (Nat × PushResult)
  finalized : List (Nat × Attestation)
deriving DecidableEq, Repr

/-- One atomic step of one of the threads. -/
inductive FeedingStep where
  /-- the source delivers a frame to the recording branch, on this PTS -/
  | frame (stamp : FrameStamp) (pts : Int)
  | readSession
  | push (baseTs : Int) (env : PushEnv)
  /-- `_note_push_drop`, after a refusal -/
  | count
  | account (discontinuity : Bool)
  | ptsRebase
  | publishDrop
  /-- `activate`, up to `sess.start` -/
  | openSession (encoded blocking : Bool)
  | openFailed
  /-- `self._session = sess` -/
  | publish
  /-- `request_stop` and `shutdown`: `self._stopping = True` -/
  | stop
  /-- `self._session = None`, in every close -/
  | unpublish
  /-- `request_stop` and `shutdown` call it twice -/
  | beginClose
  | finishClose
  | recordError (sess : Nat)
deriving DecidableEq, Repr

/-- The session the main loop opens, records or closes. -/
def MainPc.current : MainPc → Option Nat
  | .inactive => none
  | .opened i | .active i | .unpublished i | .closing i => some i

/-- That session, as long as `begin_close` has not returned. -/
def MainPc.unclosed : MainPc → Option Nat
  | .inactive | .closing _ => none
  | .opened i | .active i | .unpublished i => some i

/-- The session the feeder has read. -/
def FeedingPc.session : FeedingPc → Option Nat
  | .ready _ _ i | .answered _ i _ => some i
  | _ => none

/-- The session that has refused a frame which is not counted yet. -/
def FeedingPc.uncounted : FeedingPc → Option Nat
  | .answered _ i .dropped => some i
  | _ => none

/-- A session that is not closed yet is the current one. -/
theorem MainPc.current_of_unclosed {pc : MainPc} {i : Nat} (h : pc.unclosed = some i) :
    pc.current = some i := by
  cases pc with
  | inactive => cases h
  | closing j => cases h
  | opened j => exact h
  | active j => exact h
  | unpublished j => exact h

/-- A drop is not counted yet when `push` returns. -/
theorem FeedingPc.uncounted_answered (stamp : FrameStamp) (i : Nat) (result : PushResult) :
    (answered stamp i result).uncounted = if result = .dropped then some i else none := by
  cases result <;> rfl

namespace FeedingPipeline

/-- A built pipeline before its first frame. -/
def init : FeedingPipeline :=
  { drops := DropStats.init, feeder := .idle, main := .inactive, stopping := false,
    sessionSeq := 0, sessions := [], session := none, answers := [], finalized := [] }

/-- One step; `none` when the thread is not at that statement. -/
def next (p : FeedingPipeline) : FeedingStep → Option FeedingPipeline
  | .frame stamp pts =>
    match p.feeder with
    | .idle => some (if p.stopping then p else { p with feeder := .entered stamp pts })
    | _ => none
  | .readSession =>
    match p.feeder with
    | .entered stamp pts =>
      some { p with feeder := match p.session with
        | none => .counted stamp
        | some i => .ready stamp pts i }
    | _ => none
  | .push baseTs env =>
    match p.feeder with
    | .ready stamp pts i =>
      (p.sessions[i]?).map fun s =>
        let r := s.offer baseTs env stamp pts
        { p with
          sessions := p.sessions.set i r.1
          feeder := .answered stamp i r.2
          answers := p.answers ++ [(i, r.2)] }
    | _ => none
  | .count =>
    match p.feeder with
    | .answered stamp _ result =>
      some { p with
        drops := if result = .dropped then p.drops.noteEnqueueFailure else p.drops
        feeder := .counted stamp }
    | _ => none
  | .account discontinuity =>
    match p.feeder with
    | .counted stamp =>
      let drops := if discontinuity then p.drops.resync else p.drops
      some { p with drops := drops.observeFrame stamp.frameId, feeder := .idle }
    | _ => none
  | .ptsRebase => some { p with drops := p.drops.notePtsRebase }
  | .publishDrop => some { p with drops := p.drops.notePublishDrop }
  | .openSession encoded blocking =>
    match p.main with
    | .inactive =>
      if p.stopping then none
      else
        let index := p.sessionSeq + 1
        let s := RecordingSession.start index encoded blocking p.drops.summary
        some { p with
          main := .opened p.sessions.length
          sessionSeq := index
          sessions := p.sessions ++ [s] }
    | _ => none
  | .openFailed =>
    match p.main with
    | .inactive => if p.stopping then none else some { p with sessionSeq := p.sessionSeq + 1 }
    | _ => none
  | .publish =>
    match p.main with
    | .opened i => some { p with main := .active i, session := some i }
    | _ => none
  | .stop =>
    match p.main with
    | .inactive | .active _ => some { p with stopping := true }
    | _ => none
  | .unpublish =>
    match p.main with
    | .active i => some { p with main := .unpublished i, session := none }
    | _ => none
  | .beginClose =>
    match p.main with
    | .unpublished i | .closing i =>
      some { p with
        main := .closing i
        sessions := p.sessions.modify i RecordingSession.beginClose }
    | _ => none
  | .finishClose =>
    match p.main with
    | .closing i =>
      (p.sessions[i]?).map fun s =>
        { p with main := .inactive, finalized := p.finalized ++ [(i, s.attest p.drops.summary)] }
    | _ => none
  | .recordError i =>
    some { p with sessions := p.sessions.modify i fun s => { s with error := true } }

/-- The frames a session's `push` answered `dropped`. -/
def dropped (p : FeedingPipeline) (i : Nat) : Nat := p.answers.count (i, .dropped)

/-- **Own losses**: every JSON attests the frames that its own session dropped. -/
def AttestsOwnLosses (p : FeedingPipeline) : Prop :=
  ∀ f ∈ p.finalized, f.2.drops.enqueueFailures = p.dropped f.1

instance (p : FeedingPipeline) : Decidable p.AttestsOwnLosses :=
  inferInstanceAs (Decidable (∀ f ∈ p.finalized, _))

/-- No session is finalized while a refused frame is not counted yet. -/
def CountsFirst (p : FeedingPipeline) : FeedingStep → Prop
  | .finishClose => p.feeder.uncounted = none
  | _ => True

instance (p : FeedingPipeline) : (step : FeedingStep) → Decidable (p.CountsFirst step)
  | .finishClose => inferInstanceAs (Decidable (_ = _))
  | .frame _ _ | .readSession | .push _ _ | .count | .account _ | .ptsRebase | .publishDrop
  | .openSession _ _ | .openFailed | .publish | .stop | .unpublish | .beginClose
  | .recordError _ => isTrue trivial

/-! ## Where the sessions are -/

/-- The positions the machine refers to, and which sessions are closed. -/
structure Shape (p : FeedingPipeline) : Prop where
  answers : ∀ a ∈ p.answers, a.1 < p.sessions.length
  feeder : ∀ i, p.feeder.session = some i → i < p.sessions.length
  session : ∀ i, p.session = some i → i < p.sessions.length
  current : ∀ i, p.main.current = some i → i < p.sessions.length
  closed : ∀ i s, p.sessions[i]? = some s → p.main.unclosed = some i ∨ s.closed = true
  finalized : ∀ f ∈ p.finalized, f.1 < p.sessions.length ∧ p.main.current ≠ some f.1

/-- A pipeline without sessions. -/
theorem shape_init : init.Shape := by
  constructor <;> simp [init, FeedingPc.session, MainPc.current]

/-- One session is rewritten: it opens no more, and keeps its snapshot. -/
structure Rewrites (l l' : List RecordingSession) : Prop where
  length : l'.length = l.length
  get : ∀ (i : Nat) (s' : RecordingSession), l'[i]? = some s' →
    ∃ s, l[i]? = some s ∧ s'.dropsAtStart = s.dropsAtStart ∧ (s.closed = true → s'.closed = true)

theorem rewrites_modify (l : List RecordingSession) (i : Nat)
    {f : RecordingSession → RecordingSession} (hdrops : ∀ s, (f s).dropsAtStart = s.dropsAtStart)
    (hclosed : ∀ s, s.closed = true → (f s).closed = true) : Rewrites l (l.modify i f) where
  length := List.length_modify ..
  get := by
    intro j s' hs'
    rw [List.getElem?_modify] at hs'
    obtain ⟨s, hs, hf⟩ := Option.map_eq_some_iff.mp hs'
    refine ⟨s, hs, ?_⟩
    by_cases hij : i = j
    · rw [if_pos hij] at hf
      exact hf ▸ ⟨hdrops s, hclosed s⟩
    · rw [if_neg hij] at hf
      exact hf ▸ ⟨rfl, id⟩

theorem rewrites_set {l : List RecordingSession} {i : Nat} {s s' : RecordingSession}
    (hs : l[i]? = some s) (hdrops : s'.dropsAtStart = s.dropsAtStart)
    (hclosed : s.closed = true → s'.closed = true) : Rewrites l (l.set i s') where
  length := List.length_set ..
  get := by
    intro j t ht
    rw [List.getElem?_set] at ht
    split at ht
    · next hij =>
        subst hij
        split at ht
        · obtain rfl := Option.some.inj ht
          exact ⟨s, hs, hdrops, hclosed⟩
        · cases ht
    · exact ⟨t, ht, rfl, id⟩

theorem Rewrites.refl (l : List RecordingSession) : Rewrites l l :=
  ⟨rfl, fun _ s hs => ⟨s, hs, rfl, id⟩⟩

/-- Only a session that is not closed drops a frame. -/
theorem Shape.unclosed_of_dropped {p : FeedingPipeline} (h : p.Shape) {i : Nat}
    {s : RecordingSession} (hs : p.sessions[i]? = some s) {baseTs : Int} {env : PushEnv}
    {stamp : FrameStamp} {pts : Int} (hdropped : (s.offer baseTs env stamp pts).2 = .dropped) :
    p.main.unclosed = some i := by
  rcases h.closed i s hs with hopen | hclosed
  · exact hopen
  · rw [RecordingSession.offer_of_closed hclosed] at hdropped
    cases hdropped

/-- A session that changes keeps the shape. -/
theorem Shape.rewrite {p : FeedingPipeline} (h : p.Shape) {l : List RecordingSession}
    (hl : Rewrites p.sessions l) : ({ p with sessions := l } : FeedingPipeline).Shape where
  answers a ha := hl.length ▸ h.answers a ha
  feeder i hi := hl.length ▸ h.feeder i hi
  session i hi := hl.length ▸ h.session i hi
  current i hi := hl.length ▸ h.current i hi
  closed i s' hs' := by
    obtain ⟨s, hs, -, hclosed⟩ := hl.get i s' hs'
    exact (h.closed i s hs).imp_right hclosed
  finalized f hf := ⟨hl.length ▸ (h.finalized f hf).1, (h.finalized f hf).2⟩

theorem Shape.feed {p : FeedingPipeline} (h : p.Shape) {drops : DropStats} {feeder : FeedingPc}
    (hfeeder : ∀ i, feeder.session = some i → i < p.sessions.length) :
    ({ p with drops := drops, feeder := feeder } : FeedingPipeline).Shape :=
  { h with feeder := hfeeder }

/-- A session answers a frame. -/
theorem Shape.answered {p : FeedingPipeline} (h : p.Shape) {i : Nat} (hi : i < p.sessions.length)
    {s : RecordingSession} (hs : p.sessions[i]? = some s) {r : RecordingSession × PushResult}
    {baseTs : Int} (hkeeps : s.Keeps r.1 baseTs) {stamp : FrameStamp} :
    ({ p with
      sessions := p.sessions.set i r.1, feeder := .answered stamp i r.2,
      answers := p.answers ++ [(i, r.2)] } : FeedingPipeline).Shape := by
  have hl := rewrites_set hs hkeeps.dropsAtStart fun hc => hkeeps.closed ▸ hc
  have hset := h.rewrite hl
  exact { hset with
    answers := by
      intro a ha
      rcases List.mem_append.mp ha with ha | ha
      · exact hset.answers a ha
      · obtain rfl := List.mem_singleton.mp ha
        exact hl.length ▸ hi
    feeder := by
      intro j hj
      cases hj
      exact hl.length ▸ hi }

/-- A session is opened: it is the one that is not closed. -/
theorem Shape.opened {p : FeedingPipeline} (h : p.Shape) (hmain : p.main = .inactive)
    (index : Nat) (s : RecordingSession) :
    ({ p with
      main := .opened p.sessions.length, sessionSeq := index,
      sessions := p.sessions ++ [s] } : FeedingPipeline).Shape := by
  have hlength : ∀ i, i < p.sessions.length → i < (p.sessions ++ [s]).length := by
    intro i hi
    simp only [List.length_append, List.length_singleton]
    omega
  exact {
    answers := fun a ha => hlength a.1 (h.answers a ha)
    feeder := fun i hi => hlength i (h.feeder i hi)
    session := fun i hi => hlength i (h.session i hi)
    current := by
      intro i hi
      cases hi
      simp
    closed := by
      intro i t ht
      by_cases hi : i < p.sessions.length
      · rw [List.getElem?_append_left hi] at ht
        have hclosed := h.closed i t ht
        rw [hmain] at hclosed
        exact hclosed.elim nofun .inr
      · obtain ⟨hlt, -⟩ := List.getElem?_eq_some_iff.mp ht
        simp only [List.length_append, List.length_singleton] at hlt
        obtain rfl : i = p.sessions.length := by omega
        exact .inl rfl
    finalized := by
      intro f hf
      have hlt := (h.finalized f hf).1
      refine ⟨hlength f.1 hlt, ?_⟩
      simp only [MainPc.current, ne_eq, Option.some.injEq]
      omega }

/-- The session in hand is closed. -/
theorem Shape.closing {p : FeedingPipeline} (h : p.Shape) {i : Nat}
    (hcurrent : p.main.current = some i) :
    ({ p with
      main := .closing i,
      sessions := p.sessions.modify i RecordingSession.beginClose } : FeedingPipeline).Shape := by
  have hmodify := h.rewrite (rewrites_modify p.sessions i
    (f := RecordingSession.beginClose) (fun _ => rfl) (fun _ _ => rfl))
  exact { hmodify with
    current := by
      rintro j ⟨⟩
      exact hmodify.current i hcurrent
    closed := by
      intro j s' hs'
      rw [List.getElem?_modify] at hs'
      obtain ⟨s, hs, hf⟩ := Option.map_eq_some_iff.mp hs'
      right
      by_cases hij : i = j
      · rw [if_pos hij] at hf
        exact hf ▸ rfl
      · rw [if_neg hij] at hf
        subst hf
        rcases h.closed j s hs with hopen | hclosed
        · rw [MainPc.current_of_unclosed hopen] at hcurrent
          exact absurd (Option.some.inj hcurrent).symm hij
        · exact hclosed
    finalized := by
      intro f hf
      have hold := hmodify.finalized f hf
      refine ⟨hold.1, ?_⟩
      rw [show (MainPc.closing i).current = p.main.current from hcurrent.symm]
      exact hold.2 }

theorem shape_next {p p' : FeedingPipeline} {step : FeedingStep} (h : p.Shape)
    (hp : p.next step = some p') : p'.Shape := by
  cases step with
  | frame stamp pts =>
      simp only [next] at hp
      split at hp
      · split at hp
        · cases hp
          exact h
        · cases hp
          exact h.feed nofun
      · cases hp
  | readSession =>
      simp only [next] at hp
      split at hp
      · cases hp
        apply h.feed
        intro i hi
        cases hsession : p.session with
        | none => simp [hsession, FeedingPc.session] at hi
        | some j =>
            obtain rfl : j = i := by simpa [hsession, FeedingPc.session] using hi
            exact h.session j hsession
      · cases hp
  | push baseTs env =>
      simp only [next] at hp
      split at hp
      · next stamp pts i hfeeder =>
          obtain ⟨s, hs, rfl⟩ := Option.map_eq_some_iff.mp hp
          exact h.answered (h.feeder i (by simp [hfeeder, FeedingPc.session])) hs
            (s.keeps_offer baseTs env stamp pts)
      · cases hp
  | count =>
      simp only [next] at hp
      split at hp
      · cases hp
        exact h.feed nofun
      · cases hp
  | account discontinuity =>
      simp only [next] at hp
      split at hp
      · cases hp
        exact h.feed nofun
      · cases hp
  | ptsRebase =>
      cases hp
      exact h.feed h.feeder
  | publishDrop =>
      cases hp
      exact h.feed h.feeder
  | openSession encoded blocking =>
      simp only [next] at hp
      split at hp
      · next hmain =>
          split at hp
          · cases hp
          · cases hp
            exact h.opened hmain _ _
      · cases hp
  | openFailed =>
      simp only [next] at hp
      split at hp
      · split at hp
        · cases hp
        · cases hp
          exact { h with }
      · cases hp
  | publish =>
      simp only [next] at hp
      split at hp
      · next i hmain =>
          have hcurrent := h.current
          have hclosed := h.closed
          have hfinalized := h.finalized
          rw [hmain] at hcurrent hclosed hfinalized
          cases hp
          exact { h with
            session := fun j hj => hcurrent j hj, current := hcurrent, closed := hclosed,
            finalized := hfinalized }
      · cases hp
  | stop =>
      simp only [next] at hp
      split at hp
      · cases hp
        exact { h with }
      · cases hp
        exact { h with }
      · cases hp
  | unpublish =>
      simp only [next] at hp
      split at hp
      · next i hmain =>
          have hcurrent := h.current
          have hclosed := h.closed
          have hfinalized := h.finalized
          rw [hmain] at hcurrent hclosed hfinalized
          cases hp
          exact { h with
            session := nofun, current := hcurrent, closed := hclosed, finalized := hfinalized }
      · cases hp
  | beginClose =>
      simp only [next] at hp
      split at hp
      · next i hmain =>
          cases hp
          exact h.closing (by simp [hmain, MainPc.current])
      · next i hmain =>
          cases hp
          exact h.closing (by simp [hmain, MainPc.current])
      · cases hp
  | finishClose =>
      simp only [next] at hp
      split at hp
      · next i hmain =>
          obtain ⟨s, hs, hp⟩ := Option.map_eq_some_iff.mp hp
          have hclosed := h.closed
          rw [hmain] at hclosed
          subst hp
          exact { h with
            current := nofun
            closed := hclosed
            finalized := by
              intro f hf
              rcases List.mem_append.mp hf with hf | hf
              · exact ⟨(h.finalized f hf).1, nofun⟩
              · obtain rfl := List.mem_singleton.mp hf
                exact ⟨h.current i (by simp [hmain, MainPc.current]), nofun⟩ }
      · cases hp
  | recordError i =>
      cases hp
      exact h.rewrite (rewrites_modify p.sessions i (fun _ => rfl) (fun _ hc => hc))

/-! ## What one step does to the count -/

/-- A step without effect on the losses. -/
structure Quiet (p p' : FeedingPipeline) : Prop where
  finalized : p'.finalized = p.finalized
  answers : p'.answers = p.answers
  current : p'.main.current = p.main.current
  failures : p'.drops.enqueueFailures = p.drops.enqueueFailures
  uncounted : p'.feeder.uncounted = p.feeder.uncounted
  sessions : Rewrites p.sessions p'.sessions

/-- **The steps**: an answer, its count, the two snapshots, and nothing else. -/
inductive LossMove (p : FeedingPipeline) : FeedingStep → FeedingPipeline → Prop
  | quiet {step : FeedingStep} {p' : FeedingPipeline} (hquiet : p.Quiet p')
      (hstep : step ≠ .finishClose) : LossMove p step p'
  | answers {baseTs : Int} {env : PushEnv} {stamp : FrameStamp} {pts : Int} {i : Nat}
      {s : RecordingSession} (hfeeder : p.feeder = .ready stamp pts i)
      (hs : p.sessions[i]? = some s) :
      LossMove p (.push baseTs env) { p with
        sessions := p.sessions.set i (s.offer baseTs env stamp pts).1
        feeder := .answered stamp i (s.offer baseTs env stamp pts).2
        answers := p.answers ++ [(i, (s.offer baseTs env stamp pts).2)] }
  | counts {stamp : FrameStamp} {i : Nat} (hfeeder : p.feeder = .answered stamp i .dropped) :
      LossMove p .count { p with
        drops := p.drops.noteEnqueueFailure, feeder := .counted stamp }
  | opens {index : Nat} {encoded blocking : Bool} (hmain : p.main = .inactive) :
      LossMove p (.openSession encoded blocking) { p with
        main := .opened p.sessions.length
        sessionSeq := index
        sessions := p.sessions ++ [RecordingSession.start index encoded blocking p.drops.summary] }
  | finalizes {i : Nat} {s : RecordingSession} (hmain : p.main = .closing i)
      (hs : p.sessions[i]? = some s) :
      LossMove p .finishClose { p with
        main := .inactive, finalized := p.finalized ++ [(i, s.attest p.drops.summary)] }

/-- The feeder goes on without a loss. -/
theorem Quiet.feed {p : FeedingPipeline} {drops : DropStats} {feeder : FeedingPc}
    (hdrops : drops.enqueueFailures = p.drops.enqueueFailures)
    (hfeeder : feeder.uncounted = p.feeder.uncounted) :
    p.Quiet { p with drops := drops, feeder := feeder } :=
  ⟨rfl, rfl, rfl, hdrops, hfeeder, .refl _⟩

/-- What a step does to the losses. -/
theorem lossMove_of_next {p p' : FeedingPipeline} {step : FeedingStep}
    (hp : p.next step = some p') : p.LossMove step p' := by
  cases step with
  | frame stamp pts =>
      simp only [next] at hp
      split at hp
      · next hidle =>
          split at hp
          · cases hp
            exact .quiet ⟨rfl, rfl, rfl, rfl, rfl, .refl _⟩ nofun
          · cases hp
            exact .quiet (.feed rfl (by rw [hidle]; rfl)) nofun
      · cases hp
  | readSession =>
      simp only [next] at hp
      split at hp
      · next hentered =>
          cases hp
          refine .quiet (.feed rfl ?_) nofun
          rw [hentered]
          cases p.session <;> rfl
      · cases hp
  | push baseTs env =>
      simp only [next] at hp
      split at hp
      · next hready =>
          obtain ⟨s, hs, hp⟩ := Option.map_eq_some_iff.mp hp
          subst hp
          exact .answers hready hs
      · cases hp
  | count =>
      simp only [next] at hp
      split at hp
      · next stamp i result hanswered =>
          cases hp
          by_cases hresult : result = .dropped
          · subst hresult
            exact .counts hanswered
          · rw [if_neg hresult]
            refine .quiet (.feed rfl ?_) nofun
            rw [hanswered]
            cases result <;> first | rfl | contradiction
      · cases hp
  | account discontinuity =>
      simp only [next] at hp
      split at hp
      · next hcounted =>
          cases hp
          refine .quiet (.feed ?_ (by rw [hcounted]; rfl)) nofun
          rw [DropStats.enqueueFailures_observeFrame]
          cases discontinuity <;> rfl
      · cases hp
  | ptsRebase =>
      cases hp
      exact .quiet (.feed rfl rfl) nofun
  | publishDrop =>
      cases hp
      exact .quiet (.feed rfl rfl) nofun
  | openSession encoded blocking =>
      simp only [next] at hp
      split at hp
      · next hmain =>
          split at hp <;> cases hp
          exact .opens hmain
      · cases hp
  | openFailed =>
      simp only [next] at hp
      split at hp
      · split at hp <;> cases hp
        exact .quiet ⟨rfl, rfl, rfl, rfl, rfl, .refl _⟩ nofun
      · cases hp
  | publish =>
      simp only [next] at hp
      split at hp
      · next hmain =>
          cases hp
          exact .quiet ⟨rfl, rfl, by rw [hmain]; rfl, rfl, rfl, .refl _⟩ nofun
      · cases hp
  | stop =>
      simp only [next] at hp
      split at hp <;> cases hp <;> exact .quiet ⟨rfl, rfl, rfl, rfl, rfl, .refl _⟩ nofun
  | unpublish =>
      simp only [next] at hp
      split at hp
      · next hmain =>
          cases hp
          exact .quiet ⟨rfl, rfl, by rw [hmain]; rfl, rfl, rfl, .refl _⟩ nofun
      · cases hp
  | beginClose =>
      have hl : ∀ i, Rewrites p.sessions (p.sessions.modify i RecordingSession.beginClose) :=
        fun i => rewrites_modify p.sessions i (fun _ => rfl) (fun _ _ => rfl)
      simp only [next] at hp
      split at hp
      · next i hmain =>
          cases hp
          exact .quiet ⟨rfl, rfl, by rw [hmain]; rfl, rfl, rfl, hl i⟩ nofun
      · next i hmain =>
          cases hp
          exact .quiet ⟨rfl, rfl, by rw [hmain], rfl, rfl, hl i⟩ nofun
      · cases hp
  | finishClose =>
      simp only [next] at hp
      split at hp
      · next hmain =>
          obtain ⟨s, hs, hp⟩ := Option.map_eq_some_iff.mp hp
          subst hp
          exact .finalizes hmain hs
      · cases hp
  | recordError i =>
      cases hp
      exact .quiet ⟨rfl, rfl, rfl, rfl, rfl,
        rewrites_modify p.sessions i (fun _ => rfl) (fun _ hc => hc)⟩ nofun

/-! ## Counting as long as no count is late -/

/-- The counter, on the books of the session that is open. -/
structure Counted (p : FeedingPipeline) : Prop where
  uncounted : ∀ i, p.feeder.uncounted = some i → p.main.current = some i
  counter : ∀ i s, p.main.current = some i → p.sessions[i]? = some s →
    s.dropsAtStart.enqueueFailures + p.dropped i =
      p.drops.enqueueFailures + if p.feeder.uncounted = some i then 1 else 0
  attests : p.AttestsOwnLosses

/-- A JSON does not attest what its session dropped. -/
def Misattests (p : FeedingPipeline) : Prop :=
  ∃ f ∈ p.finalized, f.2.drops.enqueueFailures ≠ p.dropped f.1

/-- A session does not attest its own losses. -/
theorem misattests_iff {p : FeedingPipeline} : p.Misattests ↔ ¬ p.AttestsOwnLosses := by
  simp [Misattests, AttestsOwnLosses]

/-- Nothing is lost yet. -/
theorem counted_init : init.Counted := by
  constructor <;> simp [init, FeedingPc.uncounted, MainPc.current, AttestsOwnLosses]

/-- An answer counts for a session that is not finalized. -/
theorem dropped_next {p p' : FeedingPipeline} {step : FeedingStep} (hshape : p.Shape)
    (hmove : p.LossMove step p') {i : Nat} (hi : p.main.current ≠ some i) :
    p'.dropped i = p.dropped i := by
  cases hmove with
  | quiet hquiet _ => rw [dropped, dropped, hquiet.answers]
  | @answers baseTs env stamp pts j s hfeeder hs =>
      simp only [dropped, List.count_append, List.count_singleton]
      split
      · next heq =>
          obtain ⟨rfl, hdropped⟩ : j = i ∧ (s.offer baseTs env stamp pts).2 = .dropped := by
            simpa using heq
          have hopen := hshape.unclosed_of_dropped hs hdropped
          exact absurd (MainPc.current_of_unclosed hopen) hi
      · rfl
  | counts hfeeder => rfl
  | opens hmain => rfl
  | finalizes hmain hs => rfl

/-- What is finalized stays, and so do the answers behind it. -/
theorem finalized_next {p p' : FeedingPipeline} {step : FeedingStep}
    (hmove : p.LossMove step p') {f : Nat × Attestation} (hf : f ∈ p.finalized) :
    f ∈ p'.finalized := by
  cases hmove with
  | quiet hquiet _ => exact hquiet.finalized ▸ hf
  | finalizes hmain hs => exact List.mem_append_left _ hf
  | _ => exact hf

/-- What has been attested wrongly stays so. -/
theorem misattests_next {p p' : FeedingPipeline} {step : FeedingStep} (hshape : p.Shape)
    (hmove : p.LossMove step p') (h : p.Misattests) : p'.Misattests := by
  obtain ⟨f, hf, hne⟩ := h
  refine ⟨f, finalized_next hmove hf, ?_⟩
  rwa [dropped_next hshape hmove (hshape.finalized f hf).2]

/-- A finalized session's count, where the step finalizes no other. -/
theorem attests_next {p p' : FeedingPipeline} {step : FeedingStep} (hshape : p.Shape)
    (hmove : p.LossMove step p') (h : p.AttestsOwnLosses) (hsame : p'.finalized = p.finalized) :
    p'.AttestsOwnLosses := by
  intro f hf
  rw [hsame] at hf
  rw [dropped_next hshape hmove (hshape.finalized f hf).2]
  exact h f hf

/-- A step that counts a loss before it is attested. -/
theorem counted_next {p p' : FeedingPipeline} {step : FeedingStep} (hshape : p.Shape)
    (hmove : p.LossMove step p') (hfirst : p.CountsFirst step) (h : p.Counted) : p'.Counted := by
  have hattests := attests_next hshape hmove h.attests
  cases hmove with
  | quiet hquiet hstep =>
      refine ⟨?_, ?_, hattests hquiet.finalized⟩
      · rw [hquiet.uncounted, hquiet.current]
        exact h.uncounted
      · intro i s' hi hs'
        obtain ⟨s, hs, hdrops, -⟩ := hquiet.sessions.get i s' hs'
        rw [hquiet.current] at hi
        rw [hdrops, dropped, hquiet.answers, hquiet.failures, hquiet.uncounted]
        exact h.counter i s hi hs
  | @answers baseTs env stamp pts j s hfeeder hs =>
      have hkeeps := s.keeps_offer baseTs env stamp pts
      have hcurrent : (s.offer baseTs env stamp pts).2 = .dropped → p.main.current = some j :=
        fun hdropped => MainPc.current_of_unclosed (hshape.unclosed_of_dropped hs hdropped)
      have hnone : p.feeder.uncounted = none := by
        rw [hfeeder]
        rfl
      refine ⟨?_, ?_, hattests rfl⟩
      · intro i hi
        simp only [FeedingPc.uncounted_answered] at hi
        split at hi
        · next hdropped =>
            cases hi
            exact hcurrent hdropped
        · cases hi
      · intro i s' hi hs'
        have hl := rewrites_set hs hkeeps.dropsAtStart fun hc => hkeeps.closed ▸ hc
        obtain ⟨s₀, hs₀, hdrops, -⟩ := hl.get i s' hs'
        have hbefore := h.counter i s₀ hi hs₀
        rw [hnone] at hbefore
        rw [hdrops]
        simp only [dropped, List.count_append, List.count_singleton, FeedingPc.uncounted_answered]
          at hbefore ⊢
        by_cases hdropped : (s.offer baseTs env stamp pts).2 = .dropped
        · obtain rfl : j = i := Option.some.inj ((hcurrent hdropped).symm.trans hi)
          simp [hdropped]
          simp at hbefore
          omega
        · simp [hdropped]
          simpa using hbefore
  | @counts stamp j hfeeder =>
      have hsome : p.feeder.uncounted = some j := by
        rw [hfeeder]
        rfl
      refine ⟨nofun, ?_, hattests rfl⟩
      intro i s hi hs
      obtain rfl : j = i := Option.some.inj ((h.uncounted j hsome).symm.trans hi)
      have hbefore := h.counter j s hi hs
      rw [if_pos hsome] at hbefore
      exact hbefore.trans (Int.add_zero _).symm
  | opens hmain =>
      have hnone : p.feeder.uncounted = none := by
        cases hsome : p.feeder.uncounted with
        | none => rfl
        | some j => simpa [hmain, MainPc.current] using h.uncounted j hsome
      refine ⟨?_, ?_, hattests rfl⟩
      · intro i hi
        rw [hnone] at hi
        cases hi
      · rintro i s ⟨⟩ hs
        have hfresh : p.answers.count (p.sessions.length, PushResult.dropped) = 0 := by
          rw [List.count_eq_zero]
          exact fun hmem => Nat.lt_irrefl _ (hshape.answers _ hmem)
        obtain rfl := Option.some.inj (List.getElem?_concat_length.symm.trans hs)
        rw [hnone]
        simp [dropped, hfresh, RecordingSession.start, DropStats.summary]
  | @finalizes j s hmain hs =>
      have hcurrent : p.main.current = some j := by
        rw [hmain]
        rfl
      have hnone : p.feeder.uncounted = none := hfirst
      refine ⟨?_, ?_, ?_⟩
      · intro i hi
        rw [hnone] at hi
        cases hi
      · intro i s' hi
        cases hi
      · intro f hf
        rcases List.mem_append.mp hf with hf | hf
        · exact h.attests f hf
        · obtain rfl := List.mem_singleton.mp hf
          have hcount := h.counter j s hcurrent hs
          rw [hnone] at hcount
          simp at hcount
          show p.drops.enqueueFailures - s.dropsAtStart.enqueueFailures = p.dropped j
          omega

/-- A frame that is counted too late is missing in its session's JSON. -/
theorem misattests_of_late {p p' : FeedingPipeline} {step : FeedingStep}
    (hmove : p.LossMove step p') (h : p.Counted) (hlate : ¬ p.CountsFirst step) :
    p'.Misattests := by
  cases hmove with
  | @finalizes j s hmain hs =>
      have hcurrent : p.main.current = some j := by
        rw [hmain]
        rfl
      obtain ⟨i, hi⟩ := Option.ne_none_iff_exists'.mp hlate
      obtain rfl : i = j := Option.some.inj ((h.uncounted i hi).symm.trans hcurrent)
      have hcount := h.counter i s hcurrent hs
      rw [if_pos hi] at hcount
      refine ⟨(i, s.attest p.drops.summary),
        List.mem_append_right _ (List.mem_singleton.mpr rfl), ?_⟩
      show p.drops.enqueueFailures - s.dropsAtStart.enqueueFailures ≠ p.dropped i
      omega
  | quiet hquiet hstep =>
      cases step with
      | finishClose => exact absurd rfl hstep
      | _ => exact absurd trivial hlate
  | _ => exact absurd trivial hlate

/-! ## Every run -/

/-- **Own losses**: the JSONs attest what their sessions dropped just as long as every refused
frame is counted before its session is finalized. -/
theorem attestsOwnLosses_iff {steps : List FeedingStep} {p : FeedingPipeline}
    (hrun : Machine.exec next init steps = some p) :
    p.AttestsOwnLosses ↔ Machine.Along next CountsFirst init steps := by
  constructor
  · intro h
    by_contra hlate
    have hbroken : p.Shape ∧ p.Misattests :=
      Machine.exec_of_not_along (I := fun p => p.Shape ∧ (p.Counted ∨ p.Misattests))
        (D := fun p => p.Shape ∧ p.Misattests)
        (fun q step q' hq hnext => by
          have hmove := lossMove_of_next hnext
          refine ⟨shape_next hq.1 hnext, ?_⟩
          rcases hq.2 with hcounted | hbroken
          · by_cases hfirst : q.CountsFirst step
            · exact .inl (counted_next hq.1 hmove hfirst hcounted)
            · exact .inr (misattests_of_late hmove hcounted hfirst)
          · exact .inr (misattests_next hq.1 hmove hbroken))
        (fun q step q' hq hfirst hnext => by
          have hmove := lossMove_of_next hnext
          refine ⟨shape_next hq.1 hnext, ?_⟩
          rcases hq.2 with hcounted | hbroken
          · exact misattests_of_late hmove hcounted hfirst
          · exact misattests_next hq.1 hmove hbroken)
        (fun q step q' hq hnext =>
          ⟨shape_next hq.1 hnext, misattests_next hq.1 (lossMove_of_next hnext) hq.2⟩)
        ⟨shape_init, .inl counted_init⟩ hlate hrun
    exact misattests_iff.mp hbroken.2 h
  · intro hfirst
    have hcounted : p.Shape ∧ p.Counted :=
      Machine.exec_inv_along (I := fun p => p.Shape ∧ p.Counted)
        (fun q step q' hq hmeets hnext =>
          ⟨shape_next hq.1 hnext, counted_next hq.1 (lossMove_of_next hnext) hmeets hq.2⟩)
        ⟨shape_init, counted_init⟩ hfirst hrun
    exact hcounted.2.attests

/-- A live session refuses its first frame: its queue is full. -/
def refusedRun : List FeedingStep :=
  [.openSession false false, .publish, .frame (plainStamp 1) 0, .readSession,
    .push 0 { acceptingEnv with full := true }]

/-- `deactivate`. -/
def closingRun : List FeedingStep := [.unpublish, .beginClose, .finishClose]

/-- The count comes before the close. -/
theorem attestsOwnLosses_counted :
    ∃ p, Machine.exec next init (refusedRun ++ [.count] ++ closingRun) = some p ∧
      p.finalized.map (fun f => f.2.drops.enqueueFailures) = [1] ∧ p.AttestsOwnLosses := by
  have hrun : (Machine.exec next init (refusedRun ++ [.count] ++ closingRun)).map
      (fun p => p.finalized.map fun f => f.2.drops.enqueueFailures) = some [1] := by
    decide +kernel
  obtain ⟨p, hp, hjson⟩ := Option.map_eq_some_iff.mp hrun
  exact ⟨p, hp, hjson, (attestsOwnLosses_iff hp).mpr (by decide +kernel)⟩

/-- The count comes after the close, and after the next session's snapshot: the first JSON
attests no loss, and the second attests the first session's. -/
theorem misattested_late :
    ∃ p, Machine.exec next init
        (refusedRun ++ closingRun ++ [.openSession false false, .publish, .count] ++ closingRun) =
          some p ∧
      p.answers = [(0, .dropped)] ∧
      p.finalized.map (fun f => f.2.drops.enqueueFailures) = [0, 1] ∧ ¬ p.AttestsOwnLosses := by
  have hrun : (Machine.exec next init
      (refusedRun ++ closingRun ++ [.openSession false false, .publish, .count] ++ closingRun)).map
      (fun p => (p.answers, p.finalized.map (fun f => f.2.drops.enqueueFailures),
        decide p.AttestsOwnLosses)) = some ([(0, .dropped)], [0, 1], false) := by
    decide +kernel
  obtain ⟨p, hp, hjson⟩ := Option.map_eq_some_iff.mp hrun
  simp only [Prod.mk.injEq, decide_eq_false_iff_not] at hjson
  exact ⟨p, hp, hjson.1, hjson.2.1, hjson.2.2⟩

end FeedingPipeline

end CamDriver
