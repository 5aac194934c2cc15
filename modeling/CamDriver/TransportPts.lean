import CamDriver.Lib.Machine
import Mathlib.Data.Rat.Floor
import Mathlib.Logic.Function.Basic

/-!
# CamDriver.TransportPts

The plugin transport of the pipeline with its two publishers, statement by statement: the
feeder's `_publish_transport`, and `_still_tick` on the main loop, which publishes the
remembered frame again while a playback is silent.

Only the PTS is computed under a lock.  A call remembers its frame before, and pushes the
buffer after, so that the order on the wire is the order of the pushes and not that of the
PTS.  `InTurn` is what the order of the statements has to keep for the wire to be ordered.
-/

namespace CamDriver

/-! ## The transport PTS -/

/-- What the pipeline knows of its source; `fps` is 0 where no rate is known. -/
structure PluginSetup where
  /-- `source.finite` -/
  finite : Bool
  /-- `source.playback` is not `None` -/
  playback : Bool
  fps : ℚ

/-- `int(x)`, towards zero. -/
def truncated (x : ℚ) : Int := x.num.tdiv x.den

/-- `_frame_interval_ns`. -/
def PluginSetup.frameIntervalNs (setup : PluginSetup) : Int :=
  if setup.fps = 0 then 1000000 else truncated (1000000000 / setup.fps)

/-- What `_tpts_lock` protects. -/
structure TransportClock where
  tptsShiftNs : Int
  tptsLast : Option Int
  tptsLastMono : ℚ

/-- The wall time since the last publish, in nanoseconds and never nothing. -/
def wallNs (now last : ℚ) : Int := max (truncated ((now - last) * 1000000000)) 1

/-- `_transport_pts`. -/
def TransportClock.transportPts (setup : PluginSetup) (now : ℚ) (pts : Int) (held : Bool)
    (clock : TransportClock) : Int × TransportClock :=
  let tpts :=
    match clock.tptsLast with
    | none => if setup.finite then 0 else pts + clock.tptsShiftNs
    | some last =>
      if setup.finite ∨ held then last + wallNs now clock.tptsLastMono
      -- a source step back: keep advancing
      else if pts + clock.tptsShiftNs ≤ last then last + setup.frameIntervalNs
      else pts + clock.tptsShiftNs
  (tpts, { tptsShiftNs := tpts - pts, tptsLast := some tpts, tptsLastMono := now })

/-- A finite source is timed by the wall clock; a live one steps back by a whole interval. -/
def PluginSetup.Advances (setup : PluginSetup) : Prop :=
  setup.finite ∨ 0 < setup.frameIntervalNs

/-- At least 1 before is above 0 behind. -/
theorem truncated_pos {x : ℚ} (h : 1 ≤ x) : 0 < truncated x := by
  have hnum : 0 ≤ x.num := Rat.num_nonneg.mpr (zero_le_one.trans h)
  have hfloor : 1 ≤ x.floor := Rat.le_floor_iff.mpr (by exact_mod_cast h)
  rw [truncated, Int.tdiv_eq_ediv_of_nonneg hnum, ← Rat.floor_def]
  exact hfloor

/-- Every rate up to one frame a nanosecond. -/
theorem advances_of_rate {setup : PluginSetup} (h : 0 ≤ setup.fps)
    (hrate : setup.fps ≤ 1000000000) : setup.Advances := by
  right
  rw [PluginSetup.frameIntervalNs]
  split
  · decide
  · next hfps =>
      have hpos : 0 < setup.fps := lt_of_le_of_ne h (Ne.symm hfps)
      exact truncated_pos ((one_le_div hpos).mpr hrate)

/-- The clock has moved on by something. -/
theorem wallNs_pos (now last : ℚ) : 0 < wallNs now last :=
  lt_of_lt_of_le Int.one_pos (le_max_right _ _)

/-- A PTS is above the one before, held or not. -/
theorem transportPts_gt {setup : PluginSetup} (hsetup : setup.Advances) {now : ℚ} {pts : Int}
    {held : Bool} {clock : TransportClock} {last : Int} (hlast : clock.tptsLast = some last) :
    last < (clock.transportPts setup now pts held).1 := by
  have hwall := wallNs_pos now clock.tptsLastMono
  simp only [TransportClock.transportPts, hlast]
  split
  · omega
  · next hlive =>
      have hinterval := hsetup.resolve_left fun hfinite => hlive (.inl hfinite)
      split <;> omega

/-! ## The state -/

/-- `_still`: a frame of the feeder, the `call`-th it publishes; `image` is its stamp and
bytes. -/
structure StillFrame (α : Type*) where
  call : Nat
  image : α
  pts : Int

/-- Where a publisher is. -/
inductive PublishPc (α : Type*) where
  /-- `_still_tick` has found nothing published for 0.9 s -/
  | due
  /-- `_publish_transport` is called -/
  | called (frame : StillFrame α)
  | remembered (frame : StillFrame α)
  /-- `_still_pushed_mono` is set -/
  | marked (frame : StillFrame α)
  | stamped (frame : StillFrame α) (tpts : Int)

/-- The frame a publisher has in hand. -/
def PublishPc.carried {α : Type*} : PublishPc α → Option (StillFrame α)
  | .due => none
  | .called frame | .remembered frame | .marked frame | .stamped frame _ => some frame

/-- The two threads that publish: the feeder, and `_still_tick` on the main loop. -/
inductive Publisher where
  | feeder | stillTick
deriving DecidableEq

namespace Publisher

/-- The `held` of the calls it makes. -/
def held : Publisher → Bool
  | feeder => false
  | stillTick => true

def other : Publisher → Publisher
  | feeder => stillTick
  | stillTick => feeder

/-- There are two publishers. -/
theorem other_ne (who : Publisher) : who.other ≠ who := by cases who <;> decide

/-- There is no third. -/
theorem eq_other_of_ne {who who' : Publisher} (h : who' ≠ who) : who' = who.other := by
  cases who <;> cases who' <;> first | rfl | exact absurd rfl h

end Publisher

/-- A buffer that has entered the plugin appsrc. -/
structure WireBuffer (α : Type*) where
  pts : Int
  held : Bool
  frame : StillFrame α

/-- The plugin transport; `published` counts the frames the feeder has remembered. -/
structure PluginTransport (α : Type*) where
  still : Option (StillFrame α)
  stillPushedMono : ℚ
  clock : TransportClock
  stopping : Bool
  pc : Publisher → Option (PublishPc α)
  published : Nat
  wire : List (WireBuffer α)

namespace PluginTransport

variable {α : Type*}

def init (α : Type*) : PluginTransport α :=
  { still := none, stillPushedMono := 0
    clock := { tptsShiftNs := 0, tptsLast := none, tptsLastMono := 0 }
    stopping := false, pc := fun _ => none, published := 0, wire := [] }

/-! ## One statement -/

inductive Event (α : Type*) where
  /-- the feeder calls `_publish_transport` -/
  | publish (image : α) (pts : Int)
  /-- the main loop calls `_still_tick` -/
  | tick (now : ℚ)
  /-- the next statement of a publisher; `enters`: the queue has room, the buffer is made
  and push-buffer takes it -/
  | go (who : Publisher) (now : ℚ) (enters : Bool)
  /-- `_stopping` is set -/
  | stop

/-- A publisher goes on to its next statement. -/
def moves (s : PluginTransport α) (who : Publisher) (pc : Option (PublishPc α)) :
    PluginTransport α :=
  { s with pc := Function.update s.pc who pc }

/-- `_still_tick` up to the frame it reads. -/
def stillTick (setup : PluginSetup) (now : ℚ) (s : PluginTransport α) : PluginTransport α :=
  if s.stopping then s
  else if ¬ setup.playback ∨ s.still.isNone then s
  else if now - s.stillPushedMono < 9 / 10 then s
  else s.moves .stillTick (some .due)

/-- `self._still = ...`; a call of the feeder is numbered by it. -/
def remember (s : PluginTransport α) (who : Publisher) (frame : StillFrame α) :
    PluginTransport α :=
  { s with
    still := some frame
    published := if who.held then s.published else frame.call }

/-- The buffer enters the plugin appsrc, or is dropped. -/
def push (s : PluginTransport α) (who : Publisher) (frame : StillFrame α) (tpts : Int)
    (enters : Bool) : PluginTransport α :=
  if enters then { s with wire := s.wire ++ [⟨tpts, who.held, frame⟩] } else s

/-- The next statement of `_publish_transport`. -/
def publishStep (setup : PluginSetup) (who : Publisher) (now : ℚ) (enters : Bool)
    (s : PluginTransport α) : PublishPc α → Option (PluginTransport α)
  | .due => s.still.map fun frame => s.moves who (some (.called frame))
  | .called frame => some ((s.remember who frame).moves who (some (.remembered frame)))
  | .remembered frame => some ({ s with stillPushedMono := now }.moves who (some (.marked frame)))
  | .marked frame =>
    let (tpts, clock) := s.clock.transportPts setup now frame.pts who.held
    some ({ s with clock }.moves who (some (.stamped frame tpts)))
  | .stamped frame tpts => some ((s.push who frame tpts enters).moves who none)

def next (setup : PluginSetup) (s : PluginTransport α) : Event α → Option (PluginTransport α)
  | .publish image pts =>
    match s.pc .feeder with
    | none =>
      if s.stopping then some s
      else some (s.moves .feeder (some (.called { call := s.published + 1, image, pts })))
    | some _ => none
  | .tick now =>
    match s.pc .stillTick with
    | none => some (s.stillTick setup now)
    | some _ => none
  | .go who now enters => (s.pc who).bind (s.publishStep setup who now enters)
  | .stop => some { s with stopping := true }

/-! ## What the wire has to keep, and what the order of the statements -/

/-- The PTS on the wire increase; the remembered frame is the newest the feeder has
remembered; no held frame follows a newer one. -/
structure WireOrdered (s : PluginTransport α) : Prop where
  increasing : (s.wire.map WireBuffer.pts).Pairwise (· < ·)
  newest : ∀ frame, s.still = some frame → frame.call = s.published
  held : s.wire.Pairwise fun earlier later =>
    later.held = true → earlier.frame.call ≤ later.frame.call

/-- `_publish_transport` is called, and the frame not yet remembered. -/
def isCalled (s : PluginTransport α) (who : Publisher) : Bool :=
  match s.pc who with
  | some (.called _) => true
  | _ => false

/-- The frame and PTS of a buffer that is not yet pushed. -/
def unpushed (s : PluginTransport α) (who : Publisher) : Option (StillFrame α × Int) :=
  match s.pc who with
  | some (.stamped frame tpts) => some (frame, tpts)
  | _ => none

/-- The frame a publisher has in hand. -/
def carried (s : PluginTransport α) (who : Publisher) : Option (StillFrame α) :=
  (s.pc who).bind PublishPc.carried

/-- The publishers take turns: the feeder remembers no frame between the two statements by
which `_still_tick` reads one and remembers it again, no buffer goes out while the other
publisher holds an earlier PTS, and none of the feeder's while `_still_tick` has an older
frame in hand. -/
def InTurn (s : PluginTransport α) : Event α → Prop
  | .go who _ enters =>
    (who = .feeder ∧ s.isCalled .feeder = true → s.isCalled .stillTick = false) ∧
    (enters = true → ∀ sent ∈ s.unpushed who,
      (∀ waiting ∈ s.unpushed who.other, sent.2 < waiting.2) ∧
      (who = .feeder → ∀ held ∈ s.carried .stillTick, sent.1.call ≤ held.call))
  | _ => True

instance (s : PluginTransport α) (e : Event α) : Decidable (s.InTurn e) :=
  match e with
  | .publish .. | .tick _ | .stop => isTrue trivial
  | .go .. => inferInstanceAs (Decidable (_ ∧ _))

section Reads

variable {s : PluginTransport α} {who : Publisher} {frame : StillFrame α}

/-- A publisher that has called holds a frame. -/
theorem exists_called (h : s.isCalled who = true) :
    ∃ frame, s.pc who = some (.called frame) := by
  rw [isCalled] at h
  split at h
  · next frame hpc => exact ⟨frame, hpc⟩
  · cases h

/-- What is stamped and not pushed is in the hands of its publisher. -/
theorem eq_of_mem_stamped {sent : StillFrame α × Int} (h : sent ∈ s.unpushed who) :
    s.pc who = some (.stamped sent.1 sent.2) := by
  rw [Option.mem_def, unpushed] at h
  split at h
  · next hpc => exact Option.some.inj h ▸ hpc
  · cases h

/-- So is a stamp that it holds. -/
theorem mem_unpushed {tpts : Int} (hpc : s.pc who = some (.stamped frame tpts)) :
    (frame, tpts) ∈ s.unpushed who := by
  rw [unpushed, hpc]
  rfl

end Reads

/-! ## The invariant of runs in turn -/

/-- A PTS that has been computed. -/
def Given (s : PluginTransport α) (tpts : Int) : Prop :=
  ∃ last, s.clock.tptsLast = some last ∧ tpts ≤ last

/-- The call a publisher's frame is of: the next one of the feeder, the newest where
`_still_tick` has just read it. -/
def Numbered (s : PluginTransport α) : Publisher → PublishPc α → Prop
  | .feeder, .due => False
  | .stillTick, .due => True
  | .feeder, .called frame => frame.call = s.published + 1
  | .stillTick, .called frame => frame.call = s.published
  | _, .remembered frame | _, .marked frame | _, .stamped frame _ => frame.call ≤ s.published

/-- What holds of a publisher under way. -/
structure InHand (s : PluginTransport α) (who : Publisher) (pc : PublishPc α) : Prop where
  numbered : s.Numbered who pc
  stamped : ∀ frame tpts, pc = .stamped frame tpts →
    s.Given tpts ∧ ∀ buffer ∈ s.wire, buffer.pts < tpts
  held : who = .stillTick → ∀ frame, pc.carried = some frame →
    ∀ buffer ∈ s.wire, buffer.frame.call ≤ frame.call

/-- What holds while the publishers take turns. -/
structure Inv (s : PluginTransport α) : Prop where
  ordered : s.WireOrdered
  sent : ∀ buffer ∈ s.wire, s.Given buffer.pts ∧ buffer.frame.call ≤ s.published
  inHand : ∀ who pc, s.pc who = some pc → s.InHand who pc

/-- Nothing is published yet. -/
theorem inv_init : (init α).Inv where
  ordered := { increasing := .nil, newest := by simp [init], held := .nil }
  sent := by simp [init]
  inHand := by simp [init]

theorem moves_pc_self (s : PluginTransport α) (who : Publisher) (pc : Option (PublishPc α)) :
    (s.moves who pc).pc who = pc := Function.update_self ..

theorem moves_pc_other (s : PluginTransport α) (who : Publisher) (pc : Option (PublishPc α)) :
    (s.moves who pc).pc who.other = s.pc who.other :=
  Function.update_of_ne who.other_ne ..

/-- A publisher's facts are about the frames remembered, the PTS computed and the wire. -/
theorem InHand.of_eq {s s' : PluginTransport α} {who : Publisher} {pc : PublishPc α}
    (h : s.InHand who pc) (hpublished : s'.published = s.published)
    (hgiven : ∀ tpts, s.Given tpts → s'.Given tpts) (hwire : s'.wire = s.wire) :
    s'.InHand who pc where
  numbered := by
    have hnumbered := h.numbered
    cases who <;> cases pc <;> simp only [Numbered, hpublished] at hnumbered ⊢ <;>
      exact hnumbered
  stamped frame tpts hpc := by
    obtain ⟨htpts, hlater⟩ := h.stamped frame tpts hpc
    exact ⟨hgiven tpts htpts, hwire ▸ hlater⟩
  held := hwire ▸ h.held

/-- A publisher goes on: the other one's facts are kept, its own are to show. -/
theorem inv_moves {s : PluginTransport α} {who : Publisher} {pc : Option (PublishPc α)}
    (hordered : s.WireOrdered)
    (hsent : ∀ buffer ∈ s.wire, s.Given buffer.pts ∧ buffer.frame.call ≤ s.published)
    (hother : ∀ pc', s.pc who.other = some pc' → s.InHand who.other pc')
    (hown : ∀ pc', pc = some pc' → s.InHand who pc') : (s.moves who pc).Inv where
  ordered := { increasing := hordered.increasing, newest := hordered.newest,
               held := hordered.held }
  sent := hsent
  inHand who' pc' hpc := by
    by_cases hwho : who' = who
    · subst hwho
      rw [moves_pc_self] at hpc
      exact (hown pc' hpc).of_eq rfl (fun _ h => h) rfl
    · rw [Publisher.eq_other_of_ne hwho, moves_pc_other] at hpc
      rw [Publisher.eq_other_of_ne hwho]
      exact (hother pc' hpc).of_eq rfl (fun _ h => h) rfl

/-! ### One lemma a statement -/

section Statements

variable {setup : PluginSetup} {s : PluginTransport α} (h : s.Inv)
include h

/-- The feeder begins a call. -/
theorem Inv.publish (image : α) (pts : Int) :
    (s.moves .feeder (some (.called { call := s.published + 1, image, pts }))).Inv :=
  inv_moves h.ordered h.sent (h.inHand _) fun pc hpc => by
    cases hpc
    exact { numbered := rfl, stamped := by simp, held := by simp }

/-- A still frame is due. -/
theorem Inv.due : (s.moves .stillTick (some .due)).Inv :=
  inv_moves h.ordered h.sent (h.inHand _) fun pc hpc => by
    cases hpc
    exact { numbered := trivial, stamped := by simp, held := by simp [PublishPc.carried] }

/-- The tick looks at the clock. -/
theorem Inv.stillTick (now : ℚ) : (s.stillTick setup now).Inv := by
  rw [PluginTransport.stillTick]
  split
  · exact h
  · split
    · exact h
    · split
      · exact h
      · exact h.due

/-- `_still_tick` reads the remembered frame. -/
theorem Inv.read {frame : StillFrame α} (hstill : s.still = some frame) :
    (s.moves .stillTick (some (.called frame))).Inv := by
  have hnewest := h.ordered.newest frame hstill
  refine inv_moves h.ordered h.sent (h.inHand _) fun pc hpc => ?_
  cases hpc
  refine { numbered := hnewest, stamped := by simp, held := fun _ frame' hframe buffer hb => ?_ }
  cases hframe
  exact hnewest ▸ (h.sent buffer hb).2

/-- The frame is remembered as the still one. -/
theorem Inv.remember {who : Publisher} {frame : StillFrame α} {now : ℚ} {enters : Bool}
    (hpc : s.pc who = some (.called frame)) (hturn : s.InTurn (.go who now enters)) :
    ((s.remember who frame).moves who (some (.remembered frame))).Inv := by
  have hown := h.inHand who _ hpc
  have hturn : who = .feeder → ∀ held, s.pc .stillTick ≠ some (.called held) := by
    intro hwho held hheld
    have hread := hturn.1 ⟨hwho, by subst hwho; rw [isCalled, hpc]⟩
    rw [isCalled, hheld] at hread
    cases hread
  cases who with
  | feeder =>
      have hcall : frame.call = s.published + 1 := hown.numbered
      have hgrows : s.published ≤ (s.remember .feeder frame).published :=
        hcall.symm.le.trans' (Nat.le_succ _)
      refine inv_moves ?_ (fun buffer hb => ?_) (fun pc hother => ?_) fun pc hpc' => ?_
      · exact {
          increasing := h.ordered.increasing
          newest := fun still hstill => by cases hstill; rfl
          held := h.ordered.held }
      · have hsent := h.sent buffer hb
        exact ⟨hsent.1, hgrows.trans' hsent.2⟩
      · have hheld := h.inHand .stillTick pc hother
        refine { numbered := ?_, stamped := hheld.stamped, held := hheld.held }
        have hnumbered := hheld.numbered
        cases pc with
        | due => trivial
        | called held => exact absurd hother (hturn rfl held)
        | remembered held | marked held | stamped held tpts =>
            exact hgrows.trans' hnumbered
      · cases hpc'
        exact { numbered := Nat.le_refl frame.call, stamped := by simp, held := by simp }
  | stillTick =>
      have hcall : frame.call = s.published := hown.numbered
      refine inv_moves ?_ h.sent (fun pc hother => ?_) fun pc hpc' => ?_
      · exact {
          increasing := h.ordered.increasing
          newest := fun still hstill => by cases hstill; exact hcall
          held := h.ordered.held }
      · exact (h.inHand .feeder pc hother).of_eq rfl (fun _ h => h) rfl
      · cases hpc'
        exact { numbered := hcall.le, stamped := by simp, held := hown.held }

/-- The time is noted. -/
theorem Inv.mark {who : Publisher} {frame : StillFrame α} (now : ℚ)
    (hpc : s.pc who = some (.remembered frame)) :
    ({ s with stillPushedMono := now }.moves who (some (.marked frame))).Inv := by
  have hown := h.inHand who _ hpc
  refine inv_moves { h.ordered with } h.sent (fun pc hother => ?_) fun pc hpc' => ?_
  · exact (h.inHand _ pc hother).of_eq rfl (fun _ h => h) rfl
  · cases hpc'
    refine { numbered := ?_, stamped := by simp, held := hown.held }
    have hnumbered := hown.numbered
    cases who <;> exact hnumbered

/-- The PTS is computed: it is later than every other. -/
theorem Inv.stamp (hsetup : setup.Advances) {who : Publisher} {frame : StillFrame α} (now : ℚ)
    (hpc : s.pc who = some (.marked frame)) :
    ({ s with clock := (s.clock.transportPts setup now frame.pts who.held).2 }.moves who
      (some (.stamped frame (s.clock.transportPts setup now frame.pts who.held).1))).Inv := by
  have hown := h.inHand who _ hpc
  have hlater : ∀ tpts, s.Given tpts →
      tpts < (s.clock.transportPts setup now frame.pts who.held).1 := fun tpts htpts => by
    obtain ⟨last, hlast, hle⟩ := htpts
    exact hle.trans_lt (transportPts_gt hsetup hlast)
  have hgiven : ∀ tpts, s.Given tpts →
      Given { s with clock := (s.clock.transportPts setup now frame.pts who.held).2 } tpts :=
    fun tpts htpts => ⟨_, rfl, (hlater tpts htpts).le⟩
  refine inv_moves { h.ordered with } (fun buffer hb => ?_) (fun pc hother => ?_)
    fun pc hpc' => ?_
  · have hsent := h.sent buffer hb
    exact ⟨hgiven _ hsent.1, hsent.2⟩
  · exact (h.inHand _ pc hother).of_eq rfl hgiven rfl
  · cases hpc'
    refine { numbered := ?_, stamped := fun frame' tpts heq => ?_, held := hown.held }
    · have hnumbered := hown.numbered
      cases who <;> exact hnumbered
    · cases heq
      exact ⟨⟨_, rfl, le_refl _⟩, fun buffer hb => hlater _ (h.sent buffer hb).1⟩

/-- The buffer goes out, later than the wire and earlier than what the other holds. -/
theorem Inv.push {who : Publisher} {frame : StillFrame α} {tpts : Int} {now : ℚ}
    {enters : Bool} (hpc : s.pc who = some (.stamped frame tpts))
    (hturn : s.InTurn (.go who now enters)) :
    ((s.push who frame tpts enters).moves who none).Inv := by
  have hown := h.inHand who _ hpc
  obtain ⟨hgiven, hlater⟩ := hown.stamped frame tpts rfl
  cases enters with
  | false => exact inv_moves h.ordered h.sent (h.inHand _) fun pc hpc' => by cases hpc'
  | true =>
      obtain ⟨hearlier, hnewer⟩ := hturn.2 rfl (frame, tpts) (mem_unpushed hpc)
      have hcall : frame.call ≤ s.published := by
        have hnumbered := hown.numbered
        cases who <;> exact hnumbered
      refine inv_moves ?_ (fun buffer hb => ?_) (fun pc hother => ?_) fun pc hpc' => by cases hpc'
      · refine {
          increasing := ?_
          newest := h.ordered.newest
          held := List.pairwise_append.mpr ⟨h.ordered.held, List.pairwise_singleton _ _, ?_⟩ }
        · rw [PluginTransport.push, if_pos rfl, List.map_append, List.pairwise_append]
          refine ⟨h.ordered.increasing, List.pairwise_singleton _ _, ?_⟩
          intro pts hpts pts' hpts'
          obtain ⟨buffer, hb, rfl⟩ := List.mem_map.mp hpts
          rw [List.map_singleton, List.mem_singleton] at hpts'
          exact hpts' ▸ hlater buffer hb
        · intro buffer hb later hlater' hheld
          rw [List.mem_singleton] at hlater'
          subst hlater'
          cases who with
          | feeder => cases hheld
          | stillTick => exact hown.held rfl frame rfl buffer hb
      · rcases List.mem_append.mp hb with hold | hnew
        · exact h.sent buffer hold
        · rw [List.mem_singleton] at hnew
          subst hnew
          exact ⟨hgiven, hcall⟩
      · have hotherHand := h.inHand _ pc hother
        refine {
          numbered := by
            have hnumbered := hotherHand.numbered
            cases who <;> cases pc <;> exact hnumbered
          stamped := fun frame' tpts' heq => ⟨(hotherHand.stamped frame' tpts' heq).1, ?_⟩
          held := fun hwho frame' hframe buffer hb => ?_ }
        · intro buffer hb
          rcases List.mem_append.mp hb with hold | hnew
          · exact (hotherHand.stamped frame' tpts' heq).2 buffer hold
          · rw [List.mem_singleton] at hnew
            subst hnew
            exact hearlier (frame', tpts') (mem_unpushed (heq ▸ hother))
        · rcases List.mem_append.mp hb with hold | hnew
          · exact hotherHand.held hwho frame' hframe buffer hold
          · rw [List.mem_singleton] at hnew
            subst hnew
            cases who with
            | feeder =>
                exact hnewer rfl frame' (Option.mem_def.mpr (Option.bind_eq_some_iff.mpr
                  ⟨pc, hother, hframe⟩))
            | stillTick => cases hwho

end Statements

/-- **One statement in turn** keeps the invariant. -/
theorem inv_next {setup : PluginSetup} (hsetup : setup.Advances) {s s' : PluginTransport α}
    {e : Event α} (h : s.Inv) (hturn : s.InTurn e) (hnext : next setup s e = some s') :
    s'.Inv := by
  cases e with
  | publish image pts =>
      simp only [next] at hnext
      split at hnext
      · split at hnext
        · exact Option.some.inj hnext ▸ h
        · exact Option.some.inj hnext ▸ h.publish image pts
      · cases hnext
  | tick now =>
      simp only [next] at hnext
      split at hnext
      · exact Option.some.inj hnext ▸ h.stillTick now
      · cases hnext
  | go who now enters =>
      rw [next, Option.bind_eq_some_iff] at hnext
      obtain ⟨pc, hpc, hstep⟩ := hnext
      cases pc with
      | due =>
          rw [publishStep, Option.map_eq_some_iff] at hstep
          obtain ⟨frame, hstill, rfl⟩ := hstep
          cases who with
          | feeder => exact (h.inHand .feeder .due hpc).numbered.elim
          | stillTick => exact h.read hstill
      | called frame => exact Option.some.inj hstep ▸ h.remember hpc hturn
      | remembered frame => exact Option.some.inj hstep ▸ h.mark now hpc
      | marked frame => exact Option.some.inj hstep ▸ h.stamp hsetup now hpc
      | stamped frame tpts => exact Option.some.inj hstep ▸ h.push hpc hturn
  | stop =>
      rw [next, Option.some.injEq] at hnext
      subst hnext
      exact {
        ordered := { h.ordered with }
        sent := h.sent
        inHand := fun who pc hpc => (h.inHand who pc hpc).of_eq rfl (fun _ h => h) rfl }

/-! ## Runs out of turn -/

section OutOfTurn

variable {s : PluginTransport α} {who : Publisher} {frame : StillFrame α}

/-- A publisher takes its next statement. -/
theorem go_eq (setup : PluginSetup) {pc : PublishPc α} (hpc : s.pc who = some pc) (now : ℚ)
    (enters : Bool) :
    next setup s (.go who now enters) = s.publishStep setup who now enters pc := by
  rw [next, hpc, Option.bind_some]

/-- Some run of the other statements puts the frame on the wire next. -/
def Pushes (setup : PluginSetup) (s : PluginTransport α) (who : Publisher)
    (frame : StillFrame α) : Prop :=
  ∃ es t tpts, Machine.exec (next setup) s es = some t ∧
    t.wire = s.wire ++ [⟨tpts, who.held, frame⟩]

/-- A step before a run that pushes. -/
theorem Pushes.head {setup : PluginSetup} {s' : PluginTransport α} {e : Event α}
    (hnext : next setup s e = some s') (hwire : s'.wire = s.wire) (h : s'.Pushes setup who frame) :
    s.Pushes setup who frame := by
  obtain ⟨es, t, tpts, hrun, ht⟩ := h
  exact ⟨e :: es, t, tpts, by rw [Machine.exec_cons, hnext, Option.bind_some, hrun],
    by rw [ht, hwire]⟩

/-- From a stamp on the frame is pushed. -/
theorem pushes_of_stamped (setup : PluginSetup) {tpts : Int}
    (hpc : s.pc who = some (.stamped frame tpts)) :
    ∃ t, Machine.exec (next setup) s [.go who 0 true] = some t ∧
      t.wire = s.wire ++ [⟨tpts, who.held, frame⟩] :=
  ⟨(s.push who frame tpts true).moves who none,
    by rw [Machine.exec_cons, go_eq setup hpc]; rfl, rfl⟩

/-- From the mark on it is, too. -/
theorem pushes_of_marked (setup : PluginSetup) (hpc : s.pc who = some (.marked frame)) :
    s.Pushes setup who frame := by
  refine Pushes.head (go_eq setup hpc 0 true) rfl ?_
  obtain ⟨t, hrun, hwire⟩ := pushes_of_stamped setup (moves_pc_self ..)
  exact ⟨_, t, _, hrun, hwire⟩

theorem pushes_of_remembered (setup : PluginSetup) (hpc : s.pc who = some (.remembered frame)) :
    s.Pushes setup who frame :=
  .head (go_eq setup hpc 0 true) rfl (pushes_of_marked setup (moves_pc_self ..))

/-- A publisher can always go on to its push. -/
theorem pushes_of_carried (setup : PluginSetup) {pc : PublishPc α} (hpc : s.pc who = some pc)
    (hframe : pc.carried = some frame) : s.Pushes setup who frame := by
  cases pc with
  | due => cases hframe
  | called frame' =>
      cases hframe
      exact .head (go_eq setup hpc 0 true) rfl (pushes_of_remembered setup (moves_pc_self ..))
  | remembered frame' =>
      cases hframe
      exact pushes_of_remembered setup hpc
  | marked frame' =>
      cases hframe
      exact pushes_of_marked setup hpc
  | stamped frame' tpts =>
      cases hframe
      obtain ⟨t, hrun, hwire⟩ := pushes_of_stamped setup hpc
      exact ⟨_, t, tpts, hrun, hwire⟩

/-- Two buffers that end the wire in the wrong order. -/
theorem not_wireOrdered_of_last {t : PluginTransport α} {wire : List (WireBuffer α)}
    {earlier later : WireBuffer α} (hwire : t.wire = wire ++ [earlier] ++ [later])
    (hbad : later.pts ≤ earlier.pts ∨
      later.held = true ∧ later.frame.call < earlier.frame.call) : ¬ t.WireOrdered := by
  intro hordered
  have hearlier : earlier ∈ wire ++ [earlier] := List.mem_append_right _ (List.mem_singleton_self _)
  rcases hbad with hpts | ⟨hheld, hcall⟩
  · have hincreasing := hordered.increasing
    rw [hwire, List.map_append, List.pairwise_append] at hincreasing
    have hlt := hincreasing.2.2 earlier.pts (List.mem_map_of_mem hearlier) later.pts
      (List.mem_map_of_mem (List.mem_singleton_self _))
    omega
  · have hpairwise := hordered.held
    rw [hwire, List.pairwise_append] at hpairwise
    have hle := hpairwise.2.2 earlier hearlier later (List.mem_singleton_self _) hheld
    omega

/-- A statement out of turn: the other publisher can break the order of the wire. -/
theorem breaks_of_not_inTurn {setup : PluginSetup} {s' : PluginTransport α} {e : Event α}
    (h : s.Inv) (hnext : next setup s e = some s') (hturn : ¬ s.InTurn e) :
    ∃ es t, Machine.exec (next setup) s' es = some t ∧ ¬ t.WireOrdered := by
  cases e with
  | publish image pts => exact absurd trivial hturn
  | tick now => exact absurd trivial hturn
  | stop => exact absurd trivial hturn
  | go who now enters =>
      rw [next, Option.bind_eq_some_iff] at hnext
      obtain ⟨pc, hpc, hstep⟩ := hnext
      rw [InTurn, not_and_or] at hturn
      rcases hturn with hread | hpush
      · -- the feeder remembers a frame after `_still_tick` has read an older one
        rw [Classical.not_imp, Bool.not_eq_false] at hread
        obtain ⟨⟨hwho, hcalled⟩, hread⟩ := hread
        subst hwho
        obtain ⟨frame, hframe⟩ := exists_called hcalled
        obtain ⟨held, hheld⟩ := exists_called hread
        cases hpc.symm.trans hframe
        cases hstep
        have hcall : frame.call = s.published + 1 := (h.inHand _ _ hpc).numbered
        have hold : held.call = s.published := (h.inHand _ _ hheld).numbered
        have hpc' := (moves_pc_other (s.remember .feeder frame) .feeder
          (some (.remembered frame))).trans hheld
        refine ⟨[.go .stillTick 0 true], _,
          (Option.bind_eq_some_iff.mpr ⟨_, go_eq setup hpc' 0 true, rfl⟩), ?_⟩
        intro hordered
        have hnewest : held.call = frame.call := hordered.newest held rfl
        omega
      · simp only [Classical.not_imp, not_forall, not_and_or] at hpush
        obtain ⟨henters, ⟨frame, tpts⟩, hsent, hpush⟩ := hpush
        subst henters
        cases hpc.symm.trans (eq_of_mem_stamped hsent)
        cases hstep
        rcases hpush with ⟨⟨frame', tpts'⟩, hother, hlate⟩ | ⟨hwho, held, hheld, hnewer⟩
        · -- the other holds an earlier PTS
          have hpc' := (moves_pc_other (s.push who frame tpts true) who none).trans
            (eq_of_mem_stamped hother)
          obtain ⟨t, hrun, hwire⟩ := pushes_of_stamped setup hpc'
          exact ⟨_, t, hrun, not_wireOrdered_of_last hwire (.inl (not_lt.mp hlate))⟩
        · -- `_still_tick` holds an older frame
          subst hwho
          obtain ⟨pc, hother, hframe⟩ := Option.bind_eq_some_iff.mp hheld
          have hpc' := (moves_pc_other (s.push .feeder frame tpts true) .feeder none).trans hother
          obtain ⟨es, t, tpts', hrun, hwire⟩ := pushes_of_carried setup hpc' hframe
          exact ⟨es, t, hrun, not_wireOrdered_of_last hwire (.inr ⟨rfl, not_le.mp hnewer⟩)⟩

end OutOfTurn

/-- **The wire is ordered while the publishers take turns**, and the first statement out of
turn leaves it to the other publisher to break the order. -/
theorem wireOrdered_inTurn (setup : PluginSetup) (hsetup : setup.Advances)
    {events : List (Event α)} {s : PluginTransport α}
    (hrun : Machine.exec (next setup) (init α) events = some s)
    (hturn : Machine.Along (next setup) InTurn (init α) events) :
    s.WireOrdered ∧ ∀ e s', next setup s e = some s' → ¬ s.InTurn e →
      ∃ es t, Machine.exec (next setup) s' es = some t ∧ ¬ t.WireOrdered :=
  have h : s.Inv := Machine.exec_inv_along
    (fun _ _ _ h hturn hnext => inv_next hsetup h hturn hnext) inv_init hturn hrun
  ⟨h.ordered, fun _ _ hnext hout => breaks_of_not_inTurn h hnext hout⟩

/-! ## Two runs -/

/-- A playback at 30 frames a second. -/
def playbackSetup : PluginSetup := { finite := true, playback := true, fps := 30 }

/-- The feeder publishes a frame at the time `now`, and its buffer goes out. -/
def feeds (pts : Int) (now : ℚ) : List (Event Unit) :=
  .publish () pts :: List.replicate 4 (.go .feeder now true)

/-- A frame, then a second of silence in which `_still_tick` reads it. -/
def silence : List (Event Unit) :=
  feeds 0 0 ++ [.tick 1, .go .stillTick 1 true]

/-- The held frame goes out, and then the next one. -/
theorem wireOrdered_silence :
    ∃ s, Machine.exec (next playbackSetup) (init Unit)
        (silence ++ List.replicate 4 (.go .stillTick 1 true) ++ feeds 33000000 2) = some s ∧
      s.wire.map WireBuffer.pts = [0, 1000000000, 2000000000] ∧ s.WireOrdered := by
  have hrun : (Machine.exec (next playbackSetup) (init Unit)
      (silence ++ List.replicate 4 (.go .stillTick 1 true) ++ feeds 33000000 2)).map
        (fun s => s.wire.map WireBuffer.pts) = some [0, 1000000000, 2000000000] := by
    decide +kernel
  obtain ⟨s, hs, hwire⟩ := Option.map_eq_some_iff.mp hrun
  exact ⟨s, hs, hwire, (wireOrdered_inTurn playbackSetup (.inl rfl) hs (by decide +kernel)).1⟩

/-- A new frame goes out between the read of the held one and its publish. -/
def overtaken : List (Event Unit) :=
  silence ++ feeds 33000000 1 ++ List.replicate 4 (.go .stillTick 1 true)

/-- A new frame goes out between the PTS of the held one and its push. -/
def inverted : List (Event Unit) :=
  silence ++ List.replicate 3 (.go .stillTick 1 true) ++ feeds 33000000 (11 / 10) ++
    [.go .stillTick 1 true]

/-- The wire is not ordered: the held frame follows the newer one and is remembered in its
place; its earlier PTS follows the later one. -/
theorem not_wireOrdered :
    (∃ s, Machine.exec (next playbackSetup) (init Unit) overtaken = some s ∧
      s.wire.map (fun buffer => buffer.frame.call) = [1, 2, 1] ∧
      s.still.map StillFrame.call = some 1 ∧ ¬ s.WireOrdered) ∧
    ∃ s, Machine.exec (next playbackSetup) (init Unit) inverted = some s ∧
      s.wire.map WireBuffer.pts = [0, 1100000000, 1000000000] ∧ ¬ s.WireOrdered := by
  constructor
  · have hrun : (Machine.exec (next playbackSetup) (init Unit) overtaken).map
        (fun s => (s.wire.map (fun buffer => buffer.frame.call), s.still.map StillFrame.call,
          s.published)) = some ([1, 2, 1], some 1, 2) := by
      decide +kernel
    obtain ⟨s, hs, hfacts⟩ := Option.map_eq_some_iff.mp hrun
    simp only [Prod.mk.injEq] at hfacts
    obtain ⟨hwire, hstill, hpublished⟩ := hfacts
    refine ⟨s, hs, hwire, hstill, fun hordered => ?_⟩
    obtain ⟨frame, hframe, hcall⟩ := Option.map_eq_some_iff.mp hstill
    have hnewest := hordered.newest frame hframe
    omega
  · have hrun : (Machine.exec (next playbackSetup) (init Unit) inverted).map
        (fun s => s.wire.map WireBuffer.pts) = some [0, 1100000000, 1000000000] := by
      decide +kernel
    obtain ⟨s, hs, hwire⟩ := Option.map_eq_some_iff.mp hrun
    refine ⟨s, hs, hwire, fun hordered => ?_⟩
    have hincreasing := hordered.increasing
    rw [hwire] at hincreasing
    revert hincreasing
    decide

end PluginTransport

end CamDriver
