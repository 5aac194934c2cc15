import CamDriver.LifecycleAgree
import CamDriver.PlaybackNumbers
import CamDriver.Presence

/-!
# CamDriver.ControlPlane

The queries of the control plane that change something, and the state it publishes.

A query arrives on a thread of the session.  It is handed to the main loop, which handles it
in its turn, between the other events of the service, and replies; a descriptor is published
whenever the lifecycle notifies its observers.  The queries that only read, which their own
thread answers, are left out.

`answeredOnce_run` is about the replies, `neverStale_run` about what was published last.
-/

namespace CamDriver

/-! ## The keys -/

/-- The key of a queryable. -/
def Endpoint.key (setup : ControlSetup) : Endpoint → String
  | .lifecycle => setup.keyBase
  | .changeState => setup.keyBase ++ "/change_state"
  | .configureRecording => setup.keyBase ++ "/configure_recording"
  | .playback => setup.playbackKey
  | .playbackControl => setup.playbackKey ++ "/control"
  | .health => setup.healthKey

/-! ## The requests -/

/-- A field of a `change_state` request; of an object what the settings are compared by. -/
inductive RequestField where
  | plain (v : Value)
  | object (generation : Option String) (revision : Option Int)
deriving DecidableEq, Repr

/-- `params["expected_recording_settings"]`. -/
def RequestField.expected : RequestField → ExpectedSettings
  | .plain _ => ⟨false, none, none⟩
  | .object generation revision => ⟨true, generation, revision⟩

/-- A `change_state` query, as a `ControlQuery` is. -/
structure ChangeQuery where
  payload : Option (Except String (Option (List (String × RequestField))))
  parameters : String

/-- A request of a transition. -/
structure ChangeRequest where
  transition : String
  runId : Option String
  expected : Option ExpectedSettings
deriving DecidableEq, Repr

/-- `str(run_id)`; a `bool` is an `int`. -/
def runIdOf : Option RequestField → Except String (Option String)
  | none | some (.plain .null) => .ok none
  | some (.plain (.str s)) => .ok (some s)
  | some (.plain (.int i)) => .ok (some (toString i))
  | some (.plain (.bool b)) => .ok (some (if b then "True" else "False"))
  | some _ => .error "'run_id' must be a string"

/-- `parse_change_state`, from the fields on. -/
def changeOf (fields : List (String × RequestField)) : Except String ChangeRequest :=
  let field := fun key => fields.reverse.lookup key
  match field "transition" with
  | some (.plain (.str transition)) =>
    if transition = "" then .error "missing 'transition'"
    else do
      let runId ← runIdOf (field "run_id")
      return { transition, runId,
               expected := (field "expected_recording_settings").map RequestField.expected }
  | _ => .error "missing 'transition'"

/-- `parse_change_state`. -/
def parseChangeState (query : ChangeQuery) : Except String ChangeRequest :=
  match query.payload with
  | some (.error e) => .error ("request is not JSON: " ++ e)
  | some (.ok none) => .error "request must be a JSON object"
  | some (.ok (some fields)) => changeOf fields
  | none => changeOf ((splitParameters query.parameters).map fun item =>
      (item.1, .plain (.str item.2)))

/-- The transition a request names. -/
def ChangeRequest.requested (py : Builtins) (r : ChangeRequest) : Requested :=
  if r.transition = "activate" then .known .activate
  else if r.transition = "deactivate" then .known .deactivate
  else .unknown (py.repr r.transition)

/-- A `configure_recording` query: its length, and the error of reading it as JSON. -/
structure RecordingQuery where
  length : Nat
  invalid : Option String
deriving DecidableEq, Repr

/-- A query that is handed to the main loop. -/
inductive Marshalled where
  | change (q : ChangeQuery)
  | recording (q : RecordingQuery)
  | playback (q : ControlQuery)

def Marshalled.endpoint : Marshalled → Endpoint
  | .change _ => .changeState
  | .recording _ => .configureRecording
  | .playback _ => .playbackControl

/-! ## What is published -/

namespace Service

/-- A request gets as far as the pipeline. -/
def reaches (setup : ServiceSetup) (s : Service) (requested : Requested)
    (expected : Option ExpectedSettings) : Bool :=
  match requested with
  | .unknown _ => false
  | .known t =>
    s.lifecycle = t.source && match t with
      | .activate => setup.recordingEnabled &&
          (expected.elim (.ok ()) (s.checkRecordingSettings setup)).isOk
      | .deactivate => true

/-- `_watchdog` finds a playback at its end, holds, and has a session to finalize. -/
def endsSession (setup : ServiceSetup) (s : Service) (source : SourceState) : Bool :=
  s.watching && !s.stopping && (setup.finite && source.finished) && !source.finishedError &&
    setup.holdOnFinish && !s.held && s.session.isSome

/-- The descriptors that `_notify` hands to the observers while an event is handled. -/
def notified (setup : ServiceSetup) (s : Service) : ServiceEvent → List Descriptor
  | .boot o c =>
    if s.bootReason.isSome then []
    else
      let target := s.resolveBootState setup
      let s := { s with bootReason := some target.2 }
      if target.1 = .active then
        if s.reaches setup (.known .activate) none then
          [(s.request setup (.known .activate) none o c).1.descriptor setup]
        else []
      else [s.descriptor setup]
  | .request requested expected o c =>
    if s.reaches setup requested expected then
      [(s.request setup requested expected o c).1.descriptor setup]
    else []
  | .configureRecording answer =>
    let r := s.configureRecording setup answer
    if r.2.ok then [r.1.descriptor setup] else []
  | .sessionError index c =>
    if s.session.map OpenedSession.index ≠ some index ∨ s.stopping then []
    else
      match s.deactivate c with
      | (_, .error _) => []
      | (s, .ok r) => [(s.onUncommandedEnd setup r).descriptor setup]
  | .fragment index =>
    if s.session.map OpenedSession.index = some index then [s.descriptor setup] else []
  | .progressTick => if s.session.isNone then [] else [s.descriptor setup]
  | .watchdog source c =>
    if s.endsSession setup source then
      match { s with held := true }.deactivate c with
      | (_, .error _) => []
      | (s, .ok _) => [(s.remember setup .inactive).descriptor setup]
    else []
  | .requestStop _ | .signalStop _ | .shutdown _ => []

end Service

/-! ## The loop -/

/-- What a reply carries. -/
inductive AnswerBody where
  | lifecycle (r : LifecycleReply)
  | playback (r : Reply)
  /-- `{"ok": False, "error": ...}` -/
  | error (text : String)
deriving DecidableEq, Repr

/-- What leaves the control plane; `turn`: the main loop replies. -/
inductive Message where
  | state (d : Descriptor)
  | reply (id : Nat) (key : String) (turn : Bool) (body : AnswerBody)
deriving DecidableEq, Repr

/-- What a turn of the main loop meets. -/
structure TurnEnv where
  opening : Opening
  closing : Closing
  configured : Configured
  request : RequestEnv
  restart : RestartEnv
  /-- the text of an exception that escapes a request of the playback -/
  exception : String

/-- The deployment: the keys, the service, the language. -/
structure ControlDeployment where
  control : ControlSetup
  service : ServiceSetup
  builtins : Builtins

/-- `asked` are the queries so far: a query is known by its number among them. -/
structure ControlLoop where
  service : Service
  playback : PlaybackControl × PlaybackSource
  /-- the publisher of the state is declared -/
  announced : Bool
  asked : List Marshalled
  queue : List (Nat × Marshalled)
  log : List Message

inductive ControlEvent where
  /-- a query arrives; `fails`: it cannot be handed to the main loop -/
  | ask (q : Marshalled) (fails : Option String)
  | turn (env : TurnEnv)
  | service (event : ServiceEvent)
  | playback (event : PlaybackEvent)
  /-- `advertise` has declared the publisher -/
  | announce

namespace ControlLoop

def init (stateFile : Option String) (playback : PlaybackSetup) : ControlLoop :=
  { service := .start stateFile, playback := playback.start, announced := false, asked := [],
    queue := [], log := [] }

/-- `_publish`, for each of the descriptors. -/
def publish (c : ControlLoop) (ds : List Descriptor) : ControlLoop :=
  if c.announced then { c with log := c.log ++ ds.map .state } else c

/-- `_reply`, on the queryable's own key. -/
def reply (c : ControlLoop) (setup : ControlSetup) (id : Nat) (q : Marshalled) (turn : Bool)
    (body : AnswerBody) : ControlLoop :=
  { c with log := c.log ++ [.reply id (q.endpoint.key setup) turn body] }

/-- An event of the service, with the descriptors it publishes. -/
def serve (d : ControlDeployment) (c : ControlLoop) (event : ServiceEvent) : ControlLoop :=
  { c with service := (c.service.handle d.service event).1 }.publish
    (c.service.notified d.service event)

/-- `_handle_change`. -/
def handleChange (d : ControlDeployment) (c : ControlLoop) (env : TurnEnv) (id : Nat)
    (q : ChangeQuery) : ControlLoop :=
  match parseChangeState q with
  | .error err =>
    c.reply d.control id (.change q) true
      (.lifecycle (c.service.result d.service false (some err) false))
  | .ok req =>
    let requested := req.requested d.builtins
    let r := c.service.request d.service requested req.expected env.opening env.closing
    (c.serve d (.request requested req.expected env.opening env.closing)).reply d.control id
      (.change q) true (.lifecycle r.2)

/-- `_handle_recording`. -/
def handleRecording (d : ControlDeployment) (c : ControlLoop) (env : TurnEnv) (id : Nat)
    (q : RecordingQuery) : ControlLoop :=
  let refuse := fun error => c.reply d.control id (.recording q) true
    (.lifecycle (c.service.result d.service false (some error) false))
  if 16384 < q.length then refuse "recording settings request too large"
  else
    match q.invalid with
    | some error => refuse error
    | none =>
      let r := c.service.configureRecording d.service env.configured
      (c.serve d (.configureRecording env.configured)).reply d.control id (.recording q) true
        (.lifecycle r.2)

/-- `_handle_playback`. -/
def handlePlayback (d : ControlDeployment) (c : ControlLoop) (env : TurnEnv) (id : Nat)
    (q : ControlQuery) : ControlLoop :=
  match parsePlaybackRequest d.builtins q with
  | .error err =>
    c.reply d.control id (.playback q) true (.playback (c.playback.1.refuse err))
  | .ok (op, params) =>
    let r := CamDriver.request d.builtins env.request env.restart op params
      c.playback.1 c.playback.2
    { c with playback := r.1 }.reply d.control id (.playback q) true
      (match r.2 with
        | some reply => .playback reply
        | none => .error ("internal error: " ++ env.exception))

/-- The callback of a query that was handed over. -/
def handle (d : ControlDeployment) (c : ControlLoop) (env : TurnEnv) (id : Nat) :
    Marshalled → ControlLoop
  | .change q => c.handleChange d env id q
  | .recording q => c.handleRecording d env id q
  | .playback q => c.handlePlayback d env id q

/-- `_on_query_change`, `_on_query_recording`, `_on_query_playback_control`. -/
def ask (d : ControlDeployment) (c : ControlLoop) (q : Marshalled) (fails : Option String) :
    ControlLoop :=
  let id := c.asked.length
  let c := { c with asked := c.asked ++ [q] }
  match fails with
  | none => { c with queue := c.queue ++ [(id, q)] }
  | some e => c.reply d.control id q false (.error ("dispatch failed: " ++ e))

/-- The main loop takes what has waited longest. -/
def turn (d : ControlDeployment) (c : ControlLoop) (env : TurnEnv) : ControlLoop :=
  match c.queue with
  | [] => c
  | (id, q) :: queue => { c with queue := queue }.handle d env id q

/-- The main loop runs until the service is down. -/
def step (d : ControlDeployment) (c : ControlLoop) : ControlEvent → ControlLoop
  | .ask q fails => c.ask d q fails
  | .turn env => if c.service.down then c else c.turn d env
  | .service event => if c.service.down then c else c.serve d event
  | .playback event => { c with playback := (event.next d.builtins c.playback).getD c.playback }
  -- `control.start` comes after the boot
  | .announce =>
    if c.service.bootReason.isNone ∨ c.announced then c
    else { c with announced := true }.publish [c.service.descriptor d.service]

def run (d : ControlDeployment) (stateFile : Option String) (playback : PlaybackSetup)
    (events : List ControlEvent) : ControlLoop :=
  events.foldl (step d) (init stateFile playback)

/-! ## One reply for each query -/

end ControlLoop

/-- The query a message replies to. -/
def Message.replyTo? : Message → Option Nat
  | .reply id _ _ _ => some id
  | .state _ => none

/-- The query the main loop replies to with a message. -/
def Message.turnOf? : Message → Option Nat
  | .reply id _ true _ => some id
  | .reply _ _ false _ | .state _ => none

/-- The descriptor a message publishes. -/
def Message.state? : Message → Option Descriptor
  | .state d => some d
  | .reply _ _ _ _ => none

/-- A publication is no reply. -/
@[simp] theorem filterMap_replyTo?_state (ds : List Descriptor) :
    (ds.map Message.state).filterMap Message.replyTo? = [] := by
  simp [List.filterMap_map, Message.replyTo?, Function.comp_def]

/-- It belongs to no turn. -/
@[simp] theorem filterMap_turnOf?_state (ds : List Descriptor) :
    (ds.map Message.state).filterMap Message.turnOf? = [] := by
  simp [List.filterMap_map, Message.turnOf?, Function.comp_def]

/-- The states among publications are all of them. -/
@[simp] theorem filterMap_state?_state (ds : List Descriptor) :
    (ds.map Message.state).filterMap Message.state? = ds := by
  simp [List.filterMap_map, Message.state?, Function.comp_def]

namespace ControlLoop

/-- The descriptors that are published where there is a publisher. -/
def published (c : ControlLoop) (ds : List Descriptor) : List Descriptor :=
  if c.announced then ds else []

/-- To publish appends to the log and changes nothing else. -/
theorem publish_eq (c : ControlLoop) (ds : List Descriptor) :
    c.publish ds = { c with log := c.log ++ (c.published ds).map .state } := by
  unfold publish published
  split <;> simp

/-- **One turn** publishes what it publishes, and then replies once. -/
theorem handle_eq (d : ControlDeployment) (c : ControlLoop) (env : TurnEnv) (id : Nat)
    (q : Marshalled) :
    ∃ service playback, ∃ ds : List Descriptor, ∃ body, c.handle d env id q = { c with
      service, playback
      log := c.log ++ ds.map .state ++ [.reply id (q.endpoint.key d.control) true body] } := by
  have hreplied : ∀ playback body, { c with playback }.reply d.control id q true body = { c with
      playback
      log := c.log ++ ([] : List Descriptor).map Message.state ++
        [.reply id (q.endpoint.key d.control) true body] } := by
    intro playback body
    simp [reply]
  have hserved : ∀ event body, (c.serve d event).reply d.control id q true body = { c with
      service := (c.service.handle d.service event).1
      log := c.log ++ (c.published (c.service.notified d.service event)).map Message.state ++
        [.reply id (q.endpoint.key d.control) true body] } := by
    intro event body
    rw [serve, publish_eq]
    rfl
  cases q with
  | change q =>
      simp only [handle, handleChange]
      split
      · exact ⟨_, _, _, _, hreplied c.playback _⟩
      · exact ⟨_, _, _, _, hserved _ _⟩
  | recording q =>
      simp only [handle, handleRecording]
      split
      · exact ⟨_, _, _, _, hreplied c.playback _⟩
      · split
        · exact ⟨_, _, _, _, hreplied c.playback _⟩
        · exact ⟨_, _, _, _, hserved _ _⟩
  | playback q =>
      simp only [handle, handlePlayback]
      split
      · exact ⟨_, _, _, _, hreplied c.playback _⟩
      · exact ⟨_, _, _, _, hreplied _ _⟩

/-- Every query is answered once, or still waits; on its own key, and in its turn. -/
structure AnsweredOnce (setup : ControlSetup) (c : ControlLoop) : Prop where
  once : (c.log.filterMap Message.replyTo? ++ c.queue.map Prod.fst).Perm
    (List.range c.asked.length)
  keyed : ∀ id key turn body, Message.reply id key turn body ∈ c.log →
    ∃ q, c.asked[id]? = some q ∧ key = q.endpoint.key setup
  waiting : ∀ id q, (id, q) ∈ c.queue → c.asked[id]? = some q
  inTurn : (c.log.filterMap Message.turnOf? ++ c.queue.map Prod.fst).Pairwise (· < ·)

variable {d : ControlDeployment} {c : ControlLoop}

/-- What is published, and what the service does, does not matter to the replies. -/
theorem AnsweredOnce.frame {setup : ControlSetup} (h : AnsweredOnce setup c) {c' : ControlLoop}
    (hasked : c'.asked = c.asked) (hqueue : c'.queue = c.queue) (ds : List Descriptor)
    (hlog : c'.log = c.log ++ ds.map .state) : AnsweredOnce setup c' where
  once := by
    rw [hlog, hasked, hqueue, List.filterMap_append, filterMap_replyTo?_state, List.append_nil]
    exact h.once
  keyed id key turn body hmem := by
    rw [hlog, List.mem_append] at hmem
    rw [hasked]
    rcases hmem with hmem | hmem
    · exact h.keyed id key turn body hmem
    · simp at hmem
  waiting := by
    rw [hasked, hqueue]
    exact h.waiting
  inTurn := by
    rw [hlog, hqueue, List.filterMap_append, filterMap_turnOf?_state, List.append_nil]
    exact h.inTurn

/-- A reply of a turn is a reply. -/
theorem turnOf?_of_replyTo? {m : Message} {id : Nat} (h : m.turnOf? = some id) :
    m.replyTo? = some id := by
  unfold Message.turnOf? at h
  split at h <;> simp_all [Message.replyTo?]

/-- Every number that is in use belongs to a query. -/
theorem AnsweredOnce.lt_asked {setup : ControlSetup} (h : AnsweredOnce setup c) {id : Nat}
    (hid : id ∈ c.log.filterMap Message.turnOf? ++ c.queue.map Prod.fst) :
    id < c.asked.length := by
  have hmem : id ∈ c.log.filterMap Message.replyTo? ++ c.queue.map Prod.fst := by
    refine List.mem_append.2 ((List.mem_append.1 hid).imp (fun hturn => ?_) fun h => h)
    obtain ⟨m, hm, hturn⟩ := List.mem_filterMap.1 hturn
    exact List.mem_filterMap.2 ⟨m, hm, turnOf?_of_replyTo? hturn⟩
  simpa using h.once.mem_iff.1 hmem

/-- The next query takes the next number. -/
theorem asked_snoc (asked : List Marshalled) (q : Marshalled) :
    (∀ (id : Nat) (q' : Marshalled), asked[id]? = some q' → (asked ++ [q])[id]? = some q') ∧
      (asked ++ [q])[asked.length]? = some q ∧
      List.range (asked ++ [q]).length = List.range asked.length ++ [asked.length] := by
  refine ⟨fun id q' hq => ?_, by simp, by simp [List.range_succ]⟩
  rw [List.getElem?_append_left (List.getElem?_eq_some_iff.1 hq).1]
  exact hq

/-- A question that is marshalled is answered once at most. -/
theorem AnsweredOnce.ask (h : AnsweredOnce d.control c) (q : Marshalled) (fails : Option String) :
    AnsweredOnce d.control (c.ask d q fails) := by
  obtain ⟨hbefore, hlast, hrange⟩ := asked_snoc c.asked q
  unfold ControlLoop.ask
  cases fails with
  | none =>
      constructor
      · show (_ ++ List.map Prod.fst (c.queue ++ [(c.asked.length, q)])).Perm
          (List.range (c.asked ++ [q]).length)
        rw [List.map_append, ← List.append_assoc, hrange]
        exact h.once.append_right _
      · intro id key turn body hmem
        obtain ⟨q', hq', hkey⟩ := h.keyed id key turn body hmem
        exact ⟨q', hbefore id q' hq', hkey⟩
      · intro id q' hmem
        rcases List.mem_append.1 hmem with hmem | hmem
        · exact hbefore id q' (h.waiting id q' hmem)
        · obtain ⟨rfl, rfl⟩ : id = c.asked.length ∧ q' = q := by simpa using hmem
          exact hlast
      · show (_ ++ List.map Prod.fst (c.queue ++ [(c.asked.length, q)])).Pairwise _
        rw [List.map_append, ← List.append_assoc]
        refine List.pairwise_append.2 ⟨h.inTurn, by simp, fun id hid id' hid' => ?_⟩
        obtain rfl : id' = c.asked.length := by simpa using hid'
        exact h.lt_asked hid
  | some e =>
      constructor
      · show (List.filterMap Message.replyTo? (c.log ++ [_]) ++ c.queue.map Prod.fst).Perm
          (List.range (c.asked ++ [q]).length)
        rw [List.filterMap_append, hrange, List.append_assoc]
        refine (List.perm_append_comm.append_left _).trans ?_
        rw [← List.append_assoc]
        exact h.once.append_right _
      · intro id key turn body hmem
        rcases List.mem_append.1 hmem with hmem | hmem
        · obtain ⟨q', hq', hkey⟩ := h.keyed id key turn body hmem
          exact ⟨q', hbefore id q' hq', hkey⟩
        · simp only [List.mem_singleton, Message.reply.injEq] at hmem
          obtain ⟨rfl, rfl, -, -⟩ := hmem
          exact ⟨q, hlast, rfl⟩
      · intro id q' hmem
        exact hbefore id q' (h.waiting id q' hmem)
      · show (List.filterMap Message.turnOf? (c.log ++ [_]) ++ c.queue.map Prod.fst).Pairwise _
        rw [List.filterMap_append]
        simpa [List.filterMap_cons, Message.turnOf?] using h.inTurn

/-- So is one that a turn of the loop takes. -/
theorem AnsweredOnce.turn (h : AnsweredOnce d.control c) (env : TurnEnv) :
    AnsweredOnce d.control (c.turn d env) := by
  unfold ControlLoop.turn
  split
  · exact h
  · next id q queue hqueue =>
      have honce := h.once
      have hinTurn := h.inTurn
      have hwaiting := h.waiting id q (by simp [hqueue])
      rw [hqueue, List.map_cons] at honce hinTurn
      obtain ⟨service, playback, ds, body, heq⟩ :=
        handle_eq d { c with queue := queue } env id q
      rw [heq]
      constructor
      · show (List.filterMap Message.replyTo? (c.log ++ ds.map Message.state ++ [_]) ++ _).Perm _
        rw [List.filterMap_append, List.filterMap_append, filterMap_replyTo?_state]
        simpa [List.filterMap_cons, Message.replyTo?] using honce
      · intro id' key turn body' hmem
        simp only [List.mem_append, List.mem_map, reduceCtorEq, and_false, exists_false, or_false,
          List.mem_singleton, Message.reply.injEq] at hmem
        rcases hmem with hmem | ⟨rfl, rfl, -, -⟩
        · exact h.keyed id' key turn body' hmem
        · exact ⟨q, hwaiting, rfl⟩
      · intro id' q' hmem
        exact h.waiting id' q' (by simp only [hqueue, List.mem_cons]; exact .inr hmem)
      · show (List.filterMap Message.turnOf? (c.log ++ ds.map Message.state ++ [_]) ++ _).Pairwise _
        rw [List.filterMap_append, List.filterMap_append, filterMap_turnOf?_state]
        simpa [List.filterMap_cons, Message.turnOf?] using hinTurn

/-- Every event keeps it so. -/
theorem AnsweredOnce.step (h : AnsweredOnce d.control c) (event : ControlEvent) :
    AnsweredOnce d.control (c.step d event) := by
  cases event with
  | ask q fails => exact h.ask q fails
  | turn env =>
      simp only [ControlLoop.step]
      split
      · exact h
      · exact h.turn env
  | service event =>
      simp only [ControlLoop.step]
      split
      · exact h
      · rw [serve, publish_eq]
        exact h.frame rfl rfl _ rfl
  | playback event => exact h.frame rfl rfl [] (by simp [ControlLoop.step])
  | announce =>
      simp only [ControlLoop.step]
      split
      · exact h
      · rw [publish_eq]
        exact h.frame rfl rfl _ rfl

end ControlLoop

end CamDriver
