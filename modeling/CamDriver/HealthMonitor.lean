import CamDriver.HealthReport
import CamDriver.Lib.Machine
import CamDriver.Lib.Rounding
import Mathlib.Data.NNRat.Defs
import Mathlib.Data.Rat.Floor

/-!
# CamDriver.HealthMonitor

`HealthMonitor.poll_once` and `latest`, with the snapshots they give and the clock.

A poll asks the providers one after the other, each for as long as it takes, and then
publishes; the latest snapshot may be read at any time, also while a poll is under way.  A
publication remembers the reports it was made of and what the monitor had on record.
-/

namespace CamDriver

/-! ## Ages -/

/-- `round(x, 3)`. -/
def round3 (x : ℚ) : ℚ := roundHalfEven (x * 1000) / 1000

/-- `values["health.sample_age_s"]`. -/
def sampleAge (values : HealthValues) : ℚ :=
  ((values.lookup "health.sample_age_s").bind HealthValue.numeric).getD 0

/-- An age among the values. -/
def HealthValue.ofAge (age : ℚ) : HealthValue := .float (.finite age)

/-! ## The monitor -/

structure HealthProvider where
  name : String
  components : List String
deriving DecidableEq, Repr

/-- How a provider's `poll` ends. -/
inductive PollOutcome where
  | delivered (rs : List HealthReport)
  /-- an exception, `ObservationUnavailable` or another -/
  | raised (error : String) (unavailable : Bool)

/-- A monitor as it is built; a provider is known by its name. -/
structure MonitorSetup where
  providers : List HealthProvider
  distinct : (providers.map HealthProvider.name).Nodup
  service : String
  instanceName : String
  limits : HealthLimits
  intervalS : ℚ
  staleAfterS : ℚ
  publisherId : String
  text : NumberText

/-- `_last_ok`, `_last_reports` and `_sample_ids`, by the names of the providers. -/
structure MonitorRecords where
  lastOk : String → Option ℚ
  lastReports : String → Option (List HealthReport)
  sampleIds : String → Option String

/-- `_last_reports.get(name, [])`. -/
def MonitorRecords.previous (records : MonitorRecords) (name : String) : List HealthReport :=
  (records.lastReports name).getD []

/-- A report of the poll under way, with its `reported_at`. -/
structure SampledReport where
  provider : String
  report : HealthReport
  reportedAt : ℚ

/-- A poll: the providers that have not answered, and the reports of the others. -/
structure HealthPoll where
  left : List HealthProvider
  observed : List SampledReport

structure HealthSnapshot where
  service : String
  instanceName : String
  stampUnixNs : Int
  level : HealthLevel
  status : List StatusEntry

/-- `_latest` and `_latest_at`. -/
structure HealthPublication where
  snapshot : HealthSnapshot
  latestAt : ℚ
  /-- the reports the snapshot was made of -/
  observed : List SampledReport
  /-- the records at that time -/
  records : MonitorRecords

/-- The clock and the attributes of a monitor. -/
structure MonitorRun where
  now : ℚ
  records : MonitorRecords
  startedT : Option ℚ
  sequence : Nat
  poll : Option HealthPoll
  latest : Option HealthPublication

/-- What a step is about. -/
inductive MonitorAction where
  /-- `poll_once` is called -/
  | poll
  /-- the next provider answers -/
  | answer (outcome : PollOutcome)
  | publish (wallNs : Int)
  /-- the poll is given up: the stop event is set -/
  | discard

/-- A step, some time after the step before. -/
structure MonitorStep where
  after : ℚ≥0
  action : MonitorAction

/-! ## A provider's answer -/

/-- What the monitor makes of an answer. -/
structure Observation where
  records : MonitorRecords
  age : ℚ
  availability : String
  reports : List HealthReport

/-- A delivery goes on record. -/
def MonitorRecords.remember (records : MonitorRecords) (name : String) (now : ℚ)
    (rs : List HealthReport) (sampleId : String) : MonitorRecords where
  lastOk := Function.update records.lastOk name (some now)
  lastReports := Function.update records.lastReports name (some rs)
  sampleIds := Function.update records.sampleIds name (some sampleId)

/-- The level of a report with its limits. -/
def HealthReport.knownLevel (setup : MonitorSetup) (r : HealthReport) : HealthLevel :=
  max r.level (evaluateLimits setup.text setup.limits r.values).1

/-- A report of before, for a provider that raises. -/
def HealthReport.retained (setup : MonitorSetup) (silent : ℚ) (error : String) (stale : Bool)
    (r : HealthReport) : HealthReport where
  component := r.component
  level := if stale then .stale else r.level
  message := if stale then s!"no data for {setup.text.whole silent}s: {error}" else r.message
  hardwareId := r.hardwareId
  values := (r.values.insert "health.error" (.str error)).insert "health.last_level"
    (.ofLevel (r.knownLevel setup))

/-- The report of a component, for a provider that raises and has nothing on record. -/
def HealthReport.absent (setup : MonitorSetup) (silent : ℚ) (error component : String) :
    HealthReport where
  component := component
  level := .stale
  message := s!"no data for {setup.text.whole silent}s: {error}"
  hardwareId := ""
  values := AList.insert "health.error" (.str error) ∅

/-- The `try` of `poll_once`. -/
def MonitorRecords.observe (records : MonitorRecords) (setup : MonitorSetup) (startedT now : ℚ)
    (sequence : Nat) (p : HealthProvider) : PollOutcome → Observation
  | .delivered rs =>
    { records := records.remember p.name now rs s!"{setup.publisherId}:{p.name}:{sequence}"
      age := 0
      availability := "current"
      reports := rs }
  | .raised error unavailable =>
    let silent := now - (records.lastOk p.name).getD startedT
    let previous := records.previous p.name
    let stale := unavailable || setup.staleAfterS ≤ silent || previous.isEmpty
    { records
      age := silent
      availability := if stale then "stale" else "retrying"
      reports :=
        if previous.isEmpty then p.components.map (HealthReport.absent setup silent error)
        else previous.map (HealthReport.retained setup silent error stale) }

/-- The values the monitor puts into every report. -/
def HealthReport.decorated (setup : MonitorSetup) (sequence : Nat) (sampleId : String) (age : ℚ)
    (availability : String) (r : HealthReport) : HealthReport :=
  { r with
    values := ((((((r.values.insert "health.publisher_id" (.str setup.publisherId)).insert
      "health.sequence" (.int sequence)).insert
      "health.sample_id" (.str sampleId)).insert
      "health.sample_age_s" (.ofAge (round3 age))).insert
      "health.stale_after_s" (.ofAge setup.staleAfterS)).insert
      "health.publish_interval_s" (.ofAge setup.intervalS)).insert
      "health.availability" (.str (if r.level ≠ .stale then availability else "stale")) }

/-- An observation's reports, decorated. -/
def Observation.decorated (setup : MonitorSetup) (sequence : Nat) (p : HealthProvider)
    (found : Observation) : List HealthReport :=
  found.reports.map (HealthReport.decorated setup sequence
    ((found.records.sampleIds p.name).getD "") found.age found.availability)

/-- What an observation adds to `reports` and `reported_at`. -/
def Observation.observed (setup : MonitorSetup) (sequence : Nat) (p : HealthProvider) (now : ℚ)
    (found : Observation) : List SampledReport :=
  (found.decorated setup sequence p).map fun report =>
    { provider := p.name, report, reportedAt := now }

/-! ## Publishing -/

/-- The age of a report's sample at the time of publication. -/
def SampledReport.ageAt (publishedAt : ℚ) (o : SampledReport) : ℚ :=
  sampleAge o.report.values + max 0 (publishedAt - o.reportedAt)

/-- A report as it is published. -/
def SampledReport.published (setup : MonitorSetup) (publishedAt : ℚ) (o : SampledReport) :
    HealthReport :=
  let age := o.ageAt publishedAt
  let values := o.report.values.insert "health.sample_age_s" (.ofAge (round3 age))
  if setup.staleAfterS ≤ age then
    { o.report with
      level := .stale
      values :=
        (if o.report.level ≠ .stale then
          values.insert "health.last_level" (.ofLevel
            (HealthReport.knownLevel setup { o.report with values }))
        else values).insert "health.availability" (.str "stale") }
  else { o.report with values }

/-- `build_snapshot`. -/
def buildSnapshot (setup : MonitorSetup) (stampUnixNs : Int) (status : List StatusEntry) :
    HealthSnapshot where
  service := setup.service
  instanceName := setup.instanceName
  stampUnixNs := stampUnixNs
  level := HealthLevel.worst (status.map StatusEntry.level)
  status := status

/-- An entry, some time after its publication. -/
def StatusEntry.aged (setup : MonitorSetup) (elapsed : ℚ) (row : StatusEntry) : StatusEntry :=
  let age := round3 (sampleAge row.values + elapsed)
  let values := row.values.insert "health.sample_age_s" (.ofAge age)
  if setup.staleAfterS ≤ age then
    { row with
      level := .stale
      values :=
        (if row.level ≠ .stale then values.insert "health.last_level" (.ofLevel row.level)
        else values).insert "health.availability" (.str "stale") }
  else { row with values }

/-- `_aged_latest`, read at the time `now`. -/
def HealthPublication.aged (setup : MonitorSetup) (now : ℚ) (pub : HealthPublication) :
    HealthSnapshot :=
  let status := pub.snapshot.status.map (StatusEntry.aged setup (max 0 (now - pub.latestAt)))
  { pub.snapshot with status, level := HealthLevel.worst (status.map StatusEntry.level) }

/-! ## The monitor's own keys -/

/-- The keys the monitor writes. -/
def monitorKeys : List String :=
  ["health.publisher_id", "health.sequence", "health.sample_id", "health.sample_age_s",
    "health.stale_after_s", "health.publish_interval_s", "health.availability", "health.error",
    "health.last_level"]

section Keys

variable {setup : MonitorSetup} {key : String}

/-- A value that is not the monitor's own is retained as it is. -/
theorem lookup_retained (hkey : key ∉ monitorKeys) {silent : ℚ} {error : String} {stale : Bool}
    {r : HealthReport} :
    (r.retained setup silent error stale).values.lookup key = r.values.lookup key := by
  simp only [monitorKeys, List.mem_cons, not_or] at hkey
  simp [HealthReport.retained, AList.lookup_insert_ne, hkey]

/-- It is absent with its component. -/
theorem lookup_absent (hkey : key ∉ monitorKeys) {silent : ℚ} {error component : String} :
    (HealthReport.absent setup silent error component).values.lookup key = none := by
  simp only [monitorKeys, List.mem_cons, not_or] at hkey
  rw [HealthReport.absent, AList.lookup_insert_ne hkey.2.2.2.2.2.2.2.1, AList.lookup_empty]

/-- It is not decorated. -/
theorem lookup_decorated (hkey : key ∉ monitorKeys) {sequence : Nat} {sampleId : String}
    {age : ℚ} {availability : String} {r : HealthReport} :
    (r.decorated setup sequence sampleId age availability).values.lookup key =
      r.values.lookup key := by
  simp only [monitorKeys, List.mem_cons, not_or] at hkey
  simp [HealthReport.decorated, AList.lookup_insert_ne, hkey]

/-- It is published as it is. -/
theorem lookup_published (hkey : key ∉ monitorKeys) {publishedAt : ℚ} {o : SampledReport} :
    (o.published setup publishedAt).values.lookup key = o.report.values.lookup key := by
  simp only [monitorKeys, List.mem_cons, not_or] at hkey
  simp only [SampledReport.published]
  split
  · split <;> simp [AList.lookup_insert_ne, hkey]
  · simp [AList.lookup_insert_ne, hkey]

@[simp] theorem component_published {publishedAt : ℚ} {o : SampledReport} :
    (o.published setup publishedAt).component = o.report.component := by
  rw [SampledReport.published]
  split <;> rfl

end Keys

/-! ## The providers of a poll -/

/-- Those that have not answered are the last ones, and none of them has a report. -/
structure HealthPoll.Queued (setup : MonitorSetup) (poll : HealthPoll) : Prop where
  suffix : poll.left <:+ setup.providers
  asked : ∀ o ∈ poll.observed, ∀ p ∈ poll.left, o.provider ≠ p.name

section Queue

variable {setup : MonitorSetup} {p : HealthProvider} {left : List HealthProvider}
  {observed : List SampledReport}

/-- A poll that has asked nobody. -/
theorem queued_begun : HealthPoll.Queued setup { left := setup.providers, observed := [] } where
  suffix := List.suffix_rfl
  asked _ ho := absurd ho List.not_mem_nil

/-- What is observed of a provider: its reports, decorated. -/
theorem mem_observed {found : Observation} {sequence : Nat} {now : ℚ} {o : SampledReport} :
    o ∈ found.observed setup sequence p now ↔
      o.provider = p.name ∧ o.reportedAt = now ∧ o.report ∈ found.decorated setup sequence p := by
  rw [Observation.observed, List.mem_map]
  constructor
  · rintro ⟨r, hr, rfl⟩
    exact ⟨rfl, rfl, hr⟩
  · rintro ⟨hprovider, hat, hr⟩
    exact ⟨o.report, hr, by rw [← hprovider, ← hat]⟩

/-- The next provider is another one than those that have answered or are left. -/
theorem HealthPoll.Queued.name_ne (h : Queued setup { left := p :: left, observed })
    {p' : HealthProvider} (hp' : p' ∈ left) : p.name ≠ p'.name := by
  have hnodup := (h.suffix.map HealthProvider.name).sublist.nodup setup.distinct
  rw [List.map_cons, List.nodup_cons] at hnodup
  exact fun hname => hnodup.1 (hname ▸ List.mem_map_of_mem hp')

theorem HealthPoll.Queued.answered (h : Queued setup { left := p :: left, observed })
    (found : Observation) (sequence : Nat) (now : ℚ) :
    Queued setup { left, observed := observed ++ found.observed setup sequence p now } where
  suffix := (List.suffix_cons p left).trans h.suffix
  asked o ho p' hp' := by
    obtain ho | ho := List.mem_append.mp ho
    · exact h.asked o ho p' (.tail p hp')
    · rw [(mem_observed.mp ho).1]
      exact h.name_ne hp'

end Queue

/-! ## The run -/

namespace MonitorRun

/-- A new monitor; the clock may show anything. -/
def init (now : ℚ) : MonitorRun where
  now := now
  records := ⟨fun _ => none, fun _ => none, fun _ => none⟩
  startedT := none
  sequence := 0
  poll := none
  latest := none

/-- `poll_once` as far as the loop. -/
def begun (setup : MonitorSetup) (s : MonitorRun) (now : ℚ) : MonitorRun :=
  { s with
    now
    startedT := some (s.startedT.getD now)
    sequence := s.sequence + 1
    poll := some { left := setup.providers, observed := [] } }

/-- One round of the loop over the providers. -/
def answered (setup : MonitorSetup) (s : MonitorRun) (now : ℚ) (p : HealthProvider)
    (left : List HealthProvider) (observed : List SampledReport) (outcome : PollOutcome) :
    MonitorRun :=
  let found := s.records.observe setup (s.startedT.getD now) now s.sequence p outcome
  { s with
    now
    records := found.records
    poll := some { left, observed := observed ++ found.observed setup s.sequence p now } }

/-- The rest of `poll_once`. -/
def published (setup : MonitorSetup) (s : MonitorRun) (publishedAt : ℚ)
    (observed : List SampledReport) (wallNs : Int) : MonitorRun :=
  { s with
    now := publishedAt
    poll := none
    latest := some
      { snapshot := buildSnapshot setup wallNs (merge setup.text setup.limits
          (observed.map (SampledReport.published setup publishedAt)))
        latestAt := publishedAt
        observed
        records := s.records } }

/-- A step; the steps of a poll are taken in turn. -/
def next (setup : MonitorSetup) (s : MonitorRun) (step : MonitorStep) : Option MonitorRun :=
  let now := s.now + step.after
  match step.action, s.poll with
  | .poll, none => some (s.begun setup now)
  | .answer outcome, some ⟨p :: left, observed⟩ =>
    some (s.answered setup now p left observed outcome)
  | .publish wallNs, some ⟨[], observed⟩ => some (s.published setup now observed wallNs)
  | .discard, some _ => some { s with now, poll := none }
  | _, _ => none

/-- What a step can be. -/
theorem next_cases {setup : MonitorSetup} {s s' : MonitorRun} {step : MonitorStep}
    (h : next setup s step = some s') :
    (step.action = .poll ∧ s.poll = none ∧ s' = s.begun setup (s.now + step.after)) ∨
    (∃ outcome p left observed, step.action = .answer outcome ∧
      s.poll = some ⟨p :: left, observed⟩ ∧
      s' = s.answered setup (s.now + step.after) p left observed outcome) ∨
    (∃ wallNs observed, step.action = .publish wallNs ∧ s.poll = some ⟨[], observed⟩ ∧
      s' = s.published setup (s.now + step.after) observed wallNs) ∨
    (step.action = .discard ∧ s' = { s with now := s.now + step.after, poll := none }) := by
  rw [next] at h
  split at h
  · next haction hpoll => exact .inl ⟨haction, hpoll, (Option.some.inj h).symm⟩
  · next outcome p left observed haction hpoll =>
      exact .inr (.inl ⟨outcome, p, left, observed, haction, hpoll, (Option.some.inj h).symm⟩)
  · next wallNs observed haction hpoll =>
      exact .inr (.inr (.inl ⟨wallNs, observed, haction, hpoll, (Option.some.inj h).symm⟩))
  · next haction hpoll => exact .inr (.inr (.inr ⟨haction, (Option.some.inj h).symm⟩))
  · cases h

end MonitorRun

/-! ## A pipeline and a camera -/

/-- The pipeline and a camera, both with something to say of the stream. -/
def cameraMonitor : MonitorSetup where
  providers := [⟨"pipeline", ["stream", "recording"]⟩, ⟨"genicam", ["camera"]⟩]
  distinct := by decide
  service := "camera-service"
  instanceName := "front"
  limits := resolveLimits
    [("temp.sensor_c", some ⟨some (.finite 60), some (.finite 80), none, none⟩)]
  intervalS := 1
  staleAfterS := 5
  publisherId := "monitor"
  text := {
    general := fun x =>
      match x with
      | .finite q => toString q.num
      | .posInf => "inf"
      | .negInf => "-inf"
      | .nan => "nan"
    whole := fun q => toString (roundHalfEven q) }

/-- The pipeline's report of the stream. -/
def streamReport : HealthReport where
  component := "stream"
  level := .ok
  message := "30 fps"
  hardwareId := ""
  values := AList.insert "fps.delivered" (.float (.finite 30)) ∅

/-- The camera's reports: the stream has lost packets, and the sensor is hot. -/
def cameraReports : List HealthReport :=
  [{ component := "stream"
     level := .warn
     message := "packets lost"
     hardwareId := "cam-1"
     values := AList.insert "packets.missing" (.int 3) ∅ },
   { component := "camera"
     level := .ok
     message := "ok"
     hardwareId := "cam-1"
     values := AList.insert "temp.sensor_c" (.float (.finite 90)) ∅ }]

end CamDriver
