import CamDriver.HealthMonitor

/-!
# CamDriver.HealthStale

What a stale entry says of its component: the worst level its providers last delivered,
their limits among it.

The monitor writes that level in four places.  `Stands` is what they share: every report of
a poll, live or stale, stands for one on record.
-/

namespace CamDriver

/-! ## What is known of a component -/

/-- The reports on record of a component. -/
def MonitorRecords.reportsOf (setup : MonitorSetup) (records : MonitorRecords)
    (component : String) : List HealthReport :=
  (setup.providers.flatMap fun p => records.previous p.name).filter fun r =>
    r.component = component

/-- The worst level the providers of a component last delivered, with the limits. -/
def MonitorRecords.knownLevel (setup : MonitorSetup) (records : MonitorRecords)
    (component : String) : HealthLevel :=
  HealthLevel.worst ((records.reportsOf setup component).map (HealthReport.knownLevel setup))

/-- A stale entry carries the level known. -/
def StatusEntry.CarriesKnown (setup : MonitorSetup) (records : MonitorRecords)
    (row : StatusEntry) : Prop :=
  row.level = .stale → row.values.lookup "health.last_level" =
    some (.ofLevel (records.knownLevel setup row.component))

/-- What a provider delivers: known levels under keys of its own, each of them once in a
component. -/
def Delivers (owner : String → String → String) (name : String) (rs : List HealthReport) : Prop :=
  (∀ r ∈ rs, r.level ≠ .stale ∧
    ∀ key ∈ r.values.keys, key ∉ monitorKeys ∧ owner r.component key = name) ∧
  rs.Pairwise fun r r' => r.component = r'.component → ∀ key ∈ r.values.keys, key ∉ r'.values.keys

instance (owner : String → String → String) (name : String) (rs : List HealthReport) :
    Decidable (Delivers owner name rs) :=
  inferInstanceAs (Decidable (_ ∧ _))

/-- What a provider delivers in a poll is its own. -/
def OwnAnswer (owner : String → String → String) : MonitorAction → Option HealthPoll → Prop
  | .answer (.delivered rs), some ⟨p :: _, _⟩ => Delivers owner p.name rs
  | _, _ => True

instance (owner : String → String → String) (action : MonitorAction) (poll : Option HealthPoll) :
    Decidable (OwnAnswer owner action poll) :=
  match action, poll with
  | .answer (.delivered _), some ⟨_ :: _, _⟩ => inferInstanceAs (Decidable (Delivers _ _ _))
  | .answer (.delivered _), some ⟨[], _⟩ => isTrue trivial
  | .answer (.delivered _), none => isTrue trivial
  | .answer (.raised _ _), _ => isTrue trivial
  | .poll, _ | .publish _, _ | .discard, _ => isTrue trivial

/-- The providers deliver their own. -/
def MonitorRun.Owned (owner : String → String → String) (s : MonitorRun) (step : MonitorStep) :
    Prop := OwnAnswer owner step.action s.poll

instance (owner : String → String → String) (s : MonitorRun) (step : MonitorStep) :
    Decidable (s.Owned owner step) :=
  inferInstanceAs (Decidable (OwnAnswer _ _ _))

/-! ## Standing for a report -/

/-- A report of a poll stands for one on record: it has its values and its level, or is
stale and knows the level. -/
structure Stands (setup : MonitorSetup) (base r : HealthReport) : Prop where
  component : r.component = base.component
  own : ∀ key ∉ monitorKeys, r.values.lookup key = base.values.lookup key
  live : r.level ≠ .stale → r.level = base.level
  stale : r.level = .stale → r.known.level? = some (base.knownLevel setup)

/-- No report: nothing is known. -/
def HealthReport.unknown (component : String) : HealthReport where
  component := component
  level := .ok
  message := ""
  hardwareId := ""
  values := ∅

section Stands

variable {setup : MonitorSetup} {base r : HealthReport}

/-- The configured limits are on the providers' own values. -/
def MonitorSetup.LimitsOwn (setup : MonitorSetup) : Prop :=
  ∀ limit ∈ setup.limits.entries, limit.1 ∉ monitorKeys

/-- A known level is not stale. -/
theorem knownLevel_ne_stale (h : r.level ≠ .stale) : r.knownLevel setup ≠ .stale := by
  rw [HealthLevel.ne_stale_iff] at h ⊢
  exact max_le h (evaluateLimits_le_error _ _ _)

/-- It depends on the level and on the values that are not the monitor's. -/
theorem knownLevel_congr (hlimits : setup.LimitsOwn) (hlevel : r.level = base.level)
    (hvalues : ∀ key ∉ monitorKeys, r.values.lookup key = base.values.lookup key) :
    r.knownLevel setup = base.knownLevel setup := by
  rw [HealthReport.knownLevel, HealthReport.knownLevel, hlevel,
    evaluateLimits_congr fun limit hlimit => hvalues limit.1 (hlimits limit hlimit)]

/-- A component that nobody knows counts as well. -/
theorem knownLevel_unknown (component : String) :
    (HealthReport.unknown component).knownLevel setup = .ok := by
  refine le_antisymm (max_le le_rfl ?_) (HealthLevel.ok_le _)
  exact evaluateLimits_le_iff.mpr fun limit _ => (limit.2.levelOf_none).le

/-- A report stands for itself. -/
theorem Stands.refl (h : r.level ≠ .stale) : Stands setup r r where
  component := rfl
  own _ _ := rfl
  live _ := rfl
  stale hstale := absurd hstale h

/-- A report that is retained stands for what it was. -/
theorem stands_retained (h : r.level ≠ .stale) {silent : ℚ} {error : String} {stale : Bool} :
    Stands setup r (r.retained setup silent error stale) where
  component := rfl
  own key hkey := lookup_retained hkey
  live hlive := by
    cases stale with
    | true => exact absurd rfl hlive
    | false => rfl
  stale hstale := by
    rw [HealthReport.known, if_neg (not_not.mpr hstale), HealthReport.retained,
      AList.lookup_insert, Option.getD_some,
      HealthValue.level?_ofLevel (knownLevel_ne_stale h)]

/-- One for an absent component stands for nothing known. -/
theorem stands_absent {silent : ℚ} {error component : String} :
    Stands setup (.unknown component) (.absent setup silent error component) where
  component := rfl
  own key hkey := lookup_absent hkey
  live hlive := absurd rfl hlive
  stale hstale := by
    rw [HealthReport.known, if_neg (not_not.mpr hstale), HealthReport.absent,
      AList.lookup_insert_ne (by decide), knownLevel_unknown]
    rfl

/-- What an entry tells of a stale component is its last level. -/
theorem known_congr {r' : HealthReport} (hlevel : r'.level = r.level)
    (hlast : r'.values.lookup "health.last_level" = r.values.lookup "health.last_level") :
    r'.known = r.known := by
  rw [HealthReport.known, HealthReport.known, hlevel, hlast]

/-- Decorating keeps the last level. -/
theorem Stands.decorated (h : Stands setup base r) {sequence : Nat} {sampleId : String} {age : ℚ}
    {availability : String} :
    Stands setup base (r.decorated setup sequence sampleId age availability) where
  component := h.component
  own key hkey := (lookup_decorated hkey).trans (h.own key hkey)
  live := h.live
  stale hstale := by
    have hknown : (r.decorated setup sequence sampleId age availability).known = r.known :=
      known_congr rfl (by simp [HealthReport.decorated, AList.lookup_insert_ne])
    rw [hknown, h.stale hstale]

/-- So does publishing, and a report that goes stale by it takes its level along. -/
theorem Stands.published (hlimits : setup.LimitsOwn) {o : SampledReport}
    (h : Stands setup base o.report) (publishedAt : ℚ) :
    Stands setup base (o.published setup publishedAt) where
  component := component_published.trans h.component
  own key hkey := (lookup_published hkey).trans (h.own key hkey)
  live hlive := by
    rw [SampledReport.published] at hlive ⊢
    split at hlive
    · exact absurd rfl hlive
    · next hyoung => rw [if_neg hyoung]; exact h.live hlive
  stale hstale := by
    by_cases hlevel : o.report.level = .stale
    · rw [known_congr (hstale.trans hlevel.symm), h.stale hlevel]
      rw [SampledReport.published]
      split <;> simp [hlevel, AList.lookup_insert_ne]
    · have hbase : base.level ≠ .stale := h.live hlevel ▸ hlevel
      rw [SampledReport.published] at hstale ⊢
      split at hstale
      · next hold =>
          rw [if_pos hold, HealthReport.known, if_neg (by simp), if_pos hlevel,
            AList.lookup_insert_ne (by decide), AList.lookup_insert, Option.getD_some,
            ← HealthValue.level?_ofLevel (knownLevel_ne_stale hbase)]
          refine congrArg (fun level => (HealthValue.ofLevel level).level?)
            (knownLevel_congr hlimits (h.live hlevel) fun key hkey => ?_)
          have hage : key ≠ "health.sample_age_s" := by
            rintro rfl
            exact hkey (by decide)
          rw [AList.lookup_insert_ne hage, h.own key hkey]
      · exact absurd hstale hlevel

/-! ## An entry and the reports on record -/

/-- What a report knows and its limits make up the level of the report it stands for. -/
theorem Stands.exists_known (hlimits : setup.LimitsOwn) (h : Stands setup base r) :
    ∃ level, r.known.level? = some level ∧
      max level (evaluateLimits setup.text setup.limits r.values).1 = base.knownLevel setup := by
  have hvalues : (evaluateLimits setup.text setup.limits r.values).1 =
      (evaluateLimits setup.text setup.limits base.values).1 :=
    evaluateLimits_congr fun limit hlimit => h.own limit.1 (hlimits limit hlimit)
  by_cases hlevel : r.level = .stale
  · refine ⟨_, h.stale hlevel, max_eq_left ?_⟩
    rw [hvalues]
    exact le_max_right _ _
  · refine ⟨r.level, ?_, ?_⟩
    · rw [HealthReport.known, if_pos hlevel, HealthValue.level?_ofLevel hlevel]
    · rw [hvalues, h.live hlevel, HealthReport.knownLevel]

/-- The level the reports of a component know together. -/
def knownTogether (setup : MonitorSetup) (rs : List HealthReport) : HealthLevel :=
  HealthLevel.worst ((evaluateLimits setup.text setup.limits (mergeValues rs)).1 ::
    rs.filterMap fun r => r.known.level?)

/-- A live entry is at the level its reports know. -/
theorem level_mergeComponent_of_live {rs : List HealthReport} {component : String}
    (h : (mergeComponent setup.text setup.limits component rs).level ≠ .stale) :
    (mergeComponent setup.text setup.limits component rs).level = knownTogether setup rs := by
  have hlive (r : HealthReport) (hr : r ∈ rs) : r.level ≠ .stale := fun hstale =>
    h (level_mergeComponent_eq_stale_iff.mpr ⟨r, hr, hstale⟩)
  have hknown : rs.filterMap (fun r => r.known.level?) = rs.map HealthReport.level := by
    rw [← List.filterMap_eq_map]
    refine List.filterMap_congr fun r hr => ?_
    rw [HealthReport.known, if_pos (hlive r hr), HealthValue.level?_ofLevel (hlive r hr),
      Function.comp_apply]
  rw [level_mergeComponent, knownTogether, hknown, max_comm]
  rfl

/-- **What the reports of a component know**: the worst level of those they stand for. -/
theorem knownTogether_eq (hlimits : setup.LimitsOwn) {rs : List HealthReport}
    {known : HealthLevel}
    (hapart : ∀ key ∉ monitorKeys, rs.Pairwise fun r r' => key ∈ r.values → key ∉ r'.values)
    (hstands : ∀ r ∈ rs, ∃ base, Stands setup base r ∧ base.knownLevel setup ≤ known)
    (hheard : ∀ a, (∀ r ∈ rs, ∀ base, Stands setup base r → base.knownLevel setup ≤ a) →
      known ≤ a) : knownTogether setup rs = known := by
  refine eq_of_forall_ge_iff fun a => ?_
  rw [knownTogether, HealthLevel.worst_le_iff, List.forall_mem_cons,
    evaluateLimits_mergeValues fun limit hlimit => hapart limit.1 (hlimits limit hlimit)]
  constructor
  · rintro ⟨hcrossed, hknown⟩
    refine hheard a fun r hr base hbase => ?_
    obtain ⟨level, hlevel, hmax⟩ := hbase.exists_known hlimits
    rw [← hmax]
    exact max_le (hknown level (List.mem_filterMap.mpr ⟨r, hr, hlevel⟩)) (hcrossed r hr)
  · intro hle
    have hreport (r : HealthReport) (hr : r ∈ rs) : ∃ level, r.known.level? = some level ∧
        max level (evaluateLimits setup.text setup.limits r.values).1 ≤ a := by
      obtain ⟨base, hbase, hbound⟩ := hstands r hr
      obtain ⟨level, hlevel, hmax⟩ := hbase.exists_known hlimits
      exact ⟨level, hlevel, hmax.trans_le (hbound.trans hle)⟩
    constructor
    · intro r hr
      obtain ⟨level, -, hmax⟩ := hreport r hr
      exact (le_max_right _ _).trans hmax
    · intro level hlevel
      obtain ⟨r, hr, hknown⟩ := List.mem_filterMap.mp hlevel
      obtain ⟨level', hlevel', hmax⟩ := hreport r hr
      obtain rfl := Option.some.inj (hlevel'.symm.trans hknown)
      exact (le_max_left _ _).trans hmax

end Stands

/-! ## What an answer adds -/

/-- Two reports of a component share no key of their own. -/
def HealthReport.Apart (r r' : HealthReport) : Prop :=
  r.component = r'.component → ∀ key ∉ monitorKeys, key ∈ r.values → key ∉ r'.values

section Answers

variable {setup : MonitorSetup} {owner : String → String → String}

/-- The values are those of the report it stands for. -/
theorem Stands.mem_iff {base r : HealthReport} (h : Stands setup base r) {key : String}
    (hkey : key ∉ monitorKeys) : key ∈ r.values ↔ key ∈ base.values := by
  rw [← AList.lookup_isSome, h.own key hkey, AList.lookup_isSome]

/-- Reports of different components stay apart. -/
theorem Stands.apart {base base' r r' : HealthReport} (h : Stands setup base r)
    (h' : Stands setup base' r') (hapart : base.Apart base') : r.Apart r' := by
  intro hcomponent key hkey hmem hmem'
  rw [h.component, h'.component] at hcomponent
  exact hapart hcomponent key hkey ((h.mem_iff hkey).mp hmem) ((h'.mem_iff hkey).mp hmem')

theorem Delivers.apart {name : String} {rs : List HealthReport} (h : Delivers owner name rs) :
    rs.Pairwise HealthReport.Apart :=
  h.2.imp fun hapart hcomponent key _ => hapart hcomponent key

/-- The reports for a provider stand for those on record, each for one of them. -/
structure Reports (setup : MonitorSetup) (previous reports : List HealthReport) : Prop where
  stands : ∀ r ∈ reports, ∃ base, Stands setup base r ∧
    (base ∈ previous ∨ ∃ component, base = .unknown component)
  heard : ∀ base ∈ previous, ∃ r ∈ reports, Stands setup base r
  apart : reports.Pairwise HealthReport.Apart

/-- A provider that fails stands by its last reports. -/
theorem reports_map {name : String} {previous : List HealthReport}
    (h : Delivers owner name previous) {f : HealthReport → HealthReport}
    (hf : ∀ r ∈ previous, Stands setup r (f r)) : Reports setup previous (previous.map f) where
  stands := by
    rw [List.forall_mem_map]
    exact fun r hr => ⟨r, hf r hr, .inl hr⟩
  heard base hbase := ⟨f base, List.mem_map_of_mem hbase, hf base hbase⟩
  apart := List.pairwise_map.mpr (h.apart.imp_of_mem fun hr hr' hapart =>
    (hf _ hr).apart (hf _ hr') hapart)

/-- One that never delivered tells its components as absent. -/
theorem reports_absent {silent : ℚ} {error : String} (components : List String) :
    Reports setup [] (components.map (HealthReport.absent setup silent error)) where
  stands := by
    rw [List.forall_mem_map]
    exact fun component _ => ⟨_, stands_absent, .inr ⟨component, rfl⟩⟩
  heard base hbase := absurd hbase List.not_mem_nil
  apart := List.pairwise_map.mpr (List.pairwise_of_forall fun component component' =>
    stands_absent.apart stands_absent fun _ key _ hmem => absurd hmem (AList.notMem_empty key))

/-- What the monitor adds changes no level. -/
theorem Reports.decorated {previous : List HealthReport} {found : Observation}
    (h : Reports setup previous found.reports) (sequence : Nat) (p : HealthProvider) :
    Reports setup previous (found.decorated setup sequence p) where
  stands := by
    rw [Observation.decorated, List.forall_mem_map]
    intro r hr
    obtain ⟨base, hbase, hprevious⟩ := h.stands r hr
    exact ⟨base, hbase.decorated, hprevious⟩
  heard base hbase := by
    obtain ⟨r, hr, hstands⟩ := h.heard base hbase
    exact ⟨_, List.mem_map_of_mem hr, hstands.decorated⟩
  apart := List.pairwise_map.mpr (h.apart.imp fun hapart hcomponent key hkey hmem hmem' => by
    rw [← AList.lookup_isSome, lookup_decorated hkey, AList.lookup_isSome] at hmem hmem'
    exact hapart hcomponent key hkey hmem hmem')

/-- A key of a report is its provider's. -/
theorem Reports.owned {name : String} {previous reports : List HealthReport}
    (h : Reports setup previous reports) (hprevious : Delivers owner name previous)
    {r : HealthReport} (hr : r ∈ reports) {key : String} (hkey : key ∉ monitorKeys)
    (hmem : key ∈ r.values) : owner r.component key = name := by
  obtain ⟨base, hbase, hbase'⟩ := h.stands r hr
  rw [hbase.mem_iff hkey] at hmem
  obtain hbase' | ⟨component, rfl⟩ := hbase'
  · rw [hbase.component]
    exact ((hprevious.1 base hbase').2 key hmem).2
  · exact absurd hmem (AList.notMem_empty key)

/-- An answer: a delivery goes on record, or the reports on record are used again. -/
structure Observation.Answers (setup : MonitorSetup) (owner : String → String → String)
    (records : MonitorRecords) (name : String) (found : Observation) : Prop where
  delivered : Delivers owner name (found.records.previous name)
  reports : Reports setup (found.records.previous name) found.reports
  others : ∀ other ≠ name, found.records.previous other = records.previous other

/-- A provider that is asked, however it ends. -/
theorem answers_observe {records : MonitorRecords} {startedT now : ℚ} {sequence : Nat}
    {p : HealthProvider} {outcome : PollOutcome}
    (hprevious : Delivers owner p.name (records.previous p.name))
    (houtcome : ∀ rs, outcome = .delivered rs → Delivers owner p.name rs) :
    (records.observe setup startedT now sequence p outcome).Answers setup owner records
      p.name := by
  cases outcome with
  | delivered rs =>
      have hrs := houtcome rs rfl
      have hremember : (records.remember p.name now rs
          s!"{setup.publisherId}:{p.name}:{sequence}").previous p.name = rs := by
        simp [MonitorRecords.previous, MonitorRecords.remember]
      constructor
      · simpa only [MonitorRecords.observe, hremember] using hrs
      · have hreports : Reports setup rs (rs.map id) :=
          reports_map hrs fun r hr => Stands.refl (hrs.1 r hr).1
        simpa only [MonitorRecords.observe, hremember, List.map_id] using hreports
      · intro other hother
        simp [MonitorRecords.observe, MonitorRecords.previous, MonitorRecords.remember, hother]
  | raised error unavailable =>
      constructor
      · exact hprevious
      · simp only [MonitorRecords.observe]
        split
        · next hempty =>
            rw [List.isEmpty_iff.mp hempty]
            exact reports_absent p.components
        · exact reports_map hprevious fun r hr => stands_retained (hprevious.1 r hr).1
      · exact fun _ _ => rfl

end Answers

/-! ## The run -/

/-- The reports of a poll stand for those on record of the providers that have answered. -/
structure PollKnown (setup : MonitorSetup) (owner : String → String → String)
    (records : MonitorRecords) (poll : HealthPoll) : Prop where
  queued : poll.Queued setup
  stands : ∀ o ∈ poll.observed, ∃ base, Stands setup base o.report ∧
    (base ∈ records.previous o.provider ∨ ∃ component, base = .unknown component)
  provider : ∀ o ∈ poll.observed, ∃ p ∈ setup.providers, o.provider = p.name
  heard : ∀ p ∈ setup.providers, p ∉ poll.left → ∀ base ∈ records.previous p.name,
    ∃ o ∈ poll.observed, Stands setup base o.report
  owned : ∀ o ∈ poll.observed, ∀ key ∉ monitorKeys, key ∈ o.report.values →
    owner o.report.component key = o.provider
  apart : poll.observed.Pairwise fun o o' => o.report.Apart o'.report

/-- An entry knows the level of its component. -/
def StatusEntry.Known (setup : MonitorSetup) (records : MonitorRecords) (row : StatusEntry) :
    Prop :=
  row.CarriesKnown setup records ∧
    (row.level ≠ .stale → row.level = records.knownLevel setup row.component)

namespace MonitorRun

/-- What holds in a run of providers that deliver their own. -/
structure Known (setup : MonitorSetup) (owner : String → String → String) (s : MonitorRun) :
    Prop where
  delivered : ∀ name, Delivers owner name (s.records.previous name)
  poll : ∀ poll, s.poll = some poll → PollKnown setup owner s.records poll
  latest : ∀ pub, s.latest = some pub →
    ∀ row ∈ pub.snapshot.status, row.Known setup pub.records

end MonitorRun

section Run

variable {setup : MonitorSetup} {owner : String → String → String}

/-- Nobody has been asked yet. -/
theorem pollKnown_begun {records : MonitorRecords} :
    PollKnown setup owner records { left := setup.providers, observed := [] } where
  queued := queued_begun
  stands _ ho := absurd ho List.not_mem_nil
  provider _ ho := absurd ho List.not_mem_nil
  heard _ hp hleft := absurd hp hleft
  owned _ ho := absurd ho List.not_mem_nil
  apart := .nil

/-- **Poll step**: the next provider answers. -/
theorem PollKnown.answered {records : MonitorRecords} {p : HealthProvider}
    {left : List HealthProvider} {observed : List SampledReport}
    (h : PollKnown setup owner records { left := p :: left, observed }) {found : Observation}
    (hfound : found.Answers setup owner records p.name) (sequence : Nat) (now : ℚ) :
    PollKnown setup owner found.records
      { left, observed := observed ++ found.observed setup sequence p now } := by
  have hp : p ∈ setup.providers := h.queued.suffix.mem (.head _)
  have hasked (o : SampledReport) (ho : o ∈ observed) : o.provider ≠ p.name :=
    h.queued.asked o ho p (.head _)
  have hreports := hfound.reports.decorated sequence p
  -- what was there stands for the same reports on record, those of the other providers
  have hkept (o : SampledReport) (ho : o ∈ observed) :
      found.records.previous o.provider = records.previous o.provider :=
    hfound.others o.provider (hasked o ho)
  have hnew {o : SampledReport} (ho : o ∈ found.observed setup sequence p now) :
      o.provider = p.name ∧ o.report ∈ found.decorated setup sequence p :=
    ⟨(mem_observed.mp ho).1, (mem_observed.mp ho).2.2⟩
  constructor
  · exact h.queued.answered found sequence now
  · intro o ho
    obtain ho | ho := List.mem_append.mp ho
    · rw [hkept o ho]
      exact h.stands o ho
    · rw [(hnew ho).1]
      exact hreports.stands o.report (hnew ho).2
  · intro o ho
    obtain ho | ho := List.mem_append.mp ho
    · exact h.provider o ho
    · exact ⟨p, hp, (hnew ho).1⟩
  · intro p' hp' hleft base hbase
    by_cases hname : p'.name = p.name
    · rw [hname] at hbase
      obtain ⟨r, hr, hstands⟩ := hreports.heard base hbase
      exact ⟨_, List.mem_append_right _ (List.mem_map_of_mem hr), hstands⟩
    · have hasks : p' ∉ p :: left := by
        rintro (_ | ⟨_, hmem⟩)
        · exact hname rfl
        · exact hleft hmem
      rw [hfound.others p'.name hname] at hbase
      obtain ⟨o, ho, hstands⟩ := h.heard p' hp' hasks base hbase
      exact ⟨o, List.mem_append_left _ ho, hstands⟩
  · intro o ho key hkey hmem
    obtain ho | ho := List.mem_append.mp ho
    · exact h.owned o ho key hkey hmem
    · rw [(hnew ho).1]
      exact hreports.owned hfound.delivered (hnew ho).2 hkey hmem
  · refine List.pairwise_append.mpr ⟨h.apart, List.pairwise_map.mpr hreports.apart, ?_⟩
    intro o ho o' ho' hcomponent key hkey hmem hmem'
    have howner := h.owned o ho key hkey hmem
    have howner' := hreports.owned hfound.delivered (hnew ho').2 hkey hmem'
    rw [hcomponent, howner'] at howner
    exact hasked o ho howner.symm

/-- A component is known at least as bad as each of its reports. -/
theorem MonitorRecords.le_knownLevel {records : MonitorRecords} {p : HealthProvider}
    (hp : p ∈ setup.providers) {base : HealthReport} (hbase : base ∈ records.previous p.name) :
    base.knownLevel setup ≤ records.knownLevel setup base.component :=
  HealthLevel.worst_le_iff.mp le_rfl _ (List.mem_map_of_mem (List.mem_filter.mpr
    ⟨List.mem_flatMap.mpr ⟨p, hp, hbase⟩, decide_eq_true rfl⟩))

/-- **What a publication says** of its components. -/
theorem PollKnown.merge (hlimits : setup.LimitsOwn) {records : MonitorRecords}
    {observed : List SampledReport}
    (h : PollKnown setup owner records { left := [], observed }) (publishedAt : ℚ) :
    ∀ row ∈ merge setup.text setup.limits
        (observed.map (SampledReport.published setup publishedAt)),
      row.Known setup records := by
  intro row hrow
  obtain ⟨r, hr, rfl⟩ := mem_merge.mp hrow
  generalize hrs : (observed.map (SampledReport.published setup publishedAt)).filter
    (fun r' => r'.component = r.component) = rs
  have hmem {r' : HealthReport} : r' ∈ rs ↔ ∃ o ∈ observed,
      o.published setup publishedAt = r' ∧ o.report.component = r.component := by
    simp only [← hrs, List.mem_filter, List.mem_map, decide_eq_true_iff]
    constructor
    · rintro ⟨⟨o, ho, rfl⟩, hcomponent⟩
      exact ⟨o, ho, rfl, component_published.symm.trans hcomponent⟩
    · rintro ⟨o, ho, rfl, hcomponent⟩
      exact ⟨⟨o, ho, rfl⟩, component_published.trans hcomponent⟩
  have hknown : knownTogether setup rs = records.knownLevel setup r.component := by
    apply knownTogether_eq hlimits
    · intro key hkey
      rw [← hrs, List.pairwise_filter, List.pairwise_map]
      refine h.apart.imp fun hapart hcomponent hcomponent' hmem hmem' => ?_
      rw [decide_eq_true_iff, component_published] at hcomponent hcomponent'
      rw [← AList.lookup_isSome, lookup_published hkey, AList.lookup_isSome] at hmem hmem'
      exact hapart (hcomponent.trans hcomponent'.symm) key hkey hmem hmem'
    · intro r' hr'
      obtain ⟨o, ho, rfl, hcomponent⟩ := hmem.mp hr'
      obtain ⟨base, hbase, hprevious⟩ := h.stands o ho
      refine ⟨base, hbase.published hlimits publishedAt, ?_⟩
      obtain hprevious | ⟨component, rfl⟩ := hprevious
      · obtain ⟨p, hp, hname⟩ := h.provider o ho
        rw [← hcomponent, hbase.component]
        exact MonitorRecords.le_knownLevel hp (hname ▸ hprevious)
      · rw [knownLevel_unknown]
        exact HealthLevel.ok_le _
    · intro a ha
      refine HealthLevel.worst_le_iff.mpr (List.forall_mem_map.mpr fun base hbase => ?_)
      obtain ⟨hbase, hcomponent⟩ := List.mem_filter.mp hbase
      obtain ⟨p, hp, hbase⟩ := List.mem_flatMap.mp hbase
      obtain ⟨o, ho, hstands⟩ := h.heard p hp List.not_mem_nil base hbase
      exact ha _ (hmem.mpr ⟨o, ho, rfl, hstands.component.trans (of_decide_eq_true hcomponent)⟩)
        base (hstands.published hlimits publishedAt)
  constructor
  · intro hstale
    rw [lastLevel_mergeComponent hstale, component_mergeComponent, ← hknown]
    rfl
  · intro hlive
    rw [level_mergeComponent_of_live hlive, component_mergeComponent, hknown]

/-- A late read ages the entries and takes their levels along. -/
theorem StatusEntry.Known.aged {records : MonitorRecords} {row : StatusEntry}
    (h : row.Known setup records) (elapsed : ℚ) :
    (row.aged setup elapsed).CarriesKnown setup records := by
  intro hstale
  by_cases hlevel : row.level = .stale
  · rw [StatusEntry.aged]
    split <;> simp [hlevel, AList.lookup_insert_ne, h.1 hlevel]
  · rw [StatusEntry.aged] at hstale ⊢
    split at hstale
    · next hold => simp [hold, hlevel, AList.lookup_insert_ne, ← h.2 hlevel]
    · exact absurd hstale hlevel

namespace MonitorRun

/-- A monitor that has asked nobody. -/
theorem known_init (now : ℚ) : (init now).Known setup owner where
  delivered name := by simp [init, MonitorRecords.previous, Delivers]
  poll _ hpoll := by cases hpoll
  latest _ hlatest := by cases hlatest

/-- **Step**: what the monitor knows stays so. -/
theorem known_next (hlimits : setup.LimitsOwn) {s s' : MonitorRun} {step : MonitorStep}
    (h : s.Known setup owner) (howned : s.Owned owner step) (hnext : next setup s step = some s') :
    s'.Known setup owner := by
  obtain ⟨-, -, rfl⟩ | ⟨outcome, p, left, observed, haction, hpoll, rfl⟩ |
    ⟨wallNs, observed, -, hpoll, rfl⟩ | ⟨-, rfl⟩ := next_cases hnext
  · refine ⟨h.delivered, fun poll hbegun => ?_, h.latest⟩
    obtain rfl := Option.some.inj hbegun
    exact pollKnown_begun
  · have houtcome (rs : List HealthReport) (hrs : outcome = .delivered rs) :
        Delivers owner p.name rs := by
      rw [Owned, haction, hpoll, hrs] at howned
      exact howned
    have hfound : (s.records.observe setup (s.startedT.getD (s.now + step.after))
        (s.now + step.after) s.sequence p outcome).Answers setup owner s.records p.name :=
      answers_observe (h.delivered p.name) houtcome
    refine ⟨fun name => ?_, fun poll hanswered => ?_, h.latest⟩
    · by_cases hname : name = p.name
      · exact hname ▸ hfound.delivered
      · exact (hfound.others name hname).symm ▸ h.delivered name
    · obtain rfl := Option.some.inj hanswered
      exact (h.poll _ hpoll).answered hfound s.sequence (s.now + step.after)
  · refine ⟨h.delivered, fun _ hnone => (by cases hnone), fun pub hpub => ?_⟩
    obtain rfl := Option.some.inj hpub
    exact (h.poll _ hpoll).merge hlimits (s.now + step.after)
  · exact ⟨h.delivered, fun _ hnone => (by cases hnone), h.latest⟩

/-- **Staleness hides no fault**: while the providers deliver their own, a stale entry
carries the worst level last delivered for its component, in the snapshot as it was
published and in every late read of it. -/
theorem carriesKnown_run (setup : MonitorSetup) (owner : String → String → String)
    (hlimits : setup.LimitsOwn) {now : ℚ} {steps : List MonitorStep} {s : MonitorRun}
    (hrun : Machine.exec (next setup) (init now) steps = some s)
    (howned : Machine.Along (next setup) (Owned owner) (init now) steps)
    {pub : HealthPublication} (hlatest : s.latest = some pub) :
    (∀ row ∈ pub.snapshot.status, row.CarriesKnown setup pub.records) ∧
      ∀ later, ∀ row ∈ (pub.aged setup later).status, row.CarriesKnown setup pub.records := by
  have h : s.Known setup owner := Machine.exec_inv_along
    (fun _ _ _ h howned hnext => known_next hlimits h howned hnext) (known_init now) howned hrun
  constructor
  · intro row hrow
    exact (h.latest pub hlatest row hrow).1
  · intro later row hrow
    obtain ⟨row', hrow', rfl⟩ := List.mem_map.mp hrow
    exact (h.latest pub hlatest row' hrow').aged _

end MonitorRun

end Run

/-! ## A camera that goes away -/

/-- The provider a key belongs to. -/
def cameraOwner (_component key : String) : String :=
  if key = "fps.delivered" then "pipeline" else "genicam"

namespace MonitorRun

/-- A poll, and one in which the camera is gone. -/
def cameraGone : List MonitorStep :=
  [⟨0, .poll⟩, ⟨0, .answer (.delivered [streamReport])⟩, ⟨1, .answer (.delivered cameraReports)⟩,
    ⟨0, .publish 0⟩, ⟨1, .poll⟩, ⟨0, .answer (.delivered [streamReport])⟩,
    ⟨0, .answer (.raised "lost" true)⟩, ⟨0, .publish 0⟩]

/-- Both components go stale, the one at `WARN` and the other at `ERROR`. -/
theorem carriesKnown_cameraGone : ∃ s pub,
    Machine.exec (next cameraMonitor) (init 0) cameraGone = some s ∧ s.latest = some pub ∧
    pub.snapshot.status.map (fun row => (row.component, row.level)) =
      [("stream", .stale), ("camera", .stale)] ∧
    (pub.records.knownLevel cameraMonitor "stream", pub.records.knownLevel cameraMonitor "camera") =
      (.warn, .error) ∧
    ∀ row ∈ pub.snapshot.status, row.CarriesKnown cameraMonitor pub.records := by
  have hrun : ((Machine.exec (next cameraMonitor) (init 0) cameraGone).bind latest).map (fun pub =>
      (pub.snapshot.status.map (fun row => (row.component, row.level)),
        pub.records.knownLevel cameraMonitor "stream",
        pub.records.knownLevel cameraMonitor "camera")) =
      some ([("stream", .stale), ("camera", .stale)], .warn, .error) := by
    decide +kernel
  obtain ⟨pub, hpub, hfacts⟩ := Option.map_eq_some_iff.mp hrun
  obtain ⟨s, hs, hlatest⟩ := Option.bind_eq_some_iff.mp hpub
  obtain ⟨hstatus, hknown⟩ := Prod.mk.inj hfacts
  refine ⟨s, pub, hs, hlatest, hstatus, hknown, ?_⟩
  have hlimits : cameraMonitor.LimitsOwn := by
    rw [MonitorSetup.LimitsOwn]
    decide +kernel
  exact (carriesKnown_run cameraMonitor cameraOwner hlimits hs (by decide +kernel) hlatest).1

end MonitorRun

end CamDriver
