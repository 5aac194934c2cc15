import Mathlib
import CamDriver.HealthMonitor

/-!
# CamDriver.SampleAge

When an entry that is not stale speaks for fresh samples only, in a snapshot as it is
published and in every later read of it.

An entry keeps the age of its first report, in milliseconds, and only that age is counted
on by a late read.  `OldestKept` is what the first report has to be for this to do.
-/

namespace CamDriver

/-! ## Rounding -/

/-- Rounding keeps the order. -/
theorem round3_mono : Monotone round3 := by
  intro x y hxy
  have hmono : (roundHalfEven (x * 1000) : ℚ) ≤ roundHalfEven (y * 1000) :=
    Int.cast_le.mpr (roundHalfEven_le (by linarith))
  exact div_le_div_of_nonneg_right hmono (by norm_num)

/-! ## Fresh samples -/

/-- The last successful sample of a provider is younger than `stale_after_s`. -/
def MonitorRecords.Fresh (setup : MonitorSetup) (records : MonitorRecords) (now : ℚ)
    (name : String) : Prop :=
  ∃ sampledAt, records.lastOk name = some sampledAt ∧ now - sampledAt < setup.staleAfterS

/-- Entries that are not stale have fresh samples of all who contribute to them. -/
def FreshEntries (setup : MonitorSetup) (records : MonitorRecords) (now : ℚ)
    (observed : List SampledReport) (status : List StatusEntry) : Prop :=
  ∀ row ∈ status, row.level ≠ .stale →
    ∀ o ∈ observed, o.report.component = row.component → records.Fresh setup now o.provider

/-- No stale sample reads as current: neither when the latest snapshot was published nor
at any time from now on. -/
structure MonitorRun.NoneStale (setup : MonitorSetup) (s : MonitorRun) : Prop where
  published : ∀ pub, s.latest = some pub →
    FreshEntries setup pub.records pub.latestAt pub.observed pub.snapshot.status
  read : ∀ pub, s.latest = some pub → ∀ now, s.now ≤ now →
    FreshEntries setup s.records now pub.observed (pub.aged setup now).status

/-! ## The condition -/

/-- The age of a provider's sample. -/
def MonitorRecords.age (records : MonitorRecords) (now : ℚ) (o : SampledReport) : ℚ :=
  now - (records.lastOk o.provider).getD now

/-- The age the monitor reckons with: in milliseconds up to the answer. -/
def MonitorRecords.roundedAge (records : MonitorRecords) (now : ℚ) (o : SampledReport) : ℚ :=
  round3 (records.age o.reportedAt o) + (now - o.reportedAt)

/-- Where all reports of a component are taken as current, they are, and the age of the first
of them will be over the limit as soon as another's. -/
def OldestKept (setup : MonitorSetup) (records : MonitorRecords) (now : ℚ) :
    List SampledReport → Prop
  | [] => True
  | first :: rest =>
    (∀ o ∈ first :: rest, o.report.level ≠ .stale ∧ records.roundedAge now o < setup.staleAfterS) →
      ∀ o ∈ first :: rest, records.age now o < setup.staleAfterS ∧
        setup.staleAfterS ≤
          round3 (round3 (records.roundedAge now first) + (setup.staleAfterS - records.age now o))

/-- A publication whose components all keep the oldest age. -/
def MonitorRun.KeepsOldest (setup : MonitorSetup) (s : MonitorRun) (step : MonitorStep) : Prop :=
  match step.action, s.poll with
  | .publish _, some ⟨[], observed⟩ =>
    ∀ o ∈ observed, OldestKept setup s.records (s.now + step.after)
      (observed.filter fun o' => o'.report.component = o.report.component)
  | _, _ => True

/-! ## Ages on record -/

section Ages

variable {setup : MonitorSetup}

@[simp] theorem sampleAge_insert (age : ℚ) (values : HealthValues) :
    sampleAge (values.insert "health.sample_age_s" (.ofAge age)) = age := by
  rw [sampleAge, AList.lookup_insert]
  rfl

/-- A live report has the age of its provider's last sample. -/
structure MonitorRecords.Dates (records : MonitorRecords) (o : SampledReport) : Prop where
  aged : "health.sample_age_s" ∈ o.report.values
  live : o.report.level ≠ .stale → ∃ sampledAt, records.lastOk o.provider = some sampledAt ∧
    sampleAge o.report.values = round3 (o.reportedAt - sampledAt)

/-- Samples are taken before they are reported on, and reports are on record with them. -/
structure MonitorRun.Dated (setup : MonitorSetup) (s : MonitorRun) : Prop where
  past : ∀ name sampledAt, s.records.lastOk name = some sampledAt → sampledAt ≤ s.now
  sampled : ∀ name, s.records.previous name ≠ [] → ∃ sampledAt,
    s.records.lastOk name = some sampledAt
  queued : ∀ poll, s.poll = some poll → poll.Queued setup
  observed : ∀ poll, s.poll = some poll → ∀ o ∈ poll.observed,
    o.reportedAt ≤ s.now ∧ s.records.Dates o

/-- A report that is published carries its age. -/
theorem lookup_age_decorated (sequence : Nat) (sampleId : String) (age : ℚ)
    (availability : String) (r : HealthReport) :
    (r.decorated setup sequence sampleId age availability).values.lookup "health.sample_age_s" =
      some (.ofAge (round3 age)) := by
  simp [HealthReport.decorated, AList.lookup_insert_ne]

/-- What an answer leaves on record. -/
structure Observation.Samples (records : MonitorRecords) (name : String) (now : ℚ)
    (found : Observation) : Prop where
  live : ∀ r ∈ found.reports, r.level ≠ .stale →
    ∃ sampledAt, found.records.lastOk name = some sampledAt ∧ found.age = now - sampledAt
  others : ∀ other ≠ name, found.records.lastOk other = records.lastOk other
  kept : ∀ other, found.records.lastOk other = some now ∨
    found.records.lastOk other = records.lastOk other
  sampled : ∀ other, found.records.previous other ≠ [] → found.records.lastOk other = none →
    records.previous other ≠ [] ∧ records.lastOk other = none

/-- A provider that is asked: its reports, with the time they were sampled at. -/
theorem samples_observe {records : MonitorRecords} {startedT now : ℚ} {sequence : Nat}
    {p : HealthProvider} {outcome : PollOutcome}
    (hsampled : records.previous p.name ≠ [] →
      ∃ sampledAt, records.lastOk p.name = some sampledAt) :
    (records.observe setup startedT now sequence p outcome).Samples records p.name now := by
  cases outcome with
  | delivered rs =>
      constructor
      · exact fun _ _ _ => ⟨now, by simp [MonitorRecords.observe, MonitorRecords.remember]⟩
      · intro other hother
        simp [MonitorRecords.observe, MonitorRecords.remember, hother]
      · intro other
        simp only [MonitorRecords.observe, MonitorRecords.remember, Function.update_apply]
        split
        · exact .inl rfl
        · exact .inr rfl
      · intro other hprevious hnone
        simp only [MonitorRecords.observe, MonitorRecords.remember, MonitorRecords.previous,
          Function.update_apply] at hprevious hnone
        grind [MonitorRecords.previous]
  | raised error unavailable =>
      refine ⟨fun r hr hlive => ?_, fun _ _ => rfl, fun _ => .inr rfl, fun _ h h' => ⟨h, h'⟩⟩
      simp only [MonitorRecords.observe] at hr ⊢
      split at hr
      · obtain ⟨component, -, rfl⟩ := List.mem_map.mp hr
        exact absurd rfl hlive
      · next hprevious =>
          obtain ⟨sampledAt, hat⟩ := hsampled fun h => hprevious (List.isEmpty_iff.mpr h)
          exact ⟨sampledAt, hat, by rw [hat, Option.getD_some]⟩

namespace MonitorRun

/-- A monitor that has asked nobody. -/
theorem dated_init (now : ℚ) : (init now).Dated setup where
  past _ _ h := by cases h
  sampled _ h := absurd rfl h
  queued _ h := by cases h
  observed _ h := by cases h

/-- A provider that answers is not one of those that have a report. -/
theorem Dated.answered {s : MonitorRun} {now : ℚ} {p : HealthProvider}
    {left : List HealthProvider} {observed : List SampledReport} (h : s.Dated setup)
    (hnow : s.now ≤ now) (hpoll : s.poll = some ⟨p :: left, observed⟩) (outcome : PollOutcome) :
    (s.answered setup now p left observed outcome).Dated setup := by
  have hqueued := h.queued _ hpoll
  have hfound : (s.records.observe setup (s.startedT.getD now) now s.sequence p outcome).Samples
      s.records p.name now := samples_observe (h.sampled p.name)
  constructor
  · intro name sampledAt hat
    obtain hnew | hkept := hfound.kept name
    · exact (Option.some.inj (hnew.symm.trans hat)).ge
    · exact (h.past name sampledAt (hkept.symm.trans hat)).trans hnow
  · intro name hprevious
    by_contra hnone
    have hnone : _ = none := Option.eq_none_iff_forall_ne_some.mpr fun sampledAt hat =>
      hnone ⟨sampledAt, hat⟩
    obtain ⟨hprevious', hnone'⟩ := hfound.sampled name hprevious hnone
    obtain ⟨sampledAt, hat⟩ := h.sampled name hprevious'
    rw [hnone'] at hat
    cases hat
  · intro poll hanswered
    obtain rfl := Option.some.inj hanswered
    exact hqueued.answered _ s.sequence now
  · intro poll hanswered o ho
    obtain rfl := Option.some.inj hanswered
    obtain ho | ho := List.mem_append.mp ho
    · obtain ⟨hreported, haged, hlive⟩ := h.observed _ hpoll o ho
      refine ⟨hreported.trans hnow, haged, fun hlevel => ?_⟩
      obtain ⟨sampledAt, hat, hage⟩ := hlive hlevel
      have hname : o.provider ≠ p.name := hqueued.asked o ho p (.head _)
      exact ⟨sampledAt, (hfound.others o.provider hname).trans hat, hage⟩
    · obtain ⟨hname, hreported, hr⟩ := mem_observed.mp ho
      obtain ⟨r, hr, hreport⟩ := List.mem_map.mp hr
      rw [← hname] at hfound
      refine ⟨hreported.le, ?_, fun hlevel => ?_⟩
      · rw [← hreport, ← AList.lookup_isSome, lookup_age_decorated, Option.isSome_some]
      · rw [← hreport] at hlevel ⊢
        obtain ⟨sampledAt, hat, hage⟩ := hfound.live r hr hlevel
        refine ⟨sampledAt, hat, ?_⟩
        rw [sampleAge, lookup_age_decorated, hage, hreported]
        rfl

/-- Any step; the clock does not go back. -/
theorem dated_next {s s' : MonitorRun} {step : MonitorStep} (h : s.Dated setup)
    (hnext : next setup s step = some s') : s'.Dated setup ∧ s.now ≤ s'.now := by
  have hnow : s.now ≤ s.now + step.after := le_add_of_nonneg_right step.after.2
  have hpast (name : String) (sampledAt : ℚ) (hat : s.records.lastOk name = some sampledAt) :
      sampledAt ≤ s.now + step.after := (h.past name sampledAt hat).trans hnow
  obtain ⟨-, -, rfl⟩ | ⟨outcome, p, left, observed, -, hpoll, rfl⟩ |
    ⟨wallNs, observed, -, hpoll, rfl⟩ | ⟨-, rfl⟩ := next_cases hnext
  · refine ⟨⟨hpast, h.sampled, fun poll hbegun => ?_, fun poll hbegun o ho => ?_⟩, hnow⟩
    · obtain rfl := Option.some.inj hbegun
      exact queued_begun
    · obtain rfl := Option.some.inj hbegun
      cases ho
  · exact ⟨h.answered hnow hpoll outcome, hnow⟩
  · exact ⟨⟨hpast, h.sampled, fun _ hnone => (by cases hnone), fun _ hnone => (by cases hnone)⟩,
      hnow⟩
  · exact ⟨⟨hpast, h.sampled, fun _ hnone => (by cases hnone), fun _ hnone => (by cases hnone)⟩,
      hnow⟩

end MonitorRun

/-! ## Publishing -/

/-- The entry of a component in a snapshot made of `observed`. -/
def entryOf (setup : MonitorSetup) (publishedAt : ℚ) (observed : List SampledReport)
    (component : String) : StatusEntry :=
  mergeComponent setup.text setup.limits component
    ((observed.filter fun o => o.report.component = component).map
      (SampledReport.published setup publishedAt))

/-- The entries of a publication, by the reports they are made of. -/
theorem mem_merge_published {publishedAt : ℚ} {observed : List SampledReport}
    {row : StatusEntry} : row ∈ merge setup.text setup.limits
        (observed.map (SampledReport.published setup publishedAt)) ↔
      ∃ o ∈ observed, entryOf setup publishedAt observed o.report.component = row := by
  simp only [mem_merge, entryOf, List.mem_map, exists_exists_and_eq_and, List.filter_map,
    Function.comp_def, component_published]

/-- The entries of a snapshot, as they are or aged. -/
theorem freshEntries_iff (setup : MonitorSetup) (records : MonitorRecords) (publishedAt now : ℚ)
    (observed : List SampledReport) {f : StatusEntry → StatusEntry}
    (hf : ∀ row, (f row).component = row.component) :
    FreshEntries setup records now observed ((merge setup.text setup.limits
        (observed.map (SampledReport.published setup publishedAt))).map f) ↔
      ∀ o ∈ observed, (f (entryOf setup publishedAt observed o.report.component)).level ≠ .stale →
        ∀ o' ∈ observed.filter fun o' => o'.report.component = o.report.component,
          records.Fresh setup now o'.provider := by
  simp only [FreshEntries, List.mem_map, mem_merge_published, List.mem_filter, decide_eq_true_iff]
  constructor
  · intro h o ho hlevel o' ho'
    refine h _ ⟨_, ⟨o, ho, rfl⟩, rfl⟩ hlevel o' ho'.1 ?_
    rw [hf, entryOf, component_mergeComponent]
    exact ho'.2
  · rintro h row ⟨_, ⟨o, ho, rfl⟩, rfl⟩ hlevel o' ho' hcomponent
    rw [hf, entryOf, component_mergeComponent] at hcomponent
    exact h o ho hlevel o' ⟨ho', hcomponent⟩

@[simp] theorem component_aged (setup : MonitorSetup) (elapsed : ℚ) (row : StatusEntry) :
    (row.aged setup elapsed).component = row.component := by
  rw [StatusEntry.aged]
  split <;> rfl

/-- A late read makes an entry stale by its own age. -/
theorem level_aged_ne_stale_iff {elapsed : ℚ} {row : StatusEntry} :
    (row.aged setup elapsed).level ≠ .stale ↔
      row.level ≠ .stale ∧ round3 (sampleAge row.values + elapsed) < setup.staleAfterS := by
  rw [StatusEntry.aged]
  split
  · next hold => simp [not_lt.mpr hold]
  · next hyoung => simp [not_le.mp hyoung]

/-- A publication makes a report stale by its own age. -/
theorem level_published_ne_stale_iff {publishedAt : ℚ} {o : SampledReport} :
    (o.published setup publishedAt).level ≠ .stale ↔
      o.report.level ≠ .stale ∧ o.ageAt publishedAt < setup.staleAfterS := by
  rw [SampledReport.published]
  split
  · next hold => simp [not_lt.mpr hold]
  · next hyoung => simp [not_le.mp hyoung]

/-- The entry of a component keeps the age of its first report. -/
theorem sampleAge_mergeComponent {publishedAt : ℚ} {component : String} {first : SampledReport}
    {rest : List SampledReport} :
    sampleAge (mergeComponent setup.text setup.limits component
      ((first :: rest).map (SampledReport.published setup publishedAt))).values =
        round3 (first.ageAt publishedAt) := by
  have hfirst : (first.published setup publishedAt).values.lookup "health.sample_age_s" =
      some (.ofAge (round3 (first.ageAt publishedAt))) := by
    rw [SampledReport.published]
    split
    · split <;> simp [AList.lookup_insert_ne]
    · simp
  have hmem : "health.sample_age_s" ∈ (first.published setup publishedAt).values := by
    rw [← AList.lookup_isSome, hfirst, Option.isSome_some]
  rw [sampleAge, lookup_mergeComponent (by decide) (by decide), List.map_cons,
    lookup_mergeValues_cons (by decide +kernel) hmem, hfirst]
  rfl

section Live

variable {records : MonitorRecords} {o : SampledReport} (h : records.Dates o)
  (hlive : o.report.level ≠ .stale)
include h hlive

/-- A report that is on record has the age that is on record. -/
theorem ageAt_of_live {publishedAt : ℚ} (hreported : o.reportedAt ≤ publishedAt) :
    o.ageAt publishedAt = records.roundedAge publishedAt o := by
  obtain ⟨sampledAt, hat, hage⟩ := h.live hlive
  rw [SampledReport.ageAt, MonitorRecords.roundedAge, MonitorRecords.age, hat, Option.getD_some,
    hage, max_eq_right (sub_nonneg.mpr hreported)]

/-- Its provider is fresh just while that age is below the bound. -/
theorem fresh_iff_of_live {now : ℚ} :
    records.Fresh setup now o.provider ↔ records.age now o < setup.staleAfterS := by
  obtain ⟨sampledAt, hat, -⟩ := h.live hlive
  simp [MonitorRecords.Fresh, MonitorRecords.age, hat]

/-- It ages with the clock. -/
theorem age_add_of_live (publishedAt elapsed : ℚ) :
    records.age (publishedAt + elapsed) o = records.age publishedAt o + elapsed := by
  obtain ⟨sampledAt, hat, -⟩ := h.live hlive
  simp only [MonitorRecords.age, hat, Option.getD_some]
  ring

end Live

/-- **One component**: its entry has fresh samples only, now and later, where it keeps the
oldest age. -/
theorem oldestKept_iff {records : MonitorRecords} {publishedAt : ℚ} {os : List SampledReport}
    {component : String}
    (hdates : ∀ o ∈ os, o.reportedAt ≤ publishedAt ∧ records.Dates o) {entry : StatusEntry}
    (hentry : entry = mergeComponent setup.text setup.limits component
      (os.map (SampledReport.published setup publishedAt))) :
    ((entry.level ≠ .stale → ∀ o ∈ os, records.Fresh setup publishedAt o.provider) ∧
      ∀ elapsed ≥ 0, (entry.aged setup elapsed).level ≠ .stale →
        ∀ o ∈ os, records.Fresh setup (publishedAt + elapsed) o.provider) ↔
      OldestKept setup records publishedAt os := by
  cases os with
  | nil => simp [OldestKept]
  | cons first rest =>
      have hage (o : SampledReport) (ho : o ∈ first :: rest) (hlive : o.report.level ≠ .stale) :
          o.ageAt publishedAt = records.roundedAge publishedAt o :=
        ageAt_of_live (hdates o ho).2 hlive (hdates o ho).1
      have hlevel : entry.level ≠ .stale ↔ ∀ o ∈ first :: rest, o.report.level ≠ .stale ∧
          records.roundedAge publishedAt o < setup.staleAfterS := by
        rw [hentry, ne_eq, level_mergeComponent_eq_stale_iff, not_exists]
        simp only [not_and, List.forall_mem_map, ← ne_eq, level_published_ne_stale_iff]
        exact forall₂_congr fun o ho => and_congr_right fun hlive => by rw [hage o ho hlive]
      by_cases hall : entry.level ≠ .stale
      · have hlive (o : SampledReport) (ho : o ∈ first :: rest) : o.report.level ≠ .stale :=
          (hlevel.mp hall o ho).1
        have hkept : sampleAge entry.values = round3 (records.roundedAge publishedAt first) := by
          rw [hentry, sampleAge_mergeComponent, hage first (.head _) (hlive first (.head _))]
        constructor
        · rintro ⟨hpublished, hread⟩ - o ho
          have hfresh := (fresh_iff_of_live (hdates o ho).2 (hlive o ho)).mp (hpublished hall o ho)
          refine ⟨hfresh, not_lt.mp fun hyoung => ?_⟩
          -- read when the sample is just over the limit
          have hlater := hread (setup.staleAfterS - records.age publishedAt o)
            (sub_nonneg.mpr hfresh.le)
            (level_aged_ne_stale_iff.mpr ⟨hall, by rwa [hkept]⟩) o ho
          rw [fresh_iff_of_live (hdates o ho).2 (hlive o ho),
            age_add_of_live (hdates o ho).2 (hlive o ho), add_sub_cancel] at hlater
          exact lt_irrefl _ hlater
        · intro hoc
          have hoc := hoc (hlevel.mp hall)
          refine ⟨fun _ o ho => ?_, fun elapsed _ haged o ho => ?_⟩
          · exact (fresh_iff_of_live (hdates o ho).2 (hlive o ho)).mpr (hoc o ho).1
          · obtain ⟨-, hyoung⟩ := level_aged_ne_stale_iff.mp haged
            rw [hkept] at hyoung
            rw [fresh_iff_of_live (hdates o ho).2 (hlive o ho),
              age_add_of_live (hdates o ho).2 (hlive o ho)]
            by_contra hold
            have hmono := round3_mono (add_le_add_right (sub_le_iff_le_add'.mpr (not_lt.mp hold))
              (round3 (records.roundedAge publishedAt first)))
            exact (((hoc o ho).2.trans hmono).trans_lt hyoung).false
      · simp only [OldestKept, level_aged_ne_stale_iff]
        rw [← hlevel]
        simp [hall]

/-- No stale sample reads as current in a publication, when it is made or later. -/
structure HealthPublication.NoneStale (setup : MonitorSetup) (pub : HealthPublication) : Prop where
  published : FreshEntries setup pub.records pub.latestAt pub.observed pub.snapshot.status
  read : ∀ now, pub.latestAt ≤ now →
    FreshEntries setup pub.records now pub.observed (pub.aged setup now).status

namespace MonitorRun

/-- **Publication**: it has no stale sample that reads as current where its components keep
the oldest age. -/
theorem noneStale_published_iff {s : MonitorRun} {publishedAt : ℚ}
    {observed : List SampledReport} (h : s.Dated setup) (hnow : s.now ≤ publishedAt)
    (hpoll : s.poll = some ⟨[], observed⟩) {wallNs : Int} {pub : HealthPublication}
    (hpub : (s.published setup publishedAt observed wallNs).latest = some pub) :
    pub.NoneStale setup ↔ ∀ o ∈ observed, OldestKept setup s.records publishedAt
      (observed.filter fun o' => o'.report.component = o.report.component) := by
  obtain rfl := Option.some.inj hpub
  have hdates (component : String) : ∀ o ∈ observed.filter fun o => o.report.component = component,
      o.reportedAt ≤ publishedAt ∧ s.records.Dates o := fun o ho =>
    have hobserved := h.observed _ hpoll o (List.mem_filter.mp ho).1
    ⟨hobserved.1.trans hnow, hobserved.2⟩
  have hone (o : SampledReport) := oldestKept_iff (hdates o.report.component)
    (rfl : entryOf setup publishedAt observed o.report.component = _)
  have hpublished := freshEntries_iff setup s.records publishedAt publishedAt observed
    (fun row => (rfl : (id row : StatusEntry).component = row.component))
  have hread (now : ℚ) := freshEntries_iff setup s.records publishedAt now observed
    (component_aged setup (max 0 (now - publishedAt)))
  rw [List.map_id] at hpublished
  constructor
  · intro hfresh o ho
    refine (hone o).mp ⟨hpublished.mp hfresh.published o ho, fun elapsed helapsed haged => ?_⟩
    have hlater := (hread (publishedAt + elapsed)).mp
      (hfresh.read _ (le_add_of_nonneg_right helapsed)) o ho
    rw [add_sub_cancel_left, max_eq_right helapsed] at hlater
    exact hlater haged
  · intro hoc
    refine ⟨hpublished.mpr fun o ho => ((hone o).mpr (hoc o ho)).1, fun now hlater => ?_⟩
    refine (hread now).mpr fun o ho haged => ?_
    have helapsed := sub_nonneg.mpr hlater
    rw [max_eq_right helapsed] at haged
    have hfresh := ((hone o).mpr (hoc o ho)).2 _ helapsed haged
    rwa [add_sub_cancel] at hfresh

/-- The latest publication is sound, and no sample on record is older than it was then. -/
structure Current (setup : MonitorSetup) (s : MonitorRun) : Prop where
  dated : s.Dated setup
  latest : ∀ pub, s.latest = some pub → pub.NoneStale setup ∧ pub.latestAt ≤ s.now ∧
    ∀ name sampledAt, pub.records.lastOk name = some sampledAt →
      ∃ later, s.records.lastOk name = some later ∧ sampledAt ≤ later

/-- What is published is not stale while it is current. -/
theorem Current.noneStale {s : MonitorRun} (h : s.Current setup) : s.NoneStale setup where
  published pub hpub := (h.latest pub hpub).1.published
  read pub hpub now hnow row hrow hlevel o ho hcomponent := by
    obtain ⟨hfresh, hlatest, hlater⟩ := h.latest pub hpub
    obtain ⟨sampledAt, hat, hyoung⟩ :=
      hfresh.read now (hlatest.trans hnow) row hrow hlevel o ho hcomponent
    obtain ⟨later, hlater, hle⟩ := hlater o.provider sampledAt hat
    exact ⟨later, hlater, (sub_le_sub_left hle now).trans_lt hyoung⟩

/-- The last success of a provider does not go back. -/
theorem lastOk_next {s s' : MonitorRun} {step : MonitorStep} (h : s.Dated setup)
    (hnext : next setup s step = some s') {name : String} {sampledAt : ℚ}
    (hat : s.records.lastOk name = some sampledAt) :
    ∃ later, s'.records.lastOk name = some later ∧ sampledAt ≤ later := by
  obtain ⟨-, -, rfl⟩ | ⟨outcome, p, left, observed, -, hpoll, rfl⟩ |
    ⟨wallNs, observed, -, hpoll, rfl⟩ | ⟨-, rfl⟩ := next_cases hnext
  · exact ⟨sampledAt, hat, le_rfl⟩
  · have hfound : (s.records.observe setup (s.startedT.getD (s.now + step.after))
        (s.now + step.after) s.sequence p outcome).Samples s.records p.name
        (s.now + step.after) := samples_observe (h.sampled p.name)
    obtain hnew | hkept := hfound.kept name
    · exact ⟨_, hnew, (h.past name sampledAt hat).trans (le_add_of_nonneg_right step.after.2)⟩
    · exact ⟨sampledAt, hkept.trans hat, le_rfl⟩
  · exact ⟨sampledAt, hat, le_rfl⟩
  · exact ⟨sampledAt, hat, le_rfl⟩

/-- A new publication is made by `publish`, in a poll that is over. -/
theorem latest_next {s s' : MonitorRun} {step : MonitorStep}
    (hnext : next setup s step = some s') : s'.latest = s.latest ∨
      ∃ wallNs observed, step.action = .publish wallNs ∧ s.poll = some ⟨[], observed⟩ ∧
        s' = s.published setup (s.now + step.after) observed wallNs := by
  obtain ⟨-, -, rfl⟩ | ⟨outcome, p, left, observed, -, hpoll, rfl⟩ |
    ⟨wallNs, observed, haction, hpoll, rfl⟩ | ⟨-, rfl⟩ := next_cases hnext
  · exact .inl rfl
  · exact .inl rfl
  · exact .inr ⟨wallNs, observed, haction, hpoll, rfl⟩
  · exact .inl rfl

/-- A step that keeps the oldest report current. -/
theorem current_next {s s' : MonitorRun} {step : MonitorStep} (h : s.Current setup)
    (hkeeps : s.KeepsOldest setup step) (hnext : next setup s step = some s') :
    s'.Current setup := by
  obtain ⟨hdated, hnow⟩ := dated_next h.dated hnext
  refine ⟨hdated, fun pub hpub => ?_⟩
  obtain hlatest | ⟨wallNs, observed, haction, hpoll, rfl⟩ := latest_next hnext
  · rw [hlatest] at hpub
    obtain ⟨hfresh, hlatest, hlater⟩ := h.latest pub hpub
    refine ⟨hfresh, hlatest.trans hnow, fun name sampledAt hat => ?_⟩
    obtain ⟨later, hlater, hle⟩ := hlater name sampledAt hat
    obtain ⟨later', hlater', hle'⟩ := lastOk_next h.dated hnext hlater
    exact ⟨later', hlater', hle.trans hle'⟩
  · rw [KeepsOldest, haction, hpoll] at hkeeps
    refine ⟨(noneStale_published_iff h.dated hnow hpoll hpub).mpr hkeeps, ?_⟩
    obtain rfl := Option.some.inj hpub
    exact ⟨le_rfl, fun name sampledAt hat => ⟨sampledAt, hat, le_rfl⟩⟩

/-- Nothing is published yet. -/
theorem current_init (now : ℚ) : (init now).Current setup where
  dated := dated_init now
  latest _ h := by cases h

/-- **Freshness**: in every state of a run no stale sample reads as current, if and only if
all components of all publications keep the oldest age. -/
theorem noneStale_iff_keepsOldest (setup : MonitorSetup) (now : ℚ) (steps : List MonitorStep) :
    (∀ before after s, steps = before ++ after →
      Machine.exec (next setup) (init now) before = some s → s.NoneStale setup) ↔
      Machine.Along (next setup) (KeepsOldest setup) (init now) steps := by
  rw [Machine.along_iff]
  constructor
  · intro h before step after s hsteps hrun
    have hdated : s.Dated setup :=
      Machine.exec_inv (fun _ _ _ h hnext => (dated_next h hnext).1) (dated_init now) hrun
    rw [KeepsOldest]
    split
    · next wallNs observed haction hpoll =>
        have hnext : next setup s step =
            some (s.published setup (s.now + step.after) observed wallNs) := by
          rw [next, haction, hpoll]
        have hrun' : Machine.exec (next setup) (init now) (before ++ [step]) =
            some (s.published setup (s.now + step.after) observed wallNs) := by
          rw [Machine.exec_append, hrun, Option.bind_some, Machine.exec_cons, hnext]
          rfl
        have hfresh := h (before ++ [step]) after _ (by rw [hsteps, List.append_assoc]; rfl) hrun'
        exact (noneStale_published_iff hdated (dated_next hdated hnext).2 hpoll rfl).mp
          ⟨hfresh.published _ rfl, hfresh.read _ rfl⟩
    · trivial
  · intro h before after s hsteps hrun
    have hbefore : Machine.Along (next setup) (KeepsOldest setup) (init now) before :=
      Machine.along_iff.mpr fun before' step rest t hbefore hrun =>
        h before' step (rest ++ after) t (by rw [hsteps, hbefore, List.append_assoc]; rfl) hrun
    exact (Machine.exec_inv_along (fun _ _ _ h hkeeps hnext => current_next h hkeeps hnext)
      (current_init now) hbefore hrun).noneStale

end MonitorRun

end Ages

namespace MonitorRun

/-- The camera answers once, and then there is an error; the pipeline answers both times. -/
def cameraSilent : List MonitorStep :=
  [⟨0, .poll⟩, ⟨0, .answer (.delivered [streamReport])⟩, ⟨0, .answer (.delivered cameraReports)⟩,
    ⟨0, .publish 0⟩, ⟨4, .poll⟩, ⟨0, .answer (.delivered [streamReport])⟩,
    ⟨0, .answer (.raised "timeout" false)⟩, ⟨0, .publish 0⟩]

/-- The stream's entry is read at 6 s as current, though the camera's sample is 6 s old. -/
theorem not_noneStale : ∃ s, Machine.exec (next cameraMonitor) (init 0) cameraSilent = some s ∧
    ¬ s.NoneStale cameraMonitor := by
  have hrun : (Machine.exec (next cameraMonitor) (init 0) cameraSilent).any (fun s =>
      s.now = 4 ∧ s.records.lastOk "genicam" = some 0 ∧ s.latest.any fun pub =>
        (∃ row ∈ (pub.aged cameraMonitor 6).status, row.component = "stream" ∧ row.level ≠ .stale) ∧
          ∃ o ∈ pub.observed, o.provider = "genicam" ∧ o.report.component = "stream") := by
    decide +kernel
  obtain ⟨s, hs, hfacts⟩ := (Option.any_eq_true _ _).mp hrun
  obtain ⟨hnow, hsample, hlatest⟩ := of_decide_eq_true hfacts
  obtain ⟨pub, hpub, hfacts⟩ := (Option.any_eq_true _ _).mp hlatest
  obtain ⟨⟨row, hrow, hstream, hlevel⟩, o, ho, hcamera, hcomponent⟩ := of_decide_eq_true hfacts
  refine ⟨s, hs, fun hfresh => ?_⟩
  obtain ⟨sampledAt, hat, hyoung⟩ := hfresh.read pub hpub 6 (by rw [hnow]; norm_num) row hrow
    hlevel o ho (hcomponent.trans hstream.symm)
  rw [hcamera, hsample] at hat
  obtain rfl := Option.some.inj hat
  exact absurd hyoung (by decide +kernel)

end MonitorRun

end CamDriver
