import CamDriver.Lib.FifoMap
import CamDriver.PlaybackRequest
import Mathlib.Data.List.AList
import Mathlib.Order.BoundedOrder.Basic

/-!
# CamDriver.HealthReport

The reports of the health providers, the configured limits, and `merge`, which makes one
status entry of the reports of a component.

Entries keep the first report's `health.*` values and the last report's other ones.
`evaluateLimits_mergeValues` says when the limits see every report's values all the same.
-/

namespace CamDriver

/-! ## Levels -/

/-- The levels of `DiagnosticStatus`. -/
inductive HealthLevel where
  | ok | warn | error | stale
deriving Repr

namespace HealthLevel

/-- The byte a level is sent as. -/
def byte : HealthLevel → Nat
  | ok => 0
  | warn => 1
  | error => 2
  | stale => 3

/-- The levels are told apart by their bytes. -/
theorem byte_injective : Function.Injective byte := by
  intro a b h
  cases a <;> cases b <;> first | rfl | cases h

instance : LinearOrder HealthLevel := LinearOrder.lift' byte byte_injective

instance : OrderBot HealthLevel where
  bot := ok
  bot_le level := Nat.zero_le level.byte

/-- `LEVEL_NAMES`. -/
def name : HealthLevel → String
  | ok => "OK"
  | warn => "WARN"
  | error => "ERROR"
  | stale => "STALE"

/-- `max(levels, default=OK)`. -/
def worst (levels : List HealthLevel) : HealthLevel := levels.foldr max ok

@[simp] theorem ok_le (level : HealthLevel) : ok ≤ level := bot_le

@[simp] theorem stale_le_iff {level : HealthLevel} : stale ≤ level ↔ level = stale := by
  cases level <;> decide

/-- Any level but stale is at most error. -/
theorem ne_stale_iff {level : HealthLevel} : level ≠ stale ↔ level ≤ error := by
  cases level <;> decide

/-- The worst of some levels is bounded if each of them is. -/
theorem worst_le_iff {levels : List HealthLevel} {a : HealthLevel} :
    worst levels ≤ a ↔ ∀ level ∈ levels, level ≤ a := by
  induction levels with
  | nil => simp [worst]
  | cons level levels ih => simpa [worst] using and_congr_right fun _ => ih

end HealthLevel

/-! ## Values -/

/-- What a provider may put under a key. -/
inductive HealthValue where
  | null
  | bool (b : Bool)
  | int (i : Int)
  | float (x : PyFloat)
  | str (s : String)
  /-- another object, by its text -/
  | other (text : String)
deriving DecidableEq, Repr

namespace HealthValue

/-- `_scalar`. -/
def scalar : HealthValue → HealthValue
  | float (.finite q) => float (.finite q)
  | float _ => null
  | other text => str text
  | v => v

/-- The number in a value that is `_numeric`. -/
def numeric : HealthValue → Option ℚ
  | int i => some i
  | float (.finite q) => some q
  | _ => none

/-- The level a value equals. -/
def level? : HealthValue → Option HealthLevel
  | int 0 | bool false | float (.finite 0) => some .ok
  | int 1 | bool true | float (.finite 1) => some .warn
  | int 2 | float (.finite 2) => some .error
  | _ => none

/-- A level among the values. -/
def ofLevel (level : HealthLevel) : HealthValue := int level.byte

@[simp] theorem numeric_scalar (v : HealthValue) : v.scalar.numeric = v.numeric := by
  cases v with
  | float x => cases x <;> rfl
  | _ => rfl

@[simp] theorem scalar_ofLevel (level : HealthLevel) : (ofLevel level).scalar = ofLevel level := rfl

/-- A level that is told in a value is read back. -/
theorem level?_ofLevel {level : HealthLevel} (h : level ≠ .stale) :
    (ofLevel level).level? = some level := by
  cases level <;> first | rfl | exact absurd rfl h

end HealthValue

/-- The values of a report or an entry. -/
abbrev HealthValues := AList fun _ : String => HealthValue

/-! ## Limits -/

/-- What a threshold bounds, in the order of the checks. -/
inductive LimitBound where
  | errorAbove | errorBelow | warnAbove | warnBelow
deriving DecidableEq, Repr

/-- A rule of `health.limits`. -/
structure LimitRule where
  warnAbove : Option PyFloat
  errorAbove : Option PyFloat
  warnBelow : Option PyFloat
  errorBelow : Option PyFloat
deriving DecidableEq, Repr

namespace LimitBound

def all : List LimitBound := [errorAbove, errorBelow, warnAbove, warnBelow]

def level : LimitBound → HealthLevel
  | errorAbove | errorBelow => .error
  | warnAbove | warnBelow => .warn

def sign : LimitBound → String
  | errorAbove | warnAbove => ">"
  | errorBelow | warnBelow => "<"

def threshold (rule : LimitRule) : LimitBound → Option PyFloat
  | errorAbove => rule.errorAbove
  | errorBelow => rule.errorBelow
  | warnAbove => rule.warnAbove
  | warnBelow => rule.warnBelow

/-- `crossed(x, t)`: no number compares with a nan. -/
def crossed (x : ℚ) (t : PyFloat) : LimitBound → Bool
  | errorAbove | warnAbove =>
    match t with
    | .finite q => q < x
    | .negInf => true
    | .posInf | .nan => false
  | errorBelow | warnBelow =>
    match t with
    | .finite q => x < q
    | .posInf => true
    | .negInf | .nan => false

end LimitBound

/-- The configured limits, in their order. -/
abbrev HealthLimits := FifoMap String LimitRule

/-- `DEFAULT_LIMITS`. -/
def defaultLimits : HealthLimits :=
  ⟨[("disk.free_pct", {
    warnAbove := none
    errorAbove := none
    warnBelow := some (.finite 10)
    errorBelow := some (.finite 2) })]⟩

/-- `resolve_limits`. -/
def resolveLimits (user : List (String × Option LimitRule)) : HealthLimits :=
  user.foldl (fun out item => out.set item.1 (item.2.getD ⟨none, none, none, none⟩)) defaultLimits

/-- How `format` writes numbers: with `g`, and with `.0f`. -/
structure NumberText where
  general : PyFloat → String
  whole : ℚ → String

namespace LimitRule

/-- The worst bound a number crosses, with its threshold. -/
def crossing (rule : LimitRule) (x : ℚ) : Option (LimitBound × PyFloat) :=
  LimitBound.all.findSome? fun bound =>
    ((bound.threshold rule).filter fun t => bound.crossed x t).map fun t => (bound, t)

/-- The level of what is under the rule's key. -/
def levelOf (rule : LimitRule) (v : Option HealthValue) : HealthLevel :=
  (((v.bind HealthValue.numeric).bind rule.crossing).map fun hit => hit.1.level).getD .ok

end LimitRule

/-- One round of the loop of `evaluate_limits`. -/
def evaluateLimit (text : NumberText) (values : HealthValues)
    (found : HealthLevel × List String) (limit : String × LimitRule) :
    HealthLevel × List String :=
  match (values.lookup limit.1).bind HealthValue.numeric with
  | none => found
  | some x =>
    match limit.2.crossing x with
    | none => found
    | some (bound, t) =>
      (max found.1 bound.level, found.2 ++
        [s!"{limit.1} {text.general (.finite x)} {bound.sign} {text.general t}"])

/-- `evaluate_limits`. -/
def evaluateLimits (text : NumberText) (limits : HealthLimits) (values : HealthValues) :
    HealthLevel × List String :=
  limits.entries.foldl (evaluateLimit text values) (.ok, [])

/-- A value that is not there breaks no limit. -/
theorem LimitRule.levelOf_none (rule : LimitRule) : rule.levelOf none = .ok := rfl

/-- Nor does it matter to a limit how a number is told. -/
theorem LimitRule.levelOf_scalar (rule : LimitRule) (v : HealthValue) :
    rule.levelOf (some v.scalar) = rule.levelOf (some v) := by
  simp [levelOf]

/-- A limit makes nothing stale. -/
theorem LimitRule.levelOf_le_error (rule : LimitRule) (v : Option HealthValue) :
    rule.levelOf v ≤ .error := by
  rw [levelOf]
  cases ((v.bind HealthValue.numeric).bind rule.crossing) with
  | none => simp
  | some hit =>
      change hit.1.level ≤ _
      cases hit.1 <;> decide

theorem evaluateLimit_le_iff {text : NumberText} {values : HealthValues}
    {found : HealthLevel × List String} {limit : String × LimitRule} {a : HealthLevel} :
    (evaluateLimit text values found limit).1 ≤ a ↔
      found.1 ≤ a ∧ limit.2.levelOf (values.lookup limit.1) ≤ a := by
  rw [evaluateLimit, LimitRule.levelOf]
  cases (values.lookup limit.1).bind HealthValue.numeric with
  | none => simp
  | some x => cases hhit : limit.2.crossing x <;> simp [hhit]

/-- The level of the limits is the worst of the single rules. -/
theorem evaluateLimits_le_iff {text : NumberText} {limits : HealthLimits}
    {values : HealthValues} {a : HealthLevel} :
    (evaluateLimits text limits values).1 ≤ a ↔
      ∀ limit ∈ limits.entries, limit.2.levelOf (values.lookup limit.1) ≤ a := by
  suffices h : ∀ (entries : List (String × LimitRule)) (found : HealthLevel × List String),
      (entries.foldl (evaluateLimit text values) found).1 ≤ a ↔
        found.1 ≤ a ∧ ∀ limit ∈ entries, limit.2.levelOf (values.lookup limit.1) ≤ a by
    rw [evaluateLimits, h, and_iff_right (HealthLevel.ok_le a)]
  intro entries
  induction entries with
  | nil => simp
  | cons limit entries ih =>
      intro found
      rw [List.foldl_cons, ih, evaluateLimit_le_iff, List.forall_mem_cons, and_assoc]

/-- So the limits make nothing stale. -/
theorem evaluateLimits_le_error (text : NumberText) (limits : HealthLimits)
    (values : HealthValues) : (evaluateLimits text limits values).1 ≤ .error :=
  evaluateLimits_le_iff.mpr fun limit _ => limit.2.levelOf_le_error _

/-- Limits only see what is under their keys. -/
theorem evaluateLimits_congr {text : NumberText} {limits : HealthLimits}
    {values values' : HealthValues}
    (h : ∀ limit ∈ limits.entries, values.lookup limit.1 = values'.lookup limit.1) :
    (evaluateLimits text limits values).1 = (evaluateLimits text limits values').1 :=
  eq_of_forall_ge_iff fun a => by
    rw [evaluateLimits_le_iff, evaluateLimits_le_iff]
    exact forall₂_congr fun limit hlimit => by rw [h limit hlimit]

/-! ## Merging -/

/-- A `Report` of a provider. -/
structure HealthReport where
  component : String
  level : HealthLevel
  message : String
  hardwareId : String
  values : HealthValues

/-- An entry of a snapshot's `status`; it is named by instance and component. -/
structure StatusEntry where
  component : String
  level : HealthLevel
  message : String
  hardwareId : String
  values : HealthValues

/-- `k.startswith("health.")`. -/
def isHealthKey (key : String) : Bool := "health.".toList.isPrefixOf key.toList

/-- A value of a report, put among those of its component. -/
def absorbValue (values : HealthValues) (item : Sigma fun _ : String => HealthValue) :
    HealthValues :=
  -- the primary component provider owns its observation metadata
  if isHealthKey item.1 ∧ item.1 ∈ values then values
  else values.insert item.1 item.2.scalar

/-- The values of a report, put among those of its component. -/
def absorb (values : HealthValues) (r : HealthReport) : HealthValues :=
  r.values.entries.foldl absorbValue values

/-- The values of the reports of a component. -/
def mergeValues (rs : List HealthReport) : HealthValues := rs.foldl absorb ∅

/-- The level a report stands for while its component is stale. -/
def HealthReport.known (r : HealthReport) : HealthValue :=
  if r.level ≠ .stale then .ofLevel r.level
  else (r.values.lookup "health.last_level").getD (.ofLevel .ok)

/-- The entry `merge` makes of the reports of a component. -/
def mergeComponent (text : NumberText) (limits : HealthLimits) (component : String)
    (rs : List HealthReport) : StatusEntry :=
  let values := mergeValues rs
  let level := HealthLevel.worst (rs.map HealthReport.level)
  let msgs := (rs.filter fun r => r.message ≠ "" ∧ r.level = level ∧ r.level ≠ .ok).map
    HealthReport.message
  let (limLevel, limMsgs) := evaluateLimits text limits values
  let (level, msgs) :=
    if level < limLevel then (limLevel, limMsgs ++ msgs)
    else if limLevel = level ∧ limMsgs ≠ [] then (level, msgs ++ limMsgs)
    else (level, msgs)
  let (values, msgs) :=
    if level = .stale then
      -- a missing provider must not hide another provider's fault
      ((values.insert "health.last_level" (.ofLevel
        (HealthLevel.worst (limLevel :: rs.filterMap fun r => r.known.level?)))).insert
          "health.availability" (.str "stale"),
        msgs ++ (rs.filter fun r => (r.level = .warn ∨ r.level = .error) ∧ r.message ≠ "").map
          HealthReport.message ++ limMsgs)
    else (values, msgs)
  let msgs :=
    if msgs = [] then
      [((rs.map HealthReport.message).find? fun m => m ≠ "").getD level.name]
    else msgs
  { component
    level
    message := "; ".intercalate msgs.eraseDups
    hardwareId := ((rs.map HealthReport.hardwareId).find? fun id => id ≠ "").getD ""
    values }

/-- `merge`: an entry for each component, in the order they are first seen. -/
def merge (text : NumberText) (limits : HealthLimits) (reports : List HealthReport) :
    List StatusEntry :=
  (reports.map HealthReport.component).eraseDups.map fun component =>
    mergeComponent text limits component (reports.filter fun r => r.component = component)

/-! ## What an entry says -/

/-- A value that is absorbed, by its key. -/
theorem lookup_absorbValue (values : HealthValues)
    (item : Sigma fun _ : String => HealthValue) (key : String) :
    (absorbValue values item).lookup key =
      if item.1 = key ∧ ¬ (isHealthKey key ∧ key ∈ values) then some item.2.scalar
      else values.lookup key := by
  rw [absorbValue]
  by_cases hkey : item.1 = key
  · subst hkey
    split
    · next h => simp [h]
    · next h => simp [h]
  · split
    · simp [hkey]
    · simp [hkey, AList.lookup_insert_ne (Ne.symm hkey)]

/-- Several, of which a key is told by one. -/
theorem lookup_foldl_absorbValue {key : String} {items : List (Sigma fun _ : String => HealthValue)}
    (hitems : items.NodupKeys) (values : HealthValues) :
    (items.foldl absorbValue values).lookup key =
      if isHealthKey key ∧ key ∈ values then values.lookup key
      else ((items.dlookup key).map HealthValue.scalar).or (values.lookup key) := by
  induction items generalizing values with
  | nil => simp
  | cons item items ih =>
      obtain ⟨hnotMem, hitems⟩ := List.nodupKeys_cons.mp hitems
      rw [List.foldl_cons, ih hitems]
      simp only [← AList.lookup_isSome, lookup_absorbValue]
      by_cases hkey : item.1 = key
      · subst hkey
        rw [List.dlookup_eq_none.mpr hnotMem, List.dlookup_cons_eq]
        grind
      · rw [List.dlookup_cons_ne _ _ (Ne.symm hkey)]
        simp [hkey]

/-- A report's value takes the place of the one there, unless it is a `health.*` value. -/
theorem lookup_absorb {values : HealthValues} {r : HealthReport} {key : String} :
    (absorb values r).lookup key =
      if isHealthKey key ∧ key ∈ values then values.lookup key
      else ((r.values.lookup key).map HealthValue.scalar).or (values.lookup key) :=
  lookup_foldl_absorbValue r.values.nodupKeys values

/-- The keys of both are there. -/
theorem mem_absorb {values : HealthValues} {r : HealthReport} {key : String} :
    key ∈ absorb values r ↔ key ∈ values ∨ key ∈ r.values := by
  simp only [← AList.lookup_isSome, lookup_absorb]
  cases values.lookup key <;> cases r.values.lookup key <;> cases isHealthKey key <;> simp

/-- A `health.*` value that is there stays. -/
theorem lookup_foldl_absorb {key : String} (hkey : isHealthKey key) {rs : List HealthReport}
    {values : HealthValues} (h : key ∈ values) :
    (rs.foldl absorb values).lookup key = values.lookup key := by
  induction rs generalizing values with
  | nil => rfl
  | cons r rs ih =>
      rw [List.foldl_cons, ih (mem_absorb.mpr (.inl h)), lookup_absorb, if_pos ⟨hkey, h⟩]

/-- The first report of a component owns its `health.*` values. -/
theorem lookup_mergeValues_cons {key : String} (hkey : isHealthKey key) {r : HealthReport}
    {rs : List HealthReport} (h : key ∈ r.values) :
    (mergeValues (r :: rs)).lookup key = (r.values.lookup key).map HealthValue.scalar := by
  rw [mergeValues, List.foldl_cons, lookup_foldl_absorb hkey (mem_absorb.mpr (.inr h)),
    lookup_absorb]
  simp

/-- A limit sees the values of both. -/
theorem levelOf_absorb_le_iff {rule : LimitRule} {key : String} {values : HealthValues}
    {r : HealthReport} {a : HealthLevel} (h : key ∈ values → key ∉ r.values) :
    rule.levelOf ((absorb values r).lookup key) ≤ a ↔
      rule.levelOf (values.lookup key) ≤ a ∧ rule.levelOf (r.values.lookup key) ≤ a := by
  rw [lookup_absorb]
  by_cases hmem : key ∈ values
  · rw [AList.lookup_eq_none.mpr (h hmem)]
    simp [LimitRule.levelOf_none]
  · rw [AList.lookup_eq_none.mpr hmem]
    cases r.values.lookup key <;> simp [hmem, LimitRule.levelOf_none, LimitRule.levelOf_scalar]

/-- A rule sees the value of every report, where they do not share its key. -/
theorem levelOf_mergeValues_le_iff {rule : LimitRule} {key : String} {rs : List HealthReport}
    {a : HealthLevel} (h : rs.Pairwise fun r r' => key ∈ r.values → key ∉ r'.values) :
    rule.levelOf ((mergeValues rs).lookup key) ≤ a ↔
      ∀ r ∈ rs, rule.levelOf (r.values.lookup key) ≤ a := by
  suffices hfold : ∀ values : HealthValues, (∀ r ∈ rs, key ∈ values → key ∉ r.values) →
      (rule.levelOf ((rs.foldl absorb values).lookup key) ≤ a ↔
        rule.levelOf (values.lookup key) ≤ a ∧ ∀ r ∈ rs, rule.levelOf (r.values.lookup key) ≤ a) by
    rw [mergeValues, hfold ∅ fun r _ hmem => absurd hmem (AList.notMem_empty key)]
    simp [LimitRule.levelOf_none]
  induction rs with
  | nil => simp
  | cons r rs ih =>
      intro values hvalues
      obtain ⟨hr, hrs⟩ := List.pairwise_cons.mp h
      have hnext (r' : HealthReport) (hr' : r' ∈ rs) (hmem : key ∈ absorb values r) :
          key ∉ r'.values :=
        (mem_absorb.mp hmem).elim (hvalues r' (.tail _ hr')) (hr r' hr')
      rw [List.foldl_cons, ih hrs _ hnext, levelOf_absorb_le_iff (hvalues r (.head _)),
        List.forall_mem_cons, and_assoc]

/-- The limits of an entry are crossed where a report's are, if no two reports share a key
with a limit. -/
theorem evaluateLimits_mergeValues {text : NumberText} {limits : HealthLimits}
    {rs : List HealthReport} {a : HealthLevel}
    (h : ∀ limit ∈ limits.entries,
      rs.Pairwise fun r r' => limit.1 ∈ r.values → limit.1 ∉ r'.values) :
    (evaluateLimits text limits (mergeValues rs)).1 ≤ a ↔
      ∀ r ∈ rs, (evaluateLimits text limits r.values).1 ≤ a := by
  simp only [evaluateLimits_le_iff]
  constructor
  · intro hle r hr limit hlimit
    exact (levelOf_mergeValues_le_iff (h limit hlimit)).mp (hle limit hlimit) r hr
  · intro hle limit hlimit
    exact (levelOf_mergeValues_le_iff (h limit hlimit)).mpr fun r hr => hle r hr limit hlimit

section Entry

variable {text : NumberText} {limits : HealthLimits} {component : String}
  {rs : List HealthReport}

@[simp] theorem component_mergeComponent :
    (mergeComponent text limits component rs).component = component := rfl

/-- The level of a component: the worst of its reports and of the limits. -/
theorem level_mergeComponent : (mergeComponent text limits component rs).level =
    max (HealthLevel.worst (rs.map HealthReport.level))
      (evaluateLimits text limits (mergeValues rs)).1 := by
  simp only [mergeComponent]
  split
  · next h => exact (max_eq_right h.le).symm
  · next h => split <;> exact (max_eq_left (not_lt.mp h)).symm

/-- So it is bounded if they are. -/
theorem level_mergeComponent_le_iff {a : HealthLevel} :
    (mergeComponent text limits component rs).level ≤ a ↔
      (∀ r ∈ rs, r.level ≤ a) ∧ (evaluateLimits text limits (mergeValues rs)).1 ≤ a := by
  rw [level_mergeComponent, max_le_iff, HealthLevel.worst_le_iff, List.forall_mem_map]

/-- An entry is stale where one of its reports is. -/
theorem level_mergeComponent_eq_stale_iff :
    (mergeComponent text limits component rs).level = .stale ↔ ∃ r ∈ rs, r.level = .stale := by
  rw [← not_iff_not, ← ne_eq, HealthLevel.ne_stale_iff, level_mergeComponent_le_iff,
    and_iff_left (evaluateLimits_le_error _ _ _)]
  simp only [← HealthLevel.ne_stale_iff, not_exists, not_and, ne_eq]

/-- Its values, and the last level where it is stale. -/
theorem values_mergeComponent : (mergeComponent text limits component rs).values =
    if (mergeComponent text limits component rs).level = .stale then
      ((mergeValues rs).insert "health.last_level" (.ofLevel (HealthLevel.worst
        ((evaluateLimits text limits (mergeValues rs)).1 ::
          rs.filterMap fun r => r.known.level?)))).insert "health.availability" (.str "stale")
    else mergeValues rs := by
  simp only [mergeComponent]
  exact apply_ite Prod.fst _ _ _

/-- Any value but these two is one of a report. -/
theorem lookup_mergeComponent {key : String} (hlast : key ≠ "health.last_level")
    (havailability : key ≠ "health.availability") :
    (mergeComponent text limits component rs).values.lookup key =
      (mergeValues rs).lookup key := by
  rw [values_mergeComponent]
  split
  · rw [AList.lookup_insert_ne havailability, AList.lookup_insert_ne hlast]
  · rfl

/-- What a stale entry says of the time before. -/
theorem lastLevel_mergeComponent
    (h : (mergeComponent text limits component rs).level = .stale) :
    (mergeComponent text limits component rs).values.lookup "health.last_level" =
      some (.ofLevel (HealthLevel.worst ((evaluateLimits text limits (mergeValues rs)).1 ::
        rs.filterMap fun r => r.known.level?))) := by
  rw [values_mergeComponent, if_pos h, AList.lookup_insert_ne (by decide), AList.lookup_insert]

end Entry

/-- There is an entry for each component that is reported. -/
theorem mem_merge {text : NumberText} {limits : HealthLimits} {reports : List HealthReport}
    {entry : StatusEntry} : entry ∈ merge text limits reports ↔
      ∃ r ∈ reports, mergeComponent text limits r.component
        (reports.filter fun r' => r'.component = r.component) = entry := by
  simp [merge, List.mem_eraseDups]

end CamDriver
