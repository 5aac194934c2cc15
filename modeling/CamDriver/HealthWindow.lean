import CamDriver.HealthMonitor
import CamDriver.Lib.Extremes
import Mathlib

/-!
# CamDriver.HealthWindow

`HealthWindow`: what a recording's JSON says about the health of the service while it was open.

Each status entry has a slot for each key of its values.  A number goes into the statistics
in the slot, and anything else but a null takes the slot: the numbers before it are forgotten,
and the next number starts statistics of its own (`slot_eq`).  So the statistics are those of
the numbers behind the last string or boolean, and `summary_exact_iff` says when these tell as
much as all of them.
-/

namespace CamDriver

/-! ## Statistics -/

/-- A value that is `_numeric`. -/
inductive HealthNumber where
  | int (i : Int)
  | float (q : ℚ)
deriving DecidableEq, Repr

def HealthNumber.value : HealthNumber → ℚ
  | int i => i
  | float q => q

namespace HealthValue

/-- The number in a value, with its type. -/
def number? : HealthValue → Option HealthNumber
  | int i => some (.int i)
  | float (.finite q) => some (.float q)
  | _ => none

/-- A number among the values. -/
theorem map_value_number? (v : HealthValue) : v.number?.map HealthNumber.value = v.numeric := by
  cases v with
  | float x => cases x <;> rfl
  | _ => rfl

/-- Neither a number nor a null. -/
def interrupts (v : HealthValue) : Bool := v.number? = none ∧ v ≠ .null

end HealthValue

/-- The statistics of a key. -/
structure NumberStats where
  first : HealthNumber
  last : HealthNumber
  min : HealthNumber
  max : HealthNumber
deriving DecidableEq, Repr

namespace NumberStats

def single (v : HealthNumber) : NumberStats := ⟨v, v, v, v⟩

def add (s : NumberStats) (v : HealthNumber) : NumberStats :=
  { s with
    last := v
    min := if v.value < s.min.value then v else s.min
    max := if s.max.value < v.value then v else s.max }

/-- The statistics are those of a list of numbers. -/
structure Exact (s : NumberStats) (xs : List HealthNumber) : Prop where
  first : xs.head? = some s.first
  last : xs.getLast? = some s.last
  min : IsLeast {q | ∃ x ∈ xs, x.value = q} s.min.value
  max : IsGreatest {q | ∃ x ∈ xs, x.value = q} s.max.value

/-- What is accumulated. -/
theorem foldl_add (x : HealthNumber) (xs : List HealthNumber) :
    xs.foldl add (single x) =
      { first := x
        last := xs.getLast?.getD x
        min := xs.foldl (Extremes.keep fun n => -n.value) x
        max := xs.foldl (Extremes.keep HealthNumber.value) x } := by
  induction xs using List.reverseRecOn with
  | nil => rfl
  | append_singleton xs v ih =>
      simp only [List.foldl_concat, ih, add, Extremes.keep, neg_lt_neg_iff, List.getLast?_concat,
        Option.getD_some]

/-- The accumulator of some numbers is exact. -/
theorem exact_foldl_add (x : HealthNumber) (xs : List HealthNumber) :
    (xs.foldl add (single x)).Exact (x :: xs) := by
  rw [foldl_add]
  have least := Extremes.firstMax_foldl (f := fun n : HealthNumber => -n.value) x xs
  have greatest := Extremes.firstMax_foldl (f := HealthNumber.value) x xs
  refine ⟨rfl, List.getLast?_cons, ⟨⟨_, least.mem, rfl⟩, ?_⟩, greatest.isGreatest⟩
  rintro q ⟨y, hy, rfl⟩
  exact neg_le_neg_iff.1 (least.le hy)

end NumberStats

/-! ## Windows -/

/-- What is under a key of `acc["values"]`. -/
inductive WindowSlot where
  | stats (s : NumberStats)
  | scalar (v : HealthValue)
deriving DecidableEq, Repr

/-- What is accumulated of a status entry. -/
structure StatusWindow where
  worstLevel : HealthLevel
  worstMessage : Option String
  hardwareId : String
  values : AList fun _ : String => WindowSlot

namespace StatusWindow

/-- What `setdefault` puts there. -/
def fresh (st : StatusEntry) : StatusWindow := ⟨.ok, none, st.hardwareId, ∅⟩

/-- One round of the loop over the values. -/
def addValue (values : AList fun _ : String => WindowSlot)
    (item : Sigma fun _ : String => HealthValue) : AList fun _ : String => WindowSlot :=
  match item.2.number? with
  | some n =>
    values.insert item.1 (.stats (match values.lookup item.1 with
      | some (.stats s) => s.add n
      | _ => .single n))
  | none => if item.2 = .null then values else values.insert item.1 (.scalar item.2)

/-- One round of the loop over the entries, for the entry's name. -/
def add (acc : StatusWindow) (st : StatusEntry) : StatusWindow :=
  let acc :=
    if acc.worstMessage = none ∨ acc.worstLevel < st.level then
      { acc with worstLevel := st.level, worstMessage := some st.message }
    else acc
  { acc with values := st.values.entries.foldl addValue acc.values }

end StatusWindow

/-- `st["name"]`. -/
def StatusEntry.name (instanceName : String) (st : StatusEntry) : String :=
  s!"{instanceName}: {st.component}"

structure HealthWindow where
  samples : Nat
  fromNs : Option Int
  toNs : Option Int
  status : AList fun _ : String => StatusWindow

/-- `HealthWindow.summary`. -/
structure HealthSummary extends HealthWindow where
  schemaVersion : Nat

namespace HealthWindow

def init : HealthWindow := ⟨0, none, none, ∅⟩

/-- One round of the loop over the entries. -/
def addEntry (status : AList fun _ : String => StatusWindow) (e : String × StatusEntry) :
    AList fun _ : String => StatusWindow :=
  status.insert e.1 (((status.lookup e.1).getD (.fresh e.2)).add e.2)

/-- The entries of a snapshot, by their names. -/
def named (snap : HealthSnapshot) : List (String × StatusEntry) :=
  snap.status.map fun st => (st.name snap.instanceName, st)

/-- `HealthWindow.add`. -/
def add (w : HealthWindow) (snap : HealthSnapshot) : HealthWindow where
  samples := w.samples + 1
  fromNs := some (w.fromNs.getD snap.stampUnixNs)
  toNs := some snap.stampUnixNs
  status := (named snap).foldl addEntry w.status

def summary (w : HealthWindow) : HealthSummary := { w with schemaVersion := 1 }

/-- The window after some snapshots. -/
def ofSnapshots (snaps : List HealthSnapshot) : HealthWindow := snaps.foldl add init

end HealthWindow

/-! ## A slot -/

/-- What a slot is after one more sample. -/
def addSample (slot : Option WindowSlot) (v : HealthValue) : Option WindowSlot :=
  match v.number? with
  | some n =>
    some (.stats (match slot with
      | some (.stats s) => s.add n
      | _ => .single n))
  | none => if v = .null then slot else some (.scalar v)

/-- The numbers among the samples of a key. -/
def numbers (vs : List HealthValue) : List HealthNumber := vs.filterMap HealthValue.number?

/-- The numbers behind the last sample that is neither a number nor a null. -/
def freshNumbers (vs : List HealthValue) : List HealthNumber :=
  numbers (vs.rtakeWhile fun v => !v.interrupts)

/-- One value more: it starts anew behind one that is no number. -/
theorem freshNumbers_concat (vs : List HealthValue) (v : HealthValue) :
    freshNumbers (vs ++ [v]) =
      if v.interrupts then [] else freshNumbers vs ++ v.number?.toList := by
  rw [freshNumbers, List.rtakeWhile_concat]
  cases hv : v.interrupts with
  | true => rfl
  | false =>
      cases hnum : v.number? <;> simp [freshNumbers, numbers, hnum]

/-- The slot after a list of samples: the statistics of the fresh numbers, or else the last
sample that is neither a number nor a null. -/
theorem slot_eq (vs : List HealthValue) :
    vs.foldl addSample none =
      match freshNumbers vs with
      | [] => (vs.filter HealthValue.interrupts).getLast?.map .scalar
      | x :: xs => some (.stats (xs.foldl NumberStats.add (.single x))) := by
  induction vs using List.reverseRecOn with
  | nil => rfl
  | append_singleton vs v ih =>
      rw [List.foldl_concat, ih, freshNumbers_concat, List.filter_append]
      cases hnum : v.number? with
      | some n =>
          have hquiet : v.interrupts = false := by simp [HealthValue.interrupts, hnum]
          cases hfresh : freshNumbers vs with
          | nil =>
              cases (vs.filter HealthValue.interrupts).getLast? <;>
                simp [addSample, hnum, hquiet]
          | cons x xs => simp [addSample, hnum, hquiet]
      | none =>
          by_cases hnull : v = .null
          · have hquiet : v.interrupts = false := by simp [HealthValue.interrupts, hnull]
            subst hnull
            simp [addSample, hnum, hquiet]
          · have hquiet : v.interrupts = true := by simp [HealthValue.interrupts, hnum, hnull]
            simp [addSample, hnum, hnull, hquiet]

/-- What a slot has to be. -/
def SlotExact (vs : List HealthValue) : Option WindowSlot → Prop
  | some (.stats s) => s.Exact (numbers vs)
  | some (.scalar _) | none => numbers vs = []

/-- The fresh numbers tell as much as all of them: they begin with the same number, and no
other one is below or above all of them. -/
def Undisturbed (vs : List HealthValue) : Prop :=
  (freshNumbers vs).head? = (numbers vs).head? ∧
    ∀ x ∈ numbers vs, (∃ y ∈ freshNumbers vs, y.value ≤ x.value) ∧
      ∃ y ∈ freshNumbers vs, x.value ≤ y.value

/-- Numbers and nulls alone disturb nothing. -/
theorem undisturbed_of_quiet {vs : List HealthValue} (h : ∀ v ∈ vs, v.interrupts = false) :
    Undisturbed vs := by
  have hall : freshNumbers vs = numbers vs := by
    rw [freshNumbers, List.rtakeWhile_eq_self_iff.2 fun v hv => by simp [h v hv]]
  rw [Undisturbed, hall]
  exact ⟨rfl, fun x hx => ⟨⟨x, hx, le_rfl⟩, x, hx, le_rfl⟩⟩

/-- What is counted are the last of the numbers. -/
theorem freshNumbers_suffix (vs : List HealthValue) : freshNumbers vs <:+ numbers vs :=
  (List.rtakeWhile_suffix _ vs).filterMap _

/-- Statistics of some of the numbers are those of all exactly if these tell as much. -/
theorem NumberStats.Exact.iff_of_suffix {s : NumberStats} {xs ys : List HealthNumber}
    (h : s.Exact ys) (hsuffix : ys <:+ xs) :
    s.Exact xs ↔ ys.head? = xs.head? ∧
      ∀ x ∈ xs, (∃ y ∈ ys, y.value ≤ x.value) ∧ ∃ y ∈ ys, x.value ≤ y.value := by
  constructor
  · intro hall
    refine ⟨h.first.trans hall.first.symm, fun x hx => ?_⟩
    obtain ⟨low, hlow, hmin⟩ := h.min.1
    obtain ⟨high, hhigh, hmax⟩ := h.max.1
    exact ⟨⟨low, hlow, hmin.trans_le (hall.min.2 ⟨x, hx, rfl⟩)⟩,
      high, hhigh, (hall.max.2 ⟨x, hx, rfl⟩).trans_eq hmax.symm⟩
  · rintro ⟨hhead, hrange⟩
    obtain ⟨low, hlow, hmin⟩ := h.min.1
    obtain ⟨high, hhigh, hmax⟩ := h.max.1
    obtain ⟨before, rfl⟩ := hsuffix
    refine ⟨hhead.symm.trans h.first, ?_,
      ⟨⟨low, List.mem_append_right _ hlow, hmin⟩, ?_⟩,
      ⟨⟨high, List.mem_append_right _ hhigh, hmax⟩, ?_⟩⟩
    · rw [List.getLast?_append, h.last, Option.some_or]
    · rintro q ⟨x, hx, rfl⟩
      obtain ⟨y, hy, hle⟩ := (hrange x hx).1
      exact (h.min.2 ⟨y, hy, rfl⟩).trans hle
    · rintro q ⟨x, hx, rfl⟩
      obtain ⟨y, hy, hle⟩ := (hrange x hx).2
      exact hle.trans (h.max.2 ⟨y, hy, rfl⟩)

/-- So a slot is exact if and only if no value interrupts the numbers. -/
theorem slotExact_iff (vs : List HealthValue) :
    SlotExact vs (vs.foldl addSample none) ↔ Undisturbed vs := by
  rw [slot_eq]
  have hsuffix := freshNumbers_suffix vs
  cases hfresh : freshNumbers vs with
  | nil =>
      have hnone : Undisturbed vs ↔ numbers vs = [] := by
        rw [Undisturbed, hfresh]
        cases numbers vs <;> simp
      rw [hnone]
      cases (vs.filter HealthValue.interrupts).getLast? <;> rfl
  | cons x xs =>
      rw [hfresh] at hsuffix
      dsimp only [SlotExact]
      rw [(NumberStats.exact_foldl_add x xs).iff_of_suffix hsuffix, Undisturbed, hfresh]

/-! ## An entry -/

namespace StatusWindow

/-- One value of an entry, by its key. -/
theorem lookup_addValue (values : AList fun _ : String => WindowSlot)
    (item : Sigma fun _ : String => HealthValue) (key : String) :
    (addValue values item).lookup key =
      if item.1 = key then addSample (values.lookup key) item.2 else values.lookup key := by
  rw [addValue, addSample]
  by_cases hkey : item.1 = key
  · subst hkey
    cases item.2.number? with
    | some n => simp
    | none =>
        by_cases hnull : item.2 = .null <;> simp [hnull]
  · rw [if_neg hkey]
    cases item.2.number? with
    | some n => simp [AList.lookup_insert_ne (Ne.symm hkey)]
    | none =>
        by_cases hnull : item.2 = .null <;> simp [hnull, AList.lookup_insert_ne (Ne.symm hkey)]

/-- Each key of an entry comes once. -/
theorem lookup_foldl_addValue {key : String}
    {items : List (Sigma fun _ : String => HealthValue)} (hitems : items.NodupKeys)
    (values : AList fun _ : String => WindowSlot) :
    (items.foldl addValue values).lookup key =
      (items.dlookup key).elim (values.lookup key) (addSample (values.lookup key)) := by
  induction items generalizing values with
  | nil => rfl
  | cons item items ih =>
      obtain ⟨hnotMem, hitems⟩ := List.nodupKeys_cons.mp hitems
      rw [List.foldl_cons, ih hitems, lookup_addValue]
      by_cases hkey : item.1 = key
      · subst hkey
        rw [List.dlookup_eq_none.mpr hnotMem, List.dlookup_cons_eq]
        simp
      · rw [List.dlookup_cons_ne _ _ (Ne.symm hkey), if_neg hkey]

theorem lookup_add (acc : StatusWindow) (st : StatusEntry) (key : String) :
    (acc.add st).values.lookup key =
      (st.values.lookup key).elim (acc.values.lookup key)
        (addSample (acc.values.lookup key)) := by
  have hvalues : (acc.add st).values = st.values.entries.foldl addValue acc.values := by
    rw [add]
    split <;> rfl
  rw [hvalues, lookup_foldl_addValue st.values.nodupKeys]
  rfl

/-- The samples of a key. -/
def samplesOf (sts : List StatusEntry) (key : String) : List HealthValue :=
  sts.filterMap fun st => st.values.lookup key

/-- The values of several entries. -/
theorem lookup_foldl_add (acc : StatusWindow) (sts : List StatusEntry) (key : String) :
    (sts.foldl add acc).values.lookup key =
      (samplesOf sts key).foldl addSample (acc.values.lookup key) := by
  induction sts generalizing acc with
  | nil => rfl
  | cons st sts ih =>
      rw [List.foldl_cons, ih, lookup_add, samplesOf, samplesOf, List.filterMap_cons]
      cases st.values.lookup key <;> rfl

/-- The worst level is that of an entry, and the message is its message. -/
def Worst (acc : StatusWindow) (st : StatusEntry) : Prop :=
  acc.worstLevel = st.level ∧ acc.worstMessage = some st.message

/-- The first entry is the worst so far. -/
theorem worst_add_fresh (st : StatusEntry) : ((fresh st).add st).Worst st := by
  rw [add, if_pos (.inl rfl)]
  exact ⟨rfl, rfl⟩

theorem Worst.add {acc : StatusWindow} {m : StatusEntry} (h : acc.Worst m) (st : StatusEntry) :
    (acc.add st).Worst (Extremes.keep StatusEntry.level m st) := by
  obtain ⟨hlevel, hmessage⟩ := h
  rw [StatusWindow.add, Extremes.keep, hlevel]
  have hsome : acc.worstMessage ≠ none := by
    rw [hmessage]
    exact Option.some_ne_none _
  by_cases hlt : m.level < st.level
  · rw [if_pos (.inr hlt), if_pos hlt]
    exact ⟨rfl, rfl⟩
  · rw [if_neg (not_or.2 ⟨hsome, hlt⟩), if_neg hlt]
    exact ⟨hlevel, hmessage⟩

theorem Worst.foldl_add {acc : StatusWindow} {m : StatusEntry} (h : acc.Worst m)
    (sts : List StatusEntry) :
    (sts.foldl StatusWindow.add acc).Worst (sts.foldl (Extremes.keep StatusEntry.level) m) := by
  induction sts generalizing acc m with
  | nil => exact h
  | cons st sts ih => exact ih (h.add st)

/-- What is accumulated of a list of entries of one name is exact: the worst level is the
greatest, with the message of the first entry that has it, and each slot is what it has to be. -/
def Exact (acc : StatusWindow) (sts : List StatusEntry) : Prop :=
  (∃ m, Extremes.FirstMax StatusEntry.level sts m ∧ acc.Worst m) ∧
    ∀ key, SlotExact (samplesOf sts key) (acc.values.lookup key)

/-- A component is exact if the values of each key are undisturbed. -/
theorem exact_foldl_add_iff (st : StatusEntry) (sts : List StatusEntry) :
    (sts.foldl add ((fresh st).add st)).Exact (st :: sts) ↔
      ∀ key, Undisturbed (samplesOf (st :: sts) key) := by
  have hslot (key : String) : (sts.foldl add ((fresh st).add st)).values.lookup key =
      (samplesOf (st :: sts) key).foldl addSample none :=
    lookup_foldl_add (fresh st) (st :: sts) key
  have hworst := (worst_add_fresh st).foldl_add sts
  rw [Exact, and_iff_right ⟨_, Extremes.firstMax_foldl st sts, hworst⟩]
  refine forall_congr' fun key => ?_
  rw [hslot, slotExact_iff]

end StatusWindow

/-! ## A summary -/

namespace HealthWindow

/-- The entries of a name, in the snapshots' order. -/
def seen (snaps : List HealthSnapshot) (name : String) : List StatusEntry :=
  ((snaps.flatMap named).filter fun e => e.1 = name).map Prod.snd

/-- The window of some snapshots: the entries of all of them, in order. -/
theorem status_ofSnapshots (snaps : List HealthSnapshot) :
    (ofSnapshots snaps).status = (snaps.flatMap named).foldl addEntry ∅ := by
  induction snaps using List.reverseRecOn with
  | nil => rfl
  | append_singleton snaps snap ih =>
      have hadd : (ofSnapshots (snaps ++ [snap])).status =
          (named snap).foldl addEntry (ofSnapshots snaps).status := by
        rw [ofSnapshots, List.foldl_concat]
        rfl
      rw [hadd, ih, List.flatMap_append, List.foldl_append, List.flatMap_singleton]

/-- By the name of an entry: those of that name. -/
theorem lookup_foldl_addEntry (es : List (String × StatusEntry)) (name : String) :
    (es.foldl addEntry ∅).lookup name =
      match (es.filter fun e => e.1 = name).map Prod.snd with
      | [] => none
      | st :: sts => some (sts.foldl StatusWindow.add ((StatusWindow.fresh st).add st)) := by
  induction es using List.reverseRecOn with
  | nil => rfl
  | append_singleton es e ih =>
      rw [List.foldl_concat, addEntry, List.filter_append, List.map_append]
      by_cases hname : e.1 = name
      · subst hname
        rw [AList.lookup_insert, ih]
        cases (es.filter fun e' => e'.1 = e.1).map Prod.snd <;> simp
      · rw [AList.lookup_insert_ne (Ne.symm hname), ih]
        simp [hname]

/-- The summary of some snapshots is exact. -/
def Exact (snaps : List HealthSnapshot) : Prop :=
  ∀ name, match (ofSnapshots snaps).summary.status.lookup name with
    | none => seen snaps name = []
    | some acc => acc.Exact (seen snaps name)

/-- The summary is exact just as long as no key's numbers are disturbed: the numbers behind
its last string or boolean tell as much as all of them. -/
theorem summary_exact_iff (snaps : List HealthSnapshot) :
    Exact snaps ↔ ∀ name key, Undisturbed (StatusWindow.samplesOf (seen snaps name) key) := by
  refine forall_congr' fun name => ?_
  have hlookup : (ofSnapshots snaps).summary.status.lookup name =
      match seen snaps name with
      | [] => none
      | st :: sts => some (sts.foldl StatusWindow.add ((StatusWindow.fresh st).add st)) := by
    rw [seen, ← lookup_foldl_addEntry, ← status_ofSnapshots]
    rfl
  rw [hlookup]
  cases seen snaps name with
  | nil =>
      refine iff_of_true rfl fun key => ⟨rfl, ?_⟩
      intro x hx
      cases hx
  | cons st sts => exact StatusWindow.exact_foldl_add_iff st sts

/-- A snapshot with one value. -/
def reading (v : HealthValue) : HealthSnapshot where
  service := "camera-service"
  instanceName := "cam"
  stampUnixNs := 0
  level := .ok
  status := [⟨"camera", .ok, "OK", "", (∅ : HealthValues).insert "exposure_us" v⟩]

/-- A reading that is no number, between two that are. -/
def unreadable : List HealthSnapshot := [reading (.int 40), reading (.str "n/a"), reading (.int 50)]

/-- The reading before it is forgotten. -/
theorem not_summary_exact : ¬ ∀ snaps, Exact snaps := by
  intro exact
  have stats : ((ofSnapshots unreadable).summary.status.lookup "cam: camera").map
      (fun acc => acc.values.lookup "exposure_us") =
        some (some (.stats (.single (.int 50)))) := by
    decide +kernel
  have all : numbers (StatusWindow.samplesOf (seen unreadable "cam: camera") "exposure_us") =
      [.int 40, .int 50] := by
    decide +kernel
  obtain ⟨acc, hacc, hslot⟩ := Option.map_eq_some_iff.1 stats
  have exactAcc := exact unreadable "cam: camera"
  rw [hacc] at exactAcc
  have exactSlot := exactAcc.2 "exposure_us"
  rw [hslot, SlotExact, all] at exactSlot
  exact absurd exactSlot.first (by decide)

end HealthWindow

end CamDriver
