import CamDriver.GenicamPoll
import CamDriver.Lib.Machine

/-!
# CamDriver.GenicamOneDevice

When all that a poll of a camera reports comes from one device object.

What the provider keeps from one poll to the next comes from the object it has on record,
and a transaction only goes through for a device with that identity.  So all is from one
object as long as no other one gets the identity of the one on record.
-/

namespace CamDriver

/-! ## One object -/

/-- What the provider keeps comes from `d`. -/
structure GenicamState.KeptFrom (d : Nat) (p : GenicamState) : Prop where
  entries : ∀ e ∈ p.selectorCache.2, e.From d
  measurements : ∀ m ∈ p.measurements, m.From d
  statusValues : ∀ key v, p.statusValues.lookup key = some v → v.From d

/-- A device with the identity on record is `d`. -/
def OnRecord (d : Nat) (p : GenicamState) (cam : CameraHandle) : Prop :=
  ∀ dev, cam.device = some dev → p.deviceId = some dev.ident → dev.number = d

/-- No object is opened with this identity. -/
def Avoids (ident : Option Nat) (events : List CameraEvent) : Prop :=
  ∀ dev named, .opened dev named ∈ events → ident ≠ some dev.ident

/-- Where the last `open` got to the names, they are those of the device. -/
def Names (cam : CameraHandle) : Prop :=
  ∀ dev, cam.device = some dev → cam.named = true → cam.hardwareId.From dev.number

/-- A poll under way has read `d` and nothing else, and will find the identity of `d` at no
other object. -/
structure OneDevice (d : Nat) (w : PollWorld) : Prop where
  kept : w.provider.KeptFrom d
  record : OnRecord d w.provider w.camera
  names : Names w.camera
  script : ∀ t ∈ w.script, Avoids w.provider.deviceId t.events
  begun : d ∈ w.reads
  reads : ∀ n ∈ w.reads, n = d

/-- The device on record stays so while no event gives its identity to another. -/
theorem onRecord_after {d : Nat} {p : GenicamState} {cam : CameraHandle}
    {events : List CameraEvent} (h : OnRecord d p cam) (hevents : Avoids p.deviceId events) :
    OnRecord d p (events.foldl CameraHandle.after cam) := by
  induction events generalizing cam with
  | nil => exact h
  | cons e events ih =>
      refine ih ?_ fun dev named hmem => hevents dev named (List.mem_cons_of_mem _ hmem)
      cases e with
      | released => exact fun dev hdev => by cases hdev
      | opened dev named =>
          intro dev' hdev hid
          cases hdev
          exact absurd hid (hevents dev named List.mem_cons_self)
      | controlLost => exact h

/-- Identities stay distinct through any events. -/
theorem names_after {cam : CameraHandle} (h : Names cam) (events : List CameraEvent) :
    Names (events.foldl CameraHandle.after cam) := by
  induction events generalizing cam with
  | nil => exact h
  | cons e events ih =>
      refine ih ?_
      cases e with
      | released => exact fun dev hdev => by cases hdev
      | opened dev named =>
          intro dev' hdev hnamed n hn
          cases hdev
          have names : named = true := hnamed
          simp only [CameraHandle.after, if_pos names] at hn
          exact List.mem_singleton.1 hn
      | controlLost => exact h

/-- A provider that has read nothing keeps nothing of another device. -/
theorem keptFrom_init (d : Nat) (id : Option Nat) :
    GenicamState.KeptFrom d { GenicamState.init with deviceId := id } :=
  { entries := fun _ he => absurd he List.not_mem_nil
    measurements := fun _ hm => absurd hm List.not_mem_nil
    statusValues := fun _ _ h => by cases h }

/-! ## A transaction -/

/-- A transaction that reaches a device reaches the one that is connected. -/
theorem Transaction.device_eq_ok {t : Transaction} {cam : CameraHandle} {dev : DeviceObject}
    (h : t.device cam = .ok dev) : cam.device = some dev := by
  unfold Transaction.device at h
  repeat' split at h
  all_goals cases h
  assumption

/-- The next transaction comes with the events before it. -/
theorem PollWorld.next_eq_some {w w' : PollWorld} {t : Transaction}
    (h : w.next = some (t, w')) : ∃ script, w.script = t :: script ∧
      w' = { w with camera := t.events.foldl CameraHandle.after w.camera, script := script } := by
  unfold PollWorld.next at h
  split at h
  · cases h
  · next script hscript =>
      cases h
      exact ⟨script, hscript, rfl⟩

theorem OneDevice.next {d : Nat} {w w' : PollWorld} {t : Transaction} (h : OneDevice d w)
    (hnext : w.next = some (t, w')) : OneDevice d w' := by
  obtain ⟨script, hscript, rfl⟩ := PollWorld.next_eq_some hnext
  have events := h.script t (by rw [hscript]; exact List.mem_cons_self)
  exact {
    kept := h.kept
    record := onRecord_after h.record events
    names := names_after h.names t.events
    script := fun t' ht => h.script t' (by rw [hscript]; exact List.mem_cons_of_mem _ ht)
    begun := h.begun
    reads := h.reads }

/-- A transaction, in one piece. -/
theorem deviceCall_run {α : Type} (reset : Bool)
    (fn : DeviceObject → CameraHandle → DeviceAnswers → Except String α) (w : PollWorld) :
    (deviceCall reset fn).run w =
      match w.next with
      | none => .error (.failed "health stopped") w
      | some (t, w') =>
        match t.device w'.camera with
        | .error e => .error e w'
        | .ok dev =>
          if w'.provider.deviceId ≠ some dev.ident ∧ ¬ reset then
            .error (.unavailable "camera changed during health poll") w'
          else
            let read := { w' with
              provider := w'.provider.forDevice dev, reads := w'.reads ++ [dev.number] }
            match fn dev w'.camera t.answers with
            | .ok a => .ok a read
            | .error e => .error (.failed e) read := by
  simp only [deviceCall, EStateM.run, bind, EStateM.bind, get, getThe, MonadStateOf.get,
    EStateM.get]
  cases w.next with
  | none => rfl
  | some next =>
      obtain ⟨t, w'⟩ := next
      dsimp only
      cases t.device w'.camera with
      | error e => rfl
      | ok dev =>
          by_cases changed : w'.provider.deviceId ≠ some dev.ident ∧ ¬ reset
          · simp only [if_pos changed]
            rfl
          · simp only [if_neg changed]
            cases fn dev w'.camera t.answers with
            | error e => rfl
            | ok a => rfl

/-- A transaction reads `d`, or it raises. -/
theorem keeps_deviceCall {α : Type} {d : Nat} {R : α → Prop}
    {fn : DeviceObject → CameraHandle → DeviceAnswers → Except String α}
    (hfn : ∀ dev cam answers a, dev.number = d → fn dev cam answers = .ok a → R a) :
    Effects.Keeps (OneDevice d) (deviceCall false fn) R := by
  intro w hw
  rw [deviceCall_run]
  cases hnext : w.next with
  | none => exact hw
  | some next =>
      obtain ⟨t, w'⟩ := next
      have hw' : OneDevice d w' := hw.next hnext
      dsimp only
      cases hdev : t.device w'.camera with
      | error e => exact hw'
      | ok dev =>
          by_cases hid : w'.provider.deviceId = some dev.ident
          · have number : dev.number = d := hw'.record dev (Transaction.device_eq_ok hdev) hid
            have read : OneDevice d { w' with
                provider := w'.provider.forDevice dev, reads := w'.reads ++ [dev.number] } := by
              rw [GenicamState.forDevice, if_pos hid]
              refine ⟨hw'.kept, hw'.record, hw'.names, hw'.script,
                List.mem_append_left _ hw'.begun, ?_⟩
              intro n hn
              obtain hn | hn := List.mem_append.1 hn
              · exact hw'.reads n hn
              · exact (List.mem_singleton.1 hn).trans number
            dsimp only
            rw [if_neg fun changed => changed.1 hid]
            cases hres : fn dev w'.camera t.answers with
            | error e => exact read
            | ok a => exact ⟨read, hfn dev _ _ a number hres⟩
          · dsimp only
            rw [if_pos ⟨hid, by decide⟩]
            exact hw'

/-! ## Values -/

/-- All of the values come from `d`. -/
def ValuesFrom (d : Nat) (values : SourcedValues) : Prop :=
  ∀ key v, values.lookup key = some v → v.From d

/-- What the poll makes itself comes from no device. -/
theorem from_made {α : Type} (d : Nat) (a : α) : Sourced.From d ⟨a, []⟩ :=
  fun _ hn => absurd hn List.not_mem_nil

/-- What is read of the device comes from it. -/
theorem from_read {α : Type} (d : Nat) (a : α) : Sourced.From d ⟨a, [d]⟩ :=
  fun _ hn => List.mem_singleton.1 hn

section Values

variable {d : Nat} {values : SourcedValues}

/-- No values come from no other device. -/
theorem valuesFrom_empty (d : Nat) : ValuesFrom d ∅ := fun key v h => by
  rw [AList.lookup_empty] at h
  cases h

theorem ValuesFrom.insert (h : ValuesFrom d values) {v : Sourced HealthValue} (hv : v.From d)
    (key : String) : ValuesFrom d (values.insert key v) := by
  intro key' v' hlookup
  by_cases hkey : key' = key
  · rw [hkey, AList.lookup_insert] at hlookup
    cases hlookup
    exact hv
  · rw [AList.lookup_insert_ne hkey] at hlookup
    exact h key' v' hlookup

theorem validateMeasurement_from (h : ValuesFrom d values) {m : Sourced String}
    (hm : m.From d) : ValuesFrom d (validateMeasurement values m) := by
  unfold validateMeasurement
  split
  · exact h
  · exact (h.insert (v := ⟨.null, m.sources⟩) hm _).insert hm _

/-- The names of measurements come from where their values do. -/
theorem measurementsOf_from (h : ValuesFrom d values) : ∀ m ∈ measurementsOf values, m.From d := by
  intro m hm
  obtain ⟨e, he, rfl⟩ := List.mem_map.1 hm
  exact h e.1 e.2 (AList.mem_lookup_iff.2 (List.mem_filter.1 he).1)

/-- The checks of `validate_measurements` bring in no other device. -/
theorem validateMeasurements_from (h : ValuesFrom d values) {expected : List (Sourced String)}
    (hexpected : ∀ m ∈ expected, m.From d) :
    ValuesFrom d (validateMeasurements values expected) := by
  have all : ∀ m ∈ expected ++ measurementsOf values, m.From d := by
    intro m hm
    obtain hm | hm := List.mem_append.1 hm
    · exact hexpected m hm
    · exact measurementsOf_from h m hm
  unfold validateMeasurements
  generalize expected ++ measurementsOf values = names at all
  induction names generalizing values with
  | nil => exact h
  | cons m names ih =>
      rw [List.forall_mem_cons] at all
      exact ih (validateMeasurement_from h all.1) all.2

/-- A power is the product of two values of the same device. -/
theorem supplyPower_from (h : ValuesFrom d values) : ValuesFrom d (supplyPower values) := by
  unfold supplyPower
  split
  · exact h
  · split
    · next voltage current hvoltage hcurrent =>
        split
        · refine h.insert (fun n hn => ?_) _
          obtain hn | hn := List.mem_append.1 hn
          · exact h _ voltage hvoltage n hn
          · exact h _ current hcurrent n hn
        · exact h
    · exact h

/-- What `_camera_report` starts from. -/
theorem reportValues_from (h : ValuesFrom d values) {measurements : List (Sourced String)}
    (hm : ∀ m ∈ measurements, m.From d) : ValuesFrom d (reportValues values measurements) := by
  have powered := supplyPower_from (validateMeasurements_from h hm)
  unfold reportValues
  dsimp only
  split
  · refine validateMeasurements_from powered ?_
    intro m hmem
    rw [List.mem_singleton.1 hmem]
    exact from_made d _
  · exact powered

/-- The whole report of one device. -/
theorem cameraReport_from (cfg : GenicamConfig) (hw : Sourced String) (h : ValuesFrom d values)
    (errors : List String) : ValuesFrom d (cameraReport cfg hw values errors).values := by
  unfold cameraReport
  dsimp only
  split
  · exact h
  · exact h.insert (from_made d _) _

end Values

/-! ## The poll -/

section Poll

variable {d : Nat}

/-- What is looked up in the provider comes from its device. -/
theorem keeps_providerNow {α : Type} {f : GenicamState → α} {R : α → Prop}
    (h : ∀ p : GenicamState, p.KeptFrom d → R (f p)) :
    Effects.Keeps (OneDevice d) (providerNow f) R :=
  Effects.read fun w hw => h w.provider hw.kept

/-- The provider may be changed, as long as it keeps its device. -/
theorem keeps_changeProvider {f : GenicamState → GenicamState}
    (h : ∀ p : GenicamState, p.KeptFrom d → (f p).KeptFrom d)
    (hid : ∀ p, (f p).deviceId = p.deviceId) :
    Effects.Keeps (OneDevice d) (changeProvider f) fun _ => True := by
  refine Effects.change fun w hw => ?_
  have record := hw.record
  have script := hw.script
  unfold OnRecord at record
  rw [← hid w.provider] at record script
  exact ⟨h _ hw.kept, record, hw.names, script, hw.begun, hw.reads⟩

/-- The stop event says nothing of a device. -/
theorem keeps_stopping : Effects.Keeps (OneDevice d) stopping fun _ => True :=
  Effects.read fun _ _ => trivial

/-- A mapped success is that of a success. -/
theorem map_eq_ok {α β : Type} {f : α → β} {x : Except String α} {b : β}
    (h : x.map f = .ok b) : ∃ a, f a = b := by
  cases x with
  | error e => cases h
  | ok a => exact ⟨a, Except.ok.inj h⟩

/-- A feature is looked up on the device of the poll. -/
theorem keeps_hasFeature (feature : String) :
    Effects.Keeps (OneDevice d) (hasFeature feature) fun r => ∀ n ∈ r, n = d := by
  refine keeps_deviceCall fun dev _ answers a hdev ha n hn => ?_
  obtain ⟨found, rfl⟩ := map_eq_ok ha
  split at hn
  · cases hn
    exact hdev
  · cases hn

theorem keeps_anyHas (features : List String) :
    Effects.Keeps (OneDevice d) (anyHas features) fun r => ∀ n ∈ r, n = d := by
  induction features with
  | nil => exact Effects.ret fun n hn => by cases hn
  | cons feature features ih =>
      refine Effects.seq (keeps_hasFeature feature) fun r hr => ?_
      cases r with
      | none => exact ih
      | some n => exact Effects.ret hr

/-- A feature that is read is the device's. -/
theorem keeps_readFeature (cfg : GenicamConfig) (feature : String) (scale : Option ℚ) :
    Effects.Keeps (OneDevice d) (readFeature cfg feature scale) fun v => v.From d := by
  refine keeps_deviceCall fun dev _ answers a hdev ha => ?_
  obtain ⟨s, rfl⟩ := map_eq_ok ha
  rw [hdev]
  exact from_read d _

/-- The entries of the selector are the device's. -/
theorem keeps_readEntries :
    Effects.Keeps (OneDevice d) readEntries fun entries => ∀ e ∈ entries, e.From d := by
  refine keeps_deviceCall fun dev _ answers a hdev ha e he => ?_
  obtain ⟨entries, rfl⟩ := map_eq_ok ha
  obtain ⟨entry, -, rfl⟩ := List.mem_map.1 he
  rw [hdev]
  exact from_read d _

/-- So are those that are probed one by one. -/
theorem keeps_probeEntries :
    Effects.Keeps (OneDevice d) probeEntries fun entries => ∀ e ∈ entries, e.From d := by
  refine Effects.seq (keeps_hasFeature _) fun found _ => ?_
  have none_kept : Effects.Keeps (OneDevice d) (pure [] : PollM (List (Sourced String)))
      fun entries => ∀ e ∈ entries, e.From d :=
    Effects.ret fun _ he => absurd he List.not_mem_nil
  cases found with
  | none => exact none_kept
  | some n =>
      refine Effects.seq (Effects.tried keeps_readEntries) fun r hr => ?_
      cases r with
      | ok entries => exact Effects.ret (hr entries rfl)
      | error e => exact none_kept

/-- And so they are whichever way they are found. -/
theorem keeps_selectorEntries :
    Effects.Keeps (OneDevice d) selectorEntries fun entries => ∀ e ∈ entries, e.From d := by
  refine Effects.seq (R := fun r => ∀ e ∈ r.2.2, e.From d)
    (keeps_providerNow fun p hp => hp.entries) fun r hr => ?_
  refine Effects.ite (fun _ => Effects.ret hr) fun _ => ?_
  refine Effects.seq keeps_probeEntries fun entries hentries => ?_
  refine Effects.seq (keeps_changeProvider (fun p hp => ?_) fun p => rfl) fun _ _ =>
    Effects.ret hentries
  exact { hp with entries := hentries }

theorem keeps_readTemperature (cfg : GenicamConfig) (several : Bool)
    {entry : Option (Sourced String)} (hentry : ∀ e ∈ entry, e.From d) :
    Effects.Keeps (OneDevice d) (readTemperature cfg several entry) fun v => v.From d := by
  refine keeps_deviceCall fun dev _ answers a hdev ha n hn => ?_
  cases hselect : selectEntry several answers entry with
  | error e =>
      rw [hselect] at ha
      cases ha
  | ok u =>
      rw [hselect] at ha
      obtain ⟨s, rfl⟩ := map_eq_ok ha
      obtain rfl | hn := List.mem_cons.1 hn
      · exact hdev
      · cases entry with
        | none => cases hn
        | some e => exact hentry e rfl n hn

/-- One turn of the loop over the entries. -/
theorem keeps_temperatureRound (cfg : GenicamConfig) (several : Bool) {r : Readings}
    (hr : ValuesFrom d r.values) {entry : Option (Sourced String)}
    (hentry : ∀ e ∈ entry, e.From d) :
    Effects.Keeps (OneDevice d) (temperatureRound cfg several r entry)
      fun r => ValuesFrom d r.values := by
  refine Effects.seq keeps_stopping fun stopped _ => ?_
  refine Effects.ite (fun _ => Effects.ret hr) fun _ => ?_
  refine Effects.seq (Effects.tried (keeps_readTemperature cfg several hentry)) fun read hread => ?_
  cases read with
  | ok v => exact Effects.ret (hr.insert (hread v rfl) _)
  | error e => exact Effects.ret hr

/-- The temperatures of a poll. -/
theorem keeps_temperatures (cfg : GenicamConfig) {r : Readings} (hr : ValuesFrom d r.values) :
    Effects.Keeps (OneDevice d) (temperatures cfg r) fun r => ValuesFrom d r.values := by
  refine Effects.seq (keeps_hasFeature _) fun found _ => ?_
  cases found with
  | none => exact Effects.ret hr
  | some n =>
      refine Effects.seq keeps_selectorEntries fun entries hentries => ?_
      refine Effects.loop (Q := fun r : Readings => ValuesFrom d r.values)
        (fun entry hmem r hr => ?_) hr
      refine keeps_temperatureRound cfg _ hr fun e he => ?_
      split at hmem
      · rw [List.mem_singleton.1 hmem] at he
        cases he
      · obtain ⟨e', he', rfl⟩ := List.mem_map.1 hmem
        cases he
        exact hentries e he'

/-- Looking for the first feature of several changes no values. -/
theorem keeps_firstFound (candidates : Candidates) :
    Effects.Keeps (OneDevice d) (firstFound candidates) fun _ => True := by
  induction candidates with
  | nil => exact Effects.ret trivial
  | cons c cs ih =>
      refine Effects.seq (keeps_hasFeature _) fun found _ => ?_
      cases found with
      | none => exact ih
      | some n => exact Effects.ret trivial

/-- A candidate of a feature that may need the PTP latch. -/
theorem keeps_readLatched (cfg : GenicamConfig) (latchFailed : Bool) (c : String × Option ℚ) :
    Effects.Keeps (OneDevice d) (readLatched cfg latchFailed c) fun v => v.From d :=
  Effects.ite (fun _ => Effects.fail _) fun _ => keeps_readFeature cfg c.1 c.2

/-- One turn of the loop over the features. -/
theorem keeps_featureRound (cfg : GenicamConfig) (latchFailed : Bool) {r : Readings}
    (hr : ValuesFrom d r.values) (item : String × Candidates) :
    Effects.Keeps (OneDevice d) (featureRound cfg latchFailed r item)
      fun r => ValuesFrom d r.values := by
  refine Effects.seq keeps_stopping fun stopped _ => ?_
  refine Effects.ite (fun _ => Effects.ret hr) fun _ => ?_
  refine Effects.seq (keeps_firstFound item.2) fun found _ => ?_
  cases found with
  | none => exact Effects.ret hr
  | some c =>
      refine Effects.seq (Effects.tried (keeps_readLatched cfg latchFailed c)) fun read hread => ?_
      cases read with
      | ok v =>
          have set : Effects.Keeps (OneDevice d) (pure (r.count.set item.1 v) : PollM Readings)
              fun r => ValuesFrom d r.values := Effects.ret (hr.insert (hread v rfl) item.1)
          refine Effects.ite (fun _ => ?_) fun _ => set
          refine Effects.seq (keeps_changeProvider (fun p hp => ?_) fun p => rfl) fun _ _ => set
          exact { hp with statusValues := ValuesFrom.insert hp.statusValues (hread v rfl) item.1 }
      | error e =>
          refine Effects.ite (fun _ => ?_) fun _ => Effects.ret hr
          refine Effects.seq (R := fun held => ∀ v ∈ held, v.From d)
            (keeps_providerNow fun p hp v hv => hp.statusValues _ v hv) fun held hheld => ?_
          refine Effects.ret ((hr.insert ?_ _).insert (from_made d _) _)
          cases held with
          | none => exact from_made d _
          | some v => exact hheld v rfl

/-- Latching the PTP data set brings in no other device. -/
theorem keeps_latchPtp {r : Readings} (hr : ValuesFrom d r.values) :
    Effects.Keeps (OneDevice d) (latchPtp r) fun r => ValuesFrom d r.1.values := by
  refine Effects.seq (keeps_hasFeature _) fun found _ => ?_
  cases found with
  | none => exact Effects.ret hr
  | some n =>
      refine Effects.seq (keeps_anyHas _) fun latched _ => ?_
      cases latched with
      | none => exact Effects.ret hr
      | some n =>
          refine Effects.seq (Effects.tried (R := fun _ => True)
            (keeps_deviceCall fun _ _ _ _ _ _ => trivial)) fun done _ => ?_
          cases done with
          | ok u => exact Effects.ret hr
          | error e => exact Effects.ret hr

/-- What is expected from now on comes from the device. -/
theorem keeps_addMeasurements {names : List (Sourced String)} (h : ∀ m ∈ names, m.From d) :
    Effects.Keeps (OneDevice d) (addMeasurements names) fun _ => True := by
  refine keeps_changeProvider (fun p hp => ?_) fun p => rfl
  refine { hp with measurements := fun m hm => ?_ }
  obtain hm | hm := List.mem_append.1 hm
  · exact hp.measurements m hm
  · exact h m hm

/-- A candidate is noted under its own name. -/
theorem keeps_noteMeasurement (item : String × Candidates) :
    Effects.Keeps (OneDevice d) (noteMeasurement ⟨⟩ item) fun _ => True := by
  refine Effects.ite (fun _ => ?_) fun _ => Effects.ret trivial
  refine Effects.seq (keeps_anyHas _) fun found hfound => ?_
  cases found with
  | none => exact Effects.ret trivial
  | some n =>
      refine keeps_addMeasurements fun m hm => ?_
      rw [List.mem_singleton.1 hm, hfound n rfl]
      exact from_read d _

/-- What has been measured is expected from now on. -/
theorem keeps_noteMeasurements (cfg : GenicamConfig) {values : SourcedValues}
    (h : ValuesFrom d values) :
    Effects.Keeps (OneDevice d) (noteMeasurements cfg values) fun _ => True := by
  refine Effects.seq (keeps_addMeasurements (measurementsOf_from h)) fun _ _ => ?_
  refine Effects.seq (Effects.loop (Q := fun _ => True)
    (fun item _ _ _ => keeps_noteMeasurement item) trivial) fun _ _ => ?_
  refine Effects.seq (keeps_hasFeature _) fun found hfound => ?_
  cases found with
  | none => exact Effects.ret trivial
  | some n =>
      refine Effects.seq keeps_selectorEntries fun entries hentries => ?_
      refine Effects.seq (keeps_addMeasurements fun m hm => ?_) fun _ _ => ?_
      · obtain ⟨e, he, rfl⟩ := List.mem_map.1 hm
        exact hentries e he
      · refine Effects.seq keeps_selectorEntries fun entries _ => ?_
        refine Effects.ite (fun _ => ?_) fun _ => Effects.ret trivial
        refine keeps_addMeasurements fun m hm => ?_
        rw [List.mem_singleton.1 hm, hfound n rfl]
        exact from_read d _

/-- All of a report comes from `d`. -/
structure CameraReport.From (d : Nat) (report : CameraReport) : Prop where
  hardwareId : report.hardwareId.From d
  values : ValuesFrom d report.values

/-- The whole poll, once the device is known. -/
theorem keeps_pollDevice (cfg : GenicamConfig) {hw : Sourced String} (hhw : hw.From d) :
    Effects.Keeps (OneDevice d) (pollDevice cfg hw) fun report => report.From d := by
  refine Effects.seq (keeps_latchPtp (valuesFrom_empty d)) fun r hr => ?_
  refine Effects.seq (keeps_temperatures cfg hr) fun r hr => ?_
  refine Effects.seq (Effects.loop (Q := fun r : Readings => ValuesFrom d r.values)
    (fun item _ r hr => keeps_featureRound cfg _ hr item) hr) fun r hr => ?_
  refine Effects.ite (fun _ => Effects.fail _) fun _ => ?_
  refine Effects.seq (keeps_noteMeasurements cfg hr) fun _ _ => ?_
  refine Effects.seq (R := fun measurements => ∀ m ∈ measurements, m.From d)
    (keeps_providerNow fun p hp => hp.measurements) fun measurements hm => ?_
  exact Effects.ret ⟨hhw, cameraReport_from cfg hw (reportValues_from hr hm) _⟩

end Poll

/-! ## Poll after poll -/

/-- What is so between two polls. -/
structure Settled (s : Station) : Prop where
  names : Names s.camera
  record : ∃ d, s.provider.KeptFrom d ∧ OnRecord d s.provider s.camera

/-- A station before its first poll. -/
theorem settled_init : Settled .init :=
  { names := fun _ hdev => by cases hdev
    record := ⟨0, keptFrom_init 0 none, fun _ hdev => by cases hdev⟩ }

/-- Between two polls the provider and the camera agree as they did within. -/
theorem OneDevice.settled {d : Nat} {w : PollWorld} (h : OneDevice d w) :
    Settled ⟨w.provider, w.camera⟩ :=
  ⟨h.names, d, h.kept, h.record⟩

/-- The identity on record behind a transaction that may reset it. -/
def recordAfter (p : GenicamState) (t : Transaction) (cam : CameraHandle) : Option Nat :=
  match t.device cam with
  | .ok dev => some dev.ident
  | .error _ => p.deviceId

/-- No object is opened with the identity the provider has on record for an earlier one,
and the object the poll begins with was opened to the end. -/
def NoReuse (s : Station) : List Transaction → Prop
  | [] => True
  | t :: script =>
    let cam := t.events.foldl CameraHandle.after s.camera
    Avoids s.provider.deviceId t.events ∧
      (∀ t' ∈ script, Avoids (recordAfter s.provider t cam) t'.events) ∧
      ∀ dev, t.device cam = .ok dev → cam.named = true

/-- All that a poll reports, and what it leaves in the cache, comes from `d`; it read no
other object. -/
structure Polled.OfOne (d : Nat) (polled : Polled) : Prop where
  report : polled.report.From d
  entries : ∀ e ∈ polled.entries, e.From d
  begun : d ∈ polled.reads
  reads : ∀ n ∈ polled.reads, n = d

/-- The poll after its first transaction. -/
theorem oneDevice_first {s : Station} (hs : Settled s) {t : Transaction}
    {script : List Transaction} (hscript : NoReuse s (t :: script)) {dev : DeviceObject}
    (hdev : t.device (t.events.foldl CameraHandle.after s.camera) = .ok dev) :
    OneDevice dev.number ⟨s.provider.forDevice dev, t.events.foldl CameraHandle.after s.camera,
      script, [dev.number]⟩ := by
  obtain ⟨hfirst, hrest, -⟩ := hscript
  obtain ⟨d, hkept, hrecord⟩ := hs.record
  have device := Transaction.device_eq_ok hdev
  have id : (s.provider.forDevice dev).deviceId = some dev.ident := by
    unfold GenicamState.forDevice
    split
    · assumption
    · rfl
  have kept : (s.provider.forDevice dev).KeptFrom dev.number := by
    unfold GenicamState.forDevice
    split
    · next hid =>
        rw [onRecord_after hrecord hfirst dev device hid]
        exact hkept
    · exact keptFrom_init _ _
  refine ⟨kept, ?_, names_after hs.names t.events, ?_, List.mem_singleton_self _,
    fun n hn => List.mem_singleton.1 hn⟩
  · intro dev' hdev' _
    have same : some dev' = some dev := hdev'.symm.trans device
    exact congrArg DeviceObject.number (Option.some.inj same)
  · intro t' ht'
    have avoids := hrest t' ht'
    rw [recordAfter, hdev] at avoids
    rw [id]
    exact avoids

/-- One poll: the report is of one device, and the next poll finds what this one did. -/
theorem pollStep_spec (cfg : GenicamConfig) {s : Station} {script : List Transaction}
    (hs : Settled s) (hscript : NoReuse s script) :
    Settled (pollStep cfg s script).1 ∧
      ∀ polled, (pollStep cfg s script).2 = .ok polled → ∃ d, polled.OfOne d := by
  have run : (poll cfg).run ⟨s.provider, s.camera, script, []⟩ =
      match (deviceCall true fun _ cam _ => .ok cam.hardwareId).run
        ⟨s.provider, s.camera, script, []⟩ with
      | .ok hw w => (pollDevice cfg hw).run w
      | .error e w => .error e w := by
    simp only [poll, EStateM.run, bind, EStateM.bind]
    cases deviceCall true (fun _ cam _ => Except.ok cam.hardwareId)
      (⟨s.provider, s.camera, script, []⟩ : PollWorld) <;> rfl
  rw [pollStep, run, deviceCall_run]
  cases script with
  | nil => exact ⟨hs, fun _ h => by cases h⟩
  | cons t script =>
      dsimp only [PollWorld.next]
      cases hdev : t.device (t.events.foldl CameraHandle.after s.camera) with
      | error e =>
          obtain ⟨d, hkept, hrecord⟩ := hs.record
          refine ⟨⟨names_after hs.names t.events, d, hkept, ?_⟩, fun _ h => by cases h⟩
          exact onRecord_after hrecord hscript.1
      | ok dev =>
          have first := oneDevice_first hs hscript hdev
          have names : (t.events.foldl CameraHandle.after s.camera).hardwareId.From dev.number :=
            first.names dev (Transaction.device_eq_ok hdev) (hscript.2.2 dev hdev)
          have rest := keeps_pollDevice cfg names _ first
          dsimp only
          rw [if_neg fun changed => changed.2 rfl]
          dsimp only [List.nil_append]
          split at rest
          · next report w hrun =>
              rw [hrun]
              refine ⟨rest.1.settled, ?_⟩
              intro polled hpolled
              cases hpolled
              exact ⟨dev.number, rest.2, rest.1.kept.entries, rest.1.begun, rest.1.reads⟩
          · next e w hrun =>
              rw [hrun]
              exact ⟨rest.settled, fun _ h => by cases h⟩

/-- Where no identity on record comes back, every poll that succeeds reports one object,
that it read at every transaction. -/
theorem polls_ofOne (cfg : GenicamConfig) (scripts : List (List Transaction))
    (h : Machine.Meets (pollStep cfg) NoReuse .init scripts) :
    ∀ e ∈ Machine.history (pollStep cfg) .init scripts,
      ∀ polled, e.2 = .ok polled → ∃ d, polled.OfOne d :=
  Machine.forall_history_of_meets
    (D := fun _ (r : Except PollError Polled) =>
      ∀ polled, r = .ok polled → ∃ d, polled.OfOne d)
    (fun _ _ hs hscript => pollStep_spec cfg hs hscript) settled_init h

/-! ## A camera with one feature -/

/-- A provider of the default features. -/
def plainGenicam : GenicamConfig :=
  { configured := []
    ptpExpected := false
    parse := fun s _ => if s = "5" then .int 5 else .str s
    text := ⟨fun _ => "", fun _ => ""⟩ }

/-- A transaction that goes through, with a camera that has `DeviceUptime` alone. -/
def uptimeRead (events : List CameraEvent) : Transaction :=
  { events := events, stopped := false, busy := false, connected := true, locked := false,
    busyInside := false
    answers := {
      has := fun feature => .ok (feature = "DeviceUptime")
      text := fun _ => .ok "5"
      command := fun _ => .ok ()
      select := fun _ _ => .ok ()
      entries := .ok [] } }

/-- A poll of it: the camera is opened before the first transaction, and the events come
before the uptime is read. -/
def uptimePoll (events : List CameraEvent) : List Transaction :=
  uptimeRead [.opened ⟨1, 7, "A"⟩ true] :: (List.replicate 3 (uptimeRead []) ++
    uptimeRead events :: List.replicate 11 (uptimeRead []))

/-- A poll that reads the uptime of the one camera there is. -/
theorem polls_ofOne_uptime :
    ∃ polled, (pollStep plainGenicam .init (uptimePoll [])).2 = .ok polled ∧
      ∃ d, polled.OfOne d := by
  have meets : Machine.Meets (pollStep plainGenicam) NoReuse .init [uptimePoll []] := by
    refine ⟨⟨?_, ?_, fun _ _ => rfl⟩, trivial⟩
    · intro dev named _ hid
      cases hid
    · intro t ht dev named hmem
      have quiet : t = uptimeRead [] := by
        rw [List.mem_append, List.mem_cons] at ht
        obtain ht | rfl | ht := ht
        · exact List.eq_of_mem_replicate ht
        · rfl
        · exact List.eq_of_mem_replicate ht
      rw [quiet] at hmem
      cases hmem
  have succeeds : (pollStep plainGenicam .init (uptimePoll [])).2.toOption.isSome := by
    decide +kernel
  have first : (uptimePoll [], (pollStep plainGenicam .init (uptimePoll [])).2) ∈
      Machine.history (pollStep plainGenicam) .init [uptimePoll []] := List.mem_cons_self
  have ofOne := polls_ofOne plainGenicam _ meets _ first
  dsimp only at ofOne
  cases hpoll : (pollStep plainGenicam .init (uptimePoll [])).2 with
  | error e =>
      rw [hpoll] at succeeds
      cases succeeds
  | ok polled => exact ⟨polled, rfl, ofOne polled hpoll⟩

/-- A camera that is replaced before the uptime is read, by an object with the identity of
the first one. -/
def replacedPoll : List Transaction := uptimePoll [.released, .opened ⟨2, 7, "B"⟩ true]

/-- The replacement goes unnoticed: the poll reads both objects, and succeeds. -/
theorem not_polls_ofOne :
    ¬ ∀ (cfg : GenicamConfig) (scripts : List (List Transaction)),
      ∀ e ∈ Machine.history (pollStep cfg) .init scripts,
        ∀ polled, e.2 = .ok polled → ∃ d, polled.OfOne d := by
  intro ofOne
  have mixed : (pollStep plainGenicam .init replacedPoll).2.toOption.map Polled.reads =
      some (List.replicate 4 1 ++ List.replicate 12 2) := by decide +kernel
  cases hpoll : (pollStep plainGenicam .init replacedPoll).2 with
  | error e =>
      rw [hpoll] at mixed
      cases mixed
  | ok polled =>
      rw [hpoll] at mixed
      have reads : polled.reads = List.replicate 4 1 ++ List.replicate 12 2 :=
        Option.some.inj mixed
      have first : (replacedPoll, (pollStep plainGenicam .init replacedPoll).2) ∈
          Machine.history (pollStep plainGenicam) .init [replacedPoll] := List.mem_cons_self
      have fromOne := ofOne plainGenicam [replacedPoll] _ first
      dsimp only at fromOne
      obtain ⟨d, one⟩ := fromOne polled hpoll
      have old : 1 = d := one.reads 1 (by rw [reads]; decide)
      have new : 2 = d := one.reads 2 (by rw [reads]; decide)
      exact absurd (old.trans new.symm) (by decide)

end CamDriver
