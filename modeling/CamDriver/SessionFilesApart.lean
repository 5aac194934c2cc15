import CamDriver.SessionFiles

/-!
# CamDriver.SessionFilesApart

Session files never mix, where the name prefix and the directory are plain text.

The prefix of a session is new among the names of its directory (`uniqueRunPrefix_new`),
so a name with a slash in it, which is not one of them, gets no such promise.  And what
is found behind the prefix is the session's own where the pattern is read as the text
that was written, which brackets, stars and question marks break.
-/

namespace CamDriver

open PosixPath

/-! ## Texts -/

/-- Runs are told apart by their number. -/
theorem fiveDigits_injective : Function.Injective fiveDigits := by
  intro m n h
  have hvalue : ∀ k, Nat.ofDigitChars 10 (fiveDigits k) 0 = k := by
    intro k
    rw [fiveDigits, List.leftpad, Nat.ofDigitChars_append, Nat.ofDigitChars_replicate_zero,
      Nat.mul_zero, Nat.ofDigitChars_ten_toDigits]
  rw [← hvalue m, h, hvalue n]

/-- A digit may stand in a run id. -/
theorem isRunIdChar_of_isDigit {c : Char} (h : c.isDigit = true) : isRunIdChar c = true := by
  simp only [Char.isDigit, Bool.and_eq_true, decide_eq_true_eq] at h
  have hrange : ('0' ≤ c && c ≤ '9') = true := by
    simpa [Char.le_def] using h
  simp [isRunIdChar, hrange]

/-- What `activate` adds to a name prefix means nothing to a path, to a pattern or to the
recorder. -/
theorem plain_of_isRunIdChar {c : Char} (h : isRunIdChar c = true) :
    c ≠ '/' ∧ (c ≠ '*' ∧ c ≠ '?' ∧ c ≠ '[' ∧ c ≠ ']') ∧ c ≠ '%' ∧ c ≠ '"' ∧ c ≠ '\\' := by
  refine ⟨?_, ⟨?_, ?_, ?_, ?_⟩, ?_, ?_, ?_⟩ <;>
    · rintro rfl
      exact absurd h (by decide)

/-- So may what a stretch of other characters is replaced by. -/
theorem isRunIdChar_subRunId {inStretch : Bool} {t : Text} {c : Char}
    (h : c ∈ subRunId inStretch t) : isRunIdChar c = true := by
  induction t generalizing inStretch with
  | nil => cases h
  | cons d t ih =>
      unfold subRunId at h
      split at h
      · next hd =>
          rcases List.mem_cons.mp h with rfl | h
          · exact hd
          · exact ih h
      · split at h
        · exact ih h
        · rcases List.mem_cons.mp h with rfl | h
          · decide
          · exact ih h

/-- So a sanitized run id has no other characters. -/
theorem isRunIdChar_sanitizeRunId {value : Option Text} {runId : Text}
    (h : sanitizeRunId value = some runId) {c : Char} (hc : c ∈ runId) : isRunIdChar c = true := by
  cases value with
  | none => cases h
  | some value =>
      simp only [sanitizeRunId, Option.ite_none_left_eq_some] at h
      obtain ⟨-, h⟩ := h
      obtain rfl := Option.some.inj h
      have hmem := List.mem_of_mem_take hc
      have hdrop := (List.rdropWhile_prefix _ _).subset hmem
      exact isRunIdChar_subRunId ((List.dropWhile_sublist _).subset hdrop)

/-! ## The prefix is new -/

/-- No name is longer than the longest. -/
theorem length_le_longest {names : List Text} {name : Text} (h : name ∈ names) :
    name.length ≤ longest names := by
  induction names with
  | nil => cases h
  | cons n names ih =>
      have hcons : longest (n :: names) = max n.length (longest names) := rfl
      rcases List.mem_cons.mp h with rfl | h
      · rw [hcons]
        exact le_max_left _ _
      · rw [hcons]
        exact (ih h).trans (le_max_right _ _)

/-- The search ends at a prefix that no name begins with. -/
theorem searchPrefix_new {existing : List Text} {base : Text} {fuel n : Nat}
    (hfuel : 10 ^ longest existing ≤ n + fuel) (hn : 1 < n + fuel) {e : Text} (he : e ∈ existing) :
    ¬ searchPrefix existing base fuel n <+: e := by
  induction fuel generalizing n with
  | zero =>
      -- the number of the candidate alone is longer than any name
      intro hpre
      rw [searchPrefix, candidatePrefix, if_neg (by omega)] at hpre
      have hlen := hpre.length_le
      have hlongest := length_le_longest he
      simp only [List.length_append, List.length_cons] at hlen
      have hdigits := (Nat.length_toDigits_le_iff (by decide) (by omega)).mp
        (show (Nat.toDigits 10 n).length ≤ longest existing by omega)
      omega
  | succ fuel ih =>
      unfold searchPrefix
      split
      · exact ih (by omega) (by omega)
      · next hfree =>
          intro hpre
          exact hfree (List.any_eq_true.mpr ⟨e, he, decide_eq_true hpre⟩)

/-- **Uniqueness**: nothing in the directory starts with the prefix of a new session. -/
theorem uniqueRunPrefix_new {tree : Glob.Tree} {outputDir namePrefix : Text} {stamp : ClockStamp}
    {e : Text} (he : e ∈ Glob.listdir tree outputDir) :
    ¬ uniqueRunPrefix tree outputDir namePrefix stamp <+: e := by
  have hfuel : 0 < 10 ^ longest (Glob.listdir tree outputDir) := Nat.pow_pos (by decide)
  exact searchPrefix_new (by omega) (by omega) he

/-- It appends to the base only. -/
theorem searchPrefix_eq (existing : List Text) (base : Text) (fuel n : Nat) :
    ∃ tail, searchPrefix existing base fuel n = base ++ tail ∧
      ∀ c ∈ tail, isRunIdChar c = true := by
  have hcandidate : ∀ n, ∃ tail, candidatePrefix base n = base ++ tail ∧
      ∀ c ∈ tail, isRunIdChar c = true := by
    intro n
    unfold candidatePrefix
    split
    · exact ⟨[], (List.append_nil _).symm, fun c hc => by cases hc⟩
    · refine ⟨_, rfl, fun c hc => ?_⟩
      rcases List.mem_cons.mp hc with rfl | hc
      · decide
      · exact isRunIdChar_of_isDigit (Nat.isDigit_of_mem_toDigits (by decide) (by decide) hc)
  induction fuel generalizing n with
  | zero => exact hcandidate n
  | succ fuel ih =>
      unfold searchPrefix
      split
      · exact ih (n + 1)
      · exact hcandidate n

/-- A prefix is the configured one, with plain text behind it. -/
theorem SessionRequest.runPrefix_eq (out : RecordingDir) (tree : Glob.Tree) (r : SessionRequest) :
    ∃ tail, r.runPrefix out tree = r.namePrefix ++ tail ∧ tail ≠ [] ∧
      ∀ c ∈ tail, isRunIdChar c = true := by
  obtain ⟨number, hnumber, hplain⟩ := searchPrefix_eq (Glob.listdir tree out.text)
    (r.name ++ '-' :: r.stamp.text) (10 ^ longest (Glob.listdir tree out.text)) 1
  have hname : ∃ label, r.name = r.namePrefix ++ label ∧ ∀ c ∈ label, isRunIdChar c = true := by
    cases hid : sanitizeRunId r.runId with
    | none => exact ⟨[], by simp [SessionRequest.name, hid], fun c hc => by cases hc⟩
    | some runId =>
        refine ⟨'-' :: runId, by simp [SessionRequest.name, hid], fun c hc => ?_⟩
        rcases List.mem_cons.mp hc with rfl | hc
        · decide
        · exact isRunIdChar_sanitizeRunId hid hc
  obtain ⟨label, hlabel, hlabelPlain⟩ := hname
  refine ⟨label ++ ('-' :: r.stamp.text ++ number), ?_, by simp, fun c hc => ?_⟩
  · rw [SessionRequest.runPrefix, uniqueRunPrefix, hnumber, hlabel]
    simp
  · rcases List.mem_append.mp hc with hc | hc
    · exact hlabelPlain c hc
    rcases List.mem_append.mp hc with hc | hc
    · rcases List.mem_cons.mp hc with rfl | hc
      · decide
      · rcases r.stamp.digits c hc with hdigit | rfl
        · exact isRunIdChar_of_isDigit hdigit
        · decide
    · exact hplain c hc

/-! ## Plain names -/

/-- A name prefix that is one name to a path, itself to a pattern, and plain to the
recorder. -/
def PlainName (name : Text) : Prop :=
  '/' ∉ name ∧ Glob.literal name = true ∧ LaunchPlain name

instance (name : Text) : Decidable (PlainName name) :=
  inferInstanceAs (Decidable (_ ∧ _ ∧ _))

/-- A directory whose text is not a row of slashes, or is one; that a pattern gives back
as it is written; and that is plain to the recorder. -/
def RecordingDir.Plain (out : RecordingDir) : Prop :=
  (rstrip out.text ≠ [] ∨ out.text = ['/']) ∧ Glob.readsItself (dirOf out.text) = true ∧
    LaunchPlain out.text

instance RecordingDir.decidablePlain (out : RecordingDir) : Decidable out.Plain :=
  inferInstanceAs (Decidable (_ ∧ _ ∧ _))

/-- A plain directory has a name. -/
theorem RecordingDir.Plain.dirOf_ne_nil {out : RecordingDir} (h : out.Plain) :
    dirOf out.text ≠ [] := by
  rcases h.1 with hrow | hrow
  · unfold dirOf
    split
    · intro hnil
      simpa [hnil] using out.absolute
    · exact hrow
  · rw [hrow]
    decide

/-- What the files of a session are named after its prefix, its fragments apart. -/
def sideSuffixes : List Text :=
  [".recording-settings.json".toList, ".csv".toList, ".json".toList]

/-- What its fragments are named. -/
def fragmentSuffix (i : Nat) : Text := '-' :: (fiveDigits i ++ ".mkv".toList)

namespace SessionRequest

variable {mux : SplitMux} {out : RecordingDir} {tree : Glob.Tree} {r : SessionRequest}

/-- The names of a session's files. -/
def names (out : RecordingDir) (tree : Glob.Tree) (r : SessionRequest) : List Text :=
  (sideSuffixes ++ (List.range r.fragments).map fragmentSuffix).map (r.runPrefix out tree ++ ·)

/-- A prefix has no slash inside. -/
theorem slash_notMem_runPrefix (hname : PlainName r.namePrefix) :
    '/' ∉ r.runPrefix out tree := by
  obtain ⟨tail, htail, -, hplain⟩ := r.runPrefix_eq out tree
  rw [htail]
  intro hmem
  rcases List.mem_append.mp hmem with hmem | hmem
  · exact hname.1 hmem
  · exact (plain_of_isRunIdChar (hplain _ hmem)).1 rfl

/-- Nor has a name that begins with it. -/
theorem slash_notMem_runPrefix_append (hname : PlainName r.namePrefix) {s : Text} (hs : '/' ∉ s) :
    '/' ∉ r.runPrefix out tree ++ s := fun hmem =>
  (List.mem_append.mp hmem).elim (slash_notMem_runPrefix hname) hs

theorem runPrefix_ne_nil (out : RecordingDir) (tree : Glob.Tree) (r : SessionRequest) :
    r.runPrefix out tree ≠ [] := by
  obtain ⟨tail, htail, hne, -⟩ := r.runPrefix_eq out tree
  simp [htail, hne]

theorem literal_runPrefix (hname : PlainName r.namePrefix) :
    Glob.literal (r.runPrefix out tree) = true := by
  obtain ⟨tail, htail, -, hplain⟩ := r.runPrefix_eq out tree
  rw [htail]
  exact Glob.literal_append hname.2.1 fun c hc => (plain_of_isRunIdChar (hplain c hc)).2.1

/-- A location passes the launch text as it is. -/
theorem launchPlain_loc (hout : out.Plain) (hname : PlainName r.namePrefix) :
    LaunchPlain (r.loc out tree) := by
  obtain ⟨tail, htail, -, hplain⟩ := r.runPrefix_eq out tree
  intro c hc
  rcases List.mem_append.mp hc with hc | hc
  · exact hout.2.2 c ((List.rdropWhile_prefix _ _).subset hc)
  rcases List.mem_cons.mp hc with rfl | hc
  · decide
  rw [htail] at hc
  rcases List.mem_append.mp hc with hc | hc
  · exact hname.2.2 c hc
  · exact (plain_of_isRunIdChar (hplain c hc)).2.2

/-- A fragment is the location and its number. -/
theorem fragment_loc (hout : out.Plain) (hname : PlainName r.namePrefix) (i : Nat) :
    mux.fragment (r.loc out tree) i = r.loc out tree ++ fragmentSuffix i :=
  mux.plain _ (launchPlain_loc hout hname) i

/-- Files named after `loc` and after `path_base` are entries of one directory. -/
theorem resolve_loc_append (hname : PlainName r.namePrefix) {s : Text} (hs : '/' ∉ s) :
    resolve (r.loc out tree ++ s) = resolve out.text ++ [r.runPrefix out tree ++ s] := by
  have hslash := @slash_notMem_runPrefix_append out tree r hname s hs
  rw [loc, List.append_assoc, List.cons_append, resolve_slash, resolve_rstrip,
    resolve_of_name hslash (by simp [runPrefix_ne_nil])]

/-- A file of a session lies in the directory of the recordings. -/
theorem resolve_pathBase_append (hname : PlainName r.namePrefix) {s : Text} (hs : '/' ∉ s) :
    resolve (r.pathBase out tree ++ s) = resolve out.text ++ [r.runPrefix out tree ++ s] := by
  have hslash := @slash_notMem_runPrefix_append out tree r hname s hs
  rw [pathBase, ← join_append (runPrefix_ne_nil out tree r) (slash_notMem_runPrefix hname),
    resolve_join hslash (by simp [runPrefix_ne_nil])]

/-- The number of a fragment has no slash. -/
theorem slash_notMem_fragmentSuffix (i : Nat) : '/' ∉ fragmentSuffix i := by
  intro hmem
  have hdigits : '/' ∉ fiveDigits i := by
    intro hmem
    rcases List.mem_append.mp hmem with hmem | hmem
    · cases (List.mem_replicate.mp hmem).2
    · exact absurd (Nat.isDigit_of_mem_toDigits (by decide) (by decide) hmem) (by decide)
  simp [fragmentSuffix, hdigits] at hmem

/-- The fragments are named after `loc` in the directory as a pattern gives it back. -/
theorem fragment_eq_join (hout : out.Plain) (hname : PlainName r.namePrefix) (i : Nat) :
    mux.fragment (r.loc out tree) i =
      join (dirOf out.text) (r.runPrefix out tree ++ fragmentSuffix i) := by
  have hslash := @slash_notMem_runPrefix_append out tree r hname _ (slash_notMem_fragmentSuffix i)
  rw [fragment_loc hout hname, join_dirOf hout.1 hslash, loc, List.append_assoc]
  rfl

/-- So the fragments lie there too. -/
theorem map_resolve_fragmentPaths (hout : out.Plain) (hname : PlainName r.namePrefix) :
    (r.fragmentPaths mux out tree).map resolve =
      (List.range r.fragments).map fun i =>
        resolve out.text ++ [r.runPrefix out tree ++ fragmentSuffix i] := by
  rw [fragmentPaths, List.map_map]
  refine List.map_congr_left fun i _ => ?_
  rw [Function.comp_apply, fragment_loc hout hname,
    resolve_loc_append hname (slash_notMem_fragmentSuffix i)]

/-- The entries a session creates are names of its directory. -/
theorem map_resolve_paths (hout : out.Plain) (hname : PlainName r.namePrefix) :
    (r.paths mux out tree).map resolve =
      (r.names out tree).map fun n => resolve out.text ++ [n] := by
  simp only [paths, List.map_cons, resolve_loc_append hname (show
    '/' ∉ ".recording-settings.json".toList by decide), resolve_pathBase_append hname (show
    '/' ∉ ".csv".toList by decide), resolve_pathBase_append hname (show
    '/' ∉ ".json".toList by decide), map_resolve_fragmentPaths hout hname, names, sideSuffixes,
    List.cons_append, List.nil_append, List.map_map]
  rfl

/-- A session names no file twice. -/
theorem nodup_names (out : RecordingDir) (tree : Glob.Tree) (r : SessionRequest) :
    (r.names out tree).Nodup := by
  have hfragments : ((List.range r.fragments).map fragmentSuffix).Nodup := by
    refine List.nodup_range.map fun i j h => ?_
    exact fiveDigits_injective (List.append_cancel_right (List.cons.inj h).2)
  have hsides : sideSuffixes.Nodup := by decide
  refine (hsides.append hfragments ?_).map fun s t h => List.append_cancel_left h
  rintro s hs hmem
  obtain ⟨i, -, rfl⟩ := List.mem_map.mp hmem
  simp [sideSuffixes, fragmentSuffix] at hs

/-- What starts with the prefix of a session is new to its directory. -/
theorem notMem_of_runPrefix {name : Text} {below : List Text}
    (hpre : r.runPrefix out tree <+: name) : resolve out.text ++ name :: below ∉ tree :=
  fun hmem => uniqueRunPrefix_new (Glob.mem_listdir.mpr ⟨below, hmem⟩) hpre

/-- What `finish_close` looks for: the prefix, and the names of fragments. -/
theorem fnmatch_runPrefix (hname : PlainName r.namePrefix) (name : Text) :
    Glob.fnmatch (r.runPrefix out tree ++ "-*.mkv".toList) name = true ↔
      ∃ x, name = r.runPrefix out tree ++ ('-' :: (x ++ ".mkv".toList)) :=
  Glob.fnmatch_between (u := ['-']) (v := ".mkv".toList) (literal_runPrefix hname) (by decide)
    (by decide) (by decide) name

/-- A file is hidden just if the prefix is. -/
theorem isHidden_runPrefix_append (out : RecordingDir) (tree : Glob.Tree) (r : SessionRequest)
    (s : Text) :
    Glob.isHidden (r.runPrefix out tree ++ s) = Glob.isHidden (r.runPrefix out tree) := by
  rw [Glob.isHidden, Glob.isHidden, List.head?_append_of_ne_nil _ (runPrefix_ne_nil out tree r)]

/-- A name of the directory that is found is one of the session's fragments: everything else
with its prefix is new, and its other files go on with a dot. -/
theorem exists_fragment_of_fnmatch (hout : out.Plain) (hname : PlainName r.namePrefix) {name : Text}
    (hmem : name ∈ Glob.listdir (tree ++ (r.paths mux out tree).map resolve) out.text)
    (hmatch : Glob.fnmatch (r.runPrefix out tree ++ "-*.mkv".toList) name = true) :
    ∃ i ∈ List.range r.fragments, name = r.runPrefix out tree ++ fragmentSuffix i := by
  obtain ⟨x, rfl⟩ := (fnmatch_runPrefix hname name).mp hmatch
  obtain ⟨below, hbelow⟩ := Glob.mem_listdir.mp hmem
  rcases List.mem_append.mp hbelow with hold | hnew
  · exact absurd hold (notMem_of_runPrefix (List.prefix_append _ _))
  · rw [map_resolve_paths hout hname] at hnew
    obtain ⟨own, hown, heq⟩ := List.mem_map.mp hnew
    obtain ⟨hsame, -⟩ := List.cons.inj (List.append_cancel_left heq)
    obtain ⟨suffix, hsuffix, rfl⟩ := List.mem_map.mp hown
    obtain rfl := List.append_cancel_left hsame
    rcases List.mem_append.mp hsuffix with hside | hfragment
    · simp [sideSuffixes] at hside
    · obtain ⟨i, hi, hsuffix⟩ := List.mem_map.mp hfragment
      exact ⟨i, hi, by rw [hsuffix]⟩

/-- What is found behind the prefix of a session, once its files are there. -/
theorem mem_glob_iff (hout : out.Plain) (hname : PlainName r.namePrefix) {path : Text} :
    path ∈ Glob.glob (tree ++ (r.paths mux out tree).map resolve)
        (r.pathBase out tree ++ "-*.mkv".toList) ↔
      path ∈ r.fragmentPaths mux out tree := by
  have hslash := @slash_notMem_runPrefix_append out tree r hname "-*.mkv".toList (by decide)
  have hmagic : Glob.hasMagic (r.runPrefix out tree ++ "-*.mkv".toList) = true := by
    simp [Glob.hasMagic]
  have hpaths := @map_resolve_paths mux out tree r hout hname
  have hthere : Glob.lexists (tree ++ (r.paths mux out tree).map resolve) out.text = true := by
    rw [hpaths, Glob.lexists_iff]
    refine ⟨_, List.mem_append_right _ (List.mem_map_of_mem (List.mem_map_of_mem
      (List.mem_append_left _ List.mem_cons_self))), List.prefix_append _ _⟩
  rw [pathBase, ← join_append (runPrefix_ne_nil out tree r) (slash_notMem_runPrefix hname),
    Glob.mem_glob_join hslash hmagic hout.dirOf_ne_nil hout.2.1 hthere]
  constructor
  · rintro ⟨name, hmem, hfound, rfl⟩
    obtain ⟨i, hi, rfl⟩ :=
      exists_fragment_of_fnmatch hout hname hmem (Bool.and_eq_true_iff.mp hfound).2
    exact List.mem_map.mpr ⟨i, hi, fragment_eq_join hout hname i⟩
  · intro hmem
    obtain ⟨i, hi, rfl⟩ := List.mem_map.mp hmem
    refine ⟨r.runPrefix out tree ++ fragmentSuffix i, Glob.mem_listdir.mpr ⟨[], ?_⟩, ?_,
      fragment_eq_join hout hname i⟩
    · rw [hpaths]
      exact List.mem_append_right _ (List.mem_map_of_mem (List.mem_map_of_mem
        (List.mem_append_right _ (List.mem_map_of_mem hi))))
    · have hown := (fnmatch_runPrefix hname (r.runPrefix out tree ++ fragmentSuffix i)).mpr
        ⟨fiveDigits i, rfl⟩
      rw [isHidden_runPrefix_append, isHidden_runPrefix_append, hown]
      cases Glob.isHidden (r.runPrefix out tree) <;> rfl

/-- **Segments**: a session attests its own fragments, whatever the bus has reported. -/
theorem segments_perm (hout : out.Plain) (hname : PlainName r.namePrefix) (reported : List Nat) :
    (r.segments mux out tree (tree ++ (r.paths mux out tree).map resolve) reported).Perm
      (r.fragmentPaths mux out tree) := by
  refine (List.mergeSort_perm _ _).trans ?_
  have hnodup : (r.fragmentPaths mux out tree).Nodup := by
    refine List.nodup_range.map fun i j h => ?_
    rw [fragment_loc hout hname, fragment_loc hout hname] at h
    exact fiveDigits_injective
      (List.append_cancel_right (List.cons.inj (List.append_cancel_left h)).2)
  rw [List.perm_ext_iff_of_nodup (List.nodup_dedup _) hnodup]
  intro path
  rw [List.mem_dedup, List.mem_append, mem_glob_iff hout hname]
  refine or_iff_right_of_imp fun hseen => ?_
  obtain ⟨i, hi, rfl⟩ := List.mem_map.mp hseen
  exact List.mem_map_of_mem (List.mem_range.mpr (of_decide_eq_true (List.mem_filter.mp hi).2))

end SessionRequest

/-! ## Sequences of sessions -/

/-- A session overwrites nothing, and attests the files it wrote and no others. -/
def OwnFiles (mux : SplitMux) (out : RecordingDir) (tree : Glob.Tree) (r : SessionRequest) :
    Prop :=
  let files := (r.record mux out tree).2
  files.created.Nodup ∧ (∀ entry ∈ files.created, entry ∉ tree) ∧
    ∀ segments ∈ files.segments, (segments.map resolve).Perm files.fragments

/-- Session files never mix. -/
structure NeverMix (mux : SplitMux) (out : RecordingDir) (tree : Glob.Tree)
    (requests : List SessionRequest) : Prop where
  apart : ((Machine.history (SessionRequest.record mux out) tree requests).map
    fun h => h.2.created).Pairwise List.Disjoint
  own : Machine.Meets (SessionRequest.record mux out) (OwnFiles mux out) tree requests

/-- Recording a session adds its files. -/
theorem tree_record (mux : SplitMux) (out : RecordingDir) (tree : Glob.Tree) (r : SessionRequest) :
    (r.record mux out tree).1 = tree ++ (r.record mux out tree).2.created := by
  unfold SessionRequest.record
  cases r.ending <;> rfl

/-- **Step lemma**: a session of a plain name keeps to its own files. -/
theorem ownFiles_of_plain {mux : SplitMux} {out : RecordingDir} {tree : Glob.Tree}
    {r : SessionRequest} (hout : out.Plain) (hname : PlainName r.namePrefix) :
    OwnFiles mux out tree r := by
  have hpaths := @SessionRequest.map_resolve_paths mux out tree r hout hname
  have hnodup : ((r.paths mux out tree).map resolve).Nodup := by
    rw [hpaths]
    refine (r.nodup_names out tree).map fun m n h => ?_
    exact List.singleton_injective (List.append_cancel_left h)
  have hnew : ∀ entry ∈ (r.paths mux out tree).map resolve, entry ∉ tree := by
    intro entry hentry
    rw [hpaths] at hentry
    obtain ⟨name, hmem, rfl⟩ := List.mem_map.mp hentry
    obtain ⟨suffix, -, rfl⟩ := List.mem_map.mp hmem
    exact SessionRequest.notMem_of_runPrefix (List.prefix_append _ _)
  unfold OwnFiles SessionRequest.record
  cases r.ending with
  | closes reported =>
      refine ⟨hnodup, hnew, fun segments hsegments => ?_⟩
      obtain rfl := Option.some.inj hsegments
      exact (SessionRequest.segments_perm hout hname reported).map resolve
  | breaksOff made =>
      have hsub : (((r.paths mux out tree).take made).map resolve).Sublist
          ((r.paths mux out tree).map resolve) := (List.take_sublist _ _).map _
      exact ⟨hnodup.sublist hsub, fun entry hentry => hnew entry (hsub.subset hentry),
        fun segments hsegments => by cases hsegments⟩

/-- What sessions create is new to the directory the first of them finds. -/
theorem created_new {mux : SplitMux} {out : RecordingDir} {requests : List SessionRequest}
    (hout : out.Plain) (hnames : ∀ r ∈ requests, PlainName r.namePrefix) {tree : Glob.Tree}
    {h : SessionRequest × SessionFiles}
    (hmem : h ∈ Machine.history (SessionRequest.record mux out) tree requests)
    {entry : List Text} (hentry : entry ∈ h.2.created) : entry ∉ tree := by
  induction requests generalizing tree with
  | nil => cases hmem
  | cons r requests ih =>
      rcases List.mem_cons.mp hmem with rfl | hmem
      · exact (ownFiles_of_plain hout (hnames r List.mem_cons_self)).2.1 entry hentry
      · have hlater := ih (fun r hr => hnames r (List.mem_cons_of_mem _ hr)) hmem
        intro hold
        rw [tree_record] at hlater
        exact hlater (List.mem_append_left _ hold)

/-- **Sessions in one directory**: whatever is in it, whatever the clock shows and the
operator calls the sessions, their files never mix if the directory and the configured
name prefixes are plain. -/
theorem neverMix_of_plain (mux : SplitMux) {out : RecordingDir} (tree : Glob.Tree)
    {requests : List SessionRequest} (hout : out.Plain)
    (hnames : ∀ r ∈ requests, PlainName r.namePrefix) : NeverMix mux out tree requests := by
  induction requests generalizing tree with
  | nil => exact ⟨List.Pairwise.nil, trivial⟩
  | cons r requests ih =>
      have hrest := ih (r.record mux out tree).1 fun r hr => hnames r (List.mem_cons_of_mem _ hr)
      refine ⟨List.pairwise_cons.mpr ⟨?_, hrest.apart⟩,
        ownFiles_of_plain hout (hnames r List.mem_cons_self), hrest.own⟩
      intro created hmem entry hfirst hlater
      obtain ⟨h, hh, rfl⟩ := List.mem_map.mp hmem
      refine created_new hout (fun r hr => hnames r (List.mem_cons_of_mem _ hr)) hh hlater ?_
      rw [tree_record]
      exact List.mem_append_right _ hfirst

/-- A recorder to which every location is plain. -/
def plainMux : SplitMux where
  fragment loc i := loc ++ fragmentSuffix i
  plain _ _ _ := rfl

/-- `/rec`. -/
def recDir : RecordingDir where
  text := "/rec".toList
  absolute := rfl

/-- A closed session of one fragment that the bus did not report, in the first second of
2026. -/
def oneFragment (namePrefix : String) : SessionRequest where
  namePrefix := namePrefix.toList
  runId := none
  stamp := {
    text := "20260101-000000".toList
    digits := by
      have hall : ("20260101-000000".toList.all fun c => c.isDigit || c = '-') = true := by decide
      intro c hc
      simpa using List.all_eq_true.mp hall c hc }
  fragments := 1
  ending := .closes []

/-- Two activations in one second. -/
theorem neverMix_sameSecond : NeverMix plainMux recDir [] [oneFragment "cam", oneFragment "cam"] :=
  neverMix_of_plain plainMux [] (by decide +kernel) (by decide +kernel)

/-- The claimed law, for every name.  The pattern of a session called `cam[1]` looks for
`cam1`, and the session attests none of its files. -/
theorem not_neverMix :
    ¬ ∀ (mux : SplitMux) (out : RecordingDir) (tree : Glob.Tree) (requests : List SessionRequest),
      NeverMix mux out tree requests := by
  intro h
  have hown := (h plainMux recDir [] [oneFragment "cam[1]"]).own.1.2.2
  have hlen := (hown [] (by decide +kernel)).length_eq
  exact absurd hlen (by decide +kernel)

end CamDriver
