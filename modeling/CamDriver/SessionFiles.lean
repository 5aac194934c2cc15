import Mathlib
import CamDriver.Lib.Glob
import CamDriver.Lib.Machine

/-!
# CamDriver.SessionFiles

The files of recording sessions in one directory: the prefix `activate` picks for a
session, the files it writes under it, and the segments `finish_close` finds.

Sessions come one after the other.  The directory may hold anything before the first
one, and the clock may show anything.  The recorder is GStreamer's: `SplitMux` says
where it writes its fragments, as far as the location is plain text to it.
-/

namespace CamDriver

open PosixPath

/-! ## The prefix -/

/-- A character that a run id keeps. -/
def isRunIdChar (c : Char) : Bool :=
  ('A' ≤ c && c ≤ 'Z') || ('a' ≤ c && c ≤ 'z') || ('0' ≤ c && c ≤ '9') ||
    c = '_' || c = '.' || c = '-'

/-- `_RUN_ID_STRIP.sub("-", ...)`: a stretch of other characters becomes one `-`. -/
def subRunId (inStretch : Bool) : Text → Text
  | [] => []
  | c :: t =>
    if isRunIdChar c then c :: subRunId false t
    else if inStretch then subRunId true t
    else '-' :: subRunId true t

/-- `strip("-.")`. -/
def stripDashDot (t : Text) : Text :=
  (t.dropWhile fun c => c = '-' || c = '.').rdropWhile fun c => c = '-' || c = '.'

/-- `sanitize_run_id`. -/
def sanitizeRunId (value : Option Text) : Option Text :=
  match value with
  | none => none
  | some value =>
    let s := (stripDashDot (subRunId false value)).take 64
    if s = [] then none else some s

/-- The UTC time of a clock as `%Y%m%d-%H%M%S`. -/
structure ClockStamp where
  text : Text
  digits : ∀ c ∈ text, c.isDigit = true ∨ c = '-'

/-- The `n`-th prefix that is tried. -/
def candidatePrefix (base : Text) (n : Nat) : Text :=
  if n = 1 then base else base ++ '.' :: Nat.toDigits 10 n

/-- The search for a prefix that nothing there starts with, from the `n`-th on. -/
def searchPrefix (existing : List Text) (base : Text) : Nat → Nat → Text
  | 0, n => candidatePrefix base n
  | fuel + 1, n =>
    if existing.any (candidatePrefix base n <+: ·) then searchPrefix existing base fuel (n + 1)
    else candidatePrefix base n

/-- The length of the longest name. -/
def longest (names : List Text) : Nat := (names.map List.length).foldr max 0

/-- `unique_run_prefix`; a directory that is not there lists nothing. -/
def uniqueRunPrefix (tree : Glob.Tree) (outputDir namePrefix : Text) (stamp : ClockStamp) : Text :=
  let existing := Glob.listdir tree outputDir
  searchPrefix existing (namePrefix ++ '-' :: stamp.text) (10 ^ longest existing) 1

/-! ## The recorder -/

/-- `%05d`. -/
def fiveDigits (n : Nat) : Text := (Nat.toDigits 10 n).leftpad 5 '0'

/-- Text that neither the syntax of a pipeline description nor `printf` reads anything
into. -/
def LaunchPlain (t : Text) : Prop := ∀ c ∈ t, c ≠ '%' ∧ c ≠ '"' ∧ c ≠ '\\'

instance (t : Text) : Decidable (LaunchPlain t) := List.decidableBAll _ t

/-- `splitmuxsink`, told to write to `location="<loc>-%05d.mkv"`: where its fragments
go. -/
structure SplitMux where
  fragment : Text → Nat → Text
  plain : ∀ loc, LaunchPlain loc → ∀ i,
    fragment loc i = loc ++ ('-' :: (fiveDigits i ++ ".mkv".toList))

/-! ## A session -/

/-- `output_dir`, as the service resolves it: an absolute path. -/
structure RecordingDir where
  text : Text
  absolute : text.head? = some '/'

/-- How a session ends: closed, with the fragments that the bus has reported by then, or
broken off when it has made so many of its files. -/
inductive SessionEnd where
  | closes (reported : List Nat)
  | breaksOff (made : Nat)
deriving DecidableEq, Repr

/-- A session: its config and its request, what the clock shows, how many fragments it
fills, and how it ends. -/
structure SessionRequest where
  namePrefix : Text
  runId : Option Text
  stamp : ClockStamp
  fragments : Nat
  ending : SessionEnd

/-- What a session leaves: the entries it creates in turn, those of its fragments, and
the segments it attests once it is closed. -/
structure SessionFiles where
  created : List (List Text)
  fragments : List (List Text)
  segments : Option (List Text)
deriving DecidableEq, Repr

namespace SessionRequest

/-- The name `activate` asks a prefix for. -/
def name (r : SessionRequest) : Text :=
  r.namePrefix ++ match sanitizeRunId r.runId with
    | some runId => '-' :: runId
    | none => []

def runPrefix (out : RecordingDir) (tree : Glob.Tree) (r : SessionRequest) : Text :=
  uniqueRunPrefix tree out.text r.name r.stamp

/-- `loc`: what the recorder and the settings file are named after. -/
def loc (out : RecordingDir) (tree : Glob.Tree) (r : SessionRequest) : Text :=
  rstrip out.text ++ '/' :: r.runPrefix out tree

/-- `path_base`: what the sidecars are named after. -/
def pathBase (out : RecordingDir) (tree : Glob.Tree) (r : SessionRequest) : Text :=
  join out.text (r.runPrefix out tree)

/-- The fragments of the recorder. -/
def fragmentPaths (mux : SplitMux) (out : RecordingDir) (tree : Glob.Tree) (r : SessionRequest) :
    List Text :=
  (List.range r.fragments).map (mux.fragment (r.loc out tree))

/-- The files of a session: the snapshot of its settings, its sidecars, its fragments. -/
def paths (mux : SplitMux) (out : RecordingDir) (tree : Glob.Tree) (r : SessionRequest) :
    List Text :=
  (r.loc out tree ++ ".recording-settings.json".toList) ::
    (r.pathBase out tree ++ ".csv".toList) :: (r.pathBase out tree ++ ".json".toList) ::
    r.fragmentPaths mux out tree

/-- `sorted(set(self.segments) | set(glob.glob(self.path_base + "-*.mkv")))`. -/
def segments (mux : SplitMux) (out : RecordingDir) (tree tree' : Glob.Tree) (r : SessionRequest)
    (reported : List Nat) : List Text :=
  let seen := (reported.filter (· < r.fragments)).map (mux.fragment (r.loc out tree))
  (seen ++ Glob.glob tree' (r.pathBase out tree ++ "-*.mkv".toList)).dedup.mergeSort (· ≤ ·)

/-- A session, from the directory it finds to the one it leaves. -/
def record (mux : SplitMux) (out : RecordingDir) (tree : Glob.Tree) (r : SessionRequest) :
    Glob.Tree × SessionFiles :=
  let fragments := (r.fragmentPaths mux out tree).map resolve
  match r.ending with
  | .closes reported =>
    let created := (r.paths mux out tree).map resolve
    let tree' := tree ++ created
    (tree', { created, fragments, segments := some (r.segments mux out tree tree' reported) })
  | .breaksOff made =>
    let created := ((r.paths mux out tree).take made).map resolve
    (tree ++ created, { created, fragments, segments := none })

end SessionRequest

end CamDriver
