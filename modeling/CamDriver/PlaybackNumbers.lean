import CamDriver.Lib.Binary64
import CamDriver.Lib.Framing
import CamDriver.PlaybackRequest
import CamDriver.Text

/-!
# CamDriver.PlaybackNumbers

What a playback does with its speed, in the numbers of the language: `Pacer.wait`,
`PlaybackState._timeline_position_ns` and the numbers of `descriptor`, with the query a
speed comes in by and the check of the config.

Integers have no bound; a float is a binary64 number, an infinity or a nan.  Division and
product of an integer and a float round, and raise where the integer is too large for a
float; `int` raises for an infinity and a nan.
-/

namespace CamDriver

/-! ## Numbers -/

/-- `ValueError` or `OverflowError`. -/
inductive NumberError where
  | value | overflow
deriving DecidableEq, Repr

namespace PyFloat

/-- A result, rounded. -/
def ofRat (q : ℚ) : PyFloat :=
  match Binary64.round q with
  | some r => .finite r
  | none => if 0 < q then .posInf else .negInf

/-- It is a number of JSON. -/
def isFinite : PyFloat → Bool
  | .finite _ => true
  | .posInf | .negInf | .nan => false

/-- `x <= 0`. -/
def isAtMostZero : PyFloat → Bool
  | .finite q => q ≤ 0
  | .negInf => true
  | .posInf | .nan => false

/-- `x > 0`. -/
def isPositive : PyFloat → Bool
  | .finite q => 0 < q
  | .posInf => true
  | .negInf | .nan => false

/-- `int(x)`. -/
def toInt : PyFloat → Except NumberError Int
  | .finite q => .ok (truncate q)
  | .posInf | .negInf => .error .overflow
  | .nan => .error .value

/-- `round(x, 3)`. -/
def round3 : PyFloat → PyFloat
  | .finite q => ofRat (roundHalfEven (q * 1000) / 1000)
  | x => x

end PyFloat

/-- An integer as a float. -/
def intToFloat (i : Int) : Except NumberError ℚ :=
  match Binary64.round i with
  | some q => .ok q
  | none => .error .overflow

/-- `i / x`, where `x` is not zero. -/
def divideInt (i : Int) (x : PyFloat) : Except NumberError PyFloat :=
  (intToFloat i).map fun a =>
    match x with
    | .finite b => .ofRat (a / b)
    | .posInf | .negInf => .finite 0
    | .nan => .nan

/-- `i * x`. -/
def timesInt (i : Int) (x : PyFloat) : Except NumberError PyFloat :=
  (intToFloat i).map fun a =>
    match x with
    | .finite b => .ofRat (a * b)
    | .posInf => if a = 0 then .nan else if 0 < a then .posInf else .negInf
    | .negInf => if a = 0 then .nan else if 0 < a then .negInf else .posInf
    | .nan => .nan

/-- `round(ns / 1e9, 3)`. -/
def secondsOf (ns : Int) : Except NumberError PyFloat :=
  (divideInt ns (.finite 1000000000)).map PyFloat.round3

/-- `int(x * 1e9)`. -/
def PyFloat.toNs : PyFloat → Except NumberError Int
  | .finite q => (ofRat (q * 1000000000)).toInt
  | x => x.toInt

/-! ## The pacer -/

namespace Pacer

/-- The sleep to an instant: `none` where it is reached.  One of more than `maxSleep` seconds
is refused. -/
def sleepUntil (maxSleep : ℚ) (target now : Int) : Except NumberError (Option ℚ) :=
  if target ≤ now then .ok none
  else do
    match ← divideInt (target - now) (.finite 1000000000) with
    | .finite delay => if delay ≤ maxSleep then return some delay else throw .overflow
    | _ => throw .overflow

/-- The instant a timestamp is due, by the baseline `t0`. -/
def dueAt (p : Pacer PyFloat) (t0 tsNs : Int) : Except NumberError Int := do
  return p.t0Wall + (← (← divideInt (tsNs - t0) p.speed).toInt)

/-- The sleep of `wait`. -/
def sleep (maxSleep : ℚ) (p : Pacer PyFloat) (t0 tsNs now : Int) :
    Except NumberError (Option ℚ) := do
  sleepUntil maxSleep (← p.dueAt t0 tsNs) now

/-- `wait`, called at `now`, with the pacer behind it. -/
def waitFloat (maxSleep : ℚ) (p : Pacer PyFloat) (tsNs now : Int) :
    Pacer PyFloat × Except NumberError (Option ℚ) :=
  let p := { p with lastSrc := some tsNs }
  if p.speed.isAtMostZero then (p, .ok none)
  else match p.t0Src, p.anchorSrcNs with
    | some t0, _ => (p, p.sleep maxSleep t0 tsNs now)
    | none, none => ({ p with t0Src := some tsNs, t0Wall := now }, .ok none)
    | none, some anchor =>
      let p := { p with t0Src := some anchor, t0Wall := now }
      (p, p.sleep maxSleep anchor tsNs now)

end Pacer

/-! ## The descriptor -/

namespace PlaybackControl

/-- The position on the timeline, where that has got on by `wallNs` since the baseline
`t0`; `durationNs`: `int(self.duration_s * 1e9)`. -/
def positionAt (c : PlaybackControl) (durationNs : Option Int) (t0 wallNs : Int) : Int :=
  let timeline := wallNs + (t0 - c.cycleBaseNs.getD t0)
  let pos := max c.positionNs timeline
  max 0 ((durationNs.map (min pos)).getD pos)

/-- `_timeline_position_ns`. -/
def timelinePositionNs (c : PlaybackControl) (durationNs : Option Int) (now : Int) :
    Except NumberError Int :=
  match c.pacer.t0Src with
  | none => .ok (max 0 c.positionNs)
  | some t0 =>
    if c.state = .playing ∧ c.pacer.speed.isPositive then do
      let wall ← timesInt (now - c.pacer.t0Wall) c.pacer.speed
      return c.positionAt durationNs t0 (← wall.toInt)
    else .ok (max 0 c.positionNs)

/-- The numbers of `descriptor` that a speed has to do with. -/
structure DescriptorNumbers where
  speed : PyFloat
  positionS : PyFloat
deriving DecidableEq, Repr

/-- `descriptor`. -/
def describe (c : PlaybackControl) (durationNs : Option Int) (now : Int) :
    Except NumberError DescriptorNumbers := do
  let positionS ← divideInt (← c.timelinePositionNs durationNs now) (.finite 1000000000)
  return { speed := c.pacer.speed, positionS := positionS.round3 }

end PlaybackControl

/-! ## Where a speed comes from -/

/-- The check of the config: `sc.speed < 0` is refused. -/
def configAccepts (speed : PyFloat) : Bool := !speed.isNegative

/-- A query of the control: its payload read as JSON (the error of that; something that is
no object; the fields of an object), if it has one, and the parameters of its selector. -/
structure ControlQuery where
  payload : Option (Except String (Option (List (String × Value))))
  parameters : String

/-- `_split_parameters`. -/
def splitParameters (parameters : String) : List (String × String) :=
  let parts := (parameters.toList.map fun c => if c = '&' then ';' else c).splitOn ';'
  parts.filterMap fun part =>
    (Framing.cutAt '=' part).map fun cut =>
      (String.ofList (strip cut.1), String.ofList (strip cut.2))

/-- A parameter of a selector, coerced. -/
def coerceParameter (py : Builtins) (item : String × String) : String × Value :=
  if item.1 = "speed" then
    (item.1, ((py.floatOfStr item.2).map Value.float).getD (.str item.2))
  else if item.1 = "loop" then
    (item.1, if item.2.toLower = "true" then .bool true
      else if item.2.toLower = "false" then .bool false else .str item.2)
  else (item.1, .str item.2)

/-- The field of a request: of two with one name, the last. -/
def paramOf (fields : List (String × Value)) (key : String) : Value :=
  (fields.reverse.lookup key).getD .null

/-- `parse_playback_request`, from the fields on. -/
def requestOf (fields : List (String × Value)) : Except String (String × PlaybackParams) :=
  match paramOf fields "op" with
  | .str op =>
    if op = "" then .error "missing 'op'"
    else .ok (op, { speed := paramOf fields "speed", loop := paramOf fields "loop" })
  | _ => .error "missing 'op'"

/-- `parse_playback_request`. -/
def parsePlaybackRequest (py : Builtins) (query : ControlQuery) :
    Except String (String × PlaybackParams) :=
  match query.payload with
  | some (.error e) => .error ("request is not JSON: " ++ e)
  | some (.ok none) => .error "request must be a JSON object"
  | some (.ok (some fields)) => requestOf fields
  | none => requestOf ((splitParameters query.parameters).map (coerceParameter py))

end CamDriver
