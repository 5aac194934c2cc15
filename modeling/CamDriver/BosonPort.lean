import CamDriver.BosonFraming

/-!
# CamDriver.BosonPort

`health_boson.BosonPort`: one command over the camera's serial line.

The line carries the camera's replies, in the order they are sent, as the bytes of their
frames.  A command drops what the drain finds on it, writes its request, and reads until a
frame has its sequence number and its function id (`receive`).  What the camera sends, and
when, is a `Course` for each command.
-/

namespace CamDriver

namespace Boson

/-! ## Requests and replies -/

/-- `FN_CAMERA_SN`. -/
def fnCameraSn : UInt32 := 0x00050002
/-- `FN_PART_NUMBER`. -/
def fnPartNumber : UInt32 := 0x00050004
/-- `FN_FFC_STATE`. -/
def fnFfcState : UInt32 := 0x00050054
/-- `FN_FPA_TEMP`. -/
def fnFpaTemp : UInt32 := 0x00050030
/-- `FN_LAST_FFC_FRAME`. -/
def fnLastFfcFrame : UInt32 := 0x0005005d
/-- `FN_FRAME_COUNT`. -/
def fnFrameCount : UInt32 := 0x00020002

/-- A request as the camera reads it, with its place among all that were ever written and
the number of the port object it was written to. -/
structure Request where
  number : Nat
  port : Nat
  seq : UInt32
  functionId : UInt32
deriving DecidableEq, Repr

/-- A reply to a request. -/
structure Reply where
  request : Request
  status : UInt32
  payload : List UInt8
deriving DecidableEq, Repr

/-- What a reply says. -/
def Reply.fields (r : Reply) : Fields :=
  ⟨r.request.seq, r.request.functionId, r.status, r.payload⟩

/-- The bytes of a reply. -/
def Reply.frame (r : Reply) : List UInt8 :=
  encodeFrame r.request.seq.toNat r.request.functionId r.status r.payload

/-! ## The line -/

/-- What is on the line: the rest of a frame whose beginning is gone, and the replies behind
it. -/
structure SerialLine where
  rest : List UInt8
  replies : List Reply
deriving DecidableEq, Repr

def SerialLine.bytes (line : SerialLine) : List UInt8 :=
  line.rest ++ line.replies.flatMap Reply.frame

/-- The bytes of the replies behind a rest, without the first `n`. -/
def dropBytes (n : Nat) (rest : List UInt8) : List Reply → SerialLine
  | [] => ⟨rest.drop n, []⟩
  | r :: replies =>
    if n ≤ rest.length then ⟨rest.drop n, r :: replies⟩
    else dropBytes (n - rest.length) r.frame replies

/-- The line without its first `n` bytes. -/
def SerialLine.drop (line : SerialLine) (n : Nat) : SerialLine :=
  dropBytes n line.rest line.replies

/-- `os.read` of at most `n` bytes that are there. -/
def SerialLine.read (line : SerialLine) (n : Nat) : List UInt8 × SerialLine :=
  (line.bytes.take (min n 4096), line.drop (min n 4096))

/-- A reply is sent. -/
def SerialLine.send (line : SerialLine) (r : Reply) : SerialLine :=
  { line with replies := line.replies ++ [r] }

/-! ## Receiving -/

/-- The frame a command takes for its reply. -/
def replyOf (seq functionId : UInt32) (frame : List UInt8) : Option Fields :=
  match decodeFrame frame with
  | .error _ => none
  | .ok fields =>
    if fields.seq ≠ seq ∨ fields.functionId ≠ functionId then none else some fields

/-- What a command has read: the frame it took, if one came, the line behind, and how many
frames came out of the splitter. -/
structure Reception where
  reply : Option Fields
  line : SerialLine
  frames : Nat

/-- The loop of `command`, with the splitter's buffer, over the reads until the deadline. -/
def receive (seq functionId : UInt32) (buf : List UInt8) (line : SerialLine) :
    List Nat → Reception
  | [] => ⟨none, line, 0⟩
  | n :: reads =>
    let (data, line) := line.read n
    let (buf, frames) := FrameSplitter.feed buf data
    match frames.findSome? (replyOf seq functionId) with
    | some fields => ⟨some fields, line, frames.length⟩
    | none =>
      let r := receive seq functionId buf line reads
      { r with frames := frames.length + r.frames }

/-! ## A command -/

/-- A `BosonError`, or an `OSError`. -/
inductive PortError where
  | bad (message : String)
  | gone
deriving DecidableEq, Repr

/-- `BosonPort`; `number` tells it from every other port object. -/
structure Port where
  number : Nat
  seq : UInt32
  isOpen : Bool
deriving DecidableEq, Repr

/-- The camera answers the `which`-th of the requests it has not answered. -/
structure Answer where
  which : Nat
  status : UInt32
  payload : List UInt8

/-- Where a command may hit an `OSError`. -/
inductive PortFailure where
  | drain | write | read
deriving DecidableEq, Repr

/-- The course of a command: whether the provider is stopped before it, the answers that are
sent up to the drain, how many bytes that drops, the answers behind it, and the reads up to
the deadline. -/
structure Course where
  stopped : Bool
  before : List Answer
  drained : Nat
  behind : List Answer
  reads : List Nat
  failure : Option PortFailure

/-- A command that was written, with the replies that came in whole while it read, and what
it came to. -/
structure CommandRecord where
  request : Request
  arrived : List Reply
  outcome : Except PortError (List UInt8)
deriving DecidableEq

/-- The camera, and the commands so far. -/
structure CameraLink where
  sent : List Request
  awaiting : List Request
  line : SerialLine
  calls : Nat
  records : List CommandRecord

def CameraLink.init : CameraLink :=
  { sent := [], awaiting := [], line := ⟨[], []⟩, calls := 0, records := [] }

def CameraLink.answer (link : CameraLink) (a : Answer) : CameraLink :=
  match link.awaiting[a.which]? with
  | none => link
  | some request =>
    { link with
      awaiting := link.awaiting.eraseIdx a.which
      line := link.line.send ⟨request, a.status, a.payload⟩ }

/-- `_drain`, behind the answers up to it. -/
def CameraLink.drain (link : CameraLink) (course : Course) : CameraLink :=
  let link := course.before.foldl CameraLink.answer link
  { link with line := link.line.drop course.drained }

/-- A request is written; where that fails, the camera does not get it. -/
def CameraLink.write (link : CameraLink) (request : Request) (whole : Bool) : CameraLink :=
  { link with
    sent := link.sent ++ [request]
    awaiting := if whole then link.awaiting ++ [request] else link.awaiting }

/-- `RETURN_CODES`. -/
def returnCodes : List (UInt32 × String) :=
  [ (0x0161, "bad command id"), (0x0162, "bad payload"), (0x0170, "unspecified error"),
    (0x017d, "insufficient bytes"), (0x017e, "excess bytes"), (0x017f, "buffer overflow"),
    (0x0203, "range error") ]

/-- A number in capital hexadecimal digits, at least `width` of them. -/
def hexadecimal (width n : Nat) : String :=
  let digits := (Nat.toDigits 16 n).map Char.toUpper
  "0x" ++ String.ofList (List.replicate (width - digits.length) '0' ++ digits)

example : hexadecimal 8 fnLastFfcFrame.toNat = "0x0005005D" := by decide

/-- What a command comes to, of the frame it took; `timeout` is the text of `timeout_s`. -/
def outcomeOf (timeout : String) (functionId : UInt32) (failure : Option PortFailure) :
    Option Fields → Except PortError (List UInt8)
  | some fields =>
    if fields.status ≠ 0 then
      .error (.bad (hexadecimal 8 functionId.toNat ++ ": camera returned " ++
        hexadecimal 4 fields.status.toNat ++ " (" ++
        (returnCodes.lookup fields.status).getD "unknown" ++ ")"))
    else .ok fields.payload
  | none =>
    if failure = some .read then .error .gone
    else .error (.bad ("no reply to " ++ hexadecimal 8 functionId.toNat ++ " within " ++
      timeout ++ "s"))

/-- The reads of a command, and its end. -/
def CameraLink.listen (link : CameraLink) (timeout : String) (request : Request)
    (course : Course) : Except PortError (List UInt8) × CameraLink :=
  let link := course.behind.foldl CameraLink.answer link
  let r := receive request.seq request.functionId [] link.line course.reads
  let outcome := outcomeOf timeout request.functionId course.failure r.reply
  let arrived := link.line.replies.take r.frames
  (outcome, { link with line := r.line, records := link.records ++ [⟨request, arrived, outcome⟩] })

/-- `command`, with the port behind it. -/
def Port.command (port : Port) (timeout : String) (functionId : UInt32) (course : Course)
    (link : CameraLink) : Except PortError (List UInt8) × Port × CameraLink :=
  if ¬ port.isOpen then (.error .gone, port, link)
  else
    let link := { link with calls := link.calls + 1 }.drain course
    if course.failure = some .drain then (.error .gone, port, link)
    else
      -- `_seq` wraps around at 2^32
      let port := { port with seq := port.seq + 1 }
      let request := ⟨link.sent.length, port.number, port.seq, functionId⟩
      if course.failure = some .write then (.error .gone, port, link.write request false)
      else
        let (outcome, link) := (link.write request true).listen timeout request course
        (outcome, port, link)

end Boson

end CamDriver
