import DriveReach.Csmi.Header
import DriveReach.Dialogue
import DriveReach.Text.Hex
/-!
# Calls

A call is a buffer of header and payload. `Call.presented` is the buffer that the driver sees: its
header depends on the call alone and its payload is the caller's. `Call.issue` presents it and reads
the driver's return code and the length it reports, which is never taken for more than the payload.
-/

namespace DriveReach

open Csmi

/-- A call ready to be issued. -/
structure Call where
  code : ControlCode
  /-- Room for the header, and the payload. -/
  buffer : Bytes
  timeout : Timeout
  controller : UInt32
  direction : CallDirection
  /-- Buffers are dumped when this admits traces. -/
  verbosity : Verbosity

/-- What came back from a driver. -/
structure Reply where
  code : ReturnCode
  /-- The length the driver reports, at most that of the payload. -/
  returned : Nat
  buffer : Bytes

namespace Call

/-- A call over a buffer, with the time limit and direction of its code. -/
def ofBuffer (code : ControlCode) (buffer : Bytes) : Except Fault Call := do
  Layout.header.require buffer
  return ⟨code, buffer, code.timeout, 0, code.direction, .off⟩

/-- A call with a payload. -/
def ofPayload (code : ControlCode) (payload : Bytes) : Call :=
  ⟨code, Bytes.zeros headerLength ++ payload, code.timeout, 0, code.direction, .off⟩

def payload (c : Call) : Bytes := c.buffer.drop headerLength

/-- What the header says. The length has 32 bits in it. -/
def header (c : Call) : HeaderFields :=
  ⟨c.code, c.code.signature, c.timeout, UInt32.ofNat c.payload.length, c.controller, c.direction⟩

/-- The buffer as the driver sees it. -/
def presented (c : Call) : Bytes :=
  HeaderLayout.compact.write (Bytes.zeros headerLength) c.header ++ c.payload

/-! ## Log lines -/

/-- A row of at most 16 bytes of a dump. -/
def dumpRow (offset : Nat) (row : Bytes) : String :=
  "  " ++ Hex.padded4 offset ++ ": " ++ String.intercalate " " (row.map Hex.byte)

/-- The rows of a dump from an offset. -/
def dumpRows (offset : Nat) : Bytes → List String
  | [] => []
  | b :: bs => dumpRow offset (b :: bs.take 15) :: dumpRows (offset + 16) (bs.drop 15)
termination_by b => b.length
decreasing_by simp only [List.length_drop, List.length_cons]; omega

/-- The lines that dump a buffer. -/
def dump (label : String) (b : Bytes) : List LogLine :=
  (s!"{label} ({b.length} bytes)" :: dumpRows 0 b).map (⟨.trace, ·⟩)

/-- The dump of a buffer when the call's verbosity asks for it. -/
def dumpIfAsked (c : Call) (label : String) (b : Bytes) : List LogLine :=
  if c.verbosity.admits .trace then dump label b else []

/-- The line that announces a call. -/
def announcement (c : Call) : String :=
  s!"issuing {c.code.name} ({c.code.signature.text}) on controller {c.controller.toNat}: " ++
    s!"{c.payload.length} payload bytes, timeout {c.timeout.seconds}s"

/-! ## Issuing -/

/-- What a buffer that came back says. -/
def reply (c : Call) (buffer : Bytes) : Reply where
  code := HeaderLayout.compact.returnCode buffer
  returned := min (HeaderLayout.compact.payloadLength buffer).toNat c.payload.length
  buffer := buffer

/-- Issue a call once. It fails only when the call does not go through. -/
def issue (c : Call) (channel : Channel) : Attempt Reply := ExceptT.mk do
  Dialogue.notes (⟨.debug, c.announcement⟩ :: c.dumpIfAsked "request" c.presented)
  match ← Dialogue.call channel c.code c.presented .done with
  | .error reason =>
    Dialogue.debug s!"{c.code.name} transport failure: {reason}"
    return .error (.transport reason)
  | .ok written =>
    let buffer := c.presented.put 0 written
    let reply := c.reply buffer
    Dialogue.notes (⟨.debug, s!"{c.code.name} returned {reply.code.text}"⟩ ::
      c.dumpIfAsked "response" buffer)
    return .ok reply

end Call

/-- The payload that came back. -/
def Reply.payload (r : Reply) : Bytes := r.buffer.drop headerLength

end DriveReach
