import Wlcodex.Lib.JsonRoundTrip
import Wlcodex.Rpc.WebSocket

namespace Wlcodex.Rpc

open Wlcodex.Lib

/-! The reader of the daemon transport. -/

namespace WebSocket

inductive Handled where
  | kept (fragments : List Bytes)
  | ping (payload : Bytes)
  | message (members : List (String × Json))
  | closed
  /-- `decode` or `json.loads` raised. -/
  | failed

/-- `json.loads(b"".join(text_fragments).decode("utf-8"))`; only a mapping is handed on. -/
def loadMessage (fragments : List Bytes) : Handled :=
  match (Bytes.text? fragments.flatten).bind Json.loads with
  | none => .failed
  | some (.object members) => .message members
  | some _ => .kept []

/-- One turn of the loop of `_read_stdout`. -/
def handleFrame (fragments : List Bytes) (frame : Received) : Handled :=
  if frame.opcode = opText then
    if frame.fin then loadMessage [frame.payload] else .kept [frame.payload]
  else if frame.opcode = opContinuation then
    if fragments = [] then .kept []
    else if frame.fin then loadMessage (fragments ++ [frame.payload])
    else .kept (fragments ++ [frame.payload])
  else if frame.opcode = opPing then .ping frame.payload
  else if frame.opcode = opClose then .closed
  else .kept fragments

inductive Ending where
  | incomplete
  | closed
  | failed
  deriving DecidableEq

structure Reading where
  messages : List (List (String × Json)) := []
  written : List Bytes := []
  ending : Ending

theorem length_of_readLength {second : UInt8} {bytes rest : Bytes} {length : Nat}
    (read : readLength second bytes = some (length, rest)) : rest.length ≤ bytes.length := by
  unfold readLength at read
  simp only at read
  split_ifs at read
  · obtain ⟨taken, done, same⟩ := Option.map_eq_some_iff.mp read
    rw [Prod.mk.injEq] at same
    rw [← same.2, Bytes.length_of_readexactly done]
    exact Nat.le_add_left _ _
  · obtain ⟨taken, done, same⟩ := Option.map_eq_some_iff.mp read
    rw [Prod.mk.injEq] at same
    rw [← same.2, Bytes.length_of_readexactly done]
    exact Nat.le_add_left _ _
  · cases read
    exact le_refl _

theorem length_of_readWhen {wanted : Bool} {count : Nat} {bytes read rest : Bytes}
    (done : readWhen wanted count bytes = some (read, rest)) : rest.length ≤ bytes.length := by
  unfold readWhen at done
  split_ifs at done
  · have := Bytes.length_of_readexactly done
    omega
  · cases done
    exact le_refl _

variable {frame : Received}

theorem readFrame_shorter {bytes rest : Bytes}
    (read : readFrame bytes = some (frame, rest)) : rest.length < bytes.length := by
  simp only [readFrame, Option.bind_eq_bind, Option.bind_eq_some_iff, Prod.exists] at read
  obtain ⟨header, afterHeader, headed, length, afterLength, measured, mask, afterMask, keyed,
    payload, afterPayload, filled, same⟩ := read
  cases same
  have := Bytes.length_of_readexactly headed
  have := length_of_readLength measured
  have := length_of_readWhen keyed
  have := length_of_readWhen filled
  omega

/-- The loop after a frame; `later` is its next turns, from the fragments that are open then
and the number of masks drawn by then. -/
def afterFrame (urandom : Nat → Mask) (fragments : List Bytes) (drawn : Nat)
    (later : List Bytes → Nat → Reading) : Handled → Reading
  | .kept fragments => later fragments drawn
  | .ping payload =>
      let reading := later fragments (drawn + 1)
      { reading with written := encodeClientPong payload (urandom drawn) :: reading.written }
  | .message members =>
      let reading := later [] drawn
      { reading with messages := members :: reading.messages }
  | .closed => { ending := .closed }
  | .failed => { ending := .failed }

/-- `_read_stdout` over all the bytes of a connection; `urandom` gives the masks, `drawn`
counts those already used. -/
def readStdout (urandom : Nat → Mask) (fragments : List Bytes) (drawn : Nat) (bytes : Bytes) :
    Reading :=
  match read : readFrame bytes with
  | none => { ending := .incomplete }
  | some (frame, rest) =>
      have : rest.length < bytes.length := readFrame_shorter read
      afterFrame urandom fragments drawn
        (fun fragments drawn => readStdout urandom fragments drawn rest)
        (handleFrame fragments frame)
termination_by bytes.length

theorem readStdout_nil (urandom : Nat → Mask) (fragments : List Bytes) (drawn : Nat) :
    readStdout urandom fragments drawn [] = { ending := .incomplete } := by
  rw [readStdout]
  rfl

theorem readStdout_of_readFrame (urandom : Nat → Mask) (fragments : List Bytes) (drawn : Nat)
    {bytes rest : Bytes} (read : readFrame bytes = some (frame, rest)) :
    readStdout urandom fragments drawn bytes =
      afterFrame urandom fragments drawn
        (fun fragments drawn => readStdout urandom fragments drawn rest)
        (handleFrame fragments frame) := by
  rw [readStdout]
  split
  next none => rw [read] at none; cases none
  next frame rest some =>
    rw [read] at some
    cases some
    rfl

/-! What a sender may put on the wire. -/

structure Frame where
  fin : Bool
  opcode : UInt8
  payload : Bytes
  mask : Option Mask
  nibble : opcode < 16
  fits : payload.length < 2 ^ 63

namespace Frame

def bytes (frame : Frame) : Bytes :=
  frameFrom ((if frame.fin then 0x80 else 0) ||| frame.opcode) frame.payload frame.mask

def received (frame : Frame) : Received := ⟨frame.opcode, frame.payload, frame.fin⟩

theorem readFrame_bytes (frame : Frame) (rest : Bytes) :
    readFrame (frame.bytes ++ rest) = some (frame.received, rest) := by
  obtain ⟨opcode, fin⟩ := first_bits frame.nibble frame.fin
  rw [bytes, readFrame_frameFrom _ frame.fits, opcode, fin, received]

end Frame

/-- A mapping with the spelling that a sender chose, cut into the payloads of a text frame
and of the continuation frames after it. -/
structure SentMessage where
  members : List (String × Json)
  text : List Char
  first : Bytes
  more : List Bytes
  loads : Json.loads text = some (.object members)
  whole : first ++ more.flatten = Bytes.ofText text

def continuations : List Bytes → List Received
  | [] => []
  | payload :: more => ⟨opContinuation, payload, more.isEmpty⟩ :: continuations more

def SentMessage.frames (sent : SentMessage) : List Received :=
  ⟨opText, sent.first, sent.more.isEmpty⟩ :: continuations sent.more

def Received.isControl (frame : Received) : Bool := frame.opcode = opPing || frame.opcode = opPong

def pings (frames : List Received) : List Bytes :=
  (frames.filter fun frame => frame.opcode = opPing).map Received.payload

def pongs (urandom : Nat → Mask) (drawn : Nat) (payloads : List Bytes) : List Bytes :=
  (payloads.zipIdx drawn).map fun (payload, index) => encodeClientPong payload (urandom index)

def assemble : List Bytes → List Received → Option (List (List (String × Json)))
  | _, [] => some []
  | fragments, frame :: frames =>
      match handleFrame fragments frame with
      | .kept fragments => assemble fragments frames
      | .message members => (assemble [] frames).map (members :: ·)
      | _ => none

theorem loadMessage_text {members : List (String × Json)} {text : List Char} {fragments : List Bytes}
    (loads : Json.loads text = some (.object members))
    (whole : fragments.flatten = Bytes.ofText text) : loadMessage fragments = .message members := by
  rw [loadMessage, whole, Bytes.text?_ofText, Option.bind_some, loads]

theorem handleFrame_continuation {fragments : List Bytes} (opened : fragments ≠ []) (payload : Bytes)
    (fin : Bool) :
    handleFrame fragments ⟨opContinuation, payload, fin⟩ =
      if fin then loadMessage (fragments ++ [payload]) else .kept (fragments ++ [payload]) := by
  rw [handleFrame, if_neg (by decide : opContinuation ≠ opText), if_pos rfl, if_neg opened]

theorem assemble_continuations {members : List (String × Json)} {text : List Char}
    (loads : Json.loads text = some (.object members)) (later : List Received)
    (more : List Bytes) (unfinished : more ≠ []) (fragments : List Bytes) (opened : fragments ≠ [])
    (whole : fragments.flatten ++ more.flatten = Bytes.ofText text) :
    assemble fragments (continuations more ++ later) = (assemble [] later).map (members :: ·) := by
  induction more generalizing fragments with
  | nil => exact absurd rfl unfinished
  | cons payload more ih =>
      rw [continuations, List.cons_append, assemble, handleFrame_continuation opened]
      cases more with
      | nil =>
          have joined : (fragments ++ [payload]).flatten = Bytes.ofText text := by
            rw [← whole, List.flatten_append]
          rw [List.isEmpty_nil, if_pos rfl, loadMessage_text loads joined]
          rfl
      | cons next more =>
          apply ih
          · exact List.cons_ne_nil next more
          · simp
          · rw [← whole, List.flatten_append, List.append_assoc]
            simp

theorem assemble_frames (sent : SentMessage) (later : List Received) :
    assemble [] (sent.frames ++ later) = (assemble [] later).map (sent.members :: ·) := by
  rw [SentMessage.frames, List.cons_append, assemble, handleFrame, if_pos rfl]
  cases unfinished : sent.more with
  | nil =>
      have whole : [sent.first].flatten = Bytes.ofText sent.text := by
        rw [← sent.whole, unfinished, List.flatten_singleton, List.flatten_nil, List.append_nil]
      rw [List.isEmpty_nil, if_pos rfl, loadMessage_text sent.loads whole]
      rfl
  | cons next more =>
      rw [List.isEmpty_cons, if_neg Bool.false_ne_true, ← unfinished]
      apply assemble_continuations sent.loads
      · rw [unfinished]
        exact List.cons_ne_nil next more
      · exact List.cons_ne_nil _ _
      · rw [List.flatten_singleton]
        exact sent.whole

theorem assemble_sent (sent : List SentMessage) :
    assemble [] (sent.flatMap SentMessage.frames) = some (sent.map SentMessage.members) := by
  induction sent with
  | nil => rfl
  | cons message sent ih =>
      rw [List.flatMap_cons, assemble_frames, ih]
      rfl

theorem handleFrame_ping (fragments : List Bytes) (ping : frame.opcode = opPing) :
    handleFrame fragments frame = .ping frame.payload := by
  rw [handleFrame, ping, if_neg (by decide), if_neg (by decide), if_pos rfl]

theorem handleFrame_pong (fragments : List Bytes) (pong : frame.opcode = opPong) :
    handleFrame fragments frame = .kept fragments := by
  rw [handleFrame, pong, if_neg (by decide), if_neg (by decide), if_neg (by decide),
    if_neg (by decide)]

theorem readStdout_frames (urandom : Nat → Mask) (frames : List Frame) (fragments : List Bytes)
    (drawn : Nat) (messages : List (List (String × Json)))
    (assembled : assemble fragments
      ((frames.map Frame.received).filter fun frame => !frame.isControl) = some messages) :
    readStdout urandom fragments drawn (frames.flatMap Frame.bytes) =
      ⟨messages, pongs urandom drawn (pings (frames.map Frame.received)), .incomplete⟩ := by
  induction frames generalizing fragments drawn messages with
  | nil =>
      cases assembled
      exact readStdout_nil urandom fragments drawn
  | cons frame frames ih =>
      rw [List.flatMap_cons, readStdout_of_readFrame urandom fragments drawn
        (frame.readFrame_bytes _)]
      by_cases ping : frame.received.opcode = opPing
      · have control : frame.received.isControl = true := by simp [Received.isControl, ping]
        rw [List.map_cons, List.filter_cons_of_neg (by simp [control])] at assembled
        rw [handleFrame_ping fragments ping, afterFrame, ih fragments _ messages assembled]
        simp [pings, pongs, ping]
      by_cases pong : frame.received.opcode = opPong
      · have control : frame.received.isControl = true := by simp [Received.isControl, pong]
        rw [List.map_cons, List.filter_cons_of_neg (by simp [control])] at assembled
        rw [handleFrame_pong fragments pong, afterFrame, ih fragments _ messages assembled]
        simp [pings, ping]
      · have data : frame.received.isControl = false := by simp [Received.isControl, ping, pong]
        have same : pings ((frame :: frames).map Frame.received) =
            pings (frames.map Frame.received) := by
          simp [pings, ping]
        rw [List.map_cons, List.filter_cons_of_pos (by simp [data]), assemble] at assembled
        rw [same]
        cases handled : handleFrame fragments frame.received with
        | kept left =>
            rw [handled] at assembled
            exact ih left drawn messages assembled
        | message members =>
            rw [handled] at assembled
            obtain ⟨others, rest, rfl⟩ := Option.map_eq_some_iff.mp assembled
            rw [afterFrame, ih [] drawn others rest]
        | ping | closed | failed => rw [handled] at assembled; cases assembled

/-- What one side writes the other side reads: a frame is read back and nothing after it is
touched, and messages cut into fragments arrive in order whatever pings and pongs come
between, each ping answered by one pong with its payload. -/
theorem frames_round_trip :
    (∀ (opcode : UInt8) (payload : Bytes) (mask : Option Mask) (rest : Bytes),
      opcode < 16 → payload.length < 2 ^ 63 →
        readFrame (encodeFrame opcode payload mask ++ rest) = some (⟨opcode, payload, true⟩, rest)) ∧
    ∀ (urandom : Nat → Mask) (sent : List SentMessage) (frames : List Frame),
      (frames.map Frame.received).filter (fun frame => !frame.isControl) =
          sent.flatMap SentMessage.frames →
        readStdout urandom [] 0 (frames.flatMap Frame.bytes) =
          { messages := sent.map SentMessage.members
            written := pongs urandom 0 (pings (frames.map Frame.received))
            ending := .incomplete } := by
  constructor
  · intro opcode payload mask rest nibble fits
    exact Frame.readFrame_bytes ⟨true, opcode, payload, mask, nibble, fits⟩ rest
  · intro urandom sent frames carried
    apply readStdout_frames
    rw [carried, assemble_sent]

def emptyMapping : SentMessage where
  members := []
  text := Json.write .compact (.object [])
  first := [0x7B]
  more := [[0x7D]]
  loads := Json.loads_write .compact Json.wellKeyed_empty
  whole := by decide

def oneByteFrame (fin : Bool) (opcode byte : UInt8) (nibble : opcode < 16) : Frame :=
  ⟨fin, opcode, [byte], none, nibble, by rw [List.length_singleton]; decide⟩

theorem empty_mapping_round_trip :
    readFrame (encodeFrame opPing [7] (some ⟨[1, 2, 3, 4], rfl⟩) ++ [0]) =
        some (⟨opPing, [7], true⟩, [0]) ∧
      readStdout (fun _ => ⟨[1, 2, 3, 4], rfl⟩) [] 0
          ([oneByteFrame false opText 0x7B (by decide), oneByteFrame true opPing 7 (by decide),
            oneByteFrame true opContinuation 0x7D (by decide)].flatMap Frame.bytes) =
        { messages := [[]]
          written := [encodeClientPong [7] ⟨[1, 2, 3, 4], rfl⟩]
          ending := .incomplete } :=
  ⟨frames_round_trip.1 opPing [7] (some ⟨[1, 2, 3, 4], rfl⟩) [0] (by decide) (by decide),
    frames_round_trip.2 (fun _ => ⟨[1, 2, 3, 4], rfl⟩) [emptyMapping]
      [oneByteFrame false opText 0x7B (by decide), oneByteFrame true opPing 7 (by decide),
        oneByteFrame true opContinuation 0x7D (by decide)] (by decide)⟩

end WebSocket

end Wlcodex.Rpc
