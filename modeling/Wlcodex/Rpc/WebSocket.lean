import Wlcodex.Lib.Bytes

namespace Wlcodex.Rpc

open Wlcodex.Lib

/-! The frames of `WebSocketJsonFramer`. -/

namespace WebSocket

def opContinuation : UInt8 := 0x0
def opText : UInt8 := 0x1
def opClose : UInt8 := 0x8
def opPing : UInt8 := 0x9
def opPong : UInt8 := 0xA

/-- Four bytes, as `os.urandom(4)` gives them. -/
abbrev Mask := { bytes : Bytes // bytes.length = 4 }

def masked (mask payload : Bytes) : Bytes :=
  payload.mapIdx fun index byte => byte ^^^ mask.getD (index % 4) 0

def maskBit (hasMask : Bool) : UInt8 := if hasMask then 0x80 else 0

def lengthBytes (hasMask : Bool) (length : Nat) : Bytes :=
  if length < 126 then [maskBit hasMask ||| UInt8.ofNat length]
  else if length ≤ 0xFFFF then (maskBit hasMask ||| 126) :: Bytes.ofNat 2 length
  else (maskBit hasMask ||| 127) :: Bytes.ofNat 8 length

def frameFrom (first : UInt8) (payload : Bytes) : Option Mask → Bytes
  | none => first :: (lengthBytes false payload.length ++ payload)
  | some mask =>
      first :: (lengthBytes true payload.length ++ (mask.val ++ masked mask.val payload))

/-- `_encode_frame`; the mask is there exactly when the frame is to be masked. -/
def encodeFrame (opcode : UInt8) (payload : Bytes) (mask : Option Mask) : Bytes :=
  frameFrom (0x80 ||| opcode) payload mask

def encodeClientText (text : List Char) (mask : Mask) : Bytes :=
  encodeFrame opText (Bytes.ofText text) (some mask)

def encodeClientClose (mask : Mask) : Bytes := encodeFrame opClose [] (some mask)

def encodeClientPong (payload : Bytes) (mask : Mask) : Bytes :=
  encodeFrame opPong payload (some mask)

def encodeServerText (text : List Char) : Bytes := encodeFrame opText (Bytes.ofText text) none

def readLength (second : UInt8) (bytes : Bytes) : Option (Nat × Bytes) :=
  let length := (second &&& 0x7F).toNat
  if length = 126 then (Bytes.readexactly 2 bytes).map fun (read, rest) => (Bytes.toNat read, rest)
  else if length = 127 then
    (Bytes.readexactly 8 bytes).map fun (read, rest) => (Bytes.toNat read, rest)
  else some (length, bytes)

/-- `await reader.readexactly(count) if wanted else b""`. -/
def readWhen (wanted : Bool) (count : Nat) (bytes : Bytes) : Option (Bytes × Bytes) :=
  if wanted then Bytes.readexactly count bytes else some ([], bytes)

/-- What `read_frame` returns. -/
structure Received where
  opcode : UInt8
  payload : Bytes
  fin : Bool
  deriving DecidableEq

/-- `read_frame`; `none` is `IncompleteReadError`. -/
def readFrame (bytes : Bytes) : Option (Received × Bytes) := do
  let (header, bytes) ← Bytes.readexactly 2 bytes
  let first := header.getD 0 0
  let second := header.getD 1 0
  let fin := first &&& 0x80 != 0
  let opcode := first &&& 0x0F
  let hasMask := second &&& 0x80 != 0
  let (length, bytes) ← readLength second bytes
  let (mask, bytes) ← readWhen hasMask 4 bytes
  let (payload, bytes) ← readWhen (length != 0) length bytes
  let payload := if hasMask then masked mask payload else payload
  return (⟨opcode, payload, fin⟩, bytes)

theorem masked_masked (mask payload : Bytes) : masked mask (masked mask payload) = payload := by
  rw [masked, masked, List.mapIdx_mapIdx]
  apply List.ext_getElem
  · simp
  · intro index left right
    simp [UInt8.xor_assoc]

@[simp] theorem length_masked (mask payload : Bytes) :
    (masked mask payload).length = payload.length := by
  simp [masked]

theorem forall_byte {p : UInt8 → Prop} (each : ∀ value < 256, p (UInt8.ofNat value)) (byte : UInt8) :
    p byte := by
  have here := each byte.toNat byte.toNat_lt
  rwa [UInt8.ofNat_toNat] at here

theorem second_bits : ∀ announced < 128, ∀ hasMask : Bool,
    ((maskBit hasMask ||| UInt8.ofNat announced) &&& 0x7F).toNat = announced ∧
      ((maskBit hasMask ||| UInt8.ofNat announced) &&& 0x80 != 0) = hasMask := by
  decide +kernel

theorem first_bits {opcode : UInt8} (nibble : opcode < 16) (fin : Bool) :
    ((if fin then 0x80 else 0) ||| opcode) &&& 0x0F = opcode ∧
      ((((if fin then 0x80 else 0) ||| opcode) &&& 0x80) != 0) = fin := by
  revert opcode
  apply forall_byte
  revert fin
  decide +kernel

theorem readLength_lengthBytes {length : Nat} (fits : length < 2 ^ 63) (rest : Bytes) (hasMask : Bool) :
    ∃ second more, lengthBytes hasMask length = second :: more ∧
      (second &&& 0x80 != 0) = hasMask ∧ readLength second (more ++ rest) = some (length, rest) := by
  by_cases short : length < 126
  · obtain ⟨announced, bit⟩ := second_bits length (by omega) hasMask
    refine ⟨_, [], if_pos short, bit, ?_⟩
    rw [readLength, announced, if_neg (by omega), if_neg (by omega), List.nil_append]
  · by_cases medium : length ≤ 0xFFFF
    · obtain ⟨announced, bit⟩ := second_bits 126 (by decide) hasMask
      have read := Bytes.readexactly_append (Bytes.ofNat 2 length) rest
      rw [Bytes.length_ofNat] at read
      have value : Bytes.toNat (Bytes.ofNat 2 length) = length := Bytes.toNat_ofNat (by omega)
      refine ⟨_, _, (if_neg short).trans (if_pos medium), bit, ?_⟩
      change ((maskBit hasMask ||| 126) &&& 0x7F).toNat = 126 at announced
      rw [readLength, if_pos announced, read, Option.map_some]
      exact congrArg (fun read => some (read, rest)) value
    · obtain ⟨announced, bit⟩ := second_bits 127 (by decide) hasMask
      have read := Bytes.readexactly_append (Bytes.ofNat 8 length) rest
      rw [Bytes.length_ofNat] at read
      have value : Bytes.toNat (Bytes.ofNat 8 length) = length := Bytes.toNat_ofNat (by omega)
      refine ⟨_, _, (if_neg short).trans (if_neg medium), bit, ?_⟩
      change ((maskBit hasMask ||| 127) &&& 0x7F).toNat = 127 at announced
      rw [readLength, if_neg (by rw [announced]; decide), if_pos announced, read, Option.map_some]
      exact congrArg (fun read => some (read, rest)) value

theorem readWhen_payload (payload rest : Bytes) :
    readWhen (payload.length != 0) payload.length (payload ++ rest) = some (payload, rest) := by
  cases payload with
  | nil => rfl
  | cons byte payload =>
      exact Bytes.readexactly_append _ _

theorem readWhen_mask (mask : Mask) (rest : Bytes) :
    readWhen true 4 (mask.val ++ rest) = some (mask.val, rest) := by
  have read := Bytes.readexactly_append mask.val rest
  rw [mask.property] at read
  rw [readWhen, if_pos rfl, read]

theorem readWhen_false (count : Nat) (bytes : Bytes) : readWhen false count bytes = some ([], bytes) :=
  rfl

theorem readexactly_header (first second : UInt8) (rest : Bytes) :
    Bytes.readexactly 2 (first :: second :: rest) = some ([first, second], rest) :=
  Bytes.readexactly_append [first, second] rest

theorem readFrame_frameFrom (first : UInt8) {payload : Bytes} (fits : payload.length < 2 ^ 63)
    (mask : Option Mask) (rest : Bytes) :
    readFrame (frameFrom first payload mask ++ rest) =
      some (⟨first &&& 0x0F, payload, first &&& 0x80 != 0⟩, rest) := by
  cases mask with
  | none =>
      obtain ⟨second, more, spelled, bit, read⟩ :=
        readLength_lengthBytes fits (payload ++ rest) false
      rw [frameFrom, spelled, List.cons_append, List.cons_append, List.cons_append,
        List.append_assoc, readFrame, readexactly_header]
      simp only [Option.bind_eq_bind, Option.bind_some, List.getD_cons_succ, List.getD_cons_zero,
        read, bit, readWhen_false, readWhen_payload]
      rfl
  | some mask =>
      obtain ⟨second, more, spelled, bit, read⟩ :=
        readLength_lengthBytes fits (mask.val ++ (masked mask.val payload ++ rest)) true
      have body := readWhen_payload (masked mask.val payload) rest
      rw [length_masked] at body
      rw [frameFrom, spelled, List.cons_append, List.cons_append, List.cons_append,
        List.append_assoc, List.append_assoc, readFrame, readexactly_header]
      simp only [Option.bind_eq_bind, Option.bind_some, List.getD_cons_succ, List.getD_cons_zero,
        read, bit, readWhen_mask, body, if_true, masked_masked]
      rfl

end WebSocket

end Wlcodex.Rpc
