import Mathlib.Tactic.Ring

namespace Wlcodex.Lib

/-! Bytes as they lie on a wire. -/

abbrev Bytes := List UInt8

namespace Bytes

/-- The `width` last bytes of a number, the highest first. -/
def ofNat : Nat → Nat → Bytes
  | 0, _ => []
  | width + 1, value => ofNat width (value / 256) ++ [UInt8.ofNat value]

def toNat (bytes : Bytes) : Nat := bytes.foldl (fun value byte => value * 256 + byte.toNat) 0

@[simp] theorem length_ofNat (width value : Nat) : (ofNat width value).length = width := by
  induction width generalizing value with
  | zero => rfl
  | succ width ih => rw [ofNat, List.length_append, ih]; rfl

theorem toNat_concat (bytes : Bytes) (byte : UInt8) :
    toNat (bytes ++ [byte]) = toNat bytes * 256 + byte.toNat := by
  rw [toNat, List.foldl_append]
  rfl

theorem toNat_ofNat {width value : Nat} (fits : value < 256 ^ width) :
    toNat (ofNat width value) = value := by
  induction width generalizing value with
  | zero =>
      rw [ofNat, Nat.lt_one_iff.mp fits]
      rfl
  | succ width ih =>
      have higher : value / 256 < 256 ^ width := by
        omega
      rw [ofNat, toNat_concat, ih higher, UInt8.toNat_ofNat']
      omega

/-- `readexactly`, where the bytes are all that come before the stream ends. -/
def readexactly (count : Nat) (bytes : Bytes) : Option (Bytes × Bytes) :=
  if count ≤ bytes.length then some (bytes.splitAt count) else none

theorem readexactly_append (bytes rest : Bytes) :
    readexactly bytes.length (bytes ++ rest) = some (bytes, rest) := by
  rw [readexactly, if_pos (by simp), List.splitAt_eq, List.take_left, List.drop_left]

theorem length_of_readexactly {count : Nat} {bytes read rest : Bytes}
    (done : readexactly count bytes = some (read, rest)) :
    bytes.length = count + rest.length := by
  unfold readexactly at done
  split at done
  · simp only [List.splitAt_eq, Option.some.injEq, Prod.mk.injEq] at done
    rw [← done.2, List.length_drop]
    omega
  · cases done

def ofText (text : List Char) : Bytes := text.flatMap String.utf8EncodeChar

def text? (bytes : Bytes) : Option (List Char) := bytes.toByteArray.utf8Decode?.map Array.toList

theorem text?_ofText (text : List Char) : text? (ofText text) = some text := by
  change text.utf8Encode.utf8Decode?.map Array.toList = some text
  rw [List.utf8Decode?_utf8Encode]
  rfl

end Bytes

end Wlcodex.Lib
