import Wlcodex.Lib.IsoTime

namespace Wlcodex.Relay

open Wlcodex.Lib

/-! Times of leases and claims as the tables store them. -/

/-- `_relay_lease_is_active`; `fromIsoformat` gives the instant, with UTC where the text names no
offset, and `none` for a `ValueError`. -/
def relayLeaseIsActive (fromIsoformat : String → Option UtcTime) (value : String) (now : UtcTime) : Bool :=
  let text := value.toList.flatMap fun c => if c = 'Z' then "+00:00".toList else [c]
  (fromIsoformat (String.ofList text)).any fun expiresAt => now < expiresAt

theorem not_mem_pad (width number : Nat) : 'Z' ∉ pad width number := by
  induction width generalizing number with
  | zero => exact List.not_mem_nil
  | succ width ih =>
      rw [pad, List.mem_append, List.mem_singleton, not_or]
      refine ⟨ih _, ?_⟩
      have apart : ∀ last < 10, 'Z' ≠ Char.ofNat (48 + last) := by decide
      exact apart _ (Nat.mod_lt number (by decide))

theorem not_mem_isoformat (time : UtcTime) : 'Z' ∉ time.isoformat.toList := by
  have ending : 'Z' ∉ UtcTime.ending time.microsecond := by
    unfold UtcTime.ending
    split
    · decide
    · simp [not_mem_pad]
  rw [UtcTime.isoformat, String.toList_ofList]
  simp [not_mem_pad, ending]

/-- The order in which SQL compares the stored times is that of the times, and a lease is active
exactly when its text is behind that of the present. -/
theorem stored_times_in_order {fromIsoformat : String → Option UtcTime} {first second : UtcTime}
    (reads : fromIsoformat first.isoformat = some first) :
    (first < second ↔ first.isoformat < second.isoformat) ∧
      (relayLeaseIsActive fromIsoformat first.isoformat second = true ↔
        second.isoformat < first.isoformat) := by
  refine ⟨(UtcTime.isoformat_lt_iff first second).symm, ?_⟩
  have unchanged : (first.isoformat.toList.flatMap fun c => if c = 'Z' then "+00:00".toList else [c]) =
      first.isoformat.toList := by
    refine (List.flatMap_congr fun c member => if_neg ?_).trans (List.flatMap_singleton' _)
    rintro rfl
    exact not_mem_isoformat first member
  rw [relayLeaseIsActive, unchanged, String.ofList_toList, reads, Option.any_some, decide_eq_true_eq,
    UtcTime.isoformat_lt_iff]

def halfPast : UtcTime where
  year := 2026
  month := 1
  day := 31
  hour := 23
  minute := 30
  second := 0
  microsecond := 0
  date := by decide
  time := by decide

def halfPastAndMore : UtcTime := { halfPast with microsecond := 500000, time := by decide }

theorem lease_active_before_fraction :
    relayLeaseIsActive (fun _ => some halfPastAndMore) halfPastAndMore.isoformat halfPast = true :=
  (@stored_times_in_order (fun _ => some halfPastAndMore) halfPastAndMore halfPast rfl).2.mpr (by decide)

end Wlcodex.Relay
