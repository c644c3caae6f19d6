import Mathlib.Data.List.Lex
import Mathlib.Algebra.Group.Nat.Defs
import Mathlib.Tactic.Tauto

namespace Wlcodex.Lib

/-! Numbers that are written with a fixed count of digits are in the order of their texts, and so
are times. -/

def digit (number : Nat) : Char := Char.ofNat (48 + number % 10)

def pad : Nat → Nat → List Char
  | 0, _ => []
  | width + 1, number => pad width (number / 10) ++ [digit number]

theorem length_pad (width number : Nat) : (pad width number).length = width := by
  induction width generalizing number with
  | zero => rfl
  | succ width ih => rw [pad, List.length_append, ih, List.length_singleton]

theorem append_lt_append_iff {first second front back : List Char} (same : first.length = second.length) :
    first ++ front < second ++ back ↔ first < second ∨ first = second ∧ front < back := by
  induction first generalizing second with
  | nil =>
      obtain rfl := List.length_eq_zero_iff.mp same.symm
      simp
  | cons c rest ih =>
      cases second with
      | nil => cases same
      | cons d others =>
          have shorter : rest.length = others.length := Nat.succ.inj same
          simp only [List.cons_append, List.cons_lt_cons_iff, List.cons.injEq, ih shorter]
          tauto

theorem digit_lt_iff : ∀ first < 10, ∀ second < 10, digit first < digit second ↔ first < second := by
  decide

theorem pad_inj_of {width first second : Nat}
    (less : pad width first < pad width second ↔ first < second)
    (more : pad width second < pad width first ↔ second < first) :
    pad width first = pad width second ↔ first = second := by
  refine ⟨fun same => ?_, congrArg (pad width)⟩
  rw [same] at less more
  have notLess := mt less.mpr (List.lt_irrefl _)
  have notMore := mt more.mpr (List.lt_irrefl _)
  omega

theorem pad_lt_iff {width first second : Nat} (fits : first < 10 ^ width)
    (alsoFits : second < 10 ^ width) : pad width first < pad width second ↔ first < second := by
  induction width generalizing first second with
  | zero =>
      obtain rfl := Nat.lt_one_iff.mp fits
      obtain rfl := Nat.lt_one_iff.mp alsoFits
      simp [pad]
  | succ width ih =>
      rw [Nat.pow_succ] at fits alsoFits
      have front : first / 10 < 10 ^ width := by omega
      have alsoFront : second / 10 < 10 ^ width := by omega
      have less := ih front alsoFront
      have last := digit_lt_iff _ (Nat.mod_lt first (by decide)) _ (Nat.mod_lt second (by decide))
      simp only [digit, Nat.mod_mod] at last
      have lengths : (pad width (first / 10)).length = (pad width (second / 10)).length := by
        rw [length_pad, length_pad]
      rw [pad, pad, append_lt_append_iff lengths, less, pad_inj_of less (ih alsoFront front)]
      simp only [digit, List.cons_lt_cons_iff, last, List.lt_irrefl, and_false, or_false]
      omega

theorem field_lt_iff {width first second : Nat} {front back : List Char} (fits : first < 10 ^ width)
    (alsoFits : second < 10 ^ width) :
    pad width first ++ front < pad width second ++ back ↔ first < second ∨ first = second ∧ front < back := by
  have less := pad_lt_iff fits alsoFits
  have lengths : (pad width first).length = (pad width second).length := by rw [length_pad, length_pad]
  rw [append_lt_append_iff lengths, less, pad_inj_of less (pad_lt_iff alsoFits fits)]

/-- A time in UTC, of the years that are written with four digits. -/
structure UtcTime where
  year : Nat
  month : Nat
  day : Nat
  hour : Nat
  minute : Nat
  second : Nat
  microsecond : Nat
  date : 1000 ≤ year ∧ year ≤ 9999 ∧ 1 ≤ month ∧ month ≤ 12 ∧ 1 ≤ day ∧ day ≤ 31
  time : hour < 24 ∧ minute < 60 ∧ second < 60 ∧ microsecond < 1000000

namespace UtcTime

variable (first second : UtcTime)

def fields (time : UtcTime) : List Nat :=
  [time.year, time.month, time.day, time.hour, time.minute, time.second, time.microsecond]

instance : LT UtcTime := ⟨fun first second => first.fields < second.fields⟩

instance : Decidable (first < second) := inferInstanceAs (Decidable (first.fields < second.fields))

/-- The fraction, which is left out where it is zero, and the offset. -/
def ending (microsecond : Nat) : List Char :=
  (if microsecond = 0 then [] else '.' :: pad 6 microsecond) ++ "+00:00".toList

def isoformat (time : UtcTime) : String :=
  String.ofList (pad 4 time.year ++ '-' :: (pad 2 time.month ++ '-' :: (pad 2 time.day ++
    'T' :: (pad 2 time.hour ++ ':' :: (pad 2 time.minute ++ ':' :: (pad 2 time.second ++
      ending time.microsecond))))))

theorem ending_lt_iff {first second : Nat} (fits : first < 1000000) (alsoFits : second < 1000000) :
    ending first < ending second ↔ first < second := by
  unfold ending
  by_cases none_ : first = 0
  · by_cases alsoNone : second = 0
    · rw [none_, alsoNone]
      decide
    · rw [if_pos none_, if_neg alsoNone]
      refine iff_of_true ?_ (by omega)
      exact List.cons_lt_cons_iff.mpr (.inl (by decide))
  · rw [if_neg none_]
    by_cases alsoNone : second = 0
    · rw [if_pos alsoNone]
      refine iff_of_false ?_ (by omega)
      intro less
      rcases List.cons_lt_cons_iff.mp less with less | same
      · exact absurd less (by decide)
      · exact absurd same.1 (by decide)
    · rw [if_neg alsoNone, List.cons_append, List.cons_append, List.cons_lt_cons_iff,
        field_lt_iff fits alsoFits]
      simp

/-- The text of a time with a fraction is behind that of the same time without one, as `.` is behind
`+`, so that the order of the texts is the order of the times. -/
theorem isoformat_lt_iff : first.isoformat < second.isoformat ↔ first < second := by
  obtain ⟨date, time⟩ := And.intro first.date first.time
  obtain ⟨alsoDate, alsoTime⟩ := And.intro second.date second.time
  have fits {a b : Nat} {front back : List Char} {c : Char} (less : a < 10 ^ 2) (more : b < 10 ^ 2) :
      c :: (pad 2 a ++ front) < c :: (pad 2 b ++ back) ↔ a < b ∨ a = b ∧ front < back := by
    simp [field_lt_iff less more]
  change first.isoformat.toList < second.isoformat.toList ↔ first.fields < second.fields
  rw [isoformat, isoformat, String.toList_ofList, String.toList_ofList,
    field_lt_iff (by omega) (by omega), fits (by omega) (by omega), fits (by omega) (by omega),
    fits (by omega) (by omega), fits (by omega) (by omega), fits (by omega) (by omega),
    ending_lt_iff (by omega) (by omega)]
  simp only [fields, List.cons_lt_cons_iff, List.lt_irrefl, and_false, or_false]

end UtcTime

end Wlcodex.Lib

