import Wlcodex.Lib.JsonRoundTrip

namespace Wlcodex.Lib

/-! One document a line. -/

def fileLines : List Char → List (List Char)
  | [] => []
  | c :: rest =>
      if c = '\n' then [c] :: fileLines rest
      else
        match fileLines rest with
        | [] => [[c]]
        | line :: lines => (c :: line) :: lines

theorem fileLines_line {line : List Char} (unbroken : '\n' ∉ line) (rest : List Char) :
    fileLines (line ++ '\n' :: rest) = (line ++ ['\n']) :: fileLines rest := by
  induction line with
  | nil => simp [fileLines]
  | cons c line ih =>
      have other : c ≠ '\n' := fun same => unbroken (same ▸ List.mem_cons_self)
      have lines := ih fun member => unbroken (List.mem_cons_of_mem c member)
      rw [List.cons_append, fileLines, if_neg other, lines]
      rfl

theorem fileLines_flatMap (lines : List (List Char)) (unbroken : ∀ line ∈ lines, '\n' ∉ line) :
    fileLines (lines.flatMap fun line => line ++ ['\n']) =
      lines.map fun line => line ++ ['\n'] := by
  induction lines with
  | nil => rfl
  | cons line lines ih =>
      rw [List.forall_mem_cons] at unbroken
      rw [List.flatMap_cons, List.append_assoc, List.singleton_append,
        fileLines_line unbroken.1, ih unbroken.2, List.map_cons]

theorem mapM_of_forall {α β : Type*} {f : α → Option β} {g : α → β} {items : List α}
    (each : ∀ item ∈ items, f item = some (g item)) : items.mapM f = some (items.map g) := by
  induction items with
  | nil => rfl
  | cons item items ih =>
      rw [List.forall_mem_cons] at each
      rw [List.mapM_cons, each.1, ih each.2, List.map_cons]
      rfl

namespace Json

theorem hexDigit_ne_newline (n : Nat) : hexDigit n ≠ '\n' := by
  have every : ∀ n < 16, Nat.digitChar n ≠ '\n' := by decide
  exact every (n % 16) (Nat.mod_lt n (by omega))

theorem newline_not_mem_escape (c : Char) : '\n' ∉ escape c := by
  unfold escape
  split_ifs with quote backslash newline return_ tab backspace feed control
  · simp
  · simp
  · simp
  · simp
  · simp
  · simp
  · simp
  · simp [(hexDigit_ne_newline _).symm]
  · simpa using Ne.symm newline

theorem newline_not_mem_writeString (text : String) : '\n' ∉ writeString text := by
  simp only [writeString, List.mem_cons, List.mem_append, List.mem_flatMap, List.cons_append]
  rintro (quote | ⟨c, _, member⟩ | quote | impossible)
  · revert quote
    decide
  · exact newline_not_mem_escape c member
  · revert quote
    decide
  · cases impossible

theorem newline_not_mem_digits {digits : List Char} (all : ∀ digit ∈ digits, digit.isDigit) :
    '\n' ∉ digits := by
  intro member
  have digit := all '\n' member
  revert digit
  decide

theorem newline_not_mem_sign (negative : Bool) : '\n' ∉ writeSign negative := by
  cases negative <;> decide

theorem newline_not_mem_writeInt (value : Int) : '\n' ∉ writeInt value := by
  rw [writeInt, List.mem_append]
  rintro (sign | digit)
  · exact newline_not_mem_sign _ sign
  · exact newline_not_mem_digits (isDigit_toDigits value.natAbs) digit

theorem newline_not_mem_writeFraction (fraction : Option Digits) :
    '\n' ∉ writeFraction fraction := by
  cases fraction with
  | none => simp [writeFraction]
  | some digits =>
      rw [writeFraction, List.mem_cons]
      rintro (point | digit)
      · revert point
        decide
      · exact newline_not_mem_digits digits.2.2 digit

theorem newline_not_mem_writeExponent (exponent : Option (Bool × Digits)) :
    '\n' ∉ writeExponent exponent := by
  cases exponent with
  | none => simp [writeExponent]
  | some exponent =>
      obtain ⟨negative, digits⟩ := exponent
      rw [writeExponent, List.mem_cons, List.mem_cons]
      rintro (letter | sign | digit)
      · revert letter
        decide
      · cases negative <;> simp at sign
      · exact newline_not_mem_digits digits.2.2 digit

theorem newline_not_mem_writeFloat (literal : FloatLiteral) : '\n' ∉ writeFloat literal := by
  simp only [writeFloat, List.mem_append]
  rintro (sign | digit | fraction | exponent)
  · exact newline_not_mem_sign _ sign
  · exact newline_not_mem_digits (isDigit_toDigits literal.whole) digit
  · exact newline_not_mem_writeFraction _ fraction
  · exact newline_not_mem_writeExponent _ exponent

theorem newline_not_mem_gap (layout : Layout) : '\n' ∉ layout.gap := by
  cases layout <;> decide

mutual

theorem newline_not_mem_write (layout : Layout) : ∀ value : Json, '\n' ∉ write layout value
  | .null => by simp [write]
  | .bool true => by simp [write]
  | .bool false => by simp [write]
  | .int value => newline_not_mem_writeInt value
  | .float literal => newline_not_mem_writeFloat literal
  | .nan => by simp [write]
  | .infinity true => by simp [write, writeSign]
  | .infinity false => by simp [write, writeSign]
  | .string text => newline_not_mem_writeString text
  | .array [] => by simp [write]
  | .array (item :: items) => by
      simp [write, newline_not_mem_write layout item, newline_not_mem_writeItems layout items]
  | .object [] => by simp [write]
  | .object ((key, value) :: members) => by
      simp [write, newline_not_mem_writeString key, newline_not_mem_gap layout,
        newline_not_mem_write layout value, newline_not_mem_writeMembers layout members]

theorem newline_not_mem_writeItems (layout : Layout) :
    ∀ items : List Json, '\n' ∉ writeItems layout items
  | [] => by simp [writeItems]
  | item :: items => by
      simp [writeItems, newline_not_mem_gap layout, newline_not_mem_write layout item,
        newline_not_mem_writeItems layout items]

theorem newline_not_mem_writeMembers (layout : Layout) :
    ∀ members : List (String × Json), '\n' ∉ writeMembers layout members
  | [] => by simp [writeMembers]
  | (key, value) :: members => by
      simp [writeMembers, newline_not_mem_gap layout, newline_not_mem_writeString key,
        newline_not_mem_write layout value, newline_not_mem_writeMembers layout members]

end

theorem loads_line (layout : Layout) {value : Json} (keyed : WellKeyed value) :
    loads (write layout value ++ ['\n']) = some value := by
  refine loads_write_append layout keyed (fun c member => ?_) rfl
  obtain rfl : '\n' = c := by simpa using member
  exact .inr (.inr (.inr rfl))

theorem fileLines_documents (layout : Layout) (values : List Json) :
    fileLines (values.flatMap fun value => write layout value ++ ['\n']) =
      values.map fun value => write layout value ++ ['\n'] := by
  have unbroken : ∀ line ∈ values.map (write layout), '\n' ∉ line := by
    intro line member
    obtain ⟨value, _, rfl⟩ := List.mem_map.mp member
    exact newline_not_mem_write layout value
  have lines := fileLines_flatMap (values.map (write layout)) unbroken
  rwa [List.flatMap_map, List.map_map] at lines

/-! ### Members of a document with sorted keys -/

theorem lookup_of_mem {β : Type*} {members : List (String × β)} {key : String} {value : β}
    (unique : (members.map Prod.fst).Nodup) (member : (key, value) ∈ members) :
    members.lookup key = some value := by
  induction members with
  | nil => cases member
  | cons head rest ih =>
      rw [List.map_cons, List.nodup_cons] at unique
      rcases List.mem_cons.mp member with rfl | later
      · simp
      · have other : key ≠ head.1 := by
          rintro rfl
          exact unique.1 (List.mem_map.mpr ⟨_, later, rfl⟩)
        rw [List.lookup_cons, beq_eq_false_iff_ne.mpr other]
        exact ih unique.2 later

/-- The members of `sort_keys=True`. -/
def sortedMembers (members : List (String × Json)) : List (String × Json) :=
  (sortMembers members).insertionSort fun first second => first.1 ≤ second.1

theorem sortKeys_object (members : List (String × Json)) :
    sortKeys (.object members) = .object (sortedMembers members) := by
  rw [sortKeys, sortedMembers]

theorem lookup_sortedMembers {members : List (String × Json)} {key : String} {value : Json}
    (unique : (members.map Prod.fst).Nodup) (member : (key, value) ∈ members) :
    (sortedMembers members).lookup key = some (sortKeys value) := by
  have sorted : (sortedMembers members).Perm (sortMembers members) := List.perm_insertionSort _ _
  apply lookup_of_mem
  · rw [(sorted.map Prod.fst).nodup_iff, keys_sortMembers]
    exact unique
  · rw [sorted.mem_iff, sortMembers_eq]
    exact List.mem_map.mpr ⟨(key, value), member, rfl⟩

end Json

end Wlcodex.Lib
