import Wlcodex.Lib.Json

namespace Wlcodex.Lib.Json

/-! JSON objects that stand somewhere in a text. -/

abbrev Members := List (String × Json)

/-- `raw_decode` where an object begins, with the number of characters that it takes. -/
def decodeObject (text : List Char) : Option (Members × Nat) :=
  if text.head? = some '{' then
    match read (text.length + 1) text with
    | some (.object members, rest) => some (members, text.length - rest.length)
    | _ => none
  else none

def objectsWithin : Nat → List Char → List Members
  | 0, _ => []
  | _ + 1, [] => []
  | count + 1, c :: rest =>
      ((decodeObject (c :: rest)).map Prod.fst).toList ++ objectsWithin count rest

/-- Every object that can be decoded where some `{` stands, in the order of the text. -/
def embeddedObjects (text : List Char) : List Members := objectsWithin text.length text

structure Span where
  object : Members
  inside : List Members

def spansFrom : Nat → List Char → List Span
  | 0, _ => []
  | _ + 1, [] => []
  | fuel + 1, c :: rest =>
      match decodeObject (c :: rest) with
      | some (members, taken) =>
          ⟨members, objectsWithin (taken - 1) rest⟩ :: spansFrom fuel (rest.drop (taken - 1))
      | none => spansFrom fuel rest

def spans (text : List Char) : List Span := spansFrom text.length text

def topLevelObjects (text : List Char) : List Members := (spans text).map Span.object

def Span.objects (span : Span) : List Members := span.object :: span.inside

theorem objectsWithin_split (first second : Nat) (text : List Char) :
    objectsWithin (first + second) text =
      objectsWithin first text ++ objectsWithin second (text.drop first) := by
  induction first generalizing text with
  | zero => rw [Nat.zero_add, objectsWithin, List.nil_append, List.drop_zero]
  | succ first ih =>
      rw [Nat.succ_add]
      cases text with
      | nil =>
          cases second <;> rfl
      | cons c rest =>
          rw [objectsWithin, objectsWithin, List.drop_succ_cons, ih, List.append_assoc]

theorem objectsWithin_of_length_le {count : Nat} {text : List Char} (enough : text.length ≤ count) :
    objectsWithin count text = embeddedObjects text := by
  induction text generalizing count with
  | nil => cases count <;> rfl
  | cons c rest ih =>
      cases count with
      | zero => cases enough
      | succ count =>
          rw [embeddedObjects, List.length_cons, objectsWithin, objectsWithin,
            ih (Nat.le_of_succ_le_succ enough)]
          rfl

theorem flatMap_spansFrom {fuel : Nat} {text : List Char} (enough : text.length ≤ fuel) :
    (spansFrom fuel text).flatMap Span.objects = embeddedObjects text := by
  induction fuel generalizing text with
  | zero =>
      obtain rfl := List.length_eq_zero_iff.mp (Nat.le_zero.mp enough)
      rfl
  | succ fuel ih =>
      cases text with
      | nil => rfl
      | cons c rest =>
          rw [List.length_cons] at enough
          rw [spansFrom, embeddedObjects, List.length_cons, objectsWithin]
          cases found : decodeObject (c :: rest) with
          | none =>
              rw [ih (Nat.le_of_succ_le_succ enough)]
              rfl
          | some decoded =>
              obtain ⟨members, taken⟩ := decoded
              have behind : (rest.drop (taken - 1)).length ≤ fuel := by
                rw [List.length_drop]
                omega
              rw [List.flatMap_cons, ih behind]
              have whole : embeddedObjects rest =
                  objectsWithin (taken - 1) rest ++ embeddedObjects (rest.drop (taken - 1)) := by
                rw [← objectsWithin_of_length_le (Nat.le_add_left rest.length (taken - 1)),
                  objectsWithin_split, @objectsWithin_of_length_le rest.length (rest.drop (taken - 1))]
                rw [List.length_drop]
                exact Nat.sub_le _ _
              rw [← embeddedObjects, whole]
              rfl

theorem flatMap_spans (text : List Char) :
    (spans text).flatMap Span.objects = embeddedObjects text :=
  flatMap_spansFrom (Nat.le_refl _)

theorem findSome?_embeddedObjects {β : Type*} (reading : Members → Option β) (text : List Char) :
    (embeddedObjects text).findSome? reading =
      (spans text).findSome? fun span => span.objects.findSome? reading := by
  rw [← flatMap_spans]
  induction spans text with
  | nil => rfl
  | cons span rest ih =>
      rw [List.flatMap_cons, List.findSome?_append, List.findSome?_cons, ih]
      cases span.objects.findSome? reading <;> rfl

end Wlcodex.Lib.Json
