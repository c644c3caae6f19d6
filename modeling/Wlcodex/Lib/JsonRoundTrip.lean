import Wlcodex.Lib.Json

namespace Wlcodex.Lib

namespace Json

/-! `json.loads` reads back what `json.dumps` writes, in either layout. -/

def Follows (rest : List Char) : Prop :=
  ∀ c ∈ rest.head?, c = ',' ∨ c = ']' ∨ c = '}' ∨ c = '\n'

theorem follows_nil : Follows [] := by
  intro c member
  cases member

theorem hexValue?_hexDigit (n : Nat) (small : n < 16) : hexValue? (hexDigit n) = some n := by
  revert n
  decide

theorem readUnit_control (n : Nat) (control : n < 32) (rest : List Char) :
    readUnit ('0' :: '0' :: hexDigit (n / 16) :: hexDigit (n % 16) :: rest) = some (n, rest) := by
  have zero : hexValue? '0' = some 0 := by decide
  have high := hexValue?_hexDigit (n / 16) (by omega)
  have low := hexValue?_hexDigit (n % 16) (by omega)
  simp only [readUnit, zero, high, low, Option.some.injEq, Prod.mk.injEq, and_true]
  omega

theorem readEscaped_control (c : Char) (control : c.toNat < 32) (rest : List Char) :
    readEscaped ('0' :: '0' :: hexDigit (c.toNat / 16) :: hexDigit (c.toNat % 16) :: rest) =
      some (c, rest) := by
  unfold readEscaped
  rw [readUnit_control c.toNat control]
  dsimp only
  rw [if_neg (by omega), if_neg (by omega), Char.ofNat_toNat]

theorem readString_escape (fuel : Nat) (c : Char) (rest : List Char) :
    readString (fuel + 1) (escape c ++ rest) =
      (readString fuel rest).map fun (text, rest) => (c :: text, rest) := by
  unfold escape
  split_ifs with quote backslash newline return_ tab backspace feed control
  · simp [readString, unescape?, quote]
  · simp [readString, unescape?, backslash]
  · simp [readString, unescape?, newline]
  · simp [readString, unescape?, return_]
  · simp [readString, unescape?, tab]
  · have named : c = Char.ofNat 8 := by rw [← backspace, Char.ofNat_toNat]
    simp [readString, unescape?, named]
  · have named : c = Char.ofNat 12 := by rw [← feed, Char.ofNat_toNat]
    simp [readString, unescape?, named]
  · simp only [List.cons_append, List.nil_append, readString, if_true]
    rw [if_neg (by decide), readEscaped_control c control]
  · simp only [List.cons_append, List.nil_append, readString]
    rw [if_neg quote, if_neg backslash, if_neg control]

theorem readString_flatMap (text rest : List Char) (fuel : Nat) (enough : text.length < fuel) :
    readString fuel (text.flatMap escape ++ '"' :: rest) = some (text, rest) := by
  induction text generalizing fuel with
  | nil =>
      cases fuel with
      | zero => simp at enough
      | succ fuel => simp [readString]
  | cons c text ih =>
      cases fuel with
      | zero => simp at enough
      | succ fuel =>
          rw [List.flatMap_cons, List.append_assoc, readString_escape,
            ih fuel (by simpa using enough)]
          rfl

theorem length_le_flatMap_escape (text : List Char) :
    text.length ≤ (text.flatMap escape).length := by
  induction text with
  | nil => exact le_rfl
  | cons c text ih =>
      have nonempty : 1 ≤ (escape c).length := by
        unfold escape
        split_ifs <;> simp
      simp only [List.flatMap_cons, List.length_append, List.length_cons]
      omega

theorem readString_writeString (text : String) (rest : List Char) :
    readString (text.toList.flatMap escape ++ '"' :: rest).length
      (text.toList.flatMap escape ++ '"' :: rest) = some (text.toList, rest) := by
  apply readString_flatMap
  have := length_le_flatMap_escape text.toList
  simp only [List.length_append, List.length_cons]
  omega

def Undigited (rest : List Char) : Prop := ∀ c ∈ rest.head?, c.isDigit = false

variable {rest : List Char}

theorem takeWhile_digits {digits : List Char} (all : ∀ digit ∈ digits, digit.isDigit)
    (undigited : Undigited rest) : (digits ++ rest).takeWhile Char.isDigit = digits := by
  rw [List.takeWhile_append_of_pos all]
  cases rest with
  | nil => simp
  | cons c rest =>
      have stops := undigited c rfl
      simp [stops]

theorem dropWhile_digits {digits : List Char} (all : ∀ digit ∈ digits, digit.isDigit)
    (undigited : Undigited rest) : (digits ++ rest).dropWhile Char.isDigit = rest := by
  rw [List.dropWhile_append_of_pos all]
  cases rest with
  | nil => rfl
  | cons c rest =>
      have stops := undigited c rfl
      simp [stops]

theorem readDigits_append (digits : Digits) (undigited : Undigited rest) :
    readDigits (digits.1 ++ rest) = (some digits, rest) := by
  unfold readDigits
  have taken := takeWhile_digits digits.2.2 undigited
  have dropped := dropWhile_digits digits.2.2 undigited
  rw [dif_pos (by rw [taken]; exact digits.2.1)]
  simp only [taken, dropped]

theorem isDigit_toDigits (n : Nat) : ∀ digit ∈ Nat.toDigits 10 n, digit.isDigit :=
  fun _ member => Nat.isDigit_of_mem_toDigits (by omega) le_rfl member

theorem digitChar_ne_zero : ∀ n < 10, 0 < n → Nat.digitChar n ≠ '0' := by
  decide

theorem head?_toDigits (n : Nat) (positive : 0 < n) :
    ∀ c ∈ (Nat.toDigits 10 n).head?, c ≠ '0' := by
  induction n using Nat.strong_induction_on with
  | _ n ih =>
      rw [Nat.toDigits_eq_if (by omega)]
      split_ifs with small
      · intro c member
        obtain rfl : Nat.digitChar n = c := by simpa using member
        exact digitChar_ne_zero n small positive
      · intro c member
        rw [List.head?_append_of_ne_nil _ Nat.toDigits_ne_nil] at member
        exact ih (n / 10) (by omega) (by omega) c member

theorem readWhole_toDigits (n : Nat) (undigited : Undigited rest) :
    readWhole (Nat.toDigits 10 n ++ rest) = some (n, rest) := by
  cases eq : Nat.toDigits 10 n with
  | nil => exact absurd eq Nat.toDigits_ne_nil
  | cons c digits =>
      have digitsEq : (⟨Nat.toDigits 10 n, Nat.toDigits_ne_nil, isDigit_toDigits n⟩ : Digits).1 =
          c :: digits := eq
      have digitsRead := readDigits_append
        ⟨Nat.toDigits 10 n, Nat.toDigits_ne_nil, isDigit_toDigits n⟩ undigited
      rw [digitsEq, List.cons_append] at digitsRead
      simp only [List.cons_append, readWhole]
      split_ifs with zero
      · -- only zero is written with a leading zero, and it has no other digit
        have nothing : n = 0 := by
          by_contra nonzero
          exact head?_toDigits n (by omega) c (by rw [eq]; rfl) zero
        rw [nothing, Nat.toDigits_zero] at eq
        rw [nothing, (List.cons.inj eq).2.symm]
        rfl
      · rw [digitsRead]
        simp only [Option.map_some, Nat.ofDigitChars_toDigits (by omega : 1 < 10) le_rfl]

theorem Follows.undigited (follows : Follows rest) : Undigited rest := by
  intro c member
  rcases follows c member with rfl | rfl | rfl | rfl <;> rfl

theorem readExponent_write (exponent : Option (Bool × Digits)) (follows : Follows rest) :
    readExponent (writeExponent exponent ++ rest) = (exponent, rest) := by
  cases exponent with
  | none =>
      cases rest with
      | nil => rfl
      | cons c rest =>
          rcases follows c rfl with rfl | rfl | rfl | rfl <;> rfl
  | some exponent =>
      obtain ⟨negative, digits⟩ := exponent
      have digitsRead := readDigits_append digits follows.undigited
      cases negative
      · simp [writeExponent, readExponent, readExponentSign, digitsRead]
      · simp [writeExponent, readExponent, readExponentSign, digitsRead]

theorem undigited_writeExponent (exponent : Option (Bool × Digits))
    (follows : Follows rest) : Undigited (writeExponent exponent ++ rest) := by
  cases exponent with
  | none => exact follows.undigited
  | some exponent =>
      intro c member
      obtain rfl : 'e' = c := by simpa [writeExponent] using member
      rfl

theorem readFraction_write (fraction : Option Digits) (exponent : Option (Bool × Digits)) (follows : Follows rest) :
    readFraction (writeFraction fraction ++ (writeExponent exponent ++ rest)) =
      (fraction, writeExponent exponent ++ rest) := by
  cases fraction with
  | none =>
      cases exponent with
      | none =>
          cases rest with
          | nil => rfl
          | cons c rest =>
              simp only [writeFraction, writeExponent, List.nil_append, readFraction]
              rcases follows c rfl with rfl | rfl | rfl | rfl <;> simp
      | some exponent => simp [writeFraction, writeExponent, readFraction]
  | some digits =>
      have digitsRead := readDigits_append digits (undigited_writeExponent exponent follows)
      simp [writeFraction, readFraction, digitsRead]

theorem undigited_writeFraction (fraction : Option Digits) (exponent : Option (Bool × Digits)) (follows : Follows rest) :
    Undigited (writeFraction fraction ++ (writeExponent exponent ++ rest)) := by
  cases fraction with
  | none => exact undigited_writeExponent exponent follows
  | some digits =>
      intro c member
      obtain rfl : '.' = c := by simpa [writeFraction] using member
      rfl

theorem readSign_write (negative : Bool) (n : Nat) (rest : List Char) :
    readSign (writeSign negative ++ (Nat.toDigits 10 n ++ rest)) =
      (negative, Nat.toDigits 10 n ++ rest) := by
  cases negative with
  | true => simp [writeSign, readSign]
  | false =>
      cases eq : Nat.toDigits 10 n with
      | nil => exact absurd eq Nat.toDigits_ne_nil
      | cons c digits =>
          have digit := isDigit_toDigits n c (by simp [eq])
          have unsigned : c ≠ '-' := by
            rintro rfl
            revert digit
            decide
          simp [writeSign, readSign, unsigned]

theorem readNumber_write (negative : Bool) (whole : Nat) (fraction : Option Digits)
    (exponent : Option (Bool × Digits)) (follows : Follows rest) :
    readNumber (writeSign negative ++ (Nat.toDigits 10 whole ++
      (writeFraction fraction ++ (writeExponent exponent ++ rest)))) =
      some (number negative whole fraction exponent, rest) := by
  simp only [readNumber, readSign_write,
    readWhole_toDigits whole (undigited_writeFraction fraction exponent follows), Option.map_some,
    readFraction_write fraction exponent follows, readExponent_write exponent follows]

theorem readNumber_writeFloat (literal : FloatLiteral) (follows : Follows rest) :
    readNumber (writeFloat literal ++ rest) = some (.float literal, rest) := by
  have numbered := readNumber_write literal.negative literal.whole literal.fraction literal.exponent
    follows
  rw [number, dif_pos literal.inexact] at numbered
  simpa only [writeFloat, List.append_assoc] using numbered

theorem readNumber_writeInt (value : Int) (follows : Follows rest) :
    readNumber (writeInt value ++ rest) = some (.int value, rest) := by
  have numbered := readNumber_write (decide (value < 0)) value.natAbs none none follows
  have signed : (if decide (value < 0) then -(value.natAbs : Int) else value.natAbs) = value := by
    simp only [decide_eq_true_eq]
    split_ifs <;> omega
  rw [number, dif_neg (by simp), signed] at numbered
  simpa only [writeInt, writeFraction, writeExponent, List.append_assoc, List.nil_append]

theorem numeric_ne {c : Char} (numeric : c.isDigit ∨ c = '-') :
    c ≠ '"' ∧ c ≠ '[' ∧ c ≠ '{' ∧ c ≠ 'n' ∧ c ≠ 't' ∧ c ≠ 'f' ∧ c ≠ 'N' ∧ c ≠ 'I' := by
  refine ⟨?_, ?_, ?_, ?_, ?_, ?_, ?_, ?_⟩ <;> (rintro rfl; revert numeric; decide)

theorem read_number (fuel : Nat) (negative : Bool) (n : Nat) (rest : List Char) :
    read (fuel + 1) (writeSign negative ++ (Nat.toDigits 10 n ++ rest)) =
      readNumber (writeSign negative ++ (Nat.toDigits 10 n ++ rest)) := by
  cases eq : Nat.toDigits 10 n with
  | nil => exact absurd eq Nat.toDigits_ne_nil
  | cons d digits =>
      have digit := isDigit_toDigits n d (by simp [eq])
      have signless : d ≠ '-' ∧ d ≠ 'I' := by
        constructor <;> (rintro rfl; revert digit; decide)
      cases negative with
      | true =>
          obtain ⟨h1, h2, h3, h4, h5, h6, h7, h8⟩ := numeric_ne (c := '-') (.inr rfl)
          simp only [writeSign, if_true, List.cons_append, List.nil_append, read, h1, h2, h3, h4, h5,
            h6, h7, h8, if_false]
          have finite : after? "-Infinity".toList ('-' :: d :: (digits ++ rest)) = none := by
            simp [after?, List.isPrefixOf, signless.2.symm]
          rw [finite]
      | false =>
          obtain ⟨h1, h2, h3, h4, h5, h6, h7, h8⟩ := numeric_ne (.inl digit)
          simp only [writeSign, Bool.false_eq_true, if_false, List.cons_append, List.nil_append, read,
            h1, h2, h3, h4, h5, h6, h7, h8]
          have finite : after? "-Infinity".toList (d :: (digits ++ rest)) = none := by
            simp [after?, List.isPrefixOf, signless.1.symm]
          rw [finite]

theorem read_writeInt (fuel : Nat) (value : Int) (follows : Follows rest) :
    read (fuel + 1) (writeInt value ++ rest) = some (.int value, rest) := by
  rw [← readNumber_writeInt value follows]
  simpa only [writeInt, List.append_assoc] using
    read_number fuel (decide (value < 0)) value.natAbs rest

theorem read_writeFloat (fuel : Nat) (literal : FloatLiteral) (follows : Follows rest) :
    read (fuel + 1) (writeFloat literal ++ rest) = some (.float literal, rest) := by
  rw [← readNumber_writeFloat literal follows]
  simpa only [writeFloat, List.append_assoc] using
    read_number fuel literal.negative literal.whole
      (writeFraction literal.fraction ++ (writeExponent literal.exponent ++ rest))

mutual

def WellKeyed : Json → Prop
  | .array items => WellKeyedItems items
  | .object members => (members.map Prod.fst).Nodup ∧ WellKeyedMembers members
  | _ => True

def WellKeyedItems : List Json → Prop
  | [] => True
  | item :: items => WellKeyed item ∧ WellKeyedItems items

def WellKeyedMembers : List (String × Json) → Prop
  | [] => True
  | member :: members => WellKeyed member.2 ∧ WellKeyedMembers members

end

end Json

/-- A Python value that `json.dumps` writes. -/
structure JsonDocument where
  value : Json
  keyed : value.WellKeyed

/-- A Python dict that `json.dumps` writes. -/
structure JsonObject where
  members : List (String × Json)
  keyed : (Json.object members).WellKeyed

namespace Json

theorem wellKeyed_empty : (Json.object []).WellKeyed := ⟨List.nodup_nil, trivial⟩

theorem wellKeyedMembers_iff (members : List (String × Json)) :
    WellKeyedMembers members ↔ ∀ member ∈ members, WellKeyed member.2 := by
  induction members with
  | nil => simp [WellKeyedMembers]
  | cons member members ih =>
      rw [WellKeyedMembers, ih, List.forall_mem_cons]

theorem foldl_assign {β : Type*} (members front : List (String × β))
    (unique : ((front ++ members).map Prod.fst).Nodup) :
    members.foldl assign front = front ++ members := by
  induction members generalizing front with
  | nil => simp
  | cons member members ih =>
      have fresh : ¬ ∃ entry ∈ front, entry.1 = member.1 := by
        rintro ⟨entry, inFront, same⟩
        rw [List.map_append, List.map_cons, List.nodup_append] at unique
        exact unique.2.2 entry.1 (List.mem_map_of_mem inFront) member.1 (by simp) same
      rw [List.foldl_cons, assign, if_neg fresh, ih (front ++ [member]) (by simpa using unique)]
      simp

theorem dict_of_nodup {β : Type*} {members : List (String × β)}
    (unique : (members.map Prod.fst).Nodup) : dict members = members := by
  unfold dict
  simpa using foldl_assign members [] (by simpa using unique)

variable {c : Char}

theorem skip_visible (visible : isSpace c = false) (rest : List Char) :
    skip (c :: rest) = c :: rest := by
  simp [skip, visible]

variable (layout : Layout)

theorem skip_gap (visible : isSpace c = false) (rest : List Char) :
    skip (layout.gap ++ c :: rest) = c :: rest := by
  cases layout with
  | compact | spaced => exact skip_visible visible rest

theorem after?_self (c : Char) (rest : List Char) : after? [c] (c :: rest) = some rest := by
  simp [after?, List.isPrefixOf]

theorem after?_ne {d : Char} (different : c ≠ d) (rest : List Char) :
    after? [c] (d :: rest) = none := by
  simp [after?, List.isPrefixOf, different]

theorem write_head (value : Json) :
    ∃ c text, write layout value = c :: text ∧ isSpace c = false ∧ c ≠ ']' := by
  have numeral : ∀ (negative : Bool) (n : Nat) (rest : List Char), ∃ c text,
      writeSign negative ++ (Nat.toDigits 10 n ++ rest) = c :: text ∧ isSpace c = false ∧
        c ≠ ']' := by
    intro negative n rest
    cases eq : Nat.toDigits 10 n with
    | nil => exact absurd eq Nat.toDigits_ne_nil
    | cons d digits =>
        have digit := isDigit_toDigits n d (by simp [eq])
        cases negative with
        | true => exact ⟨'-', _, rfl, rfl, by decide⟩
        | false =>
            have apart : ∀ other : Char, other.isDigit = false → d ≠ other := by
              rintro other undigited rfl
              rw [digit] at undigited
              cases undigited
            refine ⟨d, _, rfl, ?_, apart ']' (by decide)⟩
            simp only [isSpace, apart ' ' (by decide), apart '\t' (by decide), apart '\n' (by decide),
              apart '\r' (by decide), decide_false, Bool.or_self]
  cases value with
  | null | nan | string => exact ⟨_, _, rfl, rfl, by decide⟩
  | bool value => cases value <;> exact ⟨_, _, rfl, rfl, by decide⟩
  | int value => simpa [write, writeInt] using numeral (decide (value < 0)) value.natAbs []
  | float literal => exact numeral _ _ _
  | infinity negative => cases negative <;> exact ⟨_, _, rfl, rfl, by decide⟩
  | array items => cases items <;> exact ⟨'[', _, by rw [write], rfl, by decide⟩
  | object members => cases members <;> exact ⟨'{', _, by rw [write], rfl, by decide⟩

theorem skip_gap_write (value : Json) (rest : List Char) :
    skip (layout.gap ++ (write layout value ++ rest)) = write layout value ++ rest := by
  obtain ⟨c, text, begins, visible, _⟩ := write_head layout value
  rw [begins]
  exact skip_gap layout visible _

theorem follows_writeItems (items : List Json) (rest : List Char) :
    Follows (writeItems layout items ++ rest) := by
  intro c member
  cases items with
  | nil =>
      obtain rfl : ']' = c := by simpa [writeItems] using member
      exact .inr (.inl rfl)
  | cons item items =>
      obtain rfl : ',' = c := by simpa [writeItems] using member
      exact .inl rfl

theorem follows_writeMembers (members : List (String × Json))
    (rest : List Char) : Follows (writeMembers layout members ++ rest) := by
  intro c member
  cases members with
  | nil =>
      obtain rfl : '}' = c := by simpa [writeMembers] using member
      exact .inr (.inr (.inl rfl))
  | cons entry members =>
      obtain rfl : ',' = c := by simpa [writeMembers] using member
      exact .inl rfl

theorem readKey_write (key : String) (value : Json) (rest : List Char) :
    readKey (writeString key ++ (':' :: (layout.gap ++ (write layout value ++ rest)))) =
      some (key, write layout value ++ rest) := by
  simp only [writeString, List.cons_append, List.append_assoc, List.nil_append, readKey, if_true]
  rw [readString_writeString, Option.bind_some, skip_visible (by decide), after?_self,
    Option.map_some, skip_gap_write, String.ofList_toList]

mutual

theorem read_write (layout : Layout) : ∀ (value : Json) (fuel : Nat) (rest : List Char),
    (write layout value).length ≤ fuel → WellKeyed value → Follows rest →
      read fuel (write layout value ++ rest) = some (value, rest)
  | .null, 0, _, enough, _, _ => by simp [write] at enough
  | .null, fuel + 1, rest, _, _, _ => by simp [write, read, after?]
  | .bool true, 0, _, enough, _, _ => by simp [write] at enough
  | .bool true, fuel + 1, rest, _, _, _ => by simp [write, read, after?]
  | .bool false, 0, _, enough, _, _ => by simp [write] at enough
  | .bool false, fuel + 1, rest, _, _, _ => by simp [write, read, after?]
  | .int value, 0, _, enough, _, _ => by
      obtain ⟨c, text, begins, _⟩ := write_head layout (.int value)
      simp [begins] at enough
  | .int value, fuel + 1, rest, _, _, follows => by
      rw [write]
      exact read_writeInt fuel value follows
  | .float literal, 0, _, enough, _, _ => by
      obtain ⟨c, text, begins, _⟩ := write_head layout (.float literal)
      simp [begins] at enough
  | .float literal, fuel + 1, rest, _, _, follows => by
      rw [write]
      exact read_writeFloat fuel literal follows
  | .nan, 0, _, enough, _, _ => by simp [write] at enough
  | .nan, fuel + 1, rest, _, _, _ => by simp [write, read, after?]
  | .infinity _, 0, _, enough, _, _ => by simp [write] at enough
  | .infinity true, fuel + 1, rest, _, _, _ => by simp [write, writeSign, read, after?]
  | .infinity false, fuel + 1, rest, _, _, _ => by simp [write, writeSign, read, after?]
  | .string text, 0, _, enough, _, _ => by simp [write, writeString] at enough
  | .string text, fuel + 1, rest, _, _, _ => by
      simp only [write, writeString, List.cons_append, List.append_assoc, List.nil_append, read,
        if_true]
      rw [readString_writeString, Option.map_some, String.ofList_toList]
  | .array [], 0, _, enough, _, _ => by simp [write] at enough
  | .array [], fuel + 1, rest, _, _, _ => by
      simp [write, read, skip_visible (by decide : isSpace ']' = false), after?_self]
  | .array (item :: items), 0, _, enough, _, _ => by simp [write] at enough
  | .array (item :: items), fuel + 1, rest, enough, keyed, _ => by
      simp only [write, List.length_cons, List.length_append] at enough
      have itemRead := read_write layout item fuel (writeItems layout items ++ rest) (by omega)
        keyed.1 (follows_writeItems layout items rest)
      have itemsRead := readItems_write layout items fuel rest (by omega) keyed.2
      obtain ⟨c, text, begins, visible, open_⟩ := write_head layout item
      have started : skip (write layout item ++ (writeItems layout items ++ rest)) =
          write layout item ++ (writeItems layout items ++ rest) := by
        rw [begins]
        exact skip_visible visible _
      have more : after? [']'] (write layout item ++ (writeItems layout items ++ rest)) = none := by
        rw [begins]
        exact after?_ne open_.symm _
      simp only [write, List.cons_append, List.append_assoc, read, Char.reduceEq, if_true, if_false]
      rw [started, more]
      simp only [itemRead, Option.bind_some, itemsRead, Option.map_some]
  | .object [], 0, _, enough, _, _ => by simp [write] at enough
  | .object [], fuel + 1, rest, _, _, _ => by
      simp [write, read, skip_visible (by decide : isSpace '}' = false), after?_self]
  | .object ((key, value) :: members), 0, _, enough, _, _ => by simp [write] at enough
  | .object ((key, value) :: members), fuel + 1, rest, enough, keyed, _ => by
      simp only [write, List.length_cons, List.length_append] at enough
      have valueRead := read_write layout value fuel (writeMembers layout members ++ rest)
        (by omega) keyed.2.1 (follows_writeMembers layout members rest)
      have membersRead := readMembers_write layout members fuel rest (by omega) keyed.2.2
      have keyRead := readKey_write layout key value (writeMembers layout members ++ rest)
      have started : skip (writeString key ++ (':' :: (layout.gap ++ (write layout value ++
          (writeMembers layout members ++ rest))))) = writeString key ++ (':' :: (layout.gap ++
            (write layout value ++ (writeMembers layout members ++ rest)))) :=
        skip_visible (by decide) _
      have more : after? ['}'] (writeString key ++ (':' :: (layout.gap ++ (write layout value ++
          (writeMembers layout members ++ rest))))) = none :=
        after?_ne (by decide) _
      simp only [write, List.cons_append, List.append_assoc, read, Char.reduceEq, if_true, if_false]
      rw [started, more]
      simp only [keyRead, Option.bind_some, valueRead, membersRead, Option.map_some,
        dict_of_nodup keyed.1]

theorem readItems_write (layout : Layout) : ∀ (items : List Json) (fuel : Nat) (rest : List Char),
    (writeItems layout items).length ≤ fuel → WellKeyedItems items →
      readItems fuel (writeItems layout items ++ rest) = some (items, rest)
  | _, 0, _, enough, _ => by
      rename_i items _ _
      cases items <;> simp [writeItems] at enough
  | [], fuel + 1, rest, _, _ => by
      simp [writeItems, readItems, skip_visible (by decide : isSpace ']' = false), after?_self]
  | item :: items, fuel + 1, rest, enough, keyed => by
      simp only [writeItems, List.length_cons, List.length_append] at enough
      have itemRead := read_write layout item fuel (writeItems layout items ++ rest) (by omega)
        keyed.1 (follows_writeItems layout items rest)
      have itemsRead := readItems_write layout items fuel rest (by omega) keyed.2
      simp only [writeItems, List.cons_append, List.append_assoc, readItems]
      rw [skip_visible (by decide), after?_ne (by decide), after?_self]
      simp only [Option.bind_some, skip_gap_write, itemRead, itemsRead, Option.map_some]

theorem readMembers_write (layout : Layout) :
    ∀ (members : List (String × Json)) (fuel : Nat) (rest : List Char),
      (writeMembers layout members).length ≤ fuel → WellKeyedMembers members →
        readMembers fuel (writeMembers layout members ++ rest) = some (members, rest)
  | _, 0, _, enough, _ => by
      rename_i members _ _
      cases members <;> simp [writeMembers] at enough
  | [], fuel + 1, rest, _, _ => by
      simp [writeMembers, readMembers, skip_visible (by decide : isSpace '}' = false), after?_self]
  | (key, value) :: members, fuel + 1, rest, enough, keyed => by
      simp only [writeMembers, List.length_cons, List.length_append] at enough
      have valueRead := read_write layout value fuel (writeMembers layout members ++ rest)
        (by omega) keyed.1 (follows_writeMembers layout members rest)
      have membersRead := readMembers_write layout members fuel rest (by omega) keyed.2
      have keyRead := readKey_write layout key value (writeMembers layout members ++ rest)
      have started : skip (layout.gap ++ (writeString key ++ (':' :: (layout.gap ++
          (write layout value ++ (writeMembers layout members ++ rest)))))) = writeString key ++
            (':' :: (layout.gap ++ (write layout value ++ (writeMembers layout members ++ rest)))) :=
        skip_gap layout (by decide) _
      simp only [writeMembers, List.cons_append, List.append_assoc, readMembers]
      rw [skip_visible (by decide), after?_ne (by decide), after?_self]
      simp only [Option.bind_some, started, keyRead, valueRead, membersRead, Option.map_some]

end

theorem loads_write_append {value : Json} (keyed : WellKeyed value)
    {rest : List Char} (follows : Follows rest) (blank : skip rest = []) :
    loads (write layout value ++ rest) = some value := by
  obtain ⟨c, text, begins, visible, _⟩ := write_head layout value
  have started : skip (write layout value ++ rest) = write layout value ++ rest := by
    rw [begins]
    exact skip_visible visible _
  have enough : (write layout value).length ≤ (write layout value ++ rest).length + 1 := by
    rw [List.length_append]
    omega
  rw [loads, started, read_write layout value _ rest enough keyed follows, Option.bind_some]
  exact if_pos blank

theorem loads_write {value : Json} (keyed : WellKeyed value) :
    loads (write layout value) = some value := by
  simpa using loads_write_append layout keyed follows_nil rfl

@[simp] theorem sortKeys_int (value : Int) : sortKeys (.int value) = .int value := rfl

@[simp] theorem sortKeys_string (text : String) : sortKeys (.string text) = .string text := rfl

theorem sortMembers_eq (members : List (String × Json)) :
    sortMembers members = members.map fun member => (member.1, sortKeys member.2) := by
  induction members with
  | nil => rfl
  | cons member members ih =>
      rw [sortMembers, ih, List.map_cons]

theorem keys_sortMembers (members : List (String × Json)) :
    (sortMembers members).map Prod.fst = members.map Prod.fst := by
  rw [sortMembers_eq, List.map_map]
  rfl

mutual

theorem wellKeyed_sortKeys : ∀ {value : Json}, WellKeyed value → WellKeyed (sortKeys value)
  | .null, keyed => keyed
  | .bool _, keyed => keyed
  | .int _, keyed => keyed
  | .float _, keyed => keyed
  | .nan, keyed => keyed
  | .infinity _, keyed => keyed
  | .string _, keyed => keyed
  | .array items, keyed => by
      rw [sortKeys]
      exact wellKeyed_sortItems keyed
  | .object members, keyed => by
      have sorted := List.perm_insertionSort
        (fun first second : String × Json => first.1 ≤ second.1) (sortMembers members)
      rw [sortKeys]
      constructor
      · rw [(sorted.map Prod.fst).nodup_iff, keys_sortMembers]
        exact keyed.1
      · rw [wellKeyedMembers_iff]
        intro member inside
        exact (wellKeyedMembers_iff _).mp (wellKeyed_sortMembers keyed.2) member (sorted.mem_iff.mp inside)

theorem wellKeyed_sortItems : ∀ {items : List Json}, WellKeyedItems items →
    WellKeyedItems (sortItems items)
  | [], keyed => keyed
  | _ :: _, keyed => ⟨wellKeyed_sortKeys keyed.1, wellKeyed_sortItems keyed.2⟩

theorem wellKeyed_sortMembers : ∀ {members : List (String × Json)}, WellKeyedMembers members →
    WellKeyedMembers (sortMembers members)
  | [], keyed => keyed
  | (_, _) :: _, keyed => ⟨wellKeyed_sortKeys keyed.1, wellKeyed_sortMembers keyed.2⟩

end

mutual

@[simp] theorem sortKeys_sortKeys : ∀ value : Json, sortKeys (sortKeys value) = sortKeys value
  | .null => rfl
  | .bool _ => rfl
  | .int _ => rfl
  | .float _ => rfl
  | .nan => rfl
  | .infinity _ => rfl
  | .string _ => rfl
  | .array items => by
      rw [sortKeys, sortKeys, sortItems_sortItems items]
  | .object members => by
      have settled : sortMembers ((sortMembers members).insertionSort fun first second =>
          first.1 ≤ second.1) =
            (sortMembers members).insertionSort fun first second => first.1 ≤ second.1 := by
        rw [sortMembers_eq]
        refine (List.map_congr_left fun member inside => ?_).trans (List.map_id _)
        rw [sortKeys_member members member ((List.mem_insertionSort _).mp inside)]
        rfl
      rw [sortKeys, sortKeys, settled, (List.pairwise_insertionSort _ _).insertionSort_eq]

theorem sortItems_sortItems : ∀ items : List Json, sortItems (sortItems items) = sortItems items
  | [] => rfl
  | item :: items => by
      rw [sortItems, sortItems, sortKeys_sortKeys item, sortItems_sortItems items]

theorem sortKeys_member : ∀ (members : List (String × Json)),
    ∀ member ∈ sortMembers members, sortKeys member.2 = member.2
  | [], member, inside => by cases inside
  | (key, value) :: members, member, inside => by
      rcases List.mem_cons.mp inside with rfl | later
      · exact sortKeys_sortKeys value
      · exact sortKeys_member members member later

end

theorem write_sortKeys_inj {first second : Json} (firstKeyed : WellKeyed first)
    (secondKeyed : WellKeyed second) :
    write layout (sortKeys first) = write layout (sortKeys second) ↔
      sortKeys first = sortKeys second := by
  constructor
  · intro same
    have firstRead := loads_write layout (wellKeyed_sortKeys firstKeyed)
    have secondRead := loads_write layout (wellKeyed_sortKeys secondKeyed)
    rw [same, secondRead] at firstRead
    exact (Option.some.inj firstRead).symm
  · intro same
    rw [same]

end Json

end Wlcodex.Lib
