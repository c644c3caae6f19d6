import Mathlib.Data.List.Sort
import Mathlib.Data.List.TakeWhile
import Mathlib.Data.String.Basic

namespace Wlcodex.Lib

/-! JSON documents and their text: `json.dumps` with `ensure_ascii=False`, and `json.loads`. -/

abbrev Digits := { digits : List Char // digits ≠ [] ∧ ∀ digit ∈ digits, digit.isDigit }

structure FloatLiteral where
  negative : Bool
  whole : Nat
  fraction : Option Digits
  /-- Whether it is negative, and its digits. -/
  exponent : Option (Bool × Digits)
  inexact : fraction.isSome ∨ exponent.isSome
  deriving DecidableEq

inductive Json where
  | null
  | bool (value : Bool)
  | int (value : Int)
  | float (literal : FloatLiteral)
  | nan
  | infinity (negative : Bool)
  | string (text : String)
  | array (items : List Json)
  | object (members : List (String × Json))

/-- The separators of `json.dumps`. -/
inductive Layout where
  | spaced
  | compact
  deriving DecidableEq

def Layout.gap : Layout → List Char
  | .spaced => [' ']
  | .compact => []

namespace Json

def hexDigit (n : Nat) : Char := Nat.digitChar (n % 16)

/-- `ESCAPE_DCT`, and the characters that it leaves alone. -/
def escape (c : Char) : List Char :=
  if c = '"' then ['\\', '"']
  else if c = '\\' then ['\\', '\\']
  else if c = '\n' then ['\\', 'n']
  else if c = '\r' then ['\\', 'r']
  else if c = '\t' then ['\\', 't']
  else if c.toNat = 8 then ['\\', 'b']
  else if c.toNat = 12 then ['\\', 'f']
  else if c.toNat < 32 then
    ['\\', 'u', '0', '0', hexDigit (c.toNat / 16), hexDigit (c.toNat % 16)]
  else [c]

def writeString (text : String) : List Char :=
  '"' :: text.toList.flatMap escape ++ ['"']

def writeSign (negative : Bool) : List Char :=
  if negative then ['-'] else []

def writeFraction : Option Digits → List Char
  | none => []
  | some digits => '.' :: digits.1

def writeExponent : Option (Bool × Digits) → List Char
  | none => []
  | some (negative, digits) => 'e' :: (if negative then '-' else '+') :: digits.1

def writeFloat (literal : FloatLiteral) : List Char :=
  writeSign literal.negative ++ (Nat.toDigits 10 literal.whole ++
    (writeFraction literal.fraction ++ writeExponent literal.exponent))

def writeInt (value : Int) : List Char :=
  writeSign (value < 0) ++ Nat.toDigits 10 value.natAbs

mutual

def write (layout : Layout) : Json → List Char
  | .null => "null".toList
  | .bool true => "true".toList
  | .bool false => "false".toList
  | .int value => writeInt value
  | .float literal => writeFloat literal
  | .nan => "NaN".toList
  | .infinity negative => writeSign negative ++ "Infinity".toList
  | .string text => writeString text
  | .array [] => ['[', ']']
  | .array (item :: items) => '[' :: (write layout item ++ writeItems layout items)
  | .object [] => ['{', '}']
  | .object ((key, value) :: members) =>
      '{' :: (writeString key ++ (':' :: (layout.gap ++
        (write layout value ++ writeMembers layout members))))

def writeItems (layout : Layout) : List Json → List Char
  | [] => [']']
  | item :: items => ',' :: (layout.gap ++ (write layout item ++ writeItems layout items))

def writeMembers (layout : Layout) : List (String × Json) → List Char
  | [] => ['}']
  | (key, value) :: members =>
      ',' :: (layout.gap ++ (writeString key ++ (':' :: (layout.gap ++
        (write layout value ++ writeMembers layout members)))))

end

mutual

/-- `sort_keys=True`. -/
def sortKeys : Json → Json
  | .array items => .array (sortItems items)
  | .object members =>
      .object ((sortMembers members).insertionSort fun first second => first.1 ≤ second.1)
  | value => value

def sortItems : List Json → List Json
  | [] => []
  | item :: items => sortKeys item :: sortItems items

def sortMembers : List (String × Json) → List (String × Json)
  | [] => []
  | (key, value) :: members => (key, sortKeys value) :: sortMembers members

end

def isSpace (c : Char) : Bool := c = ' ' || c = '\t' || c = '\n' || c = '\r'

variable (text : List Char)

def skip : List Char := text.dropWhile isSpace

def after? (word text : List Char) : Option (List Char) :=
  if word.isPrefixOf text then some (text.drop word.length) else none

def hexValue? (c : Char) : Option Nat :=
  if c.isDigit then some (c.toNat - 48)
  else if 97 ≤ c.toNat ∧ c.toNat ≤ 102 then some (c.toNat - 87)
  else if 65 ≤ c.toNat ∧ c.toNat ≤ 70 then some (c.toNat - 55)
  else none

def readUnit : List Char → Option (Nat × List Char)
  | a :: b :: c :: d :: rest =>
      match hexValue? a, hexValue? b, hexValue? c, hexValue? d with
      | some a, some b, some c, some d => some (((a * 16 + b) * 16 + c) * 16 + d, rest)
      | _, _, _, _ => none
  | _ => none

def unescape? (c : Char) : Option Char :=
  if c = '"' then some '"'
  else if c = '\\' then some '\\'
  else if c = '/' then some '/'
  else if c = 'b' then some (Char.ofNat 8)
  else if c = 'f' then some (Char.ofNat 12)
  else if c = 'n' then some '\n'
  else if c = 'r' then some '\r'
  else if c = 't' then some '\t'
  else none

def readEscaped : Option (Char × List Char) :=
  match readUnit text with
  | none => none
  | some (high, rest) =>
      if 0xD800 ≤ high ∧ high < 0xDC00 then
        match (after? ['\\', 'u'] rest).bind readUnit with
        | some (low, rest) =>
            if 0xDC00 ≤ low ∧ low < 0xE000 then
              some (Char.ofNat (0x10000 + (high - 0xD800) * 0x400 + (low - 0xDC00)), rest)
            else none
        | none => none
      else if 0xDC00 ≤ high ∧ high < 0xE000 then none
      else some (Char.ofNat high, rest)

def readString : Nat → List Char → Option (List Char × List Char)
  | 0, _ => none
  | _ + 1, [] => none
  | fuel + 1, c :: rest =>
      if c = '"' then some ([], rest)
      else if c = '\\' then
        match rest with
        | [] => none
        | e :: rest =>
            match (if e = 'u' then readEscaped rest else (unescape? e).map (·, rest)) with
            | none => none
            | some (c, rest) => (readString fuel rest).map fun (text, rest) => (c :: text, rest)
      else if c.toNat < 32 then none
      else (readString fuel rest).map fun (text, rest) => (c :: text, rest)

def readDigits : Option Digits × List Char :=
  if nonempty : text.takeWhile Char.isDigit ≠ [] then
    (some ⟨text.takeWhile Char.isDigit, nonempty, fun _ member => List.mem_takeWhile_imp member⟩,
      text.dropWhile Char.isDigit)
  else (none, text)

def readSign : Bool × List Char :=
  match text with
  | c :: rest => if c = '-' then (true, rest) else (false, text)
  | [] => (false, text)

def readWhole : Option (Nat × List Char) :=
  match text with
  | c :: rest =>
      if c = '0' then some (0, rest)
      else (readDigits text).1.map fun digits =>
        (Nat.ofDigitChars 10 digits.1 0, (readDigits text).2)
  | [] => none

def readFraction : Option Digits × List Char :=
  match text with
  | c :: rest =>
      if c = '.' ∧ (readDigits rest).1.isSome then readDigits rest else (none, text)
  | [] => (none, text)

def readExponentSign : Bool × List Char :=
  match text with
  | c :: rest =>
      if c = '-' then (true, rest) else if c = '+' then (false, rest) else (false, text)
  | [] => (false, text)

def readExponent : Option (Bool × Digits) × List Char :=
  match text with
  | c :: rest =>
      if c = 'e' ∨ c = 'E' then
        match readDigits (readExponentSign rest).2 with
        | (some digits, left) => (some ((readExponentSign rest).1, digits), left)
        | (none, _) => (none, text)
      else (none, text)
  | [] => (none, text)

def number (negative : Bool) (whole : Nat) (fraction : Option Digits)
    (exponent : Option (Bool × Digits)) : Json :=
  if inexact : fraction.isSome ∨ exponent.isSome then
    .float ⟨negative, whole, fraction, exponent, inexact⟩
  else .int (if negative then -whole else whole)

def readNumber : Option (Json × List Char) :=
  (readWhole (readSign text).2).map fun (whole, rest) =>
    (number (readSign text).1 whole (readFraction rest).1 (readExponent (readFraction rest).2).1,
      (readExponent (readFraction rest).2).2)

def assign {β : Type*} (members : List (String × β)) (member : String × β) : List (String × β) :=
  if ∃ entry ∈ members, entry.1 = member.1 then
    members.map fun entry => if entry.1 = member.1 then (entry.1, member.2) else entry
  else members ++ [member]

def dict {β : Type*} (members : List (String × β)) : List (String × β) := members.foldl assign []

def readKey : Option (String × List Char) :=
  match text with
  | c :: rest =>
      if c = '"' then
        (readString rest.length rest).bind fun (key, rest) =>
          (after? [':'] (skip rest)).map fun rest => (String.ofList key, skip rest)
      else none
  | [] => none

mutual

def read : Nat → List Char → Option (Json × List Char)
  | 0, _ => none
  | _ + 1, [] => none
  | fuel + 1, c :: rest =>
      if c = '"' then
        (readString rest.length rest).map fun (text, rest) => (.string (String.ofList text), rest)
      else if c = '[' then
        match after? [']'] (skip rest) with
        | some rest => some (.array [], rest)
        | none =>
            (read fuel (skip rest)).bind fun (item, rest) =>
              (readItems fuel rest).map fun (items, rest) => (.array (item :: items), rest)
      else if c = '{' then
        match after? ['}'] (skip rest) with
        | some rest => some (.object [], rest)
        | none =>
            (readKey (skip rest)).bind fun (key, rest) =>
              (read fuel rest).bind fun (value, rest) =>
                (readMembers fuel rest).map fun (members, rest) =>
                  (.object (dict ((key, value) :: members)), rest)
      else if c = 'n' then (after? "ull".toList rest).map (.null, ·)
      else if c = 't' then (after? "rue".toList rest).map (.bool true, ·)
      else if c = 'f' then (after? "alse".toList rest).map (.bool false, ·)
      else if c = 'N' then (after? "aN".toList rest).map (.nan, ·)
      else if c = 'I' then (after? "nfinity".toList rest).map (.infinity false, ·)
      else
        match after? "-Infinity".toList (c :: rest) with
        | some rest => some (.infinity true, rest)
        | none => readNumber (c :: rest)

def readItems : Nat → List Char → Option (List Json × List Char)
  | 0, _ => none
  | fuel + 1, text =>
      match after? [']'] (skip text) with
      | some rest => some ([], rest)
      | none =>
          (after? [','] (skip text)).bind fun rest =>
            (read fuel (skip rest)).bind fun (item, rest) =>
              (readItems fuel rest).map fun (items, rest) => (item :: items, rest)

def readMembers : Nat → List Char → Option (List (String × Json) × List Char)
  | 0, _ => none
  | fuel + 1, text =>
      match after? ['}'] (skip text) with
      | some rest => some ([], rest)
      | none =>
          (after? [','] (skip text)).bind fun rest =>
            (readKey (skip rest)).bind fun (key, rest) =>
              (read fuel rest).bind fun (value, rest) =>
                (readMembers fuel rest).map fun (members, rest) => ((key, value) :: members, rest)

end

/-- `json.loads`. -/
def loads : Option Json :=
  (read (text.length + 1) (skip text)).bind fun (value, rest) =>
    if skip rest = [] then some value else none

end Json

end Wlcodex.Lib
