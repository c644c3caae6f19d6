import Mathlib.Data.List.Infix
import Wlcodex.Lib.Regex
import Wlcodex.Orchestrator.Texts

namespace Wlcodex.Orchestrator

open Wlcodex.Bridge (find? isLineBreak)
open Wlcodex.Lib (Regex)
open Wlcodex.Native (lowerText)
open Wlcodex.Runtime (contains foldCase)

/-! Which of the listed patterns the detectors find: they compare letter by letter, also the patterns
that are written as regular expressions, and go on behind each occurrence. -/

inductive Category where
  | delivery
  | access

namespace Category

def patterns : Category → List String
  | .delivery => directTelegramSendPatterns
  | .access => directTokenAccessPatterns

def claimed : Category → String
  | .delivery => "Claude claimed direct Telegram delivery"
  | .access => "Claude attempted Telegram token access"

def attempted : Category → String
  | .delivery => "Codex verification attempted direct delivery"
  | .access => "Codex verification attempted token access"

end Category

def linesOf (text : String) : List (List Char) := text.toList.splitOnP isLineBreak

/-- A pattern as `re` reads it with `IGNORECASE`. -/
def compiled : List Char → Regex
  | [] => .star fun _ => false
  | '.' :: '*' :: rest => .seq (.star (· ≠ '\n')) (compiled rest)
  | '.' :: rest => .seq (.chars (· ≠ '\n')) (compiled rest)
  | c :: rest => .seq (.chars fun d => foldCase d == foldCase c) (compiled rest)

/-- `re.search`. -/
def searches (pattern : String) (line : List Char) : Bool :=
  line.tails.any fun tail =>
    (Regex.matchThen (fun _ => false) (compiled pattern.toList) ⟨none, tail, []⟩ some).isSome

def lowered (line : List Char) : List Char := (lowerText (String.ofList line)).toList

def isClean (pattern : String) (line : List Char) (place : Nat) : Bool :=
  let window := ((lowered line).take (place + (lowerText pattern).toList.length + 90)).drop (place - 90)
  !negatedDeliveryReferenceMarkers.any fun marker => contains (lowerText marker) (String.ofList window)

section Category

variable (category : Category) (text : String)

def MatchedIn : Prop := ∃ line ∈ linesOf text, ∃ pattern ∈ category.patterns, searches pattern line

def SpelledIn : Prop := ∃ pattern ∈ category.patterns, contains (lowerText pattern) (lowerText text)

def CleanIn : Prop :=
  ∃ line ∈ linesOf text, ∃ pattern ∈ category.patterns, ∃ place,
    (lowerText pattern).toList <+: (lowered line).drop place ∧ isClean pattern line place

/-- Counted from the left, without overlaps. -/
def CleanCountedIn : Prop :=
  ∃ line ∈ linesOf text, ∃ pattern ∈ category.patterns,
    ∃ place ∈ placesFrom (lowerText pattern).toList (lowered line) ((lowered line).length + 1) 0,
      isClean pattern line place

def Reported (label : String) (findings : List String) : Prop :=
  ∃ pattern ∈ category.patterns, label ++ ": matched '" ++ pattern ++ "'" ∈ findings

end Category

theorem mem_finding {label entry : String} {patterns : List String} {hit : String → Bool} :
    entry ∈ finding label patterns hit ↔
      ∃ pattern, patterns.find? hit = some pattern ∧ label ++ ": matched '" ++ pattern ++ "'" = entry := by
  simp [finding]

theorem reported_finding {category : Category} (label : String) {hit : String → Bool} :
    Reported category label (finding label category.patterns hit) ↔
      ∃ pattern ∈ category.patterns, hit pattern := by
  simp only [Reported, mem_finding]
  constructor
  · rintro ⟨_, _, pattern, found, _⟩
    exact ⟨pattern, List.mem_of_find?_eq_some found, List.find?_some found⟩
  · rintro ⟨pattern, member, meets⟩
    obtain ⟨first, found⟩ := Option.isSome_iff_exists.mp (List.find?_isSome.mpr ⟨pattern, member, meets⟩)
    exact ⟨first, List.mem_of_find?_eq_some found, first, found, rfl⟩

/-- Labels that differ within their first letters tell the findings of the categories apart. -/
theorem not_reported {category : Category} {label other : String} {patterns : List String}
    {hit : String → Bool} (width : Nat) (fits : width ≤ label.toList.length)
    (alsoFits : width ≤ other.toList.length)
    (apart : label.toList.take width ≠ other.toList.take width) :
    ¬Reported category label (finding other patterns hit) := by
  rintro ⟨_, _, member⟩
  obtain ⟨_, _, same⟩ := mem_finding.mp member
  have starts := congrArg (fun entry : String => entry.toList.take width) same
  simp only [String.toList_append, List.append_assoc, List.take_append_of_le_length fits,
    List.take_append_of_le_length alsoFits] at starts
  exact apart starts.symm

theorem reported_append {category : Category} {label : String} {front back : List String} :
    Reported category label (front ++ back) ↔
      Reported category label front ∨ Reported category label back := by
  simp only [Reported, List.mem_append, and_or_left, exists_or]

theorem reported_claude {category : Category} {text : String} :
    Reported category category.claimed (detectClaudeDirectDeliveryDrift text) ↔ SpelledIn category text := by
  rw [detectClaudeDirectDeliveryDrift, reported_append, SpelledIn,
    ← reported_finding category.claimed]
  cases category with
  | delivery => exact or_iff_left (not_reported 8 (by decide) (by decide) (by decide))
  | access => exact or_iff_right (not_reported 8 (by decide) (by decide) (by decide))

theorem splitOnP_eq_cons {α : Type*} (test : α → Bool) (text : List α) :
    ∃ first rest, text.splitOnP test = first :: rest ∧ first <+: text ∧ ∀ piece ∈ rest, piece <:+: text := by
  induction text with
  | nil => exact ⟨[], [], rfl, List.prefix_rfl, by simp⟩
  | cons c text ih =>
      obtain ⟨first, rest, same, starts, others⟩ := ih
      rw [List.splitOnP_cons_eq_if_modifyHead, same]
      by_cases separates : test c
      · refine ⟨[], first :: rest, if_pos separates, List.nil_prefix, ?_⟩
        simpa using ⟨List.infix_cons starts.isInfix, fun piece member => List.infix_cons (others piece member)⟩
      · refine ⟨c :: first, rest, if_neg separates, (List.prefix_cons_inj c).mpr starts, ?_⟩
        exact fun piece member => List.infix_cons (others piece member)

theorem infix_of_mem_linesOf {text : String} {line : List Char} (member : line ∈ linesOf text) :
    line <:+: text.toList := by
  obtain ⟨first, rest, same, starts, others⟩ := splitOnP_eq_cons isLineBreak text.toList
  rw [linesOf, same] at member
  rcases List.mem_cons.mp member with rfl | later
  · exact starts.isInfix
  · exact others line later

theorem contains_of_prefix {word text : String} {line : List Char} {place : Nat}
    (member : line ∈ linesOf text) (occurs : word.toList <+: (lowered line).drop place) :
    contains word (lowerText text) := by
  have inLine : word.toList <:+: lowered line := occurs.isInfix.trans (List.drop_suffix place _).isInfix
  have within : lowered line <:+: (lowerText text).toList := by
    simpa [lowered, lowerText] using (infix_of_mem_linesOf member).flatMap Runtime.lower
  obtain ⟨tail, starts, ends⟩ := List.infix_iff_prefix_suffix.mp (inLine.trans within)
  exact List.any_eq_true.mpr ⟨tail, (List.mem_tails _ _).mpr ends, List.isPrefixOf_iff_prefix.mpr starts⟩

theorem prefix_of_mem_placesFrom {word text : List Char} {fuel start place : Nat}
    (member : place ∈ placesFrom word text fuel start) : word <+: text.drop place := by
  induction fuel generalizing start with
  | zero => exact absurd member List.not_mem_nil
  | succ fuel ih =>
      rw [placesFrom] at member
      split at member
      · exact absurd member List.not_mem_nil
      next offset found =>
        rcases List.mem_cons.mp member with rfl | later
        · obtain ⟨bound, occurs, _⟩ := List.findIdx?_eq_some_iff_getElem.mp found
          simpa [List.getElem_tails] using occurs
        · exact ih later

theorem hasNonNegatedPattern_iff {text pattern : String} :
    hasNonNegatedPattern text pattern ↔ ∃ line ∈ linesOf text,
      ∃ place ∈ placesFrom (lowerText pattern).toList (lowered line) ((lowered line).length + 1) 0,
        isClean pattern line place := by
  simp [hasNonNegatedPattern, linesOf, lowered, isClean]

theorem reported_codex {category : Category} {text : String} :
    Reported category category.attempted (detectVerificationDeliveryDrift text) ↔
      CleanCountedIn category text := by
  have hit_iff {pattern : String} :
      (contains (lowerText pattern) (lowerText text) && hasNonNegatedPattern text pattern) = true ↔
        hasNonNegatedPattern text pattern := by
    refine Bool.and_eq_true_iff.trans (and_iff_right_of_imp fun found => ?_)
    obtain ⟨line, member, place, counted, _⟩ := hasNonNegatedPattern_iff.mp found
    exact contains_of_prefix member (prefix_of_mem_placesFrom counted)
  have counted_iff : CleanCountedIn category text ↔ ∃ pattern ∈ category.patterns,
      (contains (lowerText pattern) (lowerText text) && hasNonNegatedPattern text pattern) = true := by
    simp only [hit_iff, hasNonNegatedPattern_iff]
    constructor
    · rintro ⟨line, inText, pattern, listed, counted⟩
      exact ⟨pattern, listed, line, inText, counted⟩
    · rintro ⟨pattern, listed, line, inText, counted⟩
      exact ⟨line, inText, pattern, listed, counted⟩
  rw [detectVerificationDeliveryDrift, reported_append, counted_iff,
    ← reported_finding category.attempted]
  cases category with
  | delivery => exact or_iff_left (not_reported 30 (by decide) (by decide) (by decide))
  | access => exact or_iff_right (not_reported 30 (by decide) (by decide) (by decide))

end Wlcodex.Orchestrator
