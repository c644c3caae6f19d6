import Mathlib.Data.List.Basic
import Mathlib.Data.List.Induction
import Mathlib.Data.List.TakeWhile
import Wlcodex.Lib.Bytes

namespace Wlcodex.Tasks

open Wlcodex.Lib

/-! `_append_task_log`, where the file can be written.  The file is kept as the text that it encodes. -/

namespace TaskLog

abbrev Text := List Char

def maxLogBytes : Nat := 500 * 1024

/-- `int(MAX_LOG_BYTES * 0.75)`; what it counts are characters. -/
def keepBytes : Nat := maxLogBytes * 3 / 4

def encodedSize (text : Text) : Nat := (Bytes.ofText text).length

/-- What `read_text` makes of the line ends. -/
def universalNewlines : Text → Text
  | [] => []
  | '\r' :: '\n' :: rest => '\n' :: universalNewlines rest
  | letter :: rest => (if letter = '\r' then '\n' else letter) :: universalNewlines rest

def terminated (text : Text) : Text := if text.getLast? = some '\n' then text else text ++ ['\n']

def lastLetters (count : Nat) (text : Text) : Text := text.drop (text.length - count)

/-- Begins behind the first newline, unless that is the first or the last letter. -/
def snap (text : Text) : Text :=
  match text.findIdx? (· = '\n') with
  | none => text
  | some newline => if 0 < newline ∧ newline < text.length - 1 then text.drop (newline + 1) else text

def appendTaskLog (log text : Text) : Text :=
  if text = [] then log
  else
    let content := log ++ terminated text
    if maxLogBytes < encodedSize content then snap (lastLetters keepBytes (universalNewlines content))
    else content

def taskLog (chunks : List Text) : Text := chunks.foldl appendTaskLog []

/-- All that was written so far. -/
def written (chunks : List Text) : Text := (chunks.filter (· ≠ [])).flatMap terminated

/-- The last line of a chunk, with its newline. -/
def lastLine (text : Text) : Text :=
  if text = [] then [] else ((terminated text).dropLast.reverse.takeWhile (· ≠ '\n')).reverse ++ ['\n']

/-- Where the cap is passed, the letters that are counted off have at most as many bytes as the cap,
no carriage return, and the last line of the chunk is among them. -/
def Fits (log text : Text) : Prop :=
  let content := log ++ terminated text
  maxLogBytes < encodedSize content →
    encodedSize (lastLetters keepBytes content) ≤ maxLogBytes ∧ '\r' ∉ lastLetters keepBytes content ∧
      (lastLine text).length ≤ keepBytes

section Cut

variable {text front tail line : Text}

theorem encodedSize_mono (ends : tail <:+ text) : encodedSize tail ≤ encodedSize text := by
  obtain ⟨front, rfl⟩ := ends
  unfold encodedSize Bytes.ofText
  rw [List.flatMap_append, List.length_append]
  exact Nat.le_add_left _ _

theorem universalNewlines_plain (plain : '\r' ∉ text) : universalNewlines text = text := by
  fun_induction universalNewlines text with
  | case1 => rfl
  | case2 rest _ => exact absurd List.mem_cons_self plain
  | case3 letter rest _ ih =>
      rw [List.mem_cons, not_or] at plain
      rw [if_neg (Ne.symm plain.1), ih plain.2]

theorem universalNewlines_cons (letter : Char) (rest : Text) :
    universalNewlines rest <:+ universalNewlines (letter :: rest) := by
  generalize shape : letter :: rest = text
  fun_cases universalNewlines text with
  | case1 => cases shape
  | case2 later =>
      cases shape
      exact List.suffix_rfl
  | case3 letter later other =>
      cases shape
      exact List.suffix_cons _ _

/-- The end of a text is read as it is, if it has no carriage return. -/
theorem universalNewlines_append (front : Text) (plain : '\r' ∉ tail) :
    tail <:+ universalNewlines (front ++ tail) := by
  induction front with
  | nil => simp [universalNewlines_plain plain]
  | cons letter front ih =>
      exact ih.trans (universalNewlines_cons letter (front ++ tail))

theorem lastLetters_suffix (count : Nat) (text : Text) : lastLetters count text <:+ text :=
  List.drop_suffix _ _

theorem suffix_lastLetters {count : Nat} (ends : tail <:+ text) (short : tail.length ≤ count) :
    tail <:+ lastLetters count text := by
  refine List.suffix_of_suffix_length_le ends (lastLetters_suffix count text) ?_
  have fits := ends.length_le
  rw [lastLetters, List.length_drop]
  omega

theorem lastLetters_universalNewlines {count : Nat} (plain : '\r' ∉ lastLetters count text) :
    lastLetters count (universalNewlines text) = lastLetters count text := by
  by_cases short : text.length ≤ count
  · have whole : lastLetters count text = text := by
      rw [lastLetters, Nat.sub_eq_zero_of_le short, List.drop_zero]
    rw [whole] at plain
    rw [universalNewlines_plain plain]
  · have counted : (lastLetters count text).length = count := by
      rw [lastLetters, List.length_drop]
      omega
    have ends : lastLetters count text <:+ universalNewlines text := by
      have read := universalNewlines_append (text.take (text.length - count)) plain
      rwa [lastLetters, List.take_append_drop] at read
    refine ((suffix_lastLetters ends counted.le).eq_of_length_le ?_).symm
    rw [counted, lastLetters, List.length_drop]
    omega

theorem snap_suffix (text : Text) : snap text <:+ text := by
  unfold snap
  split
  · exact List.suffix_rfl
  · split
    · exact List.drop_suffix _ _
    · exact List.suffix_rfl

theorem snap_keeps (front : Text) (single : '\n' ∉ line) :
    line ++ ['\n'] <:+ snap (front ++ (line ++ ['\n'])) := by
  unfold snap
  split
  · exact List.suffix_append _ _
  next newline found =>
    split
    next inside =>
      obtain ⟨short, isNewline, _⟩ := List.findIdx?_eq_some_iff_getElem.mp found
      have early : newline < front.length := by
        by_contra late
        have place : newline - front.length < line.length := by
          have := inside.2
          simp only [List.length_append, List.length_singleton] at this
          omega
        rw [List.getElem_append_right (Nat.le_of_not_lt late), List.getElem_append_left place,
          decide_eq_true_eq] at isNewline
        exact single (isNewline ▸ List.getElem_mem place)
      rw [List.drop_append_of_le_length early]
      exact List.suffix_append _ _
    · exact List.suffix_append _ _

/-- The last line of a chunk is the last line of the log. -/
theorem lastLine_spec (filled : text ≠ []) :
    ∃ front line, '\n' ∉ line ∧ lastLine text = line ++ ['\n'] ∧
      terminated text = front ++ (line ++ ['\n']) := by
  obtain ⟨body, ended⟩ : ∃ body, terminated text = body ++ ['\n'] := by
    unfold terminated
    split_ifs with ends
    · exact ⟨text.dropLast, (List.dropLast_append_getLast? _ ends).symm⟩
    · exact ⟨text, rfl⟩
  refine ⟨(body.reverse.dropWhile (· ≠ '\n')).reverse, (body.reverse.takeWhile (· ≠ '\n')).reverse, ?_, ?_, ?_⟩
  · intro inside
    have single := List.mem_takeWhile_imp (List.mem_reverse.mp inside)
    simp at single
  · rw [lastLine, if_neg filled, ended, List.dropLast_concat]
  · rw [ended, ← List.append_assoc, ← List.reverse_append, List.takeWhile_append_dropWhile,
      List.reverse_reverse]

end Cut

section Steps

variable {log all text : Text}

/-- What the docstring promises, after a chunk. -/
structure Keeps (all text log : Text) : Prop where
  bounded : encodedSize log ≤ maxLogBytes
  ends : log <:+ all
  newest : lastLine text <:+ log

theorem keeps_append (filled : text ≠ []) (ends : log <:+ all) (fits : Fits log text) :
    Keeps (all ++ terminated text) text (appendTaskLog log text) := by
  obtain ⟨front, line, single, newest, shape⟩ := lastLine_spec filled
  have whole : log ++ terminated text <:+ all ++ terminated text := by
    obtain ⟨before, rfl⟩ := ends
    rw [List.append_assoc]
    exact List.suffix_append _ _
  have last : lastLine text <:+ log ++ terminated text := by
    rw [newest, shape, ← List.append_assoc]
    exact List.suffix_append _ _
  unfold appendTaskLog
  rw [if_neg filled]
  dsimp only
  split_ifs with large
  · obtain ⟨bytes, plain, short⟩ := fits large
    rw [lastLetters_universalNewlines plain]
    have cut := snap_suffix (lastLetters keepBytes (log ++ terminated text))
    refine ⟨(encodedSize_mono cut).trans bytes, (cut.trans (lastLetters_suffix _ _)).trans whole, ?_⟩
    obtain ⟨early, window⟩ := suffix_lastLetters last short
    rw [newest] at window ⊢
    rw [← window]
    exact snap_keeps early single
  · exact ⟨Nat.le_of_not_lt large, whole, last⟩

theorem keeps_step {before : List Text} {chunk : Text} (bounded : encodedSize (taskLog before) ≤ maxLogBytes)
    (ends : taskLog before <:+ written before) (fits : Fits (taskLog before) chunk) :
    Keeps (written (before ++ [chunk])) chunk (taskLog (before ++ [chunk])) := by
  have logged : taskLog (before ++ [chunk]) = appendTaskLog (taskLog before) chunk := List.foldl_append
  rw [logged]
  by_cases empty : chunk = []
  · have same : written (before ++ [chunk]) = written before := by simp [written, empty]
    rw [same, appendTaskLog, if_pos empty]
    refine ⟨bounded, ends, ?_⟩
    rw [lastLine, if_pos empty]
    exact List.nil_suffix
  · have more : written (before ++ [chunk]) = written before ++ terminated chunk := by simp [written, empty]
    rw [more]
    exact keeps_append empty ends fits

theorem encodedSize_line (count : Nat) :
    encodedSize (List.replicate count 'é' ++ ['\n']) = 2 * count + 1 := by
  induction count with
  | zero => rfl
  | succ count ih =>
      have letter : (String.utf8EncodeChar 'é').length = 2 := by decide
      unfold encodedSize Bytes.ofText at ih ⊢
      rw [List.replicate_succ, List.cons_append, List.flatMap_cons, List.length_append, ih, letter]
      omega

/-- A line of letters of two bytes is cut to three quarters of the cap in letters. -/
theorem line_past_cap {count : Nat} (long : keepBytes ≤ count) :
    maxLogBytes < encodedSize (taskLog [List.replicate count 'é']) := by
  have cap : maxLogBytes = 512000 := rfl
  have keep : keepBytes = 384000 := rfl
  have filled : List.replicate count 'é' ≠ [] := by
    rw [ne_eq, List.replicate_eq_nil_iff]
    omega
  have ended : terminated (List.replicate count 'é') = List.replicate count 'é' ++ ['\n'] := by
    rw [terminated, if_neg]
    simp [List.getLast?_replicate]
  have window : lastLetters keepBytes (List.replicate count 'é' ++ ['\n']) =
      List.replicate (keepBytes - 1) 'é' ++ ['\n'] := by
    have left : count - (count + 1 - keepBytes) = keepBytes - 1 := by omega
    rw [lastLetters, List.length_append, List.length_replicate, List.length_singleton,
      List.drop_append_of_le_length (by rw [List.length_replicate]; omega), List.drop_replicate, left]
  have plain : '\r' ∉ lastLetters keepBytes (List.replicate count 'é' ++ ['\n']) := by
    rw [window]
    simp [List.mem_replicate]
  have large : maxLogBytes < encodedSize (List.replicate count 'é' ++ ['\n']) := by
    rw [encodedSize_line]
    omega
  have single : '\n' ∉ List.replicate (keepBytes - 1) 'é' := by simp [List.mem_replicate]
  have kept := encodedSize_mono (snap_keeps [] single)
  have logged : taskLog [List.replicate count 'é'] = snap (List.replicate (keepBytes - 1) 'é' ++ ['\n']) := by
    change appendTaskLog [] (List.replicate count 'é') = _
    rw [appendTaskLog, if_neg filled, ended]
    rw [List.nil_append, if_pos large, lastLetters_universalNewlines plain, window]
  rw [encodedSize_line] at kept
  rw [logged]
  exact Nat.lt_of_lt_of_le (by omega) kept

end Steps

end TaskLog

end Wlcodex.Tasks
