import Wlcodex.Lib.Edits
import Wlcodex.Telegram.Chunker

namespace Wlcodex.Telegram

open Wlcodex.Lib
open Wlcodex.Relay (isSpace)

/-! What the chunks of a text are, and when the loop that cuts them comes to an end. -/

inductive Inserted : Text → Prop
  | closing : Inserted fence
  | closingLine : Inserted ('\n' :: fence)
  | opening {marker : Text} (starts : fence <+: marker) (line : '\n' ∉ marker) :
      Inserted (marker ++ ['\n'])
  | part (index total : Nat) : Inserted (partNumber index total)

abbrev Carries : Text → Text → Prop := Edits (fun letter => isSpace letter = true) Inserted

/-- The lines that are put where a code fence is cut. -/
inductive FenceLine : Text → Prop
  | closing : FenceLine fence
  | closingLine : FenceLine ('\n' :: fence)
  | opening {marker : Text} (starts : fence <+: marker) (line : '\n' ∉ marker) :
      FenceLine (marker ++ ['\n'])

abbrev Refenced : Text → Text → Prop := Edits (fun letter => isSpace letter = true) FenceLine

theorem Refenced.carries {text cut : Text} (refenced : Refenced text cut) : Carries text cut := by
  refine Edits.mono (fun _ fenceLine => ?_) refenced
  cases fenceLine with
  | closing => exact .closing
  | closingLine => exact .closingLine
  | opening starts line => exact .opening starts line

theorem refenced_lstrip (text : Text) : Refenced text (lstrip text) :=
  Edits.dropWhile (fun _ space => space) text

theorem refenced_rstrip (text : Text) : Refenced text (rstrip text) := by
  have trailing : Refenced (text.reverse.takeWhile isSpace).reverse [] :=
    Edits.delete fun letter member => List.mem_takeWhile_imp (List.mem_reverse.mp member)
  have whole : text = rstrip text ++ (text.reverse.takeWhile isSpace).reverse := by
    rw [rstrip, ← List.reverse_append, List.takeWhile_append_dropWhile, List.reverse_reverse]
  have kept := (Edits.refl (rstrip text)).append trailing
  rwa [← whole, List.append_nil] at kept

theorem refenced_newlines (text : Text) : Refenced text (text.dropWhile (· = '\n')) :=
  Edits.dropWhile (fun letter newline => by rw [of_decide_eq_true newline]; rfl) text

theorem newline_not_mem_strip {text : Text} (line : '\n' ∉ text) : '\n' ∉ rstrip (lstrip text) := by
  intro member
  have inner : '\n' ∈ (lstrip text).reverse.dropWhile isSpace := List.mem_reverse.mp member
  have inner := List.mem_reverse.mp ((List.dropWhile_suffix _).subset inner)
  exact line ((List.dropWhile_suffix _).subset inner)

theorem openCodeFenceMarker_spec (text : Text) (position : Nat) :
    fence <+: openCodeFenceMarker text position ∧ '\n' ∉ openCodeFenceMarker text position := by
  have plain : '\n' ∉ fence := by decide
  unfold openCodeFenceMarker
  dsimp only
  split
  · exact ⟨List.prefix_rfl, plain⟩
  · split
    next index _ starts =>
      refine ⟨List.isPrefixOf_iff_prefix.mp starts, newline_not_mem_strip fun member => ?_⟩
      have other := List.mem_takeWhile_imp member
      simp at other
    · exact ⟨List.prefix_rfl, plain⟩

theorem refenced_splitReadableChunk (text : Text) (splitAt : Nat) :
    Refenced text ((splitReadableChunk text splitAt).1 ++ (splitReadableChunk text splitAt).2) := by
  have kept := refenced_rstrip (text.take splitAt)
  unfold splitReadableChunk
  split
  · have closed : Refenced (text.take splitAt)
        (if rstrip (text.take splitAt) = [] then fence
          else rstrip (text.take splitAt) ++ ['\n'] ++ fence) := by
      split
      next blank => exact (blank ▸ kept).trans (Edits.insert .closing)
      · have closing := kept.append (Edits.insert FenceLine.closingLine)
        simpa using closing
    obtain ⟨starts, line⟩ := openCodeFenceMarker_spec text splitAt
    have opening := (Edits.insert (FenceLine.opening starts line)).append
      (refenced_newlines (text.drop splitAt))
    have both := closed.append opening
    rwa [List.nil_append, List.take_append_drop] at both
  · have both := kept.append (Edits.refl (text.drop splitAt))
    rwa [List.take_append_drop] at both

section Loop

variable (isDigit : Char → Bool) (policy : ChunkPolicy) (force : Bool)

inductive RoundSpec (buffer : Text) : Round → Prop
  | rest (gentle : force = false) : RoundSpec buffer .rest
  | last : RoundSpec buffer (.last buffer)
  | split {splitAt : Nat} (isSplit : splitAt = findSplit isDigit buffer policy.maxChars)
      (inside : splitAt < buffer.length) :
      RoundSpec buffer (.cut (splitReadableChunk buffer splitAt).1
        (lstrip (splitReadableChunk buffer splitAt).2))
  | blind : RoundSpec buffer
      (.cut (buffer.take policy.maxChars) (lstrip (buffer.drop policy.maxChars)))

theorem round_spec (buffer : Text) :
    RoundSpec isDigit policy force buffer (round isDigit policy force buffer) := by
  unfold round
  dsimp only
  split
  next short => exact .rest (by cases force <;> simp_all)
  · split
    next listed => exact .rest (by cases force <;> simp_all)
    · split
      · split
        · exact .last
        next gentle => exact .rest (by simpa using gentle)
      next inside =>
        split
        · split
          · exact .blind
          next gentle => exact .rest (by simpa using gentle)
        · exact .split rfl (by omega)

theorem refenced_round {buffer chunk remainder : Text}
    (cut : round isDigit policy force buffer = .cut chunk remainder) :
    Refenced buffer (chunk ++ remainder) := by
  have spec := round_spec isDigit policy force buffer
  rw [cut] at spec
  cases spec with
  | split isSplit inside =>
      exact (refenced_splitReadableChunk buffer _).trans
        ((Edits.refl _).append (refenced_lstrip _))
  | blind =>
      have both := (Edits.refl (buffer.take policy.maxChars)).append
        (refenced_lstrip (buffer.drop policy.maxChars))
      rwa [List.take_append_drop] at both

theorem last_round {buffer chunk : Text} (last : round isDigit policy force buffer = .last chunk) :
    chunk = buffer := by
  have spec := round_spec isDigit policy force buffer
  rw [last] at spec
  cases spec
  rfl

variable {chunks : List Text} {buffer rest : Text}

theorem refenced_readyChunksIn (rounds : Nat)
    (ready : readyChunksIn isDigit policy force rounds buffer = some (chunks, rest)) :
    Refenced buffer (chunks.flatten ++ rest) := by
  induction rounds generalizing buffer chunks with
  | zero => cases ready
  | succ rounds ih =>
      cases buffer with
      | nil =>
          cases ready
          exact Edits.refl []
      | cons letter letters =>
          simp only [readyChunksIn] at ready
          split at ready
          · cases ready
            exact Edits.refl _
          next chunk last =>
            cases ready
            rw [last_round isDigit policy force last]
            simpa using Edits.refl (letter :: letters)
          next chunk remainder cut =>
            obtain ⟨⟨more, left⟩, later, same⟩ := Option.map_eq_some_iff.mp ready
            cases same
            have first := refenced_round isDigit policy force cut
            have others := (Edits.refl chunk).append (ih later)
            simpa using first.trans others

theorem carries_readyChunksIn (rounds : Nat)
    (ready : readyChunksIn isDigit policy force rounds buffer = some (chunks, rest)) :
    Carries buffer (chunks.flatten ++ rest) :=
  (refenced_readyChunksIn isDigit policy force rounds ready).carries

theorem carries_numberParts (chunks : List Text) :
    Carries chunks.flatten (numberParts chunks).flatten := by
  unfold numberParts
  split
  · have numbered (start total : Nat) (parts : List Text) : Carries parts.flatten
        (parts.mapIdx fun index chunk => partNumber (index + start) total ++ chunk).flatten := by
      induction parts generalizing start with
      | nil => exact Edits.refl []
      | cons chunk rest ih =>
          have first : Carries ([] ++ chunk) (partNumber (0 + start) total ++ chunk) :=
            (Edits.insert (Inserted.part (0 + start) total)).append (Edits.refl chunk)
          have others := first.append (ih (start + 1))
          simpa [Nat.add_assoc, Nat.add_comm, Nat.add_left_comm] using others
    exact numbered 1 chunks.length chunks
  · exact Edits.refl _

theorem rest_of_force (rounds : Nat)
    (ready : readyChunksIn isDigit policy true rounds buffer = some (chunks, rest)) : rest = [] := by
  induction rounds generalizing buffer chunks with
  | zero => cases ready
  | succ rounds ih =>
      cases buffer with
      | nil =>
          cases ready
          rfl
      | cons letter letters =>
          simp only [readyChunksIn] at ready
          split at ready
          next stays =>
            have spec := round_spec isDigit policy true (letter :: letters)
            rw [stays] at spec
            cases spec with
            | rest gentle => cases gentle
          · cases ready
            rfl
          · obtain ⟨⟨more, left⟩, later, same⟩ := Option.map_eq_some_iff.mp ready
            cases same
            exact ih later

theorem length_lstrip_le (text : Text) : (lstrip text).length ≤ text.length :=
  (List.dropWhile_suffix _).length_le

theorem rfind_starts {needle text : Text} {index : Nat} (found : rfind needle text = some index) :
    needle <+: text.drop index := by
  exact List.isPrefixOf_iff_prefix.mp (by simpa using List.find?_some found)

theorem findSplit_pos {limit : Nat} (bounded : 0 < limit) {text : Text} (filled : text ≠ []) :
    0 < findSplit isDigit text limit := by
  have positiveLimit : 0 < min limit text.length :=
    Nat.lt_min.mpr ⟨bounded, List.length_pos_iff.mpr filled⟩
  unfold findSplit
  dsimp only
  cases found : List.findSome? _ _ with
  | none => exact positiveLimit
  | some position =>
      obtain ⟨candidate, _, chosen⟩ := List.exists_of_findSome?_eq_some found
      obtain ⟨isPositive, _⟩ := Option.filter_eq_some_iff.mp chosen
      simpa using (Option.filter_eq_some_iff.mp isPositive).2

theorem findSplit_inside {limit : Nat} {text : Text}
    (inside : insideCodeFence text (findSplit isDigit text limit) = true) :
    findSplit isDigit text limit = min limit text.length := by
  unfold findSplit at inside ⊢
  dsimp only at inside ⊢
  cases found : List.findSome? _ _ with
  | none => rfl
  | some position =>
      rw [found] at inside
      obtain ⟨candidate, _, chosen⟩ := List.exists_of_findSome?_eq_some found
      have safe := (Option.filter_eq_some_iff.mp chosen).2
      simp only [Option.getD_some] at inside
      simp [isSafeSplit, inside] at safe

end Loop

end Wlcodex.Telegram
