import Mathlib.Data.List.DropRight
import Mathlib.Data.List.Infix
import Wlcodex.Telegram.ChunkLoop

namespace Wlcodex.Telegram

open Wlcodex.Relay (isSpace)

/-! A line that opens a code fence and fills a whole chunk keeps the loop from its end. -/

theorem rfind_fits {needle text : Text} {index : Nat} (found : rfind needle text = some index) :
    index + needle.length ≤ text.length := by
  have inside := List.mem_of_find?_eq_some found
  have fits := (rfind_starts found).length_le
  rw [List.mem_reverse, List.mem_range] at inside
  rw [List.length_drop] at fits
  omega

theorem rfind_last {needle text : Text} {index : Nat} (found : rfind needle text = some index)
    {later : Nat} (behind : index < later) (inside : later < text.length) :
    ¬ needle <+: text.drop later := by
  obtain ⟨_, before, after, split, missed⟩ := List.find?_eq_some_iff_append.mp found
  have member : later ∈ (List.range text.length).reverse := by
    rw [List.mem_reverse, List.mem_range]
    exact inside
  rw [split, List.mem_append, List.mem_cons] at member
  intro starts
  rcases member with earlier | same | further
  · have unmatched := missed later earlier
    simp [List.isPrefixOf_iff_prefix.mpr starts] at unmatched
  · omega
  · have order : (List.range text.length).reverse.Pairwise fun first second => second < first :=
      List.pairwise_reverse.mpr List.pairwise_lt_range
    rw [split, List.pairwise_append, List.pairwise_cons] at order
    have smaller := order.2.1.1 later further
    omega

theorem find?_range_lt {size index : Nat} {accepts : Nat → Bool}
    (found : (List.range size).reverse.find? accepts = some index) : index < size := by
  have inside := List.mem_of_find?_eq_some found
  rwa [List.mem_reverse, List.mem_range] at inside

theorem positive_eq_some {found : Option Nat} {index : Nat} (given : positive found = some index) :
    found = some index :=
  (Option.filter_eq_some_iff.mp given).1

section Boundaries

variable {isDigit : Char → Bool} {text : Text} {limit position : Nat}

theorem rfind_take_le {needle : Text} (found : rfind needle (text.take limit) = some position) :
    position + needle.length ≤ limit :=
  (rfind_fits found).trans (List.length_take_le limit text)

theorem rfindListBoundary_le (found : rfindListBoundary isDigit text limit = some position) :
    position ≤ limit := by
  rcases Option.or_eq_some_iff.mp found with dashed | ⟨_, others⟩
  · have fits := rfind_take_le (positive_eq_some dashed)
    omega
  · rcases Option.or_eq_some_iff.mp others with starred | ⟨_, numbered⟩
    · have fits := rfind_take_le (positive_eq_some starred)
      omega
    · have inside := find?_range_lt numbered
      have size := List.length_take_le limit text
      omega

theorem rfindSentenceBoundary_le (found : rfindSentenceBoundary text limit = some position) :
    position ≤ limit := by
  obtain ⟨punctuation, _, ends⟩ := List.exists_of_findSome?_eq_some found
  obtain ⟨start, given, rfl⟩ := Option.map_eq_some_iff.mp ends
  exact rfind_take_le (positive_eq_some given)

theorem rfindWhitespaceBoundary_le (found : rfindWhitespaceBoundary text limit = some position) :
    position ≤ limit := by
  have inside := find?_range_lt found
  have size := List.length_take_le limit text
  omega

theorem findSplit_le (isDigit : Char → Bool) (text : Text) (limit : Nat) :
    findSplit isDigit text limit ≤ limit := by
  have safe := Nat.min_le_left limit text.length
  unfold findSplit
  dsimp only
  cases found : List.findSome? _ _ with
  | none => exact safe
  | some position =>
      obtain ⟨candidate, member, chosen⟩ := List.exists_of_findSome?_eq_some found
      have given := positive_eq_some (Option.filter_eq_some_iff.mp chosen).1
      subst given
      refine le_trans ?_ safe
      simp only [List.mem_cons, List.not_mem_nil, or_false] at member
      rcases member with paragraph | list | sentence | blank
      · have fits := rfind_take_le paragraph.symm
        rw [Option.getD_some]
        omega
      · exact rfindListBoundary_le list.symm
      · exact rfindSentenceBoundary_le sentence.symm
      · exact rfindWhitespaceBoundary_le blank.symm

end Boundaries

/-- A line that opens a fence, as it is put in front of a remainder. -/
structure IsMarker (marker : Text) : Prop where
  starts : fence <+: marker
  line : '\n' ∉ marker
  single : ∀ index, 0 < index → ¬ fence <+: marker.drop index
  stripped : rstrip marker = marker

theorem isMarker_fence : IsMarker fence where
  starts := List.prefix_rfl
  line := by decide
  single index positive starts := by
    have size := starts.length_le
    rw [List.length_drop] at size
    have three : fence.length = 3 := rfl
    omega
  stripped := by decide

variable {buffer : Text} {text : Text}

theorem lstrip_of_fence (starts : fence <+: text) : lstrip text = text := by
  obtain ⟨rest, rfl⟩ := starts
  rfl

theorem rstrip_starts (text : Text) : rstrip text <+: text := by
  rw [rstrip, ← List.reverse_suffix, List.reverse_reverse]
  exact List.dropWhile_suffix _

theorem rstrip_rstrip (text : Text) : rstrip (rstrip text) = rstrip text := by
  simp only [rstrip, List.reverse_reverse, List.reverse_inj]
  exact List.dropWhile_idempotent isSpace _

theorem fence_prefix_of_line {front back : Text} (starts : fence <+: front ++ '\n' :: back) :
    fence <+: front := by
  have whole : front <+: front ++ '\n' :: back := List.prefix_append front _
  by_cases fits : fence.length ≤ front.length
  · exact List.prefix_of_prefix_length_le starts whole fits
  · -- otherwise the line break would be a letter of the fence
    have more : front ++ ['\n'] <+: front ++ '\n' :: back := by
      rw [List.prefix_append_right_inj]
      exact List.prefix_append ['\n'] back
    have broken := List.prefix_of_prefix_length_le more starts
      (by rw [List.length_append, List.length_singleton]; omega)
    have member : '\n' ∈ fence := broken.subset (by simp)
    exact absurd member isMarker_fence.line

theorem fence_prefix_takeWhile (starts : fence <+: text) :
    fence <+: text.takeWhile (· ≠ '\n') := by
  obtain ⟨rest, rfl⟩ := starts
  exact List.prefix_append fence _

theorem isMarker_openCodeFenceMarker (text : Text) (position : Nat) :
    IsMarker (openCodeFenceMarker text position) ∧
      ((openCodeFenceMarker text position).length ≤ position ∨
        openCodeFenceMarker text position = fence) := by
  unfold openCodeFenceMarker
  dsimp only
  cases found : rfind fence (text.take position) with
  | none => exact ⟨isMarker_fence, .inr rfl⟩
  | some index =>
      dsimp only
      split
      next begins =>
        have starts := rfind_starts found
        have opened := fence_prefix_takeWhile starts
        have inside : rstrip (lstrip (((text.take position).drop index).takeWhile (· ≠ '\n'))) <+:
            (text.take position).drop index := by
          rw [lstrip_of_fence opened]
          exact (rstrip_starts _).trans (List.takeWhile_prefix _)
        refine ⟨⟨List.isPrefixOf_iff_prefix.mp begins, ?_, ?_, rstrip_rstrip _⟩, .inl ?_⟩
        · refine newline_not_mem_strip fun member => ?_
          have other := List.mem_takeWhile_imp member
          simp at other
        · intro later behind again
          have deeper := again.trans (inside.drop later)
          rw [List.drop_drop] at deeper
          have size := deeper.length_le
          have three : fence.length = 3 := rfl
          rw [List.length_drop] at size
          exact rfind_last found (by omega) (by omega) deeper
        · have size := inside.length_le
          have region := List.length_take_le position text
          rw [List.length_drop] at size
          omega
      · exact ⟨isMarker_fence, .inr rfl⟩

theorem fenceCount_eq_zero {skip position : Nat}
    (missing : ∀ index, index < position → ¬ fence <+: text.drop index) :
    fenceCount skip position text = 0 := by
  induction text generalizing skip position with
  | nil => cases position <;> rfl
  | cons letter rest ih =>
      cases position with
      | zero => cases skip <;> rfl
      | succ position =>
          have others := fun index (before : index < position) =>
            missing (index + 1) (Nat.succ_lt_succ before)
          cases skip with
          | zero =>
              have unopened : fence.isPrefixOf (letter :: rest) = false := by
                rw [← Bool.not_eq_true, List.isPrefixOf_iff_prefix]
                exact missing 0 (Nat.succ_pos position)
              rw [fenceCount, unopened, if_neg Bool.false_ne_true]
              exact ih others
          | succ skip => exact ih others

theorem IsMarker.rfind_fence {marker back : Text} (isMarker : IsMarker marker)
    (shape : back = [] ∨ back = ['\n']) : rfind fence (marker ++ back) = some 0 := by
  have opened : fence <+: marker ++ back := isMarker.starts.trans (List.prefix_append _ _)
  cases found : rfind fence (marker ++ back) with
  | none =>
      have size := opened.length_le
      have first : 0 ∈ (List.range (marker ++ back).length).reverse := by
        rw [List.mem_reverse, List.mem_range]
        exact Nat.lt_of_lt_of_le (by decide) size
      have missed := List.find?_eq_none.mp found 0 first
      rw [List.drop_zero, List.isPrefixOf_iff_prefix] at missed
      exact absurd opened missed
  | some index =>
      cases index with
      | zero => rfl
      | succ index =>
          have later := rfind_starts found
          rcases shape with rfl | rfl
          · rw [List.append_nil] at later
            exact absurd later (isMarker.single _ (Nat.succ_pos index))
          · have fits := rfind_fits found
            have three : fence.length = 3 := rfl
            rw [List.length_append, List.length_singleton] at fits
            rw [List.drop_append_of_le_length (by omega)] at later
            exact absurd (fence_prefix_of_line later) (isMarker.single _ (Nat.succ_pos index))

section Reopened

variable {marker rest : Text} (isMarker : IsMarker marker)

include isMarker

theorem insideCodeFence_marker {position : Nat} (positive : 0 < position)
    (within : position ≤ marker.length + 1) :
    insideCodeFence (marker ++ ['\n'] ++ rest) position = true := by
  obtain ⟨position, rfl⟩ := Nat.exists_eq_succ_of_ne_zero positive.ne'
  have alone : ∀ index, index < position →
      ¬ fence <+: (marker ++ ['\n'] ++ rest).tail.drop index := by
    intro index before starts
    rw [List.drop_tail, List.append_assoc, List.drop_append_of_le_length (by omega)] at starts
    exact isMarker.single (index + 1) (Nat.succ_pos index) (fence_prefix_of_line starts)
  have opened : fence <+: marker ++ ['\n'] ++ rest :=
    isMarker.starts.trans ((List.prefix_append _ _).trans (List.prefix_append _ _))
  generalize marker ++ ['\n'] ++ rest = whole at alone opened
  cases whole with
  | nil => exact absurd (List.prefix_nil.mp opened) (by decide)
  | cons letter letters =>
      rw [List.tail_cons] at alone
      rw [insideCodeFence, Nat.succ_eq_add_one, fenceCount,
        if_pos (List.isPrefixOf_iff_prefix.mpr opened), fenceCount_eq_zero alone]
      rfl

theorem openCodeFenceMarker_marker {position : Nat} (within : position ≤ marker.length + 1)
    (size : marker.length ≤ position ∨ marker = fence) :
    openCodeFenceMarker (marker ++ ['\n'] ++ rest) position = marker := by
  by_cases covered : marker.length ≤ position
  · obtain ⟨back, shape, parts⟩ : ∃ back, (back = [] ∨ back = ['\n']) ∧
        (marker ++ ['\n'] ++ rest).take position = marker ++ back := by
      rcases Nat.lt_or_ge marker.length position with beyond | upTo
      · have exact : position = (marker ++ ['\n']).length := by
          rw [List.length_append, List.length_singleton]
          omega
        exact ⟨['\n'], .inr rfl, by rw [exact, List.take_left]⟩
      · have exact : position = marker.length := Nat.le_antisymm upTo covered
        exact ⟨[], .inl rfl, by rw [exact, List.append_assoc, List.take_left, List.append_nil]⟩
    have first := isMarker.rfind_fence shape
    have shown : (marker ++ back).takeWhile (· ≠ '\n') = marker := by
      have plain : ∀ letter ∈ marker, decide (letter ≠ '\n') = true := fun letter member =>
        decide_eq_true fun broken => isMarker.line (broken ▸ member)
      rw [List.takeWhile_append_of_pos plain]
      rcases shape with rfl | rfl
      · exact List.append_nil marker
      · exact List.append_nil marker
    rw [openCodeFenceMarker, parts, first]
    dsimp only
    rw [List.drop_zero, shown, lstrip_of_fence isMarker.starts, isMarker.stripped,
      if_pos (List.isPrefixOf_iff_prefix.mpr isMarker.starts)]
  · have isFence := size.resolve_left covered
    subst isFence
    have nowhere : rfind fence ((fence ++ ['\n'] ++ rest).take position) = none := by
      cases found : rfind fence ((fence ++ ['\n'] ++ rest).take position) with
      | none => rfl
      | some index =>
          have fits := rfind_take_le found
          omega
    rw [openCodeFenceMarker, nowhere]

end Reopened

theorem startsMarkdownListItem_fence {isDigit : Char → Bool} (backtick : isDigit (Char.ofNat 96) = false) (starts : fence <+: text) : startsMarkdownListItem isDigit text = false := by
  obtain ⟨rest, rfl⟩ := starts
  have dashed : ['-', ' '].isPrefixOf (fence ++ rest) = false := rfl
  have starred : ['*', ' '].isPrefixOf (fence ++ rest) = false := rfl
  rw [startsMarkdownListItem, dashed, starred]
  split
  next dot _ =>
    cases dot with
    | zero => rfl
    | succ dot => simp [fence, List.replicate, backtick]
  · rfl

section Loop

variable (isDigit : Char → Bool) (policy : ChunkPolicy) (force : Bool)

/-- The loop breaks off and waits for more text. -/
def Waits (buffer : Text) : Prop :=
  force = false ∧ (buffer.length < policy.minChars ∨
    startsMarkdownListItem isDigit buffer = true ∧
      rfindListBoundary isDigit buffer policy.maxChars = none)

/-- The buffer is cut in a code fence, and the line that opens the fence again fills the next
chunk to its limit, with something behind it. -/
structure Refills (buffer : Text) : Prop where
  goesOn : ¬ Waits isDigit policy force buffer
  longer : policy.maxChars < buffer.length
  fenced : insideCodeFence buffer (findSplit isDigit buffer policy.maxChars) = true
  filled : policy.maxChars ≤ (openCodeFenceMarker buffer policy.maxChars).length ∨
    policy.maxChars = (openCodeFenceMarker buffer policy.maxChars).length + 1 ∧
      ∃ letter ∈ buffer.drop policy.maxChars, letter ≠ '\n'

/-- The buffers that rounds of the loop begin with. -/
inductive Reached (buffer : Text) : Text → Prop
  | start : Reached buffer buffer
  | cut {reached chunk remainder : Text} (before : Reached buffer reached) (filled : reached ≠ [])
      (isCut : round isDigit policy force reached = .cut chunk remainder) : Reached buffer remainder

/-- The loop comes to an end. -/
def Terminates (buffer : Text) : Prop :=
  ∃ rounds, (readyChunksIn isDigit policy force rounds buffer).isSome = true

variable {isDigit policy force}

theorem round_of_waits (waits : Waits isDigit policy force buffer) :
    round isDigit policy force buffer = .rest := by
  obtain ⟨gentle, short | ⟨listed, alone⟩⟩ := waits
  · simp [round, gentle, short]
  · simp [round, gentle, listed, alone]

theorem round_of_refills (refills : Refills isDigit policy force buffer) :
    ∃ chunk, round isDigit policy force buffer =
      .cut chunk (openCodeFenceMarker buffer policy.maxChars ++ ['\n'] ++
        (buffer.drop policy.maxChars).dropWhile (· = '\n')) := by
  have split : findSplit isDigit buffer policy.maxChars = policy.maxChars := by
    rw [findSplit_inside isDigit refills.fenced]
    exact Nat.min_eq_left refills.longer.le
  have starts := (isMarker_openCodeFenceMarker buffer policy.maxChars).1.starts
  have opened := lstrip_of_fence (starts.trans
    ((List.prefix_append _ ['\n']).trans (List.prefix_append _
      ((buffer.drop policy.maxChars).dropWhile (· = '\n')))))
  have fenced := refills.fenced
  rw [split] at fenced
  have long : ¬ (!force && decide (buffer.length < policy.minChars)) = true := by
    intro short
    simp only [Bool.and_eq_true, Bool.not_eq_true', decide_eq_true_eq] at short
    exact refills.goesOn ⟨short.1, .inl short.2⟩
  have free : ¬ (!force && startsMarkdownListItem isDigit buffer &&
      (rfindListBoundary isDigit buffer policy.maxChars).isNone) = true := by
    intro listed
    simp only [Bool.and_eq_true, Bool.not_eq_true', Option.isNone_iff_eq_none] at listed
    exact refills.goesOn ⟨listed.1.1, .inr ⟨listed.1.2, listed.2⟩⟩
  have closed : (if rstrip (buffer.take policy.maxChars) = [] then fence
      else rstrip (buffer.take policy.maxChars) ++ ['\n'] ++ fence) ≠ [] := by
    split
    · decide
    · exact List.append_ne_nil_of_right_ne_nil _ (by decide)
  unfold round
  dsimp only
  rw [if_neg long, if_neg free, split, if_neg (Nat.not_le.mpr refills.longer), splitReadableChunk,
    if_pos fenced]
  rw [if_neg closed, opened]
  exact ⟨_, rfl⟩

section Policies

variable (bounded : 0 < policy.maxChars) (ordered : policy.minChars ≤ policy.maxChars)
  (backtick : isDigit (Char.ofNat 96) = false)

include bounded ordered backtick in
theorem refills_marker {marker rest : Text} (isMarker : IsMarker marker)
    (size : marker.length ≤ policy.maxChars ∨ marker = fence)
    (fills : policy.maxChars ≤ marker.length ∨
      policy.maxChars = marker.length + 1 ∧ ∃ letter ∈ rest, letter ≠ '\n') :
    Refills isDigit policy force (marker ++ ['\n'] ++ rest) := by
  have within : policy.maxChars ≤ marker.length + 1 := by omega
  have longer : policy.maxChars < (marker ++ ['\n'] ++ rest).length := by
    rw [List.length_append, List.length_append, List.length_singleton]
    rcases fills with full | ⟨exact, letter, member, _⟩
    · omega
    · have some_ := List.length_pos_of_mem member
      omega
  refine ⟨?_, longer, ?_, ?_⟩
  · rintro ⟨_, short | ⟨listed, _⟩⟩
    · omega
    · have starts := isMarker.starts.trans
        ((List.prefix_append marker ['\n']).trans (List.prefix_append _ rest))
      rw [startsMarkdownListItem_fence backtick starts] at listed
      cases listed
  · have begins : 0 < findSplit isDigit (marker ++ ['\n'] ++ rest) policy.maxChars :=
      findSplit_pos isDigit bounded (by simp)
    have upTo := findSplit_le isDigit (marker ++ ['\n'] ++ rest) policy.maxChars
    exact insideCodeFence_marker isMarker begins (upTo.trans within)
  · rw [openCodeFenceMarker_marker isMarker within size]
    refine fills.imp_right fun exact => ⟨exact.1, ?_⟩
    have cut : (marker ++ ['\n'] ++ rest).drop policy.maxChars = rest := by
      rw [exact.1]
      exact List.drop_left' (by simp)
    rw [cut]
    exact exact.2

include bounded ordered backtick in
theorem not_terminates_of_refills (refills : Refills isDigit policy force buffer) :
    ¬ Terminates isDigit policy force buffer := by
  rintro ⟨rounds, ends⟩
  induction rounds generalizing buffer with
  | zero => cases ends
  | succ rounds ih =>
      obtain ⟨chunk, cut⟩ := round_of_refills refills
      obtain ⟨isMarker, size⟩ := isMarker_openCodeFenceMarker buffer policy.maxChars
      have again : Refills isDigit policy force (openCodeFenceMarker buffer policy.maxChars ++
          ['\n'] ++ (buffer.drop policy.maxChars).dropWhile (· = '\n')) := by
        refine refills_marker bounded ordered backtick isMarker size
          (refills.filled.imp_right fun exact => ⟨exact.1, ?_⟩)
        obtain ⟨letter, member, other⟩ := exact.2
        have parts := List.takeWhile_append_dropWhile (p := (· = '\n')) (l := buffer.drop policy.maxChars)
        rw [← parts, List.mem_append] at member
        refine ⟨letter, member.resolve_left fun broken => other ?_, other⟩
        have isBreak := List.mem_takeWhile_imp broken
        simpa using isBreak
      have longer := refills.longer
      cases buffer with
      | nil => cases longer
      | cons letter letters =>
          simp only [readyChunksIn, cut, Option.isSome_map] at ends
          exact ih again ends

include bounded in
theorem round_shorter {buffer chunk remainder : Text} (filled : buffer ≠ [])
    (calm : ¬ Refills isDigit policy force buffer)
    (cut : round isDigit policy force buffer = .cut chunk remainder) :
    remainder.length < buffer.length := by
  have nonempty := List.length_pos_iff.mpr filled
  have spec := round_spec isDigit policy force buffer
  rw [cut] at spec
  cases spec with
  | blind =>
      have shorter := length_lstrip_le (buffer.drop policy.maxChars)
      rw [List.length_drop] at shorter
      omega
  | split isSplit inside =>
      rename_i splitAt
      have begins := findSplit_pos isDigit bounded filled
      refine (length_lstrip_le _).trans_lt ?_
      unfold splitReadableChunk
      split
      next fenced =>
        have atLimit : splitAt = policy.maxChars := by
          rw [isSplit] at fenced inside ⊢
          rw [findSplit_inside isDigit fenced] at inside ⊢
          omega
        subst atLimit
        have goesOn : ¬ Waits isDigit policy force buffer := fun waits => by
          rw [round_of_waits waits] at cut
          cases cut
        have unfilled : ¬ (policy.maxChars ≤ (openCodeFenceMarker buffer policy.maxChars).length ∨
            policy.maxChars = (openCodeFenceMarker buffer policy.maxChars).length + 1 ∧
              ∃ letter ∈ buffer.drop policy.maxChars, letter ≠ '\n') := fun full =>
          calm ⟨goesOn, inside, isSplit ▸ fenced, full⟩
        rw [not_or, not_and] at unfilled
        have shorter := (List.dropWhile_suffix (l := buffer.drop policy.maxChars) (· = '\n')).length_le
        rw [List.length_drop] at shorter
        simp only [List.length_append, List.length_singleton]
        by_cases exact : policy.maxChars = (openCodeFenceMarker buffer policy.maxChars).length + 1
        · -- the chunk is filled up to its end, but only line breaks are left
          have blank : (buffer.drop policy.maxChars).dropWhile (· = '\n') = [] := by
            rw [List.dropWhile_eq_nil_iff]
            intro letter member
            by_contra other
            exact unfilled.2 exact ⟨letter, member, by simpa using other⟩
          rw [blank, List.length_nil]
          omega
        · omega
      · show (buffer.drop splitAt).length < buffer.length
        rw [List.length_drop]
        omega

include bounded in
theorem ready_of_calm
    (calm : ∀ reached, Reached isDigit policy force buffer reached →
      ¬ Refills isDigit policy force reached) (rounds : Nat) {reached : Text}
    (before : Reached isDigit policy force buffer reached) (enough : reached.length < rounds) :
    (readyChunksIn isDigit policy force rounds reached).isSome = true := by
  induction rounds generalizing reached with
  | zero => omega
  | succ rounds ih =>
      cases reached with
      | nil => rfl
      | cons letter letters =>
          simp only [readyChunksIn]
          split
          · rfl
          · rfl
          next chunk remainder cut =>
            have some_ := List.cons_ne_nil letter letters
            have shorter := round_shorter bounded some_ (calm _ before) cut
            rw [Option.isSome_map]
            exact ih (before.cut some_ cut) (by omega)

theorem Reached.terminates {buffer reached : Text} (before : Reached isDigit policy force buffer reached)
    (ends : Terminates isDigit policy force buffer) : Terminates isDigit policy force reached := by
  induction before with
  | start => exact ends
  | @cut reached chunk remainder before filled isCut ih =>
      obtain ⟨rounds, ready⟩ := ih
      cases rounds with
      | zero => cases ready
      | succ rounds =>
          cases reached with
          | nil => exact absurd rfl filled
          | cons letter letters =>
              simp only [readyChunksIn, isCut, Option.isSome_map] at ready
              exact ⟨rounds, ready⟩

include bounded ordered backtick in
/-- The loop comes to an end, with every round shortening its buffer, exactly where no round
begins with a buffer whose reopened fence fills the next chunk. -/
theorem terminates_iff (buffer : Text) :
    Terminates isDigit policy force buffer ↔
      ∀ reached, Reached isDigit policy force buffer reached →
        ¬ Refills isDigit policy force reached :=
  ⟨fun ends _ before refills =>
    not_terminates_of_refills bounded ordered backtick refills (before.terminates ends),
    fun calm => ⟨buffer.length + 1, ready_of_calm bounded calm _ .start (Nat.lt_succ_self _)⟩⟩

end Policies

def ShortFences (limit : Nat) (text : Text) : Prop :=
  ∀ rest, rest <:+ text → fence <+: rest → (rest.takeWhile (· ≠ '\n')).length + 1 < limit

theorem ShortFences.suffix {limit : Nat} {text rest : Text} (short : ShortFences limit text)
    (isSuffix : rest <:+ text) : ShortFences limit rest :=
  fun later again => short later (again.trans isSuffix)

theorem exists_fence (skip position : Nat) (text : Text) (counted : fenceCount skip position text ≠ 0) :
    ∃ rest, rest <:+ text ∧ fence <+: rest := by
  induction text generalizing skip position with
  | nil => cases position <;> simp [fenceCount] at counted
  | cons letter letters ih =>
      cases position with
      | zero => simp [fenceCount] at counted
      | succ position =>
          cases skip with
          | zero =>
              by_cases begins : fence.isPrefixOf (letter :: letters)
              · exact ⟨_, List.suffix_rfl, List.isPrefixOf_iff_prefix.mp begins⟩
              · simp only [fenceCount, begins, Bool.false_eq_true, if_false] at counted
                obtain ⟨rest, isSuffix, starts⟩ := ih 0 position counted
                exact ⟨rest, isSuffix.trans (List.suffix_cons letter letters), starts⟩
          | succ skip =>
              obtain ⟨rest, isSuffix, starts⟩ := ih skip position counted
              exact ⟨rest, isSuffix.trans (List.suffix_cons letter letters), starts⟩

theorem length_strip_le (text : Text) : (rstrip (lstrip text)).length ≤ text.length := by
  have inner := (List.dropWhile_suffix (l := (lstrip text).reverse) isSpace).length_le
  simp only [rstrip, List.length_reverse] at inner ⊢
  exact inner.trans (length_lstrip_le text)

theorem takeWhile_of_take (accepts : Char → Bool) (count : Nat) (text : Text) :
    (text.take count).takeWhile accepts <+: text.takeWhile accepts := by
  induction text generalizing count with
  | nil => simp
  | cons letter rest ih =>
      cases count with
      | zero => simp
      | succ count =>
          simp only [List.take_succ_cons, List.takeWhile_cons]
          split
          · exact (List.prefix_cons_inj letter).mpr (ih count)
          · exact List.prefix_rfl

theorem length_openCodeFenceMarker {limit position : Nat}
    (short : ShortFences limit text) (inside : insideCodeFence text position = true) :
    (openCodeFenceMarker text position).length + 1 < limit := by
  have fits : fence.length + 1 < limit := by
    have counted : fenceCount 0 position text ≠ 0 := by
      intro none
      simp [insideCodeFence, none] at inside
    obtain ⟨rest, isSuffix, starts⟩ := exists_fence 0 position text counted
    have line : fence <+: rest.takeWhile (· ≠ '\n') := by
      obtain ⟨more, rfl⟩ := starts
      exact List.prefix_append fence _
    exact (Nat.add_le_add_right line.length_le 1).trans_lt (short rest isSuffix starts)
  unfold openCodeFenceMarker
  dsimp only
  split
  · exact fits
  next index found =>
    split
    · have starts := rfind_starts found
      have begins : fence <+: text.drop index := by
        refine starts.trans ?_
        rw [List.drop_take]
        exact List.take_prefix _ _
      have bound := short (text.drop index) (List.drop_suffix index text) begins
      have stripped := length_strip_le (((text.take position).drop index).takeWhile (· ≠ '\n'))
      have shorter : (((text.take position).drop index).takeWhile (· ≠ '\n')).length ≤
          ((text.drop index).takeWhile (· ≠ '\n')).length := by
        rw [List.drop_take]
        exact (takeWhile_of_take _ _ _).length_le
      omega
    · exact fits

theorem suffix_append_cases {front back rest : Text} (isSuffix : rest <:+ front ++ back) :
    rest <:+ back ∨ ∃ part, part <:+ front ∧ rest = part ++ back := by
  obtain ⟨before, same⟩ := isSuffix
  rcases List.append_eq_append_iff.mp same with ⟨part, rfl, rfl⟩ | ⟨part, rfl, rfl⟩
  · exact .inr ⟨part, List.suffix_append before part, rfl⟩
  · exact .inl (List.suffix_append part rest)

theorem shortFences_reopened {limit : Nat} {marker rest : Text} (line : '\n' ∉ marker)
    (fits : marker.length + 1 < limit) (short : ShortFences limit rest) :
    ShortFences limit (marker ++ ['\n'] ++ rest) := by
  intro later isSuffix starts
  rw [List.append_assoc] at isSuffix
  rcases suffix_append_cases isSuffix with after | ⟨part, ofMarker, rfl⟩
  · rcases suffix_append_cases after with within | ⟨part, ofBreak, rfl⟩
    · exact short later within starts
    · -- nothing that begins with a line break begins with a fence
      rcases part with _ | ⟨letter, letters⟩
      · exact short rest List.suffix_rfl starts
      · obtain ⟨rfl, rfl⟩ : letter = '\n' ∧ letters = [] := by
          have whole := List.IsSuffix.eq_of_length ofBreak
            (by have := ofBreak.length_le; simp at this ⊢; omega)
          simpa using whole
        obtain ⟨more, same⟩ := starts
        simp [fence] at same
  · have plain : ∀ letter ∈ part, (letter ≠ '\n') = true := fun letter member => by
      simp only [eq_iff_iff, iff_true]
      rintro rfl
      exact line (ofMarker.subset member)
    have first : (part ++ (['\n'] ++ rest)).takeWhile (· ≠ '\n') = part := by
      rw [List.takeWhile_append_of_pos (by simpa using plain)]
      simp
    rw [first]
    exact (Nat.add_le_add_right ofMarker.length_le 1).trans_lt fits

def Divisible (limit : Nat) (buffer : Text) : Prop :=
  limit < buffer.length → ShortFences limit buffer

theorem Divisible.suffix {limit : Nat} {buffer rest : Text} (divisible : Divisible limit buffer)
    (isSuffix : rest <:+ buffer) : Divisible limit rest :=
  fun longer => (divisible (longer.trans_le isSuffix.length_le)).suffix isSuffix

theorem Divisible.remainder {buffer chunk remainder : Text} (divisible : Divisible policy.maxChars buffer)
    (cut : round isDigit policy force buffer = .cut chunk remainder) :
    Divisible policy.maxChars remainder := by
  have spec := round_spec isDigit policy force buffer
  rw [cut] at spec
  cases spec with
  | blind => exact divisible.suffix ((List.dropWhile_suffix _).trans (List.drop_suffix _ _))
  | split isSplit inside =>
      rename_i splitAt
      unfold splitReadableChunk
      split
      next fenced =>
        rw [isSplit] at fenced
        have atLimit := findSplit_inside isDigit fenced
        rw [← isSplit] at atLimit fenced
        have short := divisible (by omega)
        have fits := length_openCodeFenceMarker short fenced
        have line := (openCodeFenceMarker_spec buffer splitAt).2
        have behind : (buffer.drop splitAt).dropWhile (· = '\n') <:+ buffer :=
          (List.dropWhile_suffix _).trans (List.drop_suffix _ _)
        have reopened := shortFences_reopened line fits (short.suffix behind)
        exact fun _ => reopened.suffix (List.dropWhile_suffix _)
      · exact divisible.suffix ((List.dropWhile_suffix _).trans (List.drop_suffix _ _))

theorem Divisible.not_refills (divisible : Divisible policy.maxChars buffer) :
    ¬ Refills isDigit policy force buffer := by
  intro refills
  have fenced := refills.fenced
  rw [findSplit_inside isDigit fenced, Nat.min_eq_left refills.longer.le] at fenced
  have fits := length_openCodeFenceMarker (divisible refills.longer) fenced
  rcases refills.filled with full | ⟨exact, _⟩
  · omega
  · omega

variable (isDigit policy force) in
theorem readyChunksIn_some (bounded : 0 < policy.maxChars) (rounds : Nat)
    (enough : buffer.length < rounds) (divisible : Divisible policy.maxChars buffer) :
    ∃ chunks rest, readyChunksIn isDigit policy force rounds buffer = some (chunks, rest) := by
  have always : ∀ reached, Reached isDigit policy force buffer reached →
      Divisible policy.maxChars reached := by
    intro reached before
    induction before with
    | start => exact divisible
    | cut before filled isCut ih => exact ih.remainder isCut
  have ready := ready_of_calm bounded (fun reached before => (always reached before).not_refills)
    rounds .start enough
  obtain ⟨⟨chunks, rest⟩, isReady⟩ := Option.isSome_iff_exists.mp ready
  exact ⟨chunks, rest, isReady⟩

end Loop

/-- Every round of the loop leaves a shorter buffer. -/
def Shrinks (isDigit : Char → Bool) (policy : ChunkPolicy) (force : Bool) (buffer : Text) : Prop :=
  ∀ reached chunk remainder, Reached isDigit policy force buffer reached → reached ≠ [] →
    round isDigit policy force reached = .cut chunk remainder → remainder.length < reached.length

structure ChunkPolicy.Valid (policy : ChunkPolicy) : Prop where
  positive : 1 ≤ policy.minChars
  ordered : policy.minChars ≤ policy.maxChars
  final : 1 ≤ policy.finalMaxChars

/-- `ready_chunks` and `final_chunks` come to an end, and each of their rounds shortens the buffer,
exactly where no round begins with a buffer whose reopened fence fills the next chunk. -/
theorem chunking_terminates_iff {isDigit : Char → Bool} (backtick : isDigit (Char.ofNat 96) = false)
    {policy : ChunkPolicy} (valid : policy.Valid) (buffer : Text) :
    (∀ force, (Terminates isDigit policy force buffer ∧ Shrinks isDigit policy force buffer) ↔
        ∀ reached, Reached isDigit policy force buffer reached →
          ¬ Refills isDigit policy force reached) ∧
      ((Terminates isDigit policy.final true buffer ∧ Shrinks isDigit policy.final true buffer) ↔
        ∀ reached, Reached isDigit policy.final true buffer reached →
          ¬ Refills isDigit policy.final true reached) := by
  have both : ∀ (limits : ChunkPolicy) force, 0 < limits.maxChars → limits.minChars ≤ limits.maxChars →
      ((Terminates isDigit limits force buffer ∧ Shrinks isDigit limits force buffer) ↔
        ∀ reached, Reached isDigit limits force buffer reached →
          ¬ Refills isDigit limits force reached) := by
    intro limits force bounded ordered
    rw [terminates_iff bounded ordered backtick]
    refine ⟨And.left, fun calm => ⟨calm, ?_⟩⟩
    intro reached chunk remainder before filled cut
    exact round_shorter bounded filled (calm reached before) cut
  refine ⟨fun force => both policy force ?_ valid.ordered, both policy.final true valid.final valid.final⟩
  exact valid.positive.trans valid.ordered

theorem valid_defaults : ({} : ChunkPolicy).Valid := ⟨by decide, by decide, by decide⟩

theorem chunking_terminates_letter :
    (∀ force, (Terminates Char.isDigit {} force ['a'] ∧ Shrinks Char.isDigit {} force ['a']) ↔
        ∀ reached, Reached Char.isDigit {} force ['a'] reached →
          ¬ Refills Char.isDigit {} force reached) ∧
      ((Terminates Char.isDigit ({} : ChunkPolicy).final true ['a'] ∧
          Shrinks Char.isDigit ({} : ChunkPolicy).final true ['a']) ↔
        ∀ reached, Reached Char.isDigit ({} : ChunkPolicy).final true ['a'] reached →
          ¬ Refills Char.isDigit ({} : ChunkPolicy).final true reached) :=
  chunking_terminates_iff (by decide) valid_defaults ['a']

theorem isMarker_letters (count : Nat) : IsMarker (fence ++ List.replicate (count + 1) 'a') where
  starts := List.prefix_append fence _
  line member := by
    rcases List.mem_append.mp member with inFence | inLetters
    · exact isMarker_fence.line inFence
    · exact absurd (List.eq_of_mem_replicate inLetters) (by decide)
  single index positive starts := by
    obtain ⟨rest, same⟩ := starts
    have third : (fence ++ List.replicate (count + 1) 'a')[index + 2]? = some (Char.ofNat 96) := by
      rw [← List.getElem?_drop, ← same]
      rfl
    rw [List.getElem?_append_right (by change 3 ≤ index + 2; omega)] at third
    have letter := List.eq_of_mem_replicate (List.mem_of_getElem? third)
    exact absurd letter (by decide)
  stripped := by
    rw [rstrip, List.reverse_append, List.reverse_replicate, List.replicate_succ, List.cons_append,
      List.dropWhile_cons_of_neg (by decide), ← List.cons_append, ← List.replicate_succ,
      List.reverse_append, List.reverse_reverse, List.reverse_replicate]

/-- A line of 3900 letters that opens a fence is sent again and again. -/
theorem fence_line_never_ends :
    ¬ ∀ (policy : ChunkPolicy) (buffer : Text), policy.Valid →
      (∀ force, Terminates Char.isDigit policy force buffer) ∧
        Terminates Char.isDigit policy.final true buffer := by
  intro always
  have size : (fence ++ List.replicate 3897 'a').length = 3900 := by
    rw [List.length_append, List.length_replicate]
    rfl
  have refills : Refills Char.isDigit ({} : ChunkPolicy).final true
      (fence ++ List.replicate 3897 'a' ++ ['\n'] ++ []) :=
    refills_marker (by decide) (by decide) (by decide) (isMarker_letters 3896)
      (.inl size.le) (.inl size.ge)
  exact not_terminates_of_refills (by decide) (by decide) (by decide) refills
    (always {} _ valid_defaults).2

end Wlcodex.Telegram
