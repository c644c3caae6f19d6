import Wlcodex.Telegram.ChunkTermination

namespace Wlcodex.Telegram

open Wlcodex.Relay (isSpace)

/-! What the chunks of `final_chunks` hold. -/

def fenceMarkers (text : Text) : Nat := fenceCount 0 text.length text

def Balanced (text : Text) : Prop := fenceMarkers text % 2 = 0

instance (text : Text) : Decidable (Balanced text) := inferInstanceAs (Decidable (_ = _))

/-- A fence begins before the position and ends behind it. -/
def Across (text : Text) (position : Nat) : Prop :=
  fenceCount 0 position text ≠ fenceMarkers (text.take position)

theorem fenceCount_fence (position : Nat) (rest : Text) :
    fenceCount 0 (position + 3) (fence ++ rest) = fenceCount 0 position rest + 1 := by
  have opened : fence.isPrefixOf (fence ++ rest) = true :=
    List.isPrefixOf_iff_prefix.mpr (List.prefix_append fence rest)
  exact if_pos opened

variable {letter : Char} {rest : Text}

theorem fenceCount_letter (unopened : ¬ fence <+: letter :: rest)
    (position : Nat) : fenceCount 0 (position + 1) (letter :: rest) = fenceCount 0 position rest := by
  rw [fenceCount, if_neg]
  rwa [List.isPrefixOf_iff_prefix]

theorem fenceMarkers_fence (rest : Text) : fenceMarkers (fence ++ rest) = fenceMarkers rest + 1 :=
  fenceCount_fence rest.length rest

theorem fenceMarkers_letter (unopened : ¬ fence <+: letter :: rest) :
    fenceMarkers (letter :: rest) = fenceMarkers rest :=
  fenceCount_letter unopened rest.length

theorem not_fence_of_ne (other : letter ≠ Char.ofNat 96) :
    ¬ fence <+: letter :: rest := by
  rintro ⟨more, same⟩
  exact other (List.cons.inj same).1.symm

/-- Reading a text from the front: its end, a fence, or a letter that begins none. -/
theorem fence_induction {motive : Text → Prop} (text : Text) (nil : motive [])
    (fenced : ∀ rest, motive rest → motive (fence ++ rest))
    (cons : ∀ letter rest, ¬ fence <+: letter :: rest → motive rest → motive (letter :: rest)) :
    motive text := by
  induction size : text.length using Nat.strong_induction_on generalizing text with
  | _ size ih =>
      by_cases opened : fence <+: text
      · obtain ⟨rest, rfl⟩ := opened
        refine fenced rest (ih rest.length ?_ rest rfl)
        rw [← size, List.length_append]
        exact Nat.lt_add_of_pos_left (by decide)
      · cases text with
        | nil => exact nil
        | cons letter rest =>
            refine cons letter rest opened (ih rest.length ?_ rest rfl)
            rw [← size, List.length_cons]
            exact Nat.lt_succ_self _

theorem fenceMarkers_append (text : Text) (apart : ∀ letter ∈ rest.head?, letter ≠ Char.ofNat 96) :
    fenceMarkers (text ++ rest) = fenceMarkers text + fenceMarkers rest := by
  induction text using fence_induction with
  | nil => exact (Nat.zero_add _).symm
  | fenced more ih =>
      rw [List.append_assoc, fenceMarkers_fence, fenceMarkers_fence, ih]
      omega
  | cons letter more unopened ih =>
      have still : ¬ fence <+: letter :: (more ++ rest) := by
        rintro ⟨behind, whole⟩
        have front : letter :: more <+: fence ++ behind := ⟨rest, whole.symm⟩
        rcases List.prefix_or_prefix_of_prefix (List.prefix_append fence behind) front with
          covered | ⟨tail, split⟩
        · exact unopened covered
        · -- the fence ends in the other text, whose first letter is then one of its letters
          rw [← split, List.append_assoc] at whole
          have restEq : tail ++ behind = rest := List.append_cancel_left whole
          cases tail with
          | nil =>
              rw [List.append_nil] at split
              exact unopened (split ▸ List.prefix_rfl)
          | cons first tail =>
              have member : first ∈ fence := split ▸ List.mem_append_right _ List.mem_cons_self
              refine apart first ?_ (List.eq_of_mem_replicate member)
              rw [← restEq]
              rfl
      rw [List.cons_append, fenceMarkers_letter still, fenceMarkers_letter unopened, ih]

/-- A position that no fence lies across divides the fences of a text; across it lies one that
the text before it does not have. -/
theorem fenceCount_split (text : Text) {position : Nat} (within : position ≤ text.length) :
    (fenceCount 0 position text = fenceMarkers (text.take position) ∧
      fenceMarkers text = fenceCount 0 position text + fenceMarkers (text.drop position)) ∨
    fenceCount 0 position text = fenceMarkers (text.take position) + 1 := by
  induction text using fence_induction generalizing position with
  | nil =>
      obtain rfl : position = 0 := Nat.le_zero.mp within
      exact .inl ⟨rfl, rfl⟩
  | fenced rest ih =>
      rcases position with _ | _ | _ | position
      · exact .inl ⟨rfl, (Nat.zero_add _).symm⟩
      · exact .inr rfl
      · exact .inr rfl
      · have smaller : position ≤ rest.length := by
          rw [List.length_append] at within
          have three : fence.length = 3 := rfl
          omega
        change (fenceCount 0 (position + 3) (fence ++ rest) =
            fenceMarkers (fence ++ rest.take position) ∧
          fenceMarkers (fence ++ rest) =
            fenceCount 0 (position + 3) (fence ++ rest) + fenceMarkers (rest.drop position)) ∨
          fenceCount 0 (position + 3) (fence ++ rest) = fenceMarkers (fence ++ rest.take position) + 1
        rw [fenceCount_fence, fenceMarkers_fence, fenceMarkers_fence]
        exact (ih smaller).imp (fun both => by omega) (fun cut => by omega)
  | cons letter rest unopened ih =>
      cases position with
      | zero => exact .inl ⟨rfl, (Nat.zero_add _).symm⟩
      | succ position =>
          have shorter : ¬ fence <+: letter :: rest.take position := fun opened =>
            unopened (opened.trans ((List.prefix_cons_inj letter).mpr (List.take_prefix _ _)))
          rw [fenceCount_letter unopened, List.take_succ_cons, fenceMarkers_letter shorter,
            fenceMarkers_letter unopened, List.drop_succ_cons]
          exact ih (Nat.le_of_succ_le_succ within)

theorem fenceMarkers_other (other : letter ≠ Char.ofNat 96) (rest : Text) :
    fenceMarkers (letter :: rest) = fenceMarkers rest :=
  fenceMarkers_letter (not_fence_of_ne other)

theorem fenceMarkers_dropWhile {accepts : Char → Bool}
    (plain : ∀ letter, accepts letter = true → letter ≠ Char.ofNat 96) (text : Text) :
    fenceMarkers (text.dropWhile accepts) = fenceMarkers text := by
  induction text with
  | nil => rfl
  | cons letter rest ih =>
      rw [List.dropWhile_cons]
      split
      next accepted => rw [ih, fenceMarkers_other (plain letter accepted)]
      · rfl

theorem ne_backtick_of_isSpace (space : isSpace letter = true) :
    letter ≠ Char.ofNat 96 := by
  rintro rfl
  exact absurd space (by decide)

theorem fenceMarkers_lstrip (text : Text) : fenceMarkers (lstrip text) = fenceMarkers text :=
  fenceMarkers_dropWhile (fun _ => ne_backtick_of_isSpace) text

theorem fenceMarkers_eq_zero {text : Text} (plain : ∀ letter ∈ text, letter ≠ Char.ofNat 96) :
    fenceMarkers text = 0 := by
  induction text with
  | nil => rfl
  | cons letter rest ih =>
      rw [List.forall_mem_cons] at plain
      rw [fenceMarkers_other plain.1, ih plain.2]

theorem fenceMarkers_rstrip (text : Text) : fenceMarkers (rstrip text) = fenceMarkers text := by
  have spaces : ∀ letter ∈ (text.reverse.takeWhile isSpace).reverse, letter ≠ Char.ofNat 96 :=
    fun letter member => ne_backtick_of_isSpace (List.mem_takeWhile_imp (List.mem_reverse.mp member))
  have whole : text = rstrip text ++ (text.reverse.takeWhile isSpace).reverse := by
    rw [rstrip, ← List.reverse_append, List.takeWhile_append_dropWhile, List.reverse_reverse]
  have counted := fenceMarkers_append (rstrip text)
    (fun letter first => spaces letter (List.mem_of_mem_head? first))
  rwa [← whole, fenceMarkers_eq_zero spaces, Nat.add_zero, eq_comm] at counted

theorem IsMarker.fenceMarkers {marker : Text} (isMarker : IsMarker marker) (rest : Text) :
    fenceMarkers (marker ++ ['\n'] ++ rest) = fenceMarkers rest + 1 := by
  have broken : '\n' ≠ Char.ofNat 96 := by decide
  obtain ⟨more, rfl⟩ := isMarker.starts
  have alone : Telegram.fenceMarkers more = 0 := by
    refine fenceCount_eq_zero fun index before opened => ?_
    have later : ¬ fence <+: (fence ++ more).drop (index + 3) :=
      isMarker.single (index + 3) (Nat.succ_pos _)
    exact later opened
  rw [List.append_assoc, fenceMarkers_append _ (by rintro letter ⟨⟩; exact broken), fenceMarkers_fence,
    alone, List.singleton_append, fenceMarkers_other broken]
  omega

section Cuts

variable {text : Text} {splitAt : Nat}

theorem fenceMarkers_chunk (text : Text) (splitAt : Nat) :
    fenceMarkers (splitReadableChunk text splitAt).1 = fenceMarkers (text.take splitAt) +
      if insideCodeFence text splitAt then 1 else 0 := by
  unfold splitReadableChunk
  split
  · dsimp only
    split
    next empty =>
      rw [← fenceMarkers_rstrip (text.take splitAt), empty]
      rfl
    · have broken : '\n' ≠ Char.ofNat 96 := by decide
      rw [List.append_assoc, fenceMarkers_append _ (by rintro letter ⟨⟩; exact broken),
        fenceMarkers_rstrip, List.singleton_append, fenceMarkers_other broken]
      rfl
  · exact fenceMarkers_rstrip _

theorem fenceMarkers_remainder (text : Text) (splitAt : Nat) :
    fenceMarkers (splitReadableChunk text splitAt).2 = fenceMarkers (text.drop splitAt) +
      if insideCodeFence text splitAt then 1 else 0 := by
  unfold splitReadableChunk
  split
  · dsimp only
    rw [(isMarker_openCodeFenceMarker text splitAt).1.fenceMarkers, fenceMarkers_dropWhile]
    intro letter isBreak
    rw [of_decide_eq_true isBreak]
    decide
  · rfl

theorem balanced_chunk_iff (within : splitAt ≤ text.length) :
    Balanced (splitReadableChunk text splitAt).1 ↔ ¬ Across text splitAt := by
  rw [Balanced, fenceMarkers_chunk, Across, insideCodeFence]
  rcases fenceCount_split text within with ⟨whole, _⟩ | cut
  · simp only [whole, decide_eq_true_eq]
    split <;> omega
  · simp only [cut, decide_eq_true_eq]
    split <;> omega

theorem balanced_remainder_iff (within : splitAt ≤ text.length) (whole : ¬ Across text splitAt) :
    Balanced (lstrip (splitReadableChunk text splitAt).2) ↔ Balanced text := by
  rw [Balanced, fenceMarkers_lstrip, fenceMarkers_remainder, Balanced, insideCodeFence]
  rw [Across, not_not] at whole
  rcases fenceCount_split text within with ⟨_, counted⟩ | cut
  · simp only [counted, decide_eq_true_eq]
    split <;> omega
  · omega

theorem length_chunk_le (text : Text) (splitAt : Nat) :
    (splitReadableChunk text splitAt).1.length ≤ splitAt + 4 := by
  have shorter := (rstrip_starts (text.take splitAt)).length_le
  have front := List.length_take_le splitAt text
  have three : fence.length = 3 := rfl
  unfold splitReadableChunk
  split
  · dsimp only
    split
    · omega
    · simp only [List.length_append, List.length_singleton]
      omega
  · change (rstrip (text.take splitAt)).length ≤ splitAt + 4
    omega

end Cuts

section Rounds

variable (isDigit : Char → Bool) (policy : ChunkPolicy)

/-- What the chunk would be is white space: the round takes letters up to the limit, whatever they
are. -/
def CutsBlindly (buffer : Text) : Prop :=
  findSplit isDigit buffer policy.maxChars < buffer.length ∧
    (splitReadableChunk buffer (findSplit isDigit buffer policy.maxChars)).1 = []

/-- The round cuts through the letters of a fence, or blindly between two fences that belong
together. -/
def Tears (buffer : Text) : Prop :=
  CutsBlindly isDigit policy buffer ∧
      ¬ (Balanced (buffer.take policy.maxChars) ∧ Balanced (buffer.drop policy.maxChars)) ∨
    ¬ CutsBlindly isDigit policy buffer ∧
      findSplit isDigit buffer policy.maxChars < buffer.length ∧
        Across buffer (findSplit isDigit buffer policy.maxChars)

variable {isDigit policy}

variable {buffer : Text}

theorem round_last (short : buffer.length ≤ findSplit isDigit buffer policy.maxChars) :
    round isDigit policy true buffer = .last buffer := by
  unfold round
  rw [if_neg (by simp), if_neg (by simp), if_pos short, if_pos rfl]

theorem round_blind (blind : CutsBlindly isDigit policy buffer) :
    round isDigit policy true buffer =
      .cut (buffer.take policy.maxChars) (lstrip (buffer.drop policy.maxChars)) := by
  unfold round
  dsimp only
  rw [if_neg (by simp), if_neg (by simp), if_neg (Nat.not_le.mpr blind.1), if_pos blind.2, if_pos rfl]

theorem round_split (sighted : ¬ CutsBlindly isDigit policy buffer)
    (inside : findSplit isDigit buffer policy.maxChars < buffer.length) :
    round isDigit policy true buffer =
      .cut (splitReadableChunk buffer (findSplit isDigit buffer policy.maxChars)).1
        (lstrip (splitReadableChunk buffer (findSplit isDigit buffer policy.maxChars)).2) := by
  unfold round
  dsimp only
  rw [if_neg (by simp), if_neg (by simp), if_neg (Nat.not_le.mpr inside),
    if_neg fun empty => sighted ⟨inside, empty⟩]

/-- Only the first buffer can begin with white space. -/
theorem not_cutsBlindly_lstrip (bounded : 0 < policy.maxChars) (text : Text) :
    ¬ CutsBlindly isDigit policy (lstrip text) := by
  rintro ⟨inside, empty⟩
  cases shape : lstrip text with
  | nil =>
      rw [shape] at inside
      cases inside
  | cons letter rest =>
      have begins : 0 < findSplit isDigit (lstrip text) policy.maxChars :=
        findSplit_pos isDigit bounded (by simp [shape])
      have solid : isSpace letter = false := by
        have found := List.head?_dropWhile_not isSpace text
        rw [lstrip] at shape
        rwa [shape] at found
      unfold splitReadableChunk at empty
      split at empty
      · dsimp only at empty
        split at empty
        · exact absurd empty (by decide)
        · exact absurd (List.append_eq_nil_iff.mp empty).2 (by decide)
      · have blank := List.dropWhile_eq_nil_iff.mp (List.reverse_eq_nil_iff.mp empty) letter
          (List.mem_reverse.mpr ?_)
        · rw [solid] at blank
          cases blank
        · rw [shape] at begins ⊢
          obtain ⟨before, splitEq⟩ := Nat.exists_eq_succ_of_ne_zero begins.ne'
          rw [splitEq, List.take_succ_cons]
          exact List.mem_cons_self

theorem reached_iff {reached : Text} :
    Reached isDigit policy true buffer reached ↔ reached = buffer ∨
      buffer ≠ [] ∧ ∃ chunk remainder, round isDigit policy true buffer = .cut chunk remainder ∧
        Reached isDigit policy true remainder reached := by
  constructor
  · intro before
    induction before with
    | start => exact .inl rfl
    | @cut reached chunk remainder before filled isCut ih =>
        rcases ih with rfl | ⟨some_, first, rest, firstCut, later⟩
        · exact .inr ⟨filled, chunk, remainder, isCut, .start⟩
        · exact .inr ⟨some_, first, rest, firstCut, later.cut filled isCut⟩
  · rintro (rfl | ⟨filled, chunk, remainder, isCut, later⟩)
    · exact .start
    · induction later with
      | start => exact .cut .start filled isCut
      | cut before filled isCut ih => exact .cut ih filled isCut

theorem untorn_iff (filled : buffer ≠ []) {chunk remainder : Text}
    (isCut : round isDigit policy true buffer = .cut chunk remainder) :
    (∀ reached, Reached isDigit policy true buffer reached → ¬ Tears isDigit policy reached) ↔
      ¬ Tears isDigit policy buffer ∧
        ∀ reached, Reached isDigit policy true remainder reached → ¬ Tears isDigit policy reached := by
  constructor
  · intro untorn
    refine ⟨untorn buffer .start, fun reached later => untorn reached (reached_iff.mpr (.inr ?_))⟩
    exact ⟨filled, chunk, remainder, isCut, later⟩
  · rintro ⟨whole, later⟩ reached before
    rcases reached_iff.mp before with rfl | ⟨_, first, rest, firstCut, behind⟩
    · exact whole
    · rw [isCut, Round.cut.injEq] at firstCut
      obtain ⟨rfl, rfl⟩ := firstCut
      exact later reached behind

theorem untorn_of_short (short : buffer.length ≤ findSplit isDigit buffer policy.maxChars) :
    ¬ CutsBlindly isDigit policy buffer ∧ ∀ reached, Reached isDigit policy true buffer reached →
      ¬ Tears isDigit policy reached := by
  have uncut := Nat.not_lt.mpr short
  refine ⟨fun blind => uncut blind.1, fun reached before => ?_⟩
  rcases reached_iff.mp before with rfl | ⟨_, chunk, remainder, isCut, _⟩
  · rintro (⟨blind, _⟩ | ⟨_, inside, _⟩)
    · exact uncut blind.1
    · exact uncut inside
  · rw [round_last short] at isCut
    cases isCut

theorem balanced_lstrip_iff (text : Text) : Balanced (lstrip text) ↔ Balanced text := by
  rw [Balanced, fenceMarkers_lstrip, Balanced]

theorem balanced_chunks_iff (bounded : 0 < policy.maxChars) (rounds : Nat) {rest : Text} {chunks : List Text}
    (ready : readyChunksIn isDigit policy true rounds buffer = some (chunks, rest)) :
    (∀ chunk ∈ chunks, Balanced chunk) ↔
      (CutsBlindly isDigit policy buffer ∨ Balanced buffer) ∧
        ∀ reached, Reached isDigit policy true buffer reached → ¬ Tears isDigit policy reached := by
  induction rounds generalizing buffer chunks with
  | zero => cases ready
  | succ rounds ih =>
      cases buffer with
      | nil =>
          cases ready
          have short : ([] : Text).length ≤ findSplit isDigit [] policy.maxChars := Nat.zero_le _
          have untorn := (untorn_of_short short).2
          simp only [List.not_mem_nil, false_implies, implies_true, true_iff]
          exact ⟨.inr rfl, untorn⟩
      | cons letter letters =>
          have filled := List.cons_ne_nil letter letters
          simp only [readyChunksIn] at ready
          generalize letter :: letters = buffer at ready filled ⊢
          by_cases short : buffer.length ≤ findSplit isDigit buffer policy.maxChars
          · rw [round_last short] at ready
            cases ready
            obtain ⟨sighted, untorn⟩ := untorn_of_short short
            simp only [List.mem_singleton, forall_eq, sighted, false_or]
            exact (and_iff_left untorn).symm
          · have inside := Nat.not_le.mp short
            by_cases blind : CutsBlindly isDigit policy buffer
            · rw [round_blind blind] at ready
              obtain ⟨⟨later, left⟩, more, same⟩ := Option.map_eq_some_iff.mp ready
              cases same
              have solid : ¬ CutsBlindly isDigit policy (lstrip (buffer.drop policy.maxChars)) :=
                not_cutsBlindly_lstrip bounded _
              rw [List.forall_mem_cons, ih more, untorn_iff filled (round_blind blind),
                balanced_lstrip_iff]
              simp only [Tears, blind, solid, false_or, true_or, true_and, not_true_eq_false, false_and,
                or_false, not_not]
              exact and_assoc.symm
            · rw [round_split blind inside] at ready
              obtain ⟨⟨later, left⟩, more, same⟩ := Option.map_eq_some_iff.mp ready
              cases same
              have solid : ¬ CutsBlindly isDigit policy (lstrip
                  (splitReadableChunk buffer (findSplit isDigit buffer policy.maxChars)).2) :=
                not_cutsBlindly_lstrip bounded _
              rw [List.forall_mem_cons, ih more, untorn_iff filled (round_split blind inside),
                balanced_chunk_iff inside.le]
              simp only [Tears, blind, solid, inside, false_or, false_and, true_and, not_false_eq_true]
              constructor
              · rintro ⟨whole, balanced, untorn⟩
                exact ⟨(balanced_remainder_iff inside.le whole).mp balanced, whole, untorn⟩
              · rintro ⟨balanced, whole, untorn⟩
                exact ⟨whole, (balanced_remainder_iff inside.le whole).mpr balanced, untorn⟩

theorem length_of_ready (rounds : Nat) {rest : Text} {chunks : List Text}
    (ready : readyChunksIn isDigit policy true rounds buffer = some (chunks, rest)) :
    ∀ chunk ∈ chunks, chunk.length ≤ policy.maxChars + 4 := by
  induction rounds generalizing buffer chunks with
  | zero => cases ready
  | succ rounds ih =>
      cases buffer with
      | nil =>
          cases ready
          exact List.forall_mem_nil _
      | cons letter letters =>
          simp only [readyChunksIn] at ready
          generalize letter :: letters = buffer at ready
          have upTo := findSplit_le isDigit buffer policy.maxChars
          by_cases short : buffer.length ≤ findSplit isDigit buffer policy.maxChars
          · rw [round_last short] at ready
            cases ready
            rw [List.forall_mem_singleton]
            omega
          · by_cases blind : CutsBlindly isDigit policy buffer
            · rw [round_blind blind] at ready
              obtain ⟨⟨later, left⟩, more, same⟩ := Option.map_eq_some_iff.mp ready
              cases same
              have front := List.length_take_le policy.maxChars buffer
              exact List.forall_mem_cons.mpr ⟨by omega, ih more⟩
            · rw [round_split blind (Nat.not_le.mp short)] at ready
              obtain ⟨⟨later, left⟩, more, same⟩ := Option.map_eq_some_iff.mp ready
              cases same
              have size := length_chunk_le buffer (findSplit isDigit buffer policy.maxChars)
              exact List.forall_mem_cons.mpr ⟨by omega, ih more⟩

end Rounds

/-- The chunks of a balanced text are bounded and balanced and lose no letter, exactly where no
round cuts through the letters of a fence, nor blindly between two that belong together. -/
theorem chunks_fenced_iff {isDigit : Char → Bool} {policy : ChunkPolicy}
    (positive : 1 ≤ policy.finalMaxChars) {text rest : Text} (balanced : Balanced text) {rounds : Nat}
    {chunks : List Text} (ends : readyChunksIn isDigit policy.final true rounds text = some (chunks, rest)) :
    ((∀ chunk ∈ chunks, chunk.length ≤ policy.finalMaxChars + 4 ∧ Balanced chunk) ∧
        Refenced text chunks.flatten) ↔
      ∀ reached, Reached isDigit policy.final true text reached →
        ¬ Tears isDigit policy.final reached := by
  have kept := refenced_readyChunksIn isDigit policy.final true rounds ends
  rw [rest_of_force isDigit policy.final rounds ends, List.append_nil] at kept
  have bounded : 0 < policy.final.maxChars := positive
  have fenced := balanced_chunks_iff bounded rounds ends
  constructor
  · rintro ⟨each, _⟩
    exact (fenced.mp fun chunk member => (each chunk member).2).2
  · intro untorn
    have even := fenced.mpr ⟨.inr balanced, untorn⟩
    exact ⟨fun chunk member => ⟨length_of_ready rounds ends chunk member, even chunk member⟩, kept⟩

theorem chunks_fenced_word :
    ((∀ chunk ∈ ["hello".toList], chunk.length ≤ 3904 ∧ Balanced chunk) ∧
        Refenced "hello".toList ["hello".toList].flatten) ↔
      ∀ reached, Reached Char.isDigit ({} : ChunkPolicy).final true "hello".toList reached →
        ¬ Tears Char.isDigit ({} : ChunkPolicy).final reached :=
  @chunks_fenced_iff Char.isDigit {} (by decide) _ [] (by decide) 1 _ (by decide)

def shortPolicy : ChunkPolicy := ⟨1, 8, 8⟩

def tornText : Text := "abcdef".toList ++ fence ++ ['x'] ++ fence

/-- The limit lies between the letters of a fence, and the chunk before it keeps two of them. -/
theorem cut_fence_unbalances :
    ¬ ∀ (policy : ChunkPolicy) (text : Text) (rounds : Nat) (chunks : List Text),
      1 ≤ policy.finalMaxChars → Balanced text →
      readyChunksIn Char.isDigit policy.final true rounds text = some (chunks, []) →
      (∀ chunk ∈ chunks, chunk.length ≤ policy.finalMaxChars + 4 ∧ Balanced chunk) ∧
        Refenced text chunks.flatten := by
  intro always
  have both := (always shortPolicy tornText 9 _ (by decide) (by decide) rfl).1
  exact absurd (fun chunk member => (both chunk member).2) (by decide)

end Wlcodex.Telegram
