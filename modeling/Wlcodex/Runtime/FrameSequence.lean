import Wlcodex.Runtime.RetentionSteps

namespace Wlcodex.Runtime

open Wlcodex.Lib

/-! Sequence numbers of a turn. -/

namespace FrameStore

variable {words : WordClass} {store next : FrameStore} {turn : TurnKey} {sequence : Int}

def CursorPast (cursors : Keyed SequenceCursor.turn) (turn : TurnKey) (sequence : Int) : Prop :=
  ∃ cursor ∈ cursors, cursor.turn = turn ∧ sequence ≤ cursor.lastSequence

def Reached (store : FrameStore) (turn : TurnKey) (sequence : Int) : Prop :=
  CursorPast store.cursors turn sequence ∨
    ∃ row ∈ store.frames, row.turn = turn ∧ sequence ≤ row.sequence

theorem le_maxSequence {sequences : List Int} (member : sequence ∈ sequences) :
    sequence ≤ maxSequence sequences := by
  unfold maxSequence
  cases greatest : sequences.max? with
  | none => simp_all
  | some top => exact (List.max?_eq_some_iff.mp greatest).2 sequence member

theorem lt_next_of_reached (reached : store.Reached turn sequence) :
    sequence < store.nextProviderRawFrameSequence turn := by
  unfold nextProviderRawFrameSequence
  rcases reached with ⟨cursor, member, same, past⟩ | ⟨row, member, same, past⟩
  · have found : store.cursors.find? turn = some cursor :=
      Keyed.find?_eq_some_iff.mpr ⟨member, same⟩
    have standing : store.cursorSequence turn = cursor.lastSequence := by
      rw [cursorSequence, found]
      rfl
    omega
  · have listed : row.sequence ∈
        (store.frames.rows.filter fun row => row.turn = turn).map RawFrameRow.sequence :=
      List.mem_map.mpr ⟨row, List.mem_filter.mpr ⟨member, by simpa using same⟩, rfl⟩
    have below : row.sequence ≤ store.hotSequence turn := le_maxSequence listed
    omega

theorem raiseCursor_cases (cursors : Keyed SequenceCursor.turn) (raised : TurnKey) (number : Int) :
    (∃ inserted, cursors.insert? ⟨raised, number⟩ = some inserted ∧
        raiseCursor cursors raised number = inserted) ∨
      ((∃ cursor ∈ cursors, cursor.turn = raised) ∧
        raiseCursor cursors raised number =
          cursors.update (fun row => row.turn = raised)
            ⟨fun row => { row with lastSequence := max row.lastSequence number }, fun _ => rfl⟩) := by
  unfold raiseCursor
  cases inserted : cursors.insert? ⟨raised, number⟩ with
  | some next => exact .inl ⟨next, rfl, rfl⟩
  | none =>
      refine .inr ⟨?_, rfl⟩
      by_contra missing
      push Not at missing
      have possible : (cursors.insert? ⟨raised, number⟩).isSome := Keyed.insert?_isSome missing
      rw [inserted] at possible
      cases possible

theorem cursorPast_raiseCursor {cursors : Keyed SequenceCursor.turn}
    (past : CursorPast cursors turn sequence) (raised : TurnKey) (number : Int) :
    CursorPast (raiseCursor cursors raised number) turn sequence := by
  obtain ⟨cursor, member, same, below⟩ := past
  rcases raiseCursor_cases cursors raised number with ⟨next, inserted, eq⟩ | ⟨_, eq⟩
  · rw [eq]
    exact ⟨cursor, (Keyed.mem_insert? inserted).mpr (.inr member), same, below⟩
  · rw [eq]
    by_cases own : cursor.turn = raised
    · refine ⟨_, Keyed.mem_update.mpr (.inl ⟨cursor, member, decide_eq_true own, rfl⟩), same, ?_⟩
      exact below.trans (le_max_left _ _)
    · exact ⟨cursor, Keyed.mem_update.mpr (.inr ⟨member, decide_eq_false own⟩), same, below⟩

theorem cursorPast_raised (cursors : Keyed SequenceCursor.turn) (turn : TurnKey) (sequence : Int) :
    CursorPast (raiseCursor cursors turn sequence) turn sequence := by
  rcases raiseCursor_cases cursors turn sequence with
    ⟨next, inserted, eq⟩ | ⟨⟨cursor, member, own⟩, eq⟩
  · rw [eq]
    exact ⟨_, (Keyed.mem_insert? inserted).mpr (.inl rfl), rfl, le_rfl⟩
  · rw [eq]
    refine ⟨_, Keyed.mem_update.mpr (.inl ⟨cursor, member, decide_eq_true own, rfl⟩), own, ?_⟩
    exact le_max_right _ _

theorem cursorPast_batch (rows : List RawFrameRow) (cursors : Keyed SequenceCursor.turn)
    (past : CursorPast cursors turn sequence ∨
      ∃ row ∈ rows, row.turn = turn ∧ sequence ≤ row.sequence) :
    CursorPast (rows.foldl (fun cursors row => raiseCursor cursors row.turn row.sequence) cursors)
      turn sequence := by
  induction rows generalizing cursors with
  | nil => simpa using past
  | cons head rest ih =>
      apply ih
      rcases past with past | ⟨row, member, same, below⟩
      · exact .inl (cursorPast_raiseCursor past head.turn head.sequence)
      · rcases List.mem_cons.mp member with rfl | later
        · obtain ⟨cursor, stored, own, high⟩ := cursorPast_raised cursors row.turn row.sequence
          exact .inl ⟨cursor, stored, own.trans same, below.trans high⟩
        · exact .inr ⟨row, later, same, below⟩

theorem reached_append (fresh : store.Fresh) (reached : store.Reached turn sequence)
    (input : FrameInput) : (store.appendProviderRawFrame words input).Reached turn sequence := by
  rcases reached with past | ⟨row, member, same, below⟩
  · obtain ⟨frames, _, eq⟩ := appendProviderRawFrame_eq words fresh input
    rw [eq]
    refine .inl ?_
    split
    · exact cursorPast_raiseCursor past input.turn input.sequence
    · exact past
  · exact .inr ⟨row, (mem_appendProviderRawFrame fresh input row).mpr (.inr member), same, below⟩

theorem reached_appended (fresh : store.Fresh) (input : FrameInput) :
    (store.appendProviderRawFrame words input).Reached input.turn input.sequence :=
  .inr ⟨_, (mem_appendProviderRawFrame fresh input _).mpr (.inl rfl), rfl, le_rfl⟩

theorem reached_archive {rows : List RawFrameRow} {manifest : ArchiveManifest}
    (hot : ∀ row ∈ rows, row ∈ store.frames)
    (moved : store.archiveRows rows manifest = some next) (reached : store.Reached turn sequence) :
    next.Reached turn sequence := by
  have cursors : next.cursors =
      rows.foldl (fun cursors row => raiseCursor cursors row.turn row.sequence) store.cursors := by
    obtain ⟨archives, _, _, _, rfl⟩ := archiveRows_some moved
    rfl
  rcases reached with past | ⟨row, member, same, below⟩
  · rw [Reached, cursors]
    exact .inl (cursorPast_batch rows _ (.inl past))
  · by_cases gone : row.id ∈ rows.map RawFrameRow.id
    · obtain ⟨own, taken, sameId⟩ := List.mem_map.mp gone
      have eq : own = row := store.frames.eq_of_key (hot own taken) member sameId
      rw [Reached, cursors]
      exact .inl (cursorPast_batch rows _ (.inr ⟨own, taken, eq ▸ same, eq ▸ below⟩))
    · exact .inr ⟨row, (mem_archived moved row).mpr ⟨member, gone⟩, same, below⟩

end FrameStore

theorem FrameMove.reached {words : WordClass} {store next : FrameStore} {turn : TurnKey}
    {sequence : Int} (move : FrameMove words store next) (fresh : store.Fresh)
    (reached : store.Reached turn sequence) : next.Reached turn sequence := by
  cases move with
  | stay | install | mark | drop => exact reached
  | append input => exact FrameStore.reached_append fresh reached input
  | archive hot moved => exact FrameStore.reached_archive hot moved reached

namespace Retention

variable (words : WordClass) (sha256 : List Char → String) (lifetime : Nat)

def assignment (state : Retention) : RetentionEvent → Option (TurnKey × Int)
  | .record input => some (input.turn, state.frames.nextProviderRawFrameSequence input.turn)
  | _ => none

def assignments : Retention → List RetentionEvent → List (TurnKey × Int)
  | _, [] => []
  | state, event :: events =>
      (state.assignment event).toList ++ assignments (state.step words sha256 lifetime event) events

def assignedSequences (state : Retention) (events : List RetentionEvent) (turn : TurnKey) :
    List Int :=
  ((state.assignments words sha256 lifetime events).filter fun assigned =>
    assigned.1 = turn).map Prod.snd

variable {words sha256 lifetime} {state : Retention} {turn : TurnKey} {sequence : Int}

theorem assignedSequences_cons (event : RetentionEvent) (events : List RetentionEvent) :
    state.assignedSequences words sha256 lifetime (event :: events) turn =
      ((state.assignment event).toList.filter fun assigned => assigned.1 = turn).map Prod.snd ++
        (state.step words sha256 lifetime event).assignedSequences words sha256 lifetime events
          turn := by
  rw [assignedSequences, assignments, List.filter_append, List.map_append]
  rfl

theorem lt_assigned {event : RetentionEvent} {earlier : Int}
    (assigned : state.assignment event = some (turn, sequence))
    (reached : state.frames.Reached turn earlier) : earlier < sequence := by
  cases event with
  | record input =>
      cases assigned
      exact FrameStore.lt_next_of_reached reached
  | _ => cases assigned

theorem reached_assigned (held : state.Held) {event : RetentionEvent}
    (assigned : state.assignment event = some (turn, sequence)) :
    (state.step words sha256 lifetime event).frames.Reached turn sequence := by
  cases event with
  | record input =>
      cases assigned
      exact FrameStore.reached_appended held.fresh _
  | _ => cases assigned

theorem assignedSequences_split (event : RetentionEvent) (events : List RetentionEvent) :
    (state.assignedSequences words sha256 lifetime (event :: events) turn =
        (state.step words sha256 lifetime event).assignedSequences words sha256 lifetime events
          turn) ∨
      ∃ sequence, state.assignment event = some (turn, sequence) ∧
        state.assignedSequences words sha256 lifetime (event :: events) turn =
          sequence :: (state.step words sha256 lifetime event).assignedSequences words sha256
            lifetime events turn := by
  rw [assignedSequences_cons]
  cases assigned : state.assignment event with
  | none => exact .inl rfl
  | some own =>
      obtain ⟨ownTurn, sequence⟩ := own
      by_cases same : ownTurn = turn
      · subst same
        exact .inr ⟨sequence, rfl, by simp⟩
      · exact .inl (by simp [same])

variable (words sha256 lifetime)

theorem lt_of_reached (held : state.Held) (reached : state.frames.Reached turn sequence)
    (events : List RetentionEvent) :
    ∀ later ∈ state.assignedSequences words sha256 lifetime events turn, sequence < later := by
  induction events generalizing state with
  | nil =>
      intro later member
      cases member
  | cons event events ih =>
      have kept : (state.step words sha256 lifetime event).frames.Reached turn sequence :=
        (moves_step held event).reached held.fresh reached
      have rest := ih (held.step event) kept
      rcases assignedSequences_split event events with same | ⟨own, assigned, grown⟩
      · rw [same]
        exact rest
      · rw [grown, List.forall_mem_cons]
        exact ⟨lt_assigned assigned reached, rest⟩

theorem assignedSequences_increasing (held : state.Held) (events : List RetentionEvent) :
    (state.assignedSequences words sha256 lifetime events turn).Pairwise (· < ·) := by
  induction events generalizing state with
  | nil => exact .nil
  | cons event events ih =>
      have kept : (state.step words sha256 lifetime event).Held := held.step event
      rcases assignedSequences_split event events with same | ⟨own, assigned, grown⟩
      · rw [same]
        exact ih kept
      · rw [grown]
        have above := lt_of_reached words sha256 lifetime kept (reached_assigned held assigned) events
        exact .cons above (ih kept)

/-- Along every run a turn's numbers increase strictly, whatever batches and purges
have left of its frames. -/
theorem raw_frame_sequences_increase (events : List RetentionEvent) (turn : TurnKey) :
    (initial.assignedSequences words sha256 lifetime events turn).Pairwise (· < ·) :=
  assignedSequences_increasing words sha256 lifetime held_initial events

end Retention

end Wlcodex.Runtime
