import Wlcodex.Timeline.FailedTurns

namespace Wlcodex.Timeline

open Wlcodex.Lib
open Wlcodex.Relay (Dict)
open ItemTable (IsCompletedMessage IsFailedLifecycle)

/-! Items that have finished. -/

def IsFinished (face : Face) : Prop :=
  face.kind = .command ∧ (face.status = "completed" ∨ face.status = "failed") ∨
    IsCompletedMessage face ∨
    face.kind = .approvalRequested ∧ (face.status = "resolved" ∨ face.status = "expired")

instance (face : Face) : Decidable (IsFinished face) := by
  unfold IsFinished
  infer_instance

def isTerminalEvent : EventType → Bool
  | .commandCompleted | .commandFailed | .providerDisplayCompleted | .modelMessageCompleted
  | .approvalResolved | .approvalExpired => true
  | _ => false

section Watch

variable (builtins : Builtins)

def explicitId (event : RuntimeEvent) : String :=
  match event.eventType with
  | .commandCompleted | .commandFailed => firstText builtins event.payload commandIds
  | .providerDisplayCompleted | .modelMessageCompleted => firstText builtins event.payload messageIds
  | .approvalResolved | .approvalExpired => firstText builtins event.payload approvalIds
  | _ => ""

def finishedKey? (event : RuntimeEvent) : Option RowKey :=
  (place? builtins event).bind fun place =>
    if explicitId builtins event = "" then none else some (place.key (explicitId builtins event))

structure Watch where
  store : TimelineStore
  finished : List RowKey

def Watch.empty : Watch := ⟨.empty, []⟩

def watchStep (watch : Watch) (event : RuntimeEvent) : Watch where
  store := projectRuntimeEvent builtins watch.store event
  finished :=
    (finishedKey? builtins event).toList.filter
        (fun key => ((projectRuntimeEvent builtins watch.store event).items.board key).any
          fun face => IsFinished face) ++
      watch.finished

def Stays (watch : Watch) (event : RuntimeEvent) : Prop :=
  ¬ isTerminalEvent event.eventType → ∀ key ∈ watch.finished, ∀ face,
    watch.store.items.board key = some face →
      ∃ next, (projectRuntimeEvent builtins watch.store event).items.board key = some next ∧
        next.status = face.status ∧ ∀ more, more ≠ "" → next.text ≠ face.text ++ more

def IsQuiet (event : RuntimeEvent) : Prop :=
  event.eventType = .approvalRequested ∨ event.eventType = .agentRunWaitingForApproval ∨
    event.eventType = .agentRunActivity ∧ isPlanUpdate event.payload ∧
      firstText builtins event.payload ["status"] ≠ "streaming"

def IsQuietFailure (event : RuntimeEvent) : Prop :=
  shouldProjectFailedLifecycle builtins event.eventType event.payload ∧
    ¬ (event.eventType = .agentRunActivity ∧ isPlanUpdate event.payload) ∧
    terminalTurnStatus builtins event.eventType event.payload ≠ "streaming"

def HeldOff (face : Face) (event : RuntimeEvent) : Prop :=
  face.kind = .message ∧ event.eventType ≠ .userMessageReceived ∨
    face.kind = .messageSuppressed ∧ (IsQuiet builtins event ∨ IsQuietFailure builtins event) ∨
    face.kind = .approvalRequested ∧ IsQuiet builtins event ∨
    face.kind = .command ∧ face.status = "completed" ∧ event.eventType = .modelReasoningDelta

def Allowed (watch : Watch) (event : RuntimeEvent) : Prop :=
  ∀ place projection, place? builtins event = some place →
    projection? builtins watch.store.items place event = some projection →
    projection.write.key ∈ watch.finished → ∀ face,
      watch.store.items.board projection.write.key = some face →
        isTerminalEvent event.eventType ∨ HeldOff builtins face event

variable {builtins}

def WasFinished (face : Face) : Prop :=
  IsFinished face ∨ face.kind = .messageSuppressed ∧ face.sourcePriority = 90

section Writes

variable {event : RuntimeEvent} {role : ItemRole} {kind : ItemKind} {status : String} {priority : Nat}

section

variable (written : Written builtins event role kind status priority)

include written

theorem Written.priority_le
    (other : event.eventType ≠ .userMessageReceived) : priority ≤ 80 := by
  cases written with
  | userMessage type => exact absurd type other
  | _ => decide

theorem Written.quiet
    (quiet : IsQuiet builtins event) : status ≠ "streaming" ∧ priority = 70 := by
  obtain request | request | ⟨type, plan, still⟩ := quiet
  · cases written <;> simp_all [shouldProjectFailedLifecycle, isTerminalType]
  · cases written <;> simp_all [shouldProjectFailedLifecycle, isTerminalType]
  · cases written with
    | planUpdated =>
        refine ⟨?_, rfl⟩
        unfold orText
        split
        · decide
        · exact still
    | failedLifecycle _ noPlan => exact absurd ⟨type, plan⟩ noPlan
    | _ => simp_all

theorem Written.quietFailure
    (quiet : IsQuietFailure builtins event) : status ≠ "streaming" ∧ priority ≤ 80 := by
  obtain ⟨failed, noPlan, still⟩ := quiet
  cases written with
  | failedLifecycle => exact ⟨still, Nat.le_refl _⟩
  | planUpdated type plan => exact absurd ⟨type, plan⟩ noPlan
  | userMessage type => simp [shouldProjectFailedLifecycle, type, isTerminalType] at failed
  | reasoningDelta type => simp [shouldProjectFailedLifecycle, type, isTerminalType] at failed
  | textDelta type => rcases type with type | type <;> simp [shouldProjectFailedLifecycle, type, isTerminalType] at failed
  | commandRunning type =>
      rcases type with type | type <;> simp [shouldProjectFailedLifecycle, type, isTerminalType] at failed
  | _ => exact ⟨by decide, by decide⟩

theorem Written.reasoning
    (type : event.eventType = .modelReasoningDelta) : priority = 40 := by
  cases written with
  | reasoningDelta => rfl
  | failedLifecycle failed => simp [shouldProjectFailedLifecycle, type, isTerminalType] at failed
  | _ => simp_all

end

end Writes

variable {event : RuntimeEvent} {face : Face}

theorem yields_of_heldOff {write : ItemWrite}
    (written : Written builtins event write.role write.kind write.status write.sourcePriority)
    (ranked : Ranked face) (was : WasFinished face) (held : HeldOff builtins face event) : write.Yields face := by
  obtain ⟨message, other⟩ | ⟨suppressed, quiet⟩ | ⟨approval, quiet⟩ | ⟨command, completed, type⟩ := held
  · have done : IsCompletedMessage face := by
      rcases was with (⟨kind, _⟩ | done | ⟨kind, _⟩) | ⟨kind, _⟩
      · exact absurd (kind.symm.trans message) (by decide)
      · exact done
      · exact absurd (kind.symm.trans message) (by decide)
      · exact absurd (kind.symm.trans message) (by decide)
    have below := written.priority_le other
    refine .inl ⟨?_, done.2⟩
    rw [ranked.message done]
    omega
  · have priority : face.sourcePriority = 90 := by
      rcases was with (⟨kind, _⟩ | done | ⟨kind, _⟩) | ⟨_, priority⟩
      · exact absurd (kind.symm.trans suppressed) (by decide)
      · exact absurd (done.1.symm.trans suppressed) (by decide)
      · exact absurd (kind.symm.trans suppressed) (by decide)
      · exact priority
    rcases quiet with quiet | quiet
    · obtain ⟨still, level⟩ := written.quiet quiet
      exact .inr ⟨by omega, still⟩
    · obtain ⟨still, level⟩ := written.quietFailure quiet
      exact .inr ⟨by omega, still⟩
  · have finished : face.status = "resolved" ∨ face.status = "expired" := by
      rcases was with (⟨kind, _⟩ | done | ⟨_, finished⟩) | ⟨kind, _⟩
      · exact absurd (kind.symm.trans approval) (by decide)
      · exact absurd (done.1.symm.trans approval) (by decide)
      · exact finished
      · exact absurd (kind.symm.trans approval) (by decide)
    obtain ⟨still, level⟩ := written.quiet quiet
    have priority := ranked.approval approval finished
    exact .inr ⟨by omega, still⟩
  · have priority := ranked.command command (.inl completed)
    have level := written.reasoning type
    exact .inl ⟨by omega, completed⟩

structure Held (watch : Watch) : Prop where
  answered : Answered watch.store
  finished : ∀ key ∈ watch.finished, ∃ face, watch.store.items.board key = some face ∧ WasFinished face

theorem wasFinished_settle {write : ItemWrite}
    (written : Written builtins event write.role write.kind write.status write.sourcePriority)
    (terminal : isTerminalEvent event.eventType) (was : WasFinished face) :
    WasFinished (write.settle (some face)) := by
  have own : IsFinished write.face := by
    obtain ⟨key, role, kind, text, status, payload, priority, merge⟩ := write
    cases written with
    | userMessage type => simp [type, isTerminalEvent] at terminal
    | textDelta type => rcases type with type | type <;> simp [type, isTerminalEvent] at terminal
    | reasoningDelta type => simp [type, isTerminalEvent] at terminal
    | planUpdated type => simp [type, isTerminalEvent] at terminal
    | failedLifecycle failed =>
        unfold shouldProjectFailedLifecycle at failed
        cases type : event.eventType <;> rw [type] at failed terminal <;>
          simp [isTerminalType, isTerminalEvent] at failed terminal
    | approvalRequested type => rcases type with type | type <;> simp [type, isTerminalEvent] at terminal
    | commandRunning type => rcases type with type | type <;> simp [type, isTerminalEvent] at terminal
    | approvalResolved => exact .inr (.inr ⟨rfl, .inl rfl⟩)
    | approvalExpired => exact .inr (.inr ⟨rfl, .inr rfl⟩)
    | commandCompleted => exact .inl ⟨rfl, .inl rfl⟩
    | commandFailed => exact .inl ⟨rfl, .inr rfl⟩
  unfold ItemWrite.settle
  simp only
  split
  · exact was
  · exact .inl own

theorem wasFinished_complete {place : Place} {payload : Dict} {board : Board} (ranked : board.IsRanked)
    {key : RowKey} (shown : board key = some face) (was : WasFinished face) :
    ∃ next, complete builtins place payload board key = some next ∧ WasFinished next := by
  have clear : ∃ next, cleared builtins place payload board key = some next ∧ WasFinished next := by
    unfold cleared
    rw [shown]
    split
    · rename_i other
      obtain ⟨otherFace, otherShown, done, _⟩ := other
      rw [shown] at otherShown
      cases otherShown
      exact ⟨_, rfl, .inr ⟨rfl, (ranked key face shown).message done⟩⟩
    · exact ⟨face, rfl, was⟩
  unfold complete
  split
  · split
    · exact clear
    · obtain ⟨kept, keptShown, keptWas⟩ := clear
      have written : ∃ next, (cleared builtins place payload board).put (completion builtins place payload)
          key = some next ∧ WasFinished next := by
        by_cases own : key = (completion builtins place payload).key
        · subst own
          unfold Board.put
          rw [Function.update_self, keptShown]
          refine ⟨_, rfl, ?_⟩
          unfold ItemWrite.settle
          simp only
          split
          · exact keptWas
          · exact .inl (.inr (.inl ⟨rfl, rfl⟩))
        · rw [put_of_ne own]
          exact ⟨kept, keptShown, keptWas⟩
      obtain ⟨last, lastShown, lastWas⟩ := written
      refine ⟨last, ?_, lastWas⟩
      unfold Board.hush
      rw [lastShown]
      have sound : ¬ IsFailedLifecycle last := by
        intro failed
        rcases lastWas with (⟨kind, _⟩ | done | ⟨kind, _⟩) | ⟨kind, _⟩
        · exact absurd (kind.symm.trans failed.1) (by decide)
        · exact absurd (done.1.symm.trans failed.1) (by decide)
        · exact absurd (kind.symm.trans failed.1) (by decide)
        · exact absurd (kind.symm.trans failed.1) (by decide)
      unfold hushed
      simp only [Option.map_some, if_neg sound, ite_self]
  · exact ⟨face, shown, was⟩

variable {watch : Watch}

theorem board_of_allowed (held : Held watch)
    (allowed : Allowed builtins watch event) (running : ¬ isTerminalEvent event.eventType) {key : RowKey}
    (finished : key ∈ watch.finished) :
    (projectRuntimeEvent builtins watch.store event).items.board key = watch.store.items.board key := by
  have other : ¬ isCompletionType event.eventType := by
    intro completes
    cases type : event.eventType <;> rw [type] at completes running <;>
      simp [isCompletionType, isTerminalEvent] at completes running
  rcases board_project_other held.answered.ranked other with same | ⟨place, projection, placed, projects, board⟩
  · rw [same]
  · rw [board]
    by_cases own : key = projection.write.key
    · subst own
      obtain ⟨face, shown, was⟩ := held.finished _ finished
      have off : HeldOff builtins face event :=
        (allowed place projection placed projects finished face shown).resolve_left running
      have yields := yields_of_heldOff (projection?_isOf projects).2
        (held.answered.ranked _ face shown) was off
      unfold Board.put
      rw [Function.update_self, shown]
      unfold ItemWrite.settle
      simp only [if_pos yields]
    · exact put_of_ne own

theorem stays_of_allowed (held : Held watch)
    (allowed : Allowed builtins watch event) : Stays builtins watch event := by
  intro running key finished face shown
  refine ⟨face, ?_, rfl, ?_⟩
  · rw [board_of_allowed held allowed running finished]
    exact shown
  · intro more some_ extended
    apply some_
    have lengths := congrArg String.length extended
    rw [String.length_append] at lengths
    exact String.length_eq_zero_iff.mp (by omega)

theorem held_watchStep (held : Held watch)
    (allowed : Allowed builtins watch event) : Held (watchStep builtins watch event) := by
  refine ⟨answered_project held.answered event, ?_⟩
  intro key listed
  rcases List.mem_append.mp listed with new | old
  · rw [List.mem_filter] at new
    obtain ⟨face, shown, finished⟩ := (Option.any_eq_true _ _).mp new.2
    exact ⟨face, shown, .inl (by simpa using finished)⟩
  · obtain ⟨face, shown, was⟩ := held.finished key old
    by_cases running : isTerminalEvent event.eventType
    · by_cases completes : isCompletionType event.eventType
      · rcases board_project_completion held.answered completes with same | ⟨place, board⟩
        · exact ⟨face, (congrFun same key).trans shown, was⟩
        · obtain ⟨next, nextShown, nextWas⟩ := wasFinished_complete held.answered.ranked shown was
          exact ⟨next, (congrFun board key).trans nextShown, nextWas⟩
      · rcases board_project_other held.answered.ranked completes with same |
          ⟨place, projection, placed, projects, board⟩
        · exact ⟨face, (congrFun same key).trans shown, was⟩
        · by_cases own : key = projection.write.key
          · subst own
            refine ⟨_, (congrFun board _).trans ?_, wasFinished_settle (projection?_isOf projects).2 running was⟩
            unfold Board.put
            rw [Function.update_self, shown]
          · exact ⟨face, (congrFun board key).trans ((put_of_ne own).trans shown), was⟩
    · exact ⟨face, (board_of_allowed held allowed running old).trans shown, was⟩

/-- In a run whose events a finished item holds off, finished items stay. -/
theorem finished_items_stay (events : List RuntimeEvent)
    (allowed : Along (watchStep builtins) (Allowed builtins) Watch.empty events) :
    Along (watchStep builtins) (Stays builtins) Watch.empty events := by
  have initial : Held Watch.empty := ⟨answered_empty, fun _ listed => absurd listed List.not_mem_nil⟩
  exact along_of_invariant (fun _ _ held allowed => held_watchStep held allowed)
    (fun _ _ held allowed => stays_of_allowed held allowed) initial allowed

end Watch

def commandEvent (eventType : EventType) (output : String) : RuntimeEvent :=
  turnEvent eventType [("command_id", .string "build"), ("output", .string output)]

def lateOutput : List RuntimeEvent :=
  [commandEvent .commandCompleted "built", commandEvent .commandOutputDelta "!"]

theorem late_output_reopens_command :
    ¬ Along (watchStep plainBuiltins) (Stays plainBuiltins) Watch.empty lateOutput := by
  rintro ⟨_, stays, _⟩
  obtain ⟨next, shown, status, _⟩ := stays (by decide) ⟨"codex", "thread", "turn", "build"⟩ (by decide) _ rfl
  cases shown
  revert status
  decide

def lateReasoning : List RuntimeEvent :=
  [commandEvent .commandCompleted "built",
    turnEvent .modelReasoningDelta [("itemId", .string "build"), ("text", .string "well")]]

theorem late_reasoning_is_held_off :
    Along (watchStep plainBuiltins) (Stays plainBuiltins) Watch.empty lateReasoning := by
  refine finished_items_stay lateReasoning ⟨?_, ?_, trivial⟩
  · intro place projection _ _ listed
    exact absurd listed List.not_mem_nil
  · intro place projection placed projects _ face shown
    cases placed
    cases projects
    cases shown
    exact .inr (.inr (.inr (.inr ⟨rfl, rfl, rfl⟩)))

end Wlcodex.Timeline
