import Wlcodex.Relay.ServiceRun

namespace Wlcodex.Relay

open Wlcodex.Lib

/-! Goal mode over whole runs: which arrival completes a round. -/

namespace Service

open Script TaskState

def Summarizes (input : ServiceInput) : Prop :=
  ∃ message ∈ input.message?, IsFinalSummary input.role message.envelope

def AnswersFollowup (detail : TaskState) : ServiceInput → Prop
  | .nativeCompletion _ completion _ =>
      (∃ error, completion.output = some (.malformed error false)) ∧
        AcceptsPlainFollowup detail completion.role ∧ Projects detail completion
  | _ => False

instance (input : ServiceInput) : Decidable (Summarizes input) :=
  inferInstanceAs (Decidable (∃ message ∈ input.message?, _))

def anyone : Nat → Role → Prop := fun _ _ => True

variable {mode : ExecutionMode} {completes : TaskState → Prop} {roundId : Nat}
  {state : TaskState}

theorem admitted_output (world : World) (role : Role) (output : RoleOutput) (dispatchNext : Bool)
    (runtimeEventId : Int)
    (gated : ∀ message, output = .message message → IsFinalSummary role message.envelope →
      ∀ detail : TaskState, detail.finalSummaryCompletionError = "" → completes detail)
    (current : Current mode anyone roundId state) :
    Admitted mode anyone completes role
      (handleRoleOutput world role output dispatchNext runtimeEventId) state
      fun _ => Served mode anyone role := by
  refine admitted_handleRoleOutput (fun _ => True) world output dispatchNext runtimeEventId
    trivial (fun _ => trivial) (fun _ _ _ _ _ _ _ => trivial) ?_
    (fun _ => trivial) (fun _ _ _ _ _ => trivial) current
  intro message isMessage _ _ detail held _
  exact admitted_acceptOutput (fun _ => True) trivial (fun _ _ _ _ _ => trivial)
    (gated message isMessage) (fun _ => trivial) world detail rfl dispatchNext runtimeEventId
    (fun _ _ _ _ _ _ _ => trivial) held trivial

theorem admitted_handler (input : ServiceInput)
    (gated : Summarizes input → ∀ detail : TaskState,
      detail.finalSummaryCompletionError = "" → completes detail)
    (answered : AnswersFollowup state.backfillTask input → ∀ next, completes next)
    (current : Current mode anyone roundId state) :
    Admitted mode anyone completes input.role (handler input) state
      fun _ => Served mode anyone input.role := by
  cases input with
  | dispatch world =>
      exact (within_dispatchRole trivial unfinished_of_ne world).served trivial current
  | roleOutput world role known output dispatchNext runtimeEventId =>
      refine admitted_output world role output dispatchNext runtimeEventId ?_ current
      rintro message rfl summary
      exact gated ⟨message, rfl, summary⟩
  | nativeCompletion world completion known =>
      refine admitted_applyNativeCompletionOutput trivial world ?_ ?_ current
      · intro message output next _ held
        refine admitted_output world completion.role _ _ _ ?_ held
        rintro _ ⟨⟩ summary
        refine gated ⟨message, ?_, summary⟩
        simp [ServiceInput.message?, output]
      · exact fun error output accepts projects => answered ⟨⟨error, output⟩, accepts, projects⟩
  | roundControl world control answer =>
      exact admitted_applyRoundControl world control answer (fun _ => trivial)
        (fun _ _ => trivial) current
  | userMessage world answer =>
      exact admitted_addUserMessage world answer (fun _ => trivial) current
  | elsewhere elapsed artifacts =>
      have isLocal : Local mode anyone roundId Unfinished (.elsewhere elapsed artifacts) := trivial
      exact (within_perform isLocal).served trivial current

theorem served_handler (input : ServiceInput) (served : Served mode anyone .director state) :
    Served mode anyone .director (serve state input) := by
  obtain ⟨roundId, current, _⟩ := served
  have admitted : Admitted mode anyone (fun _ => True) input.role (handler input) state _ :=
    admitted_handler input (fun _ _ _ => trivial) (fun _ _ => trivial) current
  obtain ⟨next, nextCurrent, _⟩ := final_of_holds admitted
  exact ⟨next, nextCurrent, trivial⟩

def Gated (input : ServiceInput) (before : TaskState) : StatusWrite → Prop
  | .round roundId .completed =>
      (before.roundExecution roundId).executionMode = .goal →
        Summarizes input ∧ before.finalSummaryCompletionError = ""
  | _ => True

instance (input : ServiceInput) (before : TaskState) (write : StatusWrite) :
    Decidable (Gated input before write) := by
  unfold Gated
  split <;> infer_instance

def CompletesOnlyBySummary (state : TaskState) (input : ServiceInput) : Prop :=
  Along TaskState.step
    (fun before op => ∀ write ∈ written before (before.step op), Gated input before write)
    state (callsOf state input)

instance (state : TaskState) (input : ServiceInput) :
    Decidable (CompletesOnlyBySummary state input) := by
  unfold CompletesOnlyBySummary
  infer_instance

def NoPlainAnswer (state : TaskState) (input : ServiceInput) : Prop :=
  (state.backfillTask.roundExecution state.backfillTask.detailRoundId).executionMode = .goal →
    ¬ AnswersFollowup state.backfillTask input

theorem mode_of_roundExecution {other : Nat} (current : Current mode anyone roundId state)
    (special : (state.roundExecution other).executionMode ≠ .standard) :
    (state.roundExecution other).executionMode = mode := by
  unfold roundExecution at special ⊢
  cases found : state.rounds.find? other with
  | none => simp [found, Round.opened] at special
  | some row => exact current.order.mode_of_mem (List.mem_of_find?_eq_some found)

theorem completesOnlyBySummary (input : ServiceInput) (served : Served mode anyone .director state)
    (plain : NoPlainAnswer state input) : CompletesOnlyBySummary state input := by
  obtain ⟨roundId, current, _⟩ := served
  have directed : ∀ roundId, anyone roundId .director := fun _ => trivial
  by_cases goal : mode = .goal
  · have unanswered : ¬ AnswersFollowup state.backfillTask input := by
      have repaired : Stays mode anyone roundId Unfinished state state.backfillTask :=
        current.backfillTask
      refine plain ?_
      rw [repaired.current.detailRoundId, repaired.current.order.executionMode, goal]
    have admitted : Admitted mode anyone (fun before => Summarizes input ∧
        before.finalSummaryCompletionError = "") input.role (handler input) state _ :=
      admitted_handler input (fun summary _ accepted => ⟨summary, accepted⟩)
        (fun answers => absurd answers unanswered) current
    refine along_mono (fun before op guarded => ?_) (along_of_holds admitted)
    intro write member
    have spoken := (guarded.extends directed).allowed_of_written member
    unfold Gated
    split
    · exact fun _ => (spoken rfl).2
    · trivial
  · -- no round of another task is in goal mode
    have admitted : Admitted mode anyone (fun _ => True) input.role (handler input) state _ :=
      admitted_handler input (fun _ _ _ => trivial) (fun _ _ => trivial) current
    refine along_mono (fun before op guarded => ?_) (along_of_holds admitted)
    obtain ⟨held, heldCurrent, _⟩ := guarded
    intro write _
    unfold Gated
    split
    · intro isGoal
      refine absurd ((mode_of_roundExecution heldCurrent ?_).symm.trans isGoal) goal
      rw [isGoal]
      decide
    · trivial

/-- In every run without plain answers, a goal-mode round is completed only by a
final summary that the gate accepts at that moment. -/
theorem goal_round_completed_by_accepted_summary (start : Nat) (request : TaskRequest)
    (inputs : List ServiceInput) (plain : Along serve NoPlainAnswer (opened start request) inputs) :
    Along serve CompletesOnlyBySummary (opened start request) inputs := by
  have initial : Served request.mode anyone .director (opened start request) :=
    ⟨1, current_opened start request fun _ => trivial, trivial⟩
  exact along_of_invariant (fun _ input served _ => served_handler input served)
    (fun _ input served unanswered => completesOnlyBySummary input served unanswered)
    initial plain

def goalRequest : TaskRequest where
  mode := .goal
  goal := "ship"
  acceptanceCriteria := ["tests pass"]
  stated := by decide +kernel

def verifiedRun : GoalDeclaration := ⟨11, ["tests pass"], true, by decide⟩

theorem goal_round_completed_by_accepted_summary_run :
    let accepted : List ServiceInput :=
      [.dispatch smoothWorld,
        answers .director (decision [.director, .implementer, .tester]),
        answers .implementer (report .passed .implementer .implementationReport),
        answers .tester (report .passed .tester .testReport none (.ok verifiedRun)),
        answers .director (report .passed .director .finalSummary)]
    (accepted.foldl serve (opened 0 goalRequest)).status = .completed ∧
      Along serve CompletesOnlyBySummary (opened 0 goalRequest) accepted := by
  refine ⟨by decide +kernel, goal_round_completed_by_accepted_summary 0 goalRequest _ ?_⟩
  exact ⟨fun _ => id, fun _ => id, fun _ => id, fun _ => id, fun _ => id, trivial⟩

def plainAnswer : Completion where
  role := .director
  runtimeEventId := 7
  output := some (.malformed "no envelope" false)

/-- The follow-up round of a goal-mode task is completed without any acceptance
evidence. -/
theorem plain_answer_completes_goal_round :
    ¬ Along serve CompletesOnlyBySummary (opened 0 goalRequest)
      [.userMessage {} .dispatch, .nativeCompletion {} plainAnswer (by decide)] := by
  decide +kernel

end Service

end Wlcodex.Relay
