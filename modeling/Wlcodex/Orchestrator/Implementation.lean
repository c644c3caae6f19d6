import Wlcodex.Orchestrator.Verdicts

namespace Wlcodex.Orchestrator

open Wlcodex.Lib Act
open Wlcodex.Lib.Json (loads)
open Wlcodex.Bridge (Verdict VerificationDecision)

/-! Whether a run implements what its analysis asks for: a phrase anywhere in the analysis keeps it from
that, whatever its last JSON object says. -/

section Leads

variable {σ α : Type} {pre broken : σ → Prop} {act : Act σ α}

theorem leads_attempt (post : σ → Prop) (kept : ∀ state, pre state → post (act.run state).2)
    (stops : ∀ state, post state → broken state) : Leads pre act.attempt (fun _ => post) broken := by
  intro state holds
  have reached := kept state holds
  refine meets_attempt.mpr ?_
  unfold Meets
  cases ran : act.run state with
  | mk ended after =>
      rw [ran] at reached
      cases ended <;> exact ⟨fun _ _ => reached, fun _ => stops _ reached⟩

theorem meets_value {post : Ending α → σ → Prop} {state after : σ} {value : α}
    (ended : act.run state = (.value value, after)) : act.Meets post state ↔ post (.value value) after := by
  rw [Meets, ended]

end Leads

def Judged.Passed (judged : Judged) : Prop :=
  judged.decision = .pass ∧ detectVerificationDeliveryDrift judged.verification = [] ∧
    detectClaudeDirectDeliveryDrift judged.implementation = []

theorem afterDrift_pass {decision : VerificationDecision} {verificationDrift claudeDrift : List String}
    (passes : (afterDrift decision verificationDrift claudeDrift).decision = .pass) :
    verificationDrift = [] ∧ claudeDrift = [] := by
  unfold afterDrift at passes
  split at passes
  · cases passes
  next kept =>
    split at passes
    · cases passes
    next alsoKept =>
      exact ⟨by_contra fun drift => kept ⟨passes, drift⟩, by_contra fun drift => alsoKept ⟨passes, drift⟩⟩

section Runs

variable {ω : Type} (chief : Chief ω) {goal analysis : String} {before after : Orchestra ω}

def PassedSince (before after : Orchestra ω) : Prop :=
  ∃ judged ∈ after.judged.drop before.judged.length, judged.Passed

structure GrownSince (before after : Orchestra ω) : Prop where
  sent : before.sent.length ≤ after.sent.length
  judged : before.judged.length ≤ after.judged.length

structure ImplementedSince (before after : Orchestra ω) : Prop extends GrownSince before after where
  implemented : ∃ prompt, .claude prompt ∈ after.sent.drop before.sent.length

def Implements (before : Orchestra ω) (ended : Ending OrchestrationResult) (after : Orchestra ω) : Prop :=
  (∃ prompt, .claude prompt ∈ after.sent.drop before.sent.length) ∧
    ∀ result, ended = .value result → result.status = "passed" → PassedSince before after

def RoundEnd.Passes : RoundEnd OrchestrationResult → Prop
  | .returned result => result.status = "passed"
  | .again _ _ => False

theorem send_world (sent : Sent) (answer : ω → Except String String × ω) (state : Orchestra ω) :
    ((Chief.send sent answer).run state).2 =
      { state with world := (answer state.world).2, sent := state.sent ++ [sent] } := by
  unfold Chief.send
  rw [run_get_bind, run_modify_bind]
  split <;> rfl

theorem sent_callCodex (mode : Interaction) (prompt : String) (state : Orchestra ω) :
    ((chief.callCodex mode prompt).run state).2.sent = state.sent ++ [.codex mode prompt] := by
  have sent := congrArg Orchestra.sent
    (send_world (.codex mode prompt) (fun world => chief.backends.codex world mode prompt) state)
  unfold Chief.callCodex
  rw [run_get_bind, run_bind]
  split <;> rename_i ended <;> rw [ended] at sent
  · rw [run_get_bind]
    dsimp only
    split <;> exact sent
  all_goals exact sent

theorem ImplementedSince.of_sent {later : Orchestra ω} (implemented : ImplementedSince before after)
    (more : after.sent <+: later.sent) (judged : later.judged = after.judged) : ImplementedSince before later := by
  obtain ⟨⟨longer, judgedLonger⟩, prompt, member⟩ := implemented
  refine ⟨⟨longer.trans more.length_le, judged ▸ judgedLonger⟩, prompt, ?_⟩
  obtain ⟨rest, same⟩ := more
  rw [← same, List.drop_append_of_le_length longer]
  exact List.mem_append_left _ member

theorem verifyWithCodex_implemented (goal analysis impl pending : String) (implemented : ImplementedSince before after) :
    ImplementedSince before ((chief.verifyWithCodex goal analysis impl pending).run after).2 := by
  refine implemented.of_sent ?_ (judged_verifyWithCodex chief goal analysis impl pending after)
  unfold Chief.verifyWithCodex
  rw [run_get_bind, run_modify_bind, sent_callCodex]
  exact List.prefix_append _ _

theorem judge_passes (round : Nat) (impl verifyResult : String) :
    Leads (fun state => ImplementedSince before state ∧
        state.lastClaudeDriftFindings = detectClaudeDirectDeliveryDrift impl)
      (chief.judge round impl verifyResult)
      (fun decision after => ImplementedSince before after ∧ (decision.decision = .pass → PassedSince before after))
      (ImplementedSince before) := by
  refine leads_get_bind fun state holds => ?_
  obtain ⟨implemented, drift⟩ := holds
  rintro _ rfl
  refine meets_modify_bind.mpr ⟨fun decision same => ?_, fun early => absurd rfl (early _)⟩
  cases same
  refine ⟨⟨⟨implemented.sent, ?_⟩, implemented.implemented⟩, fun passes => ?_⟩
  · exact implemented.judged.trans (by simp)
  · refine ⟨⟨round, impl, verifyResult, _⟩, ?_, passes, drift ▸ afterDrift_pass passes⟩
    rw [run_pure, List.drop_append_of_le_length implemented.judged]
    exact List.mem_append_right _ (List.mem_singleton_self _)

def Ended (before : Orchestra ω) (ended : RoundEnd OrchestrationResult) (after : Orchestra ω) : Prop :=
  ImplementedSince before after ∧ (ended.Passes → PassedSince before after)

theorem unpassed {ended : RoundEnd OrchestrationResult} (unpassed : ¬ended.Passes)
    (implemented : ImplementedSince before after) : Ended before ended after :=
  ⟨implemented, fun passes => absurd passes unpassed⟩

theorem runVerification_ended (goal analysis impl : String) (result : OrchestrationResult) (round : Nat) :
    Leads (ImplementedSince before) (chief.runVerification goal result round analysis impl) (Ended before)
      (ImplementedSince before) := by
  have failed : "failed" ≠ "passed" := by decide
  have needsUser : "needs_user" ≠ "passed" := by decide
  refine leads_get_bind fun state holds => ?_
  refine leads_bind (leads_attempt (fun after => ImplementedSince before after ∧
    after.lastClaudeDriftFindings = detectClaudeDirectDeliveryDrift impl) ?_ fun _ => And.left) fun answer => ?_
  · rintro _ rfl
    exact ⟨verifyWithCodex_implemented chief goal analysis impl _ holds,
      verifyWithCodex_drift chief goal analysis impl _ _⟩
  · cases answer with
    | error exc => exact leads_pure fun after reached => unpassed failed reached.1
    | ok verifyResult =>
        refine leads_bind (judge_passes chief round impl verifyResult) fun decision => ?_
        split
        next passes => exact leads_pure fun after reached => ⟨reached.1, fun _ => reached.2 passes⟩
        · exact leads_pure fun after reached => unpassed failed reached.1
        · exact leads_pure fun after reached => unpassed needsUser reached.1
        · refine leads_ite (fun _ => ?_) fun _ => leads_get_bind fun after reached => ?_
          · exact leads_pure fun after reached => unpassed failed reached.1
          · exact leads_pure fun _ same => unpassed id (same ▸ reached.1)

theorem runRound_ended (goal analysis : String) (result : OrchestrationResult) (round : Nat) :
    Leads (GrownSince before) (chief.runRound goal result round analysis) (Ended before)
      (ImplementedSince before) := by
  have failed : "failed" ≠ "passed" := by decide
  refine leads_bind (leads_attempt (ImplementedSince before) ?_ fun _ => id) fun answer => ?_
  · intro state grown
    unfold Chief.implementWithClaude Chief.callClaude
    rw [send_world]
    refine ⟨⟨grown.sent.trans (by simp), grown.judged⟩, chief.claudePrompt goal analysis, ?_⟩
    rw [List.drop_append_of_le_length grown.sent]
    exact List.mem_append_right _ (List.mem_singleton_self _)
  · cases answer with
    | error exc => exact leads_pure fun after reached => unpassed failed reached
    | ok impl => exact runVerification_ended chief goal analysis impl _ round

def Sound (before : Orchestra ω) (result : OrchestrationResult) (after : Orchestra ω) : Prop :=
  ImplementedSince before after ∧ (result.status = "passed" → PassedSince before after)

theorem round_then {goal analysis : String} {result : OrchestrationResult} {round : Nat}
    {onward : OrchestrationResult → String → Act (Orchestra ω) OrchestrationResult}
    (leads : ∀ result analysis, Leads (ImplementedSince before) (onward result analysis) (Sound before)
      (ImplementedSince before)) :
    Leads (GrownSince before) (do
      match ← chief.runRound goal result round analysis with
      | .returned result => pure result
      | .again result analysis => onward result analysis) (Sound before) (ImplementedSince before) := by
  refine leads_bind (runRound_ended chief goal analysis result round) fun ended => ?_
  cases ended with
  | returned result => exact leads_pure fun _ reached => reached
  | again result analysis => exact (leads result analysis).mono (fun _ reached => reached.1) fun _ _ sound => sound

theorem runRounds_sound (goal : String) (rounds : Nat) (result : OrchestrationResult) (round : Nat) (analysis : String) :
    Leads (ImplementedSince before) (chief.runRounds goal rounds result round analysis) (Sound before)
      (ImplementedSince before) := by
  have needsUser : "needs_user" ≠ "passed" := by decide
  induction rounds generalizing result round analysis with
  | zero => exact fun _ holds => ⟨nofun, fun _ => holds⟩
  | succ rounds ih =>
      refine leads_ite (fun _ => ?_) fun _ => ?_
      · exact leads_pure fun _ holds => ⟨holds, fun passes => absurd passes needsUser⟩
      · exact (round_then chief fun result analysis => ih result (round + 1) analysis).mono
          (fun _ holds => holds.toGrownSince) fun _ _ sound => sound

theorem runRounds_implements (goal : String) (rounds : Nat) (result : OrchestrationResult) (analysis : String) :
    Leads (· = before) (chief.runRounds goal (rounds + 1) result 1 analysis) (Sound before)
      (ImplementedSince before) := by
  refine leads_ite (fun beyond => ?_) fun _ => ?_
  · simp only [Chief.isBeyondRounds, decide_eq_true_eq] at beyond
    omega
  · exact (round_then chief fun result analysis => runRounds_sound chief goal rounds result 2 analysis).mono
      (fun _ same => same ▸ ⟨le_rfl, le_rfl⟩) fun _ _ sound => sound

theorem says_iff : analysisSaysNoImplementationNeeded analysis = false ↔
    mentions analysis noImplementationMarkers = false ∧ ∀ members,
      loads analysis.toList = some (.object members) → isFlag false (members.lookup "needs_implementation") = false := by
  rw [analysisSaysNoImplementationNeeded, Bool.or_eq_false_iff, and_comm]
  refine and_congr_right fun _ => ?_
  split
  next members read => simp [read]
  next unread => exact iff_of_true rfl fun members read => absurd read (unread members)

def persuading : String := "edit a.py (no changes needed in b.py) \x7b\"needs_implementation\": true\x7d"

def persuadedChief : Chief Unit :=
  { deliveringChief with backends := { deliveringBackends with codex := fun _ _ _ => (.ok persuading, ()) } }

def Sent.isClaude : Sent → Bool
  | .claude _ => true
  | .codex .. => false

end Runs

end Wlcodex.Orchestrator
