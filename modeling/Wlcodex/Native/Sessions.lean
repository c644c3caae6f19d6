import Mathlib.Logic.Function.Basic
import Wlcodex.Native.Protocol

namespace Wlcodex.Native

open Wlcodex.Lib
open Wlcodex.Relay (Dict strip)
open Wlcodex.Codex (Builtins)
open Wlcodex.Timeline (orText)

/-! `NativeCodexSessionStore`. -/

def agentRunStatus (status : String) : String :=
  if status ∈ ["running", "active"] then "running"
  else if status ∈ ["done", "completed"] then "done"
  else if status ∈ ["failed", "error"] then "failed"
  else "queued"

def sourcePriority (sourceKind : String) : Nat :=
  let value := lowerText (strip sourceKind)
  if value = "" ∨ value = "unknown" then 0
  else if value = "codex_jsonl" then 1
  else 2

/-- A row of `native_codex_sessions`, with the status of its agent run.  Both are written together. -/
structure NativeSession where
  title : String
  cwd : String
  sourceKind : String
  status : String
  lastTurnId : String
  activityAt : String
  agentStatus : String
  linked : agentStatus = agentRunStatus status

/-- The arguments of `get_or_create_session`, with their defaults. -/
structure SessionRequest where
  title : String := ""
  cwd : String := ""
  sourceKind : String := "unknown"
  status : String := "unknown"
  lastTurnId : String := ""
  activityAt : String := ""

def getOrCreateSession (now : String) (request : SessionRequest) : Option NativeSession → NativeSession
  | none => {
      title := request.title
      cwd := request.cwd
      sourceKind := request.sourceKind
      status := request.status
      lastTurnId := request.lastTurnId
      activityAt := orText request.activityAt now
      agentStatus := agentRunStatus request.status
      linked := rfl }
  | some existing =>
      let preserveExisting := sourcePriority request.sourceKind < sourcePriority existing.sourceKind
      let pick := fun given stored : String => if preserveExisting then stored else orText given stored
      let status := pick request.status existing.status
      { title := pick request.title existing.title
        cwd := pick request.cwd existing.cwd
        sourceKind := pick request.sourceKind existing.sourceKind
        status
        lastTurnId := orText request.lastTurnId existing.lastTurnId
        activityAt := pick request.activityAt existing.activityAt
        agentStatus := agentRunStatus status
        linked := rfl }

/-- `update_session` of a turn that was sent. -/
def NativeSession.runTurn (session : NativeSession) (turnId : String) : NativeSession :=
  { session with
    status := "running", lastTurnId := turnId, agentStatus := "running", linked := by decide }

abbrev SessionStore := String → Option NativeSession

def SessionStore.upsert (store : SessionStore) (now threadId : String) (request : SessionRequest) :
    SessionStore :=
  Function.update store threadId (some (getOrCreateSession now request (store threadId)))

inductive TurnMethod where
  | turnStarted
  | turnCompleted
  deriving DecidableEq

inductive SessionStep where
  /-- `project_notification`. -/
  | notification (method : TurnMethod) (payload : Dict)
  /-- `project_approval_request`. -/
  | approvalRequest (payload : Dict)
  /-- A call by the thread's id alone: the projection of a message or of a resolved approval. -/
  | lookup (threadId : String)
  /-- `_start_new_turn`, where the client has answered. -/
  | turnSent (threadId turnId : String)

section Python

variable (builtins : Builtins)

/-- `_status_for` of a turn's notification. -/
def statusFor (method : TurnMethod) (payload : Dict) : String :=
  match method with
  | .turnStarted => "running"
  | .turnCompleted => normalizeCompletedStatus (rawStatus builtins payload)

def sessionRequest (payload : Dict) (status : String) : SessionRequest where
  title := payloadOrThread builtins payload "title" ""
  cwd := payloadOrThread builtins payload "cwd" ""
  sourceKind := payloadOrThread builtins payload "sourceKind" "unknown"
  status := status
  lastTurnId := turnId builtins payload

def sessionStep (store : SessionStore) (step : String × SessionStep) : SessionStore :=
  let now := step.1
  match step.2 with
  | .notification method payload =>
      let thread := threadId builtins payload
      if thread = "" then store
      else store.upsert now thread (sessionRequest builtins payload (statusFor builtins method payload))
  | .approvalRequest payload =>
      let thread := approvalThreadId builtins payload
      if thread = "" then store
      else store.upsert now thread (sessionRequest builtins payload "running")
  | .lookup thread => store.upsert now thread {}
  | .turnSent thread turnId =>
      let ensured := if (store thread).isSome then store else store.upsert now thread {}
      let running : SessionStore :=
        Function.update ensured thread ((ensured thread).map (·.runTurn turnId))
      running.upsert now thread {}

def turnStatus? (thread : String) : SessionStep → Option String
  | .notification method payload =>
      if threadId builtins payload = thread ∧ thread ≠ "" then some (statusFor builtins method payload)
      else none
  | .turnSent other _ => if other = thread then some "running" else none
  | .approvalRequest _ | .lookup _ => none

structure FollowsTurns (store : SessionStore) (step : String × SessionStep) : Prop where
  turn : ∀ thread status, turnStatus? builtins thread step.2 = some status →
    ∃ session, sessionStep builtins store step thread = some session ∧
      session.status = status ∧ session.agentStatus = status
  silent : ∀ thread session, turnStatus? builtins thread step.2 = none → store thread = some session →
    ∃ later, sessionStep builtins store step thread = some later ∧
      later.status = session.status ∧ later.agentStatus = session.agentStatus

def Yields (payload : Dict) (session : NativeSession) : Prop :=
  sourcePriority session.sourceKind ≤ sourcePriority (payloadOrThread builtins payload "sourceKind" "unknown")

def Followed (store : SessionStore) : SessionStep → Prop
  | .notification method payload => threadId builtins payload ≠ "" →
      statusFor builtins method payload ≠ "aborted" ∧
        ∀ session, store (threadId builtins payload) = some session →
          Yields builtins payload session ∨ session.status = statusFor builtins method payload
  | .approvalRequest payload => approvalThreadId builtins payload ≠ "" →
      ∀ session, store (approvalThreadId builtins payload) = some session →
        ¬Yields builtins payload session ∨ session.status = "running"
  | .lookup thread => ∀ session, store thread = some session →
      0 < sourcePriority session.sourceKind ∨ session.status = "unknown"
  | .turnSent thread _ => ∃ session, store thread = some session ∧ 0 < sourcePriority session.sourceKind

variable {store : SessionStore} {now thread : String} {request : SessionRequest}
  {session : NativeSession}

theorem upsert_self : store.upsert now thread request thread =
    some (getOrCreateSession now request (store thread)) := Function.update_self ..

theorem upsert_other {other : String} (apart : other ≠ thread) :
    store.upsert now thread request other = store other := Function.update_of_ne apart ..

theorem status_upsert (stated : request.status ≠ "") :
    (getOrCreateSession now request (some session)).status =
      if sourcePriority request.sourceKind < sourcePriority session.sourceKind then session.status
      else request.status := by
  unfold getOrCreateSession orText
  dsimp only
  rw [if_neg stated]

section Given

variable {given : String}

theorem status_upsert_eq_iff (asked : request.status = given) (stated : given ≠ "") :
    (getOrCreateSession now request (some session)).status = given ↔
      sourcePriority session.sourceKind ≤ sourcePriority request.sourceKind ∨ session.status = given := by
  subst asked
  rw [status_upsert stated]
  split
  next stands => exact (or_iff_right (Nat.not_le.mpr stands)).symm
  next yields => exact iff_of_true rfl (.inl (Nat.not_lt.mp yields))

theorem status_upsert_keeps_iff (asked : request.status = given) (stated : given ≠ "") :
    (getOrCreateSession now request (some session)).status = session.status ↔
      sourcePriority request.sourceKind < sourcePriority session.sourceKind ∨ session.status = given := by
  subst asked
  rw [status_upsert stated]
  split
  next stands => exact iff_of_true rfl (.inl stands)
  next yields => exact eq_comm.trans (or_iff_right yields).symm

end Given

theorem agentRunStatus_eq_iff (status : String) (word : status ∈ ["running", "failed", "aborted", "done"]) :
    agentRunStatus status = status ↔ status ≠ "aborted" := by
  simp only [List.mem_cons, List.not_mem_nil, or_false] at word
  rcases word with rfl | rfl | rfl | rfl
  all_goals decide

theorem statusFor_word (builtins : Builtins) (method : TurnMethod) (payload : Dict) :
    statusFor builtins method payload ∈ ["running", "failed", "aborted", "done"] := by
  cases method with
  | turnStarted => exact List.mem_cons_self
  | turnCompleted =>
      unfold statusFor normalizeCompletedStatus
      dsimp only
      split
      · exact List.mem_cons_self
      · split
        · simp
        · split
          · simp
          · simp

theorem same_iff {later : NativeSession} :
    later.status = session.status ∧ later.agentStatus = session.agentStatus ↔
      later.status = session.status := by
  refine and_iff_left_of_imp fun same => ?_
  rw [later.linked, session.linked, same]

theorem implied_iff {later : NativeSession} {status : String}
    (word : status ∈ ["running", "failed", "aborted", "done"]) :
    later.status = status ∧ later.agentStatus = status ↔
      later.status = status ∧ status ≠ "aborted" := by
  refine and_congr_right fun same => ?_
  rw [later.linked, same, agentRunStatus_eq_iff status word]

section Steps

variable {builtins}

theorem running_ne : "running" ≠ "" := by decide

theorem unknown_ne : "unknown" ≠ "" := by decide

theorem unknown_priority : sourcePriority "unknown" = 0 := by decide

theorem statusFor_ne (method : TurnMethod) (payload : Dict) : statusFor builtins method payload ≠ "" := by
  intro empty
  have word := statusFor_word builtins method payload
  rw [empty] at word
  exact absurd word (by decide)

theorem follows_iff_of_thread {step : String × SessionStep} (thread : String) {next : NativeSession}
    (stored : sessionStep builtins store step thread = some next)
    (others : ∀ other, other ≠ thread → sessionStep builtins store step other = store other ∧
      turnStatus? builtins other step.2 = none) :
    FollowsTurns builtins store step ↔
      (∀ status, turnStatus? builtins thread step.2 = some status →
        next.status = status ∧ next.agentStatus = status) ∧
      (turnStatus? builtins thread step.2 = none → ∀ session, store thread = some session →
        next.status = session.status ∧ next.agentStatus = session.agentStatus) := by
  constructor
  · intro follows
    refine ⟨fun status implied => ?_, fun silent session held => ?_⟩
    · obtain ⟨later, found, same⟩ := follows.turn thread status implied
      rw [stored] at found
      cases found
      exact same
    · obtain ⟨later, found, same⟩ := follows.silent thread session silent held
      rw [stored] at found
      cases found
      exact same
  · rintro ⟨implies, keeps⟩
    refine ⟨fun other status implied => ?_, fun other session silent held => ?_⟩
    · by_cases same : other = thread
      · subst same
        exact ⟨next, stored, implies status implied⟩
      · rw [(others other same).2] at implied
        cases implied
    · by_cases same : other = thread
      · subst same
        exact ⟨next, stored, keeps silent session held⟩
      · exact ⟨session, by rw [(others other same).1]; exact held, rfl, rfl⟩

theorem follows_notification_iff (method : TurnMethod) (payload : Dict) :
    FollowsTurns builtins store (now, .notification method payload) ↔
      Followed builtins store (.notification method payload) := by
  by_cases named : threadId builtins payload = ""
  · have idle : sessionStep builtins store (now, .notification method payload) = store := if_pos named
    refine iff_of_true ⟨fun thread status implied => ?_, fun thread session _ held => ?_⟩
      fun other => absurd named other
    · obtain ⟨⟨same, other⟩, -⟩ := Option.ite_none_right_eq_some.mp implied
      exact absurd (same.symm.trans named) other
    · exact ⟨session, by rw [idle]; exact held, rfl, rfl⟩
  · have stepped : sessionStep builtins store (now, .notification method payload) =
        store.upsert now (threadId builtins payload)
          (sessionRequest builtins payload (statusFor builtins method payload)) := if_neg named
    have implied : turnStatus? builtins (threadId builtins payload) (.notification method payload) =
        some (statusFor builtins method payload) := if_pos ⟨rfl, named⟩
    have word := statusFor_word builtins method payload
    have given (session : NativeSession) := @status_upsert_eq_iff now
      (sessionRequest builtins payload (statusFor builtins method payload)) session _ rfl
      (statusFor_ne method payload)
    rw [follows_iff_of_thread _ (by rw [stepped]; exact upsert_self)]
    · constructor
      · rintro ⟨implies, -⟩ -
        obtain ⟨same, other⟩ := (implied_iff word).mp (implies _ implied)
        refine ⟨other, fun session held => ?_⟩
        rw [held] at same
        exact (given session).mp same
      · intro followed
        obtain ⟨other, yields⟩ := followed named
        refine ⟨fun status same => ?_, fun silent => by rw [implied] at silent; cases silent⟩
        rw [implied] at same
        cases same
        refine (implied_iff word).mpr ⟨?_, other⟩
        cases held : store (threadId builtins payload) with
        | none => rfl
        | some session => exact (given session).mpr (yields session held)
    · intro other apart
      exact ⟨by rw [stepped, upsert_other apart], if_neg fun both => apart both.1.symm⟩

theorem follows_approvalRequest_iff (payload : Dict) :
    FollowsTurns builtins store (now, .approvalRequest payload) ↔
      Followed builtins store (.approvalRequest payload) := by
  by_cases named : approvalThreadId builtins payload = ""
  · have idle : sessionStep builtins store (now, .approvalRequest payload) = store := if_pos named
    refine iff_of_true ⟨fun thread status implied => (by cases implied), fun thread session _ held => ?_⟩
      fun other => absurd named other
    exact ⟨session, by rw [idle]; exact held, rfl, rfl⟩
  · have stepped : sessionStep builtins store (now, .approvalRequest payload) =
        store.upsert now (approvalThreadId builtins payload) (sessionRequest builtins payload "running") :=
      if_neg named
    have given (session : NativeSession) := @status_upsert_keeps_iff now
      (sessionRequest builtins payload "running") session _ rfl running_ne
    rw [follows_iff_of_thread _ (by rw [stepped]; exact upsert_self)]
    · constructor
      · rintro ⟨-, keeps⟩ - session held
        have same := (keeps rfl session held).1
        rw [held] at same
        exact ((given session).mp same).imp_left Nat.not_le.mpr
      · intro followed
        refine ⟨fun status implied => (by cases implied), fun _ session held => ?_⟩
        rw [same_iff, held]
        exact (given session).mpr
          ((followed named session held).imp_left Nat.not_le.mp)
    · intro other apart
      exact ⟨by rw [stepped, upsert_other apart], rfl⟩

theorem follows_lookup_iff :
    FollowsTurns builtins store (now, .lookup thread) ↔ Followed builtins store (.lookup thread) := by
  have stepped : sessionStep builtins store (now, .lookup thread) = store.upsert now thread {} := rfl
  rw [follows_iff_of_thread thread (by rw [stepped]; exact upsert_self)]
  · constructor
    · rintro ⟨-, keeps⟩ session held
      have same := (keeps rfl session held).1
      rw [held] at same
      exact (@status_upsert_keeps_iff now {} _ _ rfl unknown_ne).mp same
    · intro followed
      refine ⟨fun status implied => (by cases implied), fun _ session held => ?_⟩
      rw [same_iff, held]
      exact (@status_upsert_keeps_iff now {} _ _ rfl unknown_ne).mpr (followed session held)
  · intro other apart
    exact ⟨by rw [stepped, upsert_other apart], rfl⟩

theorem follows_turnSent_iff {turnId : String} :
    FollowsTurns builtins store (now, .turnSent thread turnId) ↔
      Followed builtins store (.turnSent thread turnId) := by
  obtain ⟨ensured, found, source⟩ : ∃ session : NativeSession,
      (if (store thread).isSome then store else store.upsert now thread {}) thread = some session ∧
        (0 < sourcePriority session.sourceKind ↔ Followed builtins store (.turnSent thread turnId)) := by
    cases held : store thread with
    | none =>
        refine ⟨getOrCreateSession now {} none, ?_, iff_of_false ?_ ?_⟩
        · rw [if_neg (by simp), upsert_self, held]
        · change ¬0 < sourcePriority "unknown"
          exact Nat.lt_irrefl 0
        · rintro ⟨session, found, -⟩
          rw [held] at found
          cases found
    | some session =>
        refine ⟨session, held, fun counts => ⟨session, held, counts⟩, ?_⟩
        rintro ⟨other, found, counts⟩
        rw [held] at found
        cases found
        exact counts
  have stored : sessionStep builtins store (now, .turnSent thread turnId) thread =
      some (getOrCreateSession now {} (some (ensured.runTurn turnId))) := by
    refine upsert_self.trans ?_
    rw [Function.update_self, found]
    rfl
  have implied : turnStatus? builtins thread (.turnSent thread turnId) = some "running" := if_pos rfl
  rw [follows_iff_of_thread thread stored, ← source]
  · have word : (getOrCreateSession now {} (some (ensured.runTurn turnId))).status = "running" ↔
        0 < sourcePriority ensured.sourceKind := by
      have other : ¬(ensured.runTurn turnId).status = "unknown" := by
        change ¬"running" = "unknown"
        decide
      refine (@status_upsert_keeps_iff now {} _ _ rfl unknown_ne).trans ((or_iff_left other).trans ?_)
      change sourcePriority "unknown" < sourcePriority ensured.sourceKind ↔ _
      rw [unknown_priority]
    constructor
    · rintro ⟨implies, -⟩
      exact word.mp (implies _ implied).1
    · intro counts
      refine ⟨fun status same => ?_, fun silent => by rw [implied] at silent; cases silent⟩
      rw [implied] at same
      cases same
      exact (implied_iff (by decide)).mpr ⟨word.mpr counts, by decide⟩
  · intro other apart
    refine ⟨?_, if_neg fun same => apart same.symm⟩
    refine (upsert_other apart).trans ((Function.update_of_ne apart ..).trans ?_)
    split
    · rfl
    · exact upsert_other apart

end Steps

/-- Along a run the statuses follow the turns exactly when each step is one that they follow. -/
theorem statuses_follow_turns_iff (store : SessionStore) (steps : List (String × SessionStep)) :
    Along (sessionStep builtins) (FollowsTurns builtins) store steps ↔
      Along (sessionStep builtins) (fun store step => Followed builtins store step.2) store steps := by
  refine along_congr (along_mono (fun store step _ => ?_) (along_true store steps))
  obtain ⟨now, step⟩ := step
  cases step with
  | notification method payload => exact follows_notification_iff method payload
  | approvalRequest payload => exact follows_approvalRequest_iff payload
  | lookup thread => exact follows_lookup_iff
  | turnSent thread turnId => exact follows_turnSent_iff

end Python

def doneSession : NativeSession where
  title := ""
  cwd := ""
  sourceKind := "vscode"
  status := "done"
  lastTurnId := "turn-1"
  activityAt := ""
  agentStatus := "done"
  linked := by decide

/-- A turn that starts without naming its source leaves the session done. -/
theorem unnamed_start_leaves_done :
    let step := SessionStep.notification .turnStarted
      [("threadId", .string "thread-1"), ("turnId", .string "turn-2")]
    let store : SessionStore := fun thread => if thread = "thread-1" then some doneSession else none
    turnStatus? sampleBuiltins "thread-1" step = some "running" ∧
      (sessionStep sampleBuiltins store ("now", step) "thread-1").map NativeSession.status =
        some "done" := by
  decide

end Wlcodex.Native
