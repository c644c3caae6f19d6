import Wlcodex.Runtime.Maintenance

namespace Wlcodex.Runtime

open Wlcodex.Relay (strip)

/-! `maintenance-probe-native`. -/

structure TurnReading where
  status : String
  turnId : String

/-- What a successful `read_session` shows: `_active_turn_id`, the turn that
`_latest_turn` picks, and the status of the thread. -/
structure SessionReading where
  activeTurnId : String
  currentTurn : Option TurnReading
  threadStatus : String

def waitingTurnStatuses : List String :=
  ["waiting_user", "waitinguser", "waiting_approval", "waitingapproval", "waitingonapproval",
    "waiting_on_approval"]

def terminalTurnStatuses : List String :=
  ["completed", "complete", "done", "failed", "error", "cancelled", "canceled", "interrupted",
    "aborted", "idle", "notloaded", "not_loaded"]

/-- `str(value or "").strip().lower()`; the statuses are compared with ASCII words only. -/
def cleanStatus (text : String) : String := sqlLower (strip text)

namespace SessionReading

def observedTurnStatus (reading : SessionReading) : String :=
  (reading.currentTurn.map fun turn => cleanStatus turn.status).getD ""

def nativeTurnId (reading : SessionReading) : String :=
  if reading.activeTurnId = "" ∧ reading.observedTurnStatus ∈ waitingTurnStatuses then
    strip ((reading.currentTurn.map TurnReading.turnId).getD "")
  else reading.activeTurnId

def observedStatus (reading : SessionReading) : String :=
  if reading.observedTurnStatus = "" then cleanStatus reading.threadStatus
  else reading.observedTurnStatus

def verdict (reading : SessionReading) : ProbeVerdict :=
  if reading.nativeTurnId ≠ "" then .active
  else if reading.observedStatus ∈ terminalTurnStatuses then .terminal
  else .unknown

end SessionReading

/-- The verdict of one read; `none` is a read that failed. -/
def probeVerdict : Option SessionReading → ProbeVerdict
  | none => .unknown
  | some reading => reading.verdict

def probedTurnId : Option SessionReading → String
  | none => ""
  | some reading => reading.nativeTurnId

namespace MaintenanceDb

def recordNativeTurnProbes (db : MaintenanceDb) (openedAt : String)
    (readSession : String → Option SessionReading) (candidates : List String) : MaintenanceDb :=
  candidates.foldl (fun db threadId =>
    db.recordNativeTurnProbe openedAt threadId (probedTurnId (readSession threadId))
      (probeVerdict (readSession threadId))) db

/-- `_probe_native_turns`; `none` when it raises.  Without a connection every read fails. -/
def probeNativeTurns (db : MaintenanceDb) (readSession : String → Option SessionReading) :
    Option MaintenanceDb :=
  if db.window.submissionsFrozen ∧ db.window.openedAt ≠ "" then
    some (db.recordNativeTurnProbes db.window.openedAt readSession db.nativeTurnProbeCandidates)
  else none

section Record

variable {db : MaintenanceDb} {openedAt : String}

theorem verdict?_recordNativeTurnProbe (threadId turnId : String) (verdict : ProbeVerdict)
    (candidate : String) :
    (db.recordNativeTurnProbe openedAt threadId turnId verdict).verdict? openedAt candidate =
      if strip threadId = candidate then some verdict else db.verdict? openedAt candidate := by
  unfold verdict? recordNativeTurnProbe
  by_cases same : strip threadId = candidate
  · simp [same]
  · rw [if_neg same]
    rw [List.find?_cons_of_neg (by simp [same]), List.find?_filter]
    congr 2
    funext probe
    by_cases found : probe.nativeThreadId = candidate
    · simp [found, Ne.symm same]
    · simp [found]

theorem verdict?_recordNativeTurnProbes {readSession : String → Option SessionReading}
    (terminal : ∀ threadId, probeVerdict (readSession threadId) = .terminal)
    (candidates : List String) (candidate : String) :
    (db.recordNativeTurnProbes openedAt readSession candidates).verdict? openedAt candidate =
        some .terminal ↔
      (∃ threadId ∈ candidates, strip threadId = candidate) ∨
        db.verdict? openedAt candidate = some .terminal := by
  unfold recordNativeTurnProbes
  induction candidates generalizing db with
  | nil => simp
  | cons threadId rest ih =>
      rw [List.foldl_cons, ih, verdict?_recordNativeTurnProbe, terminal]
      by_cases same : strip threadId = candidate
      · simp [same]
      · simp [same]

end Record

theorem mem_nativeTurnProbeCandidates {db : MaintenanceDb} {threadId : String} :
    threadId ∈ db.nativeTurnProbeCandidates ↔
      (∃ session ∈ db.codexSessions, sqlLower session.status ∈ nativeTurnCandidateStatuses ∧
        session.nativeThreadId = threadId) ∧ strip threadId ≠ "" := by
  unfold nativeTurnProbeCandidates
  simp only [List.mem_filter, List.mem_map, decide_eq_true_eq, and_assoc]

theorem openedAt_beginMaintenanceWindow (db : MaintenanceDb) {now : String} (dated : now ≠ "") :
    (db.beginMaintenanceWindow now).window.openedAt ≠ "" := by
  unfold beginMaintenanceWindow
  split
  · rename_i open_
    exact open_.2
  · exact dated

/-- The pass after a window opened, whatever the live sessions and the probes are by then,
leaves every captured candidate with a terminal verdict exactly when each of them is, to the
letter, the trimmed id of a session that still looks live, or had its verdict before. -/
theorem probe_pass_clears_window_iff (db : MaintenanceDb) {now : String} (dated : now ≠ "")
    (sessions : List CodexSession) (probes : List TurnProbe) {readSession : String → Option SessionReading}
    (terminal : ∀ threadId, probeVerdict (readSession threadId) = .terminal) :
    let opened := db.beginMaintenanceWindow now
    let later : MaintenanceDb := { opened with codexSessions := sessions, probes := probes }
    (∃ after, later.probeNativeTurns readSession = some after ∧
        ∀ candidate ∈ opened.windowCandidates opened.window.openedAt,
          after.verdict? opened.window.openedAt candidate = some .terminal) ↔
      ∀ candidate ∈ opened.windowCandidates opened.window.openedAt,
        (∃ session ∈ sessions, sqlLower session.status ∈ nativeTurnCandidateStatuses ∧
          strip session.nativeThreadId = candidate) ∨
        later.verdict? opened.window.openedAt candidate = some .terminal := by
  intro opened later
  have isOpen : later.window.submissionsFrozen ∧ later.window.openedAt ≠ "" :=
    ⟨rfl, db.openedAt_beginMaintenanceWindow dated⟩
  have ran : later.probeNativeTurns readSession =
      some (later.recordNativeTurnProbes opened.window.openedAt readSession
        later.nativeTurnProbeCandidates) := if_pos isOpen
  rw [ran]
  simp only [Option.some.injEq, exists_eq_left', verdict?_recordNativeTurnProbes terminal,
    mem_nativeTurnProbeCandidates]
  refine forall₂_congr fun candidate member => or_congr_left ?_
  have shown_ : strip candidate ≠ "" := by
    simpa using (List.mem_filter.mp member).2
  constructor
  · rintro ⟨_, ⟨⟨session, stored, live, rfl⟩, _⟩, trimmed⟩
    exact ⟨session, stored, live, trimmed⟩
  · rintro ⟨session, stored, live, trimmed⟩
    refine ⟨_, ⟨⟨session, stored, live, rfl⟩, ?_⟩, trimmed⟩
    intro blank
    rw [← trimmed, blank] at shown_
    exact shown_ (by decide)

def completedReading (_ : String) : Option SessionReading :=
  some ⟨"", some ⟨"completed", "turn-1"⟩, "idle"⟩

def runningSession : CodexSession := ⟨"thread-1", "running", "turn-1"⟩

theorem probe_pass_clears_window_running :
    ∃ after, (({ codexSessions := [runningSession] } : MaintenanceDb).beginMaintenanceWindow
        "t0").probeNativeTurns completedReading = some after ∧
      ∀ candidate ∈ ["thread-1"], after.verdict? "t0" candidate = some .terminal := by
  have terminal : ∀ threadId, probeVerdict (completedReading threadId) = .terminal := fun _ =>
    (by decide : probeVerdict (completedReading "") = .terminal)
  exact (probe_pass_clears_window_iff { codexSessions := [runningSession] } (by decide : "t0" ≠ "")
    [runningSession] [] terminal).mpr (by decide)

/-- The session goes idle between the freeze and the probe: the pass reads nothing, and
the window waits for the candidate forever. -/
theorem idle_candidate_stays_pending :
    let opened := ({ codexSessions := [runningSession] } : MaintenanceDb).beginMaintenanceWindow "t0"
    let later : MaintenanceDb :=
      { opened with codexSessions := [{ runningSession with status := "idle" }] }
    opened.windowCandidates "t0" = ["thread-1"] ∧
      ∀ after ∈ later.probeNativeTurns completedReading,
        after.verdict? "t0" "thread-1" = none ∧ ¬ after.Ready := by
  decide +kernel

end MaintenanceDb

end Wlcodex.Runtime
