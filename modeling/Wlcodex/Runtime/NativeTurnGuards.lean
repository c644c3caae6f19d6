import Wlcodex.Runtime.RetentionSteps

namespace Wlcodex.Runtime

open Wlcodex.Lib
open Wlcodex.Relay (strip)

/-! Which frames the guards of native turns keep hot. -/

namespace TurnGuards

variable {guards : TurnGuards} {turn : TurnKey}

def Covers (guards : TurnGuards) (turn : TurnKey) : Prop :=
  (turn.provider, turn.providerEngine, turn.nativeSessionId) ∈ guards.sessions ∨
    turn ∈ guards.turns

theorem Covers.addRow (covers : guards.Covers turn)
    (provider providerEngine nativeSessionId nativeTurnId : String) :
    (guards.addRow provider providerEngine nativeSessionId nativeTurnId).Covers turn := by
  unfold TurnGuards.addRow
  split
  · exact covers.imp_right (List.mem_cons_of_mem _)
  · exact covers.imp_left (List.mem_cons_of_mem _)

theorem covers_addRow_blank {nativeTurnId : String} (blank : strip nativeTurnId = "") :
    (guards.addRow turn.provider turn.providerEngine turn.nativeSessionId nativeTurnId).Covers
      turn := by
  simp [addRow, blank, Covers]

theorem covers_addRow_turn {nativeTurnId : String} (same : strip nativeTurnId = turn.nativeTurnId) :
    (guards.addRow turn.provider turn.providerEngine turn.nativeSessionId nativeTurnId).Covers
      turn := by
  unfold addRow
  split
  · rw [same]
    exact .inr List.mem_cons_self
  · exact .inl List.mem_cons_self

theorem Covers.addCodexSession (covers : guards.Covers turn)
    (observation : Option NativeTurnGuardObservation) (session : CodexSession) :
    (guards.addCodexSession observation session).Covers turn := by
  unfold TurnGuards.addCodexSession
  cases observation with
  | none => exact covers.addRow _ _ _ _
  | some observed =>
      dsimp only
      split
      · exact covers.addRow _ _ _ _
      · split
        · exact covers.addRow _ _ _ _
        · split
          · exact covers
          · exact covers.addRow _ _ _ _

theorem covers_foldl {observation : Option NativeTurnGuardObservation} {session : CodexSession}
    {sessions : List CodexSession} (listed : session ∈ sessions)
    (covers : ∀ guards : TurnGuards, (guards.addCodexSession observation session).Covers turn)
    (guards : TurnGuards) :
    (sessions.foldl (TurnGuards.addCodexSession observation) guards).Covers turn := by
  have kept : ∀ (rest : List CodexSession) (guards : TurnGuards), guards.Covers turn →
      (rest.foldl (TurnGuards.addCodexSession observation) guards).Covers turn := by
    intro rest
    induction rest with
    | nil => exact fun _ covered => covered
    | cons next rest ih =>
        exact fun guards covered => ih _ (covered.addCodexSession observation next)
  induction sessions generalizing guards with
  | nil => cases listed
  | cons next rest ih =>
      rcases List.mem_cons.mp listed with rfl | later
      · exact kept rest _ (covers guards)
      · exact ih later (guards.addCodexSession observation next)

end TurnGuards

namespace NativeTurnGuardObservation

def OpenTurn (observed : NativeTurnGuardObservation) (turn : TurnKey) : Prop :=
  observed.allCodexSessionsUnverified ∨
    turn.nativeSessionId ∈ observed.unverifiedCodexSessions ∨
    ∃ activeTurnId, (turn.nativeSessionId, activeTurnId) ∈ observed.activeCodexTurns ∧
      (strip activeTurnId = "" ∨ activeTurnId = turn.nativeTurnId)

def Plain (observed : NativeTurnGuardObservation) (nativeSessionId : String) : Prop :=
  ∀ activeTurnId, (nativeSessionId, activeTurnId) ∈ observed.activeCodexTurns →
    TurnGuards.lookupLast observed.activeCodexTurns nativeSessionId = some activeTurnId ∧
      (strip activeTurnId = "" ∨ strip activeTurnId = activeTurnId)

end NativeTurnGuardObservation

namespace GuardTables

variable {tables : GuardTables} {observed : NativeTurnGuardObservation} {row : RawFrameRow}

/-- The sessions that `observe_native_turns_for_retention` asks the provider
about. -/
def observedCodexSessions (tables : GuardTables) : List String :=
  (tables.maintenance.codexSessions.filter fun session =>
    sqlLower session.status ∈ activeNativeSessionStatuses ∧
      sqlTrim session.nativeThreadId ≠ "").map CodexSession.nativeThreadId

def LiveSession (tables : GuardTables) (nativeThreadId : String) : Prop :=
  nativeThreadId ∈ tables.maintenance.nativeTurnProbeCandidates ∨
    nativeThreadId ∈ tables.observedCodexSessions

def OpenFrame (tables : GuardTables) (observed : NativeTurnGuardObservation)
    (row : RawFrameRow) : Prop :=
  row.turn.provider = "codex" ∧ row.turn.providerEngine = "app-server" ∧
    tables.LiveSession row.turn.nativeSessionId ∧ observed.OpenTurn row.turn

def GuardsSee (tables : GuardTables) (observed : NativeTurnGuardObservation) : Prop :=
  ∀ row, tables.OpenFrame observed row →
    (∃ session ∈ tables.maintenance.codexSessions,
      session.nativeThreadId = row.turn.nativeSessionId ∧
        session.status ∈ activeNativeSessionStatuses) ∧
      observed.Plain row.turn.nativeSessionId

theorem activeFrame_of_covers {observation : Option NativeTurnGuardObservation}
    (covers : (tables.activeNativeTurnGuards observation).Covers row.turn) :
    tables.ActiveFrame observation row := .inr covers

theorem covers_addCodexSession {turn : TurnKey} {session : CodexSession}
    (codex : turn.provider = "codex") (engine : turn.providerEngine = "app-server")
    (same : session.nativeThreadId = turn.nativeSessionId) (isOpen : observed.OpenTurn turn)
    (plain : observed.Plain turn.nativeSessionId) (guards : TurnGuards) :
    (guards.addCodexSession (some observed) session).Covers turn := by
  simp only [TurnGuards.addCodexSession, same, ← codex, ← engine]
  split
  · exact TurnGuards.covers_addRow_blank (by decide)
  next verified =>
    rcases isOpen with all | unverified | ⟨activeTurnId, listed, named⟩
    · exact absurd (.inl all) verified
    · exact absurd (.inr unverified) verified
    · obtain ⟨read, clean⟩ := plain activeTurnId listed
      rw [read]
      rcases named with blank | this
      · exact TurnGuards.covers_addRow_blank blank
      · rcases clean with blank | clean
        · exact TurnGuards.covers_addRow_blank blank
        · exact TurnGuards.covers_addRow_turn (clean.trans this)

theorem activeFrame_of_openFrame (sees : tables.GuardsSee observed)
    (isOpen : tables.OpenFrame observed row) : tables.ActiveFrame (some observed) row := by
  obtain ⟨⟨session, stored, same, active⟩, plain⟩ := sees row isOpen
  obtain ⟨codex, engine, _, turn⟩ := isOpen
  refine activeFrame_of_covers (TurnGuards.covers_foldl (?_ : session ∈ _) ?_ _)
  · exact List.mem_filter.mpr ⟨stored, by simpa using active⟩
  · exact covers_addCodexSession codex engine same turn plain

end GuardTables

def Worker.observation? : Worker → Option NativeTurnGuardObservation
  | .sealed context _ _ => context.observation
  | _ => none

namespace Retention

variable {words : WordClass} {sha256 : List Char → String} {lifetime : Nat} {state : Retention}

theorem leaves_advance (held : state.Held) {ok : Bool} {row : RawFrameRow}
    (hot : row ∈ state.frames.frames) (gone : row ∉ (state.advance sha256 ok).frames.frames) :
    ∃ context batch manifest, state.worker = .sealed context batch manifest ∧
      ¬ state.tables.ActiveFrame context.observation row := by
  cases worker : state.worker with
  | idle | running => simp only [advance, worker] at gone; exact absurd hot gone
  | batched context batch =>
      simp only [advance, worker, ensureArchive] at gone
      split at gone <;> split at gone <;> exact absurd hot gone
  | archived context batch =>
      simp only [advance, worker, ensureManifest] at gone
      split at gone <;> split at gone <;> exact absurd hot gone
  | sealed context batch manifest =>
      refine ⟨context, batch, manifest, rfl, ?_⟩
      simp only [advance, worker, moveBatch] at gone
      split at gone
      · exact absurd hot gone
      · split at gone
        · exact absurd hot gone
        next unguarded =>
          split at gone
          · exact absurd hot gone
          next moved =>
            have taken : row.id ∈ batch.rows.map RawFrameRow.id := by
              by_contra left
              exact gone ((FrameStore.mem_archived moved row).mpr ⟨hot, left⟩)
            obtain ⟨own, inside, same⟩ := List.mem_map.mp taken
            have batchHot : own ∈ state.frames.frames :=
              held.hot batch (by rw [worker]; rfl) own inside
            have eq : own = row := state.frames.frames.eq_of_key batchHot hot same
            exact fun active => unguarded ⟨row, eq ▸ inside, active⟩
  | purging context targets =>
      cases targets with
      | nil => simp only [advance, worker] at gone; exact absurd hot gone
      | cons target targets =>
          simp only [advance, worker] at gone
          split at gone <;> exact absurd hot gone
  | tombstoned | unlinked =>
      simp only [advance, worker] at gone
      split at gone <;> exact absurd hot gone
  | cleared context target failed targets =>
      simp only [advance, worker] at gone
      split at gone
      · exact absurd hot gone
      · split at gone <;> exact absurd hot gone

variable {event : RetentionEvent}

theorem leaves_step (held : state.Held) {row : RawFrameRow}
    (hot : row ∈ state.frames.frames) (gone : row ∉ (state.step words sha256 lifetime event).frames.frames) :
    ∃ context batch manifest, state.worker = .sealed context batch manifest ∧
      ¬ state.tables.ActiveFrame context.observation row := by
  cases event with
  | record | append =>
      exact absurd ((FrameStore.mem_appendProviderRawFrame held.fresh _ row).mpr (.inr hot)) gone
  | update | elapse | install | crash => exact absurd hot gone
  | begin | batch =>
      simp only [step] at gone
      split at gone <;> exact absurd hot gone
  | purge =>
      simp only [step] at gone
      split at gone
      · split at gone <;> exact absurd hot gone
      · exact absurd hot gone
  | advance ok => exact leaves_advance held hot gone

variable (words sha256 lifetime)

def GuardedMove (state : Retention) (_event : RetentionEvent) : Prop :=
  ∀ observed ∈ state.worker.observation?, state.tables.GuardsSee observed

def SparesOpenFrames (state : Retention) (event : RetentionEvent) : Prop :=
  ∀ row ∈ state.frames.frames, row ∉ (state.step words sha256 lifetime event).frames.frames →
    ∀ observed ∈ state.worker.observation?, ¬ state.tables.OpenFrame observed row

variable {words sha256 lifetime} in
theorem sparesOpenFrames_of_guarded (held : state.Held) (guarded : state.GuardedMove event) :
    SparesOpenFrames words sha256 lifetime state event := by
  intro row hot gone observed observation isOpen
  obtain ⟨context, batch, manifest, worker, inactive⟩ := leaves_step held hot gone
  have sees := guarded observed observation
  rw [worker] at observation
  have same : context.observation = some observed := observation
  rw [same] at inactive
  exact inactive (GuardTables.activeFrame_of_openFrame sees isOpen)

/-- In every run whose transactions find the live sessions in lower case and the
turns named plainly, no frame of an open turn is archived. -/
theorem open_frames_stay_hot (events : List RetentionEvent)
    (guarded : Along (step words sha256 lifetime) GuardedMove initial events) :
    Along (step words sha256 lifetime) (SparesOpenFrames words sha256 lifetime) initial events :=
  along_of_invariant (fun _ event held _ => held.step event)
    (fun _ _ held guarded => sparesOpenFrames_of_guarded held guarded) held_initial guarded

/-! ### A session that is stored as `Running` -/

def runningFrame : FrameInput :=
  { turn := ⟨"codex", "app-server", "s", "t"⟩, sequence := 1, rawKind := "event"
    rawPayload := ⟨[], Json.wellKeyed_empty⟩, occurredAt := "2024-01-01T00:00:00+00:00", agentRunId := some 7 }

def runningDigest (text : List Char) : String :=
  if text = "\x7b\x7d".toList then
    "44136fa355b3678a1146ad16f7e8649e94fb4fc21fe77e8310c060f61caaff8a"
  else
    "fbea23966da922bc971186beb49d878fda34901907f347d34002fb50da917b56"

/-- The run of the session follows its status, and `_agent_run_status` knows lower
case only. -/
def runningTables (status runStatus : String) : GuardTables :=
  { agentRuns := [⟨7, runStatus, "codex_native"⟩]
    maintenance := { codexSessions := [⟨"s", status, "t"⟩] } }

def unverifiedSession : NativeTurnGuardObservation := { unverifiedCodexSessions := ["s"] }

def runningEvents (tables : GuardTables) : List RetentionEvent :=
  [.install, .append runningFrame, .begin false (some unverifiedSession), .batch [1] "2024-01-01",
    .update tables, .advance true, .advance true]

theorem guardedMove_of_unsealed (unsealed : state.worker.observation? = none) :
    state.GuardedMove event := by
  intro observed observation
  rw [unsealed] at observation
  cases observation

theorem guardsSee_running : (runningTables "running" "running").GuardsSee unverifiedSession := by
  intro row isOpen
  obtain ⟨_, _, live, _⟩ := isOpen
  have same : row.turn.nativeSessionId = "s" := by
    rcases live with candidate | observed
    · exact List.mem_singleton.mp
        (show row.turn.nativeSessionId ∈ ["s"] from candidate)
    · exact List.mem_singleton.mp
        (show row.turn.nativeSessionId ∈ ["s"] from observed)
  rw [same]
  exact ⟨⟨⟨"s", "running", "t"⟩, List.mem_cons_self, rfl, by decide⟩, fun _ listed => by cases listed⟩

theorem open_frames_stay_hot_when_running :
    Along (step plainWords runningDigest 5) (SparesOpenFrames plainWords runningDigest 5) initial
      (runningEvents (runningTables "running" "running") ++ [.advance true]) := by
  refine open_frames_stay_hot plainWords runningDigest 5 _ ((along_append _ _ _).mpr ⟨?_, ?_⟩)
  · refine ⟨?_, ?_, ?_, ?_, ?_, ?_, ?_, trivial⟩
    all_goals exact guardedMove_of_unsealed (by decide +kernel)
  · refine ⟨fun observed observation => ?_, trivial⟩
    have found : some unverifiedSession = some observed := observation
    cases found
    exact guardsSee_running

/-- The observer found the turn unverified and the session is live, yet its frame is
archived. -/
theorem open_frame_archived :
    let state := after plainWords runningDigest 5 (runningEvents (runningTables "Running" "queued"))
    let row := FrameStore.newFrame plainWords 1 runningFrame
    state.worker.observation? = some unverifiedSession ∧
      state.tables.OpenFrame unverifiedSession row ∧ row ∈ state.frames.frames ∧
      row ∉ (state.step plainWords runningDigest 5 (.advance true)).frames.frames := by
  refine ⟨by decide +kernel, ⟨rfl, rfl, .inr ?_, .inr (.inl ?_)⟩, ?_, ?_⟩
  · decide +kernel
  · decide +kernel
  · show _ ∈ Keyed.rows _
    decide +kernel
  · show _ ∉ Keyed.rows _
    decide +kernel

end Retention

end Wlcodex.Runtime
