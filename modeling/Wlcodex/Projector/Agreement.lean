import Mathlib.Data.List.Induction
import Wlcodex.Projector.Effects
import Wlcodex.State.Passed

namespace Wlcodex.Projector

open Wlcodex.Lib
open Wlcodex.State

/-! The projected status of a run beside its replayed one. -/

variable {builtins : Builtins} {lower : String → String}

structure OfRun (number : Int) (aggregateId : String) (event : RuntimeEvent) : Prop where
  number : event.orchestrationRunId = some number
  key : ∀ kind, event.eventType = .run kind → event.aggregateId = aggregateId

def statusRow : RunStatus → List (Option RunRowStatus)
  | .queued => [none, some .running]
  | .running => [some .running]
  | .needsUser => [some .needsUser]
  | .completed => [some .passed]
  | .failed => [some .failed]
  | .cancelled => [some .aborted]

structure SameStatus (row : Option RunRowStatus) (status : RunStatus) : Prop where
  passed : row = some .passed ↔ status = .completed
  failed : row = some .failed ↔ status = .failed
  aborted : row = some .aborted ↔ status = .cancelled
  needsUser : row = some .needsUser ↔ status = .needsUser

variable {event : RuntimeEvent} {row : Option RunRow} {kind : RunEvent} {snapshot next : Snapshot}
  {earlier later : List RuntimeEvent} {status : RunStatus} {number : Int} {aggregateId : String}
  {pass : Bool}

theorem sameStatus_of_mem {row : Option RunRowStatus}
    (same : row ∈ statusRow status) : SameStatus row status := by
  cases status with
  | queued =>
      simp only [statusRow, List.mem_cons, List.not_mem_nil, or_false] at same
      rcases same with rfl | rfl
      · exact ⟨by simp, by simp, by simp, by simp⟩
      · exact ⟨by simp, by simp, by simp, by simp⟩
  | running | needsUser | completed | failed | cancelled =>
      cases List.mem_singleton.mp same
      exact ⟨by simp, by simp, by simp, by simp⟩

def statusAfter (kind : RunEvent) (run : OrchestrationState) : RunStatus :=
  match kind with
  | .requested => .queued
  | .started => .running
  | .phaseChanged | .cancelRequested => run.status
  | .completed => if run.lastVerificationResult ≠ "pass" then .failed else .completed
  | .failed => .failed
  | .recoveryRequired => .needsUser
  | .cancelled => .cancelled

theorem status_of_take {run next : OrchestrationState}
    (taken : run.take builtins event kind = some next) : next.status = statusAfter kind run := by
  unfold OrchestrationState.take at taken
  cases kind with
  | requested | phaseChanged =>
      obtain ⟨number, -, made⟩ := Option.bind_eq_some_iff.mp taken
      cases made
      rfl
  | completed =>
      dsimp only at taken
      split at taken
      next fails =>
        cases taken
        exact (if_pos fails).symm
      next passes =>
        cases taken
        exact (if_neg passes).symm
  | started | failed | recoveryRequired | cancelled | cancelRequested =>
      cases taken
      rfl

theorem runAt_of_apply
    (type : event.eventType = .run kind) (applied : applyEvent builtins snapshot event = some next) :
    (runAt event.aggregateId next.orchestrations).status =
      if (runAt event.aggregateId snapshot.orchestrations).refuses kind then
        (runAt event.aggregateId snapshot.orchestrations).status
      else statusAfter kind (runAt event.aggregateId snapshot.orchestrations) := by
  cases refuses : (runAt event.aggregateId snapshot.orchestrations).refuses kind with
  | true =>
      simp only [applyEvent, type, applyOrchestrationEvent, refuses, if_true] at applied
      cases applied
      rfl
  | false =>
      obtain ⟨run, taken, found⟩ := find?_key_upsert
        (fun _ _ taken => (OrchestrationState.taken_of_take taken).key) (by rfl)
        (upsert_of_apply type refuses applied)
      have here : runAt event.aggregateId next.orchestrations = run := by
        rw [runAt, found, Option.getD_some]
      rw [here]
      exact status_of_take taken

theorem status_of_other
    (sound : RunsSound snapshot.orchestrations) (other : ∀ kind, event.eventType ≠ .run kind)
    (applied : applyEvent builtins snapshot event = some next) :
    (runAt aggregateId next.orchestrations).status =
      (runAt aggregateId snapshot.orchestrations).status := by
  have step := runStep_of_runsStep sound.unique (runsStep_of_apply applied) aggregateId
  generalize runAt aggregateId next.orchestrations = after at step ⊢
  cases step with
  | same undecided => rfl
  | taken kind type named accepts done => exact absurd type (other kind)
  | verified kind type named found key done => exact (OrchestrationState.verified_of_verify done).status

def isDecision (event : RuntimeEvent) : Bool :=
  event.eventType = .verification .decisionRecorded

def readsPass (builtins : Builtins) (event : RuntimeEvent) : Bool :=
  isDecision event && builtins.textField event.payload "decision" "" = "pass"

def isSecurity (event : RuntimeEvent) : Bool := event.eventType ∈ securityEvents

def latestPasses (earlier : List RuntimeEvent) : Bool :=
  ((earlier.filter isDecision).getLast?).any fun event => recordsPass event.payload

def Coherent (builtins : Builtins) (earlier : List RuntimeEvent) (run : OrchestrationState) (event : RuntimeEvent) :
    Prop :=
  (event.eventType = .run .completed →
    run.lastVerificationResult = "pass" ∧ latestPasses earlier = true ∧
        earlier.any isSecurity = false ∨
      run.lastVerificationResult ≠ "pass" ∧
        (earlier.any (readsPass builtins) = false ∨ earlier.any isSecurity = true)) ∧
  (event.eventType = .run .requested → run.status ≠ .needsUser)

theorem readsPass_of_recordsPass (decision : isDecision event = true)
    (records : recordsPass event.payload = true) : readsPass builtins event = true := by
  unfold recordsPass at records
  unfold readsPass Builtins.textField
  rw [decision, Bool.true_and, decide_eq_true_eq]
  cases found : event.payload.lookup "decision" with
  | none =>
      rw [found] at records
      cases records
  | some value =>
      rw [found] at records
      cases value with
      | string text => simpa [Wlcodex.Relay.str] using records
      | null | bool value | int value | float literal | nan | infinity negative | array items
      | object members => cases records

theorem any_earlier {test : RuntimeEvent → Bool}
    (numbered : (earlier ++ event :: later).Pairwise fun first second => first.id < second.id)
    (positive : 0 < event.id)
    (own : ∀ other ∈ earlier ++ event :: later, other.orchestrationRunId = some number)
    (untested : test event = false) :
    ((earlier ++ event :: later).filter fun other =>
        event.id ≠ 0 ∧ other.orchestrationRunId = event.orchestrationRunId ∧ other.id ≤ event.id).any
      test = earlier.any test := by
  have mine := own event (by simp)
  obtain ⟨-, after, before⟩ := List.pairwise_append.mp numbered
  rw [List.pairwise_cons] at after
  rw [Bool.eq_iff_iff, List.any_eq_true, List.any_eq_true]
  constructor
  · rintro ⟨other, member, tested⟩
    obtain ⟨member, found⟩ := List.mem_filter.mp member
    rw [decide_eq_true_eq] at found
    rcases List.mem_append.mp member with inside | behind
    · exact ⟨other, inside, tested⟩
    · rcases List.mem_cons.mp behind with rfl | behind
      · rw [untested] at tested
        cases tested
      · exact absurd found.2.2 (Nat.not_le_of_lt (after.1 other behind))
  · rintro ⟨other, member, tested⟩
    refine ⟨other, List.mem_filter.mpr ⟨List.mem_append_left _ member, ?_⟩, tested⟩
    rw [decide_eq_true_eq]
    exact ⟨by omega, (own other (by simp [member])).trans mine.symm,
      Nat.le_of_lt (before other member event List.mem_cons_self)⟩

theorem hasPass_iff {row : RunRow} {run : OrchestrationState}
    (numbered : (earlier ++ event :: later).Pairwise fun first second => first.id < second.id)
    (positive : 0 < event.id)
    (own : ∀ other ∈ earlier ++ event :: later, other.orchestrationRunId = some number)
    (type : event.eventType = .run .completed)
    (reads : row.lastVerificationResult = "pass" → earlier.any (readsPass builtins) = true)
    (coherent : Coherent builtins earlier run event) :
    hasPassVerification (earlier ++ event :: later) event (some row) = true ↔
      run.lastVerificationResult = "pass" := by
  have named : event.orchestrationRunId ≠ none := by
    rw [own event (by simp)]
    exact Option.some_ne_none number
  unfold hasPassVerification
  rw [if_neg named]
  have security : _ = earlier.any fun other => decide (other.eventType ∈ securityEvents) :=
    any_earlier numbered positive own (by simp [type, securityEvents])
  have decisions : _ = earlier.any fun other =>
      decide (other.eventType = .verification .decisionRecorded) && recordsPass other.payload :=
    any_earlier numbered positive own (by simp [type])
  rw [security, decisions]
  rcases coherent.1 type with ⟨pass, latest, secure⟩ | ⟨fails, none⟩
  · have recorded : (earlier.any fun other =>
        decide (other.eventType = .verification .decisionRecorded) && recordsPass other.payload) = true := by
      unfold latestPasses at latest
      cases last : (earlier.filter isDecision).getLast? with
      | none =>
          rw [last] at latest
          cases latest
      | some decision =>
          rw [last] at latest
          obtain ⟨member, decides⟩ := List.mem_filter.mp (List.mem_of_getLast? last)
          exact List.any_eq_true.mpr ⟨decision, member, Bool.and_eq_true_iff.mpr ⟨decides, latest⟩⟩
    change (earlier.any fun other => decide (other.eventType ∈ securityEvents)) = false at secure
    rw [secure, if_neg Bool.false_ne_true, recorded, Bool.or_true]
    exact iff_of_true rfl pass
  · refine iff_of_false ?_ fails
    cases insecure : earlier.any fun other => decide (other.eventType ∈ securityEvents) with
    | true => simp
    | false =>
        have unread : earlier.any (readsPass builtins) = false := by
          rcases none with unread | secure
          · exact unread
          · change (earlier.any fun other => decide (other.eventType ∈ securityEvents)) = true at secure
            rw [insecure] at secure
            cases secure
        rw [if_neg Bool.false_ne_true, Option.any_some, Bool.or_eq_true, not_or]
        constructor
        · intro held
          rw [reads (of_decide_eq_true held)] at unread
          cases unread
        · intro recorded
          obtain ⟨decision, member, both⟩ := List.any_eq_true.mp recorded
          obtain ⟨decides, records⟩ := Bool.and_eq_true_iff.mp both
          have read : earlier.any (readsPass builtins) = true :=
            List.any_eq_true.mpr ⟨decision, member, readsPass_of_recordsPass decides records⟩
          rw [read] at unread
          cases unread

def rowStatusAfter (kind : RunEvent) (pass : Bool) (status : RunRowStatus) : RunRowStatus :=
  match kind with
  | .requested | .phaseChanged | .cancelRequested => status
  | .started => .running
  | .completed => if pass then .passed else .failed
  | .failed => .failed
  | .recoveryRequired => .needsUser
  | .cancelled => .aborted

theorem RunRow.write_status {row next : RunRow} (written : row.write builtins event kind pass = some next) :
    next.status = rowStatusAfter kind pass row.status := by
  cases kind with
  | requested | phaseChanged =>
      obtain ⟨number, -, rfl⟩ := Option.map_eq_some_iff.mp written
      rfl
  | completed =>
      cases written
      cases pass with
      | true | false => rfl
  | started | failed | recoveryRequired | cancelled | cancelRequested =>
      cases written
      rfl

theorem RunRow.write_result {row next : RunRow} (written : row.write builtins event kind pass = some next)
    (reads : next.lastVerificationResult = "pass") : row.lastVerificationResult = "pass" := by
  cases kind with
  | requested | phaseChanged =>
      obtain ⟨number, -, rfl⟩ := Option.map_eq_some_iff.mp written
      exact reads
  | completed =>
      cases written
      cases pass with
      | true => exact reads
      | false => exact absurd reads (by simp)
  | started | failed | recoveryRequired | cancelled | cancelRequested =>
      cases written
      exact reads

theorem kind_of_unreadable {row : RunRow}
    (raises : row.write builtins event kind pass = none) (status : RunRowStatus) :
    rowStatusAfter kind pass status = status := by
  cases kind with
  | requested | phaseChanged => rfl
  | started | completed | failed | recoveryRequired | cancelled | cancelRequested => cases raises

theorem projectRunRow_of_open (builtins : Builtins) (log : List RuntimeEvent) (event : RuntimeEvent) (opened : closedTo kind row = false) :
    let held := upsertOrchestrationRun builtins event row
    ∃ next, (projectRunRow builtins log event kind row).1 = some next ∧
      next.status = rowStatusAfter kind (hasPassVerification log event (some held)) held.status ∧
      (next.lastVerificationResult = "pass" → held.lastVerificationResult = "pass") := by
  unfold closedTo at opened
  unfold projectRunRow
  rw [if_neg (by simp [opened])]
  dsimp only
  split
  next next written => exact ⟨next, rfl, RunRow.write_status written, RunRow.write_result written⟩
  next raises => exact ⟨_, rfl, (kind_of_unreadable raises _).symm, fun reads => reads⟩

/-- The row goes with the replayed run, and reads a pass only after one was recorded. -/
structure Follows (builtins : Builtins) (earlier : List RuntimeEvent) (row : Option RunRow)
    (run : OrchestrationState) : Prop where
  status : row.map RunRow.status ∈ statusRow run.status
  reads : row.any (fun held => held.lastVerificationResult = "pass") = true →
    earlier.any (readsPass builtins) = true

theorem terminal_of_status
    (same : row.map RunRow.status ∈ statusRow status) : row.any RunRow.isTerminal = status.isTerminal := by
  cases row with
  | none =>
      cases status with
      | queued => rfl
      | running | needsUser | completed | failed | cancelled =>
          cases List.mem_singleton.mp same
  | some held =>
      change held.status.isTerminal = status.isTerminal
      cases status with
      | queued =>
          have running : held.status = .running := by simpa [statusRow] using same
          rw [running]
          rfl
      | running | needsUser | completed | failed | cancelled =>
          rw [Option.some.inj (List.mem_singleton.mp same)]
          rfl

theorem refuses_of_status {run : OrchestrationState}
    (same : row.map RunRow.status ∈ statusRow run.status) (kind : RunEvent) :
    run.refuses kind = closedTo kind row := by
  unfold OrchestrationState.refuses closedTo endsRun
  rw [terminal_of_status same, decide_not]

theorem upsert_status (same : row.map RunRow.status ∈ statusRow status) :
    some (upsertOrchestrationRun builtins event row).status ∈ statusRow status := by
  cases row with
  | some held => exact same
  | none =>
      cases status with
      | queued => exact List.mem_cons_of_mem _ List.mem_cons_self
      | running | needsUser | completed | failed | cancelled => cases List.mem_singleton.mp same

theorem Follows.upsert_reads {earlier : List RuntimeEvent}
    {run : OrchestrationState} (follows : Follows builtins earlier row run)
    (reads : (upsertOrchestrationRun builtins event row).lastVerificationResult = "pass") :
    earlier.any (readsPass builtins) = true := by
  cases row with
  | none => exact absurd reads (by simp [upsertOrchestrationRun])
  | some held => exact follows.reads (decide_eq_true reads)

theorem status_of_open {row : RunRowStatus}
    {run : OrchestrationState} (same : some row ∈ statusRow run.status) (opened : run.refuses kind = false)
    (passes : kind = .completed → (pass = true ↔ run.lastVerificationResult = "pass"))
    (settled : kind = .requested → run.status ≠ .needsUser)
    (after : status = statusAfter kind run) : some (rowStatusAfter kind pass row) ∈ statusRow status := by
  subst after
  cases kind with
  | requested =>
      -- a run that is neither terminal nor waiting for the user is queued or running
      have ongoing : run.status.isTerminal = false := by
        simpa [OrchestrationState.refuses] using opened
      cases status : run.status with
      | queued | running =>
          have running : row = .running := by simpa [status, statusRow] using same
          rw [running]
          exact List.mem_cons_of_mem _ List.mem_cons_self
      | needsUser => exact absurd status (settled rfl)
      | completed | failed | cancelled =>
          rw [status] at ongoing
          cases ongoing
  | phaseChanged | cancelRequested => exact same
  | completed =>
      by_cases reads : run.lastVerificationResult = "pass"
      · rw [(passes rfl).mpr reads]
        simp [statusAfter, rowStatusAfter, reads, statusRow]
      · have fails : pass = false := Bool.eq_false_iff.mpr fun held => reads ((passes rfl).mp held)
        simp [statusAfter, rowStatusAfter, reads, statusRow, fails]
  | started | failed | recoveryRequired | cancelled => exact List.mem_singleton.mpr rfl

theorem Follows.run (follows : Follows builtins earlier row (runAt event.aggregateId snapshot.orchestrations))
    (numbered : (earlier ++ event :: later).Pairwise fun first second => first.id < second.id)
    (positive : 0 < event.id)
    (own : ∀ other ∈ earlier ++ event :: later, other.orchestrationRunId = some number)
    (type : event.eventType = .run kind)
    (coherent : Coherent builtins earlier (runAt event.aggregateId snapshot.orchestrations) event)
    (applied : applyEvent builtins snapshot event = some next) :
    Follows builtins (earlier ++ [event])
      (projectRunRow builtins (earlier ++ event :: later) event kind row).1
      (runAt event.aggregateId next.orchestrations) := by
  have after := runAt_of_apply type applied
  have refuses := refuses_of_status follows.status kind
  have wider : earlier.any (readsPass builtins) = true →
      (earlier ++ [event]).any (readsPass builtins) = true := by
    intro found
    rw [List.any_append, found, Bool.true_or]
  cases closed : closedTo kind row with
  | true =>
      rw [if_pos (refuses.trans closed)] at after
      unfold closedTo at closed
      unfold projectRunRow
      rw [if_pos closed]
      refine ⟨?_, fun reads => wider (follows.reads reads)⟩
      rw [after]
      exact follows.status
  | false =>
      rw [if_neg (by simp [refuses, closed])] at after
      obtain ⟨written, done, status, reads⟩ :=
        projectRunRow_of_open builtins (earlier ++ event :: later) event closed
      rw [done]
      refine ⟨?_, fun held => wider (follows.upsert_reads (reads (of_decide_eq_true held)))⟩
      rw [Option.map_some, status]
      refine status_of_open (upsert_status follows.status) (refuses.trans closed) ?_ ?_ after
      · rintro rfl
        exact hasPass_iff numbered positive own type follows.upsert_reads coherent
      · rintro rfl
        exact coherent.2 type

theorem Follows.other {earlier log : List RuntimeEvent}
    (follows : Follows builtins earlier row (runAt aggregateId snapshot.orchestrations))
    (sound : RunsSound snapshot.orchestrations) (other : ∀ kind, event.eventType ≠ .run kind)
    (applied : applyEvent builtins snapshot event = some next) :
    Follows builtins (earlier ++ [event]) (runStep builtins log number row event)
      (runAt aggregateId next.orchestrations) := by
  have status : (runStep builtins log number row event).map RunRow.status = row.map RunRow.status := by
    unfold runStep
    split
    · split
      next kind type => exact absurd type (other kind)
      · exact Option.map_map ..
      · rfl
    · rfl
  refine ⟨?_, fun reads => ?_⟩
  · rw [status, status_of_other sound other applied]
    exact follows.status
  · rw [List.any_append, Bool.or_eq_true]
    by_cases held : row.any (fun held => held.lastVerificationResult = "pass") = true
    · exact .inl (follows.reads held)
    · -- only a decision that reads as a pass writes one
      right
      unfold runStep at reads
      split at reads
      · split at reads
        next kind type => exact absurd type (other kind)
        next type =>
          cases row with
          | none => cases reads
          | some run =>
              refine List.any_eq_true.mpr ⟨event, List.mem_singleton.mpr rfl, ?_⟩
              rw [readsPass, isDecision, type, Bool.and_eq_true]
              exact ⟨rfl, reads⟩
        · exact absurd reads held
      · exact absurd reads held

theorem Follows.step {tables : Tables}
    (follows : Follows builtins earlier (tables.orchestrationRuns number)
      (runAt aggregateId snapshot.orchestrations))
    (sound : RunsSound snapshot.orchestrations)
    (numbered : (earlier ++ event :: later).Pairwise fun first second => first.id < second.id)
    (positive : 0 < event.id) (own : ∀ other ∈ earlier ++ event :: later, OfRun number aggregateId other)
    (coherent : Coherent builtins earlier (runAt aggregateId snapshot.orchestrations) event)
    (applied : applyEvent builtins snapshot event = some next) :
    Follows builtins (earlier ++ [event])
      ((apply builtins lower (earlier ++ event :: later) tables event).orchestrationRuns number)
      (runAt aggregateId next.orchestrations) := by
  rw [apply_orchestrationRuns]
  by_cases isRun : ∃ kind, event.eventType = .run kind
  · obtain ⟨kind, type⟩ := isRun
    have mine := own event (by simp)
    rw [runStep, if_pos mine.number, type]
    rw [← mine.key kind type] at follows coherent ⊢
    exact follows.run numbered positive (fun other member => (own other member).number) type coherent
      applied
  · exact follows.other sound (fun kind type => isRun ⟨kind, type⟩) applied

/-- The events of one run, in the order of their numbers, each of which finds what `Coherent` asks
for. -/
structure CoherentRun (builtins : Builtins) (number : Int) (aggregateId : String)
    (events : List RuntimeEvent) : Prop where
  own : ∀ event ∈ events, OfRun number aggregateId event
  numbered : events.Pairwise fun first second => first.id < second.id
  positive : ∀ event ∈ events, 0 < event.id
  coherent : ∀ earlier event later snapshot, events = earlier ++ event :: later →
    replayEvents builtins earlier = some snapshot →
    Coherent builtins earlier (runAt aggregateId snapshot.orchestrations) event

theorem replayEvents_concat {earlier : List RuntimeEvent} {after : Snapshot}
    (replayed : replayEvents builtins (earlier ++ [event]) = some after) :
    ∃ before, replayEvents builtins earlier = some before ∧
      applyEvent builtins before event = some after := by
  rw [replayEvents, List.foldlM_append] at replayed
  obtain ⟨before, first, last⟩ := Option.bind_eq_some_iff.mp replayed
  obtain ⟨next, applied, done⟩ := Option.bind_eq_some_iff.mp last
  cases done
  exact ⟨before, first, applied⟩

theorem CoherentRun.follows {events : List RuntimeEvent} {number : Int} {aggregateId : String}
    (run : CoherentRun builtins number aggregateId events) {tables : Tables}
    (fresh : tables.orchestrationRuns number = none) {earlier later : List RuntimeEvent}
    {snapshot : Snapshot} (split : events = earlier ++ later)
    (replayed : replayEvents builtins earlier = some snapshot) :
    Follows builtins earlier
      ((earlier.foldl (apply builtins lower events) tables).orchestrationRuns number)
      (runAt aggregateId snapshot.orchestrations) := by
  induction earlier using List.reverseRecOn generalizing later snapshot with
  | nil =>
      cases replayed
      rw [List.foldl_nil, fresh]
      exact ⟨List.mem_cons_self, fun reads => by cases reads⟩
  | append_singleton earlier event ih =>
      obtain ⟨before, first, applied⟩ := replayEvents_concat replayed
      have onward : events = earlier ++ event :: later := by
        rw [split, List.append_assoc, List.singleton_append]
      have follows := ih onward first
      rw [List.foldl_append]
      have sound := replay_sound replay_empty_sound.runs first
      have member : event ∈ events := by simp [onward]
      have numbered := run.numbered
      have own := run.own
      have coherent := run.coherent earlier event later before onward first
      have positive := run.positive event member
      rw [onward] at numbered own follows ⊢
      exact follows.step sound numbered positive own coherent applied

/-- Up to every event of the run the projected status names the same end as the replayed one, and a
completion whose latest decision does not pass completes the run in neither. -/
theorem projected_status_agrees {events : List RuntimeEvent} {number : Int} {aggregateId : String}
    (run : CoherentRun builtins number aggregateId events) {tables : Tables}
    (fresh : tables.orchestrationRuns number = none) {earlier later : List RuntimeEvent}
    {snapshot : Snapshot} (split : events = earlier ++ later)
    (replayed : replayEvents builtins earlier = some snapshot) :
    SameStatus (((earlier.foldl (apply builtins lower events) tables).orchestrationRuns number).map
        RunRow.status) (runAt aggregateId snapshot.orchestrations).status ∧
      ∀ before event, earlier = before ++ [event] → event.eventType = .run .completed →
        latestPasses before = false →
        ((earlier.foldl (apply builtins lower events) tables).orchestrationRuns number).map
          RunRow.status ≠ some .passed ∧
        (runAt aggregateId snapshot.orchestrations).status ≠ .completed := by
  have follows := @CoherentRun.follows builtins lower _ _ _ run _ fresh _ _ _ split replayed
  have same := sameStatus_of_mem follows.status
  refine ⟨same, ?_⟩
  rintro before event rfl type fails
  suffices open_ : (runAt aggregateId snapshot.orchestrations).status ≠ .completed from
    ⟨fun passed => open_ (same.passed.mp passed), open_⟩
  obtain ⟨state, first, applied⟩ := replayEvents_concat replayed
  have onward : events = before ++ event :: later := by
    rw [split, List.append_assoc, List.singleton_append]
  have coherent := run.coherent before event later state onward first
  have key := (run.own event (by simp [onward])).key .completed type
  rcases coherent.1 type with ⟨-, latest, -⟩ | ⟨unread, -⟩
  · rw [fails] at latest
    cases latest
  · have after := runAt_of_apply type applied
    rw [if_neg (by simp [OrchestrationState.refuses]), key] at after
    rw [after, statusAfter, if_pos unread]
    decide

def passedRun : List RuntimeEvent :=
  [{ id := 1, eventType := .run .started, aggregateId := "run:7", orchestrationRunId := some 7 },
   { id := 2, eventType := .verification .decisionRecorded, aggregateId := "run:7",
     orchestrationRunId := some 7, payload := [("decision", .string "pass")] },
   { id := 3, eventType := .run .completed, aggregateId := "run:7", orchestrationRunId := some 7 }]

theorem passedRun_coherent : CoherentRun sampleBuiltins 7 "run:7" passedRun where
  own event member := by
    simp only [passedRun, List.mem_cons, List.not_mem_nil, or_false] at member
    rcases member with rfl | rfl | rfl
    · exact ⟨rfl, fun _ _ => rfl⟩
    · exact ⟨rfl, fun _ _ => rfl⟩
    · exact ⟨rfl, fun _ _ => rfl⟩
  numbered := by
    simp [passedRun]
  positive event member := by
    simp only [passedRun, List.mem_cons, List.not_mem_nil, or_false] at member
    rcases member with rfl | rfl | rfl <;> decide
  coherent earlier event later snapshot split replayed := by
    revert snapshot
    revert earlier event later
    refine forall_split_cons ?_ (forall_split_cons ?_ (forall_split_cons ?_ forall_split_nil))
    · exact fun _ _ => ⟨fun type => (by cases type), fun type => (by cases type)⟩
    · exact fun _ _ => ⟨fun type => (by cases type), fun type => (by cases type)⟩
    · intro snapshot replayed
      cases replayed
      exact ⟨fun _ => .inl ⟨rfl, rfl, rfl⟩, fun type => by cases type⟩

theorem passed_run_agrees : ∃ snapshot, replayEvents sampleBuiltins passedRun = some snapshot ∧
    SameStatus (((passedRun.foldl (apply sampleBuiltins id passedRun) {}).orchestrationRuns 7).map
      RunRow.status) (runAt "run:7" snapshot.orchestrations).status ∧
    (runAt "run:7" snapshot.orchestrations).status = .completed :=
  ⟨_, rfl, (projected_status_agrees passedRun_coherent rfl (List.append_nil passedRun).symm rfl).1, rfl⟩

def retractedRun : List RuntimeEvent :=
  [{ id := 1, eventType := .run .started, aggregateId := "run:7", orchestrationRunId := some 7 },
   { id := 2, eventType := .verification .decisionRecorded, aggregateId := "run:7",
     orchestrationRunId := some 7, payload := [("decision", .string "pass")] },
   { id := 3, eventType := .verification .decisionRecorded, aggregateId := "run:7",
     orchestrationRunId := some 7, payload := [("decision", .string "fail")] },
   { id := 4, eventType := .run .completed, aggregateId := "run:7", orchestrationRunId := some 7 }]

/-- The projector passes it, replay fails it. -/
theorem retracted_pass_projected :
    ((retractedRun.foldl (apply sampleBuiltins id retractedRun) {}).orchestrationRuns 7).map
        RunRow.status = some .passed ∧
      (replayEvents sampleBuiltins retractedRun).map (fun snapshot =>
        (runAt "run:7" snapshot.orchestrations).status) = some .failed :=
  ⟨rfl, rfl⟩

end Wlcodex.Projector
