import Wlcodex.Native.Mapping

namespace Wlcodex.Native

open Wlcodex.Lib
open Wlcodex.Relay (Dict strip truthy)

/-! Which turn of a thread is under way, and the state in which the thread is presented. -/

/-- Python's floats: where `float` of a text raises a value error there is none. -/
structure Floats (φ : Type) where
  zero : φ
  ofNumber : Json → φ
  ofText? : String → Option φ
  same : φ → φ → Bool
  less : φ → φ → Bool

section Turns

variable {φ : Type} (python : Python) (floats : Floats φ)

def stringValue (raw : Dict) (key : String) : String :=
  let value := raw.getOrNull key
  match members? value with
  | some members =>
      let type := members.getOrNull "type"
      if truthy type then python.text type else python.plainText value
  | none => python.plainText value

def turnIdentifier (turn : Dict) : String :=
  let turnId := stringValue python turn "turnId"
  if turnId ≠ "" then turnId else stringValue python turn "id"

def thread? (detail : Dict) : Option Dict := members? (detail.getOrNull "thread")

def turns (detail : Dict) : List Json :=
  match detail.lookup "turns" with
  | some (.array (turn :: rest)) => turn :: rest
  | _ =>
      match (thread? detail).bind (·.lookup "turns") with
      | some (.array turns) => turns
      | _ => []

def timeOf? : Json → Option φ
  | .string text => floats.ofText? text
  | .null | .array _ | .object _ => none
  | number => some (floats.ofNumber number)

def turnSortKey (turn : Dict) : φ × String :=
  let time? := ["startedAt", "createdAt", "completedAt", "updatedAt"].findSome? fun key =>
    timeOf? floats (turn.getOrNull key)
  (time?.getD floats.zero, turnIdentifier python turn)

/-- `turnSortKey(turn) < turnSortKey(other)`. -/
def isLater (turn other : Dict) : Bool :=
  let (time, id) := turnSortKey python floats turn
  let (otherTime, otherId) := turnSortKey python floats other
  if floats.same time otherTime then id < otherId else floats.less time otherTime

/-- `max(..., key=_turn_sort_key)`: the first of those that no other one is behind. -/
def latestTurn (turns : List Json) : Option Dict :=
  (turns.filterMap members?).foldl (fun best? turn =>
    match best? with
    | some best => if isLater python floats best turn then some turn else some best
    | none => some turn) none

def threadStatus (detail : Dict) : String := ((thread? detail).map (stringValue python · "status")).getD ""

def isTerminalStatus (status : String) : Bool :=
  lowerText (strip status) ∈ ["completed", "complete", "done", "failed", "error", "cancelled", "canceled",
    "interrupted", "aborted"]

def isActiveStatus (status : String) : Bool :=
  lowerText (strip status) ∈ ["active", "running", "inprogress", "in_progress", "pending",
    "waitingonapproval", "waiting_on_approval"]

def activeTurnId (detail : Dict) : String :=
  match latestTurn python floats (turns detail) with
  | none => ""
  | some turn =>
      let status := stringValue python turn "status"
      if isActiveStatus status ∨ isActiveStatus (threadStatus python detail) ∧ !isTerminalStatus status then
        turnIdentifier python turn
      else ""

/-! ### The state that is presented -/

inductive PresentedState where
  | waitingApproval
  | waitingUser
  | running
  | blocked
  | completed
  | interrupted
  | failed
  | stale
  deriving DecidableEq

/-- `status.strip().lower().replace("-", "_").replace(" ", "_")`. -/
def normalizedStatus (status : String) : String :=
  String.ofList ((lowerText (strip status)).toList.map fun c => if c = '-' ∨ c = ' ' then '_' else c)

/-- The members of the set, that of the latest turn first. -/
def normalizedStatuses (detail : Dict) : List String :=
  let latest := (latestTurn python floats (turns detail)).getD []
  let statuses := [stringValue python latest "status", threadStatus python detail]
  (statuses.filter (strip · ≠ "")).map normalizedStatus

def approvalStatuses : List String := [
  "waiting_approval", "waitingonapproval", "waiting_on_approval", "approval_required", "approvalrequired",
  "requires_approval"]

def inputStatuses : List String := [
  "waiting_user", "waitinguser", "waiting_for_user", "input_required", "inputrequired"]

def statusState (freshnessStale : Bool) (status : String) : PresentedState :=
  if status ∈ ["running", "active", "in_progress", "inprogress", "streaming", "pending"] then .running
  else if status = "idle" then .waitingUser
  else if status ∈ ["blocked", "paused"] then .blocked
  else if status ∈ ["completed", "complete", "done", "finished"] then .completed
  else if status ∈ ["interrupted", "aborted", "cancelled", "canceled"] then .interrupted
  else if status ∈ ["failed", "error"] then .failed
  else if freshnessStale ∨ status = "" ∨ status = "unknown" then .stale
  else .blocked

/-- `_native_presentation_state`, with what `next(iter(...), "")` takes from the set. -/
def nativePresentationState (detail : Dict) (freshnessStale : Bool) (taken : String) : PresentedState :=
  let statuses := normalizedStatuses python floats detail
  if statuses.any (· ∈ approvalStatuses) then .waitingApproval
  else if statuses.any (· ∈ inputStatuses) then .waitingUser
  else if activeTurnId python floats detail ≠ "" then .running
  else statusState freshnessStale taken

def CanTake (statuses : List String) (taken : String) : Prop :=
  taken ∈ statuses ∨ statuses = [] ∧ taken = ""

/-- Whatever the set is iterated by, its first member, that of the latest turn, decides. -/
def Decided (detail : Dict) (freshnessStale : Bool) : Prop :=
  ∀ taken, CanTake (normalizedStatuses python floats detail) taken →
    nativePresentationState python floats detail freshnessStale taken =
      nativePresentationState python floats detail freshnessStale
        ((normalizedStatuses python floats detail).headD "")

/-- The state is that of the latest turn exactly where a turn waits or is active, or where the statuses
of the turn and of the thread stand for one state. -/
theorem presented_state_decided_iff (detail : Dict) (freshnessStale : Bool) :
    Decided python floats detail freshnessStale ↔
      (∃ status ∈ normalizedStatuses python floats detail, status ∈ approvalStatuses ++ inputStatuses) ∨
        activeTurnId python floats detail ≠ "" ∨
        ∀ status ∈ normalizedStatuses python floats detail, statusState freshnessStale status =
          statusState freshnessStale ((normalizedStatuses python floats detail).headD "") := by
  unfold Decided nativePresentationState
  dsimp only
  generalize normalizedStatuses python floats detail = statuses
  by_cases waits : ∃ status ∈ statuses, status ∈ approvalStatuses ++ inputStatuses
  · obtain ⟨status, member, listed⟩ := waits
    refine iff_of_true (fun taken _ => ?_) (.inl ⟨status, member, listed⟩)
    rcases List.mem_append.mp listed with approval | input
    · have waiting : statuses.any (· ∈ approvalStatuses) :=
        List.any_eq_true.mpr ⟨status, member, decide_eq_true approval⟩
      rw [if_pos waiting, if_pos waiting]
    · have waiting : statuses.any (· ∈ inputStatuses) :=
        List.any_eq_true.mpr ⟨status, member, decide_eq_true input⟩
      rw [if_pos waiting, if_pos waiting]
  · have unlisted {listed : List String} (known : listed ⊆ approvalStatuses ++ inputStatuses) :
        ¬statuses.any (· ∈ listed) := by
      intro waiting
      obtain ⟨status, member, meets⟩ := List.any_eq_true.mp waiting
      exact waits ⟨status, member, known (of_decide_eq_true meets)⟩
    have unapproved := unlisted (List.subset_append_left approvalStatuses inputStatuses)
    have unasked := unlisted (List.subset_append_right approvalStatuses inputStatuses)
    by_cases active : activeTurnId python floats detail = ""
    · simp only [unapproved, unasked, active, waits, if_false, ne_eq, not_true_eq_false, false_or]
      refine ⟨fun decided status member => decided status (.inl member), fun same taken takes => ?_⟩
      rcases takes with member | ⟨rfl, rfl⟩
      · exact same taken member
      · rfl
    · simp [active]

def settledDetail : Dict :=
  [("turns", .array [.object [("id", .string "t1"), ("status", .string "completed")]]),
    ("thread", .object [("status", .string "idle")])]

def noFloats : Floats Unit := ⟨(), fun _ => (), fun _ => none, fun _ _ => true, fun _ _ => false⟩

/-- A completed turn of an idle thread is completed or waits for the user, as the hashes have it. -/
theorem presented_state_undecided :
    nativePresentationState samplePython noFloats settledDetail false "completed" = .completed ∧
      nativePresentationState samplePython noFloats settledDetail false "idle" = .waitingUser ∧
      normalizedStatuses samplePython noFloats settledDetail = ["completed", "idle"] := by
  decide

/-! ### The last turn -/

/-- The turn that `continue_session` steers; where there is none it starts a new one. -/
def steeredTurn? (detail : Dict) : Option String :=
  let active := activeTurnId python floats detail
  if active ≠ "" then some active else none

structure EndsWith (detail : Dict) (earlier : List Json) (last : Dict) : Prop where
  turns : turns detail = earlier ++ [.object last]
  inactive : ∀ turn ∈ earlier.filterMap members?, ¬isActiveStatus (stringValue python turn "status")

def LastTurnFound (detail last : Dict) : Prop :=
  let status := stringValue python last "status"
  (isActiveStatus status → activeTurnId python floats detail = turnIdentifier python last ∧
      steeredTurn? python floats detail = some (turnIdentifier python last)) ∧
    (isTerminalStatus status →
      activeTurnId python floats detail = "" ∧ steeredTurn? python floats detail = none)

variable {python floats} {detail last : Dict} {earlier : List Json}

theorem mem_of_latestTurn {turns : List Json} {best : Dict}
    (found : latestTurn python floats turns = some best) : best ∈ turns.filterMap members? := by
  unfold latestTurn at found
  generalize turns.filterMap members? = turns at found ⊢
  induction turns using List.reverseRecOn generalizing best with
  | nil => cases found
  | append_singleton turns turn ih =>
      rw [List.foldl_concat] at found
      split at found
      next other chosen =>
        split at found <;> cases found
        · exact List.mem_append_right _ (List.mem_singleton_self _)
        · exact List.mem_append_left _ (ih chosen)
      · cases found
        exact List.mem_append_right _ (List.mem_singleton_self _)

theorem latestTurn_concat (earlier : List Json) (last : Dict) :
    latestTurn python floats (earlier ++ [.object last]) = match latestTurn python floats earlier with
      | some best => if isLater python floats best last then some last else some best
      | none => some last := by
  simp [latestTurn, List.filterMap_append, members?]

theorem activeTurnId_eq {turn : Dict} (latest : latestTurn python floats (turns detail) = some turn) :
    activeTurnId python floats detail =
      if isActiveStatus (stringValue python turn "status") ∨ isActiveStatus (threadStatus python detail) ∧
          !isTerminalStatus (stringValue python turn "status") then turnIdentifier python turn else "" := by
  rw [activeTurnId, latest]

theorem not_terminal {status : String} (active : isActiveStatus status) : ¬isTerminalStatus status := by
  unfold isActiveStatus at active
  unfold isTerminalStatus
  simp only [decide_eq_true_eq] at active ⊢
  generalize lowerText (strip status) = word at active ⊢
  revert word
  decide

theorem lastTurnFound_iff :
    LastTurnFound python floats detail last ↔
      (isActiveStatus (stringValue python last "status") → turnIdentifier python last ≠ "" ∧
          activeTurnId python floats detail = turnIdentifier python last) ∧
        (isTerminalStatus (stringValue python last "status") → activeTurnId python floats detail = "") := by
  refine and_congr (forall_congr' fun _ => and_comm.trans (and_congr_left fun same => ?_))
    (forall_congr' fun _ => and_iff_left_of_imp fun same => ?_)
  · simp [steeredTurn?, same]
  · simp [steeredTurn?, same]

theorem found_of_latest (latest : latestTurn python floats (turns detail) = some last) :
    LastTurnFound python floats detail last ↔
      (isActiveStatus (stringValue python last "status") → turnIdentifier python last ≠ "") := by
  refine lastTurnFound_iff.trans ⟨fun found runs => (found.1 runs).1, fun named => ?_⟩
  refine ⟨fun runs => ⟨named runs, ?_⟩, fun terminal => ?_⟩
  · rw [activeTurnId_eq latest, if_pos (.inl runs)]
  · rw [activeTurnId_eq latest, if_neg]
    rintro (active | ⟨-, open_⟩)
    · exact not_terminal active terminal
    · simp [terminal] at open_

def datedTurn (id status : String) : Json :=
  .object [("id", .string id), ("status", .string status), ("startedAt", .string "2026-01-31T10:00:00Z")]

def tenTurns : Dict := [("turns", .array [datedTurn "t9" "completed", datedTurn "t10" "running"])]

end Turns

end Wlcodex.Native
