import Wlcodex.Relay.Mutations
import Mathlib.Data.Set.Function

namespace Wlcodex.Relay

open Wlcodex.Lib

/-! The retry contract of an idempotency key over whole runs. -/

def MutationRequest.Names (request : MutationRequest) (key : String) : Prop :=
  normalizeIdempotencyKey request.key = .ok key ∧ key ≠ "" ∧ strip request.operation ≠ ""

instance (request : MutationRequest) (key : String) : Decidable (request.Names key) := by
  unfold MutationRequest.Names
  infer_instance

def MutationRow.moved (row : MutationRow) : MutationOp → Option MutationRow
  | .claim _ _ => some row
  | .bindTask key taskId now =>
      some (if row.idempotencyKey = key ∧ row.status = .inProgress then
        { row with taskId := some taskId, updatedAt := now } else row)
  | .complete key status payload now =>
      some (if row.idempotencyKey = key then
        { row with
          status := .completed
          responseStatus := some status
          responseJson := Json.write .spaced (Json.object payload.members).sortKeys
          updatedAt := now } else row)
  | .abandon key =>
      if row.idempotencyKey = key ∧ row.status = .inProgress then none else some row

namespace MutationStore

variable {sha256 : List Char → String} {store : MutationStore} {request : MutationRequest}
  {key now : String}

variable (sha256 now) in
theorem claim_of_absent (named : request.Names key) (absent : store.find? key = none) :
    ∃ next, store.insert? (newRow sha256 key (strip request.operation) request now) = some next ∧
      store.claim sha256 request now =
        .ok (some { key, status := .claimed, operation := strip request.operation
                    taskId := request.taskId }, next) := by
  have fresh : ∀ stored ∈ store, stored.idempotencyKey ≠
      (newRow sha256 key (strip request.operation) request now).idempotencyKey :=
    Keyed.find?_eq_none_iff.mp absent
  obtain ⟨next, inserted⟩ := Option.isSome_iff_exists.mp (Keyed.insert?_isSome fresh)
  refine ⟨next, inserted, ?_⟩
  simp only [claim, named.1, bind, Except.bind, if_neg named.2.1, if_neg named.2.2, absent, inserted]
  rfl

variable {row : MutationRow} {op : MutationOp}

theorem claim_of_present (named : request.Names key) (present : store.find? key = some row) :
    store.claim sha256 request now =
      .ok (some (answer sha256 row key (strip request.operation) request), store) := by
  simp only [claim, named.1, bind, Except.bind, if_neg named.2.1, if_neg named.2.2, present]
  rfl

theorem claim_cases {result : Option RelayMutationClaim} {next : MutationStore}
    (claimed : store.claim sha256 request now = .ok (result, next)) :
    (result = none ∧ next = store) ∨
      ∃ key, request.Names key ∧
        ((store.find? key = none ∧
            store.insert? (newRow sha256 key (strip request.operation) request now) = some next ∧
            result = some { key, status := .claimed, operation := strip request.operation
                            taskId := request.taskId }) ∨
          ∃ row, store.find? key = some row ∧ next = store ∧
            result = some (answer sha256 row key (strip request.operation) request)) := by
  cases normal : normalizeIdempotencyKey request.key with
  | error reason =>
      simp only [claim, normal, bind, Except.bind] at claimed
      cases claimed
  | ok key =>
      by_cases blank : key = ""
      · simp only [claim, normal, bind, Except.bind, if_pos blank] at claimed
        cases claimed
        exact .inl ⟨rfl, rfl⟩
      by_cases nameless : strip request.operation = ""
      · simp only [claim, normal, bind, Except.bind, if_neg blank, if_pos nameless] at claimed
        cases claimed
      have named : request.Names key := ⟨normal, blank, nameless⟩
      refine .inr ⟨key, named, ?_⟩
      cases found : store.find? key with
      | none =>
          obtain ⟨inserted, insertion, eq⟩ := claim_of_absent sha256 now named found
          rw [eq] at claimed
          cases claimed
          exact .inl ⟨rfl, insertion, rfl⟩
      | some row =>
          rw [claim_of_present named found] at claimed
          cases claimed
          exact .inr ⟨row, rfl, rfl, rfl⟩

theorem mem_step_of_moved {row next : MutationRow} (member : row ∈ store)
    (moved : row.moved op = some next) : next ∈ store.step sha256 op := by
  cases op with
  | claim request now =>
      cases moved
      cases outcome : store.claim sha256 request now with
      | error reason =>
          simp only [step, outcome]
          exact member
      | ok pair =>
          simp only [step, outcome]
          rcases claim_cases outcome with ⟨_, rfl⟩ | ⟨key, _, ⟨_, inserted, _⟩ | ⟨_, _, rfl, _⟩⟩
          · exact member
          · exact (Keyed.mem_insert? inserted).mpr (.inr member)
          · exact member
  | bindTask key taskId now =>
      cases moved
      simp only [step, bindTask, Keyed.mem_update]
      split_ifs with chosen
      · exact .inl ⟨row, member, by simpa using chosen, rfl⟩
      · exact .inr ⟨member, by simpa using chosen⟩
  | complete key status payload now =>
      cases moved
      simp only [step, complete, Keyed.mem_update]
      split_ifs with chosen
      · exact .inl ⟨row, member, by simpa using chosen, rfl⟩
      · exact .inr ⟨member, by simpa using chosen⟩
  | abandon key =>
      simp only [MutationRow.moved] at moved
      split_ifs at moved with chosen
      cases moved
      simp only [step, abandon, Keyed.mem_erase]
      exact ⟨member, by simpa using chosen⟩

end MutationStore

def MutationRequest.Repeats (first : MutationRequest) (task : Option Int) (retry : MutationRequest) :
    Prop :=
  strip retry.operation = strip first.operation ∧
    (retry.taskId = task ∨ (retry.taskId = none ∧ strip retry.operation = "relay.task.create")) ∧
    retry.payload.value.sortKeys = first.payload.value.sortKeys

def boundTask (key : String) (task : Option Int) (ops : List MutationOp) : Option Int :=
  ops.foldl (fun bound op =>
    match op with
    | .bindTask other taskId _ => if other = key then some taskId else bound
    | _ => bound) task

/-- `json.loads(json.dumps(payload))`. -/
def responseRoundTrip (payload : JsonObject) : Option Json :=
  Json.loads (Json.write .spaced (Json.object payload.members).sortKeys)

namespace MutationStore

variable (sha256 : List Char → String)

def Acquires (store : MutationStore) (request : MutationRequest) (now key : String) : Prop :=
  ∃ claim next, store.claim sha256 request now = .ok (some claim, next) ∧
    claim.status = .claimed ∧ claim.key = key

/-- The key replays one response to the retries of one request and refuses every
other request. -/
structure Replays (store : MutationStore) (key : String) (first : MutationRequest)
    (task : Option Int) (status : Int) (payload : JsonObject) : Prop where
  unmoved : ∀ op, (op = .abandon key ∨ ∃ taskId now, op = .bindTask key taskId now) →
    store.step sha256 op = store
  replayed : ∀ retry now, retry.Names key → first.Repeats task retry →
    ∃ claim members, store.claim sha256 retry now = .ok (some claim, store) ∧
      claim.status = .completed ∧ claim.taskId = task ∧ claim.responseStatus = some status ∧
      claim.responsePayload = some members ∧ responseRoundTrip payload = some (.object members)
  refused : ∀ retry now, retry.Names key → ¬ first.Repeats task retry →
    ∃ claim, store.claim sha256 retry now = .ok (some claim, store) ∧ claim.status = .conflict

structure Contract (ops : List MutationOp) : Prop where
  claimedOnce : ∀ early first firstTime middle second secondTime late key,
    ops = early ++ .claim first firstTime :: (middle ++ .claim second secondTime :: late) →
    Acquires sha256 (after sha256 early) first firstTime key →
    Acquires sha256 (after sha256 (early ++ .claim first firstTime :: middle)) second secondTime key →
    .abandon key ∈ middle
  replays : ∀ early first firstTime middle key status payload now late,
    ops = early ++ .claim first firstTime :: (middle ++ .complete key status payload now :: late) →
    Acquires sha256 (after sha256 early) first firstTime key → .abandon key ∉ middle →
    Replays sha256 (after sha256 ops) key first (boundTask key first.taskId middle) status payload

end MutationStore

def MutationOp.Timely (store : MutationStore) : MutationOp → Prop
  | .complete key status _ _ =>
      status ≠ 0 ∧ ∀ row ∈ store, row.idempotencyKey = key → row.status = .inProgress
  | _ => True

namespace MutationStore

variable {sha256 : List Char → String} {store : MutationStore} {request first : MutationRequest}
  {key now : String}

theorem answer_key (row : MutationRow) (key operation : String) (request : MutationRequest) :
    (answer sha256 row key operation request).key = key ∧
      (answer sha256 row key operation request).status ≠ .claimed := by
  unfold answer
  split
  · simp
  · split <;> simp

section

variable (acquires : Acquires sha256 store request now key)

include acquires

theorem Acquires.named : request.Names key := by
  obtain ⟨claim, next, claimed, status, rfl⟩ := acquires
  rcases claim_cases claimed with ⟨absent, _⟩ | ⟨key, named, ⟨_, _, result⟩ | ⟨row, _, _, result⟩⟩
  · cases absent
  · cases result
    exact named
  · cases result
    rw [(answer_key row key _ request).1]
    exact named

theorem Acquires.absent :
    store.find? key = none := by
  have named := acquires.named
  cases found : store.find? key with
  | none => rfl
  | some row =>
      obtain ⟨claim, next, claimed, status, _⟩ := acquires
      rw [claim_of_present named found] at claimed
      cases claimed
      exact absurd status (answer_key row key _ request).2

theorem Acquires.row :
    newRow sha256 key (strip request.operation) request now ∈
      store.step sha256 (.claim request now) := by
  obtain ⟨next, inserted, claimed⟩ := claim_of_absent sha256 now acquires.named acquires.absent
  simp only [step, claimed]
  exact (Keyed.mem_insert? inserted).mpr (.inl rfl)

end

def Records (sha256 : List Char → String) (store : MutationStore) (key : String)
    (first : MutationRequest) (task : Option Int) : Prop :=
  ∃ row ∈ store, row.idempotencyKey = key ∧ row.operation = strip first.operation ∧
    row.requestFingerprint = jsonFingerprint sha256 first.payload ∧
    (row.status = .inProgress → row.taskId = task)

theorem Records.step {task : Option Int} (records : Records sha256 store key first task) (kept : op ≠ .abandon key) :
    Records sha256 (store.step sha256 op) key first (boundTask key task [op]) := by
  obtain ⟨row, member, rfl, operation, fingerprint, bound⟩ := records
  cases op with
  | claim request now =>
      exact ⟨row, mem_step_of_moved member rfl, rfl, operation, fingerprint, bound⟩
  | bindTask other taskId now =>
      refine ⟨_, mem_step_of_moved member rfl, ?_⟩
      simp only [boundTask, List.foldl_cons, List.foldl_nil]
      split_ifs with chosen same same
      · exact ⟨rfl, operation, fingerprint, fun _ => rfl⟩
      · exact absurd chosen.1.symm same
      · exact ⟨rfl, operation, fingerprint, fun open_ => absurd ⟨same.symm, open_⟩ chosen⟩
      · exact ⟨rfl, operation, fingerprint, bound⟩
  | complete other status payload now =>
      refine ⟨_, mem_step_of_moved member rfl, ?_⟩
      split_ifs
      · exact ⟨rfl, operation, fingerprint, fun open_ => by cases open_⟩
      · exact ⟨rfl, operation, fingerprint, bound⟩
  | abandon other =>
      have moved : row.moved (.abandon other) = some row := by
        simp only [MutationRow.moved]
        rw [if_neg]
        rintro ⟨rfl, _⟩
        exact kept rfl
      exact ⟨row, mem_step_of_moved member moved, rfl, operation, fingerprint, bound⟩

theorem Records.run {task : Option Int} (records : Records sha256 store key first task)
    (ops : List MutationOp) (kept : .abandon key ∉ ops) :
    Records sha256 (ops.foldl (MutationStore.step sha256) store) key first (boundTask key task ops) := by
  induction ops generalizing store task with
  | nil => exact records
  | cons op ops ih =>
      rw [List.mem_cons, not_or] at kept
      exact ih (records.step fun same => kept.1 same.symm) kept.2

theorem Acquires.records (acquires : Acquires sha256 store request now key) :
    Records sha256 (store.step sha256 (.claim request now)) key request request.taskId :=
  ⟨_, acquires.row, rfl, rfl, rfl, fun _ => rfl⟩

theorem completed_step (member : row ∈ store) (done : row.status = .completed) (timely : op.Timely store) : row ∈ store.step sha256 op := by
  apply mem_step_of_moved member
  cases op with
  | claim request now => rfl
  | bindTask | abandon => simp [MutationRow.moved, done]
  | complete other status payload now =>
      simp only [MutationRow.moved]
      rw [if_neg]
      intro same
      have open_ := timely.2 row member same
      rw [done] at open_
      cases open_

theorem completed_run (member : row ∈ store) (done : row.status = .completed)
    {ops : List MutationOp} (timely : Along (step sha256) (fun store op => op.Timely store) store ops) :
    row ∈ ops.foldl (step sha256) store := by
  induction ops generalizing store with
  | nil => exact member
  | cons op ops ih => exact ih (completed_step member done timely.1) timely.2

theorem decodePayload_write (payload : JsonObject) :
    responseRoundTrip payload = some (.object (decodePayload
      (Json.write .spaced (Json.object payload.members).sortKeys))) := by
  have round : responseRoundTrip payload = some (Json.object payload.members).sortKeys :=
    Json.loads_write .spaced (Json.wellKeyed_sortKeys payload.keyed)
  have written : Json.write .spaced (Json.object payload.members).sortKeys ≠ [] := by
    obtain ⟨c, text, begins, _⟩ := Json.write_head .spaced (Json.object payload.members).sortKeys
    rw [begins]
    simp
  have loaded := round
  unfold responseRoundTrip at loaded
  rw [round, decodePayload, if_neg written, loaded, Json.sortKeys]

section

variable (injective : Set.InjOn sha256 (Set.range canonicalEncoding))

include injective

theorem fingerprint_eq_iff (first second : JsonDocument) :
    jsonFingerprint sha256 first = jsonFingerprint sha256 second ↔
      first.value.sortKeys = second.value.sortKeys := by
  rw [← Json.write_sortKeys_inj .compact first.keyed second.keyed]
  exact injective.eq_iff ⟨first, rfl⟩ ⟨second, rfl⟩

theorem conflicts_iff (operation : row.operation = strip first.operation)
    (fingerprint : row.requestFingerprint = jsonFingerprint sha256 first.payload) (retry : MutationRequest) :
    Conflicts sha256 row (strip retry.operation) retry ↔ ¬ first.Repeats row.taskId retry := by
  unfold Conflicts MutationRequest.Repeats
  simp only [operation, fingerprint, ne_eq, fingerprint_eq_iff injective]
  constructor
  · rintro (other | ⟨other, unbound⟩ | other) ⟨same, task, document⟩
    · exact other same.symm
    · rcases task with task | ⟨absent, create⟩
      · exact other task.symm
      · exact unbound ⟨create, absent, fun bound => other (bound.trans absent.symm)⟩
    · exact other document.symm
  · intro differs
    by_contra agrees
    push Not at agrees
    obtain ⟨same, task, document⟩ := agrees
    refine differs ⟨same.symm, ?_, document.symm⟩
    by_cases bound : row.taskId = retry.taskId
    · exact .inl bound.symm
    · exact .inr ⟨(task bound).2.1, (task bound).1⟩

theorem replays_of_completed {status : Int} {payload : JsonObject} (member : row ∈ store)
    (operation : row.operation = strip first.operation)
    (fingerprint : row.requestFingerprint = jsonFingerprint sha256 first.payload)
    (done : row.status = .completed) (nonzero : status ≠ 0) (answered : row.responseStatus = some status)
    (json : row.responseJson = Json.write .spaced (Json.object payload.members).sortKeys) :
    Replays sha256 store row.idempotencyKey first row.taskId status payload := by
  have found : store.find? row.idempotencyKey = some row :=
    Keyed.find?_eq_some_iff.mpr ⟨member, rfl⟩
  have only : ∀ other ∈ store, other.idempotencyKey = row.idempotencyKey →
      other.status = .inProgress → False := by
    intro other otherMember same open_
    rw [store.eq_of_key otherMember member same, done] at open_
    cases open_
  constructor
  · rintro op (rfl | ⟨taskId, now, rfl⟩)
    · exact Keyed.erase_of_none fun other otherMember => by
        simpa using fun same open_ => only other otherMember same open_
    · exact Keyed.update_of_none fun other otherMember => by
        simpa using fun same open_ => only other otherMember same open_
  · intro retry now named repeats
    have agrees : ¬ Conflicts sha256 row (strip retry.operation) retry := by
      rw [conflicts_iff injective operation fingerprint, not_not]
      exact repeats
    refine ⟨_, decodePayload row.responseJson, claim_of_present named found, ?_⟩
    simp only [answer, if_neg agrees, done, answered, Option.getD_some, if_neg nonzero, true_and, json]
    exact decodePayload_write payload
  · intro retry now named differs
    refine ⟨_, claim_of_present named found, ?_⟩
    have conflicts := (conflicts_iff injective operation fingerprint retry).mpr differs
    simp only [answer, if_pos conflicts]

end

end MutationStore

open MutationStore in
/-- The contract holds of every run in which no completion finds a response
already there. -/
theorem mutation_contract_kept {sha256 : List Char → String}
    (injective : Set.InjOn sha256 (Set.range canonicalEncoding)) (ops : List MutationOp)
    (timely : Along (step sha256) (fun store op => op.Timely store) Keyed.empty ops) :
    Contract sha256 ops := by
  constructor
  · intro early first firstTime middle second secondTime late key _ acquired again
    by_contra kept
    obtain ⟨row, member, same, _⟩ := acquired.records.run middle kept
    have absent := again.absent
    rw [Keyed.find?_eq_none_iff] at absent
    refine absent row ?_ same
    simpa only [after, List.foldl_append, List.foldl_cons] using member
  · rintro early first firstTime middle key status payload now late rfl acquired kept
    obtain ⟨row, member, rfl, operation, fingerprint, bound⟩ := acquired.records.run middle kept
    simp only [along_append, Along] at timely
    obtain ⟨_, _, _, ⟨nonzero, fresh⟩, later⟩ := timely
    have open_ := fresh row member rfl
    have completed : { row with
        status := .completed
        responseStatus := some status
        responseJson := Json.write .spaced (Json.object payload.members).sortKeys
        updatedAt := now } ∈ after sha256
          (early ++ .claim first firstTime :: (middle ++
            .complete row.idempotencyKey status payload now :: late)) := by
      simp only [after, List.foldl_append, List.foldl_cons]
      exact completed_run (mem_step_of_moved member (by simp [MutationRow.moved])) rfl later
    have replays := replays_of_completed injective completed operation fingerprint rfl nonzero rfl rfl
    simp only [bound open_] at replays
    exact replays

def emptyObjectDigest (text : List Char) : String :=
  if text = ['\x7b', '\x7d'] then
    "44136fa355b3678a1146ad16f7e8649e94fb4fc21fe77e8310c060f61caaff8a"
  else String.ofList ('#' :: text)

theorem emptyObjectDigest_injective : Function.Injective emptyObjectDigest := by
  have apart : ∀ text : List Char, emptyObjectDigest ['\x7b', '\x7d'] ≠ String.ofList ('#' :: text) := by
    intro text same
    have heads := congrArg (fun digest => digest.toList.head?) same
    have first : (emptyObjectDigest ['\x7b', '\x7d']).toList.head? = some '4' := by decide
    rw [first, String.toList_ofList] at heads
    simp at heads
  intro first second same
  unfold emptyObjectDigest at same
  split_ifs at same with firstEmpty secondEmpty secondEmpty
  · rw [firstEmpty, secondEmpty]
  · exact absurd same (apart second)
  · exact absurd same.symm (apart first)
  · exact (List.cons.inj (String.ofList_inj.mp same)).2

def creationRequest : MutationRequest :=
  { key := "create-1", operation := "relay.task.create", taskId := none
    payload := ⟨.object [], Json.wellKeyed_empty⟩ }

def creationResponse (text : String) : JsonObject :=
  ⟨[("dispatch_status", .string text)], by simp [Json.WellKeyed, Json.WellKeyedMembers]⟩

theorem acquires_creationRequest :
    MutationStore.Acquires emptyObjectDigest Keyed.empty creationRequest "t0" "create-1" := by
  obtain ⟨next, _, claimed⟩ := MutationStore.claim_of_absent emptyObjectDigest "t0"
    (by decide : creationRequest.Names "create-1") (rfl : Keyed.find? Keyed.empty "create-1" = none)
  exact ⟨_, next, claimed, rfl, rfl⟩

theorem mutation_contract_kept_creation :
    MutationStore.Replays emptyObjectDigest
      (MutationStore.after emptyObjectDigest
        [.claim creationRequest "t0", .bindTask "create-1" 7 "t1",
          .complete "create-1" 200 (creationResponse "started") "t2"])
      "create-1" creationRequest (some 7) 200 (creationResponse "started") := by
  refine (mutation_contract_kept emptyObjectDigest_injective.injOn _ ?_).replays [] _ _
    [.bindTask "create-1" 7 "t1"] _ _ _ "t2" [] rfl acquires_creationRequest (by simp)
  refine ⟨trivial, trivial, ⟨by decide, ?_⟩, trivial⟩
  decide

def doublyCompleted : List MutationOp :=
  [.claim creationRequest "t0", .bindTask "create-1" 7 "t1", .claim creationRequest "t2",
    .complete "create-1" 200 (creationResponse "not_started") "t3",
    .complete "create-1" 202 (creationResponse "recovery_required") "t4"]

def replayedStatus : Except String (Option RelayMutationClaim × MutationStore) → Option Int
  | .ok (some claim, _) => claim.responseStatus
  | _ => none

theorem first_response_overwritten :
    ¬ MutationStore.Contract emptyObjectDigest doublyCompleted := by
  intro contract
  have replays := contract.replays [] _ _
    [.bindTask "create-1" 7 "t1", .claim creationRequest "t2"] _ _ _ _ _ rfl
    acquires_creationRequest (by simp)
  obtain ⟨claim, members, claimed, _, _, answered, _⟩ := replays.replayed creationRequest "t5"
    (by decide) ⟨rfl, .inr ⟨rfl, by decide⟩, rfl⟩
  have actual : replayedStatus ((MutationStore.after emptyObjectDigest doublyCompleted).claim
      emptyObjectDigest creationRequest "t5") = some 202 := by decide +kernel
  rw [claimed] at actual
  have same : some 200 = some (202 : Int) := answered.symm.trans actual
  cases same

end Wlcodex.Relay
