import Wlcodex.Relay.Routing

namespace Wlcodex.Relay

/-! Handoffs follow the route. -/

namespace TaskState

/-- `_resolve_handoff_target`, of the texts that it is given. -/
def resolveHandoff (detail : TaskState) (role : Role) (explicitHandoffTo : String)
    (proposedNextRole : Option String) : Except String (Option Role) :=
  detail.resolveHandoffTarget role
    (if strip explicitHandoffTo = "" then none else some (Role.ofText (strip explicitHandoffTo)))
    ((proposedNextRole.filter (· ≠ "")).map fun text => Role.ofText (strip text))

/-- A required role besides the director and the sender, without a job that has passed. -/
structure Missing (detail : TaskState) (sender role : Role) : Prop where
  required : role ∈ detail.requiredRoles
  notDirector : role ≠ .director
  notSender : role ≠ sender
  unfinished : ∀ job ∈ detail.jobs, job.role = role → job.status ≠ .passed ∧ job.status ≠ .completed

variable {detail : TaskState} {sender role target : Role}

theorem mem_cleanRequiredRoles {values : List Role} (listed : role ∈ cleanRequiredRoles values) :
    role ∈ relayRoleIds := by
  suffices every : ∀ roles : List Role, (∀ known ∈ roles, known ∈ relayRoleIds) →
      ∀ known ∈ values.foldl (fun roles value =>
        if value.stripped ∈ relayRoleIds ∧ value.stripped ∉ roles then roles ++ [value.stripped]
        else roles) roles, known ∈ relayRoleIds from
    every [] (fun known none_ => by cases none_) role listed
  clear listed
  induction values with
  | nil => exact fun roles known => known
  | cons value values ih =>
      intro roles known
      rw [List.foldl_cons]
      apply ih
      split
      next added =>
        intro other listed
        rcases List.mem_append.mp listed with before | own
        · exact known other before
        · rw [List.mem_singleton.mp own]
          exact added.1
      · exact known

theorem mem_orderedRequiredRoles {required : List Role} {route : Route} :
    role ∈ orderedRequiredRoles required route ↔ role ∈ relayRoleIds ∧ role ∈ required := by
  unfold orderedRequiredRoles
  dsimp only
  split
  next audit =>
    obtain ⟨-, auditor⟩ := audit
    have place : (if Role.director ∈ (relayRoleIds.filter (· ∈ required)).filter (· ≠ .auditor)
        then 1 else 0) ≤ ((relayRoleIds.filter (· ∈ required)).filter (· ≠ .auditor)).length := by
      split
      next present => exact List.length_pos_of_mem present
      · exact Nat.zero_le _
    rw [List.mem_insertIdx place]
    simp only [List.mem_filter, decide_eq_true_eq] at auditor ⊢
    constructor
    · rintro (rfl | listed)
      · exact auditor
      · exact listed.1
    · intro listed
      by_cases own : role = .auditor
      · exact .inl own
      · exact .inr ⟨listed, own⟩
  · simp only [List.mem_filter, decide_eq_true_eq]

theorem missing_iff : detail.Missing sender role ↔
    role ∈ detail.requiredRoles ∧ role ≠ .director ∧ role ∉ detail.completedRequiredRoles sender := by
  have completed : role ∈ detail.completedRoles ↔
      ∃ job ∈ detail.jobs, job.role = role ∧ (job.status = .passed ∨ job.status = .completed) := by
    unfold completedRoles
    simp only [List.mem_map, List.mem_filter, decide_eq_true_eq]
    exact exists_congr fun job => ⟨fun ⟨⟨listed, done_⟩, own⟩ => ⟨listed, own, done_⟩,
      fun ⟨listed, own, done_⟩ => ⟨⟨listed, done_⟩, own⟩⟩
  rw [completedRequiredRoles, List.mem_cons, not_or, completed]
  constructor
  · rintro ⟨required, notDirector, notSender, unfinished⟩
    refine ⟨required, notDirector, notSender, ?_⟩
    rintro ⟨job, listed, own, status | status⟩
    · exact (unfinished job listed own).1 status
    · exact (unfinished job listed own).2 status
  · rintro ⟨required, notDirector, notSender, unfinished⟩
    exact ⟨required, notDirector, notSender, fun job listed own =>
      ⟨fun status => unfinished ⟨job, listed, own, .inl status⟩,
        fun status => unfinished ⟨job, listed, own, .inr status⟩⟩⟩

theorem Missing.ordered (missing : detail.Missing sender role) (route : Route) :
    role ∈ orderedRequiredRoles detail.requiredRoles route :=
  mem_orderedRequiredRoles.mpr ⟨mem_cleanRequiredRoles missing.required, missing.required⟩

theorem nextRequired_eq_some (next : detail.nextRequired sender = some role) :
    detail.Missing sender role ∧ ∃ earlier later,
      orderedRequiredRoles detail.requiredRoles detail.decidedRoute = earlier ++ role :: later ∧
      ∀ other ∈ earlier, ¬detail.Missing sender other := by
  obtain ⟨found, earlier, later, ordered, first⟩ := List.find?_eq_some_iff_append.mp next
  have listed : role ∈ orderedRequiredRoles detail.requiredRoles detail.decidedRoute := by
    rw [ordered]
    exact List.mem_append_right earlier List.mem_cons_self
  refine ⟨missing_iff.mpr ⟨(mem_orderedRequiredRoles.mp listed).2, of_decide_eq_true found⟩,
    earlier, later, ordered, fun other before missing => ?_⟩
  have skipped := first other before
  rw [Bool.not_eq_true', decide_eq_false_iff_not] at skipped
  exact skipped (missing_iff.mp missing).2

theorem nextRequired_of_missing (missing : detail.Missing sender role) :
    ∃ next, detail.nextRequired sender = some next := by
  cases found : detail.nextRequired sender with
  | some next => exact ⟨next, rfl⟩
  | none =>
      have skipped := List.find?_eq_none.mp found role (missing.ordered _)
      exact absurd (decide_eq_true (missing_iff.mp missing).2) skipped

theorem resolved_target {explicit proposed : Option Role}
    (resolved : detail.resolveHandoffTarget sender explicit proposed = .ok (some target)) :
    (target = .director ∨ target ∈ detail.requiredRoles) ∧
      ∀ next, detail.nextRequired sender = some next → target = next := by
  unfold resolveHandoffTarget at resolved
  split at resolved
  · cases resolved
  split at resolved
  · cases resolved
  cases proposed with
  | none => cases resolved
  | some proposed =>
      dsimp only at resolved
      split at resolved
      · -- back to the director: nothing is missing
        cases found : detail.nextRequired sender with
        | some required =>
            rw [found] at resolved
            cases resolved
        | none =>
            rw [found] at resolved
            cases resolved
            exact ⟨.inl rfl, fun next none_ => by cases none_⟩
      split at resolved
      · -- a default target off the route is replaced
        split at resolved
        · cases found : detail.nextRequired sender with
          | some required =>
              rw [found] at resolved
              cases resolved
              exact ⟨.inr (nextRequired_eq_some found).1.required, fun next same => by cases same; rfl⟩
          | none =>
              rw [found] at resolved
              cases resolved
              exact ⟨.inl rfl, fun next none_ => by cases none_⟩
        · cases resolved
      next listed =>
      cases found : detail.nextRequired sender with
      | some required =>
          rw [found] at resolved
          dsimp only at resolved
          split at resolved
          · cases resolved
          next same =>
            cases resolved
            exact ⟨.inr (not_not.mp listed), fun next own => by cases own; exact not_not.mp same⟩
      | none =>
          rw [found] at resolved
          cases resolved
          exact ⟨.inr (not_not.mp listed), fun next none_ => by cases none_⟩

/-- A handoff goes to the director or a required role; while a role is missing, it goes to the first such
role of the route, which is neither the director nor behind any role that is missing. -/
theorem handoff_follows_route {explicitHandoffTo : String} {proposedNextRole : Option String}
    (resolved : detail.resolveHandoff sender explicitHandoffTo proposedNextRole = .ok (some target)) :
    (target = .director ∨ target ∈ detail.requiredRoles) ∧
      ∀ role, detail.Missing sender role → detail.Missing sender target ∧ ∃ earlier later,
        orderedRequiredRoles detail.requiredRoles detail.decidedRoute = earlier ++ target :: later ∧
        role ∈ target :: later ∧ ∀ other ∈ earlier, ¬detail.Missing sender other := by
  obtain ⟨allowed, first⟩ := resolved_target resolved
  refine ⟨allowed, fun role missing => ?_⟩
  obtain ⟨next, found⟩ := nextRequired_of_missing missing
  obtain rfl := first next found
  obtain ⟨own, earlier, later, ordered, before⟩ := nextRequired_eq_some found
  refine ⟨own, earlier, later, ordered, ?_, before⟩
  have listed := missing.ordered detail.decidedRoute
  rw [ordered, List.mem_append] at listed
  exact listed.resolve_left fun early => before role early missing

def planned : TaskState :=
  after 0 [.saveArtifact (some .director) .routingDecision
      { route := .fullRelay, requiredRoles := relayRoleIds },
    .updateRoleStatus .director .passed, .updateRoleStatus .architect .passed]

theorem planned_follows_route :
    planned.resolveHandoff .implementer " tester" (some "tester") = .ok (some .tester) ∧
    planned.Missing .implementer .auditor ∧ planned.Missing .implementer .tester := by
  have resolved : planned.resolveHandoff .implementer " tester" (some "tester") = .ok (some .tester) := by
    decide +kernel
  have missing : planned.Missing .implementer .auditor :=
    missing_iff.mpr (by decide +kernel)
  exact ⟨resolved, missing, ((handoff_follows_route resolved).2 .auditor missing).1⟩

end TaskState

end Wlcodex.Relay
