import Mathlib.Data.List.Basic

namespace Wlcodex.Lib

/-! Programs on a state that may raise, and generators. -/

inductive Ending (α : Type) where
  | value (value : α)
  | raised (message : String)
  /-- the consumer of a generator raised -/
  | left (message : String)
  /-- it has not come to an end within the steps that are looked at -/
  | running

def Ending.leave {α : Type} : Ending α → Ending α
  | raised message => left message
  | ended => ended

def Ending.resume {α : Type} : Ending α → Ending α
  | left message => raised message
  | ended => ended

structure Act (σ α : Type) where
  run : σ → Ending α × σ

namespace Act

variable {σ κ α β ι μ : Type}

protected def bind (act : Act σ α) (next : α → Act σ β) : Act σ β where
  run state := match act.run state with
    | (.value value, state) => (next value).run state
    | (.raised message, state) => (.raised message, state)
    | (.left message, state) => (.left message, state)
    | (.running, state) => (.running, state)

instance : Monad (Act σ) where
  pure value := ⟨fun state => (.value value, state)⟩
  bind := Act.bind

def get : Act σ σ := ⟨fun state => (.value state, state)⟩

def modify (change : σ → σ) : Act σ Unit := ⟨fun state => (.value (), change state)⟩

def raise (message : String) : Act σ α := ⟨fun state => (.raised message, state)⟩

def unfinished : Act σ α := ⟨fun state => (.running, state)⟩

/-- `try: ... except Exception as exc: ...`: what comes of the part that is tried. -/
def attempt (act : Act σ α) : Act σ (Except String α) where
  run state := match act.run state with
    | (.value value, state) => (.value (.ok value), state)
    | (.raised message, state) => (.value (.error message), state)
    | (.left message, state) => (.left message, state)
    | (.running, state) => (.running, state)

def leaving (act : Act σ α) : Act σ α := ⟨fun state => ((act.run state).1.leave, (act.run state).2)⟩

def consumed (act : Act σ α) : Act σ α := ⟨fun state => ((act.run state).1.resume, (act.run state).2)⟩

/-- `for item in items: ...` with what the body accumulates, until it leaves the loop. -/
def foldEach (body : β → ι → Act σ (Option β)) : β → List ι → Act σ (Option β)
  | gathered, [] => pure (some gathered)
  | gathered, item :: rest => do
      match ← body gathered item with
      | some gathered => foldEach body gathered rest
      | none => pure none

def first (act : Act σ α) : Act (σ × κ) α where
  run state := ((act.run state.1).1, (act.run state.1).2, state.2)

def second (act : Act κ α) : Act (σ × κ) α where
  run state := ((act.run state.2).1, state.1, (act.run state.2).2)

section Step

variable {act : Act σ α} {next : α → Act σ β} {state after : σ} {value : α} {message : String}

theorem run_bind (act : Act σ α) (next : α → Act σ β) (state : σ) :
    (act >>= next).run state = match act.run state with
      | (.value value, state) => (next value).run state
      | (.raised message, state) => (.raised message, state)
      | (.left message, state) => (.left message, state)
      | (.running, state) => (.running, state) := rfl

@[simp] theorem run_pure (value : α) (state : σ) : (pure value : Act σ α).run state = (.value value, state) := rfl

@[simp] theorem run_get_bind (next : σ → Act σ β) (state : σ) : (get >>= next).run state = (next state).run state := rfl

@[simp] theorem run_modify_bind (change : σ → σ) (next : Unit → Act σ β) (state : σ) :
    (modify change >>= next).run state = (next ()).run (change state) := rfl

theorem bind_value (ended : act.run state = (.value value, after)) :
    (act >>= next).run state = (next value).run after := by
  rw [run_bind, ended]

theorem bind_raised (ended : act.run state = (.raised message, after)) :
    (act >>= next).run state = (.raised message, after) := by
  rw [run_bind, ended]

theorem bind_left (ended : act.run state = (.left message, after)) :
    (act >>= next).run state = (.left message, after) := by
  rw [run_bind, ended]

theorem bind_running (ended : act.run state = (.running, after)) :
    (act >>= next).run state = (.running, after) := by
  rw [run_bind, ended]

theorem attempt_value (ended : act.run state = (.value value, after)) :
    act.attempt.run state = (.value (.ok value), after) := by
  simp only [attempt, ended]

theorem attempt_raised (ended : act.run state = (.raised message, after)) :
    act.attempt.run state = (.value (.error message), after) := by
  simp only [attempt, ended]

theorem first_eq {both : σ × κ} {ended : Ending α} (result : act.run both.1 = (ended, after)) :
    (act.first : Act (σ × κ) α).run both = (ended, after, both.2) := by
  simp only [first, result]

end Step

def Settles (act : Act σ α) : Prop :=
  ∀ state, ∃ after, (∃ value, act.run state = (.value value, after)) ∨
    ∃ message, act.run state = (.raised message, after)

theorem settles_bind {act : Act σ α} {next : α → Act σ β} (settles : act.Settles)
    (onward : ∀ value, (next value).Settles) : (act >>= next).Settles := by
  intro state
  obtain ⟨after, ⟨value, ended⟩ | ⟨message, ended⟩⟩ := settles state
  · rw [bind_value ended]
    exact onward value after
  · exact ⟨after, .inr ⟨message, bind_raised ended⟩⟩

theorem settles_get : (get : Act σ σ).Settles := fun state => ⟨state, .inl ⟨state, rfl⟩⟩

theorem settles_modify (change : σ → σ) : (modify change).Settles := fun state => ⟨change state, .inl ⟨(), rfl⟩⟩

theorem settles_pure (value : α) : (pure value : Act σ α).Settles := fun state => ⟨state, .inl ⟨value, rfl⟩⟩

theorem settles_raise (message : String) : (raise message : Act σ α).Settles :=
  fun state => ⟨state, .inr ⟨message, rfl⟩⟩

theorem settles_ite {condition : Prop} [Decidable condition] {act other : Act σ α} (yes : act.Settles)
    (no : other.Settles) : (if condition then act else other).Settles := by
  split
  · exact yes
  · exact no

theorem settles_first {act : Act σ α} (settles : act.Settles) : (act.first : Act (σ × κ) α).Settles := by
  intro both
  obtain ⟨after, ended⟩ := settles both.1
  exact ⟨(after, both.2), ended.imp (fun ⟨value, ended⟩ => ⟨value, first_eq ended⟩)
    fun ⟨message, ended⟩ => ⟨message, first_eq ended⟩⟩

theorem settles_second {act : Act κ α} (settles : act.Settles) : (act.second : Act (σ × κ) α).Settles := by
  intro both
  obtain ⟨after, ended⟩ := settles both.2
  refine ⟨(both.1, after), ended.imp (fun ⟨value, ended⟩ => ⟨value, ?_⟩) fun ⟨message, ended⟩ => ⟨message, ?_⟩⟩ <;>
    exact congrArg (fun result => (result.1, both.1, result.2)) ended

@[ext] protected theorem ext {act other : Act σ α} (same : ∀ state, act.run state = other.run state) : act = other := by
  exact congrArg Act.mk (funext same)

protected theorem bind_assoc {γ : Type} (act : Act σ α) (next : α → Act σ β) (last : β → Act σ γ) :
    (act >>= next) >>= last = act >>= fun value => next value >>= last := by
  ext1 state
  rw [run_bind, run_bind, run_bind]
  cases act.run state with
  | mk ended after => cases ended <;> rfl

protected theorem pure_bind (value : α) (next : α → Act σ β) : (pure value : Act σ α) >>= next = next value := rfl

protected theorem ite_bind {condition : Prop} [Decidable condition] (act other : Act σ α) (next : α → Act σ β) :
    (if condition then act else other) >>= next = if condition then act >>= next else other >>= next :=
  apply_ite (· >>= next) condition act other

def Meets (act : Act σ α) (post : Ending α → σ → Prop) (state : σ) : Prop :=
  post (act.run state).1 (act.run state).2

def Onward (next : α → Act σ β) (post : Ending β → σ → Prop) : Ending α → σ → Prop
  | .value value, state => (next value).Meets post state
  | .raised message, state => post (.raised message) state
  | .left message, state => post (.left message) state
  | .running, state => post .running state

section Meets

variable {act : Act σ α} {next : α → Act σ β} {post : Ending β → σ → Prop} {state : σ}

theorem meets_bind : (act >>= next).Meets post state ↔ act.Meets (Onward next post) state := by
  unfold Meets
  rw [run_bind]
  split <;> rename_i ended <;> rw [ended] <;> rfl

theorem meets_get_bind {next : σ → Act σ β} :
    (get >>= next).Meets post state ↔ (next state).Meets post state := Iff.rfl

theorem meets_modify_bind {change : σ → σ} {next : Unit → Act σ β} :
    (modify change >>= next).Meets post state ↔ (next ()).Meets post (change state) := Iff.rfl

theorem Meets.mono {post stronger : Ending α → σ → Prop} (met : act.Meets stronger state)
    (weakens : ∀ ended state, stronger ended state → post ended state) : act.Meets post state :=
  weakens _ _ met

variable {post : Ending α → σ → Prop}

theorem meets_congr {other : Act σ α} {before : σ} (same : act.run state = other.run before) :
    act.Meets post state ↔ other.Meets post before := by
  unfold Meets
  rw [same]

def Tried (post : Ending (Except String α) → σ → Prop) : Ending α → σ → Prop
  | .value value, state => post (.value (.ok value)) state
  | .raised message, state => post (.value (.error message)) state
  | .left message, state => post (.left message) state
  | .running, state => post .running state

theorem meets_attempt {post : Ending (Except String α) → σ → Prop} :
    act.attempt.Meets post state ↔ act.Meets (Tried post) state := by
  unfold Meets attempt
  dsimp only
  split <;> rename_i ended <;> rw [ended] <;> rfl

theorem meets_leaving :
    act.leaving.Meets post state ↔ act.Meets (fun ended state => post ended.leave state) state := Iff.rfl

theorem meets_consumed :
    act.consumed.Meets post state ↔ act.Meets (fun ended state => post ended.resume state) state := Iff.rfl

theorem meets_foldEach {body : β → ι → Act σ (Option β)} {i : β → List ι → σ → Prop}
    {post : Ending (Option β) → σ → Prop}
    (last : ∀ gathered state, i gathered [] state → post (.value (some gathered)) state)
    (each : ∀ gathered item rest state, i gathered (item :: rest) state →
      (body gathered item).Meets (fun ended state => match ended with
        | .value (some gathered) => i gathered rest state
        | ended => post ended state) state)
    {gathered : β} {items : List ι} {state : σ} (initial : i gathered items state) :
    (foldEach body gathered items).Meets post state := by
  induction items generalizing gathered state with
  | nil => exact last gathered state initial
  | cons item rest ih =>
      refine meets_bind.mpr ((each gathered item rest state initial).mono ?_)
      intro ended state kept
      cases ended with
      | value goesOn =>
          cases goesOn with
          | some gathered => exact ih kept
          | none => exact kept
      | raised | left | running => exact kept

end Meets

def Keeps (measure : σ → μ) (act : Act σ α) : Prop := ∀ state, measure (act.run state).2 = measure state

section Keeps

variable {measure : σ → μ} {act : Act σ α} {next : α → Act σ β}

theorem keeps_pure (value : α) : (pure value : Act σ α).Keeps measure := fun _ => rfl

theorem keeps_get : get.Keeps measure := fun _ => rfl

theorem keeps_raise (message : String) : (raise message : Act σ α).Keeps measure := fun _ => rfl

theorem keeps_modify {change : σ → σ} (kept : ∀ state, measure (change state) = measure state) :
    (modify change).Keeps measure := kept

theorem keeps_bind (kept : act.Keeps measure) (onward : ∀ value, (next value).Keeps measure) :
    (act >>= next).Keeps measure := by
  intro state
  rw [run_bind]
  have before := kept state
  split <;> rename_i ended <;> rw [ended] at before
  · exact (onward _ _).trans before
  all_goals exact before

theorem keeps_ite {condition : Prop} [Decidable condition] {other : Act σ α} (yes : act.Keeps measure)
    (no : other.Keeps measure) : (if condition then act else other).Keeps measure := by
  split
  · exact yes
  · exact no

theorem keeps_leaving (kept : act.Keeps measure) : act.leaving.Keeps measure := kept

theorem keeps_first {measure : σ × κ → μ} (kept : ∀ other, act.Keeps fun inner => measure (inner, other)) :
    (act.first : Act (σ × κ) α).Keeps measure := fun both => kept both.2 both.1

theorem keeps_second {act : Act κ α} {measure : σ × κ → μ}
    (kept : ∀ other, act.Keeps fun inner => measure (other, inner)) :
    (act.second : Act (σ × κ) α).Keeps measure := fun both => kept both.1 both.2

theorem Keeps.of_eq {other : σ → κ} (kept : act.Keeps measure)
    (eq : ∀ before after, measure after = measure before → other after = other before) : act.Keeps other :=
  fun state => eq state _ (kept state)

theorem meets_bind_keeps {post : Ending β → σ → Prop} {state : σ} (kept : act.Keeps measure)
    (stops : ∀ (ended : Ending β) (after : σ), (∀ value, ended ≠ .value value) → measure after = measure state →
      post ended after)
    (onward : ∀ value after, act.run state = (.value value, after) → measure after = measure state →
      (next value).Meets post after) : (act >>= next).Meets post state := by
  have same := kept state
  refine meets_bind.mpr ?_
  unfold Meets
  cases ran : act.run state with
  | mk ended after =>
      rw [ran] at same
      cases ended with
      | value value => exact onward value after ran same
      | raised | left | running => exact stops _ after (fun _ => nofun) same

end Keeps

/-- From the precondition, a value comes with the postcondition, and any other end with `broken`. -/
def Leads (pre : σ → Prop) (act : Act σ α) (post : α → σ → Prop) (broken : σ → Prop) : Prop :=
  ∀ state, pre state → act.Meets (fun ended after => (∀ value, ended = .value value → post value after) ∧
    ((∀ value, ended ≠ .value value) → broken after)) state

section Leads

variable {pre : σ → Prop} {act : Act σ α} {m : α → σ → Prop} {next : α → Act σ β} {post : β → σ → Prop}
  {broken : σ → Prop}

theorem leads_pure {value : β} (given : ∀ state, pre state → post value state) :
    Leads pre (pure value) post broken := by
  intro state holds
  refine ⟨fun other same => ?_, fun early => absurd rfl (early value)⟩
  cases same
  exact given state holds

theorem leads_second_modify {change : κ → κ} {pre broken : σ × κ → Prop} {post : Unit → σ × κ → Prop}
    (given : ∀ both, pre both → post () (both.1, change both.2)) :
    Leads pre ((modify change).second : Act (σ × κ) Unit) post broken :=
  fun both holds => ⟨fun _ _ => given both holds, fun early => absurd rfl (early ())⟩

theorem leads_bind (first : Leads pre act m broken) (onward : ∀ value, Leads (m value) (next value) post broken) :
    Leads pre (act >>= next) post broken := by
  intro state holds
  refine meets_bind.mpr ((first state holds).mono ?_)
  rintro ended after ⟨goes, stops⟩
  cases ended with
  | value value => exact onward value after (goes value rfl)
  | raised | left | running =>
      refine ⟨fun value same => ?_, fun _ => stops fun value same => ?_⟩ <;> cases same

theorem leads_bind_assoc {γ : Type} {post : γ → σ → Prop} {last : β → Act σ γ}
    (leads : Leads pre ((act >>= next) >>= last) post broken) :
    Leads pre (act >>= fun value => next value >>= last) post broken := by
  rw [Act.bind_assoc] at leads
  exact leads

theorem leads_get_bind {next : σ → Act σ β}
    (onward : ∀ state, pre state → Leads (· = state) (next state) post broken) : Leads pre (get >>= next) post broken :=
  fun state holds => onward state holds state rfl

theorem leads_ite {condition : Prop} [Decidable condition] {act other : Act σ β}
    (yes : condition → Leads pre act post broken) (no : ¬condition → Leads pre other post broken) :
    Leads pre (if condition then act else other) post broken := by
  split
  case isTrue holds => exact yes holds
  case isFalse fails => exact no fails

theorem Leads.mono {weaker : σ → Prop} {wider : β → σ → Prop} {act : Act σ β} (leads : Leads pre act post broken)
    (before : ∀ state, weaker state → pre state) (after : ∀ value state, post value state → wider value state) :
    Leads weaker act wider broken := by
  intro state holds
  refine (leads state (before state holds)).mono ?_
  rintro ended reached ⟨goes, stops⟩
  exact ⟨fun value same => after value reached (goes value same), stops⟩

theorem Keeps.leads {measure : σ → μ} (kept : act.Keeps measure)
    (same : ∀ before after, measure after = measure before → pre before → pre after)
    (stops : ∀ state, pre state → broken state) : Leads pre act (fun _ => pre) broken := by
  intro state holds
  have reached := same _ _ (kept state) holds
  exact ⟨fun _ _ => reached, fun _ => stops _ reached⟩

end Leads

/-! ### Programs that do not raise by themselves -/

def Unraised (act : Act σ α) : Prop := ∀ state message, (act.run state).1 ≠ .raised message

theorem unraised_pure (value : α) : (pure value : Act σ α).Unraised := fun _ _ => nofun

theorem unraised_modify (change : σ → σ) : (modify change).Unraised := fun _ _ => nofun

theorem unraised_leaving (act : Act σ α) : act.leaving.Unraised := by
  intro state message
  change (act.run state).1.leave ≠ _
  cases (act.run state).1 <;> nofun

theorem unraised_second {act : Act κ α} (unraised : act.Unraised) : (act.second : Act (σ × κ) α).Unraised :=
  fun both => unraised both.2

theorem unraised_bind {act : Act σ α} {next : α → Act σ β} (unraised : act.Unraised)
    (onward : ∀ value, (next value).Unraised) : (act >>= next).Unraised := by
  intro state message
  have first := unraised state
  rw [run_bind]
  split <;> rename_i ended
  · exact onward _ _ message
  · rw [ended] at first
    exact absurd rfl (first _)
  · nofun
  · nofun

def Ensures (post : α → σ → Prop) (act : Act σ α) : Prop :=
  ∀ state value after, act.run state = (.value value, after) → post value after

section Ensures

variable {post : β → σ → Prop} {act : Act σ α} {next : α → Act σ β}

theorem ensures_bind (onward : ∀ value, (next value).Ensures post) : (act >>= next).Ensures post := by
  intro state value after ended
  rw [run_bind] at ended
  split at ended
  · exact onward _ _ _ _ ended
  all_goals cases ended

theorem ensures_bind_keeps {m : σ → μ} {p : μ → Prop}
    (settled : act.Ensures fun _ state => p (m state)) (kept : ∀ value, (next value).Keeps m) :
    (act >>= next).Ensures fun _ state => p (m state) := by
  intro state value after ended
  rw [run_bind] at ended
  split at ended
  case h_1 given between first =>
    have same := kept given between
    rw [ended] at same
    rw [same]
    exact settled _ _ _ first
  all_goals cases ended

end Ensures

end Act

end Wlcodex.Lib
