import Mathlib.Data.List.Basic

namespace Wlcodex.Lib

/-! Runs of a machine given by its step function.  A run is a list of inputs
folded over the state. -/

/-! Every place of a list, with what comes before and after it. -/

theorem forall_split_nil {α : Type*} {Holds : List α → α → List α → Prop} (earlier : List α) (entry : α)
    (later : List α) (split : [] = earlier ++ entry :: later) : Holds earlier entry later := by
  simp at split

theorem forall_split_cons {α : Type*} {Holds : List α → α → List α → Prop} {head : α} {rest : List α}
    (first : Holds [] head rest)
    (others : ∀ earlier entry later, rest = earlier ++ entry :: later →
      Holds (head :: earlier) entry later) :
    ∀ earlier entry later, head :: rest = earlier ++ entry :: later → Holds earlier entry later := by
  intro earlier entry later split
  cases earlier with
  | nil =>
      cases split
      exact first
  | cons other earlier =>
      obtain ⟨rfl, onward⟩ := List.cons_eq_cons.mp split
      exact others earlier entry later onward

section Run

variable {σ ι : Type*} (step : σ → ι → σ)

/-- Every step of the run, taken in the state it is taken in, meets `Ok`. -/
def Along (Ok : σ → ι → Prop) : σ → List ι → Prop
  | _, [] => True
  | state, input :: rest => Ok state input ∧ Along Ok (step state input) rest

instance Along.decidable (Ok : σ → ι → Prop) [∀ state input, Decidable (Ok state input)] :
    (state : σ) → (inputs : List ι) → Decidable (Along step Ok state inputs)
  | _, [] => isTrue trivial
  | state, input :: rest =>
      have := Along.decidable Ok (step state input) rest
      inferInstanceAs (Decidable (Ok state input ∧ Along step Ok (step state input) rest))

variable {step}

theorem along_true (state : σ) (inputs : List ι) : Along step (fun _ _ => True) state inputs := by
  induction inputs generalizing state with
  | nil => trivial
  | cons input rest ih => exact ⟨trivial, ih (step state input)⟩

variable {Ok : σ → ι → Prop}

theorem along_append (state : σ) (first second : List ι) :
    Along step Ok state (first ++ second) ↔
      Along step Ok state first ∧ Along step Ok (first.foldl step state) second := by
  induction first generalizing state with
  | nil => simp [Along]
  | cons input rest ih => simp [Along, ih, and_assoc]

variable {state : σ} {inputs : List ι}

theorem along_mono {Weaker : σ → ι → Prop}
    (weakens : ∀ state input, Ok state input → Weaker state input) (admissible : Along step Ok state inputs) :
    Along step Weaker state inputs := by
  induction inputs generalizing state with
  | nil => trivial
  | cons input rest ih =>
      exact ⟨weakens state input admissible.1, ih admissible.2⟩

theorem along_congr {First Second : σ → ι → Prop}
    (agree : Along step (fun state input => First state input ↔ Second state input) state inputs) :
    Along step First state inputs ↔ Along step Second state inputs := by
  induction inputs generalizing state with
  | nil => exact Iff.rfl
  | cons input rest ih => exact and_congr agree.1 (ih agree.2)

theorem along_mem (admissible : Along step Ok state inputs) :
    Along step (fun state input => Ok state input ∧ input ∈ inputs) state inputs := by
  induction inputs generalizing state with
  | nil => trivial
  | cons input rest ih =>
      refine ⟨⟨admissible.1, List.mem_cons_self⟩, along_mono ?_ (ih admissible.2)⟩
      exact fun _ _ taken => ⟨taken.1, List.mem_cons_of_mem input taken.2⟩

theorem forall_of_along {ok : ι → Prop} {state : σ} {inputs : List ι}
    (admissible : Along step (fun _ input => ok input) state inputs) :
    ∀ input ∈ inputs, ok input := by
  induction inputs generalizing state with
  | nil => simp
  | cons input rest ih =>
      exact List.forall_mem_cons.mpr ⟨admissible.1, ih admissible.2⟩

theorem along_of_forall {ok : ι → Prop} (every : ∀ input ∈ inputs, ok input) :
    Along step (fun _ input => ok input) state inputs := by
  induction inputs generalizing state with
  | nil => trivial
  | cons input rest ih =>
      rw [List.forall_mem_cons] at every
      exact ⟨every.1, ih every.2⟩

theorem along_and {First Second : σ → ι → Prop} :
    Along step (fun state input => First state input ∧ Second state input) state inputs ↔
      Along step First state inputs ∧ Along step Second state inputs := by
  induction inputs generalizing state with
  | nil => exact ⟨fun _ => ⟨trivial, trivial⟩, fun _ => trivial⟩
  | cons input rest ih => exact (and_congr_right fun _ => ih).trans and_and_and_comm

theorem invariant_foldl {Ok : σ → ι → Prop} {Inv : σ → Prop}
    (keeps : ∀ state input, Inv state → Ok state input → Inv (step state input)) {state : σ} {inputs : List ι}
    (initial : Inv state) (admissible : Along step Ok state inputs) :
    Inv (inputs.foldl step state) := by
  induction inputs generalizing state with
  | nil => exact initial
  | cons input rest ih =>
      exact ih (keeps state input initial admissible.1) admissible.2

theorem reached_iff_along {Ok : σ → ι → Prop} {Inv : σ → Prop}
    (exact_ : ∀ state input, Inv state → (Inv (step state input) ↔ Ok state input))
    {state : σ} {inputs : List ι} (initial : Inv state) :
    (∀ earlier later, inputs = earlier ++ later → Inv (earlier.foldl step state)) ↔
      Along step Ok state inputs := by
  induction inputs generalizing state with
  | nil =>
      refine ⟨fun _ => trivial, ?_⟩
      intro _ earlier later split
      obtain ⟨rfl, rfl⟩ := List.append_eq_nil_iff.mp split.symm
      exact initial
  | cons input rest ih =>
      constructor
      · intro all
        have next := all [input] rest rfl
        refine ⟨(exact_ state input initial).mp next, (ih next).mp ?_⟩
        intro earlier later split
        exact all (input :: earlier) later (congrArg (List.cons input) split)
      · rintro ⟨ok, admissible⟩ earlier later split
        have next := (exact_ state input initial).mpr ok
        rcases List.cons_eq_append_iff.mp split with ⟨rfl, -⟩ | ⟨onward, rfl, onwardSplit⟩
        · exact initial
        · exact (ih next).mpr admissible onward later onwardSplit

theorem along_of_invariant {Guarantee : σ → ι → Prop} {Inv : σ → Prop}
    (keeps : ∀ state input, Inv state → Ok state input → Inv (step state input))
    (guarantees : ∀ state input, Inv state → Ok state input → Guarantee state input)
    (initial : Inv state) (admissible : Along step Ok state inputs) :
    Along step Guarantee state inputs := by
  induction inputs generalizing state with
  | nil => trivial
  | cons input rest ih =>
      exact ⟨guarantees state input initial admissible.1,
        ih (keeps state input initial admissible.1) admissible.2⟩

theorem related_iff_along {Rel : σ → σ → Prop} (refl : ∀ state, Rel state state)
    (trans : ∀ first second third, Rel first second → Rel second third → Rel first third) :
    (∀ earlier middle later, inputs = earlier ++ middle ++ later →
      Rel (earlier.foldl step state) ((earlier ++ middle).foldl step state)) ↔
      Along step (fun state input => Rel state (step state input)) state inputs := by
  induction inputs generalizing state with
  | nil =>
      refine ⟨fun _ => trivial, fun _ earlier middle later split => ?_⟩
      obtain ⟨both, -⟩ := List.append_eq_nil_iff.mp split.symm
      obtain ⟨rfl, rfl⟩ := List.append_eq_nil_iff.mp both
      exact refl state
  | cons input rest ih =>
      constructor
      · intro related
        refine ⟨related [] [input] rest rfl, ih.mp fun earlier middle later split => ?_⟩
        exact related (input :: earlier) middle later (by rw [split]; rfl)
      · rintro ⟨first, others⟩ earlier middle later split
        cases earlier with
        | cons head tail =>
            obtain ⟨rfl, onward⟩ := List.cons_eq_cons.mp split
            exact ih.mpr others tail middle later onward
        | nil =>
            cases middle with
            | nil => exact refl state
            | cons head tail =>
                obtain ⟨rfl, onward⟩ := List.cons_eq_cons.mp split
                exact trans _ _ _ first (ih.mpr others [] tail later onward)

/-! A list in the state that steps only append to. -/

section Column

variable {α : Type*} {column : σ → List α} {extra : σ → ι → List α}

theorem column_le (appends : ∀ state input, column (step state input) = column state ++ extra state input)
    (state : σ) (inputs : List ι) :
    (column state).length ≤ (column (inputs.foldl step state)).length := by
  induction inputs generalizing state with
  | nil => exact Nat.le_refl _
  | cons input rest ih =>
      refine Nat.le_trans ?_ (ih (step state input))
      rw [appends, List.length_append]
      exact Nat.le_add_right _ _

theorem column_perm_iff
    (appends : ∀ state input, column (step state input) = column state ++ extra state input)
    {state : σ} {inputs : List ι} :
    (column (inputs.foldl step state)).Perm (column state) ↔
      Along step (fun state input => extra state input = []) state inputs := by
  induction inputs generalizing state with
  | nil => exact ⟨fun _ => trivial, fun _ => .refl _⟩
  | cons input rest ih =>
      have kept (nothing : extra state input = []) : column (step state input) = column state := by
        rw [appends, nothing, List.append_nil]
      constructor
      · intro same
        have long := same.length_eq
        have later := column_le appends (step state input) rest
        have now := congrArg List.length (appends state input)
        rw [List.foldl_cons] at long
        rw [List.length_append] at now
        have nothing : extra state input = [] := List.eq_nil_of_length_eq_zero (by omega)
        refine ⟨nothing, ih.mp ?_⟩
        rw [kept nothing]
        exact same
      · rintro ⟨nothing, others⟩
        rw [← kept nothing]
        exact ih.mpr others

end Column

theorem foldl_eq_of_forall
    (fixed : ∀ input ∈ inputs, step state input = state) : inputs.foldl step state = state := by
  induction inputs with
  | nil => rfl
  | cons input rest ih =>
      rw [List.forall_mem_cons] at fixed
      rw [List.foldl_cons, fixed.1, ih fixed.2]

end Run

/-! A step that may raise: the run goes on from the state that the step was taken in. -/

section Fallible

variable {σ ι : Type*} {step : σ → ι → Option σ}

theorem invariant_foldlM {Ok : σ → ι → Prop} {Inv : σ → Prop}
    (keeps : ∀ state input next, Inv state → Ok state input → step state input = some next → Inv next)
    {state final : σ} {inputs : List ι} (initial : Inv state)
    (admissible : Along (fun state input => (step state input).getD state) Ok state inputs)
    (done : inputs.foldlM step state = some final) : Inv final := by
  induction inputs generalizing state with
  | nil =>
      cases done
      exact initial
  | cons input rest ih =>
      obtain ⟨next, stepped, onward⟩ := Option.bind_eq_some_iff.mp done
      have admissible : Ok state input ∧ Along _ Ok ((step state input).getD state) rest := admissible
      rw [stepped, Option.getD_some] at admissible
      exact ih (keeps state input next initial admissible.1 stepped) admissible.2 onward

end Fallible

end Wlcodex.Lib
