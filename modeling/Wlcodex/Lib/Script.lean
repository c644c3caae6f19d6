import Wlcodex.Lib.Run

namespace Wlcodex.Lib

/-! Programs that act on a machine only through its inputs. -/

inductive Script (σ ι α : Type) where
  | done (value : α)
  | raised
  | read (next : σ → Script σ ι α)
  | call (input : ι) (next : Script σ ι α)

namespace Script

variable {σ ι α β : Type}

def bind : Script σ ι α → (α → Script σ ι β) → Script σ ι β
  | done value, next => next value
  | raised, _ => raised
  | read rest, next => read fun state => (rest state).bind next
  | call input rest, next => call input (rest.bind next)

instance : Monad (Script σ ι) where
  pure := done
  bind := bind

def get : Script σ ι σ := read done

def perform (input : ι) : Script σ ι Unit := call input (done ())

/-- `try: ... except: ...`. -/
def recover : Script σ ι α → Script σ ι α → Script σ ι α
  | done value, _ => done value
  | raised, fallback => fallback
  | read rest, fallback => read fun state => (rest state).recover fallback
  | call input rest, fallback => call input (rest.recover fallback)

def lift {τ κ : Type} (view : τ → σ) (embed : ι → κ) : Script σ ι α → Script τ κ α
  | done value => done value
  | raised => raised
  | read rest => read fun state => (rest (view state)).lift view embed
  | call input rest => call (embed input) (rest.lift view embed)

variable (step : σ → ι → σ)

def calls : Script σ ι α → σ → List ι
  | done _, _ => []
  | raised, _ => []
  | read rest, state => (rest state).calls state
  | call input rest, state => input :: rest.calls (step state input)

def final : Script σ ι α → σ → σ
  | done _, state => state
  | raised, state => state
  | read rest, state => (rest state).final state
  | call input rest, state => rest.final (step state input)

def value? : Script σ ι α → σ → Option α
  | done value, _ => some value
  | raised, _ => none
  | read rest, state => (rest state).value? state
  | call input rest, state => rest.value? (step state input)

theorem final_eq_foldl (script : Script σ ι α) (state : σ) :
    script.final step state = (script.calls step state).foldl step state := by
  induction script generalizing state with
  | done | raised => rfl
  | read rest ih => exact ih state state
  | call input rest ih => exact ih (step state input)

theorem final_bind (script : Script σ ι α) (next : α → Script σ ι β) (state : σ) :
    (script >>= next).final step state =
      match script.value? step state with
      | some value => (next value).final step (script.final step state)
      | none => script.final step state := by
  induction script generalizing state with
  | done | raised => rfl
  | read rest ih => exact ih state state
  | call input rest ih => exact ih (step state input)

/-- Every input is called where `Ok` allows it, a normal end meets `post`, and a
raise leaves a state that meets `aborted`. -/
def Holds (Ok : σ → ι → Prop) (aborted : σ → Prop) :
    Script σ ι α → σ → (α → σ → Prop) → Prop
  | done value, state, post => post value state
  | raised, state, _ => aborted state
  | read rest, state, post => (rest state).Holds Ok aborted state post
  | call input rest, state, post => Ok state input ∧ rest.Holds Ok aborted (step state input) post

variable {step} {Ok : σ → ι → Prop} {aborted : σ → Prop}

variable {post : α → σ → Prop} {script : Script σ ι α} {state : σ}

theorem holds_mono {Weaker : σ → ι → Prop} {aborts : σ → Prop} {weaker : α → σ → Prop}
    (calls : ∀ state input, Ok state input → Weaker state input)
    (raises : ∀ state, aborted state → aborts state)
    (ends : ∀ value state, post value state → weaker value state) (holds : script.Holds step Ok aborted state post) :
    script.Holds step Weaker aborts state weaker := by
  induction script generalizing state with
  | done value => exact ends value state holds
  | raised => exact raises state holds
  | read rest ih => exact ih state holds
  | call input rest ih => exact ⟨calls state input holds.1, ih holds.2⟩

variable {next : α → Script σ ι β}

theorem holds_bind {middle : α → σ → Prop} {post : β → σ → Prop}
    (first : script.Holds step Ok aborted state middle)
    (second : ∀ value state, middle value state → (next value).Holds step Ok aborted state post) :
    (script >>= next).Holds step Ok aborted state post := by
  induction script generalizing state with
  | done value => exact second value state first
  | raised => exact first
  | read rest ih => exact ih state first
  | call input rest ih => exact ⟨first.1, ih first.2⟩

theorem holds_value? (holds : script.Holds step Ok aborted state post) :
    script.Holds step Ok aborted state fun value next =>
      script.value? step state = some value ∧ post value next := by
  induction script generalizing state with
  | done value => exact ⟨rfl, holds⟩
  | raised => exact holds
  | read rest ih => exact ih state holds
  | call input rest ih => exact ⟨holds.1, ih holds.2⟩

theorem holds_pure {value : α} (ends : post value state) :
    (pure value : Script σ ι α).Holds step Ok aborted state post := ends

theorem holds_get {next : σ → Script σ ι α} (rest : (next state).Holds step Ok aborted state post) :
    (get >>= next).Holds step Ok aborted state post := rest

variable {input : ι}

theorem holds_perform {post : Unit → σ → Prop}
    (allowed : Ok state input) (ends : post () (step state input)) :
    (perform input).Holds step Ok aborted state post := ⟨allowed, ends⟩

theorem holds_call {next : Unit → Script σ ι α}
    (allowed : Ok state input) (rest : (next ()).Holds step Ok aborted (step state input) post) :
    (perform input >>= next).Holds step Ok aborted state post := ⟨allowed, rest⟩

theorem holds_recover {script fallback : Script σ ι α} {aborts : σ → Prop} {state : σ} {post : α → σ → Prop}
    (first : script.Holds step Ok aborts state post)
    (second : ∀ state, aborts state → fallback.Holds step Ok aborted state post) :
    (script.recover fallback).Holds step Ok aborted state post := by
  induction script generalizing state with
  | done value => exact first
  | raised => exact second state first
  | read rest ih => exact ih state first
  | call input rest ih => exact ⟨first.1, ih first.2⟩

def Calm : Script σ ι α → Prop
  | done _ => True
  | raised => False
  | read rest => ∀ state, (rest state).Calm
  | call _ rest => rest.Calm

theorem calm_bind (first : script.Calm)
    (second : ∀ value, (next value).Calm) : (script >>= next).Calm := by
  induction script with
  | done value => exact second value
  | raised => exact absurd first id
  | read rest ih => exact fun state => ih state (first state)
  | call input rest ih => exact ih first

theorem calm_get : (get : Script σ ι σ).Calm := fun _ => trivial

theorem calm_perform (input : ι) : (perform input : Script σ ι Unit).Calm := trivial

theorem holds_of_calm (calm : script.Calm) (state : σ) :
    script.Holds step (fun _ _ => True) aborted state fun _ _ => True := by
  induction script generalizing state with
  | done value => trivial
  | raised => exact absurd calm id
  | read rest ih => exact ih state (calm state) state
  | call input rest ih => exact ⟨trivial, ih calm (step state input)⟩

theorem along_of_holds (holds : script.Holds step Ok aborted state post) :
    Along step Ok state (script.calls step state) := by
  induction script generalizing state with
  | done | raised => trivial
  | read rest ih => exact ih state holds
  | call input rest ih => exact ⟨holds.1, ih holds.2⟩

theorem final_of_holds (holds : script.Holds step Ok aborted state fun _ state => aborted state) :
    aborted (script.final step state) := by
  induction script generalizing state with
  | done | raised => exact holds
  | read rest ih => exact ih state holds
  | call input rest ih => exact ih holds.2

theorem ends_of_holds (holds : script.Holds step Ok aborted state post) :
    (∀ value, script.value? step state = some value → post value (script.final step state)) ∧
      (script.value? step state = none → aborted (script.final step state)) := by
  induction script generalizing state with
  | done value => exact ⟨fun other same => Option.some.inj same ▸ holds, fun raised => by cases raised⟩
  | raised => exact ⟨fun other same => by (cases same), fun _ => holds⟩
  | read rest ih => exact ih state holds
  | call input rest ih => exact ih holds.2

/-! ## Rely and guarantee -/

variable (step) in
/-- Every call meets `guarantee` while the calls before it meet `rely`. -/
def Relies (rely guarantee : σ → ι → Prop) : Script σ ι α → σ → (α → σ → Prop) → Prop
  | done value, state, post => post value state
  | raised, _, _ => True
  | read rest, state, post => (rest state).Relies rely guarantee state post
  | call input rest, state, post =>
      guarantee state input ∧ (rely state input → rest.Relies rely guarantee (step state input) post)

section Relies

variable {rely guarantee : σ → ι → Prop}

variable {script : Script σ ι α} {state : σ} {post : α → σ → Prop}

theorem relies_mono {weaker : α → σ → Prop} (relies : script.Relies step rely guarantee state post)
    (ends : ∀ value state, post value state → weaker value state) :
    script.Relies step rely guarantee state weaker := by
  induction script generalizing state with
  | done value => exact ends value state relies
  | raised => trivial
  | read rest ih => exact ih state relies
  | call input rest ih => exact ⟨relies.1, fun met => ih (relies.2 met)⟩

theorem relies_bind {middle : α → σ → Prop} {post : β → σ → Prop}
    (first : script.Relies step rely guarantee state middle)
    (second : ∀ value state, middle value state →
      (next value).Relies step rely guarantee state post) :
    (script >>= next).Relies step rely guarantee state post := by
  induction script generalizing state with
  | done value => exact second value state first
  | raised => trivial
  | read rest ih => exact ih state first
  | call input rest ih => exact ⟨first.1, fun met => ih (first.2 met)⟩

theorem relies_pure {value : α} (ends : post value state) :
    (pure value : Script σ ι α).Relies step rely guarantee state post := ends

theorem relies_get {next : σ → Script σ ι α} (rest : (next state).Relies step rely guarantee state post) :
    (get >>= next).Relies step rely guarantee state post := rest

theorem relies_call {next : Unit → Script σ ι α} (met : guarantee state input)
    (rest : rely state input → (next ()).Relies step rely guarantee (step state input) post) :
    (perform input >>= next).Relies step rely guarantee state post := ⟨met, rest⟩

theorem relies_recover {fallback : Script σ ι α} (first : script.Relies step rely guarantee state post)
    (second : ∀ state, fallback.Relies step rely guarantee state post) :
    (script.recover fallback).Relies step rely guarantee state post := by
  induction script generalizing state with
  | done value => exact first
  | raised => exact second state
  | read rest ih => exact ih state first
  | call input rest ih => exact ⟨first.1, fun met => ih (first.2 met)⟩

theorem along_of_relies (relies : script.Relies step rely guarantee state post) (count : Nat)
    (met : Along step rely state ((script.calls step state).take count)) :
    Along step guarantee state ((script.calls step state).take (count + 1)) := by
  induction script generalizing state count with
  | done | raised => trivial
  | read rest ih => exact ih state relies count met
  | call input rest ih =>
      cases count with
      | zero => exact ⟨relies.1, trivial⟩
      | succ count => exact ⟨relies.1, ih (relies.2 met.1) count met.2⟩

end Relies

def Only (ok : ι → Prop) : Script σ ι α → Prop
  | done _ => True
  | raised => True
  | read rest => ∀ state, (rest state).Only ok
  | call input rest => ok input ∧ rest.Only ok

section Only

variable {ok : ι → Prop}

theorem only_bind (first : script.Only ok)
    (second : ∀ value, (next value).Only ok) : (script >>= next).Only ok := by
  induction script with
  | done value => exact second value
  | raised => trivial
  | read rest ih => exact fun state => ih state (first state)
  | call input rest ih => exact ⟨first.1, ih first.2⟩

theorem only_recover {script fallback : Script σ ι α} (first : script.Only ok)
    (second : fallback.Only ok) : (script.recover fallback).Only ok := by
  induction script with
  | done value => trivial
  | raised => exact second
  | read rest ih => exact fun state => ih state (first state)
  | call input rest ih => exact ⟨first.1, ih first.2⟩

theorem only_get : (get : Script σ ι σ).Only ok := fun _ => trivial

theorem only_perform (allowed : ok input) :
    (perform input : Script σ ι Unit).Only ok := ⟨allowed, trivial⟩

theorem final_of_only {Inv : σ → Prop} (only : script.Only ok)
    (kept : ∀ state input, ok input → Inv state → Inv (step state input)) (initial : Inv state) :
    Inv (script.final step state) := by
  induction script generalizing state with
  | done | raised => exact initial
  | read rest ih => exact ih state (only state) initial
  | call input rest ih => exact ih only.2 (kept state input only.1 initial)

/-- A program that calls nothing leaves the state as it found it, however it ends. -/
theorem holds_silent {post : β → σ → Prop} (silent : script.Only fun _ => False)
    (rest : ∀ value, (next value).Holds step Ok (· = state) state post) :
    (script >>= next).Holds step Ok (· = state) state post := by
  have unchanged : script.Holds step Ok (· = state) state fun _ now => now = state := by
    induction script with
    | done | raised => rfl
    | read rest ih => exact ih state (silent state)
    | call input rest ih => exact silent.1.elim
  refine holds_bind unchanged fun value now same => ?_
  rw [same]
  exact rest value

end Only

def Gives (post : α → Prop) : Script σ ι α → Prop
  | done value => post value
  | raised => True
  | read rest => ∀ state, (rest state).Gives post
  | call _ rest => rest.Gives post

theorem gives_bind {post : β → Prop}
    (gives : ∀ value, (next value).Gives post) : (script >>= next).Gives post := by
  induction script with
  | done value => exact gives value
  | raised => trivial
  | read rest ih => exact fun state => ih state
  | call input rest ih => exact ih

theorem holds_of_gives {post : α → Prop} (gives : script.Gives post) (state : σ) :
    script.Holds step (fun _ _ => True) (fun _ => True) state fun value _ => post value := by
  induction script generalizing state with
  | done value => exact gives
  | raised => trivial
  | read rest ih => exact ih state (gives state) state
  | call input rest ih => exact ⟨trivial, ih gives (step state input)⟩

/-! ## Invariants -/

/-- Run in a state of the invariant, the program calls only inputs of `ok`, ends
in such a state, and returns a value that meets `post`. -/
def Keeps (step : σ → ι → σ) (Inv : σ → Prop) (ok : ι → Prop) (script : Script σ ι α)
    (post : α → Prop) : Prop :=
  ∀ state, Inv state → script.Holds step (fun state input => Inv state ∧ ok input) Inv state
    fun value next => post value ∧ Inv next

section Keeps

variable {Inv : σ → Prop} {ok : ι → Prop}

theorem Keeps.bind {middle : α → Prop} {post : β → Prop} (first : script.Keeps step Inv ok middle)
    (second : ∀ value, middle value → (next value).Keeps step Inv ok post) :
    (script >>= next).Keeps step Inv ok post := fun state initial =>
  holds_bind (first state initial) fun value state both => second value both.1 state both.2

variable {post : α → Prop}

theorem final_of_keeps {state : σ} (keeps : script.Keeps step Inv ok post) (initial : Inv state) :
    Inv (script.final step state) :=
  final_of_holds (holds_mono (fun _ _ allowed => allowed) (fun _ aborted => aborted)
    (fun _ _ both => both.2) (keeps state initial))

theorem keeps_pure {value : α} (ends : post value) :
    (pure value : Script σ ι α).Keeps step Inv ok post := fun _ initial => ⟨ends, initial⟩

theorem keeps_raised : (raised : Script σ ι α).Keeps step Inv ok post :=
  fun _ initial => initial

theorem keeps_get : (get : Script σ ι σ).Keeps step Inv ok Inv := fun _ initial =>
  ⟨initial, initial⟩

theorem keeps_perform (kept : ∀ state, Inv state → Inv (step state input)) (allowed : ok input) :
    (perform input).Keeps step Inv ok fun _ => True := fun state initial =>
  ⟨⟨initial, allowed⟩, trivial, kept state initial⟩

theorem keeps_ite {condition : Prop} [Decidable condition] {first second : Script σ ι α}
    {post : α → Prop} (yes : condition → first.Keeps step Inv ok post)
    (no : ¬ condition → second.Keeps step Inv ok post) :
    (if condition then first else second).Keeps step Inv ok post := by
  split
  · exact yes ‹_›
  · exact no ‹_›

end Keeps

end Script

end Wlcodex.Lib
