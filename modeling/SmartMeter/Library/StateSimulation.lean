import Mathlib.Logic.Function.Basic

/-!
Simulation of one state program by another through an abstraction of the state, and
runs of a step function over a list of inputs.
-/

namespace StateSimulation

variable {σ τ α β ι : Type}

@[simp] theorem pure_value (value : α) (state : σ) :
    (Pure.pure (value, state) : Id (α × σ)).1 = value := rfl

@[simp] theorem pure_state (value : α) (state : σ) :
    (Pure.pure (value, state) : Id (α × σ)).2 = state := rfl

/-- `concrete` returns what `abstract` returns and ends in a state that abstracts to its end. -/
def Simulates (view : σ → τ) (concrete : StateM σ α) (abstract : StateM τ α) : Prop :=
  ∀ state, (concrete.run state).1 = (abstract.run (view state)).1 ∧
    view (concrete.run state).2 = (abstract.run (view state)).2

theorem Simulates.pure {view : σ → τ} (value : α) :
    Simulates view (Pure.pure value) (Pure.pure value) :=
  fun _ => ⟨rfl, rfl⟩

theorem run_bind (first : StateM σ α) (second : α → StateM σ β) (state : σ) :
    (first >>= second).run state =
      (second (first.run state).1).run (first.run state).2 := rfl

theorem Simulates.bind {view : σ → τ} {first : StateM σ α} {second : α → StateM σ β}
    {firstAbstract : StateM τ α} {secondAbstract : α → StateM τ β}
    (one : Simulates view first firstAbstract)
    (two : ∀ value, Simulates view (second value) (secondAbstract value)) :
    Simulates view (first >>= second) (firstAbstract >>= secondAbstract) := by
  intro state
  obtain ⟨sameValue, sameState⟩ := one state
  have rest := two (first.run state).1 (first.run state).2
  rw [sameState] at rest
  rw [run_bind, run_bind, ← sameValue]
  exact rest

theorem Simulates.ite {view : σ → τ} (condition : Prop) [Decidable condition]
    {first second : StateM σ α} {firstAbstract secondAbstract : StateM τ α}
    (one : Simulates view first firstAbstract) (two : Simulates view second secondAbstract) :
    Simulates view (if condition then first else second)
      (if condition then firstAbstract else secondAbstract) := by
  split
  · exact one
  · exact two

/-- What `view` sees of the state is the same after `program` as before it. -/
def Keeps (view : σ → τ) (program : StateM σ α) : Prop :=
  ∀ state, view (program.run state).2 = view state

def Leaves (view : σ → τ) (value : τ) (program : StateM σ α) : Prop :=
  ∀ state, view (program.run state).2 = value

theorem Keeps.bind {view : σ → τ} {first : StateM σ α} {second : α → StateM σ β}
    (one : Keeps view first) (two : ∀ value, Keeps view (second value)) :
    Keeps view (first >>= second) := by
  intro state
  rw [run_bind, two, one]

theorem Leaves.bind_of_keeps {view : σ → τ} {value : τ} {first : StateM σ α}
    {second : α → StateM σ β} (one : Leaves view value first)
    (two : ∀ answer, Keeps view (second answer)) : Leaves view value (first >>= second) := by
  intro state
  rw [run_bind, two, one]

theorem Leaves.bind {view : σ → τ} {value : τ} {first : StateM σ α}
    {second : α → StateM σ β} (two : ∀ answer, Leaves view value (second answer)) :
    Leaves view value (first >>= second) := by
  intro state
  rw [run_bind, two]

end StateSimulation
