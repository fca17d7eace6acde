import Mathlib.Logic.Basic

/-! Runs of a step function over a list of inputs, and what holds before each of their steps. -/

namespace Runs

variable {σ ι : Type} {step : σ → ι → σ}

/-- `property` holds of every input of the run and the state that input finds. -/
def Along (step : σ → ι → σ) (property : σ → ι → Prop) : σ → List ι → Prop
  | _, [] => True
  | state, input :: rest => property state input ∧ Along step property (step state input) rest

theorem along_iff_along {first second : σ → ι → Prop}
    (agree : ∀ state input, first state input ↔ second state input) (state : σ)
    (inputs : List ι) : Along step first state inputs ↔ Along step second state inputs := by
  induction inputs generalizing state with
  | nil => rfl
  | cons input rest ih =>
      simp only [Along]
      rw [agree state input, ih (step state input)]

theorem along_append {property : σ → ι → Prop} (state : σ) (first second : List ι) :
    Along step property state (first ++ second) ↔
      Along step property state first ∧ Along step property (first.foldl step state) second := by
  induction first generalizing state with
  | nil => simp [Along]
  | cons input rest ih =>
      simp only [List.cons_append, Along, List.foldl_cons, ih, and_assoc]

/-- The same with the equivalence known only where an invariant holds that the second
property keeps up. -/
theorem along_iff_along_of_invariant {invariant : σ → Prop} {first second : σ → ι → Prop}
    (agree : ∀ state input, invariant state → (first state input ↔ second state input))
    (kept : ∀ state input, invariant state → second state input → invariant (step state input))
    {state : σ} (start : invariant state) (inputs : List ι) :
    Along step first state inputs ↔ Along step second state inputs := by
  induction inputs generalizing state with
  | nil => rfl
  | cons input rest ih =>
      simp only [Along]
      rw [agree state input start]
      apply and_congr_right
      intro holds
      exact ih (kept state input start holds)

/-- The induction for a property that allowed inputs keep and every other input destroys:
`invariant` is what makes the property true and lets it survive. -/
theorem reached_iff_along {invariant property : σ → Prop} {allowed : σ → ι → Prop}
    (sound : ∀ state, invariant state → property state)
    (kept : ∀ state input, invariant state → allowed state input → invariant (step state input))
    (lost : ∀ state input, invariant state → ¬allowed state input → ¬property (step state input))
    {state : σ} (start : invariant state) (inputs : List ι) :
    (∀ before after, inputs = before ++ after → property (before.foldl step state)) ↔
      Along step allowed state inputs := by
  induction inputs generalizing state with
  | nil =>
      constructor
      · intro _
        trivial
      · intro _ before after split
        obtain ⟨rfl, _⟩ := List.append_eq_nil_iff.mp split.symm
        exact sound state start
  | cons input rest ih =>
      constructor
      · intro every
        have fits : allowed state input := by
          apply Classical.byContradiction
          intro broken
          exact lost state input start broken (every [input] rest rfl)
        refine ⟨fits, (ih (kept state input start fits)).mp ?_⟩
        intro before after split
        exact every (input :: before) after (by rw [split]; rfl)
      · rintro ⟨fits, later⟩ before after split
        cases before with
        | nil => exact sound state start
        | cons first before =>
            obtain ⟨rfl, remains⟩ := List.cons.inj split
            exact (ih (kept state input start fits)).mpr later before after remains

/-- Allowed inputs keep an invariant through every state of the run. -/
theorem reached_of_along {invariant : σ → Prop} {allowed : σ → ι → Prop}
    (kept : ∀ state input, invariant state → allowed state input → invariant (step state input))
    {state : σ} (start : invariant state) {inputs : List ι} (along : Along step allowed state inputs)
    {before after : List ι} (split : inputs = before ++ after) :
    invariant (before.foldl step state) := by
  subst split
  have fits := ((along_append state before after).mp along).1
  clear along
  induction before generalizing state with
  | nil => exact start
  | cons input rest ih => exact ih (kept state input start fits.1) fits.2

/-- A run of a machine that is watched: what is said about the machine alone is said about its
own run. -/
theorem along_project {τ : Type} {watched : τ → ι → τ} {project : τ → σ}
    (follows : ∀ state input, project (watched state input) = step (project state) input)
    (property : σ → ι → Prop) (state : τ) (inputs : List ι) :
    Along watched (fun state input => property (project state) input) state inputs ↔
      Along step property (project state) inputs := by
  induction inputs generalizing state with
  | nil => rfl
  | cons input rest ih =>
      simp only [Along]
      rw [ih, follows]

/-- The induction for a property of the end of a run: allowed inputs keep the good states, the
first other input leads to a bad state, and nothing leads back. -/
theorem final_good_or_bad {good bad : σ → Prop} {possible allowed : σ → ι → Prop}
    (kept : ∀ state input, good state → possible state input → allowed state input →
      good (step state input))
    (lost : ∀ state input, good state → possible state input → ¬allowed state input →
      bad (step state input))
    (stays : ∀ state input, bad state → possible state input → bad (step state input))
    {state : σ} (start : good state) (inputs : List ι) (lawful : Along step possible state inputs) :
    Along step allowed state inputs ∧ good (inputs.foldl step state) ∨
      ¬Along step allowed state inputs ∧ bad (inputs.foldl step state) := by
  have ends {state : σ} (broken : bad state) (inputs : List ι)
      (lawful : Along step possible state inputs) : bad (inputs.foldl step state) := by
    induction inputs generalizing state with
    | nil => exact broken
    | cons input rest ih => exact ih (stays state input broken lawful.1) lawful.2
  induction inputs generalizing state with
  | nil => exact .inl ⟨trivial, start⟩
  | cons input rest ih =>
      obtain ⟨fits, later⟩ := lawful
      by_cases allows : allowed state input
      · rcases ih (kept state input start fits allows) later with ⟨along, well⟩ | ⟨strays, broken⟩
        · exact .inl ⟨⟨allows, along⟩, well⟩
        · exact .inr ⟨fun along => strays along.2, broken⟩
      · exact .inr ⟨fun along => allows along.1, ends (lost state input start fits allows) rest later⟩

/-- A value that is noted down beside the run, from the state that each input finds. -/
def watch {α : Type} (step : σ → ι → σ) (note : σ → ι → α → α) : σ → α → List ι → α
  | _, value, [] => value
  | state, value, input :: rest => watch step note (step state input) (note state input value) rest

theorem watch_append {α : Type} (note : σ → ι → α → α) (state : σ) (value : α)
    (first second : List ι) :
    watch step note state value (first ++ second) =
      watch step note (first.foldl step state) (watch step note state value first) second := by
  induction first generalizing state value with
  | nil => rfl
  | cons input rest ih => exact ih (step state input) (note state input value)

/-- No `barred` input comes before the first `opening` one. -/
def NoneBefore (step : σ → ι → σ) (barred opening : σ → ι → Prop) : σ → List ι → Prop
  | _, [] => True
  | state, input :: rest => opening state input ∨
      ¬barred state input ∧ NoneBefore step barred opening (step state input) rest

theorem reached_of_invariant {invariant : σ → Prop}
    (kept : ∀ state input, invariant state → invariant (step state input)) {state : σ}
    (start : invariant state) (inputs : List ι) : invariant (inputs.foldl step state) := by
  induction inputs generalizing state with
  | nil => exact start
  | cons input rest ih => exact ih (kept state input start)

/-- The induction for a property that a barred input destroys until an opening input has come,
and nothing destroys any more after that. -/
theorem reached_iff_noneBefore {early late property : σ → Prop} {barred opening : σ → ι → Prop}
    (earlySound : ∀ state, early state → property state)
    (lateSound : ∀ state, late state → property state)
    (lateKept : ∀ state input, late state → late (step state input))
    (opened : ∀ state input, early state → opening state input → late (step state input))
    (earlyKept : ∀ state input, early state → ¬barred state input → ¬opening state input →
      early (step state input))
    (lost : ∀ state input, early state → barred state input → ¬opening state input →
      ¬property (step state input))
    {state : σ} (start : early state) (inputs : List ι) :
    (∀ before after, inputs = before ++ after → property (before.foldl step state)) ↔
      NoneBefore step barred opening state inputs := by
  induction inputs generalizing state with
  | nil =>
      constructor
      · intro _
        trivial
      · intro _ before after split
        obtain ⟨rfl, _⟩ := List.append_eq_nil_iff.mp split.symm
        exact earlySound state start
  | cons input rest ih =>
      by_cases opens : opening state input
      · refine iff_of_true ?_ (.inl opens)
        intro before after split
        cases before with
        | nil => exact earlySound state start
        | cons first before =>
            obtain ⟨rfl, _⟩ := List.cons.inj split
            exact lateSound _ (reached_of_invariant lateKept (opened state input start opens) before)
      · by_cases bars : barred state input
        · refine iff_of_false ?_ ?_
          · intro every
            exact lost state input start bars opens (every [input] rest rfl)
          · rintro (opening | ⟨free, _⟩)
            · exact opens opening
            · exact free bars
        · have next := ih (earlyKept state input start bars opens)
          constructor
          · intro every
            refine .inr ⟨bars, next.mp ?_⟩
            intro before after split
            exact every (input :: before) after (by rw [split]; rfl)
          · rintro (opening | ⟨_, later⟩)
            · exact absurd opening opens
            · intro before after split
              cases before with
              | nil => exact earlySound state start
              | cons first before =>
                  obtain ⟨rfl, remains⟩ := List.cons.inj split
                  exact next.mpr later before after remains

end Runs
