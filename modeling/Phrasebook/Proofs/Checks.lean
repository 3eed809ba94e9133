import Mathlib.Data.List.Forall2

/-!
# Results of several steps

A traversal succeeds if each of its steps does (`mapM_eq_ok_iff`), and else has the fault of the
first step that fails (`mapM_eq_error_iff`).

A `Check` says which faults are found, and a result is `Checked` by a list of checks if it fails
exactly with what the first of them finds that finds anything (`FirstOf`). Checks of steps that
follow one another are those of the steps in their order (`Checked.bind`), and a checked result is
a success if no check finds a fault (`Checked.exists_ok_iff`).
-/

namespace Phrasebook

variable {δ ε α β : Type}

/-! ## Traversals -/

theorem mapM_eq_ok_iff {step : α → Except ε β} {inputs : List α}
    {results : List β} : inputs.mapM step = .ok results ↔
      List.Forall₂ (fun input result => step input = .ok result) inputs results := by
  induction inputs generalizing results with
  | nil => cases results <;> simp [pure, Except.pure]
  | cons input rest ih =>
    rw [List.mapM_cons]
    cases head : step input with
    | error fault => cases results <;> simp [bind, Except.bind, head]
    | ok value =>
      cases tail : rest.mapM step with
      | error fault => cases results <;> simp [bind, Except.bind, ← ih, tail]
      | ok values => cases results <;> simp [bind, Except.bind, pure, Except.pure, ← ih, tail, head]

theorem exists_result_of_forall₂ {relation : α → β → Prop} {inputs : List α}
    {results : List β} (related : List.Forall₂ relation inputs results) {input : α}
    (member : input ∈ inputs) : ∃ result ∈ results, relation input result := by
  induction related with
  | nil => cases member
  | cons head tail ih =>
    rcases List.mem_cons.1 member with rfl | member
    · exact ⟨_, List.mem_cons_self, head⟩
    · obtain ⟨result, inside, holds⟩ := ih member
      exact ⟨result, List.mem_cons_of_mem _ inside, holds⟩

theorem forall₂_congr_of_mem {relation other : α → β → Prop} {inputs : List α}
    (same : ∀ input ∈ inputs, ∀ result, relation input result ↔ other input result)
    {results : List β} :
    List.Forall₂ relation inputs results ↔ List.Forall₂ other inputs results := by
  induction inputs generalizing results with
  | nil => cases results <;> simp
  | cons input rest ih =>
    obtain ⟨here, there⟩ := List.forall_mem_cons.1 same
    cases results <;> simp [here, ih there]

theorem exists_mapM_eq_ok {step : α → Except ε β} {inputs : List α}
    (each : ∀ input ∈ inputs, ∃ result, step input = .ok result) :
    ∃ results, inputs.mapM step = .ok results := by
  induction inputs with
  | nil => exact ⟨[], rfl⟩
  | cons input rest ih =>
    obtain ⟨result, head⟩ := each input List.mem_cons_self
    obtain ⟨results, tail⟩ := ih fun other member => each other (List.mem_cons_of_mem _ member)
    exact ⟨result :: results, mapM_eq_ok_iff.2 (.cons head (mapM_eq_ok_iff.1 tail))⟩

theorem mapM_eq_error_iff {step : α → Except ε β} {inputs : List α} {fault : ε} :
    inputs.mapM step = .error fault ↔ ∃ front input back, inputs = front ++ input :: back ∧
      (∀ other ∈ front, ∃ result, step other = .ok result) ∧ step input = .error fault := by
  induction inputs with
  | nil => simp [pure, Except.pure]
  | cons input rest ih =>
    rw [List.mapM_cons]
    cases head : step input with
    | error other =>
      constructor
      · rintro ⟨⟩
        exact ⟨[], input, rest, rfl, by simp, head⟩
      · rintro ⟨front, first, back, split, before, fails⟩
        cases front with
        | nil =>
          obtain ⟨rfl, -⟩ := List.cons.inj split
          obtain rfl := Except.error.inj (head.symm.trans fails)
          rfl
        | cons other front =>
          obtain ⟨rfl, -⟩ := List.cons.inj split
          obtain ⟨result, succeeds⟩ := before input List.mem_cons_self
          cases head.symm.trans succeeds
    | ok value =>
      have inRest : (do let values ← rest.mapM step; pure (value :: values)) = .error fault ↔
          rest.mapM step = .error fault := by
        cases rest.mapM step <;> simp [bind, Except.bind, pure, Except.pure]
      refine inRest.trans (ih.trans ?_)
      constructor
      · rintro ⟨front, first, back, rfl, before, fails⟩
        refine ⟨input :: front, first, back, rfl, ?_, fails⟩
        exact List.forall_mem_cons.2 ⟨⟨value, head⟩, before⟩
      · rintro ⟨front, first, back, split, before, fails⟩
        cases front with
        | nil =>
          obtain ⟨rfl, -⟩ := List.cons.inj split
          cases head.symm.trans fails
        | cons other front =>
          obtain ⟨rfl, rfl⟩ := List.cons.inj split
          exact ⟨front, first, back, rfl, (List.forall_mem_cons.1 before).2, fails⟩

theorem mapM_eq_of_refuses {step : α → Except ε β} {refuses : α → Bool} {fault : α → ε}
    {image : α → β} (steps : ∀ input, step input =
      if refuses input then .error (fault input) else .ok (image input)) (inputs : List α) :
    inputs.mapM step = (inputs.find? refuses).elim (.ok (inputs.map image))
      fun input => .error (fault input) := by
  induction inputs with
  | nil => rfl
  | cons input rest ih =>
    rw [List.mapM_cons, ih, steps, List.find?_cons]
    cases refuses input with
    | true => rfl
    | false => cases rest.find? refuses <;> rfl

/-! ## Checks in order -/

/-- The faults that a check finds. -/
abbrev Check (ε : Type) := ε → Prop

def Check.Silent (check : Check ε) : Prop := ∀ fault, ¬check fault

def Check.when (condition : Prop) (fault : ε) : Check ε := fun found =>
  condition ∧ found = fault

def Check.map (wrap : δ → ε) (check : Check δ) : Check ε := fun fault =>
  ∃ inner, check inner ∧ fault = wrap inner

/-- What the first check finds that finds anything. -/
def FirstOf : List (Check ε) → ε → Prop
  | [], _ => False
  | check :: rest, fault => check fault ∨ check.Silent ∧ FirstOf rest fault

def Checked (checks : List (Check ε)) (result : Except ε α) : Prop :=
  ∀ fault, result = .error fault ↔ FirstOf checks fault

theorem firstOf_append {front back : List (Check ε)} {fault : ε} :
    FirstOf (front ++ back) fault ↔
      FirstOf front fault ∨ (∀ check ∈ front, check.Silent) ∧ FirstOf back fault := by
  induction front with
  | nil => simp [FirstOf]
  | cons check rest ih =>
    rw [List.cons_append, FirstOf, FirstOf, ih, List.forall_mem_cons]
    tauto

theorem silent_map_iff (wrap : δ → ε) {check : Check δ} :
    (check.map wrap).Silent ↔ check.Silent := by
  constructor
  · exact fun silent inner found => silent (wrap inner) ⟨inner, found, rfl⟩
  · rintro silent _ ⟨inner, found, rfl⟩
    exact silent inner found

theorem firstOf_map_iff (wrap : δ → ε) {checks : List (Check δ)} {fault : ε} :
    FirstOf (checks.map (Check.map wrap)) fault ↔
      ∃ inner, FirstOf checks inner ∧ fault = wrap inner := by
  induction checks with
  | nil => simp [FirstOf]
  | cons check rest ih =>
    simp only [List.map_cons, FirstOf, ih, silent_map_iff, or_and_right, exists_or, and_assoc,
      exists_and_left, Check.map]

theorem silent_iff {checks : List (Check ε)} :
    (∀ check ∈ checks, check.Silent) ↔ ∀ fault, ¬FirstOf checks fault := by
  induction checks with
  | nil => simp [FirstOf]
  | cons check rest ih =>
    rw [List.forall_mem_cons, ih]
    constructor
    · rintro ⟨here, there⟩ fault (found | ⟨-, found⟩)
      · exact here fault found
      · exact there fault found
    · intro nothing
      have here : check.Silent := fun fault found => nothing fault (.inl found)
      exact ⟨here, fun fault found => nothing fault (.inr ⟨here, found⟩)⟩

theorem checked_singleton_iff {check : Check ε} {result : Except ε α} :
    Checked [check] result ↔ ∀ fault, result = .error fault ↔ check fault := by
  simp [Checked, FirstOf]

namespace Checked

variable {checks more : List (Check ε)} {result : Except ε α}

theorem exists_ok_iff (checked : Checked checks result) :
    (∃ value, result = .ok value) ↔ ∀ check ∈ checks, check.Silent := by
  rw [silent_iff]
  cases result with
  | ok value =>
    refine ⟨fun _ fault found => ?_, fun _ => ⟨value, rfl⟩⟩
    cases (checked fault).2 found
  | error fault =>
    refine ⟨fun ⟨value, succeeds⟩ => ?_, fun nothing => ?_⟩
    · cases succeeds
    · exact absurd ((checked fault).1 rfl) (nothing fault)

theorem nil (value : α) : Checked ([] : List (Check ε)) (.ok value) := by
  simp [Checked, FirstOf]

theorem stop {condition : Prop} (holds : condition) (fault : ε) :
    Checked (Check.when condition fault :: checks) (.error fault : Except ε α) := by
  intro other
  have noisy : ¬(Check.when condition fault).Silent := fun silent => silent fault ⟨holds, rfl⟩
  rw [FirstOf, or_iff_left fun later => noisy later.1, Check.when, and_iff_right holds,
    Except.error.injEq, eq_comm]

theorem pass {condition : Prop} (fails : ¬condition) (fault : ε)
    (checked : Checked checks result) : Checked (Check.when condition fault :: checks) result := by
  intro other
  have silent : (Check.when condition fault).Silent := fun _ found => fails found.1
  rw [checked other, FirstOf, or_iff_right (silent other), and_iff_right silent]

theorem ifThenElse {condition : Prop} [Decidable condition] (fault : ε)
    (checked : Checked checks result) :
    Checked (Check.when condition fault :: checks)
      (if condition then .error fault else result) := by
  split
  · exact stop ‹_› fault
  · exact checked.pass ‹_› fault

theorem mapError (checked : Checked checks result) (wrap : ε → δ) :
    Checked (checks.map (Check.map wrap)) (result.mapError wrap) := by
  intro fault
  rw [firstOf_map_iff]
  simp only [← checked _]
  cases result <;> simp [Except.mapError, eq_comm]

theorem bind (checked : Checked checks result) {next : α → Except ε β}
    (behind : ∀ value, result = .ok value → Checked more (next value)) :
    Checked (checks ++ more) (result >>= next) := by
  intro fault
  rw [firstOf_append]
  cases result with
  | error other =>
    have found : FirstOf checks other := (checked other).1 rfl
    have noisy : ¬∀ check ∈ checks, check.Silent := fun silent => silent_iff.1 silent other found
    have stopped : (Except.error other >>= next) = .error fault ↔
        (Except.error other : Except ε α) = .error fault := by
      simp [Bind.bind, Except.bind]
    rw [stopped, checked fault, or_iff_left fun later => noisy later.1]
  | ok value =>
    have silent := checked.exists_ok_iff.1 ⟨value, rfl⟩
    have nothing : ¬FirstOf checks fault := silent_iff.1 silent fault
    rw [or_iff_right nothing, and_iff_right silent]
    exact behind value rfl fault

end Checked

end Phrasebook
