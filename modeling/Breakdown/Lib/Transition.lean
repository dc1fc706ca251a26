/-
**EXECUTABLE TRANSITION SYSTEMS AND THEIR RUNS.**

A system is a partial step function `step : σ → α → Option σ`: `none` says that the action is not
enabled in the state. A run is a sequence of enabled steps, and each step of a run may be required
to meet a condition `C` on the state BEFORE the step and the action taken. The unconditional runs
are those with `C = fun _ _ => True`.

- `Runs.invariant`: a predicate kept by every step that meets the condition holds after every run;
- `runsOfRun`: a concrete trace, evaluated by `run`, is a run (for witnesses);
- `update_some_cases`: what a table of running calls holds after one of them has been set.
-/
import Mathlib.Logic.Function.Basic

namespace Breakdown.Transition

variable {σ α : Type*}

/-! ## §1. Runs of a step function -/

/-- `Runs step C s t`: `t` is reached from `s` by steps that all meet `C` in the state they start
from. -/
inductive Runs (step : σ → α → Option σ) (C : σ → α → Prop) (s : σ) : σ → Prop
  /-- The empty run. -/
  | refl : Runs step C s s
  /-- One more step at the end. -/
  | snoc {t u : σ} {a : α} : Runs step C s t → C t a → step t a = some u → Runs step C s u

/-- The condition every step meets. -/
def anyStep : σ → α → Prop := fun _ _ => True

instance (s : σ) (a : α) : Decidable (anyStep s a) := .isTrue trivial

variable {step : σ → α → Option σ} {C D : σ → α → Prop} {s t u : σ}

theorem Runs.single (hc : C s a) (h : step s a = some t) : Runs step C s t := .snoc .refl hc h

theorem Runs.trans (h₁ : Runs step C s t) (h₂ : Runs step C t u) : Runs step C s u := by
  induction h₂ with
  | refl => exact h₁
  | snoc _ hc hstep ih => exact .snoc ih hc hstep

/-- **THE INVARIANT RULE.** What holds at the start and is kept by every step that meets the
condition holds wherever the run ends. -/
theorem Runs.invariant (I : σ → Prop) (h : Runs step C s t) (h0 : I s)
    (hstep : ∀ s a s', I s → C s a → step s a = some s' → I s') : I t := by
  induction h with
  | refl => exact h0
  | snoc _ hc hs ih => exact hstep _ _ _ ih hc hs

/-! ## §2. Evaluating a trace -/

/-- `step` restricted to the steps that meet a decidable condition. -/
def guarded (step : σ → α → Option σ) (C : σ → α → Prop) [∀ s a, Decidable (C s a)] :
    σ → α → Option σ :=
  fun s a => if C s a then step s a else none

/-- Take the actions of a trace in order. -/
def run (step : σ → α → Option σ) : σ → List α → Option σ
  | s, [] => some s
  | s, a :: as => (step s a).bind fun s' => run step s' as

/-- A trace that evaluates under `guarded` is a run whose steps meet the condition. -/
theorem runsOfRun [∀ s a, Decidable (C s a)] :
    ∀ {as : List α} {s t : σ}, run (guarded step C) s as = some t → Runs step C s t
  | [], s, t, h => by
    simp only [run, Option.some.injEq] at h
    exact h ▸ .refl
  | a :: as, s, t, h => by
    obtain ⟨s', hs', hrest⟩ := Option.bind_eq_some_iff.1 h
    simp only [guarded] at hs'
    split at hs'
    · next hc => exact (Runs.single hc hs').trans (runsOfRun hrest)
    · cases hs'

/-- A trace whose last state has a property reaches a state that has it. -/
theorem exists_runs [∀ s a, Decidable (C s a)] (as) {P : σ → Prop}
    (h : ∃ t ∈ run (guarded step C) s as, P t) : ∃ t, Runs step C s t ∧ P t := by
  obtain ⟨t, ht, hp⟩ := h
  exact ⟨t, runsOfRun ht, hp⟩

/-- …and with it what follows from it. -/
theorem exists_runs_imp [∀ s a, Decidable (C s a)] (as) {P Q : σ → Prop}
    (h : ∃ t ∈ run (guarded step C) s as, P t) (himp : ∀ t, Runs step C s t → P t → Q t) :
    ∃ t, Runs step C s t ∧ Q t :=
  (exists_runs as h).imp fun t ht => ⟨ht.1, himp t ht.1 ht.2⟩

/-! ## §3. A table of running calls -/

/-- An entry of a table after one write is the one written, or another key's old entry. -/
theorem update_some_cases [DecidableEq ι] {f : ι → Option β} {i j : ι} {x y : β}
    (h : Function.update f i (some x) j = some y) :
    (j = i ∧ y = x) ∨ (j ≠ i ∧ f j = some y) := by
  by_cases hji : j = i
  · subst hji
    rw [Function.update_self] at h
    exact .inl ⟨rfl, (Option.some.inj h).symm⟩
  · rw [Function.update_of_ne hji] at h
    exact .inr ⟨hji, h⟩

end Breakdown.Transition
