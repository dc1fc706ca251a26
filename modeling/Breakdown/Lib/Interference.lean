/-
**PROGRAMS AMONG OTHERS.**

Several programs share one store, and between two operations of one of them the others do theirs.
What a program may count on is then only what the others keep: an invariant `I` of the store, and a
preorder `R` along which every write moves it. In return its own writes keep both.

`wpi I R x Q s` says this of `x`, about to go on in `s`: whatever the others do in between, each of
its writes keeps `I` and moves along `R`, and at the end `Q` holds. The rules are equivalences.

- `wpi_bind`, `wpi_atomic`, `wpi_foldM`: the rules;
- `wpiOk`, `Safe`: what a success grants, and programs that may be started anywhere;
- `wpi_stable`: others may act before a program goes on;
- `wp_of_wpi`: without others, the run and every store it can be stopped in;
- `Pool.invariant`: any number of programs, started at any time and run in any interleaving, keep
  the invariant.
-/
import Breakdown.Lib.Stepwise
import Mathlib.Order.Defs.Unbundled

namespace Breakdown.Stepwise

open List

variable {S ε α β : Type}

/-! ## §1. Preconditions under interference -/

/-- `x` is about to go on in `s`: its writes keep `I` and move along `R`, and it ends with `Q`. -/
def wpi (I : S → Prop) (R : S → S → Prop) : Prog S ε α → (Except ε α → S → Prop) → S → Prop
  | .ret result, Q, s => Q result s
  | .look next, Q, s => ∀ t, R s t → I t → wpi I R (next t) Q t
  | .put f next, Q, s => ∀ t, R s t → I t → (R t (f t) ∧ I (f t)) ∧ wpi I R (next t) Q (f t)

section Rules

variable {I : S → Prop} {R : S → S → Prop} {s : S}

variable {x : Prog S ε α} {Q : Except ε α → S → Prop}

theorem wpi_atomic : wpi I R (atomic f) Q s ↔
      ∀ t, R s t → I t → (R t (f t).1 ∧ I (f t).1) ∧ Q (f t).2 (f t).1 := Iff.rfl

theorem wpi_mono (h : wpi I R x Q s) (himp : ∀ r t, Q r t → Q' r t) : wpi I R x Q' s := by
  induction x generalizing s with
  | ret => exact himp _ _ h
  | look next ih =>
    intro t hR hI
    exact ih t (h t hR hI)
  | put f next ih =>
    intro t hR hI
    obtain ⟨hwrite, hrest⟩ := h t hR hI
    exact ⟨hwrite, ih t hrest⟩

@[simp] theorem wpi_mapResult {Q : Except ε β → S → Prop} :
    wpi I R (mapResult f x) Q s ↔ wpi I R x (fun r t => Q (f r) t) s := by
  induction x generalizing s with
  | ret => exact Iff.rfl
  | look next ih =>
    refine forall₃_congr fun t _ _ => ?_
    exact ih t
  | put g next ih =>
    -- the write is the same, what follows it by induction
    refine forall₃_congr fun t _ _ => and_congr_right fun _ => ?_
    exact ih t

@[simp] theorem wpi_caught {Q : Except ε (Except ε α) → S → Prop} :
    wpi I R (caught x) Q s ↔ wpi I R x (fun r t => Q (.ok r) t) s := wpi_mapResult

/-- **THE SEQUENCE RULE.** -/
theorem wpi_bind {Q : Except ε β → S → Prop} : wpi I R (x >>= f) Q s ↔
      wpi I R x (fun r t => match r with
        | .ok a => wpi I R (f a) Q t
        | .error e => Q (.error e) t) s := by
  show wpi I R (Prog.bind x f) Q s ↔ _
  induction x generalizing s with
  | ret result =>
    cases result with
    | ok | error => exact Iff.rfl
  | look next ih =>
    refine forall₃_congr fun t _ _ => ?_
    exact ih t
  | put g next ih =>
    -- the write is the same, what follows it by induction
    refine forall₃_congr fun t _ _ => and_congr_right fun _ => ?_
    exact ih t

/-- **THE LOOP RULE.** `K done r` holds when the elements `done` have been worked off with the
result `r`; a failure ends the loop. -/
theorem wpi_foldM {all : List α} {Q : Except ε β → S → Prop} (K : List α → β → S → Prop)
    (hstep : ∀ done a rest b t, all = done ++ a :: rest → K done b t →
      wpi I R (body b a) (fun r t => match r with
        | .ok b' => K (done ++ [a]) b' t
        | .error e => Q (.error e) t) t) (hend : ∀ b t, K all b t → Q (.ok b) t) (hstart : K [] b s) :
    wpi I R (foldM body all b) Q s := by
  suffices hloop : ∀ (rest done : List α) (b : β) (t : S), all = done ++ rest → K done b t →
      wpi I R (foldM body rest b) Q t from hloop all [] b s rfl hstart
  intro rest
  induction rest with
  | nil =>
    intro done b t hall hK
    rw [append_nil] at hall
    rw [← hall] at hK
    exact hend b t hK
  | cons a rest ih =>
    intro done b t hall hK
    refine wpi_bind.mpr (wpi_mono (hstep done a rest b t hall hK) ?_)
    intro r t' hr
    cases r with
    | ok b' => exact ih (done ++ [a]) b' t' (by simp [hall]) hr
    | error => exact hr

/-- Others may act before the program goes on. -/
theorem wpi_stable [IsTrans S R] (hQ : ∀ r s t, Q r s → R s t → Q r t) (h : wpi I R x Q s)
    (hR : R s t) : wpi I R x Q t := by
  cases x with
  | ret result => exact hQ result s t h hR
  | look | put =>
    intro u hu hI
    exact h u (trans_of R hR hu) hI

/-- **WITHOUT OTHERS** the run stays in `I` and above its start, and ends with `Q`. -/
theorem wp_of_wpi [IsPreorder S R] (h : wpi I R x Q s) (hI : I s) :
    wp (fun t => R s t ∧ I t) x Q s := by
  induction x generalizing s with
  | ret => exact ⟨nofun, h⟩
  | look next ih => exact ih s (h s (refl_of R s) hI) hI
  | put f next ih =>
    obtain ⟨⟨hmove, hkeep⟩, hrest⟩ := h s (refl_of R s) hI
    obtain ⟨hwritten, hQ⟩ := ih s hrest hkeep
    refine ⟨?_, ?_⟩
    · intro t ht
      rcases mem_cons.mp ht with rfl | hmem
      · exact ⟨hmove, hkeep⟩
      · obtain ⟨habove, hIt⟩ := hwritten t hmem
        exact ⟨trans_of R hmove habove, hIt⟩
    · have hstore : Prog.store (.put f next) s = (next s).store (f s) := by
        show (f s :: ((next s) (f s)).written).getLastD s = _
        rw [getLastD_cons]
        rfl
      rw [hstore]
      exact hQ

/-- The end is above the start. -/
theorem wpi_rel [IsPreorder S R] (h : wpi I R x Q s) : wpi I R x (fun r t => R s t ∧ Q r t) s := by
  induction x generalizing s with
  | ret => exact ⟨refl_of R s, h⟩
  | look next ih =>
    intro t hR hI
    refine wpi_mono (ih t (h t hR hI)) ?_
    intro r u hu
    exact ⟨trans_of R hR hu.1, hu.2⟩
  | put f next ih =>
    intro t hR hI
    obtain ⟨hwrite, hrest⟩ := h t hR hI
    refine ⟨hwrite, wpi_mono (ih t hrest) ?_⟩
    intro r u hu
    exact ⟨trans_of R hR (trans_of R hwrite.1 hu.1), hu.2⟩

end Rules

/-! ## §2. What a success grants -/

/-- `x` is about to go on in `s`: its writes keep `I` and move along `R`, and if it succeeds, then
with `Q`. -/
def wpiOk (I : S → Prop) (R : S → S → Prop) (x : Prog S ε α) (Q : α → S → Prop) (s : S) : Prop :=
  wpi I R x (fun r t => ∀ a, r = .ok a → Q a t) s

/-- Wherever it is started, the program keeps the invariant and the preorder. -/
def Safe (I : S → Prop) (R : S → S → Prop) (x : Prog S ε α) : Prop :=
  ∀ s, wpiOk I R x (fun _ _ => True) s

section Granted

variable {I : S → Prop} {R : S → S → Prop} {s : S}

variable {x : Prog S ε α} {Q : α → S → Prop}

@[simp] theorem wpiOk_pure : wpiOk I R (pure a : Prog S ε α) Q s ↔ Q a s := by
  constructor
  · exact fun h => h a rfl
  · intro h b hb
    cases hb
    exact h

@[simp] theorem wpiOk_fail {e : ε} : wpiOk I R (fail e) Q s := by
  intro a ha
  cases ha

theorem wpiOk_ofExcept {x : Except ε α} :
    wpiOk I R (ofExcept x) Q s ↔ ∀ a, x = .ok a → Q a s := Iff.rfl

theorem wpiOk_read (h : ∀ t, R s t → I t → Q (f t) t) : wpiOk I R (read f : Prog S ε α) Q s := by
  intro t hR hI a ha
  cases ha
  exact h t hR hI

theorem wpiOk_atomic {f : S → S × Except ε α} (hkeep : ∀ t, R s t → I t → R t (f t).1 ∧ I (f t).1)
    (hQ : ∀ t a, R s t → I t → (f t).2 = .ok a → Q a (f t).1) : wpiOk I R (atomic f) Q s :=
  fun t hR hI => ⟨hkeep t hR hI, fun a ha => hQ t a hR hI ha⟩

/-- A caught failure is an answer like any other. -/
theorem wpiOk_caught {Q} (h : wpi I R x Q s) : wpiOk I R (caught x) Q s := by
  refine wpi_caught.mpr (wpi_mono h ?_)
  intro r t ht r' hr'
  cases hr'
  exact ht

theorem Safe.pure (a) : Safe I R (Pure.pure a : Prog S ε α) := fun _ => wpiOk_pure.mpr trivial

theorem Safe.fail (e) : Safe I R (fail e : Prog S ε α) := fun _ => wpiOk_fail

theorem Safe.ofExcept (x) : Safe I R (ofExcept x : Prog S ε α) :=
  fun _ => wpiOk_ofExcept.mpr fun _ _ => trivial

theorem Safe.atomic {f : S → S × Except ε α} (h : ∀ s, I s → R s (f s).1 ∧ I (f s).1) :
    Safe I R (atomic f) :=
  fun _ => wpiOk_atomic (fun t _ hI => h t hI) fun _ _ _ _ _ => trivial

/-- However it ends. -/
theorem Safe.wpi (h : Safe I R x) (s) : wpi I R x (fun _ _ => True) s :=
  wpi_mono (h s) fun _ _ _ => trivial

theorem Safe.caught (h : Safe I R x) : Safe I R (caught x) := fun s => wpiOk_caught (h.wpi s)

variable [IsPreorder S R]

theorem wpiOk.mono (h : wpiOk I R x Q s) (himp : ∀ a t, R s t → Q a t → Q' a t) :
    wpiOk I R x Q' s :=
  wpi_mono (wpi_rel h) fun _ t ht a ha => himp a t ht.1 (ht.2 a ha)

/-- **THE SEQUENCE RULE** for successes. -/
theorem wpiOk.bind {Q' : β → S → Prop} (hx : wpiOk I R x Q s)
    (hf : ∀ a t, R s t → Q a t → wpiOk I R (f a) Q' t) : wpiOk I R (x >>= f) Q' s := by
  refine wpi_bind.mpr (wpi_mono (wpi_rel hx) ?_)
  intro r t ht
  cases r with
  | ok a => exact hf a t ht.1 (ht.2 a rfl)
  | error =>
    intro b hb
    cases hb

theorem wpiOk_mapResult {Q : Except ε α → S → Prop} {Q' : β → S → Prop} (h : wpi I R x Q s)
    (himp : ∀ r b t, R s t → Q r t → f r = .ok b → Q' b t) : wpiOk I R (mapResult f x) Q' s :=
  wpi_mapResult.mpr (wpi_mono (wpi_rel h) fun r t ht b hb => himp r b t ht.1 ht.2 hb)

/-- **THE LOOP RULE** for successes. -/
theorem wpiOk_foldM {body : β → α → Prog S ε β} {all} (K : List α → β → S → Prop)
    (hstep : ∀ done a rest b t, all = done ++ a :: rest → R s t → K done b t →
      wpiOk I R (body b a) (K (done ++ [a])) t) {b : β} (hstart : K [] b s) :
    wpiOk I R (foldM body all b) (K all) s := by
  refine wpi_foldM (fun done b t => R s t ∧ K done b t) ?_ ?_ ⟨refl_of R s, hstart⟩
  · intro done a rest b t hall hK
    refine wpi_mono (wpi_rel (hstep done a rest b t hall hK.1 hK.2)) ?_
    intro r u hu
    cases r with
    | ok b' => exact ⟨trans_of R hK.1 hu.1, hu.2 b' rfl⟩
    | error =>
      intro b' hb'
      cases hb'
  · intro b t hK b' hb'
    cases hb'
    exact hK.2

theorem Safe.mapResult (h : Safe I R x) (f : Except ε α → Except ε β) : Safe I R (mapResult f x) :=
  fun s => wpiOk_mapResult (h.wpi s) fun _ _ _ _ _ _ => trivial

/-- In front of a program that is safe whatever it gets. -/
theorem Safe.bind {f : α → Prog S ε β} (hx : Safe I R x) (hf : ∀ a, Safe I R (f a)) :
    Safe I R (x >>= f) :=
  fun s => (hx s).bind fun a t _ _ => hf a t

theorem Safe.foldM {body : β → α → Prog S ε β} (hbody : ∀ b a, Safe I R (body b a)) (all b) :
    Safe I R (foldM body all b) :=
  fun _ => wpiOk_foldM (fun _ _ _ => True) (fun _ a _ b t _ _ _ => hbody b a t) trivial

end Granted

/-! ## §3. Pools of programs -/

/-- A store with the programs that work on it. -/
structure Pool (S ε α : Type) where
  store : S
  progs : List (Prog S ε α)

/-- One program does one operation, or a new program is started. -/
inductive Pool.Step (starts : Prog S ε α → Prop) : Pool S ε α → Pool S ε α → Prop
  | look {pool : Pool S ε α} {i : Nat} {next : S → Prog S ε α}
      (h : pool.progs[i]? = some (.look next)) :
      Pool.Step starts pool ⟨pool.store, pool.progs.set i (next pool.store)⟩
  | put {pool : Pool S ε α} {i : Nat} {f : S → S} {next : S → Prog S ε α}
      (h : pool.progs[i]? = some (.put f next)) :
      Pool.Step starts pool ⟨f pool.store, pool.progs.set i (next pool.store)⟩
  | start {pool : Pool S ε α} {x : Prog S ε α} (h : starts x) :
      Pool.Step starts pool ⟨pool.store, pool.progs ++ [x]⟩

/-- What is reached by any interleaving. -/
inductive Pool.Reaches (starts : Prog S ε α → Prop) (s : S) : Pool S ε α → Prop
  | nil : Pool.Reaches starts s ⟨s, []⟩
  | step {pool pool' : Pool S ε α} (h : Pool.Reaches starts s pool)
      (hstep : Pool.Step starts pool pool') : Pool.Reaches starts s pool'

/-- The program at place `i` does its next operation, if it has one. -/
def Pool.turn (pool : Pool S ε α) (i : Nat) : Pool S ε α := match pool.progs[i]? with
  | some (.look next) => ⟨pool.store, pool.progs.set i (next pool.store)⟩
  | some (.put f next) => ⟨f pool.store, pool.progs.set i (next pool.store)⟩
  | _ => pool

/-- Turns are steps, in whatever order they are taken. -/
theorem Pool.Reaches.turns {pool : Pool S ε α} (h : Pool.Reaches starts s pool)
    (order : List Nat) : Pool.Reaches starts s (order.foldl Pool.turn pool) := by
  induction order generalizing pool with
  | nil => exact h
  | cons i order ih =>
    refine ih ?_
    unfold Pool.turn
    split
    · next hprog => exact .step h (.look hprog)
    · next hprog => exact .step h (.put hprog)
    · exact h

section Pool

variable {I : S → Prop} {R : S → S → Prop} [IsPreorder S R] {starts : Prog S ε α → Prop}

/-- The invariant holds and every program can go on. -/
structure Pool.Ok (I : S → Prop) (R : S → S → Prop) (pool : Pool S ε α) : Prop where
  inv : I pool.store
  progs : ∀ x ∈ pool.progs, wpi I R x (fun _ _ => True) pool.store

theorem Pool.Step.ok (hstep : Pool.Step starts pool pool')
    (hstarts : ∀ x, starts x → Safe I R x) (h : Pool.Ok I R pool) : Pool.Ok I R pool' := by
  cases hstep with
  | look hprog =>
    refine ⟨h.inv, ?_⟩
    intro x hx
    rcases mem_or_eq_of_mem_set hx with hold | rfl
    · exact h.progs x hold
    · exact h.progs _ (mem_of_getElem? hprog) pool.store (refl_of R _) h.inv
  | put hprog =>
    obtain ⟨⟨hmove, hkeep⟩, hrest⟩ :=
      h.progs _ (mem_of_getElem? hprog) pool.store (refl_of R _) h.inv
    refine ⟨hkeep, ?_⟩
    intro x hx
    rcases mem_or_eq_of_mem_set hx with hold | rfl
    · -- the others see the write as interference
      exact wpi_stable (fun _ _ _ _ _ => trivial) (h.progs x hold) hmove
    · exact hrest
  | start hx =>
    refine ⟨h.inv, ?_⟩
    intro y hy
    rcases mem_append.mp hy with hold | hnew
    · exact h.progs y hold
    · rw [mem_singleton.mp hnew]
      exact (hstarts _ hx).wpi _

/-- **ANY INTERLEAVING KEEPS THE INVARIANT.** -/
theorem Pool.invariant (hstarts : ∀ x, starts x → Safe I R x) (hI : I s)
    (h : Pool.Reaches starts s pool) : I pool.store := by
  have hok : Pool.Ok I R pool := by
    induction h with
    | nil => exact ⟨hI, by intro x hx; cases hx⟩
    | step _ hstep ih => exact hstep.ok hstarts ih
  exact hok.inv

end Pool

-- from here on only by the rules: unfolding would run the program
attribute [irreducible] wpi

end Breakdown.Stepwise
