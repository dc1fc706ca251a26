/-
**PROGRAMS THAT CHANGE A STORE ONE WRITE AT A TIME.**

A program reads and writes a store, may fail, and may be stopped between any two of its writes.
Its meaning is the result of the uninterrupted run together with every store the run left behind
on the way; a stop leaves one of them (`stops`).

Reasoning goes by weakest preconditions: `wp I x Q s` says that from `s` every write of `x` leaves
a store in `I`, and the uninterrupted run ends with `Q`. The rules are equivalences, so a program
is unfolded by rewriting, and loops have one invariant rule.

- `wp_bind`, `wp_atomic`, `wp_read`, … : the rules;
- `wp_foldM`: the loop rule, over what was done so far and how it ended;
- `stops_of_wp`: a stopped run leaves a store in `I`.
-/
import Mathlib.Init

namespace Breakdown.Stepwise

open List

variable {S T ε α β : Type}

/-! ## §1. Programs -/

/-- What a run does: its result, and the stores after each of its writes, oldest first. -/
structure Outcome (S ε α : Type) where
  result : Except ε α
  written : List S

/-- A program over the store `S`, as the operations it has still to do. Each of them is atomic; what
comes after it depends on the store it met. -/
inductive Prog (S ε α : Type) : Type
  /-- Ended. -/
  | ret (result : Except ε α)
  /-- Look at the store. -/
  | look (next : S → Prog S ε α)
  /-- Write the store. -/
  | put (f : S → S) (next : S → Prog S ε α)

/-- The uninterrupted run. -/
def Prog.run : Prog S ε α → S → Outcome S ε α
  | .ret result, _ => ⟨result, []⟩
  | .look next, s => (next s).run s
  | .put f next, s => ⟨((next s).run (f s)).result, f s :: ((next s).run (f s)).written⟩

instance : CoeFun (Prog S ε α) fun _ => S → Outcome S ε α := ⟨Prog.run⟩

/-- The store a run from `s` ends in. -/
def Prog.store (x : Prog S ε α) (s : S) : S := (x s).written.getLastD s

/-- Every store a run from `s` can be stopped in, the first and the last one included. -/
def Prog.stops (x : Prog S ε α) (s : S) : List S := s :: (x s).written

/-- The store a run from `s` leaves when it is stopped after `n` writes. -/
def Prog.after (x : Prog S ε α) (s : S) (n : Nat) : S := (x.stops s).getD n s

protected def Prog.bind : Prog S ε α → (α → Prog S ε β) → Prog S ε β
  | .ret (.error e), _ => .ret (.error e)
  | .ret (.ok a), f => f a
  | .look next, f => .look fun s => (next s).bind f
  | .put g next, f => .put g fun s => (next s).bind f

instance : Monad (Prog S ε) where
  pure a := .ret (.ok a)
  bind := Prog.bind

/-- Look at the store. -/
def read (f : S → α) : Prog S ε α := .look fun s => .ret (.ok (f s))

/-- Stop with an error. -/
def fail (e : ε) : Prog S ε α := .ret (.error e)

/-- A computation without the store. -/
def ofExcept (x : Except ε α) : Prog S ε α := .ret x

/-- One write, which also answers. -/
def atomic (f : S → S × Except ε α) : Prog S ε α := .put (fun s => (f s).1) fun s => .ret (f s).2

/-- Answer something else, failures included. -/
def mapResult (f : Except ε α → Except ε β) : Prog S ε α → Prog S ε β
  | .ret result => .ret (f result)
  | .look next => .look fun s => mapResult f (next s)
  | .put g next => .put g fun s => mapResult f (next s)

/-- Answer how it ended instead of failing. -/
def caught (x : Prog S ε α) : Prog S ε (Except ε α) := mapResult .ok x

/-- Run on a part of a larger store. -/
def within (get : T → S) (set : T → S → T) : Prog S ε α → Prog T ε α
  | .ret result => .ret result
  | .look next => .look fun t => within get set (next (get t))
  | .put g next => .put (fun t => set t (g (get t))) fun t => within get set (next (get t))

/-- A loop over a list, carrying a local state. -/
def foldM (body : β → α → Prog S ε β) : List α → β → Prog S ε β
  | [], b => pure b
  | a :: rest, b => do
      let b' ← body b a
      foldM body rest b'

/-! ### What the runs do -/

@[simp] theorem run_mapResult (f : Except ε α → Except ε β) (x) (s : S) :
    mapResult f x s = ⟨f (x s).result, (x s).written⟩ := by
  induction x generalizing s with
  | ret => rfl
  | look next ih => exact ih s s
  | put g next ih =>
    show Outcome.mk (mapResult f (next s) (g s)).result
      (g s :: (mapResult f (next s) (g s)).written) = _
    rw [ih s (g s)]
    rfl

/-- A sequence runs its second part from where the first one ended. -/
theorem run_bind (x) (f : α → Prog S ε β) (s) : (x >>= f) s = match (x s).result with
      | .error e => ⟨.error e, (x s).written⟩
      | .ok a => ⟨(f a (x.store s)).result, (x s).written ++ (f a (x.store s)).written⟩ := by
  show (Prog.bind x f) s = _
  induction x generalizing s with
  | ret result =>
    cases result with
    | error | ok => rfl
  | look next ih => exact ih s s
  | put g next ih =>
    show Outcome.mk ((Prog.bind (next s) f) (g s)).result
      (g s :: ((Prog.bind (next s) f) (g s)).written) = _
    rw [ih s (g s)]
    show _ = match ((next s) (g s)).result with
      | .error e => Outcome.mk (.error e) (g s :: ((next s) (g s)).written)
      | .ok a => ⟨(f a (Prog.store (.put g next) s)).result,
          (g s :: ((next s) (g s)).written) ++ (f a (Prog.store (.put g next) s)).written⟩
    have hstore : Prog.store (.put g next) s = (next s).store (g s) := by
      show (g s :: ((next s) (g s)).written).getLastD s = _
      rw [getLastD_cons]
      rfl
    rw [hstore]
    cases ((next s) (g s)).result with
    | error | ok => rfl

/-! ## §2. Weakest preconditions -/

/-- From `s` every write of `x` leaves a store in `I`, and the uninterrupted run ends with `Q`. -/
def wp (I : S → Prop) (x : Prog S ε α) (Q : Except ε α → S → Prop) (s : S) : Prop :=
  (∀ t ∈ (x s).written, I t) ∧ Q (x s).result (x.store s)

section Rules

variable {I : S → Prop} {s : S}

variable {Q : Except ε α → S → Prop} {x : Prog S ε α}

@[simp] theorem wp_pure : wp I (pure a) Q s ↔ Q (.ok a) s := by
  constructor
  · exact fun h => h.2
  · exact fun h => ⟨by rintro t ⟨⟩, h⟩

@[simp] theorem wp_read : wp I (read f) Q s ↔ Q (.ok (f s)) s := by
  constructor
  · exact fun h => h.2
  · exact fun h => ⟨by rintro t ⟨⟩, h⟩

@[simp] theorem wp_fail : wp I (fail e) Q s ↔ Q (.error e) s := by
  constructor
  · exact fun h => h.2
  · exact fun h => ⟨by rintro t ⟨⟩, h⟩

@[simp] theorem wp_ofExcept {x} : wp I (ofExcept x) Q s ↔ Q x s := by
  constructor
  · exact fun h => h.2
  · exact fun h => ⟨by rintro t ⟨⟩, h⟩

@[simp] theorem wp_atomic : wp I (atomic f) Q s ↔ I (f s).1 ∧ Q (f s).2 (f s).1 := by
  constructor
  · exact fun h => ⟨h.1 _ (mem_singleton_self _), h.2⟩
  · rintro ⟨hI, hQ⟩
    refine ⟨?_, hQ⟩
    intro t ht
    rw [mem_singleton.mp ht]
    exact hI

@[simp] theorem wp_mapResult {Q : Except ε β → S → Prop} :
    wp I (mapResult f x) Q s ↔ wp I x (fun r t => Q (f r) t) s := by
  unfold wp Prog.store
  rw [run_mapResult]

@[simp] theorem wp_caught {Q} : wp I (caught x) Q s ↔ wp I x (fun r t => Q (.ok r) t) s :=
  wp_mapResult

theorem getLastD_append (xs ys : List S) (s) :
    (xs ++ ys).getLastD s = ys.getLastD (xs.getLastD s) := by
  simp only [getLastD_eq_getLast?, getLast?_append]
  cases ys.getLast? <;> rfl

/-- **THE SEQUENCE RULE**: what the first part has to establish. -/
theorem wp_bind {Q : Except ε β → S → Prop} : wp I (x >>= f) Q s ↔ wp I x (fun r t => match r with
        | .ok a => wp I (f a) Q t
        | .error e => Q (.error e) t) s := by
  unfold wp Prog.store
  rw [run_bind]
  cases hx : (x s).result with
  | error => simp
  | ok =>
    simp only [mem_append, getLastD_append]
    constructor
    · rintro ⟨hI, hQ⟩
      exact ⟨fun t ht => hI t (.inl ht), fun t ht => hI t (.inr ht), hQ⟩
    · rintro ⟨hfirst, hrest, hQ⟩
      refine ⟨?_, hQ⟩
      rintro t (ht | ht)
      · exact hfirst t ht
      · exact hrest t ht

theorem wp_mono (h : wp I x Q s) (himp : ∀ r t, Q r t → Q' r t) : wp I x Q' s := ⟨h.1, himp _ _ h.2⟩

/-- The last store is one of those written, or the first. -/
theorem store_mem_stops (x : Prog S ε α) (s) : x.store s ∈ x.stops s := by
  unfold Prog.store Prog.stops
  cases hw : (x s).written.getLast? with
  | none => simp [getLastD_eq_getLast?, hw]
  | some =>
    rw [getLastD_eq_getLast?, hw]
    exact mem_cons_of_mem _ (mem_of_getLast? hw)

theorem after_mem_stops (x : Prog S ε α) (s n) : x.after s n ∈ x.stops s := by
  rw [Prog.after, getD_eq_getElem?_getD]
  cases hstop : (x.stops s)[n]? with
  | none => exact mem_cons_self
  | some => exact mem_of_getElem? hstop

/-- **A STOPPED RUN LEAVES A STORE IN `I`.** -/
theorem stops_of_wp (h : wp I x Q s) (hs : I s) : ∀ t ∈ x.stops s, I t := by
  rintro t (_ | ⟨_, ht⟩)
  · exact hs
  · exact h.1 t ht

/-- The end of a run is in `I` too. -/
theorem wp_and_inv (h : wp I x Q s) (hs : I s) : wp I x (fun r t => Q r t ∧ I t) s :=
  ⟨h.1, h.2, stops_of_wp h hs _ (store_mem_stops x s)⟩

/-- **THE LOOP RULE.** `K done r` holds when the elements `done` have been worked off with the
result `r`; a failure ends the loop, so it has to persist. -/
theorem wp_foldM {all} (K : List α → Except ε β → S → Prop)
    (hstep : ∀ done a rest b t, all = done ++ a :: rest → K done (.ok b) t →
      wp I (body b a) (K (done ++ [a])) t)
    (hfail : ∀ done a e t, K done (.error e) t → K (done ++ [a]) (.error e) t) (hstart : K [] (.ok b) s) :
    wp I (foldM body all b) (K all) s := by
  suffices hloop : ∀ (rest done : List α) (b : β) (t : S), all = done ++ rest → K done (.ok b) t →
      wp I (foldM body rest b) (K all) t from hloop all [] b s rfl hstart
  intro rest
  induction rest with
  | nil =>
    intro done b t hall hK
    rw [append_nil] at hall
    subst hall
    exact wp_pure.mpr hK
  | cons a rest ih =>
    intro done b t hall hK
    refine wp_bind.mpr (wp_mono (hstep done a rest b t hall hK) ?_)
    intro r t' hK'
    cases r with
    | ok b' => exact ih (done ++ [a]) b' t' (by simp [hall]) hK'
    | error e =>
      -- the remaining elements are never looked at
      have hpersist : ∀ (rest done : List α), K done (.error e) t' → K (done ++ rest) (.error e) t' := by
        intro rest
        induction rest with
        | nil => intro done h; simpa using h
        | cons a rest ih => intro done h; simpa using ih (done ++ [a]) (hfail done a e t' h)
      rw [hall, append_cons]
      exact hpersist rest (done ++ [a]) hK'

end Rules

end Breakdown.Stepwise
