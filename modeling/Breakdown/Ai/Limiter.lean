/-
**THE IN-PROCESS LIMITER** (`infra/src/ai/concurrency.rs`).

A job takes a permit of the global semaphore and one of its user's, which it finds or makes in a
map behind a lock. Whoever has the lock first throws out the semaphores that look idle. A
semaphore is not dropped with its entry: a task that has looked it up still has it, so a user could
come to have two. That does not happen, because what a task has looked up stays in the map until
the task is done with it.

- `Ok`: a clone of a semaphore is the one in the map, whatever the tasks do;
- `never_over_admits`: the live permits keep to both limits.
-/
import Breakdown.Lib.Transition
import Mathlib.Logic.Function.Basic

namespace Breakdown.Limiter

open Transition List Function

/-! ## §1. Tasks, and the map of the users -/

/-- Where a task is in `try_acquire`, or with the permit it returned. -/
inductive Phase
  | idle
  /-- It has the global permit, and waits for the map or has it. -/
  | waiting (user : String)
  /-- It has the user's semaphore, and has let go of the map. -/
  | cloned (user : String) (sem : Nat)
  /-- There was no permit: first its `Arc` goes, then the global permit. -/
  | failing (user : String) (sem : Nat)
  | refused
  | live (user : String) (sem : Nat)
  /-- The permit is dropped field by field: the global one, the user's, its `Arc`. -/
  | closing (user : String) (sem : Nat)
  | closed (user : String) (sem : Nat)
  deriving DecidableEq

namespace Phase

/-- The `Arc` of a user's semaphore. -/
def clone : Phase → Option (String × Nat)
  | .cloned user sem | .failing user sem | .live user sem | .closing user sem | .closed user sem =>
    some (user, sem)
  | _ => none

def holdsGlobal : Phase → Bool
  | .waiting _ | .cloned .. | .failing .. | .refused | .live .. => true
  | _ => false

def refers (sem : Nat) (p : Phase) : Bool := p.clone.any (·.2 = sem)

/-- It has a permit of the semaphore. -/
def takes (sem : Nat) : Phase → Bool
  | .live _ sem' | .closing _ sem' => sem' = sem
  | _ => false

def isLive : Phase → Bool
  | .live .. => true
  | _ => false

def isLiveOf (user : String) : Phase → Bool
  | .live user' _ => user' = user
  | _ => false

end Phase

/-- What `AiImportBounds` says of the jobs in flight. -/
structure Bounds where
  global : Nat
  perUser : Nat

/-- The task that has the map, what its `retain` has yet to look at, and whether it has seen that
nobody else refers to the first of these. -/
structure Guard where
  task : Nat
  todo : List String
  alone : Bool

/-- `AiConcurrencyLimiter` with the tasks that use it. -/
structure State where
  tasks : List Phase
  perUser : String → Option Nat
  /-- The next semaphore. -/
  next : Nat
  guard : Option Guard

/-- `AiConcurrencyLimiter::new`, and so many tasks. -/
def State.new (tasks : Nat) : State := ⟨replicate tasks .idle, fun _ => none, 0, none⟩

def State.put (s : State) (i : Nat) (p : Phase) : State := { s with tasks := s.tasks.set i p }

/-- `Arc::strong_count` of a semaphore of the map. -/
def strongCount (s : State) (sem : Nat) : Nat := 1 + s.tasks.countP (·.refers sem)

def availablePermits (bounds : Bounds) (s : State) (sem : Nat) : Nat :=
  bounds.perUser - s.tasks.countP (·.takes sem)

/-- What the task that has the map does next: `retain`, entry by entry and with two looks at each, then
the entry of its own user. -/
def withMap (bounds : Bounds) (s : State) (g : Guard) : Option State := match g.todo with
  | other :: todo =>
    let kept := { s with guard := some ⟨g.task, todo, false⟩ }
    match s.perUser other with
    | none => some kept
    | some sem =>
      if g.alone then
        if availablePermits bounds s sem < bounds.perUser then some kept
        else some { kept with perUser := update s.perUser other none }
      else if strongCount s sem > 1 then some kept
      else some { s with guard := some { g with alone := true } }
  | [] =>
    match s.tasks[g.task]? with
    | some (.waiting user) =>
      match s.perUser user with
      | some sem => some { s.put g.task (.cloned user sem) with guard := none }
      | none => some ⟨s.tasks.set g.task (.cloned user s.next),
          update s.perUser user (some s.next), s.next + 1, none⟩
    | _ => none

/-- What a task does next on its own. -/
def advance (bounds : Bounds) (s : State) : Phase → Option Phase
  | .cloned user sem =>
    some (if availablePermits bounds s sem > 0 then .live user sem else .failing user sem)
  | .failing .. => some .refused
  | .live user sem => some (.closing user sem)
  | .closing user sem => some (.closed user sem)
  | .closed .. | .refused => some .idle
  | _ => none

/-- The steps of the tasks, in any order. -/
inductive Action
  | call (i : Nat) (user : String)
  /-- The order in which `retain` goes through the map is the map's. -/
  | lock (i : Nat) (order : List String)
  | withMap
  | advance (i : Nat)

/-- One action, if it is enabled. -/
def step (bounds : Bounds) (s : State) : Action → Option State
  | .call i user =>
    if s.tasks[i]? = some .idle then
      some (if s.tasks.countP Phase.holdsGlobal < bounds.global then s.put i (.waiting user) else s)
    else none
  | .lock i order =>
    match s.tasks[i]?, s.guard with
    | some (.waiting _), none => some { s with guard := some ⟨i, order, false⟩ }
    | _, _ => none
  | .withMap => s.guard.bind (withMap bounds s)
  | .advance i => do
      let p ← s.tasks[i]?
      let p' ← advance bounds s p
      some (s.put i p')

/-! ## §2. What a task has looked up stays in the map -/

/-- **THE INVARIANT.** -/
structure Ok (bounds : Bounds) (s : State) : Prop where
  global : s.tasks.countP Phase.holdsGlobal ≤ bounds.global
  taken : ∀ sem, s.tasks.countP (·.takes sem) ≤ bounds.perUser
  mapped : ∀ p ∈ s.tasks, ∀ user sem, p.clone = some (user, sem) → s.perUser user = some sem
  alone : ∀ task other todo, s.guard = some ⟨task, other :: todo, true⟩ →
    ∀ sem, s.perUser other = some sem → ∀ p ∈ s.tasks, p.refers sem = false

theorem Ok.new (bounds tasks) : Ok bounds (.new tasks) where
  global := by simp [State.new, countP_replicate, Phase.holdsGlobal]
  taken sem := by simp [State.new, countP_replicate, Phase.takes]
  mapped p hp := by
    obtain rfl := eq_of_mem_replicate hp
    exact nofun
  alone := nofun

section Steps

variable {bounds : Bounds} {i : Nat} {s s' : State} {old p : Phase}

theorem countP_set_le {count : Phase → Bool} (hold : s.tasks[i]? = some old)
    (h : s.tasks.countP count ≤ limit) (hp : count p → count old ∨ s.tasks.countP count < limit) :
    (s.tasks.set i p).countP count ≤ limit := by
  obtain ⟨hi, rfl⟩ := List.getElem?_eq_some_iff.mp hold
  have hpos : count s.tasks[i] → 0 < s.tasks.countP count := fun hc =>
    countP_pos_iff.mpr ⟨_, getElem_mem hi, hc⟩
  rw [countP_set hi]
  grind

section

variable (h : Ok bounds s)
include h

/-- **A TASK MOVES ON** by itself: it gets a permit only where there is one, and no semaphore. -/
theorem Ok.put (hold : s.tasks[i]? = some old)
    (hglobal : p.holdsGlobal → old.holdsGlobal ∨ s.tasks.countP Phase.holdsGlobal < bounds.global)
    (htakes : ∀ sem, p.takes sem → old.takes sem ∨ s.tasks.countP (·.takes sem) < bounds.perUser)
    (hclone : ∀ c, p.clone = some c → old.clone = some c) : Ok bounds (s.put i p) where
  global := countP_set_le hold h.global hglobal
  taken sem := countP_set_le hold (h.taken sem) (htakes sem)
  mapped q hq user sem hsem := by
    obtain hq | rfl := mem_or_eq_of_mem_set hq
    · exact h.mapped q hq user sem hsem
    · exact h.mapped old (mem_of_getElem? hold) user sem (hclone _ hsem)
  alone task other todo hg sem hsem q hq := by
    have hnone := h.alone task other todo hg sem hsem
    obtain hq | rfl := mem_or_eq_of_mem_set hq
    · exact hnone q hq
    · have hold := hnone old (mem_of_getElem? hold)
      unfold Phase.refers at hold ⊢
      cases hc : q.clone with
      | none => rfl
      | some c => rwa [hclone c hc] at hold

/-- **A TASK TAKES ITS SEMAPHORE** from the map, where it may just have put it, and lets go of the
map. -/
theorem Ok.clone {sem next : Nat}
    (hold : s.tasks[i]? = some (.waiting user)) (hsem : perUser user = some sem)
    (hkeep : ∀ user sem, s.perUser user = some sem → perUser user = some sem) :
    Ok bounds ⟨s.tasks.set i (.cloned user sem), perUser, next, none⟩ where
  global := countP_set_le hold h.global fun _ => .inl rfl
  taken sem := countP_set_le hold (h.taken sem) nofun
  mapped q hq user' sem' hc := by
    obtain hq | rfl := mem_or_eq_of_mem_set hq
    · exact hkeep user' sem' (h.mapped q hq user' sem' hc)
    · cases hc
      exact hsem
  alone := nofun

/-- **AN ENTRY IS THROWN OUT** that no task refers to. -/
theorem Ok.prune {guard : Option Guard} (hguard : ∀ g ∈ guard, g.alone = false)
    (hnone : ∀ sem, s.perUser other = some sem → ∀ p ∈ s.tasks, p.refers sem = false) :
    Ok bounds ⟨s.tasks, update s.perUser other none, s.next, guard⟩ where
  global := h.global
  taken := h.taken
  mapped p hp user sem hc := by
    have hmapped := h.mapped p hp user sem hc
    by_cases hsame : user = other
    · subst hsame
      have hrefers := hnone sem hmapped p hp
      simp [Phase.refers, hc] at hrefers
    · show update s.perUser other none user = _
      rwa [update_of_ne hsame]
  alone task other todo hg := by cases hguard _ hg

/-- Before the second look there is nothing to keep in mind. -/
theorem Ok.look {guard : Option Guard} (hguard : ∀ g ∈ guard, g.alone = false) :
    Ok bounds { s with guard } :=
  { h with alone := fun task other todo hg => by cases hguard _ hg }

theorem withMap_ok (hg : s.guard = some g) (hs : withMap bounds s g = some s') : Ok bounds s' := by
  obtain ⟨task, todo, alone⟩ := g
  unfold withMap at hs
  split at hs
  · next other todo htodo =>
    obtain rfl : _ = other :: todo := htodo
    have hkept : Ok bounds { s with guard := some ⟨task, todo, false⟩ } := h.look (by simp)
    split at hs
    · cases hs
      exact hkept
    · next sem hsem =>
      split at hs
      · -- the second look
        next halone =>
        obtain rfl : alone = true := halone
        split at hs <;> cases hs
        · exact hkept
        · exact h.prune (by simp) (h.alone task other todo hg)
      · split at hs <;> cases hs
        · exact hkept
        · -- the map has the only reference, and there is no other way to get one
          next hcount =>
          refine { h with alone := ?_ }
          rintro _ _ _ ⟨⟩ sem' hsem' p hp
          obtain rfl : sem' = sem := Option.some.inj (hsem'.symm.trans hsem)
          unfold strongCount at hcount
          have hzero : s.tasks.countP (·.refers sem') = 0 := by omega
          exact Bool.not_eq_true _ ▸ countP_eq_zero.mp hzero p hp
  · split at hs
    · next user hold =>
      split at hs <;> cases hs
      · next sem hsem => exact h.clone hold hsem fun _ _ => id
      · next hnone =>
        refine h.clone hold (update_self ..) fun user' sem hsem => ?_
        rw [update_of_ne]
        · exact hsem
        · rintro rfl
          rw [hnone] at hsem
          cases hsem
    · cases hs

theorem advance_ok (hold : s.tasks[i]? = some old) (hs : advance bounds s old = some p) :
    Ok bounds (s.put i p) := by
  unfold advance at hs
  split at hs <;> cases hs
  · next user sem =>
    split
    · next hfree =>
      refine h.put hold (fun _ => .inl rfl) (fun sem' htakes => ?_) fun _ => id
      obtain rfl : sem = sem' := of_decide_eq_true htakes
      unfold availablePermits at hfree
      exact .inr (by omega)
    · exact h.put hold (fun _ => .inl rfl) nofun fun _ => id
  · exact h.put hold (fun _ => .inl rfl) nofun nofun
  -- dropping a permit only gives up things
  · exact h.put hold nofun (fun _ => .inl) fun _ => id
  · exact h.put hold nofun nofun fun _ => id
  · exact h.put hold nofun nofun nofun
  · exact h.put hold nofun nofun nofun

/-- **STEP.** -/
theorem step_ok (hs : step bounds s a = some s') : Ok bounds s' := by
  cases a with
  | call i user =>
    simp only [step, Option.ite_none_right_eq_some] at hs
    obtain ⟨hold, hs⟩ := hs
    cases hs
    split
    · next hfree => exact h.put hold (fun _ => .inr hfree) nofun nofun
    · exact h
  | lock i order =>
    simp only [step] at hs
    split at hs <;> cases hs
    exact h.look (by simp)
  | withMap =>
    obtain ⟨g, hg, hs⟩ := Option.bind_eq_some_iff.mp hs
    exact withMap_ok h hg hs
  | advance i =>
    obtain ⟨old, hold, hs⟩ := Option.bind_eq_some_iff.mp hs
    obtain ⟨p, hp, hs⟩ := Option.bind_eq_some_iff.mp hs
    cases hs
    exact advance_ok h hold hp

end

end Steps

/-- **THE LIMITER NEVER OVER-ADMITS**: whatever the tasks do, and in whatever order, there are never
more live permits than the global limit, nor more of one user than the limit of a user. -/
theorem never_over_admits {bounds : Bounds} {tasks : Nat} {s : State}
    (h : Runs (step bounds) anyStep (.new tasks) s) : s.tasks.countP Phase.isLive ≤ bounds.global ∧
      ∀ user, s.tasks.countP (·.isLiveOf user) ≤ bounds.perUser := by
  have hok := h.invariant (Ok bounds) (.new ..) fun _ _ _ hs _ => step_ok hs
  refine ⟨Nat.le_trans (countP_mono_left ?_) hok.global, fun user => ?_⟩
  · intro p _ hp
    cases p <;> first | rfl | cases hp
  · -- they are all of the semaphore in the map
    have hmapped : ∀ p ∈ s.tasks, p.isLiveOf user = true →
        ∃ sem, s.perUser user = some sem ∧ p.takes sem = true := by
      intro p hp hlive
      cases p with
      | live user' sem =>
        obtain rfl : user' = user := of_decide_eq_true hlive
        exact ⟨sem, hok.mapped _ hp user' sem rfl, decide_eq_true rfl⟩
      | _ => cases hlive
    by_cases hsem : ∃ sem, s.perUser user = some sem
    · obtain ⟨sem, hsem⟩ := hsem
      refine Nat.le_trans (countP_mono_left fun p hp hlive => ?_) (hok.taken sem)
      obtain ⟨sem', hsome, htakes⟩ := hmapped p hp hlive
      rw [hsem] at hsome
      exact Option.some.inj hsome ▸ htakes
    · rw [countP_eq_zero.mpr fun p hp hlive => hsem ((hmapped p hp hlive).imp fun _ => And.left)]
      exact Nat.zero_le _

/-- Two tasks of one user with a limit of one: the entry of the first is thrown out when it is done,
and of the two that come next one gets a permit. -/
theorem never_over_admits_twice :
    ∃ s, Runs (step ⟨2, 1⟩) anyStep (.new 2) s ∧ s.perUser "ada" = some 1 ∧
      s.tasks = [.refused, .live "ada" 1] ∧ s.tasks.countP (·.isLiveOf "ada") ≤ 1 := by
  refine exists_runs_imp [.call 0 "ada", .lock 0 [], .withMap, .advance 0, .advance 0, .advance 0,
    .advance 0, .call 1 "ada", .lock 1 ["ada"], .withMap, .withMap, .withMap, .advance 1,
    .call 0 "ada", .lock 0 ["ada"], .withMap, .withMap, .advance 0, .advance 0]
    (P := fun s => s.perUser "ada" = some 1 ∧ s.tasks = [.refused, .live "ada" 1]) (by decide) ?_
  intro s hs ⟨hmap, htasks⟩
  exact ⟨hmap, htasks, (never_over_admits hs).2 "ada"⟩

end Breakdown.Limiter
