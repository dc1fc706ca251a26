/-
**EVERY OPTIMISTIC ROW GETS A FETCH**
(`reconcile_coordinator.dart`, `overlay_store.dart` and `reconciliation_scheduler.dart` of
`frontend-flutter/lib/domain/reconciliation`).

A row is shown before the projection has it. Its insert asks for a reconciliation pass; one pass
runs at a time, a later caller joins it, and a pass that ends behind an insert starts the next one.
The event loop runs the code between two awaits as one step. The owner is alive throughout, so its
liveness checks are left out.

- `runPass_knows`: what a pass knows about the rows that were there when it started;
- `reconcile_inv`: asking for a pass keeps the invariant, whether one runs or not;
- `every_row_fetched`: without a pass, every row is stale and was fetched for;
- `passes_end`: every pass ends.
-/
import Mathlib.Init

namespace Breakdown.Reconciliation

open List

/-! ## §1. The coordinator -/

/-- How far an entry is from being projected. -/
inductive OverlayStatus
  | acknowledged
  | reconciling
  | stale
  deriving DecidableEq

/-- `ReconciliationOverlay`, with the number of fetches that were started before its insert. -/
structure Overlay where
  id : String
  status : OverlayStatus
  insertedAt : Nat

def overlayAdd (state : List Overlay) (overlay : Overlay) : List Overlay :=
  state.filter (·.id ≠ overlay.id) ++ [overlay]

/-- `overlayMarkAllReconciling` and `overlayMarkAllStale`. -/
def overlayMarkAll (status : OverlayStatus) (state : List Overlay) : List Overlay :=
  state.map ({ · with status })

def overlayDropProjectedIds (state : List Overlay) (projectedIds : List String) : List Overlay :=
  if projectedIds.isEmpty then state else state.filter (!projectedIds.contains ·.id)

/-- The rows, and what happened to them: how many fetches were started, the id sets they answered, and
the ids of all inserts. -/
structure Store where
  overlays : List Overlay := []
  fetches : Nat := 0
  fetched : List (List String) := []
  inserted : List String := []

/-- `kMaxReconcileAttempts`. -/
def kMaxReconcileAttempts : Nat := 4

/-- Where a pass waits: for the one fetch it makes without rows, for a tick, for the fetch of an
attempt, or, when `_runPass` is through, for `_runWithFollowUp` to go on. -/
inductive Await
  | refetch
  | tick (attempt : Nat)
  | fetch (attempt : Nat)
  | returned

/-- `_runPass` up to its first await. -/
def Store.startPass (s : Store) : Store × Await :=
  if s.overlays.isEmpty then ({ s with fetches := s.fetches + 1 }, .refetch)
  else ({ s with
    overlays := overlayMarkAll .reconciling s.overlays, fetches := s.fetches + 1 }, .fetch 0)

/-- `_dropProjectedIds`, unless the fetch answered null. -/
def Store.answer (s : Store) : Option (List String) → Store
  | none => s
  | some ids => { s with
      overlays := overlayDropProjectedIds s.overlays ids, fetched := ids :: s.fetched }

/-- `_runPass` from one await to the next; `ids` is what a fetch answered. -/
def Store.runPass (s : Store) (ids : Option (List String)) : Await → Store × Await
  | .tick attempt => ({ s with fetches := s.fetches + 1 }, .fetch attempt)
  | .fetch attempt =>
    let s := s.answer ids
    if s.overlays.isEmpty then (s, .returned)
    else if attempt + 1 < kMaxReconcileAttempts then (s, .tick (attempt + 1))
    else ({ s with overlays := overlayMarkAll .stale s.overlays }, .returned)
  | .refetch | .returned => (s, .returned)

/-- A reconciliation pass, waiting for an answer. -/
structure Pass where
  generationAtStart : Nat
  await : Await

/-- The notifier and its passes. -/
structure State where
  store : Store := {}
  ackGeneration : Nat := 0
  inFlight : Bool := false
  passes : List Pass := []

/-- `reconcile`: `_inFlight ??= _runWithFollowUp()`. -/
def State.reconcile (s : State) : State := if s.inFlight then s
  else { s with
    store := s.store.startPass.1, inFlight := true
    passes := s.passes ++ [⟨s.ackGeneration, s.store.startPass.2⟩] }

/-- What can happen, in any order. -/
inductive Action
  | insert (id : String)
  | refresh
  | resume (i : Nat) (ids : Option (List String))

/-- One turn of the event loop; a pass that does not wait is not resumed. -/
def step (s : State) : Action → State
  | .insert id =>
    let overlays := overlayAdd s.store.overlays ⟨id, .acknowledged, s.store.fetches⟩
    { s with
      store := { s.store with overlays, inserted := id :: s.store.inserted }
      ackGeneration := s.ackGeneration + 1 : State }.reconcile
  | .refresh => s.reconcile
  | .resume i ids =>
    match s.passes[i]? with
    | none => s
    | some ⟨generationAtStart, .returned⟩ =>
      let s := { s with inFlight := false, passes := s.passes.eraseIdx i }
      if generationAtStart ≠ s.ackGeneration ∧ !s.store.overlays.isEmpty then s.reconcile else s
    | some pass =>
      let next := s.store.runPass ids pass.await
      { s with store := next.1, passes := s.passes.set i { pass with await := next.2 } }

/-- Where a sequence of turns leads from the start. -/
def after (actions : List Action) : State := actions.foldl step {}

/-! ## §2. The rows -/

/-- The rows went only where a fetch had their id. -/
structure Store.Rows (s : Store) : Prop where
  bounded : ∀ o ∈ s.overlays, o.insertedAt ≤ s.fetches
  kept : ∀ id ∈ s.inserted, (∀ o ∈ s.overlays, o.id ≠ id) → ∃ ids ∈ s.fetched, id ∈ ids

/-- What a pass knows, if no row was inserted since it started. -/
def Await.Knows (s : Store) : Await → Prop
  | .refetch => s.overlays = []
  | .tick _ | .fetch _ => ∀ o ∈ s.overlays, o.insertedAt < s.fetches
  | .returned => ∀ o ∈ s.overlays, o.status = .stale ∧ o.insertedAt < s.fetches

namespace Store

variable {s : Store}

theorem Rows.insert (h : s.Rows) (id : String) : Rows { s with
    overlays := overlayAdd s.overlays ⟨id, .acknowledged, s.fetches⟩, inserted := id :: s.inserted } where
  bounded o ho := by
    obtain hold | hnew := mem_append.mp ho
    · exact h.bounded o (mem_filter.mp hold).1
    · obtain rfl := mem_singleton.mp hnew
      exact Nat.le_refl _
  kept id' hid hgone := by
    have hne : id ≠ id' := hgone _ (mem_append_right _ mem_cons_self)
    refine h.kept id' ((mem_cons.mp hid).resolve_left hne.symm) fun o ho heq => ?_
    exact hgone o (mem_append_left _ (mem_filter.mpr ⟨ho, by simpa [heq] using hne.symm⟩)) heq

/-- A pass starts with a fetch for every row. -/
theorem startPass_knows (h : s.Rows) : s.startPass.1.Rows ∧ s.startPass.2.Knows s.startPass.1 := by
  have hlt : ∀ o ∈ s.overlays, o.insertedAt < s.fetches + 1 :=
    fun o ho => Nat.lt_succ_of_le (h.bounded o ho)
  unfold startPass
  split
  · next hempty => exact ⟨⟨fun o ho => Nat.le_of_lt (hlt o ho), h.kept⟩, isEmpty_iff.mp hempty⟩
  · refine ⟨⟨fun o ho => ?_, ?_⟩, ?_⟩
    · simp only [overlayMarkAll, mem_map] at ho
      obtain ⟨o, ho, rfl⟩ := ho
      exact Nat.le_of_lt (hlt o ho)
    · simpa [overlayMarkAll] using h.kept
    · simpa [overlayMarkAll, Await.Knows] using hlt

theorem mem_answer {ids o} (h : o ∈ (s.answer ids).overlays) : o ∈ s.overlays := by
  cases ids with
  | none => exact h
  | some =>
    simp only [answer, overlayDropProjectedIds] at h
    split at h
    · exact h
    · exact (mem_filter.mp h).1

theorem answer_fetches (ids) : (s.answer ids).fetches = s.fetches := by
  cases ids <;> rfl

theorem Rows.answer (h : s.Rows) (ids) : (s.answer ids).Rows := by
  refine ⟨fun o ho => by rw [answer_fetches]; exact h.bounded o (mem_answer ho), ?_⟩
  cases ids with
  | none => exact h.kept
  | some ids =>
    intro id hid hgone
    by_cases hthere : ∃ o ∈ s.overlays, o.id = id
    · -- the answer took the row away
      obtain ⟨o, ho, rfl⟩ := hthere
      refine ⟨ids, mem_cons_self, ?_⟩
      refine Decidable.byContradiction fun hmem => hgone o ?_ rfl
      simp only [Store.answer, overlayDropProjectedIds]
      split
      · exact ho
      · exact mem_filter.mpr ⟨ho, by simpa using hmem⟩
    · obtain ⟨ids', hids, hmem⟩ := h.kept id hid fun o ho heq => hthere ⟨o, ho, heq⟩
      exact ⟨ids', mem_cons_of_mem _ hids, hmem⟩

/-- **THE STEPS OF A PASS** keep what it knows. -/
theorem runPass_knows (h : s.Rows) (ids) (await : Await) {current : Prop}
    (hknows : current → await.Knows s) : (s.runPass ids await).1.Rows ∧
      (current → (s.runPass ids await).2.Knows (s.runPass ids await).1) := by
  cases await with
  | refetch =>
    refine ⟨h, fun hcurrent o ho => ?_⟩
    change o ∈ s.overlays at ho
    rw [show s.overlays = [] from hknows hcurrent] at ho
    cases ho
  | tick =>
    exact ⟨⟨fun o ho => Nat.le_succ_of_le (h.bounded o ho), h.kept⟩,
      fun hcurrent o ho => Nat.lt_succ_of_lt (hknows hcurrent o ho)⟩
  | returned => exact ⟨h, hknows⟩
  | fetch =>
    have hrows := h.answer ids
    have hfetched : current → ∀ o ∈ (s.answer ids).overlays, o.insertedAt < (s.answer ids).fetches :=
      fun hcurrent o ho => by rw [answer_fetches]; exact hknows hcurrent o (mem_answer ho)
    unfold runPass
    dsimp only
    split
    · next hempty => exact ⟨hrows, fun _ o ho => by simp [isEmpty_iff.mp hempty] at ho⟩
    · split
      · exact ⟨hrows, hfetched⟩
      · exact ⟨⟨by simpa [overlayMarkAll] using hrows.bounded, by simpa [overlayMarkAll] using hrows.kept⟩,
          fun hcurrent => by simpa [Await.Knows, overlayMarkAll] using hfetched hcurrent⟩

end Store

/-! ## §3. One pass at a time -/

/-- The one pass that runs, if any. -/
structure Flight (s : State) : Prop where
  rows : s.store.Rows
  idle : s.inFlight = false → s.passes = []
  one : s.inFlight → ∃ pass, s.passes = [pass] ∧ pass.generationAtStart ≤ s.ackGeneration ∧
    (pass.generationAtStart = s.ackGeneration → pass.await.Knows s.store)

/-- Without a pass, the rows are as a pass leaves them. -/
structure Inv (s : State) : Prop extends Flight s where
  settled : s.inFlight = false → Await.returned.Knows s.store

variable {s : State}

/-- Asking for a pass joins the one that runs, or starts one. -/
theorem reconcile_inv (h : Flight s) : Inv s.reconcile := by
  unfold State.reconcile
  split
  · next hone => exact ⟨h, fun hidle => absurd (hone.symm.trans hidle) nofun⟩
  · next hidle =>
    obtain ⟨hrows, hknows⟩ := Store.startPass_knows h.rows
    refine ⟨⟨hrows, nofun, fun _ => ⟨⟨s.ackGeneration, s.store.startPass.2⟩, ?_, Nat.le_refl _,
      fun _ => hknows⟩⟩, nofun⟩
    rw [h.idle (by simpa using hidle)]
    rfl

theorem resume_inv (h : Inv s) (i ids) : Inv (step s (.resume i ids)) := by
  unfold step
  dsimp only
  cases hone : s.inFlight with
  | false =>
    rw [h.idle hone]
    exact h
  | true =>
    obtain ⟨pass, hpasses, hle, hknows⟩ := h.one hone
    have hflight : Flight { s with inFlight := false, passes := s.passes.eraseIdx 0 } :=
      ⟨h.rows, fun _ => by simp [hpasses], nofun⟩
    split
    · exact h
    · next generationAtStart hi =>
      obtain ⟨rfl, rfl⟩ : i = 0 ∧ pass = ⟨generationAtStart, .returned⟩ := by
        simpa [hpasses, getElem?_cons] using hi
      split
      · exact reconcile_inv hflight
      · next hstays =>
        -- nothing was inserted, or nothing is left
        refine ⟨hflight, fun _ o ho => ?_⟩
        by_cases hcurrent : generationAtStart = s.ackGeneration
        · exact hknows hcurrent o ho
        · have hempty : s.store.overlays = [] := by simpa [hcurrent] using hstays
          change o ∈ s.store.overlays at ho
          rw [hempty] at ho
          cases ho
    · next pass' _ hi =>
      obtain ⟨rfl, rfl⟩ : i = 0 ∧ pass = pass' := by simpa [hpasses, getElem?_cons] using hi
      obtain ⟨hrows, hnext⟩ := Store.runPass_knows h.rows ids pass.await hknows
      refine ⟨⟨hrows, nofun, fun _ => ⟨{ pass with await := (s.store.runPass ids pass.await).2 },
        ?_, hle, hnext⟩⟩, nofun⟩
      rw [hpasses]
      rfl

theorem step_inv (h : Inv s) (action) : Inv (step s action) := by
  cases action with
  | insert id =>
    refine reconcile_inv ⟨h.rows.insert id, h.idle, fun hone => ?_⟩
    obtain ⟨pass, hpass, hle, -⟩ := h.one hone
    -- the pass has not seen this acknowledgement
    refine ⟨pass, hpass, Nat.le_succ_of_le hle, fun heq => ?_⟩
    exact absurd (heq ▸ hle) (Nat.not_succ_le_self _)
  | refresh => exact reconcile_inv h.toFlight
  | resume i ids => exact resume_inv h i ids

/-- **EVERY OPTIMISTIC ROW GETS A FETCH**, however inserts, refreshes and the steps of the passes
interleave: at most one pass runs; without one, every row that is there is stale and a fetch was
started after its insert; and a row that is gone was in an id set that was fetched. -/
theorem every_row_fetched (actions : List Action) : (after actions).passes.length ≤ 1 ∧
    ((after actions).passes = [] → ∀ o ∈ (after actions).store.overlays,
      o.status = .stale ∧ o.insertedAt < (after actions).store.fetches) ∧
    ∀ id ∈ (after actions).store.inserted, (∀ o ∈ (after actions).store.overlays, o.id ≠ id) →
      ∃ ids ∈ (after actions).store.fetched, id ∈ ids := by
  have hinv : Inv (after actions) := actions.foldlRecOn step (motive := Inv)
    ⟨⟨⟨nofun, nofun⟩, fun _ => rfl, nofun⟩, fun _ => nofun⟩ fun _ h action _ => step_inv h action
  cases hflight : (after actions).inFlight with
  | false => exact ⟨by simp [hinv.idle hflight], fun _ => hinv.settled hflight, hinv.rows.kept⟩
  | true =>
    obtain ⟨pass, hpasses, -⟩ := hinv.one hflight
    exact ⟨by simp [hpasses], fun hnone => by simp [hpasses] at hnone, hinv.rows.kept⟩

/-! ## §4. Every pass ends -/

/-- How often a pass is resumed until it is through, at most. -/
def Await.left : Await → Nat
  | .refetch => 2
  | .tick attempt => max 2 (2 * (kMaxReconcileAttempts - attempt)) + 1
  | .fetch attempt => max 2 (2 * (kMaxReconcileAttempts - attempt))
  | .returned => 1

/-- The pass that runs, and the one that follows it. -/
def State.left (s : State) : Nat := match s.passes with
  | [] => 0
  | pass :: _ => pass.await.left + if pass.generationAtStart = s.ackGeneration then 0 else 9

theorem Await.left_bounds (await : Await) : 0 < await.left ∧ await.left ≤ 9 := by
  cases await <;> simp only [left, kMaxReconcileAttempts] <;> omega

theorem State.left_le (s : State) : s.left ≤ 18 := by
  unfold left
  split
  · exact Nat.zero_le _
  · next pass _ _ =>
    have hle := pass.await.left_bounds.2
    split <;> omega

theorem runPass_left (store : Store) (ids) {await : Await} (hwaits : await ≠ .returned) :
    (store.runPass ids await).2.left < await.left := by
  cases await with
  | returned => exact absurd rfl hwaits
  | refetch => exact Nat.le_refl 2
  | tick => exact Nat.lt_succ_self _
  | fetch attempt =>
    have htwo : 2 ≤ (Await.fetch attempt).left := Nat.le_max_left ..
    unfold Store.runPass
    dsimp only
    split
    · exact htwo
    · split
      · simp only [Await.left]
        omega
      · exact htwo

/-- A resumption brings the end nearer… -/
theorem resume_left (h : Inv s) (ids) : (step s (.resume 0 ids)).left ≤ s.left - 1 := by
  cases hone : s.inFlight with
  | false => simp [step, State.left, h.idle hone]
  | true =>
    obtain ⟨⟨generation, await⟩, hpasses, -⟩ := h.one hone
    cases await with
    | returned =>
      simp only [step, hpasses, getElem?_cons_zero]
      split
      · next hbehind =>
        -- the pass that follows has seen every acknowledgement
        simpa [State.left, State.reconcile, hpasses, hbehind.1, Await.left] using
          s.store.startPass.2.left_bounds.2
      · exact Nat.zero_le _
    | _ =>
      simp only [step, State.left, hpasses, getElem?_cons_zero, set_cons_zero]
      refine Nat.le_sub_one_of_lt (Nat.add_lt_add_right (runPass_left _ _ ?_) _)
      nofun

/-- …and so does each of a sequence of them. -/
theorem resumes_left (answers : List (Option (List String))) (h : Inv s) :
    Inv ((answers.map (.resume 0)).foldl step s) ∧
      ((answers.map (.resume 0)).foldl step s).left ≤ s.left - answers.length := by
  induction answers generalizing s with
  | nil => exact ⟨h, Nat.le_refl _⟩
  | cons ids answers ih =>
    have hstep := resume_left h ids
    obtain ⟨hinv, hleft⟩ := ih (resume_inv h 0 ids)
    refine ⟨hinv, Nat.le_trans hleft ?_⟩
    rw [length_cons]
    omega

/-- **EVERY PASS ENDS**: whatever happened before and whatever the fetches answer, eighteen
resumptions end the pass that runs and the one that follows it, and every row left is stale. -/
theorem passes_end (actions : List Action) (answers : Fin 18 → Option (List String)) :
    let s := after (actions ++ (ofFn answers).map (.resume 0))
    s.passes = [] ∧ ∀ o ∈ s.store.overlays, o.status = .stale := by
  intro s
  have hinv : Inv (after actions) := actions.foldlRecOn step (motive := Inv)
    ⟨⟨⟨nofun, nofun⟩, fun _ => rfl, nofun⟩, fun _ => nofun⟩ fun _ h action _ => step_inv h action
  obtain ⟨hinv, hleft⟩ : Inv s ∧ s.left ≤ (after actions).left - 18 := by
    simpa only [s, after, foldl_append, length_ofFn] using resumes_left (ofFn answers) hinv
  have hdone : s.left = 0 := by have := (after actions).left_le; omega
  cases hone : s.inFlight with
  | false => exact ⟨hinv.idle hone, fun o ho => (hinv.settled hone o ho).1⟩
  | true =>
    obtain ⟨pass, hpasses, -⟩ := hinv.one hone
    have hpos := pass.await.left_bounds.1
    simp only [State.left, hpasses] at hdone
    omega

end Breakdown.Reconciliation
