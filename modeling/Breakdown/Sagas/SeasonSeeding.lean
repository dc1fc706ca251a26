/-
**THE VOCABULARY OF A NEW SEASON**
(`infra/src/sagas/season_seeding.rs`).

The saga is fed `SeasonCreated` from the beginning whenever it starts. It creates one costume category
per entry of its seed, each under a new id, unless the projection already counts a category of the
season. The count is all it remembers: a crash between two creates loses the rest, and a restart
before the projection has caught up makes everything twice.

- `season_seeded_once`: neither can happen, if the projection shows what the store has of a
  season whenever its creation is delivered, and no delivery ends between two creates;
- `seeding_lost_or_doubled`: both can.
-/
import Breakdown.Lib.Transition
import Breakdown.Projections.EntityIds

namespace Breakdown.SeasonSeeding

open Transition List

/-! ## §1. The saga -/

/-- `SEED_ORDER_KEYS`. -/
def seedOrderKeys : List String := ["a", "b", "c", "d", "e"]

/-- The category streams, their table and the saga. -/
structure World where
  /-- The events of all categories. -/
  log : List CostumeCategoryEvent := []
  /-- What `projection_costume_category` has been fed. -/
  projected : List CostumeCategoryEvent := []
  /-- The season of the delivery that is being handled, and the seed entries left to create. -/
  job : Option (SeasonId × List (String × Nat)) := none
  /-- The deliveries that were handled without an error. -/
  handled : List SeasonId := []

/-- What can happen. -/
inductive Action
  | deliver (season : SeasonId)
  /-- The next create of the loop, under the id that `Uuid::now_v7()` returns: no category has it. -/
  | create (id : Uuid)
  /-- The process ends, or an append fails. -/
  | crash
  | project (event : CostumeCategoryEvent)

/-- The name of a category that was created for the season. -/
def createdName (season : SeasonId) : CostumeCategoryEvent → Option String
  | .costumeCategoryCreated _ seasonId name _ _ => if seasonId = season then some name else none
  | _ => none

/-- The categories created for a season, in order. -/
def created (season : SeasonId) (log : List CostumeCategoryEvent) : List String :=
  log.filterMap (createdName season)

/-- `count_for_season`. -/
def World.countForSeason (w : World) (season : SeasonId) : Nat := (created season w.projected).length

/-- `CostumeCategoryAggregate::execute` under `ExpectedVersion::Empty`, which a new id meets. -/
def World.execute (w : World) (cmd : CreateCostumeCategory) : Option World :=
  match (Entity.init : CostumeCategoryAggregate).create cmd with
  | .ok events => some { w with log := w.log ++ events }
  | .error _ => none

/-- The loop of `seed_season`, with these entries left. -/
def World.goOn (w : World) (season : SeasonId) : List (String × Nat) → World
  | [] => { w with job := none, handled := season :: w.handled }
  | rest => { w with job := some (season, rest) }

/-- One action, if it is enabled. -/
def step (seed : List String) (w : World) : Action → Option World
  | .deliver season =>
    if w.job.isSome then none
    else if w.countForSeason season > 0 then some (w.goOn season [])
    else some (w.goOn season seed.zipIdx)
  | .create id =>
    if w.log.any fun event => event.id = id then none
    else match w.job with
    | some (season, (name, i) :: rest) =>
      match w.execute ⟨id, season, name, ⟨seedOrderKeys[i]?.getD "z"⟩⟩ with
      | some w' => some (w'.goOn season rest)
      | none => some { w with job := none }
    | _ => none
  | .crash => some { w with job := none }
  | .project event =>
    if event ∈ w.log then some { w with projected := w.projected ++ [event] } else none

/-! ## §2. Seeded once -/

/-- A delivery finds the projection up to date for its season, and a delivery that has begun to create
goes on to the end of the seed. -/
def undisturbed (seed : List String) (w : World) : Action → Prop
  | .deliver season => created season w.log = [] ∨ created season w.projected ≠ []
  | .crash => ∀ job ∈ w.job, job.2 = seed.zipIdx
  | _ => True

instance (seed : List String) (w : World) (a : Action) : Decidable (undisturbed seed w a) := by
  cases a <;> dsimp only [undisturbed] <;> infer_instance

/-- **THE INVARIANT**: a season has its whole vocabulary, nothing, or what the running delivery has
created of it. -/
structure Inv (seed : List String) (w : World) : Prop where
  projected : w.projected ⊆ w.log
  handled : ∀ season ∈ w.handled, created season w.log = seed
  untouched : ∀ season, season ∉ w.handled → (∀ job ∈ w.job, job.1 ≠ season) →
    created season w.log = []
  running : ∀ job ∈ w.job, job.1 ∉ w.handled ∧ created job.1 w.log ++ job.2.map Prod.fst = seed

variable {seed : List String} {w w' : World}

theorem created_concat (season log event) :
    created season (log ++ [event]) = created season log ++ (createdName season event).toList := by
  unfold created
  rw [filterMap_append]
  cases h : createdName season event <;> simp [h]

theorem created_ne_nil (h : log ⊆ log') (hne : created season log ≠ []) :
    created season log' ≠ [] := by
  obtain ⟨name, hname⟩ := exists_mem_of_ne_nil _ hne
  obtain ⟨event, hevent, hcreated⟩ := mem_filterMap.mp hname
  exact ne_nil_of_mem (mem_filterMap.mpr ⟨event, h hevent, hcreated⟩)

/-- The loop goes on, or ends with the whole seed created. -/
theorem goOn_inv (hprojected : w.projected ⊆ w.log)
    (hhandled : ∀ other ∈ w.handled, created other w.log = seed)
    (hothers : ∀ other ≠ season, other ∉ w.handled → created other w.log = [])
    (hopen : season ∉ w.handled ∨ rest = []) (hrest : created season w.log ++ rest.map Prod.fst = seed) :
    Inv seed (w.goOn season rest) := by
  cases rest with
  | nil =>
    refine ⟨hprojected, ?_, ?_, nofun⟩
    · intro other hother
      rcases mem_cons.mp hother with rfl | hother
      · show created other w.log = seed
        simpa using hrest
      · exact hhandled other hother
    · intro other hother _
      rw [World.goOn, mem_cons, not_or] at hother
      exact hothers other hother.1 hother.2
  | cons =>
    refine ⟨hprojected, hhandled, ?_, ?_⟩
    · intro other hother hjob
      exact hothers other (Ne.symm (hjob _ rfl)) hother
    · rintro _ ⟨⟩
      exact ⟨hopen.resolve_right nofun, hrest⟩

/-- A create takes the next entry, and concerns no other season. -/
theorem Inv.create (h : Inv seed w)
    (hjob : w.job = some (season, (name, i) :: rest)) (id orderKey version) :
    Inv seed (World.goOn { w with
      log := w.log ++ [.costumeCategoryCreated id season name orderKey version] } season rest) := by
  obtain ⟨hopen, hrest⟩ := h.running _ hjob
  have hother : ∀ other ≠ season, created other
      (w.log ++ [.costumeCategoryCreated id season name orderKey version]) = created other w.log := by
    intro other hne
    rw [created_concat, createdName, if_neg (Ne.symm hne)]
    exact append_nil _
  refine goOn_inv (Subset.trans h.projected (subset_append_left ..)) ?_ ?_ (.inl hopen) ?_
  · intro other hdone
    have hne : other ≠ season := fun heq => hopen (heq ▸ hdone)
    exact (hother other hne).trans (h.handled other hdone)
  · intro other hne hopen'
    refine (hother other hne).trans (h.untouched other hopen' ?_)
    rw [hjob]
    rintro _ ⟨⟩
    exact Ne.symm hne
  · rw [created_concat, createdName, if_pos rfl, append_assoc]
    exact hrest

/-- **STEP.** -/
theorem step_inv (hnames : ∀ name ∈ seed, isBlank name = false) (h : Inv seed w)
    (hc : undisturbed seed w a) (hs : step seed w a = some w') : Inv seed w' := by
  cases a with simp only [step] at hs
  | deliver season =>
    split at hs
    · cases hs
    next hidle =>
    have huntouched : ∀ other, other ∉ w.handled → created other w.log = [] := by
      intro other hother
      refine h.untouched other hother fun job hjob => ?_
      rw [hjob] at hidle
      exact absurd rfl hidle
    split at hs <;> cases hs
    · -- a season of which there is a row has been handled
      next hcount =>
      have hsome := created_ne_nil h.projected (length_pos_iff.mp hcount)
      have hdone : season ∈ w.handled := by
        by_contra hopen
        exact hsome (huntouched season hopen)
      exact goOn_inv h.projected h.handled (fun other _ => huntouched other) (.inr rfl)
        ((append_nil _).trans (h.handled season hdone))
    · next hcount =>
      have hnothing : created season w.log = [] :=
        hc.resolve_right fun hsome => hcount (length_pos_iff.mpr hsome)
      refine goOn_inv h.projected h.handled (fun other _ => huntouched other) ?_ ?_
      · by_cases hdone : season ∈ w.handled
        · rw [← h.handled season hdone, hnothing]
          exact .inr rfl
        · exact .inl hdone
      · rw [hnothing, nil_append, zipIdx_map_fst]
  | create =>
    split at hs
    · cases hs
    split at hs
    · next season name i rest hjob =>
      have hname : isBlank name = false := by
        refine hnames name ?_
        rw [← (h.running _ hjob).2]
        simp
      simp only [World.execute, CostumeCategoryAggregate.create, hname, Bool.false_eq_true,
        if_false] at hs
      cases hs
      exact h.create hjob _ _ _
    · cases hs
  | crash =>
    cases hs
    refine { h with untouched := fun season hopen _ => ?_, running := nofun }
    by_cases hjob : ∃ rest, w.job = some (season, rest)
    · -- the delivery that ends has created nothing
      obtain ⟨rest, hjob⟩ := hjob
      have hwhole := (h.running _ hjob).2
      rw [hc _ hjob, zipIdx_map_fst] at hwhole
      exact append_left_eq_self.mp hwhole
    · exact h.untouched season hopen fun job heq hseason => hjob ⟨job.2, by rw [heq, ← hseason]⟩
  | project =>
    split at hs
    · next hmem =>
      cases hs
      exact { h with projected := append_subset.mpr ⟨h.projected, by simpa using hmem⟩ }
    · cases hs

/-- **A SEASON IS SEEDED ONCE.** With no blank name in the seed, after every undisturbed run a season of
which a delivery has been handled has exactly one category per entry of the seed. -/
theorem season_seeded_once (hnames : ∀ name ∈ seed, isBlank name = false)
    (h : Runs (step seed) (undisturbed seed) {} w) {season : SeasonId} (hs : season ∈ w.handled) :
    created season w.log = seed := by
  have hinv : Inv seed w := h.invariant (Inv seed) ⟨nofun, nofun, fun _ _ _ => rfl, nofun⟩
    fun _ _ _ hi hc hs => step_inv hnames hi hc hs
  exact hinv.handled season hs

/-- The category that is created first under id 1. -/
def firstCreated : CostumeCategoryEvent := .costumeCategoryCreated 1 ⟨7⟩ "Schuhe" ⟨"a"⟩ .initial

/-- Crashed before the first create, delivered again, projected and delivered once more. -/
theorem season_seeded_once_redelivered :
    ∃ w, Runs (step ["Schuhe", "Jacke"]) (undisturbed ["Schuhe", "Jacke"]) {} w ∧
      w.handled = [⟨7⟩, ⟨7⟩] ∧ created ⟨7⟩ w.log = ["Schuhe", "Jacke"] := by
  refine exists_runs_imp [.deliver ⟨7⟩, .crash, .deliver ⟨7⟩, .create 1, .create 2,
    .project firstCreated, .deliver ⟨7⟩] (P := fun w => w.handled = [⟨7⟩, ⟨7⟩]) (by decide +kernel) ?_
  intro w hw hhandled
  exact ⟨hhandled, season_seeded_once (by decide +kernel) hw (by simp [hhandled])⟩

/-- **LOST AND DOUBLED.** A crash after the first of two creates, which the projection shows when the
saga starts again: the second is never made. A restart before the projection shows anything: both
are made twice. -/
theorem seeding_lost_or_doubled :
    (∃ w, Runs (step ["Schuhe", "Jacke"]) anyStep {} w ∧ w.job = none ∧ w.handled = [⟨7⟩] ∧
      created ⟨7⟩ w.log = ["Schuhe"]) ∧
    ∃ w, Runs (step ["Schuhe", "Jacke"]) anyStep {} w ∧ w.job = none ∧ w.handled = [⟨7⟩, ⟨7⟩] ∧
      created ⟨7⟩ w.log = ["Schuhe", "Jacke", "Schuhe", "Jacke"] :=
  ⟨exists_runs [.deliver ⟨7⟩, .create 1, .crash, .project firstCreated, .deliver ⟨7⟩]
      (by decide +kernel),
    exists_runs [.deliver ⟨7⟩, .create 1, .create 2, .deliver ⟨7⟩, .create 3, .create 4]
      (by decide +kernel)⟩

end Breakdown.SeasonSeeding
