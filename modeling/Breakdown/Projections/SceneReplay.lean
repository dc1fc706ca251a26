/-
**SCENES REPLAYED**: projecting a suffix of a stream once more.

When the last events of a scene are delivered again, the unguarded statements run again and the
guarded ones do not — until the first unguarded one has set the scene's row back to its own version;
from there on the guard lets everything through. So what runs again is a suffix of the stream, and
every statement of it writes what the stream wrote before.

- `origin_rewritten`, `details_rewritten`, `stamp_rewritten`, `characters_rewritten`,
  `days_rewritten`, `beats_rewritten`: every event is a write to each row of the tables;
- `foldl_again`: so a suffix may take effect once more;
- `project_again`: and delivering a suffix changes nothing.
-/
import Breakdown.Lib.Writes
import Breakdown.Projections.Scene

namespace Breakdown.Projections

open Tables Writes List Entity Table

namespace SceneProjector

/-! ## §1. Every event rewrites the tables -/

/-- The columns that only the creation sets. -/
theorem origin_rewritten :
    Rewritten step SceneTables.scenes fun row => (row.episodeId, row.source) := by
  rintro ⟨e, t⟩
  cases e with
  | sceneCreated id => exact ⟨_, .put id _, fun _ => rfl⟩
  | sceneDeleted id => exact ⟨_, .delete id, fun _ => rfl⟩
  | _ id => exact ⟨_, .modify_other id fun _ => by rfl, fun _ => rfl⟩

theorem details_rewritten : Rewritten step SceneTables.scenes (·.details) := by
  rintro ⟨e, t⟩
  cases e with
  | sceneCreated id => exact ⟨_, .put id _, fun _ => rfl⟩
  | sceneDetailsUpdated id => exact ⟨_, .modify id _ fun _ => by rfl, fun _ => rfl⟩
  | sceneDeleted id => exact ⟨_, .delete id, fun _ => rfl⟩
  | _ id => exact ⟨_, .modify_other id fun _ => by rfl, fun _ => rfl⟩

/-- The version and time of the row. -/
theorem stamp_rewritten : Rewritten step SceneTables.scenes (·.stamp) := by
  rintro ⟨e, t⟩
  cases e with
  | sceneCreated id => exact ⟨_, .put id _, fun _ => rfl⟩
  | sceneDeleted id => exact ⟨_, .delete id, fun _ => rfl⟩
  | _ id => exact ⟨_, .modify id _ fun _ => by rfl, fun _ => rfl⟩

theorem characters_rewritten : Rewritten step SceneTables.characters id := by
  rintro ⟨e, t⟩
  cases e with
  | sceneCreated id episodeId details assigned source version =>
    exact ⟨_, .foldl (fun characterId => .put (id, characterId) version) assigned, fun _ => rfl⟩
  | characterAssigned id characterId version =>
    exact ⟨_, .put (id, characterId) version, fun _ => rfl⟩
  | characterRemoved id characterId => exact ⟨_, .delete (id, characterId), fun _ => rfl⟩
  | sceneDeleted id => exact ⟨_, .deleteWhere (·.1 = id), fun _ => rfl⟩
  | _ => exact ⟨_, .refl, fun _ => rfl⟩

theorem days_rewritten : Rewritten step SceneTables.shootingDays id := by
  rintro ⟨e, t⟩
  cases e with
  | shootingDayScheduled id shootingDayId version =>
    exact ⟨_, .put (id, shootingDayId) version, fun _ => rfl⟩
  | shootingDayUnscheduled id shootingDayId => exact ⟨_, .delete (id, shootingDayId), fun _ => rfl⟩
  | sceneDeleted id => exact ⟨_, .deleteWhere (·.1 = id), fun _ => rfl⟩
  | _ => exact ⟨_, .refl, fun _ => rfl⟩

theorem beats_rewritten : Rewritten step SceneTables.beats id := by
  rintro ⟨e, t⟩
  cases e with
  | outfitBeatAdded id characterId outfitId order note version =>
    exact ⟨_, .put (id, characterId, asI32 order) ⟨outfitId, note, version⟩, fun _ => rfl⟩
  | outfitBeatUpdated id characterId order =>
    exact ⟨_, .modify (id, characterId, asI32 order) _ fun _ => by rfl, fun _ => rfl⟩
  | outfitBeatRemoved id characterId order =>
    exact ⟨_, .delete (id, characterId, asI32 order), fun _ => rfl⟩
  | outfitBeatsCleared id characterId =>
    exact ⟨_, .deleteWhere fun key => key.1 = id ∧ key.2.1 = characterId, fun _ => rfl⟩
  | sceneDeleted id => exact ⟨_, .deleteWhere (·.1 = id), fun _ => rfl⟩
  | _ => exact ⟨_, .refl, fun _ => rfl⟩

/-! ## §2. Suffixes -/

theorem projectedDays_foldl (events : List (StoredEvent SceneEvent)) (db) :
    (events.foldl step db).projectedDays = db.projectedDays := by
  induction events generalizing db with
  | nil => rfl
  | cons e events ih => rw [foldl_cons, ih, projectedDays_step]

/-- A row is its three parts. -/
theorem row_ext {row row' : Option SceneRow}
    (horigin : row.map (fun row => (row.episodeId, row.source)) =
      row'.map fun row => (row.episodeId, row.source))
    (hdetails : row.map (·.details) = row'.map (·.details))
    (hstamp : row.map (·.stamp) = row'.map (·.stamp)) : row = row' := by
  cases row with
  | none =>
    cases row' with
    | none => rfl
    | some => cases hstamp
  | some =>
    cases row' with
    | none => cases hstamp
    | some =>
      simp only [Option.map_some, Option.some.injEq, Prod.mk.injEq] at horigin hdetails hstamp
      rw [SceneRow.ext horigin.1 horigin.2 hdetails hstamp]

variable {events : List (StoredEvent SceneEvent)}

/-- **A SUFFIX OF A STREAM MAY TAKE EFFECT ONCE MORE.** -/
theorem foldl_again (hagain : again <:+ events)
    (db : SceneTables) : again.foldl step (events.foldl step db) = events.foldl step db := by
  have hscenes : (again.foldl step (events.foldl step db)).scenes = (events.foldl step db).scenes := by
    funext id
    exact row_ext (origin_rewritten.replay_view hagain db id)
      (details_rewritten.replay_view hagain db id) (stamp_rewritten.replay_view hagain db id)
  exact SceneTables.ext (projectedDays_foldl again _) hscenes (characters_rewritten.replay hagain db)
    (days_rewritten.replay hagain db) (beats_rewritten.replay hagain db)

/-- The row of a scene is there until it is deleted. -/
theorem foldl_row {id} (hrow : (db.scenes id).isSome) (hids : ∀ e ∈ events, e.data.id = id)
    (hkept : ∀ e ∈ events, e.data.isDeletion = false) :
    ((events.foldl step db).scenes id).isSome := by
  induction events generalizing db with
  | nil => exact hrow
  | cons e events ih =>
    obtain rfl := hids e mem_cons_self
    obtain ⟨row, hnext, -⟩ := step_row (hkept e mem_cons_self) (.inl hrow)
    refine ih ?_ (fun e' he' => hids e' (mem_cons_of_mem _ he'))
      (fun e' he' => hkept e' (mem_cons_of_mem _ he'))
    rw [hnext]
    rfl

theorem stream_row (hrun : SceneStream (events.map (·.data)))
    (hkept : ∀ e ∈ events, e.data.isDeletion = false) : ((events.foldl step start).scenes
      (replay SceneAggregate (events.map (·.data))).id).isSome := by
  cases events with
  | nil => exact absurd rfl hrun.ne_nil
  | cons e events =>
    have hids : ∀ e' ∈ e :: events,
        e'.data.id = (replay SceneAggregate ((e :: events).map (·.data))).id :=
      fun e' he' => id_of_mem hrun (mem_map_of_mem he')
    have hid := hids e mem_cons_self
    have hcreation := Or.inr (a := (start.scenes e.data.id).isSome)
      (isCreation_of_founds (hrun.starts rfl))
    obtain ⟨row, hnext, -⟩ := step_row (hkept e mem_cons_self) hcreation
    rw [← hid, foldl_cons]
    refine foldl_row ?_ (fun e' he' => (hids e' (mem_cons_of_mem _ he')).trans hid.symm)
      (fun e' he' => hkept e' (mem_cons_of_mem _ he'))
    rw [hnext]
    rfl

/-- **DELIVERING A SUFFIX OF A STREAM AGAIN CHANGES NOTHING.** -/
theorem project_again (hrun : SceneStream (events.map (·.data)))
    (hcounted : Counted SceneAggregate (events.map (·.data)))
    (hkept : ∀ e ∈ events, e.data.isDeletion = false) (haccepts : ∀ e ∈ events, Accepts start e.data)
    (hagain : again <:+ events) :
    project handle (events.foldl step start) again = .ok (events.foldl step start) := by
  have hids : ∀ e ∈ events, e.data.id = (replay SceneAggregate (events.map (·.data))).id :=
    fun e he => id_of_mem hrun (mem_map_of_mem he)
  have hrising := hcounted.rising
  rw [pairwise_map] at hrising
  have hrow : ((events.foldl step start).scenes
      (replay SceneAggregate (events.map (·.data))).id).isSome := stream_row hrun hkept
  -- from the first event that is not skipped on, everything takes effect again
  induction again with
  | nil => rfl
  | cons e rest ih =>
    have hmem : e ∈ events := hagain.subset mem_cons_self
    by_cases hskips : skips (events.foldl step start) e.data = true
    · exact project_cons.mpr ⟨_, if_pos hskips, ih ((suffix_cons e rest).trans hagain)⟩
    · have hdays := accepts_congr (projectedDays_foldl events start)
      rw [← hids e hmem] at hrow
      have hstep := (handle_iff (Bool.eq_false_iff.mpr hskips) (.inl hrow)).mpr
        ⟨(hdays _).mpr (haccepts e hmem), rfl⟩
      have hrest : ∀ e' ∈ e :: rest, e' ∈ events := fun e' he' => hagain.subset he'
      have hbelow : Below (step (events.foldl step start) e) e.data.id rest :=
        below_step (fun e' he' => hkept e' (hrest e' he'))
          (fun e' he' => (hids e' (hrest e' (mem_cons_of_mem e he'))).trans (hids e hmem).symm)
          (hrising.sublist hagain.sublist) (.inl hrow)
      refine project_cons.mpr ⟨_, hstep, (project_rising hbelow).mpr ⟨?_, ?_⟩⟩
      · intro e' he'
        rw [accepts_congr (projectedDays_step _ e), hdays]
        exact haccepts e' (hrest e' (mem_cons_of_mem e he'))
      · exact (foldl_again hagain start).symm

end SceneProjector

end Breakdown.Projections
