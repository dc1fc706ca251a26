/-
**JOINING SCHEDULE ROWS WITH SCENES** (`merge_schedule_to_scenes`,
`core/src/ai/preview.rs`).

Both inputs are sorted; the sorted scenes are grouped by number, and by number and episode where the
episode's number is known; then every row goes to the scene of its group whose turn it is. A row that
names an episode asks for the pair, unless no episode numbers are known at all, and any other row for the
number alone.

The fields of scenes and rows that the merge does not read are carried along as one.

- `sceneGroups_eq`: the group of a row are the scenes it fits, in order;
- `mergeRow_eq_deal`: the loop deals the rows in turn, with a cursor per episode and number;
- `merge_schedule_correct`: nothing is lost or doubled, every row is under a scene it fits, and the order
  of the inputs does not matter.
-/
import Breakdown.Lib.RoundRobin
import Breakdown.Lib.Rows
import Breakdown.Shared
import Mathlib.Data.Finmap
import Mathlib.Data.Prod.Lex
import Mathlib.Data.String.Basic

namespace Breakdown.Ai

open Tables RoundRobin List

/-! ## §1. Scenes, rows and episode numbers -/

/-- `SceneView`. -/
structure MergeScene (α : Type) where
  id : Uuid
  episodeId : EpisodeId
  sceneNumber : Option Nat
  view : α
  deriving DecidableEq

/-- `ShootingScheduleRow`. -/
structure MergeRow (β : Type) where
  rowRef : String
  sceneNumber : Option Nat
  episodeNumber : Option Int
  row : β
  deriving DecidableEq

/-- `HashMap<EpisodeId, i32>`. -/
abbrev EpisodeNumbers := Finmap fun _ : EpisodeId => Int

/-- The key of a cursor: `(row.episode_number, row.scene_number)`. -/
abbrev CursorKey := Option Int × Option Nat

variable {α β : Type}

def MergeRow.cursorKey (row : MergeRow β) : CursorKey := (row.episodeNumber, row.sceneNumber)

/-- `(scene.scene_number, scene.id)`; no number comes first. -/
def sceneSortKey (scene : MergeScene α) : WithBot Nat ×ₗ Nat :=
  toLex (scene.sceneNumber, scene.id.asU128.toNat)

/-- `(row.scene_number, row.row_ref)`. -/
def rowSortKey (row : MergeRow β) : WithBot Nat ×ₗ String := toLex (row.sceneNumber, row.rowRef)

/-! ## §2. The merge -/

/-- `number_to_indices` and `pair_to_indices`; a key that is missing has no indices. -/
structure SceneGroups where
  numberToIndices : Option Nat → List Nat := fun _ => []
  pairToIndices : Int × Nat → List Nat := fun _ => []

/-- `entry(key).or_default().push(index)`. -/
def pushIndex {κ : Type} [DecidableEq κ] (indices : κ → List Nat) (key : κ) (index : Nat) :
    κ → List Nat := Function.update indices key (indices key ++ [index])

/-- Group one scene. -/
def groupScene (episodeNumbers : EpisodeNumbers) (groups : SceneGroups) (scene : MergeScene α)
    (index : Nat) : SceneGroups where
  numberToIndices := pushIndex groups.numberToIndices scene.sceneNumber index
  pairToIndices := match episodeNumbers.lookup scene.episodeId, scene.sceneNumber with
    | some episode, some number => pushIndex groups.pairToIndices (episode, number) index
    | _, _ => groups.pairToIndices

def sceneGroups (episodeNumbers : EpisodeNumbers) (orderedScenes : List (MergeScene α)) : SceneGroups :=
  orderedScenes.zipIdx.foldl (fun groups (scene, index) => groupScene episodeNumbers groups scene index)
    {}

/-- The indices of a row's group. -/
def SceneGroups.indicesFor (groups : SceneGroups) (episodeNumbers : EpisodeNumbers) :
    CursorKey → List Nat
  | (_, none) => []
  | (some episode, some number) =>
    if episodeNumbers = ∅ then groups.numberToIndices (some number)
    else groups.pairToIndices (episode, number)
  | (none, some number) => groups.numberToIndices (some number)

/-- `group`: an empty list of indices counts as none. -/
def SceneGroups.group (groups : SceneGroups) (episodeNumbers : EpisodeNumbers) (row : MergeRow β) :
    Option (List Nat) :=
  let indices := groups.indicesFor episodeNumbers row.cursorKey
  if indices.isEmpty then none else some indices

/-- `next_for_group`, `matched` and `unmatched_schedule_rows`. -/
abbrev MergeState (β : Type) := Deal (MergeRow β) CursorKey Nat

/-- One turn of the loop over the rows. -/
def mergeRow (groups : SceneGroups) (episodeNumbers : EpisodeNumbers) (s : MergeState β)
    (row : MergeRow β) : MergeState β :=
  match groups.group episodeNumbers row with
  | some indices =>
    let cursor := s.next row.cursorKey
    -- the remainder is always in range
    let index := indices.getD (cursor % indices.length) 0
    { s with
      next := Function.update s.next row.cursorKey (cursor + 1)
      hands := Function.update s.hands index (s.hands index ++ [row]) }
  | none => { s with left := s.left ++ [row] }

structure MergeResultScene (α β : Type) where
  scene : MergeScene α
  scheduleRows : List (MergeRow β)
  deriving DecidableEq

/-- `MergedPreview`. -/
structure MergeResult (α β : Type) where
  scenes : List (MergeResultScene α β)
  unmatchedScheduleRows : List (MergeRow β)
  unmatchedScriptScenes : List (MergeScene α)
  deriving DecidableEq

/-- `merge_schedule_to_scenes`. -/
def mergeScheduleToScenes (rows : List (MergeRow β)) (scenes : List (MergeScene α))
    (episodeNumbers : EpisodeNumbers) : MergeResult α β :=
  let orderedScenes := orderBy sceneSortKey scenes
  let groups := sceneGroups episodeNumbers orderedScenes
  let done := (orderBy rowSortKey rows).foldl (mergeRow groups episodeNumbers) start
  { scenes := orderedScenes.zipIdx.map fun (scene, index) => ⟨scene, done.hands index⟩
    unmatchedScheduleRows := done.left
    unmatchedScriptScenes :=
      (orderedScenes.zipIdx.filter fun (_, index) => (done.hands index).isEmpty).map (·.1) }

/-! ## §3. Groups -/

/-- A row with the cursor key may be placed under the scene. -/
def fits (episodeNumbers : EpisodeNumbers) : CursorKey → MergeScene α → Bool
  | (_, none), _ => false
  | (some episode, some number), scene =>
    scene.sceneNumber = some number &&
      (episodeNumbers = ∅ || episodeNumbers.lookup scene.episodeId = some episode)
  | (none, some number), scene => scene.sceneNumber = some number

/-- The row may be placed under the scene: it has a number, the scene has that number, and if the row names
an episode and there are episode numbers, the scene's episode has that number. -/
def eligible (episodeNumbers : EpisodeNumbers) (row : MergeRow β) (scene : MergeScene α) : Bool :=
  fits episodeNumbers row.cursorKey scene

/-- The indices of the scenes that fit. -/
def fittingIndices (episodeNumbers : EpisodeNumbers) (orderedScenes : List (MergeScene α))
    (key : CursorKey) : List Nat :=
  (orderedScenes.zipIdx.filter fun indexed => fits episodeNumbers key indexed.1).map (·.2)

theorem pushIndex_apply [DecidableEq κ] (indices : κ → List Nat) (key k index) :
    pushIndex indices key index k = indices k ++ if key = k then [index] else [] := by
  unfold pushIndex
  by_cases h : key = k
  · subst h
    simp
  · simp [Function.update_of_ne (Ne.symm h), h]

theorem pairToIndices_groupScene (episodeNumbers groups) (scene : MergeScene α) (index episode number) :
    (groupScene episodeNumbers groups scene index).pairToIndices (episode, number) =
      groups.pairToIndices (episode, number) ++
        if scene.sceneNumber = some number ∧ episodeNumbers.lookup scene.episodeId = some episode
        then [index] else [] := by
  unfold groupScene
  cases hlookup : episodeNumbers.lookup scene.episodeId with
  | none => simp
  | some =>
    cases hscene : scene.sceneNumber with
    | none => simp
    | some => simp only [pushIndex_apply, Prod.mk.injEq, Option.some.injEq, and_comm]

/-- **GROUPING ONE SCENE** appends its index to the groups of the keys it fits. -/
theorem indicesFor_groupScene (episodeNumbers groups) (scene : MergeScene α) (index key) :
    (groupScene episodeNumbers groups scene index).indicesFor episodeNumbers key =
      groups.indicesFor episodeNumbers key ++
        if fits episodeNumbers key scene then [index] else [] := by
  have hnumber : ∀ number, (groupScene episodeNumbers groups scene index).numberToIndices (some number) =
      groups.numberToIndices (some number) ++
        if scene.sceneNumber = some number then [index] else [] :=
    fun number => pushIndex_apply ..
  match key with
  | (_, none) => simp [SceneGroups.indicesFor, fits]
  | (none, some number) => simp [SceneGroups.indicesFor, fits, hnumber]
  | (some episode, some number) =>
    by_cases hempty : episodeNumbers = ∅
    · simp [SceneGroups.indicesFor, fits, hempty ▸ hnumber number, hempty]
    · simp [SceneGroups.indicesFor, fits, pairToIndices_groupScene, hempty]

theorem indicesFor_foldl (episodeNumbers : EpisodeNumbers) (key) (indexed : List (MergeScene α × Nat))
    (groups : SceneGroups) :
    (indexed.foldl (fun groups (scene, index) => groupScene episodeNumbers groups scene index)
        groups).indicesFor episodeNumbers key = groups.indicesFor episodeNumbers key ++
        (indexed.filter fun p => fits episodeNumbers key p.1).map (·.2) := by
  induction indexed generalizing groups with
  | nil => simp
  | cons first indexed ih =>
    obtain ⟨scene, index⟩ := first
    rw [foldl_cons, ih, indicesFor_groupScene, append_assoc]
    by_cases hfits : fits episodeNumbers key scene = true
    · simp [hfits]
    · simp [hfits]

/-- **THE GROUP OF A ROW ARE THE SCENES IT FITS**, in order. -/
theorem sceneGroups_eq (episodeNumbers) (orderedScenes : List (MergeScene α)) (key) :
    (sceneGroups episodeNumbers orderedScenes).indicesFor episodeNumbers key =
      fittingIndices episodeNumbers orderedScenes key := by
  unfold sceneGroups fittingIndices
  rw [indicesFor_foldl]
  have hnone : ({} : SceneGroups).indicesFor episodeNumbers key = [] := by
    unfold SceneGroups.indicesFor
    split
    · rfl
    · split <;> rfl
    · rfl
  rw [hnone, nil_append]

theorem mem_fittingIndices : index ∈ fittingIndices episodeNumbers orderedScenes key ↔
      ∃ scene, orderedScenes[index]? = some scene ∧ fits episodeNumbers key scene := by
  simp only [fittingIndices, mem_map, mem_filter, Prod.exists, mem_zipIdx_iff_getElem?]
  constructor
  · rintro ⟨scene, _, ⟨hscene, hfits⟩, rfl⟩
    exact ⟨scene, hscene, hfits⟩
  · rintro ⟨scene, hscene, hfits⟩
    exact ⟨scene, index, ⟨hscene, hfits⟩, rfl⟩

/-- The indices of a group rise. -/
theorem fittingIndices_rising (episodeNumbers) (orderedScenes : List (MergeScene α)) (key) :
    (fittingIndices episodeNumbers orderedScenes key).Pairwise (· < ·) := by
  have hsub : (fittingIndices episodeNumbers orderedScenes key).Sublist
      (orderedScenes.zipIdx.map (·.2)) := filter_sublist.map _
  refine List.Pairwise.sublist hsub ?_
  rw [zipIdx_map_snd]
  exact pairwise_lt_range'

theorem fittingIndices_subset (episodeNumbers) (orderedScenes : List (MergeScene α)) (key) :
    fittingIndices episodeNumbers orderedScenes key ⊆ range orderedScenes.length := by
  intro index hindex
  obtain ⟨scene, hscene, -⟩ := mem_fittingIndices.mp hindex
  exact List.mem_range.mpr (List.getElem?_eq_some_iff.mp hscene).1

/-! ## §4. The loop -/

/-- **THE LOOP DEALS THE ROWS IN TURN.** -/
theorem mergeRow_eq_deal (episodeNumbers) (orderedScenes : List (MergeScene α)) (s) (row : MergeRow β) :
    mergeRow (sceneGroups episodeNumbers orderedScenes) episodeNumbers s row =
      deal MergeRow.cursorKey (fittingIndices episodeNumbers orderedScenes) s row := by
  unfold mergeRow deal SceneGroups.group turn
  rw [sceneGroups_eq]
  cases hindices : fittingIndices episodeNumbers orderedScenes row.cursorKey with
  | nil => simp
  | cons index indices =>
    have hlt : s.next row.cursorKey % (index :: indices).length < (index :: indices).length :=
      Nat.mod_lt _ (by simp)
    simp only [isEmpty_cons, Bool.false_eq_true, if_false, getD_eq_getElem?_getD,
      getElem?_eq_getElem hlt, Option.getD_some]

/-- The rows dealt to the scenes. -/
def dealtRows (rows : List (MergeRow β)) (scenes : List (MergeScene α))
    (episodeNumbers : EpisodeNumbers) : MergeState β :=
  dealAll MergeRow.cursorKey (fittingIndices episodeNumbers (orderBy sceneSortKey scenes))
    (orderBy rowSortKey rows)

theorem mergeScheduleToScenes_eq (rows : List (MergeRow β)) (scenes : List (MergeScene α))
    (episodeNumbers) : mergeScheduleToScenes rows scenes episodeNumbers =
      { scenes := (orderBy sceneSortKey scenes).zipIdx.map fun (scene, index) =>
          ⟨scene, (dealtRows rows scenes episodeNumbers).hands index⟩
        unmatchedScheduleRows := (dealtRows rows scenes episodeNumbers).left
        unmatchedScriptScenes := ((orderBy sceneSortKey scenes).zipIdx.filter fun (_, index) =>
          ((dealtRows rows scenes episodeNumbers).hands index).isEmpty).map (·.1) } := by
  have hloop : mergeRow (sceneGroups episodeNumbers (orderBy sceneSortKey scenes)) episodeNumbers =
      deal MergeRow.cursorKey (fittingIndices episodeNumbers (orderBy sceneSortKey scenes)) :=
    funext fun (s : MergeState β) => funext (mergeRow_eq_deal episodeNumbers _ s)
  simp only [mergeScheduleToScenes, dealtRows, dealAll, hloop]

/-! ## §5. What the merge is worth -/

/-- **WHAT THE MERGE OF A SCHEDULE INTO SCENES IS WORTH.** -/
structure MergeCorrect (rows : List (MergeRow β)) (scenes : List (MergeScene α))
    (episodeNumbers : EpisodeNumbers) (result : MergeResult α β) : Prop where
  /-- Every row is under one scene or left over. -/
  rows_once : ((result.scenes.flatMap (·.scheduleRows)) ++ result.unmatchedScheduleRows).Perm rows
  /-- Every scene is there once. -/
  scenes_once : (result.scenes.map (·.scene)).Perm scenes
  /-- The unmatched scenes are those without rows. -/
  unmatched_scenes : result.unmatchedScriptScenes =
    (result.scenes.filter fun merged => merged.scheduleRows.isEmpty).map (·.scene)
  /-- A row is under a scene it fits. -/
  placed : ∀ merged ∈ result.scenes, ∀ row ∈ merged.scheduleRows,
    eligible episodeNumbers row merged.scene = true
  /-- A row is left over exactly if it fits no scene. -/
  unmatched_iff : ∀ row ∈ rows, row ∈ result.unmatchedScheduleRows ↔
    ∀ scene ∈ scenes, eligible episodeNumbers row scene = false
  /-- The order of the inputs does not matter. -/
  permuted : ∀ {rows' : List (MergeRow β)} {scenes' : List (MergeScene α)}, rows'.Perm rows →
    scenes'.Perm scenes → mergeScheduleToScenes rows' scenes' episodeNumbers = result

theorem id_of_sceneSortKey (h : sceneSortKey a = sceneSortKey b) : a.id = b.id := by
  have hpair := congrArg (fun key => (ofLex key).2) h
  cases hid : a.id
  cases hid' : b.id
  simp only [sceneSortKey, hid, hid', ofLex_toLex] at hpair
  rw [BitVec.eq_of_toNat_eq hpair]

theorem rowRef_of_rowSortKey (h : rowSortKey a = rowSortKey b) :
    a.rowRef = b.rowRef := congrArg (fun key => (ofLex key).2) h

theorem scenes_zipIdx {ordered : List (MergeScene α)} (hands : Nat → List (MergeRow β)) :
    (ordered.zipIdx.map fun (scene, index) => (⟨scene, hands index⟩ : MergeResultScene α β)).flatMap
      (·.scheduleRows) = (range ordered.length).flatMap hands := by
  rw [flatMap_map, range_eq_range', ← zipIdx_map_snd 0 ordered, flatMap_map]

/-- **THE MERGE NEITHER LOSES NOR DOUBLES ANYTHING, AND MATCHES AS IT SAYS.** -/
theorem merge_schedule_correct {rows : List (MergeRow β)} {scenes : List (MergeScene α)}
    (hrefs : (rows.map (·.rowRef)).Nodup) (hids : (scenes.map (·.id)).Nodup)
    (episodeNumbers : EpisodeNumbers) :
    MergeCorrect rows scenes episodeNumbers (mergeScheduleToScenes rows scenes episodeNumbers) where
  rows_once := by
    rw [mergeScheduleToScenes_eq]
    show ((map _ _).flatMap _ ++ _).Perm rows
    rw [scenes_zipIdx]
    refine (dealAll_perm nodup_range ?_).trans (orderBy_perm rowSortKey rows)
    intro row _
    exact fittingIndices_subset episodeNumbers _ row.cursorKey
  scenes_once := by
    rw [mergeScheduleToScenes_eq, map_map]
    have hscenes : (orderBy sceneSortKey scenes).zipIdx.map (·.1) = orderBy sceneSortKey scenes :=
      zipIdx_map_fst 0 _
    exact (List.Perm.of_eq hscenes).trans (orderBy_perm sceneSortKey scenes)
  unmatched_scenes := by
    rw [mergeScheduleToScenes_eq, filter_map, map_map]
    rfl
  placed := by
    rw [mergeScheduleToScenes_eq]
    intro merged hmerged row hrow
    obtain ⟨⟨scene, index⟩, hscene, rfl⟩ := mem_map.mp hmerged
    obtain ⟨scene', hscene', hfits⟩ := mem_fittingIndices.mp (mem_hands hrow)
    rw [mem_zipIdx_iff_getElem?] at hscene
    rw [hscene] at hscene'
    cases hscene'
    exact hfits
  unmatched_iff := by
    rw [mergeScheduleToScenes_eq]
    intro row hrow
    show row ∈ (dealtRows rows scenes episodeNumbers).left ↔ _
    unfold dealtRows
    rw [left_eq, mem_filter, (orderBy_perm rowSortKey rows).mem_iff, and_iff_right hrow,
      decide_eq_true_eq, eq_nil_iff_forall_not_mem]
    constructor
    · intro hnone scene hscene
      rw [← (orderBy_perm sceneSortKey scenes).mem_iff] at hscene
      obtain ⟨index, hindex⟩ := getElem?_of_mem hscene
      rw [← Bool.not_eq_true]
      exact fun hfits => hnone index (mem_fittingIndices.mpr ⟨scene, hindex, hfits⟩)
    · intro hnone index hindex
      obtain ⟨scene, hscene, hfits⟩ := mem_fittingIndices.mp hindex
      have hmem := (orderBy_perm sceneSortKey scenes).mem_iff.mp (mem_of_getElem? hscene)
      have hnot := hnone scene hmem
      unfold eligible at hnot
      rw [hfits] at hnot
      cases hnot
  permuted {rows' scenes'} hrows hscenes := by
    unfold mergeScheduleToScenes
    rw [orderBy_eq_of_perm rowRef_of_rowSortKey hrefs hrows,
      orderBy_eq_of_perm id_of_sceneSortKey hids hscenes]

/-- Two scenes with the number 10 in one episode, and one with the number 11 in another. -/
theorem merge_schedule_correct_two_tens : MergeCorrect
      [⟨"r1", some 10, some 294, ()⟩, ⟨"r2", some 10, none, ()⟩, ⟨"r3", some 11, some 294, ()⟩]
      [⟨1, ⟨7⟩, some 10, ()⟩, ⟨2, ⟨7⟩, some 10, ()⟩, ⟨3, ⟨8⟩, some 11, ()⟩]
      (Finmap.singleton ⟨7⟩ 294) (mergeScheduleToScenes
        [⟨"r1", some 10, some 294, ()⟩, ⟨"r2", some 10, none, ()⟩, ⟨"r3", some 11, some 294, ()⟩]
        [⟨1, ⟨7⟩, some 10, ()⟩, ⟨2, ⟨7⟩, some 10, ()⟩, ⟨3, ⟨8⟩, some 11, ()⟩]
        (Finmap.singleton ⟨7⟩ 294)) :=
  merge_schedule_correct (by decide) (by decide) _

end Breakdown.Ai
