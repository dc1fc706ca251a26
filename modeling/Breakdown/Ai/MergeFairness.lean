/-
**HOW EVENLY THE MERGE DEALS** (`merge_schedule_to_scenes`).

Scenes that fit the same rows are interchangeable, and the round-robin is there so that none of them stays
empty while another one collects. Its cursor is kept per episode and number of the row, though, while rows
of several episodes can go to one group of scenes: when no episode numbers are known, or when some rows
name an episode and some do not. Every such cursor starts at the first scene of the group.

- `received_diff`: of two interchangeable scenes the first one gets one row more for every cursor that
  stops between them;
- `merge_fair_iff`: so the shares differ by at most one if and only if at most one cursor does;
- `two_episodes_one_scene`: two rows, two scenes, and both rows go to the first.
-/
import Breakdown.Ai.ScheduleMerge
import Mathlib.Algebra.Group.Action.Defs

namespace Breakdown.Ai

open Tables RoundRobin List

variable {α β : Type}

/-! ## §1. What a scene gets -/

/-- The two scenes fit the same rows of the schedule. -/
def Interchangeable (rows : List (MergeRow β)) (episodeNumbers : EpisodeNumbers)
    (a b : MergeScene α) : Prop :=
  ∀ row ∈ rows, eligible episodeNumbers row a = eligible episodeNumbers row b

/-- The number of rows under the scene at a place of the result; nothing where there is none. -/
def received (result : MergeResult α β) (place : Nat) : Nat := match result.scenes[place]? with
  | some merged => merged.scheduleRows.length
  | none => 0

/-- The scenes at the two places are there and interchangeable. -/
def SameRows (rows : List (MergeRow β)) (scenes : List (MergeScene α))
    (episodeNumbers : EpisodeNumbers) (i j : Nat) : Prop :=
  ∃ a b, (mergeScheduleToScenes rows scenes episodeNumbers).scenes[i]? = some a ∧
    (mergeScheduleToScenes rows scenes episodeNumbers).scenes[j]? = some b ∧
    Interchangeable rows episodeNumbers a.scene b.scene

/-- **EVEN SHARES**: of two interchangeable scenes neither gets two rows more than the other. -/
def Fair (rows : List (MergeRow β)) (scenes : List (MergeScene α))
    (episodeNumbers : EpisodeNumbers) : Prop :=
  ∀ i j, SameRows rows scenes episodeNumbers i j →
    received (mergeScheduleToScenes rows scenes episodeNumbers) i ≤
      received (mergeScheduleToScenes rows scenes episodeNumbers) j + 1

/-- Of a group of interchangeable scenes that gets as many rows as it has scenes none is without rows. -/
def Populated (rows : List (MergeRow β)) (scenes : List (MergeScene α))
    (episodeNumbers : EpisodeNumbers) : Prop :=
  ∀ group : List Nat, group.Nodup →
    (∀ i ∈ group, ∀ j ∈ group, SameRows rows scenes episodeNumbers i j) →
    group.length ≤ (group.map (received (mergeScheduleToScenes rows scenes episodeNumbers))).sum →
    ∀ i ∈ group, received (mergeScheduleToScenes rows scenes episodeNumbers) i ≠ 0

/-- The cursors (episode, number) of the schedule that stop between the places `i` and `j`: with `m` rows of
the cursor and a group of `g` scenes, the remainder of `m` by `g` lies behind the first of the two and
not behind the second. -/
def cursorsBetween (rows : List (MergeRow β)) (scenes : List (MergeScene α))
    (episodeNumbers : EpisodeNumbers) (i j : Nat) : Finset CursorKey :=
  (rows.map MergeRow.cursorKey).toFinset.filter fun key =>
    Cuts (fittingIndices episodeNumbers (orderBy sceneSortKey scenes) key)
      (countOf MergeRow.cursorKey rows key) i j

/-! ## §2. Two interchangeable scenes -/

section Pair

variable {rows : List (MergeRow β)} {scenes : List (MergeScene α)} {episodeNumbers : EpisodeNumbers}

theorem scenes_getElem? (place : Nat) :
    (mergeScheduleToScenes rows scenes episodeNumbers).scenes[place]? =
      (orderBy sceneSortKey scenes)[place]?.map fun scene =>
        ⟨scene, (dealtRows rows scenes episodeNumbers).hands place⟩ := by
  rw [mergeScheduleToScenes_eq]
  simp only [getElem?_map, getElem?_zipIdx, Option.map_map, Nat.zero_add]
  rfl

theorem received_eq (h : (orderBy sceneSortKey scenes)[place]? = some scene) :
    received (mergeScheduleToScenes rows scenes episodeNumbers) place =
      ((dealtRows rows scenes episodeNumbers).hands place).length := by
  unfold received
  rw [scenes_getElem?, h]
  rfl

theorem sameRows_iff : SameRows rows scenes episodeNumbers i j ↔
      ∃ a b, (orderBy sceneSortKey scenes)[i]? = some a ∧ (orderBy sceneSortKey scenes)[j]? = some b ∧
        Interchangeable rows episodeNumbers a b := by
  unfold SameRows
  simp only [scenes_getElem?, Option.map_eq_some_iff]
  constructor
  · rintro ⟨_, _, ⟨a, ha, rfl⟩, ⟨b, hb, rfl⟩, h⟩
    exact ⟨a, b, ha, hb, h⟩
  · rintro ⟨a, b, ha, hb, h⟩
    exact ⟨_, _, ⟨a, ha, rfl⟩, ⟨b, hb, rfl⟩, h⟩

theorem SameRows.symm (h : SameRows rows scenes episodeNumbers i j) :
    SameRows rows scenes episodeNumbers j i := by
  obtain ⟨a, b, ha, hb, hsame⟩ := h
  exact ⟨b, a, hb, ha, fun row hrow => (hsame row hrow).symm⟩

/-- In a list of rising numbers the smaller one stands ahead, also of one that is not in it. -/
theorem idxOf_lt_idxOf {l : List Nat} (hrising : l.Pairwise (· < ·)) (hi : i ∈ l) (hij : i < j) :
    l.idxOf i < l.idxOf j := by
  have hli := idxOf_lt_length_iff.mpr hi
  by_cases hj : j ∈ l
  · by_contra hle
    have hlj := idxOf_lt_length_iff.mpr hj
    obtain heq | hlt := Nat.eq_or_lt_of_le (Nat.not_lt.mp hle)
    · have hsame := (idxOf_inj hi).mp heq.symm
      omega
    · have hget := pairwise_iff_getElem.mp hrising _ _ hlj hli hlt
      rw [getElem_idxOf, getElem_idxOf] at hget
      omega
  · rw [idxOf_of_notMem hj]
    exact hli

/-- A scene is in the groups of the cursors it fits. -/
theorem mem_group_iff (h : (orderBy sceneSortKey scenes)[place]? = some scene) :
    place ∈ fittingIndices episodeNumbers (orderBy sceneSortKey scenes) key ↔
      fits episodeNumbers key scene := by
  rw [mem_fittingIndices, h]
  simp

/-- **OF TWO INTERCHANGEABLE SCENES THE FIRST ONE** gets one row more for every cursor that stops between
them. -/
theorem received_diff {i j : Nat} (hsame : SameRows rows scenes episodeNumbers i j) (hij : i < j) :
    received (mergeScheduleToScenes rows scenes episodeNumbers) i =
      received (mergeScheduleToScenes rows scenes episodeNumbers) j +
        (cursorsBetween rows scenes episodeNumbers i j).card := by
  obtain ⟨a, b, ha, hb, hrows⟩ := sameRows_iff.mp hsame
  have hperm := orderBy_perm rowSortKey rows
  have hgroups : ∀ row ∈ orderBy rowSortKey rows,
      i ∈ fittingIndices episodeNumbers (orderBy sceneSortKey scenes) row.cursorKey ↔
        j ∈ fittingIndices episodeNumbers (orderBy sceneSortKey scenes) row.cursorKey := by
    intro row hrow
    rw [mem_group_iff ha, mem_group_iff hb]
    exact iff_of_eq (congrArg (· = true) (hrows row (hperm.mem_iff.mp hrow)))
  have hdiff := length_hands_diff
    (fun key => (fittingIndices_rising episodeNumbers (orderBy sceneSortKey scenes) key).imp Nat.ne_of_lt)
    hgroups fun key hi => idxOf_lt_idxOf (fittingIndices_rising ..) hi hij
  rw [received_eq ha, received_eq hb]
  refine hdiff.trans ?_
  -- the sorted rows have the same cursors as the rows
  unfold cursorsBetween dealtRows
  rw [toFinset_eq_of_perm _ _ (hperm.map MergeRow.cursorKey)]
  refine congrArg (_ + Finset.card ·) (Finset.filter_congr fun key _ => ?_)
  rw [countOf_perm _ hperm]

end Pair

/-! ## §3. The merge -/

/-- Even shares leave no scene of a group empty that gets enough rows. -/
theorem populated_of_fair
    (h : Fair rows scenes episodeNumbers) : Populated rows scenes episodeNumbers := by
  intro group hnodup hsame henough i hi hzero
  -- with an empty scene among them, all of them have one row at most
  have hle : ∀ j ∈ group, received (mergeScheduleToScenes rows scenes episodeNumbers) j ≤ 1 := by
    intro j hj
    have hfair := h j i (hsame j hj i hi)
    omega
  have hperm := perm_cons_erase hi
  have hsum := (hperm.map (received (mergeScheduleToScenes rows scenes episodeNumbers))).sum_eq
  rw [map_cons, sum_cons, hzero, Nat.zero_add] at hsum
  have hrest := sum_le_card_nsmul
    ((group.erase i).map (received (mergeScheduleToScenes rows scenes episodeNumbers))) 1 (by
      intro n hn
      obtain ⟨j, hj, rfl⟩ := mem_map.mp hn
      exact hle j (mem_of_mem_erase hj))
  rw [length_map, length_erase_of_mem hi, smul_eq_mul, mul_one] at hrest
  have hpos := length_pos_of_mem hi
  omega

/-- **THE SHARES OF INTERCHANGEABLE SCENES DIFFER BY AT MOST ONE IF AND ONLY IF** at most one cursor stops
between any two of them; and then no scene of a group with enough rows stays empty. -/
theorem merge_fair_iff (rows : List (MergeRow β)) (scenes : List (MergeScene α))
    (episodeNumbers : EpisodeNumbers) :
    (Fair rows scenes episodeNumbers ↔ ∀ i j, i < j → SameRows rows scenes episodeNumbers i j →
        (cursorsBetween rows scenes episodeNumbers i j).card ≤ 1) ∧
    (Fair rows scenes episodeNumbers → Populated rows scenes episodeNumbers) := by
  refine ⟨⟨?_, ?_⟩, populated_of_fair⟩
  · intro hfair i j hij hsame
    have hle := hfair i j hsame
    rw [received_diff hsame hij] at hle
    omega
  · intro hcursors i j hsame
    obtain hij | rfl | hij := Nat.lt_trichotomy i j
    · have hone := hcursors i j hij hsame
      rw [received_diff hsame hij]
      omega
    · omega
    · -- the scene behind never gets more
      rw [received_diff hsame.symm hij]
      omega

/-- Two scenes with the number 10, and a row for it in each of two episodes. -/
def twoEpisodes : List (MergeRow Unit) := [⟨"r1", some 10, some 1, ()⟩, ⟨"r2", some 10, some 2, ()⟩]

def twoTens : List (MergeScene Unit) := [⟨1, ⟨7⟩, some 10, ()⟩, ⟨2, ⟨7⟩, some 10, ()⟩]

/-- **BOTH ROWS GO TO THE FIRST SCENE.** Without episode numbers the two scenes fit the same rows; the
second stays empty although there are as many rows as scenes. -/
theorem two_episodes_one_scene : mergeScheduleToScenes twoEpisodes twoTens ∅ =
        ⟨[⟨⟨1, ⟨7⟩, some 10, ()⟩, twoEpisodes⟩, ⟨⟨2, ⟨7⟩, some 10, ()⟩, []⟩], [],
          [⟨2, ⟨7⟩, some 10, ()⟩]⟩ ∧
      SameRows twoEpisodes twoTens ∅ 0 1 ∧ ¬ Fair twoEpisodes twoTens ∅ ∧
      ¬ Populated twoEpisodes twoTens ∅ := by
  have hmerge : mergeScheduleToScenes twoEpisodes twoTens ∅ =
      ⟨[⟨⟨1, ⟨7⟩, some 10, ()⟩, twoEpisodes⟩, ⟨⟨2, ⟨7⟩, some 10, ()⟩, []⟩], [],
        [⟨2, ⟨7⟩, some 10, ()⟩]⟩ := by
    decide +kernel
  have hsame : ∀ i ∈ [0, 1], ∀ j ∈ [0, 1], SameRows twoEpisodes twoTens ∅ i j := by
    unfold SameRows Interchangeable
    rw [hmerge]
    intro i hi j hj
    obtain rfl | rfl := by simpa using hi
    all_goals
      obtain rfl | rfl := by simpa using hj
      all_goals exact ⟨_, _, rfl, rfl, by decide +kernel⟩
  refine ⟨hmerge, hsame 0 (by simp) 1 (by simp), fun hfair => ?_, fun hpopulated => ?_⟩
  · have hle := hfair 0 1 (hsame 0 (by simp) 1 (by simp))
    rw [hmerge] at hle
    revert hle
    decide
  · have hpos := hpopulated [0, 1] (by decide) hsame (by rw [hmerge]; decide) 1 (by simp)
    rw [hmerge] at hpos
    exact hpos rfl

end Breakdown.Ai
