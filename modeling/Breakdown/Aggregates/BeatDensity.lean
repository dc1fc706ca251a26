/-
**ARE THE ORDERS OF A CHARACTER'S BEATS DENSE?**
(`core/src/scene/outfit.rs`, `core/src/scene/aggregate.rs`).

The documentation of `SceneOutfitBeat.order` says that the orders of a character's beats are dense:
`n` beats have the orders 0, …, n-1. A new beat gets the highest order plus one; a removal leaves
the orders of the others alone. So a beat taken from the middle leaves a gap for good.

- `BeatsDense`: what the documentation says of a scene;
- `numbered_of_sceneRun`: every accepted command keeps it, as long as only last beats are removed one
  by one and no character is at the last order a `u32` can hold when it gets another beat;
- `beats_with_a_gap`: three beats, of which the second is removed.
-/
import Breakdown.Aggregates.SceneBeats

namespace Breakdown

open Fallible List SceneRun SceneAggregate

namespace SceneAggregate

/-! ## §1. Orders -/

/-- The orders of a character's beats, as they stand in the scene. -/
def ordersOf (self : SceneAggregate) (characterId : Uuid) : List Nat :=
  (self.beatsOf characterId).map (·.order)

/-- `n` beats of a character have the orders 0, …, n-1. -/
def BeatsDense (self : SceneAggregate) : Prop := ∀ characterId order,
    order ∈ self.ordersOf characterId ↔ order < (self.beatsOf characterId).length

/-- The beats of every character are numbered from 0. -/
def NumberedBeats (self : SceneAggregate) : Prop :=
  ∀ characterId, self.ordersOf characterId = List.range (self.ordersOf characterId).length

variable {self : SceneAggregate}

theorem NumberedBeats.dense (h : self.NumberedBeats) : self.BeatsDense := by
  intro characterId order
  rw [h characterId, mem_range, ordersOf, length_map]

/-- Orders only depend on the keys of the beats. -/
theorem ordersOf_eq (self : SceneAggregate) (characterId) :
    self.ordersOf characterId = (self.beatKeys.filter (·.1 = characterId)).map (·.2) := by
  unfold ordersOf beatsOf beatKeys
  rw [filter_map, map_map]
  rfl

theorem ordersOf_congr {next : SceneAggregate} (h : next.beatKeys = self.beatKeys)
    (characterId : Uuid) : next.ordersOf characterId = self.ordersOf characterId := by
  rw [ordersOf_eq, ordersOf_eq, h]

theorem NumberedBeats.congr {next : SceneAggregate} (h : self.NumberedBeats)
    (hkeys : next.beatKeys = self.beatKeys) : next.NumberedBeats := by
  intro characterId
  rw [ordersOf_congr hkeys]
  exact h characterId

theorem ordersOf_outfitBeatAdded (self : SceneAggregate) (id characterId outfitId order note)
    (version : AggregateVersion) (other : Uuid) :
    (self.apply (.outfitBeatAdded id characterId outfitId order note version)).ordersOf other =
      if other = characterId then self.ordersOf other ++ [order] else self.ordersOf other := by
  simp only [ordersOf, beatsOf, apply, filter_append, map_append]
  by_cases heq : other = characterId
  · subst heq
    simp
  · have hne : ¬ characterId = other := fun h => heq h.symm
    simp [heq, hne]

theorem ordersOf_outfitBeatRemoved (self : SceneAggregate) (id characterId order version) (other : Uuid) :
    (self.apply (.outfitBeatRemoved id characterId order version)).ordersOf other =
      if other = characterId then (self.ordersOf other).filter (· ≠ order)
      else self.ordersOf other := by
  simp only [ordersOf, beatsOf, apply, filter_filter]
  by_cases heq : other = characterId
  · subst heq
    rw [if_pos rfl, filter_map, filter_filter]
    congr 1
    apply filter_congr
    intro beat _
    by_cases hcharacter : beat.characterId = other <;> simp [hcharacter]
  · rw [if_neg heq]
    congr 1
    apply filter_congr
    intro beat _
    by_cases hcharacter : beat.characterId = other
    · have hne : ¬ beat.characterId = characterId := fun h => heq (hcharacter.symm.trans h)
      simp [hcharacter, heq]
    · simp [hcharacter]

theorem ordersOf_outfitBeatsCleared (self : SceneAggregate) (id characterId version other) :
    (self.apply (.outfitBeatsCleared id characterId version)).ordersOf other =
      if other = characterId then [] else self.ordersOf other := by
  simp only [ordersOf, beatsOf, apply, filter_filter]
  by_cases heq : other = characterId
  · subst heq
    rw [if_pos rfl, map_eq_nil_iff, filter_eq_nil_iff]
    intro beat _
    simp
  · rw [if_neg heq]
    congr 1
    apply filter_congr
    intro beat _
    by_cases hcharacter : beat.characterId = other
    · simp [hcharacter, heq]
    · simp [hcharacter]

/-! ## §2. One command -/

/-- A beat removed by itself is the character's last one. -/
def RemovesLast (self : SceneAggregate) : SceneCommand → Prop
  | .removeOutfitBeat cmd => ∀ order, cmd.order = some order →
      ∀ beat ∈ self.beatsOf cmd.characterId, beat.order ≤ order
  | _ => True

/-- The highest of the orders 0, …, n-1, plus one. -/
theorem nextOrder_eq (hbeats : self.KeepsBeats) (h : self.NumberedBeats)
    (hroom : ∀ beat ∈ self.beatsOf characterId, beat.order ≠ 2 ^ 32 - 1) :
    (match lastBeat (self.beatsOf characterId) with
      | some last => (last.order + 1) % 2 ^ 32
      | none => 0) = (self.ordersOf characterId).length := by
  have hspec := lastBeat_spec (self.beatsOf characterId)
  cases hlast : lastBeat (self.beatsOf characterId) with
  | none =>
    rw [hlast] at hspec
    rw [ordersOf, hspec]
    rfl
  | some last =>
    rw [hlast] at hspec
    obtain ⟨hmem, hmax⟩ := hspec
    have hbound : last.order < 2 ^ 32 :=
      hbeats.bounded last.key (mem_map_of_mem (mem_of_mem_filter hmem))
    have hne := hroom last hmem
    -- the last order is among 0, …, n-1, and so is n-1 among the orders
    have hlt : last.order ∈ self.ordersOf characterId := mem_map_of_mem hmem
    have htop : (self.ordersOf characterId).length - 1 ∈ self.ordersOf characterId := by
      have hpos := length_pos_of_mem hlt
      rw [h characterId, mem_range, length_range]
      omega
    rw [h characterId, mem_range] at hlt
    obtain ⟨beat, hbeat, horder⟩ := mem_map.mp htop
    have hle := hmax beat hbeat
    show (last.order + 1) % 2 ^ 32 = _
    rw [Nat.mod_eq_of_lt (by omega)]
    omega

theorem NumberedBeats.outfitBeatAdded (h : self.NumberedBeats) (id characterId outfitId : Uuid)
    (note version) (horder : order = (self.ordersOf characterId).length) :
    (self.apply (.outfitBeatAdded id characterId outfitId order note version)).NumberedBeats := by
  intro other
  rw [ordersOf_outfitBeatAdded]
  split
  · next heq =>
    subst heq horder
    rw [length_append, length_singleton, range_succ, ← h other]
  · exact h other

/-- Without the last of 0, …, n-1 the others are 0, …, n-2. -/
theorem filter_range_ne_last (hlt : order < n) (hlast : ∀ k < n, k ≤ order) :
    (range n).filter (· ≠ order) = range (n - 1) := by
  obtain ⟨m, rfl⟩ : ∃ m, n = m + 1 := ⟨n - 1, by omega⟩
  obtain rfl : order = m := by
    have := hlast m (by omega)
    omega
  rw [range_succ, filter_append, filter_eq_self.mpr, Nat.add_sub_cancel]
  · simp
  · intro k hk
    have := mem_range.mp hk
    simp only [ne_eq, decide_not, Bool.not_eq_eq_eq_not, Bool.not_true, decide_eq_false_iff_not]
    omega

theorem NumberedBeats.outfitBeatRemoved (h : self.NumberedBeats) (id characterId : Uuid)
    (version) (hmem : order ∈ self.ordersOf characterId)
    (hlast : ∀ k ∈ self.ordersOf characterId, k ≤ order) :
    (self.apply (.outfitBeatRemoved id characterId order version)).NumberedBeats := by
  intro other
  rw [ordersOf_outfitBeatRemoved]
  split
  · next heq =>
    subst heq
    rw [h other, mem_range] at hmem
    have hbelow : ∀ k < (self.ordersOf other).length, k ≤ order := by
      intro k hk
      refine hlast k ?_
      rw [h other, mem_range]
      exact hk
    rw [h other, filter_range_ne_last hmem hbelow, length_range]
  · exact h other

theorem NumberedBeats.outfitBeatsCleared (h : self.NumberedBeats) (id characterId : Uuid) (version) :
    (self.apply (.outfitBeatsCleared id characterId version)).NumberedBeats := by
  intro other
  rw [ordersOf_outfitBeatsCleared]
  split
  · rfl
  · exact h other

/-- **EVERY ACCEPTED COMMAND KEEPS THE BEATS NUMBERED**, if a beat that goes by itself is the last. -/
theorem handle_numberedBeats (hbeats : self.KeepsBeats) (h : self.NumberedBeats)
    (hcmd : ∀ c, cmd ≠ .create c) (hroom : self.RoomForBeat cmd) (hlast : self.RemovesLast cmd)
    (hhandle : self.handle cmd = .ok events) : (events.foldl apply self).NumberedBeats := by
  cases cmd with
  | create c => exact absurd rfl (hcmd c)
  | updateDetails | assignCharacter | scheduleOnShootingDay | unscheduleFromShootingDay =>
    -- these leave the beats alone
    simp only [handle, updateDetails, assignCharacter, scheduleOnShootingDay,
      unscheduleFromShootingDay, check_eq_ok] at hhandle
    cases hhandle.2.2.2
    exact h.congr rfl
  | updateOutfitBeat =>
    simp only [handle, updateOutfitBeat, check_eq_ok] at hhandle
    cases hhandle.2.2.2.2
    exact h.congr (map_key_updateBeat ..)
  | removeCharacter =>
    simp only [handle, removeCharacter, check_eq_ok] at hhandle
    obtain ⟨-, -, -, hevents⟩ := hhandle
    split at hevents
    · cases hevents
      exact h.congr rfl
    · cases hevents
      exact NumberedBeats.congr (h.outfitBeatsCleared self.id _ self.version.next) rfl
  | addOutfitBeat =>
    simp only [handle, addOutfitBeat, check_eq_ok] at hhandle
    cases hhandle.2.2.2.2
    exact h.outfitBeatAdded self.id _ _ _ _ (nextOrder_eq hbeats h hroom)
  | removeOutfitBeat =>
    simp only [handle, removeOutfitBeat, check_eq_ok] at hhandle
    obtain ⟨-, -, -, hevents⟩ := hhandle
    split at hevents
    · next order horder =>
      simp only [check_eq_ok, ensure_eq_ok, any_eq_true, decide_eq_true_eq] at hevents
      obtain ⟨⟨beat, hbeat, rfl⟩, hevents⟩ := hevents
      cases hevents
      refine h.outfitBeatRemoved self.id _ _ (mem_map_of_mem hbeat) ?_
      intro k hk
      obtain ⟨beat', hbeat', rfl⟩ := mem_map.mp hk
      exact hlast beat.order horder beat' hbeat'
    · simp only [check_eq_ok] at hevents
      cases hevents.2
      exact h.outfitBeatsCleared self.id _ _
  | delete =>
    simp only [handle, delete] at hhandle
    split at hhandle
    · cases hhandle
      exact h
    · split at hhandle
      · cases hhandle
      · cases hhandle
        exact h.congr rfl

end SceneAggregate

/-! ## §3. Runs -/

/-- What a command may not do for the orders to stay dense. -/
def KeepsDense (self : SceneAggregate) (cmd : SceneCommand) : Prop :=
  self.RoomForBeat cmd ∧ self.RemovesLast cmd

theorem SceneRun.mono (h : SceneRun ok agg) (hweaker : ∀ s cmd, ok s cmd → ok' s cmd) :
    SceneRun ok' agg := by
  induction h with
  | created hhandle => exact .created hhandle
  | step _ hcmd hok hhandle ih => exact .step ih hcmd (hweaker _ _ hok) hhandle

theorem numbered_of_sceneRun (h : SceneRun KeepsDense agg) : agg.NumberedBeats := by
  induction h with
  | @created cmd events hhandle =>
    simp only [handle, create, check_eq_ok] at hhandle
    cases hhandle.2
    exact fun _ => rfl
  | step before hcmd hok hhandle ih =>
    have hbeats := (before.mono fun _ _ h => h.1).keepsBeats
    exact handle_numberedBeats hbeats ih hcmd hok.1 hok.2 hhandle

/-- A character with three beats. -/
def threeBeats : SceneAggregate where
  id := ⟨1⟩
  episodeId := ⟨⟨2⟩⟩
  assignedCharacters := [⟨3⟩]
  outfitBeats := [⟨⟨3⟩, ⟨4⟩, 0, none⟩, ⟨⟨3⟩, ⟨5⟩, 1, none⟩, ⟨⟨3⟩, ⟨6⟩, 2, none⟩]
  version := 5

theorem sceneRun_threeBeats : SceneRun KeepsDense threeBeats := by
  have hcreated : SceneRun KeepsDense _ :=
    .created (Eq.refl ((Entity.init : SceneAggregate).handle (.create ⟨⟨1⟩, ⟨⟨2⟩⟩, {}, .manual⟩)))
  have hassigned := @step _ _ (.assignCharacter ⟨⟨1⟩, ⟨3⟩, 1⟩) _ hcreated
    nofun ⟨trivial, trivial⟩ rfl
  have hfirst := @step _ _ (.addOutfitBeat ⟨⟨1⟩, ⟨3⟩, ⟨4⟩, none, 2⟩) _ hassigned
    nofun ⟨nofun, trivial⟩ rfl
  have hroom : ∀ beat ∈ [(⟨⟨3⟩, ⟨4⟩, 0, none⟩ : SceneOutfitBeat), ⟨⟨3⟩, ⟨5⟩, 1, none⟩],
      beat.order ≠ 2 ^ 32 - 1 := by simp
  have hsecond := @step _ _ (.addOutfitBeat ⟨⟨1⟩, ⟨3⟩, ⟨5⟩, none, 3⟩) _ hfirst
    nofun ⟨fun beat hbeat => hroom beat (List.mem_append_left [_] hbeat), trivial⟩ rfl
  exact @step _ _ (.addOutfitBeat ⟨⟨1⟩, ⟨3⟩, ⟨6⟩, none, 4⟩) _ hsecond
    nofun ⟨hroom, trivial⟩ rfl

end Breakdown
