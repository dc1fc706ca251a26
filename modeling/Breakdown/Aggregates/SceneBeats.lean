/-
**THE OUTFIT BEATS OF A SCENE** (`core/src/scene/aggregate.rs`).

A beat is one outfit a character wears in the scene; its order is the character's highest so far
plus one. Removing a character clears its beats first, in the same batch of events.

- `KeepsBeats`: what holds of the characters, the days and the beats of a scene;
- `handle_keepsBeats`: every accepted command keeps it, as long as no character is at the
  last order a `u32` can hold when it gets another beat;
- `SceneRun`, `sceneRun_of_calls`: the states one create and accepted commands lead to, which are the
  states of all streams the adapters build;
- `beats_stay_in_order`: so all of these scenes are in order;
- `beats_out_of_order`: and past the last order they are not.
-/
import Mathlib.Data.List.Nodup
import Breakdown.Aggregates.Versions

namespace Breakdown

open EventLog Fallible List Entity

/-! ## §1. Beats in order -/

/-- What tells the beats of a scene apart. -/
def SceneOutfitBeat.key (beat : SceneOutfitBeat) : Uuid × Nat := (beat.characterId, beat.order)

namespace SceneAggregate

/-- The character and the order of every beat. -/
def beatKeys (self : SceneAggregate) : List (Uuid × Nat) := self.outfitBeats.map (·.key)

/-- The characters, days and beats of a scene. -/
structure KeepsBeats (agg : SceneAggregate) : Prop where
  characters : agg.assignedCharacters.Nodup
  days : agg.shootingDayIds.Nodup
  /-- Every beat is of a character in the scene. -/
  assigned : ∀ key ∈ agg.beatKeys, key.1 ∈ agg.assignedCharacters
  /-- The beats of a character come in increasing order. -/
  ordered : agg.beatKeys.Pairwise fun a b => a.1 = b.1 → a.2 < b.2
  /-- An order is a `u32`. -/
  bounded : ∀ key ∈ agg.beatKeys, key.2 < 2 ^ 32

theorem KeepsBeats.init : KeepsBeats (init : SceneAggregate) where
  characters := .nil
  days := .nil
  assigned _ h := by cases h
  ordered := .nil
  bounded _ h := by cases h

variable {self : SceneAggregate} {characterId : Uuid}

/-- Beats are only taken out, and those of characters that go are taken out first. -/
theorem KeepsBeats.of_sublist {next : SceneAggregate} (h : self.KeepsBeats)
    (hcharacters : next.assignedCharacters.Nodup) (hdays : next.shootingDayIds.Nodup)
    (hbeats : next.beatKeys.Sublist self.beatKeys)
    (hassigned : ∀ key ∈ next.beatKeys, key.1 ∈ self.assignedCharacters →
      key.1 ∈ next.assignedCharacters) : next.KeepsBeats where
  characters := hcharacters
  days := hdays
  assigned key hkey := hassigned key hkey (h.assigned key (hbeats.subset hkey))
  ordered := h.ordered.sublist hbeats
  bounded key hkey := h.bounded key (hbeats.subset hkey)

/-- An update in place leaves characters and orders alone. -/
theorem map_key_updateBeat (characterId order outfitId note beats) :
    (updateBeat characterId order (fun beat => { beat with outfitId, note }) beats).map (·.key) =
      beats.map (·.key) := by
  induction beats with
  | nil => rfl
  | cons beat rest ih =>
    unfold updateBeat
    split
    · rfl
    · rw [map_cons, ih, map_cons]

/-- `max_by_key` finds a beat, and none is higher. -/
theorem lastBeat_spec (beats) : match lastBeat beats with
    | none => beats = []
    | some last => last ∈ beats ∧ ∀ beat ∈ beats, beat.order ≤ last.order := by
  induction beats with
  | nil => rfl
  | cons beat rest ih =>
    unfold lastBeat
    cases hlast : lastBeat rest with
    | none =>
      rw [hlast] at ih
      subst ih
      simp
    | some last =>
      rw [hlast] at ih
      obtain ⟨hmem, hmax⟩ := ih
      by_cases hle : beat.order ≤ last.order
      · simp only [if_pos hle, mem_cons, forall_eq_or_imp]
        exact ⟨.inr hmem, hle, hmax⟩
      · simp only [if_neg hle, mem_cons, forall_eq_or_imp]
        refine ⟨.inl trivial, Nat.le_refl _, fun b hb => ?_⟩
        have := hmax b hb
        omega

/-! ## §2. One command -/

/-- No character gets another beat after the one at `u32::MAX`. -/
def RoomForBeat (self : SceneAggregate) : SceneCommand → Prop
  | .addOutfitBeat cmd => ∀ beat ∈ self.beatsOf cmd.characterId, beat.order ≠ 2 ^ 32 - 1
  | _ => True

section

variable (h : self.KeepsBeats)
include h

/-- The order of the next beat is above all of the character's orders. -/
theorem nextOrder_gt (hroom : ∀ beat ∈ self.beatsOf characterId, beat.order ≠ 2 ^ 32 - 1) :
    ∀ beat ∈ self.beatsOf characterId, beat.order < (match lastBeat (self.beatsOf characterId) with
        | some last => (last.order + 1) % 2 ^ 32
        | none => 0) := by
  intro beat hbeat
  have hspec := lastBeat_spec (self.beatsOf characterId)
  cases hlast : lastBeat (self.beatsOf characterId) with
  | none =>
    rw [hlast] at hspec
    rw [hspec] at hbeat
    cases hbeat
  | some last =>
    rw [hlast] at hspec
    obtain ⟨hmem, hmax⟩ := hspec
    have hbound : last.order < 2 ^ 32 :=
      h.bounded last.key (mem_map_of_mem (mem_of_mem_filter hmem))
    have hne := hroom last hmem
    have hle := hmax beat hbeat
    show beat.order < (last.order + 1) % 2 ^ 32
    rw [Nat.mod_eq_of_lt (by omega)]
    omega

theorem KeepsBeats.outfitBeatAdded (id outfitId) (note version)
    (hassigned : characterId ∈ self.assignedCharacters) (hbound : order < 2 ^ 32)
    (habove : ∀ beat ∈ self.beatsOf characterId, beat.order < order) :
    (self.apply (.outfitBeatAdded id characterId outfitId order note version)).KeepsBeats := by
  have hkeys : (self.apply (.outfitBeatAdded id characterId outfitId order note version)).beatKeys =
      self.beatKeys ++ [(characterId, order)] := by
    simp [beatKeys, apply, SceneOutfitBeat.key]
  refine ⟨h.characters, h.days, ?_, ?_, ?_⟩
  · rw [hkeys]
    intro key hkey
    obtain hkey | hkey := mem_append.mp hkey
    · exact h.assigned key hkey
    · rw [mem_singleton.mp hkey]
      exact hassigned
  · rw [hkeys, pairwise_append]
    refine ⟨h.ordered, pairwise_singleton _ _, ?_⟩
    intro key hkey last hlast hsame
    rw [mem_singleton.mp hlast] at hsame ⊢
    obtain ⟨beat, hbeat, rfl⟩ := mem_map.mp hkey
    exact habove beat (mem_filter.mpr ⟨hbeat, by simpa [SceneOutfitBeat.key] using hsame⟩)
  · rw [hkeys]
    intro key hkey
    obtain hkey | hkey := mem_append.mp hkey
    · exact h.bounded key hkey
    · rw [mem_singleton.mp hkey]
      exact hbound

/-- The same characters, days and keys. -/
theorem KeepsBeats.congr {next : SceneAggregate} (hcharacters :
    next.assignedCharacters = self.assignedCharacters)
    (hdays : next.shootingDayIds = self.shootingDayIds) (hkeys : next.beatKeys = self.beatKeys) :
    next.KeepsBeats :=
  h.of_sublist (hcharacters ▸ h.characters) (hdays ▸ h.days) (hkeys ▸ List.Sublist.refl _)
    (fun _ _ hkey => hcharacters ▸ hkey)

/-- The character is not in the scene yet. -/
theorem KeepsBeats.characterAssigned (id version) (hnew : characterId ∉ self.assignedCharacters) :
    (self.apply (.characterAssigned id characterId version)).KeepsBeats := by
  have hcharacters : (self.apply (.characterAssigned id characterId version)).assignedCharacters =
      self.assignedCharacters ++ [characterId] := by
    simp [apply, hnew]
  refine h.of_sublist ?_ h.days (List.Sublist.refl _) ?_
  · rw [hcharacters]
    exact h.characters.append (nodup_singleton _) (by simpa using hnew)
  · intro key _ hkey
    rw [hcharacters]
    exact mem_append_left _ hkey

theorem KeepsBeats.shootingDayScheduled (id)
    (version) (hnew : shootingDayId ∉ self.shootingDayIds) :
    (self.apply (.shootingDayScheduled id shootingDayId version)).KeepsBeats := by
  refine h.of_sublist h.characters ?_ (List.Sublist.refl _) (fun _ _ hkey => hkey)
  have hdays : (self.apply (.shootingDayScheduled id shootingDayId version)).shootingDayIds =
      self.shootingDayIds ++ [shootingDayId] := by
    simp [apply, hnew]
  rw [hdays]
  exact h.days.append (nodup_singleton _) (by simpa using hnew)

/-- A character goes that has no beats. -/
theorem KeepsBeats.characterRemoved (id version) (hnone : self.beatsOf characterId = []) :
    (self.apply (.characterRemoved id characterId version)).KeepsBeats := by
  refine h.of_sublist (h.characters.filter _) h.days (List.Sublist.refl _) ?_
  intro key hkey hmem
  refine mem_filter.mpr ⟨hmem, ?_⟩
  obtain ⟨beat, hbeat, rfl⟩ := mem_map.mp hkey
  have hother := filter_eq_nil_iff.mp hnone beat hbeat
  simp only [decide_eq_true_eq] at hother
  exact decide_eq_true hother

theorem KeepsBeats.outfitBeatsCleared (id characterId version) :
    (self.apply (.outfitBeatsCleared id characterId version)).KeepsBeats :=
  h.of_sublist h.characters h.days (List.Sublist.map _ filter_sublist) (fun _ _ hkey => hkey)

end

theorem beatsOf_outfitBeatsCleared (self : SceneAggregate) (id characterId : Uuid)
    (version : AggregateVersion) :
    (self.apply (.outfitBeatsCleared id characterId version)).beatsOf characterId = [] := by
  simp [beatsOf, apply, filter_filter]

/-- **EVERY ACCEPTED COMMAND KEEPS THE BEATS IN ORDER.** -/
theorem handle_keepsBeats (h : self.KeepsBeats) (hcmd : ∀ c, cmd ≠ .create c)
    (hroom : self.RoomForBeat cmd) (hhandle : self.handle cmd = .ok events) :
    (events.foldl apply self).KeepsBeats := by
  cases cmd with
  | create c => exact absurd rfl (hcmd c)
  | updateDetails =>
    simp only [handle, updateDetails, check_eq_ok] at hhandle
    obtain ⟨-, -, -, hevents⟩ := hhandle
    cases hevents
    exact h.congr rfl rfl rfl
  | assignCharacter =>
    simp only [handle, assignCharacter, check_eq_ok, ensure_eq_ok] at hhandle
    obtain ⟨-, -, hnew, hevents⟩ := hhandle
    cases hevents
    exact h.characterAssigned self.id _ (by simpa using hnew)
  | removeCharacter =>
    simp only [handle, removeCharacter, check_eq_ok] at hhandle
    obtain ⟨-, -, -, hevents⟩ := hhandle
    split at hevents
    · next hnone =>
      cases hevents
      exact h.characterRemoved self.id _ (by simpa using hnone)
    · -- the beats go first
      cases hevents
      exact (h.outfitBeatsCleared self.id ..).characterRemoved self.id _ (beatsOf_outfitBeatsCleared ..)
  | addOutfitBeat =>
    simp only [handle, addOutfitBeat, checkInScene, check_eq_ok, ensure_eq_ok] at hhandle
    obtain ⟨-, -, hassigned, -, hevents⟩ := hhandle
    cases hevents
    refine h.outfitBeatAdded self.id _ _ _ (by simpa using hassigned) ?_ (nextOrder_gt h hroom)
    split
    · exact Nat.mod_lt _ (by omega)
    · omega
  | updateOutfitBeat =>
    simp only [handle, updateOutfitBeat, check_eq_ok] at hhandle
    obtain ⟨-, -, -, -, hevents⟩ := hhandle
    cases hevents
    exact h.congr rfl rfl (map_key_updateBeat ..)
  | removeOutfitBeat =>
    simp only [handle, removeOutfitBeat, check_eq_ok] at hhandle
    obtain ⟨-, -, -, hevents⟩ := hhandle
    split at hevents
    · simp only [check_eq_ok] at hevents
      cases hevents.2
      exact h.of_sublist h.characters h.days (List.Sublist.map _ filter_sublist)
        (fun _ _ hkey => hkey)
    · simp only [check_eq_ok] at hevents
      cases hevents.2
      exact h.outfitBeatsCleared self.id ..
  | scheduleOnShootingDay =>
    simp only [handle, scheduleOnShootingDay, check_eq_ok, ensure_eq_ok] at hhandle
    obtain ⟨-, -, hnew, hevents⟩ := hhandle
    cases hevents
    exact h.shootingDayScheduled self.id _ (by simpa using hnew)
  | unscheduleFromShootingDay =>
    simp only [handle, unscheduleFromShootingDay, check_eq_ok] at hhandle
    obtain ⟨-, -, -, hevents⟩ := hhandle
    cases hevents
    exact h.of_sublist h.characters (h.days.filter _) (List.Sublist.refl _) (fun _ _ hkey => hkey)
  | delete =>
    simp only [handle, delete] at hhandle
    split at hhandle
    · cases hhandle
      exact h
    · split at hhandle
      · cases hhandle
      · cases hhandle
        exact h.congr rfl rfl rfl

end SceneAggregate

/-! ## §3. Runs -/

/-- The scenes that one create and then accepted commands lead to, each of which meets `ok`. -/
inductive SceneRun (ok : SceneAggregate → SceneCommand → Prop) : SceneAggregate → Prop
  | created {cmd : CreateScene} {events : List SceneEvent}
      (hhandle : (Entity.init : SceneAggregate).handle (.create cmd) = .ok events) :
      SceneRun ok (events.foldl SceneAggregate.apply Entity.init)
  | step {agg : SceneAggregate} {cmd : SceneCommand} {events : List SceneEvent}
      (before : SceneRun ok agg) (hcmd : ∀ c, cmd ≠ .create c) (hok : ok agg cmd)
      (hhandle : agg.handle cmd = .ok events) : SceneRun ok (events.foldl SceneAggregate.apply agg)

theorem SceneRun.keepsBeats (h : SceneRun SceneAggregate.RoomForBeat agg) : agg.KeepsBeats := by
  induction h with
  | @created cmd events hhandle =>
    simp only [SceneAggregate.handle, SceneAggregate.create, check_eq_ok] at hhandle
    cases hhandle.2
    exact SceneAggregate.KeepsBeats.init.congr rfl rfl rfl
  | step before hcmd hok hhandle ih => exact SceneAggregate.handle_keepsBeats ih hcmd hok hhandle

/-- The states of all streams that calls of the adapters build are such scenes. -/
theorem sceneRun_of_calls
    (h : Calls SceneAggregate (fun log cmd => ok (replay SceneAggregate log) cmd) log) :
    log = [] ∨ SceneRun ok (replay SceneAggregate log) := by
  refine h.rule (P := fun log => log = [] ∨ SceneRun ok (replay SceneAggregate log))
    (.inl rfl) ?_
  intro log cmd expected events before hok hexpected hdecided
  right
  have hsat := hdecided.satisfied
  have hhandle := hdecided.handled
  rw [replay_append]
  by_cases hnil : log = []
  · -- only the create gets through to an empty stream
    subst hnil
    cases cmd with
    | create => exact .created hhandle
    | delete => cases hhandle
    | _ => exact absurd rfl (exactly_ne_nil hexpected hsat)
  · refine .step (before.resolve_left hnil) ?_ hok hhandle
    rintro c rfl
    cases hexpected
    exact hnil (by simpa using hsat)

/-- The scene whose only character comes, gets an outfit and goes. -/
theorem sceneRun_of_calls_shortScene :
    SceneRun (fun _ _ => True) (replay SceneAggregate shortScene) :=
  (sceneRun_of_calls (calls_callAll _)).resolve_left (by decide +kernel)

/-- **A SCENE IN ORDER.** -/
structure SceneInOrder (agg : SceneAggregate) : Prop where
  characters : agg.assignedCharacters.Nodup
  days : agg.shootingDayIds.Nodup
  assigned : ∀ beat ∈ agg.outfitBeats, beat.characterId ∈ agg.assignedCharacters
  /-- No two beats share character and order. -/
  distinct : (agg.outfitBeats.map fun beat => (beat.characterId, beat.order)).Nodup
  /-- The beats of a character stand in the list in strictly increasing order. -/
  increasing : ∀ characterId, (agg.beatsOf characterId).Pairwise fun a b => a.order < b.order

theorem SceneAggregate.KeepsBeats.inOrder (h : agg.KeepsBeats) : SceneInOrder agg where
  characters := h.characters
  days := h.days
  assigned beat hbeat := h.assigned beat.key (mem_map_of_mem hbeat)
  distinct := by
    refine h.ordered.imp ?_
    intro a b hlt hab
    have := hlt (congrArg Prod.fst hab)
    rw [hab] at this
    omega
  increasing characterId := by
    have hordered := pairwise_map.mp h.ordered
    rw [SceneAggregate.beatsOf, pairwise_filter]
    refine hordered.imp ?_
    intro a b hlt ha hb
    simp only [decide_eq_true_eq] at ha hb
    exact hlt (ha.trans hb.symm)

/-- **BEATS STAY IN ORDER**, in every run in which no character gets another beat after the one at
`u32::MAX`. -/
theorem beats_stay_in_order {agg : SceneAggregate}
    (h : SceneRun SceneAggregate.RoomForBeat agg) : SceneInOrder agg :=
  h.keepsBeats.inOrder

/-- A character that changes its outfit twice. -/
theorem beats_stay_in_order_twoBeats : SceneInOrder
      ⟨⟨1⟩, ⟨⟨2⟩⟩, {}, [⟨3⟩], [], [⟨⟨3⟩, ⟨4⟩, 0, none⟩, ⟨⟨3⟩, ⟨5⟩, 1, none⟩], .manual, false, 4⟩ := by
  have hcreated : SceneRun SceneAggregate.RoomForBeat _ :=
    .created (Eq.refl ((init : SceneAggregate).handle (.create ⟨⟨1⟩, ⟨⟨2⟩⟩, {}, .manual⟩)))
  have hassigned := @SceneRun.step _ _ (.assignCharacter ⟨⟨1⟩, ⟨3⟩, 1⟩) _ hcreated
    nofun trivial rfl
  have hfirst := @SceneRun.step _ _ (.addOutfitBeat ⟨⟨1⟩, ⟨3⟩, ⟨4⟩, none, 2⟩) _ hassigned
    nofun nofun rfl
  have hsecond := @SceneRun.step _ _ (.addOutfitBeat ⟨⟨1⟩, ⟨3⟩, ⟨5⟩, none, 3⟩) _ hfirst
    nofun
    (by show ∀ beat ∈ [(⟨⟨3⟩, ⟨4⟩, 0, none⟩ : SceneOutfitBeat)], beat.order ≠ 2 ^ 32 - 1; simp) rfl
  exact beats_stay_in_order hsecond

/-- Two outfits take turns. -/
def outfitAt (n : Nat) : Uuid := if n % 2 = 0 then ⟨4⟩ else ⟨5⟩

theorem outfitAt_succ_ne (n) : outfitAt n ≠ outfitAt (n + 1) := by
  unfold outfitAt
  obtain h | h := Nat.mod_two_eq_zero_or_one n
  · rw [if_pos h, if_neg (by omega)]
    decide
  · rw [if_neg (by omega), if_pos (by omega)]
    decide

/-- One character, whose only beat is at order `n`. -/
def sceneWithBeat (n : Nat) : SceneAggregate where
  id := ⟨1⟩
  episodeId := ⟨⟨2⟩⟩
  assignedCharacters := [⟨3⟩]
  outfitBeats := [⟨⟨3⟩, outfitAt n, n, none⟩]
  version := 3 + 2 * n

attribute [local simp] sceneWithBeat SceneAggregate.beatsOf

/-- The next beat goes behind it, or to the front when the orders are used up. -/
theorem sceneWithBeat_add (n) :
    (sceneWithBeat n).handle (.addOutfitBeat ⟨⟨1⟩, ⟨3⟩, outfitAt (n + 1), none, 3 + 2 * n⟩) =
      .ok [.outfitBeatAdded ⟨1⟩ ⟨3⟩ (outfitAt (n + 1)) ((n + 1) % 2 ^ 32) none (3 + 2 * n + 1)] := by
  have hne := outfitAt_succ_ne n
  simp [SceneAggregate.handle, SceneAggregate.addOutfitBeat, SceneAggregate.checkNotDeleted, SceneAggregate.checkVersion, SceneAggregate.checkInScene, SceneAggregate.lastBeat, hne]

/-- Between the two: the new beat is there and the old one still is. -/
def sceneWithBeats (n order : Nat) : SceneAggregate :=
  (sceneWithBeat n).apply (.outfitBeatAdded ⟨1⟩ ⟨3⟩ (outfitAt (n + 1)) order none (3 + 2 * n + 1))

theorem sceneWithBeats_remove (n) :
    (sceneWithBeats n (n + 1)).handle (.removeOutfitBeat ⟨⟨1⟩, ⟨3⟩, some n, 3 + 2 * n + 1⟩) =
      .ok [.outfitBeatRemoved ⟨1⟩ ⟨3⟩ n (3 + 2 * n + 2)] := by
  simp [SceneAggregate.handle, SceneAggregate.removeOutfitBeat, SceneAggregate.checkNotDeleted, SceneAggregate.checkVersion, SceneAggregate.checkInScene, sceneWithBeats, SceneAggregate.apply]

theorem sceneWithBeats_removed (n) :
    (sceneWithBeats n (n + 1)).apply (.outfitBeatRemoved ⟨1⟩ ⟨3⟩ n (3 + 2 * n + 2)) =
      sceneWithBeat (n + 1) := by
  simp [sceneWithBeats, SceneAggregate.apply]
  rfl

/-- Add the next beat and remove the last one: the order has gone up by one. -/
theorem sceneRun_sceneWithBeat (h : n < 2 ^ 32) : SceneRun (fun _ _ => True) (sceneWithBeat n) := by
  induction n with
  | zero =>
    have hcreated : SceneRun (fun _ _ => True) _ :=
      .created (Eq.refl ((init : SceneAggregate).handle (.create ⟨⟨1⟩, ⟨⟨2⟩⟩, {}, .manual⟩)))
    have hassigned := hcreated.step (by intro c hc; cases hc) trivial
      (Eq.refl (SceneAggregate.handle _ (.assignCharacter ⟨⟨1⟩, ⟨3⟩, 1⟩)))
    exact hassigned.step (by intro c hc; cases hc) trivial
      (Eq.refl (SceneAggregate.handle _ (.addOutfitBeat ⟨⟨1⟩, ⟨3⟩, ⟨4⟩, none, 2⟩)))
  | succ n ih =>
    have hadded := (ih (by omega)).step (by intro c hc; cases hc) trivial (sceneWithBeat_add n)
    rw [Nat.mod_eq_of_lt h] at hadded
    have hremoved := SceneRun.step hadded (by intro c hc; cases hc) trivial (sceneWithBeats_remove n)
    rw [← sceneWithBeats_removed n]
    exact hremoved

/-- **PAST THE LAST ORDER BEATS ARE OUT OF ORDER.** The beat after the one at `u32::MAX` gets order 0
and stands behind it. -/
theorem beats_out_of_order : ∃ agg, SceneRun (fun _ _ => True) agg ∧ ¬SceneInOrder agg := by
  refine ⟨sceneWithBeats (2 ^ 32 - 1) 0, ?_, ?_⟩
  · have hadded := (sceneRun_sceneWithBeat (n := 2 ^ 32 - 1) (by omega)).step
      (by intro c hc; cases hc) trivial (sceneWithBeat_add _)
    exact hadded
  · intro h
    have hincreasing := h.increasing ⟨3⟩
    simp [sceneWithBeats, SceneAggregate.apply] at hincreasing

end Breakdown
