/-
**DO THE TABLES SHOW THE AGGREGATE, AND DO THEY STAY PUT?**

A scene or a piece that is not deleted is projected event by event. Two questions: do the tables
have what the aggregate has after every event, and does it do harm to deliver the end of the stream
once more?

- `projections_converge`: the tables of a scene show the aggregate all the way exactly if the
  database takes every statement and no beat is added under a character and order that are there;
  the tables of a piece, exactly if no stored text has U+0000. Delivering a suffix again never
  changes anything;
- `beats_share_a_row`: past `u32::MAX` two beats are at order 0, and the table has one row for them.
-/
import Breakdown.Projections.Piece
import Breakdown.Projections.SceneReplay

namespace Breakdown.Projections

open Tables List Entity

/-! ## §1. Scenes -/

/-- The events of one scene that is not deleted, and tables without rows of its children. -/
structure SceneLife (start : SceneTables) (events : List (StoredEvent SceneEvent)) : Prop where
  history : History SceneAggregate (events.map (·.data))
  founded : Founded SceneAggregate (events.map (·.data))
  kept : ∀ e ∈ events, e.data.isDeletion = false
  lacks : start.Lacks (Entity.replay SceneAggregate (events.map (·.data))).id

/-- What is projected from the events of a scene. -/
structure SceneConverges (start : SceneTables) (events : List (StoredEvent SceneEvent)) : Prop where
  /-- All the way the tables show the aggregate, if the database takes the statements and every beat
      gets a key of its own. -/
  shown_iff : (∀ pre, pre <+: events → pre ≠ [] →
      ∃ after, project SceneProjector.handle start pre = .ok after ∧
        after.Shows (Entity.replay SceneAggregate (pre.map (·.data)))) ↔
    (∀ e ∈ events, SceneProjector.Accepts start e.data) ∧ sceneBeats.Fresh (events.map (·.data))
  /-- Delivering a suffix again changes nothing. -/
  again : ∀ after, project SceneProjector.handle start events = .ok after →
    ∀ suffix, suffix <:+ events → project SceneProjector.handle after suffix = .ok after

namespace SceneLife

variable {start : SceneTables} {events : List (StoredEvent SceneEvent)}

section

variable (h : SceneLife start events)
include h

theorem stream : SceneStream (events.map (·.data)) := sceneStream_of_history h.history h.founded

theorem counted : Counted SceneAggregate (events.map (·.data)) := h.history.counted h.founded

/-- The events so far. -/
theorem begins (hpre : pre <+: events) (hne : pre ≠ []) :
    SceneStream (pre.map (·.data)) ∧ Counted SceneAggregate (pre.map (·.data)) ∧
      (∀ e ∈ pre, e.data.isDeletion = false) ∧
        start.Lacks (replay SceneAggregate (pre.map (·.data))).id := by
  have hmap : pre.map (·.data) <+: events.map (·.data) := hpre.map _
  have hstream := h.stream.shorter hmap (by simpa using hne)
  refine ⟨hstream, h.counted.of_seen hmap, fun e he => h.kept e (hpre.subset he), ?_⟩
  rw [h.stream.unchanged SceneAggregate.id hmap (by simpa using hne) (·.emits.id_apply)]
  exact h.lacks

/-- Every prefix is projected, if the whole stream is accepted. -/
theorem project_begins (haccepts : ∀ e ∈ events, SceneProjector.Accepts start e.data) (hpre :
    pre <+: events) (hne : pre ≠ []) :
    project SceneProjector.handle start pre = .ok (pre.foldl SceneProjector.step start) := by
  obtain ⟨hstream, hcounted, hkept, -⟩ := h.begins hpre hne
  exact (SceneProjector.project_eq hstream hcounted hkept).mpr
    ⟨fun e he => haccepts e (hpre.subset he), rfl⟩

/-- The converse of the shown tables: every beat that was added had a key of its own. -/
theorem fresh_of_shown (hshown : ∀ pre, pre <+: events → pre ≠ [] →
      ∃ after, project SceneProjector.handle start pre = .ok after ∧
        after.Shows (replay SceneAggregate (pre.map (·.data)))) :
    sceneBeats.Fresh (events.map (·.data)) := by
  intro before e post key hsplit hadded
  by_cases hne : before = []
  · -- the first event adds no beat
    subst hne
    rw [(sceneBeats.first (h.stream.starts hsplit)).1] at hadded
    cases hadded
  · obtain ⟨pre, rest, rfl, rfl, hrest⟩ := map_eq_append_iff.mp hsplit
    obtain ⟨event, rest, rfl, rfl, rfl⟩ := map_eq_cons_iff.mp hrest
    obtain ⟨after, -, hshows⟩ := hshown (pre ++ [event]) ⟨rest, by simp⟩ (by simp)
    rw [map_append, map_singleton, replay_concat] at hshows
    exact SceneProjector.fresh_of_shows (h.stream.emits hsplit hne).emits hadded hshows

theorem converges : SceneConverges start events where
  shown_iff := by
    constructor
    · intro hshown
      have hne : events ≠ [] := by simpa using h.founded.ne_nil
      obtain ⟨after, hafter, -⟩ := hshown events (prefix_refl events) hne
      exact ⟨((SceneProjector.project_eq h.stream h.counted h.kept).mp hafter).1,
        h.fresh_of_shown hshown⟩
    · rintro ⟨haccepts, hfresh⟩ pre hpre hne
      obtain ⟨hstream, -, hkept, hlacks⟩ := h.begins hpre hne
      exact ⟨_, h.project_begins haccepts hpre hne,
        SceneProjector.foldl_step_shows hstream hlacks hkept (hfresh.shorter (hpre.map _))⟩
  again after hafter suffix hsuffix := by
    obtain ⟨haccepts, rfl⟩ := (SceneProjector.project_eq h.stream h.counted h.kept).mp hafter
    exact SceneProjector.project_again h.stream h.counted h.kept haccepts hsuffix

end

end SceneLife

/-! ## §2. Pieces -/

/-- The events of one piece that is not deleted and whose details have ids of their own, and tables
without rows of it. -/
structure PieceLife (start : PieceTables) (events : List (StoredEvent PieceEvent)) : Prop where
  history : History PieceAggregate (events.map (·.data))
  founded : Founded PieceAggregate (events.map (·.data))
  kept : ∀ e ∈ events, e.data.isDeletion = false
  distinct : (pieceDetails.everAdded (events.map (·.data))).Nodup
  lacks : start.Lacks (Entity.replay PieceAggregate (events.map (·.data))).id

/-- What is projected from the events of a piece. -/
structure PieceConverges (start : PieceTables) (events : List (StoredEvent PieceEvent)) : Prop where
  /-- All the way the tables show the aggregate, if the database takes the texts. -/
  shown_iff : (∀ pre, pre <+: events → pre ≠ [] →
      ∃ after, project PieceProjector.handle start pre = .ok after ∧
        after.Shows (Entity.replay PieceAggregate (pre.map (·.data)))) ↔
    ∀ e ∈ events, e.data.texts.all storable = true
  /-- Delivering a suffix again changes nothing. -/
  again : ∀ after, project PieceProjector.handle start events = .ok after →
    ∀ suffix, suffix <:+ events → project PieceProjector.handle after suffix = .ok after

namespace PieceLife

variable {start : PieceTables} {events : List (StoredEvent PieceEvent)}

theorem stream (h : PieceLife start events) : PieceRun (events.map (·.data)) :=
  pieceRun_of_history h.history h.founded

/-- The events so far take effect one by one, and the tables show them. -/
theorem shows_begins (h : PieceLife start events) (hpre : pre <+: events) (hne : pre ≠ []) :
    (pre.foldl PieceProjector.step start).Shows (replay PieceAggregate (pre.map (·.data))) := by
  have hmap : pre.map (·.data) <+: events.map (·.data) := hpre.map _
  have hstream := h.stream.shorter hmap (by simpa using hne)
  refine PieceProjector.foldl_step_shows hstream ?_ (fun e he => h.kept e (hpre.subset he))
    ((pieceDetails.fresh_of_distinct h.stream h.distinct).shorter hmap)
  rw [h.stream.unchanged PieceAggregate.id hmap (by simpa using hne) (·.emits.id_apply)]
  exact h.lacks

theorem converges (h : PieceLife start events) : PieceConverges start events where
  shown_iff := by
    have hne : events ≠ [] := by simpa using h.founded.ne_nil
    constructor
    · intro hshown
      obtain ⟨after, hafter, -⟩ := hshown events (prefix_refl events) hne
      exact ((PieceProjector.project_eq h.stream h.kept).mp hafter).1
    · intro htexts pre hpre hne
      have hstream := h.stream.shorter (hpre.map _) (by simpa using hne)
      refine ⟨_, (PieceProjector.project_eq hstream fun e he => h.kept e (hpre.subset he)).mpr
        ⟨fun e he => htexts e (hpre.subset he), rfl⟩, h.shows_begins hpre hne⟩
  again after hafter suffix hsuffix := by
    have hne : events ≠ [] := by simpa using h.founded.ne_nil
    obtain ⟨htexts, rfl⟩ := (PieceProjector.project_eq h.stream h.kept).mp hafter
    exact PieceProjector.project_again h.stream (h.history.counted h.founded) h.kept htexts
      (h.shows_begins (prefix_refl events) hne) hsuffix

end PieceLife

/-! ## §3. Both -/

/-- **SCENES AND PIECES CONVERGE**, scenes as long as every beat gets a key of its own. -/
theorem projections_converge {sceneStart : SceneTables} {sceneEvents : List (StoredEvent SceneEvent)}
    {pieceStart : PieceTables} {pieceEvents : List (StoredEvent PieceEvent)}
    (hscene : SceneLife sceneStart sceneEvents) (hpiece : PieceLife pieceStart pieceEvents) :
    SceneConverges sceneStart sceneEvents ∧ PieceConverges pieceStart pieceEvents :=
  ⟨hscene.converges, hpiece.converges⟩

def emptyPieceTables : PieceTables where
  categoryNames _ := none
  pieces _ := none
  seasons _ := none
  details _ := none
  photos _ := none

/-- A scene with a character in two outfits, on a shooting day. -/
def dressedScene : List (StoredEvent SceneEvent) := recordedAt 2000 <| callAll SceneAggregate
    [.create ⟨1, ⟨2⟩, {}, .manual⟩, .assignCharacter ⟨1, 3, 1⟩, .addOutfitBeat ⟨1, 3, 4, none, 2⟩,
      .addOutfitBeat ⟨1, 3, 5, some "nass", 3⟩, .scheduleOnShootingDay ⟨1, ⟨6⟩, 4⟩,
      .removeOutfitBeat ⟨1, 3, some 0, 5⟩]

/-- A piece with two details, one of them removed. -/
def patchedPiece : List (StoredEvent PieceEvent) := recordedAt 2000 <| callAll PieceAggregate
    [.create ⟨1, "Mantel", none, none⟩, .addDetail ⟨1, ⟨2, none, "Riss"⟩, 1⟩,
      .addDetail ⟨1, ⟨3, some "Kragen", "offen"⟩, 2⟩, .removeDetail ⟨1, 2, 3⟩]

theorem projections_converge_dressed : (dressedScene.length = 6 ∧ patchedPiece.length = 4) ∧
      SceneConverges emptySceneTables dressedScene ∧ PieceConverges emptyPieceTables patchedPiece := by
  refine ⟨by decide +kernel, projections_converge ⟨?_, ?_, ?_, ?_⟩ ⟨?_, ?_, ?_, ?_, ?_⟩⟩
  · rw [dressedScene, map_data_recordedAt]
    exact (calls_callAll _).history
  · exact ⟨.sceneCreated 1 ⟨2⟩ {} [] .manual 1, by decide +kernel, rfl⟩
  · decide +kernel
  · exact emptySceneTables_lacks _
  · rw [patchedPiece, map_data_recordedAt]
    exact (calls_callAll _).history
  · exact ⟨.pieceCreated 1 "Mantel" none none "" [] [] 1, by decide +kernel, rfl⟩
  · decide +kernel
  · decide +kernel
  · exact ⟨rfl, fun _ => rfl, fun _ => rfl, fun _ => rfl⟩

/-! ## §4. Past the last order -/

/-- A history of a scene without deletions, texts and shooting days. -/
structure PlainHistory (log : List SceneEvent) : Prop where
  history : History SceneAggregate log
  founded : Founded SceneAggregate log
  plain : ∀ e ∈ log, e.isDeletion = false ∧ e.texts = [] ∧ e.scheduledDay = none

/-- One more event. -/
theorem PlainHistory.step (h : PlainHistory log)
    (hreplay : replay SceneAggregate log = scene) (hcmd : ∀ c, cmd ≠ .create c)
    (hidem : isStateIdempotent scene cmd = false) (hhandle : scene.handle cmd = .ok [e])
    (hplain : e.isDeletion = false ∧ e.texts = [] ∧ e.scheduledDay = none) :
    PlainHistory (log ++ [e]) ∧ replay SceneAggregate (log ++ [e]) = scene.apply e := by
  subst hreplay
  refine ⟨⟨?_, ?_, ?_⟩, replay_concat log e⟩
  · have hdecided : Decided SceneAggregate log .any cmd [e] := ⟨rfl, hidem, hhandle, by simp⟩
    refine .step h.history (fun hcreate => ?_) hdecided
    cases cmd with
    | create c => exact absurd rfl (hcmd c)
    | _ => cases hcreate
  · obtain ⟨first, hfirst, hcreation⟩ := h.founded
    exact ⟨first, by rw [head?_append_of_ne_nil _ h.founded.ne_nil]; exact hfirst, hcreation⟩
  · intro e' he'
    obtain he' | he' := mem_append.mp he'
    · exact h.plain e' he'
    · rw [mem_singleton.mp he']
      exact hplain

/-- Such a history is projected. -/
theorem PlainHistory.projected (h : PlainHistory log) :
    SceneLife emptySceneTables (recordedAt 2000 log) ∧
      ∃ after, project SceneProjector.handle emptySceneTables (recordedAt 2000 log) = .ok after := by
  have hdata : ∀ e ∈ recordedAt 2000 log, e.data ∈ log := by
    intro e he
    have hmem := mem_map_of_mem (f := (·.data)) he
    rwa [map_data_recordedAt] at hmem
  have hlife : SceneLife emptySceneTables (recordedAt 2000 log) := by
    refine ⟨?_, ?_, fun e he => (h.plain _ (hdata e he)).1, emptySceneTables_lacks _⟩
    · rw [map_data_recordedAt]
      exact h.history
    · rw [map_data_recordedAt]
      exact h.founded
  refine ⟨hlife, _, (SceneProjector.project_eq hlife.stream hlife.counted hlife.kept).mpr ⟨?_, rfl⟩⟩
  intro e he
  obtain ⟨-, htexts, hday⟩ := h.plain _ (hdata e he)
  refine ⟨by rw [htexts]; rfl, fun day hscheduled => ?_⟩
  rw [hday] at hscheduled
  cases hscheduled

/-- A character whose only beat is at order `n`, for every order there is. -/
theorem exists_sceneWithBeat (h : n < 2 ^ 32) :
    ∃ log, PlainHistory log ∧ replay SceneAggregate log = sceneWithBeat n := by
  induction n with
  | zero =>
    refine ⟨callAll SceneAggregate [.create ⟨1, ⟨2⟩, {}, .manual⟩, .assignCharacter ⟨1, 3, 1⟩,
      .addOutfitBeat ⟨1, 3, 4, none, 2⟩], ⟨(calls_callAll _).history, ?_, ?_⟩, ?_⟩
    · exact ⟨.sceneCreated 1 ⟨2⟩ {} [] .manual 1, by decide +kernel, rfl⟩
    · decide +kernel
    · decide +kernel
  | succ n ih =>
    -- add the next beat and remove the last one
    obtain ⟨log, hlog, hreplay⟩ := ih (by omega)
    have hadd := sceneWithBeat_add n
    rw [Nat.mod_eq_of_lt h] at hadd
    obtain ⟨hlog', hreplay'⟩ := hlog.step hreplay (by intro c hc; cases hc) rfl hadd ⟨rfl, rfl, rfl⟩
    obtain ⟨hlog'', hreplay''⟩ := hlog'.step (hreplay'.trans (Eq.refl (sceneWithBeats n (n + 1))))
      (by intro c hc; cases hc) rfl (sceneWithBeats_remove n) ⟨rfl, rfl, rfl⟩
    exact ⟨_, hlog'', hreplay''.trans (sceneWithBeats_removed n)⟩

/-- The beat at `u32::MAX` stays the last one, so the next beat goes to order 0 again. -/
theorem sceneWithBeats_add_again : (sceneWithBeats (2 ^ 32 - 1) 0).handle
        (.addOutfitBeat ⟨1, 3, outfitAt (2 ^ 32), none, 3 + 2 * (2 ^ 32 - 1) + 1⟩) =
      .ok [.outfitBeatAdded 1 3 (outfitAt (2 ^ 32)) 0 none (3 + 2 * (2 ^ 32 - 1) + 2)] := by
  decide +kernel

/-- **TWO BEATS SHARE A ROW.** A character has a beat at `u32::MAX`, and the two beats added after it
are both at order 0. Everything is projected, but the table has one row for the two. -/
theorem beats_share_a_row : ∃ events after, SceneLife emptySceneTables events ∧
      project SceneProjector.handle emptySceneTables events = .ok after ∧
        ¬ after.Shows (Entity.replay SceneAggregate (events.map (·.data))) := by
  obtain ⟨log, hlog, hreplay⟩ := exists_sceneWithBeat (n := 2 ^ 32 - 1) (by omega)
  obtain ⟨hlog', hreplay'⟩ := hlog.step hreplay (by intro c hc; cases hc) rfl
    (sceneWithBeat_add (2 ^ 32 - 1)) ⟨rfl, rfl, rfl⟩
  obtain ⟨hlog'', -⟩ := hlog'.step hreplay' (by intro c hc; cases hc) (by decide +kernel)
    sceneWithBeats_add_again ⟨rfl, rfl, rfl⟩
  obtain ⟨hlife, after, hafter⟩ := hlog''.projected
  refine ⟨_, after, hlife, hafter, ?_⟩
  rw [map_data_recordedAt, replay_concat, hreplay']
  intro hshows
  have hemits : SceneAggregate.Emits (sceneWithBeats (2 ^ 32 - 1) 0)
      (.outfitBeatAdded 1 3 (outfitAt (2 ^ 32)) 0 none (3 + 2 * (2 ^ 32 - 1) + 2)) :=
    .outfitBeatAdded 3 (outfitAt (2 ^ 32)) 0 none (by omega)
  exact SceneProjector.fresh_of_shows hemits rfl hshows (by decide +kernel)

end Breakdown.Projections
