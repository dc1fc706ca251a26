/-
**CHILDREN WITH IDS OF THE CLIENT**: the notes of a scene shoot and
the details of a piece.

A child is added under an id that the client chose, and later updated and removed by naming it. No
handler looks whether the id is taken, so a request that is sent twice leaves two children of one
id, and an update or removal means both of them — or the first one, depending on who reads it.

- `ChildList.nodup_iff`: the ids stay distinct exactly when no child is added under an id that
  is there;
- `child_ids_unique`: so for notes and for details, in every history;
- `same_child_twice`: nothing keeps a client from adding the same child again.
-/
import Breakdown.Aggregates.ShootLifecycle
import Breakdown.Aggregates.WardrobeRuns

namespace Breakdown

open List Entity

/-! ## §1. Lists of children -/

section Children

variable {σ ε κ χ : Type} [Entity σ ε κ χ]

/-- A list of children that starts empty, grows at its end and otherwise only shrinks. -/
structure ChildList (First : ε → Prop) (Emits : σ → ε → Prop) (α : Type) where
  /-- The ids of the children, in order. -/
  ids : σ → List α
  /-- The id of the child an event adds. -/
  added : ε → Option α
  init : ids init = []
  first : ∀ {e}, First e → added e = none ∧ ids (Entity.apply Entity.init e) = []
  add : ∀ {s e a}, Emits s e → added e = some a → ids (apply s e) = ids s ++ [a]
  keep : ∀ {s e}, Emits s e → added e = none → (ids (apply s e)).Sublist (ids s)

namespace ChildList

variable {First : ε → Prop} {Emits : σ → ε → Prop} {α : Type}

/-- No child is added under an id that is there. -/
def Fresh (children : ChildList First Emits α) (log : List ε) : Prop :=
  ∀ pre e post a, log = pre ++ e :: post → children.added e = some a →
    a ∉ children.ids (replay σ pre)

/-- The ids of all children ever added. -/
def everAdded (children : ChildList First Emits α) (log : List ε) : List α :=
  log.filterMap children.added

variable {log : List ε}

theorem Fresh.shorter {children : ChildList First Emits α} (h : children.Fresh log)
    (hpre : pre <+: log) : children.Fresh pre := by
  obtain ⟨rest, rfl⟩ := hpre
  intro before e post a hsplit hadded
  exact h before e (post ++ rest) a (by rw [hsplit]; simp) hadded

theorem nodup_of_fresh (children : ChildList First Emits α) (h : EventRun First Emits log)
    (hfresh : children.Fresh log) : (children.ids (replay σ log)).Nodup := by
  induction h with
  | first hfirst =>
    show (children.ids (Entity.apply Entity.init _)).Nodup
    rw [(children.first hfirst).2]
    exact .nil
  | @step log e before hemits ih =>
    have hnodup := ih (hfresh.shorter (prefix_append log [e]))
    rw [replay_concat]
    -- an event adds one id at the end, or takes some out
    cases hadded : children.added e with
    | none => exact hnodup.sublist (children.keep hemits hadded)
    | some a =>
      rw [children.add hemits hadded]
      have hnew := hfresh log e [] a rfl hadded
      exact hnodup.append (nodup_singleton a) (by simpa using hnew)

/-- **THE IDS STAY DISTINCT EXACTLY WHEN NO CHILD IS ADDED UNDER AN ID THAT IS THERE.** -/
theorem nodup_iff (children : ChildList First Emits α) (h : EventRun First Emits log) :
    (∀ pre, pre <+: log → (children.ids (replay σ pre)).Nodup) ↔ children.Fresh log := by
  constructor
  · intro hnodup pre e post a hlog hadded
    by_cases hne : pre = []
    · -- the first event adds no child
      subst hne
      rw [(children.first (h.starts hlog)).1] at hadded
      cases hadded
    · have hafter := hnodup (pre ++ [e]) ⟨post, by rw [hlog]; simp⟩
      rw [replay_concat, children.add (h.emits hlog hne) hadded] at hafter
      have hdisjoint := disjoint_of_nodup_append hafter
      exact fun hmem => hdisjoint hmem (mem_singleton_self a)
  · intro hfresh pre hpre
    by_cases hne : pre = []
    · subst hne
      show (children.ids Entity.init).Nodup
      rw [children.init]
      exact .nil
    · exact children.nodup_of_fresh (h.shorter hpre hne) (hfresh.shorter hpre)

/-- What is there was added. -/
theorem ids_subset (children : ChildList First Emits α) (h : EventRun First Emits log)
    (ha : a ∈ children.ids (replay σ log)) : a ∈ children.everAdded log := by
  unfold everAdded
  induction h with
  | first hfirst =>
    have hnil : children.ids (Entity.apply Entity.init _) = [] := (children.first hfirst).2
    rw [show Entity.replay σ _ = Entity.apply Entity.init _ from rfl, hnil] at ha
    cases ha
  | @step log e before hemits ih =>
    rw [replay_concat] at ha
    rw [filterMap_append, mem_append]
    cases hadded : children.added e with
    | none => exact .inl (ih ((children.keep hemits hadded).subset ha))
    | some =>
      rw [children.add hemits hadded, mem_append, mem_singleton] at ha
      obtain ha | rfl := ha
      · exact .inl (ih ha)
      · exact .inr (by simp [hadded])

/-- Ids that are used once are free when they are used. -/
theorem fresh_of_distinct (children : ChildList First Emits α) (h : EventRun First Emits log)
    (hdistinct : (children.everAdded log).Nodup) : children.Fresh log := by
  -- an id that is there was added before, and then it is added twice
  intro pre e post a hlog hadded hmem
  have hne : pre ≠ [] := by
    rintro rfl
    rw [show Entity.replay σ [] = Entity.init from rfl, children.init] at hmem
    cases hmem
  have hbefore := children.ids_subset (h.shorter ⟨e :: post, hlog.symm⟩ hne) hmem
  unfold everAdded at hdistinct hbefore
  rw [hlog, filterMap_append, filterMap_cons_some hadded] at hdistinct
  exact disjoint_of_nodup_append hdistinct hbefore mem_cons_self

end ChildList

end Children

/-! ## §2. Notes and details -/

/-- The note an event adds. -/
def SceneShootEvent.addedNote : SceneShootEvent → Option Uuid
  | .shootDayNoteAdded _ noteId _ _ _ => some noteId
  | _ => none

/-- The detail an event adds. -/
def PieceEvent.addedDetail : PieceEvent → Option Uuid
  | .pieceDetailAdded _ detail _ => some detail.id
  | _ => none

theorem SceneShootAggregate.map_id_updateFirstNote (noteId body notes) :
    (updateFirstNote noteId body notes).map (·.id) = notes.map (·.id) := by
  induction notes with
  | nil => rfl
  | cons note rest ih =>
    unfold updateFirstNote
    split
    · rfl
    · rw [map_cons, map_cons, ih]

theorem PieceAggregate.map_id_upsertDetail {details} (hmem : detail.id ∈ details.map (·.id)) :
    (upsertDetail detail details).map (·.id) = details.map (·.id) := by
  induction details with
  | nil => cases hmem
  | cons existing rest ih =>
    unfold upsertDetail
    split
    · next heq => rw [map_cons, map_cons, heq]
    · next hne =>
      rw [map_cons, mem_cons] at hmem
      rw [map_cons, map_cons, ih (hmem.resolve_left (Ne.symm hne))]

/-- The notes of a scene shoot. -/
def shootNotes : ChildList SceneShootEvent.Founds SceneShootAggregate.Records Uuid where
  ids shoot := shoot.notes.map (·.id)
  added := SceneShootEvent.addedNote
  init := rfl
  first := by
    rintro e ⟨cmd⟩
    exact ⟨rfl, rfl⟩
  add := by
    rintro shoot e a ⟨-, hemits⟩ hadded
    cases hemits with
    | noteAdded =>
      cases hadded
      exact List.map_append
    | _ => cases hadded
  keep := by
    rintro shoot e ⟨-, hemits⟩ hadded
    cases hemits with
    | noteAdded => cases hadded
    | noteRemoved => exact List.filter_sublist.map _
    -- an update keeps the ids in their places
    | noteUpdated noteId body =>
      show ((SceneShootAggregate.updateFirstNote noteId body shoot.notes).map (·.id)).Sublist _
      rw [SceneShootAggregate.map_id_updateFirstNote]
    | _ => exact .refl _

/-- The details of a piece. -/
def pieceDetails : ChildList PieceEvent.Founds PieceAggregate.Records Uuid where
  ids piece := piece.details.map (·.id)
  added := PieceEvent.addedDetail
  init := rfl
  first := by
    rintro e ⟨id, name, categoryId, seasonId⟩
    exact ⟨rfl, rfl⟩
  add := by
    rintro piece e a ⟨-, hemits⟩ hadded
    cases hemits with
    | detailAdded =>
      cases hadded
      exact List.map_append
    | _ => cases hadded
  keep := by
    rintro piece e ⟨-, hemits⟩ hadded
    cases hemits with
    | detailAdded => cases hadded
    | detailRemoved => exact List.filter_sublist.map _
    | detailUpdated detail hmem =>
      show ((PieceAggregate.upsertDetail detail piece.details).map (·.id)).Sublist _
      rw [PieceAggregate.map_id_upsertDetail hmem]
    | _ => exact .refl _

/-! ## §3. Distinct ids -/

/-- No id twice, so whoever names one of the ids means exactly one child. -/
structure UniqueIds (ids : List Uuid) : Prop where
  distinct : ids.Nodup
  one : ∀ id ∈ ids, ids.count id = 1

theorem uniqueIds_iff {ids} : UniqueIds ids ↔ ids.Nodup :=
  ⟨UniqueIds.distinct, fun h => ⟨h, fun _ hmem => count_eq_one_of_mem h hmem⟩⟩

/-- **CHILD IDS STAY UNIQUE EXACTLY WHEN CLIENTS KEEP THEM UNIQUE**: after every event of a history,
no two notes of the scene shoot and no two details of the piece have the same id, if and only if
no note and no detail is added under an id that is there. -/
theorem child_ids_unique {shoot : List SceneShootEvent} {piece : List PieceEvent}
    (hshoot : History SceneShootAggregate shoot) (hplanned : Founded SceneShootAggregate shoot)
    (hpiece : History PieceAggregate piece) (hcreated : Founded PieceAggregate piece) :
    ((∀ pre, pre <+: shoot → UniqueIds ((Entity.replay SceneShootAggregate pre).notes.map (·.id))) ↔
      ∀ pre e post noteId, shoot = pre ++ e :: post → e.addedNote = some noteId →
        noteId ∉ (Entity.replay SceneShootAggregate pre).notes.map (·.id)) ∧
    ((∀ pre, pre <+: piece → UniqueIds ((Entity.replay PieceAggregate pre).details.map (·.id))) ↔
      ∀ pre e post detailId, piece = pre ++ e :: post → e.addedDetail = some detailId →
        detailId ∉ (Entity.replay PieceAggregate pre).details.map (·.id)) := by
  simp only [uniqueIds_iff]
  exact ⟨shootNotes.nodup_iff (shootRun_of_history hshoot hplanned),
    pieceDetails.nodup_iff (pieceRun_of_history hpiece hcreated)⟩

/-- A scene shoot with the notes of one request. -/
def annotatedShoot (noteIds : List Uuid) : List SceneShootEvent :=
  callAll SceneShootAggregate (.plan ⟨⟨⟨1⟩⟩, ⟨2⟩, ⟨⟨3⟩⟩, ⟨"a"⟩⟩ ::
    noteIds.map fun noteId => .addNote ⟨⟨⟨1⟩⟩, ⟨⟨3⟩⟩, noteId, "Kragen offen", none⟩)

/-- A piece with details, one after the other. -/
def detailedPiece (detailIds : List Uuid) : List PieceEvent :=
  callAll PieceAggregate (.create ⟨1, "Mantel", none, none⟩ ::
    detailIds.zipIdx.map fun (detailId, k) => .addDetail ⟨1, ⟨detailId, none, "Knopf fehlt"⟩, k + 1⟩)

theorem child_ids_unique_two : (∀ pre, pre <+: annotatedShoot [4, 5] →
        UniqueIds ((Entity.replay SceneShootAggregate pre).notes.map (·.id))) ∧
      ∀ pre, pre <+: detailedPiece [4, 5] →
        UniqueIds ((Entity.replay PieceAggregate pre).details.map (·.id)) := by
  have hshoot : History SceneShootAggregate (annotatedShoot [4, 5]) := (calls_callAll _).history
  have hplanned : Founded SceneShootAggregate (annotatedShoot [4, 5]) :=
    ⟨.sceneShootPlanned ⟨⟨1⟩⟩ ⟨2⟩ ⟨⟨3⟩⟩ ⟨"a"⟩ .planned 1, by decide +kernel, rfl⟩
  have hpiece : History PieceAggregate (detailedPiece [4, 5]) := (calls_callAll _).history
  have hcreated : Founded PieceAggregate (detailedPiece [4, 5]) :=
    ⟨.pieceCreated 1 "Mantel" none none "" [] [] 1, by decide +kernel, rfl⟩
  obtain ⟨hnotes, hdetails⟩ := child_ids_unique hshoot hplanned hpiece hcreated
  exact ⟨hnotes.mpr (shootNotes.fresh_of_distinct (shootRun_of_history hshoot hplanned)
      (by decide +kernel)),
    hdetails.mpr (pieceDetails.fresh_of_distinct (pieceRun_of_history hpiece hcreated)
      (by decide +kernel))⟩

/-- **THE SAME CHILD TWICE.** Nobody refuses a second note or a second detail with the id of the
first one, and then the id means two children. -/
theorem same_child_twice : (History SceneShootAggregate (annotatedShoot [4, 4]) ∧
      (Entity.replay SceneShootAggregate (annotatedShoot [4, 4])).notes.map (·.id) = [4, 4] ∧
      ¬ UniqueIds ((Entity.replay SceneShootAggregate (annotatedShoot [4, 4])).notes.map (·.id))) ∧
    (History PieceAggregate (detailedPiece [4, 4]) ∧
      (Entity.replay PieceAggregate (detailedPiece [4, 4])).details.map (·.id) = [4, 4] ∧
      ¬ UniqueIds ((Entity.replay PieceAggregate (detailedPiece [4, 4])).details.map (·.id))) := by
  have hnotes : (replay SceneShootAggregate (annotatedShoot [4, 4])).notes.map (·.id) =
      [4, 4] := by decide +kernel
  have hdetails : (replay PieceAggregate (detailedPiece [4, 4])).details.map (·.id) =
      [4, 4] := by decide +kernel
  have htwice : ¬ UniqueIds [4, 4] := by
    rw [uniqueIds_iff]
    decide
  refine ⟨⟨(calls_callAll _).history, hnotes, ?_⟩, (calls_callAll _).history, hdetails, ?_⟩
  · rw [hnotes]
    exact htwice
  · rw [hdetails]
    exact htwice

end Breakdown
