/-
**WHICH AGGREGATE AN EVENT NAMES.**

Every event carries the id of its aggregate, and a projector that keeps a row per event or per aggregate
takes the id from there. A create names the id of its command; every other handler copies the id of
the state it decides on, and only a creation changes the id of a state. So a stream that starts with
its creation is about one aggregate from its first event to its last.

- `History.rising`: the versions rise along a stream, whether or not it starts with its creation;
- `History.named`: a stream that starts with its creation names one aggregate.
-/
import Breakdown.Projections.Scene
import Breakdown.Projections.SceneShoot

namespace Breakdown

open Fallible Versioned LawfulVersioned

/-! ## §1. Versions rise -/

section Rising

variable {σ ε κ χ : Type} [Entity σ ε κ χ] [Versioned σ ε κ χ]

theorem Continues.rising {version} (h : Continues σ version events) :
    events.Pairwise fun a b => eventVersion σ a < eventVersion σ b := by
  rw [List.pairwise_iff_getElem]
  intro i j hi hj hij
  rw [(h i _ (List.getElem?_eq_getElem hi)).1, (h j _ (List.getElem?_eq_getElem hj)).1]
  omega

/-- The versions of the events lie above the one they continue, and up to the one they lead to. -/
theorem Continues.bounds [LawfulVersioned σ ε κ χ]
    (h : Continues σ (version (Entity.replay σ log)) events) (he : e ∈ events) :
    version (Entity.replay σ log) < eventVersion σ e ∧
      eventVersion σ e ≤ version (Entity.replay σ (log ++ events)) := by
  obtain ⟨k, hk⟩ := List.getElem?_of_mem he
  have hversion := (h k e hk).1
  have hlt := (List.getElem?_eq_some_iff.mp hk).1
  -- the last event carries the version of the new state
  obtain ⟨init, last, rfl⟩ := List.eq_nil_or_concat events |>.resolve_left (List.ne_nil_of_mem he)
  have hlast := (h init.length last (by simp)).1
  rw [List.concat_eq_append, ← List.append_assoc, version_replay]
  simp only [List.concat_eq_append, List.length_append, List.length_singleton] at hlt
  omega

/-- **THE VERSIONS RISE ALONG EVERY STREAM.** -/
theorem History.rising [LawfulVersioned σ ε κ χ] (h : History σ log) :
    log.Pairwise fun a b => eventVersion σ a < eventVersion σ b := by
  -- together with: no event is above the state
  suffices hboth : (log.Pairwise fun a b => eventVersion σ a < eventVersion σ b) ∧
      ∀ e ∈ log, eventVersion σ e ≤ version (Entity.replay σ log) from hboth.1
  induction h with
  | nil => exact ⟨.nil, by simp⟩
  | @step log expected cmd events before hsent hdecided ih =>
    obtain ⟨hrising, hbelow⟩ := ih
    by_cases hcmd : dispatching σ cmd = .create
    · -- a create went to an empty stream, and is alone in it
      obtain rfl : log = [] := by
        have hsat := hdecided.satisfied
        rw [hsent hcmd] at hsat
        simpa using hsat
      obtain ⟨e, rfl, -, -⟩ := (create_ends hcmd).ok hdecided.handled
      refine ⟨List.pairwise_singleton _ _, fun e' he => ?_⟩
      obtain rfl := List.mem_singleton.mp he
      exact le_of_eq (version_replay [] e').symm
    · have hcontinues := (handle_ends hcmd).ok hdecided.handled
      refine ⟨List.pairwise_append.mpr ⟨hrising, hcontinues.rising, fun a ha b hb => ?_⟩,
        fun e he => ?_⟩
      · exact lt_of_le_of_lt (hbelow a ha) (hcontinues.bounds hb).1
      · obtain ⟨last, hlast⟩ := List.exists_mem_of_ne_nil events hdecided.nonempty
        have hend := hcontinues.bounds hlast
        obtain he | he := List.mem_append.mp he
        · have hstart := hbelow e he
          omega
        · exact (hcontinues.bounds he).2

end Rising

/-! ## §2. Streams that name one aggregate -/

/-- An aggregate with an id that its events carry. -/
class Identified (σ : Type) (ε κ χ : outParam Type) [Entity σ ε κ χ] where
  id : σ → Uuid
  eventId : ε → Uuid

/-- Only a creation gives a state its id, and the handlers copy it. -/
class LawfulIdentified (σ : Type) (ε κ χ : outParam Type) [Entity σ ε κ χ] [Versioned σ ε κ χ]
    [Identified σ ε κ χ] : Prop where
  id_creation : ∀ (s : σ) (e : ε), isCreation σ e = true →
    Identified.id (Entity.apply s e) = Identified.eventId σ e := by
      intro s e h
      cases e <;> first | rfl | cases h
  id_apply : ∀ (s : σ) (e : ε), isCreation σ e = false →
    Identified.id (Entity.apply s e) = Identified.id s := by
      intro s e h
      cases e <;> first | rfl | cases h
  handle_ends : ∀ {s : σ} {cmd : κ}, dispatching σ cmd ≠ .create →
    Ends (fun events => ∀ e ∈ events, Identified.eventId σ e = Identified.id s) (fun _ => True)
      (Entity.handle s cmd) := by
        intro s cmd hcmd
        cases cmd <;> first | exact absurd rfl hcmd | simp

section Named

variable {σ ε κ χ : Type} [Entity σ ε κ χ] [Versioned σ ε κ χ] [Identified σ ε κ χ]
  [LawfulIdentified σ ε κ χ]

theorem id_replay_append (h : ∀ e ∈ events, isCreation σ e = false) :
    Identified.id (Entity.replay σ (log ++ events)) = Identified.id (Entity.replay σ log) := by
  induction events using List.reverseRecOn with
  | nil => rw [List.append_nil]
  | append_singleton events e ih =>
    rw [← List.append_assoc, replay_concat, LawfulIdentified.id_apply _ _ (h e (by simp))]
    exact ih fun e' he' => h e' (List.mem_append_left _ he')

/-- **A STREAM THAT STARTS WITH ITS CREATION NAMES ONE AGGREGATE.** -/
theorem History.named [LawfulVersioned σ ε κ χ] (h : History σ log) (hfounded : Founded σ log)
    (he : e ∈ log) : Identified.eventId σ e = Identified.id (Entity.replay σ log) := by
  refine h.rule (P := fun log => ∀ e ∈ log,
    Identified.eventId σ e = Identified.id (Entity.replay σ log)) hfounded ?_ ?_ e he
  · intro cmd events hcmd hhandle e he
    obtain ⟨first, rfl, -, hcreation⟩ := (create_ends hcmd).ok hhandle
    obtain rfl := List.mem_singleton.mp he
    exact (LawfulIdentified.id_creation _ _ hcreation).symm
  · intro log cmd events _ hnamed hcmd hhandle e he
    rw [id_replay_append fun e he => isCreation_of_handle hcmd hhandle he]
    obtain he | he := List.mem_append.mp he
    · exact hnamed e he
    · exact (LawfulIdentified.handle_ends hcmd).ok hhandle e he

/-- All events of such a stream name the aggregate its first event names. -/
theorem History.named_first [LawfulVersioned σ ε κ χ] {name} (h : History σ log)
    (hfounded : Founded σ log) (hfirst : ∀ e ∈ log.head?, Identified.eventId σ e = name) (he : e ∈ log) :
    Identified.eventId σ e = name := by
  have ⟨first, hhead, _⟩ := hfounded
  rw [h.named hfounded he, ← h.named hfounded (List.mem_of_mem_head? hhead)]
  exact hfirst first hhead

end Named

/-- The stream of one aggregate: accepted commands, the first of them its creation under its id. -/
structure NamedStream (σ : Type) {ε κ χ : Type} [Entity σ ε κ χ] [Versioned σ ε κ χ]
    [Identified σ ε κ χ] (id : Uuid) (log : List ε) : Prop where
  history : History σ log
  founded : log ≠ [] → Founded σ log
  first : ∀ e ∈ log.head?, Identified.eventId σ e = id

namespace NamedStream

variable {σ ε κ χ : Type} [Entity σ ε κ χ] [Versioned σ ε κ χ] [Identified σ ε κ χ] {id : Uuid}
  {log events : List ε}

theorem nil (id) : NamedStream σ id [] := ⟨.nil, fun h => absurd rfl h, nofun⟩

/-- One more accepted command on a stream that is not empty. -/
theorem append (h : NamedStream σ id log) (hne : log ≠ [])
    (hcreate : dispatching σ cmd = .create → expected = .empty)
    (hdecided : Decided σ log expected cmd events) : NamedStream σ id (log ++ events) where
  history := .step h.history hcreate hdecided
  founded _ := (h.founded hne).append events
  first := by
    rw [List.head?_append_of_ne_nil _ hne]
    exact h.first

variable [LawfulVersioned σ ε κ χ]

/-- One more call of an adapter; a creation carries the id of the stream. -/
theorem call (h : NamedStream σ id log) (hexpected : expectation σ cmd = .ok expected)
    (hfounds : Founds σ cmd) (hdecided : Decided σ log expected cmd events)
    (hid : ∀ e ∈ events, isCreation σ e = true → Identified.eventId σ e = id) :
    NamedStream σ id (log ++ events) := by
  have hcreate := empty_of_create hexpected
  by_cases hnil : log = []
  · subst hnil
    obtain ⟨first, hhead, hcreation⟩ := founded_of_decided hexpected hfounds hdecided
    refine ⟨.step .nil hcreate hdecided, fun _ => ⟨first, hhead, hcreation⟩, fun e he => ?_⟩
    obtain rfl : e = first := Option.some.inj (he.symm.trans hhead)
    exact hid e (List.mem_of_mem_head? hhead) hcreation
  · exact h.append hnil hcreate hdecided

variable [LawfulIdentified σ ε κ χ]

theorem names (h : NamedStream σ id log) (he : e ∈ log) : Identified.eventId σ e = id :=
  h.history.named_first (h.founded (List.ne_nil_of_mem he)) h.first he

theorem entity_id (h : NamedStream σ id log) (hne : log ≠ []) :
    Identified.id (Entity.replay σ log) = id := by
  obtain ⟨e, he⟩ := List.exists_mem_of_ne_nil log hne
  rw [← h.history.named (h.founded hne) he, h.names he]

end NamedStream

/-! ## §3. The twelve kinds, and the aggregate an event of each names -/

attribute [simp] Identified.id Identified.eventId
attribute [local simp] Entity.handle SceneEvent.id SceneShootEvent.id PieceEvent.id OutfitEvent.id

@[simp] def SeasonEvent.id : SeasonEvent → Uuid
  | .seasonCreated id .. | .seasonRenamed id .. | .seasonArchived id _ => id

@[simp] def BlockEvent.id : BlockEvent → Uuid
  | .blockCreated id .. | .blockTimeSpanUpdated id .. => id

@[simp] def EpisodeEvent.id : EpisodeEvent → Uuid
  | .episodeCreated id .. | .episodeRenamed id .. | .episodeDeleted id _ => id

@[simp] def ShootingDayEvent.id : ShootingDayEvent → ShootingDayId
  | .shootingDayCreated id .. | .shootingDayRenamed id .. | .shootingDayRescheduled id ..
  | .shootingDayReordered id .. | .shootingDayArchived id _ | .shootingDayWrapped id ..
  | .shootingDayDeleted id _ => id

@[simp] def CharacterEvent.id : CharacterEvent → Uuid
  | .characterCreated id .. | .measurementsUpdated id .. | .contactInfoUpdated id ..
  | .categoryChanged id .. | .characterDeleted id _ => id

@[simp] def CostumeCategoryEvent.id : CostumeCategoryEvent → Uuid
  | .costumeCategoryCreated id .. | .costumeCategoryRenamed id .. | .costumeCategoryReordered id ..
  | .costumeCategoryArchived id _ => id

@[simp] def SettingsEvent.id : SettingsEvent → Uuid
  | .credentialBound id .. | .credentialRotated id .. | .credentialRevoked id _ => id

instance : Identified SeasonAggregate _ _ _ := ⟨SeasonAggregate.id, SeasonEvent.id⟩

instance : Identified BlockAggregate _ _ _ := ⟨BlockAggregate.id, BlockEvent.id⟩

instance : Identified EpisodeAggregate _ _ _ := ⟨EpisodeAggregate.id, EpisodeEvent.id⟩

instance : Identified SceneAggregate _ _ _ := ⟨SceneAggregate.id, SceneEvent.id⟩

instance : Identified SceneShootAggregate _ _ _ := ⟨fun self => self.id.uuid, fun e => e.id.uuid⟩

instance : Identified ShootingDayAggregate _ _ _ := ⟨fun self => self.id.uuid, fun e => e.id.uuid⟩

instance : Identified CharacterAggregate _ _ _ := ⟨CharacterAggregate.id, CharacterEvent.id⟩

instance : Identified PieceAggregate _ _ _ := ⟨PieceAggregate.id, PieceEvent.id⟩

instance : Identified OutfitAggregate _ _ _ := ⟨OutfitAggregate.id, OutfitEvent.id⟩

instance : Identified CostumeCategoryAggregate _ _ _ :=
  ⟨CostumeCategoryAggregate.id, CostumeCategoryEvent.id⟩

instance : Identified PhotoAggregate _ _ _ := ⟨fun self => self.id.uuid, fun e => e.id.uuid⟩

instance : Identified SettingsAggregate _ _ _ := ⟨SettingsAggregate.id, fun e => e.data.id⟩

open SeasonAggregate in
instance : LawfulIdentified SeasonAggregate _ _ _ := {}

open BlockAggregate in
instance : LawfulIdentified BlockAggregate _ _ _ := {}

open EpisodeAggregate in
instance : LawfulIdentified EpisodeAggregate _ _ _ := {}

open SceneAggregate in
instance : LawfulIdentified SceneAggregate _ _ _ where
  handle_ends {s cmd} hcmd := by
    cases cmd with
    | create => exact absurd rfl hcmd
    | removeOutfitBeat c =>
      -- one beat, or all of the character
      obtain ⟨id, characterId, _ | order, version⟩ := c <;> simp
    | _ => simp

open SceneShootAggregate in
instance : LawfulIdentified SceneShootAggregate _ _ _ := {}

open ShootingDayAggregate in
instance : LawfulIdentified ShootingDayAggregate _ _ _ := {}

open CharacterAggregate in
instance : LawfulIdentified CharacterAggregate _ _ _ := {}

open PieceAggregate in
instance : LawfulIdentified PieceAggregate _ _ _ := {}

open OutfitAggregate in
instance : LawfulIdentified OutfitAggregate _ _ _ := {}

open CostumeCategoryAggregate in
instance : LawfulIdentified CostumeCategoryAggregate _ _ _ := {}

open PhotoAggregate in
instance : LawfulIdentified PhotoAggregate _ _ _ := {}

open SettingsAggregate in
instance : LawfulIdentified SettingsAggregate _ _ _ where
  id_creation s e h := by
    obtain ⟨data, actor⟩ := e
    cases data <;> first | rfl | cases h
  id_apply s e h := by
    obtain ⟨data, actor⟩ := e
    cases data <;> first | rfl | cases h
  handle_ends {s dispatch} hcmd := by
    obtain ⟨actor, cmd⟩ := dispatch
    cases cmd with
    | create => exact absurd rfl hcmd
    | _ => simp [entity_handle, -Entity.handle]

end Breakdown
