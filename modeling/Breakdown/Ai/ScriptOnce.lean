/-
**EACH THING IS MADE AT MOST ONCE?**

Runs of one preview may overlap and be stopped anywhere. What keeps them from creating a thing
twice is its id: it is derived from the mapping key, so a second create meets the stream of the
first. An outfit beat has no id of its own; it is an event of its scene. What keeps it from being
added twice is its mapping row, confirmed after the append, and, between the two, the scene's
refusal of a beat like the figure's last one. The second works only while no other beat of the
figure comes behind it.

- `pool_inv`: every store that runs of the preview lead to, in whatever turns, is in the invariant;
- `made_at_most_once`: so for every collection of runs a key leads to one creation, and to one beat
  as long as each beat that is sent again is still its figure's last one;
- `beat_added_twice`: a run that is stopped between the append of a beat and its confirmation,
  then one that gives the figure another beat, and the first beat is added again.
-/
import Breakdown.Aggregates.Lifetimes
import Breakdown.Ai.ScriptLinks

namespace Breakdown.Ai

open EventLog Stepwise List

/-! ## §1. Collections of runs -/

/-- Before the first run of the preview: it has no rows, nothing was made for it, and the scenes are
what calls of their adapters led to. -/
structure BeforeRuns (preview : AiImportJobId) (w : ScriptStore) : Prop where
  rows : ∀ key, key.previewId = preview → w.base.mappings key = none
  scenes : ∀ id, Calls SceneAggregate (fun _ _ => True) (w.base.scenes id)
  made : w.made = []

theorem BeforeRuns.fresh (h : BeforeRuns preview w) : FreshStart preview w where
  rows := h.rows
  scenes id hne := by
    have hcalls := h.scenes id
    have hfounded := (hcalls.founded fun cmd _ => SceneAggregate.founds cmd).resolve_left hne
    exact (hcalls.history.counted hfounded).version hne
  made := h.made

/-- The runs of the preview, with whatever request. -/
def RunOf (derive : MappingKey → Uuid) (preview : AiImportJobId) (x : Script ScriptApplyResult) :
    Prop :=
  ∃ env req, env.deriveId = derive ∧ req.previewId = preview ∧ x = applyScript env req

/-- Overlapping runs of the preview keep the invariant. -/
theorem pool_inv (hstart : BeforeRuns preview start)
    (hreach : Pool.Reaches (RunOf derive preview) start pool) :
    ScriptInv derive preview pool.store := by
  have hsafe : ∀ x, RunOf derive preview x → Safe (ScriptInv derive preview) Later x := by
    rintro x ⟨env, req, rfl, rfl, rfl⟩
    exact kept_applyScript
  exact Pool.invariant hsafe (hstart.fresh.inv derive) hreach

/-- **AT MOST ONCE.** Whatever runs of a preview there are, overlapping and stopped anywhere: for a
key only one aggregate gets a creation event. And as long as every beat that is sent again, by a
run that found its key not confirmed, finds itself its figure's last one, a beat key leads to one
beat. -/
theorem made_at_most_once {derive : MappingKey → Uuid} {preview : AiImportJobId}
    {start : ScriptStore} (hstart : BeforeRuns preview start) :
    (∀ pool, Pool.Reaches (RunOf derive preview) start pool →
      ∀ key id id', key.aggregateKind.isBeat = false → (key, id) ∈ pool.store.made →
        (key, id') ∈ pool.store.made → id = id') ∧
    (∀ pool, Pool.Reaches (RunOf derive preview) start pool → AllStillLast pool.store →
      ∀ key, key.aggregateKind.isBeat = true → pool.store.timesMade key ≤ 1) := by
  refine ⟨?_, ?_⟩
  · intro pool hreach key id id' hkind hid hid'
    have hmade := (pool_inv hstart hreach).derived.made
    rw [hmade key id hid hkind, hmade key id' hid' hkind]
  · intro pool hreach
    exact (pool_inv hstart hreach).beats

/-! ## §2. A figure with two looks -/

/-- Ids for the scene, the figure and the two looks of `looksRequest`. -/
def looksEnv : ScriptEnv := { rowEnv with
    deriveId := fun key => match key.aggregateKind with
      | .scene => 1
      | .character => 2
      | .outfit => if key.ordinal = 0 then 10 else 11
      | _ => 5 }

def annasLook (ordinal : Nat) (name : String) : OutfitApplyPlan :=
  ⟨ordinal, "anna", "Anna", name, none, [], none, ordinal, false⟩

/-- One row, with those of Anna's looks that the reviewer accepted. -/
def looksRequest (looks : List OutfitApplyPlan) : ApplyScriptRequest := { annasRequest with
    plan := fun _ => .ok ⟨[{ annasRow with shootingDay := .none, outfits := looks }], []⟩ }

/-- The run that applies these looks. -/
def applyLooks (looks : List OutfitApplyPlan) : Script ScriptApplyResult :=
  applyScript looksEnv (looksRequest looks)

theorem applyLooks_runOf (looks) :
    RunOf looksEnv.deriveId ⟨5⟩ (applyLooks looks) := ⟨_, _, rfl, rfl, rfl⟩

/-- The key of the beat of the first look. -/
def firstBeat : MappingKey := ⟨⟨5⟩, "@character/anna", .sceneOutfitBeat, 0⟩

theorem emptyStore_beforeRuns (preview) : BeforeRuns preview (emptyStore []) where
  rows _ _ := rfl
  scenes _ := .nil
  made := rfl

/-- Two runs are started, and take whatever turns. -/
theorem turns_reached (looks looks') (turns : List Nat) :
    Pool.Reaches (RunOf looksEnv.deriveId ⟨5⟩) (emptyStore [])
      (turns.foldl Pool.turn ⟨emptyStore [], [applyLooks looks, applyLooks looks']⟩) :=
  .turns (.step (.step .nil (.start (applyLooks_runOf _))) (.start (applyLooks_runOf _))) turns

/-- Two runs for both looks, in lockstep. -/
def lockstep : Pool ScriptStore DomainError ScriptApplyResult :=
  (List.replicate 60 [0, 1]).flatten.foldl Pool.turn
    ⟨emptyStore [], [applyLooks [annasLook 0 "Rot", annasLook 1 "Blau"],
      applyLooks [annasLook 0 "Rot", annasLook 1 "Blau"]]⟩

/-- A run for the first look that is stopped right after the append of its beat, and then the same
request again. -/
def applyAgain : Pool ScriptStore DomainError ScriptApplyResult :=
  (List.replicate 21 0 ++ List.replicate 60 1).foldl Pool.turn
    ⟨emptyStore [], [applyLooks [annasLook 0 "Rot"], applyLooks [annasLook 0 "Rot"]]⟩

instance : ∀ d : SceneDispatch, Decidable d.StillLast := by
  rintro ⟨cmd⟩
  cases cmd with
  | addOutfitBeat => exact inferInstanceAs (Decidable (_ → ∃ beat ∈ _, _))
  | _ => exact .isTrue trivial

instance (w : ScriptStore) : Decidable (AllStillLast w) :=
  inferInstanceAs (Decidable (∀ d ∈ w.sent, _))

/-- In lockstep two runs create the scene once. And the run that starts with an appended beat that
was never confirmed sends it again, and adds no second one. -/
theorem made_at_most_once_looks : (⟨⟨⟨5⟩, "scene:1", .scene, 0⟩, 1⟩ ∈ lockstep.store.made ∧
      ∀ id, ⟨⟨⟨5⟩, "scene:1", .scene, 0⟩, id⟩ ∈ lockstep.store.made → id = 1) ∧
    ((∃ d ∈ applyAgain.store.sent, d.again = true) ∧ AllStillLast applyAgain.store ∧
      applyAgain.store.timesMade firstBeat ≤ 1) := by
  have honce := @made_at_most_once looksEnv.deriveId _ _ (emptyStore_beforeRuns ⟨5⟩)
  have hscene : ⟨⟨⟨5⟩, "scene:1", .scene, 0⟩, 1⟩ ∈ lockstep.store.made := by decide +kernel
  have hlast : AllStillLast applyAgain.store := by decide +kernel
  refine ⟨⟨hscene, fun id hid => ?_⟩, by decide +kernel, hlast, ?_⟩
  · exact honce.1 lockstep (turns_reached ..) _ id 1 rfl hid hscene
  · exact honce.2 applyAgain (turns_reached ..) hlast firstBeat rfl

/-- What a run for the first look leaves that is stopped right after the append of its beat, then one
for the second look, then one for the first look again. -/
def threeRuns : ScriptStore :=
  (applyLooks [annasLook 0 "Rot"]).store ((applyLooks [annasLook 1 "Blau"]).store
    ((applyLooks [annasLook 0 "Rot"]).after (emptyStore []) 15))

/-- **A BEAT IS ADDED TWICE.** The three runs do not overlap and nobody else is there; the reviewer
accepted one look in the first run, the other in the second and the first again in the third.
Look 10 is added, then look 11, then look 10 again, both times under its one key. -/
theorem beat_added_twice :
    BeforeRuns ⟨5⟩ (emptyStore []) ∧ Earlier looksEnv.deriveId ⟨5⟩ (emptyStore []) threeRuns ∧
      threeRuns.timesMade firstBeat = 2 ∧
      (Entity.replay SceneAggregate (threeRuns.base.scenes 1)).outfitBeats.map (·.outfitId) =
        [10, 11, 10] := by
  refine ⟨emptyStore_beforeRuns _, ?_, by decide +kernel, by decide +kernel⟩
  refine .run (.run (.run .start rfl rfl (after_mem_stops _ _ 15)) rfl rfl (store_mem_stops _ _))
    rfl rfl (store_mem_stops _ _)

end Breakdown.Ai
