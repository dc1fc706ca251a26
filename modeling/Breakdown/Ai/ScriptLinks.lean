/-
**APPLIED MEANS LINKED?**

A script apply that answers Ok says of every planned row that its figures play in its scene and
that its scene is on its shooting day. The worker sends each link once, with the scene version it
believes in. If somebody else wrote to the scene in between, the conflict names the version the
stream has reached, and the worker goes on from there — without the link. It does the same when the
actor it asks has not seen the newest events and takes the right version for a wrong one.

- `applied_means_linked`: as long as no linking command was overtaken and none was answered by an
  actor that lags, in this run or an earlier one, every row of a successful run is linked;
- `overtaken_links_are_lost`: one edit by somebody else between two commands of the worker, and
  the figure is not in the scene although the run succeeds; another one, and neither is the day.
-/
import Breakdown.Ai.ScriptRun

namespace Breakdown.Ai

open EventLog Stepwise

/-! ## §1. Runs of one preview -/

/-- Before the first run: nothing of the preview is applied, and the scenes number their events. -/
structure FreshStart (preview : AiImportJobId) (w : ScriptStore) : Prop where
  rows : ∀ key, key.previewId = preview → w.base.mappings key = none
  scenes : ∀ id, w.base.scenes id ≠ [] → Numbered (w.base.scenes id)
  made : w.made = []

/-- What runs of the preview leave behind, one after the other, each of them completed or stopped
anywhere, and what others do between them. -/
inductive Earlier (derive : MappingKey → Uuid) (preview : AiImportJobId) (start : ScriptStore) :
    ScriptStore → Prop
  | start : Earlier derive preview start start
  | run {w t : ScriptStore} {env : ScriptEnv} {req : ApplyScriptRequest}
      (before : Earlier derive preview start w) (hderive : env.deriveId = derive)
      (hpreview : req.previewId = preview) (hstop : t ∈ (applyScript env req).stops w) :
      Earlier derive preview start t
  | others {w : ScriptStore} (before : Earlier derive preview start w) :
      Earlier derive preview start w.othersAct

theorem FreshStart.inv (h : FreshStart preview w) (derive : MappingKey → Uuid) :
    ScriptInv derive preview w where
  links _ := by
    refine ⟨h.scenes, ?_⟩
    rintro p ⟨row, hrow, -⟩
    rw [h.rows _ rfl] at hrow
    cases hrow
  derived := by
    refine ⟨?_, ?_⟩
    · intro key row hkey hrow
      rw [h.rows key hkey] at hrow
      cases hrow
    · intro key id hmem
      rw [h.made] at hmem
      cases hmem
  beats _ key _ := by
    unfold ScriptStore.timesMade
    rw [h.made]
    exact Nat.zero_le 1

/-- Every store between two runs is in the invariant. -/
theorem Earlier.inv {start} (h : Earlier derive preview start w)
    (hstart : ScriptInv derive preview start) : ScriptInv derive preview w := by
  induction h with
  | start => exact hstart
  | others _ ih => exact ih.othersAct.2
  | @run w t env req _ hderive hpreview hstop ih =>
    subst hderive hpreview
    have hwp := wp_of_wpi (kept_applyScript.wpi w) ih
    exact (stops_of_wp hwp ⟨Later.refl w, ih⟩ t hstop).2

/-! ## §2. Applied and linked -/

section Linked

variable {env : ScriptEnv} {req : ApplyScriptRequest} {w : ScriptStore}

/-- The run itself, with the plan it made at the start. -/
theorem wp_runScriptApply (hI : ScriptInv env.deriveId req.previewId w) :
    wp (fun t => Later w t ∧ ScriptInv env.deriveId req.previewId t) (runScriptApply env req)
      (fun r t => ∀ locals, r = .ok locals → ∃ plan, req.plan w.base.mappings = .ok plan ∧
        (AllMet t → List.Forall₂ (RowLinked locals t) plan.scenes locals.result.applied)) w := by
  unfold runScriptApply
  rw [wp_bind, wp_read]
  dsimp only
  rw [wp_bind, wp_ofExcept]
  cases hplan : req.plan w.base.mappings with
  | error =>
    intro locals h
    cases h
  | ok plan =>
    refine wp_bind.mpr (wp_mono (wp_of_wpi (grants_rows plan w) hI) ?_)
    intro r t hrows
    cases r with
    | error =>
      intro locals h
      cases h
    | ok locals =>
      dsimp only
      rw [wp_bind, wp_ofExcept]
      split
      · rw [wp_pure]
        intro locals' h
        cases h
        exact ⟨plan, rfl, hrows locals rfl⟩
      · exact nofun

/-- **APPLIED MEANS LINKED, UNLESS A LINK WAS OVERTAKEN.** `w` is what earlier runs left, `result`
what this run answers; every linking command so far met the version it was made for at an actor
that had seen the whole scene, or a scene that had the link. -/
theorem applied_means_linked {derive : MappingKey → Uuid} {preview : AiImportJobId}
    {start : ScriptStore} (hstart : FreshStart preview start)
    (hbefore : Earlier derive preview start w) (hderive : env.deriveId = derive)
    (hpreview : req.previewId = preview) {result : ScriptApplyResult}
    (hok : (applyScript env req w).result = .ok result)
    (hmet : AllMet ((applyScript env req).store w)) :
    ∃ plan locals, req.plan w.base.mappings = .ok plan ∧
      (runScriptApply env req w).result = .ok locals ∧ locals.result = result ∧
        List.Forall₂ (RowLinked locals ((applyScript env req).store w)) plan.scenes
          result.applied := by
  subst hderive hpreview
  have hI := hbefore.inv (hstart.inv env.deriveId)
  suffices hwp : wp (fun _ => True) (applyScript env req) (fun r t => r = .ok result → AllMet t →
      ∃ plan locals, req.plan w.base.mappings = .ok plan ∧
        (runScriptApply env req w).result = .ok locals ∧ locals.result = result ∧
          List.Forall₂ (RowLinked locals t) plan.scenes result.applied) w from hwp.2 hok hmet
  unfold applyScript
  rw [wp_bind, wp_ofExcept]
  cases env.claimApplyRun with
  | error =>
    intro h
    cases h
  | ok =>
    dsimp only
    split
    · obtain ⟨hstores, hrun⟩ := wp_and_inv (wp_runScriptApply hI) ⟨Later.refl w, hI⟩
      rw [wp_bind]
      refine ⟨fun _ _ => trivial, ?_⟩
      cases hlocals : (runScriptApply env req w).result with
      | error =>
        intro h
        cases h
      | ok locals =>
        rw [hlocals] at hrun
        obtain ⟨hrows, -, hI'⟩ := hrun
        obtain ⟨plan, hplan, hlinked⟩ := hrows locals rfl
        dsimp only
        rw [wp_bind, interfere, wp_atomic]
        refine ⟨trivial, wp_pure.mpr ?_⟩
        intro hresult hmet
        cases hresult
        obtain ⟨hlater, -⟩ := hI'.othersAct
        refine ⟨plan, locals, hplan, rfl, rfl, ?_⟩
        exact (hlinked (hlater.allMet hmet)).imp fun _ _ h =>
          h.later ⟨fun _ _ h => h, fun _ _ h => h, fun _ _ h => h⟩ hlater
    · rw [wp_fail]
      intro h
      cases h

end Linked

/-! ## §3. One row -/

/-- An environment that tells the kinds apart. -/
def rowEnv : ScriptEnv where
  deriveId key := match key.aggregateKind with
    | .scene => 1
    | .character => 2
    | .shootingDay => 3
    | .sceneShoot => 4
    | _ => 5
  pairHash _ _ := 0
  renderDate _ := ""
  now := 0
  findSeason _ := .ok false
  claimApplyRun := .ok true
  recordTelemetry := .ok ()

/-- A row with one figure, on an accepted day group. -/
def annasRow : SceneApplyPlan where
  draftRef := "scene:1"
  episode := .existing ⟨9⟩
  shootingDay := .group "1" none
  scene := .create { id := 1, episodeId := ⟨9⟩, details := {} }
  characters := [⟨"Anna", "anna", .mainCast⟩]
  outfits := []

def annasRequest : ApplyScriptRequest where
  previewId := ⟨5⟩
  plan _ := .ok ⟨[annasRow], []⟩
  seasonId := ⟨6⟩
  projectId := none
  blockId := ⟨7⟩
  knownEpisodes := []
  telemetry := false

/-- An empty store, and what others will do to it. -/
def emptyStore (others : List (List ForeignCommand)) : ScriptStore where
  base := ⟨fun _ => [], fun _ => [], fun _ => [], fun _ => [], fun _ => none⟩
  characters _ := []
  episodes _ := []
  pieces _ := []
  outfits _ := []
  others := others
  lags := []
  sent := []
  made := []

theorem emptyStore_fresh (preview others) : FreshStart preview (emptyStore others) where
  rows _ _ := rfl
  scenes _ h := absurd rfl h
  made := rfl

/-- Somebody edits the details of scene 1. -/
def editScene (mood : String) (version : AggregateVersion) : ForeignCommand :=
  ⟨.updateDetails ⟨1, { mood := some mood }, version⟩, rfl⟩

/-- Two edits, one before each linking command of the worker. -/
def twoEdits : List (List ForeignCommand) := [[], [editScene "Tag" 1], [editScene "Nacht" 2]]

instance (d : SceneDispatch) : Decidable d.Met := by
  unfold SceneDispatch.Met
  split <;> infer_instance

instance (s : Store) (p : ScenePair) : Decidable (Linked s p) := inferInstanceAs (Decidable (_ ∈ _))

instance (w : ScriptStore) : Decidable (AllMet w) := inferInstanceAs (Decidable (∀ d ∈ w.sent, _))

/-- Nobody else is there: the row is linked. -/
theorem applied_means_linked_quiet :
    AllMet ((applyScript rowEnv annasRequest).store (emptyStore [])) ∧
      ∃ plan locals, annasRequest.plan (fun _ => none) = .ok plan ∧
        (runScriptApply rowEnv annasRequest (emptyStore [])).result = .ok locals ∧
          locals.result = ⟨[⟨1, 1⟩], 1, 0, 0, 0, 0, 1, 1, [], [⟨⟨9⟩, none, none, 1⟩]⟩ ∧
            List.Forall₂ (RowLinked locals ((applyScript rowEnv annasRequest).store (emptyStore [])))
              plan.scenes [⟨1, 1⟩] := by
  have hmet : AllMet ((applyScript rowEnv annasRequest).store (emptyStore [])) := by
    decide +kernel
  exact ⟨hmet, applied_means_linked (emptyStore_fresh _ []) .start rfl rfl (by decide +kernel) hmet⟩

/-- **OVERTAKEN LINKS ARE LOST.** Between the commands of the worker somebody edits the scene twice.
The run answers Ok with the row applied; figure 2 was resolved and day 3 was created for it, but
the scene has neither. -/
theorem overtaken_links_are_lost : FreshStart ⟨5⟩ (emptyStore twoEdits) ∧
      (applyScript rowEnv annasRequest (emptyStore twoEdits)).result = .ok
        ⟨[⟨1, 1⟩], 1, 0, 0, 0, 0, 1, 1, [], [⟨⟨9⟩, none, none, 1⟩]⟩ ∧
      (∃ locals, (runScriptApply rowEnv annasRequest (emptyStore twoEdits)).result = .ok locals ∧
        locals.figures (characterMappingRef "anna") = some (.resolved ⟨2, 1⟩) ∧
        locals.resolvedDays (scriptDayRef ⟨9⟩ "1") = some ⟨⟨3⟩, 1, true⟩) ∧
      ((applyScript rowEnv annasRequest).store (emptyStore twoEdits)).figuresOf 1 = [] ∧
      ¬ Linked ((applyScript rowEnv annasRequest).store (emptyStore twoEdits)).base (1, ⟨3⟩) := by
  refine ⟨emptyStore_fresh _ _, by decide +kernel, ?_, by decide +kernel, by decide +kernel⟩
  exact ⟨_, rfl, by decide +kernel, by decide +kernel⟩

end Breakdown.Ai
