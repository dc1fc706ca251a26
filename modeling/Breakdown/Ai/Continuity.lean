/-
**WARDROBE GAPS OF A PREVIEW, AND WHAT MAY FILL THEM**
(`core/src/ai/continuity.rs`, and of `core/src/ai/preview.rs` the validation of the reviewer's
selections).

A gap is a figure that a scene with action names and that wears nothing extracted there. A reviewer
may fill it with the figure's most recent earlier look, or with a look named after the scene's
location where the scene has moved. A selection the preview does not offer refuses the request.

Everything here is computed from the preview, which never changes after the extraction.
-/
import Breakdown.Ai.ScriptStore
import Breakdown.Lib.Rows

namespace Breakdown.Ai

/-- `draft_row_ref`. -/
def draftRowRef (draft : DraftScene) (index : Nat) : String :=
  if draft.draftRef.isEmpty then "scene-" ++ toString index else draft.draftRef

/-! ## §1. Gaps -/

structure OutfitContinuityGap where
  sceneIndex : Nat
  draftRef : String
  sceneNumber : Option Nat
  characterIdentity : String
  characterName : String

/-- A figure's most recent earlier appearance that carries an outfit. -/
structure PriorOutfit where
  sceneIndex : Nat
  scene : DraftScene
  outfit : DraftOutfit

/-- `context_look_name`. -/
def contextLookName (scene : DraftScene) : Option String :=
  let location := (scene.location.map trimText).getD ""
  if location.isEmpty then none
  else
    -- a heading of any length becomes a name of at most 80 characters
    let label := trimText (String.ofList (location.toList.take 80))
    if label.isEmpty then none else some ("Kontext-Look (" ++ label ++ ")")

section Identities

variable (rules : TextRules)

/-- `has_plausible_action`. -/
def hasPlausibleAction (scene : DraftScene) : Bool := match scene.summary with
  | some summary => !(trimText summary).isEmpty && !rules.isMetaSummary (trimText summary)
  | none => false

/-- The figures of a row that wear nothing extracted, each once. -/
def undressed (dressed : List String) : (seen : List String) → List DraftCharacter →
    List (String × String)
  | _, [] => []
  | seen, character :: characters =>
    let identity := rules.characterIdentity character.name
    if identity.isEmpty || dressed.contains identity || seen.contains identity then
      undressed dressed seen characters
    else (identity, character.name) :: undressed dressed (seen ++ [identity]) characters

/-- `outfit_continuity_gaps`. -/
def outfitContinuityGaps (preview : ScriptContext) : List OutfitContinuityGap :=
  preview.scenes.zipIdx.flatMap fun (scene, sceneIndex) =>
    if hasPlausibleAction rules scene then
      let dressed := scene.outfits.map fun outfit => rules.characterIdentity outfit.characterName
      (undressed rules dressed [] scene.characters).map fun (identity, name) =>
        ⟨sceneIndex, draftRowRef scene sceneIndex, scene.sceneNumber, identity, name⟩
    else []

/-- `prior_outfit`. -/
def priorOutfit (preview : ScriptContext) (sceneIndex : Nat) (identity : String) :
    Option PriorOutfit :=
  (preview.scenes.zipIdx.take sceneIndex).reverse.findSome? fun (scene, index) =>
    (scene.outfits.find? fun outfit => rules.characterIdentity outfit.characterName = identity).map
      fun outfit => ⟨index, scene, outfit⟩

/-! ## §2. Candidates -/

/-- `context_changed`. -/
def contextChanged (prior : PriorOutfit) (scene : DraftScene) : Bool :=
  let locationChanged := match prior.scene.location.map trimText, scene.location.map trimText with
    -- `eq_ignore_ascii_case`
    | some before, some after => before.toLower != after.toLower
    | _, _ => false
  let dayChanged := match prior.scene.shootingDay.bind DraftShootingDay.groupKey,
      scene.shootingDay.bind DraftShootingDay.groupKey with
    | some before, some after => before != after
    | _, _ => false
  locationChanged || dayChanged

/-- `continuity_candidates`. -/
def continuityCandidates (gap : OutfitContinuityGap) (prior : Option PriorOutfit)
    (scene : DraftScene) : List DraftOutfitCandidate :=
  match prior with
  | none => []
  | some prior =>
    let continued : DraftOutfitCandidate := ⟨.continuedFromScene, trimText prior.outfit.name,
      draftRowRef prior.scene prior.sceneIndex, prior.scene.sceneNumber⟩
    let inferred := if contextChanged prior scene then
        (contextLookName scene).toList.map fun name =>
          ⟨.inferredFromContext, name, gap.draftRef, gap.sceneNumber⟩
      else []
    continued :: inferred

/-- `resolve_continuation`: follow the chain of continuations to the row that introduced the look, for
at most as many rows as the preview has. -/
def resolveContinuation (preview : ScriptContext) (identity : String) : (fuel : Nat) →
    (currentRef : String) → Option ContinuationPlan
  | 0, _ => none
  | fuel + 1, currentRef => do
      let (scene, _) ← preview.scenes.zipIdx.find? fun (scene, index) =>
        draftRowRef scene index = currentRef
      let ordinal ← scene.outfits.findIdx? fun outfit =>
        rules.characterIdentity outfit.characterName = identity
      let outfit ← scene.outfits[ordinal]?
      match outfit.provenance.bind DraftOutfitProvenance.continuationSource with
      | some (source, _) => resolveContinuation preview identity fuel source
      | none => some ⟨currentRef, ordinal⟩

/-! ## §3. The reviewer's selections -/

inductive OutfitContinuityCandidate
  | continued
  | inferred
  deriving DecidableEq

structure OutfitContinuitySelection where
  sceneIndex : Nat
  characterIdentity : String
  candidate : OutfitContinuityCandidate

/-- What the pass over the selections carries along. -/
structure SelectionSweep where
  /-- The scene and outfit index of each figure's last dressed row before the cursor. -/
  dressed : String → Option (Nat × Nat)
  sceneCursor : Nat
  seen : List (Nat × String)
  validated : List OutfitContinuitySelection

/-- The outfits of one more scene are passed. -/
def dressScene (preview : ScriptContext) (dressed : String → Option (Nat × Nat)) (sceneIndex : Nat) :
    String → Option (Nat × Nat) :=
  let outfits := (preview.scenes[sceneIndex]?.map DraftScene.outfits).getD []
  outfits.zipIdx.foldl (fun dressed (outfit, outfitIndex) =>
    Function.update dressed (rules.characterIdentity outfit.characterName)
      (some (sceneIndex, outfitIndex))) dressed

/-- The row a refusal names. -/
def selectionRef (preview : ScriptContext) (sceneIndex : Nat) : String :=
  match preview.scenes[sceneIndex]? with
  | some scene => draftRowRef scene sceneIndex
  | none => toString sceneIndex

/-- Check one selection and take it. -/
def validateSelection (preview : ScriptContext) (gaps : List OutfitContinuityGap)
    (sweep : SelectionSweep) (selection : OutfitContinuitySelection) :
    Except ApplyGateError SelectionSweep :=
  let refused := Except.error (ε := ApplyGateError) (α := SelectionSweep)
    (.unknownContinuityCandidate (selectionRef preview selection.sceneIndex))
  match gaps.find? fun gap => gap.sceneIndex = selection.sceneIndex &&
      gap.characterIdentity = selection.characterIdentity with
  | none => refused
  | some gap =>
    let key := (selection.sceneIndex, gap.characterIdentity)
    -- two selections for one gap
    if sweep.seen.contains key then refused
    else
      let passed := List.range' sweep.sceneCursor (gap.sceneIndex - sweep.sceneCursor)
      let dressed := passed.foldl (dressScene rules preview) sweep.dressed
      let prior := do
        let (sceneIndex, outfitIndex) ← dressed gap.characterIdentity
        let scene ← preview.scenes[sceneIndex]?
        let outfit ← scene.outfits[outfitIndex]?
        some (⟨sceneIndex, scene, outfit⟩ : PriorOutfit)
      let scene := (preview.scenes[gap.sceneIndex]?).getD {}
      if (continuityCandidates gap prior scene).any fun candidate =>
          candidate.origin.isContinuation == (selection.candidate = .continued) then
        .ok ⟨dressed, max sweep.sceneCursor gap.sceneIndex, sweep.seen ++ [key],
          sweep.validated ++ [selection]⟩
      else refused

/-- `validate_continuity_selections`: the selections in scene order, if the preview offers all. -/
def validateContinuitySelections (preview : ScriptContext)
    (selections : List OutfitContinuitySelection) :
    Except ApplyGateError (List OutfitContinuitySelection) :=
  if selections.isEmpty then .ok []
  else
    let gaps := outfitContinuityGaps rules preview
    -- more selections than gaps
    match selections[gaps.length]? with
    | some unknown => .error (.unknownContinuityCandidate (selectionRef preview unknown.sceneIndex))
    | none => do
        let sweep ← (Tables.orderBy OutfitContinuitySelection.sceneIndex selections).foldlM
          (validateSelection rules preview gaps) ⟨fun _ => none, 0, [], []⟩
        .ok sweep.validated

end Identities

end Breakdown.Ai
