/-
**PLANNING THE APPLY OF A REVIEWED SCRIPT PREVIEW**
(`plan_scene_apply` of `core/src/ai/preview.rs`).

The planner turns the rows of a preview into scene commands, figures, outfits and their pieces, under
the decisions of a reviewer: which rows create and which update a scene, which outfits are rejected,
which episode and shooting-day groups are meant, which categories there are and how gaps are filled.
The worker keys every aggregate by numbers the planner gives out.

Scores, the project id of the audit trail and what a plan carries for reports only are left out.
`Uuid::now_v7()` is a parameter.

- `planOutfit`: the body of the loop over the outfits of a row;
- `planGap`: the body of the loop over the selections of a row;
- `planRow`, `planSceneApply`.
-/
import Breakdown.Ai.Continuity
import Breakdown.Lib.Numbering

namespace Breakdown.Ai

/-! ## §1. What the reviewer decides -/

inductive ApplyMappingDecision
  | create
  | update (aggregateId : Uuid) (version : AggregateVersion)

structure OutfitDecision where
  ordinal : Nat
  accepted : Bool

structure ApplyMapping where
  draftRef : String
  decision : ApplyMappingDecision
  outfitDecisions : List OutfitDecision := []

/-- `ApplyMapping::outfit_accepted`: what is not decided is accepted. -/
def ApplyMapping.outfitAccepted (mapping : ApplyMapping) (ordinal : Nat) : Bool :=
  match mapping.outfitDecisions.find? fun decision => decision.ordinal = ordinal with
  | some decision => decision.accepted
  | none => true

inductive EpisodeTarget
  | existing (episodeId : EpisodeId)
  | create (number : Int) (name : Option String)

structure EpisodeGroupPlan where
  episodeRef : String
  target : EpisodeTarget

structure ShootingDayPlan where
  dayRef : String
  accepted : Bool

structure CategoryVocabularyEntry where
  name : String
  id : CostumeCategoryId

/-- What the reviewer decided. -/
structure ReviewerDecisions where
  episodeGroups : List EpisodeGroupPlan := []
  shootingDays : List ShootingDayPlan := []
  acknowledgedUncertainties : List UncertaintyAcknowledgement := []
  categories : List CategoryVocabularyEntry := []
  continuitySelections : List OutfitContinuitySelection := []

/-- The arguments of `plan_scene_apply` besides the preview, and the ids it draws. -/
structure PlanInput where
  mappings : List ApplyMapping
  episodeId : EpisodeId
  previewId : AiImportJobId
  decisions : ReviewerDecisions
  /-- `Uuid::now_v7()` for the scene of a row. -/
  newSceneId : Nat → Uuid

/-! ## §2. Numbers -/

section Plan

variable (rules : TextRules)

/-- Every outfit of the preview, with the figure it is of, in order. -/
def outfitSlots (preview : ScriptContext) : List ((Nat × Nat) × String) :=
  preview.scenes.zipIdx.flatMap fun (draft, rowIndex) =>
    draft.outfits.zipIdx.map fun (outfit, outfitIndex) =>
      ((rowIndex, outfitIndex), rules.characterIdentity outfit.characterName)

/-- `beat_ordinals`: every outfit of a figure counts, whatever is decided about it. -/
def beatOrdinals (preview : ScriptContext) : Nat × Nat → Option Nat :=
  (Numbering.Cursor.start.numberAll (outfitSlots rules preview)).numbers

/-- The pieces of an outfit that have a name. -/
def namedPieces (outfit : DraftOutfit) : List DraftPiece :=
  outfit.pieces.filter fun piece => !(trimText piece.name).isEmpty

/-- `piece_offsets`: where the pieces of each outfit of a row start. -/
def pieceOffsets (draft : DraftScene) : List Nat :=
  Numbering.startsFrom 0 (draft.outfits.map fun outfit => (namedPieces outfit).length)

/-! ## §3. Figures -/

/-- A figure of a row, with its position in the draft. -/
structure PlannedCharacter extends CharacterApplyPlan where
  ordinal : Nat

/-- One figure more: a name without an identity is passed over, a figure that is known may have its
default category corrected. -/
def planCharacter (known : List PlannedCharacter) (named : DraftCharacter × Nat) :
    List PlannedCharacter :=
  let (character, ordinal) := named
  let identity := rules.characterIdentity character.name
  if identity.isEmpty then known
  else if known.any fun figure => figure.identity = identity then
    known.map fun figure =>
      if figure.identity = identity && figure.category = .mainCast &&
          character.category != .mainCast then
        { figure with category := character.category }
      else figure
  else known ++ [{ name := character.name, identity, category := character.category, ordinal }]

/-- The figures of a row. -/
def planCharacters (draft : DraftScene) : List PlannedCharacter :=
  draft.characters.zipIdx.foldl (planCharacter rules) []

/-! ## §4. Outfits -/

/-- `resolve_category`. -/
def resolveCategory (categories : List CategoryVocabularyEntry) (hint : Option String) :
    Option CostumeCategoryId := do
  let hint := rules.strToLowercase (trimText (← hint)).toList
  if hint.isEmpty then none
  else
    (categories.find? fun entry =>
      rules.strToLowercase (trimText entry.name).toList = hint).map CategoryVocabularyEntry.id

/-- A text without what surrounds it, if anything is left. -/
def trimmedText (text : Option String) : Option String :=
  (text.map trimText).filter fun text => !text.isEmpty

/-- The pieces of an outfit, numbered on from `start`. -/
def planPieces (categories : List CategoryVocabularyEntry) (start : Nat) (outfit : DraftOutfit) :
    List PieceApplyPlan :=
  ((namedPieces outfit).zipIdx start).map fun (piece, ordinal) =>
    { ordinal
      name := trimText piece.name
      categoryId := resolveCategory rules categories piece.categoryHint
      notes := trimmedText piece.description }

/-- What becomes of an outfit or of a selection. -/
inductive OutfitFate
  | rejected
  | unapplied (report : UnappliedOutfit)
  | planned (outfit : OutfitApplyPlan)

def OutfitFate.outfit? : OutfitFate → Option OutfitApplyPlan
  | .planned outfit => some outfit
  | _ => none

def OutfitFate.report? : OutfitFate → Option UnappliedOutfit
  | .unapplied report => some report
  | _ => none

/-- The source of a continued outfit; the error is the text of the report. -/
def planContinuation (preview : ScriptContext) (outfit : DraftOutfit) :
    Except String (Option ContinuationPlan) :=
  if outfit.origin.isContinuation then
    let source := outfit.provenance.bind DraftOutfitProvenance.continuationSource
    let resolved := source.bind fun (sourceDraftRef, _) =>
      resolveContinuation rules preview (rules.characterIdentity outfit.characterName)
        preview.scenes.length sourceDraftRef
    match resolved with
    | some continuation => .ok (some continuation)
    | none => .error ("source row " ++ (source.map Prod.fst).getD "<missing>" ++
        " carries no outfit for this figure")
  else .ok none

/-- **ONE OUTFIT OF A ROW.** -/
def planOutfit (preview : ScriptContext) (mapping : ApplyMapping)
    (categories : List CategoryVocabularyEntry) (index : Nat) (draft : DraftScene)
    (ordinal : Nat) (outfit : DraftOutfit) : OutfitFate :=
  let identity := rules.characterIdentity outfit.characterName
  let report (reason : UnappliedOutfitReason) (detail : Option String) : OutfitFate :=
    .unapplied ⟨draftRowRef draft index, ordinal, outfit.characterName, outfit.name, reason, detail⟩
  if !mapping.outfitAccepted ordinal then .rejected
  else
    match (planCharacters rules draft).find? fun known => known.identity = identity with
    | none => report .characterNotPlanned none
    | some character =>
      match planContinuation rules preview outfit with
      | .error detail => report .continuityUnresolved (some detail)
      | .ok continuation =>
        .planned {
          ordinal
          characterIdentity := character.identity
          characterName := character.name
          name := trimText outfit.name
          notes := trimmedText outfit.notes
          -- a continued look owns no garments of its own
          pieces := if continuation.isSome then []
            else planPieces rules categories ((pieceOffsets draft)[ordinal]?.getD 0) outfit
          continuation
          beatOrdinal := (beatOrdinals rules preview (index, ordinal)).getD 0
          fromContinuitySelection := false }

/-- The name and the source of the selected candidate, as the preview has them. -/
def resolveSelection (preview : ScriptContext) (index : Nat) (draft : DraftScene)
    (selection : OutfitContinuitySelection) : Option (String × Option ContinuationPlan) :=
  match selection.candidate with
  | .continued => do
      let prior ← priorOutfit rules preview index selection.characterIdentity
      let continuation ← resolveContinuation rules preview selection.characterIdentity
        preview.scenes.length (draftRowRef prior.scene prior.sceneIndex)
      some (trimText prior.outfit.name, some continuation)
  | .inferred => (contextLookName draft).map fun name => (name, none)

/-- **ONE SELECTION OF A ROW**: the address of the outfit is the position of its figure. -/
def planGap (preview : ScriptContext) (index : Nat) (draft : DraftScene)
    (selection : OutfitContinuitySelection) : OutfitFate :=
  let figure := (planCharacters rules draft).find? fun known =>
    known.identity = selection.characterIdentity
  let draftOrdinal := (figure.map PlannedCharacter.ordinal).getD 0
  let report (name : String) (reason : UnappliedOutfitReason) (detail : Option String) : OutfitFate :=
    .unapplied ⟨draftRowRef draft index, draftOrdinal, selection.characterIdentity, name, reason,
      detail⟩
  match resolveSelection rules preview index draft selection with
  | none => report "" .continuityUnresolved
      (some "the selected candidate is no longer derivable from the preview")
  | some (name, continuation) =>
    match figure with
    | none => report name .characterNotPlanned none
    | some character =>
      .planned {
        ordinal := draftOrdinal
        characterIdentity := character.identity
        characterName := character.name
        name
        notes := none
        pieces := []
        continuation
        beatOrdinal := draftOrdinal
        fromContinuitySelection := true }

/-! ## §5. Rows -/

/-- The episode of a row: that of its group, unless the row updates a scene. -/
def planEpisode (input : PlanInput) (mapping : ApplyMapping) (draft : DraftScene) :
    Except ApplyGateError PlannedEpisode :=
  let groupRef := match mapping.decision with
    | .update .. => none
    | .create => draft.episode.bind DraftEpisode.groupKey
  match groupRef with
  | none => .ok (.existing input.episodeId)
  | some groupRef =>
    match input.decisions.episodeGroups.find? fun group => group.episodeRef = groupRef with
    | none => .error (.missingEpisodeGroup groupRef)
    | some group =>
      match group.target with
      | .existing episodeId => .ok (.existing episodeId)
      | .create number name => .ok (.new groupRef number name)

/-- The shooting day of a row. -/
def planShootingDay (input : PlanInput) (draft : DraftScene) :
    Except ApplyGateError PlannedShootingDay :=
  match draft.shootingDay.bind DraftShootingDay.groupKey with
  | none => .ok .none
  | some dayRef =>
    match input.decisions.shootingDays.find? fun plan => plan.dayRef = dayRef with
    | none => .error (.missingShootingDayGroup dayRef)
    | some plan =>
      if plan.accepted then
        .ok (.group dayRef (draft.shootingDay.bind DraftShootingDay.displayLabel))
      else .ok .none

/-- `DraftScene::scene_details`. -/
def DraftScene.sceneDetails (draft : DraftScene) : SceneDetails where
  sceneNumber := draft.sceneNumber
  location := draft.location
  mood := draft.mood
  isScheduleSet := false
  summary := draft.summary
  scriptDay := draft.scriptDay

/-- The scene command of a row. -/
def planScene (input : PlanInput) (mapping : ApplyMapping) (episode : PlannedEpisode) (index : Nat)
    (draft : DraftScene) : SceneApplyCommand :=
  match mapping.decision with
  | .create => .create {
      id := input.newSceneId index
      episodeId := match episode with
        | .existing episodeId => episodeId
        | .new .. => input.episodeId
      details := draft.sceneDetails
      source := .aiExtracted input.previewId.uuid (some (draftRowRef draft index)) }
  | .update aggregateId version => .update ⟨aggregateId, draft.sceneDetails, version⟩

/-- The outfits of a row, those of selections behind the extracted ones. -/
def rowFates (preview : ScriptContext) (input : PlanInput) (mapping : ApplyMapping)
    (continuations : List OutfitContinuitySelection) (index : Nat) (draft : DraftScene) :
    List OutfitFate :=
  (draft.outfits.zipIdx.map fun (outfit, ordinal) =>
    planOutfit rules preview mapping input.decisions.categories index draft ordinal outfit) ++
  (continuations.filter fun selection => selection.sceneIndex = index).map
    (planGap rules preview index draft)

/-- **ONE ROW.** -/
def planRow (preview : ScriptContext) (input : PlanInput)
    (continuations : List OutfitContinuitySelection) (plan : ScriptApplyPlan)
    (row : DraftScene × Nat) : Except ApplyGateError ScriptApplyPlan :=
  let (draft, index) := row
  let draftRef := draftRowRef draft index
  match input.mappings.find? fun mapping => mapping.draftRef = draftRef with
  | none => .error (.missingMapping draftRef)
  | some mapping => do
      let episode ← planEpisode input mapping draft
      let shootingDay ← planShootingDay input draft
      let fates := rowFates rules preview input mapping continuations index draft
      .ok {
        scenes := plan.scenes ++ [{
          draftRef, episode, shootingDay
          scene := planScene input mapping episode index draft
          characters := (planCharacters rules draft).map PlannedCharacter.toCharacterApplyPlan
          outfits := fates.filterMap OutfitFate.outfit? }]
        unappliedOutfits := plan.unappliedOutfits ++ fates.filterMap OutfitFate.report? }

/-! ## §6. The plan -/

/-- `resolved_categories`: the first category of a figure that is not the default. -/
def noteCategories (resolved : String → Option CharacterCategory) (character : CharacterApplyPlan) :
    String → Option CharacterCategory :=
  match resolved character.identity with
  | none => Function.update resolved character.identity (some character.category)
  | some .mainCast => Function.update resolved character.identity (some character.category)
  | some _ => resolved

/-- The categories of the figures, reconciled over the whole plan. -/
def reconcileCategories (scenes : List SceneApplyPlan) : List SceneApplyPlan :=
  let resolved := (scenes.flatMap SceneApplyPlan.characters).foldl noteCategories fun _ => none
  scenes.map fun scene =>
    let characters := scene.characters.map fun character =>
      { character with category := (resolved character.identity).getD character.category }
    { scene with characters }

/-- `plan_scene_apply`. -/
def planSceneApply (preview : ScriptContext) (input : PlanInput) :
    Except ApplyGateError ScriptApplyPlan := do
  ensureScriptApplyable preview input.decisions.acknowledgedUncertainties
  let continuations ←
    validateContinuitySelections rules preview input.decisions.continuitySelections
  let plan ← preview.scenes.zipIdx.foldlM (planRow rules preview input continuations) ⟨[], []⟩
  .ok { plan with scenes := reconcileCategories plan.scenes }

end Plan

end Breakdown.Ai
