/-
**THE SCRIPT PREVIEW: ROWS, UNCERTAINTIES AND THE APPLY GATE**
(`core/src/ai/preview.rs`).

A preview is what the extraction of a script stores and what a reviewer applies: one row per scene
and a list of uncertainties, each naming a row by its index. A blocking uncertainty keeps the
preview from being applied until the reviewer acknowledges its (scene index, field) pair.

Quality scores and confidences (`f32`, set by the Decision Model, read by nothing below) are left
out. The Unicode tables behind `to_lowercase` and `is_alphabetic` and the shooting-day scan
`day_marker` are parameters (`TextRules`): nothing below depends on what they contain.
-/
import Breakdown.Aggregates.Character

namespace Breakdown.Ai

/-! ## §1. Rows -/

structure DraftEpisode where
  number : Option Int := none
  title : Option String := none
  deriving DecidableEq

structure DraftShootingDay where
  number : Option Int := none
  label : Option String := none
  deriving DecidableEq

/-- `DraftEpisode::group_key`. -/
def DraftEpisode.groupKey (episode : DraftEpisode) : Option String := match episode.number with
  | some number => some ("ep:" ++ toString number)
  | none =>
    match episode.title with
    | some title => if isBlank title then none else some ("ep-t:" ++ trimText title)
    | none => none

/-- `DraftShootingDay::group_key`. -/
def DraftShootingDay.groupKey (day : DraftShootingDay) : Option String := match day.number with
  | some number => some ("day:" ++ toString number)
  | none =>
    match day.label with
    | some label => if isBlank label then none else some ("day-l:" ++ trimText label)
    | none => none

/-- `DraftShootingDay::display_label`: the marker as written, else the number. -/
def DraftShootingDay.displayLabel (day : DraftShootingDay) : Option String :=
  match (day.label.map trimText).filter fun label => !label.isEmpty with
  | some label => some label
  | none => day.number.map fun number => "Tag " ++ toString number

/-- A character as extracted. -/
structure DraftCharacter where
  name : String
  category : CharacterCategory := .mainCast
  deriving DecidableEq

/-- A piece as extracted. -/
structure DraftPiece where
  name : String
  categoryHint : Option String
  description : Option String
  deriving DecidableEq

inductive DraftOutfitOrigin
  | explicitQuote
  | derived
  | continuedFromScene
  | inferredFromContext
  deriving DecidableEq

/-- `DraftOutfitOrigin::is_continuation`. -/
def DraftOutfitOrigin.isContinuation : DraftOutfitOrigin → Bool
  | .continuedFromScene => true
  | _ => false

/-- Where a look of the second pass comes from. -/
structure DraftOutfitProvenance where
  sourceDraftRef : Option String := none
  sourceSceneNumber : Option Nat := none
  deriving DecidableEq

/-- `DraftOutfitProvenance::continuation_source`. -/
def DraftOutfitProvenance.continuationSource (provenance : DraftOutfitProvenance) :
    Option (String × Option Nat) :=
  provenance.sourceDraftRef.map fun source => (source, provenance.sourceSceneNumber)

/-- A look as extracted. -/
structure DraftOutfit where
  characterName : String
  name : String
  notes : Option String
  sourceQuote : String
  origin : DraftOutfitOrigin
  provenance : Option DraftOutfitProvenance := none
  pieces : List DraftPiece
  deriving DecidableEq

/-- One row of the preview. -/
structure DraftScene where
  draftRef : String := ""
  sceneNumber : Option Nat := none
  location : Option String := none
  mood : Option String := none
  summary : Option String := none
  scriptDay : Option String := none
  characters : List DraftCharacter := []
  outfits : List DraftOutfit := []
  episode : Option DraftEpisode := none
  shootingDay : Option DraftShootingDay := none
  deriving DecidableEq

/-! ## §2. Uncertainties and the stored preview -/

inductive UncertaintyKind
  | fieldAmbiguity
  | droppedRow
  deriving DecidableEq

/-- `UncertaintyKind::blocks_apply`. -/
def UncertaintyKind.blocksApply : UncertaintyKind → Bool
  | .fieldAmbiguity => true
  | .droppedRow => false

structure DraftOutfitCandidate where
  origin : DraftOutfitOrigin
  name : String
  sourceDraftRef : String
  sourceSceneNumber : Option Nat
  deriving DecidableEq

/-- A doubt the reviewer has to settle. -/
structure Uncertainty where
  sceneIndex : Nat
  field : String
  note : String
  suggestedValue : Option String
  kind : UncertaintyKind := .fieldAmbiguity
  candidates : List DraftOutfitCandidate := []
  deriving DecidableEq

/-- `ScriptContext`: the answer of one model call, and the stored preview. -/
structure ScriptContext where
  title : Option String := none
  blockNumber : Option Int := none
  scenes : List DraftScene := []
  uncertainties : List Uncertainty := []
  scenesDetected : Nat := 0
  scenesExtracted : Nat := 0
  scenesSynthesized : Nat := 0
  deriving DecidableEq

structure UncertaintyAcknowledgement where
  sceneIndex : Nat
  field : String

/-! ## §3. The gate -/

/-- Why a preview is not applied. -/
inductive ApplyGateError
  | openUncertainties (count : Nat)
  | unmatchedScheduleRows (count : Nat)
  | unmatchedScriptScenes (count : Nat)
  | missingMapping (draftRef : String)
  | missingEpisodeGroup (group : String)
  | missingShootingDayGroup (group : String)
  | unknownContinuityCandidate (draftRef : String)

def ApplyGateError.toDisplay : ApplyGateError → String
  | .openUncertainties count =>
    "script preview has " ++ toString count ++ " unresolved uncertainties"
  | .unmatchedScheduleRows count =>
    "schedule preview has " ++ toString count ++ " unmatched schedule rows"
  | .unmatchedScriptScenes count =>
    "schedule preview has " ++ toString count ++ " unmatched applied scenes"
  | .missingMapping draftRef => "no mapping decision for draft row " ++ draftRef
  | .missingEpisodeGroup group => "no episode group " ++ group ++ " in the preview"
  | .missingShootingDayGroup group => "no shooting day group " ++ group ++ " in the preview"
  | .unknownContinuityCandidate draftRef => "draft row " ++ draftRef ++
      " has a continuity selection the preview does not offer"

/-- The acknowledgement names the uncertainty's row and field. -/
def UncertaintyAcknowledgement.resolves (ack : UncertaintyAcknowledgement) (u : Uncertainty) :
    Bool :=
  ack.sceneIndex == u.sceneIndex && ack.field == u.field

/-- `ensure_script_applyable`. -/
def ensureScriptApplyable (preview : ScriptContext)
    (acknowledged : List UncertaintyAcknowledgement) : Except ApplyGateError Unit :=
  let blocking := preview.uncertainties.filter fun u =>
    u.kind.blocksApply && !acknowledged.any (·.resolves u)
  if blocking.length = 0 then .ok () else .error (.openUncertainties blocking.length)

/-! ## §4. Reading text -/

/-- What the text passes take from the Unicode tables, and the shooting-day scan. -/
structure TextRules where
  /-- `char::to_lowercase`. -/
  charToLowercase : Char → List Char
  /-- `str::to_lowercase`. -/
  strToLowercase : List Char → List Char
  /-- `char::is_alphabetic`. -/
  isAlphabetic : Char → Bool
  /-- `day_marker`. -/
  dayMarker : String → Option DraftShootingDay
  /-- `{:?}` of a string. -/
  debugStr : String → String

namespace TextRules

variable (rules : TextRules)

/-- One character of the fold of `grounded_text`: whitespace becomes one pending space, which is
written before the next word. -/
def foldChar (acc : List Char × Bool) (ch : Char) : List Char × Bool :=
  if isWhitespaceChar ch then (acc.1, !acc.1.isEmpty)
  else (acc.1 ++ (if acc.2 then [' '] else []) ++ rules.charToLowercase ch, false)

/-- `grounded_text`: lower case, every run of whitespace one space. -/
def groundedText (text : String) : List Char := (text.toList.foldl rules.foldChar ([], false)).1

/-- `character_identity`: the same fold, applied to a name. -/
def characterIdentity (name : String) : String := String.ofList (rules.groundedText name)

/-- `META_SUMMARY_MARKERS`. -/
def metaSummaryMarkers : List String :=
  ["outline-style block", "outline style block", "outline-style-block",
    "heading and day marker only", "no characters, costumes, or props",
    "no characters, costumes or props", "nothing happens in this", "this block contains no",
    "keine charaktere, kostüme", "keine figuren, kostüme", "nichts passiert in dieser szene",
    "nichts passiert in diesem block", "kein inhalt", "keine handlung", "nur eine überschrift",
    "nur eine zwischenüberschrift"]

/-- `contains_marker_word`: an occurrence that ends at a non-alphabetic boundary. After an
occurrence that does not, the search goes on behind it (`skip` characters). -/
def containsMarkerWord (marker : List Char) : (skip : Nat) → List Char → Bool
  | _, [] => false
  | skip + 1, _ :: rest => containsMarkerWord marker skip rest
  | 0, ch :: rest =>
    if marker.isPrefixOf (ch :: rest) then
      let behind := (ch :: rest).drop marker.length
      if behind.head?.all (fun next => !rules.isAlphabetic next) then true
      else containsMarkerWord marker (marker.length - 1) rest
    else containsMarkerWord marker 0 rest

/-- `is_meta_summary`. -/
def isMetaSummary (summary : String) : Bool :=
  let folded := rules.strToLowercase (rules.groundedText summary)
  !folded.isEmpty &&
    metaSummaryMarkers.any fun marker => rules.containsMarkerWord marker.toList 0 folded

/-- `sanitize_meta_summary`; the flag says whether the summary was dropped. -/
def sanitizeMetaSummary (scene : DraftScene) : DraftScene × Bool := match scene.summary with
  | some summary => if rules.isMetaSummary summary then ({ scene with summary := none }, true)
      else (scene, false)
  | none => (scene, false)

/-- `parse_script_day`. -/
def parseScriptDay (label : String) : Option DraftShootingDay := match rules.dayMarker label with
  | some day => some day
  | none => if isBlank label then none else some { number := none, label := some (trimText label) }

end TextRules

/-- `str::contains`. -/
def containsText (needle : List Char) : List Char → Bool
  | [] => needle.isEmpty
  | ch :: rest => needle.isPrefixOf (ch :: rest) || containsText needle rest

inductive RejectedOutfitReason
  | ungroundedQuote
  | unlistedCharacter

/-- `RejectedOutfitReason::as_str`. -/
def RejectedOutfitReason.asStr : RejectedOutfitReason → String
  | .ungroundedQuote => "ungrounded_quote"
  | .unlistedCharacter => "unlisted_character"

structure RejectedOutfit where
  reason : RejectedOutfitReason
  characterName : String
  name : String

namespace TextRules

variable (rules : TextRules)

/-- Why an outfit is dropped, if it is: its quote must occur in the chunk, its figure in the row. -/
def rejectOutfit (characters : List String) (haystack : List Char) (outfit : DraftOutfit) :
    Option RejectedOutfit :=
  let quote := rules.groundedText outfit.sourceQuote
  if quote.isEmpty || !containsText quote haystack then
    some ⟨.ungroundedQuote, outfit.characterName, outfit.name⟩
  else if !characters.contains (rules.characterIdentity outfit.characterName) then
    some ⟨.unlistedCharacter, outfit.characterName, outfit.name⟩
  else none

/-- `verify_draft_outfits`: keep what is grounded, report the rest. -/
def verifyDraftOutfits (scene : DraftScene) (chunkText : String) :
    DraftScene × List RejectedOutfit :=
  let characters := scene.characters.map fun c => rules.characterIdentity c.name
  let reject := rules.rejectOutfit characters (rules.groundedText chunkText)
  ({ scene with outfits := scene.outfits.filter fun outfit => (reject outfit).isNone },
    scene.outfits.filterMap reject)

end TextRules

/-! ## §5. Category conflicts -/

/-- `UNCERTAINTY_FIELD_CHARACTERS`. -/
def uncertaintyFieldCharacters : String := "characters"

/-- `CategorySignals` with the identity it is collected for. -/
structure CategorySignals where
  identity : String
  firstScene : Nat
  slugs : List String

/-- Note one category of a figure: a new figure is appended, a known one gains the slug unless it is
the default or already there. -/
def noteCategory (identity : String) (sceneIndex : Nat) (category : CharacterCategory) :
    List CategorySignals → List CategorySignals
  | [] => [⟨identity, sceneIndex, if category = .mainCast then [] else [category.asStr]⟩]
  | signal :: rest =>
    if signal.identity = identity then
      (if category = .mainCast || signal.slugs.contains category.asStr then signal
        else { signal with slugs := signal.slugs ++ [category.asStr] }) :: rest
    else signal :: noteCategory identity sceneIndex category rest

/-- The conflict of one figure: two different categories that are not the default. -/
def CategorySignals.conflict (signal : CategorySignals) : Option Uncertainty :=
  match signal.slugs with
  | first :: second :: _ =>
    some {
      sceneIndex := signal.firstScene
      field := uncertaintyFieldCharacters
      note := signal.identity ++ ": conflicting category signals across rows: " ++ first ++
        " vs " ++ second
      suggestedValue := some first
      kind := .fieldAmbiguity }
  | _ => none

/-- `category_conflict_uncertainties`. -/
def TextRules.categoryConflictUncertainties (rules : TextRules) (preview : ScriptContext) :
    List Uncertainty :=
  let signals := preview.scenes.zipIdx.foldl (fun signals (scene, sceneIndex) =>
    scene.characters.foldl (fun signals character =>
      let identity := rules.characterIdentity character.name
      if identity.isEmpty then signals
      else noteCategory identity sceneIndex character.category signals) signals) []
  signals.filterMap CategorySignals.conflict

/-! ## §6. Row references -/

/-- `stable_draft_ref`. -/
def stableDraftRef (sceneOrdinal : Nat) (chunkHeading : String) (indexInChunk : Nat) : String :=
  let base := toString sceneOrdinal ++ ". " ++ trimText chunkHeading
  if indexInChunk = 0 then base else base ++ " (" ++ toString (indexInChunk + 1) ++ ")"

end Breakdown.Ai
