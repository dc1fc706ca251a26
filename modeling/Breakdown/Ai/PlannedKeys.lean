/-
**THE KEYS OF A PLAN DEPEND ON THE PREVIEW, NOT ON THE REVIEWER**
(`plan_scene_apply` of `core/src/ai/preview.rs`).

The worker keys an outfit by its row and its ordinal, a piece by its row and its ordinal, a beat by
the ordinal of the outfit among those of its figure. A reviewer who applies again with other
decisions must meet the same keys, or the second apply would find the rows of something else.

- `planOutfit_planned`, `planGap_planned`: the numbers of one planned outfit;
- `planSceneApply_rows`: what the loop over the rows makes of each row;
- `planned_keys_stable`: two plans of one preview.
-/
import Breakdown.Ai.ScenePlan
import Breakdown.Ai.Uncertainties

namespace Breakdown.Ai

open Fallible Breakdown.Numbering List

variable {rules : TextRules} {preview : ScriptContext} {input : PlanInput}

/-! ## §1. One outfit -/

/-- The names and numbers of the pieces of an outfit, as the preview has them. -/
def pieceNumbers (draft : DraftScene) (ordinal : Nat) (outfit : DraftOutfit) : List (String × Nat) :=
  if outfit.origin.isContinuation then []
  else ((namedPieces outfit).map fun piece => trimText piece.name).zipIdx
    ((pieceOffsets draft)[ordinal]?.getD 0)

theorem planPieces_numbers (categories start outfit) :
    (planPieces rules categories start outfit).map (fun piece => (piece.name, piece.ordinal)) =
      ((namedPieces outfit).map fun piece => trimText piece.name).zipIdx start := by
  unfold planPieces
  rw [map_map, zipIdx_map]
  rfl

/-- A continued look has a source, any other has none. -/
theorem planContinuation_ok {outfit}
    (h : planContinuation rules preview outfit = .ok continuation) :
    continuation.isSome = outfit.origin.isContinuation := by
  unfold planContinuation at h
  split at h
  · next hcontinued =>
    rw [hcontinued]
    dsimp only at h
    split at h
    · cases h
      rfl
    · cases h
  · next hcontinued =>
    cases h
    simpa using hcontinued

/-- **THE NUMBERS OF AN EXTRACTED OUTFIT.** -/
structure ExtractedNumbers (rules : TextRules) (preview : ScriptContext) (index : Nat)
    (draft : DraftScene) (k : Nat) (outfit : DraftOutfit) (o : OutfitApplyPlan) : Prop where
  ordinal : o.ordinal = k
  figure : o.characterIdentity = rules.characterIdentity outfit.characterName
  beatOrdinal : o.beatOrdinal = (beatOrdinals rules preview (index, k)).getD 0
  pieces : o.pieces.map (fun piece => (piece.name, piece.ordinal)) = pieceNumbers draft k outfit
  extracted : o.fromContinuitySelection = false

theorem planOutfit_planned {index outfit}
    (h : (planOutfit rules preview mapping categories index draft ordinal outfit).outfit? = some o) :
    ExtractedNumbers rules preview index draft ordinal outfit o := by
  unfold planOutfit at h
  dsimp only at h
  split at h
  · cases h
  · split at h
    · cases h
    · next character hcharacter =>
      have hidentity : character.identity = rules.characterIdentity outfit.characterName := by
        simpa using find?_some hcharacter
      split at h
      · cases h
      · next continuation hcontinuation =>
        cases h
        refine ⟨rfl, hidentity, rfl, ?_, rfl⟩
        show (if continuation.isSome then [] else _ : List PieceApplyPlan).map _ = _
        rw [planContinuation_ok hcontinuation]
        unfold pieceNumbers
        split
        · rfl
        · exact planPieces_numbers ..

/-- **THE NUMBERS OF A SYNTHESIZED OUTFIT.** -/
structure GapNumbers (rules : TextRules) (draft : DraftScene) (o : OutfitApplyPlan) : Prop where
  address : ∃ figure, ((planCharacters rules draft).find? fun known =>
      known.identity = o.characterIdentity) = some figure ∧
    o.ordinal = figure.ordinal ∧ o.beatOrdinal = figure.ordinal
  pieces : o.pieces = []
  selected : o.fromContinuitySelection = true

theorem planGap_planned {index}
    (h : (planGap rules preview index draft selection).outfit? = some o) :
    GapNumbers rules draft o := by
  unfold planGap at h
  dsimp only at h
  split at h
  · cases h
  · split at h
    · cases h
    · next character hcharacter =>
      have hidentity : character.identity = selection.characterIdentity := by
        simpa using find?_some hcharacter
      cases h
      refine ⟨⟨character, ?_, ?_, ?_⟩, rfl, rfl⟩
      · show ((planCharacters rules draft).find? fun known => known.identity = character.identity) = _
        rw [hidentity]
        exact hcharacter
      all_goals
        show (Option.map PlannedCharacter.ordinal _).getD 0 = _
        rw [hcharacter]
        rfl

/-! ## §2. The loop over the rows -/

/-- **WHAT A ROW BECOMES.** -/
structure RowPlanned (rules : TextRules) (preview : ScriptContext) (input : PlanInput)
    (continuations : List OutfitContinuitySelection) (row : DraftScene × Nat)
    (scene : SceneApplyPlan) : Prop where
  draftRef : scene.draftRef = draftRowRef row.1 row.2
  outfits : ∃ mapping, (input.mappings.find? fun mapping =>
      mapping.draftRef = draftRowRef row.1 row.2) = some mapping ∧
    scene.outfits =
      (rowFates rules preview input mapping continuations row.2 row.1).filterMap OutfitFate.outfit?

variable {continuations : List OutfitContinuitySelection} {plan : ScriptApplyPlan}

theorem planRow_ok {row} (h : planRow rules preview input continuations plan row = .ok plan') :
    ∃ scene, plan'.scenes = plan.scenes ++ [scene] ∧
      RowPlanned rules preview input continuations row scene ∧
      scene.characters = (planCharacters rules row.1).map (·.toCharacterApplyPlan) := by
  obtain ⟨draft, index⟩ := row
  unfold planRow at h
  dsimp only at h
  split at h
  · cases h
  · next mapping hmapping =>
    simp only [seq_eq_ok] at h
    obtain ⟨episode, -, shootingDay, -, hplan⟩ := h
    cases hplan
    exact ⟨_, rfl, ⟨rfl, mapping, hmapping, rfl⟩, rfl⟩

theorem planRows_ok (h : rows.foldlM (planRow rules preview input continuations) plan = .ok plan') :
    ∃ scenes, plan'.scenes = plan.scenes ++ scenes ∧
      List.Forall₂ (RowPlanned rules preview input continuations) rows scenes ∧
      scenes.map (·.characters) =
        rows.map fun row => (planCharacters rules row.1).map (·.toCharacterApplyPlan) := by
  induction rows generalizing plan with
  | nil =>
    cases h
    exact ⟨[], (append_nil _).symm, .nil, rfl⟩
  | cons row rows ih =>
    rw [foldlM_cons, seq_eq_ok] at h
    obtain ⟨next, hrow, hrest⟩ := h
    obtain ⟨scene, hscene, hplanned, hfigures⟩ := planRow_ok hrow
    obtain ⟨scenes, hscenes, hall, hallFigures⟩ := ih hrest
    refine ⟨scene :: scenes, ?_, .cons hplanned hall, ?_⟩
    · rw [hscenes, hscene, append_assoc]
      rfl
    · rw [map_cons, map_cons, hfigures, hallFigures]

/-- The reconciliation of the categories concerns the figures only. -/
theorem reconcileCategories_planned {scenes}
    (h : List.Forall₂ (RowPlanned rules preview input continuations) rows scenes) :
    List.Forall₂ (RowPlanned rules preview input continuations) rows (reconcileCategories scenes) := by
  unfold reconcileCategories
  rw [forall₂_map_right_iff]
  exact h.imp fun _ _ hrow => ⟨hrow.draftRef, hrow.outfits⟩

/-- **EVERY ROW OF THE PREVIEW IS PLANNED, IN ORDER.** -/
theorem planSceneApply_rows (h : planSceneApply rules preview input = .ok plan) : ∃ continuations,
      List.Forall₂ (RowPlanned rules preview input continuations) preview.scenes.zipIdx plan.scenes := by
  unfold planSceneApply at h
  simp only [seq_eq_ok] at h
  obtain ⟨_, -, continuations, -, planned, hrows, hplan⟩ := h
  cases hplan
  obtain ⟨scenes, hscenes, hall, -⟩ := planRows_ok hrows
  rw [nil_append] at hscenes
  refine ⟨continuations, reconcileCategories_planned ?_⟩
  rw [hscenes]
  exact hall

/-! ## §3. The keys of one plan -/

/-- The outfits of a row that were extracted. -/
def SceneApplyPlan.extracted (scene : SceneApplyPlan) : List OutfitApplyPlan :=
  scene.outfits.filter fun o => !o.fromContinuitySelection

/-- The outfit that is planned of the `ordinal`-th outfit of a row, if it is. -/
def plannedOutfit (rules : TextRules) (preview : ScriptContext) (input : PlanInput)
    (index ordinal : Nat) : Option OutfitApplyPlan := do
  let draft ← preview.scenes[index]?
  let mapping ← input.mappings.find? fun mapping => mapping.draftRef = draftRowRef draft index
  let outfit ← draft.outfits[ordinal]?
  (planOutfit rules preview mapping input.decisions.categories index draft ordinal outfit).outfit?

section Row

variable {continuations : List OutfitContinuitySelection} {draft : DraftScene} {index : Nat}
  {scene : SceneApplyPlan}

section

variable (h : RowPlanned rules preview input continuations (draft, index) scene)
include h

/-- The two parts of the outfits of a row. -/
theorem RowPlanned.parts : ∃ mapping gaps, (input.mappings.find? fun mapping =>
        mapping.draftRef = draftRowRef draft index) = some mapping ∧
      scene.outfits = (draft.outfits.zipIdx.filterMap fun (outfit, ordinal) =>
        (planOutfit rules preview mapping input.decisions.categories index draft ordinal
          outfit).outfit?) ++ gaps ∧ ∀ o ∈ gaps, GapNumbers rules draft o := by
  obtain ⟨mapping, hmapping, houtfits⟩ := h.outfits
  unfold rowFates at houtfits
  rw [filterMap_append, filterMap_map] at houtfits
  refine ⟨mapping, _, hmapping, houtfits, ?_⟩
  intro o ho
  rw [filterMap_map, mem_filterMap] at ho
  obtain ⟨selection, -, hplanned⟩ := ho
  exact planGap_planned hplanned

/-- The extracted outfits of a row are what becomes of the outfits of the draft. -/
theorem RowPlanned.extracted : ∃ mapping, (input.mappings.find? fun mapping =>
        mapping.draftRef = draftRowRef draft index) = some mapping ∧
      scene.extracted = draft.outfits.zipIdx.filterMap fun (outfit, ordinal) =>
        (planOutfit rules preview mapping input.decisions.categories index draft ordinal
          outfit).outfit? := by
  obtain ⟨mapping, gaps, hmapping, houtfits, hgaps⟩ := h.parts
  refine ⟨mapping, hmapping, ?_⟩
  unfold SceneApplyPlan.extracted
  rw [houtfits, filter_append]
  have hnone : (gaps.filter fun o => !o.fromContinuitySelection) = [] := by
    rw [filter_eq_nil_iff]
    intro o ho
    simp [(hgaps o ho).selected]
  rw [hnone, append_nil, filter_eq_self]
  intro o ho
  obtain ⟨_, -, hplanned⟩ := mem_filterMap.1 ho
  simp [(planOutfit_planned hplanned).extracted]

/-- Distinct extracted outfits of a row have distinct ordinals. -/
theorem RowPlanned.ordinals_nodup : (scene.extracted.map OutfitApplyPlan.ordinal).Nodup := by
  obtain ⟨mapping, -, hextracted⟩ := h.extracted
  rw [hextracted]
  refine (map_filterMap_sublist Prod.snd ?_ draft.outfits.zipIdx).nodup ?_
  · intro p o hplanned
    exact (planOutfit_planned hplanned).ordinal
  · rw [zipIdx_map_snd]
    exact nodup_range'

end

theorem pieceOffsets_getD {outfit} (hk : draft.outfits[k]? = some outfit) :
    (pieceOffsets draft)[k]?.getD 0 =
      ((draft.outfits.map fun outfit => (namedPieces outfit).length).take k).sum := by
  have hlt : k < (draft.outfits.map fun outfit => (namedPieces outfit).length).length := by
    rw [length_map]
    exact (List.getElem?_eq_some_iff.1 hk).1
  unfold pieceOffsets
  rw [startsFrom_getElem? 0 _ hlt, Option.getD_some, Nat.zero_add]

/-- The pieces of an outfit are numbered within the block of the outfit. -/
theorem pieceNumbers_sublist {outfit} (hk : draft.outfits[k]? = some outfit) :
    ((pieceNumbers draft k outfit).map Prod.snd).Sublist
      (range' ((draft.outfits.map fun outfit => (namedPieces outfit).length).take k).sum
        (namedPieces outfit).length) := by
  unfold pieceNumbers
  split
  · exact nil_sublist _
  · rw [zipIdx_map_snd, length_map, pieceOffsets_getD hk]

/-- Distinct pieces of a row have distinct ordinals. -/
theorem RowPlanned.pieces_nodup
    (h : RowPlanned rules preview input continuations (draft, index) scene) :
    (scene.outfits.flatMap fun o => o.pieces.map PieceApplyPlan.ordinal).Nodup := by
  obtain ⟨mapping, gaps, -, houtfits, hgaps⟩ := h.parts
  have hnone : (gaps.flatMap fun o => o.pieces.map PieceApplyPlan.ordinal) = [] := by
    rw [flatMap_eq_nil_iff]
    intro o ho
    rw [(hgaps o ho).pieces]
    rfl
  rw [houtfits, flatMap_append, hnone, append_nil, filterMap_eq_flatMap_toList, flatMap_assoc]
  refine (blocks_sublist draft.outfits (fun outfit => (namedPieces outfit).length)
    (fun outfit ordinal => (planOutfit rules preview mapping input.decisions.categories index draft
      ordinal outfit).outfit?.toList.flatMap fun o => o.pieces.map PieceApplyPlan.ordinal)
    ?_).nodup nodup_range'
  intro k outfit hk
  cases hplanned : (planOutfit rules preview mapping input.decisions.categories index draft k
    outfit).outfit? with
  | none => exact nil_sublist _
  | some o =>
    have hnumbers : o.pieces.map PieceApplyPlan.ordinal = (pieceNumbers draft k outfit).map Prod.snd := by
      rw [← (planOutfit_planned hplanned).pieces, map_map]
      rfl
    rw [Option.toList_some, flatMap_singleton, hnumbers]
    exact pieceNumbers_sublist hk

/-- The figures and beat ordinals of the extracted outfits are those of the preview. -/
theorem RowPlanned.beats_sublist
    (h : RowPlanned rules preview input continuations (draft, index) scene) :
    (scene.extracted.map fun o => (o.characterIdentity, o.beatOrdinal)).Sublist
      (draft.outfits.zipIdx.map fun p => (rules.characterIdentity p.1.characterName,
        (beatOrdinals rules preview (index, p.2)).getD 0)) := by
  obtain ⟨mapping, -, hextracted⟩ := h.extracted
  rw [hextracted]
  refine map_filterMap_sublist _ ?_ _
  intro p o hplanned
  have hnumbers := planOutfit_planned hplanned
  rw [hnumbers.figure, hnumbers.beatOrdinal]

end Row

/-- Every outfit of the preview has a place of its own. -/
theorem outfitSlots_nodup : ((outfitSlots rules preview).map Prod.fst).Nodup := by
  unfold outfitSlots
  rw [map_flatMap]
  simp only [map_map]
  exact nodup_positions preview.scenes DraftScene.outfits

/-- Distinct outfits of one figure have distinct beat ordinals. -/
theorem beats_nodup (rules preview) : ((outfitSlots rules preview).map fun slot =>
      (slot.2, (beatOrdinals rules preview slot.1).getD 0)).Nodup := by
  refine pairwise_map.2 ((Cursor.numbers_pairwise .start outfitSlots_nodup).imp ?_)
  intro a b hless heq
  obtain ⟨hkind, hnumber⟩ := Prod.mk.inj heq
  obtain ⟨m, n, hm, hn, hlt⟩ := hless hkind
  unfold beatOrdinals at hnumber
  rw [hm, hn] at hnumber
  have hsame : m = n := hnumber
  omega

section Plan

variable {plan : ScriptApplyPlan}

/-- The row a planned scene comes from. -/
theorem planSceneApply_row (h : planSceneApply rules preview input = .ok plan) {index scene}
    (hscene : plan.scenes[index]? = some scene) :
    ∃ continuations draft, preview.scenes[index]? = some draft ∧
      RowPlanned rules preview input continuations (draft, index) scene := by
  obtain ⟨continuations, hrows⟩ := planSceneApply_rows h
  obtain ⟨row, hrow, hplanned⟩ := exists_of_forall₂ hrows hscene
  rw [getElem?_zipIdx, Option.map_eq_some_iff] at hrow
  obtain ⟨draft, hdraft, rfl⟩ := hrow
  rw [Nat.zero_add] at hplanned
  exact ⟨continuations, draft, hdraft, hplanned⟩

/-- The extracted outfits of a planned scene are those planned of the outfits of its row. -/
theorem mem_extracted_iff (h : planSceneApply rules preview input = .ok plan) {index scene}
    (hscene : plan.scenes[index]? = some scene) (o) :
    o ∈ scene.extracted ↔ ∃ ordinal, plannedOutfit rules preview input index ordinal = some o := by
  obtain ⟨continuations, draft, hdraft, hrow⟩ := planSceneApply_row h hscene
  obtain ⟨mapping, hmapping, hextracted⟩ := hrow.extracted
  simp only [hextracted, mem_filterMap, Prod.exists, mem_zipIdx_iff_getElem?, plannedOutfit,
    hdraft, hmapping, Option.bind_eq_bind, Option.bind_some, Option.bind_eq_some_iff]
  exact exists_comm

/-- The numbers of the outfit that is planned of an outfit of the preview. -/
theorem plannedOutfit_numbers {index}
    (h : plannedOutfit rules preview input index ordinal = some o) :
    ∃ draft outfit, preview.scenes[index]? = some draft ∧ draft.outfits[ordinal]? = some outfit ∧
      ExtractedNumbers rules preview index draft ordinal outfit o := by
  simp only [plannedOutfit, Option.bind_eq_bind, Option.bind_eq_some_iff] at h
  obtain ⟨draft, hdraft, mapping, -, outfit, houtfit, hplanned⟩ := h
  exact ⟨draft, outfit, hdraft, houtfit, planOutfit_planned hplanned⟩

/-- The numbers of a synthesized outfit of a plan. -/
theorem selected_numbers (h : planSceneApply rules preview input = .ok plan) {index : Nat} {scene}
    (hscene : plan.scenes[index]? = some scene) (ho : o ∈ scene.outfits)
    (hselected : o.fromContinuitySelection) :
    ∃ draft, preview.scenes[index]? = some draft ∧ GapNumbers rules draft o := by
  obtain ⟨continuations, draft, hdraft, hrow⟩ := planSceneApply_row h hscene
  refine ⟨draft, hdraft, ?_⟩
  obtain ⟨mapping, gaps, -, houtfits, hgaps⟩ := hrow.parts
  rw [houtfits, mem_append, mem_filterMap] at ho
  obtain ⟨_, -, hplanned⟩ | ho := ho
  · have hextracted := (planOutfit_planned hplanned).extracted
    rw [hselected] at hextracted
    cases hextracted
  · exact hgaps o ho

/-- Distinct extracted outfits of one figure have distinct beat ordinals, across all rows. -/
theorem planned_beats_nodup (h : planSceneApply rules preview input = .ok plan) :
    ((plan.scenes.flatMap SceneApplyPlan.extracted).map fun o =>
      (o.characterIdentity, o.beatOrdinal)).Nodup := by
  obtain ⟨continuations, hrows⟩ := planSceneApply_rows h
  refine List.Sublist.nodup ?_ (beats_nodup rules preview)
  unfold outfitSlots
  rw [map_flatMap, map_flatMap]
  refine flatMap_sublist_of_forall₂ (hrows.imp ?_)
  rintro ⟨draft, index⟩ scene hrow
  rw [map_map]
  exact hrow.beats_sublist

end Plan

/-! ## §4. Two plans of one preview -/

/-- **THE KEYS DO NOT DEPEND ON THE REVIEWER.** Two plans of one preview, under any two sets of
decisions, agree on the draft reference, the ordinals and the piece numbers of every outfit of the
preview that both plan, and on the address of every gap that both fill. In a plan, the pieces of a
row, the extracted outfits of a row and the extracted outfits of a figure are numbered apart. -/
theorem planned_keys_stable {input₁ input₂ : PlanInput} {plan₁ plan₂ : ScriptApplyPlan}
    (h₁ : planSceneApply rules preview input₁ = .ok plan₁)
    (h₂ : planSceneApply rules preview input₂ = .ok plan₂) :
    -- what both plans have
    (∀ index scene₁ scene₂, plan₁.scenes[index]? = some scene₁ → plan₂.scenes[index]? = some scene₂ →
      scene₁.draftRef = scene₂.draftRef ∧
      (∀ ordinal o₁ o₂, plannedOutfit rules preview input₁ index ordinal = some o₁ →
        plannedOutfit rules preview input₂ index ordinal = some o₂ →
          o₁.ordinal = o₂.ordinal ∧ o₁.beatOrdinal = o₂.beatOrdinal ∧
            (o₁.pieces.map fun piece => (piece.name, piece.ordinal)) =
              o₂.pieces.map fun piece => (piece.name, piece.ordinal)) ∧
      ∀ o₁ ∈ scene₁.outfits, ∀ o₂ ∈ scene₂.outfits, o₁.fromContinuitySelection = true →
        o₂.fromContinuitySelection = true → o₁.characterIdentity = o₂.characterIdentity →
          o₁.ordinal = o₂.ordinal ∧ o₁.beatOrdinal = o₂.beatOrdinal) ∧
    -- what each plan has
    (∀ index scene, plan₁.scenes[index]? = some scene → (∀ o, o ∈ scene.extracted ↔
        ∃ ordinal, plannedOutfit rules preview input₁ index ordinal = some o) ∧
      (scene.outfits.flatMap fun o => o.pieces.map PieceApplyPlan.ordinal).Nodup ∧
      (scene.extracted.map OutfitApplyPlan.ordinal).Nodup) ∧
    ((plan₁.scenes.flatMap SceneApplyPlan.extracted).map fun o =>
      (o.characterIdentity, o.beatOrdinal)).Nodup := by
  refine ⟨?_, ?_, planned_beats_nodup h₁⟩
  · intro index scene₁ scene₂ hscene₁ hscene₂
    obtain ⟨_, draft, hdraft, hrow₁⟩ := planSceneApply_row h₁ hscene₁
    obtain ⟨_, draft', hdraft', hrow₂⟩ := planSceneApply_row h₂ hscene₂
    cases hdraft.symm.trans hdraft'
    refine ⟨hrow₁.draftRef.trans hrow₂.draftRef.symm, ?_, ?_⟩
    · intro ordinal o₁ o₂ ho₁ ho₂
      obtain ⟨d₁, outfit, hd₁, houtfit, hnumbers₁⟩ := plannedOutfit_numbers ho₁
      obtain ⟨d₂, outfit', hd₂, houtfit', hnumbers₂⟩ := plannedOutfit_numbers ho₂
      cases hd₁.symm.trans hd₂
      cases houtfit.symm.trans houtfit'
      exact ⟨hnumbers₁.ordinal.trans hnumbers₂.ordinal.symm,
        hnumbers₁.beatOrdinal.trans hnumbers₂.beatOrdinal.symm,
        hnumbers₁.pieces.trans hnumbers₂.pieces.symm⟩
    · intro o₁ ho₁ o₂ ho₂ hselected₁ hselected₂ hfigure
      obtain ⟨d₁, hd₁, hgap₁⟩ := selected_numbers h₁ hscene₁ ho₁ hselected₁
      obtain ⟨d₂, hd₂, hgap₂⟩ := selected_numbers h₂ hscene₂ ho₂ hselected₂
      cases hd₁.symm.trans hd₂
      obtain ⟨figure, hfind, hordinal, hbeat⟩ := hgap₁.address
      obtain ⟨figure', hfind', hordinal', hbeat'⟩ := hgap₂.address
      rw [hfigure, hfind'] at hfind
      cases hfind
      exact ⟨hordinal.trans hordinal'.symm, hbeat.trans hbeat'.symm⟩
  · intro index scene hscene
    obtain ⟨_, draft, -, hrow⟩ := planSceneApply_row h₁ hscene
    exact ⟨mem_extracted_iff h₁ hscene, hrow.pieces_nodup, hrow.ordinals_nodup⟩

/-- Anna and Ben meet, both dressed; then Anna waits in her coat, and Ben wears nothing extracted. -/
def annaAndBen : ScriptContext where
  scenes := [
    { draftRef := "r1", location := some "CAFE", summary := some "They meet."
      characters := [{ name := "ANNA" }, { name := "BEN" }]
      outfits := [
        { characterName := "Anna", name := "Red dress", notes := none, sourceQuote := "a red dress"
          origin := .explicitQuote, pieces := [⟨"Dress", none, none⟩, ⟨"Shoes", none, none⟩] },
        { characterName := "Ben", name := "Suit", notes := none, sourceQuote := "in a suit"
          origin := .explicitQuote, pieces := [⟨"Suit", some "Anzug", none⟩] }] },
    { location := some "PARK", summary := some "She waits for him."
      characters := [{ name := "ANNA" }, { name := "BEN" }]
      outfits := [
        { characterName := "Anna", name := "Coat", notes := none, sourceQuote := "her coat"
          origin := .explicitQuote, pieces := [⟨"Coat", none, none⟩] }] }]

/-- A review: some outfits of the first row rejected, and a look for Ben in the second. -/
def reviewed (rejected : List Nat) (candidate : OutfitContinuityCandidate) : PlanInput where
  mappings := [⟨"r1", .create, rejected.map (⟨·, false⟩)⟩, ⟨"scene-1", .create, []⟩]
  episodeId := ⟨1⟩
  previewId := ⟨2⟩
  decisions := { continuitySelections := [⟨1, "ben", candidate⟩] }
  newSceneId := fun index => ⟨BitVec.ofNat 128 (index + 10)⟩

/-- With Anna's dress rejected, Ben's suit keeps its numbers. -/
theorem planned_keys_stable_rejected : ∃ plan₁ plan₂ o₁ o₂,
    planSceneApply asciiRules annaAndBen (reviewed [0] .continued) = .ok plan₁ ∧
      planSceneApply asciiRules annaAndBen (reviewed [] .inferred) = .ok plan₂ ∧
      plannedOutfit asciiRules annaAndBen (reviewed [0] .continued) 0 1 = some o₁ ∧
      plannedOutfit asciiRules annaAndBen (reviewed [] .inferred) 0 1 = some o₂ ∧
      (o₁.ordinal = o₂.ordinal ∧ o₁.beatOrdinal = o₂.beatOrdinal ∧
        (o₁.pieces.map fun piece => (piece.name, piece.ordinal)) =
          o₂.pieces.map fun piece => (piece.name, piece.ordinal)) := by
  have hfirst : (planSceneApply asciiRules annaAndBen (reviewed [0] .continued)).toOption.bind
      (fun plan => plan.scenes[0]?.map fun _ => true) = some true := by
    decide +kernel
  have hsecond : (planSceneApply asciiRules annaAndBen (reviewed [] .inferred)).toOption.bind
      (fun plan => plan.scenes[0]?.map fun _ => true) = some true := by
    decide +kernel
  have hsuit₁ : (plannedOutfit asciiRules annaAndBen (reviewed [0] .continued) 0 1).isSome = true := by
    decide +kernel
  have hsuit₂ : (plannedOutfit asciiRules annaAndBen (reviewed [] .inferred) 0 1).isSome = true := by
    decide +kernel
  simp only [Option.bind_eq_some_iff, toOption_eq_some, Option.map_eq_some_iff] at hfirst hsecond
  obtain ⟨plan₁, hplan₁, scene₁, hscene₁, -⟩ := hfirst
  obtain ⟨plan₂, hplan₂, scene₂, hscene₂, -⟩ := hsecond
  obtain ⟨o₁, ho₁⟩ := Option.isSome_iff_exists.1 hsuit₁
  obtain ⟨o₂, ho₂⟩ := Option.isSome_iff_exists.1 hsuit₂
  obtain ⟨-, hextracted, -⟩ := (planned_keys_stable hplan₁ hplan₂).1 0 scene₁ scene₂ hscene₁ hscene₂
  exact ⟨plan₁, plan₂, o₁, o₂, hplan₁, hplan₂, ho₁, ho₂, hextracted 1 o₁ o₂ ho₁ ho₂⟩

end Breakdown.Ai
