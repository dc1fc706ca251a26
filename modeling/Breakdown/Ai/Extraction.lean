/-
**FROM A SCRIPT TO A PREVIEW, CHUNK BY CHUNK**
(`infra/src/ai/workers.rs`, `process_text`).

The document is cut at its scene headings; every chunk is sent to the model, and the answers are
merged into one preview. Rows are appended in order, so row `i` of an answer becomes row
`base + i` of the preview, `base` being the number of rows merged before (`answer_row_stored`). A
chunk without rows is replaced by one row built from its heading.

What the document scans found (`extract_scenes`, `extract_block_number`), the answers of the model
and the outcome of the continuity pass are inputs. Progress, usage, telemetry, the scoring pass
(it only writes scores) and the job queue are left out.

- `mergeAnswer_scenes_length`: every chunk adds at least one row;
- `mergeAnswer_uncertainties`: the reported uncertainties are appended AS THEY ARE, with the
  indices the model used inside its own answer;
- `reported_stored`: so that is what the stored preview holds.
-/
import Breakdown.Ai.Preview

namespace Breakdown.Ai

open Fallible List

/-! ## §1. Rows of one chunk -/

structure SceneChunk where
  index : Nat
  heading : String
  sceneNumber : Option Nat := none
  episode : Option DraftEpisode := none
  shootingDay : Option DraftShootingDay := none
  mood : Option String := none
  text : String

/-- What the deterministic scans read out of a document. -/
structure ScriptDocument where
  chunks : List SceneChunk
  blockNumber : Option Int

/-- The accumulators of the loop. -/
structure ExtractionState where
  context : ScriptContext
  sceneOrdinal : Nat
  scenesExtracted : Nat
  scenesSynthesized : Nat
  deriving DecidableEq

/-- `u32::saturating_add`. -/
def saturatingAdd32 (a b : Nat) : Nat := min (a + b) (2 ^ 32 - 1)

/-- The episode of a row: the scanned one wins, a title of the model survives when the scan has none
and the numbers agree. -/
def effectiveEpisode (chunk : SceneChunk) (scene : DraftScene) : Option DraftEpisode :=
  match chunk.episode with
  | some scanned =>
    let modelTitle := (scene.episode.filter (·.number = scanned.number)).bind (·.title)
    some { scanned with title := scanned.title.or modelTitle }
  | none => scene.episode

/-- The shooting day of a row: the scanned one, the model's, or the model's script day read as one. -/
def effectiveShootingDay (rules : TextRules) (chunk : SceneChunk) (scene : DraftScene) :
    Option DraftShootingDay :=
  match chunk.shootingDay with
  | some scanned => some scanned
  | none => scene.shootingDay.or (scene.scriptDay.bind rules.parseScriptDay)

/-- Everything `process_text` does to one row of an answer before it is pushed. -/
def prepareRow (rules : TextRules) (chunk : SceneChunk) (sceneOrdinal indexInChunk : Nat)
    (scene : DraftScene) : DraftScene × List RejectedOutfit :=
  let row := { scene with
    draftRef := stableDraftRef sceneOrdinal chunk.heading indexInChunk
    -- only the first row of a chunk is the heading's own scene
    sceneNumber := if indexInChunk = 0 then scene.sceneNumber.or chunk.sceneNumber
      else scene.sceneNumber
    mood := if indexInChunk = 0 then scene.mood.or chunk.mood else scene.mood
    episode := effectiveEpisode chunk scene
    shootingDay := effectiveShootingDay rules chunk scene }
  rules.verifyDraftOutfits (rules.sanitizeMetaSummary row).1 (chunk.heading ++ "\n" ++ chunk.text)

/-- The uncertainty that records a dropped outfit. -/
def droppedOutfit (rules : TextRules) (sceneIndex : Nat) (draftRef : String)
    (rejected : RejectedOutfit) : Uncertainty where
  sceneIndex := sceneIndex
  field := "outfits"
  note := rejected.reason.asStr ++ ": outfit of " ++ rules.debugStr rejected.characterName ++ " (" ++
    rules.debugStr rejected.name ++ ") was dropped; row " ++ draftRef
  suggestedValue := some rejected.name
  kind := .droppedRow

/-- Push one row, its dropped outfits first; they name the index the row is about to get. -/
def pushRow (rules : TextRules) (chunk : SceneChunk) (st : ExtractionState)
    (indexed : DraftScene × Nat) : ExtractionState :=
  let prepared := prepareRow rules chunk (st.sceneOrdinal + 1) indexed.2 indexed.1
  { st with
    sceneOrdinal := st.sceneOrdinal + 1
    context := { st.context with
      uncertainties := st.context.uncertainties ++
        prepared.2.map (droppedOutfit rules st.context.scenes.length prepared.1.draftRef)
      scenes := st.context.scenes ++ [prepared.1] } }

/-- What the answer says about the document as a whole: the first title wins, the block number only
fills a gap. -/
def mergeHeader (answer : ScriptContext) (st : ExtractionState) : ExtractionState := { st with
    scenesExtracted := saturatingAdd32 st.scenesExtracted answer.scenes.length
    context := { st.context with
      title := st.context.title.or answer.title
      blockNumber := st.context.blockNumber.or answer.blockNumber } }

/-- The state after the rows of an answer, right before its uncertainties are taken over. -/
def afterRows (rules : TextRules) (chunk : SceneChunk) (answer : ScriptContext)
    (st : ExtractionState) : ExtractionState :=
  answer.scenes.zipIdx.foldl (pushRow rules chunk) (mergeHeader answer st)

/-- The row of a chunk for which the model returned none. -/
def synthesizeRow (rules : TextRules) (chunk : SceneChunk) (st : ExtractionState) :
    ExtractionState :=
  { st with
    scenesSynthesized := saturatingAdd32 st.scenesSynthesized 1
    sceneOrdinal := st.sceneOrdinal + 1
    context := { st.context with
      uncertainties := st.context.uncertainties ++ [{
        sceneIndex := st.context.scenes.length
        field := "extraction"
        note := "chunk produced no rows; row carries document metadata only (heading " ++
          rules.debugStr chunk.heading ++ ")"
        suggestedValue := none
        kind := .droppedRow }]
      scenes := st.context.scenes ++ [{
        draftRef := stableDraftRef (st.sceneOrdinal + 1) chunk.heading 0
        sceneNumber := chunk.sceneNumber
        mood := chunk.mood
        episode := chunk.episode
        shootingDay := chunk.shootingDay }] } }

/-- Merge the answer of one chunk. -/
def mergeAnswer (rules : TextRules) (chunk : SceneChunk) (answer : ScriptContext)
    (st : ExtractionState) : ExtractionState :=
  let rows := afterRows rules chunk answer st
  -- `context.uncertainties.extend(partial.uncertainties)`
  let merged := { rows with
    context := { rows.context with
      uncertainties := rows.context.uncertainties ++ answer.uncertainties } }
  if answer.scenes.length = 0 then synthesizeRow rules chunk merged else merged

/-! ## §2. The whole document -/

/-- The loop over the chunks; `answers c` is what the model call for chunk `c` ends with. The first
failure fails the job. -/
def mergeChunks (rules : TextRules) (answers : Nat → Except DomainError ScriptContext) :
    (c : Nat) → List SceneChunk → ExtractionState → Except DomainError ExtractionState
  | _, [], st => .ok st
  | c, chunk :: rest, st => do
      let answer ← answers c
      mergeChunks rules answers (c + 1) rest (mergeAnswer rules chunk answer st)

/-- What the outfit-continuity pass decided: looks to attach to rows, and uncertainties. -/
structure ContinuityPass where
  attached : List (Nat × DraftOutfit)
  uncertainties : List Uncertainty

/-- Attach a look to a row, never a second one for the same figure. -/
def attachOutfit (rules : TextRules) (scenes : List DraftScene) (look : Nat × DraftOutfit) :
    List DraftScene :=
  scenes.modify look.1 fun scene =>
    if scene.outfits.any fun existing =>
        rules.characterIdentity existing.characterName =
          rules.characterIdentity look.2.characterName
    then scene else { scene with outfits := scene.outfits ++ [look.2] }

/-- `run_outfit_continuity_pass`, without the calls it makes. -/
def runOutfitContinuityPass (rules : TextRules) (pass : ContinuityPass) (context : ScriptContext) :
    ScriptContext :=
  { context with
    scenes := pass.attached.foldl (attachOutfit rules) context.scenes
    uncertainties := context.uncertainties ++ pass.uncertainties }

/-- After the loop: the continuity pass, the category conflicts, the counters. -/
def finishPreview (rules : TextRules) (doc : ScriptDocument)
    (continuity : ScriptContext → ContinuityPass) (st : ExtractionState) : ScriptContext :=
  let context := runOutfitContinuityPass rules (continuity st.context) st.context
  { context with
    uncertainties := context.uncertainties ++ rules.categoryConflictUncertainties context
    scenesDetected := doc.chunks.length
    scenesExtracted := st.scenesExtracted
    scenesSynthesized := st.scenesSynthesized }

/-- The preview starts with the block the document states. -/
def startExtraction (doc : ScriptDocument) : ExtractionState where
  context := { blockNumber := doc.blockNumber }
  sceneOrdinal := 0
  scenesExtracted := 0
  scenesSynthesized := 0

/-- The checks in front of the loop. -/
def checkDocument (doc : ScriptDocument) (maxChunksPerScript : Nat) : Except DomainError Unit := do
  ensure (doc.chunks.length < 2 ^ 32) (.validation .domainValidation
    "script chunk count exceeds telemetry range: out of range integral type conversion attempted")
  ensure (doc.chunks.length ≤ maxChunksPerScript) (.validation .domainValidation
    ("script contains " ++ toString doc.chunks.length ++
      " chunks, exceeding max_chunks_per_script " ++ toString maxChunksPerScript))
  ensure (!doc.chunks.isEmpty) (.validation .domainValidation
    "script did not contain an INT./EXT. scene heading")

/-- `process_text`, up to the preview it stores. -/
def processText (rules : TextRules) (doc : ScriptDocument) (maxChunksPerScript : Nat)
    (answers : Nat → Except DomainError ScriptContext)
    (continuity : ScriptContext → ContinuityPass) : Except DomainError ScriptContext := do
  checkDocument doc maxChunksPerScript
  let st ← mergeChunks rules answers 0 doc.chunks (startExtraction doc)
  .ok (finishPreview rules doc continuity st)

/-! ## §3. What one chunk adds -/

section Merge

variable {rules : TextRules} {chunk : SceneChunk} {answer : ScriptContext} {st : ExtractionState}

/-- The reference of a row never changes once it is pushed. -/
theorem prepareRow_draftRef (scene ordinal i) :
    (prepareRow rules chunk ordinal i scene).1.draftRef = stableDraftRef ordinal chunk.heading i := by
  simp only [prepareRow, TextRules.verifyDraftOutfits, TextRules.sanitizeMetaSummary]
  split
  · split <;> rfl
  · rfl

theorem pushRows (rows : List (DraftScene × Nat)) (st) :
    (rows.foldl (pushRow rules chunk) st).context.scenes.length =
        st.context.scenes.length + rows.length ∧
      (rows.foldl (pushRow rules chunk) st).sceneOrdinal = st.sceneOrdinal + rows.length ∧
      st.context.uncertainties <+: (rows.foldl (pushRow rules chunk) st).context.uncertainties := by
  induction rows generalizing st with
  | nil => exact ⟨rfl, rfl, prefix_rfl⟩
  | cons row rest ih =>
    obtain ⟨hlen, hord, hpre⟩ := ih (pushRow rules chunk st row)
    rw [foldl_cons]
    refine ⟨?_, ?_, ?_⟩
    · rw [hlen]
      simp only [pushRow, length_append, length_cons, length_nil]
      omega
    · rw [hord]
      simp only [pushRow, length_cons]
      omega
    · exact (prefix_append _ _).trans hpre

theorem afterRows_scenes_length : (afterRows rules chunk answer st).context.scenes.length =
      st.context.scenes.length + answer.scenes.length := by
  rw [afterRows, (pushRows _ _).1, length_zipIdx]
  rfl

theorem afterRows_keeps_uncertainties :
    st.context.uncertainties <+: (afterRows rules chunk answer st).context.uncertainties :=
  (pushRows answer.scenes.zipIdx (mergeHeader answer st)).2.2

/-- **EVERY CHUNK ADDS AT LEAST ONE ROW.** -/
theorem mergeAnswer_scenes_length : (mergeAnswer rules chunk answer st).context.scenes.length =
      st.context.scenes.length + max 1 answer.scenes.length := by
  have hrows := @afterRows_scenes_length rules chunk answer st
  simp only [mergeAnswer]
  split
  · next hzero =>
    simp only [synthesizeRow, length_append, length_cons, length_nil, hrows]
    omega
  · next hpos =>
    rw [hrows]
    omega

/-- **THE REPORTED UNCERTAINTIES ARE APPENDED AS THEY ARE**, right after the rows. -/
theorem mergeAnswer_uncertainties :
    (afterRows rules chunk answer st).context.uncertainties ++ answer.uncertainties <+:
      (mergeAnswer rules chunk answer st).context.uncertainties := by
  simp only [mergeAnswer]
  split
  · exact prefix_append _ _
  · exact prefix_rfl

/-- The references of the rows, in order. -/
def rowRefs (context : ScriptContext) : List String := context.scenes.map (·.draftRef)

/-- Rows get consecutive ordinals: `o` is the ordinal reached before row `0` of the chunk. -/
theorem pushRows_rowRefs (o) (rows : List DraftScene) (k st) (ho : st.sceneOrdinal = o + k) :
    rowRefs ((rows.zipIdx k).foldl (pushRow rules chunk) st).context = rowRefs st.context ++
      (rows.zipIdx k).map fun row => stableDraftRef (o + row.2 + 1) chunk.heading row.2 := by
  induction rows generalizing k st with
  | nil => simp [rowRefs]
  | cons scene rest ih =>
    have hnext : (pushRow rules chunk st (scene, k)).sceneOrdinal = o + (k + 1) := by
      simp only [pushRow]
      omega
    have hpush : rowRefs (pushRow rules chunk st (scene, k)).context =
        rowRefs st.context ++ [stableDraftRef (o + k + 1) chunk.heading k] := by
      simp only [rowRefs, pushRow, map_append, map_cons, map_nil, prepareRow_draftRef, ho]
    rw [zipIdx_cons, foldl_cons, ih (k + 1) _ hnext, hpush]
    simp

theorem afterRows_rowRefs :
    rowRefs (afterRows rules chunk answer st).context = rowRefs st.context ++
      answer.scenes.zipIdx.map fun row =>
        stableDraftRef (st.sceneOrdinal + row.2 + 1) chunk.heading row.2 :=
  pushRows_rowRefs st.sceneOrdinal answer.scenes 0 (mergeHeader answer st) rfl

theorem mergeAnswer_rowRefs : rowRefs (afterRows rules chunk answer st).context <+:
      rowRefs (mergeAnswer rules chunk answer st).context := by
  simp only [mergeAnswer]
  split
  · simp only [rowRefs, synthesizeRow, map_append]
    exact prefix_append _ _
  · exact prefix_rfl

theorem mergeAnswer_sceneOrdinal : (mergeAnswer rules chunk answer st).sceneOrdinal =
      st.sceneOrdinal + max 1 answer.scenes.length := by
  have hrows : (afterRows rules chunk answer st).sceneOrdinal =
      st.sceneOrdinal + answer.scenes.length := by
    rw [afterRows, (pushRows _ _).2.1, length_zipIdx]
    rfl
  simp only [mergeAnswer]
  split
  · simp only [synthesizeRow, hrows]
    omega
  · rw [hrows]
    omega

end Merge

/-! ## §4. What a run adds -/

/-- What merging chunks never undoes: rows and uncertainties are only appended, and the ordinal
counts the rows. -/
structure Extends (st st' : ExtractionState) : Prop where
  rows : rowRefs st.context <+: rowRefs st'.context
  uncertainties : st.context.uncertainties <+: st'.context.uncertainties
  numbered : st.sceneOrdinal = st.context.scenes.length →
    st'.sceneOrdinal = st'.context.scenes.length

theorem Extends.refl (st) : Extends st st := ⟨prefix_rfl, prefix_rfl, id⟩

theorem Extends.trans (hab : Extends a b) (hbc : Extends b c) : Extends a c :=
  ⟨hab.rows.trans hbc.rows, hab.uncertainties.trans hbc.uncertainties, hbc.numbered ∘ hab.numbered⟩

theorem mergeAnswer_extends (rules chunk answer st) : Extends st (mergeAnswer rules chunk answer st) where
  rows := by
    refine List.IsPrefix.trans ?_ mergeAnswer_rowRefs
    rw [afterRows_rowRefs]
    exact prefix_append _ _
  uncertainties :=
    (afterRows_keeps_uncertainties.trans (prefix_append _ _)).trans mergeAnswer_uncertainties
  numbered hnum := by
    rw [mergeAnswer_sceneOrdinal, mergeAnswer_scenes_length, hnum]

section Run

variable {rules : TextRules} {answers : Nat → Except DomainError ScriptContext}

theorem mergeChunks_append (c first rest st) : mergeChunks rules answers c (first ++ rest) st =
      (mergeChunks rules answers c first st >>=
        mergeChunks rules answers (c + first.length) rest) := by
  induction first generalizing c st with
  | nil => rfl
  | cons chunk first ih =>
    simp only [cons_append, mergeChunks, length_cons]
    cases answers c with
    | error => rfl
    | ok => simp only [ok_bind, ih, Nat.add_assoc, Nat.add_comm 1]

/-- A run that succeeds only extends, and adds a row per chunk at least. -/
theorem mergeChunks_extends (h : mergeChunks rules answers c chunks st = .ok final) :
    Extends st final ∧ st.context.scenes.length + chunks.length ≤ final.context.scenes.length := by
  induction chunks generalizing c st with
  | nil =>
    cases h
    exact ⟨Extends.refl _, le_rfl⟩
  | cons chunk rest ih =>
    obtain ⟨answer, -, hrest⟩ := seq_eq_ok.mp h
    obtain ⟨hext, hlen⟩ := ih hrest
    refine ⟨(mergeAnswer_extends rules chunk answer st).trans hext, ?_⟩
    rw [mergeAnswer_scenes_length] at hlen
    rw [length_cons]
    omega

end Run

/-- **THE LOOP AT CHUNK `c`**: the chunk, the answer of the model, and the state it is merged
into. -/
structure AtChunk (rules : TextRules) (doc : ScriptDocument)
    (answers : Nat → Except DomainError ScriptContext) (c : Nat) (chunk : SceneChunk)
    (answer : ScriptContext) (st : ExtractionState) : Prop where
  isChunk : doc.chunks[c]? = some chunk
  isAnswer : answers c = .ok answer
  reached : mergeChunks rules answers 0 (doc.chunks.take c) (startExtraction doc) = .ok st

section Document

variable {rules : TextRules} {doc : ScriptDocument}
  {answers : Nat → Except DomainError ScriptContext} {c : Nat} {chunk : SceneChunk}
  {answer : ScriptContext} {st final : ExtractionState}

theorem getElem?_of_isPrefix {α : Type} {xs ys} (hpre : xs <+: ys) {i : Nat} {x : α}
    (hx : xs[i]? = some x) : ys[i]? = some x := by
  obtain ⟨hlt, rfl⟩ := List.getElem?_eq_some_iff.mp hx
  exact prefix_iff_getElem?.mp hpre i hlt

theorem chunks_split (hchunk : doc.chunks[c]? = some chunk) :
    doc.chunks = doc.chunks.take c ++ chunk :: doc.chunks.drop (c + 1) := by
  obtain ⟨hlt, rfl⟩ := List.getElem?_eq_some_iff.mp hchunk
  rw [← drop_eq_getElem_cons hlt, take_append_drop]

/-- Every chunk of a finished run was answered and merged. -/
theorem exists_atChunk
    (hrun : mergeChunks rules answers 0 doc.chunks (startExtraction doc) = .ok final)
    (hchunk : doc.chunks[c]? = some chunk) :
    ∃ answer st, AtChunk rules doc answers c chunk answer st := by
  have hlt : c < doc.chunks.length := (List.getElem?_eq_some_iff.mp hchunk).1
  rw [chunks_split hchunk, mergeChunks_append, seq_eq_ok] at hrun
  obtain ⟨st, hreached, hrest⟩ := hrun
  obtain ⟨answer, hanswer, -⟩ := seq_eq_ok.mp hrest
  rw [length_take, Nat.min_eq_left hlt.le, Nat.zero_add] at hanswer
  exact ⟨answer, st, hchunk, hanswer, hreached⟩

section

variable (h : AtChunk rules doc answers c chunk answer st)
include h

/-- What chunk `c` merged is still there at the end. -/
theorem AtChunk.extends_final (hrun : mergeChunks rules answers 0 doc.chunks
    (startExtraction doc) = .ok final) : Extends (mergeAnswer rules chunk answer st) final := by
  have hlt : c < doc.chunks.length := (List.getElem?_eq_some_iff.mp h.isChunk).1
  rw [chunks_split h.isChunk, mergeChunks_append, h.reached, ok_bind] at hrun
  obtain ⟨answer', hanswer, hrest⟩ := seq_eq_ok.mp hrun
  rw [length_take, Nat.min_eq_left hlt.le, Nat.zero_add, h.isAnswer] at hanswer
  cases hanswer
  exact (mergeChunks_extends hrest).1

/-- Chunk `c` is merged into at least `c` rows. -/
theorem AtChunk.le_scenes_length : c ≤ st.context.scenes.length := by
  have hlt : c < doc.chunks.length := (List.getElem?_eq_some_iff.mp h.isChunk).1
  have hrows := (mergeChunks_extends h.reached).2
  rw [length_take, Nat.min_eq_left hlt.le] at hrows
  exact (Nat.le_add_left _ _).trans hrows

theorem AtChunk.numbered : st.sceneOrdinal = st.context.scenes.length :=
  (mergeChunks_extends h.reached).1.numbered rfl

end

theorem attachOutfits_rowRefs (looks : List (Nat × DraftOutfit)) (scenes) :
    (looks.foldl (attachOutfit rules) scenes).map (·.draftRef) = scenes.map (·.draftRef) := by
  induction looks generalizing scenes with
  | nil => rfl
  | cons look rest ih =>
    rw [foldl_cons, ih]
    apply ext_getElem?
    intro i
    simp only [attachOutfit, getElem?_map, getElem?_modify, Option.map_eq_map, Option.map_map]
    apply Option.map_congr
    intro scene _
    simp only [Function.comp]
    split
    · split <;> rfl
    · rfl

variable {maxChunks : Nat} {continuity : ScriptContext → ContinuityPass} {preview : ScriptContext}

section

variable (h : processText rules doc maxChunks answers continuity = .ok preview)
include h

/-- A preview is what the loop left, finished. -/
theorem processText_ok :
    ∃ final, mergeChunks rules answers 0 doc.chunks (startExtraction doc) = .ok final ∧
      rowRefs preview = rowRefs final.context ∧
      final.context.uncertainties <+: preview.uncertainties := by
  simp only [processText, seq_eq_ok] at h
  obtain ⟨-, -, final, hrun, hfinish⟩ := h
  cases hfinish
  refine ⟨final, hrun, attachOutfits_rowRefs _ _, ?_⟩
  simp only [finishPreview, runOutfitContinuityPass, append_assoc]
  exact prefix_append _ _

/-- **A ROW KEEPS ITS PLACE**: row `i` of the answer of a chunk is row `base + i` of the preview,
where `base` rows were merged before. -/
theorem answer_row_stored (hat : AtChunk rules doc answers c chunk answer st) {i : Nat} (hi :
    i < answer.scenes.length) : (rowRefs preview)[st.context.scenes.length + i]? =
      some (stableDraftRef (st.context.scenes.length + i + 1) chunk.heading i) := by
  obtain ⟨final, hrun, hrefs, -⟩ := processText_ok h
  have hpre : rowRefs (afterRows rules chunk answer st).context <+: rowRefs preview := by
    rw [hrefs]
    exact mergeAnswer_rowRefs.trans (hat.extends_final hrun).rows
  have hbase : (rowRefs st.context).length = st.context.scenes.length := length_map _
  have hrow : (rowRefs (afterRows rules chunk answer st).context)[st.context.scenes.length + i]? =
      some (stableDraftRef (st.context.scenes.length + i + 1) chunk.heading i) := by
    rw [afterRows_rowRefs, getElem?_append_right (by omega), hbase, Nat.add_sub_cancel_left,
      hat.numbered]
    simp [hi]
  exact getElem?_of_isPrefix hpre hrow

/-- **WHAT IS STORED OF A REPORTED UNCERTAINTY**: the copy behind the rows of its chunk is the
report itself. -/
theorem reported_stored (hat : AtChunk rules doc answers c chunk answer st) {k} {u : Uncertainty}
    (hu : answer.uncertainties[k]? = some u) : preview.uncertainties[
      (afterRows rules chunk answer st).context.uncertainties.length + k]? = some u := by
  obtain ⟨final, hrun, -, hfinal⟩ := processText_ok h
  have hpre := (mergeAnswer_uncertainties.trans (hat.extends_final hrun).uncertainties).trans hfinal
  refine getElem?_of_isPrefix hpre ?_
  rw [getElem?_append_right (Nat.le_add_right _ _), Nat.add_sub_cancel_left, hu]

end

end Document

end Breakdown.Ai
