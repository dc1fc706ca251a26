/-
**WHAT THE DECISION MODEL IS ASKED ABOUT EACH CHUNK**
(`infra/src/ai/workers.rs`, `process_text`; `infra/src/ai/decision_scoring.rs`,
`score_script_chunk`).

With a Decision Model configured, the loop over the chunks keeps two vectors beside the preview: for
each row whether its summary was dropped as a meta-summary, and how many of its outfits were. After
the rows of a chunk are pushed, everything from the chunk's first row on is handed to the scoring
call. The row that stands in for a chunk without rows is pushed behind the call — to the preview,
but to neither vector.

The scores themselves are left out: they are written to fields that nothing here reads.

- `scoreText_preview`: apart from a panic, the preview is that of `processText`;
- `scoring_aligned`: every slice is in bounds and every call gets the signals of its own rows
  EXACTLY when no chunk without rows is followed by another answer;
- `scoring_misaligned`: otherwise a call gets the signals of other rows, or the loop panics.
-/
import Breakdown.Ai.Uncertainties

namespace Breakdown.Ai

open Fallible List

/-! ## §1. The signals of a row -/

/-- Whether the guard dropped the summary of the row. -/
def wasSanitized (rules : TextRules) (scene : DraftScene) : Bool :=
  (rules.sanitizeMetaSummary scene).2

/-- How many outfits of the row the grounding check drops. -/
def outfitsDropped (rules : TextRules) (chunk : SceneChunk) (scene : DraftScene) : Nat :=
  (rules.verifyDraftOutfits scene (chunk.heading ++ "\n" ++ chunk.text)).2.length

/-- The guard touches the summary only. -/
theorem sanitizeMetaSummary_keeps (rules : TextRules) (scene) :
    (rules.sanitizeMetaSummary scene).1.characters = scene.characters ∧
      (rules.sanitizeMetaSummary scene).1.outfits = scene.outfits := by
  unfold TextRules.sanitizeMetaSummary
  split
  · split <;> exact ⟨rfl, rfl⟩
  · exact ⟨rfl, rfl⟩

/-- The check reads the characters and the outfits of the row, and these are the model's own. -/
theorem prepareRow_rejected_length (rules : TextRules) (chunk ordinal i scene) :
    (prepareRow rules chunk ordinal i scene).2.length = outfitsDropped rules chunk scene := by
  simp only [prepareRow, outfitsDropped, TextRules.verifyDraftOutfits, sanitizeMetaSummary_keeps]

/-! ## §2. The loop -/

/-- The extraction and its two vectors. -/
structure ScoringState where
  extraction : ExtractionState
  sanitizedFlags : List Bool
  droppedCostumes : List Nat
  deriving DecidableEq

/-- Push a row and its signals. Nothing between the answer and the guard touches the summary. -/
def pushScoredRow (rules : TextRules) (chunk : SceneChunk) (st : ScoringState)
    (indexed : DraftScene × Nat) : ScoringState where
  extraction := pushRow rules chunk st.extraction indexed
  sanitizedFlags := st.sanitizedFlags ++ [wasSanitized rules indexed.1]
  droppedCostumes := st.droppedCostumes ++
    [(prepareRow rules chunk (st.extraction.sceneOrdinal + 1) indexed.2 indexed.1).2.length]

/-- `&xs[start..]`, which panics when `start` is past the end. -/
def sliceFrom {α : Type} (xs : List α) (start : Nat) : Option (List α) :=
  if start ≤ xs.length then some (xs.drop start) else none

/-- The arguments of one call of `score_script_chunk`. -/
structure ScoreCall where
  heading : String
  text : String
  chunkSceneNumber : Option Nat
  chunkMood : Option String
  chunkDay : Option DraftShootingDay
  scenes : List DraftScene
  sanitized : List Bool
  droppedCostumes : List Nat
  openAmbiguities : List Nat

/-- How many blocking uncertainties each row from `first` on has. -/
def openAmbiguities (context : ScriptContext) (first : Nat) : List Nat :=
  (List.range' first (context.scenes.length - first)).map fun sceneIndex =>
    context.uncertainties.countP fun u => u.sceneIndex == sceneIndex && u.kind.blocksApply

/-- Take the chunk's part of the preview and of both vectors. -/
def scoreCall (chunk : SceneChunk) (first : Nat) (st : ScoringState) : Option ScoreCall := do
  let sanitized ← sliceFrom st.sanitizedFlags first
  let droppedCostumes ← sliceFrom st.droppedCostumes first
  some {
    heading := chunk.heading
    text := chunk.text
    chunkSceneNumber := chunk.sceneNumber
    chunkMood := chunk.mood
    chunkDay := chunk.shootingDay
    scenes := st.extraction.context.scenes.drop first
    sanitized
    droppedCostumes
    openAmbiguities := openAmbiguities st.extraction.context first }

/-- The rows and the uncertainties of an answer. -/
def pushAnswer (rules : TextRules) (chunk : SceneChunk) (answer : ScriptContext)
    (st : ScoringState) : ScoringState :=
  let rows := answer.scenes.zipIdx.foldl (pushScoredRow rules chunk)
    { st with extraction := mergeHeader answer st.extraction }
  { rows with
    extraction := { rows.extraction with
      context := { rows.extraction.context with
        uncertainties := rows.extraction.context.uncertainties ++ answer.uncertainties } } }

/-- Behind the scoring call: the row for a chunk without rows. -/
def fillEmptyChunk (rules : TextRules) (chunk : SceneChunk) (answer : ScriptContext)
    (st : ScoringState) : ScoringState :=
  if answer.scenes.length = 0 then { st with extraction := synthesizeRow rules chunk st.extraction }
  else st

inductive ScoringEnd
  | finished (st : ScoringState)
  | failed (error : DomainError)
  /-- A slice was out of bounds. -/
  | panicked
  deriving DecidableEq

/-- The loop over the chunks, with the scoring calls it makes: one for every answered chunk. -/
def scoreChunks (rules : TextRules) (answers : Nat → Except DomainError ScriptContext) :
    (c : Nat) → List SceneChunk → ScoringState → List ScoreCall × ScoringEnd
  | _, [], st => ([], .finished st)
  | c, chunk :: rest, st =>
    match answers c with
    | .error error => ([], .failed error)
    | .ok answer =>
      let pushed := pushAnswer rules chunk answer st
      match scoreCall chunk st.extraction.context.scenes.length pushed with
      | none => ([], .panicked)
      | some call =>
        let later := scoreChunks rules answers (c + 1) rest (fillEmptyChunk rules chunk answer pushed)
        (call :: later.1, later.2)

/-- `process_text` with a Decision Model, up to the end of the loop. -/
def scoreText (rules : TextRules) (doc : ScriptDocument) (maxChunksPerScript : Nat)
    (answers : Nat → Except DomainError ScriptContext) : List ScoreCall × ScoringEnd :=
  match checkDocument doc maxChunksPerScript with
  | .error error => ([], .failed error)
  | .ok () => scoreChunks rules answers 0 doc.chunks ⟨startExtraction doc, [], []⟩

/-! ## §3. One chunk -/

section Chunk

variable {rules : TextRules} {chunk : SceneChunk} {answer : ScriptContext} {st : ScoringState}

theorem pushScoredRows (rows : List (DraftScene × Nat)) (st) :
    rows.foldl (pushScoredRow rules chunk) st = ⟨rows.foldl (pushRow rules chunk) st.extraction,
        st.sanitizedFlags ++ rows.map fun row => wasSanitized rules row.1,
        st.droppedCostumes ++ rows.map fun row => outfitsDropped rules chunk row.1⟩ := by
  induction rows generalizing st with
  | nil => simp
  | cons row rest ih =>
    rw [foldl_cons, ih]
    simp [pushScoredRow, prepareRow_rejected_length]

/-- Every row of the answer adds one flag and one count. -/
theorem pushAnswer_signals : (pushAnswer rules chunk answer st).sanitizedFlags =
        st.sanitizedFlags ++ answer.scenes.map (wasSanitized rules) ∧
      (pushAnswer rules chunk answer st).droppedCostumes =
        st.droppedCostumes ++ answer.scenes.map (outfitsDropped rules chunk) := by
  have hrows : ∀ {β : Type} (f : DraftScene → β),
      (answer.scenes.zipIdx.map fun row => f row.1) = answer.scenes.map f := by
    intro β f
    rw [← Function.comp_def, comp_map, zipIdx_map_fst]
  simp only [pushAnswer, pushScoredRows, hrows, and_self]

/-- And one row to the preview. -/
theorem pushAnswer_scenes_length :
    (pushAnswer rules chunk answer st).extraction.context.scenes.length =
      st.extraction.context.scenes.length + answer.scenes.length := by
  simp only [pushAnswer, pushScoredRows]
  exact afterRows_scenes_length

/-- The extraction goes on as it does without a Decision Model. -/
theorem nextChunk_extraction :
    (fillEmptyChunk rules chunk answer (pushAnswer rules chunk answer st)).extraction =
      mergeAnswer rules chunk answer st.extraction := by
  unfold fillEmptyChunk mergeAnswer
  simp only [pushAnswer, pushScoredRows, afterRows]
  split <;> rfl

/-- The vectors have one entry per row, but for `gap` rows they know nothing about. -/
structure Behind (gap : Nat) (st : ScoringState) : Prop where
  flags : st.extraction.context.scenes.length = st.sanitizedFlags.length + gap
  costumes : st.extraction.context.scenes.length = st.droppedCostumes.length + gap

/-- The chunk leaves the vectors as far behind as they were, or one row further. -/
theorem Behind.nextChunk (h : Behind gap st) : Behind (if answer.scenes = [] then gap + 1 else gap)
      (fillEmptyChunk rules chunk answer (pushAnswer rules chunk answer st)) := by
  have hsignals := @pushAnswer_signals rules chunk answer st
  have hscenes := @pushAnswer_scenes_length rules chunk answer st
  have hflags := h.flags
  have hcostumes := h.costumes
  by_cases hnil : answer.scenes = []
  · rw [if_pos hnil]
    constructor <;>
      · simp only [fillEmptyChunk, hnil, length_nil, if_true, synthesizeRow, length_append,
          length_singleton, hsignals.1, hsignals.2, map_nil, append_nil]
        rw [hscenes, hnil, length_nil]
        omega
  · have hpos : answer.scenes.length ≠ 0 := fun h0 => hnil (length_eq_zero_iff.mp h0)
    rw [if_neg hnil]
    constructor <;>
      · simp only [fillEmptyChunk, hpos, if_false, hsignals.1, hsignals.2, length_append,
          length_map, hscenes]
        omega

/-- **A CALL ABOUT ITS OWN ROWS**: the rows of the chunk, with the signals of each, in order. -/
structure AlignedCall (rules : TextRules) (chunk : SceneChunk) (answer : ScriptContext)
    (call : ScoreCall) : Prop where
  rows : call.scenes.length = answer.scenes.length
  sanitized : call.sanitized = answer.scenes.map (wasSanitized rules)
  droppedCostumes : call.droppedCostumes = answer.scenes.map (outfitsDropped rules chunk)

/-- The slice starts `gap` rows too late. -/
theorem sliceFrom_append (h : first = old.length + gap) :
    sliceFrom (old ++ new) first = if gap ≤ new.length then some (new.drop gap) else none := by
  unfold sliceFrom
  rw [length_append, h, drop_append, drop_eq_nil_of_le (by omega), nil_append,
    Nat.add_sub_cancel_left]
  by_cases hle : gap ≤ new.length
  · rw [if_pos hle, if_pos (by omega)]
  · rw [if_neg hle, if_neg (by omega)]

/-- The call of a chunk whose vectors are behind. -/
theorem scoreCall_behind (h : Behind gap st) : if gap ≤ answer.scenes.length then
      ∃ call, scoreCall chunk st.extraction.context.scenes.length
          (pushAnswer rules chunk answer st) = some call ∧
        call.scenes.length = answer.scenes.length ∧
        call.sanitized = (answer.scenes.map (wasSanitized rules)).drop gap ∧
        call.droppedCostumes = (answer.scenes.map (outfitsDropped rules chunk)).drop gap
    else scoreCall chunk st.extraction.context.scenes.length
      (pushAnswer rules chunk answer st) = none := by
  obtain ⟨hflags, hcostumes⟩ := @pushAnswer_signals rules chunk answer st
  have hscenes := @pushAnswer_scenes_length rules chunk answer st
  simp only [scoreCall, hflags, hcostumes, sliceFrom_append h.flags, sliceFrom_append h.costumes,
    length_map]
  split
  · refine ⟨_, rfl, ?_, rfl, rfl⟩
    simp only [length_drop, hscenes]
    omega
  · rfl

end Chunk

/-! ## §4. All chunks -/

/-- No slice is out of bounds, and every call is about its own rows; the chunks are those from number
`c` on. -/
def ScoringAligned (rules : TextRules) (answers : Nat → Except DomainError ScriptContext) (c : Nat)
    (chunks : List SceneChunk) (run : List ScoreCall × ScoringEnd) : Prop :=
  run.2 ≠ .panicked ∧
    ∀ k chunk answer call, chunks[k]? = some chunk → answers (c + k) = .ok answer →
      run.1[k]? = some call → AlignedCall rules chunk answer call

/-- A chunk that another answer follows has rows. -/
def RowsBeforeNext (answers : Nat → Except DomainError ScriptContext) (c chunks : Nat) : Prop :=
  ∀ k, k + 1 < chunks → (∀ j ≤ k + 1, ∃ answer, answers (c + j) = .ok answer) →
    ∀ answer, answers (c + k) = .ok answer → answer.scenes ≠ []

section Loop

variable {rules : TextRules} {answers : Nat → Except DomainError ScriptContext} {c : Nat}
  {chunk : SceneChunk} {rest : List SceneChunk} {answer : ScriptContext}

theorem scoringAligned_nil (h : ending ≠ .panicked) (chunks) :
    ScoringAligned rules answers c chunks ([], ending) := by
  refine ⟨h, ?_⟩
  intro k chunk answer call _ _ hcall
  cases hcall

theorem scoringAligned_cons (hanswer : answers c = .ok answer) :
    ScoringAligned rules answers c (chunk :: rest) (call :: later.1, later.2) ↔
      AlignedCall rules chunk answer call ∧ ScoringAligned rules answers (c + 1) rest later := by
  constructor
  · rintro ⟨hend, hcalls⟩
    refine ⟨hcalls 0 chunk answer call rfl hanswer rfl, hend, ?_⟩
    intro k chunk' answer' call' hchunk hanswer' hcall
    exact hcalls (k + 1) chunk' answer' call' hchunk (by rw [← hanswer']; congr 1; omega) hcall
  · rintro ⟨hfirst, hend, hcalls⟩
    refine ⟨hend, ?_⟩
    intro k chunk' answer' call' hchunk hanswer' hcall
    cases k with
    | zero =>
      cases hchunk
      cases hcall
      rw [Nat.add_zero, hanswer] at hanswer'
      cases hanswer'
      exact hfirst
    | succ k =>
      exact hcalls k chunk' answer' call' hchunk (by rw [← hanswer']; congr 1; omega) hcall

/-- The loop stops at a chunk that is not answered. -/
theorem rowsBeforeNext_of_error (herror : answers c = .error error) (n) :
    RowsBeforeNext answers c n := by
  intro k _ hall
  obtain ⟨answer, hanswer⟩ := hall 0 (Nat.zero_le _)
  rw [Nat.add_zero, herror] at hanswer
  cases hanswer

theorem rowsBeforeNext_succ (hanswer : answers c = .ok answer) (n) :
    RowsBeforeNext answers c (n + 1) ↔
      (0 < n → (∃ next, answers (c + 1) = .ok next) → answer.scenes ≠ []) ∧
        RowsBeforeNext answers (c + 1) n := by
  constructor
  · intro h
    refine ⟨?_, ?_⟩
    · rintro hpos ⟨next, hnext⟩
      refine h 0 (by omega) ?_ answer hanswer
      intro j hj
      obtain rfl | rfl : j = 0 ∨ j = 1 := by omega
      · exact ⟨answer, hanswer⟩
      · exact ⟨next, hnext⟩
    · intro k hk hall answer' hanswer'
      refine h (k + 1) (by omega) ?_ answer' (by rw [← hanswer']; congr 1; omega)
      intro j hj
      cases j with
      | zero => exact ⟨answer, hanswer⟩
      | succ j =>
        obtain ⟨a, ha⟩ := hall j (by omega)
        exact ⟨a, by rw [← ha]; congr 1; omega⟩
  · rintro ⟨hfirst, hlater⟩ k hk hall answer' hanswer'
    cases k with
    | zero =>
      rw [Nat.add_zero, hanswer] at hanswer'
      cases hanswer'
      exact hfirst (by omega) (hall 1 (by omega))
    | succ k =>
      refine hlater k (by omega) ?_ answer' (by rw [← hanswer']; congr 1; omega)
      intro j hj
      obtain ⟨a, ha⟩ := hall (j + 1) (by omega)
      exact ⟨a, by rw [← ha]; congr 1; omega⟩

/-- One row behind, the next answer goes wrong: without rows the slice is out of bounds, with rows it
is one entry short. -/
theorem not_aligned_of_behind (h : Behind 1 st) (hanswer : answers c = .ok answer) :
    ¬ScoringAligned rules answers c (chunk :: rest)
      (scoreChunks rules answers c (chunk :: rest) st) := by
  have hcall := @scoreCall_behind rules chunk answer st 1 h
  simp only [scoreChunks, hanswer]
  by_cases hrows : 1 ≤ answer.scenes.length
  · rw [if_pos hrows] at hcall
    obtain ⟨call, hcall, -, hsanitized, -⟩ := hcall
    simp only [hcall]
    rw [scoringAligned_cons hanswer]
    rintro ⟨hfirst, -⟩
    have hlength := congrArg length (hsanitized.symm.trans hfirst.sanitized)
    simp only [length_drop, length_map] at hlength
    omega
  · rw [if_neg hrows] at hcall
    simp only [hcall]
    exact fun hpanic => hpanic.1 rfl

/-- The loop from a state whose vectors are complete. -/
theorem scoreChunks_aligned (chunks) : ∀ {c : Nat} {st : ScoringState}, Behind 0 st →
      (ScoringAligned rules answers c chunks (scoreChunks rules answers c chunks st) ↔
        RowsBeforeNext answers c chunks.length) := by
  induction chunks with
  | nil =>
    intro c st _
    refine iff_of_true (scoringAligned_nil (by simp) _) ?_
    intro k hk
    cases hk
  | cons chunk rest ih =>
    intro c st h
    cases hanswer : answers c with
    | error =>
      simp only [scoreChunks, hanswer]
      exact iff_of_true (scoringAligned_nil (by simp) _) (rowsBeforeNext_of_error hanswer _)
    | ok answer =>
      have hcall := @scoreCall_behind rules chunk answer st 0 h
      rw [if_pos (Nat.zero_le _)] at hcall
      obtain ⟨call, hcall, hrows, hsanitized, hdropped⟩ := hcall
      have hnext := @Behind.nextChunk rules chunk answer st 0 h
      simp only [scoreChunks, hanswer, hcall]
      rw [scoringAligned_cons hanswer, length_cons, rowsBeforeNext_succ hanswer,
        and_iff_right ⟨hrows, hsanitized, hdropped⟩]
      by_cases hnil : answer.scenes = []
      · -- the stand-in row leaves both vectors one entry short
        rw [if_pos hnil] at hnext
        cases rest with
        | nil =>
          refine iff_of_true (scoringAligned_nil (by simp) _) ⟨fun h0 => absurd h0 (by simp), ?_⟩
          intro k hk
          cases hk
        | cons =>
          cases hanswer' : answers (c + 1) with
          | error =>
            refine iff_of_true ?_ ⟨?_, rowsBeforeNext_of_error hanswer' _⟩
            · simp only [scoreChunks, hanswer']
              exact scoringAligned_nil (by simp) _
            · rintro - ⟨next, hnext'⟩
              cases hnext'
          | ok answer' =>
            refine iff_of_false (not_aligned_of_behind hnext hanswer') ?_
            rintro ⟨hfirst, -⟩
            exact hfirst (by simp) ⟨answer', rfl⟩ hnil
      · rw [if_neg hnil] at hnext
        rw [ih hnext, and_iff_right (fun _ _ => hnil)]

end Loop

/-! ## §5. The preview -/

/-- What the loop leaves to the rest of `process_text`: nothing if it panics. -/
def ScoringEnd.result : ScoringEnd → Option (Except DomainError ExtractionState)
  | .finished st => some (.ok st.extraction)
  | .failed error => some (.error error)
  | .panicked => none

theorem scoreChunks_result {rules answers} (chunks) : ∀ {c st},
    (scoreChunks rules answers c chunks st).2.result = some result →
      mergeChunks rules answers c chunks st.extraction = result := by
  induction chunks with
  | nil =>
    intro c st h
    cases h
    rfl
  | cons chunk rest ih =>
    intro c st h
    unfold mergeChunks
    unfold scoreChunks at h
    cases hanswer : answers c with
    | error =>
      rw [hanswer] at h
      cases h
      rfl
    | ok answer =>
      rw [hanswer] at h
      dsimp only at h
      split at h
      · cases h
      · rw [ok_bind, ← nextChunk_extraction]
        exact ih h

/-- **SCORING DOES NOT TOUCH THE PREVIEW**: apart from a panic, `process_text` ends as it does
without a Decision Model. -/
theorem scoreText_preview {rules doc maxChunksPerScript answers}
    (h : (scoreText rules doc maxChunksPerScript answers).2.result = some result) (continuity) :
    processText rules doc maxChunksPerScript answers continuity =
      result.map (finishPreview rules doc continuity) := by
  unfold scoreText at h
  unfold processText
  cases hcheck : checkDocument doc maxChunksPerScript with
  | error =>
    rw [hcheck] at h
    cases h
    rfl
  | ok =>
    rw [hcheck] at h
    rw [ok_bind, scoreChunks_result _ h]
    cases result <;> rfl

/-! ## §6. Alignment -/

/-- **SCORING INPUTS STAY ALIGNED EXACTLY WHEN NO CHUNK WITHOUT ROWS IS FOLLOWED BY ANOTHER ANSWER**, for
every document, every limit and all answers. -/
theorem scoring_aligned (rules : TextRules) (doc : ScriptDocument) (maxChunksPerScript : Nat)
    (answers : Nat → Except DomainError ScriptContext) :
    ScoringAligned rules answers 0 doc.chunks (scoreText rules doc maxChunksPerScript answers) ↔
      (checkDocument doc maxChunksPerScript = .ok () →
        RowsBeforeNext answers 0 doc.chunks.length) := by
  unfold scoreText
  cases hcheck : checkDocument doc maxChunksPerScript with
  | error =>
    refine iff_of_true (scoringAligned_nil (by simp) _) ?_
    intro h
    cases h
  | ok =>
    rw [scoreChunks_aligned _ ⟨rfl, rfl⟩]
    exact ⟨fun h _ => h, fun h => h rfl⟩

/-- The first chunk comes back without rows, the second with two; the summary of the first of them is
about the block instead of the scene. -/
def emptyThenTwo (c : Nat) : Except DomainError ScriptContext := .ok (if c = 0 then {}
    else { scenes := [{ summary := some "kein inhalt" }, { summary := some "ANNA WAITS" }] })

/-- No chunk comes back with rows. -/
def alwaysEmpty (_ : Nat) : Except DomainError ScriptContext := .ok {}

/-- **AFTER A CHUNK WITHOUT ROWS THE SIGNALS ARE OF OTHER ROWS.** The call for the two rows gets one flag,
the second row's, and reads it as the first row's; and a second chunk without rows panics. -/
theorem scoring_misaligned :
    (∃ call ∈ (scoreText asciiRules twoHeadings 200 emptyThenTwo).1, call.scenes.length = 2 ∧
        call.sanitized = [false]) ∧ ¬ScoringAligned asciiRules emptyThenTwo 0 twoHeadings.chunks
        (scoreText asciiRules twoHeadings 200 emptyThenTwo) ∧
      (scoreText asciiRules twoHeadings 200 alwaysEmpty).2 = .panicked := by
  refine ⟨?_, ?_, by decide +kernel⟩
  · decide +kernel
  · show ¬ScoringAligned _ _ _ _ (scoreChunks asciiRules emptyThenTwo 0 twoHeadings.chunks
      ⟨startExtraction twoHeadings, [], []⟩)
    rw [scoreChunks_aligned _ ⟨rfl, rfl⟩]
    intro h
    refine h 0 (by decide) ?_ {} rfl rfl
    intro j _
    exact ⟨_, rfl⟩

end Breakdown.Ai
