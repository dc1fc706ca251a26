/-
**WHICH ROW AN UNCERTAINTY IS ABOUT.**

The model numbers the rows of its own answer from `0`; the preview numbers the rows of the whole
document, and the apply gate matches acknowledgements against those numbers. An uncertainty is
attached to its own row when the stored index is the reported one shifted by the rows merged
before, and two chunks are separated when no acknowledgement resolves reports of both.

`process_text` stores the reports unshifted. Every chunk adds a row, so only the first chunk has
shift `0`:

- `uncertainties_attached`: the reports are attached and separated EXACTLY when no later
  chunk reports anything;
- `uncertainties_attached_first`: such a document;
- `later_chunk_uncertainty_lost`: two chunks, one report each; the second is stored about the
  first row, and one acknowledgement opens the gate for both.
-/
import Breakdown.Ai.Extraction

namespace Breakdown.Ai

open List

section Reports

variable (rules : TextRules) (doc : ScriptDocument)
  (answers : Nat → Except DomainError ScriptContext)

/-- Every reported uncertainty names a row of its own answer. -/
def WellIndexed : Prop := ∀ c < doc.chunks.length, ∀ answer, answers c = .ok answer →
    ∀ u ∈ answer.uncertainties, u.sceneIndex < answer.scenes.length

/-- Chunk `c`, with the given heading, reported `u`: `base` rows were merged before the chunk, and
`slot` is where the preview keeps the report. -/
def Reported (c : Nat) (heading : String) (u : Uncertainty) (base slot : Nat) : Prop :=
  ∃ chunk answer st k, AtChunk rules doc answers c chunk answer st ∧
    answer.uncertainties[k]? = some u ∧ heading = chunk.heading ∧
    base = st.context.scenes.length ∧
    slot = (afterRows rules chunk answer st).context.uncertainties.length + k

/-- **ATTACHED**: each report is stored with the index of its row in the preview, and that row is
the one the chunk got for it. -/
def Attached (preview : ScriptContext) : Prop :=
  ∀ c heading u base slot, Reported rules doc answers c heading u base slot →
    preview.uncertainties[slot]? = some { u with sceneIndex := base + u.sceneIndex } ∧
      (rowRefs preview)[base + u.sceneIndex]? =
        some (stableDraftRef (base + u.sceneIndex + 1) heading u.sceneIndex)

/-- **SEPARATED**: what resolves a report of one chunk resolves no blocking report of another. -/
def Separated (preview : ScriptContext) : Prop :=
  ∀ c₁ heading₁ u₁ base₁ slot₁ c₂ heading₂ u₂ base₂ slot₂,
    Reported rules doc answers c₁ heading₁ u₁ base₁ slot₁ →
    Reported rules doc answers c₂ heading₂ u₂ base₂ slot₂ → c₁ ≠ c₂ →
    ∀ stored₁ stored₂, preview.uncertainties[slot₁]? = some stored₁ →
      preview.uncertainties[slot₂]? = some stored₂ → stored₂.kind.blocksApply = true →
      ∀ ack : UncertaintyAcknowledgement, ack.resolves stored₁ = true → ack.resolves stored₂ = false

/-- Only the first chunk of the document reports uncertainties. -/
def OnlyFirstReports : Prop :=
  ∀ c < doc.chunks.length, 0 < c → ∀ answer, answers c = .ok answer → answer.uncertainties = []

end Reports

section Attachment

variable {rules : TextRules} {doc : ScriptDocument}
  {answers : Nat → Except DomainError ScriptContext}

theorem AtChunk.lt_length (h : AtChunk rules doc answers c chunk answer st) :
    c < doc.chunks.length :=
  (List.getElem?_eq_some_iff.mp h.isChunk).1

/-- When only the first chunk reports, every report is the first chunk's. -/
theorem Reported.eq_zero (h : Reported rules doc answers c heading u base slot)
    (honly : OnlyFirstReports doc answers) : c = 0 := by
  obtain ⟨chunk, answer, st, k, hat, hu, -⟩ := h
  by_contra hne
  have hnil := honly c hat.lt_length (Nat.pos_of_ne_zero hne) answer hat.isAnswer
  rw [hnil] at hu
  cases hu

/-- The first chunk is merged into an empty preview. -/
theorem AtChunk.scenes_length_zero (h : AtChunk rules doc answers 0 chunk answer st) :
    st.context.scenes.length = 0 := by
  have hreached := h.reached
  rw [take_zero] at hreached
  cases hreached
  rfl

/-- **UNCERTAINTIES STAY ATTACHED TO THEIR ROWS EXACTLY WHEN ONLY THE FIRST CHUNK REPORTS ANY.** -/
theorem uncertainties_attached {maxChunks : Nat} {continuity : ScriptContext → ContinuityPass}
    {preview : ScriptContext} (h : processText rules doc maxChunks answers continuity = .ok preview)
    (hwell : WellIndexed doc answers) :
    (Attached rules doc answers preview ∧ Separated rules doc answers preview) ↔
      OnlyFirstReports doc answers := by
  constructor
  · rintro ⟨hattached, -⟩ c hc hpos answer' hanswer
    obtain ⟨final, hrun, -, -⟩ := processText_ok h
    obtain ⟨answer, st, hat⟩ := exists_atChunk hrun (getElem?_eq_getElem hc)
    obtain rfl := Except.ok.inj (hat.isAnswer.symm.trans hanswer)
    cases hreports : answer.uncertainties with
    | nil => rfl
    | cons u =>
      -- the first report of a later chunk is stored unshifted, and its shift is positive
      exfalso
      have hu : answer.uncertainties[0]? = some u := by rw [hreports]; rfl
      have hstored := reported_stored h hat hu
      obtain ⟨hshifted, -⟩ := hattached c _ u _ _ ⟨_, answer, st, 0, hat, hu, rfl, rfl, rfl⟩
      have hsame := congrArg Uncertainty.sceneIndex (Option.some.inj (hstored.symm.trans hshifted))
      have hbase := hat.le_scenes_length
      dsimp only at hsame
      omega
  · intro honly
    refine ⟨?_, ?_⟩
    · intro c heading u base slot hrep
      obtain rfl := hrep.eq_zero honly
      obtain ⟨chunk, answer, st, k, hat, hu, rfl, rfl, rfl⟩ := hrep
      have hindex := hwell 0 hat.lt_length answer hat.isAnswer u (mem_of_getElem? hu)
      refine ⟨?_, answer_row_stored h hat hindex⟩
      rw [reported_stored h hat hu, hat.scenes_length_zero, Nat.zero_add]
    · intro c₁ _ u₁ _ _ c₂ _ u₂ _ _ hrep₁ hrep₂ hne
      exact absurd ((hrep₁.eq_zero honly).trans (hrep₂.eq_zero honly).symm) hne

end Attachment

/-! ## Two headings -/

/-- Text rules that know nothing beyond ASCII. -/
def asciiRules : TextRules where
  charToLowercase ch := [ch.toLower]
  strToLowercase := List.map Char.toLower
  isAlphabetic := Char.isAlpha
  dayMarker _ := none
  debugStr s := "\"" ++ s ++ "\""

/-- A script with two scene headings. -/
def twoHeadings : ScriptDocument where
  chunks := [{ index := 0, heading := "1 INT. CAFE", text := "ANNA" },
    { index := 1, heading := "2 EXT. PARK", text := "BERND" }]
  blockNumber := none

/-- A doubt about the mood of row `0`. -/
def moodDoubt : Uncertainty := ⟨0, "mood", "day or night?", none, .fieldAmbiguity, []⟩

/-- One row, with the given doubts. -/
def oneRow (doubts : List Uncertainty) : ScriptContext where
  scenes := [{ location := some "CAFE" }]
  uncertainties := doubts

/-- Only the first of the two answers has a doubt. -/
def firstUnclear (c : Nat) : Except DomainError ScriptContext :=
  .ok (oneRow (if c = 0 then [moodDoubt] else []))

/-- Both answers doubt the mood of their own row. -/
def bothUnclear (_ : Nat) : Except DomainError ScriptContext := .ok (oneRow [moodDoubt])

/-- No decision model is configured. -/
def noContinuity (_ : ScriptContext) : ContinuityPass := ⟨[], []⟩

theorem uncertainties_attached_first :
    ∃ preview, processText asciiRules twoHeadings 200 firstUnclear noContinuity = .ok preview ∧
      Attached asciiRules twoHeadings firstUnclear preview ∧
      Separated asciiRules twoHeadings firstUnclear preview := by
  have hwell : WellIndexed twoHeadings firstUnclear := by
    intro c _ answer hanswer u hu
    cases hanswer
    dsimp only [oneRow] at hu
    split at hu
    · obtain rfl := mem_singleton.mp hu
      exact Nat.one_pos
    · cases hu
  have honly : OnlyFirstReports twoHeadings firstUnclear := by
    intro c _ hpos answer hanswer
    cases hanswer
    exact if_neg hpos.ne'
  obtain ⟨preview, hpreview⟩ : ∃ preview,
      processText asciiRules twoHeadings 200 firstUnclear noContinuity = .ok preview := ⟨_, rfl⟩
  exact ⟨preview, hpreview, (uncertainties_attached hpreview hwell).mpr honly⟩

/-- Both answers doubt the mood of their row `0`. The doubt about row `1` of the preview is stored
about row `0`, and acknowledging row `0` opens the gate for both. -/
theorem later_chunk_uncertainty_lost :
    ∃ preview, processText asciiRules twoHeadings 200 bothUnclear noContinuity = .ok preview ∧
      WellIndexed twoHeadings bothUnclear ∧ ¬ Attached asciiRules twoHeadings bothUnclear preview ∧
      ¬ Separated asciiRules twoHeadings bothUnclear preview ∧
      ensureScriptApplyable preview [⟨0, "mood"⟩] = .ok () := by
  have hwell : WellIndexed twoHeadings bothUnclear := by
    intro c _ answer hanswer u hu
    cases hanswer
    obtain rfl := mem_singleton.mp hu
    decide
  have hfirst : Reported asciiRules twoHeadings bothUnclear 0 "1 INT. CAFE"
      moodDoubt 0 0 :=
    ⟨_, oneRow [moodDoubt], _, 0, ⟨rfl, rfl, rfl⟩, rfl, rfl, rfl, rfl⟩
  have hsecond : Reported asciiRules twoHeadings bothUnclear 1 "2 EXT. PARK"
      moodDoubt 1 1 :=
    ⟨_, oneRow [moodDoubt], _, 0, ⟨rfl, rfl, rfl⟩, rfl, rfl, rfl, rfl⟩
  refine ⟨_, rfl, hwell, ?_, ?_, rfl⟩
  · intro hattached
    have hshifted := (hattached _ _ _ _ _ hsecond).1
    cases hshifted
  · intro hseparated
    have hack := hseparated _ _ _ _ _ _ _ _ _ _ hfirst hsecond (by decide) _ _ rfl rfl rfl
      ⟨0, "mood"⟩ rfl
    cases hack

end Breakdown.Ai
