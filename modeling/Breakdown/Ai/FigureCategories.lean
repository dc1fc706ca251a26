/-
**ONE CATEGORY PER FIGURE, AND WHEN IT IS REPORTED AS IN DOUBT**
(`plan_scene_apply` and `category_conflict_uncertainties` of `core/src/ai/preview.rs`).

Rows may give a figure different categories. The planner first makes one figure per identity and row
and then reconciles the rows; the extraction reads the rows directly and reports the figures whose
categories disagree. Both come down to the first mention whose category is not the default.

- `planCharacters_signal`, `foldl_noteCategories`: the two passes of the planner;
- `foldl_noteCategory`: the pass of the extraction;
- `categories_agree`: the plan and the report.
-/
import Breakdown.Ai.PlannedKeys

namespace Breakdown.Ai

open Fallible List Function

variable {rules : TextRules}

/-! ## §1. Mentions -/

/-- A figure in a row: its identity and the category it is given there. -/
abbrev Mention := String × CharacterCategory

def CharacterApplyPlan.mention (figure : CharacterApplyPlan) : Mention :=
  (figure.identity, figure.category)

/-- The figures of a row that have an identity. -/
def rowMentions (rules : TextRules) (characters : List DraftCharacter) : List Mention :=
  (characters.map fun c => (rules.characterIdentity c.name, c.category)).filter fun m => !m.1.isEmpty

/-- The mentions of a preview, each with the index of its row. -/
def mentions (rules : TextRules) (preview : ScriptContext) : List (Nat × Mention) :=
  preview.scenes.zipIdx.flatMap fun (draft, index) =>
    (rowMentions rules draft.characters).map fun m => (index, m)

/-- The mention gives `identity` a category that is not the default. -/
def signals (identity : String) (m : Mention) : Bool := m.1 = identity && m.2 != .mainCast

def firstSignal (ms : List Mention) (identity : String) : Option CharacterCategory :=
  (ms.find? (signals identity)).map Prod.snd

/-- **THE CATEGORY OF A FIGURE**: the first that is not the default, else the default. -/
def categoryOf (ms : List Mention) (identity : String) : CharacterCategory :=
  (firstSignal ms identity).getD .mainCast

theorem firstSignal_append (ms ms' identity) :
    firstSignal (ms ++ ms') identity = (firstSignal ms identity).or (firstSignal ms' identity) := by
  rw [firstSignal, find?_append, Option.map_or]
  rfl

theorem firstSignal_cons (m ms identity) : firstSignal (m :: ms) identity =
      if signals identity m then some m.2 else firstSignal ms identity := by
  unfold firstSignal
  rw [find?_cons]
  split <;> simp_all

theorem firstSignal_eq_none (h : identity ∉ ms.map Prod.fst) : firstSignal ms identity = none := by
  unfold firstSignal
  rw [Option.map_eq_none_iff, find?_eq_none]
  intro m hm hsignals
  simp only [signals, Bool.and_eq_true, decide_eq_true_eq] at hsignals
  exact h (hsignals.1 ▸ mem_map_of_mem hm)

/-! ## §2. The planner -/

attribute [local simp] CharacterApplyPlan.mention signals Option.filter CategorySignals.conflict

/-- With one figure per identity, what it is listed as decides. -/
theorem firstSignal_of_nodup {known : List PlannedCharacter}
    (hnodup : (known.map (·.identity)).Nodup) : firstSignal (known.map (·.mention)) identity =
      ((known.find? (·.identity = identity)).map (·.category)).filter (· ≠ .mainCast) := by
  induction known with
  | nil => rfl
  | cons figure known ih =>
    rw [map_cons, nodup_cons] at hnodup
    rw [map_cons, firstSignal_cons]
    by_cases heq : figure.identity = identity
    · have hrest : firstSignal (known.map (·.mention)) identity = none := by
        refine firstSignal_eq_none ?_
        rw [map_map, ← heq]
        exact hnodup.1
      rw [find?_cons_of_pos (by simpa using heq), hrest]
      cases hcategory : figure.category <;> simp [heq, hcategory]
    · rw [find?_cons_of_neg (by simpa using heq), ← ih hnodup.2, if_neg]
      simp [heq]

/-- What a further mention of a known figure does. -/
def PlannedCharacter.correct (m : Mention) (figure : PlannedCharacter) : PlannedCharacter :=
  if figure.identity = m.1 && figure.category = .mainCast && m.2 != .mainCast then
    { figure with category := m.2 }
  else figure

theorem PlannedCharacter.identity_correct (m) (figure : PlannedCharacter) :
    (figure.correct m).identity = figure.identity := by
  unfold correct
  split <;> rfl

theorem map_correct_identity (m) (known : List PlannedCharacter) :
    (known.map (·.correct m)).map (·.identity) = known.map (·.identity) := by
  rw [map_map]
  exact map_congr_left fun figure _ => figure.identity_correct m

theorem correct_signal {known : List PlannedCharacter} {m : Mention}
    (hnodup : (known.map (·.identity)).Nodup) (hknown : m.1 ∈ known.map (·.identity)) :
    firstSignal ((known.map (·.correct m)).map (·.mention)) identity =
      firstSignal (known.map (·.mention) ++ [m]) identity := by
  rw [firstSignal_of_nodup (map_correct_identity m known ▸ hnodup), firstSignal_append, firstSignal_of_nodup hnodup,
    find?_map, firstSignal_cons]
  simp only [comp_def, PlannedCharacter.identity_correct]
  cases hfind : known.find? (·.identity = identity) with
  | none =>
    have hne : m.1 ≠ identity := by
      obtain ⟨figure, hfigure, hid⟩ := mem_map.mp hknown
      have := find?_eq_none.mp hfind figure hfigure
      simp_all
    simp [hne, firstSignal]
  | some figure =>
    have hid : figure.identity = identity := by simpa using find?_some hfind
    obtain ⟨i, category⟩ := m
    unfold PlannedCharacter.correct
    by_cases heq : i = identity
    · cases hold : figure.category <;> cases category <;> simp [firstSignal, hid, heq, hold]
    · simp [firstSignal, hid, heq, Ne.symm heq]

/-- **ONE FIGURE MORE.** -/
theorem planCharacter_signal (rules) {known : List PlannedCharacter} {character}
    (hnodup : (known.map (·.identity)).Nodup) :
    ((planCharacter rules known (character, ordinal)).map (·.identity)).Nodup ∧
      ∀ identity, firstSignal ((planCharacter rules known (character, ordinal)).map (·.mention)) identity =
        firstSignal (known.map (·.mention) ++ rowMentions rules [character]) identity := by
  unfold planCharacter rowMentions
  rw [map_singleton]
  dsimp only
  generalize rules.characterIdentity character.name = i
  split
  · next hblank => simp_all
  · next hblank =>
    rw [filter_cons_of_pos (by simpa using hblank), filter_nil]
    split
    · next hknown =>
      show ((known.map (·.correct (i, character.category))).map _).Nodup ∧ ∀ identity,
        firstSignal ((known.map (·.correct (i, character.category))).map _) identity = _
      rw [map_correct_identity]
      exact ⟨hnodup, fun identity => correct_signal hnodup (by simpa using hknown)⟩
    · next hnew =>
      refine ⟨?_, fun identity => by rw [map_append]; rfl⟩
      simp_all [nodup_append]

/-- **THE FIGURES OF A ROW** signal what its mentions do. -/
theorem planCharacters_signal (draft identity) :
    firstSignal ((planCharacters rules draft).map (·.mention)) identity =
      firstSignal (rowMentions rules draft.characters) identity := by
  -- along the characters, with the figures known so far
  have hrun : ∀ (characters : List (DraftCharacter × Nat)) (known : List PlannedCharacter),
      (known.map (·.identity)).Nodup →
      firstSignal ((characters.foldl (planCharacter rules) known).map (·.mention)) identity =
        firstSignal (known.map (·.mention) ++ rowMentions rules (characters.map Prod.fst)) identity := by
    intro characters
    induction characters with
    | nil => simp [rowMentions]
    | cons character characters ih =>
      intro known hnodup
      obtain ⟨hnodup', hsignal⟩ := planCharacter_signal rules hnodup
      have hrow : rowMentions rules ((character :: characters).map Prod.fst) =
          rowMentions rules [character.1] ++ rowMentions rules (characters.map Prod.fst) := by
        simp [rowMentions, filter_cons]
        split <;> rfl
      rw [foldl_cons, ih _ hnodup', hrow, ← append_assoc, firstSignal_append, hsignal,
        ← firstSignal_append]
  have hall := hrun draft.characters.zipIdx [] .nil
  rwa [zipIdx_map_fst] at hall

theorem noteCategories_apply (resolved : String → Option CharacterCategory) (figure identity) :
    noteCategories resolved figure identity = if figure.identity = identity then
        some (((resolved identity).filter (· ≠ .mainCast)).getD figure.category)
      else resolved identity := by
  unfold noteCategories
  by_cases heq : figure.identity = identity
  · rw [if_pos heq, heq]
    cases hold : resolved identity with
    | none => simp
    | some old => cases old <;> simp [hold]
  · rw [if_neg heq]
    cases hold : resolved figure.identity with
    | none => exact update_of_ne (Ne.symm heq) _ _
    | some old => cases old <;> simp [update_of_ne (Ne.symm heq)]

/-- **RECONCILED OVER ALL ROWS.** -/
theorem foldl_noteCategories {figures : List CharacterApplyPlan}
    (h : (resolved identity).isSome ∨ identity ∈ figures.map (·.identity)) :
    figures.foldl noteCategories resolved identity = some ((((resolved identity).filter
      (· ≠ .mainCast)).or (firstSignal (figures.map (·.mention)) identity)).getD .mainCast) := by
  induction figures generalizing resolved with
  | nil =>
    obtain ⟨category, hcategory⟩ := Option.isSome_iff_exists.mp (h.resolve_right (by simp))
    cases category <;> simp [hcategory, firstSignal]
  | cons figure figures ih =>
    rw [foldl_cons, map_cons, firstSignal_cons]
    have hnoted := noteCategories_apply resolved figure identity
    by_cases heq : figure.identity = identity
    · rw [if_pos heq] at hnoted
      rw [ih (by simp [hnoted]), hnoted]
      obtain ⟨name, i, category⟩ := figure
      rcases hold : resolved identity with _ | old
      · cases category <;> simp_all
      · cases old <;> cases category <;> simp_all
    · rw [if_neg heq] at hnoted
      rw [ih (by simpa [hnoted, Ne.symm heq] using h), hnoted, if_neg]
      simp [heq]

/-- **THE PLAN GIVES EVERY FIGURE ITS CATEGORY.** -/
theorem planSceneApply_category {plan scene}
    (h : planSceneApply rules preview input = .ok plan) (hscene : scene ∈ plan.scenes)
    (hfigure : figure ∈ scene.characters) :
    figure.category = categoryOf ((mentions rules preview).map Prod.snd) figure.identity := by
  unfold planSceneApply at h
  simp only [seq_eq_ok] at h
  obtain ⟨_, -, continuations, -, planned, hrows, hplan⟩ := h
  cases hplan
  obtain ⟨scenes, hscenes, -, hfigures⟩ := planRows_ok hrows
  rw [nil_append] at hscenes
  obtain ⟨scene, hplanned, rfl⟩ := mem_map.mp hscene
  obtain ⟨figure, hmember, rfl⟩ := mem_map.mp hfigure
  have hmem : figure.identity ∈ (planned.scenes.flatMap (·.characters)).map (·.identity) :=
    mem_map_of_mem (mem_flatMap.mpr ⟨scene, hplanned, hmember⟩)
  show (foldl noteCategories _ _ figure.identity).getD _ = categoryOf _ figure.identity
  rw [foldl_noteCategories (.inr hmem)]
  show (firstSignal _ _).getD _ = (firstSignal _ _).getD _
  rw [hscenes, flatMap_def, hfigures]
  congr 1
  -- row by row, the figures signal what the mentions do
  unfold mentions
  generalize preview.scenes.zipIdx = rows
  induction rows with
  | nil => rfl
  | cons row rows ih =>
    rw [map_cons, flatten_cons, map_append, firstSignal_append, ih, flatMap_cons,
      map_append, firstSignal_append, map_map, map_map]
    congr 1
    exact (planCharacters_signal row.1 _).trans (congrArg (firstSignal · _) (map_id _).symm)

/-! ## §3. The report -/

section Report

variable {ms : List (Nat × Mention)} {m : Nat × Mention} {identity : String}

/-- The row in which a figure is first mentioned. -/
def firstScene (ms : List (Nat × Mention)) (identity : String) : Nat :=
  ((ms.find? (·.2.1 = identity)).map Prod.fst).getD 0

/-- The categories of a figure that are not the default, as they come. -/
def signalled (ms : List (Nat × Mention)) (identity : String) : List CharacterCategory :=
  (ms.filter (signals identity ·.2)).map (·.2.2)

/-- What is collected about a figure. -/
def collected (ms : List (Nat × Mention)) (identity : String) : CategorySignals :=
  ⟨identity, firstScene ms identity, ((signalled ms identity).map (·.asStr)).eraseDups⟩

theorem noteCategory_known {category} {ids : List String}
    (hid : ∀ i, (f i).identity = i) (hnodup : ids.Nodup) (hmem : identity ∈ ids) :
    noteCategory identity sceneIndex category (ids.map f) = ids.map fun i =>
      if i = identity ∧ category ≠ .mainCast ∧ category.asStr ∉ (f i).slugs then
        { f i with slugs := (f i).slugs ++ [category.asStr] }
      else f i := by
  induction ids with
  | nil => cases hmem
  | cons i ids ih =>
    rw [nodup_cons] at hnodup
    rw [map_cons, map_cons, noteCategory, hid]
    by_cases heq : i = identity
    · -- the figures behind it are others
      have hrest : ∀ j ∈ ids, j ≠ identity := fun j hj hjd => hnodup.1 (heq ▸ hjd ▸ hj)
      rw [if_pos heq]
      congr 1
      · by_cases hmain : category = .mainCast <;> simp [heq, hmain]
        split <;> simp_all
      · exact map_congr_left fun j hj => by rw [if_neg (hrest j hj ∘ And.left)]
    · rw [if_neg heq, if_neg (heq ∘ And.left), ih hnodup.2 (by simpa [Ne.symm heq] using hmem)]

theorem noteCategory_new {category} {ids : List String}
    (hid : ∀ i, (f i).identity = i) (hnew : identity ∉ ids) :
    noteCategory identity sceneIndex category (ids.map f) = ids.map f ++
      [⟨identity, sceneIndex, if category = .mainCast then [] else [category.asStr]⟩] := by
  induction ids with
  | nil => rfl
  | cons i ids ih =>
    rw [mem_cons, not_or] at hnew
    rw [map_cons, noteCategory, if_neg (by rw [hid]; exact Ne.symm hnew.1), ih hnew.2]
    rfl

theorem eraseDups_concat (slugs) (slug : String) : (slugs ++ [slug]).eraseDups =
      if slug ∈ slugs then slugs.eraseDups else slugs.eraseDups ++ [slug] := by
  rw [eraseDups_append]
  split <;> simp_all [removeAll, eraseDups_cons]

theorem find_mention : ms.find? (·.2.1 = identity) = none ↔ identity ∉ ms.map (·.2.1) := by
  rw [find?_eq_none, mem_map]
  simp only [decide_eq_true_eq]
  exact ⟨fun h ⟨m, hm, heq⟩ => h m hm heq, fun h m hm heq => h ⟨m, hm, heq⟩⟩

theorem signalled_concat (ms m i) :
    signalled (ms ++ [m]) i = signalled ms i ++ if signals i m.2 then [m.2.2] else [] := by
  unfold signalled
  rw [filter_append, map_append, filter_singleton]
  cases signals i m.2 <;> rfl

/-- A mention of another figure. -/
theorem collected_other (hne : m.2.1 ≠ identity) :
    collected (ms ++ [m]) identity = collected ms identity := by
  simp [collected, firstScene, signalled_concat, hne]

theorem collected_known (hmem : m.2.1 ∈ ms.map (·.2.1)) : collected (ms ++ [m]) m.2.1 =
      if m.2.2 ≠ .mainCast ∧ m.2.2.asStr ∉ (collected ms m.2.1).slugs then
        { collected ms m.2.1 with slugs := (collected ms m.2.1).slugs ++ [m.2.2.asStr] }
      else collected ms m.2.1 := by
  have hscene : firstScene (ms ++ [m]) m.2.1 = firstScene ms m.2.1 := by
    cases hfind : ms.find? (·.2.1 = m.2.1) with
    | none => exact absurd hmem (find_mention.mp hfind)
    | some => simp [firstScene, hfind]
  unfold collected
  rw [hscene, signalled_concat, map_append]
  by_cases hmain : m.2.2 = .mainCast
  · simp [hmain]
  · have hsignals : signals m.2.1 m.2 := by simp [hmain]
    rw [if_pos hsignals, map_singleton, eraseDups_concat]
    simp only [ne_eq, hmain, not_false_eq_true, true_and, mem_eraseDups]
    split <;> simp_all

theorem collected_new (hnew : m.2.1 ∉ ms.map (·.2.1)) : collected (ms ++ [m]) m.2.1 =
      ⟨m.2.1, m.1, if m.2.2 = .mainCast then [] else [m.2.2.asStr]⟩ := by
  have hnil : signalled ms m.2.1 = [] := by
    unfold signalled
    rw [map_eq_nil_iff, filter_eq_nil_iff]
    intro m' hm' hsignals
    simp only [signals, Bool.and_eq_true, decide_eq_true_eq] at hsignals
    exact hnew (hsignals.1 ▸ mem_map_of_mem hm')
  unfold collected
  rw [signalled_concat, hnil]
  by_cases hmain : m.2.2 = .mainCast
  · simp [firstScene, find_mention.mpr hnew, hmain]
  · simp [firstScene, find_mention.mpr hnew, hmain, eraseDups_cons]

/-- **COLLECTED ALONG THE MENTIONS**: one entry per figure. -/
theorem foldl_noteCategory (ms) :
    ∃ ids : List String, ids.Nodup ∧ (∀ i, i ∈ ids ↔ i ∈ ms.map (·.2.1)) ∧
      ms.foldl (fun signals m => noteCategory m.2.1 m.1 m.2.2 signals) [] = ids.map (collected ms) := by
  induction ms using reverseRecOn with
  | nil => exact ⟨[], .nil, by simp, rfl⟩
  | append_singleton ms m ih =>
    obtain ⟨ids, hnodup, hids, hfold⟩ := ih
    rw [foldl_append, hfold, foldl_cons, foldl_nil]
    by_cases hmem : m.2.1 ∈ ids
    · refine ⟨ids, hnodup, by simp_all, ?_⟩
      rw [noteCategory_known (fun _ => rfl) hnodup hmem]
      refine map_congr_left fun i _ => ?_
      by_cases heq : m.2.1 = i
      · subst heq
        rw [collected_known ((hids _).mp hmem)]
        simp
      · rw [collected_other heq, if_neg (Ne.symm heq ∘ And.left)]
    · refine ⟨ids ++ [m.2.1], hnodup.append (nodup_singleton _) (by simpa using hmem), ?_, ?_⟩
      · simp [hids]
      · rw [noteCategory_new (fun _ => rfl) hmem, map_append, map_singleton,
          collected_new (mt (hids _).mpr hmem)]
        congr 1
        refine map_congr_left fun i hi => (collected_other ?_).symm
        exact fun heq => hmem (heq ▸ hi)

theorem categoryConflictUncertainties_eq (preview) :
    rules.categoryConflictUncertainties preview = ((mentions rules preview).foldl
      (fun signals m => noteCategory m.2.1 m.1 m.2.2 signals) []).filterMap CategorySignals.conflict := by
  unfold TextRules.categoryConflictUncertainties mentions rowMentions
  simp only [foldl_flatMap, foldl_map, foldl_filter]
  congr 2
  funext signals row
  congr 1
  funext signals character
  cases (rules.characterIdentity character.name).isEmpty <;> rfl

/-- A figure has two categories that are not the default. -/
def InConflict (ms : List (Nat × Mention)) (identity : String) : Prop :=
  ∃ category ∈ signalled ms identity, ∃ other ∈ signalled ms identity, category ≠ other

/-- The entry reports the figure. -/
structure Reports (ms : List (Nat × Mention)) (identity : String) (entry : Uncertainty) : Prop where
  scene : entry.sceneIndex = firstScene ms identity
  field : entry.field = uncertaintyFieldCharacters
  names : ∃ text, entry.note = identity ++ text
  suggests : entry.suggestedValue = some (categoryOf (ms.map Prod.snd) identity).asStr

theorem asStr_inj {category other : CharacterCategory} : category.asStr = other.asStr ↔ category = other := by
  cases category <;> cases other <;> decide

theorem firstSignal_eq_head (ms identity) :
    firstSignal (ms.map Prod.snd) identity = (signalled ms identity).head? := by
  unfold firstSignal signalled
  rw [find?_map, head?_map, head?_filter, Option.map_map]
  rfl

/-- **WHAT IS REPORTED OF ONE FIGURE.** -/
theorem conflict_collected (ms identity) :
    ((collected ms identity).conflict.isSome ↔ InConflict ms identity) ∧
      ∀ entry, (collected ms identity).conflict = some entry → Reports ms identity entry := by
  have hhead := firstSignal_eq_head ms identity
  unfold InConflict collected
  cases hsignalled : signalled ms identity with
  | nil => simp
  | cons first rest =>
    rw [map_cons, eraseDups_cons]
    cases hothers : (rest.map (·.asStr)).filter fun slug => !slug == first.asStr with
    | nil =>
      -- they all are the first one
      have hsame : ∀ category ∈ first :: rest, category = first := by
        intro category hmem
        rcases mem_cons.mp hmem with rfl | hmem
        · rfl
        · have := filter_eq_nil_iff.mp hothers _ (mem_map_of_mem hmem)
          simpa [asStr_inj] using this
      refine ⟨iff_of_false (by simp) ?_, by simp⟩
      rintro ⟨category, hmem, other, hmem', hne⟩
      exact hne ((hsame _ hmem).trans (hsame _ hmem').symm)
    | cons second others =>
      rw [eraseDups_cons]
      constructor
      · refine iff_of_true rfl ?_
        have hmem : second ∈ second :: others := mem_cons_self
        rw [← hothers, mem_filter, mem_map] at hmem
        obtain ⟨⟨category, hmem, rfl⟩, hne⟩ := hmem
        refine ⟨first, mem_cons_self, category, mem_cons_of_mem _ hmem, ?_⟩
        rintro rfl
        simp at hne
      · rintro entry ⟨⟩
        refine ⟨rfl, rfl, ⟨_, by simp only [String.append_assoc]; rfl⟩, ?_⟩
        unfold categoryOf
        rw [hhead, hsignalled]
        rfl

/-- Entries in the order of what they are made of. -/
theorem forall₂_filterMap (f : α → Option β) (l : List α) :
    List.Forall₂ (fun a b => f a = some b) (l.filter fun a => (f a).isSome) (l.filterMap f) := by
  induction l with
  | nil => exact .nil
  | cons a l ih => cases h : f a <;> simp [h, ih]

/-- **THE REPORT**: one entry for each figure in conflict, at its first row, with its category. -/
theorem conflicts_reported (preview : ScriptContext) : ∃ ids : List String, ids.Nodup ∧
      (∀ i, i ∈ ids ↔ i ≠ "" ∧ InConflict (mentions rules preview) i) ∧
      List.Forall₂ (Reports (mentions rules preview)) ids (rules.categoryConflictUncertainties preview) := by
  rw [categoryConflictUncertainties_eq]
  obtain ⟨ids, hnodup, hids, hfold⟩ := foldl_noteCategory (mentions rules preview)
  rw [hfold, filterMap_map]
  have hentries := forall₂_filterMap (CategorySignals.conflict ∘ collected (mentions rules preview)) ids
  refine ⟨_, hnodup.filter _, fun i => ?_, hentries.imp fun i entry h => (conflict_collected _ i).2 entry h⟩
  rw [mem_filter, hids]
  have hmentioned : InConflict (mentions rules preview) i → i ∈ (mentions rules preview).map (·.2.1) := by
    rintro ⟨category, hmem, -⟩
    obtain ⟨m, hm, -⟩ := mem_map.mp hmem
    have hsignals := (mem_filter.mp hm).2
    simp only [signals, Bool.and_eq_true, decide_eq_true_eq] at hsignals
    exact hsignals.1 ▸ mem_map_of_mem (mem_filter.mp hm).1
  have hnamed : i ∈ (mentions rules preview).map (·.2.1) → i ≠ "" := by
    rintro hmem rfl
    obtain ⟨m, hm, hblank⟩ := mem_map.mp hmem
    obtain ⟨row, -, hrow⟩ := mem_flatMap.mp hm
    obtain ⟨m, hkept, rfl⟩ := mem_map.mp hrow
    have hnamed := (mem_filter.mp hkept).2
    simp [show m.1 = "" from hblank] at hnamed
  rw [comp_apply, (conflict_collected _ i).1]
  exact ⟨fun ⟨hmem, h⟩ => ⟨hnamed hmem, h⟩, fun ⟨_, h⟩ => ⟨hmentioned h, h⟩⟩

end Report

/-- **THE PLAN AND THE REPORT AGREE**: in every row a figure has the first category that is not the default
in any of its mentions; the figures with two such categories, and no others, are reported, each once,
at the row that mentions it first and with the category the plan gives it. -/
theorem categories_agree {preview : ScriptContext} {input : PlanInput} {plan : ScriptApplyPlan}
    (h : planSceneApply rules preview input = .ok plan) :
    (∀ scene ∈ plan.scenes, ∀ figure ∈ scene.characters,
      figure.category = categoryOf ((mentions rules preview).map Prod.snd) figure.identity) ∧
    ∃ ids : List String, ids.Nodup ∧
      (∀ i, i ∈ ids ↔ i ≠ "" ∧ InConflict (mentions rules preview) i) ∧
      List.Forall₂ (Reports (mentions rules preview)) ids (rules.categoryConflictUncertainties preview) :=
  ⟨fun _ hscene _ hfigure => planSceneApply_category h hscene hfigure, conflicts_reported preview⟩

/-- Anna, once a guest and once an extra. -/
def annaTwice : ScriptContext where
  scenes := [{ draftRef := "r1", characters := [⟨"Anna", .guest⟩] }, { characters := [⟨"ANNA", .extra⟩] }]

theorem categories_agree_anna : ∃ plan,
    planSceneApply asciiRules annaTwice { reviewed [] .continued with decisions := {} } = .ok plan ∧
      ∀ scene ∈ plan.scenes, ∀ figure ∈ scene.characters,
        figure.category = categoryOf ((mentions asciiRules annaTwice).map Prod.snd) figure.identity := by
  have hsome : (planSceneApply asciiRules annaTwice
      { reviewed [] .continued with decisions := {} }).toOption.isSome := by
    decide +kernel
  obtain ⟨plan, hplan⟩ := Option.isSome_iff_exists.mp hsome
  rw [toOption_eq_some] at hplan
  exact ⟨plan, hplan, (categories_agree hplan).1⟩

end Breakdown.Ai
