/-
**THE DISPLAY NAME OF AN UPLOADED DOCUMENT**
(`core/src/ai/source_name.rs`).

The name of an upload is cut to its last path component, freed of control characters, and its
whitespace collapsed; then it is trimmed, capped and trimmed again. The collapsing leaves a `Spaced`
text: read behind an imagined space, every whitespace character is a space after something visible.
The cuts that follow keep it so. A text is the list of its characters.

- `spaced_foldl`, `foldl_spaced`: the collapsing makes a text spaced, and leaves a spaced one alone;
- `sanitize_clean`: a name that comes out is clean, and comes out again.
-/
import Breakdown.Shared
import Mathlib.Data.List.Chain
import Mathlib.Data.List.DropRight

namespace Breakdown.Ai

open List

/-! ## §1. The function -/

/-- `MAX_SOURCE_FILE_NAME_CHARS`. -/
def maxSourceFileNameChars : Nat := 200

/-- `char::is_control`: C0, DEL and C1. -/
def isControlChar (c : Char) : Bool := c.toNat < 0x20 || (0x7F ≤ c.toNat && c.toNat ≤ 0x9F)

/-- One character of the whitespace fold. -/
def collapseChar (acc : List Char) (ch : Char) : List Char := if isWhitespaceChar ch then
    if acc.getLast? ≠ some ' ' ∧ acc ≠ [] then acc ++ [' '] else acc
  else acc ++ [ch]

/-- The characters behind the last separator, without controls, the whitespace collapsed. -/
def baseName (raw : List Char) : List Char :=
  ((raw.rtakeWhile fun c => c ≠ '/' ∧ c ≠ '\\').filter (!isControlChar ·)).foldl collapseChar []

/-- `trim_end`. -/
def trimEnd (text : List Char) : List Char := text.rdropWhile isWhitespaceChar

/-- `sanitize_source_file_name`. -/
def sanitizeSourceFileName (raw : List Char) : Option (List Char) :=
  let trimmed := trimEnd ((baseName raw).dropWhile isWhitespaceChar)
  if trimmed = [] ∨ trimmed = ['.'] ∨ trimmed = ['.', '.'] then none
  else
    let capped := trimEnd (trimmed.take maxSourceFileNameChars)
    if capped = [] then none else some capped

/-! ## §2. Spaced texts -/

/-- A whitespace character is a space and follows something visible. -/
def SpaceAfter (a b : Char) : Prop := isWhitespaceChar b → b = ' ' ∧ isWhitespaceChar a = false

/-- No whitespace but single spaces, and none in front. -/
def Spaced (text : List Char) : Prop := IsChain SpaceAfter (' ' :: text)

variable {text acc raw : List Char}

theorem spaced_concat :
    Spaced (acc ++ [c]) ↔ Spaced acc ∧ SpaceAfter (acc.getLast?.getD ' ') c := by
  unfold Spaced
  rw [← cons_append, isChain_append]
  simp [getLast?_cons]

theorem Spaced.begins (h : Spaced text) (hbegins : acc <+: text) : Spaced acc :=
  List.IsChain.prefix h ((prefix_cons_inj ' ').mpr hbegins)

theorem trimEnd_begins (text) : trimEnd text <+: text := rdropWhile_prefix _ text

/-- The neighbours of a character. -/
theorem Spaced.split (h : Spaced (a ++ c :: b)) :
    SpaceAfter (a.getLast?.getD ' ') c ∧ ∀ d ∈ b.head?, SpaceAfter c d := by
  unfold Spaced at h
  rw [← cons_append, isChain_split] at h
  exact ⟨(spaced_concat.mp h.1).2, (isChain_cons.mp h.2).1⟩

/-- **One character keeps the text spaced.** -/
theorem spaced_collapseChar (h : Spaced acc) (ch) : Spaced (collapseChar acc ch) := by
  unfold collapseChar
  split
  · split
    · next hpush =>
      refine spaced_concat.mpr ⟨h, fun _ => ⟨rfl, ?_⟩⟩
      obtain ⟨before, last, rfl⟩ := (eq_nil_or_concat' acc).resolve_left hpush.2
      rw [getLast?_concat] at hpush ⊢
      -- the only whitespace a spaced text may end in is the space
      by_contra hlast
      have hspace := (h.split.1 (by simpa using hlast)).1
      exact hpush.1 (congrArg some hspace)
    · exact h
  · next hvisible => exact spaced_concat.mpr ⟨h, fun hspace => absurd hspace hvisible⟩

theorem spaced_foldl : Spaced (raw.foldl collapseChar []) :=
  foldlRecOn raw collapseChar (.singleton _) fun _ h ch _ => spaced_collapseChar h ch

/-- A spaced text is left as it is. -/
theorem foldl_spaced (h : Spaced text) : text.foldl collapseChar [] = text := by
  induction text using reverseRecOn with
  | nil => rfl
  | append_singleton acc c ih =>
    obtain ⟨hacc, hlast⟩ := spaced_concat.mp h
    rw [foldl_concat, ih hacc]
    unfold collapseChar
    split
    · next hspace =>
      obtain ⟨rfl, hvisible⟩ := hlast hspace
      refine if_pos ⟨?_, ?_⟩
      · intro heq
        rw [heq] at hvisible
        exact absurd hvisible (by decide)
      · rintro rfl
        exact absurd hvisible (by decide)
    · rfl

/-- The fold writes nothing but characters it read, and spaces. -/
theorem forall_foldl_collapse {P : Char → Prop} (hspace : P ' ') (hraw : ∀ c ∈ raw, P c) :
    ∀ c ∈ raw.foldl collapseChar [], P c := by
  refine foldlRecOn (motive := fun acc => ∀ c ∈ acc, P c) raw collapseChar nofun
    fun acc hacc ch hch => ?_
  have hread := hraw ch hch
  unfold collapseChar
  grind

theorem dropWhile_spaced (h : Spaced text) : text.dropWhile isWhitespaceChar = text := by
  cases text with
  | nil => rfl
  | cons =>
    refine dropWhile_cons_of_neg fun hspace => ?_
    exact absurd ((Spaced.split (a := []) h).1 hspace).2 (by decide)

/-- There is at most one space to drop at the end. -/
theorem length_trimEnd (h : Spaced text) : text.length ≤ (trimEnd text).length + 1 := by
  unfold trimEnd
  obtain rfl | ⟨acc, c, rfl⟩ := eq_nil_or_concat' text
  · exact Nat.zero_le _
  · by_cases hspace : isWhitespaceChar c
    · have hlast := ((spaced_concat.mp h).2 hspace).2
      have hacc : acc.rdropWhile isWhitespaceChar = acc := by
        refine rdropWhile_eq_self_iff.mpr fun hne => ?_
        simpa [getLast?_eq_some_getLast hne] using hlast
      rw [rdropWhile_concat_pos _ _ _ hspace, hacc]
      simp
    · rw [rdropWhile_concat_neg _ _ _ hspace]
      simp

/-! ## §3. Clean names -/

/-- Not a control character, no slash and no backslash. -/
def isNameChar (c : Char) : Bool := !isControlChar c && c ≠ '/' && c ≠ '\\'

/-- What the function makes of a text, before it is measured. -/
structure Tidy (text : List Char) : Prop where
  printable : ∀ c ∈ text, isNameChar c
  spaced : Spaced text
  trimmed : trimEnd text = text

theorem tidy_trimEnd (hprintable : ∀ c ∈ text, isNameChar c) (hspaced : Spaced text) :
    Tidy (trimEnd text) where
  printable c hmem := hprintable c (IsPrefix.mem hmem (trimEnd_begins text))
  spaced := hspaced.begins (trimEnd_begins text)
  trimmed := rdropWhile_idempotent _ text

theorem printable_baseName : ∀ c ∈ baseName raw, isNameChar c := by
  refine forall_foldl_collapse (by decide) fun c hmem => ?_
  obtain ⟨hmem, hcontrol⟩ := mem_filter.mp hmem
  have hpath := mem_rtakeWhile_imp hmem
  simp_all [isNameChar]

theorem baseName_tidy (h : Tidy text) : baseName text = text := by
  have hchar := h.printable
  simp only [isNameChar, Bool.and_eq_true, Bool.not_eq_true', decide_eq_true_eq] at hchar
  unfold baseName
  rw [rtakeWhile_eq_self_iff.mpr fun c hc => by simp [hchar c hc],
    filter_eq_self.mpr fun c hc => by simp [hchar c hc], foldl_spaced h.spaced]

/-- The cap keeps a tidy text tidy, and shortens only what stays longer than two dots. -/
theorem Tidy.cap (h : Tidy text) : Tidy (trimEnd (text.take maxSourceFileNameChars)) ∧
    ((trimEnd (text.take maxSourceFileNameChars)).length ≤ 2 →
      trimEnd (text.take maxSourceFileNameChars) = text) := by
  have hspaced := h.spaced.begins ⟨_, take_append_drop maxSourceFileNameChars text⟩
  refine ⟨tidy_trimEnd (fun c hc => h.printable c (mem_of_mem_take hc)) hspaced, fun hle => ?_⟩
  have hdrop := length_trimEnd hspaced
  rw [length_take] at hdrop
  have hlen : text.length ≤ maxSourceFileNameChars := by
    unfold maxSourceFileNameChars at hdrop hle ⊢
    omega
  rw [take_of_length_le hlen, h.trimmed]

/-- A name as it is shown: every whitespace character is a single space, with something visible on
either side. -/
structure CleanName (name : List Char) : Prop where
  nonempty : name ≠ []
  bounded : name.length ≤ maxSourceFileNameChars
  printable : ∀ c ∈ name, isNameChar c
  spaces : ∀ a c b, name = a ++ c :: b → isWhitespaceChar c → c = ' ' ∧
    (∃ d ∈ a.getLast?, isWhitespaceChar d = false) ∧ ∃ d ∈ b.head?, isWhitespaceChar d = false
  not_dots : name ≠ ['.'] ∧ name ≠ ['.', '.']

theorem Tidy.clean (h : Tidy text) (hne : text ≠ []) (hlen : text.length ≤ maxSourceFileNameChars)
    (hdots : text ≠ ['.'] ∧ text ≠ ['.', '.']) : CleanName text where
  nonempty := hne
  bounded := hlen
  printable := h.printable
  spaces := by
    rintro a c b rfl hspace
    obtain ⟨hbefore, hafter⟩ := h.spaced.split
    obtain ⟨rfl, hvisible⟩ := hbefore hspace
    refine ⟨rfl, ?_, ?_⟩
    · cases hlast : a.getLast? with
      | none =>
        rw [hlast] at hvisible
        exact absurd hvisible (by decide)
      | some d =>
        rw [hlast] at hvisible
        exact ⟨d, rfl, hvisible⟩
    · cases b with
      | nil => exact absurd hspace (by simpa using rdropWhile_eq_self_iff.mp h.trimmed hne)
      | cons d =>
        refine ⟨d, rfl, ?_⟩
        by_contra hnot
        exact absurd (hafter d rfl (by simpa using hnot)).2 (by decide)
  not_dots := hdots

/-- **SANITIZING IS A PROJECTION ONTO CLEAN NAMES**: nothing comes out, or a clean name that comes
out as it is when it goes in again. -/
theorem sanitize_clean (raw : List Char) : sanitizeSourceFileName raw = none ∨
    ∃ name, sanitizeSourceFileName raw = some name ∧ CleanName name ∧
      sanitizeSourceFileName name = some name := by
  have hbase : Spaced (baseName raw) := spaced_foldl
  have htidy := tidy_trimEnd printable_baseName hbase
  obtain ⟨hcapped, hshort⟩ := htidy.cap
  have hlen : (trimEnd ((trimEnd (baseName raw)).take maxSourceFileNameChars)).length ≤ _ :=
    (trimEnd_begins _).length_le.trans (length_take_le ..)
  simp only [sanitizeSourceFileName, dropWhile_spaced hbase]
  generalize trimEnd (baseName raw) = trimmed at *
  generalize trimEnd (trimmed.take maxSourceFileNameChars) = name at *
  split
  · exact .inl rfl
  · next hdots =>
    split
    · exact .inl rfl
    · next hne =>
      have hnot : name ≠ ['.'] ∧ name ≠ ['.', '.'] := by
        constructor
        · rintro rfl
          exact hdots (.inr (.inl (hshort (by decide)).symm))
        · rintro rfl
          exact hdots (.inr (.inr (hshort (by decide)).symm))
      refine .inr ⟨name, rfl, hcapped.clean hne hlen hnot, ?_⟩
      simp [baseName_tidy hcapped, dropWhile_spaced hcapped.spaced, hcapped.trimmed,
        take_of_length_le hlen, hne, hnot]

end Breakdown.Ai
