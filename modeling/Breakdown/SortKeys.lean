/-
**A SORT KEY BETWEEN TWO SORT KEYS** (`LexicalSortKey::midpoint` of
`core/src/shared.rs`).

Siblings are ordered by keys over a printable alphabet, compared byte by byte, and a new sibling gets a
key between its neighbours. `midpoint` looks at the first place where the two keys differ: if a letter
fits between the two letters there, it takes it, otherwise it appends the least letter to the LOWER key.
Twice that goes wrong:

- the upper key may BE the lower one with the least letter behind it, and then it is returned itself;
- the lower key may be as long as a key can get, and then there is no room behind it, although a later
  letter could be raised or the upper key cut short.

- `midpoint_prefix`, `midpoint_gap`, `midpoint_adjacent`: the three branches;
- `midpoint_strictly_between`: everywhere else the result lies between, and an error means that
  nothing does;
- `midpoint_returns_bound`: `x` and `x!`.
-/
import Breakdown.Lib.Words
import Breakdown.Shared
import Mathlib.Data.Char

namespace Breakdown

open Words List

/-! ## §1. Keys and their order -/

/-- Keys are compared as their bytes are. Over the alphabet a byte is a character. -/
instance : LT LexicalSortKey := ⟨fun a b => a.key.toList < b.key.toList⟩

instance (a b : LexicalSortKey) : Decidable (a < b) :=
  inferInstanceAs (Decidable (a.key.toList < b.key.toList))

/-- `LEXICAL_MIN_BYTE`. -/
def lexicalMinByte : Char := '!'

/-- `LEXICAL_MAX_BYTE`. -/
def lexicalMaxByte : Char := '~'

namespace LexicalSortKey

/-- A key that the constructor accepts. -/
def Valid (k : LexicalSortKey) : Prop := LexicalSortKey.new k.key = .ok k

instance (k : LexicalSortKey) : Decidable k.Valid := inferInstanceAs (Decidable (_ = _))

/-- A text over the alphabet is refused only for its length. -/
theorem new_ofList (hne : cs ≠ []) (hall : ∀ c ∈ cs, isLexical c) :
    LexicalSortKey.new (String.ofList cs) =
      if cs.length ≤ 64 then .ok ⟨String.ofList cs⟩ else .error (.tooLong 64) := by
  have hlist : (String.ofList cs).toList = cs := String.toList_ofList
  have hall' : cs.all isLexical = true := all_eq_true.mpr hall
  split
  · next hlen => exact new_ok (by rwa [hlist]) (by rwa [hlist]) (by rwa [hlist])
  · next hlen =>
    have hsize : byteLen (String.ofList cs) > lexicalMaxLen := by
      rw [byteLen, hlist, sum_utf8Size hall']
      exact Nat.lt_of_not_le hlen
    have hempty : ¬ (String.ofList cs).toList.isEmpty = true := by
      rw [hlist]
      simpa using hne
    rw [LexicalSortKey.new, if_neg hempty, if_pos hsize]
    rfl

/-- What validity comes to. -/
theorem valid_iff {k : LexicalSortKey} : k.Valid ↔ k.key.toList ≠ [] ∧ k.key.toList.length ≤ 64 ∧
      ∀ c ∈ k.key.toList, isLexical c := by
  constructor
  · intro h
    unfold Valid LexicalSortKey.new at h
    split at h
    · cases h
    · next hne =>
      split at h
      · cases h
      · next hlen =>
        split at h
        · cases h
        · next hall =>
          rw [Bool.not_eq_true', Bool.not_eq_false] at hall
          have hlen' : byteLen k.key ≤ 64 := Nat.le_of_not_lt hlen
          rw [byteLen, sum_utf8Size hall] at hlen'
          exact ⟨by simpa using hne, hlen', all_eq_true.mp hall⟩
  · rintro ⟨hne, hlen, hall⟩
    exact new_ok hne hlen (all_eq_true.mpr hall)

/-! ## §2. The midpoint -/

/-- `a` with the least letter of the alphabet behind it. -/
def appendMin (a : LexicalSortKey) : Except LexicalSortKeyError LexicalSortKey :=
  LexicalSortKey.new (String.ofList (a.key.toList ++ [lexicalMinByte]))

/-- `LexicalSortKey::midpoint`. -/
def midpoint (a b : LexicalSortKey) : Except LexicalSortKeyError LexicalSortKey :=
  if a.key.toList.isEmpty || b.key.toList.isEmpty then .error .empty
  else if ¬ a < b then .error .noRoom
  else
    let split := splitCommon a.key.toList b.key.toList
    match split.2 with
    | (lo :: _, hi :: _) =>
      if hi.toNat > lo.toNat + 1 then
        -- a single letter strictly between the two
        LexicalSortKey.new (String.ofList (split.1 ++ [Char.ofNat (lo.toNat + 1)]))
      else appendMin a
    -- `a` is a strict prefix of `b`
    | _ => appendMin a

/-- A valid key strictly between the two. -/
def Between (a b c : LexicalSortKey) : Prop := c.Valid ∧ a < c ∧ c < b

instance (a b c : LexicalSortKey) : Decidable (Between a b c) :=
  inferInstanceAs (Decidable (_ ∧ _ ∧ _))

/-! ## §3. Letters -/

theorem isLexical_iff : isLexical c ↔ 33 ≤ c.toNat ∧ c.toNat ≤ 126 := by
  simp only [isLexical, Bool.and_eq_true, decide_eq_true_eq]
  exact Iff.rfl

theorem toNat_ofNat (h : n ≤ 126) : (Char.ofNat n).toNat = n := by
  have hvalid : n.isValidChar := .inl (by omega)
  rw [Char.ofNat, dif_pos hvalid]
  rfl

theorem lt_iff_toNat {x y : Char} : x < y ↔ x.toNat < y.toNat := Iff.rfl

/-- The letter after a letter that is not the last one. -/
theorem succ_letter {x : Char} (hx : isLexical x) (hlt : x.toNat < 126) :
    isLexical (Char.ofNat (x.toNat + 1)) ∧ x < Char.ofNat (x.toNat + 1) := by
  have hnat : (Char.ofNat (x.toNat + 1)).toNat = x.toNat + 1 := toNat_ofNat (by omega)
  rw [isLexical_iff] at hx
  rw [isLexical_iff, lt_iff_toNat, hnat]
  omega

/-- Consecutive letters are neighbours. -/
theorem covBy_of_succ {x y : Char} (h : y.toNat = x.toNat + 1) : x ⋖ y := by
  refine ⟨lt_iff_toNat.mpr (by omega), ?_⟩
  intro z hxz hzy
  rw [lt_iff_toNat] at hxz hzy
  omega

theorem toNat_maxByte : lexicalMaxByte.toNat = 126 := rfl

/-! ## §4. The three branches -/

section Branches

variable {a b : LexicalSortKey}

theorem lt_ofList : a < ⟨String.ofList cs⟩ ↔ a.key.toList < cs := by
  show a.key.toList < (String.ofList cs).toList ↔ _
  rw [String.toList_ofList]

theorem ofList_lt : (⟨String.ofList cs⟩ : LexicalSortKey) < b ↔ cs < b.key.toList := by
  show (String.ofList cs).toList < b.key.toList ↔ _
  rw [String.toList_ofList]

/-- A word over the alphabet that is not too long, as a key between two others. -/
theorem between_ofList (hne : cs ≠ []) (hlen : cs.length ≤ 64)
    (hall : ∀ c ∈ cs, isLexical c) (hlow : a.key.toList < cs) (hhigh : cs < b.key.toList) :
    Between a b ⟨String.ofList cs⟩ := by
  refine ⟨?_, lt_ofList.mpr hlow, ofList_lt.mpr hhigh⟩
  rw [Valid, new_ofList hne hall, if_pos hlen]

theorem appendMin_eq (ha : a.Valid) : appendMin a = if a.key.toList.length < 64 then
      .ok ⟨String.ofList (a.key.toList ++ [lexicalMinByte])⟩ else .error (.tooLong 64) := by
  obtain ⟨-, -, hall⟩ := valid_iff.mp ha
  have hall' : ∀ c ∈ a.key.toList ++ [lexicalMinByte], isLexical c = true := by
    intro c hc
    rw [mem_append, mem_singleton] at hc
    cases hc with
    | inl hc => exact hall c hc
    | inr hc => rw [hc]; decide
  rw [appendMin, new_ofList (by simp) hall', length_append, length_singleton]
  rfl

/-- Two valid keys in order are past the checks. -/
theorem midpoint_of_lt (ha : a.Valid) (hb : b.Valid) (hlt : a < b) {p s t : List Char}
    (hsplit : splitCommon a.key.toList b.key.toList = (p, s, t)) : midpoint a b = match (s, t) with
      | (lo :: _, hi :: _) => if hi.toNat > lo.toNat + 1 then
            LexicalSortKey.new (String.ofList (p ++ [Char.ofNat (lo.toNat + 1)])) else appendMin a
      | _ => appendMin a := by
  have hnea : a.key.toList.isEmpty = false := by simpa using (valid_iff.mp ha).1
  have hneb : b.key.toList.isEmpty = false := by simpa using (valid_iff.mp hb).1
  unfold midpoint
  rw [hnea, hneb, if_neg (by decide), if_neg (not_not.mpr hlt), hsplit]

/-- How a key differs from a greater one. -/
theorem cases_of_lt (hlt : a < b) : (∃ t, t ≠ [] ∧ b.key.toList = a.key.toList ++ t) ∨
      ∃ p x s y t, x < y ∧ a.key.toList = p ++ x :: s ∧ b.key.toList = p ++ y :: t := by
  have hlt' : a.key.toList < b.key.toList := hlt
  obtain ⟨ha, hb, hne⟩ := splitCommon_spec (Eq.refl (splitCommon a.key.toList b.key.toList))
  generalize (splitCommon a.key.toList b.key.toList).1 = p at ha hb
  generalize (splitCommon a.key.toList b.key.toList).2.1 = s at ha hne
  generalize (splitCommon a.key.toList b.key.toList).2.2 = t at hb hne
  rw [ha, hb, append_lt_append_iff] at hlt'
  cases s with
  | nil =>
    rw [append_nil] at ha
    refine .inl ⟨t, ?_, by rw [hb, ha]⟩
    rintro rfl
    exact lt_irrefl [] hlt'
  | cons x s =>
    cases t with
    | nil => exact absurd hlt' (not_lt_nil _)
    | cons y t =>
      rw [cons_lt_cons_iff] at hlt'
      have hxy : x < y := hlt'.resolve_right fun h => hne x s y t rfl rfl h.1
      exact .inr ⟨p, x, s, y, t, hxy, ha, hb⟩

/-- **A BEGINNING**: the least letter is appended to the lower key, and there is room for it. -/
theorem midpoint_prefix (ha : a.Valid) (hb : b.Valid) {t : List Char} (ht : t ≠ [])
    (happend : b.key.toList = a.key.toList ++ t) :
    midpoint a b = .ok ⟨String.ofList (a.key.toList ++ [lexicalMinByte])⟩ := by
  have hlt : a < b := by
    show a.key.toList < b.key.toList
    rw [happend]
    exact lt_append ht _
  have hroom : a.key.toList.length < 64 := by
    have hlen := (valid_iff.mp hb).2.1
    rw [happend, length_append] at hlen
    have hpos := length_pos_of_ne_nil ht
    omega
  have hsplit : splitCommon a.key.toList b.key.toList = (a.key.toList, [], t) := by
    rw [happend, splitCommon_append]
  rw [midpoint_of_lt ha hb hlt hsplit]
  show appendMin a = _
  rw [appendMin_eq ha, if_pos hroom]

variable {p s t : List Char} {x y : Char}

/-- Keys that differ at a letter. -/
theorem midpoint_letter (ha : a.Valid) (hb : b.Valid) (ha' : a.key.toList = p ++ x :: s)
    (hb' : b.key.toList = p ++ y :: t) (hxy : x < y) : midpoint a b = if y.toNat > x.toNat + 1 then
      LexicalSortKey.new (String.ofList (p ++ [Char.ofNat (x.toNat + 1)])) else appendMin a := by
  have hlt : a < b := by
    show a.key.toList < b.key.toList
    rw [ha', hb']
    exact lt_of_letter hxy p s t
  have hsplit : splitCommon a.key.toList b.key.toList = (p, x :: s, y :: t) := by
    rw [ha', hb', splitCommon_letter (ne_of_lt hxy)]
  rw [midpoint_of_lt ha hb hlt hsplit]

/-- **A GAP**: a letter between the two letters. -/
theorem midpoint_gap (ha : a.Valid) (hb : b.Valid) (ha' : a.key.toList = p ++ x :: s)
    (hb' : b.key.toList = p ++ y :: t) (hgap : y.toNat > x.toNat + 1) :
    ∃ c, midpoint a b = .ok c ∧ Between a b c := by
  obtain ⟨-, hlen, hall⟩ := valid_iff.mp ha
  obtain ⟨-, -, hallb⟩ := valid_iff.mp hb
  rw [ha'] at hlen hall
  rw [hb'] at hallb
  have hy := isLexical_iff.mp (hallb y (by simp))
  obtain ⟨hletter, hxz⟩ := succ_letter (hall x (by simp)) (by omega)
  have hzy : Char.ofNat (x.toNat + 1) < y := by
    rw [lt_iff_toNat, toNat_ofNat (by omega)]
    exact hgap
  have hword : ∀ c ∈ p ++ [Char.ofNat (x.toNat + 1)], isLexical c = true := by
    intro c hc
    rw [mem_append, mem_singleton] at hc
    cases hc with
    | inl hc => exact hall c (mem_append_left _ hc)
    | inr hc => rw [hc]; exact hletter
  have hshort : (p ++ [Char.ofNat (x.toNat + 1)]).length ≤ 64 := by
    simp only [length_append, length_cons, length_nil] at hlen ⊢
    omega
  refine ⟨⟨String.ofList (p ++ [Char.ofNat (x.toNat + 1)])⟩, ?_, ?_⟩
  · rw [midpoint_letter ha hb ha' hb' (lt_trans hxz hzy), if_pos hgap,
      new_ofList (by simp) hword, if_pos hshort]
  · apply between_ofList (by simp) hshort hword
    · rw [ha']
      exact lt_of_letter hxz p s []
    · rw [hb']
      exact lt_of_letter hzy p [] t

/-- **NEIGHBOURING LETTERS**: the least letter is appended to the lower key, if that has room. -/
theorem midpoint_adjacent (ha : a.Valid) (hb : b.Valid) (ha' : a.key.toList = p ++ x :: s)
    (hb' : b.key.toList = p ++ y :: t) (hnext : y.toNat = x.toNat + 1) :
    midpoint a b = if a.key.toList.length < 64 then
      .ok ⟨String.ofList (a.key.toList ++ [lexicalMinByte])⟩ else .error (.tooLong 64) := by
  have hxy : x < y := (covBy_of_succ hnext).1
  rw [midpoint_letter ha hb ha' hb' hxy, if_neg (by omega), appendMin_eq ha]

end Branches

/-! ## §5. Where the midpoint is one -/

/-- What a midpoint is for: a key strictly between, and an error only if there is none. -/
def MidpointCorrect (a b : LexicalSortKey) : Prop := (∀ c, midpoint a b = .ok c → Between a b c) ∧
    ∀ e, midpoint a b = .error e → ∀ c, ¬ Between a b c

/-- The upper key is the lower one with the least letter behind it. -/
def Touching (a b : LexicalSortKey) : Prop := b.key.toList = a.key.toList ++ [lexicalMinByte]

/-- The lower key is as long as keys get, and the first letters that differ are neighbours. Still the
upper key goes on behind that letter, or the lower one has a letter behind it that can be raised. -/
def NoRoomBehind (a b : LexicalSortKey) : Prop :=
  a.key.toList.length = 64 ∧ ∃ p x s y t, a.key.toList = p ++ x :: s ∧ b.key.toList = p ++ y :: t ∧
    y.toNat = x.toNat + 1 ∧ (t ≠ [] ∨ ∃ c ∈ s, c ≠ lexicalMaxByte)

section Correct

variable {a b : LexicalSortKey}

/-- The least letter behind the lower key, where it has room. -/
theorem between_appendMin (ha : a.Valid) (hroom : a.key.toList.length < 64)
    (hhigh : a.key.toList ++ [lexicalMinByte] < b.key.toList) :
    Between a b ⟨String.ofList (a.key.toList ++ [lexicalMinByte])⟩ := by
  obtain ⟨-, -, hall⟩ := valid_iff.mp ha
  apply between_ofList (by simp) ?_ ?_ (lt_snoc _ _) hhigh
  · rw [length_append, length_singleton]
    omega
  · intro c hc
    rw [mem_append, mem_singleton] at hc
    cases hc with
    | inl hc => exact hall c hc
    | inr hc => rw [hc]; decide

/-- Where one key begins the other. -/
theorem correct_of_begins (ha : a.Valid) (hb : b.Valid) {t : List Char} (ht : t ≠ [])
    (happend : b.key.toList = a.key.toList ++ t) : MidpointCorrect a b ↔ ¬ Touching a b := by
  have hmid := midpoint_prefix ha hb ht happend
  constructor
  · intro hcorrect htouch
    -- the result is the upper key itself
    have hhigh := (hcorrect.1 _ hmid).2.2
    rw [ofList_lt, htouch] at hhigh
    exact lt_irrefl _ hhigh
  · intro hnot
    have hroom : a.key.toList.length < 64 := by
      have hlen := (valid_iff.mp hb).2.1
      rw [happend, length_append] at hlen
      have hpos := length_pos_of_ne_nil ht
      omega
    have hhigh : a.key.toList ++ [lexicalMinByte] < b.key.toList := by
      rw [happend, append_lt_append_iff]
      cases t with
      | nil => exact absurd rfl ht
      | cons y t =>
        have hy : isLexical y = true := (valid_iff.mp hb).2.2 y (by simp [happend])
        rw [isLexical_iff] at hy
        rw [cons_lt_cons_iff]
        by_cases hmin : lexicalMinByte = y
        · refine .inr ⟨hmin, ?_⟩
          cases t with
          | nil => exact absurd (by rw [Touching, happend, hmin]) hnot
          | cons z t => exact nil_lt_cons z t
        · refine .inl (lt_of_le_of_ne ?_ hmin)
          exact not_lt.mp fun h => absurd (lt_iff_toNat.mp h) (Nat.not_lt.mpr hy.1)
    refine ⟨?_, ?_⟩
    · intro c hc
      rw [hmid] at hc
      cases hc
      exact between_appendMin ha hroom hhigh
    · intro e he
      rw [hmid] at he
      cases he

variable {p s t : List Char} {x y : Char}

/-- Keys that differ at a letter do not touch. -/
theorem not_touching (ha : a.key.toList = p ++ x :: s) (hb : b.key.toList = p ++ y :: t)
    (hxy : x ≠ y) : ¬ Touching a b := by
  intro htouch
  have hsplit := splitCommon_letter hxy p s t
  rw [← ha, ← hb, htouch, splitCommon_append] at hsplit
  cases hsplit

/-- The place where two keys differ is determined by them. -/
theorem letter_unique (ha : a.key.toList = p ++ x :: s)
    (hb : b.key.toList = p ++ y :: t) (hxy : x ≠ y) (ha' : a.key.toList = p' ++ x' :: s')
    (hb' : b.key.toList = p' ++ y' :: t') (hxy' : x' ≠ y') :
    p' = p ∧ x' = x ∧ s' = s ∧ y' = y ∧ t' = t := by
  have hsplit := splitCommon_letter hxy p s t
  rw [← ha, ← hb, ha', hb', splitCommon_letter hxy'] at hsplit
  cases hsplit
  exact ⟨rfl, rfl, rfl, rfl, rfl⟩

/-- A key that is full leaves a valid key between, if the upper key goes on behind the letter, or a
later letter can be raised. -/
theorem exists_between (ha : a.Valid) (hb : b.Valid) (ha' : a.key.toList = p ++ x :: s)
    (hb' : b.key.toList = p ++ y :: t) (hxy : x < y) (hroom : t ≠ [] ∨ ∃ c ∈ s, c ≠ lexicalMaxByte) :
    ∃ c, Between a b c := by
  obtain ⟨-, hlen, hall⟩ := valid_iff.mp ha
  obtain ⟨-, hlenb, hallb⟩ := valid_iff.mp hb
  rw [ha'] at hlen hall
  rw [hb'] at hlenb hallb
  cases hroom with
  | inl ht =>
    -- the upper key, cut behind the letter
    refine ⟨⟨String.ofList (p ++ [y])⟩, between_ofList (by simp) ?_ ?_ ?_ ?_⟩
    · simp only [length_append, length_cons, length_nil] at hlenb ⊢
      omega
    · intro c hc
      rw [mem_append, mem_singleton] at hc
      cases hc with
      | inl hc => exact hallb c (mem_append_left _ hc)
      | inr hc => exact hallb c (by simp [hc])
    · rw [ha']
      exact lt_of_letter hxy p s []
    · have hword : p ++ y :: t = (p ++ [y]) ++ t := by simp
      rw [hb', hword]
      exact lt_append ht _
  | inr hex =>
    -- the lower key, with that letter raised and cut behind it
    obtain ⟨c, hc, hne⟩ := hex
    obtain ⟨s₁, s₂, rfl⟩ := append_of_mem hc
    have hcl : isLexical c = true := hall c (by simp)
    have hlast : c.toNat < 126 := by
      have hle := (isLexical_iff.mp hcl).2
      refine Nat.lt_of_le_of_ne hle fun h => hne ?_
      exact Char.toNat_inj.mp (h.trans toNat_maxByte.symm)
    obtain ⟨hletter, hlt⟩ := succ_letter hcl hlast
    have hword : p ++ x :: (s₁ ++ c :: s₂) = (p ++ x :: s₁) ++ c :: s₂ := by simp
    rw [hword] at ha' hlen hall
    refine ⟨⟨String.ofList ((p ++ x :: s₁) ++ [Char.ofNat (c.toNat + 1)])⟩,
      between_ofList (by simp) ?_ ?_ ?_ ?_⟩
    · simp only [length_append, length_cons, length_nil] at hlen ⊢
      omega
    · intro d hd
      rw [mem_append, mem_singleton] at hd
      cases hd with
      | inl hd => exact hall d (mem_append_left _ hd)
      | inr hd => rw [hd]; exact hletter
    · rw [ha']
      exact lt_of_letter hlt _ s₂ []
    · rw [hb', append_assoc, cons_append]
      exact lt_of_letter hxy p _ t

/-- Where the letters are neighbours. -/
theorem correct_adjacent (ha : a.Valid) (hb : b.Valid) (ha' : a.key.toList = p ++ x :: s)
    (hb' : b.key.toList = p ++ y :: t) (hnext : y.toNat = x.toNat + 1) :
    MidpointCorrect a b ↔ ¬ NoRoomBehind a b := by
  have hmid := midpoint_adjacent ha hb ha' hb' hnext
  have hcov : x ⋖ y := covBy_of_succ hnext
  by_cases hroom : a.key.toList.length < 64
  · -- there is room behind the lower key, and the letter keeps the result below the upper one
    rw [if_pos hroom] at hmid
    refine iff_of_true ⟨?_, ?_⟩ fun h => absurd h.1 (Nat.ne_of_lt hroom)
    · intro c hc
      rw [hmid] at hc
      cases hc
      refine between_appendMin ha hroom ?_
      rw [ha', hb', append_assoc, cons_append]
      exact lt_of_letter hcov.1 p _ t
    · intro e he
      rw [hmid] at he
      cases he
  · have hfull : a.key.toList.length = 64 :=
      Nat.le_antisymm (valid_iff.mp ha).2.1 (Nat.le_of_not_lt hroom)
    rw [if_neg hroom] at hmid
    constructor
    · rintro hcorrect ⟨-, p', x', s', y', t', ha'', hb'', hnext', hleft⟩
      obtain ⟨c, hc⟩ := exists_between ha hb ha'' hb'' (covBy_of_succ hnext').1 hleft
      exact hcorrect.2 _ hmid c hc
    · intro hnot
      refine ⟨?_, ?_⟩
      · intro c hc
        rw [hmid] at hc
        cases hc
      · rintro e - c ⟨hvalid, hlow, hhigh⟩
        -- nothing of the upper key is left, and every later letter is the greatest one
        have hleft : ¬ (t ≠ [] ∨ ∃ c ∈ s, c ≠ lexicalMaxByte) :=
          fun hleft => hnot ⟨hfull, p, x, s, y, t, ha', hb', hnext, hleft⟩
        rw [not_or, not_not] at hleft
        obtain ⟨rfl, htop⟩ := hleft
        have htop' : ∀ z ∈ s, z = lexicalMaxByte :=
          fun z hz => not_not.mp fun hne => htop ⟨z, hz, hne⟩
        obtain ⟨-, hclen, hcall⟩ := valid_iff.mp hvalid
        have hmax : ∀ z ∈ c.key.toList, z ≤ lexicalMaxByte := by
          intro z hz
          have hz' := (isLexical_iff.mp (hcall z hz)).2
          exact not_lt.mp fun h => absurd (lt_iff_toNat.mp h) (Nat.not_lt.mpr hz')
        have hlow' : a.key.toList < c.key.toList := hlow
        have hhigh' : c.key.toList < b.key.toList := hhigh
        rw [ha'] at hlow' hfull
        rw [hb'] at hhigh'
        have hlonger := longer_of_between hcov htop' hmax hlow' hhigh'
        omega

/-- **THE MIDPOINT LIES STRICTLY BETWEEN, AND IS MISSING ONLY WHERE NOTHING DOES**, unless the keys touch
or the lower one is full. -/
theorem midpoint_strictly_between (ha : a.Valid) (hb : b.Valid) (hlt : a < b) :
    MidpointCorrect a b ↔ ¬ Touching a b ∧ ¬ NoRoomBehind a b := by
  obtain ⟨t, ht, happend⟩ | ⟨p, x, s, y, t, hxy, ha', hb'⟩ := cases_of_lt hlt
  · rw [correct_of_begins ha hb ht happend, iff_self_and]
    rintro - ⟨hfull, -⟩
    have hlen := (valid_iff.mp hb).2.1
    rw [happend, length_append, hfull] at hlen
    have hpos := length_pos_of_ne_nil ht
    omega
  · rw [iff_true_intro (not_touching ha' hb' (ne_of_lt hxy)), true_and]
    by_cases hnext : y.toNat = x.toNat + 1
    · exact correct_adjacent ha hb ha' hb' hnext
    · -- a letter fits between the two
      have hgap : y.toNat > x.toNat + 1 := by
        have hlt' := lt_iff_toNat.mp hxy
        omega
      obtain ⟨c, hmid, hbetween⟩ := midpoint_gap ha hb ha' hb' hgap
      refine iff_of_true ⟨?_, ?_⟩ ?_
      · intro c' hc'
        rw [hmid] at hc'
        cases hc'
        exact hbetween
      · intro e he
        rw [hmid] at he
        cases he
      · rintro ⟨-, p', x', s', y', t', ha'', hb'', hnext', -⟩
        obtain ⟨-, rfl, -, rfl, -⟩ := letter_unique ha' hb' (ne_of_lt hxy) ha'' hb''
          (covBy_of_succ hnext').1.ne
        exact hnext hnext'

/-- Between `a` and `c` there is room. -/
theorem midpoint_strictly_between_ac :
    (⟨"a"⟩ : LexicalSortKey).Valid ∧ (⟨"c"⟩ : LexicalSortKey).Valid ∧
      MidpointCorrect ⟨"a"⟩ ⟨"c"⟩ := by
  have ha : (⟨"a"⟩ : LexicalSortKey).Valid := by decide
  have hc : (⟨"c"⟩ : LexicalSortKey).Valid := by decide
  refine ⟨ha, hc, (midpoint_strictly_between ha hc (by decide)).mpr ⟨?_, ?_⟩⟩
  · unfold Touching
    decide
  · exact fun h => absurd h.1 (by decide)

/-- The longest key of least letters. -/
def fullKey : LexicalSortKey := ⟨String.ofList (List.replicate 64 '!')⟩

/-- **NOT A MIDPOINT.** `x!` is `x` with the least letter behind it, and the midpoint of the two is `x!`.
The longest key of least letters and the key `"` have no midpoint, although the last letter of the
first one can be raised. -/
theorem midpoint_returns_bound : ((⟨"x"⟩ : LexicalSortKey).Valid ∧ (⟨"x!"⟩ : LexicalSortKey).Valid ∧
      (⟨"x"⟩ : LexicalSortKey) < ⟨"x!"⟩ ∧ midpoint ⟨"x"⟩ ⟨"x!"⟩ = .ok ⟨"x!"⟩ ∧
        ¬ MidpointCorrect ⟨"x"⟩ ⟨"x!"⟩) ∧
    (fullKey.Valid ∧ (⟨"\""⟩ : LexicalSortKey).Valid ∧ fullKey < ⟨"\""⟩ ∧
      midpoint fullKey ⟨"\""⟩ = .error (.tooLong 64) ∧
        Between fullKey ⟨"\""⟩ ⟨String.ofList (List.replicate 63 '!' ++ ['"'])⟩) := by
  have hmid : midpoint ⟨"x"⟩ ⟨"x!"⟩ = .ok ⟨"x!"⟩ := by decide
  refine ⟨⟨by decide, by decide, by decide, hmid, ?_⟩, ?_⟩
  · intro h
    exact absurd (h.1 _ hmid) (by decide)
  · exact ⟨by decide +kernel, by decide, by decide +kernel, by decide +kernel, by decide +kernel⟩

end Correct

end LexicalSortKey

end Breakdown
