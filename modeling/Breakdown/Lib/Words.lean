/-
**WORDS IN LEXICOGRAPHIC ORDER.**

Lists over a linear order, compared letter by letter, a proper beginning first. What lies between two
words is decided at the first letter where they differ, or by what the longer one goes on with.

- `splitCommon`: the longest common beginning, and how the two words go on;
- `lt_snoc`, `lt_of_letter`: the two ways of being smaller;
- `longer_of_top`: a word above `p x z z … z`, with `z` the greatest letter, that still begins
  with `p x` is longer;
- `split_at_separator`: the first separator of a word cuts it in one way.
-/
import Mathlib.Data.List.Lex
import Mathlib.Order.Cover

namespace Breakdown.Words

open List

variable {α : Type*}

/-! ## §1. The common beginning -/

/-- The longest common beginning of two words, and what each of them goes on with. -/
def splitCommon [DecidableEq α] : List α → List α → List α × List α × List α
  | x :: a, y :: b =>
    if x = y then
      let rest := splitCommon a b
      (x :: rest.1, rest.2)
    else ([], x :: a, y :: b)
  | a, b => ([], a, b)

theorem splitCommon_spec [DecidableEq α] {a b p s t : List α} (h : splitCommon a b = (p, s, t)) :
    a = p ++ s ∧ b = p ++ t ∧ ∀ x s' y t', s = x :: s' → t = y :: t' → x ≠ y := by
  -- letter by letter, as the scan goes
  induction a, b using splitCommon.induct generalizing p s t with
  | case1 a x b ih =>
    rw [splitCommon, if_pos rfl] at h
    obtain ⟨rfl, hrest⟩ := Prod.mk.inj h
    have hsplit : splitCommon a b = ((splitCommon a b).1, s, t) := by rw [← hrest]
    obtain ⟨ha, hb, hne⟩ := ih hsplit
    exact ⟨congrArg (x :: ·) ha, congrArg (x :: ·) hb, hne⟩
  | case2 x a y b hxy =>
    rw [splitCommon, if_neg hxy] at h
    cases h
    refine ⟨rfl, rfl, ?_⟩
    intro x' s' y' t' hs ht
    cases hs
    cases ht
    exact hxy
  | case3 a b hnot =>
    rw [splitCommon] at h
    · cases h
      exact ⟨rfl, rfl, fun x s' y t' hs ht => absurd ht (hnot x s' y t' hs)⟩
    · exact hnot

/-- A word and its beginning. -/
theorem splitCommon_append [DecidableEq α] (a t : List α) :
    splitCommon a (a ++ t) = (a, [], t) := by
  induction a with
  | nil => cases t <;> rfl
  | cons x a ih => rw [cons_append, splitCommon, if_pos rfl, ih]

/-- Words that differ at a letter. -/
theorem splitCommon_letter [DecidableEq α] (h : x ≠ y) (p s t : List α) :
    splitCommon (p ++ x :: s) (p ++ y :: t) = (p, x :: s, y :: t) := by
  induction p with
  | nil => rw [nil_append, nil_append, splitCommon, if_neg h]
  | cons z p ih => rw [cons_append, cons_append, splitCommon, if_pos rfl, ih]

/-! ## §2. The order -/

section Order

variable [LinearOrder α]

/-- A common beginning does not matter. -/
@[simp] theorem append_lt_append_iff (p s t : List α) : p ++ s < p ++ t ↔ s < t := by
  induction p with
  | nil => rfl
  | cons x p ih =>
    rw [cons_append, cons_append, cons_lt_cons_iff, ih]
    constructor
    · intro h
      cases h with
      | inl hlt => exact absurd hlt (lt_irrefl x)
      | inr h => exact h.2
    · exact fun h => .inr ⟨rfl, h⟩

/-- A word that goes on is greater. -/
theorem lt_append (ht : t ≠ []) (p : List α) : p < p ++ t := by
  have h : p ++ [] < p ++ t := by
    rw [append_lt_append_iff]
    cases t with
    | nil => exact absurd rfl ht
    | cons y t => exact nil_lt_cons y t
  rwa [append_nil] at h

theorem lt_snoc (p : List α) (x : α) : p < p ++ [x] := lt_append (cons_ne_nil x []) p

/-- The first letter that differs decides. -/
theorem lt_of_letter (h : x < y) (p s t : List α) : p ++ x :: s < p ++ y :: t := by
  rw [append_lt_append_iff, cons_lt_cons_iff]
  exact .inl h

/-- A word between two words with a common beginning has that beginning. -/
theorem between_append {p s t c : List α} (hlow : p ++ s < c) (hhigh : c < p ++ t) :
    ∃ r, c = p ++ r ∧ s < r ∧ r < t := by
  induction p generalizing c with
  | nil => exact ⟨c, rfl, hlow, hhigh⟩
  | cons x p ih =>
    cases c with
    | nil => exact absurd hlow (not_lt_nil _)
    | cons z =>
      rw [cons_append, cons_lt_cons_iff] at hlow hhigh
      have hzx : z = x := by
        have hxz : x ≤ z := hlow.elim le_of_lt fun h => le_of_eq h.1
        have hzx : z ≤ x := hhigh.elim le_of_lt fun h => le_of_eq h.1
        exact le_antisymm hzx hxz
      subst hzx
      obtain ⟨r, rfl, hr⟩ := ih (hlow.resolve_left (lt_irrefl z)).2
        (hhigh.resolve_left (lt_irrefl z)).2
      exact ⟨r, rfl, hr⟩

/-! ## §3. Where there is nothing between -/

/-- Above a word of greatest letters there are only longer ones. -/
theorem longer_of_top {s r : List α} (htop : ∀ x ∈ s, x = top) (hr : ∀ x ∈ r, x ≤ top) (h : s < r) :
    s.length < r.length := by
  induction s generalizing r with
  | nil =>
    cases r with
    | nil => exact absurd h (lt_irrefl [])
    | cons z r => exact Nat.zero_lt_succ r.length
  | cons x s ih =>
    cases r with
    | nil => exact absurd h (not_lt_nil _)
    | cons z =>
      obtain rfl : x = top := htop x mem_cons_self
      rw [cons_lt_cons_iff] at h
      cases h with
      | inl hlt => exact absurd hlt (not_lt_of_ge (hr z mem_cons_self))
      | inr h =>
        have hlen := ih (fun y hy => htop y (mem_cons_of_mem x hy))
          (fun y hy => hr y (mem_cons_of_mem z hy)) h.2
        rw [length_cons, length_cons]
        omega

/-- **NOTHING SHORT ENOUGH LIES BETWEEN** `p x z … z` and `p y`, for neighbours `x` and `y` and the
greatest letter `z`. -/
theorem longer_of_between (hxy : x ⋖ y) {p s c : List α} (htop : ∀ z ∈ s, z = top)
    (hc : ∀ z ∈ c, z ≤ top) (hlow : p ++ x :: s < c) (hhigh : c < p ++ [y]) :
    (p ++ x :: s).length < c.length := by
  obtain ⟨r, rfl, hr, hr'⟩ := between_append hlow hhigh
  cases r with
  | nil => exact absurd hr (not_lt_nil _)
  | cons z r =>
    rw [cons_lt_cons_iff] at hr hr'
    have hzy : z < y := hr'.resolve_right fun h => absurd h.2 (not_lt_nil r)
    have hnot : ¬ x < z := fun hxz => hxy.2 hxz hzy
    have hlen := longer_of_top htop
      (fun w hw => hc w (mem_append_right p (mem_cons_of_mem z hw)))
      (hr.resolve_left hnot).2
    simp only [length_append, length_cons]
    omega

end Order

/-! ## §4. Separators -/

/-- A word that is cut at its first separator falls into the same two parts, however it was put
together. -/
theorem split_at_separator {a b r s : List α} (ha : sep ∉ a) (hb : sep ∉ b)
    (h : a ++ sep :: r = b ++ sep :: s) : a = b ∧ r = s := by
  induction a generalizing b with
  | nil =>
    cases b with
    | nil => exact ⟨rfl, (cons.inj h).2⟩
    | cons => exact absurd (cons.inj h).1 fun heq => hb (heq ▸ mem_cons_self)
  | cons x a ih =>
    cases b with
    | nil => exact absurd (cons.inj h).1.symm fun heq => ha (heq ▸ mem_cons_self)
    | cons =>
      obtain ⟨rfl, hwords⟩ := cons.inj h
      obtain ⟨rfl, hrest⟩ := ih (fun hmem => ha (mem_cons_of_mem x hmem))
        (fun hmem => hb (mem_cons_of_mem x hmem)) hwords
      exact ⟨rfl, hrest⟩

end Breakdown.Words
