/-
**DEALING IN TURN.**

Items are dealt one after the other. An item has a key, a key has a group of places, and the items of a
key go around its group in turn, each key with a cursor of its own; an item whose group is empty is left
over. Several keys may share places, and then each of them starts its round at the first place.

- `dealAll_perm`: every item is dealt to one place or left over;
- `mem_hands`, `left_eq`: to a place of its group, and left over only if there is none;
- `length_hands`: what a place gets, key by key;
- `turns_eq`: from one key, its share of the full rounds and one more if the last round gets
  that far;
- `length_hands_diff`: of two places that are in the same groups, the one ahead gets one more item for
  every key whose last round stops between them.
-/
import Mathlib.Algebra.BigOperators.Group.Finset.Piecewise
import Mathlib.Algebra.Order.BigOperators.Group.Finset
import Mathlib.Data.Int.CardIntervalMod
import Mathlib.Data.List.Perm.Basic

namespace Breakdown.RoundRobin

open List Finset Function

variable {ρ κ ι : Type} [DecidableEq κ] [DecidableEq ι]

/-! ## §1. Dealing -/

/-- What was dealt so far: the cursors, what each place got, and what was left over. -/
structure Deal (ρ κ ι : Type) where
  next : κ → Nat
  hands : ι → List ρ
  left : List ρ

/-- Before the first item. -/
def start : Deal ρ κ ι := ⟨fun _ => 0, fun _ => [], []⟩

/-- The place whose turn it is after `n` items. -/
def turn (places : List ι) (n : Nat) : Option ι := places[n % places.length]?

/-- Hand out one item. -/
def deal (key : ρ → κ) (group : κ → List ι) (s : Deal ρ κ ι) (item : ρ) : Deal ρ κ ι :=
  match turn (group (key item)) (s.next (key item)) with
  | none => { s with left := s.left ++ [item] }
  | some place =>
    { s with
      next := update s.next (key item) (s.next (key item) + 1)
      hands := update s.hands place (s.hands place ++ [item]) }

omit [DecidableEq ι] in
theorem turn_eq_none {places : List ι} : turn places n = none ↔ places = [] := by
  unfold turn
  rw [getElem?_eq_none_iff]
  constructor
  · intro h
    by_contra hne
    have hlt := Nat.mod_lt n (length_pos_of_ne_nil hne)
    omega
  · rintro rfl
    simp

omit [DecidableEq ι] in
theorem turn_mem {place : ι} (h : turn places n = some place) : place ∈ places := mem_of_getElem? h

/-- The number of items of a key. -/
def countOf (key : ρ → κ) (items : List ρ) (k : κ) : Nat := items.countP fun item => key item = k

theorem countOf_concat (key : ρ → κ) (items item k) :
    countOf key (items ++ [item]) k = countOf key items k + if key item = k then 1 else 0 := by
  unfold countOf
  by_cases h : key item = k
  · simp [h]
  · simp [h]

theorem countOf_perm (key : ρ → κ) (h : items.Perm items') (k) :
    countOf key items k = countOf key items' k := h.countP_eq _

section Dealt

variable {key : ρ → κ} {group : κ → List ι}

variable (key group) in
/-- **WHAT ONE ITEM DOES.** -/
theorem deal_cases (s item) : (group (key item) = [] ∧ (deal key group s item).next = s.next ∧
        (deal key group s item).hands = s.hands ∧ (deal key group s item).left = s.left ++ [item]) ∨
      ∃ place, group (key item) ≠ [] ∧ turn (group (key item)) (s.next (key item)) = some place ∧
        (deal key group s item).next = update s.next (key item) (s.next (key item) + 1) ∧
        (deal key group s item).hands = update s.hands place (s.hands place ++ [item]) ∧
        (deal key group s item).left = s.left := by
  unfold deal
  cases hturn : turn (group (key item)) (s.next (key item)) with
  | none => exact .inl ⟨turn_eq_none.mp hturn, rfl, rfl, rfl⟩
  | some place =>
    refine .inr ⟨place, fun hnil => ?_, rfl, rfl, rfl, rfl⟩
    rw [turn_eq_none.mpr hnil] at hturn
    cases hturn

variable (key group) in
/-- All items, one after the other. -/
def dealAll (items : List ρ) : Deal ρ κ ι := items.foldl (deal key group) start

theorem dealAll_concat (items item) :
    dealAll key group (items ++ [item]) = deal key group (dealAll key group items) item := by
  unfold dealAll
  rw [foldl_append]
  rfl

variable {places : List ι} {items : List ρ} {place : ι}

/-- The cursor of a key counts its items. -/
theorem next_eq (h : group k ≠ []) : (dealAll key group items).next k = countOf key items k := by
  induction items using reverseRecOn with
  | nil => rfl
  | append_singleton items item ih =>
    rw [dealAll_concat, countOf_concat, ← ih]
    obtain ⟨hnil, hnext, -, -⟩ | ⟨place, -, -, hnext, -, -⟩ :=
      deal_cases key group (dealAll key group items) item
    · -- an item without a group is of another key
      have hne : key item ≠ k := fun hkey => h (hkey ▸ hnil)
      rw [hnext]
      simp [hne]
    · rw [hnext]
      by_cases hkey : key item = k
      · subst hkey
        simp
      · simp [update_of_ne (Ne.symm hkey), hkey]

/-- **LEFT OVER ARE THE ITEMS WITHOUT A GROUP**, in their order. -/
theorem left_eq (items) :
    (dealAll key group items).left = items.filter fun item => group (key item) = [] := by
  induction items using reverseRecOn with
  | nil => rfl
  | append_singleton items item ih =>
    rw [dealAll_concat, filter_append, ← ih]
    obtain ⟨hnil, -, -, hleft⟩ | ⟨place, hne, -, -, -, hleft⟩ :=
      deal_cases key group (dealAll key group items) item
    · rw [hleft]
      simp [hnil]
    · rw [hleft]
      simp [hne]

/-- **EVERY ITEM GOES TO A PLACE OF ITS GROUP.** -/
theorem mem_hands {item : ρ} (h : item ∈ (dealAll key group items).hands place) :
    place ∈ group (key item) := by
  induction items using reverseRecOn with
  | nil => cases h
  | append_singleton items last ih =>
    rw [dealAll_concat] at h
    obtain ⟨-, -, hhands, -⟩ | ⟨target, -, hturn, -, hhands, -⟩ :=
      deal_cases key group (dealAll key group items) last
    · rw [hhands] at h
      exact ih h
    · rw [hhands] at h
      by_cases hplace : place = target
      · subst hplace
        rw [update_self, List.mem_append, List.mem_singleton] at h
        obtain h | rfl := h
        · exact ih h
        · exact turn_mem hturn
      · rw [update_of_ne hplace] at h
        exact ih h

/-- One more item at one of the places. -/
theorem flatMap_update_perm (hplaces : places.Nodup) (hplace : place ∈ places) (hands : ι → List ρ)
    (item) : (places.flatMap (update hands place (hands place ++ [item]))).Perm
      (places.flatMap hands ++ [item]) := by
  induction places with
  | nil => cases hplace
  | cons first places ih =>
    obtain ⟨hfirst, hrest⟩ := nodup_cons.mp hplaces
    rw [flatMap_cons, flatMap_cons]
    by_cases heq : place = first
    · subst heq
      -- the other places keep what they have
      have hsame : places.flatMap (update hands place (hands place ++ [item])) =
          places.flatMap hands := by
        refine flatMap_congr fun other hother => update_of_ne ?_ _ _
        rintro rfl
        exact hfirst hother
      rw [hsame, update_self, append_assoc, append_assoc]
      exact perm_append_comm.append_left (hands place)
    · rw [update_of_ne (Ne.symm heq), append_assoc]
      exact (ih hrest ((mem_cons.mp hplace).resolve_left heq)).append_left (hands first)

/-- **EVERY ITEM IS DEALT TO ONE PLACE OR LEFT OVER.** -/
theorem dealAll_perm (hplaces : places.Nodup) (hgroups : ∀ item ∈ items, group (key item) ⊆ places) :
    (places.flatMap (dealAll key group items).hands ++ (dealAll key group items).left).Perm items := by
  induction items using reverseRecOn with
  | nil =>
    have hnone : places.flatMap (start : Deal ρ κ ι).hands = [] := by simp [start]
    show (places.flatMap (start : Deal ρ κ ι).hands ++ []).Perm []
    rw [hnone]
    rfl
  | append_singleton items item ih =>
    have ih := ih fun item' h => hgroups item' (mem_append_left _ h)
    rw [dealAll_concat]
    obtain ⟨-, -, hhands, hleft⟩ | ⟨place, -, hturn, -, hhands, hleft⟩ :=
      deal_cases key group (dealAll key group items) item
    · rw [hhands, hleft, ← append_assoc]
      exact ih.append_right [item]
    · rw [hhands, hleft]
      have hplace : place ∈ places := hgroups item (by simp) (turn_mem hturn)
      have hone := flatMap_update_perm hplaces hplace (dealAll key group items).hands item
      refine (hone.append_right _).trans ?_
      rw [append_assoc]
      refine (perm_append_comm.append_left _).trans ?_
      rw [← append_assoc]
      exact ih.append_right [item]

/-! ## §2. What a place gets -/

/-- How often it is a place's turn in the first `m` items of a key. -/
def turns (places : List ι) (m : Nat) (place : ι) : Nat :=
  Nat.count (fun n => turn places n = some place) m

/-- **WHAT A PLACE GETS**, key by key. -/
theorem length_hands {keys} (hkeys : ∀ item ∈ items, key item ∈ keys) (place) :
    ((dealAll key group items).hands place).length =
      ∑ k ∈ keys, turns (group k) (countOf key items k) place := by
  induction items using reverseRecOn with
  | nil => simp [dealAll, start, turns, countOf]
  | append_singleton items item ih =>
    have ih := ih fun item' h => hkeys item' (mem_append_left _ h)
    have hitem : key item ∈ keys := hkeys item (by simp)
    -- only the share of the item's own key changes
    have hother : ∀ k ∈ keys.erase (key item),
        turns (group k) (countOf key (items ++ [item]) k) place =
          turns (group k) (countOf key items k) place := by
      intro k hk
      have hne : key item ≠ k := fun h => ne_of_mem_erase hk h.symm
      rw [countOf_concat, if_neg hne, Nat.add_zero]
    have hown : countOf key (items ++ [item]) (key item) = countOf key items (key item) + 1 := by
      rw [countOf_concat, if_pos rfl]
    rw [← add_sum_erase _ _ hitem, sum_congr rfl hother, hown, dealAll_concat]
    rw [← add_sum_erase _ _ hitem] at ih
    unfold turns at ih ⊢
    rw [Nat.count_succ]
    obtain ⟨hnil, -, hhands, -⟩ | ⟨target, hne, hturn, -, hhands, -⟩ :=
      deal_cases key group (dealAll key group items) item
    · have hnone : turn (group (key item)) (countOf key items (key item)) ≠ some place := by
        rw [turn_eq_none.mpr hnil]
        simp
      rw [hhands, if_neg hnone]
      omega
    · rw [next_eq hne] at hturn
      rw [hhands, hturn]
      by_cases hplace : target = place
      · subst hplace
        simp only [update_self, length_append, length_singleton, if_true]
        omega
      · rw [if_neg (by simpa using hplace)]
        simp only [update_of_ne (Ne.symm hplace)]
        omega

omit [DecidableEq ι] in
/-- The turns of the place at `p` are the numbers congruent to `p`. -/
theorem turn_eq_some_iff (hnodup : places.Nodup) (hp : places[p]? = some place) :
    turn places n = some place ↔ n ≡ p [MOD places.length] := by
  have hlt := (List.getElem?_eq_some_iff.mp hp).1
  have hmod : n % places.length < places.length := Nat.mod_lt n (by omega)
  unfold turn Nat.ModEq
  rw [Nat.mod_eq_of_lt hlt, ← hp]
  constructor
  · intro h
    exact (getElem?_inj hmod hnodup).mp h
  · intro h
    rw [h]

/-- **THE SHARE OF A PLACE**: the full rounds, and one more if the last round gets that far. -/
theorem turns_eq (hnodup : places.Nodup) (hp : places[p]? = some place) (m) :
    turns places m place = m / places.length + if p < m % places.length then 1 else 0 := by
  have hlt := (List.getElem?_eq_some_iff.mp hp).1
  have hcount := Nat.count_modEq_card m (show 0 < places.length by omega) p
  rw [Nat.mod_eq_of_lt hlt] at hcount
  unfold turns
  simp only [turn_eq_some_iff hnodup hp]
  exact hcount

theorem turns_of_notMem (h : place ∉ places) (m) : turns places m place = 0 := by
  unfold turns
  rw [Nat.count_iff_forall_not]
  exact fun n _ hturn => h (turn_mem hturn)

/-- The last of `m` items of the key stops between the two places. -/
def Cuts (places : List ι) (m : Nat) (first second : ι) : Prop :=
  first ∈ places ∧ places.idxOf first < m % places.length ∧ m % places.length ≤ places.idxOf second

instance (places : List ι) (m : Nat) (first second : ι) : Decidable (Cuts places m first second) :=
  inferInstanceAs (Decidable (_ ∧ _))

/-- What one key gives the place ahead more than the one behind it. -/
theorem turns_diff (hnodup : places.Nodup) (hsame : first ∈ places ↔ second ∈ places)
    (hahead : first ∈ places → places.idxOf first < places.idxOf second) (m) :
    turns places m first = turns places m second + if Cuts places m first second then 1 else 0 := by
  unfold Cuts
  by_cases hmem : first ∈ places
  · have hp := getElem?_idxOf hmem
    have hq := getElem?_idxOf (hsame.mp hmem)
    have hlt := hahead hmem
    rw [turns_eq hnodup hp, turns_eq hnodup hq]
    simp only [hmem, true_and]
    split <;> split <;> split <;> omega
  · rw [turns_of_notMem hmem, turns_of_notMem (hmem ∘ hsame.mpr)]
    simp [hmem]

/-- **OF TWO PLACES IN THE SAME GROUPS, THE ONE AHEAD** gets one more item for every key whose last round
stops between them. -/
theorem length_hands_diff (hnodup : ∀ k, (group k).Nodup)
    (hsame : ∀ item ∈ items, first ∈ group (key item) ↔ second ∈ group (key item))
    (hahead : ∀ k, first ∈ group k → (group k).idxOf first < (group k).idxOf second) :
    ((dealAll key group items).hands first).length =
      ((dealAll key group items).hands second).length + ((items.map key).toFinset.filter fun k =>
          Cuts (group k) (countOf key items k) first second).card := by
  have hkeys : ∀ item ∈ items, key item ∈ (items.map key).toFinset := fun item hitem =>
    mem_toFinset.mpr (mem_map_of_mem hitem)
  rw [length_hands hkeys, length_hands hkeys, card_filter, ← sum_add_distrib]
  refine sum_congr rfl fun k hk => ?_
  obtain ⟨item, hitem, rfl⟩ := mem_map.mp (mem_toFinset.mp hk)
  exact turns_diff (hnodup _) (hsame item hitem) (hahead _) _

end Dealt

end Breakdown.RoundRobin
