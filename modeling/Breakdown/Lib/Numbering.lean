/-
**NUMBERS THAT DEPEND ON WHAT THERE IS, NOT ON WHAT IS CHOSEN OF IT.**

Two ways to number the items of a list once and for all. Blocks are laid out end to end: each block
starts where the one before it ends. Keyed items of several kinds are numbered by a cursor per kind:
each item takes the number its kind has reached.

    sizes   2  1  3        kinds    a  b  a  a
    starts  0  2  3        numbers  0  0  1  2

Whatever is left out later, the numbers of what remains stay as they are and stay distinct.

- `blocks_sublist`: whatever is taken out of the blocks, in order, has increasing numbers;
- `numbers_pairwise`: of two items of one kind the later one has the greater number.
-/
import Mathlib.Algebra.Ring.Nat
import Mathlib.Data.List.Induction
import Mathlib.Data.List.Nodup
import Mathlib.Data.Prod.Basic
import Mathlib.Logic.Function.Basic

namespace Breakdown.Numbering

open List Function

/-! ## §1. Blocks end to end -/

/-- What is read off the items that are chosen is chosen from what is read off all. -/
theorem map_filterMap_sublist {α β γ : Type*} {choose} {read : β → γ} (expect : α → γ)
    (h : ∀ a b, choose a = some b → read b = expect a) (items : List α) :
    ((items.filterMap choose).map read).Sublist (items.map expect) := by
  induction items with
  | nil => exact List.Sublist.slnil
  | cons a items ih =>
    rw [map_cons, filterMap_cons]
    split
    · exact ih.cons _
    · next b hb =>
      rw [map_cons, h a b hb]
      exact ih.cons_cons _

/-- Where each block starts. -/
def startsFrom (next : Nat) : List Nat → List Nat
  | [] => []
  | size :: sizes => next :: startsFrom (next + size) sizes

theorem startsFrom_getElem? (next sizes) (hk : k < sizes.length) :
    (startsFrom next sizes)[k]? = some (next + (sizes.take k).sum) := by
  induction sizes generalizing next k with
  | nil => cases hk
  | cons size sizes ih =>
    unfold startsFrom
    cases k with
    | zero => rfl
    | succ k =>
      have hk' : k < sizes.length := by
        rw [length_cons] at hk
        omega
      rw [getElem?_cons_succ, ih (next + size) hk', take_succ_cons, sum_cons]
      congr 1
      omega

/-- **NUMBERS OUT OF CONSECUTIVE BLOCKS**, any of each block, come out in increasing order. -/
theorem blocks_sublist {α : Type*} (items : List α) (size : α → Nat) (numbers : α → Nat → List Nat)
    (h : ∀ k a, items[k]? = some a →
      (numbers a k).Sublist (range' ((items.map size).take k).sum (size a))) :
    (items.zipIdx.flatMap fun p => numbers p.1 p.2).Sublist (range' 0 (items.map size).sum) := by
  induction items using reverseRecOn with
  | nil => exact List.Sublist.slnil
  | append_singleton items a ih =>
    have hlast := h items.length a (by simp)
    rw [map_append, take_left' (by simp)] at hlast
    rw [zipIdx_append, flatMap_append, map_append, sum_append, ← range'_append_1, Nat.zero_add]
    refine List.Sublist.append (ih ?_) ?_
    · intro k b hb
      have hk : k < items.length := (List.getElem?_eq_some_iff.1 hb).1
      have hblock := h k b (by rw [getElem?_append_left hk, hb])
      rwa [map_append, take_append_of_le_length (by simp; omega)] at hblock
    · simpa using hlast

/-! ## §2. Row by row -/

/-- The positions of the cells of a list of rows are distinct. -/
theorem nodup_positions {α β : Type*} (rows : List α) (cells : α → List β) :
    (rows.zipIdx.flatMap fun p => (cells p.1).zipIdx.map fun q => (p.2, q.2)).Nodup := by
  rw [nodup_flatMap]
  constructor
  · intro p _
    have hsnd : ((cells p.1).zipIdx.map fun q => (p.2, q.2)) =
        (range' 0 (cells p.1).length).map (Prod.mk p.2) := by
      rw [← zipIdx_map_snd 0 (cells p.1), map_map]
      rfl
    rw [hsnd]
    exact List.Nodup.map (Prod.mk_right_injective p.2) nodup_range'
  · -- two rows have different indices
    have hrows : (rows.zipIdx.map Prod.snd).Nodup := by
      rw [zipIdx_map_snd]
      exact nodup_range'
    refine (pairwise_map.1 hrows).imp ?_
    intro p q hpq x hx hy
    obtain ⟨_, -, rfl⟩ := mem_map.1 hx
    obtain ⟨_, -, heq⟩ := mem_map.1 hy
    exact hpq (congrArg Prod.fst heq).symm

theorem exists_of_forall₂ {α β : Type*} {R bs} {as : List α} (h : List.Forall₂ R as bs) {i : Nat}
    {b : β} (hb : bs[i]? = some b) : ∃ a, as[i]? = some a ∧ R a b := by
  induction h generalizing i with
  | nil => cases hb
  | cons hab _ ih =>
    cases i with
    | zero =>
      cases hb
      exact ⟨_, rfl, hab⟩
    | succ => exact ih hb

/-- What is chosen from every row is chosen from the whole. -/
theorem flatMap_sublist_of_forall₂ {α β γ : Type*} {f bs} {g : β → List γ} {as : List α}
    (h : List.Forall₂ (fun a b => (g b).Sublist (f a)) as bs) :
    (bs.flatMap g).Sublist (as.flatMap f) := by
  induction h with
  | nil => exact List.Sublist.slnil
  | cons hab _ ih =>
    rw [flatMap_cons, flatMap_cons]
    exact hab.append ih

/-! ## §3. A cursor per kind -/

section Cursor

variable {κ ι : Type*} [DecidableEq κ] [DecidableEq ι]

/-- The next number of each kind, and the numbers given out. -/
structure Cursor (κ ι : Type*) where
  next : ι → Nat
  numbers : κ → Option Nat

namespace Cursor

/-- Nothing is numbered. -/
def start : Cursor κ ι := ⟨fun _ => 0, fun _ => none⟩

/-- Number one item. -/
def number (cursor : Cursor κ ι) (slot : κ × ι) : Cursor κ ι where
  next := Function.update cursor.next slot.2 (cursor.next slot.2 + 1)
  numbers := Function.update cursor.numbers slot.1 (some (cursor.next slot.2))

/-- Number a list of items. -/
def numberAll (cursor : Cursor κ ι) (slots : List (κ × ι)) : Cursor κ ι := slots.foldl number cursor

variable {slots : List (κ × ι)}

theorem numbers_of_notMem (cursor : Cursor κ ι) (hkey : key ∉ slots.map Prod.fst) :
    (cursor.numberAll slots).numbers key = cursor.numbers key := by
  induction slots generalizing cursor with
  | nil => rfl
  | cons slot slots ih =>
    rw [map_cons, mem_cons, not_or] at hkey
    show ((cursor.number slot).numberAll slots).numbers key = _
    rw [ih (cursor.number slot) hkey.2]
    exact update_of_ne hkey.1 _ _

/-- The first item takes the number its kind has reached. -/
theorem numbers_head (cursor : Cursor κ ι) (hslot : slot.1 ∉ slots.map Prod.fst) :
    (cursor.numberAll (slot :: slots)).numbers slot.1 = some (cursor.next slot.2) := by
  show ((cursor.number slot).numberAll slots).numbers slot.1 = _
  rw [numbers_of_notMem _ hslot]
  exact update_self ..

theorem next_le_number (cursor : Cursor κ ι) (slot kind) :
    cursor.next kind ≤ (cursor.number slot).next kind := by
  show cursor.next kind ≤ update cursor.next slot.2 (cursor.next slot.2 + 1) kind
  by_cases hkind : kind = slot.2
  · subst hkind
    rw [update_self]
    omega
  · exact Nat.le_of_eq (update_of_ne hkind ..).symm

/-- Every item gets a number, none below where its kind starts. -/
theorem numbers_ge (cursor : Cursor κ ι) (hnodup : (slots.map Prod.fst).Nodup)
    (hslot : slot ∈ slots) :
    ∃ n, (cursor.numberAll slots).numbers slot.1 = some n ∧ cursor.next slot.2 ≤ n := by
  induction slots generalizing cursor with
  | nil => cases hslot
  | cons first slots ih =>
    rw [map_cons, nodup_cons] at hnodup
    obtain rfl | hslot := mem_cons.1 hslot
    · exact ⟨_, numbers_head cursor hnodup.1, Nat.le_refl _⟩
    · obtain ⟨n, hn, hle⟩ := ih (cursor.number first) hnodup.2 hslot
      exact ⟨n, hn, Nat.le_trans (next_le_number cursor first slot.2) hle⟩

/-- **THE NUMBERS OF ONE KIND INCREASE.** -/
theorem numbers_pairwise (cursor : Cursor κ ι) (hnodup : (slots.map Prod.fst).Nodup) :
    slots.Pairwise fun a b => a.2 = b.2 → ∃ m n, (cursor.numberAll slots).numbers a.1 = some m ∧
      (cursor.numberAll slots).numbers b.1 = some n ∧ m < n := by
  induction slots generalizing cursor with
  | nil => exact List.Pairwise.nil
  | cons first slots ih =>
    have hcons := hnodup
    rw [map_cons, nodup_cons] at hcons
    refine List.Pairwise.cons ?_ (ih (cursor.number first) hcons.2)
    intro slot hslot hkind
    obtain ⟨n, hn, hle⟩ := numbers_ge (cursor.number first) hcons.2 hslot
    refine ⟨cursor.next first.2, n, numbers_head cursor hcons.1, hn, ?_⟩
    have hnext : (cursor.number first).next slot.2 = cursor.next first.2 + 1 := by
      rw [← hkind]
      exact update_self ..
    omega

end Cursor

end Cursor

end Breakdown.Numbering
