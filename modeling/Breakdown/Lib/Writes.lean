/-
**WRITES THAT MAY BE REPEATED.**

What an event does to one cell of a store is often of one of three kinds: nothing; a value is PUT,
whatever the cell held; or a value REPLACES the one that is there, provided the cell is live (a row
exists, a member is active). Such writes compose to writes of the same three kinds, and every write
is idempotent. So a whole run of events may be repeated:

- `Write.act_andThen`: one write after the other is a write;
- `Write.act_act`: writing twice is writing once;
- `Column.replay`: applying events and then a SUFFIX of them again changes no cell;
- `Rewrites`: the statements on a table are writes to its rows, and so is one after the other;
- `Rewritten.replay`: so a table that every event rewrites stands a suffix, too.
-/
import Mathlib.Data.List.Infix
import Breakdown.Lib.Tables

namespace Breakdown.Writes

open Tables

/-! ## §1. Writes to one cell -/

/-- What happens to one cell. -/
inductive Write (α : Type*)
  /-- Nothing. -/
  | keep
  /-- The cell holds the value afterwards. -/
  | put (value : α)
  /-- A live cell holds the value afterwards, any other cell is left alone. -/
  | replace (value : α)

namespace Write

variable {α : Type*} (live : α → Bool)

def act : Write α → α → α
  | .keep, old => old
  | .put value, _ => value
  | .replace value, old => if live old then value else old

/-- A replaced cell is still live. -/
def Lawful : Write α → Prop
  | .replace value => live value = true
  | _ => True

/-- The second write after the first. -/
def andThen : Write α → Write α → Write α
  | first, .keep => first
  | _, .put value => .put value
  | .keep, .replace value => .replace value
  | .put old, .replace value => .put (if live old then value else old)
  | .replace _, .replace value => .replace value

@[simp] theorem act_keep (old) : (keep : Write α).act live old = old := rfl

@[simp] theorem act_put (value old) : (put value).act live old = value := rfl

@[simp] theorem act_replace (value old) :
    (replace value).act live old = if live old then value else old := rfl

@[simp] theorem lawful_keep : (keep : Write α).Lawful live := trivial

@[simp] theorem lawful_put (value) : (put value).Lawful live := trivial

@[simp] theorem lawful_replace (value) : (replace value).Lawful live ↔ live value := Iff.rfl

variable {live}

/-- **ONE WRITE AFTER THE OTHER IS A WRITE.** -/
theorem act_andThen {first : Write α} (hfirst : first.Lawful live) (second old) :
    (first.andThen live second).act live old = second.act live (first.act live old) := by
  cases second with
  | keep | put => cases first <;> rfl
  | replace =>
    cases first with
    | keep | put => rfl
    | replace value' =>
      -- the cell is live between the two exactly when it was live before
      have hlive : live value' = true := hfirst
      by_cases hold : live old = true
      · simp [andThen, hold, hlive]
      · simp [andThen, hold]

theorem Lawful.andThen {first second : Write α} (hfirst : first.Lawful live)
    (hsecond : second.Lawful live) : (first.andThen live second).Lawful live := by
  cases second with
  | keep => cases first <;> exact hfirst
  | put => cases first <;> trivial
  | replace => cases first <;> first | exact hsecond | trivial

/-- **WRITING TWICE IS WRITING ONCE.** -/
theorem act_act {write : Write α} (h : write.Lawful live) (old) :
    write.act live (write.act live old) = write.act live old := by
  cases write with
  | keep | put => rfl
  | replace value =>
    have hlive : live value = true := h
    by_cases hold : live old = true
    · simp [hold, hlive]
    · simp [hold]

end Write

/-! ## §2. Columns of a store -/

/-- A store as seen through cells, every event of which is a write to each cell. -/
structure Column {σ ε : Type*} (step : σ → ε → σ) (κ α : Type*) where
  cell : σ → κ → α
  live : α → Bool
  writes : ∀ e k, ∃ write : Write α, write.Lawful live ∧
    ∀ s, cell (step s e) k = write.act live (cell s k)

namespace Column

variable {σ ε κ α : Type*} {step : σ → ε → σ} (col : Column step κ α)

/-- A run of events is one write to each cell. -/
theorem exists_write (events : List ε) (k : κ) : ∃ write : Write α, write.Lawful col.live ∧
      ∀ s, col.cell (events.foldl step s) k = write.act col.live (col.cell s k) := by
  induction events with
  | nil => exact ⟨.keep, trivial, fun _ => rfl⟩
  | cons e rest ih =>
    obtain ⟨first, hfirst, hstep⟩ := col.writes e k
    obtain ⟨write, hlawful, hwrite⟩ := ih
    refine ⟨first.andThen col.live write, hfirst.andThen hlawful, fun s => ?_⟩
    rw [List.foldl_cons, hwrite, hstep, Write.act_andThen hfirst]

/-- **A SUFFIX OF THE EVENTS MAY BE APPLIED AGAIN.** -/
theorem replay {events again : List ε} (hsuffix : again <:+ events) (s : σ) (k : κ) :
    col.cell (again.foldl step (events.foldl step s)) k = col.cell (events.foldl step s) k := by
  obtain ⟨before, rfl⟩ := hsuffix
  -- the suffix is one write to the cell, and it was the last one
  obtain ⟨write, hlawful, hwrite⟩ := col.exists_write again k
  rw [List.foldl_append, hwrite, hwrite, Write.act_act hlawful]

end Column

/-! ## §3. Statements on a table -/

/-- A statement is one write to each row, as far as `view` shows the row. -/
def Rewrites {κ α β : Type} (view : α → β) (f : Table κ α → Table κ α) : Prop :=
  ∀ k, ∃ write : Write (Option β), write.Lawful Option.isSome ∧
    ∀ t, (f t k).map view = write.act Option.isSome ((t k).map view)

namespace Rewrites

variable {κ α β : Type} {view : α → β} {f g : Table κ α → Table κ α}

theorem refl : Rewrites view fun t : Table κ α => t := fun _ => ⟨.keep, trivial, fun _ => rfl⟩

theorem trans (hf : Rewrites view f) (hg : Rewrites view g) : Rewrites view fun t => g (f t) := by
  intro k
  obtain ⟨first, hfirst, hf⟩ := hf k
  obtain ⟨second, hsecond, hg⟩ := hg k
  refine ⟨first.andThen _ second, hfirst.andThen hsecond, fun t => ?_⟩
  rw [hg, hf, Write.act_andThen hfirst]

/-- One statement for each item of a list. -/
theorem foldl {ι : Type} {f : Table κ α → ι → Table κ α} (h : ∀ i, Rewrites view fun t => f t i)
    (items : List ι) : Rewrites view fun t => items.foldl f t := by
  induction items with
  | nil => exact refl
  | cons i items ih => exact (h i).trans ih

theorem deleteWhere (p : κ → Bool) : Rewrites view fun t : Table κ α => t.deleteWhere p := by
  intro k
  by_cases hp : p k = true
  · exact ⟨.put none, trivial, fun t => by simp [Table.deleteWhere, hp]⟩
  · exact ⟨.keep, trivial, fun t => by simp [Table.deleteWhere, hp]⟩

variable [DecidableEq κ] (k : κ)

/-- A statement on one row. -/
theorem alter {change : Option α → Option α} (write : Write (Option β))
    (hlawful : write.Lawful Option.isSome)
    (h : ∀ row, (change row).map view = write.act Option.isSome (row.map view)) :
    Rewrites view fun t => t.alter k change := by
  intro k'
  by_cases hk : k' = k
  · subst hk
    exact ⟨write, hlawful, fun t => by simp only [Table.alter_self, h]⟩
  · exact ⟨.keep, trivial, fun t => by simp only [Table.alter_of_ne t change hk, Write.act_keep]⟩

theorem put (v : α) : Rewrites view fun t => t.put k v :=
  alter k (.put (some (view v))) trivial fun _ => rfl

theorem delete : Rewrites view fun t : Table κ α => t.delete k :=
  alter k (.put none) trivial fun _ => rfl

/-- A row without columns is the same whether it was there or not. -/
theorem insertNew [Subsingleton α] (v : α) : Rewrites view fun t => t.insertNew k v := by
  refine alter k (.put (some (view v))) trivial fun row => ?_
  cases row with
  | none => rfl
  | some old => rw [Subsingleton.elim old v]; rfl

/-- An update that sets what is shown. -/
theorem modify {f : α → α} (value : β) (h : ∀ row, view (f row) = value) :
    Rewrites view fun t => t.modify k f := by
  refine alter k (.replace (some value)) rfl fun row => ?_
  cases row with
  | none => rfl
  | some row => exact congrArg some (h row)

/-- An update of other columns. -/
theorem modify_other {f : α → α} (h : ∀ row, view (f row) = view row) :
    Rewrites view fun t => t.modify k f := by
  refine alter k .keep trivial fun row => ?_
  cases row with
  | none => rfl
  | some row => exact congrArg some (h row)

end Rewrites

/-- A table of a store that every event rewrites. -/
def Rewritten {σ ε κ α β : Type} (step : σ → ε → σ) (table : σ → Table κ α) (view : α → β) : Prop :=
  ∀ e, ∃ f, Rewrites view f ∧ ∀ s, table (step s e) = f (table s)

namespace Rewritten

variable {σ ε κ α β : Type} {step : σ → ε → σ} {table : σ → Table κ α} {view : α → β}
  {events again : List ε}

theorem replay_view (h : Rewritten step table view) (hsuffix : again <:+ events) (s k) :
    (table (again.foldl step (events.foldl step s)) k).map view =
      (table (events.foldl step s) k).map view := by
  let rows : Column step κ (Option β) :=
    { cell := fun s k => (table s k).map view
      live := Option.isSome
      writes := fun e k => by
        obtain ⟨f, hf, hstep⟩ := h e
        obtain ⟨write, hlawful, hwrite⟩ := hf k
        exact ⟨write, hlawful, fun s => by rw [hstep, hwrite]⟩ }
  exact rows.replay hsuffix s k

/-- **A TABLE THAT EVERY EVENT REWRITES** is the same after a suffix of the events has been applied
again. -/
theorem replay (h : Rewritten step table id) (hsuffix : again <:+ events) (s : σ) :
    table (again.foldl step (events.foldl step s)) = table (events.foldl step s) := by
  funext k
  simpa only [Option.map_id, id_eq] using h.replay_view hsuffix s k

end Rewritten

end Breakdown.Writes
