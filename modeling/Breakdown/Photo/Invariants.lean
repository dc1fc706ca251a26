/-
**COUNTERS, LINK TABLES AND STREAMS TOGETHER.**

The joint invariant of the two counters, the two link tables and the four kinds of streams:

- each saga's counter covers the holders in what was delivered to it since it was started;
- each link table shows the open holders in what was projected;
- a saga that is about to delete a photo has its own count at zero, and the continuity saga has
  moreover seen no row for it.

The code does not make a deletion safe by itself. The wardrobe saga never looks at scene shoots,
a link may still be on its way to a saga (or to a table) when the photo is deleted, and a scene
shoot accepts the unlinking of a photo it does not list, which counts down for somebody else.
`coordinated` says of every step that it is not one of these.
-/
import Breakdown.Lib.Transition
import Breakdown.Photo.System
import Breakdown.Projections.EntityIds

namespace Breakdown.Photo

open EventLog RefCount PhotoHolder Transition Fallible Versioned List

/-! ## §1. Coordinated steps -/

/-- Every wardrobe link of the photo has reached the wardrobe saga. -/
def wardrobeDelivered (w : World) (p : Uuid) : Prop :=
  (∀ id, LinksWithin p (w.wardrobe.seen (.piece id)) (effects PieceAggregate (w.pieces.streams id))) ∧
    ∀ id, LinksWithin p (w.wardrobe.seen (.outfit id))
      (effects OutfitAggregate (w.outfits.streams id))

/-- Every continuity link of the photo has reached the continuity saga. -/
def continuityDelivered (w : World) (p : Uuid) : Prop :=
  ∀ id, LinksWithin p (w.continuity.seen id) (effects SceneShootAggregate (w.shoots.streams id))

/-- Every wardrobe link of the photo has reached the link tables. -/
def linksProjected (w : World) (p : Uuid) : Prop := (∀ id, LinksWithin p (w.pieceTable.projected id)
      (effects PieceAggregate (w.pieces.streams id))) ∧
    ∀ id, LinksWithin p (w.outfitTable.projected id)
      (effects OutfitAggregate (w.outfits.streams id))

instance (w : World) (p : Uuid) : Decidable (wardrobeDelivered w p) :=
  have := w.pieces.decidableForallStreams (fun id log => LinksWithin p (w.wardrobe.seen (.piece id))
    (effects PieceAggregate log)) fun _ => linksWithin_nil p _
  have := w.outfits.decidableForallStreams (fun id log =>
    LinksWithin p (w.wardrobe.seen (.outfit id)) (effects OutfitAggregate log))
    fun _ => linksWithin_nil p _
  inferInstanceAs (Decidable (_ ∧ _))

instance (w : World) (p : Uuid) : Decidable (continuityDelivered w p) :=
  w.shoots.decidableForallStreams (fun id log => LinksWithin p (w.continuity.seen id)
    (effects SceneShootAggregate log)) fun _ => linksWithin_nil p _

instance (w : World) (p : Uuid) : Decidable (linksProjected w p) :=
  have := w.pieces.decidableForallStreams (fun id log => LinksWithin p (w.pieceTable.projected id)
    (effects PieceAggregate log)) fun _ => linksWithin_nil p _
  have := w.outfits.decidableForallStreams (fun id log =>
    LinksWithin p (w.outfitTable.projected id) (effects OutfitAggregate log))
    fun _ => linksWithin_nil p _
  inferInstanceAs (Decidable (_ ∧ _))

/-- The photo a piece command links. -/
def linkedByPiece : PieceCommand → Option Uuid
  | .linkPhoto cmd => some cmd.photoId
  | _ => none

/-- The photo an outfit command links. -/
def linkedByOutfit : OutfitCommand → Option Uuid
  | .linkPhoto cmd => some cmd.photoId
  | _ => none

/-- The photo the continuity saga is about to count the rows of. -/
def Saga.counting {ι : Type} (saga : Saga ι) : Option Uuid := match saga.pending with
  | some (.count photo) => some photo
  | _ => none

/-- What every step of a run must meet for deletions to be safe. -/
def coordinated (w : World) : Action → Prop
  -- no wardrobe link of a photo between the continuity saga's count and its dispatch
  | .pieceCommand _ cmd _ => ∀ p ∈ linkedByPiece cmd, w.continuity.cleared ≠ some p
  | .outfitCommand _ cmd _ => ∀ p ∈ linkedByOutfit cmd, w.continuity.cleared ≠ some p
  -- a scene shoot unlinks a photo it lists
  | .shootCommand _ cmd _ => ∀ p ∈ SceneShootAggregate.unlinkedPhoto cmd,
      p ∈ (w.shoots.entityAt (WrapFinality.commandId cmd)).continuityPhotos
  -- the tables are up to date when they are counted
  | .continuityCount _ => ∀ p ∈ w.continuity.counting, linksProjected w p
  -- each saga has been told of every link of the photo it deletes, and the wardrobe saga deletes
  -- only what the continuity saga does not count either
  | .continuityDispatch _ _ => ∀ p ∈ w.continuity.cleared, continuityDelivered w p
  | .wardrobeDispatch _ _ => ∀ p ∈ w.wardrobe.cleared,
      wardrobeDelivered w p ∧ continuityDelivered w p ∧ w.continuity.refcounts p = 0
  | _ => True

instance (w : World) (a : Action) : Decidable (coordinated w a) := by
  cases a <;> dsimp only [coordinated] <;> infer_instance

/-! ## §2. One kind of holder -/

section Holders

variable {σ ε κ χ : Type} [Entity σ ε κ χ] [Versioned σ ε κ χ] [Identified σ ε κ χ] [PhotoHolder σ]
  {id : Uuid}

/-- What a command to `id` emits that links no photo but `linked`: nothing, or one event that treats
the photo list with care. -/
def Sends (σ : Type) {ε κ χ : Type} [Entity σ ε κ χ] [Versioned σ ε κ χ] [Identified σ ε κ χ]
    [PhotoHolder σ] (id : Uuid) (linked : Option Uuid) (s : σ) (events : List ε) : Prop :=
  events = [] ∨ ∃ e, events = [e] ∧ (∀ items, effect σ e = .reset items → items = []) ∧
    (∀ p, effect σ e = .unlinked p → (photos s).contains p) ∧
    (isCreation σ e = true → Identified.eventId σ e = id) ∧ ∀ p, effect σ e = .linked p → linked = some p

theorem Sends.careful {s : σ} (h : Sends σ id linked s events) : Careful σ s events := by
  obtain rfl | ⟨e, rfl, hreset, hunlinked, -⟩ := h
  · exact .inl rfl
  · exact .inr ⟨e, rfl, hreset, hunlinked⟩

theorem Sends.creates {s : σ} (h : Sends σ id linked s events) :
    ∀ e ∈ events, isCreation σ e = true → Identified.eventId σ e = id := by
  obtain rfl | ⟨e, rfl, -, -, hid, -⟩ := h
  · exact nofun
  · intro e' he'
    rw [mem_singleton.1 he']
    exact hid

/-- What the counters rely on: the effects of every stream are well-formed, each stream is that of
one holder, and the link table shows what was projected. -/
structure Holders (σ : Type) {ε κ χ : Type} [Entity σ ε κ χ] [Versioned σ ε κ χ]
    [Identified σ ε κ χ] [PhotoHolder σ] (streams : Uuid → List ε) (table : LinkTable) : Prop where
  wellFormed : ∀ id, WellFormed (effects σ (streams id))
  named : ∀ id, NamedStream σ id (streams id)
  shown : Shows table.rows (fun id => effects σ (streams id)) table.projected

theorem holders_init : Holders σ (ActorSystem.init : ActorSystem Uuid σ).streams ⟨[], fun _ => 0⟩ where
  wellFormed _ := wellFormed_nil
  named := .nil
  shown := shows_nil _

variable [LawfulVersioned σ ε κ χ]

/-- A command of an adapter. -/
theorem Holders.command {s : ActorSystem Uuid σ} (h : Holders σ s.streams table)
    (hexp : expectation σ cmd = .ok expected) (hfounds : Founds σ cmd)
    (hadv : s.Advance id expected cmd streams) (hsends : ∀ events,
      Entity.handle (s.entityAt id) cmd = .ok events → Sends σ id linked (s.entityAt id) events) :
    Holders σ streams table where
  wellFormed := hadv.forall_streams (fun _ log => WellFormed (effects σ log)) h.wellFormed
    fun events hdec => (hsends events hdec.handled).careful.wellFormed (h.wellFormed id)
  named := hadv.forall_streams (NamedStream σ) h.named fun events hdec =>
    (h.named id).call hexp hfounds hdec (hsends events hdec.handled).creates
  shown := h.shown.grow fun id => effects_prefix _ (hadv.prefix_ id)

variable [LawfulIdentified σ ε κ χ]

/-- The projector takes in the next event of a stream. -/
theorem Holders.project (h : Holders σ streams table)
    (htable : table.project id (streams id) (Identified.eventId σ) (effect σ) = some table') :
    Holders σ streams table' := by
  obtain ⟨e, hget, rfl⟩ := Option.map_eq_some_iff.1 htable
  refine { h with shown := ?_ }
  -- the row is keyed by the id in the event, which is the stream's own
  rw [(h.named id).names (mem_of_getElem? hget)]
  refine h.shown.project (h.wellFormed id) ?_
  rw [effects, getElem?_map, hget]
  rfl

end Holders

/-- A photo stays free of a holder under an event that does not link it. -/
theorem free_concat {p : Uuid} (hfree : held log p → closed log)
    (hreset : ∀ items, e = .reset items → items = []) (hlinked : e ≠ .linked p)
    (hheld : held (log ++ [e]) p) : closed (log ++ [e]) := by
  rw [held_concat] at hheld
  rw [closed_concat, hfree (held_of_apply hreset hlinked hheld), Bool.true_or]

/-- So it stays free of all holders of one kind under a command that does not link it. -/
theorem free_command [Entity σ ε κ χ] [Versioned σ ε κ χ] [Identified σ ε κ χ] [PhotoHolder σ]
    {s : ActorSystem Uuid σ} {id p : Uuid} (hadv : s.Advance id expected cmd streams)
    (hsends : ∀ events, Entity.handle (s.entityAt id) cmd = .ok events →
      Sends σ id linked (s.entityAt id) events) (hlinked : linked ≠ some p)
    (hfree : ∀ id, held (effects σ (s.streams id)) p → closed (effects σ (s.streams id))) (id') :
    held (effects σ (streams id')) p → closed (effects σ (streams id')) := by
  refine hadv.forall_streams (fun _ log => held (effects σ log) p → closed (effects σ log)) hfree ?_ id'
  intro events hdec
  obtain rfl | ⟨e, rfl, hreset, -, -, hlink⟩ := hsends events hdec.handled
  · rw [append_nil]
    exact hfree id
  · rw [effects_append, effects_singleton]
    exact free_concat (hfree id) hreset fun he => hlinked (hlink p he)

open PieceAggregate in
theorem piece_sends {self : PieceAggregate} (h : self.handle cmd = .ok events) :
    Sends PieceAggregate (pieceId cmd) (linkedByPiece cmd) self events := by
  simp only [Sends, effect, PhotoHolder.photos, Identified.eventId, isCreation]
  cases cmd <;>
    simp only [handle, create, rename, updateNotes, addToSeason, removeFromSeason, addDetail,
      updateDetail, removeDetail, setCategory, linkPhoto, unlinkPhoto, delete, mutate, seq_eq_ok,
      ensure_eq_ok] at h <;>
    grind [PieceEvent.id, PieceEvent.isCreation, PieceEvent.photoEffect, pieceId, linkedByPiece]

open OutfitAggregate in
theorem outfit_sends {self : OutfitAggregate} (h : self.handle cmd = .ok events) :
    Sends OutfitAggregate (outfitId cmd) (linkedByOutfit cmd) self events := by
  simp only [Sends, effect, PhotoHolder.photos, Identified.eventId, isCreation]
  cases cmd <;>
    simp only [handle, create, createVariant, rename, updateNotes, addPiece, removePiece, linkPhoto,
      unlinkPhoto, delete, mutate, seq_eq_ok, ensure_eq_ok] at h <;>
    grind [OutfitEvent.id, OutfitEvent.isCreation, OutfitEvent.photoEffect, outfitId, linkedByOutfit,
      seq_eq_ok]

/-! ## §3. The invariant -/

/-- No undeleted piece or outfit lists the photo. -/
def Free (w : World) (p : Uuid) : Prop :=
  ∀ ref, held (w.wardrobeLog ref) p = true → closed (w.wardrobeLog ref) = true

/-- The invariant of every coordinated run. -/
structure Inv (w : World) : Prop where
  pieces : Holders PieceAggregate w.pieces.streams w.pieceTable
  outfits : Holders OutfitAggregate w.outfits.streams w.outfitTable
  shootWF : ∀ id, WellFormed (w.shootLog id)
  wardrobeCovers : Covers w.wardrobe.refcounts w.wardrobeLog w.wardrobe.seen
  continuityCovers : Covers w.continuity.refcounts w.shootLog w.continuity.seen
  wardrobeZero : ∀ pending ∈ w.wardrobe.pending, w.wardrobe.refcounts pending.photo = 0
  continuityZero : ∀ pending ∈ w.continuity.pending, w.continuity.refcounts pending.photo = 0
  continuityFree : ∀ p ∈ w.continuity.cleared, Free w p

theorem inv_init : Inv World.init where
  pieces := holders_init
  outfits := holders_init
  shootWF _ := wellFormed_nil
  wardrobeCovers := covers_restart _ _
  continuityCovers := covers_restart _ _
  wardrobeZero _ h := absurd h (by simp [World.init, Saga.start])
  continuityZero _ h := absurd h (by simp [World.init, Saga.start])
  continuityFree _ h := absurd h (by simp [World.init, Saga.start, Saga.cleared])

variable {expected : ExpectedVersion} {w : World}

theorem Inv.wardrobeWF (h : Inv w) : ∀ ref, WellFormed (w.wardrobeLog ref)
  | .piece id => h.pieces.wellFormed id
  | .outfit id => h.outfits.wellFormed id

/-! ## §4. Commands -/

theorem Inv.pieceCommand (h : Inv w) {pieces} (hexp : expectation PieceAggregate cmd = .ok expected)
    (hadv : w.pieces.Advance (pieceId cmd) expected cmd pieces.streams)
    (hcond : ∀ p ∈ linkedByPiece cmd, w.continuity.cleared ≠ some p) :
    Inv { w with pieces } := { h with
  pieces := h.pieces.command hexp (PieceAggregate.founds cmd) hadv fun _ => piece_sends
  -- the wardrobe saga is fed both kinds of streams; only one of them has grown
  wardrobeCovers := h.wardrobeCovers.grow fun
    | .piece id => effects_prefix _ (hadv.prefix_ id)
    | .outfit _ => prefix_rfl
  continuityFree p hp := fun
    -- no link of this very photo while the continuity saga is past its count
    | .piece id => free_command hadv (fun _ => piece_sends) (fun hlink => hcond p hlink hp)
        (fun id => h.continuityFree p hp (.piece id)) id
    | .outfit id => h.continuityFree p hp (.outfit id) }

theorem Inv.outfitCommand (h : Inv w) {outfits} (hexp : expectation OutfitAggregate cmd = .ok expected)
    (hadv : w.outfits.Advance (outfitId cmd) expected cmd outfits.streams)
    (hcond : ∀ p ∈ linkedByOutfit cmd, w.continuity.cleared ≠ some p) :
    Inv { w with outfits } := { h with
  outfits := h.outfits.command hexp (OutfitAggregate.founds cmd) hadv fun _ => outfit_sends
  wardrobeCovers := h.wardrobeCovers.grow fun
    | .piece _ => prefix_rfl
    | .outfit id => effects_prefix _ (hadv.prefix_ id)
  continuityFree p hp := fun
    | .piece id => h.continuityFree p hp (.piece id)
    | .outfit id => free_command hadv (fun _ => outfit_sends) (fun hlink => hcond p hlink hp)
        (fun id => h.continuityFree p hp (.outfit id)) id }

theorem Inv.shootCommand (h : Inv w)
    (hadv : w.shoots.Advance (WrapFinality.commandId cmd) expected cmd shoots.streams)
    (hcond : ∀ p ∈ SceneShootAggregate.unlinkedPhoto cmd,
      p ∈ (w.shoots.entityAt (WrapFinality.commandId cmd)).continuityPhotos) :
    Inv { w with shoots } := { h with
  shootWF := hadv.forall_streams (fun _ log => WellFormed (effects SceneShootAggregate log))
    h.shootWF fun _ hdec =>
      (SceneShootAggregate.handle_photos hdec.handled hcond).wellFormed (h.shootWF _)
  continuityCovers := h.continuityCovers.grow fun id => effects_prefix _ (hadv.prefix_ id) }

end Breakdown.Photo
