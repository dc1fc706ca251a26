/-
**A PHOTO IN USE IS NOT DELETED, IF EVERY STEP IS COORDINATED.**

- `step_inv`: a coordinated step keeps the joint invariant;
- `step_deletes`: only the two dispatches append `PhotoDeleted`, each for the photo its saga has
  made up its mind about;
- `photo_in_use_kept`: so no coordinated run deletes a photo that an undeleted piece, outfit or
  scene shoot lists;
- `wardrobe_saga_deletes_continuity_photo`: an uncoordinated one does.
-/
import Breakdown.Photo.Invariants

namespace Breakdown.Photo

open EventLog RefCount PhotoHolder Transition List Saga

/-! ## §1. Sagas and projections -/

section

variable {ι : Type} [DecidableEq ι] {w : World}

/-- Handling an event leaves the saga either idle or with the count of its photo at zero. -/
theorem deliver_zero {saga : Saga ι} {next} (hnext : ∀ p, (next p).photo = p) :
    ∀ pending ∈ (saga.deliver i e next).pending,
      (saga.deliver i e next).refcounts pending.photo = 0 := by
  intro pending hp
  cases e with
  | unlinked =>
    simp only [deliver] at hp ⊢
    split at hp
    · next hzero =>
      cases hp
      rw [hnext]
      exact hzero
    · cases hp
  | reset | linked | closed | other => cases hp

omit [DecidableEq ι] in
/-- `find_by_id` found the photo: the saga goes on with it, or starts over. -/
theorem found_cases (saga : Saga ι) (photo : Uuid) (view : PhotoView) :
    saga.found photo view = .start ∨ ∃ version streamVersion, saga.found photo view =
        { saga with pending := some (.dispatch photo version streamVersion) } := by
  unfold found
  split
  · exact .inl rfl
  · exact .inr ⟨_, _, rfl⟩

omit [DecidableEq ι] in
/-- After a dispatch the saga is idle or starts over. -/
theorem dispatch_saga (w) (saga : Saga ι) (i photo version streamVersion outcome) :
    (dispatch w saga i photo version streamVersion outcome).2 = { saga with pending := none } ∨
      (dispatch w saga i photo version streamVersion outcome).2 = .start := by
  simp only [dispatch]
  split
  · exact .inl rfl
  · exact .inr rfl

section

variable (h : Inv w)
include h

theorem Inv.setPhotos (photos) : Inv { w with photos } := { h with }

theorem Inv.setWardrobe (hcovers : Covers saga.refcounts w.wardrobeLog saga.seen)
    (hzero : ∀ pending ∈ saga.pending, saga.refcounts pending.photo = 0) :
    Inv { w with wardrobe := saga } :=
  { h with wardrobeCovers := hcovers, wardrobeZero := hzero }

theorem Inv.setContinuity (hcovers : Covers saga.refcounts w.shootLog saga.seen)
    (hzero : ∀ pending ∈ saga.pending, saga.refcounts pending.photo = 0)
    (hfree : ∀ p ∈ saga.cleared, Free w p) : Inv { w with continuity := saga } :=
  { h with continuityCovers := hcovers, continuityZero := hzero, continuityFree := hfree }

theorem Inv.startWardrobe : Inv { w with wardrobe := .start } :=
  h.setWardrobe (covers_restart _ _) nofun

theorem Inv.startContinuity : Inv { w with continuity := .start } :=
  h.setContinuity (covers_restart _ _) nofun nofun

theorem Inv.idleWardrobe : Inv { w with wardrobe := { w.wardrobe with pending := none } } :=
  h.setWardrobe h.wardrobeCovers nofun

theorem Inv.idleContinuity : Inv { w with continuity := { w.continuity with pending := none } } :=
  h.setContinuity h.continuityCovers nofun nofun

end

end

variable {w w' : World} {p : PhotoId}

/-- A count of zero on tables that show every link: the photo is free. -/
theorem Inv.free_of_count (h : Inv w) {p} (hcount : w.countLinks p = 0) (hlinks : linksProjected w p) :
    Free w p := by
  obtain ⟨hpiece, houtfit⟩ := Nat.add_eq_zero_iff.1 hcount
  intro ref hheld
  by_contra hopen
  rw [Bool.not_eq_true] at hopen
  cases ref with
  | piece id =>
    have hnot := h.pieces.shown.not_held hpiece (h.pieces.wellFormed id) (hlinks.1 id) hopen
    exact Bool.false_ne_true (hnot.symm.trans hheld)
  | outfit id =>
    have hnot := h.outfits.shown.not_held houtfit (h.outfits.wellFormed id) (hlinks.2 id) hopen
    exact Bool.false_ne_true (hnot.symm.trans hheld)

/-! ## §2. Every step -/

/-- **THE STEP LEMMA.** A coordinated step keeps the invariant. -/
theorem step_inv {a : Action} (h : Inv w) (hc : coordinated w a) (hs : step w a = some w') :
    Inv w' := by
  cases a with simp only [step] at hs
  | pieceCommand =>
    split at hs
    · next expected hexp =>
      cases hs
      exact h.pieceCommand hexp (w.pieces.executeAt_advance ..) hc
    · cases hs
  | outfitCommand =>
    split at hs
    · next expected hexp =>
      cases hs
      exact h.outfitCommand hexp (w.outfits.executeAt_advance ..) hc
    · cases hs
  | shootCommand =>
    split at hs
    · cases hs
      exact h.shootCommand (w.shoots.executeAt_advance ..) hc
    · cases hs
  | photoCommand =>
    split at hs
    · cases hs
    · cases hs
      exact h.setPhotos _
  | stopActor i ref => cases ref <;> cases hs <;> exact { h with }
  | projectPiece =>
    obtain ⟨table, htable, rfl⟩ := Option.map_eq_some_iff.1 hs
    exact { h with pieces := h.pieces.project htable }
  | projectOutfit =>
    obtain ⟨table, htable, rfl⟩ := Option.map_eq_some_iff.1 hs
    exact { h with outfits := h.outfits.project htable }
  | projectPhoto =>
    obtain ⟨table, -, rfl⟩ := Option.map_eq_some_iff.1 hs
    exact { h with }
  | deliverWardrobe ref =>
    split at hs
    · next e _ hget =>
      split at hs
      · cases hs
        exact h.setWardrobe (h.wardrobeCovers.deliver (h.wardrobeWF ref) hget)
          (deliver_zero fun _ => rfl)
      · cases hs
    · cases hs
  | deliverShoot id =>
    split at hs
    · next e _ hget =>
      cases hs
      refine h.setContinuity (h.continuityCovers.deliver (h.shootWF id) hget)
        (deliver_zero fun _ => rfl) ?_
      -- the saga has yet to count the rows
      intro p hp
      exfalso
      revert hp
      cases e <;> simp only [cleared, deliver]
      case unlinked q => split <;> simp_all
      all_goals simp
    · cases hs
  | wardrobeFind =>
    split at hs
    · next photo hpending =>
      split at hs
      · cases hs
        exact h.idleWardrobe
      · next view _ =>
        cases hs
        obtain hfound | ⟨version, streamVersion, hfound⟩ := found_cases w.wardrobe photo view
        · rw [hfound]
          exact h.startWardrobe
        · rw [hfound]
          refine h.setWardrobe h.wardrobeCovers fun pending hp => ?_
          cases hp
          exact h.wardrobeZero (.find photo) hpending
    · cases hs
  | wardrobeDispatch i outcome =>
    split at hs
    · next photo version streamVersion _ =>
      cases hs
      obtain hsaga | hsaga := dispatch_saga w w.wardrobe i photo version streamVersion outcome
      · rw [hsaga]
        exact h.idleWardrobe.setPhotos _
      · rw [hsaga]
        exact h.startWardrobe.setPhotos _
    · cases hs
  | restartWardrobe =>
    cases hs
    exact h.startWardrobe
  | continuityCount =>
    split at hs
    · next photo hpending =>
      split at hs
      · next hcount =>
        cases hs
        simp only [Bool.and_eq_true, decide_eq_true_eq] at hcount
        have hlinks : linksProjected w photo := by
          refine hc photo ?_
          simp [counting, hpending]
        refine h.setContinuity h.continuityCovers ?_ ?_
        · intro pending hp
          cases hp
          exact h.continuityZero (.count photo) hpending
        · intro p hp
          cases hp
          exact h.free_of_count hcount.2 hlinks
      · cases hs
        exact h.idleContinuity
    · cases hs
  | continuityFind =>
    split at hs
    · next photo hpending =>
      split at hs
      · cases hs
        exact h.startContinuity
      · next view _ =>
        cases hs
        obtain hfound | ⟨version, streamVersion, hfound⟩ := found_cases w.continuity photo view
        · rw [hfound]
          exact h.startContinuity
        · rw [hfound]
          refine h.setContinuity h.continuityCovers ?_ ?_
          · intro pending hp
            cases hp
            exact h.continuityZero (.find photo) hpending
          · intro p hp
            cases hp
            refine h.continuityFree photo ?_
            simp [cleared, hpending]
    · cases hs
  | continuityDispatch i outcome =>
    split at hs
    · next photo version streamVersion _ =>
      cases hs
      obtain hsaga | hsaga := dispatch_saga w w.continuity i photo version streamVersion outcome
      · rw [hsaga]
        exact h.idleContinuity.setPhotos _
      · rw [hsaga]
        exact h.startContinuity.setPhotos _
    · cases hs
  | restartContinuity =>
    cases hs
    exact h.startContinuity

theorem runs_inv (h : Runs step coordinated World.init w) : Inv w :=
  h.invariant Inv inv_init fun _ _ _ hi hc hs => step_inv hi hc hs

/-! ## §3. What deletes a photo -/

theorem not_deletes_of_streams (h : w'.photos.streams = w.photos.streams) : ¬ Deletes w w' p := by
  rintro ⟨e, he, -⟩
  rw [h, drop_length] at he
  cases he

/-- A photo command deletes at most the photo it is executed on, and only if it is `DeletePhoto`. -/
theorem advance_deletes {id} (hadv : w.photos.Advance id expected cmd w'.photos.streams)
    (hd : Deletes w w' p) : p = id ∧ cmd.isDelete := by
  obtain ⟨e, he, hdeleted⟩ := hd
  obtain heq | ⟨rfl, events, hdec, heq⟩ := hadv.at_ p
  · rw [heq, drop_length] at he
    cases he
  · rw [heq, drop_left] at he
    refine ⟨rfl, ?_⟩
    by_contra hcmd
    rw [Bool.not_eq_true] at hcmd
    rw [PhotoAggregate.handle_photoDeleted hdec.handled hcmd he] at hdeleted
    cases hdeleted

theorem dispatch_deletes
    (hphotos : w'.photos = (dispatch w saga i photo version streamVersion outcome).1)
    (hd : Deletes w w' p) : p.uuid = photo := by
  have hadv := w.photos.executeAt_advance i ⟨photo⟩ (.exact streamVersion)
    (.delete ⟨⟨photo⟩, version⟩) outcome
  rw [← dispatch_photos w saga i photo version streamVersion outcome, ← hphotos] at hadv
  rw [(advance_deletes hadv hd).1]

/-- **ONLY THE DISPATCHES DELETE**, and they leave every photo list as it is. -/
theorem step_deletes (hs : step w a = some w') (hd : Deletes w w' p) :
    (w'.pieces = w.pieces ∧ w'.outfits = w.outfits ∧ w'.shoots = w.shoots) ∧
      ((∃ i outcome, a = .wardrobeDispatch i outcome ∧ w.wardrobe.cleared = some p.uuid) ∨
        ∃ i outcome, a = .continuityDispatch i outcome ∧ w.continuity.cleared = some p.uuid) := by
  cases a with simp only [step] at hs
  | wardrobeDispatch i outcome =>
    split at hs
    · next photo version streamVersion hpending =>
      cases hs
      have hp := dispatch_deletes rfl hd
      exact ⟨⟨rfl, rfl, rfl⟩, .inl ⟨i, outcome, rfl, by simp [cleared, hpending, hp]⟩⟩
    · cases hs
  | continuityDispatch i outcome =>
    split at hs
    · next photo version streamVersion hpending =>
      cases hs
      have hp := dispatch_deletes rfl hd
      exact ⟨⟨rfl, rfl, rfl⟩, .inr ⟨i, outcome, rfl, by simp [cleared, hpending, hp]⟩⟩
    · cases hs
  | photoCommand =>
    split at hs
    · cases hs
    · next hcmd =>
      cases hs
      exact absurd (advance_deletes (w.photos.executeAt_advance ..) hd).2 hcmd
  | stopActor i ref =>
    refine absurd hd (not_deletes_of_streams ?_)
    cases ref <;> cases hs <;> rfl
  | _ =>
    -- every other action leaves the photos alone
    refine absurd hd (not_deletes_of_streams ?_)
    grind [Option.map_eq_some_iff]

/-! ## §4. Safety -/

theorem cleared_pending {ι : Type} {saga : Saga ι} {p} (h : saga.cleared = some p) :
    ∃ pending ∈ saga.pending, pending.photo = p := by
  unfold cleared at h
  split at h
  · next hpending =>
    cases h
    exact ⟨_, hpending, rfl⟩
  · next hpending =>
    cases h
    exact ⟨_, hpending, rfl⟩
  · cases h

/-- Nobody holds the photo: read back from the logs to the aggregates. -/
theorem not_inUse (hfree : Free w p.uuid) (hshoots : ∀ id, held (w.shootLog id) p.uuid = false) :
    ¬ InUse w p := by
  have hwardrobe : ∀ ref, held (w.wardrobeLog ref) p.uuid = true →
      closed (w.wardrobeLog ref) = false → False := by
    intro ref hheld hopen
    rw [hfree ref hheld] at hopen
    cases hopen
  rintro (⟨id, hmem, hopen⟩ | ⟨id, hmem, hopen⟩ | ⟨id, hmem, -⟩)
  · refine hwardrobe (.piece id) ?_ ?_
    · exact (contains_replay PieceAggregate _ _).symm.trans (contains_iff_mem.2 hmem)
    · exact (deleted_replay PieceAggregate _).symm.trans hopen
  · refine hwardrobe (.outfit id) ?_ ?_
    · exact (contains_replay OutfitAggregate _ _).symm.trans (contains_iff_mem.2 hmem)
    · exact (deleted_replay OutfitAggregate _).symm.trans hopen
  · have hheld : held (w.shootLog id) p.uuid = true :=
      (contains_replay SceneShootAggregate _ _).symm.trans
        (contains_iff_mem.2 (mem_map_of_mem hmem))
    rw [hshoots id] at hheld
    cases hheld

/-- **A PHOTO IN USE IS NEVER DELETED**, in any run whose steps are all coordinated: whichever step
appends `PhotoDeleted` for a photo, no undeleted piece, outfit or scene shoot lists it then. -/
theorem photo_in_use_kept {w w' : World} {a : Action} {p : PhotoId}
    (hr : Runs step coordinated World.init w) (hc : coordinated w a) (hs : step w a = some w')
    (hd : Deletes w w' p) : ¬ InUse w' p := by
  have hi := runs_inv hr
  obtain ⟨⟨hpieces, houtfits, hshoots⟩, hwho⟩ := step_deletes hs hd
  have hsame : InUse w' p → InUse w p := by
    unfold InUse
    rw [hpieces, houtfits, hshoots]
    exact id
  refine fun huse => absurd (hsame huse) ?_
  obtain ⟨i, outcome, rfl, hcleared⟩ | ⟨i, outcome, rfl, hcleared⟩ := hwho
  · -- the wardrobe saga: both counters are at zero and know every link
    obtain ⟨hdelivered, hcont, hcount⟩ := hc p.uuid hcleared
    obtain ⟨pending, hpending, hphoto⟩ := cleared_pending hcleared
    have hzero := hi.wardrobeZero pending hpending
    rw [hphoto] at hzero
    refine not_inUse ?_ fun id => hi.continuityCovers.not_held hcount (hi.shootWF id) (hcont id)
    intro ref hheld
    have hnot : held (w.wardrobeLog ref) p.uuid = false := by
      refine hi.wardrobeCovers.not_held hzero (hi.wardrobeWF ref) ?_
      cases ref with
      | piece id => exact hdelivered.1 id
      | outfit id => exact hdelivered.2 id
    exact absurd (hnot.symm.trans hheld) Bool.false_ne_true
  · -- the continuity saga: its own counter is at zero, and it has seen no row
    obtain ⟨pending, hpending, hphoto⟩ := cleared_pending hcleared
    have hzero := hi.continuityZero pending hpending
    rw [hphoto] at hzero
    exact not_inUse (hi.continuityFree p.uuid hcleared) fun id =>
      hi.continuityCovers.not_held hzero (hi.shootWF id) (hc p.uuid hcleared id)

/-! ## §5. Runs with and without coordination -/

/-- A photo of a coat: uploaded, linked to the coat and to the shoot of a scene. -/
def linkedTwice : List Action :=
  [.photoCommand 0 ⟨7⟩ .empty (.upload ⟨⟨7⟩, "image/jpeg", 10, .piece 1⟩) .acknowledged,
    .pieceCommand 0 (.create ⟨1, "Coat", none, none⟩) .acknowledged,
    .pieceCommand 0 (.linkPhoto ⟨1, 7, 1⟩) .acknowledged,
    .shootCommand 0 (.plan ⟨⟨3⟩, 9, ⟨5⟩, ⟨"a"⟩⟩) .acknowledged,
    .shootCommand 0 (.linkContinuityPhoto ⟨⟨3⟩, ⟨7⟩, 1⟩) .acknowledged,
    .projectPhoto ⟨7⟩, .projectPiece 1, .projectPiece 1,
    .deliverShoot ⟨3⟩, .deliverShoot ⟨3⟩]

/-- The shoot drops the photo while the coat still has it; the continuity saga counts a row and lets
it be. -/
def shootDropsFirst : List Action :=
  [.shootCommand 0 (.unlinkContinuityPhoto ⟨⟨3⟩, ⟨7⟩, 2⟩) .acknowledged, .deliverShoot ⟨3⟩,
    .continuityCount true]

/-- The coat drops the photo, and the wardrobe saga hears of it. -/
def coatDrops : List Action :=
  [.pieceCommand 0 (.unlinkPhoto ⟨1, 7, 2⟩) .acknowledged, .projectPiece 1,
    .deliverWardrobe (.piece 1), .deliverWardrobe (.piece 1), .deliverWardrobe (.piece 1),
    .wardrobeFind true]

theorem photo_in_use_kept_last_link : ∃ w w' : World, Runs step coordinated World.init w ∧
    step w (.wardrobeDispatch 0 .acknowledged) = some w' ∧ Deletes w w' ⟨7⟩ ∧ ¬ InUse w' ⟨7⟩ := by
  obtain ⟨w, hr, hc, w', hs, hd⟩ : ∃ w, Runs step coordinated World.init w ∧
      coordinated w (.wardrobeDispatch 0 .acknowledged) ∧
      ∃ w' ∈ step w (.wardrobeDispatch 0 .acknowledged), Deletes w w' ⟨7⟩ :=
    exists_runs (linkedTwice ++ shootDropsFirst ++ coatDrops) (by decide +kernel)
  exact ⟨w, w', hr, hs, hd, photo_in_use_kept hr hc hs hd⟩

/-- Without the shoot dropping it first: the wardrobe saga, whose own count is zero, deletes a photo
that the scene shoot lists. Every event has been delivered and projected by then. -/
theorem wardrobe_saga_deletes_continuity_photo : ∃ (w w' : World) (a : Action),
    Runs step anyStep World.init w ∧ step w a = some w' ∧ Deletes w w' ⟨7⟩ ∧ InUse w' ⟨7⟩ := by
  obtain ⟨w, hr, w', hs, hd, hused⟩ : ∃ w, Runs step anyStep World.init w ∧
      ∃ w' ∈ step w (.wardrobeDispatch 0 .acknowledged), Deletes w w' ⟨7⟩ ∧
        ⟨7⟩ ∈ (w'.shoots.entityAt ⟨3⟩).continuityPhotos ∧
        (w'.shoots.entityAt ⟨3⟩).deleted = false :=
    exists_runs (linkedTwice ++ coatDrops) (by decide +kernel)
  exact ⟨w, w', _, hr, hs, hd, .inr (.inr ⟨⟨3⟩, hused⟩)⟩

end Breakdown.Photo
