/-
**A RESTARTED DELETION SAGA TAKES EVERY DECISION AGAIN**
(`infra/src/photo/sagas/deletion.rs`, `continuity_deletion.rs`, `infra/src/photo/repository.rs`).

A saga that is started, or restarted by its supervisor, has empty counters and is fed the whole
history. Every unlink that brings a counter to zero is decided again, against tables in which
earlier decisions may have taken effect long ago. The two handlers meet a photo that is gone
differently: `PhotoDeletionSaga` skips it (`find_by_id(..).ok()`), `ContinuityDeletionSaga` passes
the `NotFound` on (`find_by_id(..)?`), is restarted for it, and meets it again.

Here the handlers run one after the other, both stores answer, and the photo projector catches up
after every event.

- `decisions`: which photos the replay decides to delete, read off the link events alone;
- `settle_cases`: when a decision is carried out, or skipped, without an error;
- `replay_ends`: a replay is a run of the sagas' step system;
- `restart_replay_iff`: when a whole replay is.
-/
import Breakdown.Photo.Streams

namespace Breakdown.Photo

open EventLog RefCount PhotoHolder Transition List Function

/-! ## §1. The handlers -/

/-- Why a handler returns an error. -/
inductive SagaError
  /-- `find_by_id` found no row, and the handler passed that on. -/
  | notFound (photo : Uuid)
  /-- `photo {photo_id} has version 0 — cannot determine stream version`. -/
  | versionZero (photo : Uuid)
  /-- `DeletePhoto` was answered with an error. -/
  | refused (error : DomainError)
  deriving DecidableEq

/-- What a handler may change: the photos, and the table their projector keeps. -/
structure PhotoSide where
  photos : ActorSystem PhotoId PhotoAggregate
  table : PhotoTable

namespace PhotoSide

/-- The projector takes in the event a handler has appended. -/
def catchUp (s : PhotoSide) (photo : Uuid) : PhotoSide :=
  match s.table.project ⟨photo⟩ (s.photos.streams ⟨photo⟩) with
  | some table => { s with table }
  | none => s

/-- The end of both handlers: execute `DeletePhoto` for the version of the row. -/
def deletePhoto (s : PhotoSide) (i : InstanceId) (photo : Uuid) (view : PhotoView) :
    Except SagaError PhotoSide :=
  match domainToStream view.version with
  | none => .error (.versionZero photo)
  | some streamVersion =>
    let executed := s.photos.executeAt i ⟨photo⟩ (.exact streamVersion)
      (.delete ⟨⟨photo⟩, view.version⟩) .acknowledged
    match mapExecutedResult executed.2 with
    | .ok _ => .ok ({ s with photos := executed.1 }.catchUp photo)
    | .error e => .error (.refused e)

end PhotoSide

/-- A counter is at zero: which saga is about to delete which photo. -/
inductive Decision
  | wardrobe (photo : Uuid)
  /-- The continuity saga has moreover counted no row of the two link tables. -/
  | continuity (photo : Uuid)
  deriving DecidableEq

def Decision.photo : Decision → Uuid
  | .wardrobe photo => photo
  | .continuity photo => photo

/-- The second half of a handler, from `find_by_id` on. -/
def settle (s : PhotoSide) (i : InstanceId) : Decision → Except SagaError PhotoSide
  | .wardrobe photo =>
    match s.table.row ⟨photo⟩ with
    | none => .ok s
    | some view => s.deletePhoto i photo view
  | .continuity photo =>
    match s.table.row ⟨photo⟩ with
    | none => .error (.notFound photo)
    | some view => s.deletePhoto i photo view

/-- An event on its way to a saga. -/
inductive Delivery
  | wardrobe (ref : WardrobeRef)
  | shoot (id : SceneShootId)

namespace World

def photoSide (w : World) : PhotoSide := ⟨w.photos, w.photoTable⟩

def withPhotoSide (w : World) (s : PhotoSide) : World :=
  { w with photos := s.photos, photoTable := s.table }

/-- `PhotoDeletionSaga` counts an event of a piece or an outfit. -/
def countWardrobe (w : World) (ref : WardrobeRef) : Option (Effect Uuid) → World × Option Decision
  | none => (w, none)
  | some e =>
    let saga := w.wardrobe.deliver ref e .find
    ({ w with wardrobe := { saga with pending := none } },
      saga.pending.map fun pending => .wardrobe pending.photo)

/-- `ContinuityDeletionSaga` counts an event of a scene shoot and, at zero, asks for the links
(`count_links`). -/
def countShoot (w : World) (id : SceneShootId) : Option (Effect Uuid) → World × Option Decision
  | none => (w, none)
  | some e =>
    let saga := w.continuity.deliver id e .count
    ({ w with continuity := { saga with pending := none } }, saga.pending.bind fun pending =>
        if w.countLinks pending.photo = 0 then some (.continuity pending.photo) else none)

/-- The first half of a handler, on the next event of the stream; there may be none. -/
def deliverNext (w : World) : Delivery → World × Option Decision
  | .wardrobe ref => w.countWardrobe ref (w.wardrobeLog ref)[w.wardrobe.seen ref]?
  | .shoot id => w.countShoot id (w.shootLog id)[w.continuity.seen id]?

/-- Both sagas as their supervisors (re)start them. -/
def restart (w : World) : World := { w with wardrobe := .start, continuity := .start }

end World

/-- One event, handled to the end. -/
def handle (i : InstanceId) (w : World) (d : Delivery) : Except SagaError World :=
  match (w.deliverNext d).2 with
  | none => .ok (w.deliverNext d).1
  | some decision => (settle w.photoSide i decision).map (w.deliverNext d).1.withPhotoSide

/-- The deliveries handled in order, up to the first error. -/
def replay (i : InstanceId) : World → List Delivery → Except SagaError World
  | w, [] => .ok w
  | w, d :: ds =>
    match handle i w d with
    | .ok w' => replay i w' ds
    | .error e => .error e

/-! ## §2. The decisions of a replay -/

/-- The decisions the deliveries lead to. Nothing but the link events and the link tables counts. -/
def decisions : World → List Delivery → List Decision
  | _, [] => []
  | w, d :: ds => (w.deliverNext d).2.toList ++ decisions (w.deliverNext d).1 ds

/-- The decisions carried out in order, up to the first error. -/
def settleAll (i : InstanceId) : PhotoSide → List Decision → Except SagaError PhotoSide
  | s, [] => .ok s
  | s, d :: ds =>
    match settle s i d with
    | .ok s' => settleAll i s' ds
    | .error e => .error e

@[simp] theorem photoSide_withPhotoSide (w : World) (s) : (w.withPhotoSide s).photoSide = s := rfl

theorem deliverNext_photoSide (w : World) (d) : (w.deliverNext d).1.photoSide = w.photoSide := by
  have hwardrobe : ∀ ref e, (w.countWardrobe ref e).1.photoSide = w.photoSide := by
    intro ref e
    cases e <;> rfl
  have hshoot : ∀ id e, (w.countShoot id e).1.photoSide = w.photoSide := by
    intro id e
    cases e <;> rfl
  cases d with
  | wardrobe ref => exact hwardrobe ref _
  | shoot id => exact hshoot id _

/-- Counting has nothing to do with the photos. -/
theorem deliverNext_withPhotoSide (w : World) (s d) : (w.withPhotoSide s).deliverNext d =
      ((w.deliverNext d).1.withPhotoSide s, (w.deliverNext d).2) := by
  have hwardrobe : ∀ ref e, (w.withPhotoSide s).countWardrobe ref e =
      ((w.countWardrobe ref e).1.withPhotoSide s, (w.countWardrobe ref e).2) := by
    intro ref e
    cases e <;> rfl
  have hshoot : ∀ id e, (w.withPhotoSide s).countShoot id e =
      ((w.countShoot id e).1.withPhotoSide s, (w.countShoot id e).2) := by
    intro id e
    cases e <;> rfl
  cases d with
  | wardrobe ref => exact hwardrobe ref _
  | shoot id => exact hshoot id _

theorem decisions_withPhotoSide (w : World) (s ds) :
    decisions (w.withPhotoSide s) ds = decisions w ds := by
  induction ds generalizing w with
  | nil => rfl
  | cons d ds ih =>
    rw [decisions, deliverNext_withPhotoSide, ih]
    rfl

/-- **A REPLAY IS ITS DECISIONS**: it handles every event exactly if it carries out every decision. -/
theorem replay_ok_iff_settleAll :
    (∃ w', replay i w ds = .ok w') ↔ ∃ s, settleAll i w.photoSide (decisions w ds) = .ok s := by
  induction ds generalizing w with
  | nil => simp [replay, decisions, settleAll]
  | cons d ds ih =>
    unfold replay handle decisions
    cases hdecision : (w.deliverNext d).2 with
    | none =>
      dsimp only [Option.toList, nil_append]
      rw [ih, deliverNext_photoSide]
    | some decision =>
      dsimp only [Option.toList, cons_append, nil_append, settleAll]
      cases settle w.photoSide i decision with
      | error => simp [Except.map]
      | ok =>
        dsimp only [Except.map]
        rw [ih, decisions_withPhotoSide, photoSide_withPhotoSide]

/-! ## §3. One decision -/

/-- The photo streams are those of uploaded photos, and the table shows all of them. -/
structure CaughtUp (s : PhotoSide) : Prop where
  streams : ∀ id, PhotoStream id (s.photos.streams id)
  rows : ∀ id, s.table.row id = photoRow (s.photos.streams id)
  projected : ∀ id, s.table.projected id = (s.photos.streams id).length

/-- `find_by_id` finds the photo. -/
def Present (s : PhotoSide) (photo : Uuid) : Prop := (s.table.row ⟨photo⟩).isSome

instance (s : PhotoSide) (photo : Uuid) : Decidable (Present s photo) :=
  inferInstanceAs (Decidable (_ = _))

/-- What a decision leaves behind: the photo is gone, everything else is as before. -/
structure Settled (s : PhotoSide) (photo : Uuid) (s' : PhotoSide) : Prop where
  caughtUp : CaughtUp s'
  present : ∀ p, Present s' p ↔ p ≠ photo ∧ Present s p
  current : ∀ i p, p ≠ photo → (Current s'.photos i ⟨p⟩ ↔ Current s.photos i ⟨p⟩)

/-- A photo that was gone already. -/
theorem settled_of_absent (h : CaughtUp s) (habsent : ¬ Present s photo) : Settled s photo s where
  caughtUp := h
  present p := by
    constructor
    · intro hp
      refine ⟨?_, hp⟩
      rintro rfl
      exact habsent hp
    · exact And.right
  current _ _ _ := Iff.rfl

section Deleting

variable {s : PhotoSide} {i : InstanceId} {photo : Uuid} {view : PhotoView}

theorem deletePhoto_executed (hversion : domainToStream view.version = some streamVersion)
    (hreply : mapExecutedResult (s.photos.executeAt i ⟨photo⟩ (.exact streamVersion)
      (.delete ⟨⟨photo⟩, view.version⟩) .acknowledged).2 = .ok version) :
    s.deletePhoto i photo view = .ok (PhotoSide.catchUp ⟨(s.photos.executeAt i ⟨photo⟩
      (.exact streamVersion) (.delete ⟨⟨photo⟩, view.version⟩) .acknowledged).1, s.table⟩ photo) := by
  simp only [PhotoSide.deletePhoto, hversion, hreply]

theorem deletePhoto_refused (hversion : domainToStream view.version = some streamVersion)
    (hreply : mapExecutedResult (s.photos.executeAt i ⟨photo⟩ (.exact streamVersion)
      (.delete ⟨⟨photo⟩, view.version⟩) .acknowledged).2 = .error e) :
    s.deletePhoto i photo view = .error (.refused e) := by
  simp only [PhotoSide.deletePhoto, hversion, hreply]

theorem settle_wardrobe_absent (hrow : s.table.row ⟨photo⟩ = none) :
    settle s i (.wardrobe photo) = .ok s := by
  simp only [settle, hrow]

theorem settle_continuity_absent (hrow : s.table.row ⟨photo⟩ = none) :
    settle s i (.continuity photo) = .error (.notFound photo) := by
  simp only [settle, hrow]

/-- With a row, both handlers go the same way. -/
theorem settle_present (hrow : s.table.row ⟨d.photo⟩ = some view) :
    settle s i d = s.deletePhoto i d.photo view := by
  cases d with
  | wardrobe photo | continuity photo =>
    have hrow : s.table.row ⟨photo⟩ = some view := hrow
    simp only [settle, hrow, Decision.photo]

/-- The projector sees the deletion. -/
theorem catchUp_deleted (h : CaughtUp s) {photos}
    (hphotos : photos.streams = update s.photos.streams ⟨photo⟩
      (s.photos.streams ⟨photo⟩ ++ [.photoDeleted ⟨photo⟩ version])) :
    PhotoSide.catchUp ⟨photos, s.table⟩ photo = ⟨photos, update s.table.row ⟨photo⟩ none,
        update s.table.projected ⟨photo⟩ (s.table.projected ⟨photo⟩ + 1)⟩ := by
  have hnext : (photos.streams ⟨photo⟩)[s.table.projected ⟨photo⟩]? =
      some (.photoDeleted ⟨photo⟩ version) := by
    rw [hphotos, update_self, h.projected]
    exact getElem?_concat_length
  simp only [PhotoSide.catchUp, PhotoTable.project, hnext, Option.map_some]
  rfl

/-- What the deletion of a photo leaves behind. -/
theorem settled_of_deleted (h : CaughtUp s) {photos}
    (hphotos : photos.streams = update s.photos.streams ⟨photo⟩
      (s.photos.streams ⟨photo⟩ ++ [.photoDeleted ⟨photo⟩ version]))
    (hstream : PhotoStream ⟨photo⟩ (s.photos.streams ⟨photo⟩ ++ [.photoDeleted ⟨photo⟩ version]))
    (hactors : ∀ j id, id ≠ ⟨photo⟩ → photos.actorOrStart j id = s.photos.actorOrStart j id) :
    Settled s photo (PhotoSide.catchUp ⟨photos, s.table⟩ photo) := by
  have hother : ∀ p, p ≠ photo → (⟨p⟩ : PhotoId) ≠ ⟨photo⟩ := by
    intro p hp heq
    exact hp (PhotoId.mk.inj heq)
  rw [catchUp_deleted h hphotos]
  refine ⟨⟨?_, ?_, ?_⟩, ?_, ?_⟩
  · intro id
    show PhotoStream id (photos.streams id)
    rw [hphotos]
    by_cases hid : id = ⟨photo⟩
    · rw [hid, update_self]
      exact hstream
    · rw [update_of_ne hid]
      exact h.streams id
  · intro id
    show update s.table.row ⟨photo⟩ none id = photoRow (photos.streams id)
    rw [hphotos]
    by_cases hid : id = ⟨photo⟩
    · rw [hid, update_self, update_self, photoRow_concat]
      rfl
    · rw [update_of_ne hid, update_of_ne hid]
      exact h.rows id
  · intro id
    show update s.table.projected ⟨photo⟩ _ id = (photos.streams id).length
    rw [hphotos]
    by_cases hid : id = ⟨photo⟩
    · rw [hid, update_self, update_self, length_append, h.projected]
      rfl
    · rw [update_of_ne hid, update_of_ne hid]
      exact h.projected id
  · intro p
    show (update s.table.row ⟨photo⟩ none ⟨p⟩).isSome = true ↔ _
    by_cases hp : p = photo
    · rw [hp, update_self]
      simp
    · rw [update_of_ne (hother p hp)]
      exact (and_iff_right hp).symm
  · intro j p hp
    unfold Current
    rw [hactors j _ (hother p hp), hphotos, update_of_ne (hother p hp)]

/-- **`DeletePhoto` GOES THROUGH JUST WHEN THE ACTOR IS CURRENT**, and then the photo is gone. -/
theorem deletePhoto_cases (h : CaughtUp s) (hrow : s.table.row ⟨photo⟩ = some view) :
    (Current s.photos i ⟨photo⟩ ∧ ∃ s', s.deletePhoto i photo view = .ok s' ∧ Settled s photo s') ∨
      (¬ Current s.photos i ⟨photo⟩ ∧ ∃ e, s.deletePhoto i photo view = .error e) := by
  have hstream := h.streams ⟨photo⟩
  have hview := (h.rows ⟨photo⟩).symm.trans hrow
  obtain ⟨hne, hlength, -, -⟩ := row_version hstream hview
  have hnonzero : view.version ≠ 0 := hlength ▸ (length_pos_iff.2 hne).ne'
  have hversion : domainToStream view.version = some (view.version - 1) := if_neg hnonzero
  by_cases hcurrent : Current s.photos i ⟨photo⟩
  · left
    obtain ⟨hstreams, hdeleted, version, hreply⟩ := executeAt_of_current hstream hview hcurrent
    refine ⟨hcurrent, _, deletePhoto_executed hversion hreply,
      settled_of_deleted h hstreams hdeleted ?_⟩
    intro j id hid
    exact s.photos.executeAt_actorOrStart_of_ne hid _ _ _
  · right
    obtain ⟨e, hreply⟩ := executeAt_of_not_current hstream hview hcurrent
      (.delete ⟨⟨photo⟩, view.version⟩) .acknowledged
    exact ⟨hcurrent, .refused e, deletePhoto_refused hversion hreply⟩

end Deleting

/-- What a decision needs to be handled without an error: for the continuity saga the photo must be
there, and if it is there the actor that deletes it must be current. -/
def Handled (s : PhotoSide) (i : InstanceId) (d : Decision) : Prop :=
  (∀ photo, d = .continuity photo → Present s photo) ∧
    (Present s d.photo → Current s.photos i ⟨d.photo⟩)

/-- **A DECISION IS HANDLED, AND THE PHOTO GONE AFTERWARDS, OR THE HANDLER RETURNS AN ERROR.** -/
theorem settle_cases (h : CaughtUp s) (i d) :
    (Handled s i d ∧ ∃ s', settle s i d = .ok s' ∧ Settled s d.photo s') ∨
      (¬ Handled s i d ∧ ∃ e, settle s i d = .error e) := by
  cases hrow : s.table.row ⟨d.photo⟩ with
  | none =>
    have habsent : ¬ Present s d.photo := by simp [Present, hrow]
    cases d with
    | wardrobe =>
      refine .inl ⟨⟨?_, fun hpresent => absurd hpresent habsent⟩, s, settle_wardrobe_absent hrow,
        settled_of_absent h habsent⟩
      intro _ hd
      cases hd
    | continuity photo =>
      exact .inr ⟨fun hhandled => habsent (hhandled.1 photo rfl), _, settle_continuity_absent hrow⟩
  | some =>
    have hpresent : Present s d.photo := by simp [Present, hrow]
    have hthere : ∀ photo, d = .continuity photo → Present s photo := by
      rintro photo rfl
      exact hpresent
    rw [settle_present hrow]
    obtain ⟨hcurrent, hdeleted⟩ | ⟨hlags, herror⟩ := deletePhoto_cases (i := i) h hrow
    · exact .inl ⟨⟨hthere, fun _ => hcurrent⟩, hdeleted⟩
    · exact .inr ⟨fun hhandled => hlags (hhandled.2 hpresent), herror⟩

/-! ## §4. All decisions -/

/-- What a replay needs of its decisions: every photo the continuity saga decides on is there and was
not deleted by a decision before it, and the photos that are there have current actors. -/
structure Absorbed (present current : Uuid → Prop) (ds : List Decision) : Prop where
  there : ∀ before photo, before ++ [.continuity photo] <+: ds →
    present photo ∧ ∀ d ∈ before, d.photo ≠ photo
  current : ∀ d ∈ ds, present d.photo → current d.photo

theorem absorbed_nil (present current : Uuid → Prop) : Absorbed present current [] where
  there before photo hpre := by
    simp at hpre
  current := by simp

theorem absorbed_cons : Absorbed present current (d :: ds) ↔
      ((∀ photo, d = .continuity photo → present photo) ∧ (present d.photo → current d.photo)) ∧
        Absorbed (fun p => p ≠ d.photo ∧ present p) current ds := by
  constructor
  · intro h
    refine ⟨⟨?_, h.current d mem_cons_self⟩, ?_, ?_⟩
    · rintro photo rfl
      exact (h.there [] photo (by simp)).1
    · intro before photo hpre
      obtain ⟨hpresent, hbefore⟩ := h.there (d :: before) photo (cons_prefix_cons.2 ⟨rfl, hpre⟩)
      refine ⟨⟨(hbefore d mem_cons_self).symm, hpresent⟩, ?_⟩
      intro d' hd'
      exact hbefore d' (mem_cons_of_mem d hd')
    · intro d' hd' hpresent
      exact h.current d' (mem_cons_of_mem d hd') hpresent.2
  · rintro ⟨⟨hthere, hcurrent⟩, h⟩
    refine ⟨?_, ?_⟩
    · intro before photo hpre
      cases before with
      | nil =>
        obtain ⟨rfl, -⟩ := cons_prefix_cons.1 hpre
        exact ⟨hthere photo rfl, by simp⟩
      | cons d' before =>
        obtain ⟨rfl, hrest⟩ := cons_prefix_cons.1 hpre
        obtain ⟨⟨hne, hpresent⟩, hbefore⟩ := h.there before photo hrest
        refine ⟨hpresent, ?_⟩
        intro d hd
        obtain rfl | hd := mem_cons.1 hd
        · exact hne.symm
        · exact hbefore d hd
    · intro d' hd' hpresent
      obtain rfl | hd' := mem_cons.1 hd'
      · exact hcurrent hpresent
      · -- the photo may be the one that was just decided on
        by_cases hphoto : d'.photo = d.photo
        · rw [hphoto] at hpresent ⊢
          exact hcurrent hpresent
        · exact h.current d' hd' ⟨hphoto, hpresent⟩

/-- Only the actors of photos that are there matter. -/
theorem Absorbed.congr {present current present' current' ds} (hpresent : ∀ p, present p ↔ present' p)
    (hcurrent : ∀ p, present p → (current p ↔ current' p)) :
    Absorbed present current ds ↔ Absorbed present' current' ds := by
  obtain rfl : present = present' := funext fun p => propext (hpresent p)
  constructor
  · intro h
    exact ⟨h.there, fun d hd hp => (hcurrent d.photo hp).1 (h.current d hd hp)⟩
  · intro h
    exact ⟨h.there, fun d hd hp => (hcurrent d.photo hp).2 (h.current d hd hp)⟩

/-- **THE RUN**: all decisions are handled exactly if they are absorbed. -/
theorem settleAll_ok_iff {i s ds} (h : CaughtUp s) : (∃ s', settleAll i s ds = .ok s') ↔
      Absorbed (Present s) (fun p => Current s.photos i ⟨p⟩) ds := by
  induction ds generalizing s with
  | nil => exact iff_of_true ⟨s, rfl⟩ (absorbed_nil _ _)
  | cons d ds ih =>
    rw [absorbed_cons]
    unfold settleAll
    obtain ⟨hhandled, s', hs, hsettled⟩ | ⟨hnot, e, hs⟩ := settle_cases h i d
    · rw [hs]
      refine (ih hsettled.caughtUp).trans (Iff.trans ?_ (and_iff_right hhandled).symm)
      refine Absorbed.congr hsettled.present fun p hp => ?_
      exact hsettled.current i p ((hsettled.present p).1 hp).1
    · rw [hs]
      refine iff_of_false ?_ fun habsorbed => hnot habsorbed.1
      rintro ⟨s', hs'⟩
      cases hs'

/-! ## §5. The handlers in the step system -/

/-- Neither saga is in the middle of an event, and the link tables show every event. -/
structure Ready (w : World) : Prop where
  wardrobe : w.wardrobe.pending = none
  continuity : w.continuity.pending = none
  shown : ∀ ref, (w.wardrobeLog ref).length ≤ w.shown ref

/-- What becomes of a handler step by step: a run to the same world, or to one in which a saga has
started over. -/
def Ends (w : World) : Except SagaError World → Prop
  | .ok w' => Runs step sent w w'
  | .error _ => ∃ w', Runs step sent w w' ∧ (w'.wardrobe = .start ∨ w'.continuity = .start)

theorem Ends.of_runs (hrun : Runs step sent w w₁) (h : Ends w₁ result) : Ends w result := by
  cases result with
  | ok => exact hrun.trans h
  | error =>
    obtain ⟨w', hrun', hstart⟩ := h
    exact ⟨w', hrun.trans hrun', hstart⟩

theorem catchUp_runs (w : World) (photo) :
    Runs step sent w (w.withPhotoSide (w.photoSide.catchUp photo)) := by
  cases hproject : w.photoTable.project ⟨photo⟩ (w.photos.streams ⟨photo⟩) with
  | none =>
    have hsame : w.photoSide.catchUp photo = w.photoSide := by
      simp only [PhotoSide.catchUp, World.photoSide, hproject]
    rw [hsame]
    exact .refl
  | some table =>
    refine .single (a := .projectPhoto ⟨photo⟩) trivial ?_
    simp only [step, hproject, PhotoSide.catchUp, World.photoSide]
    rfl

/-- What a dispatched `DeletePhoto` does to the photos and to the saga. -/
theorem dispatch_ends {ι : Type} (w : World) (saga : Saga ι) (i : InstanceId) (photo)
    (hversion : domainToStream view.version = some streamVersion) :
    (∃ photos, w.photoSide.deletePhoto i photo view =
          .ok (PhotoSide.catchUp ⟨photos, w.photoTable⟩ photo) ∧
        dispatch w saga i photo view.version streamVersion .acknowledged =
          (photos, { saga with pending := none })) ∨
      ∃ e photos, w.photoSide.deletePhoto i photo view = .error e ∧
        dispatch w saga i photo view.version streamVersion .acknowledged = (photos, .start) := by
  cases hreply : mapExecutedResult (w.photos.executeAt i ⟨photo⟩ (.exact streamVersion)
      (.delete ⟨⟨photo⟩, view.version⟩) .acknowledged).2 with
  | ok =>
    refine .inl ⟨_, deletePhoto_executed hversion hreply, ?_⟩
    simp only [dispatch, hreply]
    rfl
  | error =>
    refine .inr ⟨_, _, deletePhoto_refused hversion hreply, Prod.ext rfl ?_⟩
    simp only [dispatch, hreply]

/-- A saga that has found the row of a photo, to the end of its handler; `set` puts the saga into a
world. -/
theorem found_ends {ι : Type} {w : World} (set : World → Saga ι → World) {saga : Saga ι} {a : Action}
    (hsent : ∀ w, sent w a) (hstart : ∀ w, (set w .start).wardrobe = .start ∨
      (set w .start).continuity = .start)
    (hstep : ∀ streamVersion,
      let sending := { saga with pending := some (.dispatch photo view.version streamVersion) }
      let after := dispatch w sending i photo view.version streamVersion .acknowledged
      step (set w sending) a = some (set { w with photos := after.1 } after.2))
    (hproject : ∀ photos, let idle := { saga with pending := none }
      Runs step sent (set { w with photos } idle)
        ((set w idle).withPhotoSide (PhotoSide.catchUp ⟨photos, w.photoTable⟩ photo))) :
    Ends (set w (saga.found photo view)) ((w.photoSide.deletePhoto i photo view).map
      (set w { saga with pending := none }).withPhotoSide) := by
  cases hversion : domainToStream view.version with
  | none =>
    simp only [PhotoSide.deletePhoto, Saga.found, hversion]
    exact ⟨_, .refl, hstart w⟩
  | some streamVersion =>
    have hstep := hstep streamVersion
    simp only [Saga.found, hversion]
    obtain ⟨photos, hdelete, hdispatch⟩ | ⟨e, photos, hdelete, hdispatch⟩ := dispatch_ends w
      { saga with pending := some (.dispatch photo view.version streamVersion) } i photo hversion
    · simp only [hdispatch] at hstep
      rw [hdelete]
      exact .trans (.single (hsent _) hstep) (hproject photos)
    · simp only [hdispatch] at hstep
      rw [hdelete]
      exact ⟨_, .single (hsent _) hstep, hstart _⟩

/-- The wardrobe saga, from `find_by_id` on. -/
theorem wardrobe_ends {w : World} (hfind : w.wardrobe.pending = some (.find photo)) (i) :
    Ends w ((settle w.photoSide i (.wardrobe photo)).map
      { w with wardrobe := { w.wardrobe with pending := none } }.withPhotoSide) := by
  cases hrow : w.photoTable.row ⟨photo⟩ with
  | none =>
    rw [settle_wardrobe_absent hrow]
    refine .single (a := .wardrobeFind true) trivial ?_
    simp only [step, hfind, World.findById, hrow]
    rfl
  | some view =>
    have hfound : step w (.wardrobeFind true) =
        some { w with wardrobe := w.wardrobe.found photo view } := by
      simp only [step, hfind, World.findById, hrow, if_true]
    rw [settle_present (d := .wardrobe photo) hrow]
    exact .of_runs (.single (by exact trivial) hfound) (found_ends
      (fun w saga => { w with wardrobe := saga }) (a := .wardrobeDispatch i .acknowledged)
      (fun _ => trivial) (fun _ => .inl rfl) (fun _ => rfl) fun _ => catchUp_runs _ photo)

/-- The continuity saga, from `find_by_id` on. -/
theorem continuity_ends {w : World} (hfind : w.continuity.pending = some (.find photo)) (i) :
    Ends w ((settle w.photoSide i (.continuity photo)).map
      { w with continuity := { w.continuity with pending := none } }.withPhotoSide) := by
  cases hrow : w.photoTable.row ⟨photo⟩ with
  | none =>
    rw [settle_continuity_absent hrow]
    refine ⟨{ w with continuity := .start }, .single (a := .continuityFind true) trivial ?_, .inr rfl⟩
    simp only [step, hfind, World.findById, hrow, if_true]
  | some view =>
    have hfound : step w (.continuityFind true) =
        some { w with continuity := w.continuity.found photo view } := by
      simp only [step, hfind, World.findById, hrow, if_true]
    rw [settle_present (d := .continuity photo) hrow]
    exact .of_runs (.single (by exact trivial) hfound) (found_ends
      (fun w saga => { w with continuity := saga }) (a := .continuityDispatch i .acknowledged)
      (fun _ => trivial) (fun _ => .inr rfl) (fun _ => rfl) fun _ => catchUp_runs _ photo)

theorem deliver_pending {ι : Type} [DecidableEq ι] (saga : Saga ι) (id e next) :
    (saga.deliver id e next).pending = none ∨
      ∃ photo, (saga.deliver id e next).pending = some (next photo) := by
  unfold Saga.deliver
  cases e with
  | unlinked photo =>
    dsimp only
    split
    · exact .inr ⟨photo, rfl⟩
    · exact .inl rfl
  | _ => exact .inl rfl

/-- The wardrobe saga handles an event. -/
theorem handle_wardrobe_ends (h : Ready w) (i ref) : Ends w (handle i w (.wardrobe ref)) := by
  unfold handle
  cases hnext : (w.wardrobeLog ref)[w.wardrobe.seen ref]? with
  | none =>
    rw [show w.deliverNext (.wardrobe ref) = _ from congrArg (w.countWardrobe ref) hnext]
    exact Runs.refl
  | some e =>
    rw [show w.deliverNext (.wardrobe ref) = _ from congrArg (w.countWardrobe ref) hnext]
    obtain ⟨hlt, -⟩ := List.getElem?_eq_some_iff.1 hnext
    have hdeliver : step w (.deliverWardrobe ref) =
        some { w with wardrobe := w.wardrobe.deliver ref e .find } := by
      simp only [step, h.wardrobe, hnext, if_pos (hlt.trans_le (h.shown ref))]
    have hcases := deliver_pending w.wardrobe ref e .find
    dsimp only [World.countWardrobe]
    generalize w.wardrobe.deliver ref e .find = saga at hdeliver hcases ⊢
    obtain ⟨refcounts, seen, pending⟩ := saga
    refine .of_runs (.single (by exact trivial) hdeliver) ?_
    obtain rfl | ⟨photo, rfl⟩ := hcases
    · exact Runs.refl
    · exact wardrobe_ends rfl i

/-- The continuity saga handles an event. -/
theorem handle_shoot_ends (h : Ready w) (i id) : Ends w (handle i w (.shoot id)) := by
  unfold handle
  cases hnext : (w.shootLog id)[w.continuity.seen id]? with
  | none =>
    rw [show w.deliverNext (.shoot id) = _ from congrArg (w.countShoot id) hnext]
    exact Runs.refl
  | some e =>
    rw [show w.deliverNext (.shoot id) = _ from congrArg (w.countShoot id) hnext]
    have hdeliver : step w (.deliverShoot id) =
        some { w with continuity := w.continuity.deliver id e .count } := by
      simp only [step, h.continuity, hnext]
    have hcases := deliver_pending w.continuity id e .count
    dsimp only [World.countShoot]
    generalize w.continuity.deliver id e .count = saga at hdeliver hcases ⊢
    obtain ⟨refcounts, seen, pending⟩ := saga
    refine .of_runs (.single (by exact trivial) hdeliver) ?_
    obtain rfl | ⟨photo, rfl⟩ := hcases
    · exact Runs.refl
    · -- `count_links` decides whether the handler goes on
      rw [Option.bind_some]
      by_cases hlinks : w.countLinks photo = 0
      · have hcount : step { w with continuity := ⟨refcounts, seen, some (.count photo)⟩ }
            (.continuityCount true) =
            some { w with continuity := ⟨refcounts, seen, some (.find photo)⟩ } :=
          if_pos (by exact decide_eq_true hlinks)
        rw [Pending.photo, if_pos hlinks]
        exact .of_runs (.single (by exact trivial) hcount) (continuity_ends rfl i)
      · have hcount : step { w with continuity := ⟨refcounts, seen, some (.count photo)⟩ }
            (.continuityCount true) = some { w with continuity := ⟨refcounts, seen, none⟩ } :=
          if_neg fun hzero => hlinks (of_decide_eq_true hzero)
        rw [Pending.photo, if_neg hlinks]
        exact Runs.single (by exact trivial) hcount

theorem deliverNext_ready (h : Ready w) (d) : Ready (w.deliverNext d).1 := by
  have hwardrobe : ∀ ref e, Ready (w.countWardrobe ref e).1 := by
    intro ref e
    cases e with
    | none => exact h
    | some => exact ⟨rfl, h.continuity, h.shown⟩
  have hshoot : ∀ id e, Ready (w.countShoot id e).1 := by
    intro id e
    cases e with
    | none => exact h
    | some => exact ⟨h.wardrobe, rfl, h.shown⟩
  cases d with
  | wardrobe ref => exact hwardrobe ref _
  | shoot id => exact hshoot id _

theorem handle_ready (h : Ready w) (hok : handle i w d = .ok w') : Ready w' := by
  have hnext := deliverNext_ready h d
  unfold handle at hok
  split at hok
  · cases hok
    exact hnext
  · next decision _ =>
    cases hsettle : settle w.photoSide i decision with
    | error =>
      rw [hsettle] at hok
      cases hok
    | ok =>
      rw [hsettle] at hok
      cases hok
      exact ⟨hnext.wardrobe, hnext.continuity, hnext.shown⟩

/-- **A REPLAY IS A RUN OF THE STEP SYSTEM**, event by event: handled without an error it ends where
the run ends, and at the first error a saga starts over. -/
theorem replay_ends (h : Ready w) (i ds) : Ends w (replay i w ds) := by
  induction ds generalizing w with
  | nil => exact Runs.refl
  | cons d ds ih =>
    have hhandle : Ends w (handle i w d) := by
      cases d with
      | wardrobe ref => exact handle_wardrobe_ends h i ref
      | shoot id => exact handle_shoot_ends h i id
    unfold replay
    cases hd : handle i w d with
    | error =>
      rw [hd] at hhandle
      exact hhandle
    | ok w₁ =>
      rw [hd] at hhandle
      exact .of_runs hhandle (ih (handle_ready h hd))

/-- …and so is the replay of sagas that their supervisors start over. -/
theorem restart_ends (hshown : ∀ ref, (w.wardrobeLog ref).length ≤ w.shown ref) (i ds) :
    Ends w (replay i w.restart ds) := by
  have hwardrobe : Runs step sent w { w with wardrobe := .start } :=
    .single (a := .restartWardrobe) trivial rfl
  have hcontinuity : Runs step sent { w with wardrobe := .start } w.restart :=
    .single (a := .restartContinuity) trivial rfl
  have hready : Ready w.restart := ⟨rfl, rfl, hshown⟩
  exact .of_runs (hwardrobe.trans hcontinuity) (replay_ends hready i ds)

/-! ## §6. Restarted sagas -/

/-- A table that has taken in every event of every photo. -/
theorem caughtUp_of_inv (h : PhotoInv w)
    (hall : ∀ id ∈ w.photos.index, w.photoTable.projected id = (w.photos.streams id).length) :
    CaughtUp w.photoSide := by
  have hprojected : ∀ id, w.photoTable.projected id = (w.photos.streams id).length := by
    intro id
    by_cases hid : id ∈ w.photos.index
    · exact hall id hid
    · have hle := h.projected id
      rw [w.photos.indexed id hid] at hle ⊢
      exact Nat.le_zero.1 hle
  refine ⟨h.streams, ?_, hprojected⟩
  intro id
  have hrow := h.rows id
  rwa [hprojected id, take_length] at hrow

/-- A photo of a coat, linked and unlinked; the wardrobe saga deletes it, and the table shows that. -/
def coatPhotoDeleted : List Action :=
  [.photoCommand 0 ⟨7⟩ .empty (.upload ⟨⟨7⟩, "image/jpeg", 10, .piece 1⟩) .acknowledged,
    .projectPhoto ⟨7⟩,
    .pieceCommand 0 (.create ⟨1, "Coat", none, none⟩) .acknowledged,
    .pieceCommand 0 (.linkPhoto ⟨1, 7, 1⟩) .acknowledged,
    .pieceCommand 0 (.unlinkPhoto ⟨1, 7, 2⟩) .acknowledged,
    .projectPiece 1, .projectPiece 1, .projectPiece 1,
    .deliverWardrobe (.piece 1), .deliverWardrobe (.piece 1), .deliverWardrobe (.piece 1),
    .wardrobeFind true, .wardrobeDispatch 0 .acknowledged, .projectPhoto ⟨7⟩]

/-- The same for a photo of a scene shoot and the continuity saga. -/
def shootPhotoDeleted : List Action :=
  [.photoCommand 0 ⟨7⟩ .empty (.upload ⟨⟨7⟩, "image/jpeg", 10, .continuity ⟨3⟩ none⟩) .acknowledged,
    .projectPhoto ⟨7⟩,
    .shootCommand 0 (.plan ⟨⟨3⟩, 9, ⟨5⟩, ⟨"a"⟩⟩) .acknowledged,
    .shootCommand 0 (.linkContinuityPhoto ⟨⟨3⟩, ⟨7⟩, 1⟩) .acknowledged,
    .shootCommand 0 (.unlinkContinuityPhoto ⟨⟨3⟩, ⟨7⟩, 2⟩) .acknowledged,
    .deliverShoot ⟨3⟩, .deliverShoot ⟨3⟩, .deliverShoot ⟨3⟩,
    .continuityCount true, .continuityFind true, .continuityDispatch 0 .acknowledged,
    .projectPhoto ⟨7⟩]

def allShown (w : World) : Bool :=
  w.photos.index.all fun id => w.photoTable.projected id = (w.photos.streams id).length

theorem caughtUp_of_allShown (hr : Runs step sent World.init w) (hshown : allShown w) :
    CaughtUp w.photoSide := by
  refine caughtUp_of_inv (runs_photoInv hr) fun id hid => ?_
  exact of_decide_eq_true (all_eq_true.1 hshown id hid)

/-- **WHICH REPLAYS ARE HANDLED WITHOUT AN ERROR.** Both sagas start over and are fed the history in
any order that keeps each stream's own, against caught-up tables. No handler returns an error
exactly if every photo the continuity saga decides on (its count at zero, no row of a piece or an
outfit) is still there and not deleted by an earlier decision of the replay, and the photos still
there that are decided on have current actors. -/
theorem restart_replay_iff {w : World} (h : CaughtUp w.photoSide) (i : InstanceId)
    (ds : List Delivery) : (∃ w', replay i w.restart ds = .ok w') ↔
      Absorbed (Present w.photoSide) (fun p => Current w.photos i ⟨p⟩) (decisions w.restart ds) := by
  rw [replay_ok_iff_settleAll]
  exact settleAll_ok_iff h

theorem restart_replay_iff_coat : ∃ w : World, Runs step sent World.init w ∧
    CaughtUp w.photoSide ∧ w.photoTable.row ⟨7⟩ = none ∧ (w.pieceLog 1).length = 3 ∧
    ∃ w', replay 0 w.restart (List.replicate 3 (.wardrobe (.piece 1))) = .ok w' := by
  refine exists_runs_imp coatPhotoDeleted (P := fun w =>
    allShown w = true ∧ w.photoTable.row ⟨7⟩ = none ∧ (w.pieceLog 1).length = 3 ∧
      decisions w.restart (replicate 3 (.wardrobe (.piece 1))) = [.wardrobe 7])
    (by decide +kernel) ?_
  intro w hr ⟨hshown, hrow, hlength, hdecisions⟩
  have hcaught := caughtUp_of_allShown hr hshown
  refine ⟨hcaught, hrow, hlength, (restart_replay_iff hcaught 0 _).2 ?_⟩
  rw [hdecisions, absorbed_cons]
  have habsent : ¬ Present w.photoSide 7 := by simp [Present, World.photoSide, hrow]
  refine ⟨⟨?_, fun hpresent => absurd hpresent habsent⟩, absorbed_nil _ _⟩
  intro photo hd
  cases hd

/-- The continuity saga fails on its own earlier decision: the photo it deleted is gone from the
caught-up tables, and the replay of the whole history returns `NotFound`. -/
theorem continuity_replay_not_found : ∃ w : World, Runs step sent World.init w ∧
    CaughtUp w.photoSide ∧ w.photoTable.row ⟨7⟩ = none ∧ (w.shootLog ⟨3⟩).length = 3 ∧
    replay 0 w.restart (List.replicate 3 (.shoot ⟨3⟩)) = .error (.notFound 7) := by
  refine exists_runs_imp shootPhotoDeleted (P := fun w =>
    allShown w = true ∧ w.photoTable.row ⟨7⟩ = none ∧ (w.shootLog ⟨3⟩).length = 3 ∧
      (match replay 0 w.restart (replicate 3 (.shoot ⟨3⟩)) with
        | .ok _ => false
        | .error e => decide (e = .notFound 7)) = true) (by decide +kernel) ?_
  intro w hr ⟨hshown, hrow, hlength, hreplay⟩
  refine ⟨caughtUp_of_allShown hr hshown, hrow, hlength, ?_⟩
  cases hresult : replay 0 w.restart (replicate 3 (.shoot ⟨3⟩)) with
  | ok =>
    rw [hresult] at hreplay
    cases hreplay
  | error =>
    rw [hresult] at hreplay
    rw [of_decide_eq_true hreplay]

end Breakdown.Photo
