/-
**THE STREAM OF ONE PHOTO AND ITS ROW.**

A photo stream is begun by the upload of the photo it is named after and goes on with accepted
commands, sent with whatever expectation: the thumbnail saga sends `ExpectedVersion::Any`, the
deletion sagas expect the version they read.

- `PhotoAggregate.handle_inv`: what an accepted command other than an upload emits;
- `rowStands`: a caught-up row is there until the photo is deleted, and carries the
  length of the stream as its version;
- `executeAt_of_current`, `executeAt_of_not_current`: when `DeletePhoto`, sent for that version, is
  answered with success.
-/
import Breakdown.EventStore.Methods
import Breakdown.Projections.EntityIds
import Breakdown.Photo.Safety

namespace Breakdown

open EventLog Fallible Transition List Function Entity

/-! ## §1. What accepted commands emit -/

namespace PhotoAggregate

/-- **ONE EVENT, OR NONE.** A command other than an upload is accepted only by an undeleted photo; its
event carries the next version and deletes the photo just if the command does. -/
theorem handle_inv {self : PhotoAggregate} (hcmd : ∀ c, cmd ≠ .upload c)
    (h : self.handle cmd = .ok events) :
    self.deleted = false ∧ (events = [] ∨ ∃ e, events = [e] ∧ e.version = self.version.next ∧
      e.isCreation = false ∧ (self.apply e).deleted = e.isPhotoDeleted) := by
  cases cmd with
  | upload c => exact absurd rfl (hcmd c)
  | normalizeOriginal | generateVariant =>
    simp only [handle, normalizeOriginal, generateVariant, checkNotDeleted, check_eq_ok] at h
    obtain ⟨hopen, h⟩ := h
    have hopen : self.deleted = false := by simpa using hopen
    refine ⟨hopen, ?_⟩
    split at h
    · cases h
      exact .inl rfl
    · cases h
      exact .inr ⟨_, rfl, rfl, rfl, hopen⟩
  | markVariantFailed =>
    simp only [handle, markVariantFailed, checkNotDeleted, checkVersion, check_eq_ok] at h
    obtain ⟨hopen, -, h⟩ := h
    have hopen : self.deleted = false := by simpa using hopen
    cases h
    exact ⟨hopen, .inr ⟨_, rfl, rfl, rfl, hopen⟩⟩
  | delete =>
    simp only [handle, delete, checkNotDeleted, checkVersion, check_eq_ok] at h
    obtain ⟨hopen, -, h⟩ := h
    cases h
    exact ⟨by simpa using hopen, .inr ⟨_, rfl, rfl, rfl, rfl⟩⟩

/-- `DeletePhoto` for the version of an undeleted photo. -/
theorem handle_delete {self : PhotoAggregate} (id) (hopen : self.deleted = false) :
    self.handle (.delete ⟨id, self.version⟩) = .ok [.photoDeleted self.id self.version.next] := by
  simp [handle, delete, checkNotDeleted, checkVersion, hopen]

end PhotoAggregate

namespace Photo

/-! ## §2. Photo streams -/

/-- The row of `projection_photo` once the projector has seen the whole stream. -/
def photoRow (log : List PhotoEvent) : Option PhotoView := log.foldl projectPhoto none

@[simp] theorem photoRow_concat (log e) : photoRow (log ++ [e]) = projectPhoto (photoRow log) e := by
  simp [photoRow]

/-- The stream of a photo: accepted commands, the first of them the upload of this photo. -/
abbrev PhotoStream (id : PhotoId) : List PhotoEvent → Prop := NamedStream PhotoAggregate id.uuid

/-- Where a caught-up row stands. -/
def RowStands (log : List PhotoEvent) : Prop :=
  (Entity.replay PhotoAggregate log).version = log.length ∧ (photoRow log).map PhotoView.version =
      if (Entity.replay PhotoAggregate log).deleted then none else some log.length

/-- The projector follows an accepted command. -/
theorem RowStands.append {log events : List PhotoEvent} (h : RowStands log)
    (hcmd : ∀ c, cmd ≠ .upload c) (hhandle : (replay PhotoAggregate log).handle cmd = .ok events) :
    RowStands (log ++ events) := by
  obtain ⟨hopen, rfl | ⟨e, rfl, hversion, hcreation, hdeleted⟩⟩ :=
    PhotoAggregate.handle_inv hcmd hhandle
  · rwa [append_nil]
  · obtain ⟨hcount, hrow⟩ := h
    rw [hopen] at hrow
    obtain ⟨view, hview, -⟩ := Option.map_eq_some_iff.1 hrow
    have hnext : e.version = log.length + 1 := hversion.trans (congrArg AggregateVersion.next hcount)
    constructor
    · rw [length_append]
      exact (version_replay (σ := PhotoAggregate) log e).trans hnext
    · -- the deletion removes the row, every other event sets its version
      rw [photoRow_concat, replay_concat, hview, length_append]
      show _ = if ((replay PhotoAggregate log).apply e).deleted then _ else _
      rw [hdeleted]
      cases e with
      | photoUploaded => cases hcreation
      | photoDeleted => rfl
      | _ => exact congrArg some hnext

/-- **A CAUGHT-UP ROW IS THERE UNTIL THE PHOTO IS DELETED**, at the version of the stream. -/
theorem rowStands {id : PhotoId} (h : PhotoStream id log) (hne : log ≠ []) : RowStands log := by
  refine h.history.rule (h.founded hne) ?_ ?_
  · -- the upload inserts the row
    intro cmd events hcmd hhandle
    cases cmd with
    | upload =>
      cases hhandle
      exact ⟨rfl, rfl⟩
    | _ => cases hcmd
  · intro log cmd events _ hrow hcmd hhandle
    refine hrow.append ?_ hhandle
    rintro c rfl
    exact hcmd rfl

/-! ## §3. Deleting a photo -/

/-- The actor of instance `i` has seen the whole stream, or is started to serve the next command. -/
def Current (photos : ActorSystem PhotoId PhotoAggregate) (i : InstanceId) (id : PhotoId) : Prop :=
  (photos.actorOrStart i id).version = versionOf (photos.streams id)

instance (photos : ActorSystem PhotoId PhotoAggregate) (i : InstanceId) (id : PhotoId) :
    Decidable (Current photos i id) :=
  inferInstanceAs (Decidable (_ = _))

section Deleting

variable {photos : ActorSystem PhotoId PhotoAggregate} {i : InstanceId} {id : PhotoId}
  {view : PhotoView}

section

variable (hstream : PhotoStream id (photos.streams id))
include hstream

/-- A row that is there shows the length of its stream. -/
theorem row_version (hrow : photoRow (photos.streams id) = some view) :
    photos.streams id ≠ [] ∧ (photos.streams id).length = view.version ∧
      (photos.entityAt id).deleted = false ∧ (photos.entityAt id).version = view.version := by
  have hne : photos.streams id ≠ [] := by
    intro hnil
    rw [hnil] at hrow
    cases hrow
  obtain ⟨hcount, hshown⟩ := rowStands hstream hne
  rw [hrow] at hshown
  split at hshown
  · cases hshown
  · next hopen =>
    have hversion : (photos.streams id).length = view.version := (Option.some.inj hshown).symm
    exact ⟨hne, hversion, Bool.eq_false_iff.2 hopen, hcount.trans hversion⟩

/-- An actor that lags behind refuses the version the row shows. -/
theorem executeAt_of_not_current (hrow : photoRow (photos.streams id) = some view) (hlags :
    ¬ Current photos i id) (cmd outcome) :
    ∃ e, mapExecutedResult (photos.executeAt i id (.exact (view.version - 1)) cmd outcome).2 =
      .error e := by
  obtain ⟨hne, hversion, -, -⟩ := row_version hstream hrow
  have hpos := length_pos_iff.2 hne
  have hunsat : (ExpectedVersion.exact (view.version - 1)).isSatisfiedBy
      (photos.actorOrStart i id).version = false := by
    rw [Bool.eq_false_iff, ne_eq, isSatisfiedBy_exact]
    intro hseen
    apply hlags
    rw [Current, hseen, eq_comm, versionOf_eq_current]
    omega
  simp only [ActorSystem.executeAt, handleExecute_lagging hunsat, mapExecutedResult]
  exact ⟨_, rfl⟩

/-- **AN ACTOR THAT IS CURRENT DELETES THE PHOTO.** -/
theorem executeAt_of_current (hrow : photoRow (photos.streams id) = some view) (hcurrent :
    Current photos i id) :
    (photos.executeAt i id (.exact (view.version - 1)) (.delete ⟨id, view.version⟩)
        .acknowledged).1.streams = update photos.streams id
          (photos.streams id ++ [.photoDeleted id view.version.next]) ∧
      PhotoStream id (photos.streams id ++ [.photoDeleted id view.version.next]) ∧
      ∃ version, mapExecutedResult (photos.executeAt i id (.exact (view.version - 1))
        (.delete ⟨id, view.version⟩) .acknowledged).2 = .ok version := by
  obtain ⟨hne, hversion, hopen, hstate⟩ := row_version hstream hrow
  have hpos := length_pos_iff.2 hne
  have hsat : (ExpectedVersion.exact (view.version - 1)).isSatisfiedBy
      (versionOf (photos.streams id)) = true := by
    rw [isSatisfiedBy_exact, versionOf_eq_current]
    omega
  have hhandle : handle (replay PhotoAggregate (photos.streams id))
      (.delete ⟨id, view.version⟩ : PhotoCommand) = .ok [.photoDeleted id view.version.next] := by
    have haccepted := PhotoAggregate.handle_delete id hopen
    have hid : (photos.entityAt id).id = id := congrArg PhotoId.mk (hstream.entity_id hne)
    rwa [hstate, hid] at haccepted
  obtain ⟨hstreams, hreply⟩ := SoleWriter.executeAt_eq hcurrent (.exact (view.version - 1))
    (.delete ⟨id, view.version⟩)
  have hidem : isStateIdempotent (replay PhotoAggregate (photos.streams id))
      (.delete ⟨id, view.version⟩ : PhotoCommand) = false := rfl
  simp only [SoleWriter.decideOn, hsat, hidem, hhandle, if_true] at hstreams hreply
  rw [hstreams, hreply]
  exact ⟨rfl, hstream.append hne (fun h => by cases h) ⟨hsat, hidem, hhandle, by simp⟩, _, rfl⟩

end

end Deleting

/-! ## §4. Photo streams in every run -/

/-- How photo commands are sent: an upload to the empty stream of its photo, every other command to a
stream that exists. -/
def sent (w : World) : Action → Prop
  | .photoCommand _ id expected cmd _ =>
    match cmd with
    | .upload c => expected = .empty ∧ c.id = id
    | _ => w.photos.streams id ≠ []
  | _ => True

instance (w : World) (a : Action) : Decidable (sent w a) := by
  induction a using Action.casesOn with
  | photoCommand _ _ _ cmd =>
    induction cmd using PhotoCommand.casesOn with
    | upload => exact inferInstanceAs (Decidable (_ ∧ _))
    | _ => exact inferInstanceAs (Decidable (_ ≠ _))
  | _ => exact .isTrue trivial

/-- Photo streams are those of uploaded photos, and the table shows what was projected of them. -/
structure PhotoInv (w : World) : Prop where
  streams : ∀ id, PhotoStream id (w.photos.streams id)
  rows : ∀ id, w.photoTable.row id =
    photoRow ((w.photos.streams id).take (w.photoTable.projected id))
  projected : ∀ id, w.photoTable.projected id ≤ (w.photos.streams id).length

theorem photoInv_init : PhotoInv World.init where
  streams id := .nil id.uuid
  rows _ := rfl
  projected _ := Nat.le_refl _

/-- The upload begins a stream. -/
theorem photoStream_upload {id} (hid : c.id = id)
    (hdecided : Decided PhotoAggregate log .empty (.upload c) events) :
    PhotoStream id (log ++ events) := by
  obtain rfl : log = [] := by simpa using hdecided.satisfied
  have hhistory : History PhotoAggregate ([] ++ events) := .step .nil (fun _ => rfl) hdecided
  cases hdecided.handled
  refine ⟨hhistory, fun _ => ⟨_, rfl, rfl⟩, ?_⟩
  intro e he
  cases he
  exact congrArg PhotoId.uuid hid

/-- Growing streams leave the rows where they are. -/
theorem PhotoInv.advance {id} (h : PhotoInv w)
    (hadv : w.photos.Advance id expected cmd photos.streams)
    (hnew : ∀ events, Decided PhotoAggregate (w.photos.streams id) expected cmd events →
      PhotoStream id (w.photos.streams id ++ events)) : PhotoInv { w with photos } where
  streams := hadv.forall_streams PhotoStream h.streams hnew
  rows id' := by
    obtain ⟨more, hmore⟩ := hadv.prefix_ id'
    show w.photoTable.row id' = photoRow ((photos.streams id').take _)
    rw [← hmore, take_append_of_le_length (h.projected id')]
    exact h.rows id'
  projected id' := (h.projected id').trans (hadv.prefix_ id').length_le

/-- `DeletePhoto` expects an event. -/
theorem PhotoInv.dispatch (h : PhotoInv w) (saga : Saga ι)
    (i photo version streamVersion outcome) : PhotoInv { w with
      photos := (Photo.dispatch w saga i photo version streamVersion outcome).1 } := by
  have hadv := w.photos.executeAt_advance i ⟨photo⟩ (.exact streamVersion)
    (.delete ⟨⟨photo⟩, version⟩) outcome
  rw [← dispatch_photos w saga i photo version streamVersion outcome] at hadv
  refine h.advance hadv fun events hdecided =>
    (h.streams ⟨photo⟩).append ?_ (fun h => by cases h) hdecided
  intro hnil
  have hsat := hdecided.satisfied
  rw [hnil] at hsat
  cases hsat

/-- The projector takes in the next event of a photo. -/
theorem PhotoInv.project {id} (h : PhotoInv w)
    (hproject : w.photoTable.project id (w.photos.streams id) = some table) :
    PhotoInv { w with photoTable := table } := by
  obtain ⟨e, he, rfl⟩ := Option.map_eq_some_iff.1 hproject
  have hname : e.id = id := congrArg PhotoId.mk ((h.streams id).names (mem_of_getElem? he))
  have hlt : w.photoTable.projected id < (w.photos.streams id).length :=
    (List.getElem?_eq_some_iff.1 he).1
  refine ⟨h.streams, ?_, ?_⟩
  · intro id'
    show update w.photoTable.row e.id _ id' =
      photoRow ((w.photos.streams id').take (update w.photoTable.projected id _ id'))
    rw [hname]
    by_cases hid : id' = id
    · subst hid
      rw [update_self, update_self, take_add_one, he, h.rows]
      exact (photoRow_concat _ e).symm
    · rw [update_of_ne hid, update_of_ne hid]
      exact h.rows id'
  · intro id'
    show update w.photoTable.projected id _ id' ≤ _
    by_cases hid : id' = id
    · subst hid
      rw [update_self]
      exact hlt
    · rw [update_of_ne hid]
      exact h.projected id'

theorem step_photoInv (h : PhotoInv w) (hsent : sent w a) (hs : step w a = some w') :
    PhotoInv w' := by
  have hsame : ∀ {v : World}, v.photos.streams = w.photos.streams → v.photoTable = w.photoTable →
      PhotoInv v := by
    intro v hstreams htable
    refine ⟨?_, ?_, ?_⟩
    · rw [hstreams]
      exact h.streams
    · rw [hstreams, htable]
      exact h.rows
    · rw [hstreams, htable]
      exact h.projected
  cases a with simp only [step] at hs
  | photoCommand i id expected cmd outcome =>
    split at hs
    · cases hs
    · cases hs
      refine h.advance (w.photos.executeAt_advance i id expected cmd outcome) ?_
      intro events hdecided
      cases cmd with
      | upload =>
        obtain ⟨rfl, hid⟩ := hsent
        exact photoStream_upload hid hdecided
      | _ => exact (h.streams id).append hsent (fun h => by cases h) hdecided
  | wardrobeDispatch i outcome =>
    split at hs
    · next photo version streamVersion _ =>
      cases hs
      have hdispatch := h.dispatch w.wardrobe i photo version streamVersion outcome
      exact ⟨hdispatch.streams, hdispatch.rows, hdispatch.projected⟩
    · cases hs
  | continuityDispatch i outcome =>
    split at hs
    · next photo version streamVersion _ =>
      cases hs
      have hdispatch := h.dispatch w.continuity i photo version streamVersion outcome
      exact ⟨hdispatch.streams, hdispatch.rows, hdispatch.projected⟩
    · cases hs
  | projectPhoto =>
    simp only [Option.map_eq_some_iff] at hs
    obtain ⟨table, hproject, rfl⟩ := hs
    exact h.project hproject
  | stopActor i ref => cases ref <;> cases hs <;> exact hsame rfl rfl
  | _ =>
    -- every other action leaves the photos and their table alone
    grind [Option.map_eq_some_iff]

/-- **IN EVERY RUN** whose photo commands are sent as above. -/
theorem runs_photoInv (h : Runs step sent World.init w) : PhotoInv w :=
  h.invariant PhotoInv photoInv_init fun _ _ _ hi hsent hs => step_photoInv hi hsent hs

end Photo

end Breakdown
