/-
**IDENTIFIERS, VERSIONS AND DOMAIN ERRORS** (`core/src/shared.rs`,
`core/src/error.rs`).

Identifiers are 128-bit UUIDs behind one newtype per aggregate, as in the source. The canonical
aggregate version is 1-based (`AggregateVersion::INITIAL = 1`); the 0-based stream version is an
infrastructure detail that only the command adapters translate.
-/
import Mathlib.Algebra.Ring.Nat

namespace Breakdown

open List

/-! ## §1. Identifiers -/

/-- The last `len` lower-case hexadecimal digits of a number, most significant first. -/
def hexDigits : (len : Nat) → Nat → List Char
  | 0, _ => []
  | len + 1, n => hexDigits len (n / 16) ++ [Nat.digitChar (n % 16)]

theorem length_hexDigits (len n) : (hexDigits len n).length = len := by
  induction len generalizing n with
  | zero => rfl
  | succ len ih => simp [hexDigits, ih]

theorem digitChar_inj (ha : a < 16) (hb : b < 16) (h : Nat.digitChar a = Nat.digitChar b) :
    a = b := by
  have hall : ∀ a : Fin 16, ∀ b : Fin 16, Nat.digitChar a = Nat.digitChar b → a = b := by decide
  exact congrArg Fin.val (hall ⟨a, ha⟩ ⟨b, hb⟩ h)

theorem hexDigits_inj : ∀ {m n : Nat}, m < 16 ^ len → n < 16 ^ len →
    hexDigits len m = hexDigits len n → m = n := by
  induction len with
  | zero =>
    intro m n hm hn _
    omega
  | succ len ih =>
    intro m n hm hn h
    rw [Nat.pow_succ] at hm hn
    simp only [hexDigits] at h
    obtain ⟨hhigh, hlow⟩ := append_inj' h rfl
    have hdiv := ih (by omega) (by omega) hhigh
    have hmod := digitChar_inj (Nat.mod_lt m (by omega)) (Nat.mod_lt n (by omega))
      (cons.inj hlow).1
    omega

/-- A UUID, as its 128-bit value. -/
structure Uuid where
  asU128 : BitVec 128
  deriving DecidableEq

namespace Uuid

/-- `Uuid::nil()`. -/
def nil : Uuid := ⟨0⟩

/-- `Uuid::is_nil`. -/
def isNil (id : Uuid) : Bool := id == nil

/-- What `Uuid::now_v7()` leaves in a `Default` state. Only the fact that it is not nil is ever
observed: the version nibble of a v7 UUID is 7. -/
def placeholderV7 : Uuid := ⟨0x00000000000070008000000000000000⟩

/-- `Uuid::simple`: 32 hexadecimal digits. -/
def simple (id : Uuid) : String := String.ofList (hexDigits 32 id.asU128.toNat)

/-- `Display for Uuid`: the digits in groups of 8, 4, 4, 4 and 12. -/
def toDisplay (id : Uuid) : String := let digits := id.simple.toList
  let group (start len : Nat) : String := String.ofList ((digits.drop start).take len)
  "-".intercalate [group 0 8, group 8 4, group 12 4, group 16 4, group 20 12]

instance : ToString Uuid := ⟨toDisplay⟩

instance (n : Nat) : OfNat Uuid n := ⟨⟨BitVec.ofNat 128 n⟩⟩

@[simp] theorem isNil_iff (id) : id.isNil ↔ id = nil := by
  simp [isNil]

theorem toList_toDisplay (id : Uuid) : id.toDisplay.toList = let d := hexDigits 32 id.asU128.toNat
      d.take 8 ++ '-' :: ((d.drop 8).take 4 ++ '-' :: ((d.drop 12).take 4 ++ '-' ::
        ((d.drop 16).take 4 ++ '-' :: (d.drop 20).take 12))) := by
  simp [toDisplay, simple]

theorem length_toDisplay (id : Uuid) : id.toDisplay.toList.length = 36 := by
  rw [toList_toDisplay]
  simp [length_hexDigits]

theorem take_groups {d : List Char} (h : d.length = 32) :
    d = d.take 8 ++ ((d.drop 8).take 4 ++ ((d.drop 12).take 4 ++ ((d.drop 16).take 4 ++
      (d.drop 20).take 12))) := by
  have hlast : (d.drop 20).take 12 = d.drop 20 := take_of_length_le (by simp [h])
  have hstep : ∀ k, (d.drop k).take 4 ++ d.drop (k + 4) = d.drop k := by
    intro k
    rw [← drop_drop, take_append_drop]
  rw [hlast, hstep 16, hstep 12, hstep 8, take_append_drop]

/-- Two UUIDs print alike only if they are one. -/
theorem toDisplay_inj {a b : Uuid} (h : a.toDisplay = b.toDisplay) : a = b := by
  have hl := congrArg String.toList h
  rw [toList_toDisplay, toList_toDisplay] at hl
  have hlen := fun x : Uuid => length_hexDigits 32 x.asU128.toNat
  -- the dashes stand at the same places, so the groups agree one by one
  obtain ⟨h1, hl⟩ := append_inj hl (by simp [length_hexDigits])
  obtain ⟨h2, hl⟩ := append_inj (cons.inj hl).2 (by simp [length_hexDigits])
  obtain ⟨h3, hl⟩ := append_inj (cons.inj hl).2 (by simp [length_hexDigits])
  obtain ⟨h4, hl⟩ := append_inj (cons.inj hl).2 (by simp [length_hexDigits])
  have h5 := (cons.inj hl).2
  have hdigits : hexDigits 32 a.asU128.toNat = hexDigits 32 b.asU128.toNat := by
    rw [take_groups (hlen a), take_groups (hlen b), h1, h2, h3, h4, h5]
  have hnat := hexDigits_inj (by omega) (by omega) hdigits
  cases a
  cases b
  exact congrArg Uuid.mk (BitVec.eq_of_toNat_eq hnat)

end Uuid

/-- `char::is_whitespace`: the Unicode property `White_Space`. -/
def isWhitespaceChar (c : Char) : Bool := let n := c.toNat
  (9 ≤ n && n ≤ 13) || n == 0x20 || n == 0x85 || n == 0xA0 || n == 0x1680 ||
    (0x2000 ≤ n && n ≤ 0x200A) || n == 0x2028 || n == 0x2029 || n == 0x202F || n == 0x205F ||
    n == 0x3000

/-- `text.trim().is_empty()`. -/
def isBlank (text : String) : Bool := text.toList.all isWhitespaceChar

/-- `str::trim`. -/
def trimText (text : String) : String :=
  String.ofList ((text.toList.dropWhile isWhitespaceChar).reverse.dropWhile isWhitespaceChar).reverse

/-- The OIDC subject of a user. -/
structure UserId where
  sub : String
  deriving DecidableEq

/-- A project. -/
structure ProjectId where
  uuid : Uuid
  deriving DecidableEq

/-- A season. -/
structure SeasonId where
  uuid : Uuid
  deriving DecidableEq

/-- A block of a season. -/
structure BlockId where
  uuid : Uuid
  deriving DecidableEq

/-- An episode. -/
structure EpisodeId where
  uuid : Uuid
  deriving DecidableEq

/-- A costume category. -/
structure CostumeCategoryId where
  uuid : Uuid
  deriving DecidableEq

/-- A shooting day. -/
structure ShootingDayId where
  uuid : Uuid
  deriving DecidableEq

/-- A scene on a shooting day. -/
structure SceneShootId where
  uuid : Uuid
  deriving DecidableEq

/-- A photo. -/
structure PhotoId where
  uuid : Uuid
  deriving DecidableEq

/-- `LexicalSortKey`: a sort key compared as text. -/
structure LexicalSortKey where
  key : String
  deriving DecidableEq

/-- Why a text is no sort key. -/
inductive LexicalSortKeyError
  | empty
  | invalidChar
  | tooLong (limit : Nat)
  | noRoom
  deriving DecidableEq

/-- `Display for LexicalSortKeyError`. -/
def LexicalSortKeyError.toDisplay : LexicalSortKeyError → String
  | .empty => "LexicalSortKey must not be empty"
  | .invalidChar => "LexicalSortKey contains a character outside the printable-ASCII alphabet"
  | .tooLong limit => "LexicalSortKey exceeds the maximum length of " ++ toString limit
  | .noRoom => "no LexicalSortKey fits between the given bounds; compaction required"

/-- `LEXICAL_MAX_LEN`. -/
def lexicalMaxLen : Nat := 64

/-- `str::len`: the bytes of a text. -/
def byteLen (s : String) : Nat := (s.toList.map Char.utf8Size).sum

/-- The alphabet of sort keys: printable ASCII without the blank. -/
def isLexical (c : Char) : Bool := '!' ≤ c && c ≤ '~'

/-- `LexicalSortKey::new`. -/
def LexicalSortKey.new (s : String) : Except LexicalSortKeyError LexicalSortKey :=
  if s.toList.isEmpty then .error .empty
  else if byteLen s > lexicalMaxLen then .error (.tooLong lexicalMaxLen)
  else if !s.toList.all isLexical then .error .invalidChar
  else .ok ⟨s⟩

theorem utf8Size_of_isLexical (h : isLexical c) : c.utf8Size = 1 := by
  have hle : c ≤ '~' := by
    simp only [isLexical, Bool.and_eq_true, decide_eq_true_eq] at h
    exact h.2
  have hval : c.val ≤ 0x7f := UInt32.le_trans (Char.le_def.mp hle) (by decide)
  simp [Char.utf8Size, hval]

theorem sum_utf8Size {cs : List Char} (h : cs.all isLexical) :
    (cs.map Char.utf8Size).sum = cs.length := by
  induction cs with
  | nil => rfl
  | cons c rest ih =>
    rw [all_cons, Bool.and_eq_true] at h
    rw [map_cons, sum_cons, utf8Size_of_isLexical h.1, ih h.2, length_cons, Nat.add_comm]

/-- A short text over the alphabet is a sort key. -/
theorem LexicalSortKey.new_ok (hne : s.toList ≠ []) (hlen : s.toList.length ≤ 64)
    (hall : s.toList.all isLexical) : LexicalSortKey.new s = .ok ⟨s⟩ := by
  have hsize : ¬ byteLen s > lexicalMaxLen := by
    rw [byteLen, sum_utf8Size hall]
    exact Nat.not_lt.mpr hlen
  rw [LexicalSortKey.new, if_neg (by simpa using hne), if_neg hsize, hall]
  rfl

theorem hexDigits_isLexical (len n) : (hexDigits len n).all isLexical := by
  have hdigit : ∀ d : Fin 16, isLexical (Nat.digitChar d) = true := by decide
  induction len generalizing n with
  | zero => rfl
  | succ len ih =>
    rw [hexDigits, all_append, ih, all_cons, all_nil, hdigit ⟨n % 16, Nat.mod_lt n (by decide)⟩]
    rfl

/-- A printed UUID is within the alphabet of sort keys. -/
theorem Uuid.toDisplay_isLexical (id : Uuid) : id.toDisplay.toList.all isLexical := by
  have hdigits := hexDigits_isLexical 32 id.asU128.toNat
  rw [all_eq_true] at hdigits
  have hgroup : ∀ k len, (((hexDigits 32 id.asU128.toNat).drop k).take len).all isLexical = true := by
    intro k len
    rw [all_eq_true]
    intro c hc
    exact hdigits c (mem_of_mem_drop (mem_of_mem_take hc))
  have hdash : isLexical '-' = true := by decide
  have hfirst := hgroup 0 8
  rw [drop_zero] at hfirst
  rw [Uuid.toList_toDisplay]
  simp only [all_append, all_cons, hgroup, hfirst, hdash, Bool.and_self]

/-- A point in time (`DateTime<Utc>`). Queues and leases count seconds, the projections nanoseconds;
no aggregate looks at the unit. -/
abbrev Timestamp := Nat

/-- A calendar day (`NaiveDate`), in days. -/
abbrev NaiveDate := Int

/-! ## §2. Versions -/

/-- The 1-based version of an aggregate. -/
abbrev AggregateVersion := Nat

/-- `AggregateVersion::INITIAL`. -/
def AggregateVersion.initial : AggregateVersion := 1

/-- `AggregateVersion::next`. -/
def AggregateVersion.next (v : AggregateVersion) : AggregateVersion := v + 1

/-! ## §3. Domain errors -/

/-- The registered problem codes the modelled functions attach to their errors
(`core/src/error_registry.rs`). -/
inductive ProblemCode
  | domainConflict
  | domainForbidden
  | domainNotFound
  | domainValidation
  | episodeNumberAlreadyExists
  | seasonNumberAlreadyExists
  | blockNumberAlreadyExists
  | episodeNotFound
  | episodeValidation
  | seasonNotFound
  | seasonValidation
  | seasonArchived
  | blockNotFound
  | blockValidation
  | shootingDayNotFound
  | shootingDayValidation
  | shootingDayArchived
  | shootingDayDuplicateOrderKey
  | sceneShootNotFound
  | sceneShootValidation
  | sceneShootPairAlreadyExists
  | sceneShootPlannedOrderFrozen
  | sceneShootNoteNotFound
  | sceneShootAlreadyStarted
  | sceneShootTerminalState
  | settingsEmptyProvider
  | settingsEmptyVaultKey
  | settingsProviderMismatch
  | settingsNotFound
  | settingsAlreadyRevoked
  | aiConfigNotFound
  | aiConfigProviderMismatch
  | aiConfigAlreadyRevoked
  | aiConfigEmptyProvider
  | aiConfigEmptyModel
  | aiConfigEmptyPrompt
  | aiConfigEmptyVaultKey
  | aiConfigDecisionProviderUnsupported
  | aiConfigDecisionIncomplete
  | aiConfigDecisionModelEmpty
  | aiConfigDecisionModelUnknown
  | aiConfigDecisionVaultKeyEmpty
  | photoNotFound
  | photoValidation
  | photoAlreadyDeleted
  | sceneNotFound
  | sceneValidation
  | sceneCharacterNotFound
  | sceneCharacterAlreadyAssigned
  | sceneCharacterNotInScene
  | sceneBeatNotFound
  | characterNotFound
  | characterValidation
  | pieceNotFound
  | pieceValidation
  | pieceDetailNotFound
  | outfitNotFound
  | outfitValidation
  | costumeCategoryValidation
  | costumeCategoryArchived
  | aiImportApplyInFlight
  | membershipValidation
  | membershipAlreadyInvited
  | membershipNoPendingInvitation
  | membershipNotActiveMember
  | membershipMissingActor
  | membershipBootstrapNotAllowed
  | membershipNotFound
  deriving DecidableEq

/-- `DomainError`. -/
inductive DomainError
  | notFound (code : ProblemCode) (resource : String) (id : Uuid)
  | forbidden (code : ProblemCode) (reason : String)
  | validation (code : ProblemCode) (reason : String)
  | conflict (code : ProblemCode) (reason : String)
  | serviceUnavailable (reason : String)
  | internal (reason : String)
  | versionConflict (expected current : AggregateVersion)
  | alreadyScheduled (shootingDayId : Uuid)
  | notScheduled (shootingDayId : Uuid)
  | alreadyLinked (photoId : Uuid)
  | shootingDayWrapped (shootingDayId : Uuid)
  | shootingDayTargetWrapped (shootingDayId : Uuid)
  | categorySeasonMismatch (categoryId : Uuid)
  deriving DecidableEq

/-- `Display for DomainError`; a version prints as `AggregateVersion(n)`. -/
def DomainError.toDisplay : DomainError → String
  | .notFound _ resource id => "not found: " ++ resource ++ " " ++ id.toDisplay
  | .forbidden _ reason => "forbidden: " ++ reason
  | .validation _ reason => "validation failed: " ++ reason
  | .conflict _ reason => "conflict: " ++ reason
  | .serviceUnavailable reason => "service unavailable: " ++ reason
  | .internal reason => "internal error: " ++ reason
  | .versionConflict expected current =>
    "version conflict: expected AggregateVersion(" ++ toString expected ++
      "), current AggregateVersion(" ++ toString current ++ ")"
  | .alreadyScheduled shootingDayId =>
    "scene is already scheduled on shooting day " ++ shootingDayId.toDisplay
  | .notScheduled shootingDayId =>
    "scene is not scheduled on shooting day " ++ shootingDayId.toDisplay
  | .alreadyLinked photoId =>
    "continuity photo " ++ photoId.toDisplay ++ " is already linked to this scene shoot"
  | .shootingDayWrapped shootingDayId =>
    "shooting day " ++ shootingDayId.toDisplay ++ " is wrapped; execution is frozen"
  | .shootingDayTargetWrapped shootingDayId =>
    "target shooting day " ++ shootingDayId.toDisplay ++
      " is wrapped; a planned day cannot be merged onto it"
  | .categorySeasonMismatch categoryId =>
    "costume category " ++ categoryId.toDisplay ++
      " belongs to a season outside the piece's repertoire"

/-- The errors of the modelled HTTP handlers (`api/src/problems/mod.rs`). -/
inductive ApiError
  | domain (error : DomainError)
  | validation (reason : String)
  | conflict (reason : String)
  | serviceUnavailable (reason : String)
  | settingsForbidden (reason : String)
  | settingsBindingForbidden (reason : String)
  | aiConfigForbidden (reason : String)
  | aiConfigVaultKeyForbidden (reason : String)
  | aiConfigProviderMismatch (reason : String)
  | aiConfigVersionMismatch (expected current : AggregateVersion)

/-- `From<…> for DomainError`. -/
class IntoDomainError (χ : Type) where
  intoDomainError : χ → DomainError

end Breakdown
