/-
**WHAT THE DERIVED IDS ARE HASHED FROM** (`derive_id` of
`infra/src/ai/schedule_apply.rs`, `mapping_kind` of `core/src/ai/ports.rs`).

The bytes of a mapping key go to the hasher one part after the other. The draft reference has no
length in front of it, so the byte string has to be read from its end: the ordinal has four bytes,
and the text of the kind has no zero byte while the length in front of it ends in one.

- `leBytes_inj`: a number is read back from its little-endian bytes;
- `zeroByte_kind`: where the text of a kind begins;
- `deriveIdInput_inj`: the byte string determines the key.
-/
import Breakdown.Ai.Mapping
import Breakdown.Lib.Words

namespace Breakdown.Ai

open List

/-! ## §1. The bytes of numbers and texts -/

/-- The `len` lowest bytes of a number, least significant first (`to_le_bytes`). -/
def leBytes : (len : Nat) → Nat → List UInt8
  | 0, _ => []
  | len + 1, n => UInt8.ofNat n :: leBytes len (n / 256)

theorem length_leBytes (len n) : (leBytes len n).length = len := by
  induction len generalizing n with
  | zero => rfl
  | succ len ih => simp [leBytes, ih]

theorem leBytes_inj : ∀ {m n : Nat}, m < 256 ^ len → n < 256 ^ len →
    leBytes len m = leBytes len n → m = n := by
  induction len with
  | zero =>
    intro m n hm hn _
    omega
  | succ len ih =>
    intro m n hm hn h
    rw [Nat.pow_succ] at hm hn
    obtain ⟨hlow, hhigh⟩ := cons.inj h
    have hdiv := ih (by omega) (by omega) hhigh
    have hmod := congrArg UInt8.toNat hlow
    simp only [UInt8.toNat_ofNat'] at hmod
    omega

/-- `str::as_bytes`: the UTF-8 bytes. -/
def asBytes (text : String) : List UInt8 := text.toByteArray.data.toList

theorem asBytes_inj (h : asBytes s = asBytes t) : s = t :=
  String.toByteArray_inj.1 (ByteArray.ext (Array.toList_inj.1 h))

/-- `Uuid::as_bytes`: sixteen bytes, most significant first. -/
def uuidBytes (id : Uuid) : List UInt8 := (leBytes 16 id.asU128.toNat).reverse

theorem length_uuidBytes (id) : (uuidBytes id).length = 16 := by
  rw [uuidBytes, length_reverse, length_leBytes]

theorem uuidBytes_inj (h : uuidBytes a = uuidBytes b) : a = b := by
  have hnat := leBytes_inj a.asU128.isLt b.asU128.isLt (reverse_injective h)
  exact congrArg Uuid.mk (BitVec.eq_of_toNat_eq hnat)

/-- `i32::to_le_bytes`. -/
def ordinalBytes (ordinal : Int32) : List UInt8 := leBytes 4 ordinal.toBitVec.toNat

theorem ordinalBytes_inj (h : ordinalBytes m = ordinalBytes n) : m = n :=
  Int32.toBitVec_inj.1 (BitVec.eq_of_toNat_eq
    (leBytes_inj m.toBitVec.isLt n.toBitVec.isLt h))

/-! ## §2. The hashed key -/

/-- The `mapping_kind` constants. -/
def MappingKind.text : MappingKind → String
  | .scene => "scene"
  | .character => "character"
  | .piece => "piece"
  | .outfit => "outfit"
  | .shootingDay => "shooting_day"
  | .sceneShoot => "scene_shoot"
  | .sceneOutfitBeat => "scene_outfit_beat"
  | .outfitContinuity => "outfit_continuity"
  | .sceneOutfitBeatContinuity => "scene_outfit_beat_continuity"
  | .episode => "episode"

/-- What `derive_id` feeds to the hasher, in the order of its `update` calls. -/
def deriveIdInput (previewId : AiImportJobId) (draftRef aggregateKind : String) (ordinal : Int32) :
    List UInt8 :=
  uuidBytes previewId.uuid ++ (asBytes draftRef ++
    (leBytes 4 (asBytes aggregateKind).length ++ asBytes aggregateKind)) ++ ordinalBytes ordinal

theorem MappingKind.text_inj {k l : MappingKind} (h : k.text = l.text) : k = l := by
  cases k <;> cases l <;> first | rfl | exact absurd h (by decide)

/-- **Where the text of a kind begins.** It has no zero byte, and it is shorter than `2 ^ 24` bytes,
so that its length ends in one. -/
theorem zeroByte_kind (kind : MappingKind) : 0 ∉ asBytes kind.text ∧
    leBytes 4 (asBytes kind.text).length = leBytes 3 (asBytes kind.text).length ++ [0] := by
  cases kind <;> decide +kernel

/-- The kind is what follows the last zero byte. -/
theorem kind_of_tail (h : d ++ (leBytes 4 (asBytes (MappingKind.text k)).length ++ asBytes k.text) =
      e ++ (leBytes 4 (asBytes (MappingKind.text l)).length ++ asBytes l.text)) : k = l := by
  obtain ⟨hk, hlenK⟩ := zeroByte_kind k
  obtain ⟨hl, hlenL⟩ := zeroByte_kind l
  rw [hlenK, hlenL] at h
  -- read backwards, the zero byte is the first separator
  have hback := congrArg reverse h
  simp only [reverse_append, reverse_cons, nil_append, append_assoc, cons_append] at hback
  have hkind := Words.split_at_separator (by simpa using hk) (by simpa using hl) hback
  exact MappingKind.text_inj (asBytes_inj (reverse_injective hkind.1))

/-- **Preimages are injective.** Two keys feed the same byte string to the hash only when they are
the same key. -/
theorem deriveIdInput_inj (p q : AiImportJobId) (d e : String) (k l : MappingKind) (m n : Int32) :
    deriveIdInput p d k.text m = deriveIdInput q e l.text n ↔ (p, d, k, m) = (q, e, l, n) := by
  constructor
  · intro h
    obtain ⟨hkey, hordinal⟩ := append_inj' h (by simp only [ordinalBytes, length_leBytes])
    obtain ⟨hpreview, htail⟩ := append_inj hkey (by simp only [length_uuidBytes])
    have hp : p = q := congrArg AiImportJobId.mk (uuidBytes_inj hpreview)
    have hk : k = l := kind_of_tail htail
    subst hp hk
    rw [ordinalBytes_inj hordinal, asBytes_inj (append_cancel_right htail)]
  · intro h
    cases h
    rfl

end Breakdown.Ai
