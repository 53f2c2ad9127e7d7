import Mathlib.Algebra.Group.Nat.Defs
import Mathlib.Data.List.Basic

/-!
# The uncompressed part of a VP8 frame

The frame tag of three bytes and, for a key frame, the start code and the dimensions, as RFC 6386
lays them out.  A frame header is a value of which every field fits its bits.
-/

namespace Vp8

/-- The dimensions of a key frame: numbers of 14 bits, each with a scale of 2 bits above. -/
structure Dimensions where
  width : Fin (2 ^ 14)
  horizontalScale : Fin 4
  height : Fin (2 ^ 14)
  verticalScale : Fin 4
  deriving DecidableEq, Repr

/-- The fields of the frame tag; the frames with dimensions are the key frames. -/
structure FrameHeader where
  version : Fin 8
  showFrame : Bool
  firstPartSize : Fin (2 ^ 19)
  dimensions : Option Dimensions
  deriving DecidableEq, Repr

/-- A number of 16 bits, the low byte first. -/
def le16 (n : Nat) : List UInt8 :=
  [UInt8.ofNat n, UInt8.ofNat (n / 2 ^ 8)]

/-- The frame tag as a number of 24 bits. -/
def FrameHeader.tag (header : FrameHeader) : Nat :=
  (if header.dimensions.isSome then 0 else 1) + 2 * header.version.val +
    16 * header.showFrame.toNat + 32 * header.firstPartSize.val

def startCode : List UInt8 := [0x9d, 0x01, 0x2a]

def Dimensions.encode (dimensions : Dimensions) : List UInt8 :=
  le16 (dimensions.width + 2 ^ 14 * dimensions.horizontalScale.val) ++
    le16 (dimensions.height + 2 ^ 14 * dimensions.verticalScale.val)

/-- The bytes of a frame header. -/
def FrameHeader.encode (header : FrameHeader) : List UInt8 :=
  [UInt8.ofNat header.tag, UInt8.ofNat (header.tag / 2 ^ 8), UInt8.ofNat (header.tag / 2 ^ 16)] ++
    match header.dimensions with
    | none => []
    | some dimensions => startCode ++ dimensions.encode

/-- A dimension and its scale. -/
def readDimension (low high : UInt8) : Fin (2 ^ 14) × Fin 4 :=
  let number := low.toNat + 2 ^ 8 * high.toNat
  (⟨number % 2 ^ 14, Nat.mod_lt _ (by decide)⟩,
    ⟨number / 2 ^ 14 % 4, Nat.mod_lt _ (by decide)⟩)

/-- The fields of a frame tag. -/
def readTag (tag : Nat) : FrameHeader where
  version := ⟨tag / 2 % 8, Nat.mod_lt _ (by decide)⟩
  showFrame := tag / 16 % 2 = 1
  firstPartSize := ⟨tag / 32 % 2 ^ 19, Nat.mod_lt _ (by decide)⟩
  dimensions := none

/-- Read a frame header and what comes behind it. -/
def FrameHeader.parse : List UInt8 → Option (FrameHeader × List UInt8)
  | b0 :: b1 :: b2 :: rest =>
    let tag := b0.toNat + 2 ^ 8 * b1.toNat + 2 ^ 16 * b2.toNat
    if tag % 2 = 1 then some (readTag tag, rest)
    else
      match rest with
      | s0 :: s1 :: s2 :: w0 :: w1 :: h0 :: h1 :: rest =>
        if [s0, s1, s2] = startCode then
          let (width, horizontalScale) := readDimension w0 w1
          let (height, verticalScale) := readDimension h0 h1
          some ({ readTag tag with
            dimensions := some ⟨width, horizontalScale, height, verticalScale⟩ }, rest)
        else none
      | _ => none
  | _ => none

theorem FrameHeader.tag_lt (header : FrameHeader) : header.tag < 2 ^ 24 := by
  have hversion := header.version.isLt
  have hsize := header.firstPartSize.isLt
  have hshow := Bool.toNat_le header.showFrame
  unfold FrameHeader.tag
  split <;> omega

/-- The lowest bit tells a key frame. -/
theorem FrameHeader.tag_mod (header : FrameHeader) :
    header.tag % 2 = 1 ↔ header.dimensions = none := by
  unfold FrameHeader.tag
  cases header.dimensions with
  | none =>
      refine iff_of_true ?_ rfl
      show (1 + _ + _ + _) % 2 = 1
      omega
  | some dimensions =>
      refine iff_of_false ?_ nofun
      show ¬ (0 + _ + _ + _) % 2 = 1
      omega

/-- The other fields come back from the tag. -/
theorem readTag_tag (header : FrameHeader) :
    readTag header.tag = { header with dimensions := none } := by
  have hversion := header.version.isLt
  have hsize := header.firstPartSize.isLt
  have hshow := Bool.toNat_le header.showFrame
  have hkey : (if header.dimensions.isSome then 0 else 1) ≤ 1 := by
    split <;> omega
  unfold readTag FrameHeader.tag
  generalize (if header.dimensions.isSome then 0 else 1) = key at hkey
  have hbit : (header.showFrame = true) ↔ header.showFrame.toNat = 1 := by
    cases header.showFrame <;> simp
  rw [FrameHeader.mk.injEq, Fin.ext_iff, Fin.ext_iff, ← Bool.coe_iff_coe, decide_eq_true_iff, hbit]
  refine ⟨?_, by omega, ?_, rfl⟩
  · show _ / 2 % 8 = header.version.val
    omega
  · show _ / 32 % 2 ^ 19 = header.firstPartSize.val
    omega

theorem toNat_ofNat_bytes {n : Nat} (hn : n < 2 ^ 24) :
    (UInt8.ofNat n).toNat + 2 ^ 8 * (UInt8.ofNat (n / 2 ^ 8)).toNat +
      2 ^ 16 * (UInt8.ofNat (n / 2 ^ 16)).toNat = n := by
  simp only [UInt8.toNat_ofNat']
  omega

theorem readDimension_le16 (number : Fin (2 ^ 14)) (scale : Fin 4) :
    readDimension (UInt8.ofNat (number + 2 ^ 14 * scale.val))
      (UInt8.ofNat ((number + 2 ^ 14 * scale.val) / 2 ^ 8)) = (number, scale) := by
  have hnumber := number.isLt
  have hscale := scale.isLt
  unfold readDimension
  simp only [UInt8.toNat_ofNat']
  apply Prod.ext <;> apply Fin.ext <;> dsimp only <;> omega

/-- What is written is read back, and what comes behind it is left. -/
theorem FrameHeader.parse_encode (header : FrameHeader) (rest : List UInt8) :
    FrameHeader.parse (header.encode ++ rest) = some (header, rest) := by
  have htag := toNat_ofNat_bytes header.tag_lt
  have hkey := header.tag_mod
  have hfields := readTag_tag header
  cases hdimensions : header.dimensions with
  | none =>
      unfold FrameHeader.encode
      rw [hdimensions]
      simp only [List.append_nil, List.cons_append, List.nil_append, FrameHeader.parse, htag]
      rw [if_pos (hkey.mpr hdimensions), hfields, ← hdimensions]
  | some dimensions =>
      have hodd : ¬ header.tag % 2 = 1 := by
        rw [hkey, hdimensions]
        nofun
      unfold FrameHeader.encode
      rw [hdimensions]
      simp only [startCode, Dimensions.encode, le16, List.cons_append, List.nil_append,
        FrameHeader.parse, htag, readDimension_le16]
      rw [if_neg hodd, hfields, ← hdimensions]
      rfl

/-- A frame header is known by its bytes. -/
theorem FrameHeader.encode_inj {header header' : FrameHeader}
    (hsame : header.encode = header'.encode) : header = header' := by
  have hparse := header.parse_encode []
  rw [hsame, header'.parse_encode []] at hparse
  exact (Prod.mk.inj (Option.some.inj hparse)).1.symm

/-- Its length tells only whether it is one of a key frame. -/
theorem FrameHeader.length_encode (header : FrameHeader) :
    header.encode.length = if header.dimensions.isSome then 10 else 3 := by
  unfold FrameHeader.encode
  cases header.dimensions <;> rfl

end Vp8
