import Mathlib.Algebra.Order.Floor.Div
import Mathlib.Data.Nat.Log
import Mathlib.Tactic.Ring
import NvidiaVaapi.Av1.PictureParameters

/-!
# Uniform tile spacing

The bitstream codes the base-two logarithm of a tile count from which the width of the
tiles is computed, and the interface of the application passes on nothing but the number
of tiles that results.  `fill_uniform_tile_sizes` computes the width from that number.
The rules of the AV1 specification come first.
-/

namespace NvidiaVaapi
namespace Av1

/-! ## Tile information of the specification -/

/-- `tile_log2`: the least `k` with `target <= blkSize << k`. -/
def tileLog2 (blkSize target : Nat) : Nat :=
  Nat.clog 2 (target ⌈/⌉ blkSize)

/-- `MAX_TILE_WIDTH`, in samples. -/
def maxTileWidth : Nat := 4096

/-- `MAX_TILE_AREA`, in samples. -/
def maxTileArea : Nat := 4096 * 2304

/-- `MAX_TILE_COLS`. -/
def maxTileCols : Nat := 64

/-- `MAX_TILE_ROWS`. -/
def maxTileRows : Nat := 64

/-- `sbSize`. -/
def sbSize (use128x128Superblock : Bool) : Nat :=
  if use128x128Superblock then 7 else 6

/-- `maxTileWidthSb`. -/
def maxTileWidthSb (use128x128Superblock : Bool) : Nat :=
  maxTileWidth >>> sbSize use128x128Superblock

/-- `maxTileAreaSb`. -/
def maxTileAreaSb (use128x128Superblock : Bool) : Nat :=
  maxTileArea >>> (2 * sbSize use128x128Superblock)

/-- `minLog2TileCols`. -/
def minLog2TileCols (use128x128Superblock : Bool) (sbCols : Nat) : Nat :=
  tileLog2 (maxTileWidthSb use128x128Superblock) sbCols

/-- `minLog2Tiles`. -/
def minLog2Tiles (use128x128Superblock : Bool) (sbCols sbRows : Nat) : Nat :=
  max (minLog2TileCols use128x128Superblock sbCols)
    (tileLog2 (maxTileAreaSb use128x128Superblock) (sbRows * sbCols))

/-- The values that `TileColsLog2` can be coded with. -/
structure PermitsTileColsLog2 (use128x128Superblock : Bool) (sbCols k : Nat) : Prop where
  least : minLog2TileCols use128x128Superblock sbCols ≤ k
  most : k ≤ tileLog2 1 (min sbCols maxTileCols)

/-- The values that `TileRowsLog2` can be coded with, behind a `TileColsLog2`. -/
structure PermitsTileRowsLog2 (use128x128Superblock : Bool) (sbCols sbRows tileColsLog2 k : Nat) :
    Prop where
  cols : PermitsTileColsLog2 use128x128Superblock sbCols tileColsLog2
  least : minLog2Tiles use128x128Superblock sbCols sbRows - tileColsLog2 ≤ k
  most : k ≤ tileLog2 1 (min sbRows maxTileRows)

/-- The values that `TileColsLog2` or `TileRowsLog2` can be coded with for a number of
superblocks in that direction. -/
inductive PermitsTileLog2 (superblocks k : Nat) : Prop
  | cols (use128x128Superblock : Bool) :
      PermitsTileColsLog2 use128x128Superblock superblocks k → PermitsTileLog2 superblocks k
  | rows (use128x128Superblock : Bool) (sbCols tileColsLog2 : Nat) : 0 < sbCols →
      PermitsTileRowsLog2 use128x128Superblock sbCols superblocks tileColsLog2 k →
      PermitsTileLog2 superblocks k

/-- `tileWidthSb`, and in the same way `tileHeightSb`. -/
def tileSizeSb (superblocks k : Nat) : Nat :=
  superblocks ⌈/⌉ 2 ^ k

/-- `TileCols`, and in the same way `TileRows`. -/
def tileCount (superblocks k : Nat) : Nat :=
  superblocks ⌈/⌉ tileSizeSb superblocks k

/-- The sizes of the tiles: whole ones, and what is left for the last. -/
def uniformTileSizes (superblocks k : Nat) : List Nat :=
  let size := tileSizeSb superblocks k
  let count := tileCount superblocks k
  List.replicate (count - 1) size ++ [superblocks - (count - 1) * size]

/-- `FrameWidth`, computed from the upscaled width. -/
def specFrameWidth (upscaledWidth : Nat) (useSuperres : Bool) (superresDenom : Nat) : Nat :=
  let superresNum := 8
  let denom := if useSuperres then superresDenom else superresNum
  (upscaledWidth * superresNum + denom / 2) / denom

/-- `MiCols`, and in the same way `MiRows`. -/
def specMiCount (frameSize : Nat) : Nat :=
  2 * ((frameSize + 7) >>> 3)

/-- `sbCols`, and in the same way `sbRows`. -/
def specSbCount (miCount : Nat) (use128x128Superblock : Bool) : Nat :=
  if use128x128Superblock then (miCount + 31) >>> 5 else (miCount + 15) >>> 4

/-! ## Rounding up -/

section Tiles

variable {superblocks k : Nat}

theorem tileLog2_le_iff {blkSize target : Nat} (hblk : 0 < blkSize) :
    tileLog2 blkSize target ≤ k ↔ target ≤ blkSize * 2 ^ k := by
  rw [tileLog2, Nat.clog_le_iff_le_pow (by decide), ceilDiv_le_iff_le_mul hblk]

theorem tileSizeSb_le_iff {size : Nat} : tileSizeSb superblocks k ≤ size ↔
    superblocks ≤ 2 ^ k * size :=
  ceilDiv_le_iff_le_mul (Nat.two_pow_pos k)

theorem le_tileSizeSb (superblocks k : Nat) : superblocks ≤ 2 ^ k * tileSizeSb superblocks k :=
  tileSizeSb_le_iff.mp (Nat.le_refl _)

theorem tileSizeSb_pos (hpos : 0 < superblocks) : 0 < tileSizeSb superblocks k := by
  by_contra hzero
  have hnone := le_tileSizeSb superblocks k
  rw [Nat.eq_zero_of_not_pos hzero] at hnone
  omega

theorem tileCount_le_iff {count : Nat} (hpos : 0 < superblocks) :
    tileCount superblocks k ≤ count ↔ superblocks ≤ tileSizeSb superblocks k * count :=
  ceilDiv_le_iff_le_mul (tileSizeSb_pos hpos)

theorem tileCount_pos (hpos : 0 < superblocks) : 0 < tileCount superblocks k := by
  by_contra hzero
  have hnone := (tileCount_le_iff (k := k) hpos).mp (Nat.le_of_not_lt hzero)
  omega

/-- There are at most `1 << k` tiles. -/
theorem tileCount_le (hpos : 0 < superblocks) : tileCount superblocks k ≤ 2 ^ k := by
  rw [tileCount_le_iff hpos, Nat.mul_comm]
  exact le_tileSizeSb superblocks k

/-- The tiles before the last do not cover the frame. -/
theorem pred_tileCount_mul_lt (hpos : 0 < superblocks) :
    (tileCount superblocks k - 1) * tileSizeSb superblocks k < superblocks := by
  by_contra hcovered
  have hcount := tileCount_pos (k := k) hpos
  have hfewer : tileCount superblocks k ≤ tileCount superblocks k - 1 := by
    rw [tileCount_le_iff hpos, Nat.mul_comm]
    exact Nat.le_of_not_lt hcovered
  omega

theorem le_tileCount_mul (hpos : 0 < superblocks) :
    superblocks ≤ tileCount superblocks k * tileSizeSb superblocks k := by
  rw [Nat.mul_comm]
  exact (tileCount_le_iff hpos).mp (Nat.le_refl _)

/-! ## The width is recovered from the count -/

/-- Any logarithm up to the coded one that leaves room for the tiles leads to the width of
the tiles. -/
theorem tileSizeSb_of_tileCount (hpos : 0 < superblocks) {j : Nat} (hle : j ≤ k)
    (hroom : tileCount superblocks k ≤ 2 ^ j) :
    tileSizeSb superblocks j = tileSizeSb superblocks k := by
  apply Nat.le_antisymm
  · rw [tileSizeSb_le_iff]
    calc superblocks ≤ tileCount superblocks k * tileSizeSb superblocks k :=
          le_tileCount_mul hpos
      _ ≤ 2 ^ j * tileSizeSb superblocks k := Nat.mul_le_mul_right _ hroom
  · rw [tileSizeSb_le_iff]
    calc superblocks ≤ 2 ^ j * tileSizeSb superblocks j := le_tileSizeSb superblocks j
      _ ≤ 2 ^ k * tileSizeSb superblocks j :=
        Nat.mul_le_mul_right _ (Nat.pow_le_pow_right (by decide) hle)

/-- The loop of `av1_calc_tile_log2` stops at the first power that is large enough. -/
theorem tileLog2From_eq {numTiles : Nat} : ∀ rounds log2, log2 ≤ Nat.clog 2 numTiles →
    Nat.clog 2 numTiles ≤ log2 + rounds →
    tileLog2From numTiles rounds log2 = Nat.clog 2 numTiles := by
  intro rounds
  induction rounds with
  | zero =>
      intro log2 hle hge
      exact Nat.le_antisymm hle hge
  | succ rounds ih =>
      intro log2 hle hge
      unfold tileLog2From
      split
      · rename_i hsmall
        have hbelow := (Nat.lt_clog_iff_pow_lt (by decide)).mpr hsmall
        exact ih (log2 + 1) hbelow (by omega)
      · rename_i hlarge
        have habove := (Nat.clog_le_iff_le_pow (by decide)).mpr (Nat.le_of_not_lt hlarge)
        exact Nat.le_antisymm hle habove

theorem av1CalcTileLog2_eq (numTiles : Nat) : av1CalcTileLog2 numTiles = Nat.clog 2 numTiles := by
  refine tileLog2From_eq numTiles 0 (Nat.zero_le _) ?_
  rw [Nat.zero_add, Nat.clog_le_iff_le_pow (by decide)]
  exact Nat.lt_two_pow_self.le

/-- The width that `fill_uniform_tile_sizes` computes. -/
theorem fill_tileSize (hpos : 0 < superblocks) :
    (superblocks + (1 <<< av1CalcTileLog2 (tileCount superblocks k)) - 1) >>>
      av1CalcTileLog2 (tileCount superblocks k) = tileSizeSb superblocks k := by
  have hlog : av1CalcTileLog2 (tileCount superblocks k) ≤ k := by
    rw [av1CalcTileLog2_eq, Nat.clog_le_iff_le_pow (by decide)]
    exact tileCount_le hpos
  have hroom : tileCount superblocks k ≤ 2 ^ av1CalcTileLog2 (tileCount superblocks k) := by
    rw [av1CalcTileLog2_eq]
    exact Nat.le_pow_clog (by decide) _
  rw [Nat.shiftRight_eq_div_pow, Nat.one_shiftLeft, ← Nat.ceilDiv_eq_add_pred_div]
  exact tileSizeSb_of_tileCount hpos hlog hroom

/-! ## Sizes of permitted layouts -/

/-- There are at most 64 tiles in a direction. -/
theorem PermitsTileLog2.le (hperm : PermitsTileLog2 superblocks k) : 2 ^ k ≤ 64 := by
  have hmost : ∀ limit, limit = 64 → k ≤ tileLog2 1 (min superblocks limit) → k ≤ 6 := by
    rintro limit rfl hk
    refine hk.trans ?_
    rw [tileLog2_le_iff (by decide)]
    omega
  have hle : k ≤ 6 := by
    cases hperm with
    | cols use128x128Superblock hcols => exact hmost _ rfl hcols.most
    | rows use128x128Superblock sbCols tileColsLog2 hcols hrows => exact hmost _ rfl hrows.most
  exact Nat.pow_le_pow_right (by decide) hle

/-- A power that is at most the next one above a count is less than twice the count. -/
theorem two_pow_lt_of_le_tileLog2 {count j : Nat} (hpos : 0 < count)
    (hj : j ≤ tileLog2 1 count) : 2 ^ j < 2 * count := by
  by_contra hlarge
  cases j with
  | zero => omega
  | succ j =>
      have hroom : tileLog2 1 count ≤ j := by
        rw [tileLog2_le_iff (by decide)]
        rw [Nat.pow_succ] at hlarge
        omega
      omega

/-- The tiles are small enough for the 16 bits that each size has. -/
theorem PermitsTileLog2.tileSizeSb_lt (hperm : PermitsTileLog2 superblocks k) :
    tileSizeSb superblocks k < 2 ^ 16 := by
  cases hperm with
  | cols use128x128Superblock hcols =>
      -- No tile is wider than `maxTileWidthSb`.
      have hwidth : 0 < maxTileWidthSb use128x128Superblock ∧
          maxTileWidthSb use128x128Superblock ≤ 64 := by
        cases use128x128Superblock <;> decide
      have hcover := (tileLog2_le_iff hwidth.1).mp hcols.least
      have hsize : tileSizeSb superblocks k ≤ maxTileWidthSb use128x128Superblock := by
        rw [tileSizeSb_le_iff, Nat.mul_comm]
        exact hcover
      omega
  | rows use128x128Superblock sbCols tileColsLog2 hcols hrows =>
      -- The area bound leaves a tile of one column at most twice `maxTileAreaSb` rows.
      have harea : 0 < maxTileAreaSb use128x128Superblock ∧
          maxTileAreaSb use128x128Superblock ≤ 2304 := by
        cases use128x128Superblock <;> decide
      have hleast := hrows.least
      have htiles : tileLog2 (maxTileAreaSb use128x128Superblock) (superblocks * sbCols) ≤
          tileColsLog2 + k := by
        unfold minLog2Tiles at hleast
        omega
      rw [tileLog2_le_iff harea.1, Nat.pow_add] at htiles
      have hpow : 2 ^ tileColsLog2 < 2 * sbCols := by
        refine Nat.lt_of_lt_of_le (two_pow_lt_of_le_tileLog2 ?_ hrows.cols.most) ?_
        · unfold maxTileCols
          omega
        · omega
      have hcover : superblocks * sbCols ≤
          (2 ^ k * (2 * maxTileAreaSb use128x128Superblock)) * sbCols := by
        calc superblocks * sbCols
            ≤ maxTileAreaSb use128x128Superblock * (2 ^ tileColsLog2 * 2 ^ k) := htiles
          _ ≤ maxTileAreaSb use128x128Superblock * (2 * sbCols * 2 ^ k) := by
            gcongr
          _ = (2 ^ k * (2 * maxTileAreaSb use128x128Superblock)) * sbCols := by ring
      have hsize : tileSizeSb superblocks k ≤ 2 * maxTileAreaSb use128x128Superblock := by
        rw [tileSizeSb_le_iff]
        exact Nat.le_of_mul_le_mul_right hcover hcols
      omega

/-! ## The loop -/

/-- The sizes and the rest after the first rounds of `fill_uniform_tile_sizes`. -/
def fillRounds (sizes : Vector Nat 64) (numTiles tileSize numSuperblocks rounds : Nat) :
    Vector Nat 64 × Nat :=
  (List.range rounds).foldl (fun filled i =>
    let remaining := filled.2
    let size := if i = numTiles - 1 then remaining else min tileSize remaining
    (filled.1.setIfInBounds i (size % 2 ^ 16), remaining - size)) (sizes, numSuperblocks)

theorem fillRounds_succ (sizes : Vector Nat 64)
    (numTiles tileSize numSuperblocks rounds : Nat) :
    fillRounds sizes numTiles tileSize numSuperblocks (rounds + 1) =
      let filled := fillRounds sizes numTiles tileSize numSuperblocks rounds
      let size := if rounds = numTiles - 1 then filled.2 else min tileSize filled.2
      (filled.1.setIfInBounds rounds (size % 2 ^ 16), filled.2 - size) := by
  unfold fillRounds
  rw [List.range_succ, List.foldl_append]
  rfl

/-- Before the last tile, each round takes a whole one. -/
theorem fillRounds_whole (hpos : 0 < superblocks) (hsize : tileSizeSb superblocks k < 2 ^ 16)
    (hcount : tileCount superblocks k ≤ 64) (sizes : Vector Nat 64) {rounds : Nat}
    (hrounds : rounds ≤ tileCount superblocks k - 1) :
    let filled := fillRounds sizes (tileCount superblocks k) (tileSizeSb superblocks k)
      superblocks rounds
    filled.2 = superblocks - rounds * tileSizeSb superblocks k ∧
      ∀ i, filled.1.toList[i]? =
        if i < rounds then some (tileSizeSb superblocks k) else sizes.toList[i]? := by
  induction rounds with
  | zero =>
      refine ⟨?_, fun i => by simp [fillRounds]⟩
      rw [Nat.zero_mul]
      rfl
  | succ rounds ih =>
      obtain ⟨hremaining, hsizes⟩ := ih (by omega)
      have hleft : (rounds + 1) * tileSizeSb superblocks k < superblocks :=
        Nat.lt_of_le_of_lt (Nat.mul_le_mul_right _ hrounds) (pred_tileCount_mul_lt hpos)
      rw [Nat.add_mul, Nat.one_mul] at hleft
      rw [fillRounds_succ]
      simp only [hremaining]
      rw [if_neg (by omega), Nat.min_eq_left (by omega), Nat.mod_eq_of_lt hsize]
      refine ⟨?_, fun i => ?_⟩
      · rw [Nat.add_mul, Nat.one_mul]
        omega
      · rw [Vector.toList_setIfInBounds, List.getElem?_set, hsizes]
        by_cases hi : rounds = i
        · subst hi
          rw [if_pos rfl, if_pos (by simp; omega), if_pos (by omega)]
        · rw [if_neg hi]
          by_cases hbelow : i < rounds
          · rw [if_pos hbelow, if_pos (by omega)]
          · rw [if_neg hbelow, if_neg (by omega)]

/-- The last round takes what is left. -/
theorem fillUniformTileSizes_getElem? (hpos : 0 < superblocks)
    (hsize : tileSizeSb superblocks k < 2 ^ 16) (hcount : tileCount superblocks k ≤ 64)
    (sizes : Vector Nat 64) (i : Nat) :
    (fillUniformTileSizes sizes (tileCount superblocks k) superblocks).toList[i]? =
      if i < tileCount superblocks k - 1 then some (tileSizeSb superblocks k)
      else if i = tileCount superblocks k - 1 then
        some (superblocks - (tileCount superblocks k - 1) * tileSizeSb superblocks k)
      else sizes.toList[i]? := by
  have hsome := tileCount_pos (k := k) hpos
  have hfill : fillUniformTileSizes sizes (tileCount superblocks k) superblocks =
      (fillRounds sizes (tileCount superblocks k) (tileSizeSb superblocks k) superblocks
        (tileCount superblocks k - 1 + 1)).1 := by
    rw [Nat.sub_add_cancel hsome, ← fill_tileSize (k := k) hpos]
    rfl
  obtain ⟨hremaining, hsizes⟩ := fillRounds_whole hpos hsize hcount sizes (Nat.le_refl _)
  have hlast : superblocks - (tileCount superblocks k - 1) * tileSizeSb superblocks k ≤
      tileSizeSb superblocks k := by
    have hcover := le_tileCount_mul (k := k) hpos
    have hsplit : tileCount superblocks k * tileSizeSb superblocks k =
        (tileCount superblocks k - 1) * tileSizeSb superblocks k +
          tileSizeSb superblocks k := by
      rw [← Nat.succ_mul, Nat.succ_eq_add_one, Nat.sub_add_cancel hsome]
    omega
  rw [hfill, fillRounds_succ]
  simp only [hremaining, if_pos]
  rw [Nat.mod_eq_of_lt (by omega), Vector.toList_setIfInBounds, List.getElem?_set, hsizes]
  by_cases hi : tileCount superblocks k - 1 = i
  · subst hi
    rw [if_pos rfl, if_pos (by simp; omega), if_neg (by omega), if_pos rfl]
  · rw [if_neg hi]
    by_cases hbelow : i < tileCount superblocks k - 1
    · rw [if_pos hbelow, if_pos hbelow]
    · rw [if_neg hbelow, if_neg hbelow, if_neg fun h => hi h.symm]

/-- `fill_uniform_tile_sizes` writes the sizes of the specification. -/
theorem fillUniformTileSizes_take (hpos : 0 < superblocks)
    (hsize : tileSizeSb superblocks k < 2 ^ 16) (hcount : tileCount superblocks k ≤ 64)
    (sizes : Vector Nat 64) :
    (fillUniformTileSizes sizes (tileCount superblocks k) superblocks).toList.take
      (tileCount superblocks k) = uniformTileSizes superblocks k := by
  have hsome := tileCount_pos (k := k) hpos
  apply List.ext_getElem?
  intro i
  rw [List.getElem?_take, fillUniformTileSizes_getElem? hpos hsize hcount]
  unfold uniformTileSizes
  rw [List.getElem?_append, List.length_replicate, List.getElem?_replicate]
  by_cases hbelow : i < tileCount superblocks k - 1
  · rw [if_pos hbelow, if_pos hbelow, if_pos hbelow, if_pos (by omega)]
  · rw [if_neg hbelow, if_neg hbelow]
    by_cases hi : i = tileCount superblocks k - 1
    · rw [if_pos hi, if_pos (by omega), hi, Nat.sub_self]
      rfl
    · rw [if_neg hi, if_neg (by omega)]
      exact (List.getElem?_eq_none (by simp; omega)).symm

theorem uniformTileSizes_pos (hpos : 0 < superblocks) :
    ∀ size ∈ uniformTileSizes superblocks k, 0 < size := by
  intro size hmem
  rcases List.mem_append.mp hmem with hwhole | hlast
  · rw [List.eq_of_mem_replicate hwhole]
    exact tileSizeSb_pos hpos
  · rw [List.mem_singleton.mp hlast]
    have hlt := pred_tileCount_mul_lt (k := k) hpos
    omega

theorem uniformTileSizes_sum (hpos : 0 < superblocks) :
    (uniformTileSizes superblocks k).sum = superblocks := by
  have hlt := pred_tileCount_mul_lt (k := k) hpos
  simp only [uniformTileSizes, List.sum_append, List.sum_replicate_nat, List.sum_singleton]
  omega

end Tiles

/-! ## Superblock counts -/

/-- `av1_frame_width` is the frame width of the specification. -/
theorem av1FrameWidth_eq (buf : VADecPictureParameterBufferAV1) :
    av1FrameWidth buf = specFrameWidth (buf.frameWidthMinus1 + 1)
      (decide (buf.picInfoFields.useSuperres ≠ 0)) buf.superresScaleDenominator := by
  have hplain : ∀ width, width = (width * 8 + 8 / 2) / 8 := by
    intro width
    omega
  unfold av1FrameWidth specFrameWidth
  simp only [decide_eq_true_eq]
  by_cases hused : buf.picInfoFields.useSuperres ≠ 0
  · by_cases height : buf.superresScaleDenominator = 8
    · rw [if_neg (by simp [height]), if_pos hused, height]
      exact hplain _
    · rw [if_pos ⟨hused, height⟩, if_pos hused]
  · rw [if_neg (by simp [hused]), if_neg hused]
    exact hplain _

/-- `av1_superblock_count` is the count of the specification. -/
theorem av1SuperblockCount_eq (pixels : Nat) (use128x128Superblock : Bool) :
    av1SuperblockCount pixels use128x128Superblock =
      specSbCount (specMiCount pixels) use128x128Superblock := by
  unfold av1SuperblockCount av1AlignPower2 specSbCount specMiCount
  cases use128x128Superblock <;>
    simp only [Nat.shiftRight_eq_div_pow, Nat.one_shiftLeft, Bool.false_eq_true, if_true,
      if_false] <;>
    omega

/-- A count of tiles coded for a number of superblocks gives the sizes of the
specification back: whole tiles, and a last one with what is left; and the numbers of
superblocks that `copyAV1PicParam` hands over are those of the specification. -/
theorem fillUniformTileSizes_spec :
    (∀ superblocks k, 0 < superblocks → PermitsTileLog2 superblocks k →
      ∀ sizes : Vector Nat 64,
        (fillUniformTileSizes sizes (tileCount superblocks k) superblocks).toList.take
            (tileCount superblocks k) =
          List.replicate (tileCount superblocks k - 1) (tileSizeSb superblocks k) ++
            [superblocks - (tileCount superblocks k - 1) * tileSizeSb superblocks k] ∧
        tileCount superblocks k ≤ 64 ∧
        (∀ size ∈ uniformTileSizes superblocks k, 0 < size) ∧
        (uniformTileSizes superblocks k).sum = superblocks) ∧
    ∀ (buf : VADecPictureParameterBufferAV1) (pps : CUVIDAV1PICPARAMS),
      buf.picInfoFields.uniformTileSpacingFlag ≠ 0 →
      let use128x128Superblock := decide (pps.use128x128Superblock ≠ 0)
      let frameWidth := specFrameWidth (buf.frameWidthMinus1 + 1)
        (decide (buf.picInfoFields.useSuperres ≠ 0)) buf.superresScaleDenominator
      (copyTileSizes buf pps).tileWidths = fillUniformTileSizes pps.tileWidths pps.numTileCols
        (specSbCount (specMiCount frameWidth) use128x128Superblock) ∧
      (copyTileSizes buf pps).tileHeights = fillUniformTileSizes pps.tileHeights
        pps.numTileRows
        (specSbCount (specMiCount (buf.frameHeightMinus1 + 1)) use128x128Superblock) := by
  constructor
  · intro superblocks k hpos hperm sizes
    have hcount : tileCount superblocks k ≤ 64 := (tileCount_le hpos).trans hperm.le
    refine ⟨?_, hcount, uniformTileSizes_pos hpos, uniformTileSizes_sum hpos⟩
    exact fillUniformTileSizes_take hpos hperm.tileSizeSb_lt hcount sizes
  · intro buf pps huniform
    simp only [← av1FrameWidth_eq, ← av1SuperblockCount_eq]
    unfold copyTileSizes
    rw [if_pos huniform]
    exact ⟨rfl, rfl⟩

/-- Ten superblocks in four tiles. -/
theorem fillUniformTileSizes_spec_ten :
    (fillUniformTileSizes (.replicate 64 0) 4 10).toList.take 4 = [3, 3, 3, 1] := by
  have hperm : PermitsTileLog2 10 2 := .cols false ⟨by decide, by decide⟩
  have hcount : tileCount 10 2 = 4 := by decide
  have hsizes := (fillUniformTileSizes_spec.1 10 2 (by decide) hperm (.replicate 64 0)).1
  rw [hcount] at hsizes
  exact hsizes

end Av1
end NvidiaVaapi
