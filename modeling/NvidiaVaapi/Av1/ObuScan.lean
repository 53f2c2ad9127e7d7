import Mathlib.Data.List.Basic

/-!
# The scan for the OBU of a tile

`av1_find_obu_start_for_tile` of `av1.c`: where the open bitstream unit begins that holds
a tile, or the frame header right before it.
-/

namespace NvidiaVaapi
namespace Av1

/-- One byte of a string. -/
def byteAt (buf : List UInt8) (pos : Nat) : UInt8 :=
  buf.getD pos 0

/-- `av1_read_leb128`: the rounds left, the number of the round, the position and the value
so far become the position behind the number and the number. -/
def av1ReadLeb128 (buf : List UInt8) : Nat → Nat → Nat → Nat → Option (Nat × Nat)
  | 0, _, _, _ => none
  | rounds + 1, i, pos, ret =>
    if pos < buf.length then
      let byte := byteAt buf pos
      let ret := ret ||| (byte &&& 0x7f).toNat <<< (i * 7)
      if byte &&& 0x80 = 0 then some (pos + 1, ret)
      else av1ReadLeb128 buf rounds (i + 1) (pos + 1) ret
    else none

/-- A number that has been read ends behind where it began, and inside the string. -/
theorem av1ReadLeb128_pos {buf : List UInt8} {rounds i pos ret pos' value : Nat}
    (hread : av1ReadLeb128 buf rounds i pos ret = some (pos', value)) :
    pos < pos' ∧ pos' ≤ buf.length := by
  induction rounds generalizing i pos ret with
  | zero => cases hread
  | succ rounds ih =>
      unfold av1ReadLeb128 at hread
      split at hread
      · rename_i hinside
        simp only at hread
        split at hread
        · cases hread
          omega
        · have hrest := ih hread
          omega
      · cases hread

/-- The header of an OBU, and where its payload begins and ends. -/
structure ObuHeader where
  obuType : Nat
  payloadStart : Nat
  obuEnd : Nat
  deriving DecidableEq, Repr

/-- The part of the loop that reads the header of the OBU at a position; `none` ends the
loop. -/
def readObuHeader (buf : List UInt8) (pos : Nat) : Option ObuHeader :=
  let size := buf.length
  let header := byteAt buf pos
  let obuType := ((header >>> 3) &&& 0x0f).toNat
  let hasExtension := header &&& 0x04 ≠ 0
  let hasSize := header &&& 0x02 ≠ 0
  let pos := pos + 1
  if hasExtension ∧ pos ≥ size then none
  else
    let pos := if hasExtension then pos + 1 else pos
    let payload := if hasSize then av1ReadLeb128 buf 8 0 pos 0 else some (pos, size - pos)
    payload.bind fun (payloadStart, payloadSize) =>
      if payloadSize > size - payloadStart then none
      else some ⟨obuType, payloadStart, payloadStart + payloadSize⟩

/-- A header that has been read lies in the string, with its payload behind it. -/
theorem readObuHeader_bounds {buf : List UInt8} {pos : Nat} {obu : ObuHeader}
    (hpos : pos < buf.length) (hread : readObuHeader buf pos = some obu) :
    pos < obu.payloadStart ∧ obu.payloadStart ≤ obu.obuEnd ∧ obu.obuEnd ≤ buf.length := by
  unfold readObuHeader at hread
  simp only at hread
  split at hread
  · cases hread
  · rename_i hextension
    obtain ⟨⟨start, size⟩, hpayload, hobu⟩ := Option.bind_eq_some_iff.mp hread
    have hstart : pos < start ∧ start ≤ buf.length := by
      split at hpayload
      · have hread := av1ReadLeb128_pos hpayload
        split at hread <;> omega
      · cases hpayload
        split
        · rename_i hext
          have hroom : ¬pos + 1 ≥ buf.length := fun h => hextension ⟨hext, h⟩
          omega
        · omega
    simp only at hobu
    split at hobu
    · cases hobu
    · cases hobu
      simp only
      omega

/-- The loop of `av1_find_obu_start_for_tile`.  Every round goes on behind at least one
byte, so that as many rounds as there are bytes are enough. -/
def findObuStart (buf : List UInt8) (tileOffset : Nat) : Nat → Nat → Nat → Nat → Nat
  | 0, _, _, _ => 0
  | rounds + 1, pos, previousObuStart, previousObuType =>
    if pos < buf.length then
      match readObuHeader buf pos with
      | none => 0
      | some obu =>
        if tileOffset ≥ obu.payloadStart ∧ tileOffset < obu.obuEnd then
          if obu.obuType = 4 ∧ previousObuType = 3 then previousObuStart else pos
        else findObuStart buf tileOffset rounds obu.obuEnd pos obu.obuType
    else 0

/-- `av1_find_obu_start_for_tile`. -/
def av1FindObuStartForTile (buf : List UInt8) (tileOffset : Nat) : Nat :=
  findObuStart buf tileOffset buf.length 0 0 0

theorem findObuStart_le {buf : List UInt8} {tileOffset rounds pos previousObuStart
    previousObuType : Nat} (hprevious : previousObuStart ≤ pos) :
    findObuStart buf tileOffset rounds pos previousObuStart previousObuType ≤ tileOffset := by
  induction rounds generalizing pos previousObuStart previousObuType with
  | zero => exact Nat.zero_le _
  | succ rounds ih =>
      unfold findObuStart
      split
      · rename_i hpos
        split
        · exact Nat.zero_le _
        · rename_i obu hread
          have hbounds := readObuHeader_bounds hpos hread
          split
          · rename_i hinside
            split <;> omega
          · apply ih
            omega
      · exact Nat.zero_le _

/-- The start that is found does not lie behind the tile. -/
theorem av1FindObuStartForTile_le (buf : List UInt8) (tileOffset : Nat) :
    av1FindObuStartForTile buf tileOffset ≤ tileOffset :=
  findObuStart_le (Nat.le_refl 0)

end Av1
end NvidiaVaapi
