import Mathlib.Data.List.Induction
import Mathlib.Tactic.Ring
import NvidiaVaapi.Av1.ObuScan
import NvidiaVaapi.Lib.Leb128

/-!
# The scan over sequences of OBUs

What the scan for the OBU of a tile does on every string, and which unit it stops at when
the string is a sequence of units.  It looks back by one unit only, so a unit between a
frame header and its tile group costs the header.
-/

namespace NvidiaVaapi
namespace Av1

/-! ## Every string -/

/-- `av1_read_leb128` with every access checked: the outer `none` is an access outside the
string. -/
def checkedReadLeb128 (buf : List UInt8) : Nat → Nat → Nat → Nat → Option (Option (Nat × Nat))
  | 0, _, _, _ => some none
  | rounds + 1, i, pos, ret =>
    if pos < buf.length then
      buf[pos]?.bind fun byte =>
        let ret := ret ||| (byte &&& 0x7f).toNat <<< (i * 7)
        if byte &&& 0x80 = 0 then some (some (pos + 1, ret))
        else checkedReadLeb128 buf rounds (i + 1) (pos + 1) ret
    else some none

/-- The header of an OBU with every access checked. -/
def checkedReadObuHeader (buf : List UInt8) (pos : Nat) : Option (Option ObuHeader) :=
  buf[pos]?.bind fun header =>
    let size := buf.length
    let obuType := ((header >>> 3) &&& 0x0f).toNat
    let hasExtension := header &&& 0x04 ≠ 0
    let hasSize := header &&& 0x02 ≠ 0
    let pos := pos + 1
    if hasExtension ∧ pos ≥ size then some none
    else
      let pos := if hasExtension then pos + 1 else pos
      let payload :=
        if hasSize then checkedReadLeb128 buf 8 0 pos 0 else some (some (pos, size - pos))
      payload.map fun payload => payload.bind fun (payloadStart, payloadSize) =>
        if payloadSize > size - payloadStart then none
        else some ⟨obuType, payloadStart, payloadStart + payloadSize⟩

/-- The scan with every access checked and its rounds counted: `none` is an access outside
the string, or a scan that has not ended when the rounds are used up. -/
def checkedFindObuStart (buf : List UInt8) (tileOffset : Nat) :
    Nat → Nat → Nat → Nat → Option Nat
  | rounds, pos, previousObuStart, previousObuType =>
    if pos < buf.length then
      match rounds with
      | 0 => none
      | rounds + 1 =>
        (checkedReadObuHeader buf pos).bind fun header =>
          match header with
          | none => some 0
          | some obu =>
            if tileOffset ≥ obu.payloadStart ∧ tileOffset < obu.obuEnd then
              some (if obu.obuType = 4 ∧ previousObuType = 3 then previousObuStart else pos)
            else checkedFindObuStart buf tileOffset rounds obu.obuEnd pos obu.obuType
    else some 0

/-- The bounds between the OBUs of a string, as far as they can be read. -/
inductive ObuBoundary (buf : List UInt8) : Nat → Prop
  | start : ObuBoundary buf 0
  | next {pos : Nat} {obu : ObuHeader} : ObuBoundary buf pos → pos < buf.length →
      readObuHeader buf pos = some obu → ObuBoundary buf obu.obuEnd

section Strings

variable {buf : List UInt8} {tileOffset : Nat}

theorem getElem?_eq_byteAt {pos : Nat} (hpos : pos < buf.length) :
    buf[pos]? = some (byteAt buf pos) := by
  rw [byteAt, List.getD_eq_getElem?_getD, List.getElem?_eq_getElem hpos]
  rfl

theorem checkedReadLeb128_eq (rounds i pos ret : Nat) :
    checkedReadLeb128 buf rounds i pos ret = some (av1ReadLeb128 buf rounds i pos ret) := by
  induction rounds generalizing i pos ret with
  | zero => rfl
  | succ rounds ih =>
      unfold checkedReadLeb128 av1ReadLeb128
      by_cases hpos : pos < buf.length
      · rw [if_pos hpos, if_pos hpos, getElem?_eq_byteAt hpos, Option.bind_some]
        simp only
        split
        · rfl
        · exact ih _ _ _
      · rw [if_neg hpos, if_neg hpos]

theorem checkedReadObuHeader_eq {pos : Nat} (hpos : pos < buf.length) :
    checkedReadObuHeader buf pos = some (readObuHeader buf pos) := by
  unfold checkedReadObuHeader readObuHeader
  rw [getElem?_eq_byteAt hpos, Option.bind_some]
  simp only
  split
  · rfl
  · split
    · rw [checkedReadLeb128_eq, Option.map_some]
    · rfl

/-- With a round for every byte that is left, the scan ends without an access outside the
string. -/
theorem checkedFindObuStart_eq {rounds pos : Nat} (previousObuStart previousObuType : Nat)
    (hrounds : buf.length ≤ pos + rounds) :
    checkedFindObuStart buf tileOffset rounds pos previousObuStart previousObuType =
      some (findObuStart buf tileOffset rounds pos previousObuStart previousObuType) := by
  induction rounds generalizing pos previousObuStart previousObuType with
  | zero =>
      unfold checkedFindObuStart findObuStart
      rw [if_neg (by omega)]
  | succ rounds ih =>
      unfold checkedFindObuStart findObuStart
      by_cases hpos : pos < buf.length
      · rw [if_pos hpos, if_pos hpos, checkedReadObuHeader_eq hpos]
        simp only [Option.bind_some]
        cases hread : readObuHeader buf pos with
        | none => rfl
        | some obu =>
            have hbounds := readObuHeader_bounds hpos hread
            simp only
            by_cases hinside : tileOffset ≥ obu.payloadStart ∧ tileOffset < obu.obuEnd
            · rw [if_pos hinside, if_pos hinside]
            · rw [if_neg hinside, if_neg hinside]
              exact ih _ _ (by omega)
      · rw [if_neg hpos, if_neg hpos]

/-- What the scan returns is a bound between OBUs. -/
theorem findObuStart_boundary {rounds pos previousObuStart : Nat} (previousObuType : Nat)
    (hpos : ObuBoundary buf pos) (hprevious : ObuBoundary buf previousObuStart) :
    ObuBoundary buf
      (findObuStart buf tileOffset rounds pos previousObuStart previousObuType) := by
  induction rounds generalizing pos previousObuStart previousObuType with
  | zero => exact .start
  | succ rounds ih =>
      unfold findObuStart
      split
      · rename_i hinside
        split
        · exact .start
        · rename_i obu hread
          split
          · split
            · exact hprevious
            · exact hpos
          · exact ih _ (.next hpos hinside hread) hpos
      · exact .start

end Strings

/-! ## Sequences of OBUs -/

/-- An open bitstream unit as it is written, with its payload: the type, the byte of the
extension and the size field, which gives the length of the payload. -/
structure Obu where
  obuType : Fin 16
  extension : Option UInt8
  size : Option (List (Fin 128))
  payload : List UInt8
  sized : ∀ groups ∈ size, groups ≠ [] ∧ groups.length ≤ 8 ∧
    Leb128.value groups = payload.length

/-- The first byte: the type and the flags of the two optional fields. -/
def obuHeaderByte (obuType : Fin 16) (hasExtension hasSize : Bool) : UInt8 :=
  UInt8.ofNat (obuType.val * 8 + (if hasExtension then 4 else 0) + if hasSize then 2 else 0)

/-- The bytes before the payload. -/
def Obu.headerBytes (obu : Obu) : List UInt8 :=
  obuHeaderByte obu.obuType obu.extension.isSome obu.size.isSome ::
    (obu.extension.toList ++ (obu.size.map Leb128.bytes).getD [])

/-- The bytes of a unit. -/
def Obu.bytes (obu : Obu) : List UInt8 :=
  obu.headerBytes ++ obu.payload

/-- The bytes of a sequence. -/
def obuBytes (obus : List Obu) : List UInt8 :=
  obus.flatMap Obu.bytes

/-- Only the last unit goes without a size. -/
def WellFormed (obus : List Obu) : Prop :=
  ∀ before obu after, obus = before ++ obu :: after → obu.size = none → after = []

/-- The fields of the first byte. -/
theorem obuHeaderByte_fields (obuType : Fin 16) (hasExtension hasSize : Bool) :
    ((obuHeaderByte obuType hasExtension hasSize >>> 3) &&& 0x0f).toNat = obuType.val ∧
    (obuHeaderByte obuType hasExtension hasSize &&& 0x04 ≠ 0 ↔ hasExtension = true) ∧
    (obuHeaderByte obuType hasExtension hasSize &&& 0x02 ≠ 0 ↔ hasSize = true) := by
  revert obuType hasExtension hasSize
  decide

theorem byteAt_append_cons (before after : List UInt8) (byte : UInt8) :
    byteAt (before ++ byte :: after) before.length = byte := by
  rw [byteAt, List.getD_eq_getElem?_getD, List.getElem?_append_right (Nat.le_refl _),
    Nat.sub_self]
  rfl

/-- A size field is read as it was written. -/
theorem av1ReadLeb128_bytes {groups : List (Fin 128)} (hgroups : groups ≠ [])
    {before after : List UInt8} {rounds i ret : Nat} (hrounds : groups.length ≤ rounds)
    (hret : ret < 128 ^ i) :
    av1ReadLeb128 (before ++ (Leb128.bytes groups ++ after)) rounds i before.length ret =
      some (before.length + groups.length, ret + 128 ^ i * Leb128.value groups) := by
  induction groups generalizing before rounds i ret with
  | nil => exact absurd rfl hgroups
  | cons g groups ih =>
      cases rounds with
      | zero => cases hrounds
      | succ rounds =>
          cases groups with
          | nil =>
              have hbyte := Leb128.lastByte g
              unfold av1ReadLeb128
              simp only [Leb128.bytes, List.singleton_append, byteAt_append_cons]
              rw [if_pos (by simp), if_pos hbyte.2, hbyte.1, Leb128.or_shiftLeft_group _ hret]
              simp [Leb128.value]
          | cons next groups =>
              have hbyte := Leb128.nextByte g
              have hret' : ret + 128 ^ i * g.val < 128 ^ (i + 1) := by
                have hgroup : 128 ^ i * g.val ≤ 128 ^ i * 127 :=
                  Nat.mul_le_mul_left _ (by omega)
                rw [Nat.pow_succ]
                omega
              have hrest : av1ReadLeb128 ((before ++ [UInt8.ofNat (g.val + 128)]) ++
                  (Leb128.bytes (next :: groups) ++ after)) rounds (i + 1)
                  (before ++ [UInt8.ofNat (g.val + 128)]).length (ret + 128 ^ i * g.val) = _ :=
                ih (List.cons_ne_nil _ _) (Nat.le_of_succ_le_succ hrounds) hret'
              unfold av1ReadLeb128
              simp only [Leb128.bytes, List.cons_append, byteAt_append_cons]
              rw [if_pos (by simp), if_neg hbyte.2, hbyte.1, Leb128.or_shiftLeft_group _ hret]
              rw [List.append_assoc, List.singleton_append, List.length_append,
                List.length_singleton] at hrest
              rw [hrest]
              simp only [Leb128.value, List.length_cons, Option.some.injEq, Prod.mk.injEq]
              constructor
              · omega
              · ring

/-- The payload of a unit and its length are found behind the size field. -/
theorem Obu.readSize (obu : Obu) (before after : List UInt8)
    (hlast : obu.size = none → after = []) :
    (if obu.size.isSome = true then
        av1ReadLeb128 (before ++ ((obu.size.map Leb128.bytes).getD [] ++ (obu.payload ++ after)))
          8 0 before.length 0
      else some (before.length, (before ++ ((obu.size.map Leb128.bytes).getD [] ++
        (obu.payload ++ after))).length - before.length)) =
      some (before.length + ((obu.size.map Leb128.bytes).getD []).length,
        obu.payload.length) := by
  cases hsize : obu.size with
  | none =>
      rw [if_neg (by simp), hlast hsize]
      simp
  | some groups =>
      obtain ⟨hgroups, hrounds, hvalue⟩ := obu.sized groups hsize
      have hread : av1ReadLeb128 (before ++ (Leb128.bytes groups ++ (obu.payload ++ after)))
          8 0 before.length 0 = _ := av1ReadLeb128_bytes hgroups hrounds Nat.one_pos
      rw [if_pos Option.isSome_some]
      simp only [Option.map_some, Option.getD_some, Leb128.length_bytes]
      rw [hread, hvalue]
      simp

/-- The header of a unit is read as it was written. -/
theorem readObuHeader_bytes (obu : Obu) (before after : List UInt8)
    (hlast : obu.size = none → after = []) :
    readObuHeader (before ++ (obu.bytes ++ after)) before.length =
      some ⟨obu.obuType, before.length + obu.headerBytes.length,
        before.length + obu.bytes.length⟩ := by
  obtain ⟨htype, hextension, hsize⟩ :=
    obuHeaderByte_fields obu.obuType obu.extension.isSome obu.size.isSome
  have hread := obu.readSize
    (before ++ obuHeaderByte obu.obuType obu.extension.isSome obu.size.isSome ::
      obu.extension.toList) after hlast
  have hbyte := byteAt_append_cons before
    (obu.extension.toList ++ ((obu.size.map Leb128.bytes).getD [] ++ (obu.payload ++ after)))
    (obuHeaderByte obu.obuType obu.extension.isSome obu.size.isSome)
  unfold readObuHeader Obu.bytes Obu.headerBytes
  simp only [List.append_assoc, List.cons_append] at hread hbyte ⊢
  simp only [hbyte, htype, hextension, hsize]
  rw [if_neg]
  · have hposition : (if obu.extension.isSome = true then before.length + 1 + 1
        else before.length + 1) =
        (before ++ obuHeaderByte obu.obuType obu.extension.isSome obu.size.isSome ::
          obu.extension.toList).length := by
      cases obu.extension <;> simp
    rw [hposition, hread, Option.bind_some]
    simp only [List.length_append, List.length_cons]
    rw [if_neg (by omega)]
    simp only [Option.some.injEq, ObuHeader.mk.injEq, true_and]
    omega
  · rintro ⟨hsome, hend⟩
    obtain ⟨byte, hbyte⟩ := Option.isSome_iff_exists.mp hsome
    simp only [hbyte, Option.toList_some, List.length_append, List.length_cons,
      List.length_nil] at hend
    omega

theorem Obu.headerBytes_le (obu : Obu) :
    0 < obu.headerBytes.length ∧ obu.headerBytes.length ≤ obu.bytes.length := by
  unfold Obu.bytes Obu.headerBytes
  rw [List.length_append, List.length_cons]
  omega

@[simp] theorem obuBytes_append (first second : List Obu) :
    obuBytes (first ++ second) = obuBytes first ++ obuBytes second :=
  List.flatMap_append

@[simp] theorem obuBytes_cons (obu : Obu) (obus : List Obu) :
    obuBytes (obu :: obus) = obu.bytes ++ obuBytes obus :=
  List.flatMap_cons

theorem length_le_obuBytes (obus : List Obu) : obus.length ≤ (obuBytes obus).length := by
  induction obus with
  | nil => exact Nat.le_refl _
  | cons obu obus ih =>
      have hbytes := obu.headerBytes_le
      rw [obuBytes_cons, List.length_append, List.length_cons]
      omega

/-- A unit of a sequence is read where it begins. -/
theorem WellFormed.readObuHeader {before after : List Obu} {obu : Obu}
    (hwell : WellFormed (before ++ obu :: after)) :
    readObuHeader (obuBytes (before ++ obu :: after)) (obuBytes before).length =
      some ⟨obu.obuType, (obuBytes before).length + obu.headerBytes.length,
        (obuBytes before).length + obu.bytes.length⟩ := by
  rw [obuBytes_append, obuBytes_cons]
  apply readObuHeader_bytes
  intro hopen
  rw [hwell before obu after rfl hopen]
  rfl

/-- Where the last unit that was passed begins. -/
def lastObuStart (obus : List Obu) : Nat :=
  (obuBytes obus.dropLast).length

/-- The type of the last unit that was passed. -/
def lastObuType (obus : List Obu) : Nat :=
  (obus.getLast?.map fun obu => obu.obuType.val).getD 0

/-- The scan passes the units that end before the tile, one in every round, and remembers
the last of them. -/
theorem findObuStart_passed {tileOffset : Nat} (before : List Obu) :
    ∀ {after : List Obu} (rounds : Nat), WellFormed (before ++ after) → after ≠ [] →
      (obuBytes before).length ≤ tileOffset →
      findObuStart (obuBytes (before ++ after)) tileOffset (before.length + rounds) 0 0 0 =
        findObuStart (obuBytes (before ++ after)) tileOffset rounds (obuBytes before).length
          (lastObuStart before) (lastObuType before) := by
  induction before using List.reverseRecOn with
  | nil =>
      intro after rounds _ _ _
      rw [List.length_nil, Nat.zero_add]
      rfl
  | append_singleton before obu ih =>
      intro after rounds hwell hafter hoffset
      have hsplit : before ++ [obu] ++ after = before ++ obu :: after := by
        rw [List.append_assoc, List.singleton_append]
      have hlength : (obuBytes (before ++ [obu])).length =
          (obuBytes before).length + obu.bytes.length := by
        simp [obuBytes]
      rw [hsplit] at hwell ⊢
      rw [hlength] at hoffset
      have hbytes := obu.headerBytes_le
      have hinside : (obuBytes before).length < (obuBytes (before ++ obu :: after)).length := by
        rw [obuBytes_append, obuBytes_cons, List.length_append, List.length_append]
        omega
      -- The units before this one are passed with one round left over.
      have hpassed := ih (rounds + 1) hwell (List.cons_ne_nil _ _) (by omega)
      have hrounds : (before ++ [obu]).length + rounds = before.length + (rounds + 1) := by
        rw [List.length_append, List.length_singleton]
        omega
      rw [hrounds, hpassed]
      conv_lhs => unfold findObuStart
      rw [if_pos hinside, hwell.readObuHeader]
      simp only
      rw [if_neg (by omega), hlength]
      simp [lastObuStart, lastObuType]

/-- The scan stops at the unit that holds the tile, or at a frame header right before it. -/
theorem av1FindObuStartForTile_eq {tileOffset : Nat} {before after : List Obu} {obu : Obu}
    (hwell : WellFormed (before ++ obu :: after))
    (hstart : (obuBytes before).length + obu.headerBytes.length ≤ tileOffset)
    (hend : tileOffset < (obuBytes before).length + obu.bytes.length) :
    av1FindObuStartForTile (obuBytes (before ++ obu :: after)) tileOffset =
      if obu.obuType.val = 4 ∧ lastObuType before = 3 then lastObuStart before
      else (obuBytes before).length := by
  have hbytes := obu.headerBytes_le
  have hcount := length_le_obuBytes before
  have hinside : (obuBytes before).length < (obuBytes (before ++ obu :: after)).length := by
    rw [obuBytes_append, obuBytes_cons, List.length_append, List.length_append]
    omega
  obtain ⟨rounds, hrounds⟩ : ∃ rounds,
      (obuBytes (before ++ obu :: after)).length = before.length + (rounds + 1) :=
    ⟨(obuBytes (before ++ obu :: after)).length - before.length - 1, by omega⟩
  have hbefore : (obuBytes before).length ≤ tileOffset := by omega
  have hpassed := findObuStart_passed before (rounds + 1) hwell (List.cons_ne_nil _ _) hbefore
  unfold av1FindObuStartForTile
  rw [hrounds, hpassed]
  unfold findObuStart
  rw [if_pos hinside, hwell.readObuHeader]
  simp only
  rw [if_pos ⟨hstart, hend⟩]

/-! ## Frames -/

/-- The units of a frame up to its first tiles: one unit with the header and the tiles, or a
frame header, other units and a tile group. -/
inductive FrameObus
  | whole (frame : Obu)
  | parted (frameHeader : Obu) (between : List Obu) (tileGroup : Obu)

namespace FrameObus

/-- The units before the one with the tiles. -/
def head : FrameObus → List Obu
  | whole _ => []
  | parted frameHeader between _ => frameHeader :: between

/-- The units between the header and the tiles. -/
def between : FrameObus → List Obu
  | whole _ => []
  | parted _ between _ => between

/-- The unit with the tiles. -/
def tiles : FrameObus → Obu
  | whole frame => frame
  | parted _ _ tileGroup => tileGroup

/-- The types of the units.  No unit in between has a frame header of its own (3 and 6) or
tiles (4 and 6); redundant frame headers (7), metadata (5) and padding (15) may stand
there. -/
def Typed : FrameObus → Prop
  | whole frame => frame.obuType = 6
  | parted frameHeader between tileGroup =>
    frameHeader.obuType = 3 ∧ tileGroup.obuType = 4 ∧
      ∀ obu ∈ between, obu.obuType ≠ 3 ∧ obu.obuType ≠ 4 ∧ obu.obuType ≠ 6

end FrameObus

/-- The tile lies in the payload of the first unit of a frame that has tiles. -/
structure TileInFrame (before : List Obu) (frame : FrameObus) (after : List Obu)
    (tileOffset : Nat) : Prop where
  typed : frame.Typed
  wellFormed : WellFormed (before ++ frame.head ++ frame.tiles :: after)
  start : (obuBytes (before ++ frame.head)).length + frame.tiles.headerBytes.length ≤ tileOffset
  stop : tileOffset < (obuBytes (before ++ frame.head)).length + frame.tiles.bytes.length

theorem lastObuType_append (before : List Obu) {obus : List Obu} (hobus : obus ≠ []) :
    lastObuType (before ++ obus) = (obus.getLast hobus).obuType.val := by
  unfold lastObuType
  rw [List.getLast?_append_of_ne_nil _ hobus, List.getLast?_eq_some_getLast hobus]
  rfl

/-- A frame header right before the tile group is where the scan starts. -/
theorem lastObuStart_append_singleton (before : List Obu) (obu : Obu) :
    lastObuStart (before ++ [obu]) = (obuBytes before).length := by
  rw [lastObuStart, List.dropLast_concat]

/-- The start does not lie behind the frame header if and only if no unit stands in
between. -/
theorem TileInFrame.start_le_iff {before after : List Obu} {frame : FrameObus}
    {tileOffset : Nat} (htile : TileInFrame before frame after tileOffset) :
    av1FindObuStartForTile (obuBytes (before ++ frame.head ++ frame.tiles :: after)) tileOffset ≤
      (obuBytes before).length ↔ frame.between = [] := by
  rw [av1FindObuStartForTile_eq htile.wellFormed htile.start htile.stop]
  have htyped := htile.typed
  cases frame with
  | whole obu =>
      have htype : obu.obuType = 6 := htyped
      show (if obu.obuType.val = 4 ∧ lastObuType (before ++ []) = 3 then
        lastObuStart (before ++ []) else (obuBytes (before ++ [])).length) ≤ _ ↔ [] = []
      rw [htype, if_neg (by simp), List.append_nil]
      exact iff_of_true (Nat.le_refl _) rfl
  | parted frameHeader between tileGroup =>
      obtain ⟨hheader, hgroup, hbetween⟩ := htyped
      show (if tileGroup.obuType.val = 4 ∧
          lastObuType (before ++ frameHeader :: between) = 3 then
        lastObuStart (before ++ frameHeader :: between)
        else (obuBytes (before ++ frameHeader :: between)).length) ≤ _ ↔ between = []
      rw [lastObuType_append before (List.cons_ne_nil _ _), hgroup]
      cases hunits : between with
      | nil =>
          rw [if_pos ⟨rfl, congrArg Fin.val hheader⟩, lastObuStart_append_singleton]
          exact iff_of_true (Nat.le_refl _) rfl
      | cons obu units =>
          have hne : obu :: units ≠ [] := List.cons_ne_nil _ _
          have hlast := hbetween ((obu :: units).getLast hne) (hunits ▸ List.getLast_mem hne)
          have hbytes := frameHeader.headerBytes_le
          rw [List.getLast_cons hne, if_neg]
          · refine iff_of_false ?_ hne
            rw [obuBytes_append, obuBytes_cons, List.length_append, List.length_append]
            omega
          · rintro ⟨-, hthree⟩
            exact hlast.1 (Fin.ext hthree)

/-- On every string the scan ends, reads inside it and returns a bound between units that
does not lie behind the tile; and its start does not lie behind the frame header of a tile
in a sequence of units if and only if no unit stands between that header and the tile
group. -/
theorem av1FindObuStartForTile_spec_iff (buf : List UInt8) (tileOffset : Nat)
    (before : List Obu) (frame : FrameObus) (after : List Obu) :
    (checkedFindObuStart buf tileOffset buf.length 0 0 0 =
        some (av1FindObuStartForTile buf tileOffset) ∧
      ObuBoundary buf (av1FindObuStartForTile buf tileOffset) ∧
      av1FindObuStartForTile buf tileOffset ≤ tileOffset) ∧
    (TileInFrame before frame after tileOffset →
      (av1FindObuStartForTile (obuBytes (before ++ frame.head ++ frame.tiles :: after))
        tileOffset ≤ (obuBytes before).length ↔ frame.between = [])) := by
  constructor
  · refine ⟨checkedFindObuStart_eq 0 0 (by omega), ?_, av1FindObuStartForTile_le buf tileOffset⟩
    exact findObuStart_boundary 0 .start .start
  · intro htile
    exact htile.start_le_iff

/-- A unit with a payload of one byte. -/
def smallObu (obuType : Fin 16) : Obu where
  obuType := obuType
  extension := none
  size := some [1]
  payload := [0]
  sized := by
    rintro groups ⟨⟩
    decide

/-- Small units have their sizes. -/
theorem wellFormed_small {obus : List Obu} (hsmall : ∀ obu ∈ obus, obu.size = some [1]) :
    WellFormed obus := by
  rintro before obu after rfl hopen
  rw [hsmall obu (by simp)] at hopen
  cases hopen

/-- A frame header and its tile group, with the tile behind the header. -/
theorem tileInFrame_adjacent :
    TileInFrame [smallObu 2] (.parted (smallObu 3) [] (smallObu 4)) [] 8 where
  typed := ⟨rfl, rfl, by simp⟩
  wellFormed := wellFormed_small (by simp [FrameObus.head, FrameObus.tiles, smallObu])
  start := by decide
  stop := by decide

/-- The scan starts at the frame header right before the tile group. -/
theorem av1FindObuStartForTile_adjacent :
    av1FindObuStartForTile (obuBytes [smallObu 2, smallObu 3, smallObu 4]) 8 ≤ 3 :=
  ((av1FindObuStartForTile_spec_iff [] 8 _ _ _).2 tileInFrame_adjacent).mpr rfl

/-- A frame header, a padding unit and a tile group. -/
def paddedFrame : FrameObus :=
  .parted (smallObu 3) [smallObu 15] (smallObu 4)

/-- Behind a temporal delimiter, the scan for a tile of the padded frame starts behind the
frame header. -/
theorem av1FindObuStartForTile_padded :
    ¬∀ (before : List Obu) (frame : FrameObus) (after : List Obu) (tileOffset : Nat),
      TileInFrame before frame after tileOffset →
      av1FindObuStartForTile (obuBytes (before ++ frame.head ++ frame.tiles :: after))
        tileOffset ≤ (obuBytes before).length := by
  intro hclaim
  have hstart := hclaim [smallObu 2] paddedFrame [] 11
    { typed := ⟨rfl, rfl, by simp [smallObu]⟩
      wellFormed := wellFormed_small
        (by simp [paddedFrame, FrameObus.head, FrameObus.tiles, smallObu])
      start := by decide
      stop := by decide }
  exact absurd hstart (by decide)

end Av1
end NvidiaVaapi
