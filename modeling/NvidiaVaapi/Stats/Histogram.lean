import NvidiaVaapi.Lib.NearestRank

/-!
# Timing histograms

`histogramAdd` and `logHistogram` of `stats.c`: samples of 64 bits are counted in 32 buckets of
doubling width, and three percentiles of the samples are read off the counts.
-/

namespace NvidiaVaapi
namespace Stats

/-- `NV_TIMING_BUCKETS`. -/
def nvTimingBuckets : Nat := 32

/-- `NVTimingHistogram`. -/
structure NVTimingHistogram where
  buckets : Vector UInt64 32 := Vector.replicate 32 0
  deriving DecidableEq, Repr

/-- The loop of `histogramAdd` that looks for the bucket, with the number of buckets that are
left behind this one. -/
def bucketFrom (ns : UInt64) : Nat → Nat → UInt64 → Nat
  | 0, bucket, _ => bucket
  | left + 1, bucket, upper =>
    if ns > upper then bucketFrom ns left (bucket + 1) (upper <<< 1) else bucket

/-- The bucket of a sample. -/
def bucketOf (ns : UInt64) : Nat :=
  bucketFrom ns (nvTimingBuckets - 1) 0 1000

/-- `histogramAdd`. -/
def histogramAdd (histogram : NVTimingHistogram) (ns : UInt64) : NVTimingHistogram :=
  let bucket := bucketOf ns
  { buckets := histogram.buckets.setIfInBounds bucket (histogram.buckets.getD bucket 0 + 1) }

/-- The histogram of some samples. -/
def recorded (samples : List UInt64) : NVTimingHistogram :=
  samples.foldl histogramAdd {}

/-- The percentiles that are reported. -/
def percentiles : List UInt64 :=
  [50, 95, 99]

/-- The rank of a percentile. -/
def rankOf (count percentile : UInt64) : UInt64 :=
  (count / 100) * percentile + ((count % 100) * percentile + 99) / 100

/-- The bound that is reported for a bucket. -/
def bucketUpper (bucket : Nat) : UInt64 :=
  if bucket = nvTimingBuckets - 1 then 0xFFFFFFFFFFFFFFFF else 1000 <<< UInt64.ofNat bucket

/-- The loop of `logHistogram` over the buckets from one on, `upper` being zero where it comes
to its end. -/
def upperFrom (rank : UInt64) : List UInt64 → Nat → UInt64 → UInt64
  | [], _, _ => 0
  | bin :: rest, i, cumulative =>
    if cumulative + bin ≥ rank then bucketUpper i
    else upperFrom rank rest (i + 1) (cumulative + bin)

/-- The `count` of `logHistogram`. -/
def countOf (histogram : NVTimingHistogram) : UInt64 :=
  histogram.buckets.toList.foldl (· + ·) 0

/-- The bound that `logHistogram` finds for a percentile. -/
def percentileUpper (histogram : NVTimingHistogram) (percentile : UInt64) : UInt64 :=
  upperFrom (rankOf (countOf histogram) percentile) histogram.buckets.toList 0 0

/-- `logHistogram`: the count and the bounds that it prints; nothing for an empty histogram. -/
def logHistogram (histogram : NVTimingHistogram) : Option (UInt64 × List UInt64) :=
  if countOf histogram = 0 then none
  else some (countOf histogram, percentiles.map (percentileUpper histogram))

/-! ## The buckets -/

/-- The last bound that the loop compares with is that of its bucket, and none of its sums
wraps. -/
theorem bucketFrom_spec (ns : UInt64) (left bucket : Nat) (upper : UInt64)
    (hleft : bucket + left = 31) (hupper : upper.toNat = 1000 * 2 ^ bucket) :
    bucket ≤ bucketFrom ns left bucket upper ∧ bucketFrom ns left bucket upper ≤ 31 ∧
      (bucketFrom ns left bucket upper = bucket ∨
        1000 * 2 ^ (bucketFrom ns left bucket upper - 1) < ns.toNat) ∧
      (bucketFrom ns left bucket upper = 31 ∨
        ns.toNat ≤ 1000 * 2 ^ bucketFrom ns left bucket upper) := by
  induction left generalizing bucket upper with
  | zero =>
      unfold bucketFrom
      exact ⟨Nat.le_refl _, by omega, .inl rfl, .inl (by omega)⟩
  | succ left ih =>
      unfold bucketFrom
      split
      · rename_i habove
        have hdouble : (upper <<< 1).toNat = 1000 * 2 ^ (bucket + 1) := by
          have hsmall : 2 ^ bucket ≤ 2 ^ 30 := Nat.pow_le_pow_right (by omega) (by omega)
          rw [UInt64.toNat_shiftLeft, hupper]
          show (1000 * 2 ^ bucket) <<< 1 % 2 ^ 64 = _
          rw [Nat.shiftLeft_eq, Nat.pow_succ, Nat.mod_eq_of_lt (by omega)]
          omega
        obtain ⟨hle, hlast, hlow, hhigh⟩ := ih (bucket + 1) (upper <<< 1) (by omega) hdouble
        refine ⟨by omega, hlast, .inr ?_, hhigh⟩
        rcases hlow with heq | hlow
        · rw [heq, Nat.add_sub_cancel, ← hupper]
          exact UInt64.lt_iff_toNat_lt.mp habove
        · exact hlow
      · rename_i hbelow
        refine ⟨Nat.le_refl _, by omega, .inl rfl, .inr ?_⟩
        rw [← hupper]
        exact Nat.le_of_not_lt fun habove => hbelow (UInt64.lt_iff_toNat_lt.mpr habove)

/-- The bucket of a sample: its bound is the first that is not below the sample. -/
theorem bucketOf_spec (ns : UInt64) :
    bucketOf ns ≤ 31 ∧
      (bucketOf ns = 0 ∨ 1000 * 2 ^ (bucketOf ns - 1) < ns.toNat) ∧
      (bucketOf ns = 31 ∨ ns.toNat ≤ 1000 * 2 ^ bucketOf ns) := by
  obtain ⟨-, hlast, hlow, hhigh⟩ := bucketFrom_spec ns 31 0 1000 rfl rfl
  exact ⟨hlast, hlow, hhigh⟩

theorem bucketOf_mono {first second : UInt64} (hle : first ≤ second) :
    bucketOf first ≤ bucketOf second := by
  by_contra hmore
  obtain ⟨hlast, hlow, -⟩ := bucketOf_spec first
  obtain ⟨-, -, hhigh⟩ := bucketOf_spec second
  have hpow : 2 ^ bucketOf second ≤ 2 ^ (bucketOf first - 1) :=
    Nat.pow_le_pow_right (by omega) (by omega)
  have hnat := UInt64.le_iff_toNat_le.mp hle
  omega

/-- The bound of a bucket does not wrap. -/
theorem toNat_bucketUpper {bucket : Nat} (hbucket : bucket < 31) :
    (bucketUpper bucket).toNat = 1000 * 2 ^ bucket := by
  have hsmall : 2 ^ bucket ≤ 2 ^ 30 := Nat.pow_le_pow_right (by omega) (by omega)
  have hne : ¬ bucket = nvTimingBuckets - 1 := by
    unfold nvTimingBuckets
    omega
  unfold bucketUpper
  rw [if_neg hne, UInt64.toNat_shiftLeft, UInt64.toNat_ofNat', Nat.shiftLeft_eq]
  show 1000 * 2 ^ (bucket % 2 ^ 64 % 64) % 2 ^ 64 = 1000 * 2 ^ bucket
  rw [Nat.mod_eq_of_lt (show bucket < 2 ^ 64 by omega),
    Nat.mod_eq_of_lt (show bucket < 64 by omega)]
  exact Nat.mod_eq_of_lt (by omega)

theorem bucketUpper_mono {first second : Nat} (hle : first ≤ second) (hlast : second ≤ 31) :
    bucketUpper first ≤ bucketUpper second := by
  rw [UInt64.le_iff_toNat_le]
  rcases Nat.lt_or_eq_of_le hlast with hlt | rfl
  · rw [toNat_bucketUpper hlt, toNat_bucketUpper (by omega)]
    exact Nat.mul_le_mul_left _ (Nat.pow_le_pow_right (by omega) hle)
  · exact Nat.le_sub_one_of_lt (bucketUpper first).toNat_lt

/-! ## The counts -/

section Counts

variable {samples : List UInt64}

theorem countP_lt_size (hfew : samples.length < 2 ^ 64) (p : UInt64 → Bool) :
    samples.countP p < 2 ^ 64 :=
  Nat.lt_of_le_of_lt List.countP_le_length hfew

/-- One sample more. -/
theorem getElem_histogramAdd (histogram : NVTimingHistogram) (ns : UInt64) {i : Nat}
    (hi : i < 32) : (histogramAdd histogram ns).buckets[i] =
      if bucketOf ns = i then histogram.buckets[i] + 1 else histogram.buckets[i] := by
  unfold histogramAdd
  simp only [Vector.getElem_setIfInBounds]
  split
  · rename_i heq
    subst heq
    simp [Vector.getD, hi]
  · rfl

/-- Every bucket counts the samples that were put into it. -/
theorem getElem_foldl_histogramAdd (samples : List UInt64) (histogram : NVTimingHistogram) {i : Nat}
    (hi : i < 32) (hfew : histogram.buckets[i].toNat + samples.length < 2 ^ 64) :
    (samples.foldl histogramAdd histogram).buckets[i].toNat =
      histogram.buckets[i].toNat + samples.countP (fun x => bucketOf x = i) := by
  induction samples generalizing histogram with
  | nil => rfl
  | cons ns rest ih =>
      rw [List.length_cons] at hfew
      have hstep : (histogramAdd histogram ns).buckets[i].toNat =
          histogram.buckets[i].toNat + if bucketOf ns = i then 1 else 0 := by
        rw [getElem_histogramAdd histogram ns hi]
        split
        · rw [UInt64.toNat_add]
          exact Nat.mod_eq_of_lt (by simp; omega)
        · rfl
      rw [List.foldl_cons, ih _ (by rw [hstep]; split <;> omega), hstep, List.countP_cons]
      simp only [decide_eq_true_eq]
      omega

theorem getElem_recorded (hfew : samples.length < 2 ^ 64) {i : Nat} (hi : i < 32) :
    (recorded samples).buckets[i].toNat = samples.countP (fun x => bucketOf x = i) := by
  have hzero : ({} : NVTimingHistogram).buckets[i].toNat = 0 := by simp
  unfold recorded
  rw [getElem_foldl_histogramAdd samples {} hi (by rw [hzero]; omega), hzero, Nat.zero_add]

/-- The bins from a bucket on, as they were counted. -/
def Counted (samples : List UInt64) (bins : List UInt64) (i : Nat) : Prop :=
  ∀ j (hj : j < bins.length), bins[j].toNat = samples.countP (fun x => bucketOf x = i + j)

theorem Counted.tail {bin : UInt64} {bins : List UInt64} {i : Nat}
    (h : Counted samples (bin :: bins) i) : Counted samples bins (i + 1) := by
  intro j hj
  have hbin := h (j + 1) (Nat.succ_lt_succ hj)
  rw [List.getElem_cons_succ] at hbin
  rw [hbin, show i + (j + 1) = i + 1 + j by omega]

/-- A cumulative count, one bucket further. -/
theorem Counted.cumulative {bin : UInt64} {bins : List UInt64} {i : Nat} {cumulative : UInt64}
    (h : Counted samples (bin :: bins) i) (hfew : samples.length < 2 ^ 64)
    (hcumulative : cumulative.toNat = samples.countP (fun x => bucketOf x < i)) :
    (cumulative + bin).toNat = samples.countP (fun x => bucketOf x < i + 1) := by
  have hbin : bin.toNat = samples.countP (fun x => bucketOf x = i) := h 0 (Nat.succ_pos _)
  have hsum := NearestRank.countP_succ bucketOf samples i
  rw [UInt64.toNat_add, hcumulative, hbin, ← hsum]
  exact Nat.mod_eq_of_lt (countP_lt_size hfew _)

theorem Counted.foldl {bins : List UInt64} {i : Nat} {cumulative : UInt64}
    (h : Counted samples bins i) (hfew : samples.length < 2 ^ 64)
    (hcumulative : cumulative.toNat = samples.countP (fun x => bucketOf x < i)) :
    (bins.foldl (· + ·) cumulative).toNat =
      samples.countP (fun x => bucketOf x < i + bins.length) := by
  induction bins generalizing i cumulative with
  | nil => exact hcumulative
  | cons bin rest ih =>
      rw [List.foldl_cons, ih h.tail (h.cumulative hfew hcumulative), List.length_cons]
      rw [show i + 1 + rest.length = i + (rest.length + 1) by omega]

theorem counted_recorded (hfew : samples.length < 2 ^ 64) :
    Counted samples (recorded samples).buckets.toList 0 := by
  intro j hj
  rw [Vector.length_toList] at hj
  rw [Vector.getElem_toList, getElem_recorded hfew hj, Nat.zero_add]

theorem countP_none (samples : List UInt64) :
    (0 : UInt64).toNat = samples.countP (fun x => bucketOf x < 0) := by
  rw [eq_comm]
  exact List.countP_eq_zero.mpr fun x _ => by simp

/-- The count that is reported is the number of samples. -/
theorem toNat_countOf (hfew : samples.length < 2 ^ 64) :
    (countOf (recorded samples)).toNat = samples.length := by
  unfold countOf
  rw [(counted_recorded hfew).foldl hfew (countP_none samples), Vector.length_toList,
    List.countP_eq_length]
  intro x _
  have hlast := (bucketOf_spec x).1
  simp only [decide_eq_true_eq]
  omega

/-- The search stops at the first bucket with which the rank is reached. -/
theorem upperFrom_eq {bins : List UInt64} {i bucket : Nat} {cumulative rank : UInt64}
    (h : Counted samples bins i) (hfew : samples.length < 2 ^ 64)
    (hcumulative : cumulative.toNat = samples.countP (fun x => bucketOf x < i))
    (hreached : ∀ j, rank.toNat ≤ samples.countP (fun x => bucketOf x < j + 1) ↔ bucket ≤ j)
    (hfrom : i ≤ bucket) (hto : bucket < i + bins.length) :
    upperFrom rank bins i cumulative = bucketUpper bucket := by
  induction bins generalizing i cumulative with
  | nil => exact absurd hto (by simpa using hfrom)
  | cons bin rest ih =>
      rw [List.length_cons] at hto
      have hnext := h.cumulative hfew hcumulative
      unfold upperFrom
      split
      · rename_i hstops
        have hle := UInt64.le_iff_toNat_le.mp hstops
        rw [hnext] at hle
        have hat := (hreached i).mp hle
        rw [show i = bucket by omega]
      · rename_i hgoes
        have hnot : ¬ bucket ≤ i := by
          intro hat
          have hle := (hreached i).mpr hat
          rw [← hnext] at hle
          exact hgoes (UInt64.le_iff_toNat_le.mpr hle)
        exact ih h.tail hnext (by omega) (by omega)

end Counts

/-! ## The percentiles -/

/-- The rank is the share of the count, rounded up, and no part of it wraps. -/
theorem toNat_rankOf (count : UInt64) {percentile : UInt64} (hpercentile : percentile.toNat ≤ 100) :
    (rankOf count percentile).toNat = (count.toNat * percentile.toNat + 99) / 100 := by
  have hcount := count.toNat_lt
  have hwhole : count.toNat / 100 * percentile.toNat ≤ count.toNat / 100 * 100 :=
    Nat.mul_le_mul_left _ hpercentile
  have hrest : count.toNat % 100 * percentile.toNat ≤ 99 * 100 :=
    Nat.mul_le_mul (by omega) hpercentile
  have hproduct : count.toNat * percentile.toNat ≤ count.toNat * 100 :=
    Nat.mul_le_mul_left _ hpercentile
  have hsplit : count.toNat * percentile.toNat + 99 =
      (count.toNat % 100 * percentile.toNat + 99) +
        100 * (count.toNat / 100 * percentile.toNat) := by
    have hmod := Nat.mod_add_div count.toNat 100
    calc count.toNat * percentile.toNat + 99
        = (count.toNat % 100 + 100 * (count.toNat / 100)) * percentile.toNat + 99 := by rw [hmod]
      _ = _ := by
        rw [Nat.add_mul, Nat.mul_assoc]
        omega
  unfold rankOf
  rw [hsplit, Nat.add_mul_div_left _ _ (by omega)]
  simp only [UInt64.toNat_add, UInt64.toNat_mul, UInt64.toNat_div, UInt64.toNat_mod,
    UInt64.reduceToNat]
  rw [Nat.mod_eq_of_lt (show count.toNat / 100 * percentile.toNat < 2 ^ 64 by omega),
    Nat.mod_eq_of_lt (show count.toNat % 100 * percentile.toNat < 2 ^ 64 by omega),
    Nat.mod_eq_of_lt (show count.toNat % 100 * percentile.toNat + 99 < 2 ^ 64 by omega),
    Nat.mod_eq_of_lt (by omega)]
  omega

section Percentiles

variable {samples sorted : List UInt64}

/-- The rank of a percentile is that of a sample. -/
theorem rank_bounds (hfew : samples.length < 2 ^ 64) (hne : samples ≠ []) {percentile : UInt64}
    (hpos : 1 ≤ percentile.toNat) (hpercentile : percentile.toNat ≤ 100) :
    1 ≤ (rankOf (countOf (recorded samples)) percentile).toNat ∧
      (rankOf (countOf (recorded samples)) percentile).toNat ≤ samples.length := by
  have hlength : 1 ≤ samples.length := List.length_pos_of_ne_nil hne
  rw [toNat_rankOf _ hpercentile, toNat_countOf hfew]
  have hlow : 1 * 1 ≤ samples.length * percentile.toNat := Nat.mul_le_mul hlength hpos
  have hhigh : samples.length * percentile.toNat ≤ samples.length * 100 :=
    Nat.mul_le_mul_left _ hpercentile
  omega

/-- The bound that is found is that of the bucket of the sample of the rank. -/
theorem percentileUpper_eq (hfew : samples.length < 2 ^ 64) (hperm : sorted.Perm samples)
    (hsorted : sorted.Pairwise (· ≤ ·)) {percentile : UInt64} {k : Nat} (hk : k < sorted.length)
    (hrank : (rankOf (countOf (recorded samples)) percentile).toNat = k + 1) :
    percentileUpper (recorded samples) percentile = bucketUpper (bucketOf sorted[k]) := by
  unfold percentileUpper
  apply upperFrom_eq (counted_recorded hfew) hfew (countP_none samples)
  · intro j
    have hclasses : sorted.Pairwise fun x y => bucketOf x ≤ bucketOf y :=
      hsorted.imp fun hle => bucketOf_mono hle
    rw [hrank, ← NearestRank.le_countP_iff hperm hclasses hk j]
    simp only [Nat.lt_succ_iff]
  · exact Nat.zero_le _
  · have hlast := (bucketOf_spec sorted[k]).1
    rw [Vector.length_toList]
    omega

end Percentiles
/-- The bound of a bucket is not below its samples, and is less than twice each of them, but for
the first and the last bucket. -/
theorem bucketUpper_bounds (ns : UInt64) :
    ns ≤ bucketUpper (bucketOf ns) ∧
      (bucketOf ns ≠ 0 → bucketOf ns ≠ 31 →
        (bucketUpper (bucketOf ns)).toNat < 2 * ns.toNat) := by
  obtain ⟨hlast, hlow, hhigh⟩ := bucketOf_spec ns
  rw [UInt64.le_iff_toNat_le]
  refine ⟨?_, fun hfirst hmiddle => ?_⟩
  · rcases hhigh with heq | hhigh
    · rw [heq]
      exact Nat.le_sub_one_of_lt ns.toNat_lt
    · rcases Nat.lt_or_eq_of_le hlast with hlt | heq
      · rw [toNat_bucketUpper hlt]
        exact hhigh
      · rw [heq]
        exact Nat.le_sub_one_of_lt ns.toNat_lt
  · rw [toNat_bucketUpper (by omega)]
    obtain ⟨n, hn⟩ : ∃ n, bucketOf ns = n + 1 := ⟨bucketOf ns - 1, by omega⟩
    rw [hn, Nat.add_sub_cancel] at hlow
    rw [hn, Nat.pow_succ]
    omega

/-- A percentile that is not smaller has a bound that is not smaller. -/
theorem percentileUpper_mono {samples : List UInt64} (hfew : samples.length < 2 ^ 64)
    (hne : samples ≠ []) {first second : UInt64} (hpos : 1 ≤ first.toNat) (hle : first ≤ second)
    (hsecond : second.toNat ≤ 100) :
    percentileUpper (recorded samples) first ≤ percentileUpper (recorded samples) second := by
  have hnat := UInt64.le_iff_toNat_le.mp hle
  let sorted := samples.mergeSort
  have hperm : sorted.Perm samples := List.mergeSort_perm samples _
  have hsorted : sorted.Pairwise (· ≤ ·) := by
    have hpairs : (samples.mergeSort fun x y => decide (x ≤ y)).Pairwise
        fun x y => decide (x ≤ y) = true := List.pairwise_mergeSort (fun x y z hxy hyz => by
        simp only [decide_eq_true_eq] at hxy hyz ⊢
        exact UInt64.le_trans hxy hyz)
      (fun x y => by
        simp only [Bool.or_eq_true, decide_eq_true_eq]
        exact UInt64.le_total x y) samples
    exact hpairs.imp fun hle => by simpa using hle
  obtain ⟨hlow, hhigh⟩ := rank_bounds hfew hne hpos (Nat.le_trans hnat hsecond)
  obtain ⟨-, hhigh'⟩ := rank_bounds hfew hne (Nat.le_trans hpos hnat) hsecond
  have hranks : (rankOf (countOf (recorded samples)) first).toNat ≤
      (rankOf (countOf (recorded samples)) second).toNat := by
    rw [toNat_rankOf _ (Nat.le_trans hnat hsecond), toNat_rankOf _ hsecond]
    have hmul : (countOf (recorded samples)).toNat * first.toNat ≤
        (countOf (recorded samples)).toNat * second.toNat := Nat.mul_le_mul_left _ hnat
    exact Nat.div_le_div_right (by omega)
  rw [← hperm.length_eq] at hhigh hhigh'
  obtain ⟨i, hi⟩ : ∃ i, (rankOf (countOf (recorded samples)) first).toNat = i + 1 :=
    ⟨_, (Nat.sub_add_cancel hlow).symm⟩
  obtain ⟨j, hj⟩ : ∃ j, (rankOf (countOf (recorded samples)) second).toNat = j + 1 :=
    ⟨_, (Nat.sub_add_cancel (Nat.le_trans hlow hranks)).symm⟩
  rw [percentileUpper_eq hfew hperm hsorted (show i < sorted.length by omega) hi,
    percentileUpper_eq hfew hperm hsorted (show j < sorted.length by omega) hj]
  apply bucketUpper_mono
  · rcases Nat.lt_or_eq_of_le (show i ≤ j by omega) with hlt | rfl
    · exact bucketOf_mono (List.pairwise_iff_getElem.mp hsorted i j (by omega) (by omega) hlt)
    · exact Nat.le_refl _
  · exact (bucketOf_spec _).1

/-- The percentiles are 50, 95 and 99. -/
theorem percentile_bounds {percentile : UInt64} (hmem : percentile ∈ percentiles) :
    1 ≤ percentile.toNat ∧ percentile.toNat ≤ 100 := by
  unfold percentiles at hmem
  simp only [List.mem_cons, List.not_mem_nil, or_false] at hmem
  rcases hmem with rfl | rfl | rfl <;> decide

/-- For all samples that can be counted, what is reported for a percentile is the bound of the
bucket of the nearest-rank sample: not below the sample, less than twice it but in the first
and the last bucket, and not falling from one percentile to the next.  The rank and the bound
are the exact ones. -/
theorem logHistogram_nearestRank {samples : List UInt64} (hfew : samples.length < 2 ^ 64) :
    (samples = [] → logHistogram (recorded samples) = none) ∧
    (samples ≠ [] → logHistogram (recorded samples) = some (UInt64.ofNat samples.length,
      percentiles.map (percentileUpper (recorded samples)))) ∧
    (∀ sorted : List UInt64, sorted.Perm samples → sorted.Pairwise (· ≤ ·) → samples ≠ [] →
      ∀ percentile ∈ percentiles, ∃ k, ∃ hk : k < sorted.length,
        k + 1 = (samples.length * percentile.toNat + 99) / 100 ∧
        (rankOf (countOf (recorded samples)) percentile).toNat = k + 1 ∧
        percentileUpper (recorded samples) percentile = bucketUpper (bucketOf sorted[k]) ∧
        (bucketOf sorted[k] < 31 →
          (bucketUpper (bucketOf sorted[k])).toNat = 1000 * 2 ^ bucketOf sorted[k]) ∧
        sorted[k] ≤ percentileUpper (recorded samples) percentile ∧
        (bucketOf sorted[k] ≠ 0 → bucketOf sorted[k] ≠ 31 →
          (percentileUpper (recorded samples) percentile).toNat < 2 * sorted[k].toNat)) ∧
    (samples ≠ [] → ∀ first ∈ percentiles, ∀ second ∈ percentiles, first ≤ second →
      percentileUpper (recorded samples) first ≤ percentileUpper (recorded samples) second) := by
  have hcount := toNat_countOf hfew
  refine ⟨fun hempty => ?_, fun hne => ?_, fun sorted hperm hsorted hne percentile hmem => ?_,
    fun hne first hfirst second hsecond hle => ?_⟩
  · subst hempty
    have hzero : countOf (recorded []) = 0 := UInt64.toNat_inj.mp hcount
    unfold logHistogram
    rw [if_pos hzero]
  · have hlength : 1 ≤ samples.length := List.length_pos_of_ne_nil hne
    have hexact : countOf (recorded samples) = UInt64.ofNat samples.length := by
      rw [← hcount, UInt64.ofNat_toNat]
    have hsome : ¬ countOf (recorded samples) = 0 := by
      intro hzero
      rw [hzero] at hcount
      exact absurd hcount (Nat.ne_of_lt hlength)
    unfold logHistogram
    rw [if_neg hsome, hexact]
  · obtain ⟨hpos, hpercentile⟩ := percentile_bounds hmem
    obtain ⟨hlow, hhigh⟩ := rank_bounds hfew hne hpos hpercentile
    rw [← hperm.length_eq] at hhigh
    obtain ⟨k, hk⟩ : ∃ k, (rankOf (countOf (recorded samples)) percentile).toNat = k + 1 :=
      ⟨_, (Nat.sub_add_cancel hlow).symm⟩
    have hin : k < sorted.length := by omega
    have hupper := percentileUpper_eq hfew hperm hsorted hin hk
    obtain ⟨hle, htwice⟩ := bucketUpper_bounds sorted[k]
    refine ⟨k, hin, ?_, hk, hupper, toNat_bucketUpper, ?_, ?_⟩
    · rw [← hk, toNat_rankOf _ hpercentile, hcount]
    · rw [hupper]
      exact hle
    · rw [hupper]
      exact htwice
  · exact percentileUpper_mono hfew hne (percentile_bounds hfirst).1 hle
      (percentile_bounds hsecond).2

/-- The samples of 0, 1000, 1001 and the largest one. -/
theorem logHistogram_nearestRank_four :
    ∃ k, ∃ hk : k < [0, 1000, 1001, 0xFFFFFFFFFFFFFFFF].length,
      k + 1 = (4 * 95 + 99) / 100 ∧
      percentileUpper (recorded [0, 1000, 1001, 0xFFFFFFFFFFFFFFFF]) 95 =
        bucketUpper (bucketOf [0, 1000, 1001, 0xFFFFFFFFFFFFFFFF][k]) := by
  have hfew : ([0, 1000, 1001, 0xFFFFFFFFFFFFFFFF] : List UInt64).length < 2 ^ 64 := by decide
  obtain ⟨k, hk, hrank, -, hupper, -⟩ := (logHistogram_nearestRank hfew).2.2.1
    [0, 1000, 1001, 0xFFFFFFFFFFFFFFFF] (List.Perm.refl _) (by decide) (by decide) 95 (by decide)
  exact ⟨k, hk, hrank, hupper⟩

end Stats
end NvidiaVaapi
