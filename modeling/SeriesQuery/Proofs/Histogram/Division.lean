import SeriesQuery.Proofs.Binary64.Operations
import SeriesQuery.Proofs.Histogram.Buckets
import SeriesQuery.Proofs.Series.Entries

/-!
# Division inside a bucket

A value is interpolated by the share of a bucket that lies below its rank. In double precision the
bucket is empty only if it is the first one and the rank is zero, and then the share is no number.
Otherwise a number is lost only if the bounds of the bucket are further apart than any number.
-/

namespace SeriesQuery

open Numeric

namespace Histogram

section Groups

variable {α : Type} [SampleValue α]

def bucketsOf (g : Metric) (series : List (Metric × α)) : List (Bucket α) :=
  series.filterMap fun e =>
    if groupOf e.1 = g then (upperBound? e.1).map fun upperBound => ⟨upperBound, e.2⟩ else none

theorem get?_addBucket (groups : SeriesMap (List (Bucket α))) (m : Metric) (count : α)
    (g : Metric) : ((addBucket groups m count).get? g).getD [] =
      (groups.get? g).getD [] ++ bucketsOf g [(m, count)] := by
  unfold addBucket bucketsOf
  cases hbound : upperBound? (α := α) m with
  | none => simp [hbound]
  | some upperBound =>
    rw [SortedMap.get?_alter]
    by_cases hg : groupOf m = g
    · subst hg
      simp [hbound]
    · simp [hg, Ne.symm hg]

theorem get?_foldl_addBucket (groups : SeriesMap (List (Bucket α))) (series : List (Metric × α))
    (g : Metric) : ((series.foldl (fun groups e => addBucket groups e.1 e.2) groups).get? g).getD
      [] = (groups.get? g).getD [] ++ bucketsOf g series := by
  induction series generalizing groups with
  | nil => simp [bucketsOf]
  | cons e rest ih =>
    have hcons : bucketsOf g (e :: rest) = bucketsOf g [e] ++ bucketsOf g rest :=
      List.filterMap_append (l := [e])
    rw [List.foldl_cons, ih, get?_addBucket, List.append_assoc, ← hcons]

theorem get?_quantile {q : α} {series : SeriesMap α} {g : Metric}
    (h : bucketsOf g series.toList ≠ []) :
    (quantile q series).get? g = some (bucketQuantile q (bucketsOf g series.toList)) := by
  have hbuckets := get?_foldl_addBucket .empty series.toList g
  unfold quantile
  rw [SortedMap.get?_mapValues]
  rw [SortedMap.get?_empty, Option.getD_none, List.nil_append] at hbuckets
  rw [← hbuckets] at h ⊢
  cases hget : (series.toList.foldl (fun groups e => addBucket groups e.1 e.2) .empty).get? g with
  | none => simp [hget] at h
  | some buckets => rfl

end Groups

def divisor {α : Type} [Numeric α] (below : Option (Bucket α)) (b : Bucket α) : α :=
  match below with
  | none => b.count
  | some below => b.count - below.count

section Shares

variable {rank : Binary64} {below b : Bucket Binary64}

/-- The share of the first bucket is lost if and only if the bucket is empty. -/
theorem isNaN_interpolate_first (hbound : b.upperBound.Finite) (hcount : b.count.Finite)
    (hrank : 0 ≤ rank.key) (hle : rank.key ≤ b.count.key) :
    isNaN (interpolate none b rank) = b.count.isZero := by
  have hwidth : (b.upperBound.sub .zero).Finite := by
    rwa [Binary64.Finite, Binary64.magnitude_sub_zero hbound]
  have hrankFinite := Binary64.finite_of_key_le hrank hcount hle
  have hmagnitude : rank.magnitude ≤ b.count.magnitude := by
    have hbelow := Binary64.key_eq_magnitude hrank
    have habove := b.count.key_le_magnitude
    omega
  change (Binary64.add .zero (.mul (.sub b.upperBound .zero) (.div rank b.count))).isNaN = _
  rw [Binary64.isNaN_add Binary64.finite_zero]
  cases hempty : b.count.isZero with
  | true =>
    have hrankZero : rank.isZero = true := by
      refine decide_eq_true ?_
      have hcountZero : b.count.magnitude = 0 := of_decide_eq_true hempty
      omega
    exact Binary64.isNaN_mul_right hwidth.isNaN (Binary64.isNaN_div_zero hrankZero hempty)
  | false =>
    have hshare := Binary64.finite_div hrankFinite hcount hempty hmagnitude
    exact Binary64.isNaN_mul_of_finite hwidth hshare

/-- The share of a later bucket is a number, which is lost if and only if an infinite width is
multiplied by a share of zero. -/
theorem isNaN_interpolate_inner (hlow : below.upperBound.Finite) (hbound : b.upperBound.Finite)
    (hcount : below.count.Finite) (hcount' : b.count.Finite) (hnonneg : 0 ≤ below.count.key)
    (hlt : below.count.key < rank.key) (hle : rank.key ≤ b.count.key) :
    (b.count.sub below.count).isZero = false ∧ isNaN (interpolate (some below) b rank) =
      ((b.upperBound.sub below.upperBound).isInfinite &&
        ((rank.sub below.count).div (b.count.sub below.count)).isZero) := by
  have hrank := Binary64.finite_of_key_le (hnonneg.trans hlt.le) hcount' hle
  have hnonnegValue := Binary64.value_nonneg hcount hnonneg
  have hltValue := (Binary64.key_lt_iff hcount hrank).1 hlt
  have hleValue := (Binary64.key_le_iff hrank hcount').1 hle
  have hoffset := Binary64.finite_sub hrank hcount hnonnegValue hltValue.le
  have hdivisor := Binary64.finite_sub hcount' hcount hnonnegValue (hltValue.le.trans hleValue)
  have hpositive := Binary64.magnitude_sub_pos hcount' hcount (hltValue.trans_le hleValue)
  have hnonzero : (b.count.sub below.count).isZero = false := decide_eq_false hpositive.ne'
  have hshare := Binary64.finite_div hoffset hdivisor hnonzero
    (Binary64.magnitude_sub_mono hrank hcount hcount' hltValue.le hleValue)
  have hwidth := Binary64.isNaN_sub hbound hlow
  refine ⟨hnonzero, ?_⟩
  change (Binary64.add below.upperBound (.mul (.sub b.upperBound below.upperBound)
    (.div (.sub rank below.count) (.sub b.count below.count)))).isNaN = _
  rw [Binary64.isNaN_add hlow, Binary64.isNaN_mul_finite_right hwidth hshare]

end Shares

/-- The value at the rank is interpolated in a bucket, above the one below it. -/
def Interpolates (buckets : List (Bucket Binary64)) (q : Binary64)
    (below : Option (Bucket Binary64)) (b : Bucket Binary64) (rank : Binary64) : Prop :=
  ∃ lower last, cumulative buckets = lower ++ [last] ∧ rank = q * last.count ∧
    interpolation? (lower ++ [last]) q = some (below, b)

/-- The first bucket reaches above zero but is empty, and the rank is zero. -/
def EmptyStart (buckets : List (Bucket Binary64)) (q : Binary64) : Prop :=
  ∃ first rest last, cumulative buckets = first :: rest ++ [last] ∧
    lt zero first.upperBound = true ∧ eq first.count zero = true ∧
    eq (q * last.count) zero = true

/-- The rank falls between two bounds that are further apart than any number, at a share of their
bucket that is too small for a number. -/
def LostShare (buckets : List (Bucket Binary64)) (q : Binary64) : Prop :=
  ∃ below b rank, Interpolates buckets q (some below) b rank ∧
    isInfinite (b.upperBound - below.upperBound) = true ∧
    eq ((rank - below.count) / (b.count - below.count)) zero = true

section Lost

open Binary64 (key)

variable {lower : List (Bucket Binary64)} {last : Bucket Binary64} {rank v : Binary64}
  {place : Option (Option (Bucket Binary64) × Bucket Binary64)}

theorem Ladder.count_nonneg (h : Ladder key lower last) {b : Bucket Binary64} (hb : b ∈ lower) :
    b.count.Finite ∧ 0 ≤ b.count.key := by
  obtain ⟨hfinite, hnonneg⟩ := h.count b (List.mem_append_left _ hb)
  exact ⟨Binary64.numeric_isFinite.1 hfinite, hnonneg⟩

theorem Landing.isNaN_iff (h : Landing key lower rank place v) (hladder : Ladder key lower last)
    (hrank : 0 ≤ rank.key) :
    (∀ below b, place = some (below, b) → v = interpolate below b rank ∧
      ((divisor below b).isZero = true ↔ ∃ b, place = some (none, b) ∧ b.count.isZero = true)) ∧
    (v.isNaN = true ↔ (∃ b, place = some (none, b) ∧ b.count.isZero = true) ∨
      ∃ below b, place = some (some below, b) ∧
        (b.upperBound - below.upperBound).isInfinite = true ∧
        ((rank - below.count) / (b.count - below.count)).isZero = true) := by
  have hbound {b : Bucket Binary64} (hb : b ∈ lower) : b.upperBound.Finite :=
    Binary64.numeric_isFinite.1 (hladder.bound b hb)
  cases h with
  | @beyond b hlast _ =>
    have hnumber := (hbound (List.mem_of_getLast? hlast)).isNaN
    exact ⟨nofun, by simp [hnumber]⟩
  | @bottom b _ hlower _ _ =>
    have hnumber := (hbound (b := b) (by simp [hlower])).isNaN
    exact ⟨nofun, by simp [hnumber]⟩
  | @first b _ hlower hle _ =>
    have hmem : b ∈ lower := by simp [hlower]
    have hnan := isNaN_interpolate_first (hbound hmem) (hladder.count_nonneg hmem).1 hrank hle
    refine ⟨fun below b' hplace => ?_, ?_⟩
    · cases hplace
      exact ⟨rfl, by simp [divisor]⟩
    · rw [show Binary64.isNaN _ = _ from hnan]
      simp
  | @inner _ _ below b hlower hlt hle =>
    have hmem : b ∈ lower := by simp [hlower]
    have hmem' : below ∈ lower := by simp [hlower]
    obtain ⟨hcount, hnonneg⟩ := hladder.count_nonneg hmem'
    obtain ⟨hdivisor, hnan⟩ := isNaN_interpolate_inner (hbound hmem') (hbound hmem) hcount
      (hladder.count_nonneg hmem).1 hnonneg hlt hle
    refine ⟨fun below b' hplace => ?_, ?_⟩
    · cases hplace
      exact ⟨rfl, by simp [divisor, show Binary64.isZero (_ - _) = false from hdivisor]⟩
    · rw [show Binary64.isNaN _ = _ from hnan, Bool.and_eq_true]
      constructor
      · exact fun hshare => .inr ⟨below, b, rfl, hshare⟩
      · rintro (⟨_, hplace, _⟩ | ⟨_, _, hplace, hshare⟩)
        · cases hplace
        · cases hplace
          exact hshare

theorem Landing.emptyStart_iff (h : Landing key lower rank place v)
    (hladder : Ladder key lower last) (hrank : 0 ≤ rank.key) :
    (∃ b, place = some (none, b) ∧ b.count.isZero = true) ↔
      ∃ first rest, lower = first :: rest ∧ 0 < first.upperBound.key ∧
        first.count.isZero = true ∧ rank.isZero = true := by
  simp only [Binary64.isZero_iff]
  constructor
  · rintro ⟨b, rfl, hempty⟩
    cases h with
    | @first _ rest hlower hle hpositive =>
      exact ⟨b, rest, hlower, hpositive, hempty, by omega⟩
  · rintro ⟨first, rest, hlower, hpositive, hempty, hzero⟩
    cases h with
    | beyond _ hall =>
      have hbelow := hall first (by simp [hlower])
      omega
    | bottom hlower' _ hbottom =>
      obtain ⟨rfl, rfl⟩ := List.cons.inj (hlower.symm.trans hlower')
      exact absurd hpositive (not_lt.2 hbottom)
    | first hlower' _ _ =>
      obtain ⟨rfl, rfl⟩ := List.cons.inj (hlower.symm.trans hlower')
      exact ⟨first, rfl, hempty⟩
    | @inner _ _ below _ hlower' hbelow _ =>
      have hnonneg := (hladder.count_nonneg (b := below) (by simp [hlower'])).2
      omega

theorem interpolates_iff {buckets : List (Bucket Binary64)} {q : Binary64}
    (h : cumulative buckets = lower ++ [last]) {below : Option (Bucket Binary64)}
    {b : Bucket Binary64} : Interpolates buckets q below b rank ↔
      rank = q * last.count ∧ interpolation? (lower ++ [last]) q = some (below, b) := by
  constructor
  · rintro ⟨lower', last', h', hrank, hplace⟩
    obtain ⟨rfl, hlast⟩ := List.append_inj' (h.symm.trans h') rfl
    obtain rfl := List.singleton_inj.1 hlast
    exact ⟨hrank, hplace⟩
  · rintro ⟨hrank, hplace⟩
    exact ⟨lower, last, h, hrank, hplace⟩

theorem emptyStart_iff {buckets : List (Bucket Binary64)} {q : Binary64}
    (h : cumulative buckets = lower ++ [last]) (hladder : Ladder key lower last) :
    EmptyStart buckets q ↔ ∃ first rest, lower = first :: rest ∧ 0 < first.upperBound.key ∧
      first.count.isZero = true ∧ (q * last.count).isZero = true := by
  have hpositive {first : Bucket Binary64} {rest : List (Bucket Binary64)}
      (hlower : lower = first :: rest) :
      lt zero first.upperBound = true ↔ 0 < first.upperBound.key := by
    have hfinite := hladder.bound first (hlower ▸ .head _)
    exact Binary64.orderedBy_key.lt_iff (by decide) (isNaN_of_isFinite hfinite)
  unfold EmptyStart
  simp only [Binary64.numeric_isZero]
  constructor
  · rintro ⟨first, rest, last', h', hbound, hrest⟩
    obtain ⟨hlower, hlast⟩ := List.append_inj' (h.symm.trans h') rfl
    obtain rfl := List.singleton_inj.1 hlast
    exact ⟨first, rest, hlower, (hpositive hlower).1 hbound, hrest⟩
  · rintro ⟨first, rest, hlower, hbound, hrest⟩
    exact ⟨first, rest, last, hlower ▸ h, (hpositive hlower).2 hbound, hrest⟩

theorem rank_nonneg {q : Binary64} (hladder : Ladder key lower last) (hzero : 0 ≤ q.key)
    (hone : q.key ≤ Binary64.key one) :
    (q * last.count).isNaN = false ∧ 0 ≤ (q * last.count).key := by
  have hq : q.Finite := Binary64.finite_of_key_le hzero (Binary64.numeric_isFinite.1 rfl) hone
  obtain ⟨hfinite, hnonneg⟩ := hladder.count last (by simp)
  rw [Binary64.numeric_isFinite] at hfinite
  exact ⟨Binary64.isNaN_mul_of_finite hq hfinite,
    Binary64.key_mul_nonneg hq hfinite hzero hnonneg⟩

theorem bucketQuantile_isNaN_iff {buckets : List (Bucket Binary64)} {q : Binary64}
    (h : Observed buckets) (hzero : le zero q = true) (hone : le q one = true) :
    (∀ below b rank, Interpolates buckets q below b rank →
      bucketQuantile q buckets = interpolate below b rank ∧
        (eq (divisor below b) zero = true ↔ EmptyStart buckets q)) ∧
    (isNaN (bucketQuantile q buckets) = true ↔ EmptyStart buckets q ∨ LostShare buckets q) := by
  have horder := Binary64.orderedBy_key
  obtain ⟨lower, last, hcumulative, hladder⟩ := exists_ladder horder h
  have hq : isNaN q = false := by
    change (Binary64.lt _ q || Binary64.eq _ q) = true at hzero
    change q.isNaN = false
    cases hnan : q.isNaN with
    | true => simp [Binary64.lt, Binary64.eq, hnan] at hzero
    | false => rfl
  have hkey : 0 ≤ q.key := (horder.le_iff horder.isNaN_zero hq).1 hzero
  have hkey' : q.key ≤ Binary64.key one := (horder.le_iff hq (by decide)).1 hone
  have hlow : lt q zero = false := Bool.eq_false_iff.2 fun hlt =>
    not_lt.2 hkey ((horder.lt_iff hq horder.isNaN_zero).1 hlt)
  have hhigh : lt one q = false := Bool.eq_false_iff.2 fun hlt =>
    not_lt.2 hkey' ((horder.lt_iff (by decide) hq).1 hlt)
  obtain ⟨hrankNumber, hrank⟩ := rank_nonneg hladder hkey hkey'
  have hlanding := hladder.landing horder hrankNumber
  obtain ⟨hdivides, hlost⟩ := hlanding.isNaN_iff hladder hrank
  have hempty := (emptyStart_iff hcumulative hladder).trans
    (hlanding.emptyStart_iff hladder hrank).symm
  rw [bucketQuantile_eq_valueAtRank h.several hq hlow hhigh, hcumulative]
  simp only [LostShare, interpolates_iff hcumulative, Binary64.numeric_isZero,
    Binary64.numeric_isInfinite, hempty]
  refine ⟨?_, ?_⟩
  · rintro below b rank ⟨rfl, hplace⟩
    exact hdivides below b hplace
  · refine hlost.trans (or_congr_right ⟨?_, ?_⟩)
    · rintro ⟨below, b, hplace, hshare⟩
      exact ⟨below, b, _, ⟨rfl, hplace⟩, hshare⟩
    · rintro ⟨below, b, _, ⟨rfl, hplace⟩, hshare⟩
      exact ⟨below, b, hplace, hshare⟩

/-- In double precision a quantile of a histogram is a number, unless the rank is zero in an empty
first bucket or the width of its bucket is infinite at a share of zero. Only the former divides by
zero. -/
theorem quantile_isNaN_iff (q : Binary64) (series : SeriesMap Binary64) (g : Metric)
    (h : Observed (bucketsOf g series.toList)) (hzero : le zero q = true)
    (hone : le q one = true) :
    (∀ below b rank, Interpolates (bucketsOf g series.toList) q below b rank →
      bucketQuantile q (bucketsOf g series.toList) = interpolate below b rank ∧
        (eq (divisor below b) zero = true ↔ EmptyStart (bucketsOf g series.toList) q)) ∧
    ∃ v, (quantile q series).get? g = some v ∧
      (isNaN v = true ↔ EmptyStart (bucketsOf g series.toList) q ∨
        LostShare (bucketsOf g series.toList) q) := by
  have hbuckets : bucketsOf g series.toList ≠ [] := by
    intro hnil
    have hseveral := h.several
    rw [hnil] at hseveral
    exact absurd hseveral (by decide)
  obtain ⟨hdivisor, hnumber⟩ := bucketQuantile_isNaN_iff h hzero hone
  exact ⟨hdivisor, _, get?_quantile hbuckets, hnumber⟩

def oneToTwo : SeriesMap Binary64 :=
  let bucket (bound : String) : Metric := .ofPairs [(metricName, "lat"), (bucketLabel, bound)]
  .ofList [(bucket "1", zero), (bucket "2", ofInt 10), (bucket "+Inf", ofInt 10)]

theorem cumulative_oneToTwo : cumulative (bucketsOf .empty oneToTwo.toList) =
    [⟨ofInt 1, zero⟩, ⟨ofInt 2, ofInt 10⟩] ++ [⟨infinity, ofInt 10⟩] := by
  have hbuckets : bucketsOf .empty oneToTwo.toList =
      [⟨ofInt 1, zero⟩, ⟨ofInt 2, ofInt 10⟩, ⟨infinity, ofInt 10⟩] := by decide +kernel
  unfold cumulative
  rw [hbuckets, ascending_eq_self (by decide)]
  decide +kernel

theorem observed_oneToTwo : Observed (bucketsOf .empty oneToTwo.toList) where
  several := by decide +kernel
  count := by decide +kernel
  positive := by decide +kernel
  bound := by decide +kernel
  bounded := by decide +kernel

theorem median_of_oneToTwo :
    Observed (bucketsOf .empty oneToTwo.toList) ∧ le zero (one / ofInt 2 : Binary64) = true ∧
    le (one / ofInt 2 : Binary64) one = true ∧
    ∃ v, (quantile (one / ofInt 2) oneToTwo).get? .empty = some v ∧ isNaN v = false := by
  have hzero : le zero (one / ofInt 2 : Binary64) = true := by decide +kernel
  have hone : le (one / ofInt 2 : Binary64) one = true := by decide +kernel
  obtain ⟨-, v, hv, hnan⟩ := quantile_isNaN_iff _ _ _ observed_oneToTwo hzero hone
  refine ⟨observed_oneToTwo, hzero, hone, v, hv, Bool.eq_false_iff.2 fun h => ?_⟩
  rcases hnan.1 h with ⟨first, rest, last, hlast, -, -, hrank⟩ |
    ⟨below, b, _, ⟨lower, last, hlower, -, hplace⟩, hwidth, -⟩
  · have hsame := List.append_inj' (cumulative_oneToTwo.symm.trans hlast) rfl
    obtain rfl := List.singleton_inj.1 hsame.2
    exact absurd hrank (by decide +kernel)
  · obtain rfl := (List.append_inj' (cumulative_oneToTwo.symm.trans hlower) rfl).1
    have hwidths : ∀ a ∈ [(⟨ofInt 1, zero⟩ : Bucket Binary64), ⟨ofInt 2, ofInt 10⟩],
        ∀ b ∈ [(⟨ofInt 1, zero⟩ : Bucket Binary64), ⟨ofInt 2, ofInt 10⟩],
          isInfinite (b.upperBound - a.upperBound) = false := by decide +kernel
    obtain ⟨hbelow, hb⟩ := mem_of_interpolation? hplace
    rw [hwidths below hbelow b hb] at hwidth
    cases hwidth

/-- At the lowest rank the share of an empty first bucket is no number. -/
theorem lowest_of_oneToTwo :
    Observed (bucketsOf .empty oneToTwo.toList) ∧ le zero (zero : Binary64) = true ∧
    le (zero : Binary64) one = true ∧
    ∃ v, (quantile zero oneToTwo).get? .empty = some v ∧ isNaN v = true := by
  have hbuckets : bucketsOf .empty oneToTwo.toList ≠ [] := by decide +kernel
  have hzero : le zero (zero : Binary64) = true := by decide
  have hone : le (zero : Binary64) one = true := by decide
  have hempty : EmptyStart (bucketsOf .empty oneToTwo.toList) zero :=
    ⟨_, _, _, cumulative_oneToTwo, by decide, by decide, by decide⟩
  obtain ⟨-, hnan⟩ := bucketQuantile_isNaN_iff observed_oneToTwo hzero hone
  exact ⟨observed_oneToTwo, hzero, hone, _, get?_quantile hbuckets, hnan.2 (.inl hempty)⟩

end Lost

end Histogram

end SeriesQuery
