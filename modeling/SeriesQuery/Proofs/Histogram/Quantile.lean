import Mathlib.Tactic.Linarith
import SeriesQuery.Proofs.Histogram.Buckets

/-!
# Quantiles of a histogram

In exact numbers the quantile of a histogram follows a line from bucket to bucket. Inside a bucket
it rises from the bound below to the bound of the bucket, so over all ranks it never falls and
stays between the first bound, or zero, and the bound before the last one.
-/

namespace SeriesQuery

open Numeric Histogram

namespace Exact

def value : Exact → ℚ
  | finite q => q
  | _ => 0

theorem finite_value {x : Exact} (h : isFinite x = true) : finite x.value = x := by
  obtain ⟨q, rfl⟩ := eq_finite_of_isFinite h
  rfl

end Exact

namespace Histogram

/-- The first bucket is taken to start here. -/
def origin : Bucket ℚ := ⟨0, 0⟩

/-- The line on which the bound of one bucket is at its count and so is that of another one. -/
def line (low high : Bucket ℚ) (r : ℚ) : ℚ :=
  low.upperBound + (high.upperBound - low.upperBound) *
    ((r - low.count) / (high.count - low.count))

section Line

variable {low high : Bucket ℚ} {r r' : ℚ}

theorem line_mono (hbound : low.upperBound ≤ high.upperBound) (hcount : low.count < high.count)
    (h : r ≤ r') : line low high r ≤ line low high r' := by
  unfold line
  have hwidth : 0 ≤ high.upperBound - low.upperBound := sub_nonneg.2 hbound
  have hshare : (r - low.count) / (high.count - low.count) ≤
      (r' - low.count) / (high.count - low.count) :=
    div_le_div_of_nonneg_right (by linarith) (by linarith)
  linarith [mul_le_mul_of_nonneg_left hshare hwidth]

theorem line_low (low high : Bucket ℚ) : line low high low.count = low.upperBound := by
  simp [line]

theorem line_high (hcount : low.count < high.count) :
    line low high high.count = high.upperBound := by
  have hne : high.count - low.count ≠ 0 := by linarith
  unfold line
  rw [div_self hne, mul_one, add_sub_cancel]

/-- Between two buckets the line is between their bounds. -/
theorem line_mem (hbound : low.upperBound ≤ high.upperBound) (hlow : low.count < r)
    (hhigh : r ≤ high.count) :
    low.upperBound ≤ line low high r ∧ line low high r ≤ high.upperBound := by
  have hcount : low.count < high.count := by linarith
  have hfirst := line_mono hbound hcount hlow.le
  have hlast := line_mono hbound hcount hhigh
  rw [line_low] at hfirst
  rw [line_high hcount] at hlast
  exact ⟨hfirst, hlast⟩

theorem line_origin_mem (hbound : 0 < high.upperBound) (hr : 0 < r) (hhigh : r ≤ high.count) :
    0 ≤ line origin high r ∧ line origin high r ≤ high.upperBound :=
  line_mem (show origin.upperBound ≤ high.upperBound from hbound.le) hr hhigh

end Line

/-- The value at a rank above a bucket, from the buckets behind it. -/
def climb (low : Bucket ℚ) : List (Bucket ℚ) → ℚ → ℚ
  | [], _ => low.upperBound
  | b :: rest, r => if r ≤ b.count then line low b r else climb b rest r

/-- The value at a rank. The first bucket begins at zero, unless it has no positive values. -/
def graph : List (Bucket ℚ) → ℚ → ℚ
  | [], _ => 0
  | b :: rest, r =>
    if r ≤ b.count then if b.upperBound ≤ 0 then b.upperBound else line origin b r
    else climb b rest r

/-- Neither bounds nor counts fall. -/
def Rising (buckets : List (Bucket ℚ)) : Prop :=
  buckets.Pairwise fun a b => a.upperBound ≤ b.upperBound ∧ a.count ≤ b.count

section Climb

variable {low : Bucket ℚ} {buckets : List (Bucket ℚ)} {r r' : ℚ}

theorem le_climb (h : Rising (low :: buckets)) (hr : low.count < r) :
    low.upperBound ≤ climb low buckets r := by
  induction buckets generalizing low with
  | nil => exact le_rfl
  | cons b rest ih =>
    have hb := List.rel_of_pairwise_cons h (.head _)
    rw [climb]
    split
    · next hle => exact (line_mem hb.1 hr hle).1
    · next hlt => exact hb.1.trans (ih h.of_cons (not_le.1 hlt))

theorem climb_le (h : Rising (low :: buckets)) (hr : low.count < r) {u : ℚ}
    (hu : ∀ b ∈ low :: buckets, b.upperBound ≤ u) : climb low buckets r ≤ u := by
  induction buckets generalizing low with
  | nil => exact hu low (.head _)
  | cons b rest ih =>
    have hb := List.rel_of_pairwise_cons h (.head _)
    rw [climb]
    split
    · next hle => exact (line_mem hb.1 hr hle).2.trans (hu b (.tail _ (.head _)))
    · next hlt => exact ih h.of_cons (not_le.1 hlt) fun b' hb' => hu b' (.tail _ hb')

theorem climb_mono (h : Rising (low :: buckets)) (hr : low.count < r) (hle : r ≤ r') :
    climb low buckets r ≤ climb low buckets r' := by
  induction buckets generalizing low with
  | nil => exact le_rfl
  | cons b rest ih =>
    have hb := List.rel_of_pairwise_cons h (.head _)
    rw [climb, climb]
    by_cases hinside' : r' ≤ b.count
    · rw [if_pos (hle.trans hinside'), if_pos hinside']
      exact line_mono hb.1 (hr.trans_le (hle.trans hinside')) hle
    · rw [if_neg hinside']
      split
      · next hinside =>
        exact (line_mem hb.1 hr hinside).2.trans (le_climb h.of_cons (not_le.1 hinside'))
      · next hinside => exact ih h.of_cons (not_le.1 hinside)

end Climb

section Graph

variable {first : Bucket ℚ} {rest : List (Bucket ℚ)} {r r' : ℚ}

theorem le_graph (h : Rising (first :: rest)) (hr : 0 < r) :
    min 0 first.upperBound ≤ graph (first :: rest) r := by
  rw [graph]
  split
  · next hinside =>
    split
    · exact min_le_right _ _
    · next hpositive =>
      exact (min_le_left _ _).trans
        (line_origin_mem (not_le.1 hpositive) hr hinside).1
  · next habove => exact (min_le_right _ _).trans (le_climb h (not_le.1 habove))

theorem graph_le (h : Rising (first :: rest)) (hr : 0 < r) {u : ℚ}
    (hu : ∀ b ∈ first :: rest, b.upperBound ≤ u) : graph (first :: rest) r ≤ u := by
  rw [graph]
  split
  · next hinside =>
    split
    · exact hu first (.head _)
    · next hpositive =>
      exact (line_origin_mem (not_le.1 hpositive) hr hinside).2.trans
        (hu first (.head _))
  · next habove => exact climb_le h (not_le.1 habove) hu

theorem graph_mono (h : Rising (first :: rest)) (hr : 0 < r) (hle : r ≤ r') :
    graph (first :: rest) r ≤ graph (first :: rest) r' := by
  rw [graph, graph]
  by_cases hinside' : r' ≤ first.count
  · rw [if_pos (hle.trans hinside'), if_pos hinside']
    split
    · exact le_rfl
    · next hpositive =>
      exact line_mono (not_le.1 hpositive).le (hr.trans_le (hle.trans hinside')) hle
  · rw [if_neg hinside']
    have habove := le_climb h (not_le.1 hinside')
    split
    · next hinside =>
      split
      · exact habove
      · next hpositive =>
        exact (line_origin_mem (not_le.1 hpositive) hr hinside).2.trans habove
    · next hinside => exact climb_mono h (not_le.1 hinside) hle

/-- Above all counts the graph stays at the last bound. -/
theorem climb_of_above {low last : Bucket ℚ} {buckets : List (Bucket ℚ)}
    (hr : ∀ b ∈ buckets, b.count < r) (hlast : (low :: buckets).getLast? = some last) :
    climb low buckets r = last.upperBound := by
  induction buckets generalizing low with
  | nil =>
    cases hlast
    rfl
  | cons b rest ih =>
    rw [climb, if_neg (not_le.2 (hr b (.head _)))]
    exact ih (fun b' hb' => hr b' (.tail _ hb')) (by rwa [List.getLast?_cons_cons] at hlast)

theorem graph_of_above {last : Bucket ℚ} {buckets : List (Bucket ℚ)}
    (hr : ∀ b ∈ buckets, b.count < r) (hlast : buckets.getLast? = some last) :
    graph buckets r = last.upperBound := by
  cases buckets with
  | nil => cases hlast
  | cons b rest =>
    rw [graph, if_neg (not_le.2 (hr b (.head _)))]
    exact climb_of_above (fun b' hb' => hr b' (.tail _ hb')) hlast

theorem climb_of_between {low below b : Bucket ℚ} {before after : List (Bucket ℚ)}
    (hbefore : ∀ b ∈ before ++ [below], b.count < r) (hr : r ≤ b.count) :
    climb low (before ++ below :: b :: after) r = line below b r := by
  induction before generalizing low with
  | nil =>
    rw [List.nil_append, climb, if_neg (not_le.2 (hbefore below (.head _))), climb, if_pos hr]
  | cons b' rest ih =>
    rw [List.cons_append, climb, if_neg (not_le.2 (hbefore b' (.head _)))]
    exact ih fun b hb => hbefore b (.tail _ hb)

/-- Between the counts of two buckets the graph is the line from one to the other. -/
theorem graph_of_between {below b : Bucket ℚ} {before after : List (Bucket ℚ)}
    (h : Rising (before ++ below :: b :: after)) (hbelow : below.count < r) (hr : r ≤ b.count) :
    graph (before ++ below :: b :: after) r = line below b r := by
  have hbefore : ∀ b ∈ before ++ [below], b.count < r := by
    intro b' hb'
    rcases List.mem_append.1 hb' with hb' | hb'
    · exact ((List.pairwise_append.1 h).2.2 b' hb' below (.head _)).2.trans_lt hbelow
    · rwa [List.mem_singleton.1 hb']
  cases before with
  | nil => rw [List.nil_append, graph, if_neg (not_le.2 hbelow), climb, if_pos hr]
  | cons b' rest =>
    rw [List.cons_append, graph, if_neg (not_le.2 (hbefore b' (.head _)))]
    exact climb_of_between (fun b hb => hbefore b (.tail _ hb)) hr

end Graph

def exactBucket (p : Bucket ℚ) : Bucket Exact := ⟨.finite p.upperBound, .finite p.count⟩

theorem interpolate_first {b : Bucket ℚ} {r : ℚ} (hcount : 0 < b.count) :
    interpolate none (exactBucket b) (.finite r) = .finite (line origin b r) := by
  have hzero : (zero : Exact) = .finite 0 := Exact.ofInt_eq 0
  unfold interpolate exactBucket line origin
  rw [hzero, Exact.finite_sub, Exact.finite_div hcount.ne', Exact.finite_mul, Exact.finite_add]
  simp

theorem interpolate_inner {below b : Bucket ℚ} {r : ℚ} (hcount : below.count < b.count) :
    interpolate (some (exactBucket below)) (exactBucket b) (.finite r) =
      .finite (line below b r) := by
  have hdivisor : b.count - below.count ≠ 0 := (sub_pos.2 hcount).ne'
  unfold interpolate exactBucket line
  simp only [Exact.finite_sub, Exact.finite_div hdivisor, Exact.finite_mul, Exact.finite_add]

theorem Landing.eq_graph {points : List (Bucket ℚ)} (hrising : Rising points) {r : ℚ}
    (hr : 0 < r) {place : Option (Option (Bucket Exact) × Bucket Exact)} {v : Exact}
    (h : Landing Exact.key (points.map exactBucket) (.finite r) place v) :
    v = .finite (graph points r) := by
  cases h with
  | beyond hlast hrank =>
    have hbelow : ∀ p ∈ points, p.count < r := fun p hp =>
      Exact.key_lt_finite.1 (hrank (exactBucket p) (List.mem_map_of_mem hp))
    rw [List.getLast?_map] at hlast
    obtain ⟨last, hmem, rfl⟩ := Option.map_eq_some_iff.1 hlast
    rw [graph_of_above hbelow hmem]
    rfl
  | bottom hlower hrank hbound =>
    obtain ⟨p, ps, rfl, rfl, rfl⟩ := List.map_eq_cons_iff.1 hlower
    have hinside : r ≤ p.count := Exact.key_le_finite.1 hrank
    have hbottom : p.upperBound ≤ 0 := Exact.key_le_finite.1 hbound
    rw [graph, if_pos hinside, if_pos hbottom]
    rfl
  | first hlower hrank hbound =>
    obtain ⟨p, ps, rfl, rfl, rfl⟩ := List.map_eq_cons_iff.1 hlower
    have hinside : r ≤ p.count := Exact.key_le_finite.1 hrank
    have hpositive : 0 < p.upperBound := Exact.key_lt_finite.1 hbound
    rw [graph, if_pos hinside, if_neg (not_le.2 hpositive), interpolate_first (hr.trans_le hinside)]
  | inner hlower hbelow hrank =>
    obtain ⟨before, after, rfl, rfl, hafter⟩ := List.map_eq_append_iff.1 hlower
    obtain ⟨low, ps, rfl, rfl, hps⟩ := List.map_eq_cons_iff.1 hafter
    obtain ⟨p, rest, rfl, rfl, rfl⟩ := List.map_eq_cons_iff.1 hps
    have hlow : low.count < r := Exact.key_lt_finite.1 hbelow
    have hinside : r ≤ p.count := Exact.key_le_finite.1 hrank
    rw [graph_of_between hrising hlow hinside, interpolate_inner (hlow.trans_le hinside)]

theorem exists_map_exactBucket {buckets : List (Bucket Exact)}
    (hbound : ∀ b ∈ buckets, isFinite b.upperBound = true)
    (hcount : ∀ b ∈ buckets, isFinite b.count = true) :
    ∃ points : List (Bucket ℚ), points.map exactBucket = buckets := by
  refine ⟨buckets.map fun b => ⟨b.upperBound.value, b.count.value⟩, ?_⟩
  have hself : ∀ b ∈ buckets, exactBucket ⟨b.upperBound.value, b.count.value⟩ = b := fun b hb => by
    rw [exactBucket, Exact.finite_value (hbound b hb), Exact.finite_value (hcount b hb)]
  rw [List.map_map]
  exact (List.map_congr_left hself).trans (List.map_id buckets)

/-- Repaired buckets are points of a graph with a last bucket behind them. -/
theorem exists_points {buckets : List (Bucket Exact)} (h : Observed buckets) :
    ∃ (points : List (Bucket ℚ)) (last : Exact) (total : ℚ),
      cumulative buckets = points.map exactBucket ++ [⟨last, .finite total⟩] ∧
      Ladder Exact.key (points.map exactBucket) ⟨last, .finite total⟩ ∧
      Rising points ∧ 0 < total := by
  obtain ⟨lower, ⟨last, count⟩, hcumulative, hladder⟩ := exists_ladder Exact.orderedBy_key h
  obtain ⟨points, rfl⟩ := exists_map_exactBucket hladder.bound fun b hb =>
    (hladder.count b (List.mem_append_left _ hb)).1
  obtain ⟨total, rfl⟩ := Exact.eq_finite_of_isFinite
    (hladder.count ⟨last, count⟩ (by simp)).1
  have hbounds := List.pairwise_map.1 (List.pairwise_append.1 hladder.bounds).1
  have hcounts := List.pairwise_map.1 (List.pairwise_append.1 hladder.counts).1
  refine ⟨points, last, total, hcumulative, hladder, ?_, Exact.key_lt_finite.1 hladder.positive⟩
  exact hbounds.imp₂ (fun a b hbound hcount =>
    ⟨Exact.key_le_finite.1 hbound, Exact.key_le_finite.1 hcount⟩) hcounts

theorem bucketQuantile_eq_graph {buckets : List (Bucket Exact)} (h : 2 ≤ buckets.length)
    {points : List (Bucket ℚ)} {last : Exact} {total : ℚ}
    (hcumulative : cumulative buckets = points.map exactBucket ++ [⟨last, .finite total⟩])
    (hladder : Ladder Exact.key (points.map exactBucket) ⟨last, .finite total⟩)
    (hrising : Rising points) (htotal : 0 < total) {q : ℚ} (hq : 0 < q) (hone : q ≤ 1) :
    bucketQuantile (.finite q) buckets = .finite (graph points (q * total)) := by
  have hnumber : isNaN (Exact.finite q) = false := rfl
  have hzero : lt (Exact.finite q) zero = false := decide_eq_false (not_lt.2 hq.le)
  have hle : lt one (Exact.finite q) = false := decide_eq_false (not_lt.2 hone)
  have hlanding := hladder.landing Exact.orderedBy_key (q := .finite q) rfl
  rw [bucketQuantile_eq_valueAtRank h hnumber hzero hle, hcumulative]
  exact hlanding.eq_graph hrising (mul_pos hq htotal)

theorem bounds_of_cumulative {buckets buckets' : List (Bucket Exact)}
    (h : cumulative buckets = buckets') :
    (buckets.map Bucket.upperBound).Perm (buckets'.map Bucket.upperBound) := by
  rw [← h, map_upperBound_cumulative]
  exact (perm_ascending buckets).symm.map Bucket.upperBound

/-- Over all ranks the quantile of a histogram does not fall and stays inside the buckets before
the last one. With distinct bounds it does not depend on the order of the buckets. -/
theorem bucketQuantile_rises_inside_bounds (buckets : List (Bucket Exact))
    (h : Observed buckets) :
    (∃ low high : ℚ, IsSmallest (.finite low) (buckets.map Bucket.upperBound) ∧
      IsSecondLargest (.finite high) (buckets.map Bucket.upperBound) ∧
      ∀ q₁ q₂ : ℚ, 0 < q₁ → q₁ ≤ q₂ → q₂ ≤ 1 →
        ∃ v₁ v₂ : ℚ, bucketQuantile (.finite q₁) buckets = .finite v₁ ∧
          bucketQuantile (.finite q₂) buckets = .finite v₂ ∧
          min 0 low ≤ v₁ ∧ v₁ ≤ v₂ ∧ v₂ ≤ high) ∧
      ((buckets.map Bucket.upperBound).Nodup → ∀ buckets', buckets'.Perm buckets →
        ∀ q, bucketQuantile q buckets' = bucketQuantile q buckets) := by
  refine ⟨?_, fun hdistinct buckets' hperm q =>
    bucketQuantile_eq_of_perm Exact.orderedBy_key hdistinct hperm q⟩
  obtain ⟨points, last, total, hcumulative, hladder, hrising, htotal⟩ := exists_points h
  have hbounds := bounds_of_cumulative hcumulative
  have hquantile {q : ℚ} (hq : 0 < q) (hone : q ≤ 1) :=
    bucketQuantile_eq_graph h.several hcumulative hladder hrising htotal hq hone
  obtain ⟨first, rest, rfl⟩ := List.exists_cons_of_ne_nil (l := points) <| by
    rintro rfl
    exact hladder.nonempty rfl
  obtain ⟨init, next, hinit⟩ : ∃ init next, first :: rest = init ++ [next] :=
    ⟨_, _, (List.dropLast_append_getLast (List.cons_ne_nil first rest)).symm⟩
  have hhigh : ∀ p ∈ first :: rest, p.upperBound ≤ next.upperBound := by
    intro p hp
    rw [hinit] at hrising hp
    rcases List.mem_append.1 hp with hp | hp
    · exact ((List.pairwise_append.1 hrising).2.2 p hp next (.head _)).1
    · rw [List.mem_singleton.1 hp]
  refine ⟨first.upperBound, next.upperBound, hladder.isSmallest Exact.orderedBy_key hbounds, ?_,
    fun q₁ q₂ hq₁ hle hq₂ => ?_⟩
  · rw [hinit, List.map_append (f := exactBucket)] at hladder hbounds
    exact hladder.isSecondLargest Exact.orderedBy_key hbounds
  · have hrank : 0 < q₁ * total := mul_pos hq₁ htotal
    have hranks : q₁ * total ≤ q₂ * total := mul_le_mul_of_nonneg_right hle htotal.le
    exact ⟨_, _, hquantile hq₁ (hle.trans hq₂), hquantile (hq₁.trans_le hle) hq₂,
      le_graph hrising hrank, graph_mono hrising hrank hranks,
      graph_le hrising (hrank.trans_le hranks) hhigh⟩

/-- Bounds out of order, with the most observations below the smaller one. -/
def latencies : List (Bucket Exact) :=
  [⟨.finite 2, .finite 5⟩, ⟨infinity, .finite 10⟩, ⟨.finite 1, .finite 7⟩]

theorem latencies_rise : Observed latencies ∧ (latencies.map Bucket.upperBound).Nodup ∧
    (∃ v₁ v₂ : ℚ, bucketQuantile (.finite (1 / 4)) latencies = .finite v₁ ∧
      bucketQuantile (.finite (9 / 10)) latencies = .finite v₂ ∧ v₁ ≤ v₂) ∧
    bucketQuantile (.finite (1 / 4)) latencies.reverse =
      bucketQuantile (.finite (1 / 4)) latencies := by
  have hobserved : Observed latencies :=
    ⟨by decide, by decide, by decide, by decide, by decide⟩
  have hdistinct : (latencies.map Bucket.upperBound).Nodup := by decide
  obtain ⟨⟨low, high, -, -, hrises⟩, horder⟩ :=
    bucketQuantile_rises_inside_bounds latencies hobserved
  obtain ⟨v₁, v₂, hv₁, hv₂, -, hle, -⟩ :=
    hrises (1 / 4) (9 / 10) (by norm_num) (by norm_num) (by norm_num)
  exact ⟨hobserved, hdistinct, ⟨v₁, v₂, hv₁, hv₂, hle⟩,
    horder hdistinct latencies.reverse (List.reverse_perm latencies) (.finite (1 / 4))⟩

end Histogram

end SeriesQuery
