import Mathlib.Data.List.Nodup
import SeriesQuery.Histogram
import SeriesQuery.Proofs.NumericOrder
import SeriesQuery.Proofs.Samples.Partition

/-!
# Buckets of a histogram

Buckets are put in order of their bounds, and counts that dip are raised to the largest one before
them. From then on the buckets whose counts are below a rank come first, so the bucket in which the
rank falls is the one behind them.
-/

namespace SeriesQuery

open Numeric

variable {α κ : Type} [Numeric α] [LinearOrder κ]

namespace Histogram

theorem map_upperBound_raiseCounts (most : α) (buckets : List (Bucket α)) :
    (raiseCounts most buckets).map Bucket.upperBound = buckets.map Bucket.upperBound := by
  induction buckets generalizing most with
  | nil => rfl
  | cons b rest ih =>
    unfold raiseCounts
    split
    · rw [List.map_cons, List.map_cons, ih]
    · split <;> rw [List.map_cons, List.map_cons, ih]

theorem count_of_mem_raiseCounts {most : α} {buckets : List (Bucket α)} {b : Bucket α}
    (h : b ∈ raiseCounts most buckets) : b.count = most ∨ ∃ b' ∈ buckets, b.count = b'.count := by
  induction buckets generalizing most with
  | nil => cases h
  | cons a rest ih =>
    have hrest {most' : α} (hmost : most' = most ∨ most' = a.count)
        (hmem : b ∈ raiseCounts most' rest) :
        b.count = most ∨ ∃ b' ∈ a :: rest, b.count = b'.count := by
      rcases ih hmem with hcount | ⟨b', hb', hcount⟩
      · rw [hcount]
        exact hmost.imp id fun hcount => ⟨a, .head _, hcount⟩
      · exact .inr ⟨b', .tail _ hb', hcount⟩
    unfold raiseCounts at h
    split at h
    · rcases List.mem_cons.1 h with rfl | h
      · exact .inr ⟨b, .head _, rfl⟩
      · exact hrest (.inr rfl) h
    · split at h
      · rcases List.mem_cons.1 h with rfl | h
        · exact .inl rfl
        · exact hrest (.inl rfl) h
      · rcases List.mem_cons.1 h with rfl | h
        · exact .inr ⟨b, .head _, rfl⟩
        · exact hrest (.inl rfl) h

section Order

variable {key : α → κ}

/-- Counts that do not fall and are no smaller than one before them. -/
structure Climbs (key : α → κ) (most : α) (buckets : List (Bucket α)) : Prop where
  above : ∀ b ∈ buckets, key most ≤ key b.count
  ascends : buckets.Pairwise fun a b => key a.count ≤ key b.count

omit [Numeric α] in
theorem Climbs.cons {most : α} {b : Bucket α} {rest : List (Bucket α)}
    (h : Climbs key b.count rest) (hmost : key most ≤ key b.count) :
    Climbs key most (b :: rest) where
  above := List.forall_mem_cons.2 ⟨hmost, fun b' hb' => hmost.trans (h.above b' hb')⟩
  ascends := h.ascends.cons h.above

theorem climbs_raiseCounts (horder : OrderedBy key) {most : α} {buckets : List (Bucket α)}
    (hmost : isNaN most = false) (hcounts : ∀ b ∈ buckets, isNaN b.count = false) :
    Climbs key most (raiseCounts most buckets) ∧
      ∀ b ∈ buckets, ∃ b' ∈ raiseCounts most buckets, key b.count ≤ key b'.count := by
  induction buckets generalizing most with
  | nil => exact ⟨⟨nofun, .nil⟩, nofun⟩
  | cons b rest ih =>
    have hb := hcounts b (.head _)
    have hrest : ∀ b ∈ rest, isNaN b.count = false := fun b' hb' => hcounts b' (.tail _ hb')
    have hrises := horder.lt_iff hmost hb
    have hdips := horder.lt_iff hb hmost
    have hraised {b' : Bucket α} {most' : α} (hmost' : isNaN most' = false)
        (hle : key b.count ≤ key b'.count) :
        ∀ x ∈ b :: rest, ∃ y ∈ b' :: raiseCounts most' rest, key x.count ≤ key y.count := by
      intro x hx
      rcases List.mem_cons.1 hx with rfl | hx
      · exact ⟨b', .head _, hle⟩
      · obtain ⟨y, hy, hxy⟩ := (ih hmost' hrest).2 x hx
        exact ⟨y, .tail _ hy, hxy⟩
    unfold raiseCounts
    split
    · next hlt =>
      exact ⟨(ih hb hrest).1.cons (hrises.1 hlt).le, hraised hb le_rfl⟩
    · next hle =>
      split
      · next hlt => exact ⟨Climbs.cons (ih hmost hrest).1 le_rfl, hraised hmost (hdips.1 hlt).le⟩
      · next hge =>
        have heq : key most = key b.count :=
          le_antisymm (not_lt.1 (mt hdips.2 hge)) (not_lt.1 (mt hrises.2 hle))
        have hclimbs := (ih hmost hrest).1
        refine ⟨Climbs.cons ⟨heq ▸ hclimbs.above, hclimbs.ascends⟩ heq.le, hraised hmost le_rfl⟩

theorem perm_ascending (buckets : List (Bucket α)) : (ascending buckets).Perm buckets :=
  List.mergeSort_perm ..

theorem sorted_ascending (horder : OrderedBy key) (buckets : List (Bucket α)) :
    (ascending buckets).Pairwise fun a b =>
      (totalCompare a.upperBound b.upperBound).isLE = true := by
  have htrans (a b c : Bucket α) (hab : (totalCompare a.upperBound b.upperBound).isLE = true)
      (hbc : (totalCompare b.upperBound c.upperBound).isLE = true) :
      (totalCompare a.upperBound c.upperBound).isLE = true := horder.trans hab hbc
  have htotal (a b : Bucket α) : ((totalCompare a.upperBound b.upperBound).isLE ||
      (totalCompare b.upperBound a.upperBound).isLE) = true :=
    Bool.or_eq_true_iff.2 (horder.total a.upperBound b.upperBound)
  exact List.pairwise_mergeSort htrans htotal buckets

theorem pairwise_ascending (horder : OrderedBy key) {buckets : List (Bucket α)}
    (hbounds : ∀ b ∈ buckets, isNaN b.upperBound = false) :
    ((ascending buckets).map Bucket.upperBound).Pairwise fun u v => key u ≤ key v := by
  have hnumber : ∀ b ∈ ascending buckets, isNaN b.upperBound = false := fun b hb =>
    hbounds b ((perm_ascending buckets).mem_iff.1 hb)
  rw [List.pairwise_map]
  exact (sorted_ascending horder buckets).imp_of_mem fun {a b} ha hb hab =>
    horder.key_le (hnumber a ha) (hnumber b hb) hab

omit [LinearOrder κ] in
theorem ascending_eq_self {buckets : List (Bucket α)} (h : buckets.Pairwise fun a b =>
    (totalCompare a.upperBound b.upperBound).isLE = true) : ascending buckets = buckets :=
  List.mergeSort_of_pairwise h

theorem ascending_eq_of_perm (horder : OrderedBy key) {buckets buckets' : List (Bucket α)}
    (hdistinct : (buckets.map Bucket.upperBound).Nodup) (hperm : buckets'.Perm buckets) :
    ascending buckets' = ascending buckets := by
  have hperm' := ((perm_ascending buckets').trans hperm).trans (perm_ascending buckets).symm
  refine hperm'.eq_of_pairwise (fun a b ha hb hab hba => ?_) (sorted_ascending horder buckets')
    (sorted_ascending horder buckets)
  exact List.inj_on_of_nodup_map hdistinct (hperm.mem_iff.1 ((perm_ascending _).mem_iff.1 ha))
    ((perm_ascending _).mem_iff.1 hb) (horder.antisymm hab hba)

theorem bucketQuantile_eq_of_perm (horder : OrderedBy key) {buckets buckets' : List (Bucket α)}
    (hdistinct : (buckets.map Bucket.upperBound).Nodup) (hperm : buckets'.Perm buckets) (q : α) :
    bucketQuantile q buckets' = bucketQuantile q buckets := by
  unfold bucketQuantile cumulative
  rw [ascending_eq_of_perm horder hdistinct hperm, hperm.length_eq]

/-- Buckets of a histogram that has observed something. Only the largest bound may be infinite. -/
structure Observed (buckets : List (Bucket α)) : Prop where
  several : 2 ≤ buckets.length
  count : ∀ b ∈ buckets, isFinite b.count = true ∧ le zero b.count = true
  positive : ∃ b ∈ buckets, lt zero b.count = true
  bound : ∀ b ∈ buckets, isFinite b.upperBound = true ∨ b.upperBound = infinity
  bounded : buckets.Pairwise fun a b =>
    isFinite a.upperBound = true ∨ isFinite b.upperBound = true

omit [LinearOrder κ] in
theorem Observed.perm {buckets buckets' : List (Bucket α)} (h : Observed buckets)
    (hperm : buckets'.Perm buckets) : Observed buckets' where
  several := hperm.length_eq ▸ h.several
  count b hb := h.count b (hperm.mem_iff.1 hb)
  positive := by
    obtain ⟨b, hb, hcount⟩ := h.positive
    exact ⟨b, hperm.mem_iff.2 hb, hcount⟩
  bound b hb := h.bound b (hperm.mem_iff.1 hb)
  bounded := (hperm.pairwise_iff fun hab => hab.symm).2 h.bounded

/-- Buckets in order of their bounds, with counts that do not fall. Those before the last one have
finite bounds. -/
structure Ladder (key : α → κ) (lower : List (Bucket α)) (last : Bucket α) : Prop where
  nonempty : lower ≠ []
  bound : ∀ b ∈ lower, isFinite b.upperBound = true
  top : isNaN last.upperBound = false
  bounds : (lower ++ [last]).Pairwise fun a b => key a.upperBound ≤ key b.upperBound
  count : ∀ b ∈ lower ++ [last], isFinite b.count = true ∧ key zero ≤ key b.count
  counts : (lower ++ [last]).Pairwise fun a b => key a.count ≤ key b.count
  positive : key zero < key last.count

theorem map_upperBound_cumulative (buckets : List (Bucket α)) :
    (cumulative buckets).map Bucket.upperBound = (ascending buckets).map Bucket.upperBound := by
  unfold cumulative
  cases ascending buckets with
  | nil => rfl
  | cons b rest => exact map_upperBound_raiseCounts b.count (b :: rest)

/-- In a sorted list of which at most one member is not finite, only the last one may be that. -/
theorem isFinite_of_ascends (horder : OrderedBy key) {lower : List α} {last : α}
    (hbound : ∀ u ∈ lower ++ [last], isFinite u = true ∨ u = infinity)
    (hbounded : (lower ++ [last]).Pairwise fun u v => isFinite u = true ∨ isFinite v = true)
    (hascends : (lower ++ [last]).Pairwise fun u v => key u ≤ key v) :
    ∀ u ∈ lower, isFinite u = true := by
  intro u hu
  have hlast : last ∈ [last] := List.mem_singleton_self last
  rcases hbound u (List.mem_append_left _ hu) with hfinite | rfl
  · exact hfinite
  · rcases (List.pairwise_append.1 hbounded).2.2 infinity hu last hlast with hfinite | hfinite
    · exact hfinite
    · have hle := (List.pairwise_append.1 hascends).2.2 infinity hu last hlast
      exact absurd (horder.lt_infinity hfinite) (not_lt.2 hle)

/-- Repaired counts are finite, do not fall and are not all zero. -/
theorem counts_cumulative (horder : OrderedBy key) {buckets : List (Bucket α)}
    (h : Observed buckets) :
    (∀ b ∈ cumulative buckets, isFinite b.count = true ∧ key zero ≤ key b.count) ∧
      ((cumulative buckets).Pairwise fun a b => key a.count ≤ key b.count) ∧
      ∃ b ∈ cumulative buckets, key zero < key b.count := by
  have hobserved := h.perm (perm_ascending buckets)
  unfold cumulative
  generalize ascending buckets = sorted at hobserved
  cases sorted with
  | nil => exact absurd hobserved.several (by simp)
  | cons first rest =>
    have hnumber : ∀ b ∈ first :: rest, isNaN b.count = false := fun b hb =>
      isNaN_of_isFinite (hobserved.count b hb).1
    obtain ⟨hclimbs, hraised⟩ := climbs_raiseCounts horder (hnumber first (.head _)) hnumber
    refine ⟨fun b hb => ?_, hclimbs.ascends, ?_⟩
    · have hfrom : ∃ b' ∈ first :: rest, b.count = b'.count :=
        (count_of_mem_raiseCounts hb).elim (fun hcount => ⟨first, .head _, hcount⟩) id
      obtain ⟨b', hb', hcount⟩ := hfrom
      obtain ⟨hfinite, hnonneg⟩ := hobserved.count b' hb'
      rw [hcount]
      exact ⟨hfinite, (horder.le_iff horder.isNaN_zero (hnumber b' hb')).1 hnonneg⟩
    · obtain ⟨b, hb, hpositive⟩ := hobserved.positive
      obtain ⟨b', hb', hle⟩ := hraised b hb
      exact ⟨b', hb', ((horder.lt_iff horder.isNaN_zero (hnumber b hb)).1 hpositive).trans_le hle⟩

theorem exists_ladder (horder : OrderedBy key) {buckets : List (Bucket α)}
    (h : Observed buckets) :
    ∃ lower last, cumulative buckets = lower ++ [last] ∧ Ladder key lower last := by
  have hobserved := h.perm (perm_ascending buckets)
  have hsorted := pairwise_ascending horder fun b hb => by
    rcases h.bound b hb with hfinite | hinfinite
    · exact isNaN_of_isFinite hfinite
    · rw [hinfinite, horder.isNaN_infinity]
  have hbound : ∀ u ∈ (ascending buckets).map Bucket.upperBound,
      isFinite u = true ∨ u = infinity := List.forall_mem_map.2 hobserved.bound
  have hbounded : ((ascending buckets).map Bucket.upperBound).Pairwise fun u v =>
      isFinite u = true ∨ isFinite v = true := List.pairwise_map.2 hobserved.bounded
  have hseveral := hobserved.several
  rw [← List.length_map Bucket.upperBound] at hseveral
  obtain ⟨hcount, hcounts, positive, hmem, hpositive⟩ := counts_cumulative horder h
  rw [← map_upperBound_cumulative] at hsorted hbound hbounded hseveral
  generalize cumulative buckets = out at *
  rcases List.eq_nil_or_concat out with rfl | ⟨lower, last, rfl⟩
  · cases hmem
  · rw [List.concat_eq_append] at *
    have hbounds := hsorted
    rw [List.pairwise_map] at hbounds
    rw [List.map_append] at hbound hbounded hsorted
    refine ⟨lower, last, rfl, ?_, ?_, ?_, hbounds, hcount, hcounts, ?_⟩
    · rintro rfl
      simp at hseveral
    · exact fun b hb => isFinite_of_ascends horder hbound hbounded hsorted b.upperBound
        (List.mem_map_of_mem hb)
    · rcases hbound last.upperBound (by simp) with hfinite | hinfinite
      · exact isNaN_of_isFinite hfinite
      · rw [hinfinite, horder.isNaN_infinity]
    · rcases List.mem_append.1 hmem with hlower | hlast
      · exact hpositive.trans_le
          ((List.pairwise_append.1 hcounts).2.2 positive hlower last (.head _))
      · rwa [← List.mem_singleton.1 hlast]

def IsSmallest (u : α) (bounds : List α) : Prop := u ∈ bounds ∧ ∀ w ∈ bounds, le u w = true

def IsSecondLargest (u : α) (bounds : List α) : Prop :=
  ∃ largest rest, bounds.Perm (largest :: u :: rest) ∧ le u largest = true ∧
    ∀ w ∈ rest, le w u = true

theorem Ladder.isNaN_upperBound {lower : List (Bucket α)} {last : Bucket α}
    (h : Ladder key lower last) : ∀ b ∈ lower ++ [last], isNaN b.upperBound = false := by
  intro b hb
  rcases List.mem_append.1 hb with hb | hb
  · exact isNaN_of_isFinite (h.bound b hb)
  · rw [List.mem_singleton.1 hb, h.top]

theorem Ladder.isSmallest (horder : OrderedBy key) {first last : Bucket α}
    {rest : List (Bucket α)} (h : Ladder key (first :: rest) last) {bounds : List α}
    (hperm : bounds.Perm ((first :: rest ++ [last]).map Bucket.upperBound)) :
    IsSmallest first.upperBound bounds := by
  refine ⟨hperm.mem_iff.2 (.head _), fun w hw => ?_⟩
  obtain ⟨b, hb, rfl⟩ := List.mem_map.1 (hperm.mem_iff.1 hw)
  rw [horder.le_iff (h.isNaN_upperBound first (.head _)) (h.isNaN_upperBound b hb)]
  rcases List.mem_cons.1 hb with rfl | hb
  · exact le_rfl
  · exact List.rel_of_pairwise_cons h.bounds hb

theorem Ladder.isSecondLargest (horder : OrderedBy key) {next last : Bucket α}
    {lower : List (Bucket α)} (h : Ladder key (lower ++ [next]) last) {bounds : List α}
    (hperm : bounds.Perm ((lower ++ [next] ++ [last]).map Bucket.upperBound)) :
    IsSecondLargest next.upperBound bounds := by
  have hnumber := h.isNaN_upperBound
  obtain ⟨hlower, -, hbelow⟩ := List.pairwise_append.1 h.bounds
  have hnext := (List.pairwise_append.1 hlower).2.2
  refine ⟨last.upperBound, lower.map Bucket.upperBound, hperm.trans ?_, ?_, ?_⟩
  · rw [List.map_append, List.map_append]
    exact (List.perm_append_singleton last.upperBound _).trans
      ((List.perm_append_singleton next.upperBound _).cons last.upperBound)
  · rw [horder.le_iff (hnumber next (by simp)) (hnumber last (by simp))]
    exact hbelow next (by simp) last (.head _)
  · refine List.forall_mem_map.2 fun b hb => ?_
    rw [horder.le_iff (hnumber b (by simp [hb])) (hnumber next (by simp))]
    exact hnext b hb next (.head _)

/-- The bucket in which the value at the rank of a quantile is interpolated, if it is, with the
bucket below it, if there is one. -/
def interpolation? (buckets : List (Bucket α)) (q : α) : Option (Option (Bucket α) × Bucket α) :=
  buckets.getLast?.bind fun last =>
    let lower := buckets.dropLast
    let i := partitionPoint (fun b => lt b.count (q * last.count)) lower.toArray
    lower[i]?.bind fun b =>
      if i = 0 && le b.upperBound zero then none
      else some (if i = 0 then none else lower[i - 1]?, b)

omit [LinearOrder κ] in
theorem mem_of_interpolation? {lower : List (Bucket α)} {last below b : Bucket α} {q : α}
    (h : interpolation? (lower ++ [last]) q = some (some below, b)) :
    below ∈ lower ∧ b ∈ lower := by
  unfold interpolation? at h
  rw [List.getLast?_concat, List.dropLast_concat, Option.bind_some] at h
  obtain ⟨b', hb, hplace⟩ := Option.bind_eq_some_iff.1 h
  split at hplace
  · cases hplace
  · obtain ⟨hbelow, rfl⟩ := Prod.ext_iff.1 (Option.some.inj hplace)
    split at hbelow
    · cases hbelow
    · exact ⟨List.mem_of_getElem? hbelow, List.mem_of_getElem? hb⟩

omit [LinearOrder κ] in
theorem bucketQuantile_eq_valueAtRank {q : α} {buckets : List (Bucket α)}
    (h : 2 ≤ buckets.length) (hnan : isNaN q = false) (hzero : lt q zero = false)
    (hone : lt one q = false) : bucketQuantile q buckets = valueAtRank (cumulative buckets) q := by
  unfold bucketQuantile
  rw [hnan, hzero, hone, if_neg Bool.false_ne_true, if_neg Bool.false_ne_true,
    if_neg Bool.false_ne_true, if_neg (not_lt.2 h)]

/-- Where a rank falls among buckets: behind all of them, in a first one without positive values,
in a first one with positive values, or above another one. The value there is a bound or is
interpolated. -/
inductive Landing (key : α → κ) (lower : List (Bucket α)) (rank : α) :
    Option (Option (Bucket α) × Bucket α) → α → Prop
  | beyond {b : Bucket α} (hlast : lower.getLast? = some b)
      (hrank : ∀ b ∈ lower, key b.count < key rank) : Landing key lower rank none b.upperBound
  | bottom {b : Bucket α} {rest : List (Bucket α)} (hlower : lower = b :: rest)
      (hrank : key rank ≤ key b.count) (hbound : key b.upperBound ≤ key zero) :
      Landing key lower rank none b.upperBound
  | first {b : Bucket α} {rest : List (Bucket α)} (hlower : lower = b :: rest)
      (hrank : key rank ≤ key b.count) (hbound : key zero < key b.upperBound) :
      Landing key lower rank (some (none, b)) (interpolate none b rank)
  | inner {before rest : List (Bucket α)} {below b : Bucket α}
      (hlower : lower = before ++ below :: b :: rest) (hbelow : key below.count < key rank)
      (hrank : key rank ≤ key b.count) :
      Landing key lower rank (some (some below, b)) (interpolate (some below) b rank)

/-- Buckets with counts below a rank come first. -/
theorem Ladder.leads (horder : OrderedBy key) {lower : List (Bucket α)} {last : Bucket α}
    (h : Ladder key lower last) {rank : α} (hrank : isNaN rank = false) :
    Leads (fun b => lt b.count rank) lower := by
  have hcounts := (List.pairwise_append.1 h.counts).1
  refine hcounts.imp_of_mem fun {a b} ha hb hab hlt => ?_
  have hnumber {b : Bucket α} (hb : b ∈ lower) : isNaN b.count = false :=
    isNaN_of_isFinite (h.count b (List.mem_append_left _ hb)).1
  exact (horder.lt_iff (hnumber ha) hrank).2
    (hab.trans_lt ((horder.lt_iff (hnumber hb) hrank).1 hlt))

theorem Ladder.landing (horder : OrderedBy key) {lower : List (Bucket α)} {last : Bucket α}
    (h : Ladder key lower last) {q : α} (hrank : isNaN (q * last.count) = false) :
    Landing key lower (q * last.count) (interpolation? (lower ++ [last]) q)
      (valueAtRank (lower ++ [last]) q) := by
  let rank := q * last.count
  have hleads := h.leads horder hrank
  have hpoint : partitionPoint (fun b => lt b.count rank) lower.toArray =
      (lower.filter fun b => lt b.count rank).length := partitionPoint_eq hleads
  have hsplit := hleads.filter_append_filter_not.symm
  have hnumber : ∀ b ∈ lower, isNaN b.count = false ∧ isNaN b.upperBound = false := fun b hb =>
    ⟨isNaN_of_isFinite (h.count b (List.mem_append_left _ hb)).1,
      isNaN_of_isFinite (h.bound b hb)⟩
  have hbefore : ∀ b ∈ lower.filter fun b => lt b.count rank, key b.count < key rank := by
    intro b hb
    obtain ⟨hmem, hlt⟩ := List.mem_filter.1 hb
    exact (horder.lt_iff (hnumber b hmem).1 hrank).1 hlt
  have hafter : ∀ b ∈ lower.filter fun b => !lt b.count rank, key rank ≤ key b.count := by
    intro b hb
    obtain ⟨hmem, hge⟩ := List.mem_filter.1 hb
    rw [Bool.not_eq_true'] at hge
    exact not_lt.1 fun hlt => by
      rw [(horder.lt_iff (hnumber b hmem).1 hrank).2 hlt] at hge
      cases hge
  have hnonempty := h.nonempty
  unfold interpolation? valueAtRank
  rw [List.getLast?_concat, List.dropLast_concat]
  simp only [Option.bind_some]
  change Landing key lower rank _ _
  rw [hpoint]
  generalize lower.filter (fun b => lt b.count rank) = before at *
  generalize lower.filter (fun b => !lt b.count rank) = after at *
  subst hsplit
  rcases after with _ | ⟨b, rest⟩
  · rw [List.append_nil] at hnonempty ⊢
    rw [List.getElem?_eq_none (Nat.le_refl _)]
    cases hlast : before.getLast? with
    | none => exact absurd (List.getLast?_eq_none_iff.1 hlast) hnonempty
    | some b => exact .beyond hlast hbefore
  · have hb := hafter b (.head _)
    have hget : (before ++ b :: rest)[before.length]? = some b := by simp
    simp only [hget, Option.bind_some]
    rcases List.eq_nil_or_concat before with rfl | ⟨init, below, rfl⟩
    · have hzero := horder.le_iff (hnumber b (.head _)).2 horder.isNaN_zero
      by_cases hbottom : le b.upperBound zero = true
      · have hguard : (decide ((0 : Nat) = 0) && le b.upperBound zero) = true := hbottom
        rw [List.length_nil, if_pos hguard, if_pos hguard]
        exact .bottom rfl hb (hzero.1 hbottom)
      · have hguard : ¬(decide ((0 : Nat) = 0) && le b.upperBound zero) = true := hbottom
        rw [List.length_nil, if_neg hguard, if_neg hguard]
        exact .first rfl hb (not_le.1 (mt hzero.2 hbottom))
    · have hbelow := hbefore below (by simp)
      rw [List.concat_eq_append] at *
      have hpositive : (init ++ [below]).length ≠ 0 := by simp
      have hget' : (init ++ [below] ++ b :: rest)[(init ++ [below]).length - 1]? = some below := by
        simp
      have hguard : ¬(decide ((init ++ [below]).length = 0) && le b.upperBound zero) = true := by
        simp
      rw [if_neg hguard, if_neg hguard, if_neg hpositive, hget']
      exact .inner (List.append_assoc ..) hbelow hb

end Order

end Histogram

end SeriesQuery
