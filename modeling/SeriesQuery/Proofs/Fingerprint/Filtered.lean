import SeriesQuery.Matching
import SeriesQuery.Proofs.CanonicalLabels
import SeriesQuery.Proofs.Fingerprint.Combination
import SeriesQuery.Proofs.Fingerprint.Streaming

/-!
# Filtered fingerprints

The labels that a filter admits have the fingerprint of the label set that is restricted to them,
though they are hashed without building it. Series that agree on what a filter admits therefore
have one match key and fall into one group, and series that do not agree have different keys even
if their fingerprints collide.
-/

namespace SeriesQuery

/-- Label sets agree under a filter if every admitted name has the same value in both. -/
theorem Labels.agreeOn_iff_get? {labels labels' : Labels} {f : LabelFilter} :
    labels.agreeOn labels' f = true ↔
      ∀ name, f.admits name = true → labels.get? name = labels'.get? name := by
  rw [Labels.agreeOn_iff]
  constructor
  · intro h name hname
    have hget := congrArg (·.get? name) h
    simpa only [Labels.get?_restrict, if_pos hname] using hget
  · intro h
    apply SortedMap.ext_get?
    intro name
    rw [Labels.get?_restrict, Labels.get?_restrict]
    by_cases hname : f.admits name = true
    · rw [if_pos hname, if_pos hname, h name hname]
    · rw [if_neg hname, if_neg hname]

namespace HashAlgorithm

variable (a : HashAlgorithm) (f : LabelFilter)

theorem filteredFingerprint_eq_restrict (labels : Labels) :
    a.filteredFingerprint labels f = a.fingerprint (labels.restrict f) := by
  rw [filteredFingerprint_eq_hash, fingerprint_eq_hash, Labels.toList_restrict]

theorem filteredFingerprint_of_agreeOn {labels labels' : Labels}
    (h : labels.agreeOn labels' f = true) :
    a.filteredFingerprint labels f = a.filteredFingerprint labels' f := by
  rw [filteredFingerprint_eq_restrict, filteredFingerprint_eq_restrict, Labels.agreeOn_iff.1 h]

theorem fingerprint_matchKey (m : Metric) :
    (MatchKey.of a.hash f m).fingerprint = a.filteredFingerprint m.labels f :=
  (a.filteredFingerprint_eq_hash m.labels f).symm

theorem matchKey_eq_iff {m m' : Metric} :
    MatchKey.of a.hash f m = .of a.hash f m' ↔ m.labels.agreeOn m'.labels f = true := by
  constructor
  · intro h
    exact Labels.agreeOn_iff.2 (congrArg MatchKey.labels h)
  · intro h
    have hfingerprint := a.filteredFingerprint_of_agreeOn f h
    rw [← fingerprint_matchKey, ← fingerprint_matchKey] at hfingerprint
    rw [MatchKey.mk.injEq]
    exact ⟨hfingerprint, Labels.agreeOn_iff.1 h⟩

/-- A filtered fingerprint is the fingerprint of the restricted label set, for either hash and
every filter. Label sets that agree under the filter have the same, and series have the same match
key exactly if they agree. The order-free hash is the same in every order of the pairs. -/
theorem filtered_fingerprints :
    (∀ labels : Labels, a.filteredFingerprint labels f = a.fingerprint (labels.restrict f)) ∧
    (∀ labels labels' : Labels, labels.agreeOn labels' f = true ↔
      ∀ name, f.admits name = true → labels.get? name = labels'.get? name) ∧
    (∀ labels labels' : Labels, labels.agreeOn labels' f = true →
      a.filteredFingerprint labels f = a.filteredFingerprint labels' f) ∧
    (∀ m m' : Metric, (MatchKey.of a.hash f m).fingerprint = a.filteredFingerprint m.labels f ∧
      (MatchKey.of a.hash f m = .of a.hash f m' ↔ m.labels.agreeOn m'.labels f = true)) ∧
    ∀ pairs pairs' : List (String × String), pairs.Perm pairs' →
      fnv.hashPairs pairs = fnv.hashPairs pairs' := by
  refine ⟨a.filteredFingerprint_eq_restrict f, fun labels labels' => Labels.agreeOn_iff_get?,
    fun labels labels' => a.filteredFingerprint_of_agreeOn f, fun m m' => ?_,
    fun pairs pairs' h => ?_⟩
  · exact ⟨a.fingerprint_matchKey f m, a.matchKey_eq_iff f⟩
  · rw [hashPairs_eq_hash, hashPairs_eq_hash]
    exact Fingerprint.fnv_perm h

/-- Series of two names differ in a label that the filter leaves out. -/
theorem filtered_fingerprints_of_zones :
    let a : Labels := .ofList [("__name__", "up"), ("job", "api"), ("zone", "1")]
    let b : Labels := .ofList [("__name__", "down"), ("job", "api"), ("zone", "2")]
    let f : LabelFilter := ⟨.exclude, ["zone"], false⟩
    let pairs := [("job", "api"), ("zone", "1")]
    a ≠ b ∧ a.agreeOn b f = true ∧
      xxHash.filteredFingerprint a f = xxHash.filteredFingerprint b f ∧
      pairs.Perm pairs.reverse ∧ fnv.hashPairs pairs = fnv.hashPairs pairs.reverse := by
  intro a b f pairs
  obtain ⟨-, -, hagree, -, hperm⟩ := filtered_fingerprints xxHash f
  have h : a.agreeOn b f = true := by decide
  have hreverse : pairs.Perm pairs.reverse := pairs.reverse_perm.symm
  exact ⟨by decide, h, hagree a b h, hreverse, hperm _ _ hreverse⟩

end HashAlgorithm

end SeriesQuery
