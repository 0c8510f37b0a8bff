import SeriesQuery.Proofs.Pattern.Newlines
import SeriesQuery.Proofs.Pattern.Reading
import SeriesQuery.Proofs.Pattern.Searching
import SeriesQuery.Relabel

/-!
# Anchored patterns

A pattern is put between anchors as text, in a group that nothing but its own text could end. Where
the text does not end it, what comes out is the tree of the pattern itself between two anchors.
-/

namespace SeriesQuery.Pattern

open Reader

def readTreeWith? (flags : Flags) (text : String) : Option (Tree × List (String × Nat)) := do
  let (p, state) ← (readBranches (text.length + 1) maxDepth flags .start).run ⟨text.toList, 0, []⟩
  if !state.rest.isEmpty || maxDepth < p.depth then none else some (p.tree, state.groupNames)

theorem readTree?_eq_with (text : String) : readTree? text = readTreeWith? .initial text := rfl

/-- Whether a text ends a group that it has not begun. -/
def closesEarly (text : String) : Bool :=
  ((readBranches (text.length + 1) maxDepth .initial .start).run ⟨text.toList, 0, []⟩).any
    fun r => !r.2.rest.isEmpty

/-- What a dot matches does not decide which texts are patterns. -/
theorem readTreeWith?_alike {flags flags' : Flags} (h : flags.Alike flags') {text : String}
    {tree : Tree} {groups : List (String × Nat)}
    (hread : readTreeWith? flags text = some (tree, groups)) :
    ∃ tree', readTreeWith? flags' text = some (tree', groups) := by
  have halike := readBranches_alike h (b := .start) ⟨rfl, rfl⟩ (text.length + 1) maxDepth
    ⟨text.toList, 0, []⟩
  unfold readTreeWith? at hread ⊢
  generalize (readBranches (text.length + 1) maxDepth flags .start).run ⟨text.toList, 0, []⟩ = r,
    (readBranches (text.length + 1) maxDepth flags' .start).run ⟨text.toList, 0, []⟩ = r'
    at halike hread
  cases halike with
  | none => cases hread
  | @some q q' hq =>
    obtain ⟨part, t⟩ := q
    obtain ⟨part', t'⟩ := q'
    obtain ⟨hshape, rfl⟩ := hq
    have hdepth : part.depth = part'.depth := congrArg Prod.fst hshape
    change (if !t.rest.isEmpty || maxDepth < part.depth then none
      else some (part.tree, t.groupNames)) = some (tree, groups) at hread
    change ∃ tree', (if !t.rest.isEmpty || maxDepth < part'.depth then none
      else some (part'.tree, t.groupNames)) = some (tree', groups)
    rw [← hdepth]
    split_ifs at hread ⊢
    cases hread
    exact ⟨part'.tree, rfl⟩

theorem readTreeWith?_eq_some {flags : Flags} {text : String} {tree : Tree}
    {groups : List (String × Nat)} :
    readTreeWith? flags text = some (tree, groups) ↔
      ∃ p s, (readBranches (text.length + 1) maxDepth flags .start).run ⟨text.toList, 0, []⟩ =
        some (p, s) ∧ s.rest = [] ∧ p.depth ≤ maxDepth ∧ p.tree = tree ∧ s.groupNames = groups := by
  unfold readTreeWith?
  generalize (readBranches (text.length + 1) maxDepth flags .start).run ⟨text.toList, 0, []⟩ = r
  cases r with
  | none =>
    constructor
    · rintro ⟨⟩
    · rintro ⟨_, _, ⟨⟩, _⟩
  | some r =>
    obtain ⟨p, s⟩ := r
    change (if !s.rest.isEmpty || maxDepth < p.depth then none
      else some (p.tree, s.groupNames)) = some (tree, groups) ↔ _
    constructor
    · intro h
      split_ifs at h with hc
      rw [Bool.or_eq_true, not_or, Bool.not_eq_true', Bool.not_eq_false, List.isEmpty_iff,
        decide_eq_true_iff, Nat.not_lt] at hc
      cases h
      exact ⟨p, s, rfl, hc.1, hc.2, rfl, rfl⟩
    · rintro ⟨_, _, ⟨⟩, hrest, hdepth, rfl, rfl⟩
      rw [if_neg (by simp [hrest, hdepth])]

section

variable {fuel levels : Nat} {flags inner : Flags} {b : Branches} {s : ReadState} {x : List Char}

theorem readBranches_caret :
    (readBranches (fuel + 1) levels .initial b).run (s.on ('^' :: x)) =
      (readBranches fuel levels .initial (b.push (.ofTree (.assertion .textStart)))).run
        (s.on x) := rfl

theorem readBranches_dollar :
    (readBranches (fuel + 1) levels .initial b).run (s.on ('$' :: x)) =
      (readBranches fuel levels .initial (b.push (.ofTree (.assertion .textEnd)))).run
        (s.on x) := rfl

theorem readBranches_end :
    (readBranches (fuel + 1) levels .initial b).run (s.on []) = some (b.part, s.on []) := rfl

theorem readGroupStart_plain (s : ReadState) (x : List Char) :
    (readGroupStart .initial).run (s.on ("?:".toList ++ x)) = some (.group .initial, s.on x) := rfl

theorem readGroupStart_dots (s : ReadState) (x : List Char) :
    (readGroupStart .initial).run (s.on ("?s:".toList ++ x)) =
      some (.group (Flags.initial.withDots true), s.on x) := rfl

theorem readBranches_group {opening : List Char}
    (hopening : (readGroupStart .initial).run (s.on (opening ++ x)) =
      some (.group inner, s.on x)) :
    (readBranches (fuel + 1) (levels + 1) .initial b).run (s.on ('(' :: (opening ++ x))) =
      (readBranches fuel levels inner .start >>= fun p => expect ")" >>= fun _ =>
        readBranches fuel (levels + 1) .initial (b.push (p.nest p.tree))).run (s.on x) := by
  have hrest : rest.run (s.on ('(' :: (opening ++ x))) =
      some ('(' :: (opening ++ x), s.on ('(' :: (opening ++ x))) := rfl
  have hset : (setRest (opening ++ x)).run (s.on ('(' :: (opening ++ x))) =
      some ((), s.on (opening ++ x)) := rfl
  have hskip : (skipBlanks .initial).run (s.on ('(' :: (opening ++ x))) =
      some ((), s.on ('(' :: (opening ++ x))) := rfl
  rw [readBranches.eq_2, run_bind_some hskip, run_bind_some hrest]
  dsimp only
  rw [if_neg (by decide), run_bind_some hset]
  exact run_bind_some hopening

end

theorem closing_suffix_of_parenthesis {p z : List Char} (h : ')' :: z <:+ p ++ closing) :
    closing <:+ ')' :: z := by
  rcases List.suffix_or_suffix_of_suffix (List.suffix_append p closing) h with hclosing | hz
  · exact hclosing
  · rcases List.suffix_cons_iff.1 hz with hz | hz
    · exact hz ▸ List.suffix_rfl
    · rcases List.suffix_cons_iff.1 hz with hz | hz
      · cases hz
      · cases List.suffix_nil.1 hz

theorem run_expect_parenthesis {s t : ReadState} (h : (expect ")").run s = some ((), t)) :
    ∃ z, s.rest = ')' :: z ∧ t = s.on z := by
  by_cases hstarts : ")".toList <+: s.rest
  · obtain ⟨z, hz⟩ := hstarts
    have hs : s = s.on (')' :: z) := by
      rw [← List.singleton_append]
      exact hz ▸ rfl
    refine ⟨z, hz.symm, ?_⟩
    rw [hs] at h
    cases h
    rfl
  · have hnone : (expect ")").run (s.on s.rest) = none := by
      unfold expect
      rw [run_bind_some (run_accept_of_absent ")" hstarts)]
      rfl
    cases hnone.symm.trans h

/-- A text that ends no group that it has not begun is read to its end. -/
theorem rest_eq_nil_of_not_closesEarly {p : String} {inner : Flags} {part : Part} {t : ReadState}
    (hinner : inner.Alike .initial) (hp : closesEarly p = false)
    (h : (readBranches (p.length + 1) maxDepth inner .start).run ⟨p.toList, 0, []⟩ =
      some (part, t)) : t.rest = [] := by
  have halike := readBranches_alike hinner (b := .start) ⟨rfl, rfl⟩ (p.length + 1) maxDepth
    ⟨p.toList, 0, []⟩
  unfold closesEarly at hp
  generalize (readBranches (p.length + 1) maxDepth .initial .start).run ⟨p.toList, 0, []⟩ = r
    at halike hp
  rw [h] at halike
  cases halike with
  | some hq =>
    rw [Option.any_some, Bool.not_eq_false', ← hq.2] at hp
    exact List.isEmpty_iff.1 hp

theorem readTree?_between {text p : String} {opening : List Char} {inner : Flags}
    (htext : text.toList = '^' :: '(' :: (opening ++ (p.toList ++ closing)))
    (hopening : ∀ (s : ReadState) (x : List Char),
      (readGroupStart .initial).run (s.on (opening ++ x)) = some (.group inner, s.on x))
    (hinner : inner.Alike .initial) (hp : closesEarly p = false) {tree : Tree}
    {groups : List (String × Nat)} (h : readTree? text = some (tree, groups)) :
    ∃ t, readTreeWith? inner p = some (t, groups) ∧ tree = t.anchored := by
  rw [readTree?_eq_with] at h
  obtain ⟨part, t, hrun, hend, hdepth, rfl, rfl⟩ := readTreeWith?_eq_some.1 h
  have hlength : text.length = opening.length + p.length + 3 + 1 := by
    rw [← String.length_toList, htext, ← String.length_toList]
    simp [closing]
    omega
  have hstate : (⟨text.toList, 0, []⟩ : ReadState) =
      (⟨[], 0, []⟩ : ReadState).on ('^' :: '(' :: (opening ++ (p.toList ++ closing))) := by
    rw [htext]
    rfl
  have hlevels : maxDepth = 249 + 1 := rfl
  rw [hlength, hstate, readBranches_caret, hlevels, readBranches_group (hopening _ _)] at hrun
  obtain ⟨q, u, hq, hrest⟩ := run_bind_eq_some.1 hrun
  obtain ⟨_, w, hexpect, hrest⟩ := run_bind_eq_some.1 hrest
  obtain ⟨z, hz, rfl⟩ := run_expect_parenthesis hexpect
  have hfuel : (p.toList ++ closing).length ≤ p.length + 2 := by
    rw [List.length_append, String.length_toList]
    rfl
  have hlevel : 249 ≤ 250 := Nat.le_succ 249
  obtain ⟨hu, halone⟩ := readBranches_follows p.length hlevel hfuel _ _ _ hq
  have hclosing : closing <:+ u.rest := hz ▸ closing_suffix_of_parenthesis (hz ▸ hu)
  have halone := halone hclosing
  rw [beforeClosing_append] at halone
  have hwhole : beforeClosing u.rest = [] := rest_eq_nil_of_not_closesEarly hinner hp halone
  have hz' : z = ['$'] := by
    obtain ⟨r, hr⟩ := hclosing
    rw [← hr, beforeClosing_append] at hwhole
    rw [← hr, hwhole] at hz
    exact (List.cons.inj hz).2.symm
  rw [hz', readBranches_dollar, readBranches_end] at hrest
  cases hrest
  rw [hwhole] at halone
  have hdepth' : max (max (max 0 0) (q.depth + 1)) 0 + 1 ≤ 250 := hdepth
  refine ⟨q.tree, readTreeWith?_eq_some.2 ⟨q, _, halone, rfl, ?_, rfl, rfl⟩, rfl⟩
  have hmax : maxDepth = 250 := rfl
  omega

theorem ofString?_eq_some {text : String} {pattern : Pattern} (h : ofString? text = some pattern) :
    ∃ tree groups, readTree? text = some (tree, groups) ∧ pattern = ofTree tree groups := by
  obtain ⟨⟨tree, groups⟩, hread, hfits⟩ := Option.bind_eq_some_iff.1 h
  refine ⟨tree, groups, hread, ?_⟩
  change (if tree.fits then some (ofTree tree groups) else none) = some pattern at hfits
  split_ifs at hfits
  exact (Option.some.inj hfits).symm

/-- The pattern of a tree between anchors is found where the tree matches the whole text. -/
theorem isMatch_anchored {t : Tree} {groups : List (String × Nat)} {s : String} :
    (ofTree t.anchored groups).isMatch s = true ↔ t.MatchesAll s.toList := by
  rw [isMatch_ofTree]
  constructor
  · rintro ⟨i, hi, j, h⟩
    exact ((Tree.matches_anchored hi).1 h).2.2
  · intro h
    exact ⟨0, Nat.zero_le _, s.toList.length,
      (Tree.matches_anchored (Nat.zero_le _)).2 ⟨rfl, rfl, h⟩⟩

theorem anchored?_eq_some {p : String} (hp : closesEarly p = false) {pattern : Pattern}
    (h : anchored? p = some pattern) :
    ∃ tree groups, readTree? p = some (tree, groups) ∧ pattern = ofTree tree.anchored groups := by
  obtain ⟨_, groups, hread, rfl⟩ := ofString?_eq_some h
  have htext : ("^(?:" ++ p ++ ")$").toList =
      '^' :: '(' :: ("?:".toList ++ (p.toList ++ closing)) := by
    rw [String.toList_append, String.toList_append, List.append_assoc]
    rfl
  obtain ⟨tree, htree, rfl⟩ := readTree?_between htext readGroupStart_plain (.refl _) hp hread
  exact ⟨tree, groups, (readTree?_eq_with p).trans htree, rfl⟩

/-- In a group whose dots match newlines too, the pattern is still one by itself. -/
theorem ofString?_dots_eq_some {p : String} (hp : closesEarly p = false) {pattern : Pattern}
    (h : ofString? ("^(?s:" ++ p ++ ")$") = some pattern) :
    ∃ plain tree groups, readTree? p = some (plain, groups) ∧
      readTreeWith? (Flags.initial.withDots true) p = some (tree, groups) ∧
      pattern = ofTree tree.anchored groups := by
  obtain ⟨_, groups, hread, rfl⟩ := ofString?_eq_some h
  have htext : ("^(?s:" ++ p ++ ")$").toList =
      '^' :: '(' :: ("?s:".toList ++ (p.toList ++ closing)) := by
    rw [String.toList_append, String.toList_append, List.append_assoc]
    rfl
  have halike : (Flags.initial.withDots true).Alike .initial := ⟨false, rfl⟩
  obtain ⟨tree, htree, rfl⟩ := readTree?_between htext readGroupStart_dots halike hp hread
  obtain ⟨plain, hplain⟩ := readTreeWith?_alike halike htree
  exact ⟨plain, tree, groups, (readTree?_eq_with p).trans hplain, htree, rfl⟩

end Pattern

theorem LabelMatcher.of?_eq_ok {name value : String} {op : MatchOp} {m : LabelMatcher}
    (hop : op.isRegex = true) (h : LabelMatcher.of? name op value = .ok m) :
    m.name = name ∧ m.op = op ∧ m.pattern.isSome = true ∧ m.pattern = Pattern.anchored? value := by
  unfold of? at h
  dsimp only at h
  split_ifs at h with hnone
  cases h
  have hpattern : (of name op value).pattern = Pattern.anchored? value := if_pos hop
  refine ⟨rfl, rfl, ?_, hpattern⟩
  rw [hop, Bool.true_and, Bool.not_eq_true, Option.isNone_eq_false_iff] at hnone
  exact hnone

theorem LabelMatcher.of?_eq_of {name value : String} {op : MatchOp}
    (h : (of name op value).pattern.isSome = true) :
    LabelMatcher.of? name op value = .ok (of name op value) := by
  unfold of?
  dsimp only
  rw [if_neg]
  rw [Bool.and_eq_true, not_and, Bool.not_eq_true, Option.isNone_eq_false_iff]
  exact fun _ => h

theorem LabelReplace.of?_eq_mk (target template source : String) {pattern : String}
    {found : Pattern}
    (h : Pattern.ofString? ("^(?s:" ++ pattern ++ ")$") = some found)
    (hname : checkLabelName target = .ok ()) :
    LabelReplace.of? target template source pattern = .ok ⟨target, template, source, found⟩ := by
  unfold of?
  rw [h]
  dsimp only
  rw [hname]
  rfl

theorem LabelReplace.of?_eq_ok {target template source pattern : String} {r : LabelReplace}
    (h : LabelReplace.of? target template source pattern = .ok r) :
    Pattern.ofString? ("^(?s:" ++ pattern ++ ")$") = some r.pattern := by
  unfold of? at h
  cases hread : Pattern.ofString? ("^(?s:" ++ pattern ++ ")$") with
  | none =>
    rw [hread] at h
    cases h
  | some found =>
    rw [hread] at h
    cases hname : checkLabelName target with
    | error fault =>
      simp only [hname] at h
      cases h
    | ok =>
      simp only [hname] at h
      cases h
      rfl

/-- A regular expression that ends no group but its own is accepted only if it is one by itself. The
matcher holds for the values that it matches as a whole, or for the others if the matcher is
negated; a replacement takes place for the values that it matches where its dots match newlines
too. The program is that of its own tree between two anchors, with its own groups. -/
theorem patterns_match_whole_values {p : String} (hp : Pattern.closesEarly p = false) :
    (∀ name op m, op.isRegex = true → LabelMatcher.of? name op p = .ok m →
      ∃ tree groups, Pattern.readTree? p = some (tree, groups) ∧
        m.pattern = some (Pattern.ofTree tree.anchored groups) ∧
        ∀ value, m.admits value = true ↔ (tree.MatchesAll value.toList ↔ op = .regex)) ∧
    ∀ target template source r, LabelReplace.of? target template source p = .ok r →
      ∃ plain tree groups, Pattern.readTree? p = some (plain, groups) ∧
        Pattern.readTreeWith? (Pattern.Flags.initial.withDots true) p = some (tree, groups) ∧
        r.pattern = Pattern.ofTree tree.anchored groups ∧
        ∀ value, (r.pattern.captures? value).isSome = true ↔ tree.MatchesAll value.toList := by
  constructor
  · intro name op m hop hm
    obtain ⟨-, rfl, hsome, hread⟩ := LabelMatcher.of?_eq_ok hop hm
    obtain ⟨pattern, hpattern⟩ := Option.isSome_iff_exists.1 hsome
    obtain ⟨tree, groups, hread, rfl⟩ := Pattern.anchored?_eq_some hp (hread.symm.trans hpattern)
    refine ⟨tree, groups, hread, hpattern, fun value => ?_⟩
    have hmatch : (Pattern.ofTree tree.anchored groups).isMatch value = true ↔
        tree.MatchesAll value.toList := Pattern.isMatch_anchored
    unfold LabelMatcher.admits
    rw [hpattern, ← hmatch]
    cases hm : m.op with
    | equal | notEqual =>
      rw [hm] at hop
      cases hop
    | regex => exact (iff_true_right rfl).symm
    | notRegex =>
      rw [Option.all_some, Bool.not_eq_true', ← Bool.not_eq_true]
      exact (iff_false_right nofun).symm
  · intro target template source r hr
    obtain ⟨plain, tree, groups, hplain, htree, hpattern⟩ :=
      Pattern.ofString?_dots_eq_some hp (LabelReplace.of?_eq_ok hr)
    refine ⟨plain, tree, groups, hplain, htree, hpattern, fun value => ?_⟩
    rw [hpattern]
    exact Pattern.isMatch_anchored

theorem alternatives_match_whole_values : Pattern.closesEarly "a|b" = false ∧
    (∃ m, LabelMatcher.of? "job" .regex "a|b" = .ok m ∧ ∃ tree groups,
      Pattern.readTree? "a|b" = some (tree, groups) ∧
        ∀ value, m.admits value = true ↔ tree.MatchesAll value.toList) ∧
    ∃ r, LabelReplace.of? "job" "" "job" "a|b" = .ok r ∧ ∃ tree groups,
      Pattern.readTreeWith? (Pattern.Flags.initial.withDots true) "a|b" = some (tree, groups) ∧
        ∀ value, (r.pattern.captures? value).isSome = true ↔ tree.MatchesAll value.toList := by
  have hp : Pattern.closesEarly "a|b" = false := by decide +kernel
  have hm := LabelMatcher.of?_eq_of
    (by decide +kernel : (LabelMatcher.of "job" .regex "a|b").pattern.isSome = true)
  obtain ⟨found, hfound⟩ := Option.isSome_iff_exists.1
    (by decide +kernel : (Pattern.ofString? ("^(?s:" ++ "a|b" ++ ")$")).isSome = true)
  have hr := LabelReplace.of?_eq_mk "job" "" "job" hfound rfl
  obtain ⟨hmatchers, hreplacements⟩ := patterns_match_whole_values hp
  obtain ⟨tree, groups, hread, -, hadmits⟩ := hmatchers _ _ _ rfl hm
  obtain ⟨-, tree', groups', -, hread', -, hfind⟩ := hreplacements _ _ _ _ hr
  refine ⟨hp, ⟨_, hm, tree, groups, hread, fun value => ?_⟩, _, hr, tree', groups', hread', hfind⟩
  exact (hadmits value).trans (iff_true_right rfl)

/-- A pattern may end the group that it is put in. What it has before that stands without the last
anchor then, and what it has behind it without the first. -/
theorem closing_pattern_accepted : Pattern.readTree? "a)|(?:b" = none ∧
    (∃ m, LabelMatcher.of? "job" .regex "a)|(?:b" = .ok m ∧ m.admits "axyz" = true) ∧
    ∃ r, LabelReplace.of? "job" "" "job" "a)|(?:b" = .ok r ∧
      (r.pattern.captures? "axyz").isSome = true := by
  have hm := LabelMatcher.of?_eq_of
    (by decide +kernel : (LabelMatcher.of "job" .regex "a)|(?:b").pattern.isSome = true)
  obtain ⟨found, hfound, hfind⟩ := (Option.any_eq_true _ _).1
    (by decide +kernel : (Pattern.ofString? ("^(?s:" ++ "a)|(?:b" ++ ")$")).any
      (fun found => (found.captures? "axyz").isSome) = true)
  have hr := LabelReplace.of?_eq_mk "job" "" "job" hfound rfl
  exact ⟨by decide +kernel, ⟨_, hm, by decide +kernel⟩, _, hr, hfind⟩

end SeriesQuery
