import Mathlib.Data.List.Perm.Subperm
import SeriesQuery.Proofs.Spans.Calls

/-!
# Rendering spans

A span is rendered if a span without a parent is reached from it by going from parent to parent. As
a span has one parent, no span is met twice on the way, so there are no more of them than spans, and
a rendering that visits a span before what is inside it comes to an end.
-/

namespace SeriesQuery

namespace Recorder

/-- The spans inside a span, in the order in which they start. -/
def inside (spans : List Span) (s : Span) : List Span :=
  spans.filter fun t => t.parent = some s.id

def outermost (spans : List Span) : List Span := spans.filter fun s => s.parent.isNone

theorem mem_inside {spans : List Span} {s t : Span} :
    t ∈ inside spans s ↔ t ∈ spans ∧ t.parent = some s.id := by
  simp [inside]

theorem mem_outermost {spans : List Span} {s : Span} :
    s ∈ outermost spans ↔ s ∈ spans ∧ s.parent = none := by
  simp [outermost]

mutual

/-- A span is printed as its own line and then all that is inside it, one level deeper. Nothing
bounds the depth: what has been printed has come to an end. -/
inductive Prints (spans : List Span) : Nat → Span → List String → Prop
  | span {depth : Nat} {s : Span} {below : List String} :
    PrintsAll spans (depth + 1) (inside spans s) below →
      Prints spans depth s (line depth s :: below)

inductive PrintsAll (spans : List Span) : Nat → List Span → List String → Prop
  | nil {depth : Nat} : PrintsAll spans depth [] []
  | cons {depth : Nat} {s : Span} {rest : List Span} {own others : List String} :
    Prints spans depth s own → PrintsAll spans depth rest others →
      PrintsAll spans depth (s :: rest) (own ++ others)

end

mutual

theorem Prints.unique {spans : List Span} {depth : Nat} {s : Span} {l l' : List String} :
    Prints spans depth s l → Prints spans depth s l' → l = l'
  | .span h, .span h' => congrArg (line depth s :: ·) (h.unique h')

theorem PrintsAll.unique {spans : List Span} {depth : Nat} {ss : List Span} {l l' : List String} :
    PrintsAll spans depth ss l → PrintsAll spans depth ss l' → l = l'
  | .nil, .nil => rfl
  | .cons h hrest, .cons h' hrest' => congrArg₂ (· ++ ·) (h.unique h') (hrest.unique hrest')

end

theorem PrintsAll.flatMap {spans ss : List Span} {depth : Nat} {f : Span → List String}
    (h : ∀ s ∈ ss, Prints spans depth s (f s)) : PrintsAll spans depth ss (ss.flatMap f) := by
  induction ss with
  | nil => exact .nil
  | cons s rest ih =>
    rw [List.flatMap_cons]
    exact .cons (h s (.head _)) (ih fun t ht => h t (.tail _ ht))

/-- The numbers of the spans from one without a parent down to a span. -/
inductive Trail (spans : List Span) : List Nat → Span → Prop
  | root {s : Span} : s ∈ spans → s.parent = none → Trail spans [s.id] s
  | child {p : List Nat} {s t : Span} :
    Trail spans p s → t ∈ spans → t.parent = some s.id → Trail spans (p ++ [t.id]) t

namespace Trail

variable {spans : List Span} {p q : List Nat} {s t : Span}

theorem mem (h : Trail spans p s) : s ∈ spans := by
  cases h <;> assumption

theorem ne_nil (h : Trail spans p s) : p ≠ [] := by
  cases h with
  | root => exact List.cons_ne_nil _ _
  | child => exact List.append_ne_nil_of_right_ne_nil _ (List.cons_ne_nil _ _)

theorem getLast?_eq (h : Trail spans p s) : p.getLast? = some s.id := by
  cases h with
  | root => rfl
  | child => exact List.getLast?_concat

theorem subset (h : Trail spans p s) : p ⊆ spans.map Span.id := by
  induction h with
  | root hs _ => exact List.cons_subset.2 ⟨List.mem_map_of_mem hs, List.nil_subset _⟩
  | child _ ht _ ih =>
    refine List.append_subset.2 ⟨ih, ?_⟩
    exact List.cons_subset.2 ⟨List.mem_map_of_mem ht, List.nil_subset _⟩

/-- Each part of a trail from its start is the trail of a span. -/
theorem of_prefix (h : Trail spans p s) (hq : q <+: p) (hne : q ≠ []) :
    ∃ t, Trail spans q t := by
  induction h with
  | root hs hparent =>
    obtain hnil | rfl := List.prefix_cons_iff.1 hq |>.imp_right fun ⟨r, hr, hpre⟩ =>
      hr.trans (congrArg (_ :: ·) (List.prefix_nil.1 hpre))
    · exact absurd hnil hne
    · exact ⟨_, .root hs hparent⟩
  | child hp ht hparent ih =>
    rcases List.prefix_concat_iff.1 hq with rfl | hq
    · exact ⟨_, .child hp ht hparent⟩
    · exact ih hq

theorem exists_outermost (h : Trail spans p s) : ∃ t ∈ outermost spans, [t.id] <+: p := by
  induction h with
  | root hs hparent => exact ⟨_, mem_outermost.2 ⟨hs, hparent⟩, List.prefix_rfl⟩
  | child _ _ _ ih =>
    obtain ⟨t, ht, hpre⟩ := ih
    exact ⟨t, ht, hpre.trans (List.prefix_append _ _)⟩

variable (hids : (spans.map Span.id).Nodup)
include hids

theorem eq_of_id (hs : s ∈ spans) (ht : t ∈ spans) (h : s.id = t.id) : s = t :=
  List.inj_on_of_nodup_map hids hs ht h

theorem unique (hp : Trail spans p s) (hq : Trail spans q s) : p = q := by
  induction hp generalizing q with
  | root _ hparent =>
    cases hq with
    | root => rfl
    | child _ _ hparent' => cases hparent.symm.trans hparent'
  | child hp _ hparent ih =>
    cases hq with
    | root _ hparent' => cases hparent.symm.trans hparent'
    | child hq _ hparent' =>
      have hid := Option.some.inj (hparent.symm.trans hparent')
      obtain rfl := eq_of_id hids hp.mem hq.mem hid
      rw [ih hq]

theorem eq_span (hs : Trail spans p s) (ht : Trail spans p t) : s = t :=
  eq_of_id hids hs.mem ht.mem (Option.some.inj (hs.getLast?_eq.symm.trans ht.getLast?_eq))

/-- No span is met twice on a trail: the part of the trail up to where it is met first would be a
second, shorter trail of it. -/
theorem nodup (h : Trail spans p s) : p.Nodup := by
  induction h with
  | root => exact List.nodup_singleton _
  | @child p s t hp ht hparent ih =>
    refine List.nodup_append.2 ⟨ih, List.nodup_singleton _, ?_⟩
    rintro id hid _ hlast rfl
    obtain rfl := List.mem_singleton.1 hlast
    obtain ⟨before, after, rfl⟩ := List.append_of_mem hid
    obtain ⟨u, hu⟩ := hp.of_prefix (q := before ++ [t.id]) ⟨after, by simp⟩ (by simp)
    have huid : u.id = t.id :=
      Option.some.inj (hu.getLast?_eq.symm.trans List.getLast?_concat)
    obtain rfl := eq_of_id hids hu.mem ht huid
    have hsame := hu.unique hids (.child hp ht hparent)
    have hlength := congrArg List.length hsame
    simp at hlength

theorem length_le (h : Trail spans p s) : p.length ≤ spans.length := by
  rw [← List.length_map Span.id]
  exact (List.subperm_of_subset (h.nodup hids) h.subset).length_le

end Trail

/-- The spans of which the lines are printed, with their trails. -/
def visitsOf (spans : List Span) : Nat → List Nat → Span → List (List Nat × Span)
  | 0, _, _ => []
  | fuel + 1, p, s =>
    (p, s) :: (inside spans s).flatMap fun t => visitsOf spans fuel (p ++ [t.id]) t

def visits (spans : List Span) : List (List Nat × Span) :=
  (outermost spans).flatMap fun s => visitsOf spans spans.length [s.id] s

def visitLine (v : List Nat × Span) : String := line (v.1.length - 1) v.2

theorem linesOf_eq_map (spans : List Span) (fuel : Nat) (p : List Nat) (s : Span) (hp : p ≠ []) :
    linesOf spans fuel (p.length - 1) s = (visitsOf spans fuel p s).map visitLine := by
  induction fuel generalizing p s with
  | zero => rfl
  | succ fuel ih =>
    unfold linesOf visitsOf
    rw [List.map_cons, List.map_flatMap]
    refine congrArg (line (p.length - 1) s :: ·) (congrArg (List.flatMap · _) (funext fun t => ?_))
    rw [← ih (p ++ [t.id]) t (by simp), List.length_append, List.length_singleton,
      Nat.add_sub_cancel, Nat.sub_add_cancel (List.length_pos_of_ne_nil hp)]

theorem lines_eq_map (r : Recorder) : r.lines = (visits r.spans).map visitLine := by
  unfold lines visits
  rw [List.map_flatMap]
  refine congrArg (List.flatMap · _) (funext fun s => ?_)
  exact linesOf_eq_map r.spans r.spans.length [s.id] s (List.cons_ne_nil _ _)

variable {spans : List Span}

theorem prefix_of_mem_visitsOf {fuel : Nat} {p : List Nat} {s : Span} {v : List Nat × Span}
    (h : v ∈ visitsOf spans fuel p s) : p <+: v.1 := by
  induction fuel generalizing p s with
  | zero => cases h
  | succ fuel ih =>
    rcases List.mem_cons.1 h with rfl | h
    · exact List.prefix_rfl
    · obtain ⟨t, -, ht⟩ := List.mem_flatMap.1 h
      exact (List.prefix_append _ _).trans (ih ht)

section

variable (hids : (spans.map Span.id).Nodup)
include hids

/-- The visits below a span are those whose trails go on from its own. -/
theorem mem_visitsOf_iff {fuel : Nat} {p : List Nat} {s : Span} (hp : Trail spans p s)
    (hfuel : spans.length < fuel + p.length) {q : List Nat} {t : Span} :
    (q, t) ∈ visitsOf spans fuel p s ↔ p <+: q ∧ Trail spans q t := by
  induction fuel generalizing p s with
  | zero =>
    have hlength := hp.length_le hids
    omega
  | succ fuel ih =>
    have hdeeper (u : Span) (hu : u ∈ inside spans s) :
        (q, t) ∈ visitsOf spans fuel (p ++ [u.id]) u ↔ (p ++ [u.id]) <+: q ∧ Trail spans q t := by
      obtain ⟨hmem, hparent⟩ := mem_inside.1 hu
      refine ih (.child hp hmem hparent) ?_
      rw [List.length_append, List.length_singleton]
      omega
    unfold visitsOf
    rw [List.mem_cons, List.mem_flatMap]
    constructor
    · rintro (hself | ⟨u, hu, hv⟩)
      · cases hself
        exact ⟨List.prefix_rfl, hp⟩
      · obtain ⟨hpre, hq⟩ := (hdeeper u hu).1 hv
        exact ⟨(List.prefix_append _ _).trans hpre, hq⟩
    · rintro ⟨⟨more, rfl⟩, hq⟩
      cases more with
      | nil =>
        rw [List.append_nil] at hq ⊢
        exact .inl (congrArg (p, ·) (hq.eq_span hids hp))
      | cons id more =>
        have hpre : (p ++ [id]) <+: (p ++ id :: more) := ⟨more, by simp⟩
        obtain ⟨u, hu⟩ := hq.of_prefix hpre (by simp)
        have hid : u.id = id := Option.some.inj (hu.getLast?_eq.symm.trans List.getLast?_concat)
        subst hid
        -- the span before the last of a trail is the parent of the last
        have hinside : u ∈ inside spans s := by
          generalize htrail : p ++ [u.id] = trail at hu
          cases hu with
          | root =>
            obtain ⟨rfl, -⟩ := List.append_eq_singleton_iff.1 htrail |>.resolve_right
              fun h => List.cons_ne_nil _ _ h.2
            exact absurd rfl hp.ne_nil
          | child hp' hmem hparent =>
            obtain rfl := List.append_cancel_right htrail
            rw [hp'.eq_span hids hp] at hparent
            exact mem_inside.2 ⟨hmem, hparent⟩
        exact .inr ⟨u, hinside, (hdeeper u hinside).2 ⟨hpre, hq⟩⟩

theorem mem_visits_iff {q : List Nat} {t : Span} : (q, t) ∈ visits spans ↔ Trail spans q t := by
  have hroot (s : Span) (hs : s ∈ outermost spans) :
      (q, t) ∈ visitsOf spans spans.length [s.id] s ↔ [s.id] <+: q ∧ Trail spans q t := by
    obtain ⟨hmem, hparent⟩ := mem_outermost.1 hs
    exact mem_visitsOf_iff hids (.root hmem hparent) (Nat.lt_succ_self _)
  unfold visits
  rw [List.mem_flatMap]
  constructor
  · rintro ⟨s, hs, hv⟩
    exact ((hroot s hs).1 hv).2
  · intro hq
    obtain ⟨s, hs, hpre⟩ := hq.exists_outermost
    exact ⟨s, hs, (hroot s hs).2 ⟨hpre, hq⟩⟩

/-- A span is printed up to the end, as its trail with those of the spans inside it is too short
for the bound on the depth to be met. -/
theorem prints_linesOf {fuel : Nat} {p : List Nat} {s : Span} (hp : Trail spans p s)
    (hfuel : spans.length < fuel + p.length) :
    Prints spans (p.length - 1) s (linesOf spans fuel (p.length - 1) s) := by
  induction fuel generalizing p s with
  | zero =>
    have hlength := hp.length_le hids
    omega
  | succ fuel ih =>
    unfold linesOf
    refine .span (.flatMap fun t ht => ?_)
    obtain ⟨hmem, hparent⟩ := mem_inside.1 ht
    have hinside := ih (.child hp hmem hparent) (by
      rw [List.length_append, List.length_singleton]
      omega)
    rwa [List.length_append, List.length_singleton, Nat.add_sub_cancel,
      ← Nat.sub_add_cancel (List.length_pos_of_ne_nil hp.ne_nil)] at hinside

end

theorem lt_of_concat_prefix {p q : List Nat} {id : Nat} (h : p ++ [id] <+: q) : p < q := by
  obtain ⟨more, rfl⟩ := h
  have hlt : p ++ [] < p ++ ([id] ++ more) := List.append_left_lt (List.nil_lt_cons id more)
  rwa [List.append_nil, ← List.append_assoc] at hlt

theorem lt_of_siblings {p q q' : List Nat} {id id' : Nat} (h : id < id') (hq : p ++ [id] <+: q)
    (hq' : p ++ [id'] <+: q') : q < q' := by
  obtain ⟨more, rfl⟩ := hq
  obtain ⟨more', rfl⟩ := hq'
  rw [List.append_assoc, List.append_assoc]
  exact List.append_left_lt (List.cons_lt_cons_iff.2 (.inl h))

theorem pairwise_visitsOf (hsorted : spans.Pairwise (·.id < ·.id)) (fuel : Nat) (p : List Nat)
    (s : Span) : (visitsOf spans fuel p s).Pairwise (·.1 < ·.1) := by
  induction fuel generalizing p s with
  | zero => exact .nil
  | succ fuel ih =>
    unfold visitsOf
    refine List.pairwise_cons.2 ⟨?_, List.pairwise_flatMap.2 ⟨fun t _ => ih _ t, ?_⟩⟩
    · intro v hv
      obtain ⟨t, -, ht⟩ := List.mem_flatMap.1 hv
      exact lt_of_concat_prefix (prefix_of_mem_visitsOf ht)
    · refine (hsorted.filter _).imp fun hlt v hv w hw => ?_
      exact lt_of_siblings hlt (prefix_of_mem_visitsOf hv) (prefix_of_mem_visitsOf hw)

theorem pairwise_visits (hsorted : spans.Pairwise (·.id < ·.id)) :
    (visits spans).Pairwise (·.1 < ·.1) := by
  refine List.pairwise_flatMap.2 ⟨fun s _ => pairwise_visitsOf hsorted _ _ s, ?_⟩
  refine (hsorted.filter _).imp fun hlt v hv w hw => ?_
  exact lt_of_siblings (p := []) hlt (prefix_of_mem_visitsOf hv) (prefix_of_mem_visitsOf hw)

theorem nodup_visits (hids : (spans.map Span.id).Nodup) (hsorted : spans.Pairwise (·.id < ·.id)) :
    ((visits spans).map Prod.snd).Nodup := by
  refine List.pairwise_map.2 ((pairwise_visits hsorted).imp_of_mem ?_)
  rintro ⟨p, s⟩ ⟨q, t⟩ hv hw hlt rfl
  have hp := (mem_visits_iff hids).1 hv
  rw [hp.unique hids ((mem_visits_iff hids).1 hw)] at hlt
  exact List.lt_irrefl _ hlt

theorem Numbered.pairwise {r : Recorder} (h : r.Numbered) : r.spans.Pairwise (·.id < ·.id) := by
  have hpairwise : (r.spans.map Span.id).Pairwise (· < ·) := by
    rw [h]
    exact List.pairwise_lt_range'
  exact List.pairwise_map.1 hpairwise

structure Records (calls : List SpanCall) (given : List Nat) (r : Recorder) : Prop where
  given_eq : given = List.range' 1 r.spans.length
  ids_eq : r.spans.map Span.id = given
  spans_eq : r.spans = spansStarted 1 calls
  finish_eq : ∀ now id, (∀ s ∈ r.spans, s.id = id → s.duration.isSome) → r.finishLast now id = r

/-- A rendering comes to an end. Its lines are those of the spans that have a trail, each once, in
the order of the trails: a span comes right before the spans inside it, and those come in the order
of their numbers. -/
structure Shows (r : Recorder) (shown : List (List Nat × Span)) : Prop where
  mem_iff : ∀ p s, (p, s) ∈ shown ↔ Trail r.spans p s
  once : (shown.map Prod.snd).Nodup
  ordered : shown.Pairwise (·.1 < ·.1)
  printed : ∀ lines,
    PrintsAll r.spans 0 (outermost r.spans) lines ↔ lines = shown.map visitLine
  render_eq : r.render = String.join (shown.map fun v => visitLine v ++ "\n")

theorem Numbered.shows {r : Recorder} (h : r.Numbered) : Shows r (visits r.spans) where
  mem_iff p s := mem_visits_iff h.nodup
  once := nodup_visits h.nodup h.pairwise
  ordered := pairwise_visits h.pairwise
  printed lines := by
    have hprints : PrintsAll r.spans 0 (outermost r.spans) r.lines := by
      refine .flatMap fun s hs => ?_
      obtain ⟨hmem, hparent⟩ := mem_outermost.1 hs
      exact prints_linesOf h.nodup (.root hmem hparent) (Nat.lt_succ_self _)
    rw [← lines_eq_map]
    refine ⟨fun hlines => hlines.unique hprints, ?_⟩
    rintro rfl
    exact hprints
  render_eq := by
    unfold render
    rw [lines_eq_map, List.map_map]
    rfl

/-- Whatever is called, spans are numbered from one and end once, and a rendering comes to an end
with the lines of the spans that are reached from one without a parent. -/
theorem rendering_complete (calls : List SpanCall) :
    ∃ given r shown, empty.callAll calls = (given, r) ∧ Records calls given r ∧ Shows r shown := by
  have hnumbered := numbered_recorded calls
  refine ⟨_, _, _, rfl, ?_, hnumbered.shows⟩
  exact {
    given_eq := (ids_recorded calls).trans hnumbered
    ids_eq := (ids_recorded calls).symm
    spans_eq := spans_recorded calls
    finish_eq := fun now id hended => finishLast_of_not_open hnumbered hended now }

/-- Spans inside themselves, inside each other or inside none that exists are not shown. -/
example : (recorded [.start 0 "query" none, .start 1 "own" (some 2), .start 2 "later" (some 4),
    .start 3 "earlier" (some 3), .start 4 "lost" (some 9), .start 5 "selector" (some 1),
    .finish 2005 6, .finish 9005 6]).lines = ["query (open)", "  selector 2µs"] := by
  decide +kernel

end Recorder

end SeriesQuery
