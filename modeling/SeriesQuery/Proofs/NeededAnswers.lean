import SeriesQuery.Evaluation.Stepwise
import SeriesQuery.Proofs.Expr.Typing

/-!
# What an evaluation needs

A call takes the values of its arguments where it needs them. A checked call needs all of them,
unless it relabels, so nothing changes when the values are found before the call. No selector of a
checked expression is skipped, whatever the others are answered with, so an evaluation that
succeeds has had an answer to each of them.
-/

namespace SeriesQuery

variable {α : Type}

namespace Stepwise

variable {values : List (Except QueryError (Value α))} {f : Function}

def AllFound (values : List (Except QueryError (Value α))) : Prop :=
  ∀ x ∈ values, ∃ v, x = .ok v

theorem getElem?_of_argument {k : Nat} {v : Value α} (h : argument values k = .ok v) :
    values[k]? = some (.ok v) := by
  unfold argument at h
  cases hget : values[k]? with
  | none =>
    rw [hget] at h
    cases h
  | some x =>
    rw [hget] at h
    exact congrArg some h

theorem allFound_of_argument
    (h : ∀ k, k < values.length → ∃ v, argument values k = .ok v) : AllFound values := by
  intro x hx
  obtain ⟨k, hk⟩ := List.mem_iff_getElem?.1 hx
  obtain ⟨v, hv⟩ := h k (List.getElem?_eq_some_iff.1 hk).1
  have hget := getElem?_of_argument hv
  rw [hk, Option.some.injEq] at hget
  exact ⟨v, hget⟩

theorem argument_of_vectorArg {k : Nat} {v : SeriesMap α} (h : vectorArg values k = .ok v) :
    ∃ x, argument values k = .ok x := by
  obtain ⟨x, hx, -⟩ := bind_eq_ok_iff.1 h
  exact ⟨x, hx⟩

theorem argument_of_scalarArg {k : Nat} {v : α} (h : scalarArg values k = .ok v) :
    ∃ x, argument values k = .ok x := by
  obtain ⟨x, hx, -⟩ := bind_eq_ok_iff.1 h
  exact ⟨x, hx⟩

theorem allFound_of_first (hlen : values.length ≤ 1) (h : ∃ x, argument values 0 = .ok x) :
    AllFound values := by
  refine allFound_of_argument fun k hk => ?_
  obtain rfl : k = 0 := by omega
  exact h

theorem allFound_of_mapArg {value : α → α} {v : Value α} (hlen : values.length ≤ 1)
    (h : mapArg f value values = .ok v) : AllFound values := by
  obtain ⟨x, hx, -⟩ := bind_eq_ok_iff.1 h
  exact allFound_of_first hlen (argument_of_vectorArg hx)

variable [SampleValue α]

theorem allFound_of_callWindow {t : Int} {args : List (Expr α)} {v : Value α}
    (h : callWindow t f args values = .ok v) : AllFound values := by
  unfold callWindow at h
  obtain ⟨window, -, h⟩ := bind_eq_ok_iff.1 h
  obtain ⟨params, hparams, h⟩ := bind_eq_ok_iff.1 h
  obtain ⟨u, -, h⟩ := bind_eq_ok_iff.1 h
  obtain ⟨x, hmatrix, -⟩ := bind_eq_ok_iff.1 h
  intro y hy
  obtain ⟨k, hk⟩ := List.mem_iff_getElem?.1 hy
  by_cases hkey : k = f.matrixArg
  · have hget := getElem?_of_argument hmatrix
    rw [← hkey, hk, Option.some.injEq] at hget
    exact ⟨x, hget⟩
  · have hmem : y ∈ values.eraseIdx f.matrixArg := List.mem_eraseIdx_iff_getElem?.2 ⟨k, hkey, hk⟩
    obtain ⟨j, hj⟩ := List.mem_iff_getElem?.1 hmem
    have hall := mapM_eq_ok_iff.1 hparams
    have hlt : j < params.length := by
      rw [← hall.length_eq]
      exact (List.getElem?_eq_some_iff.1 hj).1
    obtain ⟨y', hy', hvalue⟩ := exists_of_forall₂ hall (List.getElem?_eq_getElem hlt)
    rw [hj, Option.some.injEq] at hy'
    subst hy'
    obtain ⟨b, hb, -⟩ := bind_eq_ok_iff.1 hvalue
    exact ⟨b, hb⟩

theorem allFound_of_callMath {v : Value α} (hlen : values.length ≤ 2)
    (h : callMath f values = .ok v) : AllFound values := by
  unfold callMath at h
  obtain ⟨series, hseries, h⟩ := bind_eq_ok_iff.1 h
  refine allFound_of_argument fun k hk => ?_
  by_cases hzero : k = 0
  · rw [hzero]
    exact argument_of_vectorArg hseries
  · obtain rfl : k = 1 := by omega
    simp only [hk, if_true] at h
    obtain ⟨param, hparam, -⟩ := bind_eq_ok_iff.1 h
    obtain ⟨number, hnumber, -⟩ := map_eq_ok_iff.1 hparam
    exact argument_of_scalarArg hnumber

theorem allFound_of_callSpecial {t : Int} {args : List (Expr α)} {v : Value α}
    (hkind : f.kind = .special) (hrelabel : ¬(f = .labelReplace ∨ f = .labelJoin))
    (hlen : f.signature.variadic = false → values.length ≤ f.signature.args.length)
    (h : callSpecial t f args values = .ok v) : AllFound values := by
  cases f with
  | time =>
    have hnil : values = [] := List.length_eq_zero_iff.1 (Nat.le_zero.1 (hlen rfl))
    rw [hnil]
    exact List.forall_mem_nil _
  | vector =>
    obtain ⟨number, hnumber, -⟩ := bind_eq_ok_iff.1 h
    exact allFound_of_first (hlen rfl) (argument_of_scalarArg hnumber)
  | scalar =>
    obtain ⟨series, hseries, -⟩ := bind_eq_ok_iff.1 h
    exact allFound_of_first (hlen rfl) (argument_of_vectorArg hseries)
  | absent =>
    obtain ⟨series, hseries, -⟩ := bind_eq_ok_iff.1 h
    exact allFound_of_first (hlen rfl) (argument_of_vectorArg hseries)
  | timestamp => exact allFound_of_mapArg (hlen rfl) h
  | histogramQuantile =>
    obtain ⟨q, hq, h⟩ := bind_eq_ok_iff.1 h
    obtain ⟨series, hseries, -⟩ := bind_eq_ok_iff.1 h
    refine allFound_of_argument fun k hk => ?_
    have hcount : values.length ≤ 2 := hlen rfl
    by_cases hzero : k = 0
    · rw [hzero]
      exact argument_of_scalarArg hq
    · obtain rfl : k = 1 := by omega
      exact argument_of_vectorArg hseries
  | labelReplace => exact absurd (.inl rfl) hrelabel
  | labelJoin => exact absurd (.inr rfl) hrelabel
  | _ => exact absurd hkind (by decide)

theorem allFound_of_call {t : Int} {args : List (Expr α)} {v : Value α}
    (hrelabel : ¬(f = .labelReplace ∨ f = .labelJoin))
    (hlen : f.signature.variadic = false → values.length ≤ f.signature.args.length)
    (h : call t f args values = .ok v) : AllFound values := by
  unfold call at h
  cases hkind : f.kind with
  | window =>
    rw [hkind] at h
    exact allFound_of_callWindow h
  | math =>
    obtain ⟨-, hcount, hvariadic, -⟩ := Function.math_signature hkind
    rw [hkind] at h
    exact allFound_of_callMath (Nat.le_trans (hlen hvariadic) hcount) h
  | date =>
    obtain ⟨hcount, hvariadic, -⟩ := Function.date_signature hkind
    rw [hkind] at h
    have hone : values.length ≤ 1 := Nat.le_trans (hlen hvariadic) hcount
    cases values with
    | nil => exact List.forall_mem_nil _
    | cons x rest => exact allFound_of_mapArg hone h
  | special =>
    rw [hkind] at h
    exact allFound_of_callSpecial hkind hrelabel hlen h

omit [SampleValue α] in
theorem eq_map_ok_of_forall₂ {found : List (Value α)}
    (h : List.Forall₂ (fun x v => x = .ok v) values found) : values = found.map .ok := by
  induction h with
  | nil => rfl
  | cons hx _ ih => rw [hx, ih, List.map_cons]

omit [SampleValue α] in
theorem mapM_eq_ok_of_allFound (h : AllFound values) : ∃ found, values.mapM id = .ok found := by
  induction values with
  | nil => exact ⟨[], rfl⟩
  | cons x rest ih =>
    obtain ⟨v, rfl⟩ := h x (.head _)
    obtain ⟨found, hfound⟩ := ih fun y hy => h y (.tail _ hy)
    refine ⟨v :: found, ?_⟩
    rw [List.mapM_cons, hfound]
    rfl

/-- Whether the values are found before the call or inside it makes no difference. -/
theorem call_found (t : Int) {args : List (Expr α)}
    (hrelabel : ¬(f = .labelReplace ∨ f = .labelJoin))
    (hlen : f.signature.variadic = false → values.length ≤ f.signature.args.length) :
    SameResult (values.mapM id >>= fun found => call t f args (found.map .ok))
      (call t f args values) := by
  intro v
  rw [bind_eq_ok_iff]
  constructor
  · rintro ⟨found, hfound, hcall⟩
    rw [eq_map_ok_of_forall₂ (mapM_eq_ok_iff.1 hfound)]
    exact hcall
  · intro hcall
    obtain ⟨found, hfound⟩ := mapM_eq_ok_of_allFound (allFound_of_call hrelabel hlen hcall)
    refine ⟨found, hfound, ?_⟩
    rw [← eq_map_ok_of_forall₂ (mapM_eq_ok_iff.1 hfound)]
    exact hcall

end Stepwise

namespace Reading

/-- A selector is answered with a vector, or over its window with a matrix. -/
def Answers (r : Reading α (Except QueryError)) : Selector × Option Int → Prop
  | (s, none) => ∃ v, r.latest s = .ok v
  | (s, some duration) => ∃ v, r.windows s duration = .ok v

theorem answers_selectorsArgs {r : Reading α (Except QueryError)} {args : List (Expr α)}
    (h : ∀ a ∈ args, ∀ q ∈ a.selectors, r.Answers q) :
    ∀ q ∈ Expr.selectorsArgs args, r.Answers q := by
  induction args with
  | nil => exact nofun
  | cons a rest ih =>
    rw [Expr.selectorsArgs, List.forall_mem_append]
    exact ⟨h a (.head _), ih fun b hb => h b (.tail _ hb)⟩

end Reading

namespace Stepwise

variable [SampleValue α] {r : Reading α (Except QueryError)} {hash : LabelHash} {t : Int}

/-- A call that succeeds has found all its arguments, but for the texts of a relabeling. -/
theorem selectors_eq_nil_or_found {f : Function} {args : List (Expr α)}
    (hargs : Expr.ArgsFit f args) {v : Value α}
    (h : call t f args (args.map (eval r hash t)) = .ok v) {a : Expr α} (ha : a ∈ args) :
    a.selectors = [] ∨ ∃ x, eval r hash t a = .ok x := by
  by_cases hrelabel : f = .labelReplace ∨ f = .labelJoin
  · obtain ⟨k, hk⟩ := List.mem_iff_getElem?.1 ha
    cases k with
    | zero =>
      have hvector : ∃ series, vectorArg (args.map (eval r hash t)) 0 = .ok series := by
        rcases hrelabel with rfl | rfl
        all_goals
          obtain ⟨relabel, -, hrest⟩ := bind_eq_ok_iff.1 h
          obtain ⟨series, hseries, -⟩ := bind_eq_ok_iff.1 hrest
          exact ⟨series, hseries⟩
      obtain ⟨series, hseries⟩ := hvector
      obtain ⟨x, hx⟩ := argument_of_vectorArg hseries
      have hget := getElem?_of_argument hx
      rw [List.getElem?_map, hk] at hget
      exact .inr ⟨x, Option.some.inj hget⟩
    | succ k =>
      have hcheck := hargs.types hk
      rw [(Function.relabel_signature hrelabel).2.2.2 k] at hcheck
      obtain ⟨text, rfl⟩ := Expr.eq_string_of_check hcheck
      exact .inl rfl
  · refine .inr (allFound_of_call hrelabel (fun hvariadic => ?_) h _ (List.mem_map_of_mem ha))
    rw [List.length_map]
    exact hargs.atMost hvariadic

/-- An evaluation of a checked expression succeeds only if all its selectors are answered. -/
theorem answers_of_eval
    (hwithin : ∀ {β : Type} (name : String) (x : Except QueryError β), r.within name x = x)
    {e : Expr α} {type : ValueType} (hcheck : e.check = .ok type) {v : Value α}
    (h : eval r hash t e = .ok v) : ∀ q ∈ e.selectors, r.Answers q := by
  induction e generalizing type v with
  | number _ => exact nofun
  | string _ => exact nofun
  | selector s =>
    rw [eval, hwithin] at h
    obtain ⟨series, hseries, -⟩ := map_eq_ok_iff.1 h
    exact List.forall_mem_singleton.2 ⟨series, hseries⟩
  | range s duration =>
    rw [eval, hwithin] at h
    obtain ⟨series, hseries, -⟩ := map_eq_ok_iff.1 h
    exact List.forall_mem_singleton.2 ⟨series, hseries⟩
  | negate e ih =>
    rw [eval, hwithin] at h
    obtain ⟨x, hx, -⟩ := bind_eq_ok_iff.1 h
    exact ih (Expr.check_negate_ok hcheck).1 hx
  | binary op left right matching toBool ihl ihr =>
    obtain ⟨lt, rt, hl, hr, -⟩ := Expr.check_binary_ok hcheck
    rw [eval, hwithin] at h
    obtain ⟨x, hx, h⟩ := bind_eq_ok_iff.1 h
    obtain ⟨y, hy, -⟩ := bind_eq_ok_iff.1 h
    exact List.forall_mem_append.2 ⟨ihl hl hx, ihr hr hy⟩
  | aggregate op e param grouping ih ihp =>
    obtain ⟨he, hparam, -⟩ := Expr.check_aggregate_ok hcheck
    rw [eval, hwithin] at h
    obtain ⟨p, hp, h⟩ := bind_eq_ok_iff.1 h
    obtain ⟨x, hx, -⟩ := bind_eq_ok_iff.1 h
    refine List.forall_mem_append.2 ⟨?_, ih he hx⟩
    cases param with
    | none => exact nofun
    | some p =>
      obtain ⟨expected, -, hexpected⟩ := hparam
      obtain ⟨y, hy, -⟩ := map_eq_ok_iff.1 hp
      exact ihp p rfl hexpected hy
  | call f args ih =>
    obtain ⟨hargs, -⟩ := Expr.check_call_ok hcheck
    rw [eval, hwithin, evalArgs_eq_map] at h
    refine Reading.answers_selectorsArgs fun a ha => ?_
    rcases selectors_eq_nil_or_found hargs h ha with hnone | ⟨x, hx⟩
    · rw [hnone]
      exact nofun
    · obtain ⟨k, hk⟩ := List.mem_iff_getElem?.1 ha
      exact ih a ha (hargs.types hk) hx

end Stepwise

end SeriesQuery
