import SeriesQuery.Expr.Check
import SeriesQuery.Proofs.Outcome

/-!
# Checked expressions

What the type check promises about an expression and its parts. The type that is found is the
declared type of the expression; only range selectors have range vectors as values and only
literals are texts; the arguments of a call have the types at their positions.
-/

namespace SeriesQuery

namespace Expr

variable {α : Type}

@[elab_as_elim, induction_eliminator]
theorem inductionOn {motive : Expr α → Prop} (e : Expr α)
    (number : ∀ v, motive (.number v))
    (string : ∀ text, motive (.string text))
    (selector : ∀ s, motive (.selector s))
    (range : ∀ s duration, motive (.range s duration))
    (negate : ∀ operand, motive operand → motive (.negate operand))
    (binary : ∀ op left right matching toBool, motive left → motive right →
      motive (.binary op left right matching toBool))
    (aggregate : ∀ op operand param grouping, motive operand → (∀ p ∈ param, motive p) →
      motive (.aggregate op operand param grouping))
    (call : ∀ f args, (∀ a ∈ args, motive a) → motive (.call f args)) : motive e := by
  refine @Expr.rec α motive (fun param => ∀ p ∈ param, motive p)
    (fun args => ∀ a ∈ args, motive a) number string selector range negate binary aggregate call
    nofun ?_ nofun ?_ e
  · rintro p hp q hq
    cases hq
    exact hp
  · rintro a rest ha hrest b hb
    cases hb with
    | head => exact ha
    | tail _ hb => exact hrest b hb

mutual

/-- The selectors of an expression, each with the duration of its window if it has one. -/
def selectors : Expr α → List (Selector × Option Int)
  | number _ | string _ => []
  | selector s => [(s, none)]
  | range s duration => [(s, some duration)]
  | negate e => e.selectors
  | binary _ l r _ _ => l.selectors ++ r.selectors
  | aggregate _ e param _ => selectorsParam param ++ e.selectors
  | call _ args => selectorsArgs args

def selectorsParam : Option (Expr α) → List (Selector × Option Int)
  | none => []
  | some e => e.selectors

def selectorsArgs : List (Expr α) → List (Selector × Option Int)
  | [] => []
  | e :: rest => e.selectors ++ selectorsArgs rest

end

theorem mem_selectorsParam {param : Option (Expr α)} {p : Expr α} (hp : p ∈ param)
    {q : Selector × Option Int} (hq : q ∈ p.selectors) : q ∈ selectorsParam param := by
  cases hp
  rw [selectorsParam]
  exact hq

theorem mem_selectorsArgs {args : List (Expr α)} {a : Expr α} (ha : a ∈ args)
    {q : Selector × Option Int} (hq : q ∈ a.selectors) : q ∈ selectorsArgs args := by
  induction ha with
  | head rest =>
    rw [selectorsArgs]
    exact List.mem_append_left _ hq
  | tail b _ ih =>
    rw [selectorsArgs]
    exact List.mem_append_right _ ih

end Expr

namespace Function

theorem result_scalar_or_vector (f : Function) :
    f.signature.result = .scalar ∨ f.signature.result = .vector := by
  cases f <;> decide

/-- A window function takes one range vector and otherwise numbers. -/
theorem window_signature {f : Function} (h : f.kind = .window) :
    f.matrixArg < f.signature.required ∧ f.signature.variadic = false ∧
      f.signature.result = .vector ∧ f.signature.argType f.matrixArg = .matrix ∧
      ∀ k, k < f.signature.args.length → k ≠ f.matrixArg → f.signature.argType k = .scalar := by
  cases f <;> first | exact absurd h (by decide) | decide

/-- A mathematical function takes a vector and perhaps a number. -/
theorem math_signature {f : Function} (h : f.kind = .math) :
    1 ≤ f.signature.required ∧ f.signature.args.length ≤ 2 ∧ f.signature.variadic = false ∧
      f.signature.result = .vector ∧ f.signature.argType 0 = .vector ∧
      (1 < f.signature.args.length → f.signature.argType 1 = .scalar) := by
  cases f <;> first | exact absurd h (by decide) | decide

/-- A calendar function takes a vector or nothing. -/
theorem date_signature {f : Function} (h : f.kind = .date) :
    f.signature.args.length ≤ 1 ∧ f.signature.variadic = false ∧
      f.signature.result = .vector ∧ f.signature.argType 0 = .vector := by
  cases f <;> first | exact absurd h (by decide) | decide

theorem relabel_signature {f : Function} (h : f = .labelReplace ∨ f = .labelJoin) :
    1 ≤ f.signature.required ∧ f.signature.result = .vector ∧ f.signature.argType 0 = .vector ∧
      ∀ k, f.signature.argType (k + 1) = .string := by
  rcases h with rfl | rfl
  · refine ⟨by decide, rfl, rfl, fun k => ?_⟩
    match k with
    | 0 | 1 | 2 | 3 => rfl
    | k + 4 => simp [signature, Signature.argType]
  · refine ⟨by decide, rfl, rfl, fun k => ?_⟩
    match k with
    | 0 | 1 | 2 => rfl
    | k + 3 => simp [signature, Signature.argType]

end Function

theorem Selector.matchers_ne_nil_of_check {s : Selector} {u : Unit} (h : s.check = .ok u) :
    s.matchers ≠ [] := by
  intro hnil
  unfold Selector.check at h
  rw [hnil] at h
  cases h

theorem checkBinary_ok {op : BinaryOp} {matching : VectorMatching} {toBool : Bool}
    {l r t : ValueType} (h : checkBinary op matching toBool l r = .ok t) :
    (l = .scalar ∨ l = .vector) ∧ (r = .scalar ∨ r = .vector) ∧
      t = if l = .scalar ∧ r = .scalar then .scalar else .vector := by
  have operand {t : ValueType} (ht : t.isOperand = true) : t = .scalar ∨ t = .vector := by
    cases t with
    | scalar => exact .inl rfl
    | vector => exact .inr rfl
    | _ => cases ht
  unfold checkBinary at h
  by_cases hl : l.isOperand = true
  · by_cases hr : r.isOperand = true
    · refine ⟨operand hl, operand hr, ?_⟩
      simp only [hl, hr, Bool.not_true, Bool.false_eq_true, if_false] at h
      repeat' split at h
      all_goals cases h
      all_goals simp_all
    · simp [hl, hr] at h
  · simp [hl] at h

namespace Expr

variable {α : Type}

theorem check_range_ok {s : Selector} {duration : Int} {t : ValueType}
    (h : (range s duration : Expr α).check = .ok t) :
    s.matchers ≠ [] ∧ 0 < duration ∧ t = .matrix := by
  rw [check, bind_eq_ok_iff] at h
  obtain ⟨u, hs, h⟩ := h
  refine ⟨Selector.matchers_ne_nil_of_check hs, ?_⟩
  by_cases hd : duration ≤ 0
  · rw [if_pos hd] at h
    cases h
  · rw [if_neg hd] at h
    cases h
    exact ⟨by omega, rfl⟩

theorem check_selector_ok {s : Selector} {t : ValueType}
    (h : (selector s : Expr α).check = .ok t) : s.matchers ≠ [] ∧ t = .vector := by
  rw [check, bind_eq_ok_iff] at h
  obtain ⟨u, hs, h⟩ := h
  cases h
  exact ⟨Selector.matchers_ne_nil_of_check hs, rfl⟩

theorem check_negate_ok {e : Expr α} {t : ValueType} (h : (negate e).check = .ok t) :
    e.check = .ok t ∧ (t = .scalar ∨ t = .vector) := by
  rw [check, bind_eq_ok_iff] at h
  obtain ⟨t', he, h⟩ := h
  cases t' with
  | scalar =>
    cases h
    exact ⟨he, .inl rfl⟩
  | vector =>
    cases h
    exact ⟨he, .inr rfl⟩
  | _ => cases h

theorem check_binary_ok {op : BinaryOp} {l r : Expr α} {matching : VectorMatching}
    {toBool : Bool} {t : ValueType} (h : (binary op l r matching toBool).check = .ok t) :
    ∃ lt rt, l.check = .ok lt ∧ r.check = .ok rt ∧ (lt = .scalar ∨ lt = .vector) ∧
      (rt = .scalar ∨ rt = .vector) ∧
      t = if lt = .scalar ∧ rt = .scalar then .scalar else .vector := by
  rw [check, bind_eq_ok_iff] at h
  obtain ⟨lt, hl, h⟩ := h
  rw [bind_eq_ok_iff] at h
  obtain ⟨rt, hr, h⟩ := h
  exact ⟨lt, rt, hl, hr, checkBinary_ok h⟩

/-- The parameter is there exactly if the operator takes one, and has its type. -/
def ParamFits (op : AggregateOp) (param : Option (Expr α)) : Prop :=
  match param with
  | none => op.parameterType = none
  | some p => ∃ t, op.parameterType = some t ∧ p.check = .ok t

theorem check_aggregate_ok {op : AggregateOp} {e : Expr α} {param : Option (Expr α)}
    {grouping : Grouping} {t : ValueType} (h : (aggregate op e param grouping).check = .ok t) :
    e.check = .ok .vector ∧ ParamFits op param ∧ t = .vector := by
  rw [check, bind_eq_ok_iff] at h
  obtain ⟨t', he, h⟩ := h
  by_cases ht : t' = .vector
  · rw [if_pos ht, bind_eq_ok_iff] at h
    obtain ⟨u, hparam, h⟩ := h
    cases h
    refine ⟨ht ▸ he, ?_, rfl⟩
    unfold ParamFits
    cases param with
    | none =>
      rw [checkParam] at hparam
      cases hop : op.parameterType with
      | none => rfl
      | some expected =>
        rw [hop] at hparam
        cases hparam
    | some p =>
      rw [checkParam] at hparam
      cases hop : op.parameterType with
      | none =>
        rw [hop] at hparam
        cases hparam
      | some expected =>
        simp only [hop] at hparam
        rw [bind_eq_ok_iff] at hparam
        obtain ⟨got, hp, hgot⟩ := hparam
        by_cases heq : got = expected
        · exact ⟨expected, rfl, heq ▸ hp⟩
        · rw [if_neg heq] at hgot
          cases hgot
  · rw [if_neg ht] at h
    cases h

theorem checkArgs_ok {f : Function} {i : Nat} {args : List (Expr α)} {u : Unit}
    (h : checkArgs f i args = .ok u) {k : Nat} {e : Expr α} (he : args[k]? = some e) :
    e.check = .ok (f.signature.argType (i + k)) := by
  induction args generalizing i k with
  | nil => cases he
  | cons a rest ih =>
    rw [checkArgs, bind_eq_ok_iff] at h
    obtain ⟨got, ha, h⟩ := h
    by_cases hgot : got = f.signature.argType i
    · rw [if_pos hgot] at h
      cases k with
      | zero =>
        cases he
        exact hgot ▸ ha
      | succ k =>
        have hrest := ih h he
        rwa [Nat.add_assoc, Nat.add_comm 1 k] at hrest
    · rw [if_neg hgot] at h
      cases h

/-- Arguments in the number and of the types that a function asks for. -/
structure ArgsFit (f : Function) (args : List (Expr α)) : Prop where
  required : f.signature.required ≤ args.length
  atMost : f.signature.variadic = false → args.length ≤ f.signature.args.length
  types : ∀ {k : Nat} {e : Expr α}, args[k]? = some e → e.check = .ok (f.signature.argType k)

theorem check_call_ok {f : Function} {args : List (Expr α)} {t : ValueType}
    (h : (call f args).check = .ok t) : ArgsFit f args ∧ t = f.signature.result := by
  rw [check] at h
  by_cases hcount : f.signature.admitsCount args.length = true
  · rw [if_pos hcount, bind_eq_ok_iff] at h
    obtain ⟨u, hargs, h⟩ := h
    cases h
    simp only [Signature.admitsCount, Bool.and_eq_true, Bool.or_eq_true, decide_eq_true_eq]
      at hcount
    refine ⟨⟨hcount.1, fun hvariadic => ?_, fun he => ?_⟩, rfl⟩
    · rw [hvariadic] at hcount
      exact hcount.2.resolve_left nofun
    · have := checkArgs_ok hargs he
      rwa [Nat.zero_add] at this
  · rw [if_neg hcount] at h
    cases h

theorem valueType_eq_of_check {e : Expr α} {t : ValueType} (h : e.check = .ok t) :
    e.valueType = t := by
  induction e generalizing t with
  | number v =>
    cases h
    rfl
  | string text =>
    cases h
    rfl
  | selector s => exact (check_selector_ok h).2.symm
  | range s duration => exact (check_range_ok h).2.2.symm
  | negate e ih => exact ih (check_negate_ok h).1
  | binary op l r matching toBool ihl ihr =>
    obtain ⟨lt, rt, hl, hr, -, -, rfl⟩ := check_binary_ok h
    rw [valueType, ihl hl, ihr hr]
  | aggregate op e param grouping ih ihp => exact (check_aggregate_ok h).2.2.symm
  | call f args ih => exact (check_call_ok h).2.symm

theorem eq_range_of_check {e : Expr α} (h : e.check = .ok .matrix) :
    ∃ s duration, e = .range s duration := by
  cases e with
  | range s duration => exact ⟨s, duration, rfl⟩
  | number v => cases h
  | string text => cases h
  | selector s => cases (check_selector_ok h).2
  | negate e => rcases (check_negate_ok h).2 with ht | ht <;> cases ht
  | binary op l r matching toBool =>
    obtain ⟨lt, rt, -, -, -, -, ht⟩ := check_binary_ok h
    split at ht <;> cases ht
  | aggregate op e param grouping => cases (check_aggregate_ok h).2.2
  | call f args =>
    have ht := (check_call_ok h).2
    rcases f.result_scalar_or_vector with hr | hr <;> rw [hr] at ht <;> cases ht

theorem ArgsFit.exists_range {f : Function} (hkind : f.kind = .window) {args : List (Expr α)}
    (h : ArgsFit f args) : ∃ s duration, args[f.matrixArg]? = some (.range s duration) := by
  obtain ⟨hrequired, -, -, htype, -⟩ := Function.window_signature hkind
  have hlt : f.matrixArg < args.length := Nat.lt_of_lt_of_le hrequired h.required
  have hget : args[f.matrixArg]? = some args[f.matrixArg] := List.getElem?_eq_getElem hlt
  obtain ⟨s, duration, hrange⟩ := eq_range_of_check (htype ▸ h.types hget)
  exact ⟨s, duration, hget.trans (congrArg some hrange)⟩

theorem eq_string_of_check {e : Expr α} (h : e.check = .ok .string) : ∃ text, e = .string text := by
  cases e with
  | string text => exact ⟨text, rfl⟩
  | number v => cases h
  | range s duration => cases (check_range_ok h).2.2
  | selector s => cases (check_selector_ok h).2
  | negate e => rcases (check_negate_ok h).2 with ht | ht <;> cases ht
  | binary op l r matching toBool =>
    obtain ⟨lt, rt, -, -, -, -, ht⟩ := check_binary_ok h
    split at ht <;> cases ht
  | aggregate op e param grouping => cases (check_aggregate_ok h).2.2
  | call f args =>
    have ht := (check_call_ok h).2
    rcases f.result_scalar_or_vector with hr | hr <;> rw [hr] at ht <;> cases ht

/-- Behind the vector of a relabelling call there are literals. -/
theorem ArgsFit.exists_texts {f : Function} (hf : f = .labelReplace ∨ f = .labelJoin)
    {args : List (Expr α)} (h : ArgsFit f args) :
    ∃ e, ∃ texts : List String, args = e :: texts.map string := by
  obtain ⟨e, rest, rfl⟩ := List.exists_cons_of_length_pos
    (Nat.lt_of_lt_of_le (Function.relabel_signature hf).1 h.required)
  have htexts : ∀ a ∈ rest, ∃ text, a = string text := by
    intro a ha
    obtain ⟨k, hk⟩ := List.mem_iff_getElem?.1 ha
    have hcheck := h.types (k := k + 1) hk
    rw [(Function.relabel_signature hf).2.2.2 k] at hcheck
    exact eq_string_of_check hcheck
  refine ⟨e, ?_⟩
  clear h
  induction rest with
  | nil => exact ⟨[], rfl⟩
  | cons a rest ih =>
    obtain ⟨text, rfl⟩ := htexts a (.head _)
    obtain ⟨texts, hrest⟩ := ih fun b hb => htexts b (.tail _ hb)
    exact ⟨text :: texts, congrArg (fun l => e :: string text :: l.tail) hrest⟩

/-- An expression stands somewhere in another, or is the other. -/
inductive Within (s : Expr α) : Expr α → Prop
  | self : Within s s
  | negate {e} : Within s e → Within s (.negate e)
  | left {op l r matching toBool} : Within s l → Within s (.binary op l r matching toBool)
  | right {op l r matching toBool} : Within s r → Within s (.binary op l r matching toBool)
  | operand {op e param grouping} : Within s e → Within s (.aggregate op e param grouping)
  | param {op e p grouping} : Within s p → Within s (.aggregate op e (some p) grouping)
  | arg {f args a} : a ∈ args → Within s a → Within s (.call f args)

theorem Within.trans {s s' e : Expr α} (h : Within s s') (h' : Within s' e) : Within s e := by
  induction h' with
  | self => exact h
  | negate _ ih => exact .negate ih
  | left _ ih => exact .left ih
  | right _ ih => exact .right ih
  | operand _ ih => exact .operand ih
  | param _ ih => exact .param ih
  | arg ha _ ih => exact .arg ha ih

theorem Within.exists_check {s e : Expr α} (h : Within s e) {t : ValueType}
    (he : e.check = .ok t) : ∃ t', s.check = .ok t' := by
  induction h generalizing t with
  | self => exact ⟨t, he⟩
  | negate _ ih => exact ih (check_negate_ok he).1
  | left _ ih =>
    obtain ⟨lt, rt, hl, -⟩ := check_binary_ok he
    exact ih hl
  | right _ ih =>
    obtain ⟨lt, rt, -, hr, -⟩ := check_binary_ok he
    exact ih hr
  | operand _ ih => exact ih (check_aggregate_ok he).1
  | param _ ih =>
    obtain ⟨expected, -, hp⟩ := (check_aggregate_ok he).2.1
    exact ih hp
  | arg ha _ ih =>
    obtain ⟨k, hk⟩ := List.mem_iff_getElem?.1 ha
    exact ih ((check_call_ok he).1.types hk)

theorem exists_of_mem_selectorsArgs {args : List (Expr α)} {q : Selector × Option Int}
    (hq : q ∈ selectorsArgs args) : ∃ a ∈ args, q ∈ a.selectors := by
  induction args with
  | nil => cases hq
  | cons a rest ih =>
    rw [selectorsArgs, List.mem_append] at hq
    rcases hq with hq | hq
    · exact ⟨a, .head _, hq⟩
    · obtain ⟨b, hb, hqb⟩ := ih hq
      exact ⟨b, .tail _ hb, hqb⟩

theorem selector_of_check {e : Expr α} {t : ValueType} (h : e.check = .ok t)
    {q : Selector × Option Int} (hq : q ∈ e.selectors) :
    q.1.matchers ≠ [] ∧ ∀ duration ∈ q.2, 0 < duration := by
  induction e generalizing t with
  | number v => cases hq
  | string text => cases hq
  | selector s =>
    obtain rfl := List.mem_singleton.1 hq
    exact ⟨(check_selector_ok h).1, nofun⟩
  | range s duration =>
    obtain rfl := List.mem_singleton.1 hq
    obtain ⟨hmatchers, hduration, -⟩ := check_range_ok h
    refine ⟨hmatchers, fun d hd => ?_⟩
    obtain rfl := Option.mem_some.1 hd
    exact hduration
  | negate e ih => exact ih (check_negate_ok h).1 hq
  | binary op l r matching toBool ihl ihr =>
    obtain ⟨lt, rt, hl, hr, -⟩ := check_binary_ok h
    rw [selectors, List.mem_append] at hq
    rcases hq with hq | hq
    · exact ihl hl hq
    · exact ihr hr hq
  | aggregate op e param grouping ih ihp =>
    obtain ⟨he, hparam, -⟩ := check_aggregate_ok h
    rw [selectors, List.mem_append] at hq
    rcases hq with hq | hq
    · cases param with
      | none => cases hq
      | some p =>
        obtain ⟨expected, -, hp⟩ := hparam
        exact ihp p rfl hp hq
    · exact ih he hq
  | call f args ih =>
    obtain ⟨hargs, -⟩ := check_call_ok h
    rw [selectors] at hq
    obtain ⟨a, ha, hqa⟩ := exists_of_mem_selectorsArgs hq
    obtain ⟨k, hk⟩ := List.mem_iff_getElem?.1 ha
    exact ih a ha (hargs.types hk) hqa

end Expr

end SeriesQuery
