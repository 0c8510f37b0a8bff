import SeriesQuery.Proofs.Spans.Accounting

/-!
# Following a plan

The spans of a computation follow a plan if each is planned, none is gone through twice, and the
plan is only left unfinished after a failure. What follows a plan is one way to take its turns.
-/

namespace SeriesQuery

/-- Spans that are picked from a plan one after the other, in any order. -/
inductive SpanTree.Follows (complete : Bool) : List SpanTree → List SpanTree → Prop
  | stop {plan} (h : complete = true → plan = []) : Follows complete plan []
  | next {name before inner after inner' rest} (hinner : Follows complete inner inner')
    (hrest : Follows complete (before ++ after) rest) :
    Follows complete (before ++ .node name inner :: after) (.node name inner' :: rest)

namespace SpanTree.Follows

variable {complete : Bool} {plan plan' spans spans' : List SpanTree}

theorem of_complete (h : Follows true plan spans) : Follows complete plan spans := by
  induction h with
  | stop h => exact .stop fun _ => h rfl
  | next _ _ ihinner ihrest => exact .next ihinner ihrest

/-- What is left of a plan when a computation fails does not matter. -/
theorem append_plan (h : Follows false plan spans) : Follows false (plan ++ plan') spans := by
  induction h with
  | stop h => exact .stop nofun
  | next hinner hrest ihinner ihrest =>
    rw [List.append_assoc] at ihrest
    rw [List.append_assoc, List.cons_append]
    exact .next hinner ihrest

theorem append (h : Follows true plan spans) (h' : Follows complete plan' spans') :
    Follows complete (plan ++ plan') (spans ++ spans') := by
  induction h with
  | stop h =>
    rw [h rfl]
    exact h'
  | next hinner hrest ihinner ihrest =>
    rw [List.append_assoc] at ihrest
    rw [List.append_assoc, List.cons_append]
    exact .next hinner.of_complete ihrest

theorem singleton (h : Follows complete plan spans) (name : String) :
    Follows complete [.node name plan] [.node name spans] := by
  have hnext : Follows complete ([] ++ .node name plan :: []) [.node name spans] :=
    .next h (.stop fun _ => rfl)
  exact hnext

theorem perm (h : Follows complete plan spans) (hperm : plan.Perm plan') :
    Follows complete plan' spans := by
  induction h generalizing plan' with
  | stop h => exact .stop fun hcomplete => (h hcomplete ▸ hperm).nil_eq.symm
  | @next name before inner after inner' rest hinner hrest ihinner ihrest =>
    obtain ⟨before', after', rfl⟩ := List.append_of_mem
      (hperm.mem_iff.1 (List.mem_append_right _ (.head _)))
    have hothers := List.perm_middle.symm.trans (hperm.trans List.perm_middle)
    exact .next hinner (ihrest hothers.cons_inv)

end SpanTree.Follows

namespace Work

variable {parent : Option Nat} {w w' : Work} {r r' : Recorder}

theorem Run.inside {id : Nat} (h : Run (some id) (w, r) (w', r')) (name : String)
    (before after : List Work) :
    Run parent (opened id name (before ++ w :: after), r)
      (opened id name (before ++ w' :: after), r') :=
  Relation.ReflTransGen.lift (fun s : Work × Recorder =>
    (opened id name (before ++ s.1 :: after), s.2)) (fun _ _ => Move.inside) _ _ h

theorem Move.finish {complete : Bool} {id : Nat} {name : String} {inner : List Work}
    (hopen : ∀ w ∈ inner, w.isOpen = false) (hok : complete = true → ∀ w ∈ inner, w.isOk = true) :
    Move parent (opened id name inner, r) (ended complete id name inner, r.finish 0 id) := by
  cases complete with
  | true => exact .succeed 0 (hok rfl)
  | false => exact .fail 0 hopen

theorem Run.recordAll {complete : Bool} {plan spans : List SpanTree}
    (h : SpanTree.Follows complete plan spans) (parent : Option Nat) (id : Nat) (name : String)
    {inner done : List Work} (hinner : inner.Perm (plan.map waiting ++ done)) (r : Recorder) :
    ∃ inner' new, Run parent (opened id name inner, r)
        (opened id name inner', r.recordAll (some id) spans) ∧
      inner'.Perm (new ++ done) ∧ (∀ w ∈ new, w.isOpen = false) ∧
      (complete = true → ∀ w ∈ new, w.isOk = true) := by
  induction h generalizing parent id name inner done r with
  | @stop plan h =>
    refine ⟨inner, plan.map waiting, .refl, hinner, fun w hw => ?_, fun hcomplete => ?_⟩
    · obtain ⟨t, -, rfl⟩ := List.mem_map.1 hw
      rfl
    · rw [h hcomplete]
      exact nofun
  | @next name' before planned after spans' rest hplanned hrest ihplanned ihrest =>
    rw [List.map_append, List.map_cons, List.append_assoc, List.cons_append] at hinner
    obtain ⟨before', after', rfl⟩ := List.append_of_mem
      (hinner.mem_iff.2 (List.mem_append_right _ (.head _)))
    have hothers : (before' ++ after').Perm ((before ++ after).map waiting ++ done) := by
      rw [List.map_append, List.append_assoc]
      exact (List.perm_middle.symm.trans (hinner.trans List.perm_middle)).cons_inv
    let started := r.start 0 name' (some id)
    have hnone : (planned.map waiting).Perm (planned.map waiting ++ []) := by rw [List.append_nil]
    obtain ⟨inside, new, hrun, hperm, hopen, hok⟩ :=
      ihplanned (some id) r.nextId name' hnone started
    rw [List.append_nil] at hperm
    -- the planned span runs as a whole before the next one is started
    let node := ended complete r.nextId name' inside
    have hnode : Run parent (opened id name (before' ++ waiting (.node name' planned) :: after'), r)
        (opened id name (before' ++ node :: after'), r.record (some id) (.node name' spans')) := by
      refine .head (.inside (.start 0)) ((hrun.inside name before' after').tail (.inside ?_))
      exact .finish (fun w hw => hopen w (hperm.mem_iff.1 hw))
        fun hcomplete w hw => hok hcomplete w (hperm.mem_iff.1 hw)
    obtain ⟨inner', new', hrun', hperm', hopen', hok'⟩ := ihrest parent id name
      (List.perm_middle.trans ((hothers.cons node).trans List.perm_middle.symm))
      (r.record (some id) (.node name' spans'))
    refine ⟨inner', node :: new', hnode.trans hrun', hperm'.trans List.perm_middle, ?_, ?_⟩
    · intro w hw
      rcases List.mem_cons.1 hw with rfl | hw
      · rfl
      · exact hopen' w hw
    · intro hcomplete w hw
      rcases List.mem_cons.1 hw with rfl | hw
      · exact hcomplete
      · exact hok' hcomplete w hw

end Work

namespace Traced

variable {β γ : Type} {plan plan' : List SpanTree}

/-- The spans of a computation follow a plan, all of it if there is a result. -/
def Follows (x : Traced β) (plan : List SpanTree) : Prop :=
  SpanTree.Follows x.outcome.isOk plan x.spans

theorem follows_ofExcept (x : Except QueryError β) : (ofExcept x).Follows [] := .stop fun _ => rfl

theorem Follows.bind {x : Traced β} {f : β → Traced γ} (h : x.Follows plan)
    (hf : ∀ b, (f b).Follows plan') : (x >>= f).Follows (plan ++ plan') := by
  change (Traced.bind x f).Follows _
  obtain ⟨_ | b, spans⟩ := x
  · exact SpanTree.Follows.append_plan h
  · exact SpanTree.Follows.append h (hf b)

theorem Follows.withSpan {x : Traced β} (h : x.Follows plan) (name : String) :
    (x.withSpan name).Follows [.node name plan] :=
  SpanTree.Follows.singleton h name

/-- A span around what follows a plan is recorded as one way to evaluate the planned span. -/
theorem Follows.leaves {x : Traced β} (h : x.Follows plan) (name : String) :
    (SpanTree.node name plan).Leaves x.outcome.isOk (Recorder.ofTraced (x.withSpan name)) := by
  have hinner : (plan.map Work.waiting).Perm (plan.map Work.waiting ++ []) := by
    rw [List.append_nil]
  obtain ⟨inner, new, hrun, hperm, hopen, hok⟩ :=
    Work.Run.recordAll h none Recorder.empty.nextId name hinner (Recorder.empty.start 0 name none)
  rw [List.append_nil] at hperm
  refine ⟨.ended x.outcome.isOk Recorder.empty.nextId name inner, ?_, rfl, rfl⟩
  refine .head (.start 0) (hrun.tail (.finish (fun w hw => hopen w (hperm.mem_iff.1 hw)) ?_))
  exact fun hcomplete w hw => hok hcomplete w (hperm.mem_iff.1 hw)

end Traced

/-- A relation between computations and the spans that they plan to go through, which composition
respects. What cannot fail to be done without a span plans none. -/
structure Itinerary (m : Type → Type) [Monad m] [MonadLiftT (Except QueryError) m] where
  Follows : {β : Type} → m β → List SpanTree → Prop
  pure : ∀ {β : Type} (b : β), Follows (pure b) []
  lift : ∀ {β : Type} (x : Except QueryError β), Follows (liftM x : m β) []
  bind : ∀ {β γ : Type} {x : m β} {f : β → m γ} {plan plan' : List SpanTree}, Follows x plan →
    (∀ b, Follows (f b) plan') → Follows (x >>= f) (plan ++ plan')
  perm : ∀ {β : Type} {x : m β} {plan plan' : List SpanTree}, Follows x plan →
    plan.Perm plan' → Follows x plan'

def Traced.itinerary : Itinerary Traced where
  Follows := Traced.Follows
  pure b := Traced.follows_ofExcept (.ok b)
  lift := Traced.follows_ofExcept
  bind := Traced.Follows.bind
  perm := SpanTree.Follows.perm

def Step.itinerary (α : Type) : Itinerary (Step α) where
  Follows x plan := ∀ cache, (x cache).Follows plan
  pure b cache := Traced.follows_ofExcept (.ok (b, cache))
  lift x cache := by
    have h := (Traced.follows_ofExcept x).bind fun b => Traced.follows_ofExcept (.ok (b, cache))
    exact h
  bind h hf cache := (h cache).bind fun p => hf p.1 p.2
  perm h hperm cache := (h cache).perm hperm

namespace Itinerary

variable {m : Type → Type} [Monad m] [MonadLiftT (Except QueryError) m] (I : Itinerary m)
  {β γ : Type} {plan : List SpanTree}

theorem lift_bind (x : Except QueryError β) {f : β → m γ} (hf : ∀ b, I.Follows (f b) plan) :
    I.Follows (liftM x >>= f) plan :=
  I.bind (I.lift x) hf

theorem bind_end {x : m β} {f : β → m γ} (h : I.Follows x plan) (hf : ∀ b, I.Follows (f b) []) :
    I.Follows (x >>= f) plan := by
  have hbind := I.bind h hf
  rwa [List.append_nil] at hbind

theorem map [LawfulMonad m] {x : m β} (f : β → γ) (h : I.Follows x plan) :
    I.Follows (f <$> x) plan := by
  rw [map_eq_pure_bind]
  exact I.bind_end h fun b => I.pure (f b)

theorem mapM [LawfulMonad m] {ι : Type} {f : ι → m β} {plan : ι → List SpanTree} {l : List ι}
    (h : ∀ a ∈ l, I.Follows (f a) (plan a)) : I.Follows (l.mapM f) (l.flatMap plan) := by
  induction l with
  | nil =>
    rw [List.mapM_nil]
    exact I.pure []
  | cons a rest ih =>
    rw [List.mapM_cons, List.flatMap_cons]
    refine I.bind (h a (.head _)) fun b => ?_
    exact I.bind_end (ih fun c hc => h c (.tail _ hc)) fun bs => I.pure (b :: bs)

theorem ofFnM [LawfulMonad m] {n : Nat} {step : Fin n → m β} {t : SpanTree}
    (h : ∀ i, I.Follows (step i) [t]) :
    I.Follows (Vector.ofFnM step) (List.replicate n t) := by
  induction n with
  | zero =>
    rw [Vector.ofFnM_zero]
    exact I.pure _
  | succ n ih =>
    rw [Vector.ofFnM_succ, List.replicate_succ']
    refine I.bind (ih fun i => h i.castSucc) fun v => ?_
    exact I.bind_end (h (Fin.last n)) fun b => I.pure (v.push b)

end Itinerary

end SeriesQuery
