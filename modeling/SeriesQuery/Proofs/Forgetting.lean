import SeriesQuery.Proofs.Remembering

/-!
# Forgetting series

An evaluation that remembers series has the result of one that fetches them whenever it meets a
selector, as long as the names of labels show where they end. A name with a quote in it can give
two selectors one key, and then one of them is answered with the series of the other.
-/

namespace SeriesQuery

namespace Stepwise

variable {α : Type} [SampleValue α]

/-- Every selector is answered as if no series had been fetched before. -/
def forgetting (c : Context α) (t : Int) : Reading α (Except QueryError) where
  latest s := Prod.fst <$> (selectLatest c t s .empty).outcome
  windows s duration := Prod.fst <$> (selectWindow c t s duration .empty).outcome
  within _ x := x

theorem answers_forgetting {c : Context α} {selectors : List (Selector × Option Int)}
    (hapart : c.TellsApart selectors) (t : Int) :
    Answers (recalling c selectors) (reading c t) (forgetting c t) selectors where
  latest s hs := by
    let S := recalling c selectors
    have hfetch := related_fetch hapart hs t
    apply related_forgetting
    exact S.bind hfetch fun series => S.bind (S.lift_self _) fun finish =>
      S.bind (S.lift_self _) fun start => S.pure _
  windows s duration hs := by
    let S := recalling c selectors
    have hfetch := related_fetch hapart hs t
    apply related_forgetting
    exact S.bind hfetch fun series => S.bind (S.lift_self _) fun finish =>
      S.bind (S.lift_self _) fun start => S.pure _
  within name x y hrelated cache := hrelated cache

end Stepwise

/-- Keys of selectors whose names show where they end are equal only for the same matchers and the
same window, and an evaluation that finds series under them has the result of one that forgets all
series. -/
theorem selector_cache_sound (α : Type) [SampleValue α] :
    (∀ s s' : Selector, s.Delimited → s'.Delimited → ∀ window window' : Int,
      s.key window = s'.key window' ↔ s.matchers = s'.matchers ∧ window = window') ∧
    ∀ (c : Context α) (e : Expr α), (∀ q ∈ e.selectors, q.1.offset = 0 → q.1.Delimited) →
      SameResult (Stepwise.evaluate c e).outcome
        (Stepwise.evaluateBy c (Stepwise.forgetting c) e) := by
  constructor
  · intro s s' hs hs' window window'
    exact Selector.key_eq_iff hs hs'
  · intro c e hdelimited
    have hapart : c.TellsApart e.selectors := c.tellsApart_of_delimited hdelimited
    apply Stepwise.evaluate_sameResult
    intro _ i
    exact Stepwise.answers_forgetting hapart _

def Selector.having (names : List String) : Selector :=
  ⟨none, names.map fun name => .of name .notEqual "", 0⟩

/-- A series with two labels, and one with a label whose name reads like two matchers. -/
def Store.oddNames : Store Binary64 :=
  (Store.empty.write 0 (.ofPairs [("a", "x"), ("b", "y")]) Numeric.one).write 0
    (.ofPairs [("a!=\"\",b", "y")]) (Numeric.ofInt 2)

def Context.oddNames : Context Binary64 where
  gateway := Store.oddNames.gateway
  frames := .instant 0
  lookback := 300000
  hash := Fingerprint.fnv

def Expr.sumOf (s s' : Selector) : Expr Binary64 :=
  .binaryDefault .add (.call .scalar [.selector s]) (.call .scalar [.selector s'])

theorem selector_cache_sound_on_odd_names :
    ∃ r : QueryResult Binary64,
      (Stepwise.evaluate .oddNames (.sumOf (.having ["a", "b"]) (.having ["b"]))).outcome =
        .ok r ∧
      Stepwise.evaluateBy .oddNames (Stepwise.forgetting .oddNames)
        (.sumOf (.having ["a", "b"]) (.having ["b"])) = .ok r := by
  let e : Expr Binary64 := .sumOf (.having ["a", "b"]) (.having ["b"])
  have hsame := (selector_cache_sound Binary64).2 .oddNames e (by decide)
  have hok : (Stepwise.evaluate .oddNames e).outcome.isOk = true := by
    decide +kernel
  cases hrun : (Stepwise.evaluate .oddNames e).outcome with
  | error err =>
    rw [hrun] at hok
    cases hok
  | ok r => exact ⟨r, rfl, (hsame r).1 hrun⟩

/-- Selectors with different matchers can have one key. The second of them is then answered with
the series of the first, and the sum of one and two comes out as two. -/
theorem odd_names_confused :
    (Selector.having ["a", "b"]).matchers ≠ (Selector.having ["a!=\"\",b"]).matchers ∧
    (∀ window, (Selector.having ["a", "b"]).key window =
      (Selector.having ["a!=\"\",b"]).key window) ∧
    ((Strategy.interpreter.evaluate .oddNames
      (.sumOf (.having ["a", "b"]) (.having ["a!=\"\",b"]))).outcome.toOption.bind (·.at? 0)).any
        (·.same (.scalar (Numeric.ofInt 2))) = true ∧
    ((Strategy.batch.evaluate .oddNames
      (.sumOf (.having ["a", "b"]) (.having ["a!=\"\",b"]))).outcome.toOption.bind (·.at? 0)).any
        (·.same (.scalar (Numeric.ofInt 3))) = true := by
  refine ⟨by decide, fun window => ?_, by decide +kernel, by decide +kernel⟩
  have htwo : (Selector.having ["a", "b"]).matchers.map LabelMatcher.display =
      ["a!=\"\"", "b!=\"\""] := by
    decide +kernel
  have hone : (Selector.having ["a!=\"\",b"]).matchers.map LabelMatcher.display =
      ["a!=\"\",b!=\"\""] := by
    decide +kernel
  unfold Selector.key
  rw [htwo, hone]
  rfl

end SeriesQuery
