import SeriesQuery.Function.Window
import SeriesQuery.Proofs.Expr.Typing
import SeriesQuery.Proofs.Outcome

/-!
# Differences of times in windows

The functions of a window subtract times inside it from each other, and a prediction subtracts the
time of the evaluation from them. Inside a window no difference is larger than its range, and from
the time of the evaluation none is larger than the offset and the range together.
-/

namespace SeriesQuery

variable {α : Type}

def Window.Covers (w : Window) (samples : List (Sample α)) : Prop :=
  ∀ s ∈ samples, w.start ≤ s.timestamp ∧ s.timestamp ≤ w.finish

/-- The differences that a function forms over a range some time before the evaluation fit in
sixty-four bits. -/
def Function.DifferencesFit (f : Function) (range offset : Int) : Prop :=
  Millis.InRange range ∧
    (f = .predictLinear → Millis.InRange (-offset) ∧ Millis.InRange (-offset - range))

instance (f : Function) (range offset : Int) : Decidable (f.DifferencesFit range offset) :=
  inferInstanceAs (Decidable (_ ∧ _))

def Expr.DifferencesFit (e : Expr α) : Prop :=
  ∀ f args s duration, Within (.call f args) e → f.kind = .window →
    args[f.matrixArg]? = some (.range s duration) → f.DifferencesFit duration s.offset

theorem Expr.DifferencesFit.of_within {e e' : Expr α} (h : e.DifferencesFit)
    (hwithin : Within e' e) : e'.DifferencesFit :=
  fun f args s duration hcall => h f args s duration (hcall.trans hwithin)

namespace Window

variable {w : Window} {t range offset : Int} {samples : List (Sample α)}

theorem inRange_sub (hw : Window.of t range offset = .ok w) (hrange : Millis.InRange range)
    {a b : Int} (ha : w.start ≤ a ∧ a ≤ w.finish) (hb : w.start ≤ b ∧ b ≤ w.finish) :
    Millis.InRange (a - b) := by
  obtain ⟨-, -, rfl⟩ := Window.of_eq_ok_iff.1 hw
  unfold Millis.InRange Millis.least Millis.greatest at *
  dsimp only at ha hb
  omega

theorem inRange_sub_timestamp (hw : Window.of t range offset = .ok w)
    (hoffset : Millis.InRange (-offset)) (hstart : Millis.InRange (-offset - range)) {a : Int}
    (ha : w.start ≤ a ∧ a ≤ w.finish) : Millis.InRange (a - w.timestamp) := by
  obtain ⟨-, -, rfl⟩ := Window.of_eq_ok_iff.1 hw
  unfold Millis.InRange at *
  dsimp only at ha ⊢
  omega

/-- The last two samples of a window are no further apart than its ends. -/
theorem minus_last (hw : Window.of t range offset = .ok w) (hrange : Millis.InRange range)
    (h : w.Covers samples) {last previous : Sample α} {rest : List (Sample α)}
    (hlast : samples.reverse = last :: previous :: rest) :
    Millis.minus last.timestamp previous.timestamp =
      .ok (last.timestamp - previous.timestamp) := by
  have hmem {s : Sample α} (hs : s ∈ last :: previous :: rest) : s ∈ samples :=
    List.mem_reverse.1 (hlast ▸ hs)
  exact Millis.minus_of_inRange
    (inRange_sub hw hrange (h last (hmem (.head _))) (h previous (hmem (.tail _ (.head _)))))

variable [Numeric α]

theorem exists_fit {origin : Int} (h : ∀ s ∈ samples, Millis.InRange (s.timestamp - origin)) :
    ∃ line, fit samples origin = .ok line := by
  unfold fit
  rw [sums_of_inRange h]
  exact ⟨_, rfl⟩

theorem exists_increase (hw : Window.of t range offset = .ok w) (hrange : Millis.InRange range)
    (h : w.Covers samples) (counter : Bool) : ∃ v, w.increase counter samples = .ok v := by
  unfold increase
  split
  · next first second rest last hlast =>
    have hinside : w.start ≤ w.finish := (h first (.head _)).1.trans (h first (.head _)).2
    have hfirst := h first (.head _)
    have hend := h last (List.mem_of_getLast? hlast)
    rw [coverage_of_inRange (inRange_sub hw hrange hfirst ⟨le_rfl, hinside⟩)
      (inRange_sub hw hrange hend hfirst) (inRange_sub hw hrange ⟨hinside, le_rfl⟩ hend)]
    exact ⟨_, rfl⟩
  · exact ⟨none, rfl⟩

theorem exists_lastDifference (hw : Window.of t range offset = .ok w)
    (hrange : Millis.InRange range) (h : w.Covers samples) :
    ∃ v, lastDifference samples = .ok v := by
  unfold lastDifference
  split
  · next last previous rest hlast =>
    rw [minus_last hw hrange h hlast]
    exact ⟨_, rfl⟩
  · exact ⟨none, rfl⟩

theorem exists_lastRate (hw : Window.of t range offset = .ok w) (hrange : Millis.InRange range)
    (h : w.Covers samples) : ∃ v, lastRate samples = .ok v := by
  unfold lastRate
  split
  · next last previous rest hlast =>
    rw [minus_last hw hrange h hlast]
    exact ⟨_, rfl⟩
  · exact ⟨none, rfl⟩

theorem exists_slope (hw : Window.of t range offset = .ok w) (hrange : Millis.InRange range)
    (h : w.Covers samples) : ∃ v, slope samples = .ok v := by
  unfold slope
  split
  · next first second rest =>
    obtain ⟨line, hline⟩ := exists_fit fun s hs =>
      inRange_sub hw hrange (h s hs) (h first (.head _))
    exact ⟨_, bind_eq_ok_iff.2 ⟨line, hline, rfl⟩⟩
  · exact ⟨none, rfl⟩

theorem exists_predict (hw : Window.of t range offset = .ok w) (hoffset : Millis.InRange (-offset))
    (hstart : Millis.InRange (-offset - range)) (h : w.Covers samples) (seconds : α) :
    ∃ v, w.predict seconds samples = .ok v := by
  unfold predict
  split
  · obtain ⟨line, hline⟩ := exists_fit fun s hs =>
      inRange_sub_timestamp hw hoffset hstart (h s hs)
    exact ⟨_, bind_eq_ok_iff.2 ⟨line, hline, rfl⟩⟩
  · exact ⟨none, rfl⟩

end Window

theorem Function.exists_reduceWindow [SampleValue α] {f : Function} {w : Window}
    {t range offset : Int} {samples : List (Sample α)} (hw : Window.of t range offset = .ok w)
    (hfit : f.DifferencesFit range offset) (h : w.Covers samples) (params : List α) :
    ∃ v, f.reduceWindow samples w params = .ok v := by
  obtain ⟨hrange, hpredicted⟩ := hfit
  unfold reduceWindow
  split
  · exact ⟨none, rfl⟩
  · cases f with
    | rate =>
      obtain ⟨v, hv⟩ := Window.exists_increase hw hrange h true
      exact ⟨_, bind_eq_ok_iff.2 ⟨v, hv, rfl⟩⟩
    | increase => exact Window.exists_increase hw hrange h true
    | delta => exact Window.exists_increase hw hrange h false
    | irate => exact Window.exists_lastRate hw hrange h
    | idelta => exact Window.exists_lastDifference hw hrange h
    | deriv => exact Window.exists_slope hw hrange h
    | predictLinear =>
      obtain ⟨hoffset, hstart⟩ := hpredicted rfl
      exact Window.exists_predict hw hoffset hstart h _
    | _ => exact ⟨_, rfl⟩

end SeriesQuery
