import SeriesQuery.Evaluation.Elements
import SeriesQuery.Expr.Check
import SeriesQuery.Proofs.Expr.Typing

/-!
# Expressions that look further back

An expression is shifted by adding a duration to the offset of every selector. Its type, the texts
in it and what its selectors match stay the same. The only other parts of an expression that look
at the time are those that read the clock.
-/

namespace SeriesQuery

variable {α : Type}

def Selector.shifted (d : Int) (s : Selector) : Selector := { s with offset := s.offset + d }

/-- The functions whose values depend on the evaluation timestamp itself and not only on the
samples seen from it. -/
def Function.readsClock (f : Function) (withoutArgs : Bool) : Bool :=
  match f with
  | time | timestamp | predictLinear => true
  | f => f.kind == .date && withoutArgs

theorem Function.readsClock_date {f : Function} (hkind : f.kind = .date) (withoutArgs : Bool) :
    f.readsClock withoutArgs = withoutArgs := by
  cases f with
  | minute | hour | dayOfMonth | dayOfWeek | daysInMonth | month | year => rfl
  | _ => cases hkind

namespace Expr

mutual

def shifted (d : Int) : Expr α → Expr α
  | number v => number v
  | string text => string text
  | selector s => selector (s.shifted d)
  | range s duration => range (s.shifted d) duration
  | negate e => negate (e.shifted d)
  | binary op l r matching toBool => binary op (l.shifted d) (r.shifted d) matching toBool
  | aggregate op e param grouping =>
    aggregate op (e.shifted d) (shiftedParam d param) grouping
  | call f args => call f (shiftedArgs d args)

def shiftedParam (d : Int) : Option (Expr α) → Option (Expr α)
  | none => none
  | some e => some (e.shifted d)

def shiftedArgs (d : Int) : List (Expr α) → List (Expr α)
  | [] => []
  | e :: rest => e.shifted d :: shiftedArgs d rest

end

mutual

def readsClock : Expr α → Bool
  | number _ | string _ | selector _ | range _ _ => false
  | negate e => e.readsClock
  | binary _ l r _ _ => l.readsClock || r.readsClock
  | aggregate _ e param _ => readsClockParam param || e.readsClock
  | call f args => f.readsClock args.isEmpty || readsClockArgs args

def readsClockParam : Option (Expr α) → Bool
  | none => false
  | some e => e.readsClock

def readsClockArgs : List (Expr α) → Bool
  | [] => false
  | e :: rest => e.readsClock || readsClockArgs rest

end

theorem readsClockArgs_eq_any (args : List (Expr α)) :
    readsClockArgs args = args.any readsClock := by
  induction args with
  | nil => rfl
  | cons e rest ih => rw [readsClockArgs, ih, List.any_cons]

section Shifted

variable (d : Int)

theorem shiftedArgs_eq_map (args : List (Expr α)) :
    shiftedArgs d args = args.map (shifted d) := by
  induction args with
  | nil => rfl
  | cons e rest ih => rw [shiftedArgs, ih, List.map_cons]

theorem selectors_shifted (e : Expr α) :
    (e.shifted d).selectors = e.selectors.map fun q => (q.1.shifted d, q.2) := by
  induction e with
  | number v => rfl
  | string text => rfl
  | selector s => rfl
  | range s duration => rfl
  | negate e ih => exact ih
  | binary op l r matching toBool ihl ihr =>
    rw [shifted, selectors, selectors, ihl, ihr, List.map_append]
  | aggregate op e param grouping ih ihp =>
    have hparam : selectorsParam (shiftedParam d param) =
        (selectorsParam param).map fun q => (q.1.shifted d, q.2) := by
      cases param with
      | none => rfl
      | some p => exact ihp p rfl
    rw [shifted, selectors, selectors, hparam, ih, List.map_append]
  | call f args ih =>
    rw [shifted, selectors, selectors]
    induction args with
    | nil => rfl
    | cons e rest ihrest =>
      rw [shiftedArgs, selectorsArgs, selectorsArgs, List.map_append, ih e (.head _),
        ihrest fun a ha => ih a (.tail _ ha)]

theorem valueType_shifted (e : Expr α) : (e.shifted d).valueType = e.valueType := by
  induction e with
  | negate e ih => exact ih
  | binary op l r matching toBool ihl ihr => rw [shifted, valueType, valueType, ihl, ihr]
  | _ => rfl

theorem text?_shifted (e : Expr α) : (e.shifted d).text? = e.text? := by
  cases e with
  | string text => rfl
  | _ =>
    exact congrArg (fun t => Except.error (QueryError.typeMismatch (.literalExpected t)))
      (valueType_shifted d _)

theorem absentArgument_shifted (args : List (Expr α)) :
    absentArgument (args.map (shifted d)) = absentArgument args := by
  cases args with
  | nil => rfl
  | cons e rest => cases e <;> rfl

theorem relabeling_shifted (f : Function) (args : List (Expr α)) :
    relabeling f (args.map (shifted d)) = relabeling f args := by
  unfold relabeling relabelTexts
  rw [List.length_map, ← List.map_drop, List.mapM_map]
  simp only [Function.comp_def, text?_shifted]

theorem check_shifted (e : Expr α) : (e.shifted d).check = e.check := by
  induction e with
  | number v => rfl
  | string text => rfl
  | selector s => rfl
  | range s duration => rfl
  | negate e ih => rw [shifted, check, check, ih]
  | binary op l r matching toBool ihl ihr => rw [shifted, check, check, ihl, ihr]
  | aggregate op e param grouping ih ihp =>
    have hparam : checkParam op (shiftedParam d param) = checkParam op param := by
      cases param with
      | none => rfl
      | some p => rw [shiftedParam, checkParam, checkParam, ihp p rfl]
    rw [shifted, check, check, ih, hparam]
  | call f args ih =>
    have hargs (i : Nat) : checkArgs f i (shiftedArgs d args) = checkArgs f i args := by
      induction args generalizing i with
      | nil => rfl
      | cons e rest ihrest =>
        rw [shiftedArgs, checkArgs, checkArgs, ih e (.head _)]
        simp only [ihrest fun a ha => ih a (.tail _ ha)]
    rw [shifted, check, check, hargs, shiftedArgs_eq_map, List.length_map]

end Shifted

end Expr

end SeriesQuery
