import Mathlib.Logic.Relation
import SeriesQuery.Trace.Recorder

/-!
# Schedules of spans

Computations inside one span may take turns. When one of them fails the others are given up,
before they start or half-way, and a span that is given up ends when all that is open inside it
has ended. All turns are taken on one recorder.
-/

namespace SeriesQuery

inductive Work
  | waiting (plan : SpanTree)
  | opened (id : Nat) (name : String) (inner : List Work)
  | ended (ok : Bool) (id : Nat) (name : String) (inner : List Work)

namespace Work

def isOpen : Work → Bool
  | opened _ _ _ => true
  | _ => false

def isOver : Work → Bool
  | ended _ _ _ _ => true
  | _ => false

def isOk : Work → Bool
  | ended ok _ _ _ => ok
  | _ => false

inductive Move : Option Nat → Work × Recorder → Work × Recorder → Prop
  | start {parent name inner r} (now : Nat) :
    Move parent (waiting (.node name inner), r)
      (opened r.nextId name (inner.map waiting), r.start now name parent)
  | inside {parent id name before w w' after r r'} (h : Move (some id) (w, r) (w', r')) :
    Move parent (opened id name (before ++ w :: after), r)
      (opened id name (before ++ w' :: after), r')
  | succeed {parent id name inner r} (now : Nat) (h : ∀ w ∈ inner, w.isOk = true) :
    Move parent (opened id name inner, r) (ended true id name inner, r.finish now id)
  | fail {parent id name inner r} (now : Nat) (h : ∀ w ∈ inner, w.isOpen = false) :
    Move parent (opened id name inner, r) (ended false id name inner, r.finish now id)

def Run (parent : Option Nat) : Work × Recorder → Work × Recorder → Prop :=
  Relation.ReflTransGen (Move parent)

end Work

/-- What an evaluation leaves in a new recorder, in whatever order its turns are taken. -/
def SpanTree.Leaves (plan : SpanTree) (ok : Bool) (r : Recorder) : Prop :=
  ∃ w : Work, Work.Run none (.waiting plan, .empty) (w, r) ∧ w.isOver = true ∧ w.isOk = ok

end SeriesQuery
