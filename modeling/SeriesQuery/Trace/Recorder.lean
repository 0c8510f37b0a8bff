import SeriesQuery.Trace

/-!
# Recording spans

A recorder numbers spans from one in the order in which they start. A span names its parent, which
need not exist. Times are nanoseconds since the recorder was made.
-/

namespace SeriesQuery

structure Span where
  id : Nat
  parent : Option Nat
  name : String
  start : Nat
  /-- Missing while the span is open. -/
  duration : Option Nat
deriving DecidableEq, Repr

structure Recorder where
  spans : List Span
deriving DecidableEq, Repr

namespace Recorder

def empty : Recorder := ⟨[]⟩

def nextId (r : Recorder) : Nat := r.spans.length + 1

def start (r : Recorder) (now : Nat) (name : String) (parent : Option Nat) : Recorder :=
  ⟨r.spans ++ [{ id := r.nextId, parent, name, start := now, duration := none }]⟩

/-- Ends a span, unless it has ended before. -/
def finish (r : Recorder) (now : Nat) (id : Nat) : Recorder :=
  ⟨r.spans.map fun s =>
    if s.id = id ∧ s.duration.isNone then { s with duration := some (now - s.start) } else s⟩

def line (depth : Nat) (s : Span) : String :=
  "".pushn ' ' (2 * depth) ++ s.name ++
    match s.duration with
    | some d => s!" {d / 1000}µs"
    | none => " (open)"

/-- The lines of a span and, up to some depth, of the spans inside it. -/
def linesOf (spans : List Span) : Nat → Nat → Span → List String
  | 0, _, _ => []
  | fuel + 1, depth, s =>
    line depth s ::
      (spans.filter fun t => t.parent = some s.id).flatMap (linesOf spans fuel (depth + 1))

/-- One line for each span that lies inside a span without a parent, which the number of spans
bounds the depth of. -/
def lines (r : Recorder) : List String :=
  (r.spans.filter fun s => s.parent.isNone).flatMap (linesOf r.spans r.spans.length 0)

def render (r : Recorder) : String := String.join (r.lines.map (· ++ "\n"))

mutual

/-- Records a span with all that happens inside it, as if it took no time. -/
def record (r : Recorder) (parent : Option Nat) : SpanTree → Recorder
  | .node name inner =>
    ((r.start 0 name parent).recordAll (some r.nextId) inner).finish 0 r.nextId

def recordAll (r : Recorder) (parent : Option Nat) : List SpanTree → Recorder
  | [] => r
  | t :: rest => (r.record parent t).recordAll parent rest

end

def ofTraced {β : Type} (x : Traced β) : Recorder := empty.recordAll none x.spans

end Recorder

inductive SpanCall
  | start (now : Nat) (name : String) (parent : Option Nat)
  | finish (now : Nat) (id : Nat)
deriving DecidableEq, Repr

namespace Recorder

/-- Ends the first span with a number; the time at which it has ended before stays. -/
def finishFirst (now id : Nat) : List Span → List Span
  | [] => []
  | s :: rest =>
    if s.id = id then { s with duration := some (s.duration.getD (now - s.start)) } :: rest
    else s :: finishFirst now id rest

def finishLast (r : Recorder) (now id : Nat) : Recorder :=
  ⟨(finishFirst now id r.spans.reverse).reverse⟩

/-- Makes a call, which gives a number if it starts a span. -/
def call (r : Recorder) : SpanCall → Option Nat × Recorder
  | .start now name parent => (some r.nextId, r.start now name parent)
  | .finish now id => (none, r.finishLast now id)

/-- Makes calls one after another, and gives the numbers of the spans that they start. -/
def callAll (r : Recorder) : List SpanCall → List Nat × Recorder
  | [] => ([], r)
  | c :: rest =>
    ((r.call c).1.toList ++ ((r.call c).2.callAll rest).1, ((r.call c).2.callAll rest).2)

end Recorder

/-- Where spans go: nowhere, or into a recorder. -/
inductive Tracer
  | silent
  | recording (r : Recorder)

namespace Tracer

/-- Starts a span and gives its number, which is zero where nothing is recorded. -/
def start (now : Nat) (name : String) (parent : Option Nat) : Tracer → Nat × Tracer
  | silent => (0, silent)
  | recording r => (r.nextId, recording (r.start now name parent))

def finish (now id : Nat) : Tracer → Tracer
  | silent => silent
  | recording r => recording (r.finishLast now id)

end Tracer

end SeriesQuery
