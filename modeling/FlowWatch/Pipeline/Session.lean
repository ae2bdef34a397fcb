import FlowWatch.Pipeline

/-!
# Sessions with a pipeline

A session mixes steps with new probes, with data that is pushed by hand, and
with questions about the pipeline. A probe feeds a tracker of its own, or one that
was there before. What the clocks say is part of an operation. A run is the list
of answers to a list of operations; it goes on after every failure.
-/

namespace FlowWatch.Pipeline

/-- An operation on a pipeline. -/
inductive Operation
  /-- Attaches a probe, named by a text, with a tracker of its own. -/
  | probe (point : String) (threshold reading : Duration)
  /-- Attaches a probe at a point that feeds the tracker of a number. -/
  | attach (point : Point) (tracker : Nat)
  /-- Lets data pass a pad. -/
  | push (element pad : String) (reading : Duration)
  /-- Asks for the time between two units. -/
  | interval
  /-- Asks whether the source has stalled at a time since the start. -/
  | stalled (elapsed : Duration)
  /-- Produces one unit. -/
  | step (moment : Moment)

/-- The answer to an operation. -/
inductive Answer
  /-- The probe is attached. -/
  | attached
  /-- The probe is not attached. -/
  | refused (failure : Failure)
  /-- Yes or no. -/
  | truth (holds : Bool)
  /-- A length of time. -/
  | length (duration : Duration)
  /-- What became of a step. -/
  | outcome (outcome : Outcome)
  deriving DecidableEq

/-- What an operation leads to. -/
structure Performed where
  /-- The pipeline afterwards. -/
  next : Pipeline
  /-- The answer. -/
  answer : Answer

/-- The pipeline with trackers that probes can feed. -/
def withTrackers (p : Pipeline) (trackers : List Tracker) : Pipeline :=
  { p with monitor := { p.monitor with trackers := trackers } }

/-- Performs one operation. -/
def perform (p : Pipeline) : Operation → Performed
  | .probe point threshold reading => match p.addProbe threshold reading point with
    | .ok next => ⟨next, .attached⟩
    | .error failure => ⟨p, .refused failure⟩
  | .attach point tracker => match p.monitor.register point tracker with
    | .ok (monitor, _) => ⟨{ p with monitor := monitor }, .attached⟩
    | .error failure => ⟨p, .refused failure⟩
  | .push element pad reading =>
    let pushed := p.monitor.push reading element pad
    ⟨{ p with monitor := pushed.monitor }, .truth pushed.found⟩
  | .interval => ⟨p, .length p.unitInterval⟩
  | .stalled elapsed => ⟨p, .truth (p.isStalled elapsed)⟩
  | .step moment =>
    let stepped := p.step moment
    ⟨stepped.next, .outcome stepped.outcome⟩

/-- Performs operations one after the other. -/
def performAll (p : Pipeline) : List Operation → Pipeline × List Answer
  | [] => (p, [])
  | operation :: rest =>
    let performed := p.perform operation
    let (last, answers) := performed.next.performAll rest
    (last, performed.answer :: answers)

/-- A run of two parts is the run of the second after the first. -/
theorem performAll_append (p : Pipeline) (xs ys : List Operation) :
    p.performAll (xs ++ ys) =
      (((p.performAll xs).1.performAll ys).1,
        (p.performAll xs).2 ++ ((p.performAll xs).1.performAll ys).2) := by
  induction xs generalizing p with
  | nil => rfl
  | cons operation rest ih => simp only [List.cons_append, performAll, ih]

end FlowWatch.Pipeline
