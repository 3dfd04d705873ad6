import HeadUnit.Metrics

/-!
# Trips into the vehicle

A trip is a call that waits for the vehicle until a deadline, whether or not
the vehicle heeds it. `Ending` is what ended the wait, `Ending.verdict` what
the caller gets and what is recorded:

* an answer without fault is passed on;
* a missed deadline, the caller's own or one reported by the vehicle, is a
  timeout, and the answer is dropped;
* any other fault is passed on with the answer that came with it.

`Trip.run` puts the endings in order of time for a call whose whole course is
known beforehand, and `Trip.conduct` records it as well.
-/

namespace HeadUnit.Trip

/-- What ended the wait. -/
inductive Ending (α : Type)
  | answered (value : α) (fault : Option Fault)
  | expired
  | canceled
  deriving Repr

/-- What the caller gets. -/
structure Verdict (α : Type) where
  value : α
  fault : Option Fault
  outcome : TripOutcome
  deriving Repr

/-- The verdict on an ending; `blank` is the answer of a call without one. -/
def Ending.verdict {α : Type} (blank : α) : Ending α → Verdict α
  | .answered v none => ⟨v, none, .ok⟩
  | .answered v (some f) =>
    if f.isDeadline then ⟨blank, some .tripTimeout, .timeout⟩ else ⟨v, some f, .error⟩
  | .expired => ⟨blank, some .tripTimeout, .timeout⟩
  | .canceled => ⟨blank, some .canceled, .error⟩

/-- What a vehicle answers that gives up with its caller. -/
def Ending.givenUp {α : Type} (blank : α) : Ending α → Ending α
  | .answered v f => .answered v f
  | .expired => .answered blank (some .deadline)
  | .canceled => .answered blank (some .canceled)

/-- A call whose course is known beforehand; times are counted from its start. -/
structure Course (α : Type) where
  timeout : Int
  /-- When the vehicle answers, and what. -/
  delay : Int
  value : α
  fault : Option Fault
  /-- The vehicle does not give up when its caller does. -/
  heedless : Bool
  /-- When the caller cancels. -/
  cancel : Option Int
  /-- When the caller's own deadline is. -/
  deadline : Option Int
  deriving Repr

/-- When the wait is cut off by a deadline. -/
def Course.cutoff {α : Type} (c : Course α) : Int :=
  match c.deadline with
  | some d => min d c.timeout
  | none => c.timeout

/-- When the caller cancels before the cutoff. -/
def Course.earlyCancel? {α : Type} (c : Course α) : Option Int :=
  c.cancel.filter (max · 0 < max c.cutoff 0)

/-- How the context of the call ends, and when: by a deadline, or by a
    cancellation before it. A time before the start counts as the start. -/
def Course.cut {α : Type} (c : Course α) : Ending α × Int :=
  match c.earlyCancel? with
  | some t => (.canceled, max t 0)
  | none => (.expired, max c.cutoff 0)

/-- What the vehicle says, and when. One that heeds its caller gives up once the
    context has ended. -/
def Course.reply {α : Type} (blank : α) (c : Course α) : Ending α × Int :=
  let done := max c.delay 0
  if c.heedless || done < c.cut.2 then (.answered c.value c.fault, done)
  else (c.cut.1.givenUp blank, c.cut.2)

/-- The end of the wait, and when it comes: what the vehicle says counts if it
    comes before the context ends. -/
def Course.ending {α : Type} (blank : α) (c : Course α) : Ending α × Int :=
  if (c.reply blank).2 < c.cut.2 then c.reply blank else c.cut

/-- The course of a call: what the caller gets, and after what time. -/
def run {α : Type} (blank : α) (c : Course α) : Verdict α × Int :=
  let (e, t) := c.ending blank
  (e.verdict blank, t)

/-- A call of a kind: what the caller gets, after what time, and what is
    recorded. -/
def conduct {α : Type} (kind : TripKind) (blank : α) (c : Course α) :
    Verdict α × Int × List Note :=
  let (v, t) := run blank c
  (v, t, [.trip kind v.outcome t])

end HeadUnit.Trip
