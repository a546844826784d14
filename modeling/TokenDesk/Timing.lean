/-!
Time within a call. A call waits for answers and may be cancelled while it does; `Timeline.race`
says which of the two comes first. What counts if both fall in one instant is not fixed here: the
timeline brings its own choices.
-/

namespace TokenDesk

/-- The course of a call. -/
structure Timeline where
  /-- The time since the call began, in nanoseconds. -/
  now : Nat
  /-- When the call is cancelled, as far as it is known yet. -/
  cancelAt : Option Nat
  /-- For the waits to come, whether an answer in the instant of the cancellation still counts. -/
  answerFirst : Nat → Bool

/-- Something to wait for. -/
structure Wait (α : Type) where
  /-- How long the answer takes, in nanoseconds. -/
  delay : Nat
  /-- The answer; none if it never comes. -/
  answer : Option α
  /-- Whether the call is cancelled from the other side in the instant of the answer. -/
  cancels : Bool

namespace Wait

def now (a : α) : Wait α := ⟨0, some a, false⟩

def never : Wait α := ⟨0, none, false⟩

def pause (nanos : Nat) : Wait Unit := ⟨nanos, some (), false⟩

def map (f : α → β) (w : Wait α) : Wait β := ⟨w.delay, w.answer.map f, w.cancels⟩

end Wait

/-- How a wait ended. -/
inductive Waited (α : Type)
  | answered (a : α) (time : Timeline)
  | cancelled (time : Timeline)
  /-- Neither an answer nor a cancellation comes. -/
  | endless (time : Timeline)

/-- How a call on a state ended: its result unless it never ends, and time and state after it. -/
structure Run (σ α : Type) where
  result : Option α
  time : Timeline
  state : σ

namespace Timeline

/-- The beginning of a call that is cancelled at a time, or not at all. -/
def start (cancelAt : Option Nat) (answerFirst : Nat → Bool) : Timeline :=
  ⟨0, cancelAt, answerFirst⟩

def isCancelled (t : Timeline) : Bool := t.cancelAt.elim false fun c => c ≤ t.now

/-- The earlier of the cancellation known so far and one at a further time. -/
def cancelBy (t : Timeline) (time : Nat) : Option Nat := some (t.cancelAt.elim time (min time))

/-- The timeline at a later time, with one of its choices used. -/
def advance (t : Timeline) (time : Nat) : Timeline :=
  { t with now := time, answerFirst := fun n => t.answerFirst (n + 1) }

def afterAnswer (t : Timeline) (w : Wait α) : Timeline :=
  let due := t.now + w.delay
  { t.advance due with cancelAt := if w.cancels then t.cancelBy due else t.cancelAt }

/-- Waits for an answer that was asked for, or for the cancellation of the call. -/
def settle (t : Timeline) (w : Wait α) : Waited α :=
  let due := t.now + w.delay
  match w.answer, t.cancelAt with
  | some a, none => .answered a (t.afterAnswer w)
  | some a, some c =>
    let cancelled := max t.now c
    if cancelled < due || (cancelled = due && !t.answerFirst 0) then
      .cancelled (t.advance cancelled)
    else .answered a (t.afterAnswer w)
  | none, none =>
    if w.cancels then .cancelled { t.advance due with cancelAt := some due } else .endless t
  | none, some c =>
    let cancelled := if w.cancels then min due (max t.now c) else max t.now c
    .cancelled { t.advance cancelled with cancelAt := some (min c cancelled) }

/-- Asks and waits, unless the call is cancelled already and the cancellation is seen first. -/
def race (t : Timeline) (ask : σ → Wait α × σ) (s : σ) : Waited α × σ :=
  if t.isCancelled && !t.answerFirst 0 then (.cancelled (t.advance t.now), s)
  else
    let (w, s) := ask s
    (t.settle w, s)

/-- Waits for an answer whether or not the call is cancelled. -/
def await (t : Timeline) (w : Wait α) : Waited α :=
  match w.answer with
  | some a => .answered a (t.afterAnswer w)
  | none =>
    .endless { t with cancelAt := if w.cancels then t.cancelBy (t.now + w.delay) else t.cancelAt }

end Timeline

end TokenDesk
