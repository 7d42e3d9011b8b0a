import PageReporter.Value.Access

/-!
# Time limits

How long something may take, as it is given: a number of seconds, or nothing for as long as it
takes. A limit of zero or less is over at once.

* `Limit.ofValue` — what a value says as a limit;
* `Limit.deadline` — when a limit that begins now is over.
-/

namespace PageReporter

/-- How long something may take. -/
inductive Limit
  | unlimited
  | over
  | within (seconds : Double)
deriving DecidableEq

namespace Limit

/-- Whether a number is zero or less; nothing else compares with zero. -/
def isOver (v : Value) : Except Fault Bool :=
  match v.number? with
  | some (.inl i) => .ok (i ≤ 0)
  | some (.inr x) => .ok (x.le Double.zero)
  | none => .error (.misuse (.order v.shape))

/-- What a value says as a limit. -/
def ofValue (v : Value) : Except Fault Limit := do
  if v.isNull then pure .unlimited
  else if ← isOver v then pure .over
  else pure (.within (← v.asDouble))

/-- A limit of a whole number of seconds. -/
def seconds (n : Nat) : Limit :=
  .within (Double.ofInt n)

end Limit

end PageReporter
