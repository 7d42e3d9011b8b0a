import PageReporter.Fault

/-!
# Scripts

Work that talks to its surroundings, as data. A script is finished, or it asks its surroundings
for something and says how it goes on with each answer; a fault can be the answer to anything.
What the surroundings do between a question and its answer is not a script's business, so the
same script is run by whoever answers, and is reasoned about over all answers at once.

* `Signature` — the questions and the type of the answer to each;
* `Script` — scripts over a signature, a monad with faults;
* `Script.andFinally` — clean-up that runs however the work ends;
* `Script.interpret` — a script over one signature as a script over another.
-/

namespace PageReporter

/-- The questions that a script may ask, and what answers each of them. -/
structure Signature where
  Op : Type
  Answer : Op → Type

/-- Work over a signature: a result, or a question with the work that follows each answer. -/
inductive Script (S : Signature) (α : Type) : Type
  | done (result : Except Fault α)
  | ask (op : S.Op) (next : Except Fault (S.Answer op) → Script S α)

namespace Script

variable {S T : Signature} {α β : Type}

/-! ## Sequence -/

/-- One script and then another that depends on its result. A fault ends the whole. -/
protected def bind : Script S α → (α → Script S β) → Script S β
  | .done (.ok a), f => f a
  | .done (.error e), _ => .done (.error e)
  | .ask op next, f => .ask op fun answer => (next answer).bind f

instance : Monad (Script S) where
  pure a := .done (.ok a)
  bind := Script.bind

/-- The question itself as a script: its result is the answer. -/
def perform (op : S.Op) : Script S (S.Answer op) :=
  .ask op .done

/-- What either gives a value or a fault, as a script that asks nothing. -/
def ofExcept (result : Except Fault α) : Script S α :=
  .done result

/-! ## Faults -/

/-- A script with another one in its place from where a fault arises. -/
def rescue : Script S α → (Fault → Script S α) → Script S α
  | .done (.ok a), _ => .done (.ok a)
  | .done (.error e), handle => handle e
  | .ask op next, handle => .ask op fun answer => (next answer).rescue handle

instance : MonadExcept Fault (Script S) where
  throw e := .done (.error e)
  tryCatch script handle := script.rescue handle

/-- A script followed by clean-up that runs however the script ends. The result is the script's,
unless the clean-up ends with a fault. -/
def andFinally : Script S α → Script S Unit → Script S α
  | .done result, cleanup => cleanup.bind fun _ => .done result
  | .ask op next, cleanup => .ask op fun answer => (next answer).andFinally cleanup

/-- A script whose faults of one family count as its end. -/
def ignoring (family : Fault → Bool) (script : Script S Unit) : Script S Unit :=
  script.rescue fun e => if family e then .done (.ok ()) else .done (.error e)

/-! ## Other surroundings -/

/-- A script over one signature as a script over another: each question is replaced by work that
answers it. -/
def interpret (answer : (op : S.Op) → Script T (S.Answer op)) : Script S α → Script T α
  | .done result => .done result
  | .ask op next => go (answer op) fun result => (next result).interpret answer
where
  /-- Work whose end, a fault included, is handed on. -/
  go {γ : Type} : Script T γ → (Except Fault γ → Script T α) → Script T α
    | .done result, k => k result
    | .ask op next, k => .ask op fun answer => go (next answer) k

/-- The items of a list treated one after the other. -/
def forEach (f : β → Script S Unit) : List β → Script S Unit
  | [] => .done (.ok ())
  | b :: bs => (f b).bind fun _ => forEach f bs

end Script

end PageReporter
