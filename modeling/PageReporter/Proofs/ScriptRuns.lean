import PageReporter.Script

/-!
# Runs of scripts

A script run by surroundings of which only the manners are known: which answers they may give to a
question in the state that they are in, and in what state the answer leaves them. A run is told by
the questions with their answers, in order.

* `Script.bind_done`, `Script.bind_assoc` — sequences of scripts may be taken apart anywhere;
* `Script.Asks` — a script that asks only questions of some kind;
* `Script.Runs` — a run of a script, from one state of the surroundings to another;
* `Script.Answered` — what is left of a run if it is forgotten which script has asked;
* `Script.Runs.bind`, `Script.Runs.rescue`, `Script.Runs.andFinally` — the parts of a run of two
  scripts;
* `Script.Runs.kinds`, `Script.Runs.keeps` — a run of a script that asks only questions of some kind
  has asked no others, and keeps what the answers to them keep;
* `Script.Runs.interpret_bind`, `Script.Runs.interpret_ask` — the parts of a run of a script whose
  questions are replaced.
-/

namespace PageReporter

/-- A question with an answer to it. -/
abbrev Signature.Exchange (S : Signature) : Type :=
  (op : S.Op) × Except Fault (S.Answer op)

namespace Script

variable {S : Signature} {σ α β : Type}

/-! ## Sequence -/

/-- Work that is only handed on is the work itself. -/
theorem bind_done (script : Script S α) : (script.bind fun a => .done (.ok a)) = script := by
  induction script with
  | done result => cases result <;> rfl
  | ask op next ih => exact congrArg (Script.ask op) (funext ih)

theorem bind_assoc {γ : Type} (script : Script S α) (f : α → Script S β) (g : β → Script S γ) :
    (script.bind f).bind g = script.bind fun a => (f a).bind g := by
  induction script with
  | done result => cases result <;> rfl
  | ask op next ih => exact congrArg (Script.ask op) (funext ih)

/-! ## Questions -/

/-- A script asks only questions of some kind, whatever it is answered. -/
def Asks (kind : S.Op → Prop) : Script S α → Prop
  | .done _ => True
  | .ask op next => kind op ∧ ∀ answer, (next answer).Asks kind

namespace Asks

variable {kind : S.Op → Prop}

theorem perform {op : S.Op} (hOp : kind op) : (Script.perform op).Asks kind :=
  ⟨hOp, fun _ => trivial⟩

theorem ofExcept (result : Except Fault α) : (Script.ofExcept result : Script S α).Asks kind :=
  trivial

theorem bind {script : Script S α} {f : α → Script S β} (hFirst : script.Asks kind)
    (hSecond : ∀ a, (f a).Asks kind) : (script.bind f).Asks kind := by
  induction script with
  | done result =>
    cases result with
    | ok a => exact hSecond a
    | error e => trivial
  | ask op next ih => exact ⟨hFirst.1, fun answer => ih answer (hFirst.2 answer)⟩

theorem mono {wider : S.Op → Prop} {script : Script S α} (hAsks : script.Asks kind)
    (hWider : ∀ op, kind op → wider op) : script.Asks wider := by
  induction script with
  | done => trivial
  | ask op next ih => exact ⟨hWider op hAsks.1, fun answer => ih answer (hAsks.2 answer)⟩

theorem rescue {script : Script S α} {handle : Fault → Script S α} (hFirst : script.Asks kind)
    (hHandled : ∀ e, (handle e).Asks kind) : (script.rescue handle).Asks kind := by
  induction script with
  | done result =>
    cases result with
    | ok a => trivial
    | error e => exact hHandled e
  | ask op next ih => exact ⟨hFirst.1, fun answer => ih answer (hFirst.2 answer)⟩

theorem andFinally {script : Script S α} {cleanup : Script S Unit} (hFirst : script.Asks kind)
    (hLast : cleanup.Asks kind) : (script.andFinally cleanup).Asks kind := by
  induction script with
  | done result => exact hLast.bind fun _ => trivial
  | ask op next ih => exact ⟨hFirst.1, fun answer => ih answer (hFirst.2 answer)⟩

theorem forEach {f : β → Script S Unit} {bs : List β} (hEach : ∀ b ∈ bs, (f b).Asks kind) :
    (Script.forEach f bs).Asks kind := by
  induction bs with
  | nil => trivial
  | cons b bs ih =>
    obtain ⟨hFirst, hRest⟩ := List.forall_mem_cons.mp hEach
    exact hFirst.bind fun _ => ih hRest

/-- A script over other surroundings asks what its questions are replaced by. -/
theorem interpret {T : Signature} {kind : T.Op → Prop}
    {answer : (op : S.Op) → Script T (S.Answer op)} (hAnswer : ∀ op, (answer op).Asks kind)
    (script : Script S α) : (script.interpret answer).Asks kind := by
  have hGo : ∀ {γ : Type} {first : Script T γ} {k : Except Fault γ → Script T α},
      first.Asks kind → (∀ result, (k result).Asks kind) →
        (Script.interpret.go first k).Asks kind := by
    intro γ first k hFirst hLater
    induction first with
    | done result => exact hLater result
    | ask op next ih => exact ⟨hFirst.1, fun answer => ih answer (hFirst.2 answer)⟩
  induction script with
  | done => trivial
  | ask op next ih => exact hGo (hAnswer op) ih

end Asks

/-! ## Runs -/

/-- A run of a script among surroundings with given manners. -/
inductive Runs (manners : σ → (op : S.Op) → Except Fault (S.Answer op) → σ → Prop) :
    Script S α → σ → List S.Exchange → Except Fault α → σ → Prop
  | done {result : Except Fault α} {s : σ} : Runs manners (.done result) s [] result s
  | ask {op : S.Op} {next : Except Fault (S.Answer op) → Script S α}
      {answer : Except Fault (S.Answer op)} {s mid after : σ} {trace : List S.Exchange}
      {result : Except Fault α} (hAnswer : manners s op answer mid)
      (hRest : Runs manners (next answer) mid trace result after) :
      Runs manners (.ask op next) s (⟨op, answer⟩ :: trace) result after

/-- Questions with their answers, one after the other, whoever asks them. -/
inductive Answered (manners : σ → (op : S.Op) → Except Fault (S.Answer op) → σ → Prop) :
    σ → List S.Exchange → σ → Prop
  | nil {s : σ} : Answered manners s [] s
  | cons {op : S.Op} {answer : Except Fault (S.Answer op)} {s mid after : σ}
      {trace : List S.Exchange} (hAnswer : manners s op answer mid)
      (hRest : Answered manners mid trace after) :
      Answered manners s (⟨op, answer⟩ :: trace) after

variable {manners : σ → (op : S.Op) → Except Fault (S.Answer op) → σ → Prop}

theorem Answered.append {s mid after : σ} {first rest : List S.Exchange}
    (hFirst : Answered manners s first mid) (hRest : Answered manners mid rest after) :
    Answered manners s (first ++ rest) after := by
  induction hFirst with
  | nil => exact hRest
  | cons hAnswer _ ih => exact .cons hAnswer (ih hRest)

namespace Runs

theorem answered {script : Script S α} {s after : σ} {trace : List S.Exchange}
    {result : Except Fault α} (hRuns : Runs manners script s trace result after) :
    Answered manners s trace after := by
  induction hRuns with
  | done => exact .nil
  | ask hAnswer _ ih => exact .cons hAnswer ih

/-- One question is asked and answered. -/
theorem perform {op : S.Op} {s after : σ} {trace : List S.Exchange}
    {result : Except Fault (S.Answer op)}
    (hRuns : Runs manners (Script.perform op) s trace result after) :
    trace = [⟨op, result⟩] ∧ manners s op result after := by
  cases hRuns with
  | ask hAnswer hRest =>
    cases hRest with
    | done => exact ⟨rfl, hAnswer⟩

/-- A question is asked and answered, and the run goes on from there. -/
theorem asked {op : S.Op} {next : Except Fault (S.Answer op) → Script S α} {s after : σ}
    {trace : List S.Exchange} {result : Except Fault α}
    (hRuns : Runs manners (.ask op next) s trace result after) :
    ∃ answer mid rest, trace = ⟨op, answer⟩ :: rest ∧ manners s op answer mid ∧
      Runs manners (next answer) mid rest result after := by
  cases hRuns with
  | ask hAnswer hRest => exact ⟨_, _, _, rfl, hAnswer, hRest⟩

/-- Where nothing is asked, the result is what it is. -/
theorem ofDone {given result : Except Fault α} {s after : σ} {trace : List S.Exchange}
    (hRuns : Runs manners (.done given) s trace result after) :
    trace = [] ∧ result = given ∧ after = s := by
  cases hRuns with
  | done => exact ⟨rfl, rfl, rfl⟩

/-- A script that came to a value, and then another that goes on from there. -/
theorem andThen {script : Script S α} {f : α → Script S β} {s mid after : σ}
    {first rest : List S.Exchange} {a : α} {result : Except Fault β}
    (hFirst : Runs manners script s first (.ok a) mid)
    (hRest : Runs manners (f a) mid rest result after) :
    Runs manners (script.bind f) s (first ++ rest) result after := by
  generalize hValue : Except.ok a = value at hFirst
  induction hFirst with
  | done =>
    subst hValue
    exact hRest
  | ask hAnswer _ ih => exact .ask hAnswer (ih hRest hValue)

/-- A script and then another: the first came to a value and the second went on from there, or
the first ended with a fault. -/
theorem bind {script : Script S α} {f : α → Script S β} {s after : σ} {trace : List S.Exchange}
    {result : Except Fault β} (hRuns : Runs manners (script.bind f) s trace result after) :
    (∃ first rest a mid, trace = first ++ rest ∧ Runs manners script s first (.ok a) mid ∧
      Runs manners (f a) mid rest result after) ∨
    (∃ e, result = .error e ∧ Runs manners script s trace (.error e) after) := by
  induction script generalizing s trace with
  | done given =>
    cases given with
    | ok a => exact .inl ⟨[], trace, a, s, rfl, .done, hRuns⟩
    | error e =>
      obtain ⟨rfl, rfl, rfl⟩ := hRuns.ofDone
      exact .inr ⟨e, rfl, .done⟩
  | ask op next ih =>
    cases hRuns with
    | ask hAnswer hRest =>
      rcases ih _ hRest with ⟨first, rest, a, mid, rfl, hFirst, hSecond⟩ | ⟨e, rfl, hFails⟩
      · exact .inl ⟨_ :: first, rest, a, mid, rfl, .ask hAnswer hFirst, hSecond⟩
      · exact .inr ⟨e, rfl, .ask hAnswer hFails⟩

/-- Where the whole came to a value, so did the first. -/
theorem bind_ok {script : Script S α} {f : α → Script S β} {s after : σ} {trace : List S.Exchange}
    {b : β} (hRuns : Runs manners (script.bind f) s trace (.ok b) after) :
    ∃ first rest a mid, trace = first ++ rest ∧ Runs manners script s first (.ok a) mid ∧
      Runs manners (f a) mid rest (.ok b) after := by
  rcases hRuns.bind with hBoth | ⟨_, hNever, -⟩
  · exact hBoth
  · cases hNever

/-- A question and then a script that depends on the answer: the script went on from the answer, or
the answer was a fault and the end. -/
theorem perform_bind {op : S.Op} {f : S.Answer op → Script S α} {s after : σ}
    {trace : List S.Exchange} {result : Except Fault α}
    (hRuns : Runs manners ((Script.perform op).bind f) s trace result after) :
    (∃ a mid rest, trace = ⟨op, .ok a⟩ :: rest ∧ manners s op (.ok a) mid ∧
      Runs manners (f a) mid rest result after) ∨
    (∃ e, result = .error e ∧ trace = [⟨op, .error e⟩] ∧ manners s op (.error e) after) := by
  obtain ⟨answer, mid, rest, rfl, hAnswer, hRest⟩ := hRuns.asked
  cases answer with
  | ok a => exact .inl ⟨a, mid, rest, rfl, hAnswer, hRest⟩
  | error e =>
    obtain ⟨rfl, rfl, rfl⟩ := hRest.ofDone
    exact .inr ⟨e, rfl, rfl, hAnswer⟩

/-- A script with another one in place of its faults: the first came to a value, or the second
went on from a fault of the first. -/
theorem rescue {script : Script S α} {handle : Fault → Script S α} {s after : σ}
    {trace : List S.Exchange} {result : Except Fault α}
    (hRuns : Runs manners (script.rescue handle) s trace result after) :
    (∃ a, result = .ok a ∧ Runs manners script s trace (.ok a) after) ∨
    (∃ first rest e mid, trace = first ++ rest ∧ Runs manners script s first (.error e) mid ∧
      Runs manners (handle e) mid rest result after) := by
  induction script generalizing s trace with
  | done given =>
    cases given with
    | ok a =>
      obtain ⟨rfl, rfl, rfl⟩ := hRuns.ofDone
      exact .inl ⟨a, rfl, .done⟩
    | error e => exact .inr ⟨[], trace, e, s, rfl, .done, hRuns⟩
  | ask op next ih =>
    cases hRuns with
    | ask hAnswer hRest =>
      rcases ih _ hRest with ⟨a, rfl, hValue⟩ | ⟨first, rest, e, mid, rfl, hFails, hHandled⟩
      · exact .inl ⟨a, rfl, .ask hAnswer hValue⟩
      · exact .inr ⟨_ :: first, rest, e, mid, rfl, .ask hAnswer hFails, hHandled⟩

/-- A script some of whose faults count as its end. -/
theorem ignoring {family : Fault → Bool} {script : Script S Unit} {s after : σ}
    {trace : List S.Exchange} {result : Except Fault Unit}
    (hRuns : Runs manners (script.ignoring family) s trace result after) :
    (Runs manners script s trace result after ∧ ∀ e, result = .error e → family e = false) ∨
    ∃ e, family e = true ∧ result = .ok () ∧ Runs manners script s trace (.error e) after := by
  rcases hRuns.rescue with ⟨a, rfl, hValue⟩ | ⟨first, rest, e, mid, rfl, hFails, hHandled⟩
  · exact .inl ⟨hValue, nofun⟩
  · cases hFamily : family e with
    | true =>
      rw [if_pos hFamily] at hHandled
      obtain ⟨rfl, rfl, rfl⟩ := hHandled.ofDone
      rw [List.append_nil]
      exact .inr ⟨e, hFamily, rfl, hFails⟩
    | false =>
      rw [if_neg (by rw [hFamily]; exact nofun)] at hHandled
      obtain ⟨rfl, rfl, rfl⟩ := hHandled.ofDone
      rw [List.append_nil]
      exact .inl ⟨hFails, fun f hError => Except.error.inj hError ▸ hFamily⟩

/-- A script and then its clean-up, which runs however the script ended. -/
theorem andFinally {script : Script S α} {cleanup : Script S Unit} {s after : σ}
    {trace : List S.Exchange} {result : Except Fault α}
    (hRuns : Runs manners (script.andFinally cleanup) s trace result after) :
    ∃ first rest given mid last, trace = first ++ rest ∧ Runs manners script s first given mid ∧
      Runs manners cleanup mid rest last after ∧ result = last.bind fun _ => given := by
  induction script generalizing s trace with
  | done given =>
    rcases hRuns.bind with ⟨rest, none, _, mid, rfl, hLast, hDone⟩ | ⟨e, rfl, hLast⟩
    · obtain ⟨rfl, rfl, rfl⟩ := hDone.ofDone
      rw [List.append_nil]
      exact ⟨[], rest, _, s, .ok (), rfl, .done, hLast, rfl⟩
    · exact ⟨[], trace, given, s, .error e, rfl, .done, hLast, rfl⟩
  | ask op next ih =>
    cases hRuns with
    | ask hAnswer hRest =>
      obtain ⟨first, rest, given, mid, last, rfl, hFirst, hLast, hResult⟩ := ih _ hRest
      exact ⟨_ :: first, rest, given, mid, last, rfl, .ask hAnswer hFirst, hLast, hResult⟩

/-- A script that asks only questions of some kind has asked no others. -/
theorem kinds {kind : S.Op → Prop} {script : Script S α} {s after : σ} {trace : List S.Exchange}
    {result : Except Fault α} (hRuns : Runs manners script s trace result after)
    (hAsks : script.Asks kind) : ∀ exchange ∈ trace, kind exchange.1 := by
  induction hRuns with
  | done => nofun
  | ask _ _ ih => exact List.forall_mem_cons.mpr ⟨hAsks.1, ih (hAsks.2 _)⟩

/-- Where every answer to a question of some kind keeps something, so does a run that asks no
others. -/
theorem keeps {kind : S.Op → Prop} {kept : σ → σ → Prop} (hRefl : ∀ s, kept s s)
    (hTrans : ∀ s mid after, kept s mid → kept mid after → kept s after)
    (hAnswers : ∀ s op answer after, kind op → manners s op answer after → kept s after)
    {script : Script S α} {s after : σ} {trace : List S.Exchange} {result : Except Fault α}
    (hRuns : Runs manners script s trace result after) (hAsks : script.Asks kind) :
    kept s after := by
  induction hRuns with
  | done => exact hRefl _
  | ask hAnswer _ ih =>
    exact hTrans _ _ _ (hAnswers _ _ _ _ hAsks.1 hAnswer) (ih (hAsks.2 _))

/-- A run among surroundings that tell more is one among those that tell less. -/
theorem map {τ : Type} {others : τ → (op : S.Op) → Except Fault (S.Answer op) → τ → Prop} (f : σ → τ)
    (hMap : ∀ s op answer after, manners s op answer after → others (f s) op answer (f after))
    {script : Script S α} {s after : σ} {trace : List S.Exchange} {result : Except Fault α}
    (hRuns : Runs manners script s trace result after) :
    Runs others script (f s) trace result (f after) := by
  induction hRuns with
  | done => exact .done
  | ask hAnswer _ ih => exact .ask (hMap _ _ _ _ hAnswer) ih

end Runs

/-! ## Runs in other surroundings -/

section

variable {T : Signature} {answer : (op : S.Op) → Script T (S.Answer op)}

theorem interpret_go_bind {γ : Type} (first : Script T γ) (k : Except Fault γ → Script T α)
    (f : α → Script T β) :
    (interpret.go first k).bind f = interpret.go first fun result => (k result).bind f := by
  induction first with
  | done => rfl
  | ask op next ih => exact congrArg (Script.ask op) (funext ih)

/-- Questions are replaced in each of two scripts by itself. -/
theorem interpret_bind (script : Script S α) (f : α → Script S β) :
    (script.bind f).interpret answer =
      (script.interpret answer).bind fun a => (f a).interpret answer := by
  induction script with
  | done result => cases result <;> rfl
  | ask op next ih =>
    show interpret.go (answer op) _ = (interpret.go (answer op) _).bind _
    rw [interpret_go_bind]
    exact congrArg (interpret.go (answer op)) (funext ih)

variable {manners : σ → (op : T.Op) → Except Fault (T.Answer op) → σ → Prop}

/-- Two scripts whose questions are replaced, one after the other. -/
theorem Runs.interpret_bind {script : Script S α} {f : α → Script S β} {s after : σ}
    {trace : List T.Exchange} {result : Except Fault β}
    (hRuns : Runs manners ((script.bind f).interpret answer) s trace result after) :
    (∃ first rest a mid, trace = first ++ rest ∧
      Runs manners (script.interpret answer) s first (.ok a) mid ∧
      Runs manners ((f a).interpret answer) mid rest result after) ∨
    (∃ e, result = .error e ∧ Runs manners (script.interpret answer) s trace (.error e) after) := by
  rw [Script.interpret_bind] at hRuns
  exact hRuns.bind

/-- What replaces a question, and then what follows on its result. -/
theorem Runs.ask_interpret {op : S.Op} {next : Except Fault (S.Answer op) → Script S α}
    {s mid after : σ} {first rest : List T.Exchange} {reply : Except Fault (S.Answer op)}
    {result : Except Fault α} (hFirst : Runs manners (answer op) s first reply mid)
    (hRest : Runs manners ((next reply).interpret answer) mid rest result after) :
    Runs manners ((Script.ask op next).interpret answer) s (first ++ rest) result after := by
  have hGo : ∀ {γ : Type} {script : Script T γ} {k : Except Fault γ → Script T α}
      {s mid first reply}, Runs manners script s first reply mid → Runs manners (k reply) mid rest result after →
        Runs manners (interpret.go script k) s (first ++ rest) result after := by
    intro γ script k s mid first reply hFirst hRest
    induction hFirst with
    | done => exact hRest
    | ask hAnswer _ ih => exact .ask hAnswer (ih hRest)
  exact hGo hFirst hRest

/-- What replaces a question runs to its end, and then what follows on its result. -/
theorem Runs.interpret_ask {op : S.Op} {next : Except Fault (S.Answer op) → Script S α}
    {s after : σ} {trace : List T.Exchange} {result : Except Fault α}
    (hRuns : Runs manners ((Script.ask op next).interpret answer) s trace result after) :
    ∃ first rest reply mid, trace = first ++ rest ∧ Runs manners (answer op) s first reply mid ∧
      Runs manners ((next reply).interpret answer) mid rest result after := by
  have hGo : ∀ {γ : Type} {script : Script T γ} {k : Except Fault γ → Script T α} {s trace},
      Runs manners (interpret.go script k) s trace result after →
        ∃ first rest reply mid, trace = first ++ rest ∧ Runs manners script s first reply mid ∧
          Runs manners (k reply) mid rest result after := by
    intro γ script k s trace hRuns
    induction script generalizing s trace with
    | done reply => exact ⟨[], trace, reply, s, rfl, .done, hRuns⟩
    | ask op next ih =>
      obtain ⟨_, _, _, rfl, hAnswer, hRest⟩ := hRuns.asked
      obtain ⟨first, rest, reply, mid, rfl, hFirst, hLater⟩ := ih _ hRest
      exact ⟨_ :: first, rest, reply, mid, rfl, .ask hAnswer hFirst, hLater⟩
  exact hGo hRuns

end

end Script

end PageReporter
