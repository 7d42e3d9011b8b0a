import Mathlib.Logic.Relation
import PageReporter.Proofs.Questions
import PageReporter.Proofs.Turns

/-!
# The tabs that a browser keeps

A browser that had been running before is let go of by closing the tabs that were opened in it. A
tab takes several commands to open, each of which may fail, and other tabs are opened meanwhile. It
is kept once all of them have been answered, and only then; so a tab that the browser created for
a call that failed later stays open.

* `Opening` — a call that opens a tab; `Ledger` — all of them, with the pages that are kept;
* `Ledger.Step` — one call begins, or gets one answer; `Ledger.Steps` — a run;
* `Stage` — how far a call has come; `Ledger.Sound` — what is kept at any time;
* `Ledger.Answers` — what letting go of the browser is answered;
* `close_closes_returned` — the tabs that are closed are those of the calls that returned.
-/

namespace PageReporter

namespace World

variable {α : Type} {w : World α}

theorem addTimer_record (due : Double) (turn : Turn) : (w.addTimer due turn).record = w.record := by
  unfold addTimer
  split <;> rfl

theorem schedule_record (start : Double) (groups : List (Double × List Inbound)) :
    (w.schedule start groups).record = w.record := by
  induction groups generalizing w with
  | nil => rfl
  | cons group rest ih => exact ih.trans (addTimer_record ..)

theorem within_record (task : Nat) (limit : Limit) : (w.within task limit).record = w.record := by
  unfold within
  split
  · exact addTimer_record ..
  · rfl

/-- A command to an open socket goes out as one frame, whatever its limit. -/
theorem sent_of_open (hOpen : w.connection.closed = false) (hSendable : w.sendable = true)
    (task : Nat) (key : Value) (method : String) (params limit : Value) :
    (w.begin task (.send key method params limit)).world.record.sent = w.record.sent ++
      [(w.clock, Connection.frame (w.connection.lastNumber + 1) method params key)] := by
  show (w.beginSend task key method params limit).world.record.sent = _
  have hBegin : w.connection.begin method = .ok (w.connection.lastNumber + 1, _) :=
    if_neg (by simp [hOpen])
  have hSent : ∀ v : World α, v.clock = w.clock → v.record = w.record →
      (v.transmit (w.connection.lastNumber + 1) method params key).record.sent = w.record.sent ++
        [(w.clock, Connection.frame (w.connection.lastNumber + 1) method params key)] := by
    intro v hClock hRecord
    unfold transmit
    simp only [schedule_record, hClock, hRecord]
  unfold beginSend
  simp only [hBegin, hSendable, Bool.not_true, Bool.false_eq_true, if_false]
  split
  · exact hSent _ rfl rfl
  · exact hSent _ rfl rfl
  · exact (congrArg Record.sent (within_record ..)).trans (hSent _ rfl rfl)

end World

namespace Browser

open Script (Runs Asks)

/-! ## Calls that open tabs -/

/-- The target that an answer tells, if it is the answer to the command that creates one. -/
def target? : Host.Exchange → Option Value
  | ⟨.send _ method _ _, .ok created⟩ =>
    if method = "Target.createTarget" then (created.index "targetId").toOption else none
  | _ => none

/-- A call that opens a tab: what is left of it, and what it has been told. -/
structure Opening where
  rest : Script Host Page
  told : List Host.Exchange := []

namespace Opening

/-- The targets that the browser has created for a call, as far as it was told. -/
def created (opening : Opening) : List Value :=
  opening.told.filterMap target?

/-- The call has returned a page. -/
def returned (opening : Opening) : Bool :=
  match opening.rest with
  | .done (.ok _) => true
  | _ => false

end Opening

/-- The calls that open tabs, and the pages that are kept. -/
structure Ledger where
  openings : List Opening := []
  kept : List Page := []

namespace Ledger

/-- What an answer makes of the pages that are kept. The answer may be anything, but that keeping a
page does not fail. -/
inductive Keeps (kept : List Page) :
    (op : Host.Op) → Except Fault (Host.Answer op) → List Page → Prop
  | page (page : Page) : Keeps kept (.keepPage page) (.ok ()) (kept ++ [page])
  | other {op : Host.Op} (hOther : ∀ page, op ≠ .keepPage page)
      (answer : Except Fault (Host.Answer op)) : Keeps kept op answer kept

/-- A call begins, or one that is under way gets an answer to its question. -/
inductive Step (browser : Browser) : Ledger → Ledger → Prop
  | call {ledger : Ledger} :
      Step browser ledger { ledger with openings := ledger.openings ++ [⟨browser.newPage, []⟩] }
  | answer {ledger : Ledger} {i : Nat} {op : Host.Op}
      {next : Except Fault (Host.Answer op) → Script Host Page} {told : List Host.Exchange}
      (hAsks : ledger.openings[i]? = some ⟨.ask op next, told⟩)
      {answer : Except Fault (Host.Answer op)} {kept : List Page}
      (hKeeps : Keeps ledger.kept op answer kept) :
      Step browser ledger
        ⟨ledger.openings.set i ⟨next answer, told ++ [⟨op, answer⟩]⟩, kept⟩

/-- A run of calls, each of which goes on when it is answered. -/
abbrev Steps (browser : Browser) : Ledger → Ledger → Prop :=
  Relation.ReflTransGen (Step browser)

end Ledger

/-! ## How far a call has come -/

/-- A question that neither creates a target nor keeps a page. -/
def IsAside : Host.Op → Prop
  | .send _ method _ _ => method ≠ "Target.createTarget"
  | .keepPage _ => False
  | _ => True

/-- What is left of a call, if it fails or keeps a page of a target last of all. -/
inductive KeepsLast (target : Value) : Script Host Page → Prop
  | fails (e : Fault) : KeepsLast target (.done (.error e))
  | asks {op : Host.Op} {next : Except Fault (Host.Answer op) → Script Host Page}
      (hAside : IsAside op) (hRest : ∀ answer, KeepsLast target (next answer)) :
      KeepsLast target (.ask op next)
  | keeps {page : Page} {next : Except Fault Unit → Script Host Page}
      (hTarget : page.target = target) (hReturns : ∀ a, next (.ok a) = .done (.ok page)) :
      KeepsLast target (.ask (.keepPage page) next)

theorem KeepsLast.bind {α : Type} {target : Value} {first : Script Host α}
    {f : α → Script Host Page} (hFirst : first.Asks IsAside)
    (hSecond : ∀ a, KeepsLast target (f a)) : KeepsLast target (first.bind f) := by
  induction first with
  | done result =>
    cases result with
    | ok a => exact hSecond a
    | error e => exact .fails e
  | ask op next ih => exact .asks hFirst.1 fun answer => ih answer (hFirst.2 answer)

/-- A call has not begun, or it is under way with a target, or it has come to an end. -/
inductive Stage (browser : Browser) : Opening → Prop
  | fresh {rest : Script Host Page} (hRest : rest = browser.newPage) : Stage browser ⟨rest, []⟩
  | underway {rest : Script Host Page} {told : List Host.Exchange} {target : Value}
      (hRest : KeepsLast target rest) (hCreated : told.filterMap target? = [target]) :
      Stage browser ⟨rest, told⟩
  | failed {e : Fault} {told : List Host.Exchange} : Stage browser ⟨.done (.error e), told⟩
  | returned {page : Page} {told : List Host.Exchange}
      (hCreated : told.filterMap target? = [page.target]) : Stage browser ⟨.done (.ok page), told⟩

/-- A call begins with the command that creates a target. It fails if that fails or tells no target,
and otherwise keeps a page of that target last. -/
theorem newPage_begins (browser : Browser) : ∃ next : Except Fault Value → Script Host Page,
    browser.newPage =
        .ask (.send .null "Target.createTarget" (.object [("url", .str "about:blank")]) .null) next ∧
      (∀ e, next (.error e) = .done (.error e)) ∧
      (∀ created e, created.index "targetId" = .error e → next (.ok created) = .done (.error e)) ∧
      ∀ created target, created.index "targetId" = .ok target →
        KeepsLast target (next (.ok created)) := by
  refine ⟨_, rfl, fun _ => rfl, fun created e hNone => ?_, fun created target hTarget => ?_⟩
  · show Script.bind (Script.ofExcept (created.index "targetId")) _ = _
    rw [hNone]
    rfl
  · show KeepsLast target (Script.bind (Script.ofExcept (created.index "targetId")) _)
    rw [hTarget]
    show KeepsLast target (Script.bind (Host.send .null "Target.attachToTarget"
      (.object [("targetId", target), ("flatten", .bool true)]) .null) _)
    refine KeepsLast.bind (.perform (show IsAside _ by simp [IsAside])) fun attached => ?_
    refine KeepsLast.bind (Asks.ofExcept _) fun key => ?_
    refine KeepsLast.bind (.perform trivial) fun session => ?_
    refine KeepsLast.bind (.perform trivial) fun tab => ?_
    refine KeepsLast.bind (Page.enable_asks trivial fun method params hMem => ?_) fun _ => ?_
    · show method ≠ "Target.createTarget"
      rintro rfl
      revert hMem
      decide
    · exact .keeps rfl fun _ => rfl

theorem target?_aside {op : Host.Op} (hAside : IsAside op)
    (answer : Except Fault (Host.Answer op)) : target? ⟨op, answer⟩ = none := by
  cases op with
  | send key method params limit =>
    cases answer with
    | error e => rfl
    | ok v => exact if_neg hAside
  | _ => cases answer <;> rfl

theorem keeps_aside {op : Host.Op} (hAside : IsAside op) {answer : Except Fault (Host.Answer op)}
    {kept after : List Page} (hKeeps : Ledger.Keeps kept op answer after) : after = kept := by
  cases hKeeps with
  | page => exact hAside.elim
  | other => rfl

/-- What a call has brought about: its target, once it has returned. -/
def Opening.settled (opening : Opening) : List Value :=
  if opening.returned then opening.created else []

theorem KeepsLast.settled {target : Value} {rest : Script Host Page}
    (hRest : KeepsLast target rest) (told : List Host.Exchange) :
    Opening.settled ⟨rest, told⟩ = [] := by
  cases hRest <;> rfl

/-- **One answer.** The call gets further, and what is kept with it is what it has brought about. -/
theorem Stage.answered {browser : Browser} {op : Host.Op}
    {next : Except Fault (Host.Answer op) → Script Host Page} {told : List Host.Exchange}
    (hStage : Stage browser ⟨.ask op next, told⟩) {answer : Except Fault (Host.Answer op)}
    {kept after : List Page} (hKeeps : Ledger.Keeps kept op answer after) :
    Stage browser ⟨next answer, told ++ [⟨op, answer⟩]⟩ ∧ after.map Page.target =
      kept.map Page.target ++ Opening.settled ⟨next answer, told ++ [⟨op, answer⟩]⟩ := by
  cases hStage with
  | fresh hNew =>
    obtain ⟨begun, hBegins, hFails, hNameless, hTarget⟩ := newPage_begins browser
    rw [hBegins] at hNew
    cases hNew
    have hSame : after = kept := by
      cases hKeeps with
      | other => rfl
    rw [hSame]
    cases answer with
    | error e =>
      rw [hFails]
      exact ⟨.failed, (List.append_nil _).symm⟩
    | ok created =>
      cases hIndex : created.index "targetId" with
      | error e =>
        rw [hNameless created e hIndex]
        exact ⟨.failed, (List.append_nil _).symm⟩
      | ok target =>
        have hRest := hTarget created target hIndex
        refine ⟨.underway hRest (by simp [target?, hIndex, Except.toOption]), ?_⟩
        rw [hRest.settled, List.append_nil]
  | underway hRest hCreated =>
    cases hRest with
    | asks hAside hLater =>
      refine ⟨.underway (hLater answer) ?_, ?_⟩
      · rw [List.filterMap_append, hCreated]
        simp [target?_aside hAside]
      · rw [keeps_aside hAside hKeeps, (hLater answer).settled, List.append_nil]
    | @keeps page _ hTarget hReturns =>
      cases hKeeps with
      | other hOther => exact absurd rfl (hOther page)
      | page =>
        have hTold : (told ++ [(⟨.keepPage page, .ok ()⟩ : Host.Exchange)]).filterMap target? =
            [page.target] := by
          rw [List.filterMap_append, hCreated, hTarget]
          rfl
        rw [hReturns]
        refine ⟨.returned hTold, ?_⟩
        rw [List.map_append]
        exact congrArg _ hTold.symm

/-! ## What is kept -/

theorem settled_eq (openings : List Opening) :
    openings.flatMap Opening.settled = (openings.filter Opening.returned).flatMap Opening.created := by
  induction openings with
  | nil => rfl
  | cons opening rest ih =>
    rw [List.flatMap_cons, ih, List.filter_cons, Opening.settled]
    split
    · rfl
    · rfl

/-- One item of a list that brings nothing is replaced by one that may bring something. -/
theorem flatMap_set_perm {β γ : Type} {f : β → List γ} {l : List β} {i : Nat} {old : β}
    (hAt : l[i]? = some old) (hOld : f old = []) (new : β) :
    ((l.set i new).flatMap f).Perm (l.flatMap f ++ f new) := by
  induction l generalizing i with
  | nil => simp at hAt
  | cons b rest ih =>
    cases i with
    | zero =>
      obtain rfl : b = old := by simpa using hAt
      rw [List.set_cons_zero, List.flatMap_cons, List.flatMap_cons, hOld, List.nil_append]
      exact List.perm_append_comm
    | succ i =>
      have hRest : rest[i]? = some old := by simpa using hAt
      rw [List.set_cons_succ, List.flatMap_cons, List.flatMap_cons, List.append_assoc]
      exact (ih hRest).append_left (f b)

namespace Ledger

/-- What is kept are the pages of the calls that have returned. -/
structure Sound (browser : Browser) (ledger : Ledger) : Prop where
  openings : ∀ opening ∈ ledger.openings, Stage browser opening
  kept : (ledger.kept.map Page.target).Perm (ledger.openings.flatMap Opening.settled)

variable {browser : Browser} {ledger after : Ledger}

theorem Sound.start (browser : Browser) : Sound browser {} :=
  ⟨nofun, .nil⟩

theorem Sound.step (hSound : Sound browser ledger) (hStep : Step browser ledger after) :
    Sound browser after := by
  cases hStep with
  | call =>
    refine ⟨fun opening hMem => ?_, ?_⟩
    · rcases List.mem_append.mp hMem with hOld | hNew
      · exact hSound.openings opening hOld
      · obtain rfl := List.mem_singleton.mp hNew
        exact .fresh rfl
    · have hNothing : Opening.settled ⟨browser.newPage, []⟩ = [] := rfl
      simpa [hNothing] using hSound.kept
  | @answer i op next told hAsks answer kept hKeeps =>
    have hStage := hSound.openings _ (List.mem_of_getElem? hAsks)
    obtain ⟨hFurther, hKept⟩ := hStage.answered hKeeps
    refine ⟨fun opening hMem => ?_, ?_⟩
    · rcases List.mem_or_eq_of_mem_set hMem with hOld | rfl
      · exact hSound.openings opening hOld
      · exact hFurther
    · -- The call has brought about nothing before, since it was still asking.
      have hNothing : Opening.settled ⟨.ask op next, told⟩ = [] := rfl
      rw [hKept]
      exact (hSound.kept.append_right _).trans (flatMap_set_perm hAsks hNothing _).symm

theorem Sound.steps (hSound : Sound browser ledger) (hSteps : Steps browser ledger after) :
    Sound browser after := by
  induction hSteps with
  | refl => exact hSound
  | tail _ hLast ih => exact ih.step hLast

theorem Steps.kept_prefix (hSteps : Steps browser ledger after) : ledger.kept <+: after.kept := by
  induction hSteps with
  | refl => exact List.prefix_rfl
  | @tail before after _ hLast ih =>
    refine ih.trans ?_
    cases hLast with
    | call => exact List.prefix_rfl
    | answer _ hKeeps =>
      cases hKeeps with
      | page => exact List.prefix_append ..
      | other => exact List.prefix_rfl

/-- A call that goes on to its end while nothing else happens. -/
theorem Steps.of_runs {script : Script Host Page} {kept after : List Page}
    {trace told : List Host.Exchange} {result : Except Fault Page} {openings : List Opening}
    {i : Nat} (hRuns : Runs Keeps script kept trace result after)
    (hAt : openings[i]? = some ⟨script, told⟩) :
    Steps browser ⟨openings, kept⟩ ⟨openings.set i ⟨.done result, told ++ trace⟩, after⟩ := by
  induction hRuns generalizing openings told with
  | done =>
    obtain ⟨hBound, hGet⟩ := List.getElem?_eq_some_iff.mp hAt
    rw [List.append_nil, ← hGet, List.set_getElem_self]
  | @ask op next answer _ _ _ _ _ hAnswer _ ih =>
    have hBound := (List.getElem?_eq_some_iff.mp hAt).1
    have hFurther : (openings.set i ⟨next answer, told ++ [⟨op, answer⟩]⟩)[i]? =
        some ⟨next answer, told ++ [⟨op, answer⟩]⟩ := List.getElem?_set_self hBound
    have hRest := ih hFurther
    rw [List.set_set, List.append_assoc] at hRest
    exact .head (.answer hAt hAnswer) hRest

/-- What letting go of the browser is answered while calls go on: the pages that are kept, and
anything to all other questions. -/
inductive Answers (browser : Browser) :
    Ledger → (op : Host.Op) → Except Fault (Host.Answer op) → Ledger → Prop
  | kept {ledger after : Ledger} (number : Nat) (hSteps : Steps browser ledger after) :
      Answers browser ledger (.keptPage number) (.ok after.kept[number]?) after
  | other {ledger after : Ledger} {op : Host.Op} (hOther : ∀ number, op ≠ .keptPage number)
      (answer : Except Fault (Host.Answer op)) (hSteps : Steps browser ledger after) :
      Answers browser ledger op answer after

theorem Answers.steps {op : Host.Op} {answer : Except Fault (Host.Answer op)}
    (hAnswer : Answers browser ledger op answer after) : Steps browser ledger after := by
  cases hAnswer with
  | kept _ hSteps => exact hSteps
  | other _ _ hSteps => exact hSteps

end Ledger

/-! ## What is closed -/

/-- What a command to close a target carries. -/
def closeParams (target : Value) : Value :=
  .object [("targetId", target)]

/-- What a question carries, if it is a command to close a target. -/
def closing? : Host.Exchange → Option Value
  | ⟨.send _ method params _, _⟩ => if method = "Target.closeTarget" then some params else none
  | _ => none

/-- The commands to close a target that have been sent. -/
def closings (trace : List Host.Exchange) : List Value :=
  trace.filterMap closing?

/-- Every command has been answered by a result, or by a fault of the conversation. -/
def Spoken (trace : List Host.Exchange) : Prop :=
  ∀ key method params limit e,
    (⟨.send key method params limit, .error e⟩ : Host.Exchange) ∈ trace → e.isProtocol = true

variable {browser : Browser} {ledger after : Ledger} {trace : List Host.Exchange}
  {result : Except Fault Unit}

/-- A page is asked to close, and it does not matter what comes of it. -/
theorem close_page_runs {page : Page}
    (hRuns : Runs (Ledger.Answers browser) (page.close.ignoring Fault.isProtocol) ledger trace
      result after) (hSpoken : Spoken trace) :
    Ledger.Steps browser ledger after ∧ closings trace = [closeParams page.target] ∧
      result = .ok () := by
  obtain ⟨answer, mid, rest, rfl, hAnswer, hRest⟩ := Runs.asked hRuns
  have hDone : Runs (Ledger.Answers browser) (.done (.ok ())) mid rest result after := by
    cases answer with
    | ok v => exact hRest
    | error e =>
      have hProtocol : e.isProtocol = true := hSpoken _ _ _ _ e (.head _)
      have hIgnored : Runs (Ledger.Answers browser)
          (if e.isProtocol then .done (.ok ()) else .done (.error e)) mid rest result after := hRest
      rwa [if_pos hProtocol] at hIgnored
  obtain ⟨rfl, rfl, rfl⟩ := hDone.ofDone
  exact ⟨hAnswer.steps, rfl, rfl⟩

theorem closings_append (first rest : List Host.Exchange) :
    closings (first ++ rest) = closings first ++ closings rest :=
  List.filterMap_append

/-- All pages from a number on are asked to close, in the order in which they were kept, up to the
first moment at which there is none left. -/
theorem closePagesFrom_runs {fuel number : Nat}
    (hRuns : Runs (Ledger.Answers browser) (closePagesFrom fuel number) ledger trace result after)
    (hSpoken : Spoken trace) (hRoom : after.kept.length < fuel + number) :
    ∃ found, Ledger.Steps browser ledger found ∧ Ledger.Steps browser found after ∧
      closings trace = (found.kept.drop number).map (fun page => closeParams page.target) := by
  induction fuel generalizing number ledger trace with
  | zero =>
    obtain ⟨rfl, -, rfl⟩ := Runs.ofDone hRuns
    refine ⟨after, .refl, .refl, ?_⟩
    rw [List.drop_eq_nil_of_le (by omega)]
    rfl
  | succ fuel ih =>
    obtain ⟨answer, mid, rest, rfl, hAnswer, hRest⟩ := Runs.asked hRuns
    cases hAnswer with
    | other hOther => exact absurd rfl (hOther number)
    | kept _ hSteps =>
      cases hPage : mid.kept[number]? with
      | none =>
        rw [hPage] at hRest
        obtain ⟨rfl, -, rfl⟩ := Runs.ofDone hRest
        refine ⟨after, hSteps, .refl, ?_⟩
        rw [List.drop_eq_nil_of_le (List.getElem?_eq_none_iff.mp hPage)]
        rfl
      | some page =>
        rw [hPage] at hRest
        have hGoesOn : Runs (Ledger.Answers browser) ((page.close.ignoring Fault.isProtocol).bind
            fun _ => closePagesFrom fuel (number + 1)) mid rest result after := hRest
        have hLater : Spoken rest := fun key method params limit e hMem =>
          hSpoken key method params limit e (.tail _ hMem)
        rcases hGoesOn.bind with ⟨first, others, _, closed, rfl, hClose, hOthers⟩ | ⟨e, -, hClose⟩
        · obtain ⟨hMeanwhile, hFirst, -⟩ := close_page_runs hClose fun _ _ _ _ e hMem =>
            hLater _ _ _ _ e (List.mem_append_left _ hMem)
          obtain ⟨found, hBefore, hAfter, hClosed⟩ := ih hOthers (fun _ _ _ _ e hMem =>
            hLater _ _ _ _ e (List.mem_append_right _ hMem)) (by omega)
          have hReach := hMeanwhile.trans hBefore
          refine ⟨found, hSteps.trans hReach, hAfter, ?_⟩
          -- The page is still where it was, since pages are only added at the end.
          obtain ⟨more, hMore⟩ := Ledger.Steps.kept_prefix hReach
          have hStill : found.kept[number]? = some page := by
            rw [← hMore]
            exact (List.getElem?_append_left (List.getElem?_eq_some_iff.mp hPage).1).trans hPage
          obtain ⟨hBound, hGet⟩ := List.getElem?_eq_some_iff.mp hStill
          have hTrace : closings (⟨.keptPage number, .ok (some page)⟩ :: (first ++ others)) =
              closings first ++ closings others := closings_append first others
          rw [hTrace, hFirst, hClosed, List.drop_eq_getElem_cons hBound, hGet]
          rfl
        · cases (close_page_runs hClose hLater).2.2

/-- **What is closed.** A browser that had been running before is let go of by closing the targets of
those calls that have returned their page, and no others. A target that the browser created for a
call that failed later, or that is still under way, stays open. -/
theorem close_closes_returned (hAttached : browser.launched = false)
    (hSteps : Ledger.Steps browser {} ledger)
    (hRuns : Runs (Ledger.Answers browser) browser.close ledger trace result after)
    (hSpoken : Spoken trace) (hRoom : after.kept.length < 0x100000000) :
    ∃ found, Ledger.Steps browser ledger found ∧ Ledger.Steps browser found after ∧
      (closings trace).Perm
        (((found.openings.filter Opening.returned).flatMap Opening.created).map closeParams) := by
  unfold close at hRuns
  rw [hAttached, if_neg Bool.false_ne_true] at hRuns
  have hSettled : ∀ found, Ledger.Steps browser ledger found →
      (found.kept.map fun page => closeParams page.target).Perm
        (((found.openings.filter Opening.returned).flatMap Opening.created).map closeParams) := by
    intro found hMeanwhile
    have hKept := (Ledger.Sound.start browser |>.steps (hSteps.trans hMeanwhile)).kept
    rw [settled_eq] at hKept
    have hClosed := hKept.map closeParams
    rwa [List.map_map] at hClosed
  rcases Runs.bind hRuns with ⟨first, rest, _, mid, rfl, hPages, hRest⟩ | ⟨e, rfl, hPages⟩
  · -- Once the pages are done with, no more commands are sent.
    have hQuiet : (((Host.ask .mute).bind fun _ => Host.ask .hangUp).Asks
        fun op => op = Host.Op.mute ∨ op = Host.Op.hangUp) :=
      .bind (.perform (.inl rfl)) fun _ => .perform (.inr rfl)
    have hAnswers : ∀ ledger op answer after, op = Host.Op.mute ∨ op = Host.Op.hangUp →
        Ledger.Answers browser ledger op answer after → Ledger.Steps browser ledger after :=
      fun _ _ _ _ _ hAnswer => hAnswer.steps
    have hLater := hRest.keeps (fun _ => .refl) (fun _ _ _ => .trans) hAnswers hQuiet
    have hNone : closings rest = [] := by
      refine List.filterMap_eq_nil_iff.mpr fun exchange hMem => ?_
      obtain ⟨op, answer⟩ := exchange
      rcases hRest.kinds hQuiet _ hMem with rfl | rfl <;> rfl
    have hRoom : mid.kept.length < 0x100000000 + 0 :=
      Nat.lt_of_le_of_lt (Ledger.Steps.kept_prefix hLater).length_le hRoom
    obtain ⟨found, hBefore, hAfter, hClosed⟩ := closePagesFrom_runs hPages
      (fun _ _ _ _ e hMem => hSpoken _ _ _ _ e (List.mem_append_left _ hMem)) hRoom
    refine ⟨found, hBefore, hAfter.trans hLater, ?_⟩
    rw [closings_append, hNone, List.append_nil, hClosed]
    exact hSettled found hBefore
  · obtain ⟨found, hBefore, hAfter, hClosed⟩ := closePagesFrom_runs hPages hSpoken hRoom
    refine ⟨found, hBefore, hAfter, ?_⟩
    rw [hClosed]
    exact hSettled found hBefore

/-- Two calls, of which the first is refused when it attaches to its target: the browser has created
two targets, and only the second of them is closed. -/
theorem close_closes_returned_refused :
    ∃ (ledger : Ledger) (trace : List Host.Exchange),
      Ledger.Steps ⟨false, .null⟩ {} ledger ∧
      ledger.openings.flatMap Opening.created = [.str "T1", .str "T2"] ∧
      closings trace = [closeParams (.str "T2")] ∧
      ∃ found, Ledger.Steps ⟨false, .null⟩ ledger found ∧ (closings trace).Perm
        (((found.openings.filter Opening.returned).flatMap Opening.created).map closeParams) := by
  let browser : Browser := ⟨false, .null⟩
  let page : Page := ⟨0, 0, .str "S2", .str "T2", .null⟩
  let attaching (target : String) (answer : Except Fault Value) : List Host.Exchange :=
    [⟨.send .null "Target.createTarget" (.object [("url", .str "about:blank")]) .null,
        .ok (.object [("targetId", .str target)])⟩,
      ⟨.send .null "Target.attachToTarget"
        (.object [("targetId", .str target), ("flatten", .bool true)]) .null, answer⟩]
  let enabling (method : String) (params : Value) : List Host.Exchange :=
    [⟨.isDetached 0, .ok false⟩, ⟨.send (.str "S2") method params .null, .ok .null⟩]
  have hRefused : ∀ kept, Runs Ledger.Keeps browser.newPage kept
      (attaching "T1" (.error (.protocol "refused"))) (.error (.protocol "refused")) kept :=
    fun _ => .ask (.other (by nofun) _) (.ask (.other (by nofun) _) .done)
  have hReturned : Runs Ledger.Keeps browser.newPage []
      (attaching "T2" (.ok (.object [("sessionId", .str "S2")])) ++
        [⟨.register (.str "S2") (.str "T2"), .ok (0 : Nat)⟩, ⟨.openTab 0, .ok (0 : Nat)⟩] ++
        Page.domains.flatMap (enabling · .null) ++
        enabling "Page.setLifecycleEventsEnabled" (.object [("enabled", .bool true)]) ++
        [⟨.keepPage page, .ok ()⟩]) (.ok page) [page] := by
    iterate 14 refine .ask (.other (by nofun) _) ?_
    exact .ask (.page page) .done
  have hCalls : Ledger.Steps browser {} _ := .tail (.single .call) .call
  have hFirst := hCalls.trans (Ledger.Steps.of_runs (i := 0) (hRefused []) rfl)
  have hSecond := hFirst.trans (Ledger.Steps.of_runs (i := 1) hReturned rfl)
  have hClose : ∀ openings page, Runs (Ledger.Answers browser) browser.close ⟨openings, [page]⟩
      [⟨.keptPage 0, .ok (some page)⟩,
        ⟨.send .null "Target.closeTarget" (closeParams page.target) .null, .ok .null⟩,
        ⟨.keptPage 1, .ok none⟩, ⟨.mute, .ok ()⟩, ⟨.hangUp, .ok ()⟩]
      (.ok ()) ⟨openings, [page]⟩ := fun _ _ =>
    .ask (.kept 0 .refl) (.ask (.other (by nofun) _ .refl) (.ask (.kept 1 .refl)
      (.ask (.other (by nofun) _ .refl) (.ask (.other (by nofun) _ .refl) .done))))
  obtain ⟨found, hMeanwhile, -, hClosed⟩ :=
    close_closes_returned rfl hSecond (hClose _ page) (by simp [Spoken]) (by decide)
  exact ⟨_, _, hSecond, rfl, rfl, found, hMeanwhile, hClosed⟩

end Browser

end PageReporter
