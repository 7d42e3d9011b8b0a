import PageReporter.Proofs.ScriptRuns
import PageReporter.Session

/-!
# What scripts ask for

The questions that the work on a page comes down to, and those that the start of a browser does,
whatever they are answered. A page is opened, navigated and clicked by commands to its session, and
by what its tab is told and asked; a browser is started by what has to do with its process.

* `Host.sendTo_asks` — a command to a page; `Page.enable_asks` — the commands that a page begins with;
* `Page.IsVisit` — the questions of a visit; `Session.stay_visits` — it asks no others;
* `Browser.IsLook`, `Browser.IsEnding` — looking for a browser, and ending its process;
* `Browser.launch_launches` — what a start asks for.
-/

namespace PageReporter

open Script (Asks)

variable {kind : Host.Op → Prop}

/-- A command to a page may be refused, because its session has come to its end. -/
theorem Host.sendTo_asks {page : Page} {method : String} {params limit : Value}
    (hDetached : kind (.isDetached page.session))
    (hSend : kind (.send page.key method params limit)) :
    (Host.sendTo page method params limit).Asks kind := by
  refine .bind (.perform hDetached) fun detached => ?_
  split
  · trivial
  · exact .perform hSend

namespace Page

theorem enable_asks {page : Page} (hDetached : kind (.isDetached page.session))
    (hSend : ∀ method params, method ∈ "Page.setLifecycleEventsEnabled" :: domains →
      kind (.send page.key method params .null)) : page.enable.Asks kind := by
  refine .bind (.forEach fun method hMem => ?_) fun _ => ?_
  · refine .bind (Host.sendTo_asks hDetached (hSend method .null ?_)) fun _ => trivial
    exact .tail _ hMem
  · exact .bind (Host.sendTo_asks hDetached (hSend _ _ (.head _))) fun _ => trivial

/-! ## Visits -/

/-- What a visit may ask for: it prints, waits, and talks to the page. It never asks the browser to
quit. -/
def IsVisit : Host.Op → Prop
  | .print _ | .sleep _ | .isDetached _ | .register .. | .openTab _ | .keepPage _ | .beginWatch _
  | .endWatch _ | .awaitMilestone .. | .followTab _ => True
  | .send _ method _ _ => method ≠ "Browser.close"
  | _ => False

theorem sendTo_visits {page : Page} {method : String} {params limit : Value}
    (hMethod : method ≠ "Browser.close") : (Host.sendTo page method params limit).Asks IsVisit :=
  Host.sendTo_asks trivial hMethod

theorem newPage_visits (browser : Browser) : browser.newPage.Asks IsVisit := by
  refine .bind (.perform (show IsVisit _ by simp [IsVisit])) fun created => .bind ?_ fun target => ?_
  · cases created.index "targetId" <;> trivial
  refine .bind (.perform (show IsVisit _ by simp [IsVisit])) fun attached => .bind ?_ fun key => ?_
  · cases attached.index "sessionId" <;> trivial
  refine .bind (.perform trivial) fun session => .bind (.perform trivial) fun tab => ?_
  refine .bind (enable_asks trivial fun method params hMem => ?_) fun _ =>
    .bind (.perform trivial) fun _ => trivial
  rintro rfl
  revert hMem
  decide

theorem goto_visits (page : Page) (url : String) (waitUntil limit : Value) :
    (page.goto url waitUntil limit).Asks IsVisit := by
  have hNavigate : ∀ limit, (page.navigate url limit).Asks IsVisit := by
    intro limit
    refine .rescue (sendTo_visits (by decide)) fun e => ?_
    split <;> trivial
  have hAwait : ∀ watch sought limit, (page.awaitMilestone watch sought limit).Asks IsVisit := by
    intro watch sought limit
    refine .rescue (.perform trivial) fun e => ?_
    split
    · cases limitMilliseconds limit <;> trivial
    · trivial
  have hLoad : ∀ milestone limit watch, (page.load url milestone limit watch).Asks IsVisit := by
    intro milestone limit watch
    refine .bind (hNavigate limit) fun answer => ?_
    refine .bind (Asks.ofExcept _) fun errorText => ?_
    split
    · trivial
    · refine .bind (Asks.ofExcept _) fun loader => ?_
      split
      · exact .bind (Asks.ofExcept _) fun frame => hAwait _ _ _
      · trivial
  refine .bind (Asks.ofExcept _) fun milestone? => ?_
  cases milestone? with
  | none => trivial
  | some milestone =>
    exact .bind (.perform trivial) fun watch => .andFinally (hLoad _ _ _) (.perform trivial)

theorem click_visits (page : Page) (selector : String) : (page.click selector).Asks IsVisit := by
  have hPointer : ∀ kind x y button, (page.pointer kind x y button).Asks IsVisit :=
    fun _ _ _ _ => .bind (sendTo_visits (by decide)) fun _ => trivial
  refine .bind (sendTo_visits (by decide)) fun answer => .bind (Asks.ofExcept _) fun point => ?_
  exact .bind (hPointer ..) fun _ => .bind (hPointer ..) fun _ => hPointer ..

end Page

namespace Session

open Page

theorem runCommands_visits (page : Page) (commands : Option String) :
    (runCommands page commands).Asks IsVisit := by
  have hHand : ∀ op, (hand page op).Asks IsVisit := by
    intro op
    cases op with
    | print line => exact .perform trivial
    | pause seconds => exact .perform trivial
    | click selector => exact click_visits page selector
  unfold runCommands
  split
  · trivial
  · split
    · trivial
    · exact .interpret hHand _

/-- However a visit goes, it asks for nothing that lets go of the browser. -/
theorem stay_visits (browser : Browser) (url : String) (commands : Option String)
    (settings : Settings) : (stay browser url commands settings).Asks IsVisit := by
  have hVisit : (visit browser url commands settings).Asks IsVisit :=
    .bind (newPage_visits browser) fun page => .bind (.perform trivial) fun _ =>
      .bind (goto_visits ..) fun _ => runCommands_visits page commands
  refine .bind (.rescue hVisit fun e => ?_) fun outcomes => .bind (.perform trivial) fun _ => trivial
  split
  · exact .bind (.perform trivial) fun _ => trivial
  · trivial

end Session

/-! ## Starts -/

namespace Browser

/-- What looking for a browser and waiting for its socket ask for. -/
def IsLook : Host.Op → Prop
  | .findBrowser | .now | .sleep _ | .exitCode | .portFile | .openSocket .. => True
  | _ => False

/-- What ending a process and throwing its profile away ask for. -/
def IsEnding : Host.Op → Prop
  | .exitCode | .terminate | .kill | .awaitExit _ | .removeProfile => True
  | _ => False

/-- What a start asks for. -/
def IsLaunch (op : Host.Op) : Prop :=
  IsLook op ∨ IsEnding op ∨ match op with
    | .makeProfile | .spawn _ | .adopt _ => True
    | _ => False

theorem binary_looks (chromePath : Value) : (binary chromePath).Asks IsLook := by
  unfold binary
  split
  · trivial
  · refine .bind (.perform trivial) fun found => ?_
    cases found with
    | none => trivial
    | some path =>
      dsimp only
      split <;> trivial

theorem look_looks (timeout : Value) (due : Double) (fuel : Nat) :
    (look timeout due fuel).Asks IsLook := by
  have hLate : (look.timedOut timeout).Asks IsLook := by
    unfold look.timedOut
    cases timeout.general <;> trivial
  induction fuel with
  | zero => exact hLate
  | succ fuel ih =>
    refine .bind (.perform trivial) fun time => ?_
    split
    · exact hLate
    · refine .bind (.perform trivial) fun code => ?_
      cases code with
      | some code => trivial
      | none =>
        refine .bind (.perform trivial) fun content => .bind (Asks.ofExcept _) fun found => ?_
        cases found with
        | some address => trivial
        | none => exact .bind (.perform trivial) fun _ => ih

/-- Waiting for the address, and opening the socket. -/
theorem connect_looks (options : LaunchOptions) :
    ((awaitSocket options.timeout).bind fun address =>
      Host.ask (.openSocket address options.protocolTimeout)).Asks IsLook := by
  refine .bind (.bind (.perform trivial) fun start => ?_) fun address => .perform trivial
  exact .bind (Asks.ofExcept _) fun due => look_looks options.timeout due _

theorem discard_ends : discard.Asks IsEnding := by
  have hIgnored : ∀ e : Fault,
      (if e.isNoProcess then Script.done (.ok ()) else .done (.error e) : Script Host Unit).Asks
        IsEnding := by
    intro e
    split <;> trivial
  have hEnd : awaitEnd.Asks IsEnding := by
    refine .rescue (.perform trivial) fun e => ?_
    split
    · exact .bind (.rescue (.perform trivial) hIgnored) fun _ => .perform trivial
    · trivial
  refine .bind (.bind (.perform trivial) fun code => ?_) fun _ => .perform trivial
  cases code with
  | some code => trivial
  | none => exact .bind (.rescue (.perform trivial) hIgnored) fun _ => hEnd

theorem launch_launches (options : LaunchOptions) : (launch options).Asks IsLaunch := by
  have hLooks : ∀ {α : Type} {script : Script Host α}, script.Asks IsLook → script.Asks IsLaunch :=
    fun hLook => hLook.mono fun _ => .inl
  have hSpawn : ∀ command, (spawn command).Asks IsLaunch := by
    intro command
    refine .rescue (.perform (.inr (.inr trivial))) fun e => ?_
    split
    · exact .bind (.perform (.inr (.inl trivial))) fun _ => trivial
    · trivial
  have hReach : (reach options).Asks IsLaunch := by
    refine .rescue (hLooks (connect_looks options)) fun e => ?_
    exact .bind (discard_ends.mono fun _ hEnding => .inr (.inl hEnding)) fun _ => trivial
  refine .bind (hLooks (binary_looks _)) fun found => ?_
  refine .bind (.perform (.inr (.inr trivial))) fun profile => .bind (Asks.ofExcept _) fun command => ?_
  refine .bind (hSpawn command) fun _ => .bind hReach fun _ => ?_
  exact .bind (.perform (.inr (.inr trivial))) fun _ => trivial

end Browser

end PageReporter
