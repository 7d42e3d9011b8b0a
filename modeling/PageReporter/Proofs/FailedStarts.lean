import Mathlib
import PageReporter.Main
import PageReporter.Proofs.Questions

/-!
# How the tool ends without a browser

A session that gets no browser ends with a fault, and what the tool does about it depends on the
kind of the fault. Here every way in which a start or an attachment can fail is followed to its
fault, whatever the surroundings answer, and the ways are told apart by whether the tool reports
them with a line of its own or lets the fault pass.

* `Fault.isReported` — the faults that the tool reports; `CommandLine.ending_reported`,
  `CommandLine.ending_escape` — how it ends with them and with all others;
* `Session.Fair` — what the surroundings may answer;
* `Session.Reported`, `Session.Escapes` — the ways to fail, with their faults;
* `Session.attach_fails`, `Session.launch_fails` — there are no others;
* `Session.failed_start_ends` — how the tool ends without a browser.
-/

namespace PageReporter

/-! ## Faults that are reported -/

/-- Whether the tool reports a fault with a line of its own. -/
def Fault.isReported : Fault → Bool
  | .noBrowser _ | .system .missingFile _ | .system .timeLimit _ => true
  | e => e.isProtocol

namespace CommandLine

/-- The lines begin with one on the error stream that a cross stands in front of. -/
def Crossed (color : Bool) (lines : List Line) : Prop :=
  ∃ text rest, lines = (.err, red color ("✗ " ++ text)) :: rest

theorem failure?_reported {e : Fault} (hReported : e.isReported = true) (color : Bool) :
    ∃ lines, failure? color e = some lines ∧ Crossed color lines := by
  cases e with
  | noBrowser address => exact ⟨_, rfl, "Browser not running\n", _, rfl⟩
  | system cause message =>
    cases cause with
    | missingFile => exact ⟨_, rfl, message, [], rfl⟩
    | timeLimit => exact ⟨_, rfl, message, [], rfl⟩
    | _ => cases hReported
  | protocol message => exact ⟨_, rfl, message, [], rfl⟩
  | navigation message => exact ⟨_, rfl, message, [], rfl⟩
  | click message => exact ⟨_, rfl, message, [], rfl⟩
  | _ => cases hReported

theorem failure?_other {e : Fault} (hOther : e.isReported = false) (color : Bool) :
    failure? color e = none := by
  cases e with
  | system cause message =>
    cases cause with
    | missingFile | timeLimit => cases hOther
    | _ => rfl
  | noBrowser _ | protocol _ | navigation _ | click _ => cases hOther
  | _ => rfl

theorem ending_reported {α : Type} {e : Fault} (hReported : e.isReported = true) (color : Bool) :
    ∃ lines, ending color (.error e : Except Fault α) = .exit 1 lines ∧ Crossed color lines := by
  obtain ⟨lines, hLines, hCrossed⟩ := failure?_reported hReported color
  refine ⟨lines, ?_, hCrossed⟩
  cases e with
  | interrupted => cases hReported
  | _ => simp only [ending, hLines]

theorem ending_escape {α : Type} {e : Fault} (hOther : e.isReported = false)
    (hHeard : e ≠ .interrupted) (color : Bool) :
    ending color (.error e : Except Fault α) = .escape e := by
  have hNone := failure?_other hOther color
  cases e with
  | interrupted => exact absurd rfl hHeard
  | _ => simp only [ending, hNone]

end CommandLine

namespace Session

open Script (Runs)
open Browser (document withoutSlashes socketAddress)

/-! ## What the surroundings may answer -/

/-- A question that a start depends on, and that the surroundings may refuse in any way. -/
def IsVenture : Host.Op → Prop
  | .makeProfile | .spawn _ | .fetch _ | .openSocket .. => True
  | _ => False

/-- A question that is always answered. -/
def IsSure : Host.Op → Prop
  | .makeProfile | .spawn _ | .fetch _ | .openSocket .. | .terminate | .kill | .awaitExit _ => False
  | _ => True

/-- What the surroundings may answer while a browser is started or attached. What a start depends
on may fail in any way, but nobody calls the work off or interrupts it; a signal may find no
process; and only a wait with a limit may take too long. -/
def Fair (_ : Unit) (op : Host.Op) (answer : Except Fault (Host.Answer op)) (_ : Unit) : Prop :=
  match op with
  | .makeProfile | .spawn _ | .fetch _ | .openSocket .. =>
    ∀ e, answer = .error e → e.isOrdinary = true
  | .terminate | .kill => ∀ e, answer = .error e → e.isNoProcess = true
  | .awaitExit limit => ∀ e, answer = .error e → e.isTimeLimit = true ∧ limit ≠ .unlimited
  | _ => ∃ given, answer = .ok given

/-! ## The ways to fail -/

/-- Settings that nothing can be started with, and the fault that they lead to: an address that is
no text, a command that has words that are none, and a time that is no number. -/
inductive Unfit (settings : Settings) : Fault → Prop
  | address {e : Fault} (hAddress : withoutSlashes settings.cdpUrl = .error e) : Unfit settings e
  | command {binary : Value} {profile : String} {e : Fault}
      (hCommand : Browser.command binary profile settings.headless settings.extraArgs = .error e) :
      Unfit settings e
  | time {start : Double} {e : Fault}
      (hTime : Browser.deadline start settings.launchTimeout = .error e) : Unfit settings e

/-- What a browser tells about itself when it is asked at an address. -/
def Described (trace : List Host.Exchange) (address : String) (description : Value) : Prop :=
  ∃ bytes, ⟨.fetch (address ++ "/json/version"), .ok bytes⟩ ∈ trace ∧
    document bytes = .ok description

/-- The ways to fail that are reported, each with its fault. -/
inductive Reported (settings : Settings) (trace : List Host.Exchange) : Fault → Prop
  /-- No browser is found. -/
  | missing {found : Option String} (hFound : ⟨.findBrowser, .ok found⟩ ∈ trace)
      (hNone : found.getD "" = "") :
      Reported settings trace (.system .missingFile Browser.notFound)
  /-- The browser ends while it starts. -/
  | exited {code : Int} (hCode : ⟨.exitCode, .ok (some code)⟩ ∈ trace) :
      Reported settings trace (.protocol s!"Browser exited with code {code} during startup")
  /-- The browser does not come up in time. -/
  | late {limit : String} (hLimit : settings.launchTimeout.general = .ok limit) :
      Reported settings trace
        (.system .timeLimit s!"Browser started but DevTools was not ready after {limit}s.")
  /-- Nothing answers at the address. -/
  | unanswered {address : String} {cause : Fault}
      (hCause : ⟨.fetch (address ++ "/json/version"), .error cause⟩ ∈ trace)
      (hKind : cause.isSystem = true ∨ cause.isBadValue = true) :
      Reported settings trace (.noBrowser address)
  /-- What answers at the address cannot be read. -/
  | unread {address : String} {bytes : ByteArray} {cause : Fault}
      (hBytes : ⟨.fetch (address ++ "/json/version"), .ok bytes⟩ ∈ trace)
      (hDocument : document bytes = .error cause) : Reported settings trace (.noBrowser address)
  /-- The browser does not tell the address of its socket. -/
  | unexposed {address : String} {description socket : Value}
      (hDescribed : Described trace address description)
      (hSocket : description.memberOr "webSocketDebuggerUrl" (.str "") = .ok socket)
      (hNone : socket.truthy = false) :
      Reported settings trace (.protocol "Browser did not expose webSocketDebuggerUrl")
  /-- The surroundings refuse, for a reason that the tool knows. -/
  | refused {op : Host.Op} {e : Fault} (hOp : IsVenture op) (hRefused : ⟨op, .error e⟩ ∈ trace)
      (hKind : e.isReported = true) : Reported settings trace e

/-- The ways to fail that nothing reports, each with its fault. -/
inductive Escapes (settings : Settings) (trace : List Host.Exchange) : Fault → Prop
  | unfit {e : Fault} (hUnfit : Unfit settings e) : Escapes settings trace e
  /-- The port file holds no text. -/
  | garbled {bytes : ByteArray} (hBytes : ⟨.portFile, .ok (some bytes)⟩ ∈ trace)
      (hText : Text.ofUtf8? bytes = none) : Escapes settings trace .badEncoding
  /-- The browser describes itself by what is no object. -/
  | undescribed {address : String} {description : Value}
      (hDescribed : Described trace address description)
      (hObject : ∀ members, description ≠ .object members) :
      Escapes settings trace (.noAttribute description.shape "get")
  /-- The browser tells an address of its socket that is no text, or makes no sense. -/
  | misnamed {address : String} {description socket : Value} {e : Fault}
      (hDescribed : Described trace address description)
      (hSocket : description.memberOr "webSocketDebuggerUrl" (.str "") = .ok socket)
      (hPresent : socket.truthy = true) (hAddress : socketAddress description address = .error e) :
      Escapes settings trace e
  /-- The surroundings refuse, for a reason that the tool does not know. -/
  | refused {op : Host.Op} {e : Fault} (hOp : IsVenture op) (hRefused : ⟨op, .error e⟩ ∈ trace)
      (hKind : e.isReported = false) (hOrdinary : e.isOrdinary = true) : Escapes settings trace e

/-- The start fails in one of the ways that there are. -/
def Fails (settings : Settings) (trace : List Host.Exchange) (e : Fault) : Prop :=
  Reported settings trace e ∨ Escapes settings trace e

variable {settings : Settings} {trace : List Host.Exchange} {e : Fault}

/-! ### Their faults -/

theorem Reported.isReported (hReported : Reported settings trace e) : e.isReported = true := by
  cases hReported with
  | refused _ _ hKind => exact hKind
  | _ => rfl

theorem words_error {values : List Value} (hWords : Browser.words values = .error e) :
    ∃ text, e = .misuse (.other text) := by
  induction values with
  | nil => cases hWords
  | cons v rest ih =>
    cases v with
    | str text =>
      cases hRest : Browser.words rest with
      | ok texts =>
        rw [Browser.words, hRest] at hWords
        cases hWords
      | error f =>
        rw [Browser.words, hRest] at hWords
        cases hWords
        exact ih hRest
    | _ =>
      cases hWords
      exact ⟨_, rfl⟩

theorem items_error {v : Value} (hItems : v.items = .error e) :
    e = .misuse (.walk v.shape) := by
  cases v <;> cases hItems <;> rfl

/-- Settings that are unfit lead to faults of the wrong shape, or to a number that is too large. -/
theorem Unfit.kind (hUnfit : Unfit settings e) :
    e.isReported = false ∧ e.isOrdinary = true := by
  cases hUnfit with
  | address hAddress =>
    unfold withoutSlashes at hAddress
    split at hAddress <;> cases hAddress
    exact ⟨rfl, rfl⟩
  | command hCommand =>
    unfold Browser.command at hCommand
    cases hItems : settings.extraArgs.items with
    | error f =>
      rw [hItems] at hCommand
      cases hCommand
      rw [items_error hItems]
      exact ⟨rfl, rfl⟩
    | ok items =>
      simp only [hItems, bind, Except.bind] at hCommand
      obtain ⟨text, rfl⟩ := words_error hCommand
      exact ⟨rfl, rfl⟩
  | time hTime =>
    unfold Browser.deadline at hTime
    split at hTime
    · next number hNumber =>
      cases hDouble : settings.launchTimeout.asDouble with
      | ok x =>
        rw [hDouble] at hTime
        cases hTime
      | error f =>
        rw [hDouble] at hTime
        cases hTime
        unfold Value.asDouble at hDouble
        split at hDouble
        · dsimp only at hDouble
          split at hDouble <;> cases hDouble
          exact ⟨rfl, rfl⟩
        · cases hDouble
        · cases hDouble
          exact ⟨rfl, rfl⟩
    · cases hTime
      exact ⟨rfl, rfl⟩

theorem split_error {text : List Char} (hSplit : Address.split text = .error e) :
    e = .badValue "Invalid host" := by
  unfold Address.split at hSplit
  dsimp only at hSplit
  split at hSplit
  all_goals
    split at hSplit
    · cases hSplit
    · exact (Except.error.inj hSplit).symm

theorem rehost_error {text other : String} (hRehost : Address.rehost text other = .error e) :
    e = .badValue "Invalid host" := by
  unfold Address.rehost at hRehost
  cases hText : Address.split text.toList with
  | error f =>
    rw [hText] at hRehost
    cases hRehost
    exact split_error hText
  | ok a =>
    cases hOther : Address.split other.toList with
    | error f =>
      rw [hText, hOther] at hRehost
      cases hRehost
      exact split_error hOther
    | ok b =>
      rw [hText, hOther] at hRehost
      cases hRehost

/-- Why a description tells no address: it has no members, or no address, or one that is no text or
makes no sense. -/
theorem socketAddress_error {description : Value} {address : String}
    (hAddress : socketAddress description address = .error e) :
    ((∀ members, description ≠ .object members) ∧ e = .noAttribute description.shape "get") ∨
    ∃ socket, description.memberOr "webSocketDebuggerUrl" (.str "") = .ok socket ∧
      (socket.truthy = false ∧ e = .protocol "Browser did not expose webSocketDebuggerUrl" ∨
        socket.truthy = true ∧ e.isReported = false ∧ e.isOrdinary = true) := by
  unfold socketAddress at hAddress
  cases hSocket : description.memberOr "webSocketDebuggerUrl" (.str "") with
  | error f =>
    left
    rw [hSocket] at hAddress
    cases hAddress
    cases description with
    | object members => cases hSocket
    | _ =>
      cases hSocket
      exact ⟨nofun, rfl⟩
  | ok socket =>
    right
    refine ⟨socket, rfl, ?_⟩
    simp only [hSocket, bind, Except.bind] at hAddress
    cases hPresent : socket.truthy with
    | false =>
      left
      rw [hPresent, Bool.not_false, if_pos rfl] at hAddress
      cases hAddress
      exact ⟨rfl, rfl⟩
    | true =>
      right
      rw [hPresent, Bool.not_true, if_neg (by decide)] at hAddress
      refine ⟨rfl, ?_⟩
      split at hAddress
      · rw [rehost_error hAddress]
        exact ⟨rfl, rfl⟩
      · split at hAddress
        · next hKey =>
          cases hAddress
          rw [(Value.asKey_error_iff.mp hKey).2]
          exact ⟨rfl, rfl⟩
        · cases hAddress
          exact ⟨rfl, rfl⟩

theorem Escapes.kind (hEscapes : Escapes settings trace e) :
    e.isReported = false ∧ e.isOrdinary = true := by
  cases hEscapes with
  | unfit hUnfit => exact hUnfit.kind
  | garbled => exact ⟨rfl, rfl⟩
  | undescribed => exact ⟨rfl, rfl⟩
  | @misnamed _ description socket _ hDescribed hSocket hPresent hAddress =>
    rcases socketAddress_error hAddress with ⟨hObject, -⟩ | ⟨other, hOther, hWhy⟩
    · -- What may be asked for a member is an object.
      cases description with
      | object members => exact absurd rfl (hObject members)
      | _ => cases hSocket
    · obtain rfl := Except.ok.inj (hSocket.symm.trans hOther)
      rcases hWhy with ⟨hNone, -⟩ | ⟨-, hKind⟩
      · rw [hPresent] at hNone
        cases hNone
      · exact hKind
  | refused _ _ hKind hOrdinary => exact ⟨hKind, hOrdinary⟩

/-! ### More of the same run -/

theorem Reported.mono {first : List Host.Exchange} (hSub : first ⊆ trace)
    (hReported : Reported settings first e) : Reported settings trace e := by
  cases hReported with
  | missing hFound hNone => exact .missing (hSub hFound) hNone
  | exited hCode => exact .exited (hSub hCode)
  | late hLimit => exact .late hLimit
  | unanswered hCause hKind => exact .unanswered (hSub hCause) hKind
  | unread hBytes hDocument => exact .unread (hSub hBytes) hDocument
  | unexposed hDescribed hSocket hNone =>
    exact .unexposed (hDescribed.imp fun _ h => ⟨hSub h.1, h.2⟩) hSocket hNone
  | refused hOp hRefused hKind => exact .refused hOp (hSub hRefused) hKind

theorem Escapes.mono {first : List Host.Exchange} (hSub : first ⊆ trace)
    (hEscapes : Escapes settings first e) : Escapes settings trace e := by
  cases hEscapes with
  | unfit hUnfit => exact .unfit hUnfit
  | garbled hBytes hText => exact .garbled (hSub hBytes) hText
  | undescribed hDescribed hObject =>
    exact .undescribed (hDescribed.imp fun _ h => ⟨hSub h.1, h.2⟩) hObject
  | misnamed hDescribed hSocket hPresent hAddress =>
    exact .misnamed (hDescribed.imp fun _ h => ⟨hSub h.1, h.2⟩) hSocket hPresent hAddress
  | refused hOp hRefused hKind hOrdinary => exact .refused hOp (hSub hRefused) hKind hOrdinary

theorem Fails.mono {first : List Host.Exchange} (hSub : first ⊆ trace)
    (hFails : Fails settings first e) : Fails settings trace e :=
  hFails.imp (·.mono hSub) (·.mono hSub)

/-- Surroundings that refuse something are known to the tool or not. -/
theorem Fails.refused {op : Host.Op} (hOp : IsVenture op) (hOrdinary : e.isOrdinary = true)
    (hRefused : ⟨op, .error e⟩ ∈ trace) : Fails settings trace e := by
  cases hKind : e.isReported with
  | true => exact .inl (.refused hOp hRefused hKind)
  | false => exact .inr (.refused hOp hRefused hKind hOrdinary)

/-- Where a step is followed by others, it fails or they do. -/
theorem bind_fails {α β : Type} {step : Script Host α} {others : α → Script Host β}
    (hRuns : Runs Fair (step.bind others) () trace (.error e) ())
    (hStep : ∀ {trace}, Runs Fair step () trace (.error e) () → Fails settings trace e)
    (hOthers : ∀ {first trace} given, Runs Fair step () first (.ok given) () →
      Runs Fair (others given) () trace (.error e) () → Fails settings trace e) :
    Fails settings trace e := by
  rcases Runs.bind hRuns with ⟨first, rest, given, _, rfl, hGiven, hRest⟩ | ⟨_, hSame, hFails⟩
  · exact (hOthers given hGiven hRest).mono (List.subset_append_right _ _)
  · cases hSame
    exact hStep hFails

/-! ## Attaching -/

/-- A question that the start depends on is refused for some ordinary reason. -/
theorem venture_runs {op : Host.Op} (hOp : IsVenture op)
    (hRuns : Runs Fair (Host.ask op) () trace (.error e) ()) :
    trace = [⟨op, .error e⟩] ∧ e.isOrdinary = true := by
  obtain ⟨rfl, hFair⟩ := Runs.perform hRuns
  refine ⟨rfl, ?_⟩
  cases op with
  | makeProfile | spawn _ | fetch _ | openSocket _ _ => exact hFair e rfl
  | _ => exact hOp.elim

theorem venture_fails {op : Host.Op} (hOp : IsVenture op)
    (hRuns : Runs Fair (Host.ask op) () trace (.error e) ()) : Fails settings trace e := by
  obtain ⟨rfl, hOrdinary⟩ := venture_runs hOp hRuns
  exact .refused hOp hOrdinary (.head _)

/-- A question that no start depends on is answered. -/
theorem sure_runs {op : Host.Op} (hOp : IsSure op)
    (hRuns : Runs Fair (Host.ask op) () trace (.error e) ()) : False := by
  obtain ⟨-, hFair⟩ := Runs.perform hRuns
  have hGiven : ∃ given, (.error e : Except Fault (Host.Answer op)) = .ok given := by
    cases op <;> first | exact hFair | exact hOp.elim
  obtain ⟨given, hNever⟩ := hGiven
  cases hNever

theorem document_error {bytes : ByteArray} (hDocument : document bytes = .error e) :
    e.isBadValue = true := by
  unfold document at hDocument
  split at hDocument
  · cases hDocument
    rfl
  · unfold Json.ofText at hDocument
    split at hDocument
    · cases hDocument
    · cases hDocument
      unfold Json.fault
      split <;> rfl

/-- What a browser tells about itself is asked for: that is refused, or it is no document. -/
theorem describe_fails {address : String}
    (hRuns : Runs Fair (Browser.describe address) () trace (.error e) ()) :
    Fails settings trace e := by
  rcases Runs.rescue hRuns with ⟨_, hNever, -⟩ | ⟨first, rest, f, mid, rfl, hFails, hHandled⟩
  · cases hNever
  · -- The handler asks nothing, so all that was told was told before.
    have hKind : e = (if f.isSystem || f.isBadValue then Fault.noBrowser address else f) ∧
        rest = [] := by
      split at hHandled
      · next hOurs =>
        obtain ⟨rfl, hSame, -⟩ := hHandled.ofDone
        rw [if_pos hOurs]
        exact ⟨Except.error.inj hSame, rfl⟩
      · next hOther =>
        obtain ⟨rfl, hSame, -⟩ := hHandled.ofDone
        rw [if_neg hOther]
        exact ⟨Except.error.inj hSame, rfl⟩
    obtain ⟨hFault, rfl⟩ := hKind
    rw [List.append_nil]
    rcases Runs.bind hFails with ⟨ask, nothing, bytes, _, rfl, hAsk, hDone⟩ | ⟨_, hSame, hAsk⟩
    · obtain ⟨rfl, hDocument, -⟩ := hDone.ofDone
      obtain ⟨rfl, -⟩ := Runs.perform hAsk
      rw [hFault, document_error hDocument.symm, Bool.or_true, if_pos rfl]
      exact .inl (.unread (.head _) hDocument.symm)
    · cases hSame
      obtain ⟨rfl, hOrdinary⟩ := venture_runs (by trivial) hAsk
      split at hFault
      · next hKind =>
        rw [hFault]
        exact .inl (.unanswered (.head _) (Bool.or_eq_true_iff.mp hKind))
      · rw [hFault]
        exact .refused (by trivial) hOrdinary (.head _)

theorem describe_ok {address : String} {description : Value}
    (hRuns : Runs Fair (Browser.describe address) () trace (.ok description) ()) :
    Described trace address description := by
  rcases Runs.rescue hRuns with ⟨_, hSame, hDone⟩ | ⟨first, rest, f, mid, rfl, -, hHandled⟩
  · cases hSame
    obtain ⟨ask, nothing, bytes, _, rfl, hAsk, hDocument⟩ := Runs.bind_ok hDone
    obtain ⟨rfl, hDocument, -⟩ := hDocument.ofDone
    obtain ⟨rfl, -⟩ := Runs.perform hAsk
    exact ⟨bytes, .head _, hDocument.symm⟩
  · split at hHandled <;> cases hHandled.ofDone.2.1

/-- Once the socket is open, nothing fails. -/
theorem adopt_runs {own : Bool} {browser : Browser}
    (hRuns : Runs Fair ((Host.ask (.adopt own)).bind fun _ => .done (.ok browser)) () trace
      (.error e) ()) : False := by
  rcases Runs.bind hRuns with ⟨_, _, _, _, -, -, hDone⟩ | ⟨_, -, hAdopt⟩
  · cases hDone.ofDone.2.1
  · exact sure_runs (by trivial) hAdopt

/-- What the browser tells about itself names no socket. -/
theorem socketAddress_fails {address : String} {description : Value}
    (hDescribed : Described trace address description)
    (hAddress : socketAddress description address = .error e) : Fails settings trace e := by
  rcases socketAddress_error hAddress with ⟨hObject, rfl⟩ | ⟨socket, hMember, hWhy⟩
  · exact .inr (.undescribed hDescribed hObject)
  · rcases hWhy with ⟨hNone, rfl⟩ | ⟨hPresent, -⟩
    · exact .inl (.unexposed hDescribed hMember hNone)
    · exact .inr (.misnamed hDescribed hMember hPresent hAddress)

/-- **The ways to fail of an attachment.** -/
theorem attach_fails {limit : Value}
    (hRuns : Runs Fair (Browser.attach settings.cdpUrl limit) () trace (.error e) ()) :
    Fails settings trace e := by
  refine bind_fails hRuns (fun hAddress => .inr (.unfit (.address hAddress.ofDone.2.1.symm)))
    fun address _ hRest => ?_
  rcases Runs.bind hRest with ⟨asked, rest, description, _, rfl, hAsked, hRest⟩ | ⟨_, hSame, hAsked⟩
  · rcases Runs.bind hRest with ⟨nothing, rest, socket, _, rfl, -, hOpen⟩ | ⟨_, hSame, hSocket⟩
    · -- The address of the socket is known, so it is the socket that is refused.
      have hFails : Fails settings rest e :=
        bind_fails hOpen (venture_fails trivial) fun _ _ hAdopt => (adopt_runs hAdopt).elim
      exact hFails.mono (by simp)
    · cases hSame
      obtain ⟨rfl, hAddress, -⟩ := hSocket.ofDone
      rw [List.append_nil]
      exact socketAddress_fails (describe_ok hAsked) hAddress.symm
  · cases hSame
    exact describe_fails hAsked

/-! ## Starting -/

/-- A signal that finds no process is no fault. -/
theorem signal_done {signal : Script Host Unit} {result : Except Fault Unit}
    (hSignal : ∀ {trace result}, Runs Fair signal () trace result () →
      ∀ f, result = .error f → f.isNoProcess = true)
    (hRuns : Runs Fair (signal.ignoring Fault.isNoProcess) () trace result ()) :
    result = .ok () := by
  rcases hRuns.ignoring with ⟨hSent, hOther⟩ | ⟨f, -, hDone, -⟩
  · cases result with
    | ok _ => rfl
    | error f => cases (hSignal hSent f rfl).symm.trans (hOther f rfl)
  · exact hDone

/-- The end of the process is waited for, first for a while and then as long as it takes. -/
theorem awaitEnd_done {result : Except Fault Unit}
    (hRuns : Runs Fair Browser.awaitEnd () trace result ()) : result = .ok () := by
  rcases Runs.rescue hRuns with ⟨_, hDone, -⟩ | ⟨first, rest, f, _, rfl, hTired, hForce⟩
  · exact hDone
  · obtain ⟨-, hFair⟩ := Runs.perform hTired
    rw [if_pos (hFair f rfl).1] at hForce
    rcases Runs.bind hForce with ⟨kill, wait, _, _, rfl, -, hWait⟩ | ⟨g, -, hKill⟩
    · -- A wait without a limit ends with the process only.
      obtain ⟨-, hFair⟩ := Runs.perform hWait
      cases result with
      | ok _ => rfl
      | error g => exact absurd rfl (hFair g rfl).2
    · cases signal_done (fun hSent => (Runs.perform hSent).2) hKill

theorem terminate_done {result : Except Fault Unit}
    (hRuns : Runs Fair Browser.terminate () trace result ()) : result = .ok () := by
  rcases Runs.bind hRuns with ⟨first, rest, code, _, rfl, -, hRest⟩ | ⟨f, -, hCode⟩
  · cases code with
    | some code => exact hRest.ofDone.2.1
    | none =>
      rcases Runs.bind hRest with ⟨ask, wait, _, _, rfl, -, hWait⟩ | ⟨g, -, hAsk⟩
      · exact awaitEnd_done hWait
      · cases signal_done (fun hSent => (Runs.perform hSent).2) hAsk
  · exact (sure_runs (by trivial) hCode).elim

/-- Nothing keeps the process from being ended, and the profile from being removed. -/
theorem discard_done {result : Except Fault Unit}
    (hRuns : Runs Fair Browser.discard () trace result ()) : result = .ok () := by
  rcases Runs.bind hRuns with ⟨first, rest, _, _, rfl, hEnd, hRemove⟩ | ⟨f, -, hEnd⟩
  · obtain ⟨-, given, hGiven⟩ := Runs.perform hRemove
    exact hGiven
  · cases terminate_done hEnd

/-- A time that makes a deadline can be told. -/
theorem general_of_deadline {start due : Double} {timeout : Value}
    (hDue : Browser.deadline start timeout = .ok due) : ∃ limit, timeout.general = .ok limit := by
  unfold Browser.deadline at hDue
  split at hDue
  · obtain ⟨x, hDouble, -⟩ := Fault.of_map_ok hDue
    exact ⟨_, by rw [Value.general, hDouble]; rfl⟩
  · cases hDue

/-- The port file is read. Bytes that are no text are not waited for to become one. -/
theorem read_fails {others : Option String → Script Host String}
    (hRuns : Runs Fair ((Host.ask .portFile).bind fun content =>
      (Script.ofExcept (Port.address? content)).bind others) () trace (.error e) ())
    (hOthers : ∀ {trace} found, Runs Fair (others found) () trace (.error e) () →
      Fails settings trace e) : Fails settings trace e := by
  rcases Runs.bind hRuns with ⟨asked, rest, content, _, rfl, hPort, hRest⟩ | ⟨_, -, hPort⟩
  · obtain ⟨rfl, -⟩ := Runs.perform hPort
    rcases Runs.bind hRest with ⟨nothing, rest, found, _, rfl, -, hRest⟩ | ⟨_, hSame, hText⟩
    · refine (hOthers found hRest).mono ?_
      simp
    · cases hSame
      obtain ⟨rfl, hAddress, -⟩ := hText.ofDone
      unfold Port.address? at hAddress
      split at hAddress
      · cases hAddress
      · split at hAddress
        · next hNone =>
          cases hAddress
          exact .inr (.garbled (.head _) hNone)
        · cases hAddress
  · exact (sure_runs (by trivial) hPort).elim

/-- Looking for the address fails because the browser has ended, because the port file is no text,
or because the time is over. -/
theorem look_fails {limit : String} (hLimit : settings.launchTimeout.general = .ok limit)
    {due : Double} {fuel : Nat}
    (hRuns : Runs Fair (Browser.look settings.launchTimeout due fuel) () trace (.error e) ()) :
    Fails settings trace e := by
  have hLate {trace : List Host.Exchange}
      (hRuns : Runs Fair (Browser.look.timedOut settings.launchTimeout) () trace (.error e) ()) :
      Fails settings trace e := by
    unfold Browser.look.timedOut at hRuns
    rw [hLimit] at hRuns
    obtain ⟨rfl, hSame, -⟩ := hRuns.ofDone
    cases hSame
    exact .inl (.late hLimit)
  induction fuel generalizing trace with
  | zero => exact hLate hRuns
  | succ fuel ih =>
    refine bind_fails hRuns (fun hNow => (sure_runs (by trivial) hNow).elim) fun time _ hLook => ?_
    split at hLook
    · exact hLate hLook
    · rcases Runs.bind hLook with ⟨asked, rest, code, _, rfl, hCode, hRead⟩ | ⟨_, -, hCode⟩
      · obtain ⟨rfl, -⟩ := Runs.perform hCode
        cases code with
        | some code =>
          obtain ⟨rfl, hSame, -⟩ := hRead.ofDone
          cases hSame
          exact .inl (.exited (.head _))
        | none =>
          refine Fails.mono (List.subset_append_right _ _) (read_fails hRead fun found hSlept => ?_)
          cases found with
          | some address => cases hSlept.ofDone.2.1
          | none =>
            exact bind_fails hSlept (fun hSleep => (sure_runs (by trivial) hSleep).elim)
              fun _ _ hLast => ih hLast
      · exact (sure_runs (by trivial) hCode).elim

theorem awaitSocket_fails
    (hRuns : Runs Fair (Browser.awaitSocket settings.launchTimeout) () trace (.error e) ()) :
    Fails settings trace e := by
  refine bind_fails hRuns (fun hNow => (sure_runs (by trivial) hNow).elim) fun start _ hRest => ?_
  refine bind_fails hRest (fun hTime => .inr (.unfit (.time hTime.ofDone.2.1.symm)))
    fun due hDue hLook => ?_
  obtain ⟨limit, hLimit⟩ := general_of_deadline hDue.ofDone.2.1.symm
  exact look_fails hLimit hLook

/-- The binary is not found. -/
theorem binary_fails
    (hRuns : Runs Fair (Browser.binary settings.chromePath) () trace (.error e) ()) :
    Fails settings trace e := by
  unfold Browser.binary at hRuns
  split at hRuns
  · cases hRuns.ofDone.2.1
  · rcases Runs.bind hRuns with ⟨first, rest, found, _, rfl, hFind, hRest⟩ | ⟨_, -, hFind⟩
    · obtain ⟨rfl, -⟩ := Runs.perform hFind
      cases found with
      | none =>
        obtain ⟨rfl, hSame, -⟩ := hRest.ofDone
        cases hSame
        exact .inl (.missing (.head _) rfl)
      | some path =>
        dsimp only at hRest
        split at hRest
        · next hEmpty =>
          obtain ⟨rfl, hSame, -⟩ := hRest.ofDone
          cases hSame
          exact .inl (.missing (.head _) (by simpa using hEmpty))
        · cases hRest.ofDone.2.1
    · exact (sure_runs (by trivial) hFind).elim

/-- The process cannot be started. -/
theorem spawn_fails {command : List String}
    (hRuns : Runs Fair (Browser.spawn command) () trace (.error e) ()) :
    Fails settings trace e := by
  rcases Runs.rescue hRuns with ⟨_, hNever, -⟩ | ⟨first, rest, f, _, rfl, hFails, hHandled⟩
  · cases hNever
  · obtain ⟨rfl, hOrdinary⟩ := venture_runs (by trivial) hFails
    have hSame : e = f := by
      split at hHandled
      · rcases Runs.bind hHandled with ⟨_, _, _, _, -, -, hThrow⟩ | ⟨_, -, hRemove⟩
        · exact Except.error.inj hThrow.ofDone.2.1
        · exact (sure_runs (by trivial) hRemove).elim
      · exact Except.error.inj hHandled.ofDone.2.1
    subst hSame
    exact .refused (show IsVenture (.spawn command) from trivial) hOrdinary (.head _)

/-- The socket is not reached. What is done about the process then does not hide why. -/
theorem reach_fails {options : LaunchOptions} (hTimeout : options.timeout = settings.launchTimeout)
    (hRuns : Runs Fair (Browser.reach options) () trace (.error e) ()) :
    Fails settings trace e := by
  rcases Runs.rescue hRuns with ⟨_, hNever, -⟩ | ⟨first, rest, f, _, rfl, hFails, hHandled⟩
  · cases hNever
  · have hSame : e = f := by
      rcases Runs.bind hHandled with ⟨_, _, _, _, -, -, hThrow⟩ | ⟨_, -, hDiscard⟩
      · exact Except.error.inj hThrow.ofDone.2.1
      · cases discard_done hDiscard
    subst hSame
    refine Fails.mono (List.subset_append_left _ _) ?_
    rw [hTimeout] at hFails
    exact bind_fails hFails awaitSocket_fails fun _ _ hOpen =>
      venture_fails (by trivial) hOpen

/-- **The ways to fail of a start.** -/
theorem launch_fails (hRuns : Runs Fair (Browser.launch ⟨settings.chromePath, settings.headless,
      settings.extraArgs, settings.launchTimeout, settings.protocolTimeout⟩) () trace (.error e) ()) :
    Fails settings trace e := by
  refine bind_fails hRuns binary_fails fun binary _ hRest => ?_
  refine bind_fails hRest (venture_fails trivial) fun profile _ hRest => ?_
  refine bind_fails hRest (fun hCommand => .inr (.unfit (.command hCommand.ofDone.2.1.symm)))
    fun command _ hRest => ?_
  refine bind_fails hRest spawn_fails fun _ _ hRest => ?_
  exact bind_fails hRest (reach_fails rfl) fun _ _ hAdopt => (adopt_runs hAdopt).elim

theorem openBrowser_fails (hRuns : Runs Fair (openBrowser settings) () trace (.error e) ()) :
    Fails settings trace e := by
  unfold openBrowser at hRuns
  split at hRuns
  · exact attach_fails hRuns
  · exact launch_fails hRuns

/-! ## The ending -/

/-- A visit whose settings can be read is a session with them. -/
theorem session_loaded {home : String} {file : SettingsFile} {env : List (String × String)}
    {invocation : Invocation} (hLoad : (Settings.load home file env).2 = .ok settings) :
    (Tool.session home file env invocation).2 =
      run invocation.url invocation.commands settings := by
  rw [Tool.session, hLoad]
  rfl

/-- **How the tool ends without a browser.** A visit whose settings can be read and that never gets
as far as to follow a browser ends with a fault. Either it fails in a way that is reported, and the
tool exits with status one after a line on the error stream that a cross stands in front of; or it
fails in one of the other ways, and the fault passes. -/
theorem failed_start_ends {home : String} {file : SettingsFile} {env : List (String × String)}
    {invocation : Invocation} (color : Bool) {result : Except Fault (List Outcome)}
    (hLoad : (Settings.load home file env).2 = .ok settings)
    (hRuns : Runs Fair (Tool.session home file env invocation).2 () trace result ())
    (hNone : ∀ answer, ⟨.followBrowser, answer⟩ ∉ trace) :
    ∃ e, result = .error e ∧
      ((Reported settings trace e ∧ ∃ lines, CommandLine.ending color result = .exit 1 lines ∧
          CommandLine.Crossed color lines) ∨
        (Escapes settings trace e ∧ CommandLine.ending color result = .escape e)) := by
  have hSession : Runs Fair (run invocation.url invocation.commands settings) () trace result () := by
    rwa [session_loaded hLoad] at hRuns
  obtain ⟨e, rfl, hFails⟩ : ∃ e, result = .error e ∧ Fails settings trace e := by
    rcases Runs.bind hSession with ⟨printed, rest, _, _, rfl, -, hRest⟩ | ⟨e, -, hPrint⟩
    · rcases Runs.bind hRest with ⟨opened, rest, browser, _, rfl, -, hFollow⟩ | ⟨e, rfl, hOpen⟩
      · -- Whoever has a browser asks to follow it.
        obtain ⟨answer, _, last, rfl, -⟩ := Runs.asked hFollow
        exact absurd (by simp) (hNone answer)
      · exact ⟨e, rfl, (openBrowser_fails hOpen).mono (List.subset_append_right _ _)⟩
    · exact (sure_runs (by trivial) hPrint).elim
  refine ⟨e, rfl, hFails.imp (fun hReported => ⟨hReported, ?_⟩) fun hEscapes => ⟨hEscapes, ?_⟩⟩
  · exact CommandLine.ending_reported hReported.isReported color
  · obtain ⟨hOther, hOrdinary⟩ := hEscapes.kind
    refine CommandLine.ending_escape hOther ?_ color
    rintro rfl
    cases hOrdinary

/-- A browser that describes itself by an empty list. -/
theorem failed_start_ends_list_description :
    ∃ (env : List (String × String)) (settings : Settings) (trace : List Host.Exchange)
      (result : Except Fault (List Outcome)),
      (Settings.load "" .missing env).2 = .ok settings ∧
      Runs Fair (Tool.session "" .missing env ⟨"http://localhost", none⟩).2 () trace result () ∧
      CommandLine.ending true result = .escape (.noAttribute "list" "get") := by
  let env := [("CDP_URL", "http://127.0.0.1:9222")]
  let settings : Settings := { cdpUrl := .str "http://127.0.0.1:9222" }
  let trace : List Host.Exchange := [⟨.print (.out, "Navigating to http://localhost..."), .ok ()⟩,
    ⟨.fetch "http://127.0.0.1:9222/json/version", .ok "[]".toUTF8⟩]
  have hLoad : (Settings.load "" .missing env).2 = .ok settings := by rfl
  have hText : Text.ofDocument? "[]".toUTF8 = some "[]" := by decide +kernel
  have hDocument : document "[]".toUTF8 = .ok (.list []) := by
    unfold document
    rw [hText]
    cbv
  have hRuns : Runs Fair (Tool.session "" .missing env ⟨"http://localhost", none⟩).2 () trace
      (.error (.noAttribute "list" "get")) () := by
    rw [session_loaded hLoad]
    refine .ask (show Fair () _ _ () from ⟨(), rfl⟩) (.ask (show Fair () _ _ () from nofun) ?_)
    show Runs Fair ((((Script.ofExcept (document "[]".toUTF8) : Script Host Value).rescue _).bind
      _).bind _) () _ _ _
    rw [hDocument]
    exact .done
  obtain ⟨e, hResult, hEnds⟩ := failed_start_ends true hLoad hRuns (by simp [trace])
  cases hResult
  rcases hEnds with ⟨hReported, -⟩ | ⟨-, hEnding⟩
  · cases hReported.isReported
  · exact ⟨env, settings, trace, _, hLoad, hRuns, hEnding⟩

end Session

end PageReporter
