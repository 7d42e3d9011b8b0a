import PageReporter.Proofs.Questions

/-!
# What a start that fails leaves behind

A start of a browser makes a directory, then a process, then a connection, and whatever fails on
the way is to leave neither directory nor process. The surroundings may answer as they like, as far
as a system can: a process ends when it will, and what is waited for may be called off.

* `Browser.Holdings` — what a start holds; `Browser.Answers` — what a question makes of it;
* `LaunchOptions.Sayable` — options of which a command can be made;
* `Browser.discard_runs` — throwing everything away, and what is left if that is cut off;
* `Browser.launch_leaves` — what is left of a start that failed.
-/

namespace PageReporter

/-- A value is a text. -/
def Value.IsText (v : Value) : Prop :=
  ∃ text, v = .str text

/-- Options of which a command can be made: all its words are texts. -/
structure LaunchOptions.Sayable (options : LaunchOptions) : Prop where
  binary : options.chromePath.truthy = true → options.chromePath.IsText
  extra : ∃ items, options.extraArgs.items = .ok items ∧ ∀ item ∈ items, item.IsText

namespace Browser

open Script (Runs)

/-! ## Manners of a system -/

/-- What a start holds: a directory, and a process that is not known to have ended. -/
structure Holdings where
  profile : Bool := false
  process : Bool := false

/-- Whether a question has nothing to do with directory and process. -/
def IsPlain : Host.Op → Prop
  | .makeProfile | .removeProfile | .spawn _ | .exitCode | .terminate | .kill | .awaitExit _
  | .adopt _ => False
  | _ => True

/-- What a system may answer, and what a start holds then. A process may end at any time; waiting
for its end takes as long as the limit says, unless it is called off. -/
inductive Answers (held : Holdings) :
    (op : Host.Op) → Except Fault (Host.Answer op) → Holdings → Prop
  | made (name : String) : Answers held .makeProfile (.ok name) { held with profile := true }
  | notMade (e : Fault) : Answers held .makeProfile (.error e) held
  | removed : Answers held .removeProfile (.ok ()) { held with profile := false }
  | spawned (command : List String) :
      Answers held (.spawn command) (.ok ()) { held with process := true }
  | notSpawned (command : List String) (e : Fault) : Answers held (.spawn command) (.error e) held
  | running (hRunning : held.process = true) : Answers held .exitCode (.ok none) held
  | ended (code : Int) : Answers held .exitCode (.ok (some code)) { held with process := false }
  | told : Answers held .terminate (.ok ()) held
  | notTold {e : Fault} (hNone : e.isNoProcess = true) : Answers held .terminate (.error e) held
  | killed : Answers held .kill (.ok ()) held
  | notKilled {e : Fault} (hNone : e.isNoProcess = true) : Answers held .kill (.error e) held
  | awaited (limit : Limit) : Answers held (.awaitExit limit) (.ok ()) { held with process := false }
  | notAwaited {limit : Limit} {e : Fault} (hLimit : limit = .unlimited → e.isTimeLimit = false) :
      Answers held (.awaitExit limit) (.error e) held
  | adopted (launched : Bool) : Answers held (.adopt launched) (.ok ()) held
  | plain {op : Host.Op} (hPlain : IsPlain op) (answer : Except Fault (Host.Answer op)) :
      Answers held op answer held

/-! ## What a run tells -/

/-- What counts for what is left behind. -/
inductive Mark
  /-- The directory has been made. -/
  | made
  /-- The process could not be started, for a reason that is not the system's. -/
  | misfired
  /-- Waiting for the end of the process failed, and not because the time was over. -/
  | cutOff

/-- What an answer counts as, if it counts. -/
def mark? : Host.Exchange → Option Mark
  | ⟨.makeProfile, .ok _⟩ => some .made
  | ⟨.spawn _, .error e⟩ => if e.isSystem then none else some .misfired
  | ⟨.awaitExit _, .error e⟩ => if e.isTimeLimit then none else some .cutOff
  | _ => none

/-- What a run has told of what counts, in order. -/
def marks (trace : List Host.Exchange) : List Mark :=
  trace.filterMap mark?

theorem marks_append (first rest : List Host.Exchange) :
    marks (first ++ rest) = marks first ++ marks rest :=
  List.filterMap_append

variable {held after : Holdings} {trace : List Host.Exchange}

/-! ## Parts that hold on to nothing -/

/-- What happens on the side: a process may be noticed to have ended. -/
structure Fades (held after : Holdings) : Prop where
  profile : after.profile = held.profile
  process : after.process = true → held.process = true

/-- Whether a question takes hold of nothing and waits for no process to end. -/
def IsIdle (op : Host.Op) : Prop :=
  IsPlain op ∨ op = .exitCode

theorem IsIdle.mark? {op : Host.Op} (hIdle : IsIdle op) (answer : Except Fault (Host.Answer op)) :
    Browser.mark? ⟨op, answer⟩ = none := by
  rcases hIdle with hPlain | rfl
  · cases op <;> first | rfl | cases hPlain
  · rfl

/-- A script of such questions. Nothing is told that counts. -/
theorem idle_runs {α : Type} {script : Script Host α} {result : Except Fault α}
    (hAsks : script.Asks IsIdle) (hRuns : Runs Answers script held trace result after) :
    Fades held after ∧ marks trace = [] := by
  have hAnswers : ∀ held op answer after, IsIdle op → Answers held op answer after →
      Fades held after := by
    intro held op answer after hIdle hAnswer
    cases hAnswer with
    | running hRunning => exact ⟨rfl, fun _ => hRunning⟩
    | ended code => exact ⟨rfl, nofun⟩
    | plain => exact ⟨rfl, id⟩
    | _ => rcases hIdle with hPlain | hCode <;> first | cases hPlain | cases hCode
  have hFades := hRuns.keeps (fun _ => ⟨rfl, id⟩)
    (fun _ _ _ hFirst hSecond => ⟨hSecond.profile.trans hFirst.profile,
      fun hProcess => hFirst.process (hSecond.process hProcess)⟩) hAnswers hAsks
  exact ⟨hFades, List.filterMap_eq_nil_iff.mpr fun exchange hMem =>
    (hRuns.kinds hAsks exchange hMem).mark? exchange.2⟩

/-! ## Throwing away -/

/-- A signal to the process reaches it or finds none. By itself it changes nothing. -/
def Harmless (held : Holdings) (trace : List Host.Exchange) (result : Except Fault Unit)
    (after : Holdings) : Prop :=
  after = held ∧ marks trace = [] ∧ ∀ e, result = .error e → e.isNoProcess = true

theorem terminate_harmless {result : Except Fault Unit}
    (hRuns : Runs Answers (Host.ask .terminate) held trace result after) :
    Harmless held trace result after := by
  obtain ⟨rfl, hAnswer⟩ := Runs.perform hRuns
  cases hAnswer with
  | plain hNever => cases hNever
  | told => exact ⟨rfl, rfl, nofun⟩
  | notTold hNone => exact ⟨rfl, rfl, fun _ hSame => Except.error.inj hSame ▸ hNone⟩

theorem kill_harmless {result : Except Fault Unit}
    (hRuns : Runs Answers (Host.ask .kill) held trace result after) :
    Harmless held trace result after := by
  obtain ⟨rfl, hAnswer⟩ := Runs.perform hRuns
  cases hAnswer with
  | plain hNever => cases hNever
  | killed => exact ⟨rfl, rfl, nofun⟩
  | notKilled hNone => exact ⟨rfl, rfl, fun _ hSame => Except.error.inj hSame ▸ hNone⟩

/-- A signal that finds no process is no fault. -/
theorem signal_runs {signal : Script Host Unit}
    (hSignal : ∀ {trace result after}, Runs Answers signal held trace result after →
      Harmless held trace result after) {result : Except Fault Unit}
    (hRuns : Runs Answers (signal.ignoring Fault.isNoProcess) held trace result after) :
    result = .ok () ∧ after = held ∧ marks trace = [] := by
  rcases hRuns.ignoring with ⟨hSent, hOther⟩ | ⟨e, -, rfl, hSent⟩
  · obtain ⟨rfl, hMarks, hNoProcess⟩ := hSignal hSent
    cases result with
    | ok _ => exact ⟨rfl, rfl, hMarks⟩
    | error e => cases (hNoProcess e rfl).symm.trans (hOther e rfl)
  · obtain ⟨rfl, hMarks, -⟩ := hSignal hSent
    exact ⟨rfl, rfl, hMarks⟩

/-- One wait for the end of the process: it ends, or the wait does. -/
theorem awaitExit_runs {limit : Limit} {result : Except Fault Unit}
    (hRuns : Runs Answers (Host.ask (.awaitExit limit)) held trace result after) :
    (result = .ok () ∧ after = { held with process := false } ∧ marks trace = []) ∨
    ∃ e, result = .error e ∧ after = held ∧
      ((e.isTimeLimit = true ∧ limit ≠ .unlimited ∧ marks trace = []) ∨
        e.isTimeLimit = false ∧ marks trace = [.cutOff]) := by
  obtain ⟨rfl, hAnswer⟩ := Runs.perform hRuns
  cases hAnswer with
  | plain hNever => cases hNever
  | awaited => exact .inl ⟨rfl, rfl, rfl⟩
  | @notAwaited _ e hLimit =>
    refine .inr ⟨e, rfl, rfl, ?_⟩
    cases hTime : e.isTimeLimit with
    | true =>
      refine .inl ⟨rfl, fun hUnlimited => ?_, by simp [marks, mark?, hTime]⟩
      cases hTime.symm.trans (hLimit hUnlimited)
    | false => exact .inr ⟨rfl, by simp [marks, mark?, hTime]⟩

/-- Something is brought about, or that is cut off, which leaves things as they are. -/
def Either (held final : Holdings) (trace : List Host.Exchange) (result : Except Fault Unit)
    (after : Holdings) : Prop :=
  (result = .ok () ∧ after = final ∧ marks trace = []) ∨
    (∃ e, result = .error e) ∧ after = held ∧ marks trace = [.cutOff]

/-- The end of the process is waited for. -/
theorem awaitEnd_runs {result : Except Fault Unit}
    (hRuns : Runs Answers awaitEnd held trace result after) :
    Either held { held with process := false } trace result after := by
  rcases Runs.rescue hRuns with ⟨_, rfl, hAwaited⟩ | ⟨first, rest, e, mid, rfl, hTired, hForce⟩
  · rcases awaitExit_runs hAwaited with ⟨-, hAfter, hMarks⟩ | ⟨_, hNever, -⟩
    · exact .inl ⟨rfl, hAfter, hMarks⟩
    · cases hNever
  · rcases awaitExit_runs hTired with ⟨hNever, -⟩ | ⟨_, hSame, rfl, hWhy⟩
    · cases hNever
    · cases hSame
      rcases hWhy with ⟨hTime, -, hFirst⟩ | ⟨hOther, hFirst⟩
      · -- The time is over: the process is killed, and waited for as long as it takes.
        rw [if_pos hTime] at hForce
        rcases Runs.bind hForce with ⟨kill, wait, _, _, rfl, hKill, hWait⟩ | ⟨_, -, hKill⟩
        · obtain ⟨-, rfl, hQuiet⟩ := signal_runs kill_harmless hKill
          have hMarks : marks (first ++ (kill ++ wait)) = marks wait := by
            rw [marks_append, marks_append, hFirst, hQuiet, List.nil_append, List.nil_append]
          rcases awaitExit_runs hWait with ⟨rfl, hAfter, hLast⟩ | ⟨f, rfl, hAfter, hWhy⟩
          · exact .inl ⟨rfl, hAfter, hMarks.trans hLast⟩
          · rcases hWhy with ⟨-, hLimit, -⟩ | ⟨-, hLast⟩
            · exact absurd rfl hLimit
            · exact .inr ⟨⟨f, rfl⟩, hAfter, hMarks.trans hLast⟩
        · cases (signal_runs kill_harmless hKill).1
      · -- Anything else cuts the wait off, and nobody kills the process.
        rw [if_neg (by simp [hOther])] at hForce
        obtain ⟨rfl, rfl, rfl⟩ := Runs.ofDone hForce
        refine .inr ⟨⟨e, rfl⟩, rfl, ?_⟩
        rw [List.append_nil, hFirst]

/-- The process ends, unless it has ended by itself. -/
theorem terminate_runs {result : Except Fault Unit}
    (hRuns : Runs Answers terminate held trace result after) :
    Either held { held with process := false } trace result after ∧
      (marks trace = [.cutOff] → held.process = true) := by
  rcases Runs.bind hRuns with ⟨first, rest, code, mid, rfl, hCode, hRest⟩ | ⟨_, -, hCode⟩
  · obtain ⟨rfl, hAnswer⟩ := Runs.perform hCode
    cases hAnswer with
    | plain hNever => cases hNever
    | ended code =>
      obtain ⟨rfl, rfl, rfl⟩ := Runs.ofDone hRest
      exact ⟨.inl ⟨rfl, rfl, rfl⟩, nofun⟩
    | running hRunning =>
      rcases Runs.bind hRest with ⟨ask, wait, _, _, rfl, hAsk, hWait⟩ | ⟨_, -, hAsk⟩
      · obtain ⟨-, rfl, hQuiet⟩ := signal_runs terminate_harmless hAsk
        have hMarks : marks (⟨.exitCode, .ok none⟩ :: (ask ++ wait)) = marks wait := by
          rw [← List.singleton_append, marks_append, marks_append, hQuiet]
          rfl
        refine ⟨?_, fun _ => hRunning⟩
        unfold Either
        rw [List.singleton_append, hMarks]
        exact awaitEnd_runs hWait
      · cases (signal_runs terminate_harmless hAsk).1
  · obtain ⟨-, hAnswer⟩ := Runs.perform hCode
    cases hAnswer with
    | plain hNever => cases hNever

/-- **Throwing everything away.** Neither process nor directory is left, unless that is cut off
while the process is still running; then both are. -/
theorem discard_runs {result : Except Fault Unit}
    (hRuns : Runs Answers discard held trace result after) :
    Either held {} trace result after ∧ (marks trace = [.cutOff] → held.process = true) := by
  rcases Runs.bind hRuns with ⟨first, rest, _, mid, rfl, hEnd, hRemove⟩ | ⟨e, rfl, hEnd⟩
  · obtain ⟨hEither, -⟩ := terminate_runs hEnd
    rcases hEither with ⟨-, rfl, hMarks⟩ | ⟨⟨_, hNever⟩, -⟩
    · obtain ⟨rfl, hAnswer⟩ := Runs.perform hRemove
      cases hAnswer with
      | plain hNever => cases hNever
      | removed =>
        have hNone : marks (first ++ [⟨.removeProfile, .ok ()⟩]) = [] := by
          rw [marks_append, hMarks]
          rfl
        refine ⟨.inl ⟨rfl, rfl, hNone⟩, fun hSome => ?_⟩
        cases hNone.symm.trans hSome
    · cases hNever
  · -- Where the wait was cut off, nobody gets as far as to remove the directory.
    obtain ⟨hEither, hRunning⟩ := terminate_runs hEnd
    rcases hEither with ⟨hNever, -⟩ | ⟨hError, hAfter, hMarks⟩
    · cases hNever
    · exact ⟨.inr ⟨hError, hAfter, hMarks⟩, hRunning⟩

/-! ## Waiting for the socket -/

/-- Looking for a browser and waiting for its socket take hold of nothing. -/
theorem IsLook.idle {op : Host.Op} (hLook : IsLook op) : IsIdle op := by
  cases op with
  | exitCode => exact .inr rfl
  | findBrowser | now | sleep | portFile | openSocket => exact .inl trivial
  | _ => exact hLook.elim

/-- What can fail in vain: waiting for the address, and opening the socket. -/
theorem connect_idle (options : LaunchOptions) :
    ((awaitSocket options.timeout).bind fun address =>
      Host.ask (.openSocket address options.protocolTimeout)).Asks IsIdle :=
  (connect_looks options).mono fun _ => IsLook.idle

/-- The connection is made, or everything is thrown away. -/
theorem reach_runs {options : LaunchOptions} {result : Except Fault Unit}
    (hRuns : Runs Answers (reach options) held trace result after) :
    (result = .ok () ∧ Fades held after ∧ marks trace = []) ∨
    (∃ e, result = .error e) ∧
      (after = {} ∧ marks trace = [] ∨
        after.profile = held.profile ∧ after.process = true ∧ marks trace = [.cutOff]) := by
  rcases Runs.rescue hRuns with ⟨_, rfl, hDone⟩ | ⟨first, rest, e, mid, rfl, hFails, hHandled⟩
  · obtain ⟨hFades, hMarks⟩ := idle_runs (connect_idle options) hDone
    exact .inl ⟨rfl, hFades, hMarks⟩
  · obtain ⟨hFades, hFirst⟩ := idle_runs (connect_idle options) hFails
    have hMarks : marks (first ++ rest) = marks rest := by
      rw [marks_append, hFirst, List.nil_append]
    rw [hMarks]
    rcases Runs.bind hHandled with ⟨all, nothing, _, last, rfl, hDiscard, hThrow⟩ | ⟨f, rfl, hDiscard⟩
    · obtain ⟨rfl, rfl, rfl⟩ := Runs.ofDone hThrow
      rcases (discard_runs hDiscard).1 with ⟨-, hAfter, hNone⟩ | ⟨⟨_, hNever⟩, -⟩
      · rw [List.append_nil]
        exact .inr ⟨⟨e, rfl⟩, .inl ⟨hAfter, hNone⟩⟩
      · cases hNever
    · obtain ⟨hEither, hRunning⟩ := discard_runs hDiscard
      rcases hEither with ⟨hNever, -⟩ | ⟨-, rfl, hCut⟩
      · cases hNever
      · exact .inr ⟨⟨f, rfl⟩, .inr ⟨hFades.profile, hRunning hCut, hCut⟩⟩

/-! ## The start -/

theorem words_ok_iff {values : List Value} :
    (∃ texts, words values = .ok texts) ↔ ∀ v ∈ values, v.IsText := by
  induction values with
  | nil => exact ⟨fun _ => nofun, fun _ => ⟨[], rfl⟩⟩
  | cons v rest ih =>
    rw [List.forall_mem_cons]
    constructor
    · rintro ⟨texts, hWords⟩
      cases v with
      | str text =>
        obtain ⟨later, hLater, -⟩ := Fault.of_map_ok hWords
        exact ⟨⟨text, rfl⟩, ih.mp ⟨later, hLater⟩⟩
      | _ => cases hWords
    · rintro ⟨⟨text, rfl⟩, hRest⟩
      obtain ⟨later, hLater⟩ := ih.mpr hRest
      exact ⟨text :: later, by rw [words, hLater]; rfl⟩

/-- A command can be made if the binary and all further words are texts. -/
theorem command_ok_iff {binary headless extraArgs : Value} {profile : String} :
    (∃ texts, command binary profile headless extraArgs = .ok texts) ↔
      binary.IsText ∧ ∃ items, extraArgs.items = .ok items ∧ ∀ item ∈ items, item.IsText := by
  -- The words that every command has are texts.
  have hSwitches : ∀ v ∈ switches.map Value.str, v.IsText := by
    intro v hMem
    obtain ⟨text, -, rfl⟩ := List.mem_map.mp hMem
    exact ⟨text, rfl⟩
  have hWindow : ∀ v ∈ if headless.truthy then [Value.str "--headless=new"] else [],
      v.IsText := by
    intro v hMem
    split at hMem
    · exact ⟨_, List.mem_singleton.mp hMem⟩
    · cases hMem
  have hFixed : ∀ text, (Value.str text).IsText := fun text => ⟨text, rfl⟩
  cases hItems : extraArgs.items with
  | error e =>
    constructor
    · rintro ⟨texts, hTexts⟩
      simp only [command, hItems, bind, Except.bind] at hTexts
      cases hTexts
    · rintro ⟨-, items, hNever, -⟩
      cases hNever
  | ok items =>
    have hCommand : command binary profile headless extraArgs = words (
        [binary, .str "--remote-debugging-port=0", .str s!"--user-data-dir={profile}"]
          ++ switches.map .str ++ (if headless.truthy then [.str "--headless=new"] else [])
          ++ items ++ [.str "about:blank"]) := by
      simp only [command, hItems, bind, Except.bind]
    rw [hCommand, words_ok_iff]
    constructor
    · intro hAll
      exact ⟨hAll binary (by simp), items, rfl, fun item hMem => hAll item (by simp [hMem])⟩
    · rintro ⟨hBinary, _, hSame, hTexts⟩
      cases hSame
      simp only [List.forall_mem_append, List.forall_mem_cons]
      have hFront := And.intro hBinary
        (And.intro (hFixed "--remote-debugging-port=0") (hFixed s!"--user-data-dir={profile}"))
      exact ⟨⟨⟨⟨⟨hFront.1, hFront.2.1, hFront.2.2, nofun⟩, hSwitches⟩, hWindow⟩, hTexts⟩,
        hFixed _, nofun⟩

theorem binary_idle (chromePath : Value) : (binary chromePath).Asks IsIdle :=
  (binary_looks chromePath).mono fun _ => IsLook.idle

/-- A binary is the one that was named, or one that was found by its path. -/
theorem binary_ok {chromePath found : Value}
    (hRuns : Runs Answers (binary chromePath) held trace (.ok found) after) :
    found.IsText ↔ (chromePath.truthy = true → chromePath.IsText) := by
  unfold binary at hRuns
  split at hRuns
  · next hNamed =>
    obtain ⟨-, hFound, -⟩ := Runs.ofDone hRuns
    obtain rfl := Except.ok.inj hFound
    exact ⟨fun hText _ => hText, fun hText => hText hNamed⟩
  · next hNameless =>
    refine ⟨fun _ hNamed => absurd hNamed hNameless, fun _ => ?_⟩
    rcases Runs.bind hRuns with ⟨first, rest, path, mid, -, -, hRest⟩ | ⟨_, hNever, -⟩
    · cases path with
      | none => cases (Runs.ofDone hRest).2.1
      | some path =>
        dsimp only at hRest
        split at hRest
        · cases (Runs.ofDone hRest).2.1
        · exact ⟨path, Except.ok.inj (Runs.ofDone hRest).2.1⟩
    · cases hNever

/-- The process is started, or the directory goes if it was the system that refused. -/
theorem spawn_runs {command : List String} {result : Except Fault Unit}
    (hRuns : Runs Answers (spawn command) held trace result after) :
    (result = .ok () ∧ after = { held with process := true } ∧ marks trace = []) ∨
    (∃ e, result = .error e) ∧
      (after = { held with profile := false } ∧ marks trace = [] ∨
        after = held ∧ marks trace = [.misfired]) := by
  rcases Runs.rescue hRuns with ⟨_, rfl, hDone⟩ | ⟨first, rest, e, mid, rfl, hFails, hHandled⟩
  · obtain ⟨rfl, hAnswer⟩ := Runs.perform hDone
    cases hAnswer with
    | plain hNever => cases hNever
    | spawned => exact .inl ⟨rfl, rfl, rfl⟩
  · obtain ⟨rfl, hAnswer⟩ := Runs.perform hFails
    cases hAnswer with
    | plain hNever => cases hNever
    | notSpawned =>
      cases hSystem : e.isSystem with
      | true =>
        rw [if_pos hSystem] at hHandled
        rcases Runs.bind hHandled with ⟨all, nothing, _, last, rfl, hRemove, hThrow⟩ | ⟨_, -, hRemove⟩
        · obtain ⟨rfl, hAnswer⟩ := Runs.perform hRemove
          cases hAnswer with
          | plain hNever => cases hNever
          | removed =>
            obtain ⟨rfl, rfl, rfl⟩ := Runs.ofDone hThrow
            exact .inr ⟨⟨e, rfl⟩, .inl ⟨rfl, by simp [marks, mark?, hSystem]⟩⟩
        · obtain ⟨-, hAnswer⟩ := Runs.perform hRemove
          cases hAnswer with
          | plain hNever => cases hNever
      | false =>
        -- What is not the system's fault passes the handler by, and the directory stays.
        rw [if_neg (by simp [hSystem])] at hHandled
        obtain ⟨rfl, rfl, rfl⟩ := Runs.ofDone hHandled
        exact .inr ⟨⟨e, rfl⟩, .inr ⟨rfl, by simp [marks, mark?, hSystem]⟩⟩

/-- What is left of a start that got as far as to make its directory, and failed then. -/
inductive Remains : Holdings → List Mark → Prop
  | nothing : Remains {} []
  | misfired : Remains { profile := true } [.misfired]
  | cutOff : Remains { profile := true, process := true } [.cutOff]

/-- From the command on, nothing is left but in two cases. -/
theorem spawn_reach_runs {options : LaunchOptions} {command : List String} {e : Fault}
    (hRuns : Runs Answers ((spawn command).bind fun _ => (reach options).bind fun _ =>
      (Host.ask (.adopt true)).bind fun _ => .done (.ok (Browser.mk true options.protocolTimeout)))
      { profile := true } trace (.error e) after) : Remains after (marks trace) := by
  rcases Runs.bind hRuns with ⟨first, rest, _, held, rfl, hSpawn, hRest⟩ | ⟨_, -, hSpawn⟩
  · rcases spawn_runs hSpawn with ⟨-, rfl, hFirst⟩ | ⟨⟨_, hNever⟩, -⟩
    · rw [marks_append, hFirst, List.nil_append]
      rcases Runs.bind hRest with ⟨reached, rest, _, held, rfl, -, hAdopt⟩ | ⟨_, -, hReach⟩
      · -- Once it is connected, nothing can fail.
        rcases Runs.bind hAdopt with ⟨_, _, _, _, -, -, hDone⟩ | ⟨_, -, hAdopt⟩
        · cases (Runs.ofDone hDone).2.1
        · obtain ⟨-, hAnswer⟩ := Runs.perform hAdopt
          cases hAnswer with
          | plain hNever => cases hNever
      · rcases reach_runs hReach with ⟨hNever, -⟩ | ⟨-, ⟨rfl, hMarks⟩ | ⟨hProfile, hProcess, hMarks⟩⟩
        · cases hNever
        · rw [hMarks]
          exact .nothing
        · obtain ⟨profile, process⟩ := after
          obtain rfl : profile = true := hProfile
          obtain rfl : process = true := hProcess
          rw [hMarks]
          exact .cutOff
    · cases hNever
  · rcases spawn_runs hSpawn with ⟨hNever, -⟩ | ⟨-, ⟨rfl, hMarks⟩ | ⟨rfl, hMarks⟩⟩
    · cases hNever
    · rw [hMarks]
      exact .nothing
    · rw [hMarks]
      exact .misfired

/-- **What a start that fails leaves behind.** A start that ends with a fault leaves a process
running exactly if waiting for its end was cut off. It leaves the directory behind exactly in that
case, if the process could not be started for a reason that is not the system's, and if the
directory was made for a command that could not. -/
theorem launch_leaves {options : LaunchOptions} {e : Fault}
    (hRuns : Runs Answers (launch options) {} trace (.error e) after) :
    (after.profile = true ↔
      (.made ∈ marks trace ∧ ¬ options.Sayable) ∨ .misfired ∈ marks trace ∨
        .cutOff ∈ marks trace) ∧
      (after.process = true ↔ .cutOff ∈ marks trace) := by
  rcases Runs.bind hRuns with ⟨first, rest, found, mid, rfl, hBinary, hRest⟩ | ⟨_, -, hBinary⟩
  · -- Looking for the binary takes hold of nothing, so all begins with the directory.
    obtain ⟨hFades, hFirst⟩ := idle_runs (binary_idle _) hBinary
    have hFound := binary_ok hBinary
    obtain ⟨profile, process⟩ := mid
    obtain rfl : profile = false := hFades.profile
    obtain rfl : process = false := eq_false_of_ne_true fun hTrue => nomatch hFades.process hTrue
    rw [marks_append, hFirst, List.nil_append]
    rcases Runs.bind hRest with ⟨make, rest, profile, held, rfl, hMake, hRest⟩ | ⟨_, -, hMake⟩
    · obtain ⟨rfl, hAnswer⟩ := Runs.perform hMake
      cases hAnswer with
      | plain hNever => cases hNever
      | made =>
        have hMarks : marks ([⟨.makeProfile, .ok profile⟩] ++ rest) = .made :: marks rest := rfl
        have hSayable : options.Sayable ↔ ∃ texts,
            command found profile options.headless options.extraArgs = .ok texts := by
          rw [command_ok_iff, hFound]
          exact ⟨fun h => ⟨h.binary, h.extra⟩, fun h => ⟨h.1, h.2⟩⟩
        rw [hMarks, hSayable]
        -- Between the directory and the process the command is made, which nothing guards.
        cases hCommand : command found profile options.headless options.extraArgs with
        | error f =>
          rw [hCommand] at hRest
          obtain ⟨rfl, -, rfl⟩ := Runs.ofDone hRest
          simp [marks]
        | ok texts =>
          rw [hCommand] at hRest
          have hRemains := spawn_reach_runs hRest
          generalize marks rest = told at hRemains
          cases hRemains <;> simp
    · obtain ⟨rfl, hAnswer⟩ := Runs.perform hMake
      cases hAnswer with
      | plain hNever => cases hNever
      | notMade => simp [marks, mark?]
  · obtain ⟨hFades, hMarks⟩ := idle_runs (binary_idle _) hBinary
    rw [hMarks]
    simp only [List.not_mem_nil, false_and, or_self, iff_false, Bool.not_eq_true]
    exact ⟨hFades.profile, eq_false_of_ne_true fun hTrue => nomatch hFades.process hTrue⟩

/-- Further arguments that are a number are taken for granted until the directory has been made. -/
theorem launch_leaves_number_for_arguments :
    ∃ (options : LaunchOptions) (trace : List Host.Exchange) (e : Fault) (after : Holdings),
      Runs Answers (launch options) {} trace (.error e) after ∧ after.profile = true := by
  let options : LaunchOptions := { chromePath := .str "chromium", extraArgs := .int 5 }
  have hRuns : Runs Answers (launch options) {} [⟨.makeProfile, .ok "profile"⟩]
      (.error (.misuse (.walk "int"))) { profile := true } := .ask (.made "profile") .done
  have hExtra : ¬ options.Sayable := by
    rintro ⟨-, items, hItems, -⟩
    cases hItems
  exact ⟨options, _, _, _, hRuns, (launch_leaves hRuns).1.mpr (.inl ⟨.head _, hExtra⟩)⟩

end Browser

end PageReporter
