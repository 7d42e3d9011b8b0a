import PageReporter.Page.Handle
import PageReporter.Page.Tab
import PageReporter.Proofs.OpenRequests
import PageReporter.Proofs.ReadValues

/-!
# From frames to lines

A value can be written if its whole numbers have few enough digits, and whatever is read from a text
can. Here this is followed through everything that becomes of what has been read: the parts of a
value, the whole numbers that are made of texts and of doubles, the values that descriptions stand
for, the signals of a tab, and at last the events of the feed. An event of which everything can be
written has a line.

* `Gives` — a result that has a property if it is a value;
* `readInt?_fits`, `Value.wholeNumber_gives` — whole numbers that are read or cut;
* `Remote.decode_gives`, `Handle.resultOf_gives` — values that are looked up;
* `PageSignal.Fits`, `Tab.receive_fits` — what a tab signals, and what it remembers;
* `Event.Fits`, `Event.line_of_fits` — events and their lines; `FeedSignal.event?_fits` and
  `ConsoleCall.event_gives` — events of signals.
-/

namespace PageReporter

/-! ## Results -/

/-- A result that has a property, unless it is a fault. -/
def Gives {β : Type} (good : β → Prop) (result : Except Fault β) : Prop :=
  ∀ b, result = .ok b → good b

namespace Gives

variable {β γ : Type} {good : β → Prop} {better : γ → Prop} {result : Except Fault β}

theorem ok {b : β} (hGood : good b) : Gives good (.ok b) := by
  intro other hOk
  exact Except.ok.inj hOk ▸ hGood

theorem error {e : Fault} : Gives good (.error e) := by
  intro b hOk
  cases hOk

theorem bind {f : β → Except Fault γ} (hFirst : Gives good result)
    (hNext : ∀ b, good b → Gives better (f b)) : Gives better (result >>= f) := by
  intro c hOk
  obtain ⟨b, hFound, hLast⟩ := Fault.of_bind_ok hOk
  exact hNext b (hFirst b hFound) c hLast

/-- What comes first does not matter. -/
theorem after {f : β → Except Fault γ} (hNext : ∀ b, Gives better (f b)) :
    Gives better (result >>= f) := by
  intro c hOk
  obtain ⟨b, -, hLast⟩ := Fault.of_bind_ok hOk
  exact hNext b c hLast

theorem map {f : β → γ} (hFirst : Gives good result) (hNext : ∀ b, good b → better (f b)) :
    Gives better (result.map f) := by
  intro c hOk
  obtain ⟨b, hFound, rfl⟩ := Fault.of_map_ok hOk
  exact hNext b (hFirst b hFound)

theorem ite {p : Prop} [Decidable p] {other : Except Fault β} (hThen : Gives good result)
    (hElse : Gives good other) : Gives good (if p then result else other) := by
  split
  · exact hThen
  · exact hElse

end Gives

/-! ## Whole numbers -/

namespace Text

theorem digitValue?_lt {c : Char} {d : ℕ} (hDigit : digitValue? c = some d) : d < 10 := by
  obtain ⟨start, hStart, rfl⟩ := Option.map_eq_some_iff.mp hDigit
  have hRange := List.find?_some hStart
  simp only [Bool.and_eq_true, decide_eq_true_eq] at hRange
  omega

theorem digitRun_lt {cs rest : List Char} {ds : List ℕ} (hRun : digitRun cs = some (ds, rest)) :
    ∀ d ∈ ds, d < 10 := by
  induction cs generalizing ds with
  | nil =>
    cases hRun
    exact List.forall_mem_nil _
  | cons c cs ih =>
    rw [digitRun] at hRun
    split at hRun
    · next d hDigit =>
      obtain ⟨⟨others, left⟩, hOthers, hSame⟩ := Option.map_eq_some_iff.mp hRun
      cases hSame
      exact List.forall_mem_cons.mpr ⟨digitValue?_lt hDigit, ih hOthers⟩
    · split at hRun
      · cases hRun
      · cases hRun
        exact List.forall_mem_nil _

theorem ofDigitValues_lt {ds : List ℕ} (hDigits : ∀ d ∈ ds, d < 10) :
    ofDigitValues ds < 10 ^ ds.length := by
  have hLess := foldDigits_lt (n := 0) (k := 0) hDigits (by decide)
  rwa [Nat.zero_add] at hLess

end Text

/-- A whole number that is read has few enough digits to be written. -/
theorem readInt?_fits {text : List Char} {i : ℤ} (hRead : readInt? text = some i) :
    Value.intFits i = true := by
  unfold readInt? at hRead
  dsimp only at hRead
  split at hRead
  case h_2 => cases hRead
  case h_1 ds hRun =>
    split at hRead
    · cases hRead
    · next hFew =>
      -- Neither blanks nor a sign add to the digits, of which there are few enough.
      obtain ⟨body, -, hDigits⟩ := Option.bind_eq_some_iff.mp hRun
      simp only [Bool.or_eq_true, decide_eq_true_eq, not_or, Nat.not_lt] at hFew
      have hLess : Text.ofDigitValues ds < 10 ^ digitLimit :=
        Nat.lt_of_lt_of_le (Text.ofDigitValues_lt (Text.digitRun_lt hDigits))
          (Nat.pow_le_pow_right (by decide) hFew.2)
      obtain rfl := Option.some.inj hRead
      refine Value.intFits_of_lt ?_
      split
      · rwa [Int.natAbs_neg, Int.natAbs_natCast]
      · rwa [Int.natAbs_natCast]

/-- What a power of two leaves of a number has no more decimal digits than binary ones. -/
theorem div_twoTo_lt {units a b limit : ℕ} (hLog : units.log2 < a + b) (hFew : b ≤ limit) :
    units / twoTo a < 10 ^ limit :=
  calc units / twoTo a < 2 ^ b := by
        refine Nat.div_lt_of_lt_mul (Nat.lt_of_lt_of_le Nat.lt_log2_self ?_)
        show 2 ^ (units.log2 + 1) ≤ 2 ^ a * 2 ^ b
        rw [← Nat.pow_add]
        exact Nat.pow_le_pow_right (by decide) hLog
    _ ≤ 10 ^ b := Nat.pow_le_pow_left (by decide) b
    _ ≤ 10 ^ limit := Nat.pow_le_pow_right (by decide) hFew

/-- The whole part of a double is below two to the 1024, which has far fewer digits than may be
written. -/
theorem Double.truncate?_fits {x : Double} {i : ℤ} (hWhole : x.truncate? = some i) :
    Value.intFits i = true := by
  cases x with
  | nan | infinite => cases hWhole
  | finite negative units fits =>
    obtain rfl := Option.some.inj hWhole
    have hLess := @div_twoTo_lt units 1074 1024 digitLimit fits.1 (by decide)
    have hSize : ∀ z : ℤ, z.natAbs = units → Value.intFits (z.tdiv Double.unitsPerOne) = true := by
      intro z hSize
      refine Value.intFits_of_lt ?_
      rw [Int.natAbs_tdiv, hSize, Int.natAbs_natCast]
      exact hLess
    refine hSize _ ?_
    split
    · rw [Int.natAbs_neg, Int.natAbs_natCast]
    · rw [Int.natAbs_natCast]

/-! ## Parts of values -/

namespace Value

variable {v w : Value}

theorem orElse_fits (hFirst : v.fits = true) (hSecond : w.fits = true) :
    (v.orElse w).fits = true := by
  unfold orElse
  split
  · exact hFirst
  · exact hSecond

theorem member?_gives (hFits : v.fits = true) (name : String) :
    Gives (fun found => ∀ w ∈ found, w.fits = true) (v.member? name) := by
  cases v with
  | object members => exact .ok fun w hFound => find?_fits hFits hFound
  | _ => exact .error

theorem memberOr_gives (hFits : v.fits = true) (name : String) (hAbsent : w.fits = true) :
    Gives (fun found => found.fits = true) (v.memberOr name w) := by
  refine (member?_gives hFits name).map fun found hFound => ?_
  cases found with
  | none => exact hAbsent
  | some part => exact hFound part rfl

theorem get_gives (hFits : v.fits = true) (name : String) :
    Gives (fun found => found.fits = true) (v.get name) :=
  memberOr_gives hFits name rfl

theorem index_gives (hFits : v.fits = true) (name : String) :
    Gives (fun found => found.fits = true) (v.index name) := by
  cases v with
  | object members =>
    rw [index]
    split
    · next found hFound => exact .ok (find?_fits hFits hFound)
    · exact .error
  | _ => exact .error

/-- The first thing in a list that fits does. -/
theorem first_gives (hFits : v.fits = true) : Gives (fun found => found.fits = true) v.first := by
  unfold first
  split
  · rw [fits, fitsItems, Bool.and_eq_true] at hFits
    exact .ok hFits.1
  · exact .error
  · split
    · exact .ok rfl
    · exact .error
  · exact .error
  · exact .error

/-- A whole number that is made of a value that fits does. -/
theorem wholeNumber_gives (hFits : v.fits = true) :
    Gives (fun i => intFits i = true) v.wholeNumber := by
  unfold wholeNumber
  split
  · next b => cases b <;> exact .ok (by decide)
  · exact .ok hFits
  · exact .ok hFits
  · split
    · next i hWhole => exact .ok (Double.truncate?_fits hWhole)
    · exact .ite .error .error
  · split
    · next i hRead => exact .ok (readInt?_fits hRead)
    · exact .error
  · exact .error

end Value

/-! ## Values that are looked up -/

/-- What a name stands for fits. -/
theorem Remote.named_gives (raw : Value) : Gives (fun v => v.fits = true) (named raw) := by
  unfold named
  split
  · exact .ok rfl
  · exact .ok rfl
  · exact .ok rfl
  · exact .ok rfl
  · dsimp only
    split
    · split
      · next i hRead => exact .ok (readInt?_fits hRead)
      · exact .error
    · exact .error
  · exact .error

/-- What a description stands for fits if the description does. -/
theorem Remote.decode_gives {remote : Value} (hFits : remote.fits = true) :
    Gives (fun v => v.fits = true) (decode remote) := by
  unfold decode
  refine .after fun named => .ite ?_ (.after fun type => .ite (.ok rfl) (.after fun valued =>
    .ite (Value.index_gives hFits _) ?_))
  · exact .after fun raw => named_gives raw
  · exact .after fun description => .after fun type => .error

/-- What the answer to a call is read as fits if the answer does. -/
theorem Handle.resultOf_gives {answer : Value} (hFits : answer.fits = true) :
    Gives (fun v => v.fits = true) (resultOf answer) := by
  unfold resultOf
  refine .after fun threw => .ite (.after fun details => .after fun text => .error) ?_
  refine (Value.get_gives hFits _).bind fun result hResult => ?_
  exact Remote.decode_gives (Value.orElse_fits hResult rfl)

/-! ## What tabs signal -/

/-- A place of which everything can be written. -/
structure Location.Fits (place : Location) : Prop where
  url : place.url.fits = true
  line : place.line.fits = true
  column : place.column.fits = true

/-- A failure of which everything can be written. -/
structure PageFailure.Fits (failure : PageFailure) : Prop where
  message : failure.message.fits = true
  stack : failure.stack.fits = true

/-- A signal of a page of which everything can be written that the feed may report. The arguments of
a console call are not in it yet. -/
def PageSignal.Fits : PageSignal → Prop
  | .console message => message.place.Fits
  | .pageError failure | .unhandledRejection failure | .crash failure => failure.Fits
  | .requestFailed request => request.url.fits = true ∧ request.failure.fits = true
  | .response answer => answer.Fits

namespace Tab

/-- A tab that remembers only what can be written. -/
def Fits (tab : Tab) : Prop :=
  ∀ entry ∈ tab.requests, entry.2.url.fits = true

variable {tab : Tab} {params : Value}

theorem placeOf_gives (hFits : params.fits = true) : Gives Location.Fits (placeOf params) := by
  unfold placeOf
  refine (Value.get_gives hFits _).bind fun trace hTrace => ?_
  refine (Value.get_gives (Value.orElse_fits hTrace rfl) _).bind fun frames hFrames => ?_
  have hSome : (frames.orElse (.list [])).fits = true := Value.orElse_fits hFrames rfl
  -- The top of the stack and the empty object, which stands for it if there is no stack, are read
  -- in the same way.
  have hParts : ∀ top : Value, top.fits = true → Gives Location.Fits (do
      let url ← top.memberOr "url" (.str "")
      let line ← top.memberOr "lineNumber" (.int 0)
      let column ← top.memberOr "columnNumber" (.int 0)
      pure ⟨url, line, column⟩) := by
    intro top hTop
    refine (Value.memberOr_gives hTop _ rfl).bind fun url hUrl => ?_
    refine (Value.memberOr_gives hTop _ (by decide)).bind fun line hLine => ?_
    refine (Value.memberOr_gives hTop _ (by decide)).bind fun column hColumn => ?_
    exact .ok ⟨hUrl, hLine, hColumn⟩
  exact .ite ((Value.first_gives hSome).bind hParts) (hParts (.object []) rfl)

theorem messageOf_gives (wallClock : Double) (hFits : params.fits = true) :
    Gives (fun message => message.place.Fits) (messageOf wallClock params) := by
  unfold messageOf
  refine (placeOf_gives hFits).bind fun place hPlace => ?_
  refine .after fun context => .after fun args => .after fun items => .after fun type => ?_
  exact .after fun timestamp => .ite (.after fun time => .ok hPlace) (.ok hPlace)

theorem failureOf_gives {details : Value} (hFits : details.fits = true) :
    Gives PageFailure.Fits (failureOf details) := by
  unfold failureOf
  refine (Value.get_gives hFits _).bind fun exception hException => ?_
  have hThrown : (exception.orElse (.object [])).fits = true := Value.orElse_fits hException rfl
  refine (Value.get_gives hThrown _).bind fun description hDescription => ?_
  have hSaid : (description.orElse (.str "")).fits = true := Value.orElse_fits hDescription rfl
  refine .after fun subtype => .ite (.after fun line => .ok ⟨rfl, hSaid⟩) (.after fun valued => ?_)
  refine .ite (.after fun value => .after fun text => .ok ⟨rfl, rfl⟩) ?_
  refine (Value.get_gives hFits _).bind fun text hText => ?_
  exact .ok ⟨Value.orElse_fits hSaid (Value.orElse_fits hText rfl), rfl⟩

theorem responseOf_gives {data : Value} (hFits : data.fits = true) :
    Gives Response.Fits (responseOf data) := by
  unfold responseOf
  refine (Value.memberOr_gives hFits _ rfl).bind fun url hUrl => ?_
  refine (Value.memberOr_gives hFits _ (by decide)).bind fun status hStatus => ?_
  refine (Value.wholeNumber_gives hStatus).bind fun number hNumber => ?_
  refine (Value.memberOr_gives hFits _ rfl).bind fun text hText => ?_
  exact .ok ⟨hUrl, hNumber, hText⟩

theorem exceptionSignal_gives (hFits : params.fits = true) :
    Gives PageSignal.Fits (exceptionSignal params) := by
  unfold exceptionSignal
  refine (Value.get_gives hFits _).bind fun details hDetails => ?_
  refine (failureOf_gives (Value.orElse_fits hDetails rfl)).bind fun failure hFailure => ?_
  exact .after fun text => .after fun promised => .ite (.ok hFailure) (.ok hFailure)

theorem redirectOf_gives (hFits : params.fits = true) :
    Gives (fun signals => ∀ signal ∈ signals, signal.Fits) (redirectOf params) := by
  unfold redirectOf
  refine (Value.get_gives hFits _).bind fun redirect hRedirect => ?_
  refine .ite ?_ (.ok (List.forall_mem_nil _))
  refine (responseOf_gives hRedirect).bind fun response hResponse => .ok ?_
  exact List.forall_mem_singleton.mpr hResponse

/-- A request that joins those that are remembered is the only one that may be new. -/
theorem putRequest_cases {key : Value} {request : Request} {requests : List (Value × Request)}
    {entry : Value × Request} (hMem : entry ∈ putRequest key request requests) :
    entry ∈ requests ∨ entry.2 = request := by
  induction requests with
  | nil => exact .inr (List.mem_singleton.mp hMem ▸ rfl)
  | cons first rest ih =>
    rw [putRequest] at hMem
    split at hMem
    · rcases List.mem_cons.mp hMem with rfl | hRest
      · exact .inr rfl
      · exact .inl (.tail _ hRest)
    · rcases List.mem_cons.mp hMem with rfl | hRest
      · exact .inl (.head _)
      · exact (ih hRest).imp_left (.tail _)

theorem request?_mem {key : Value} {requests : List (Value × Request)} {request : Request}
    (hFound : request? key requests = some request) : ∃ entry ∈ requests, entry.2 = request := by
  induction requests with
  | nil => cases hFound
  | cons first rest ih =>
    rw [request?] at hFound
    split at hFound
    · exact ⟨first, .head _, Option.some.inj hFound⟩
    · obtain ⟨entry, hMem, hSame⟩ := ih hFound
      exact ⟨entry, .tail _ hMem, hSame⟩

theorem opened_gives (hTab : tab.Fits) (hFits : params.fits = true) :
    Gives Fits (tab.opened params) := by
  unfold opened
  refine (Value.get_gives hFits _).bind fun request hRequest => ?_
  refine (Value.memberOr_gives (Value.orElse_fits hRequest rfl) _ rfl).bind fun url hUrl => ?_
  refine .after fun method => .after fun id => .after fun key => .ok fun entry hMem => ?_
  rcases putRequest_cases hMem with hOld | hNew
  · exact hTab entry hOld
  · exact hNew ▸ hUrl

/-- What was remembered about a request fits, and so does what is remembered of the others. -/
theorem forget_gives (hTab : tab.Fits) (params : Value) :
    Gives (fun left => (∀ request ∈ left.1, request.url.fits = true) ∧ left.2.Fits)
      (tab.forget params) := by
  unfold forget
  refine .after fun id => .ite (.ok ⟨?_, hTab⟩) (.after fun key => .ok ⟨?_, ?_⟩)
  · intro request hNone
    cases hNone
  · intro request hFound
    obtain ⟨entry, hMem, rfl⟩ := request?_mem hFound
    exact hTab entry hMem
  · exact fun entry hMem => hTab entry (List.mem_of_mem_filter hMem)

/-! ### Events -/

theorem keepNotice_fits (hTab : tab.Fits) (notice : Value) : (tab.keepNotice notice).Fits := by
  unfold keepNotice
  split <;> exact hTab

/-- A reaction of which everything can be written, and a tab after it that remembers only such
things. -/
def Reaction.Fits (reaction : Reaction) : Prop :=
  (∀ signal ∈ reaction.signals, signal.Fits) ∧ reaction.tab.Fits

theorem signalling_fits (hTab : tab.Fits) {result : Except Fault PageSignal}
    (hResult : Gives PageSignal.Fits result) : (tab.signalling result).Fits := by
  cases result with
  | ok signal => exact ⟨List.forall_mem_singleton.mpr (hResult signal rfl), hTab⟩
  | error e => exact ⟨List.forall_mem_nil _, hTab⟩

theorem changing_fits (hTab : tab.Fits) {signals : List PageSignal}
    (hSignals : ∀ signal ∈ signals, signal.Fits) {result : Except Fault Tab}
    (hResult : Gives Fits result) : (tab.changing signals result).Fits := by
  cases result with
  | ok after => exact ⟨hSignals, hResult after rfl⟩
  | error e => exact ⟨hSignals, hTab⟩

theorem failed_fits (hTab : tab.Fits) (hFits : params.fits = true) : (tab.failed params).Fits := by
  unfold failed
  have hForget := forget_gives hTab params
  split
  · exact ⟨List.forall_mem_nil _, hTab⟩
  · next found after hForgot =>
    obtain ⟨hFound, hAfter⟩ := hForget _ hForgot
    refine signalling_fits hAfter ((Value.memberOr_gives hFits _ rfl).map fun text hText => ?_)
    refine ⟨?_, hText⟩
    cases found with
    | none => rfl
    | some request => exact hFound request rfl

/-- **What a tab signals can be written, and so can what it remembers**, if that held of what it
remembered before and of what it is told. -/
theorem receive_fits (hTab : tab.Fits) (wallClock : Double) (event : String)
    (hFits : params.fits = true) : (tab.receive wallClock event params).Fits := by
  -- One case for each of the events that a tab listens to, and one for those that it does not know.
  unfold receive
  split
  · exact signalling_fits hTab ((messageOf_gives wallClock hFits).map fun message hPlace => hPlace)
  · exact signalling_fits hTab (exceptionSignal_gives hFits)
  · have hRedirect := redirectOf_gives hFits
    split
    · exact ⟨List.forall_mem_nil _, hTab⟩
    · next signals hSignals =>
      exact changing_fits hTab (hRedirect signals hSignals) (opened_gives hTab hFits)
  · exact failed_fits hTab hFits
  · exact changing_fits hTab (List.forall_mem_nil _) ((forget_gives hTab params).map fun _ => And.right)
  · refine signalling_fits hTab ((Value.get_gives hFits _).bind fun data hData => ?_)
    exact (responseOf_gives (Value.orElse_fits hData rfl)).bind fun response hResponse =>
      .ok hResponse
  · exact ⟨List.forall_mem_singleton.mpr ⟨rfl, rfl⟩, keepNotice_fits hTab _⟩
  · exact ⟨List.forall_mem_nil _, keepNotice_fits hTab _⟩
  · exact ⟨List.forall_mem_nil _, keepNotice_fits hTab _⟩
  · exact ⟨List.forall_mem_nil _, hTab⟩

end Tab

/-! ## Events and their lines -/

/-- A signal that has arrived at the feed and of which everything can be written that the feed may
report. -/
def FeedSignal.Fits : FeedSignal → Prop
  | .console call => ∀ place ∈ call.place, place.Fits
  | .failure _ text => text.fits = true
  | .requestFailed url reason => url.fits = true ∧ reason.fits = true
  | .response answer => answer.Fits
  | .disconnected => True

theorem PageFailure.text_fits {failure : PageFailure} (hFits : failure.Fits) :
    failure.text.fits = true := by
  unfold PageFailure.text
  split
  · exact hFits.stack
  · split
    · exact hFits.message
    · rfl

theorem PageSignal.toFeed_fits {signal : PageSignal} (hFits : signal.Fits) :
    signal.toFeed.Fits := by
  cases signal with
  | console message => exact fun place hPlace => Option.some.inj hPlace ▸ hFits
  | pageError failure | unhandledRejection failure | crash failure =>
    exact PageFailure.text_fits hFits
  | requestFailed request => exact hFits
  | response response => exact hFits

/-- An event of which everything can be written. -/
structure Event.Fits (event : Event) : Prop where
  parts : ∀ part ∈ event.parts, part.fits = true
  place : ∀ place ∈ event.location, place.Fits

theorem Location.text_of_fits {place : Location} (hFits : place.Fits) :
    ∃ text, place.text = .ok text := by
  unfold Location.text
  rw [Value.text_ok hFits.url, Value.text_ok hFits.line, Value.text_ok hFits.column]
  split <;> exact ⟨_, rfl⟩

theorem Event.pieces_of_fits {parts : List Value} (hFits : ∀ part ∈ parts, part.fits = true) :
    ∃ pieces, Event.pieces parts = .ok pieces := by
  induction parts with
  | nil => exact ⟨[], rfl⟩
  | cons part rest ih =>
    obtain ⟨hPart, hRest⟩ := List.forall_mem_cons.mp hFits
    obtain ⟨others, hOthers⟩ := ih hRest
    rw [Event.pieces, Inspect.render, if_pos hPart, hOthers]
    exact ⟨_, rfl⟩

/-- **An event of which everything can be written has a line.** -/
theorem Event.line_of_fits {event : Event} (hFits : event.Fits) :
    ∃ text, event.line = .ok text := by
  have hPlace : ∃ place, event.place = .ok place := by
    unfold Event.place
    split
    · exact ⟨"", rfl⟩
    · next place hPlace => exact Location.text_of_fits (hFits.place place hPlace)
  obtain ⟨place, hPlace⟩ := hPlace
  obtain ⟨pieces, hPieces⟩ := Event.pieces_of_fits hFits.parts
  unfold Event.line
  rw [hPlace, hPieces]
  exact ⟨_, rfl⟩

/-- A signal that can be written makes an event of which everything can be, or none. -/
theorem FeedSignal.event?_fits {signal : FeedSignal} (hFits : signal.Fits) :
    ∃ event?, signal.event? = .ok event? ∧ ∀ event ∈ event?, event.Fits := by
  have hNone : ∀ event ∈ (none : Option Event), event.Fits := by
    rintro event ⟨⟩
  have hOne : ∀ {part : Value} (category : Category), part.fits = true →
      ∀ event ∈ some (⟨category, [part], none⟩ : Event), event.Fits := by
    rintro part category hPart event ⟨⟩
    refine ⟨List.forall_mem_singleton.mpr hPart, ?_⟩
    rintro place ⟨⟩
  cases signal with
  | console call => exact ⟨none, rfl, hNone⟩
  | failure category text => exact ⟨_, rfl, hOne category hFits⟩
  | requestFailed url reason =>
    rw [FeedSignal.event?, Value.text_ok hFits.1, Value.text_ok hFits.2]
    exact ⟨_, rfl, hOne _ rfl⟩
  | response response =>
    obtain ⟨hUrl, hStatus, hText⟩ := hFits
    rw [FeedSignal.event?, Value.text_ok hUrl, Value.text_ok hStatus, Value.text_ok hText]
    split
    · exact ⟨none, rfl, hNone⟩
    · exact ⟨_, rfl, hOne _ rfl⟩
  | disconnected => exact ⟨_, rfl, hOne _ rfl⟩

/-- A call whose place and arguments can be written makes an event of which everything can be. -/
theorem ConsoleCall.event_gives {call : ConsoleCall} (hPlace : ∀ place ∈ call.place, place.Fits)
    {parts : List Value} (hParts : ∀ part ∈ parts, part.fits = true) :
    Gives Event.Fits (call.event parts) := by
  have hLocation : Gives Location.Fits call.location := by
    unfold ConsoleCall.location
    split
    · exact .error
    · next place hSome =>
      have hFits := hPlace place hSome
      exact .ok ⟨Value.orElse_fits hFits.url rfl, Value.orElse_fits hFits.line (by decide),
        Value.orElse_fits hFits.column (by decide)⟩
  unfold ConsoleCall.event
  refine .after fun category => hLocation.bind fun place hPlace => .ok ⟨hParts, ?_⟩
  rintro other ⟨⟩
  exact hPlace

end PageReporter
