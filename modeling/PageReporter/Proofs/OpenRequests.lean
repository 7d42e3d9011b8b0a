import Mathlib
import PageReporter.Proofs.ReadValues
import PageReporter.Proofs.TabReports

/-!
# Requests that are open, and what is reported of them

The browser tells when a request is sent, finishes, fails or is answered. A tab keeps the requests
that are open by their ids, and an id may come again. So what a tab knows of a request is what was
told last under its id, and that is where the address of a request that fails is taken from.

* `PageTraffic` — what the browser tells; `Tells` — which events tell it;
* `PageTraffic.openAfter` — the request with an id that is open after traffic;
* `PageTraffic.reports` — what is to be reported of traffic;
* `Tab.Remembers` — the requests that a tab keeps; `Tab.Remembers.receive` — one event;
* `World.Attached.receives` — a run of events;
* `World.Attached.traffic_reported` — what a new tab keeps and what is reported, after any traffic.
-/

namespace PageReporter

/-! ## Traffic -/

/-- What the browser tells of the network. -/
inductive PageTraffic
  /-- A request is sent, and maybe follows an answer that redirected it. -/
  | sent (id : String) (url method : Value) (redirect : Option Response)
  | finished (id : String)
  | failed (id : String) (reason : Value)
  | answered (response : Response)

/-- Everything in an answer can be written. -/
def Response.Fits (response : Response) : Prop :=
  response.url.fits = true ∧ (Value.int response.status).fits = true ∧
    response.statusText.fits = true

/-- What is to be reported of an answer, unless it is a success or never went over the network. -/
def Response.reports (response : Response) : List Event :=
  if response.status = 0 ∨ 200 ≤ response.status ∧ response.status ≤ 299 then []
  else
    let status := (Value.int response.status).plain
    let text := response.statusText.plain
    let url := response.url.plain
    [⟨.responseError, [.str s!"{status} {text} {url}"], none⟩]

namespace PageTraffic

/-- The id of the request that it is about. -/
def id? : PageTraffic → Option String
  | .sent id _ _ _ => some id
  | .finished id => some id
  | .failed id _ => some id
  | .answered _ => none

/-- The request that is sent. -/
def request? : PageTraffic → Option Request
  | .sent _ url method _ => some ⟨url, method, .str ""⟩
  | _ => none

/-- Everything in it can be written. -/
def Fits : PageTraffic → Prop
  | .sent _ url _ redirect => url.fits = true ∧ ∀ response ∈ redirect, response.Fits
  | .finished _ => True
  | .failed _ reason => reason.fits = true
  | .answered response => response.Fits

/-- The request with an id that is open: the one that was sent, if that is what was told last under
this id. -/
def openAfter (id : String) (traffic : List PageTraffic) : Option Request :=
  (traffic.filter fun told => told.id? = some id).getLast?.bind request?

/-- What is to be reported of something that is told after other traffic. -/
def reportsAfter (before : List PageTraffic) : PageTraffic → List Event
  | .sent _ _ _ redirect => redirect.toList.flatMap Response.reports
  | .finished _ => []
  | .failed id reason =>
    let url := (((openAfter id before).map Request.url).getD (.str "")).plain
    let reason := reason.plain
    [⟨.requestFailed, [.str s!"{url} {reason}"], none⟩]
  | .answered response => response.reports

/-- What is to be reported of traffic, in order. -/
def reports (before : List PageTraffic) : List PageTraffic → List Event
  | [] => []
  | told :: rest => told.reportsAfter before ++ reports (before ++ [told]) rest

theorem openAfter_concat (id : String) (before : List PageTraffic) (told : PageTraffic) :
    openAfter id (before ++ [told]) =
      if told.id? = some id then told.request? else openAfter id before := by
  unfold openAfter
  rw [List.filter_append]
  by_cases hAbout : told.id? = some id
  · simp [hAbout]
  · simp [hAbout]

/-- What is open was sent. -/
theorem openAfter_fits {traffic : List PageTraffic} (hFits : ∀ told ∈ traffic, told.Fits)
    {id : String} {request : Request} (hOpen : openAfter id traffic = some request) :
    request.url.fits = true := by
  obtain ⟨told, hLast, hRequest⟩ := Option.bind_eq_some_iff.mp hOpen
  have hMem : told ∈ traffic := (List.mem_filter.mp (List.mem_of_getLast? hLast)).1
  cases told with
  | sent id url method redirect =>
    obtain rfl := Option.some.inj hRequest
    exact (hFits _ hMem).1
  | _ => cases hRequest

end PageTraffic

/-! ## What is reported of signals -/

namespace World

theorem reportsOfSignal_response {response : Response} (hFits : response.Fits) :
    reportsOfSignal (.response response) = response.reports := by
  obtain ⟨hUrl, hStatus, hText⟩ := hFits
  unfold reportsOfSignal FeedRun.Stage.reportOf Response.reports
  simp only [Arrival.toFeed, PageSignal.toFeed, FeedSignal.event?, Response.isOk,
    Value.text_ok hUrl, Value.text_ok hStatus, Value.text_ok hText]
  by_cases hOk : response.status = 0 ∨ 200 ≤ response.status ∧ response.status ≤ 299
  · rw [if_pos hOk, if_pos (by simpa using hOk)]
    rfl
  · rw [if_neg hOk, if_neg (by simpa using hOk)]
    rfl

theorem reportsOfSignal_requestFailed {url reason : Value} (hUrl : url.fits = true)
    (hReason : reason.fits = true) (method : Value) :
    reportsOfSignal (.requestFailed ⟨url, method, reason⟩) =
      [⟨.requestFailed, [.str s!"{url.plain} {reason.plain}"], none⟩] := by
  unfold reportsOfSignal FeedRun.Stage.reportOf
  simp only [Arrival.toFeed, PageSignal.toFeed, FeedSignal.event?, Value.text_ok hUrl,
    Value.text_ok hReason]
  rfl

end World

/-! ## What events tell -/

/-- The answer that members describe, if its status is a whole number. -/
def answerIn (members : List (String × Value)) : Option Response :=
  match valueIn "status" (.int 0) members with
  | .int status =>
    some ⟨valueIn "url" (.str "") members, status, valueIn "statusText" (.str "") members⟩
  | _ => none

/-- The answer that redirected a request, if there is one. -/
def redirectIn (members : List (String × Value)) : Option (Option Response) :=
  match Value.find? "redirectResponse" members with
  | none => some none
  | some (.object part) => (answerIn part).map some
  | some _ => none

/-- What events of the browser tell: ids are texts, parts are objects, and statuses are whole
numbers. -/
inductive Tells : String → Value → PageTraffic → Prop
  | sent {members request : List (String × Value)} {id : String} {url method : Value}
      {redirect : Option Response} (hId : textIn "requestId" members = some id)
      (hRequest : partIn "request" members = some request)
      (hUrl : valueIn "url" (.str "") request = url)
      (hMethod : valueIn "method" (.str "GET") request = method)
      (hRedirect : redirectIn members = some redirect) :
      Tells "Network.requestWillBeSent" (.object members) (.sent id url method redirect)
  | finished {members : List (String × Value)} {id : String}
      (hId : textIn "requestId" members = some id) :
      Tells "Network.loadingFinished" (.object members) (.finished id)
  | failed {members : List (String × Value)} {id : String}
      (hId : textIn "requestId" members = some id) :
      Tells "Network.loadingFailed" (.object members)
        (.failed id (valueIn "errorText" (.str "") members))
  | answered {members data : List (String × Value)} {response : Response}
      (hData : partIn "response" members = some data)
      (hResponse : answerIn data = some response) :
      Tells "Network.responseReceived" (.object members) (.answered response)

section Reading

variable {members : List (String × Value)}

theorem answerIn_eq {response : Response} (hAnswer : answerIn members = some response) :
    valueIn "status" (.int 0) members = .int response.status ∧
      response.url = valueIn "url" (.str "") members ∧
      response.statusText = valueIn "statusText" (.str "") members := by
  unfold answerIn at hAnswer
  split at hAnswer
  next status hStatus => rw [← Option.some.inj hAnswer]; exact ⟨hStatus, rfl, rfl⟩
  next => cases hAnswer

theorem responseOf_answerIn {response : Response} (hAnswer : answerIn members = some response) :
    Tab.responseOf (.object members) = .ok response := by
  obtain ⟨hStatus, hUrl, hText⟩ := answerIn_eq hAnswer
  unfold Tab.responseOf
  simp only [memberOr_valueIn, hStatus, ← hUrl, ← hText]
  rfl

theorem answerIn_fits {response : Response} (hFits : Value.fitsMembers members = true)
    (hAnswer : answerIn members = some response) : response.Fits := by
  obtain ⟨hStatus, hUrl, hText⟩ := answerIn_eq hAnswer
  refine ⟨?_, ?_, ?_⟩
  · exact hUrl ▸ valueIn_fits hFits rfl
  · exact hStatus ▸ valueIn_fits hFits (by decide)
  · exact hText ▸ valueIn_fits hFits rfl

theorem redirectIn_fits {redirect : Option Response} (hFits : Value.fitsMembers members = true)
    (hRedirect : redirectIn members = some redirect) :
    ∀ response ∈ redirect, response.Fits := by
  intro response hMem
  unfold redirectIn at hRedirect
  split at hRedirect
  next => rw [← Option.some.inj hRedirect] at hMem; cases hMem
  next part hPart =>
    obtain ⟨answer, hAnswer, rfl⟩ := Option.map_eq_some_iff.mp hRedirect
    obtain rfl := Option.some.inj hMem
    exact answerIn_fits (Value.find?_fits hFits hPart) hAnswer
  next => cases hRedirect

/-- What events tell can be written if the events can. -/
theorem Tells.fits {event : String} {params : Value} {told : PageTraffic}
    (hTells : Tells event params told) (hFits : params.fits = true) : told.Fits := by
  cases hTells with
  | sent hId hRequest hUrl hMethod hRedirect =>
    subst hUrl
    exact ⟨valueIn_fits (partIn_fits hFits hRequest) rfl, redirectIn_fits hFits hRedirect⟩
  | finished => trivial
  | failed => exact valueIn_fits hFits rfl
  | answered hData hResponse => exact answerIn_fits (partIn_fits hFits hData) hResponse

/-- A redirect is signalled as an answer, and an empty one, which is not, would be no error. -/
theorem redirectOf_redirectIn {redirect : Option Response}
    (hFits : Value.fitsMembers members = true) (hRedirect : redirectIn members = some redirect) :
    ∃ signals, Tab.redirectOf (.object members) = .ok signals ∧
      (∀ signal ∈ signals, World.IsPlainSignal signal) ∧
      signals.flatMap World.reportsOfSignal = redirect.toList.flatMap Response.reports := by
  have hEach := redirectIn_fits hFits hRedirect
  unfold redirectIn at hRedirect
  unfold Tab.redirectOf
  have hGet : (Value.object members).get "redirectResponse" =
      .ok (valueIn "redirectResponse" .null members) := rfl
  rw [hGet, valueIn]
  split at hRedirect
  next hNone =>
    rw [hNone, ← Option.some.inj hRedirect]
    exact ⟨[], rfl, List.forall_mem_nil _, rfl⟩
  next part hPart =>
    obtain ⟨answer, hAnswer, rfl⟩ := Option.map_eq_some_iff.mp hRedirect
    rw [hPart]
    cases part with
    | nil =>
      obtain rfl := Option.some.inj hAnswer
      exact ⟨[], rfl, List.forall_mem_nil _, rfl⟩
    | cons first rest =>
      refine ⟨[.response answer], ?_, ?_, ?_⟩
      · show (do pure [PageSignal.response (← Tab.responseOf (.object (first :: rest)))]) = _
        rw [responseOf_answerIn hAnswer]
        rfl
      · rw [List.forall_mem_singleton]
        intro call hCall
        cases hCall
      · simp [World.reportsOfSignal_response (hEach answer rfl)]
  next => cases hRedirect

end Reading

/-! ## The table of requests -/

namespace Tab

variable {id : String} {requests : List (Value × Request)} {before : List PageTraffic}

theorem mem_putRequest (hKeys : (requests.map Prod.fst).Nodup) (r : Request)
    (entry : Value × Request) : entry ∈ putRequest (.str id) r requests ↔
      entry = (.str id, r) ∨ entry.1 ≠ .str id ∧ entry ∈ requests := by
  obtain ⟨key, q⟩ := entry
  induction requests with
  | nil => simp [putRequest]
  | cons first rest ih =>
    obtain ⟨k, p⟩ := first
    rw [List.map_cons, List.nodup_cons] at hKeys
    have hRest := ih hKeys.2
    rw [putRequest]
    by_cases hHere : k = .str id
    · -- No other entry has the key, so nothing else is replaced.
      subst hHere
      have hNone : ∀ q, (Value.str id, q) ∉ rest := fun q hMem =>
        hKeys.1 (List.mem_map.mpr ⟨_, hMem, rfl⟩)
      rw [if_pos (Value.sameKey_str.mpr rfl)]
      by_cases hKey : key = .str id
      · subst hKey
        simp [hNone q]
      · simp [hKey]
    · rw [if_neg (mt Value.sameKey_str.mp hHere), List.mem_cons, hRest, List.mem_cons]
      by_cases hKey : key = .str id
      · subst hKey
        simp [Ne.symm hHere]
      · simp [hKey]

theorem putRequest_keys (hKeys : (requests.map Prod.fst).Nodup) (r : Request) :
    ((putRequest (.str id) r requests).map Prod.fst).Nodup := by
  induction requests with
  | nil => exact List.nodup_singleton _
  | cons first rest ih =>
    obtain ⟨k, p⟩ := first
    rw [List.map_cons, List.nodup_cons] at hKeys
    rw [putRequest]
    by_cases hHere : k = .str id
    · rw [if_pos (Value.sameKey_str.mpr hHere), List.map_cons, List.nodup_cons, hHere]
      exact ⟨hHere ▸ hKeys.1, hKeys.2⟩
    · rw [if_neg (mt Value.sameKey_str.mp hHere), List.map_cons, List.nodup_cons]
      refine ⟨fun hMem => ?_, ih hKeys.2⟩
      obtain ⟨entry, hEntry, rfl⟩ := List.mem_map.mp hMem
      obtain rfl | ⟨-, hOld⟩ := (mem_putRequest hKeys.2 r entry).mp hEntry
      · exact hHere rfl
      · exact hKeys.1 (List.mem_map.mpr ⟨entry, hOld, rfl⟩)

theorem mem_dropRequest (entry : Value × Request) : entry ∈ dropRequest (.str id) requests ↔
    entry.1 ≠ .str id ∧ entry ∈ requests := by
  rw [dropRequest, List.mem_filter, and_comm, Bool.not_eq_true', ← Bool.not_eq_true,
    Value.sameKey_str]

theorem request?_eq_some_iff (hKeys : (requests.map Prod.fst).Nodup) {r : Request} :
    request? (.str id) requests = some r ↔ (Value.str id, r) ∈ requests := by
  induction requests with
  | nil => exact ⟨nofun, fun hMem => absurd hMem List.not_mem_nil⟩
  | cons first rest ih =>
    obtain ⟨k, p⟩ := first
    rw [List.map_cons, List.nodup_cons] at hKeys
    rw [request?, List.mem_cons]
    by_cases hHere : k = .str id
    · subst hHere
      have hNone : (Value.str id, r) ∉ rest := fun hMem =>
        hKeys.1 (List.mem_map.mpr ⟨_, hMem, rfl⟩)
      rw [if_pos (Value.sameKey_str.mpr rfl)]
      simp [hNone, eq_comm]
    · rw [if_neg (mt Value.sameKey_str.mp hHere), ih hKeys.2]
      simp [Ne.symm hHere]

/-- The requests that a tab keeps after traffic: exactly those that are open, each once and under
its id. -/
structure Remembers (traffic : List PageTraffic) (requests : List (Value × Request)) : Prop where
  keys : (requests.map Prod.fst).Nodup
  entry : ∀ key r, (key, r) ∈ requests ↔
    ∃ id, key = .str id ∧ PageTraffic.openAfter id traffic = some r

namespace Remembers

theorem nil : Remembers [] [] :=
  ⟨.nil, fun key r => by simp [PageTraffic.openAfter]⟩

theorem request?_eq (hTable : Remembers before requests) (id : String) :
    request? (.str id) requests = PageTraffic.openAfter id before := by
  refine Option.ext fun r => ?_
  rw [request?_eq_some_iff hTable.keys, hTable.entry]
  simp

theorem sent (hTable : Remembers before requests) {told : PageTraffic} {r : Request}
    (hId : told.id? = some id) (hRequest : told.request? = some r) :
    Remembers (before ++ [told]) (putRequest (.str id) r requests) := by
  refine ⟨putRequest_keys hTable.keys r, fun key q => ?_⟩
  simp only [mem_putRequest hTable.keys, hTable.entry, PageTraffic.openAfter_concat, hId, hRequest,
    Option.some.injEq, Prod.mk.injEq]
  constructor
  · rintro (⟨rfl, rfl⟩ | ⟨hOther, other, rfl, hOpen⟩)
    · exact ⟨id, rfl, if_pos rfl⟩
    · exact ⟨other, rfl, by rwa [if_neg fun hSame => hOther (by rw [hSame])]⟩
  · rintro ⟨other, rfl, hOpen⟩
    split at hOpen
    next hSame => exact .inl ⟨by rw [hSame], (Option.some.inj hOpen).symm⟩
    next hOther => exact .inr ⟨by simpa [eq_comm] using hOther, other, rfl, hOpen⟩

theorem dropped (hTable : Remembers before requests) {told : PageTraffic} (hId : told.id? = some id)
    (hRequest : told.request? = none) :
    Remembers (before ++ [told]) (dropRequest (.str id) requests) := by
  refine ⟨hTable.keys.sublist (List.filter_sublist.map _), fun key q => ?_⟩
  simp only [mem_dropRequest, hTable.entry, PageTraffic.openAfter_concat, hId, hRequest,
    Option.some.injEq]
  constructor
  · rintro ⟨hOther, other, rfl, hOpen⟩
    exact ⟨other, rfl, by rwa [if_neg fun hSame => hOther (by rw [hSame])]⟩
  · rintro ⟨other, rfl, hOpen⟩
    split at hOpen
    next => cases hOpen
    next hOther => exact ⟨by simpa [eq_comm] using hOther, other, rfl, hOpen⟩

theorem answered (hTable : Remembers before requests) {told : PageTraffic} (hId : told.id? = none) :
    Remembers (before ++ [told]) requests := by
  refine ⟨hTable.keys, fun key q => ?_⟩
  simp only [hTable.entry, PageTraffic.openAfter_concat, hId, reduceCtorEq, if_false]

end Remembers

/-! ## One event -/

variable {tab : Tab} {members : List (String × Value)}

/-- Forgetting a request, whether there is anything to look through or not. -/
theorem forget_textIn (hId : textIn "requestId" members = some id) :
    tab.forget (.object members) = .ok (request? (.str id) tab.requests,
      tab.withRequests (dropRequest (.str id) tab.requests)) := by
  unfold forget
  rw [memberOr_textIn hId]
  obtain ⟨requests, watch, notices⟩ := tab
  cases requests <;> rfl

theorem opened_sent {request : List (String × Value)} (hId : textIn "requestId" members = some id)
    (hRequest : partIn "request" members = some request) :
    tab.opened (.object members) = .ok (tab.withRequests (putRequest (.str id)
      ⟨valueIn "url" (.str "") request, valueIn "method" (.str "GET") request, .str ""⟩
      tab.requests)) := by
  obtain ⟨v, hGet, hPart⟩ := get_partIn hRequest
  unfold opened
  simp only [hGet, memberOr_textIn hId]
  show (do
    let url ← (v.orElse (.object [])).memberOr "url" (.str "")
    let method ← (v.orElse (.object [])).memberOr "method" (.str "GET")
    let key ← (Value.str id).asKey
    pure (tab.withRequests (putRequest key ⟨url, method, .str ""⟩ tab.requests))) = _
  rw [hPart]
  rfl

theorem receive_failed (hId : textIn "requestId" members = some id) (wallClock : Double) :
    tab.receive wallClock "Network.loadingFailed" (.object members) =
      let known := (request? (.str id) tab.requests).getD ⟨.str "", .str "GET", .str ""⟩
      ⟨[.requestFailed ⟨known.url, known.method, valueIn "errorText" (.str "") members⟩],
        tab.withRequests (dropRequest (.str id) tab.requests), none⟩ := by
  show tab.failed (.object members) = _
  unfold failed
  rw [forget_textIn hId]
  rfl

theorem receive_answered {data : List (String × Value)} {response : Response}
    (hData : partIn "response" members = some data) (hResponse : answerIn data = some response)
    (wallClock : Double) : tab.receive wallClock "Network.responseReceived" (.object members) =
      ⟨[.response response], tab, none⟩ := by
  obtain ⟨v, hGet, hPart⟩ := get_partIn hData
  have hSignal : (Value.object members).get "response" >>= (fun data =>
      responseOf (data.orElse (.object [])) >>= fun r => pure (PageSignal.response r)) =
        .ok (.response response) := by
    rw [hGet]
    show responseOf (v.orElse (.object [])) >>= _ = _
    rw [hPart, responseOf_answerIn hResponse]
    rfl
  exact congrArg tab.signalling hSignal

/-- **One event.** What tells something of the network never fails; the tab keeps what is open from
then on, and what it signals is what is to be reported. -/
theorem Remembers.receive (hTable : Remembers before tab.requests)
    (hBefore : ∀ told ∈ before, told.Fits) {event : String} {params : Value} {told : PageTraffic}
    (hTells : Tells event params told) (hFits : params.fits = true) (wallClock : Double) :
    (tab.receive wallClock event params).fault = none ∧
      Remembers (before ++ [told]) (tab.receive wallClock event params).tab.requests ∧
      (∀ signal ∈ (tab.receive wallClock event params).signals, World.IsPlainSignal signal) ∧
      (tab.receive wallClock event params).signals.flatMap World.reportsOfSignal =
        told.reportsAfter before := by
  have hTold := hTells.fits hFits
  cases hTells with
  | sent hId hRequest hUrl hMethod hRedirect =>
    subst hUrl hMethod
    obtain ⟨signals, hSignals, hPlain, hReports⟩ := redirectOf_redirectIn hFits hRedirect
    unfold Tab.receive
    simp only [hSignals, opened_sent hId hRequest]
    exact ⟨rfl, hTable.sent rfl rfl, hPlain, hReports⟩
  | finished hId =>
    unfold Tab.receive
    simp only [forget_textIn hId]
    exact ⟨rfl, hTable.dropped rfl rfl, List.forall_mem_nil _, rfl⟩
  | @failed members id hId =>
    rw [receive_failed hId, hTable.request?_eq]
    refine ⟨rfl, hTable.dropped rfl rfl, List.forall_mem_singleton.mpr nofun, ?_⟩
    -- An unknown request has the empty address.
    have hUrl : ((PageTraffic.openAfter id before).getD ⟨.str "", .str "GET", .str ""⟩).url.fits =
        true := by
      cases hOpen : PageTraffic.openAfter id before with
      | none => rfl
      | some request => exact PageTraffic.openAfter_fits hBefore hOpen
    show [PageSignal.requestFailed _].flatMap World.reportsOfSignal = _
    rw [List.flatMap_singleton, World.reportsOfSignal_requestFailed hUrl hTold,
      PageTraffic.reportsAfter]
    cases PageTraffic.openAfter id before <;> rfl
  | answered hData hResponse =>
    rw [receive_answered hData hResponse]
    refine ⟨rfl, hTable.answered rfl, List.forall_mem_singleton.mpr nofun, ?_⟩
    rw [List.flatMap_singleton, World.reportsOfSignal_response hTold]
    rfl

end Tab

/-! ## Runs -/

namespace World

variable {α : Type} {w : World α} {number : Nat} {t : TabRecord} {before : List PageTraffic}

/-- A tab gets events, one after the other. -/
def receiveAll (number : Nat) (events : List (String × Value)) (w : World α) : World α :=
  events.foldl (fun w (event, params) => (w.tabReceive number event params).1) w

/-- What is queued meanwhile, besides what is about the console. -/
def reportedAll (number : Nat) : List (String × Value) → World α → List Event
  | [], _ => []
  | (event, params) :: rest, w =>
    reported (fun w => (w.tabReceive number event params).1) w ++
      reportedAll number rest (w.tabReceive number event params).1

/-- Events tell traffic, one each, and everything in them can be written. -/
def AllTell (events : List (String × Value)) (traffic : List PageTraffic) : Prop :=
  List.Forall₂ (fun event told => Tells event.1 event.2 told ∧ event.2.fits = true) events traffic

/-- A run of events, after traffic that the tab has been told before. -/
theorem Attached.receives (hAttached : Attached number t w)
    (hTable : Tab.Remembers before t.tab.requests) (hBefore : ∀ told ∈ before, told.Fits)
    {events : List (String × Value)} {traffic : List PageTraffic} (hTell : AllTell events traffic) :
    (∃ after, Attached number after (w.receiveAll number events) ∧
      Tab.Remembers (before ++ traffic) after.tab.requests) ∧
    w.reportedAll number events = PageTraffic.reports before traffic := by
  induction hTell generalizing w t before with
  | nil => exact ⟨⟨t, hAttached, by rwa [List.append_nil]⟩, rfl⟩
  | @cons event told events traffic hFirst _ ih =>
    obtain ⟨event, params⟩ := event
    obtain ⟨hTells, hFits⟩ := hFirst
    obtain ⟨-, hNext, hPlain, hReports⟩ :=
      hTable.receive hBefore hTells hFits w.scenario.wallClock
    obtain ⟨after, hAfter, hStays, hReported⟩ := hAttached.receive rfl hPlain
    have hAll : ∀ other ∈ before ++ [told], other.Fits :=
      List.forall_mem_append.mpr ⟨hBefore, List.forall_mem_singleton.mpr (hTells.fits hFits)⟩
    obtain ⟨hEnd, hRest⟩ := ih hStays hNext hAll
    rw [List.append_assoc, List.singleton_append] at hEnd
    rw [reportedAll, hReported, hReports, hAfter, hRest]
    refine ⟨?_, rfl⟩
    show ∃ last, Attached number last
      (receiveAll number events (w.tabReceive number event params).1) ∧ _
    rwa [hAfter]

/-- **What a tab keeps of its requests, and what is reported of them.** After any traffic on a new
tab that an open feed follows, the tab keeps exactly the requests that are open, each once, under
its id and as it was sent last. Meanwhile every request that failed has been reported once, with the
address that was open under its id, and besides that exactly the answers that are errors, redirects
among them, all in order. -/
theorem Attached.traffic_reported (hAttached : Attached number t w) (hNew : t.tab.requests = [])
    {events : List (String × Value)} {traffic : List PageTraffic} (hTell : AllTell events traffic) :
    (∃ after, (w.receiveAll number events).tabs[number]? = some after ∧
      (after.tab.requests.map Prod.fst).Nodup ∧
      ∀ key request, (key, request) ∈ after.tab.requests ↔
        ∃ id, key = .str id ∧ PageTraffic.openAfter id traffic = some request) ∧
    w.reportedAll number events = PageTraffic.reports [] traffic := by
  have hTable : Tab.Remembers [] t.tab.requests := hNew ▸ .nil
  obtain ⟨⟨after, hStays, hEnd⟩, hReported⟩ :=
    hAttached.receives hTable (List.forall_mem_nil _) hTell
  exact ⟨⟨after, hStays.tab, hEnd.keys, hEnd.entry⟩, hReported⟩

/-- The events of a request that is redirected, answered with an error and fails, of one that is not
known when it fails, and of one that stays open. -/
def redirectedEvents : List (String × Value) :=
  [("Network.requestWillBeSent", .object [("requestId", .str "1"),
      ("request", .object [("url", .str "http://a/x"), ("method", .str "POST")])]),
    ("Network.requestWillBeSent", .object [("requestId", .str "1"),
      ("request", .object [("url", .str "http://a/y")]),
      ("redirectResponse", .object [("url", .str "http://a/x"), ("status", .int 302),
        ("statusText", .str "Found")])]),
    ("Network.responseReceived", .object [("response", .object [("url", .str "http://a/y"),
      ("status", .int 404), ("statusText", .str "Not Found")])]),
    ("Network.loadingFailed", .object [("requestId", .str "1"), ("errorText", .str "aborted")]),
    ("Network.loadingFailed", .object [("requestId", .str "1"), ("errorText", .str "unknown")]),
    ("Network.requestWillBeSent", .object [("requestId", .str "2"),
      ("request", .object [("url", .str "http://a/z")])])]

/-- What they tell. -/
def redirectedTraffic : List PageTraffic :=
  [.sent "1" (.str "http://a/x") (.str "POST") none,
    .sent "1" (.str "http://a/y") (.str "GET") (some ⟨.str "http://a/x", 302, .str "Found"⟩),
    .answered ⟨.str "http://a/y", 404, .str "Not Found"⟩,
    .failed "1" (.str "aborted"), .failed "1" (.str "unknown"),
    .sent "2" (.str "http://a/z") (.str "GET") none]

/-- The failure is told with the address that the request was redirected to, and the second one
without an address. -/
theorem Attached.traffic_reported_redirected :
    AllTell redirectedEvents redirectedTraffic ∧
    (∃ after, (followedTab.receiveAll 0 redirectedEvents).tabs[0]? = some after ∧
      (.str "2", ⟨.str "http://a/z", .str "GET", .str ""⟩) ∈ after.tab.requests ∧
      ∀ request, (.str "1", request) ∉ after.tab.requests) ∧
    followedTab.reportedAll 0 redirectedEvents =
      [⟨.responseError, [.str "302 Found http://a/x"], none⟩,
        ⟨.responseError, [.str "404 Not Found http://a/y"], none⟩,
        ⟨.requestFailed, [.str "http://a/y aborted"], none⟩,
        ⟨.requestFailed, [.str " unknown"], none⟩] := by
  have hTell : AllTell redirectedEvents redirectedTraffic :=
    .cons ⟨.sent rfl rfl rfl rfl rfl, by decide⟩ (.cons ⟨.sent rfl rfl rfl rfl rfl, by decide⟩
      (.cons ⟨.answered rfl rfl, by decide⟩ (.cons ⟨.failed rfl, by decide⟩
        (.cons ⟨.failed rfl, by decide⟩ (.cons ⟨.sent rfl rfl rfl rfl rfl, by decide⟩ .nil)))))
  obtain ⟨⟨after, hAfter, -, hEntry⟩, hReported⟩ :=
    attached_followedTab.traffic_reported rfl hTell
  refine ⟨hTell, ⟨after, hAfter, ?_, fun request hMem => ?_⟩, ?_⟩
  · exact (hEntry _ _).mpr ⟨"2", rfl, rfl⟩
  · obtain ⟨id, hKey, hOpen⟩ := (hEntry _ _).mp hMem
    obtain rfl := Value.str.inj hKey
    cases hOpen
  · rw [hReported]
    rfl

end World

end PageReporter
