import Mathlib
import PageReporter.Proofs.CallRun

/-!
# Every command gets its own answer

Whatever the order of things — replies out of order, twice, too late or to nobody, time limits,
senders that are called off, the end of the socket — a command gets what the first frame with its
own number says, or learns why there is no such frame.

* `decides`, `Sender.verdict` — what settles a command, told from what its sender has heard;
* `Matched` — the commands that the connection keeps are those of the senders that are not done,
  each with the verdict of its sender;
* `EndsBy` — the ways in which a sender whose frame was written may end;
* `commands_get_their_own_answers` — what holds after every run.
-/

namespace PageReporter

namespace CallRun

open Connection (reply? gone take)

/-! ## Verdicts -/

/-- What a notice means for the command with a number, if it settles it. -/
def decides (number : Nat) : Notice → Option (Except Fault Value)
  | .frame text => reply? number text
  | .lost => some gone
  | .gaveUp _ => some (.error .cancelled)

/-- What settled a sender's command: the first notice that did. -/
def Sender.verdict (sender : Sender) : Option (Except Fault Value) :=
  sender.heard.findSome? (decides sender.number)

/-- The command of a sender, as the connection is to keep it. -/
def Sender.call (sender : Sender) : Call :=
  ⟨sender.number, sender.verdict⟩

/-- How a sender whose frame was written ends. -/
inductive EndsBy (sender : Sender) : Except Fault Value → Prop
  /-- With what the first frame that bears its number says. The frame bears no other number. -/
  | reply {before after : List Notice} {text : String} {answer : Except Fault Value}
      (hHeard : sender.heard = before ++ .frame text :: after)
      (hFirst : ∀ notice ∈ before, decides sender.number notice = none)
      (hReply : reply? sender.number text = some answer)
      (hOwn : ∀ number, reply? number text ≠ none → number = sender.number) :
      EndsBy sender answer
  /-- With the end of the socket, before which no frame bore its number. -/
  | lost {before after : List Notice} (hHeard : sender.heard = before ++ .lost :: after)
      (hFirst : ∀ notice ∈ before, decides sender.number notice = none) :
      EndsBy sender gone
  /-- With the end of its time. -/
  | late {limit : Double} (hLimit : sender.limit = some limit)
      (hGaveUp : .gaveUp .late ∈ sender.heard) :
      EndsBy sender (.error (.protocol
        s!"{sender.method} timed out after {String.ofList (Layout.general.write limit)}s"))
  | calledOff (hGaveUp : .gaveUp .calledOff ∈ sender.heard) : EndsBy sender (.error .cancelled)

/-! ## The relation between a connection and its senders -/

/-- What holds after every run. -/
structure Matched (stage : Stage) : Prop where
  begun : stage.begun = List.range' 1 stage.connection.lastNumber
  calls : stage.connection.calls = stage.senders.map Sender.call
  outstanding : stage.senders.map Sender.number =
    stage.begun.filter fun n => n ∉ stage.ended.map (·.1.number)
  ended_begun : ∀ pair ∈ stage.ended, pair.1.number ∈ stage.begun
  gaveUp : ∀ sender ∈ stage.senders, ∀ cause,
    .gaveUp cause ∈ sender.heard ↔ sender.stand = .leaving cause
  limited : ∀ sender ∈ stage.senders, sender.stand = .leaving .late → sender.limit ≠ none
  ended_by : ∀ sender result, (sender, result) ∈ stage.ended → sender.stand ≠ .writing →
    EndsBy sender result

/-- No frame bears the numbers of two commands. -/
theorem reply?_own {m n : Nat} {text : String} (hFirst : reply? m text ≠ none)
    (hSecond : reply? n text ≠ none) : m = n := by
  unfold Connection.reply? at hFirst hSecond
  cases hMembers : Connection.members? text with
  | none =>
    rw [hMembers] at hFirst
    exact absurd rfl hFirst
  | some members =>
    rw [hMembers, Option.bind_some] at hFirst hSecond
    unfold Connection.replyTo? at hFirst hSecond
    split at hFirst
    · next id hId =>
      rw [hId] at hSecond
      simp only [ne_eq, ite_eq_right_iff, reduceCtorEq, imp_false, not_not] at hFirst hSecond
      exact Connection.same_number hFirst hSecond
    · exact absurd rfl hFirst

/-- Notices settle a command unless it was settled before. -/
theorem verdict_hear (notices : List Notice) (sender : Sender) :
    (sender.hear notices).verdict =
      sender.verdict.or (notices.findSome? (decides sender.number)) := by
  unfold Sender.verdict Sender.hear
  rw [List.findSome?_append]

/-- When all take notice of something, all commands take what it means for them. -/
theorem map_call_hear (notices : List Notice) (senders : List Sender) :
    (senders.map (Sender.hear notices)).map Sender.call =
      (senders.map Sender.call).map (take fun number => notices.findSome? (decides number)) := by
  rw [List.map_map, List.map_map]
  apply List.map_congr_left
  intro sender _
  rw [Function.comp_apply, Function.comp_apply, Sender.call, verdict_hear]
  rfl

theorem Matched.nodup {stage : Stage} (hMatched : Matched stage) :
    (stage.senders.map Sender.number).Nodup := by
  rw [hMatched.outstanding, hMatched.begun]
  exact (List.nodup_range' 1).filter _

theorem Matched.calls_nodup {stage : Stage} (hMatched : Matched stage) :
    (stage.connection.calls.map Call.number).Nodup := by
  rw [hMatched.calls, List.map_map]
  exact hMatched.nodup

/-- The answer that the connection has for a sender is the verdict of what it has heard. -/
theorem Matched.answer? {stage : Stage} (hMatched : Matched stage) {sender : Sender}
    (hMem : sender ∈ stage.senders) :
    stage.connection.answer? sender.number = sender.verdict := by
  have hCall : sender.call ∈ stage.connection.calls := by
    rw [hMatched.calls]
    exact List.mem_map_of_mem hMem
  -- The command that is found by its number is the sender's, as no other has that number.
  obtain ⟨call, hFound⟩ : ∃ call,
      (stage.connection.calls.find? fun call => call.number = sender.number) = some call := by
    rw [← Option.isSome_iff_exists, List.find?_isSome]
    exact ⟨sender.call, hCall, by simp [Sender.call]⟩
  have hNumber : call.number = sender.number := by
    simpa using List.find?_some hFound
  obtain rfl := List.inj_on_of_nodup_map hMatched.calls_nodup (List.mem_of_find?_eq_some hFound)
    hCall hNumber
  rw [Connection.answer?, hFound, Option.bind_some, Sender.call]

theorem Matched.unique {stage : Stage} (hMatched : Matched stage) {sender other : Sender}
    (hOther : other ∈ stage.senders) (hMem : sender ∈ stage.senders)
    (hNumber : other.number = sender.number) : other = sender :=
  List.inj_on_of_nodup_map hMatched.nodup hOther hMem hNumber

/-! ## Every act keeps the relation -/

theorem Matched.start : Matched {} where
  begun := rfl
  calls := rfl
  outstanding := rfl
  ended_begun := by simp
  gaveUp := by simp
  limited := by simp
  ended_by := by simp

/-- A command begins with the next number. -/
theorem begin_ok {c connection : Connection} {method : String} {number : Nat}
    (hBegin : c.begin method = .ok (number, connection)) :
    number = c.lastNumber + 1 ∧ connection.lastNumber = c.lastNumber + 1 ∧
      connection.calls = c.calls ++ [⟨number, none⟩] ∧ connection.closed = false := by
  unfold Connection.begin at hBegin
  split at hBegin
  · cases hBegin
  · next hOpen =>
    cases hBegin
    exact ⟨rfl, rfl, rfl, by simpa using hOpen⟩

theorem Matched.begin {stage : Stage} {method : String} {limit : Option Double} {number : Nat}
    {connection : Connection} (hMatched : Matched stage)
    (hBegin : stage.connection.begin method = .ok (number, connection)) :
    Matched
      { stage with
        connection := connection
        senders := stage.senders ++ [⟨number, method, limit, .writing, []⟩]
        begun := stage.begun ++ [number] } := by
  obtain ⟨hNumber, hLast, hCalls, -⟩ := begin_ok hBegin
  -- The number is new: those that are done began before.
  have hNew : number ∉ stage.ended.map (·.1.number) := by
    intro hOld
    obtain ⟨pair, hPair, hSame⟩ := List.mem_map.mp hOld
    have hBefore := hMatched.ended_begun pair hPair
    rw [hMatched.begun, List.mem_range'_1] at hBefore
    omega
  constructor
  · show stage.begun ++ [number] = List.range' 1 connection.lastNumber
    rw [hLast, List.range'_1_concat, hMatched.begun, hNumber, Nat.add_comm 1]
  · show connection.calls = _
    rw [hCalls, hMatched.calls, List.map_append]
    rfl
  · simp only [List.map_append, List.filter_append, hMatched.outstanding, List.map_cons,
      List.map_nil]
    rw [List.filter_cons_of_pos (by simpa using hNew), List.filter_nil]
  · intro pair hPair
    exact List.mem_append_left _ (hMatched.ended_begun pair hPair)
  · intro sender hMem cause
    rcases List.mem_append.mp hMem with hOld | hFresh
    · exact hMatched.gaveUp sender hOld cause
    · obtain rfl := List.mem_singleton.mp hFresh
      simp
  · intro sender hMem
    rcases List.mem_append.mp hMem with hOld | hFresh
    · exact hMatched.limited sender hOld
    · obtain rfl := List.mem_singleton.mp hFresh
      nofun
  · exact hMatched.ended_by

/-- A sender that is done leaves with its command. -/
theorem Matched.conclude {stage : Stage} {sender : Sender} {result : Except Fault Value}
    (hMatched : Matched stage) (hMem : sender ∈ stage.senders)
    (hEnds : sender.stand ≠ .writing → EndsBy sender result) :
    Matched (stage.conclude sender result) := by
  have hOthers : ∀ other ∈ (stage.conclude sender result).senders, other ∈ stage.senders :=
    fun other hOther => List.mem_of_mem_filter hOther
  constructor
  · exact hMatched.begun
  · show stage.connection.calls.filter _ = (stage.senders.filter _).map Sender.call
    rw [hMatched.calls, List.filter_map]
    rfl
  · -- Those left are those that began and are not done, without the one that now is.
    show (stage.senders.filter _).map Sender.number = _
    have hLeft : (stage.senders.filter fun other => other.number ≠ sender.number).map
        Sender.number = (stage.senders.map Sender.number).filter (· ≠ sender.number) := by
      rw [List.filter_map]
      rfl
    rw [hLeft, hMatched.outstanding, List.filter_filter]
    apply List.filter_congr
    intro number _
    rw [Bool.eq_iff_iff, Bool.and_eq_true, decide_eq_true_iff, decide_eq_true_iff,
      decide_eq_true_iff]
    simp [Stage.conclude, not_or, and_comm]
  · -- Whoever is done had begun, the one that now is among them.
    intro pair hPair
    rcases List.mem_append.mp hPair with hOld | hNew
    · exact hMatched.ended_begun pair hOld
    · obtain rfl := List.mem_singleton.mp hNew
      have hNumber := List.mem_map_of_mem (f := Sender.number) hMem
      rw [hMatched.outstanding] at hNumber
      exact List.mem_of_mem_filter hNumber
  · exact fun other hOther => hMatched.gaveUp other (hOthers other hOther)
  · exact fun other hOther => hMatched.limited other (hOthers other hOther)
  · intro other answer hPair
    rcases List.mem_append.mp hPair with hOld | hNew
    · exact hMatched.ended_by other answer hOld
    · obtain ⟨rfl, rfl⟩ := Prod.mk.inj (List.mem_singleton.mp hNew)
      exact hEnds

/-- Something that all senders take notice of, and the connection with them. -/
theorem Matched.hear {stage : Stage} {connection : Connection} {notices : List Notice}
    (hMatched : Matched stage) (hNotices : ∀ cause, .gaveUp cause ∉ notices)
    (hLast : connection.lastNumber = stage.connection.lastNumber)
    (hCalls : connection.calls = stage.connection.calls.map
      (take fun number => notices.findSome? (decides number))) :
    Matched
      { stage with
        connection := connection
        senders := stage.senders.map (Sender.hear notices) } := by
  constructor
  · show stage.begun = List.range' 1 connection.lastNumber
    rw [hLast, hMatched.begun]
  · show connection.calls = _
    rw [hCalls, map_call_hear, hMatched.calls]
  · show (stage.senders.map (Sender.hear notices)).map Sender.number = _
    rw [List.map_map]
    exact hMatched.outstanding
  · exact hMatched.ended_begun
  · intro sender hMem cause
    obtain ⟨before, hBefore, rfl⟩ := List.mem_map.mp hMem
    show .gaveUp cause ∈ before.heard ++ notices ↔ _
    rw [List.mem_append, or_iff_left (hNotices cause)]
    exact hMatched.gaveUp before hBefore cause
  · intro sender hMem
    obtain ⟨before, hBefore, rfl⟩ := List.mem_map.mp hMem
    exact hMatched.limited before hBefore
  · exact hMatched.ended_by

theorem Matched.lose {stage : Stage} (hMatched : Matched stage)
    (hOpen : stage.connection.closed = false) : Matched stage.lose := by
  obtain ⟨hCalls, hLast, -⟩ := Connection.close_calls hOpen
  exact hMatched.hear (by simp) hLast hCalls

theorem Matched.receive {stage : Stage} (hMatched : Matched stage)
    (hOpen : stage.connection.closed = false) (text : String) :
    Matched (stage.receive text) := by
  cases hFault : (stage.connection.dispatchText text).fault with
  | none =>
    obtain ⟨hLast, -⟩ := Connection.dispatchText_same stage.connection text
    -- The commands take what the frame says, the senders take notice of the frame itself.
    have hCalls := Connection.dispatchText_calls hOpen hMatched.calls_nodup hFault
    have hQuiet : ∀ cause, .gaveUp cause ∉ [Notice.frame text] := by simp
    simp only [Stage.receive, hFault]
    refine hMatched.hear hQuiet hLast (hCalls.trans ?_)
    congr 2
    funext number
    simp [decides]
  | some e =>
    -- What such a frame says to a command is what the end of the socket says to all.
    obtain ⟨hSame, hGone⟩ := Connection.dispatchText_fault hFault
    obtain ⟨hCalls, hLast, -⟩ := Connection.close_calls hOpen
    have hQuiet : ∀ cause, .gaveUp cause ∉ [Notice.frame text, .lost] := by simp
    simp only [Stage.receive, hFault, hSame]
    refine hMatched.hear hQuiet hLast (hCalls.trans ?_)
    congr 2
    funext number
    cases hReply : reply? number text with
    | none => simp [decides, hReply]
    | some answer => simp [decides, hReply, hGone number answer hReply]

/-- One sender changes, and with it what its command has for an answer. -/
theorem Matched.alter {stage : Stage} {connection : Connection} {sender : Sender}
    {f : Sender → Sender} (hMatched : Matched stage) (hMem : sender ∈ stage.senders)
    (answer : Option (Except Fault Value))
    (hCall : ∀ s, (f s).call = take (fun _ => answer) s.call)
    (hLast : connection.lastNumber = stage.connection.lastNumber)
    (hCalls : connection.calls = stage.connection.calls.map
      (take fun number => if number = sender.number then answer else none))
    (hGaveUp : ∀ cause, .gaveUp cause ∈ (f sender).heard ↔ (f sender).stand = .leaving cause)
    (hLimited : (f sender).stand = .leaving .late → (f sender).limit ≠ none) :
    Matched
      { stage with connection := connection, senders := stage.alter sender.number f } := by
  constructor
  · show stage.begun = List.range' 1 connection.lastNumber
    rw [hLast, hMatched.begun]
  · -- The command of the sender changes as the sender does; all others stay.
    show connection.calls = (stage.alter sender.number f).map Sender.call
    rw [hCalls, hMatched.calls, Stage.alter, List.map_map, List.map_map]
    apply List.map_congr_left
    intro other _
    rw [Function.comp_apply, Function.comp_apply]
    by_cases hNumber : other.number = sender.number
    · rw [if_pos hNumber, hCall, take, take, if_pos (show other.call.number = _ from hNumber)]
    · rw [if_neg hNumber, take, if_neg (show other.call.number ≠ _ from hNumber), Option.or_none]
  · -- Nobody's number changes.
    show (stage.alter sender.number f).map Sender.number = _
    have hNumbers : (stage.alter sender.number f).map Sender.number =
        stage.senders.map Sender.number := by
      rw [Stage.alter, List.map_map]
      apply List.map_congr_left
      intro other _
      rw [Function.comp_apply]
      split
      · exact congrArg Call.number (hCall other)
      · rfl
    rw [hNumbers]
    exact hMatched.outstanding
  · exact hMatched.ended_begun
  · intro other hOther cause
    obtain ⟨before, hBefore, rfl⟩ := List.mem_map.mp hOther
    split
    · next hNumber =>
      obtain rfl := hMatched.unique hBefore hMem hNumber
      exact hGaveUp cause
    · exact hMatched.gaveUp before hBefore cause
  · intro other hOther
    obtain ⟨before, hBefore, rfl⟩ := List.mem_map.mp hOther
    split
    · next hNumber =>
      obtain rfl := hMatched.unique hBefore hMem hNumber
      exact hLimited
    · exact hMatched.limited before hBefore
  · exact hMatched.ended_by

/-- A sender whose frame has been written waits. -/
theorem Matched.write {stage : Stage} {sender : Sender} (hMatched : Matched stage)
    (hMem : sender ∈ stage.senders) (hWriting : sender.stand = .writing) :
    Matched
      { stage with
        senders := stage.alter sender.number fun s => { s with stand := .waiting } } := by
  refine hMatched.alter hMem none ?_ rfl ?_ ?_ nofun
  · intro s
    rw [take, Option.or_none]
    rfl
  · simp only [ite_self, Connection.take_nothing, List.map_id]
  · intro cause
    have hStands := hMatched.gaveUp sender hMem cause
    rw [hWriting] at hStands
    simpa using hStands

/-- A sender that gives up settles its own command, unless there is an answer already. -/
theorem Matched.giveUp {stage : Stage} {sender : Sender} {cause : Cause}
    (hMatched : Matched stage) (hMem : sender ∈ stage.senders)
    (hWaiting : sender.stand = .waiting) (hLimit : cause = .late → sender.limit ≠ none) :
    Matched (stage.giveUp sender cause) := by
  refine hMatched.alter hMem (some (.error .cancelled)) ?_ ?_ ?_ ?_ ?_
  · intro s
    rw [Sender.call, Sender.verdict, List.findSome?_append]
    rfl
  · split <;> rfl
  · have hAnswer := hMatched.answer? hMem
    cases hVerdict : sender.verdict with
    | some answer =>
      -- An answer that is there already is kept, so the connection stays as it is.
      rw [hAnswer, hVerdict]
      show stage.connection.calls = _
      rw [hMatched.calls, List.map_map]
      apply List.map_congr_left
      intro other hOther
      rw [Function.comp_apply, take]
      by_cases hNumber : other.number = sender.number
      · obtain rfl := hMatched.unique hOther hMem hNumber
        rw [Sender.call, hVerdict, Option.some_or]
      · rw [if_neg (show other.call.number ≠ _ from hNumber), Option.or_none]
    | none =>
      have hCall : ⟨sender.number, none⟩ ∈ stage.connection.calls := by
        rw [hMatched.calls, ← hVerdict]
        exact List.mem_map_of_mem (f := Sender.call) hMem
      rw [hAnswer, hVerdict]
      exact Connection.settle_calls hMatched.calls_nodup hCall _
  · intro reason
    have hStands := hMatched.gaveUp sender hMem reason
    rw [hWaiting] at hStands
    simp only [reduceCtorEq, iff_false] at hStands
    simp [hStands, eq_comm]
  · intro hLate
    exact hLimit (Stand.leaving.inj hLate)

theorem Matched.register {stage : Stage} {key target : Value} {number : Nat}
    {connection : Connection} (hMatched : Matched stage)
    (hRegister : stage.connection.register key target = .ok (number, connection)) :
    Matched { stage with connection := connection } := by
  obtain ⟨key', -, hRest⟩ := Fault.of_bind_ok hRegister
  cases hRest
  exact ⟨hMatched.begun, hMatched.calls, hMatched.outstanding, hMatched.ended_begun,
    hMatched.gaveUp, hMatched.limited, hMatched.ended_by⟩

/-! ## Ends -/

/-- A sender that waits and has an answer ends with what settled its command. -/
theorem Matched.endsBy_answer {stage : Stage} {sender : Sender} {answer : Except Fault Value}
    (hMatched : Matched stage) (hMem : sender ∈ stage.senders)
    (hWaiting : sender.stand = .waiting)
    (hAnswer : stage.connection.answer? sender.number = some answer) : EndsBy sender answer := by
  rw [hMatched.answer? hMem, Sender.verdict, List.findSome?_eq_some_iff] at hAnswer
  obtain ⟨before, notice, after, hHeard, hDecides, hFirst⟩ := hAnswer
  cases notice with
  | frame text =>
    -- The first notice that settles the command is a frame, and a frame bears one number.
    refine .reply hHeard hFirst hDecides fun number hOther => ?_
    refine reply?_own hOther ?_
    rw [show reply? sender.number text = some answer from hDecides]
    nofun
  | lost =>
    obtain rfl := Option.some.inj hDecides
    exact .lost hHeard hFirst
  | gaveUp cause =>
    -- Whoever has given up no longer waits.
    have hLeaving := (hMatched.gaveUp sender hMem cause).mp (by simp [hHeard])
    rw [hWaiting] at hLeaving
    cases hLeaving

/-- A sender that has given up ends with that. -/
theorem Matched.endsBy_givenUp {stage : Stage} {sender : Sender} {cause : Cause}
    (hMatched : Matched stage) (hMem : sender ∈ stage.senders)
    (hLeaving : sender.stand = .leaving cause) : EndsBy sender (sender.givenUp cause) := by
  have hGaveUp := (hMatched.gaveUp sender hMem cause).mpr hLeaving
  cases cause with
  | late =>
    obtain ⟨limit, hLimit⟩ := Option.ne_none_iff_exists'.mp (hMatched.limited sender hMem hLeaving)
    rw [Sender.givenUp, hLimit]
    exact .late hLimit hGaveUp
  | calledOff => exact .calledOff hGaveUp

/-- One act keeps the relation. -/
theorem Matched.step {stage next : Stage} {act : Act} (hMatched : Matched stage)
    (hStep : Step act stage next) : Matched next := by
  cases hStep with
  | begin hBegin => exact hMatched.begin hBegin
  | refuse hRefused => exact hMatched
  | write hMem hWriting => exact hMatched.write hMem hWriting
  | fail cause hMem hWriting =>
    exact hMatched.conclude hMem fun hWritten => absurd hWriting hWritten
  | giveUp cause hMem hWaiting hLimit => exact hMatched.giveUp hMem hWaiting hLimit
  | answered hMem hWaiting hAnswer =>
    exact hMatched.conclude hMem fun _ => hMatched.endsBy_answer hMem hWaiting hAnswer
  | left hMem hLeaving =>
    exact hMatched.conclude hMem fun _ => hMatched.endsBy_givenUp hMem hLeaving
  | register hRegister => exact hMatched.register hRegister
  | frame text hOpen => exact hMatched.receive hOpen text
  | lose hOpen => exact hMatched.lose hOpen

/-- Every run keeps it. -/
theorem Matched.steps {trace : List Act} {stage : Stage} (hSteps : Steps trace stage) :
    Matched stage := by
  induction hSteps with
  | nil => exact .start
  | snoc _ hStep ih => exact ih.step hStep

/-- A frame with an id that finds no command unsettled changes nothing. -/
theorem Matched.idle_frame {stage : Stage} (hMatched : Matched stage) {text : String}
    {members : List (String × Value)} {id : Value}
    (hMembers : Connection.members? text = some members)
    (hId : Value.find? "id" members = some id) (hKey : id.isKey = true)
    (hIdle : ∀ sender ∈ stage.senders, (Value.int sender.number).same id = true →
      sender.verdict ≠ none) :
    stage.connection.dispatchText text = stage.connection.unchanged := by
  -- A command that the frame found waiting would be one that nothing has settled.
  have hAwaiting : stage.connection.awaiting? id = none := by
    by_contra hSome
    obtain ⟨number, hNumber⟩ := Option.ne_none_iff_exists'.mp hSome
    by_cases hClosed : stage.connection.closed = true
    · rw [Connection.awaiting?, if_pos hClosed] at hNumber
      cases hNumber
    · obtain ⟨hMem, hSame⟩ := Connection.awaiting?_some (by simpa using hClosed) hNumber
      rw [hMatched.calls] at hMem
      obtain ⟨sender, hSender, hCall⟩ := List.mem_map.mp hMem
      have hNumbers : sender.number = number := congrArg Call.number hCall
      have hUnsettled : sender.verdict = none := congrArg Call.answer hCall
      exact hIdle sender hSender (by rw [hNumbers]; exact hSame) hUnsettled
  have hAsKey : id.asKey = .ok id := if_pos hKey
  rw [stage.connection.dispatchText_some hMembers]
  simp only [Connection.dispatch, hId, Connection.dispatchAnswer, hAsKey, hAwaiting]

/-- **Correlation.** After every run: the commands were numbered one after the other from one on;
while the connection is open, the numbers that an answer can still reach are those of the commands
that have begun and are not done; each sender whose frame was written and that is done ended with
the first frame that bore its number, with the loss of the socket, with its time, or because it
was called off; and a frame whose id bears the number of no unsettled command changes nothing. -/
theorem commands_get_their_own_answers {trace : List Act} {stage : Stage}
    (hSteps : Steps trace stage) :
    stage.begun = List.range' 1 stage.connection.lastNumber ∧
      (stage.connection.closed = false →
        stage.connection.pending =
          stage.begun.filter fun n => n ∉ stage.ended.map (·.1.number)) ∧
      (∀ sender result, (sender, result) ∈ stage.ended → sender.stand ≠ .writing →
        EndsBy sender result) ∧
      (∀ text members id, Connection.members? text = some members →
        Value.find? "id" members = some id → id.isKey = true →
        (∀ sender ∈ stage.senders, (Value.int sender.number).same id = true →
          sender.verdict ≠ none) →
        stage.connection.dispatchText text = stage.connection.unchanged) := by
  have hMatched := Matched.steps hSteps
  refine ⟨hMatched.begun, ?_, hMatched.ended_by, ?_⟩
  · intro hOpen
    rw [Connection.pending, if_neg (by simp [hOpen]), hMatched.calls, List.map_map,
      ← hMatched.outstanding]
    rfl
  · intro text members id hMembers hId hKey hIdle
    exact hMatched.idle_frame hMembers hId hKey hIdle

/-- Two commands: the second gets its reply first, and the first one's comes after its time. -/
theorem commands_get_their_own_answers_late_reply :
    ∃ (trace : List Act) (stage : Stage),
      Steps trace stage ∧ stage.begun = [1, 2] ∧ stage.connection.pending = [] ∧
      ∀ sender result, (sender, result) ∈ stage.ended → sender.stand ≠ .writing →
        EndsBy sender result := by
  let first : Notice := .frame "\x7b\"id\":2\x7d"
  let late : Notice := .frame "\x7b\"id\":1\x7d"
  let slow (stand : Stand) (heard : List Notice) : Sender :=
    ⟨1, "A", some Double.zero, stand, heard⟩
  let quick (stand : Stand) (heard : List Notice) : Sender := ⟨2, "B", none, stand, heard⟩
  have hOne : Connection.members? "\x7b\"id\":1\x7d" = some [("id", .int 1)] := by cbv
  have hTwo : Connection.members? "\x7b\"id\":2\x7d" = some [("id", .int 2)] := by cbv
  have hBegun : Steps _ ⟨⟨2, [⟨1, none⟩, ⟨2, none⟩], [], [], false⟩,
      [slow .writing [], quick .writing []], [1, 2], []⟩ :=
    .snoc (.snoc .nil (.begin rfl)) (.begin rfl)
  have hWritten : Steps _ ⟨⟨2, [⟨1, none⟩, ⟨2, none⟩], [], [], false⟩,
      [slow .waiting [], quick .waiting []], [1, 2], []⟩ :=
    .snoc (.snoc hBegun (.write (show slow .writing [] ∈ _ from .head _) rfl))
      (.write (show quick .writing [] ∈ _ from .tail _ (.head _)) rfl)
  have hFirst := hWritten.snoc (.frame "\x7b\"id\":2\x7d" rfl)
  rw [show Stage.receive _ _ = (⟨⟨2, [⟨1, none⟩, ⟨2, some (.ok (.object []))⟩], [], [], false⟩,
      [slow .waiting [first], quick .waiting [first]], [1, 2], []⟩ : Stage) by
    rw [Stage.receive, Connection.dispatchText_some _ hTwo]
    rfl] at hFirst
  have hLate : Steps _ ⟨⟨2, [⟨1, some (.error .cancelled)⟩, ⟨2, some (.ok (.object []))⟩], [], [],
      false⟩, [slow (.leaving .late) [first, .gaveUp .late], quick .waiting [first]], [1, 2], []⟩ :=
    .snoc hFirst (.giveUp .late (show slow .waiting [first] ∈ _ from .head _) rfl nofun)
  have hSecond := hLate.snoc (.frame "\x7b\"id\":1\x7d" rfl)
  rw [show Stage.receive _ _ = (⟨⟨2, [⟨1, some (.error .cancelled)⟩, ⟨2, some (.ok (.object []))⟩],
      [], [], false⟩, [slow (.leaving .late) [first, .gaveUp .late, late],
        quick .waiting [first, late]], [1, 2], []⟩ : Stage) by
    rw [Stage.receive, Connection.dispatchText_some _ hOne]
    rfl] at hSecond
  have hQuick := hSecond.snoc (.answered (show quick .waiting [first, late] ∈ _ from
    .tail _ (.head _)) rfl rfl)
  have hSlow := hQuick.snoc (.left (show slow (.leaving .late) [first, .gaveUp .late, late] ∈ _ from
    .head _) rfl)
  exact ⟨_, _, hSlow, rfl, rfl, (commands_get_their_own_answers hSlow).2.2.1⟩

end CallRun

end PageReporter
