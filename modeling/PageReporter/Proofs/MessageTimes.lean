import PageReporter.Proofs.FeedOrder
import PageReporter.Proofs.Lookups

/-!
# Console messages and their times

A console message is queued when its own arguments and those of all messages before it are settled:
the messages wait for each other, but nothing begins only when another has ended, so that the
times do not add up. Whatever holds a message up is a look-up of it or of one before it, which is
over when its own time is.

* `Message` — a console message with the look-ups of its arguments; `Message.settledAt` — when these
  are settled; `publishedAt` — the latest such time among the messages up to one;
* `Standing`, `Stands` — how the line-up relates to the messages at an instant;
* `Stands.releases` — what leaves the line-up leaves it at its time;
* `Stands.held` — what stays there is held up by a look-up that is under way.
-/

namespace PageReporter

namespace LookupRun

/-! ## Messages -/

/-- A console message with the look-ups of its arguments. -/
structure Message where
  fired : Double
  type : Value
  place : Option Location
  lookups : List Lookup

namespace Message

/-- The message as it arrives at the feed. -/
def call (message : Message) : ConsoleCall :=
  ⟨message.type, message.place, message.lookups.length⟩

/-- When all arguments of the message are settled. -/
def settledAt (message : Message) : Double :=
  Double.latest (message.fired :: message.lookups.map fun lookup => lookup.settledAt message.fired)

/-- The arguments that the message is queued with: of each, what its look-up yields. -/
def Reads (message : Message) (values : List Value) : Prop :=
  List.Forall₂ (fun lookup value =>
    ∃ result, lookup.Yields message.fired result ∧ value = FeedRun.valueOf result)
    message.lookups values

/-- The message as it stands in the queue, if it can be put into words. -/
def item? (message : Message) (values : List Value) : Option FeedItem :=
  (message.call.event values).toOption.map .event

end Message

variable {messages : List Message} {message : Message} {k : Nat} {parts : List (List Value)}

/-- When a message is to be queued: when its arguments are settled, and those of all before it. -/
def publishedAt (messages : List Message) (k : Nat) : Double :=
  Double.latest ((messages.take (k + 1)).map Message.settledAt)

/-- How a message is queued, and when. -/
def publication? (messages : List Message) (values : List Value) (k : Nat) :
    Option (Double × FeedItem) :=
  (messages[k]?.bind fun message => message.item? values).map fun item =>
    (publishedAt messages k, item)

/-- How the first messages are queued, with the arguments of each, and when. -/
def publications (messages : List Message) (parts : List (List Value)) : List (Double × FeedItem) :=
  parts.zipIdx.filterMap fun (values, k) => publication? messages values k

/-! ### Times of messages -/

theorem Lookup.isTime_settledAt (lookup : Lookup) {fired : Double} (hFired : fired.IsTime) :
    (lookup.settledAt fired).IsTime :=
  lookup.isTime_settledWithin (.within (.ofNat 5)) hFired

namespace Message

/-- The times that the arguments of a message are settled at. -/
theorem isTime_settled (hFired : message.fired.IsTime) :
    ∀ time ∈ message.fired :: message.lookups.map fun lookup => lookup.settledAt message.fired,
      time.IsTime := by
  intro time hMem
  rcases List.mem_cons.mp hMem with rfl | hMem
  · exact hFired
  · obtain ⟨lookup, -, rfl⟩ := List.mem_map.mp hMem
    exact lookup.isTime_settledAt hFired

theorem isTime_settledAt (hFired : message.fired.IsTime) : message.settledAt.IsTime :=
  .latest (isTime_settled hFired)

theorem fired_le_settledAt (hFired : message.fired.IsTime) :
    message.fired.le message.settledAt = true :=
  Double.IsTime.le_latest (isTime_settled hFired) (.head _)

theorem lookup_le_settledAt (hFired : message.fired.IsTime) {lookup : Lookup}
    (hMem : lookup ∈ message.lookups) :
    (lookup.settledAt message.fired).le message.settledAt = true :=
  Double.IsTime.le_latest (isTime_settled hFired) (.tail _ (List.mem_map.mpr ⟨lookup, hMem, rfl⟩))

/-- The arguments of a message are settled at most five seconds after it was fired. -/
theorem settledAt_le (hFired : message.fired.IsTime) :
    message.settledAt.le (message.fired + 5) = true := by
  have hLimit : (message.fired + 5).IsTime := hFired.add (.ofNat 5)
  refine Double.latest_le hLimit fun time hMem => ?_
  rcases List.mem_cons.mp hMem with rfl | hMem
  · exact hFired.le_add (.ofNat 5)
  · obtain ⟨lookup, -, rfl⟩ := List.mem_map.mp hMem
    exact hLimit.sooner_le_left _

/-- A message whose type can be read, and that has a place, can be put into words. -/
theorem item?_eq {category : Category} {location : Location} (values : List Value)
    (hCategory : Category.ofConsoleType message.type = .ok category)
    (hLocation : message.call.location = .ok location) :
    message.item? values = some (.event ⟨category, values, some location⟩) := by
  have hEvent : message.call.event values = .ok ⟨category, values, some location⟩ := by
    unfold ConsoleCall.event
    rw [hLocation]
    show (Category.ofConsoleType message.type >>= _) = _
    rw [hCategory]
    rfl
  unfold item?
  rw [hEvent]
  rfl

end Message

/-! ### More messages -/

theorem publishedAt_append (hOld : k < messages.length) (more : List Message) :
    publishedAt (messages ++ more) k = publishedAt messages k := by
  unfold publishedAt
  rw [List.take_append_of_le_length hOld]

theorem publications_append (hOld : parts.length ≤ messages.length) (more : List Message) :
    publications (messages ++ more) parts = publications messages parts := by
  refine List.filterMap_congr fun entry hMem => ?_
  have hBelow : entry.2 < messages.length := by
    have hIndex := (List.mem_zipIdx hMem).2.1
    omega
  show publication? (messages ++ more) entry.1 entry.2 = publication? messages entry.1 entry.2
  unfold publication?
  rw [publishedAt_append hBelow, List.getElem?_append_left hBelow]

theorem publications_concat (values : List Value) :
    publications messages (parts ++ [values]) =
      publications messages parts ++ (publication? messages values parts.length).toList := by
  unfold publications
  rw [List.zipIdx_append, List.filterMap_append, Nat.zero_add]
  cases hThis : publication? messages values parts.length <;> simp [hThis]

theorem mem_publications {values : List Value} {item : FeedItem}
    (hMessage : messages[k]? = some message) (hValues : parts[k]? = some values)
    (hItem : message.item? values = some item) :
    (publishedAt messages k, item) ∈ publications messages parts := by
  refine List.mem_filterMap.mpr ⟨(values, k), List.mem_zipIdx_iff_getElem?.mpr hValues, ?_⟩
  show publication? messages values k = _
  unfold publication?
  rw [hMessage, Option.bind_some, hItem]
  rfl

/-! ## The line-up -/

/-- An argument of a message, as it stands in the line-up: it is being looked up, or was settled
with what its look-up yields and not before its time. -/
inductive Slot (looks : List Look) (now : Double) (number i : Nat) (message : Message)
    (lookup : Lookup) : Option Value → Prop
  | awaited {look : Look} (hMem : look ∈ looks) (hTicket : look.ticket = number)
      (hSlot : look.slot = i) (hFired : look.fired = message.fired)
      (hLookup : look.lookup = lookup) :
      Slot looks now number i message lookup none
  | settled {result : Except Fault Value} (hDue : (lookup.settledAt message.fired).le now = true)
      (hYields : lookup.Yields message.fired result) :
      Slot looks now number i message lookup (some (FeedRun.valueOf result))

/-- A message stands in the line-up. -/
structure Standing (looks : List Look) (now : Double) (number : Nat) (message : Message)
    (ticket : Ticket) : Prop where
  numbered : ticket.number = number
  call : ticket.call = message.call
  width : ticket.slots.length = message.lookups.length
  slots : ∀ i lookup slot, message.lookups[i]? = some lookup → ticket.slots[i]? = some slot →
    Slot looks now number i message lookup slot

/-- How the line-up relates to the messages: the first of them have left it, with their arguments,
and the others stand in it. -/
structure Stands (messages : List Message) (now : Double) (looks : List Look)
    (parts : List (List Value)) (lineup : List Ticket) : Prop where
  told : List.Forall₂ Message.Reads (messages.take parts.length) parts
  due : ∀ message ∈ messages.take parts.length, message.settledAt.le now = true
  lined : List.Forall₂ (fun entry ticket => Standing looks now entry.2 entry.1 ticket)
    (messages.zipIdx.drop parts.length) lineup
  owned : ∀ look ∈ looks, look.limit = World.lookupLimit ∧
    ∃ message, messages[look.ticket]? = some message ∧ look.fired = message.fired ∧
      message.lookups[look.slot]? = some look.lookup
  past : ∀ message ∈ messages, message.fired.IsTime ∧ message.fired.le now = true
  ordered : messages.Pairwise fun first second => first.fired.le second.fired = true

/-- All arguments of a call are settled. -/
def isSettled (ticket : Ticket) : Bool :=
  (Ticket.parts? ticket.slots).isSome

/-- The call as it stands in the queue, once it is settled. -/
def itemOf (ticket : Ticket) : Option FeedItem :=
  (Ticket.parts? ticket.slots).bind fun values => (ticket.call.event values).toOption.map .event

theorem parts?_eq_some {slots : List (Option Value)} {values : List Value}
    (hParts : Ticket.parts? slots = some values) : slots = values.map some := by
  induction slots generalizing values with
  | nil =>
    obtain rfl := Option.some.inj hParts
    rfl
  | cons slot rest ih =>
    cases slot with
    | none => cases hParts
    | some value =>
      obtain ⟨others, hRest, rfl⟩ := Option.map_eq_some_iff.mp hParts
      rw [ih hRest, List.map_cons]

theorem parts?_settled (values : List Value) :
    Ticket.parts? (values.map some) = some values := by
  induction values with
  | nil => rfl
  | cons value rest ih => exact congrArg (Option.map (value :: ·)) ih

theorem parts?_eq_none {slots : List (Option Value)} (hParts : Ticket.parts? slots = none) :
    ∃ i : Nat, slots[i]? = some none := by
  induction slots with
  | nil => cases hParts
  | cons slot rest ih =>
    cases slot with
    | none => exact ⟨0, rfl⟩
    | some value =>
      obtain ⟨i, hNone⟩ := ih (Option.map_eq_none_iff.mp hParts)
      exact ⟨i + 1, hNone⟩

/-- The line-up of an open feed moves up: the settled calls at its front are queued. -/
theorem advanceLineup_open {lineup : List Ticket} {feed : Feed} (hOpen : feed.closed = false) :
    (Feed.advanceLineup lineup feed).1 =
      ⟨lineup.dropWhile isSettled, feed.arrived,
        feed.queue ++ (lineup.takeWhile isSettled).filterMap itemOf, feed.printer,
        feed.closed⟩ := by
  induction lineup generalizing feed with
  | nil => simp [Feed.advanceLineup, Feed.withLineup]
  | cons ticket rest ih =>
    rw [Feed.advanceLineup]
    cases hParts : Ticket.parts? ticket.slots with
    | none =>
      have hWaits : ¬ isSettled ticket = true := by simp [isSettled, hParts]
      rw [List.dropWhile_cons_of_neg hWaits, List.takeWhile_cons_of_neg hWaits, List.filterMap_nil,
        List.append_nil]
      rfl
    | some values =>
      have hSettled : isSettled ticket = true := by simp [isSettled, hParts]
      rw [List.dropWhile_cons_of_pos hSettled, List.takeWhile_cons_of_pos hSettled]
      simp only
      cases hEvent : ticket.call.event values with
      | error e =>
        have hItem : itemOf ticket = none := by
          simp [itemOf, hParts, hEvent, Except.toOption]
        rw [List.filterMap_cons_none hItem]
        exact ih hOpen
      | ok event =>
        have hItem : itemOf ticket = some (.event event) := by
          simp [itemOf, hParts, hEvent, Except.toOption]
        have hPublish : feed.publish event = feed.withQueue (feed.queue ++ [.event event]) := by
          unfold Feed.publish
          rw [hOpen, if_neg Bool.false_ne_true]
        rw [List.filterMap_cons_some hItem]
        have hNext := @ih (feed.withQueue (feed.queue ++ [.event event])) hOpen
        simp only [hPublish, hNext]
        simp [Feed.withQueue]

/-- Where the line-up has moved up, its front is not settled. -/
theorem head?_dropWhile (lineup : List Ticket) :
    ∀ ticket ∈ (lineup.dropWhile isSettled).head?, isSettled ticket = false := by
  intro ticket hMem
  have hFirst := List.head?_dropWhile_not isSettled lineup
  rwa [Option.mem_def.mp hMem] at hFirst

/-! ### Instants -/

variable {looks : List Look} {now later : Double} {number : Nat} {ticket : Ticket}
  {lineup rest : List Ticket} {values : List Value}

theorem Slot.mono {more : List Look} {i : Nat} {lookup : Lookup} {slot : Option Value}
    (hSlot : Slot looks now number i message lookup slot) (hLooks : looks ⊆ more)
    (hLater : now.le later = true) : Slot more later number i message lookup slot := by
  cases hSlot with
  | awaited hMem hTicket hSame hFired hLookup =>
    exact .awaited (hLooks hMem) hTicket hSame hFired hLookup
  | settled hDue hYields => exact .settled (Double.le_trans hDue hLater) hYields

theorem Standing.mono {more : List Look} (hStanding : Standing looks now number message ticket)
    (hLooks : looks ⊆ more) (hLater : now.le later = true) :
    Standing more later number message ticket :=
  { hStanding with
    slots := fun i lookup slot hLookup hThis =>
      (hStanding.slots i lookup slot hLookup hThis).mono hLooks hLater }

namespace Stands

/-- The clock moves. -/
theorem mono (hStands : Stands messages now looks parts lineup) (hLater : now.le later = true) :
    Stands messages later looks parts lineup where
  told := hStands.told
  due message hMem := Double.le_trans (hStands.due message hMem) hLater
  lined := hStands.lined.imp fun _ _ hStanding => hStanding.mono (List.Subset.refl _) hLater
  owned := hStands.owned
  past message hMem := by
    obtain ⟨hTime, hPast⟩ := hStands.past message hMem
    exact ⟨hTime, Double.le_trans hPast hLater⟩
  ordered := hStands.ordered

theorem length_le (hStands : Stands messages now looks parts lineup) :
    parts.length ≤ messages.length := by
  have hLength := hStands.told.length_eq
  rw [List.length_take] at hLength
  omega

theorem lineup_length (hStands : Stands messages now looks parts lineup) :
    parts.length + lineup.length = messages.length := by
  have hLength := hStands.lined.length_eq
  have hLe := hStands.length_le
  rw [List.length_drop, List.length_zipIdx] at hLength
  omega

/-- The messages' times. -/
theorem isTime_settledAt (hStands : Stands messages now looks parts lineup) (n : Nat) :
    ∀ time ∈ (messages.take n).map Message.settledAt, time.IsTime := by
  intro time hMem
  obtain ⟨message, hMessage, rfl⟩ := List.mem_map.mp hMem
  exact Message.isTime_settledAt (hStands.past message (List.mem_of_mem_take hMessage)).1

/-- A message is not to be queued before its arguments are settled, nor is one behind it. -/
theorem settledAt_le_publishedAt (hStands : Stands messages now looks parts lineup) {n : Nat}
    (hMessage : messages[n]? = some message) (hBehind : n ≤ k) :
    message.settledAt.le (publishedAt messages k) = true := by
  refine Double.IsTime.le_latest (hStands.isTime_settledAt _) (List.mem_map_of_mem ?_)
  refine List.mem_of_getElem? (i := n) ?_
  rw [List.getElem?_take, if_pos (by omega), hMessage]

/-- **A message is to be queued at most five seconds after it was fired, whatever stands before
it.** -/
theorem publishedAt_le (hStands : Stands messages now looks parts lineup)
    (hMessage : messages[k]? = some message) :
    (publishedAt messages k).le (message.fired + 5) = true := by
  have hTime := (hStands.past message (List.mem_of_getElem? hMessage)).1
  refine Double.latest_le (hTime.add (.ofNat 5)) fun time hMem => ?_
  obtain ⟨other, hOther, rfl⟩ := List.mem_map.mp hMem
  obtain ⟨n, hIndex⟩ := List.getElem?_of_mem hOther
  rw [List.getElem?_take] at hIndex
  split at hIndex
  · next hBefore =>
    -- Those before it were fired no later, so their time is over no later.
    have hFired := (hStands.past other (List.mem_of_getElem? hIndex)).1
    have hOrder : other.fired.le message.fired = true := by
      rcases Nat.lt_or_eq_of_le (Nat.le_of_lt_succ hBefore) with hEarlier | rfl
      · obtain ⟨hFirst, rfl⟩ := List.getElem?_eq_some_iff.mp hIndex
        obtain ⟨hSecond, rfl⟩ := List.getElem?_eq_some_iff.mp hMessage
        exact List.pairwise_iff_getElem.mp hStands.ordered n k hFirst hSecond hEarlier
      · obtain rfl := Option.some.inj (hIndex.symm.trans hMessage)
        exact hTime.le_refl
    exact Double.le_trans (Message.settledAt_le hFired) (hFired.add_le_add hTime (.ofNat 5) hOrder)
  · cases hIndex

/-- **What stays in the line-up is held up by a look-up that is under way, and that is settled no
later than the message is to be queued.** -/
theorem held (hStands : Stands messages now looks parts lineup)
    (hFront : ∀ ticket ∈ lineup.head?, isSettled ticket = false) (hLeft : parts.length ≤ k)
    (hMore : k < messages.length) :
    ∃ look ∈ looks, look.settledAt.le (publishedAt messages k) = true := by
  have hCount := hStands.lineup_length
  cases lineup with
  | nil =>
    rw [List.length_nil] at hCount
    omega
  | cons ticket rest =>
    have hBelow : parts.length < messages.zipIdx.length := by
      rw [List.length_zipIdx]
      omega
    have hLined := hStands.lined
    rw [List.drop_eq_getElem_cons hBelow, List.getElem_zipIdx, List.forall₂_cons] at hLined
    obtain ⟨hStanding, -⟩ := hLined
    -- The call at the front has an argument that is not settled, and that one is being looked up.
    have hParts : Ticket.parts? ticket.slots = none := by
      simpa [isSettled] using hFront ticket rfl
    obtain ⟨i, hNone⟩ := parts?_eq_none hParts
    obtain ⟨hWidth, -⟩ := List.getElem?_eq_some_iff.mp hNone
    rw [hStanding.width] at hWidth
    have hLookup := List.getElem?_eq_getElem hWidth
    have hMessage := List.getElem?_eq_getElem (l := messages) (by omega : parts.length < _)
    have hTime := (hStands.past _ (List.mem_of_getElem? hMessage)).1
    cases hStanding.slots i _ none hLookup hNone with
    | awaited hMem _ _ hFired hSame =>
      refine ⟨_, hMem, ?_⟩
      unfold Look.settledAt
      rw [(hStands.owned _ hMem).1, hFired, hSame]
      exact Double.le_trans (Message.lookup_le_settledAt hTime (List.mem_of_getElem? hLookup))
        (hStands.settledAt_le_publishedAt hMessage hLeft)

/-! ### Changes -/

/-- A message arrives, and its look-ups are begun. -/
theorem arrives (hStands : Stands messages now looks parts lineup) (id : Nat)
    (hTime : message.fired.IsTime) (hNow : message.fired = now) :
    Stands (messages ++ [message]) now
      (looks ++ begun World.lookupLimit id messages.length 0 now message.lookups) parts
      (lineup ++ [⟨messages.length, message.call,
        List.replicate message.lookups.length none⟩]) := by
  have hLe := hStands.length_le
  have hRefl : now.le now = true := hNow ▸ hTime.le_refl
  refine ⟨?_, ?_, ?_, fun look hMem => ?_, fun other hMem => ?_, ?_⟩
  · rw [List.take_append_of_le_length hLe]
    exact hStands.told
  · rw [List.take_append_of_le_length hLe]
    exact hStands.due
  · rw [List.zipIdx_append, List.drop_append_of_le_length (by rwa [List.length_zipIdx])]
    refine List.rel_append (hStands.lined.imp fun _ _ hStanding =>
      hStanding.mono (List.subset_append_left _ _) hRefl) (.cons ?_ .nil)
    show Standing _ _ (0 + messages.length) message _
    rw [Nat.zero_add]
    refine ⟨rfl, rfl, List.length_replicate, fun i lookup slot hLookup hSlot => ?_⟩
    obtain rfl : none = slot := by
      rw [List.getElem?_replicate] at hSlot
      split at hSlot
      · exact Option.some.inj hSlot
      · cases hSlot
    exact .awaited (List.mem_append_right _ (mem_begun.mpr ⟨i, lookup, hLookup, rfl⟩)) rfl
      (Nat.zero_add _) hNow.symm rfl
  · rcases List.mem_append.mp hMem with hOld | hNew
    · obtain ⟨hLimit, other, hOther, hRest⟩ := hStands.owned look hOld
      obtain ⟨hBelow, -⟩ := List.getElem?_eq_some_iff.mp hOther
      exact ⟨hLimit, other, by rwa [List.getElem?_append_left hBelow], hRest⟩
    · obtain ⟨i, lookup, hLookup, rfl⟩ := mem_begun.mp hNew
      exact ⟨rfl, message, List.getElem?_concat_length, hNow.symm, by rwa [Nat.zero_add]⟩
  · rcases List.mem_append.mp hMem with hOld | hNew
    · exact hStands.past other hOld
    · rw [List.mem_singleton.mp hNew, hNow]
      exact ⟨hNow ▸ hTime, hRefl⟩
  · rw [List.pairwise_append]
    refine ⟨hStands.ordered, List.pairwise_singleton _ _, fun first hFirst second hSecond => ?_⟩
    rw [List.mem_singleton.mp hSecond, hNow]
    exact (hStands.past first hFirst).2

/-- A look-up ends in time, and its argument is settled with what it yields. -/
theorem settles (hStands : Stands messages now looks parts lineup)
    (hDistinct : ∀ first ∈ looks, ∀ second ∈ looks, first.id = second.id → first = second)
    {look : Look} (hMem : look ∈ looks) (hDue : look.settledAt.le now = true) :
    Stands messages now (looks.filter fun other => other.id ≠ look.id) parts
      (lineup.map fun ticket =>
        if ticket.number = look.ticket then
          ⟨ticket.number, ticket.call,
            ticket.slots.set look.slot (some (FeedRun.valueOf look.outcome))⟩
        else ticket) := by
  refine { hStands with
    lined := ?_
    owned := fun other hOther => hStands.owned other (List.mem_of_mem_filter hOther) }
  rw [List.forall₂_map_right_iff]
  obtain ⟨hLimit, own, hOwn, hFired, hLookup⟩ := hStands.owned look hMem
  have hYields : look.lookup.Yields own.fired look.outcome := by
    have hTime := (hStands.past own (List.mem_of_getElem? hOwn)).1
    unfold Look.outcome
    rw [hLimit, hFired]
    exact look.lookup.yields_outcome hTime
  -- Whatever is being looked up for another argument still is.
  have hStill : ∀ {number i : Nat} {message : Message} {lookup : Lookup} {slot : Option Value},
      Slot looks now number i message lookup slot → ¬ (number = look.ticket ∧ i = look.slot) →
      Slot (looks.filter fun other => other.id ≠ look.id) now number i message lookup slot := by
    intro number i message lookup slot hSlot hOther
    cases hSlot with
    | @awaited other hThis hTicket hSame hFired hLookup =>
      refine .awaited (List.mem_filter.mpr ⟨hThis, ?_⟩) hTicket hSame hFired hLookup
      rw [decide_eq_true_iff]
      intro hId
      obtain rfl := hDistinct _ hThis _ hMem hId
      exact hOther ⟨hTicket.symm, hSame.symm⟩
    | settled hDue hYields => exact .settled hDue hYields
  have hEntries : List.Forall₂ (fun entry ticket => messages[entry.2]? = some entry.1 ∧
      Standing looks now entry.2 entry.1 ticket) (messages.zipIdx.drop parts.length) lineup := by
    refine (List.forall₂_and_left _ _).mpr ⟨fun entry hEntry => ?_, hStands.lined⟩
    exact List.mem_zipIdx_iff_getElem?.mp (List.mem_of_mem_drop hEntry)
  refine hEntries.imp fun entry ticket hBoth => ?_
  obtain ⟨hEntry, hStanding⟩ := hBoth
  split
  · next hSame =>
    rw [hStanding.numbered] at hSame
    rw [hSame] at hEntry
    obtain rfl : entry.1 = own := Option.some.inj (hEntry.symm.trans hOwn)
    refine ⟨hStanding.numbered, hStanding.call, ?_, fun i lookup slot hThis hSlot => ?_⟩
    · rw [List.length_set]
      exact hStanding.width
    · rw [List.getElem?_set] at hSlot
      split at hSlot
      · next hIndex =>
        subst hIndex
        obtain rfl := Option.some.inj (hThis.symm.trans hLookup)
        split at hSlot
        · obtain rfl := Option.some.inj hSlot
          refine .settled ?_ hYields
          unfold Look.settledAt at hDue
          rwa [hLimit, hFired] at hDue
        · cases hSlot
      · next hIndex =>
        exact hStill (hStanding.slots i lookup slot hThis hSlot) fun hBoth => hIndex hBoth.2.symm
  · next hOther =>
    rw [hStanding.numbered] at hOther
    exact ⟨hStanding.numbered, hStanding.call, hStanding.width, fun i lookup slot hThis hSlot =>
      hStill (hStanding.slots i lookup slot hThis hSlot) fun hBoth => hOther hBoth.1⟩

/-- The message at the front of the line-up leaves it, at its time. -/
theorem release (hStands : Stands messages now looks parts (ticket :: rest)) (hNow : now.IsTime)
    (hParts : Ticket.parts? ticket.slots = some values)
    (hAhead : now.le (publishedAt messages parts.length) = true) :
    Stands messages now looks (parts ++ [values]) rest ∧
      publication? messages values parts.length = (itemOf ticket).map fun item => (now, item) := by
  have hCount := hStands.lineup_length
  rw [List.length_cons] at hCount
  have hBelow : parts.length < messages.length := by omega
  have hLined := hStands.lined
  rw [List.drop_eq_getElem_cons (by rwa [List.length_zipIdx]), List.getElem_zipIdx,
    List.forall₂_cons] at hLined
  obtain ⟨hStanding, hRest⟩ := hLined
  have hMessage := List.getElem?_eq_getElem hBelow
  generalize messages[parts.length] = message at hStanding hMessage
  obtain ⟨hTime, hPast⟩ := hStands.past message (List.mem_of_getElem? hMessage)
  -- All its arguments are settled, each at its time.
  have hSlots := parts?_eq_some hParts
  have hWidth : message.lookups.length = values.length := by
    rw [← hStanding.width, hSlots, List.length_map]
  have hEach : ∀ (i : Nat) (lookup : Lookup) (value : Value),
      message.lookups[i]? = some lookup → values[i]? = some value →
      (lookup.settledAt message.fired).le now = true ∧
        ∃ result, lookup.Yields message.fired result ∧ value = FeedRun.valueOf result := by
    intro i lookup value hLookup hValue
    have hSlot : ticket.slots[i]? = some (some value) := by
      rw [hSlots, List.getElem?_map, hValue]
      rfl
    cases hStanding.slots i lookup _ hLookup hSlot with
    | settled hDue hYields => exact ⟨hDue, _, hYields, rfl⟩
  have hReads : message.Reads values := by
    refine List.forall₂_iff_get.mpr ⟨hWidth, fun i hFirst hSecond => ?_⟩
    exact (hEach i _ _ (List.getElem?_eq_getElem hFirst) (List.getElem?_eq_getElem hSecond)).2
  have hSettled : message.settledAt.le now = true := by
    refine Double.latest_le hNow fun time hMem => ?_
    rcases List.mem_cons.mp hMem with rfl | hMem
    · exact hPast
    · obtain ⟨lookup, hLookup, rfl⟩ := List.mem_map.mp hMem
      obtain ⟨i, hIndex⟩ := List.getElem?_of_mem hLookup
      obtain ⟨hInside, -⟩ := List.getElem?_eq_some_iff.mp hIndex
      exact (hEach i lookup _ hIndex (List.getElem?_eq_getElem (hWidth ▸ hInside))).1
  have hTake : messages.take (parts.length + 1) = messages.take parts.length ++ [message] := by
    rw [List.take_add_one, hMessage]
    rfl
  have hDue : ∀ other ∈ messages.take (parts.length + 1), other.settledAt.le now = true := by
    rw [hTake]
    exact List.forall_mem_append.mpr ⟨hStands.due, by simpa using hSettled⟩
  -- None of the times is past the instant, and their maximum is not before it.
  have hThen : publishedAt messages parts.length = now := by
    refine (Double.IsTime.latest (hStands.isTime_settledAt _)).le_antisymm hNow ?_ hAhead
    refine Double.latest_le hNow fun time hMem => ?_
    obtain ⟨other, hOther, rfl⟩ := List.mem_map.mp hMem
    exact hDue other hOther
  refine ⟨{ hStands with told := ?_, due := ?_, lined := ?_ }, ?_⟩
  · rw [List.length_append, List.length_singleton, hTake]
    exact List.rel_append hStands.told (.cons hReads .nil)
  · rw [List.length_append, List.length_singleton]
    exact hDue
  · rw [List.length_append, List.length_singleton]
    exact hRest
  · unfold publication? itemOf Message.item?
    rw [hMessage, hThen, hParts, hStanding.call]
    rfl

/-- **What leaves the line-up is queued at its time.** -/
theorem releases (hStands : Stands messages now looks parts lineup) (hNow : now.IsTime)
    (hAhead : ∀ k, parts.length ≤ k → k < messages.length →
      now.le (publishedAt messages k) = true) :
    ∃ more, Stands messages now looks (parts ++ more) (lineup.dropWhile isSettled) ∧
      publications messages (parts ++ more) = publications messages parts ++
        ((lineup.takeWhile isSettled).filterMap itemOf).map fun item => (now, item) := by
  induction lineup generalizing parts with
  | nil => exact ⟨[], by simpa using hStands, by simp⟩
  | cons ticket rest ih =>
    cases hParts : Ticket.parts? ticket.slots with
    | none =>
      have hWaits : ¬ isSettled ticket = true := by simp [isSettled, hParts]
      rw [List.dropWhile_cons_of_neg hWaits, List.takeWhile_cons_of_neg hWaits]
      exact ⟨[], by rwa [List.append_nil], by simp⟩
    | some values =>
      have hSettled : isSettled ticket = true := by simp [isSettled, hParts]
      have hCount := hStands.lineup_length
      rw [List.length_cons] at hCount
      obtain ⟨hRest, hThis⟩ := hStands.release hNow hParts
        (hAhead parts.length (Nat.le_refl _) (by omega))
      obtain ⟨more, hMore, hSame⟩ := ih hRest fun k hLeft hBelow => by
        rw [List.length_append, List.length_singleton] at hLeft
        exact hAhead k (by omega) hBelow
      rw [List.append_assoc, List.singleton_append] at hMore hSame
      refine ⟨values :: more, ?_, ?_⟩
      · rw [List.dropWhile_cons_of_pos hSettled]
        exact hMore
      · rw [hSame, publications_concat, hThis, List.takeWhile_cons_of_pos hSettled]
        cases hItem : itemOf ticket <;> simp [hItem]

end Stands

end LookupRun

end PageReporter
