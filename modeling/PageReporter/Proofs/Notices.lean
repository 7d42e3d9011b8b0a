import PageReporter.Page.Tab
import PageReporter.Proofs.CallRun

/-!
# What tabs keep

A tab keeps the notices about loading for whoever watches, in the order of their arrival, and no
event takes any of them away.

* `Tab.noticesIn` — the notices that an event leaves; `Tab.receive_notices` — where they are kept;
* `Tab.Numbered` — watches are numbered in the order in which they began.
-/

namespace PageReporter

namespace Tab

/-- The notices that an event leaves for whoever watches. -/
def noticesIn (event : String) (params : Value) : List Value :=
  match event with
  | "Inspector.targetCrashed" => [detachedNotice]
  | "Page.lifecycleEvent" => [params]
  | "detached" => [detachedNotice]
  | _ => []

theorem lookup_kept (watch n : Nat) (notice : Value) (kept : List (Nat × List Value)) :
    (kept.map fun (m, notices) => if m = n then (m, notices ++ [notice]) else (m, notices)).lookup
        watch =
      (kept.lookup watch).map fun notices => if watch = n then notices ++ [notice] else notices := by
  induction kept with
  | nil => rfl
  | cons first rest ih =>
    obtain ⟨m, notices⟩ := first
    have hEntry : (if m = n then (m, notices ++ [notice]) else (m, notices)) =
        (m, if m = n then notices ++ [notice] else notices) := by
      split <;> rfl
    simp only [List.map_cons, hEntry, List.lookup_cons]
    by_cases hHere : watch = m
    · subst hHere
      simp
    · rw [beq_eq_false_iff_ne.mpr hHere]
      exact ih

/-- Whether notices are being kept for a watch. -/
def Keeps (tab : Tab) (watch : Nat) : Prop :=
  tab.watch = some watch ∧ (tab.notices.lookup watch).isSome = true

instance (tab : Tab) (watch : Nat) : Decidable (tab.Keeps watch) :=
  inferInstanceAs (Decidable (_ ∧ _))

/-- A notice comes behind those that have been kept for the same watch. -/
theorem keepNotice_noticesOf (tab : Tab) (notice : Value) (watch : Nat) :
    (tab.keepNotice notice).noticesOf watch =
      tab.noticesOf watch ++ if tab.Keeps watch then [notice] else [] := by
  obtain ⟨requests, watching, kept⟩ := tab
  cases watching with
  | none => simp [keepNotice, Keeps]
  | some n =>
    simp only [keepNotice, noticesOf, Keeps, lookup_kept, Option.some.injEq]
    cases hKept : kept.lookup watch with
    | none => simp
    | some notices =>
      by_cases hSame : watch = n
      · simp [hSame]
      · simp [hSame, Ne.symm hSame]

/-! ### Events -/

theorem signalling_tab (tab : Tab) (result : Except Fault PageSignal) :
    (tab.signalling result).tab = tab := by
  cases result <;> rfl

theorem forget_notices {tab after : Tab} {params : Value} {found : Option Request}
    (hForget : tab.forget params = .ok (found, after)) : after.notices = tab.notices := by
  obtain ⟨id, -, hRest⟩ := Fault.of_bind_ok hForget
  split at hRest
  · cases hRest
    rfl
  · obtain ⟨key, -, hDone⟩ := Fault.of_bind_ok hRest
    cases hDone
    rfl

theorem opened_notices {tab after : Tab} {params : Value}
    (hOpened : tab.opened params = .ok after) : after.notices = tab.notices := by
  obtain ⟨_, -, hOpened⟩ := Fault.of_bind_ok hOpened
  obtain ⟨_, -, hOpened⟩ := Fault.of_bind_ok hOpened
  obtain ⟨_, -, hOpened⟩ := Fault.of_bind_ok hOpened
  obtain ⟨_, -, hOpened⟩ := Fault.of_bind_ok hOpened
  obtain ⟨_, -, hOpened⟩ := Fault.of_bind_ok hOpened
  cases hOpened
  rfl

theorem changing_notices {tab : Tab} {signals : List PageSignal} {result : Except Fault Tab}
    (hChanged : ∀ after, result = .ok after → after.notices = tab.notices) :
    (tab.changing signals result).tab.notices = tab.notices := by
  cases result with
  | error e => rfl
  | ok after => exact hChanged after rfl

/-- An event leaves the notices as they are, or one more is kept. -/
theorem receive_keeps (tab : Tab) (wallClock : Double) (event : String) (params : Value) :
    (tab.receive wallClock event params).tab.notices = tab.notices ∧ noticesIn event params = [] ∨
      ∃ notice, (tab.receive wallClock event params).tab.notices = (tab.keepNotice notice).notices ∧
        noticesIn event params = [notice] := by
  -- One case for each event that a tab knows; three of them are kept, and the last is any other.
  unfold receive
  split
  · exact .inl ⟨congrArg notices (signalling_tab ..), rfl⟩
  · exact .inl ⟨congrArg notices (signalling_tab ..), rfl⟩
  · split
    · exact .inl ⟨rfl, rfl⟩
    · exact .inl ⟨changing_notices fun after => opened_notices, rfl⟩
  · unfold failed
    split
    · exact .inl ⟨rfl, rfl⟩
    · next hForget =>
      exact .inl ⟨(congrArg notices (signalling_tab ..)).trans (forget_notices hForget), rfl⟩
  · refine .inl ⟨changing_notices fun after hAfter => ?_, rfl⟩
    obtain ⟨⟨found, rest⟩, hForget, rfl⟩ := Fault.of_map_ok hAfter
    exact forget_notices hForget
  · exact .inl ⟨congrArg notices (signalling_tab ..), rfl⟩
  · exact .inr ⟨detachedNotice, rfl, rfl⟩
  · exact .inr ⟨params, rfl, rfl⟩
  · exact .inr ⟨detachedNotice, rfl, rfl⟩
  · refine .inl ⟨rfl, ?_⟩
    unfold noticesIn
    split <;> first | rfl | contradiction

/-- What an event leaves for whoever watches is kept, and nothing else changes the notices. -/
theorem receive_notices (tab : Tab) (wallClock : Double) (event : String) (params : Value)
    (watch : Nat) : (tab.receive wallClock event params).tab.noticesOf watch =
      tab.noticesOf watch ++ if tab.Keeps watch then noticesIn event params else [] := by
  rcases tab.receive_keeps wallClock event params with ⟨hSame, hNone⟩ | ⟨notice, hKept, hSome⟩
  · rw [hNone, ite_self, List.append_nil, noticesOf, noticesOf, hSame]
  · rw [hSome, ← keepNotice_noticesOf, noticesOf, noticesOf, hKept]

/-! ### Watches -/

/-- Every watch has a number below the count of watches. -/
def Numbered (notices : List (Nat × List Value)) : Prop :=
  ∀ entry ∈ notices, entry.1 < notices.length

theorem receive_numbered {tab : Tab} (hNumbered : Numbered tab.notices) (wallClock : Double)
    (event : String) (params : Value) :
    Numbered (tab.receive wallClock event params).tab.notices := by
  rcases tab.receive_keeps wallClock event params with ⟨hSame, -⟩ | ⟨notice, hKept, -⟩
  · rwa [hSame]
  · rw [hKept]
    unfold keepNotice
    split
    · exact hNumbered
    · intro entry hMem
      obtain ⟨old, hOld, rfl⟩ := List.mem_map.mp hMem
      rw [List.length_map]
      dsimp only
      split <;> exact hNumbered old hOld

/-- Room for one more watch leaves what has been kept for the others. -/
theorem lookup_room (notices : List (Nat × List Value)) (watch : Nat) :
    ((notices ++ [(notices.length, [])]).lookup watch).getD [] = (notices.lookup watch).getD [] := by
  rw [List.lookup_append]
  cases notices.lookup watch with
  | some kept => rfl
  | none =>
    rw [Option.none_or, List.lookup_cons]
    split <;> rfl

theorem numbered_room {notices : List (Nat × List Value)} (hNumbered : Numbered notices) :
    Numbered (notices ++ [(notices.length, [])]) := by
  intro entry hMem
  rw [List.length_append]
  rcases List.mem_append.mp hMem with hOld | hNew
  · exact Nat.lt_add_right _ (hNumbered entry hOld)
  · obtain rfl := List.mem_singleton.mp hNew
    exact Nat.lt_succ_self _

end Tab

end PageReporter
