import Mathlib.Data.List.Nodup
import Mathlib.Data.List.TakeWhile
import Mathlib.Data.Nat.Digits.Defs
import PageReporter.Value.Access

/-!
# What is read from a text

A whole number is only read if it has few enough digits, and then it has few enough to be written
again. So every value that a text holds has a form inside messages, however it is nested. And a
member that comes again replaces the one that came before it, so that no object that is read has
two members of one name.

* `Text.ofAsciiDigits_lt` — the size of a number by the count of its digits;
* `Json.Kept`, `Json.Kept.ofText` — what reading keeps holds of everything that is read;
* `Json.ofText_fits`, `Json.ofText_distinct` — what is read fits, and names its members apart;
* `Value.text_ok`, `Value.find?_fits` — what fits can be shown, and so can its members;
* `textIn`, `partIn`, `valueIn` — members of what has been read, of which each may be absent.
-/

namespace PageReporter

/-! ## Digits -/

namespace Text

theorem isAsciiDigit_lt {c : Char} (hDigit : isAsciiDigit c = true) : c.toNat - 48 < 10 := by
  simp only [isAsciiDigit, Bool.and_eq_true, decide_eq_true_eq] at hDigit
  omega

/-- Each digit that is read adds one to the count of digits. -/
theorem foldDigits_lt {ds : List Nat} (hDigits : ∀ d ∈ ds, d < 10) {n k : Nat}
    (hStart : n < 10 ^ k) : ds.foldl (fun n d => 10 * n + d) n < 10 ^ (k + ds.length) := by
  induction ds generalizing n k with
  | nil => exact hStart
  | cons d rest ih =>
    have hDigit := hDigits d List.mem_cons_self
    have hNext : 10 * n + d < 10 ^ (k + 1) := by
      rw [Nat.pow_succ]
      omega
    have hRest := ih (fun d hMem => hDigits d (List.mem_cons_of_mem _ hMem)) hNext
    rw [List.foldl_cons, List.length_cons, Nat.add_comm rest.length, ← Nat.add_assoc]
    exact hRest

theorem ofAsciiDigits_lt {digits : List Char} (hDigits : ∀ c ∈ digits, isAsciiDigit c = true) :
    ofAsciiDigits digits < 10 ^ digits.length := by
  have hEach : ∀ d ∈ digits.map fun c => c.toNat - 48, d < 10 := by
    intro d hMem
    obtain ⟨c, hChar, rfl⟩ := List.mem_map.mp hMem
    exact isAsciiDigit_lt (hDigits c hChar)
  have hLt := foldDigits_lt (n := 0) (k := 0) hEach (by decide)
  rwa [List.foldl_map, List.length_map, Nat.zero_add] at hLt

end Text

/-! ## Values that fit -/

namespace Value

/-- A whole number fits if it is less than the power of ten that has too many digits. -/
theorem intFits_of_lt {i : Int} (hLt : i.natAbs < 10 ^ digitLimit) : intFits i = true := by
  rw [intFits, decide_eq_true_iff]
  exact (Nat.length_toDigits_le_iff (by decide) (by decide)).mpr hLt

theorem find?_fits {name : String} {members : List (String × Value)} {v : Value}
    (hFits : fitsMembers members = true) (hFind : find? name members = some v) :
    v.fits = true := by
  induction members with
  | nil => cases hFind
  | cons first rest ih =>
    obtain ⟨n, w⟩ := first
    rw [fitsMembers, Bool.and_eq_true] at hFits
    rw [find?] at hFind
    split at hFind
    · exact Option.some.inj hFind ▸ hFits.1
    · exact ih hFits.2 hFind

theorem put_fits {name : String} {v : Value} {members : List (String × Value)}
    (hValue : v.fits = true) (hFits : fitsMembers members = true) :
    fitsMembers (put name v members) = true := by
  induction members with
  | nil => rw [put, fitsMembers, hValue, fitsMembers, Bool.and_self]
  | cons first rest ih =>
    obtain ⟨n, w⟩ := first
    rw [fitsMembers, Bool.and_eq_true] at hFits
    rw [put]
    split
    · rw [fitsMembers, hValue, hFits.2, Bool.and_self]
    · rw [fitsMembers, hFits.1, ih hFits.2, Bool.and_self]

/-- A text is the same as itself alone. -/
theorem same_str {v : Value} {s : String} : v.same (.str s) = true ↔ v = .str s := by
  cases v <;> simp [same, number?]

/-- What fits has a plain form. -/
theorem text_ok {v : Value} (hFits : v.fits = true) : v.text = .ok v.plain := by
  rw [text, if_pos hFits]

end Value

/-! ## Names apart -/

namespace Value

mutual

/-- Whether no object in a value has two members of one name. -/
def Distinct : Value → Prop
  | .list xs => DistinctItems xs
  | .object ms => (ms.map Prod.fst).Nodup ∧ DistinctMembers ms
  | _ => True

def DistinctItems : List Value → Prop
  | [] => True
  | x :: xs => Distinct x ∧ DistinctItems xs

def DistinctMembers : List (String × Value) → Prop
  | [] => True
  | (_, x) :: ms => Distinct x ∧ DistinctMembers ms

end

end Value

/-! ## Reading -/

namespace Json

/-- The whole part of a number is nothing but digits. -/
theorem readWhole_digits (cs : List Char) :
    ∀ c ∈ (readWhole cs).1, Text.isAsciiDigit c = true := by
  unfold readWhole
  split
  · intro c hMem
    obtain rfl := List.mem_singleton.mp hMem
    decide
  · exact fun c hMem => List.mem_takeWhile_imp hMem

/-- A number that is read is a whole one that fits, or a double. -/
theorem readNumber_cases {start : Nat} {cs rest : List Char} {v : Value} :
    readNumber start cs = .ok (v, rest) →
      (∃ i, v = .int i ∧ Value.intFits i = true) ∨ ∃ x, v = .double x := by
  fun_cases readNumber start cs with
  | case1 => nofun
  | case2 => nofun
  | case3 negative body _ whole rest₁ hWhole _ _ _ _ _ _ _ _ hFew n =>
    intro hRead
    cases hRead
    have hDigits := readWhole_digits body
    rw [hWhole] at hDigits
    -- The digits are not too many, so the number is less than the power that has too many.
    have hLt : Text.ofAsciiDigits whole < 10 ^ digitLimit :=
      Nat.lt_of_lt_of_le (Text.ofAsciiDigits_lt hDigits)
        (Nat.pow_le_pow_right (by decide) (Nat.le_of_not_lt hFew))
    refine .inl ⟨_, rfl, Value.intFits_of_lt ?_⟩
    cases negative
    · exact hLt
    · rw [if_pos rfl, Int.natAbs_neg]
      exact hLt
  | case4 =>
    intro hRead
    cases hRead
    exact .inr ⟨_, rfl⟩

/-- What reading keeps: it holds of everything that stands by itself, it passes from items to lists
and from members to objects, and a member may join the others under its name. -/
structure Kept (OfValue : Value → Prop) (OfItems : List Value → Prop)
    (OfMembers : List (String × Value) → Prop) : Prop where
  null : OfValue .null
  bool : ∀ b, OfValue (.bool b)
  int : ∀ i, Value.intFits i = true → OfValue (.int i)
  double : ∀ x, OfValue (.double x)
  str : ∀ s, OfValue (.str s)
  list : ∀ xs, OfItems xs → OfValue (.list xs)
  object : ∀ ms, OfMembers ms → OfValue (.object ms)
  noItem : OfItems []
  item : ∀ x xs, OfValue x → OfItems xs → OfItems (x :: xs)
  noMember : OfMembers []
  member : ∀ n x ms, OfValue x → OfMembers ms → OfMembers (Value.put n x ms)

section

variable {OfValue : Value → Prop} {OfItems : List Value → Prop}
  {OfMembers : List (String × Value) → Prop}

/-- **What reading keeps holds of what is read.** Values, items and members by one induction on the
fuel, as each of the three readers calls the others with less. -/
theorem Kept.read (hKept : Kept OfValue OfItems OfMembers) (fuel : Nat) :
    (∀ {cs rest v}, readValue fuel cs = .ok (v, rest) → OfValue v) ∧
    (∀ {cs rest xs}, readItems fuel cs = .ok (xs, rest) → OfItems xs) ∧
    (∀ {ms cs rest ns}, OfMembers ms → readMembers fuel ms cs = .ok (ns, rest) →
      OfMembers ns) := by
  induction fuel with
  | zero => exact ⟨nofun, nofun, nofun⟩
  | succ fuel ih =>
    obtain ⟨ihValue, ihItems, ihMembers⟩ := ih
    refine ⟨?_, ?_, ?_⟩
    · intro cs rest v hRead
      -- Texts and the named values stand by themselves; numbers, lists and objects need work.
      unfold readValue at hRead
      split at hRead
      · obtain ⟨⟨s, rest₁⟩, -, hResult⟩ := Fault.of_map_ok hRead
        cases hResult
        exact hKept.str s
      · split at hRead
        · cases hRead
          exact hKept.object [] hKept.noMember
        · obtain ⟨⟨ms, rest₁⟩, hMembers, hResult⟩ := Fault.of_map_ok hRead
          cases hResult
          exact hKept.object ms (ihMembers hKept.noMember hMembers)
      · split at hRead
        · cases hRead
          exact hKept.list [] hKept.noItem
        · obtain ⟨⟨xs, rest₁⟩, hItems, hResult⟩ := Fault.of_map_ok hRead
          cases hResult
          exact hKept.list xs (ihItems hItems)
      case h_10 =>
        obtain ⟨i, rfl, hFits⟩ | ⟨x, rfl⟩ := readNumber_cases hRead
        · exact hKept.int i hFits
        · exact hKept.double x
      all_goals
        cases hRead
        first
        | exact hKept.null
        | exact hKept.bool _
        | exact hKept.double _
    · intro cs rest xs hRead
      obtain ⟨⟨x, rest₁⟩, hFirst, hRest⟩ := Fault.of_bind_ok hRead
      have hItem := ihValue hFirst
      dsimp only at hRest
      split at hRest
      · cases hRest
        exact hKept.item x [] hItem hKept.noItem
      · obtain ⟨⟨ys, rest₂⟩, hItems, hResult⟩ := Fault.of_bind_ok hRest
        cases hResult
        exact hKept.item x ys hItem (ihItems hItems)
      · cases hRest
    · intro ms cs rest ns hBefore hRead
      unfold readMembers at hRead
      split at hRead
      · obtain ⟨⟨n, rest₁⟩, -, hNamed⟩ := Fault.of_bind_ok hRead
        dsimp only at hNamed
        split at hNamed
        · -- The value joins the members that were read before it.
          obtain ⟨⟨x, rest₂⟩, hValue, hRest⟩ := Fault.of_bind_ok hNamed
          have hPut : OfMembers (Value.put n x ms) := hKept.member n x ms (ihValue hValue) hBefore
          dsimp only at hRest
          split at hRest
          · cases hRest
            exact hPut
          · exact ihMembers hPut hRest
          · cases hRest
        · cases hNamed
      · cases hRead

theorem Kept.ofText (hKept : Kept OfValue OfItems OfMembers) {text : String} {v : Value}
    (hText : ofText text = .ok v) : OfValue v := by
  unfold Json.ofText at hText
  split at hText
  · next w hRead =>
    cases hText
    unfold Json.read at hRead
    split at hRead
    · cases hRead
    · obtain ⟨⟨u, rest⟩, hValue, hRest⟩ := Fault.of_bind_ok hRead
      dsimp only at hRest
      split at hRest
      · cases hRest
        exact (hKept.read _).1 hValue
      · cases hRest
  · cases hText

end

theorem ofText_fits {text : String} {v : Value} (hText : ofText text = .ok v) :
    v.fits = true := by
  have hKept : Kept (fun v => v.fits = true) (fun xs => Value.fitsItems xs = true)
      (fun ms => Value.fitsMembers ms = true) := by
    refine ⟨rfl, fun _ => rfl, fun _ => id, fun _ => rfl, fun _ => rfl, fun _ => id, fun _ => id,
      rfl, ?_, rfl, fun _ _ _ => Value.put_fits⟩
    intro x xs hItem hItems
    rw [Value.fitsItems, hItem, hItems, Bool.and_self]
  exact hKept.ofText hText

end Json

/-! ## Members that may be absent -/

/-- The text under a name. What is absent is empty. -/
def textIn (name : String) (members : List (String × Value)) : Option String :=
  match Value.find? name members with
  | none => some ""
  | some (.str text) => some text
  | some _ => none

/-- The members of the object under a name. What is absent has none. -/
def partIn (name : String) (members : List (String × Value)) : Option (List (String × Value)) :=
  match Value.find? name members with
  | none => some []
  | some (.object part) => some part
  | some _ => none

/-- The value under a name, or another one in its place. -/
def valueIn (name : String) (absent : Value) (members : List (String × Value)) : Value :=
  (Value.find? name members).getD absent

section Members

variable {members : List (String × Value)}

theorem memberOr_valueIn (name : String) (absent : Value) :
    (Value.object members).memberOr name absent = .ok (valueIn name absent members) :=
  rfl

theorem memberOr_textIn {name text : String} (hText : textIn name members = some text) :
    (Value.object members).memberOr name (.str "") = .ok (.str text) := by
  rw [memberOr_valueIn, valueIn]
  unfold textIn at hText
  split at hText
  next hNone => rw [hNone, ← Option.some.inj hText]; rfl
  next found hFound => rw [hFound, ← Option.some.inj hText]; rfl
  next => cases hText

theorem get_partIn {name : String} {part : List (String × Value)}
    (hPart : partIn name members = some part) :
    ∃ v, (Value.object members).get name = .ok v ∧ v.orElse (.object []) = .object part := by
  refine ⟨valueIn name .null members, rfl, ?_⟩
  unfold partIn at hPart
  unfold valueIn
  split at hPart
  next hNone => rw [hNone, ← Option.some.inj hPart]; rfl
  next found hFound =>
    rw [hFound, ← Option.some.inj hPart]
    cases found <;> rfl
  next => cases hPart

theorem valueIn_fits {name : String} {absent : Value} (hFits : Value.fitsMembers members = true)
    (hAbsent : absent.fits = true) : (valueIn name absent members).fits = true := by
  unfold valueIn
  cases hFind : Value.find? name members with
  | none => exact hAbsent
  | some v => exact Value.find?_fits hFits hFind

theorem partIn_fits {name : String} {part : List (String × Value)}
    (hFits : Value.fitsMembers members = true) (hPart : partIn name members = some part) :
    Value.fitsMembers part = true := by
  unfold partIn at hPart
  split at hPart
  next => rw [← Option.some.inj hPart]; rfl
  next found hFound => rw [← Option.some.inj hPart]; exact Value.find?_fits hFits hFound
  next => cases hPart

end Members

end PageReporter
