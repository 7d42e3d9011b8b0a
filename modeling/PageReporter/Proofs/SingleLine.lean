import Mathlib
import PageReporter.Proofs.UniqueReading

/-!
# How many lines a printed value takes

A value inside another one is meant to be printed on one line. Inside literals every line feed and
every carriage return is escaped, and numbers and constants hold none. What is left are the names
that need no quotes: the test for them lets one line feed pass at the very end of a name, and such
a name is printed as it is.

* `Inspect.IsWord` — letters, digits and signs as in a program's names;
* `Inspect.isBareName_iff` — a name is bare if it is a word, or a word with a line feed behind it;
* `Value.names` — all names that objects anywhere in a value give to their members;
* `Inspect.mem_nested_iff` — a line end gets into a printed value only by such a name;
* `Inspect.render_feed_iff` — which values are printed on more than one line.
-/

namespace PageReporter

/-! ## Names in a value -/

namespace Value

mutual

/-- The names that the objects in a value give to their members, at any depth. -/
def names : Value → List String
  | .list xs => itemNames xs
  | .object ms => memberNames ms
  | _ => []

/-- The names in the items of a list. -/
def itemNames : List Value → List String
  | [] => []
  | x :: xs => names x ++ itemNames xs

/-- The names of members, and those in their values. -/
def memberNames : List (String × Value) → List String
  | [] => []
  | (n, x) :: ms => n :: (names x ++ memberNames ms)

end

end Value

namespace Inspect

/-! ## Line ends -/

/-- A character that a line is over with. -/
def isBreak (c : Char) : Bool :=
  c == '\n' || c == '\r'

theorem not_isBreak_of_isNumberChar {c : Char} (hChar : Value.isNumberChar c = true) :
    isBreak c = false := by
  have hFeed : c ≠ '\n' := fun h => absurd (h ▸ hChar) (by decide)
  have hReturn : c ≠ '\r' := fun h => absurd (h ▸ hChar) (by decide)
  simp [isBreak, hFeed, hReturn]

/-- No number is printed with a line end. -/
theorem numberText_unbroken {cs : List Char} (hText : Value.IsNumberText cs) :
    ∀ c ∈ cs, isBreak c = false := by
  rcases hText with hChars | rfl | rfl | rfl
  · exact fun c hc => not_isBreak_of_isNumberChar (hChars c hc)
  all_goals
    intro c hMem
    simpa using (@List.all_eq_true _ (fun c => !isBreak c) _).mp (by decide) c hMem

theorem quoteChar_unbroken (q c : Char) : ∀ d ∈ quoteChar q c, isBreak d = false := by
  unfold quoteChar
  by_cases hFeed : c = '\n'
  · subst hFeed
    simp [isBreak]
  by_cases hReturn : c = '\r'
  · subst hReturn
    simp [isBreak]
  -- What is neither is put in front of itself, at most, with a backslash.
  have hPlain : isBreak c = false := by simp [isBreak, hFeed, hReturn]
  split_ifs <;> simp_all [isBreak]

theorem quoteFor_unbroken (cs : List Char) : isBreak (quoteFor cs) = false := by
  rcases quoteFor_encloses cs with h | ⟨h | h, -⟩ <;> rw [h] <;> rfl

/-- A literal stays on one line, whatever text it is of. -/
theorem quote_unbroken (cs : List Char) : ∀ c ∈ quote cs, isBreak c = false := by
  have hQuote := quoteFor_unbroken cs
  have hBody : ∀ c ∈ cs.flatMap (quoteChar (quoteFor cs)), isBreak c = false := by
    intro c hc
    obtain ⟨d, -, hPiece⟩ := List.mem_flatMap.mp hc
    exact quoteChar_unbroken _ d c hPiece
  simp only [quote, List.cons_append, List.forall_mem_cons, List.forall_mem_append]
  exact ⟨hQuote, hBody, hQuote, fun c hMem => absurd hMem List.not_mem_nil⟩

/-! ## Bare names -/

/-- A letter or a sign that begins names, and then letters, digits and such signs. -/
def IsWord (cs : List Char) : Prop :=
  ∃ c rest, cs = c :: rest ∧ startsName c = true ∧ ∀ d ∈ rest, continuesName d = true

theorem not_isBreak_of_continuesName {c : Char} (hName : continuesName c = true) :
    isBreak c = false := by
  have hFeed : c ≠ '\n' := fun h => absurd (h ▸ hName) (by decide)
  have hReturn : c ≠ '\r' := fun h => absurd (h ▸ hName) (by decide)
  simp [isBreak, hFeed, hReturn]

theorem IsWord.unbroken {cs : List Char} (hWord : IsWord cs) : ∀ c ∈ cs, isBreak c = false := by
  obtain ⟨c, rest, rfl, hStart, hRest⟩ := hWord
  have hFirst : continuesName c = true := by rw [continuesName, hStart, Bool.true_or]
  exact List.forall_mem_cons.mpr ⟨not_isBreak_of_continuesName hFirst,
    fun d hd => not_isBreak_of_continuesName (hRest d hd)⟩

/-- What may follow the first character of a bare name: characters of names, with a line feed
behind them or not. -/
theorem endsName_iff {cs : List Char} : endsName cs = true ↔
    (∀ c ∈ cs, continuesName c = true) ∨
      ∃ rest, (∀ c ∈ rest, continuesName c = true) ∧ cs = rest ++ ['\n'] := by
  have hFeed : continuesName '\n' = false := by decide
  induction cs with
  | nil => simp [endsName]
  | cons c cs ih =>
    by_cases hLast : c = '\n' ∧ cs = []
    · -- The one line feed that is let pass: no character stands before it here.
      obtain ⟨rfl, rfl⟩ := hLast
      exact iff_of_true rfl (.inr ⟨[], nofun, rfl⟩)
    · have hStep : endsName (c :: cs) = (continuesName c && endsName cs) := by
        rw [endsName]
        intro hc hcs
        exact hLast ⟨hc, hcs⟩
      rw [hStep, Bool.and_eq_true]
      constructor
      · rintro ⟨hFirst, hEnds⟩
        rcases ih.mp hEnds with hAll | ⟨rest, hRest, rfl⟩
        · exact .inl (List.forall_mem_cons.mpr ⟨hFirst, hAll⟩)
        · exact .inr ⟨c :: rest, List.forall_mem_cons.mpr ⟨hFirst, hRest⟩, rfl⟩
      · rintro (hAll | ⟨rest, hRest, hEq⟩)
        · obtain ⟨hFirst, hAll⟩ := List.forall_mem_cons.mp hAll
          exact ⟨hFirst, ih.mpr (.inl hAll)⟩
        · cases rest with
          | nil =>
            obtain ⟨rfl, rfl⟩ := List.cons.inj hEq
            exact absurd ⟨rfl, rfl⟩ hLast
          | cons d rest =>
            obtain ⟨rfl, rfl⟩ := List.cons.inj hEq
            obtain ⟨hFirst, hRest⟩ := List.forall_mem_cons.mp hRest
            exact ⟨hFirst, ih.mpr (.inr ⟨rest, hRest, rfl⟩)⟩

/-- A name needs no quotes if it is a word, and also if it is one with a line feed behind it. -/
theorem isBareName_iff {cs : List Char} : isBareName cs = true ↔
    IsWord cs ∨ ∃ word, IsWord word ∧ cs = word ++ ['\n'] := by
  cases cs with
  | nil => simp [isBareName, IsWord]
  | cons c cs =>
    rw [isBareName, Bool.and_eq_true, endsName_iff]
    constructor
    · rintro ⟨hStart, hAll | ⟨rest, hRest, rfl⟩⟩
      · exact .inl ⟨c, cs, rfl, hStart, hAll⟩
      · exact .inr ⟨c :: rest, ⟨c, rest, rfl, hStart, hRest⟩, rfl⟩
    · rintro (⟨d, rest, hEq, hStart, hRest⟩ | ⟨_, ⟨d, rest, rfl, hStart, hRest⟩, hEq⟩)
      · obtain ⟨rfl, rfl⟩ := List.cons.inj hEq
        exact ⟨hStart, .inl hRest⟩
      · obtain ⟨rfl, rfl⟩ := List.cons.inj hEq
        exact ⟨hStart, .inr ⟨rest, hRest, rfl⟩⟩

/-- The name of a member is printed with a line end exactly if it is a word with a line feed behind
it, and then that line feed is the line end. -/
theorem mem_label_iff {cs : List Char} {c : Char} (hBreak : isBreak c = true) :
    c ∈ label cs ↔ c = '\n' ∧ ∃ word, IsWord word ∧ cs = word ++ ['\n'] := by
  unfold label
  split
  next hBare =>
    constructor
    · intro hMem
      rcases isBareName_iff.mp hBare with hWord | ⟨word, hWord, rfl⟩
      · rw [hWord.unbroken c hMem] at hBreak
        cases hBreak
      · rcases List.mem_append.mp hMem with hInside | hLast
        · rw [hWord.unbroken c hInside] at hBreak
          cases hBreak
        · exact ⟨List.mem_singleton.mp hLast, word, hWord, rfl⟩
    · rintro ⟨rfl, word, -, rfl⟩
      exact List.mem_append_right word List.mem_cons_self
  next hQuoted =>
    -- A literal holds no line end, and an open name would not have been quoted.
    constructor
    · intro hMem
      rw [quote_unbroken cs c hMem] at hBreak
      cases hBreak
    · rintro ⟨-, hFeed⟩
      exact absurd (isBareName_iff.mpr (.inr hFeed)) hQuoted

/-! ## Values -/

theorem nested_number_unbroken {v : Value} (hKind : kind v = .number) :
    ∀ c ∈ nested v, isBreak c = false := by
  rcases kind_number hKind with ⟨cs, hText⟩ | ⟨i, rfl⟩
  · rw [nested_numeral hText]
    exact numberText_unbroken (Value.numeral?_isNumberText hText)
  · rw [nested_bigint]
    simp only [List.forall_mem_append, List.forall_mem_cons]
    exact ⟨numberText_unbroken (.inl (Value.intText_chars i)), by decide, nofun⟩

theorem constant_unbroken (text : String)
    (hPlain : text.toList.all (fun d => !isBreak d) = true) :
    ∀ d ∈ text.toList, isBreak d = false := by
  simpa using hPlain

section

variable {c : Char} (hBreak : isBreak c = true)
include hBreak

theorem ne_of_unbroken {d : Char} (hPlain : isBreak d = false) : c ≠ d := by
  rintro rfl
  rw [hPlain] at hBreak
  cases hBreak

theorem ne_separators : c ≠ ',' ∧ c ≠ ' ' ∧ c ≠ ':' :=
  ⟨ne_of_unbroken hBreak rfl, ne_of_unbroken hBreak rfl, ne_of_unbroken hBreak rfl⟩

/-- What is printed for a value without parts holds no line end, and such a value no names. -/
theorem mem_leaf_iff {cs : List Char} (hPlain : ∀ d ∈ cs, isBreak d = false) :
    c ∈ cs ↔ ∃ name ∈ ([] : List String), c ∈ label name.toList := by
  have hOut : c ∉ cs := fun hMem => ne_of_unbroken hBreak (hPlain c hMem) rfl
  simpa using hOut

mutual

/-- A line end gets into a printed value only by the name of a member. The recursion is on the
value; what encloses and separates the parts of a list or an object is no line end. -/
theorem mem_nested_iff : ∀ v : Value, c ∈ nested v ↔ ∃ name ∈ v.names, c ∈ label name.toList
  | .null => mem_leaf_iff hBreak (constant_unbroken "null" (by decide))
  | .undefined => mem_leaf_iff hBreak (constant_unbroken "undefined" (by decide))
  | .unresolvable => mem_leaf_iff hBreak (constant_unbroken "[unserializable]" (by decide))
  | .bool true => mem_leaf_iff hBreak (constant_unbroken "true" (by decide))
  | .bool false => mem_leaf_iff hBreak (constant_unbroken "false" (by decide))
  | .int i => mem_leaf_iff hBreak (nested_number_unbroken (v := .int i) rfl)
  | .bigint i => mem_leaf_iff hBreak (nested_number_unbroken (v := .bigint i) rfl)
  | .double x => mem_leaf_iff hBreak (nested_number_unbroken (v := .double x) rfl)
  | .str s => mem_leaf_iff hBreak (quote_unbroken s.toList)
  | .list [] => mem_leaf_iff hBreak (constant_unbroken "[]" (by decide))
  | .object [] => mem_leaf_iff hBreak (constant_unbroken "\x7b\x7d" (by decide))
  | .list (x :: xs) => by
    -- The items hold a separator more than the list does, in front of the first of them.
    have hItems := mem_nestedItems_iff (x :: xs)
    have hOpen : c ≠ '[' := ne_of_unbroken hBreak rfl
    have hClose : c ≠ ']' := ne_of_unbroken hBreak rfl
    obtain ⟨hComma, hBlank, -⟩ := ne_separators hBreak
    rw [nestedItems_cons] at hItems
    rw [nested_list, nestedItems_cons, Value.names, ← hItems]
    simp [hOpen, hClose, hComma, hBlank]
  | .object ((n, x) :: ms) => by
    have hMembers := mem_nestedMembers_iff ((n, x) :: ms)
    have hOpen : c ≠ '\x7b' := ne_of_unbroken hBreak rfl
    have hClose : c ≠ '\x7d' := ne_of_unbroken hBreak rfl
    obtain ⟨hComma, hBlank, -⟩ := ne_separators hBreak
    rw [nestedMembers_cons] at hMembers
    rw [nested_object, nestedMembers_cons, Value.names, ← hMembers]
    simp [hOpen, hClose, hComma, hBlank]

theorem mem_nestedItems_iff : ∀ xs : List Value,
    c ∈ nestedItems xs ↔ ∃ name ∈ Value.itemNames xs, c ∈ label name.toList
  | [] => by simp [nestedItems, Value.itemNames]
  | x :: xs => by
    obtain ⟨hComma, hBlank, -⟩ := ne_separators hBreak
    rw [nestedItems_cons, Value.itemNames]
    simp only [List.mem_cons, List.mem_append, hComma, hBlank, false_or, mem_nested_iff x,
      mem_nestedItems_iff xs, or_and_right, exists_or]

theorem mem_nestedMembers_iff : ∀ ms : List (String × Value),
    c ∈ nestedMembers ms ↔ ∃ name ∈ Value.memberNames ms, c ∈ label name.toList
  | [] => by simp [nestedMembers, Value.memberNames]
  | (n, x) :: ms => by
    obtain ⟨hComma, hBlank, hColon⟩ := ne_separators hBreak
    rw [nestedMembers_cons, Value.memberNames]
    simp only [List.mem_cons, List.mem_append, hComma, hBlank, hColon, false_or, mem_nested_iff x,
      mem_nestedMembers_iff ms, or_and_right, exists_or, exists_eq_left]

end

end

/-- A value other than a text is printed at the top as it is inside another one. -/
theorem render_top {v : Value} (hOther : ∀ s, v ≠ .str s) : render true v = render false v := by
  have hChars : chars v = nested v := by
    unfold chars
    split
    next s => exact absurd rfl (hOther s)
    next => rfl
  simp [render, hChars]

/-! ## Lines -/

/-- **Which values are printed on more than one line.** A value whose numbers can be written is
printed inside another one, or at the top if it is no text, without any carriage return; and
without any line feed, unless some object in it has a name that is a word with a line feed behind
it. -/
theorem render_feed_iff (v : Value) (top : Bool) (hTop : top = true → ∀ s, v ≠ .str s) :
    ((∃ line, render top v = .ok line) ↔ v.fits = true) ∧
      ∀ line, render top v = .ok line →
        '\r' ∉ line.toList ∧
        ('\n' ∈ line.toList ↔
          ∃ name ∈ v.names, ∃ word, IsWord word ∧ name.toList = word ++ ['\n']) := by
  have hNested : render top v = render false v := by
    cases top with
    | false => rfl
    | true => exact render_top (hTop rfl)
  rw [hNested]
  constructor
  · constructor
    · rintro ⟨line, hLine⟩
      exact (render_ok_iff.mp hLine).1
    · intro hFits
      exact ⟨_, render_ok_iff.mpr ⟨hFits, rfl⟩⟩
  · -- Both line ends get in by names alone, and names let only the line feed in.
    intro line hLine
    obtain ⟨-, rfl⟩ := render_ok_iff.mp hLine
    have hFeed := mem_nested_iff (c := '\n') rfl v
    have hReturn := mem_nested_iff (c := '\r') rfl v
    rw [String.toList_ofList, hFeed, hReturn]
    constructor
    · rintro ⟨name, -, hMem⟩
      exact absurd ((mem_label_iff rfl).mp hMem).1 (by decide)
    · have hLabels (name : String) : '\n' ∈ label name.toList ↔
          ∃ word, IsWord word ∧ name.toList = word ++ ['\n'] := by
        rw [mem_label_iff rfl, and_iff_right rfl]
      simp only [hLabels]

/-- A name that ends in a line feed takes the line apart; one that holds it elsewhere is quoted, and
so is a text. -/
theorem render_feed_iff_open_name :
    (∃ line, render true (.object [("a\n", .str "b\n"), ("a\nb", .null)]) = .ok line ∧
      '\n' ∈ line.toList ∧ '\r' ∉ line.toList) ∧
    (∃ line, render true (.object [("a\nb", .str "b\n")]) = .ok line ∧ '\n' ∉ line.toList) := by
  have hFirst := render_feed_iff (.object [("a\n", .str "b\n"), ("a\nb", .null)]) true
    (fun _ _ => nofun)
  have hSecond := render_feed_iff (.object [("a\nb", .str "b\n")]) true (fun _ _ => nofun)
  constructor
  · obtain ⟨line, hLine⟩ := hFirst.1.mpr rfl
    refine ⟨line, hLine, (hFirst.2 line hLine).2.mpr ?_, (hFirst.2 line hLine).1⟩
    exact ⟨"a\n", .head _, ['a'], ⟨'a', [], rfl, rfl, nofun⟩, rfl⟩
  · obtain ⟨line, hLine⟩ := hSecond.1.mpr rfl
    refine ⟨line, hLine, fun hFeed => ?_⟩
    obtain ⟨name, hName, word, hWord, hEq⟩ := (hSecond.2 line hLine).2.mp hFeed
    obtain rfl : name = "a\nb" := by simpa [Value.names, Value.memberNames] using hName
    have hLast := congrArg List.getLast? hEq
    simp at hLast

end Inspect

end PageReporter
