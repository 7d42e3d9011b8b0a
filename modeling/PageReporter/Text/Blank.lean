/-!
# Blanks

The characters that stand between words, and the trimming and splitting of a text at them.
A text is handled as its list of characters, so that every function here is a recursion on data.

* `isBlank` — the class of characters that separate words;
* `isPadding` — the smaller class of those that may stand around a number;
* `split` — the pieces of a text between separators, empty pieces included;
* `words` — the pieces between blanks that hold anything.
-/

namespace PageReporter.Text

/-! ## The class -/

/-- A blank is a character whose bidirectional type or general category makes it white space:
the ASCII controls 9 to 13 and 28 to 31, the space, the next-line control and every Unicode
space, line or paragraph separator. -/
def isBlank (c : Char) : Bool :=
  let n := c.toNat
  (9 ≤ n && n ≤ 13) || (28 ≤ n && n ≤ 32) || n == 133 || n == 160 || n == 5760
    || (8192 ≤ n && n ≤ 8202) || n == 8232 || n == 8233 || n == 8239 || n == 8287 || n == 12288

/-- What may stand around a typed number: every blank but the four separators among the controls
of ASCII. -/
def isPadding (c : Char) : Bool :=
  isBlank c && !(28 ≤ c.toNat && c.toNat ≤ 31)

/-! ## Trimming -/

/-- The text without the characters at its two ends that `p` marks. -/
def trimWhere (p : Char → Bool) (cs : List Char) : List Char :=
  ((cs.dropWhile p).reverse.dropWhile p).reverse

/-- The text without the blanks at its two ends. -/
def trim (cs : List Char) : List Char :=
  trimWhere isBlank cs

/-- A text without marked characters stays as it is. -/
theorem trimWhere_unmarked {p : Char → Bool} {cs : List Char} (hNone : ∀ c ∈ cs, p c = false) :
    trimWhere p cs = cs := by
  have hDrop : ∀ {ds : List Char}, (∀ c ∈ ds, p c = false) → ds.dropWhile p = ds := by
    intro ds hUnmarked
    cases ds with
    | nil => rfl
    | cons d ds =>
      have hFirst : ¬ p d = true := by
        rw [hUnmarked d List.mem_cons_self]
        exact Bool.false_ne_true
      exact List.dropWhile_cons_of_neg hFirst
  have hReverse : ∀ c ∈ cs.reverse, p c = false := fun c hMem => hNone c (List.mem_reverse.mp hMem)
  rw [trimWhere, hDrop hNone, hDrop hReverse, List.reverse_reverse]

/-! ## Splitting -/

/-- The pieces between the characters that `p` marks, in order. There is always one piece more
than there are marked characters, so two marks in a row leave an empty piece between them. -/
def split (p : Char → Bool) : List Char → List (List Char)
  | [] => [[]]
  | c :: cs =>
    if p c then [] :: split p cs
    else match split p cs with
      | [] => [[c]]
      | w :: ws => (c :: w) :: ws

/-- No marked character stands in a piece. -/
theorem split_clean {p : Char → Bool} {cs w : List Char} (hPiece : w ∈ split p cs) :
    ∀ c ∈ w, p c = false := by
  induction cs generalizing w with
  | nil =>
    obtain rfl := List.mem_singleton.mp hPiece
    intro c hMem
    cases hMem
  | cons d rest ih =>
    rw [split] at hPiece
    cases hMark : p d with
    | true =>
      rw [if_pos hMark] at hPiece
      rcases List.mem_cons.mp hPiece with rfl | hLater
      · intro c hMem
        cases hMem
      · exact ih hLater
    | false =>
      rw [if_neg (by simp [hMark])] at hPiece
      -- The first piece grows by this character; the others stay.
      cases hRest : split p rest with
      | nil =>
        rw [hRest] at hPiece
        obtain rfl := List.mem_singleton.mp hPiece
        intro c hMem
        rwa [List.mem_singleton.mp hMem]
      | cons first others =>
        rw [hRest] at hPiece ih
        rcases List.mem_cons.mp hPiece with rfl | hLater
        · intro c hMem
          rcases List.mem_cons.mp hMem with rfl | hOld
          · exact hMark
          · exact ih List.mem_cons_self c hOld
        · exact ih (List.mem_cons_of_mem first hLater)

/-- The maximal runs of characters that are no blanks, in order. -/
def words (cs : List Char) : List (List Char) :=
  (split isBlank cs).filter fun w => !w.isEmpty

theorem words_clean {cs w : List Char} (hWord : w ∈ words cs) : ∀ c ∈ w, isBlank c = false :=
  split_clean (List.mem_filter.mp hWord).1

/-- The pieces one after the other with `sep` between each two. -/
def join (sep : List Char) : List (List Char) → List Char
  | [] => []
  | [w] => w
  | w :: ws => w ++ sep ++ join sep ws

end PageReporter.Text
