import PageReporter.Proofs.CommandTable
import PageReporter.Proofs.ScriptRuns

/-!
# Command texts one behind the other

Two command texts with a space between them are one text, whose words are those of the first and
then those of the second. Its commands are so too, unless the first text ends with a verb that
lacks its argument: only such a verb reaches across the space. So the joined text runs as the first
one and then the second one on the page as the first has left it.

* `Text.words_append`, `Text.words_intercalate` — words of texts that are put together;
* `Command.ofTokens_append`, `Command.runAll_append` — commands, and how they run;
* `Script.Yields` — what every result of a script is like, whatever it is answered;
* `Command.runAll_yields` — an outcome tells whether its command lacked an argument;
* `Command.runText_append` — joined texts run one after the other.
-/

namespace PageReporter

/-! ## Words -/

namespace Text

/-- The pieces of a text are those of the library. -/
theorem split_eq_splitOnP (p : Char → Bool) (cs : List Char) : split p cs = cs.splitOnP p := by
  induction cs with
  | nil => rfl
  | cons c cs ih =>
    rw [split, ih, List.splitOnP_cons_eq_if_modifyHead]
    -- There is always a first piece, which the character is put in front of.
    obtain ⟨w, ws, hPieces⟩ := List.exists_cons_of_ne_nil (List.splitOnP_ne_nil p cs)
    rw [hPieces]
    rfl

theorem words_append {c : Char} (hBlank : isBlank c = true) (front back : List Char) :
    words (front ++ c :: back) = words front ++ words back := by
  simp only [words, split_eq_splitOnP, List.splitOnP_append_cons front back hBlank,
    List.filter_append]

/-- What a word is: something, and no blank in it. -/
def IsWord (w : List Char) : Prop :=
  w ≠ [] ∧ ∀ c ∈ w, isBlank c = false

theorem words_isWord {cs w : List Char} (hWord : w ∈ words cs) : IsWord w := by
  refine ⟨?_, words_clean hWord⟩
  simpa using (List.mem_filter.mp hWord).2

theorem words_word {w : List Char} (hWord : IsWord w) : words w = [w] := by
  rw [words, split_eq_splitOnP, List.splitOnP_eq_singleton hWord.2]
  simp [hWord.1]

/-- Words with a space between each two are found again. -/
theorem words_intercalate {ws : List (List Char)} (hWords : ∀ w ∈ ws, IsWord w) :
    words ([' '].intercalate ws) = ws := by
  induction ws with
  | nil => rfl
  | cons w ws ih =>
    obtain ⟨hFirst, hOthers⟩ := List.forall_mem_cons.mp hWords
    cases ws with
    | nil => rw [List.intercalate_singleton, words_word hFirst]
    | cons v vs =>
      rw [List.intercalate_cons_cons, List.append_assoc, List.singleton_append,
        words_append (by decide), words_word hFirst, ih hOthers, List.singleton_append]

end Text

/-! ## Results of scripts -/

namespace Script

variable {S : Signature} {α β : Type}

/-- Every result that a script comes to is of a kind, whatever it is answered. -/
def Yields (kind : α → Prop) : Script S α → Prop
  | .done (.ok a) => kind a
  | .done (.error _) => True
  | .ask _ next => ∀ answer, (next answer).Yields kind

namespace Yields

variable {first : α → Prop} {kind : β → Prop}

theorem bind {script : Script S α} {f : α → Script S β} (hFirst : script.Yields first)
    (hRest : ∀ a, first a → (f a).Yields kind) : (script.bind f).Yields kind := by
  induction script with
  | done result =>
    cases result with
    | ok a => exact hRest a hFirst
    | error e => trivial
  | ask op next ih => exact fun answer => ih answer (hFirst answer)

/-- Whatever a script comes to, if the rest does not care. -/
theorem after {script : Script S α} {f : α → Script S β} (hRest : ∀ a, (f a).Yields kind) :
    (script.bind f).Yields kind := by
  induction script with
  | done result =>
    cases result with
    | ok a => exact hRest a
    | error e => trivial
  | ask op next ih => exact fun answer => ih answer

theorem rescue {script : Script S β} {handle : Fault → Script S β} (hScript : script.Yields kind)
    (hHandled : ∀ e, (handle e).Yields kind) : (script.rescue handle).Yields kind := by
  induction script with
  | done result =>
    cases result with
    | ok b => exact hScript
    | error e => exact hHandled e
  | ask op next ih => exact fun answer => ih answer (hScript answer)

theorem rehearse {σ : Type} {click : String → σ → σ × Except Fault Unit}
    {kind : α → Prop} {script : Script Hand α} (hScript : script.Yields kind) {page after : σ}
    {ops : List Hand.Op} {a : α} (hRun : Hand.rehearse click script page = (ops, after, .ok a)) :
    kind a := by
  induction script generalizing page ops with
  | done result =>
    cases hRun
    exact hScript
  | ask op next ih =>
    obtain ⟨-, hRest⟩ := Prod.mk.inj hRun
    exact ih _ (hScript _) (Prod.ext rfl hRest)

end Yields

end Script

/-! ## Missing arguments -/

/-- The outcome of a verb that lacks its argument, by the reason that it gives. -/
def Outcome.lacksArgument (outcome : Outcome) : Bool :=
  outcome.reason = "wait command needs a time argument (e.g., 5s, 1000ms)." ||
    outcome.reason = "click command needs a selector argument."

namespace Command

/-- A verb that lacks its argument. -/
def lacksArgument : Command → Bool
  | .wait none => true
  | .click none => true
  | _ => false

/-- Every other reason begins with another letter. -/
theorem lacksArgument_of_head {outcome : Outcome} (hWait : outcome.reason.toList.head? ≠ some 'w')
    (hClick : outcome.reason.toList.head? ≠ some 'c') : outcome.lacksArgument = false := by
  simp only [Outcome.lacksArgument, Bool.or_eq_false_iff, decide_eq_false_iff_not]
  exact ⟨fun hReason => hWait (hReason ▸ rfl), fun hReason => hClick (hReason ▸ rfl)⟩

/-- An outcome tells whether its command lacked an argument. -/
theorem run_yields (command : Command) :
    (run command).Yields fun outcome => outcome.lacksArgument = command.lacksArgument := by
  have hSuccess : ∀ command, (Outcome.success command).lacksArgument = false := fun _ => rfl
  have hText : ∀ text : String, toString text = text := fun _ => rfl
  cases command with
  | unknown verb =>
    exact lacksArgument_of_head (by simp [Outcome.syntaxError, hText])
      (by simp [Outcome.syntaxError, hText])
  | wait arg =>
    cases arg with
    | none => rfl
    | some arg =>
      cases hParse : Delay.parse? arg with
      | error e =>
        simp only [run, hParse]
        trivial
      | ok delay? =>
        cases delay? with
        | none =>
          simp only [run, hParse]
          exact lacksArgument_of_head (by simp [Outcome.syntaxError, hText])
            (by simp [Outcome.syntaxError, hText])
        | some milliseconds =>
          rw [run_wait hParse]
          exact .after fun _ => .after fun _ => .after fun _ => .after fun _ => hSuccess _
  | click selector =>
    cases selector with
    | none => rfl
    | some selector =>
      refine .after fun _ => .rescue (.after fun _ => hSuccess _) fun e => ?_
      split
      · exact lacksArgument_of_head (by simp [Outcome.runtimeError, hText])
          (by simp [Outcome.runtimeError, hText])
      · trivial

/-- So do the outcomes of all commands, in order. -/
theorem runAll_yields (commands : List Command) :
    (runAll commands).Yields fun outcomes =>
      outcomes.map Outcome.lacksArgument = commands.map lacksArgument := by
  induction commands with
  | nil => rfl
  | cons command rest ih =>
    refine .bind (run_yields command) fun outcome hFirst => .after fun _ => ?_
    refine .bind ih fun outcomes hRest => ?_
    show (outcome :: outcomes).map Outcome.lacksArgument = (command :: rest).map lacksArgument
    rw [List.map_cons, List.map_cons, hFirst, hRest]

/-! ## Commands -/

/-- Commands that do not end with a verb that lacks its argument. -/
def Complete (commands : List Command) : Prop :=
  (commands.map lacksArgument).getLast? ≠ some true

theorem Complete.tail {command : Command} {rest : List Command}
    (hComplete : Complete (command :: rest)) : Complete rest := by
  cases rest with
  | nil => exact nofun
  | cons next others => exact hComplete

theorem ofTokens_unknown {verb : String} (hWait : verb ≠ "wait") (hClick : verb ≠ "click")
    (words : List String) : ofTokens (verb :: words) = .unknown verb :: ofTokens words := by
  cases words with
  | nil => simp only [ofTokens, if_neg hWait, if_neg hClick]
  | cons arg rest => rw [ofTokens, if_neg hWait, if_neg hClick]

/-- **Where commands come apart.** The boundary between two lists of words is one between commands,
unless the first list ends with a verb that takes the next word. -/
theorem ofTokens_append {front : List String} (hComplete : Complete (ofTokens front))
    (back : List String) : ofTokens (front ++ back) = ofTokens front ++ ofTokens back := by
  induction front using ofTokens.induct with
  | case1 => rfl
  | case2 => exact absurd rfl hComplete
  | case3 => exact absurd rfl hComplete
  | case4 verb hWait hClick =>
    rw [ofTokens_unknown hWait hClick, List.singleton_append, ofTokens_unknown hWait hClick]
    rfl
  | case5 arg rest ih =>
    rw [ofTokens, if_pos rfl] at hComplete
    rw [List.cons_append, List.cons_append, ofTokens, if_pos rfl, ofTokens, if_pos rfl,
      ih hComplete.tail, List.cons_append]
  | case6 arg rest hVerb ih =>
    rw [ofTokens, if_neg hVerb, if_pos rfl] at hComplete
    rw [List.cons_append, List.cons_append, ofTokens, if_neg hVerb, if_pos rfl, ofTokens,
      if_neg hVerb, if_pos rfl, ih hComplete.tail, List.cons_append]
  | case7 verb arg rest hWait hClick ih =>
    rw [ofTokens_unknown hWait hClick] at hComplete
    rw [List.cons_append, ofTokens_unknown hWait hClick, ofTokens_unknown hWait hClick,
      ih hComplete.tail, List.cons_append]

/-- Commands behind others run once those have run, and their outcomes come behind theirs. -/
theorem runAll_append (front back : List Command) :
    runAll (front ++ back) = (runAll front).bind fun outcomes =>
      (runAll back).bind fun others => .done (.ok (outcomes ++ others)) := by
  induction front with
  | nil => exact (Script.bind_done (runAll back)).symm
  | cons command rest ih =>
    simp only [List.cons_append, runAll, ih, Script.bind_assoc]
    rfl

/-! ## Texts -/

theorem tokens_append (first second : String) :
    tokens (first ++ " " ++ second) = tokens first ++ tokens second := by
  have hText : (first ++ " " ++ second).toList = first.toList ++ ' ' :: second.toList := by
    simp [String.toList_append]
  rw [tokens, hText, Text.words_append (by decide), List.map_append]
  rfl

theorem tokens_isWord {text word : String} (hWord : word ∈ tokens text) :
    Text.IsWord word.toList := by
  obtain ⟨cs, hMem, rfl⟩ := List.mem_map.mp hWord
  rw [String.toList_ofList]
  exact Text.words_isWord hMem

theorem tokens_intercalate {words : List String} (hWords : ∀ word ∈ words, Text.IsWord word.toList) :
    tokens (" ".intercalate words) = words := by
  have hLetters : ∀ w ∈ words.map String.toList, Text.IsWord w := List.forall_mem_map.mpr hWords
  have hJoined : (" ".intercalate words).toList = [' '].intercalate (words.map String.toList) :=
    String.toList_intercalate
  rw [tokens, hJoined, Text.words_intercalate hLetters, List.map_map]
  exact (List.map_congr_left fun word _ => String.ofList_toList).trans (List.map_id words)

/-- A text whose waits have delays of at most three hundred digits. -/
def ShortDelays (text : String) : Prop :=
  ∀ arg, .wait (some arg) ∈ ofTokens (tokens text) →
    ∀ digits unit, Delay.Spells arg digits unit → digits.length ≤ 300

theorem ShortDelays.modest {text : String} (hShort : ShortDelays text) :
    ∀ command ∈ ofTokens (tokens text), command.isExtreme = false := by
  intro command hMem
  cases command with
  | wait arg =>
    cases arg with
    | none => rfl
    | some arg =>
      have hWord := tokens_isWord (mem_of_wait_mem hMem)
      exact Delay.not_isExtreme (fun hFeed => nomatch hWord.2 '\n' hFeed) (hShort arg hMem)
  | click selector => rfl
  | unknown verb => rfl

/-- **Joined texts.** Whatever the page does, a text and another one with a space between them run
as the one and then the other on the page as the first has left it: the same lines, pauses and
clicks in the same order, and the same outcomes. Only a text that ends with a verb that lacks its
argument is excepted. Splitting a text into words is what makes it so: the words of joined texts are
those of both, words are never empty and hold no blank, and words that are joined by spaces are
found again. -/
theorem runText_append (first second : String) :
    (∀ {σ : Type} {click : String → σ → σ × Except Fault Unit},
      (∀ selector page e, (click selector page).2 = .error e → e.isOrdinary = true) →
      ShortDelays first → ShortDelays second → ∀ page : σ,
      ∃ ops after outcomes more final others,
        Hand.rehearse click (runText first) page = (ops, after, .ok outcomes) ∧
        Hand.rehearse click (runText second) after = (more, final, .ok others) ∧
        ((∀ outcome, outcomes.getLast? = some outcome → outcome.lacksArgument = false) →
          Hand.rehearse click (runText (first ++ " " ++ second)) page =
            (ops ++ more, final, .ok (outcomes ++ others)))) ∧
    tokens (first ++ " " ++ second) = tokens first ++ tokens second ∧
    (∀ word ∈ tokens first, Text.IsWord word.toList) ∧
    ∀ words : List String, (∀ word ∈ words, Text.IsWord word.toList) →
      tokens (" ".intercalate words) = words := by
  refine ⟨fun hOrdinary hFirst hSecond page => ?_, tokens_append first second,
    fun word => tokens_isWord, fun words => tokens_intercalate⟩
  obtain ⟨ops, after, outcomes, hRunFirst, -⟩ := runAll_modest hOrdinary hFirst.modest page
  obtain ⟨more, final, others, hRunSecond, -⟩ := runAll_modest hOrdinary hSecond.modest after
  refine ⟨ops, after, outcomes, more, final, others, hRunFirst, hRunSecond, fun hLast => ?_⟩
  -- The outcomes tell that the first text does not end with a verb that lacks its argument.
  have hComplete : Complete (ofTokens (tokens first)) := by
    rw [Complete, ← (runAll_yields _).rehearse hRunFirst, List.getLast?_map]
    intro hLacks
    obtain ⟨outcome, hOutcome, hMissing⟩ := Option.map_eq_some_iff.mp hLacks
    cases (hLast outcome hOutcome).symm.trans hMissing
  rw [runText, tokens_append, ofTokens_append hComplete, runAll_append,
    Hand.rehearse_bind_ok hRunFirst, Hand.rehearse_bind_ok hRunSecond]
  simp [Hand.rehearse]

/-- The first text ends with a verb, which is the selector of a click and so lacks nothing. -/
theorem runText_append_verb_as_selector :
    ∃ more others,
      Hand.rehearse (fun _ page => (page + 1, .ok ())) (runText ("click wait" ++ " " ++ "wait 2s"))
        (0 : Nat) = ([.print (.out, "[click] wait"), .click "wait"] ++ more, 1,
          .ok (.success (.click (some "wait")) :: others)) ∧
      tokens ("click wait" ++ " " ++ "wait 2s") = ["click", "wait", "wait", "2s"] := by
  have hFront : tokens "click wait" = ["click", "wait"] := by cbv
  have hBack : tokens "wait 2s" = ["wait", "2s"] := by cbv
  have hFirst : ShortDelays "click wait" := by
    intro arg hMem
    rw [hFront] at hMem
    simp [ofTokens] at hMem
  have hSecond : ShortDelays "wait 2s" := by
    intro arg hMem digits unit hSpells
    have hArg : arg = "2s" := by
      rw [hBack] at hMem
      simpa [ofTokens] using hMem
    have hLength := congrArg List.length hSpells.letters
    rw [hArg, List.length_append, show ("2s".toList).length = 2 by cbv] at hLength
    omega
  obtain ⟨hRuns, hTokens, -⟩ := runText_append "click wait" "wait 2s"
  obtain ⟨ops, after, outcomes, more, final, others, hRunFirst, hRunSecond, hJoined⟩ :=
    @hRuns Nat (fun _ page => (page + 1, .ok ())) (by simp) hFirst hSecond 0
  -- One click, which moves the page on; waiting leaves it where it is.
  have hClick : Hand.rehearse (fun _ page => (page + 1, .ok ())) (runText "click wait") (0 : Nat) =
      ([.print (.out, "[click] wait"), .click "wait"], 1, .ok [.success (.click (some "wait"))]) := by
    rw [runText, hFront]
    rfl
  cases hClick.symm.trans hRunFirst
  have hPage : final = 1 := by
    have hMem : .wait (some "2s") ∈ ofTokens (tokens "wait 2s") := by
      rw [hBack]
      simp [ofTokens]
    have hModest : Delay.isExtreme "2s" = false := hSecond.modest (.wait (some "2s")) hMem
    obtain ⟨waits, outcome, hWait, -⟩ :=
      run_wait_modest (fun _ page => (page + 1, .ok ())) hModest (1 : Nat)
    have hAll : runText "wait 2s" = runAll [.wait (some "2s")] := by rw [runText, hBack]; rfl
    rw [hAll, runAll_cons hWait] at hRunSecond
    exact (congrArg (fun r => r.2.1) hRunSecond).symm
  subst hPage
  refine ⟨more, others, hJoined fun outcome hLast => ?_, ?_⟩
  · cases hLast
    rfl
  · rw [hTokens, hFront, hBack]
    rfl

end Command

end PageReporter
