import Mathlib
import PageReporter.Browser.Launch
import PageReporter.Proofs.ScriptRuns
import PageReporter.Proofs.WrittenNumbers

/-!
# The port file while it is written

The browser writes its port and the path of its socket into a file, each with a line end behind it,
and the file is looked at in between. What a look finds is nothing, or the bytes that have been
written so far. The wait for the address ends with the first look that finds a line end behind the
port and any character behind that one: a line counts before its end is written. So what is
returned is the port with the beginning of the path that this look has found.

* `Text.ofUtf8?_part` — the beginning of a text, byte by byte, is no text or a beginning of it;
* `Text.lines_line`, `Text.lines_append` — where lines begin and end;
* `Port.Tells` — what a look has to find for an address to be taken from it, and which path;
* `Port.address?_written` — the address that is taken from what is written so far;
* `Port.Writes` — surroundings in which the file is being written;
* `Port.Found` — how a wait has ended, and what its looks have found;
* `Browser.awaitSocket_path` — the address that a wait ends with.
-/

namespace PageReporter

namespace Text

/-! ## The beginning of a text -/

theorem ofUtf8?_toUTF8 (text : String) : ofUtf8? text.toUTF8 = some text :=
  dif_pos text.isValidUTF8

theorem toUTF8_of_ofUtf8? {bytes : ByteArray} {text : String} (hText : ofUtf8? bytes = some text) :
    text.toUTF8 = bytes := by
  unfold ofUtf8? String.fromUTF8? at hText
  split at hText
  · exact congrArg String.toUTF8 (Option.some.inj hText).symm
  · cases hText

/-- What follows a text in another one is a text as well. -/
theorem isValidUTF8_of_append {cs : List Char} {rest : ByteArray}
    (hValid : (cs.utf8Encode ++ rest).IsValidUTF8) : rest.IsValidUTF8 := by
  induction cs with
  | nil => rwa [List.utf8Encode_nil, ByteArray.empty_append] at hValid
  | cons c cs ih =>
    rw [← List.singleton_append, List.utf8Encode_append, ByteArray.append_assoc,
      ByteArray.isValidUTF8_utf8Encode_singleton_append_iff] at hValid
    exact ih hValid

/-- Bytes that a text begins with are no text, if they end within a character, or hold the
characters that it begins with. -/
theorem ofUtf8?_part {whole text : String} {bytes rest : ByteArray}
    (hWhole : bytes ++ rest = whole.toUTF8) (hText : ofUtf8? bytes = some text) :
    text.toList <+: whole.toList := by
  have hSplit : text.toList.utf8Encode ++ rest = whole.toUTF8 := by
    rw [← hWhole, ← toUTF8_of_ofUtf8? hText, ← String.toByteArray_ofList, String.ofList_toList]
    rfl
  have hValid : (text.toList.utf8Encode ++ rest).IsValidUTF8 := hSplit ▸ whole.isValidUTF8
  -- So the rest is made of characters too, and the encoding of both tells them apart.
  obtain ⟨others, rfl⟩ := isValidUTF8_of_append hValid
  have hEqual : String.ofList (text.toList ++ others) = whole := by
    rw [← String.toByteArray_inj, String.toByteArray_ofList, List.utf8Encode_append, hSplit]
    rfl
  exact ⟨others, by rw [← hEqual, String.toList_ofList]⟩

/-! ## Lines -/

theorem isLineEnd_of_isBlank {c : Char} (hBlank : isBlank c = false) : isLineEnd c = false := by
  simp only [isBlank, isLineEnd, Bool.and_eq_false_iff, Bool.or_eq_false_iff,
    decide_eq_false_iff_not, beq_eq_false_iff_ne] at hBlank ⊢
  omega

theorem unifyLineEnds_clean {cs : List Char} (hClean : ∀ c ∈ cs, c ≠ '\r') :
    unifyLineEnds cs = cs := by
  induction cs with
  | nil => rfl
  | cons c cs ih =>
    obtain ⟨hFirst, hOthers⟩ := List.forall_mem_cons.mp hClean
    rw [unifyLineEnds.eq_4 _ _ (fun _ hReturn _ => hFirst hReturn) hFirst, ih hOthers]

/-- What stands in front of a line end is a line. -/
theorem lines_append {cs : List Char} (hClean : ∀ c ∈ cs, isLineEnd c = false) (rest : List Char) :
    lines (cs ++ '\n' :: rest) = cs :: lines rest := by
  induction cs with
  | nil => rfl
  | cons c cs ih =>
    obtain ⟨hFirst, hOthers⟩ := List.forall_mem_cons.mp hClean
    -- A carriage return with its line feed is read as one end, but none stands here.
    have hReturn : ∀ ds, c = '\r' → cs ++ '\n' :: rest = '\n' :: ds → False := by
      rintro _ rfl
      cases hFirst
    rw [List.cons_append, lines.eq_3 _ _ hReturn, hFirst, ih hOthers]
    rfl

/-- The last line counts without its end, unless it is empty. -/
theorem lines_line {cs : List Char} (hClean : ∀ c ∈ cs, isLineEnd c = false) (hSome : cs ≠ []) :
    lines cs = [cs] := by
  induction cs with
  | nil => exact absurd rfl hSome
  | cons c cs ih =>
    obtain ⟨hFirst, hOthers⟩ := List.forall_mem_cons.mp hClean
    have hReturn : ∀ ds, c = '\r' → cs = '\n' :: ds → False := by
      rintro _ rfl
      cases hFirst
    rw [lines.eq_3 _ _ hReturn, hFirst]
    cases cs with
    | nil => rfl
    | cons d ds =>
      rw [ih hOthers (List.cons_ne_nil d ds)]
      rfl

end Text

namespace Port

/-! ## What a look tells -/

/-- What the browser writes: its port and the path of its socket, each on a line. -/
def fileText (port path : List Char) : String :=
  String.ofList (port ++ '\n' :: (path ++ ['\n']))

/-- The address of a socket. -/
def address (port path : List Char) : String :=
  String.ofList ("ws://127.0.0.1:".toList ++ port ++ path)

/-- A look that an address is taken from has found the port with its line end, and some of the path
behind it, which may be all of it and may have its line end too. -/
inductive Tells (port path : List Char) : Option ByteArray → List Char → Prop
  | part {part : List Char} (hSome : part ≠ []) (hPart : part <+: path) :
      Tells port path (some (String.ofList (port ++ '\n' :: part)).toUTF8) part
  | whole : Tells port path (some (fileText port path).toUTF8) path

/-- A look finds nothing of a text, or the bytes that it begins with. -/
def Begun (text : String) : Option ByteArray → Prop
  | none => True
  | some bytes => ∃ rest, bytes ++ rest = text.toUTF8

theorem begun_of_part {part text : List Char} (hPart : part <+: text) :
    Begun (String.ofList text) (some (String.ofList part).toUTF8) := by
  obtain ⟨others, rfl⟩ := hPart
  refine ⟨(String.ofList others).toUTF8, ?_⟩
  rw [String.ofList_append]
  exact String.toByteArray_append.symm

/-- A port in decimal digits, and a path without white space. -/
structure Names (port path : List Char) : Prop where
  port_ne : port ≠ []
  digits : ∀ c ∈ port, Text.isAsciiDigit c = true
  unblank : ∀ c ∈ path, Text.isBlank c = false

variable {port path : List Char}

namespace Names

theorem port_unblank (hNames : Names port path) : ∀ c ∈ port, Text.isBlank c = false :=
  fun c hMem => Text.isBlank_ascii (hNames.digits c hMem)

theorem port_line (hNames : Names port path) : ∀ c ∈ port, Text.isLineEnd c = false :=
  fun c hMem => Text.isLineEnd_of_isBlank (hNames.port_unblank c hMem)

theorem path_line (hNames : Names port path) : ∀ c ∈ path, Text.isLineEnd c = false :=
  fun c hMem => Text.isLineEnd_of_isBlank (hNames.unblank c hMem)

theorem of_part (hNames : Names port path) {part : List Char} (hPart : part <+: path) :
    Names port part :=
  ⟨hNames.port_ne, hNames.digits, fun c hMem => hNames.unblank c (hPart.subset hMem)⟩

/-- Two lines tell the address. -/
theorem ofLines?_eq (hNames : Names port path) :
    ofLines? [port, path] = some ("ws://127.0.0.1:".toList ++ port ++ path) := by
  have hSome : port.isEmpty = false := by simpa using hNames.port_ne
  have hDigits : port.all Text.isDigit = true := List.all_eq_true.mpr fun c hMem => by
    rw [Text.isDigit, Text.digitValue?_ascii (hNames.digits c hMem)]
    rfl
  simp only [ofLines?, Text.trim, Text.trimWhere_unmarked hNames.port_unblank,
    Text.trimWhere_unmarked hNames.unblank, hSome, hDigits]
  rfl

end Names

/-- Of what is written so far, the lines are read as they stand there: nothing but line feeds ends
any of them. -/
theorem address?_part (hNames : Names port path) {text : List Char}
    (hPart : text <+: port ++ '\n' :: (path ++ ['\n'])) :
    address? (some (String.ofList text).toUTF8) =
      .ok ((ofLines? (Text.lines text)).map String.ofList) := by
  have hClean : ∀ c ∈ text, c ≠ '\r' := by
    rintro c hMem rfl
    have hWritten := hPart.subset hMem
    simp only [List.mem_append, List.mem_cons, List.not_mem_nil, or_false] at hWritten
    rcases hWritten with hPort | hFeed | hPath | hFeed
    · cases hNames.port_unblank _ hPort
    · cases hFeed
    · cases hNames.unblank _ hPath
    · cases hFeed
  simp only [address?, Text.ofUtf8?_toUTF8, String.toList_ofList, Text.unifyLineEnds_clean hClean]

/-- Where a look tells an address, that one is taken from it. -/
theorem Tells.address?_eq (hNames : Names port path) {content : Option ByteArray}
    {part : List Char} (hTells : Tells port path content part) :
    address? content = .ok (some (address port part)) := by
  cases hTells with
  | part hSome hPart =>
    have hPartNames := hNames.of_part hPart
    obtain ⟨others, rfl⟩ := hPart
    rw [address?_part hNames ⟨others ++ ['\n'], by simp⟩, Text.lines_append hNames.port_line,
      Text.lines_line hPartNames.path_line hSome, hPartNames.ofLines?_eq]
    rfl
  | whole =>
    rw [fileText, address?_part hNames List.prefix_rfl, Text.lines_append hNames.port_line,
      Text.lines_append hNames.path_line, Text.lines, hNames.ofLines?_eq]
    rfl

/-- How far the file may have been written: not beyond the port, up to its line end, into the path,
or to the end. -/
theorem part_cases {text : List Char} (hPart : text <+: port ++ '\n' :: (path ++ ['\n'])) :
    text <+: port ∨ text = port ++ ['\n'] ∨
      (∃ part, part ≠ [] ∧ part <+: path ∧ text = port ++ '\n' :: part) ∨
      text = port ++ '\n' :: (path ++ ['\n']) := by
  obtain ⟨others, hOthers⟩ := hPart
  -- The text ends within the port, or what is behind the port begins with the line end.
  rcases List.append_eq_append_iff.mp hOthers with ⟨more, hPort, -⟩ | ⟨behind, rfl, hBehind⟩
  · exact .inl ⟨more, hPort.symm⟩
  · rcases List.prefix_cons_iff.mp ⟨others, hBehind.symm⟩ with rfl | ⟨part, rfl, hPart⟩
    · exact .inl (by rw [List.append_nil])
    · by_cases hSome : part = []
      · exact .inr (.inl (by rw [hSome]))
      · rcases List.prefix_concat_iff.mp hPart with rfl | hPath
        · exact .inr (.inr (.inr rfl))
        · exact .inr (.inr (.inl ⟨part, hSome, hPath, rfl⟩))

/-- What a look finds of the file either tells an address or has none taken from it. -/
theorem address?_written (hNames : Names port path) {content : Option ByteArray}
    (hBegun : Begun (fileText port path) content) :
    (∃ part, Tells port path content part) ∨ address? content = .ok none ∨
      address? content = .error .badEncoding := by
  cases content with
  | none => exact .inr (.inl rfl)
  | some bytes =>
    cases hRead : Text.ofUtf8? bytes with
    | none => exact .inr (.inr (by simp only [address?, hRead]))
    | some text =>
      obtain ⟨rest, hWhole⟩ := hBegun
      have hPart := Text.ofUtf8?_part hWhole hRead
      rw [fileText, String.toList_ofList] at hPart
      obtain rfl := Text.toUTF8_of_ofUtf8? hRead
      generalize hChars : text.toList = cs at hPart
      obtain rfl : String.ofList cs = text := by rw [← hChars, String.ofList_toList]
      have hAddress := address?_part hNames hPart
      -- Up to the line end of the port there is one line at most, and an address takes two.
      rcases part_cases hPart with hShort | rfl | ⟨part, hSome, hPath, rfl⟩ | rfl
      · by_cases hNone : cs = []
        · exact .inr (.inl (by rw [hAddress, hNone]; rfl))
        · have hClean : ∀ c ∈ cs, Text.isLineEnd c = false :=
            fun c hMem => hNames.port_line c (hShort.subset hMem)
          exact .inr (.inl (by rw [hAddress, Text.lines_line hClean hNone]; rfl))
      · exact .inr (.inl (by rw [hAddress, Text.lines_append hNames.port_line]; rfl))
      · exact .inl ⟨part, .part hSome hPath⟩
      · exact .inl ⟨path, .whole⟩

/-! ## Looking while the file is written -/

/-- A look that an address is not taken from. -/
def Silent (port path : List Char) (content : Option ByteArray) : Prop :=
  ∀ part, ¬ Tells port path content part

theorem silent_of_untold (hNames : Names port path) {content : Option ByteArray}
    (hUntold : ∀ found, address? content ≠ .ok (some found)) : Silent port path content :=
  fun _ hTells => hUntold _ (hTells.address?_eq hNames)

/-- An address that is taken from a look names its port and as much of the path as it has found. -/
theorem tells_iff (hNames : Names port path) {content : Option ByteArray} {found part : List Char}
    (hFound : Tells port path content found) : Tells port path content part ↔ part = found := by
  refine ⟨fun hPart => ?_, fun hEqual => hEqual ▸ hFound⟩
  have hSame := (hPart.address?_eq hNames).symm.trans (hFound.address?_eq hNames)
  exact List.append_cancel_left (String.ofList_injective (Option.some.inj (Except.ok.inj hSame)))

/-- Surroundings in which the file is being written: a look finds nothing or the beginning of what
is written, however much that is by then. Everything else is answered in any way. They remember
what the looks have found. -/
inductive Writes (text : String) : List (Option ByteArray) → (op : Host.Op) →
    Except Fault (Host.Answer op) → List (Option ByteArray) → Prop
  | look {seen : List (Option ByteArray)} {content : Option ByteArray}
      (hBegun : Begun text content) : Writes text seen .portFile (.ok content) (seen ++ [content])
  | other {seen : List (Option ByteArray)} {op : Host.Op} {answer : Except Fault (Host.Answer op)}
      (hOther : op ≠ .portFile) : Writes text seen op answer seen

theorem Writes.same {text : String} {seen after : List (Option ByteArray)} {op : Host.Op}
    {answer : Except Fault (Host.Answer op)} (hWrites : Writes text seen op answer after)
    (hOther : op ≠ .portFile) : after = seen := by
  cases hWrites with
  | look => exact absurd rfl hOther
  | other => rfl

theorem Writes.looked {text : String} {seen after : List (Option ByteArray)}
    {answer : Except Fault (Option ByteArray)} (hWrites : Writes text seen .portFile answer after) :
    ∃ content, answer = .ok content ∧ Begun text content ∧ after = seen ++ [content] := by
  cases hWrites with
  | look hBegun => exact ⟨_, rfl, hBegun, rfl⟩
  | other hOther => exact absurd rfl hOther

/-- How a wait has ended, and what its looks have found: the last one told the address that the wait
has come to, or none told any and the wait was in vain. -/
inductive Found (port path : List Char) : List (Option ByteArray) → Except Fault String → Prop
  | told {before : List (Option ByteArray)} {content : Option ByteArray} {part : List Char}
      (hBefore : ∀ earlier ∈ before, Silent port path earlier)
      (hTells : Tells port path content part) :
      Found port path (before ++ [content]) (.ok (address port part))
  | vain {looks : List (Option ByteArray)} {e : Fault}
      (hSilent : ∀ content ∈ looks, Silent port path content) : Found port path looks (.error e)

end Port

namespace Browser

open Port Script

variable {port path : List Char}

theorem timedOut_found {timeout : Value} {seen looks : List (Option ByteArray)}
    {trace : List Host.Exchange} {result : Except Fault String}
    (hSilent : ∀ content ∈ seen, Silent port path content)
    (hRuns : Runs (Writes (fileText port path)) (look.timedOut timeout) seen trace result looks) :
    Found port path looks result := by
  rcases hRuns.bind with ⟨_, _, _, _, rfl, hLimit, hThrown⟩ | ⟨e, rfl, hLimit⟩
  · obtain ⟨-, -, rfl⟩ := hLimit.ofDone
    obtain ⟨-, rfl, rfl⟩ := hThrown.ofDone
    exact .vain hSilent
  · obtain ⟨-, -, rfl⟩ := hLimit.ofDone
    exact .vain hSilent

/-- The looks of a wait. What carries the induction over them is that none so far has told an
address. -/
theorem look_found (hNames : Names port path) {timeout : Value} {due : Double} {fuel : ℕ}
    {seen looks : List (Option ByteArray)} {trace : List Host.Exchange}
    {result : Except Fault String} (hSilent : ∀ content ∈ seen, Silent port path content)
    (hRuns : Runs (Writes (fileText port path)) (look timeout due fuel) seen trace result looks) :
    Found port path looks result := by
  induction fuel generalizing seen trace with
  | zero => exact timedOut_found hSilent hRuns
  | succ fuel ih =>
    -- The time, the process and the file are asked for in turn; a fault of any ends the wait.
    obtain ⟨time, mid, _, -, hNow, hTimed⟩ | ⟨e, rfl, -, hNow⟩ := Runs.perform_bind hRuns
    case inr => exact hNow.same nofun ▸ .vain hSilent
    obtain rfl := hNow.same nofun
    split at hTimed
    · exact timedOut_found hSilent hTimed
    obtain ⟨code, mid, _, -, hCode, hRunning⟩ | ⟨e, rfl, -, hCode⟩ := Runs.perform_bind hTimed
    case inr => exact hCode.same nofun ▸ .vain hSilent
    obtain rfl := hCode.same nofun
    cases code with
    | some code =>
      obtain ⟨-, rfl, rfl⟩ := hRunning.ofDone
      exact .vain hSilent
    | none =>
      obtain ⟨answer, _, _, -, hLook, hRead⟩ := Runs.asked hRunning
      obtain ⟨content, rfl, hBegun, rfl⟩ := hLook.looked
      change Runs _ ((Script.ofExcept (address? content)).bind _) _ _ _ _ at hRead
      rcases address?_written hNames hBegun with ⟨part, hTells⟩ | hTold
      · rw [hTells.address?_eq hNames] at hRead
        obtain ⟨-, rfl, rfl⟩ := hRead.ofDone
        exact .told hSilent hTells
      · -- This look told nothing either, so the wait goes on with one more such look behind it.
        have hNothing : Silent port path content := silent_of_untold hNames fun found hFound => by
          rcases hTold with hNone | hFault
          · cases hNone.symm.trans hFound
          · cases hFault.symm.trans hFound
        have hStill : ∀ earlier ∈ mid ++ [content], Silent port path earlier :=
          List.forall_mem_append.mpr ⟨hSilent, List.forall_mem_singleton.mpr hNothing⟩
        rcases hTold with hNone | hFault
        · rw [hNone] at hRead
          rcases Runs.perform_bind hRead with
            ⟨_, later, _, -, hSlept, hMore⟩ | ⟨e, rfl, -, hSlept⟩
          · exact ih (hSlept.same nofun ▸ hStill) hMore
          · exact hSlept.same nofun ▸ .vain hStill
        · rw [hFault] at hRead
          obtain ⟨-, rfl, rfl⟩ := hRead.ofDone
          exact .vain hStill

/-- **The address that a wait ends with.** While the port and the path are being written, a wait
ends in vain, or with the address that its last look is the first to tell: the port, and as much of
the path as this look has found behind the line end of the port. So the address has the whole path
exactly if the last look has found all of it, and it does not take the line end behind the path for
a look to tell an address. -/
theorem awaitSocket_path (hNames : Names port path) {timeout : Value}
    {trace : List Host.Exchange} {result : Except Fault String} {looks : List (Option ByteArray)}
    (hRuns : Runs (Writes (fileText port path)) (awaitSocket timeout) [] trace result looks) :
    Found port path looks result ∧
      (result = .ok (address port path) ↔
        ∃ before content, looks = before ++ [content] ∧ Tells port path content path) := by
  have hFound : Found port path looks result := by
    obtain ⟨start, mid, _, -, hNow, hStarted⟩ | ⟨e, rfl, -, hNow⟩ := Runs.perform_bind hRuns
    case inr => exact hNow.same nofun ▸ .vain (List.forall_mem_nil _)
    obtain rfl := hNow.same nofun
    rcases hStarted.bind with ⟨_, _, due, _, -, hDue, hLooks⟩ | ⟨e, rfl, hDue⟩
    · obtain ⟨-, -, rfl⟩ := hDue.ofDone
      exact look_found hNames (List.forall_mem_nil _) hLooks
    · obtain ⟨-, -, rfl⟩ := hDue.ofDone
      exact .vain (List.forall_mem_nil _)
  refine ⟨hFound, ?_⟩
  cases hFound with
  | told hBefore hTells =>
    refine ⟨fun hWhole => ?_, fun ⟨before, content, hLooks, hPath⟩ => ?_⟩
    · have hSame := String.ofList_injective (Except.ok.inj hWhole)
      exact ⟨_, _, rfl, List.append_cancel_left hSame ▸ hTells⟩
    · obtain ⟨-, hLast⟩ := List.append_inj' hLooks rfl
      obtain rfl := List.singleton_inj.mp hLast
      rw [(tells_iff hNames hTells).mp hPath]
  | vain hSilent =>
    refine ⟨nofun, fun ⟨before, content, hLooks, hPath⟩ => ?_⟩
    exact absurd hPath (hSilent content (hLooks ▸ List.mem_concat_self) path)

/-- The first look finds no file, and the second one the first few characters of the path. -/
theorem awaitSocket_path_cut :
    let port := ['9', '2', '2', '2']
    let path := ['/', 'd', 'e', 'v', 't', 'o', 'o', 'l', 's']
    let cut := some "9222\n/dev".toUTF8
    ∃ trace, Names port path ∧
      Runs (Writes (fileText port path)) (awaitSocket (.double 30)) [] trace
        (.ok "ws://127.0.0.1:9222/dev") [none, cut] ∧
      Found port path [none, cut] (.ok "ws://127.0.0.1:9222/dev") ∧
      ¬ ∃ before content, [none, cut] = before ++ [content] ∧ Tells port path content path := by
  intro port path cut
  have hNames : Names port path :=
    ⟨by decide, by simp [port, Text.isAsciiDigit], by simp [path, Text.isBlank]⟩
  have hTells : Tells port path cut ['/', 'd', 'e', 'v'] := .part (by decide) (by decide)
  let trace : List Host.Exchange := [⟨.now, .ok Double.zero⟩, ⟨.now, .ok Double.zero⟩,
    ⟨.exitCode, .ok none⟩, ⟨.portFile, .ok none⟩,
    ⟨.sleep (.double (Double.ofRatio false 1 10)), .ok ()⟩, ⟨.now, .ok Double.zero⟩,
    ⟨.exitCode, .ok none⟩, ⟨.portFile, .ok cut⟩]
  have hEarly : ∀ x : Double, Double.zero.lt (Double.zero + x) = true →
      Runs (Writes (fileText port path)) (awaitSocket (.double x)) [] trace
        (.ok "ws://127.0.0.1:9222/dev") [none, cut] := by
    intro x hTime
    refine .ask (.other (by simp)) (.ask (.other (by simp)) ?_)
    show Runs _ (if !Double.zero.lt (Double.zero + x) then _ else _ : Script Host String) _ _ _ _
    rw [hTime]
    refine .ask (.other (by simp)) (.ask (.look trivial) ?_)
    refine .ask (.other (by simp)) (.ask (.other (by simp)) ?_)
    show Runs _ (if !Double.zero.lt (Double.zero + x) then _ else _ : Script Host String) _ _ _ _
    rw [hTime]
    refine .ask (.other (by simp)) (.ask (.look (begun_of_part (by decide))) ?_)
    rw [Script.bind, hTells.address?_eq hNames]
    exact .done
  have hRuns := hEarly 30 (by decide +kernel)
  obtain ⟨hFound, hWhole⟩ := awaitSocket_path hNames hRuns
  refine ⟨_, hNames, hRuns, hFound, fun hTold => ?_⟩
  have hDifferent : "ws://127.0.0.1:9222/dev" ≠ address port path := by decide
  exact hDifferent (Except.ok.inj (hWhole.mpr hTold))

end Browser

end PageReporter
