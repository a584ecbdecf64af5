import GroovyRounds.Proofs.Compiler.Listeners
import GroovyRounds.Proofs.Compiler.Reported
import GroovyRounds.Proofs.Text.Numeral
import Mathlib.Algebra.Group.Int.Defs

/-!
# Findings of a compiler

What a compiler finds, files it made and diagnostics, is written line by line
and comes back as it was, whatever the text of a diagnostic holds
(`readAll_findings`). Only a position with more digits than may be read is lost
(`readAll_heard`).
-/

namespace GroovyRounds

namespace CompilerOutput

-- ---------------------------------------------------------------------------
-- Fields of a diagnostic
-- ---------------------------------------------------------------------------

/-- Writes each line feed as a backslash and `n`. -/
def escapeLineFeeds (cs : List Char) : List Char :=
  cs.flatMap fun c => if c = '\n' then ['\\', 'n'] else [c]

def sourceField : Option String → List Char
  | none => ['-']
  | some source => source.toList

def positionField : Option Int → List Char
  | none => ['0']
  | some n => (toString n).toList

/-- A position that has not more digits than a numeral may have. -/
def isReadable (position : Int) : Bool :=
  position < 10 ^ Text.digitLimit

theorem head_of_head_escapeLineFeeds {cs : List Char}
    (h : (escapeLineFeeds cs).head? = some 'n') : cs.head? = some 'n' := by
  cases cs with
  | nil => exact h
  | cons c cs =>
    rw [escapeLineFeeds, List.flatMap_cons] at h
    split at h
    · cases h
    · exact h

theorem unescapeLineFeeds_cons {c : Char} {cs : List Char} (h : c = '\\' → cs.head? ≠ some 'n') :
    unescapeLineFeeds (c :: cs) = c :: unescapeLineFeeds cs := by
  rw [unescapeLineFeeds]
  rintro rest rfl rfl
  exact h rfl rfl

/-- A text without a written line feed comes back from its writing. -/
theorem unescape_escapeLineFeeds {cs : List Char} (h : ¬ ['\\', 'n'] <:+: cs) :
    unescapeLineFeeds (escapeLineFeeds cs) = cs := by
  induction cs with
  | nil => rfl
  | cons c cs ih =>
    have hrest : unescapeLineFeeds (escapeLineFeeds cs) = cs :=
      ih fun hwritten => h (hwritten.trans (List.suffix_cons c cs).isInfix)
    have hcons : escapeLineFeeds (c :: cs) =
        (if c = '\n' then ['\\', 'n'] else [c]) ++ escapeLineFeeds cs := List.flatMap_cons
    rw [hcons]
    by_cases hfeed : c = '\n'
    · rw [if_pos hfeed, hfeed]
      exact congrArg ('\n' :: ·) hrest
    · rw [if_neg hfeed, List.singleton_append, unescapeLineFeeds_cons, hrest]
      rintro rfl hhead
      obtain ⟨rest, rfl⟩ := List.head?_eq_some_iff.mp (head_of_head_escapeLineFeeds hhead)
      exact h (List.prefix_append ['\\', 'n'] rest).isInfix

theorem positionField_natCast (m : Nat) : positionField (some (m : Int)) = Nat.toDigits 10 m := by
  rw [positionField, show toString (m : Int) = m.repr from rfl, Nat.toList_repr]

theorem isReadable_natCast (m : Nat) : isReadable m = decide (m < 10 ^ Text.digitLimit) := by
  rw [isReadable, decide_eq_decide, ← Int.ofNat_lt, Int.natCast_pow]
  rfl

theorem isReadable_of_le {m : Nat} (h : m ≤ Text.digitLimit) : isReadable m = true := by
  rw [isReadable_natCast]
  exact decide_eq_true (Nat.lt_of_le_of_lt h (Nat.lt_pow_self (by decide)))

section
variable {n : Option Int} (h : ∀ k ∈ n, 0 < k)
include h

/-- A position is read unless it has too many digits, and then there is none. -/
theorem position?_positionField : position? (positionField n) = n.filter isReadable := by
  cases n with
  | none => rfl
  | some k =>
    have hpos : 0 < k := h k rfl
    obtain ⟨m, rfl⟩ := Int.eq_ofNat_of_zero_le (Int.le_of_lt hpos)
    rw [positionField_natCast, position?, Text.readInteger_toDigits, Option.filter_some,
      isReadable_natCast]
    by_cases hshort : m < 10 ^ Text.digitLimit
    · simp only [if_pos hshort, if_pos hpos, decide_eq_true hshort, if_true]
    · simp only [if_neg hshort, decide_eq_false hshort, Bool.false_eq_true, if_false]

theorem isDigit_of_mem_positionField {c : Char} (hc : c ∈ positionField n) : c.isDigit = true := by
  cases n with
  | none =>
    rw [positionField, List.mem_singleton] at hc
    rw [hc]
    rfl
  | some k =>
    obtain ⟨m, rfl⟩ := Int.eq_ofNat_of_zero_le (Int.le_of_lt (h k rfl))
    rw [positionField_natCast] at hc
    exact Nat.isDigit_of_mem_toDigits (by decide) (by decide) hc

end

theorem mem_of_mem_escapeLineFeeds {c : Char} {cs : List Char} (h : c ∈ escapeLineFeeds cs) :
    c = '\\' ∨ c = 'n' ∨ c ≠ '\n' ∧ c ∈ cs := by
  obtain ⟨d, hd, hc⟩ := List.mem_flatMap.mp h
  split at hc
  · rw [List.mem_cons, List.mem_singleton] at hc
    exact hc.imp_right .inl
  · rename_i hfeed
    rw [List.mem_singleton] at hc
    subst hc
    exact .inr (.inr ⟨hfeed, hd⟩)

end CompilerOutput

namespace Message

open CompilerOutput

/-- The line of a diagnostic after its marker. -/
def payload (message : Message) : List Char :=
  message.kind.word.toList ++ '\t' :: (sourceField message.source ++
    '\t' :: (positionField message.line ++ '\t' :: (positionField message.column ++
      '\t' :: escapeLineFeeds message.text.toList)))

/-- The line that reports a diagnostic, without its end. -/
def reportLine (message : Message) : List Char :=
  messageMarker ++ message.payload

/-- The diagnostic can be told from its line. -/
structure Reportable (message : Message) : Prop where
  builder : message.builder = compilerName
  source : ∀ source ∈ message.source, IsInline source ∧ source ≠ "-"
  line : ∀ n ∈ message.line, 0 < n
  column : ∀ n ∈ message.column, 0 < n
  no_return : '\r' ∉ message.text.toList
  no_escape : ¬ ['\\', 'n'] <:+: message.text.toList

/-- The diagnostic as it is heard: a position with too many digits is not. -/
def heard (message : Message) : Message :=
  { message with
    line := message.line.filter isReadable
    column := message.column.filter isReadable }

/-- No position has too many digits. -/
def Readable (message : Message) : Prop :=
  (∀ n ∈ message.line, isReadable n = true) ∧ ∀ n ∈ message.column, isReadable n = true

theorem Readable.heard {message : Message} (h : message.Readable) : message.heard = message := by
  have hfilter {n : Option Int} (hn : ∀ k ∈ n, isReadable k = true) : n.filter isReadable = n := by
    cases n with
    | none => rfl
    | some k => rw [Option.filter_some, if_pos (hn k rfl)]
  rw [Message.heard, hfilter h.1, hfilter h.2]

namespace Reportable

variable {message : Message} (h : message.Reportable)
include h

theorem not_mem_sourceField {c : Char} (hdash : c ≠ '-') (hc : c = '\t' ∨ c = '\n' ∨ c = '\r') :
    c ∉ sourceField message.source := by
  cases hsource : message.source with
  | none => simpa [sourceField] using hdash
  | some source =>
    obtain ⟨hinline, -⟩ := h.source source hsource
    rcases hc with rfl | rfl | rfl
    · exact hinline.no_tab
    · exact hinline.no_feed
    · exact hinline.no_return

theorem readSource :
    (if sourceField message.source = [] || sourceField message.source = ['-'] then none
      else some (String.ofList (sourceField message.source))) = message.source := by
  cases hsource : message.source with
  | none => rfl
  | some source =>
    obtain ⟨hinline, hdash⟩ := h.source source hsource
    have hne : source.toList ≠ [] := by simpa using hinline.ne_empty
    have hne' : source.toList ≠ ['-'] := fun heq => hdash (String.toList_inj.mp heq)
    simp only [sourceField, hne, hne', decide_false, Bool.or_self, Bool.false_eq_true, if_false,
      String.ofList_toList]

theorem readDiagnostic : CompilerOutput.readDiagnostic message.payload = message.heard := by
  have hkind : '\t' ∉ message.kind.word.toList := by
    cases message.kind <;> decide
  have hword : MessageKind.ofWord message.kind.word.toList = message.kind := by
    cases message.kind <;> decide
  have hposition {n : Option Int} (hn : ∀ k ∈ n, 0 < k) : '\t' ∉ positionField n := fun hc =>
    absurd (isDigit_of_mem_positionField hn hc) (by decide)
  have hfields : Text.splitOnAtMost '\t' 4 message.payload =
      [message.kind.word.toList, sourceField message.source, positionField message.line,
        positionField message.column, escapeLineFeeds message.text.toList] := by
    rw [payload, Text.splitOnAtMost_append_cons hkind,
      Text.splitOnAtMost_append_cons (h.not_mem_sourceField (by decide) (.inl rfl)),
      Text.splitOnAtMost_append_cons (hposition h.line),
      Text.splitOnAtMost_append_cons (hposition h.column), Text.splitOnAtMost]
  simp only [CompilerOutput.readDiagnostic, hfields, hword, unescape_escapeLineFeeds h.no_escape,
    position?_positionField h.line, position?_positionField h.column, h.readSource,
    String.ofList_toList, ← h.builder]
  rfl

theorem not_mem_reportLine {c : Char} (hc : c = '\n' ∨ c = '\r') : c ∉ message.reportLine := by
  have hmarker : c ∉ messageMarker := by
    rcases hc with rfl | rfl <;> decide
  have hkind : c ∉ message.kind.word.toList := by
    rcases hc with rfl | rfl <;> cases message.kind <;> decide
  have htab : c ≠ '\t' := by
    rcases hc with rfl | rfl <;> decide
  have hdash : c ≠ '-' := by
    rcases hc with rfl | rfl <;> decide
  have hdigit : c.isDigit = false := by
    rcases hc with rfl | rfl <;> decide
  have hposition {n : Option Int} (hn : ∀ k ∈ n, 0 < k) : c ∉ positionField n := fun hmem =>
    absurd (isDigit_of_mem_positionField hn hmem) (ne_true_of_eq_false hdigit)
  have htext : c ∉ escapeLineFeeds message.text.toList := by
    intro hmem
    rcases hc with rfl | rfl
    · rcases mem_of_mem_escapeLineFeeds hmem with heq | heq | ⟨hne, -⟩
      · cases heq
      · cases heq
      · exact hne rfl
    · rcases mem_of_mem_escapeLineFeeds hmem with heq | heq | ⟨-, hmem⟩
      · cases heq
      · cases heq
      · exact h.no_return hmem
  simp only [reportLine, payload, List.mem_append, List.mem_cons, not_or]
  exact ⟨hmarker, hkind, htab, h.not_mem_sourceField hdash (.inr hc), htab, hposition h.line, htab,
    hposition h.column, htab, htext⟩

/-- The line of a diagnostic is read as the diagnostic. -/
theorem readLine : CompilerOutput.readLine message.reportLine = .diagnostic message.heard := by
  have hstatus : dropMarker? statusMarker message.reportLine = none := rfl
  have hcompiled : dropMarker? compiledMarker message.reportLine = none := rfl
  have hmessage : dropMarker? messageMarker message.reportLine = some message.payload := rfl
  simp only [CompilerOutput.readLine, hstatus, hcompiled, hmessage, h.readDiagnostic]

end Reportable

end Message

-- ---------------------------------------------------------------------------
-- Findings
-- ---------------------------------------------------------------------------

/-- What a compiler finds: a file it made, or a diagnostic. -/
inductive Finding where
  | item (file : OutputItem)
  | diagnostic (message : Message)
deriving DecidableEq, Repr

namespace Finding

/-- The line that reports a finding, without its end. -/
def line : Finding → List Char
  | .item file => file.line
  | .diagnostic message => message.reportLine

def item? : Finding → Option OutputItem
  | .item file => some file
  | .diagnostic _ => none

def message? : Finding → Option Message
  | .item _ => none
  | .diagnostic message => some message

/-- The finding can be told from its line. -/
def Reportable : Finding → Prop
  | .item file => file.Reportable
  | .diagnostic message => message.Reportable

/-- The lines of findings, each with its end. -/
def written (findings : List Finding) : List Char :=
  findings.flatMap fun finding => finding.line ++ ['\n']

/-- What the line of a finding reports. -/
def report : Finding → CompilerOutput.Report
  | .item file => .compiled (some file)
  | .diagnostic message => .diagnostic message.heard

variable {finding : Finding}

theorem Reportable.not_mem_line (h : finding.Reportable) {c : Char} (hc : c = '\n' ∨ c = '\r') :
    c ∉ finding.line := by
  cases finding with
  | item file =>
    have hfile : file.Reportable := h
    rcases hc with rfl | rfl
    · exact OutputItem.not_mem_line (by decide) (by decide) hfile.output.no_feed
        hfile.source.no_feed
    · exact OutputItem.not_mem_line (by decide) (by decide) hfile.output.no_return
        hfile.source.no_return
  | diagnostic message => exact Message.Reportable.not_mem_reportLine h hc

theorem Reportable.lineReport (h : finding.Reportable) :
    CompilerOutput.lineReport finding.line = finding.report := by
  have hbare : CompilerOutput.bare finding.line = finding.line := by
    refine Text.trimRight_of_none fun c hc => ?_
    rw [decide_eq_false_iff_not]
    rintro rfl
    exact h.not_mem_line (.inr rfl) hc
  rw [CompilerOutput.lineReport, hbare]
  cases finding with
  | item file => exact OutputItem.Reportable.readLine h
  | diagnostic message => exact Message.Reportable.readLine h

end Finding

namespace CompilerOutput

variable {ε : Type} {findings : List Finding} {pieces : List (String × String)} {stream : String}

/-- Findings are heard in their order, and nothing else is. -/
theorem hearAll_findings (p : CompilerOutput)
    (h : ∀ finding ∈ findings, finding.Reportable) :
    p.hearAll (findings.map fun finding => (stream, finding.line)) =
      { p with
        compiled := p.compiled ++ findings.filterMap Finding.item?
        diagnostics :=
          p.diagnostics ++ (findings.filterMap Finding.message?).map Message.heard } := by
  induction findings generalizing p with
  | nil => simp [hearAll]
  | cons finding findings ih =>
    obtain ⟨hfinding, hrest⟩ := List.forall_mem_cons.mp h
    change (p.hear (stream, finding.line)).hearAll _ = _
    rw [ih _ hrest, hear, hfinding.lineReport]
    cases finding with
    | item file =>
      simp [take, Finding.report, Finding.item?, Finding.message?, List.filterMap_cons]
    | diagnostic message =>
      simp [take, Finding.report, Finding.item?, Finding.message?, List.filterMap_cons]

/-- A whole run that reports findings, in any pieces of one stream, ends with each of them as it is
heard, in its order, and with nothing else. No listener has a say in it. -/
theorem readAll_heard (refuses : String → Option ε) (h : ∀ finding ∈ findings, finding.Reportable)
    (hsole : ∀ piece ∈ pieces, piece.1 = stream)
    (htext : textOf stream pieces = Finding.written findings) (code : Int) :
    readAll refuses pieces code =
      ({ initial with
          pending := ⟨(streamsOf pieces).map (·, [])⟩
          compiled := findings.filterMap Finding.item?
          diagnostics := (findings.filterMap Finding.message?).map Message.heard
          exitCode := some code }, none) := by
  have hnever : ∀ text, (fun _ => (none : Option ε)) text = none := fun (_ : String) => rfl
  obtain ⟨lines, p, hread, htaken⟩ := taken_readAll hnever pieces code
  have hlines : lines = findings.map fun finding => (stream, finding.line) := by
    have hcut : Text.lines (Finding.written findings) = findings.map Finding.line :=
      Text.lines_flatMap fun finding hfinding => (h finding hfinding).not_mem_line (.inl rfl)
    rw [htaken.eq_of_sole hsole, htext, hcut, List.map_map]
    rfl
  have hstate := htaken.state
  rw [hlines, hearAll_findings initial h] at hstate
  refine readAll_of_accepts (hread.trans (by rw [hstate]; rfl)) ?_
  intro text htext
  cases htext

/-- A run that ended well and missed no runtime has no other messages than its diagnostics. -/
theorem messages_of_success {p : CompilerOutput} (hcode : p.exitCode = some 0)
    (hgroovy : p.noGroovy = false) (moduleName : String) :
    p.messages moduleName = p.diagnostics := by
  have hreported : p.reported moduleName = p.diagnostics := by
    rw [reported, hgroovy]
    exact List.append_nil _
  rw [messages, hreported, hcode]
  split <;> rfl

/-- Findings come back. They are written line by line and heard in any pieces of one stream, by any
listener, and the run ends well: the result is these files and these diagnostics, in their order,
and no error output, no status, no missing runtime and no reason to try again. -/
theorem readAll_findings (refuses : String → Option ε)
    (h : ∀ finding ∈ findings, finding.Reportable)
    (hreadable : ∀ message ∈ findings.filterMap Finding.message?, message.Readable)
    (hsole : ∀ piece ∈ pieces, piece.1 = stream)
    (htext : textOf stream pieces = Finding.written findings) :
    ∃ p, readAll refuses pieces 0 = (p, none) ∧
      p.compiled = findings.filterMap Finding.item? ∧
      p.diagnostics = findings.filterMap Finding.message? ∧
      (∀ moduleName, p.messages moduleName = findings.filterMap Finding.message?) ∧
      p.errorLines = [] ∧ p.errorText = [] ∧ p.statuses = [] ∧ p.noGroovy = false ∧
      p.shouldRetry = false ∧ p.exitCode = some 0 := by
  have hsame : (findings.filterMap Finding.message?).map Message.heard =
      findings.filterMap Finding.message? := by
    rw [List.map_congr_left fun message hmessage => (hreadable message hmessage).heard,
      List.map_id']
  exact ⟨_, readAll_heard refuses h hsole htext 0, rfl, hsame,
    fun moduleName => (messages_of_success rfl rfl moduleName).trans hsame, rfl, rfl, rfl, rfl, rfl,
    rfl⟩

/-- A file, and an error whose text looks like other lines. -/
def mixedFindings : List Finding :=
  [.item { output := "/o/A.class", source := "/s/A.groovy" },
    .diagnostic
      { kind := .error, text := "unable to resolve class B\n\t%%no-groovy", builder := compilerName,
        source := some "/s/A.groovy", line := some 3 }]

/-- Their lines, cut within a marker and within a field. -/
def mixedPieces : List (String × String) :=
  [(errorStream, "%%comp"),
    (errorStream, "iled\t/o/A.class\t/s/A.groovy\n%%message\terror\t/s/A.gro"),
    (errorStream, "ovy\t3\t0\tunable to resolve class B\\n\t%%no-groovy\n")]

theorem readAll_findings_mixed :
    (∀ finding ∈ mixedFindings, finding.Reportable) ∧
      (∀ message ∈ mixedFindings.filterMap Finding.message?, message.Readable) ∧
      (∀ piece ∈ mixedPieces, piece.1 = errorStream) ∧
      textOf errorStream mixedPieces = Finding.written mixedFindings ∧
      ∃ p, readAll (fun text => some text) mixedPieces 0 = (p, none) ∧
        p.compiled = mixedFindings.filterMap Finding.item? ∧
        p.diagnostics = mixedFindings.filterMap Finding.message? ∧ p.errorText = [] := by
  have hreportable : ∀ finding ∈ mixedFindings, finding.Reportable := by
    simp only [mixedFindings, List.forall_mem_cons]
    refine ⟨⟨by decide, by decide⟩, ⟨rfl, ?_, ?_, nofun, by decide +kernel, by decide +kernel⟩,
      nofun⟩
    · rintro source ⟨⟩
      exact ⟨by decide, by decide⟩
    · rintro n ⟨⟩
      decide
  have hreadable : ∀ message ∈ mixedFindings.filterMap Finding.message?, message.Readable := by
    simp only [mixedFindings, Finding.message?, List.filterMap_cons, List.filterMap_nil,
      List.forall_mem_cons]
    refine ⟨⟨?_, nofun⟩, nofun⟩
    rintro n ⟨⟩
    exact isReadable_of_le (show 3 ≤ Text.digitLimit by decide)
  have hsole : ∀ piece ∈ mixedPieces, piece.1 = errorStream := by decide
  have htext : textOf errorStream mixedPieces = Finding.written mixedFindings := by decide +kernel
  obtain ⟨p, hread, hcompiled, hdiagnostics, -, -, herror, -⟩ :=
    readAll_findings (fun text => some text) hreportable hreadable hsole htext
  exact ⟨hreportable, hreadable, hsole, htext, p, hread, hcompiled, hdiagnostics, herror⟩

/-- An error in a line. -/
def errorAt (line : Int) : Message where
  kind := .error
  text := "x"
  builder := compilerName
  line := some line

/-- The line of an error as a whole output. -/
def errorPieces (line : Int) : List (String × String) :=
  [(outputStream, String.ofList (Finding.written [.diagnostic (errorAt line)]))]

section
variable {line : Int}

theorem errorAt_reportable (hpos : 0 < line) : (Finding.diagnostic (errorAt line)).Reportable := by
  have hreturn : '\r' ∉ "x".toList := by decide
  have hescape : ¬ ['\\', 'n'] <:+: "x".toList := by decide
  refine ⟨rfl, nofun, ?_, nofun, hreturn, hescape⟩
  rintro n ⟨⟩
  exact hpos

theorem errorAt_heard (hlong : isReadable line = false) :
    (errorAt line).heard = { errorAt line with line := none } := by
  rw [Message.heard, errorAt, Option.filter_some, hlong]
  rfl

theorem textOf_errorPieces :
    textOf outputStream (errorPieces line) = Finding.written [.diagnostic (errorAt line)] := by
  rw [errorPieces, textOf, onStream_cons, if_pos rfl, onStream_nil, List.flatMap_singleton,
    String.toList_ofList]

/-- An error whose line has too many digits does not come back as it was. -/
theorem readAll_errorPieces (hpos : 0 < line) (hlong : isReadable line = false) :
    ∃ p, readAll (fun _ => (none : Option Unit)) (errorPieces line) 0 = (p, none) ∧
      p.diagnostics = [{ errorAt line with line := none }] ∧ p.diagnostics ≠ [errorAt line] := by
  have hreportable : ∀ finding ∈ [Finding.diagnostic (errorAt line)], finding.Reportable :=
    List.forall_mem_singleton.mpr (errorAt_reportable hpos)
  have hsole : ∀ piece ∈ errorPieces line, piece.1 = outputStream := by
    rw [errorPieces, List.forall_mem_singleton]
  have hread := readAll_heard (fun _ => (none : Option Unit)) hreportable hsole textOf_errorPieces 0
  have hdiagnostics : ([Finding.diagnostic (errorAt line)].filterMap Finding.message?).map
      Message.heard = [{ errorAt line with line := none }] := congrArg ([·]) (errorAt_heard hlong)
  refine ⟨_, hread, hdiagnostics, ?_⟩
  change ([Finding.diagnostic (errorAt line)].filterMap Finding.message?).map Message.heard ≠ _
  rw [hdiagnostics]
  intro hsame
  injection hsame with hsame
  injection hsame with _ _ _ _ hline
  cases hline

end

/-- One digit more than may be read. -/
theorem readAll_errorPieces_far :
    (Finding.diagnostic (errorAt (10 ^ Text.digitLimit))).Reportable ∧
      ∃ p, readAll (fun _ => (none : Option Unit)) (errorPieces (10 ^ Text.digitLimit)) 0 =
          (p, none) ∧
        p.diagnostics = [{ errorAt (10 ^ Text.digitLimit) with line := none }] ∧
        p.diagnostics ≠ [errorAt (10 ^ Text.digitLimit)] := by
  have hpos : (0 : Int) < 10 ^ Text.digitLimit := Int.pow_pos (by decide)
  have hlong : isReadable (10 ^ Text.digitLimit) = false := by
    rw [isReadable, decide_eq_false_iff_not]
    exact Int.lt_irrefl _
  exact ⟨errorAt_reportable hpos, readAll_errorPieces hpos hlong⟩

end CompilerOutput

end GroovyRounds
