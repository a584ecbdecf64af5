import GroovyRounds.Build.CompilerRun
import GroovyRounds.Proofs.Compiler.LineEnds

/-!
# Both modes agree

A program that writes text and ends is read alike in this process and as a child
(`run_modes_agree`). In process its pieces are read as they come
(`run_inProcess_writing`); of a child the two streams are read when it has ended,
with unified line ends (`run_forked_writing`).
-/

namespace GroovyRounds

-- ---------------------------------------------------------------------------
-- Programs that write
-- ---------------------------------------------------------------------------

/-- The value that a program ends with: a code of a process, or nothing. -/
def exitValue : Option (Fin 256) → Json
  | none => .scalar .null
  | some code => .scalar (.integer code.val)

/-- The code that the value stands for. -/
def codeOf : Option (Fin 256) → Int
  | none => 0
  | some code => code.val

/-- A program that writes pieces of text to streams and ends. -/
def CompilerRun.writing (pieces : List (String × String)) (code? : Option (Fin 256)) :
    CompilerRun where
  actions := pieces.map fun (stream, text) => .emit stream text
  ending := .returned (exitValue code?)

theorem exitCode_exitValue (code? : Option (Fin 256)) :
    exitCode (exitValue code?) = .ok (codeOf code?) := by
  cases code? <;> rfl

open CompilerOutput (feedAll readAll textOf onStream onStream_cons mem_onStream outputStream
  errorStream Agree)

/-- The pieces go to the two streams that every process has. -/
abbrev OnStandardStreams (pieces : List (String × String)) : Prop :=
  ∀ piece ∈ pieces, piece.1 = outputStream ∨ piece.1 = errorStream

namespace Running

variable {ctx : Context} {refuses : Refusal} {pieces : List (String × String)}

-- ---------------------------------------------------------------------------
-- In process
-- ---------------------------------------------------------------------------

theorem performAll_emits (pieces : List (String × String)) (running : Running) :
    running.performAll ctx refuses (pieces.map fun (stream, text) => .emit stream text) =
      ({ running with reported := (running.reported.feedAll refuses pieces).1 },
        (running.reported.feedAll refuses pieces).2) := by
  induction pieces generalizing running with
  | nil => rfl
  | cons piece pieces ih =>
    obtain ⟨stream, text⟩ := piece
    simp only [List.map_cons, performAll, perform, Running.feed, feedAll]
    cases running.reported.feed refuses stream text with
    | mk reported refusal? =>
      cases refusal? with
      | some refusal => rfl
      | none => exact ih _

/-- The program is heard as it writes. -/
theorem runInProcess_writing (code? : Option (Fin 256)) (w : World) {p : CompilerOutput}
    (h : readAll refuses pieces (codeOf code?) = (p, none)) :
    Running.runInProcess ctx refuses (.writing pieces code?) { world := w } =
      ({ world := w, reported := p }, none) := by
  simp only [runInProcess, CompilerRun.writing, performAll_emits]
  unfold readAll at h
  split at h
  · cases h
  · next q hfeed =>
    simp [hfeed, endingOf, conclude, endReturned, exitCode_exitValue, finish, h]

-- ---------------------------------------------------------------------------
-- In a child process
-- ---------------------------------------------------------------------------

theorem performChild_emits (pieces : List (String × String)) (w : World) (child : ChildOutput) :
    performChild ctx (pieces.map fun (stream, text) => .emit stream text) w child =
      (w, pieces.foldl (fun child piece => child.write piece.1 piece.2) child, none) := by
  induction pieces generalizing child with
  | nil => rfl
  | cons piece pieces ih => simp only [List.map_cons, performChild, ih, List.foldl_cons]

/-- A child collects the text of each stream. -/
theorem toList_foldl_write (hpieces : OnStandardStreams pieces) (child : ChildOutput) :
    let written := pieces.foldl (fun child piece => child.write piece.1 piece.2) child
    written.output.toList = child.output.toList ++ textOf outputStream pieces ∧
      written.errors.toList = child.errors.toList ++ textOf errorStream pieces := by
  induction pieces generalizing child with
  | nil => simp [textOf]
  | cons piece pieces ih =>
    obtain ⟨stream, text⟩ := piece
    obtain ⟨hpiece, hrest⟩ := List.forall_mem_cons.mp hpieces
    simp only [List.foldl_cons, ih hrest]
    obtain rfl | rfl := hpiece <;>
      simp [ChildOutput.write, textOf, onStream_cons, outputStream, errorStream]

/-- The texts of a child as they are read. -/
def unifiedStreams (pieces : List (String × String)) : List (String × String) :=
  [outputStream, errorStream].map fun stream =>
    (stream, String.ofList (Text.unifyLineEnds (textOf stream pieces)))

theorem textOf_of_other {stream : String} (hpieces : OnStandardStreams pieces)
    (hstream : ¬(stream = outputStream ∨ stream = errorStream)) : textOf stream pieces = [] := by
  have hnone : onStream stream pieces = [] := by
    apply List.eq_nil_iff_forall_not_mem.mpr
    intro text htext
    exact hstream (hpieces _ (mem_onStream.mp htext))
  rw [textOf, hnone]
  rfl

theorem textOf_unifiedStreams (hpieces : OnStandardStreams pieces) (stream : String) :
    textOf stream (unifiedStreams pieces) = Text.unifyLineEnds (textOf stream pieces) := by
  have hstreams : OnStandardStreams (unifiedStreams pieces) := by
    rintro ⟨other, text⟩ hpiece
    simp only [unifiedStreams, List.map_cons, List.map_nil, List.mem_cons, List.not_mem_nil,
      or_false, Prod.mk.injEq] at hpiece
    exact hpiece.imp And.left And.left
  by_cases hstream : stream = outputStream ∨ stream = errorStream
  · obtain rfl | rfl := hstream <;>
      simp [textOf, unifiedStreams, onStream_cons, outputStream, errorStream]
  · rw [textOf_of_other hstreams hstream, textOf_of_other hpieces hstream]
    rfl

theorem processCode_of_fin (code : Fin 256) : processCode code.val = code.val := by
  have hlt := code.isLt
  have hword : (-9223372036854775808 ≤ (code.val : Int) &&
      (code.val : Int) < 9223372036854775808) = true := by
    simp only [Bool.and_eq_true, decide_eq_true_eq]
    omega
  rw [processCode, if_pos hword]
  omega

theorem conclude_exitValue (child : ChildOutput) (code? : Option (Fin 256)) :
    child.conclude (.returned (exitValue code?)) = { child with code := codeOf code? } := by
  cases code? with
  | none => rfl
  | some code => simp [exitValue, ChildOutput.conclude, codeOf, processCode_of_fin]

/-- The streams of a child are read one after the other when it has ended. -/
theorem runForked_writing (code? : Option (Fin 256)) (w : World) {p : CompilerOutput}
    (hpieces : OnStandardStreams pieces)
    (h : readAll refuses (unifiedStreams pieces) (codeOf code?) = (p, none)) :
    Running.runForked ctx refuses .utf8 (.writing pieces code?) { world := w } =
      ({ world := w, reported := p }, none) := by
  obtain ⟨houtput, herrors⟩ := toList_foldl_write hpieces {}
  simp only [String.toList_empty, List.nil_append] at houtput herrors
  simp only [runForked, CompilerRun.writing, performChild_emits, endingOf, conclude_exitValue,
    readChild, readStream, Charset.reread, houtput, herrors, Running.feed]
  simp only [readAll, unifiedStreams, List.map_cons, List.map_nil, feedAll] at h
  cases hfirst : CompilerOutput.feed refuses outputStream
      (String.ofList (Text.unifyLineEnds (textOf outputStream pieces))) .initial with
  | mk first first? =>
    cases first? with
    | some refusal => simp [hfirst] at h
    | none =>
      cases hsecond : first.feed refuses errorStream
          (String.ofList (Text.unifyLineEnds (textOf errorStream pieces))) with
      | mk second second? =>
        cases second? with
        | some refusal => simp [hfirst, hsecond] at h
        | none =>
          simp only [hfirst, hsecond] at h
          simp [finish, h]

end Running

-- ---------------------------------------------------------------------------
-- Both modes
-- ---------------------------------------------------------------------------

namespace Invocation

variable {ctx : Context} {refuses : Running.Refusal} {pieces : List (String × String)}
  {code? : Option (Fin 256)} {parameters : List String} {w : World} {p : CompilerOutput}

theorem run_inProcess_writing {classpath outputs : List String}
    (hprogram : (inProcess classpath outputs).program ctx parameters w = .writing pieces code?)
    (h : readAll refuses pieces (codeOf code?) = (p, none)) :
    ∃ u, (inProcess classpath outputs).run ctx refuses parameters w =
      ({ world := u, reported := p }, none) := by
  simp only [run, prepare, execute, hprogram, Running.runInProcess_writing code? _ h]
  exact ⟨_, rfl⟩

theorem run_forked_writing {java mainClass encoding : String} {classpath machine : List String}
    (hprogram : (forked java mainClass classpath machine encoding).program ctx parameters w =
      .writing pieces code?)
    (hstart : (forked java mainClass classpath machine encoding).prepare ctx w.files parameters =
      .ok .utf8)
    (hpieces : OnStandardStreams pieces)
    (h : readAll refuses (Running.unifiedStreams pieces) (codeOf code?) = (p, none)) :
    ∃ u, (forked java mainClass classpath machine encoding).run ctx refuses parameters w =
      ({ world := u, reported := p }, none) := by
  simp only [run, hstart, execute, hprogram, Running.runForked_writing code? _ hpieces h]
  exact ⟨_, rfl⟩

/-- A program that writes text to the standard streams and ends is read alike in this process and
as a child that is read as UTF-8, if carriage returns only end lines. The readers of the child may
take turns in any way. -/
theorem run_modes_agree {classpath outputs classpath' machine parameters' : List String}
    {java mainClass encoding : String} {w' : World}
    (hrefuses : ∀ text, refuses text = none)
    (hpieces : OnStandardStreams pieces)
    (hends : ∀ stream, Text.ReturnsEndLines (textOf stream pieces))
    (hinside : (inProcess classpath outputs).program ctx parameters w = .writing pieces code?)
    (hchild : (forked java mainClass classpath' machine encoding).program ctx parameters' w' =
      .writing pieces code?)
    (hstart : (forked java mainClass classpath' machine encoding).prepare ctx w'.files parameters' =
      .ok .utf8) :
    ∃ inside child,
      (inProcess classpath outputs).run ctx refuses parameters w = (inside, none) ∧
      (forked java mainClass classpath' machine encoding).run ctx refuses parameters' w' =
        (child, none) ∧
      Agree (fun stream => textOf stream pieces) inside.reported child.reported ∧
      ∀ schedule, (∀ stream, textOf stream schedule = Text.unifyLineEnds (textOf stream pieces)) →
        ∃ p, readAll refuses schedule (codeOf code?) = (p, none) ∧
          Agree (fun stream => textOf stream pieces) inside.reported p := by
  obtain ⟨p, q, hp, hq, hagree⟩ := CompilerOutput.agree_of_unified hrefuses (codeOf code?) hends
    (Running.textOf_unifiedStreams hpieces)
  obtain ⟨u, hrun⟩ := run_inProcess_writing hinside hp
  obtain ⟨u', hrun'⟩ := run_forked_writing hchild hstart hpieces hq
  refine ⟨_, _, hrun, hrun', hagree, ?_⟩
  intro schedule hschedule
  obtain ⟨p', r, hp', hr, hagree'⟩ :=
    CompilerOutput.agree_of_unified hrefuses (codeOf code?) hends hschedule
  obtain ⟨rfl, -⟩ := Prod.mk.inj (hp.symm.trans hp')
  exact ⟨r, hr, hagree'⟩

/-- A compiler that reports a class and an error, in pieces, and ends with code 1. -/
def cutContext : Context where
  project := { dataRoot := { anchor := .root, names := ["data"] } }
  tempDirectory := { anchor := .root, names := ["tmp"] }
  searchPath := none
  systemPrograms := [{ anchor := .root, names := ["bin", "java"] }]
  runner _ _ := .callable
  compiler _ _ _ := .writing CompilerOutput.cutPieces (some 1)

def emptyWorld : World where
  files := { nodes := [], cwd := [] }

theorem run_modes_agree_cut :
    ∃ inside child,
      (inProcess [] []).run cutContext (fun _ => none) [] emptyWorld = (inside, none) ∧
      (forked "/bin/java" "Main" [] [] "UTF-8").run cutContext (fun _ => none) [] emptyWorld =
        (child, none) ∧
      inside.reported.errorText = child.reported.errorText ∧
      inside.reported.shouldRetry = child.reported.shouldRetry ∧
      inside.reported.exitCode = child.reported.exitCode := by
  have hpieces : OnStandardStreams CompilerOutput.cutPieces := by decide +kernel
  have hends : ∀ stream, Text.ReturnsEndLines (textOf stream CompilerOutput.cutPieces) := by
    intro stream
    by_cases hstream : stream = outputStream ∨ stream = errorStream
    · obtain rfl | rfl := hstream <;> decide +kernel
    · rw [Running.textOf_of_other hpieces hstream]
      decide
  have hinside : (inProcess [] []).program cutContext [] emptyWorld =
      .writing CompilerOutput.cutPieces (some 1) := rfl
  have hchild : (forked "/bin/java" "Main" [] [] "UTF-8").program cutContext [] emptyWorld =
      .writing CompilerOutput.cutPieces (some 1) := rfl
  obtain ⟨inside, child, hrun, hrun', hagree, -⟩ :=
    run_modes_agree (fun _ => rfl) hpieces hends hinside hchild rfl
  exact ⟨inside, child, hrun, hrun', hagree.errorText, hagree.shouldRetry, hagree.exitCode⟩

end Invocation

end GroovyRounds
