import GroovyRounds.Proofs.Build.Round
import GroovyRounds.Proofs.Compiler.Reported
import GroovyRounds.Proofs.FileSystem.Vacancy

/-!
# Runs that make files

A compiler that writes files and reports each of them does so whether it runs in
this process or in a child process: where there is room the files lie in their
places when it has ended, and all of them are reported (`run_compileJob`).
-/

namespace GroovyRounds

open FileSystem Path Program

-- ---------------------------------------------------------------------------
-- Files to make
-- ---------------------------------------------------------------------------

/-- A file that a compiler makes of a source. -/
structure MadeFile where
  place : Location
  content : List UInt8
  source : String

namespace MadeFile

/-- The file as it is reported. -/
def item (file : MadeFile) : OutputItem where
  output := (below file.place).toString
  source := file.source

/-- The file is written, and then it is reported. -/
def actions (file : MadeFile) : List CompilerAction :=
  [.write (below file.place) file.content,
    .emit CompilerOutput.outputStream
      ("%%compiled\t" ++ file.item.output ++ "\t" ++ file.item.source ++ "\n")]

/-- Writes all files. -/
def writeAll (files : List MadeFile) : FileAction Unit :=
  files.forM fun file => Running.writeDeep (below file.place) file.content

/-- The places of the files. -/
def places (files : List MadeFile) : Set Location :=
  {place | ∃ file ∈ files, place = file.place}

/-- The program makes these files, one after another, and exits with code zero. -/
structure MadeBy (files : List MadeFile) (run : CompilerRun) : Prop where
  actions : run.actions = files.flatMap actions
  ending : run.ending = .returned (.scalar .null) ∨ run.ending = .returned (.scalar (.integer 0))

theorem toList_report (file : MadeFile) :
    ("%%compiled\t" ++ file.item.output ++ "\t" ++ file.item.source ++ "\n").toList =
      file.item.line ++ ['\n'] := by
  have hspelled {marker tab feed : String} (htab : tab.toList = ['\t'])
      (hfeed : feed.toList = ['\n']) :
      (marker ++ file.item.output ++ tab ++ file.item.source ++ feed).toList =
        marker.toList ++ (file.item.output.toList ++ '\t' :: file.item.source.toList) ++
          ['\n'] := by
    simp [htab, hfeed]
  exact hspelled rfl rfl

variable {fs fs' : FileSystem} {file : MadeFile} {files : List MadeFile}

/-- Files that are in no way of each other can all be written where there is room for them. -/
theorem run_writeAll (fs : FileSystem) (files : List MadeFile)
    (hroom : ∀ file ∈ files, fs.Room file.place)
    (hapart : files.Pairwise fun file other => Aside file.place other.place) :
    ∃ fs', writeAll files fs = (.ok (), fs') ∧
      (∀ file ∈ files, fs'.HoldsFile file.place file.content) ∧
      Contained (places files) (places files) fs fs' := by
  induction files generalizing fs with
  | nil => exact ⟨fs, rfl, nofun, .refl _ _ _⟩
  | cons file files ih =>
    obtain ⟨hfirst, hrest⟩ := List.forall_mem_cons.mp hroom
    obtain ⟨haside, hapart⟩ := List.pairwise_cons.mp hapart
    obtain ⟨made, hwrite, hcarried⟩ := @carried_of_writeDeep _ _ file.content hfirst
    have hkept : ∀ other ∈ files, made.Room other.place := by
      intro other hother
      obtain ⟨hover, hunder⟩ := haside other hother
      refine (hrest other hother).carried hcarried hover hover fun hway => ?_
      exact hunder (hway.trans (List.dropLast_prefix _))
    obtain ⟨fs', hwrites, hholds, hchanged⟩ := ih made hkept hapart
    have hsub : places files ⊆ places (file :: files) := by
      rintro place ⟨other, hother, rfl⟩
      exact ⟨other, List.mem_cons_of_mem _ hother, rfl⟩
    have hin : file.place ∈ places (file :: files) := ⟨file, List.mem_cons_self, rfl⟩
    refine ⟨fs', (run_bind_of_ok hwrite).trans hwrites, List.forall_mem_cons.mpr ⟨?_, hholds⟩, ?_⟩
    · refine hchanged.holdsFile ?_ hcarried.there
      rintro _ ⟨other, hother, rfl⟩
      exact (haside other hother).2
    · exact (Contained.of_carried hcarried hin hin hin (List.prefix_refl _)
        (List.prefix_refl _)).trans (hchanged.mono hsub hsub)

-- ---------------------------------------------------------------------------
-- Runs of the program
-- ---------------------------------------------------------------------------

variable {ctx : Context} {refuses : Running.Refusal}

/-- In process, the files are reported one by one. -/
theorem performAll_actions (ctx : Context) (refuses : Running.Refusal) (running : Running)
    (hreports : ∀ file ∈ files, file.item.Reportable)
    (hpending : running.reported.pending = CompilerOutput.initial.pending)
    (hwrites : writeAll files running.world.files = (.ok (), fs')) :
    running.performAll ctx refuses (files.flatMap actions) =
      ({ world := { running.world with files := fs' }
         reported := { running.reported with
           compiled := running.reported.compiled ++ files.map item } }, none) := by
  induction files generalizing running with
  | nil =>
    cases hwrites
    simp [Running.performAll]
  | cons file files ih =>
    obtain ⟨hreport, hrest⟩ := List.forall_mem_cons.mp hreports
    obtain ⟨_, made, hwrite, hothers⟩ := bind_eq_ok_iff.mp hwrites
    have hfeed := CompilerOutput.feed_reports refuses [file.item] hpending
      (by simpa using hreport) ((toList_report file).trans (by simp))
    have hnext := ih
      { world := { running.world with files := made }
        reported := { running.reported with
          compiled := running.reported.compiled ++ [file.item] } }
      hrest hpending hothers
    simp only [List.flatMap_cons, actions, List.cons_append, List.nil_append, Running.performAll,
      Running.perform, Running.onFiles, hwrite, Running.feed, hfeed, hnext, List.map_cons,
      List.append_assoc]

/-- In a child process, they are reported in one text. -/
theorem performChild_actions (ctx : Context) (world : World) (child : Running.ChildOutput)
    (hwrites : writeAll files world.files = (.ok (), fs')) :
    ∃ text,
      text.toList =
        child.output.toList ++ files.flatMap (fun file => file.item.line ++ ['\n']) ∧
      Running.performChild ctx (files.flatMap actions) world child =
        ({ world with files := fs' }, { child with output := text }, none) := by
  induction files generalizing world child with
  | nil =>
    cases hwrites
    exact ⟨child.output, by simp, rfl⟩
  | cons file files ih =>
    obtain ⟨_, made, hwrite, hothers⟩ := bind_eq_ok_iff.mp hwrites
    obtain ⟨text, htext, hrun⟩ := ih { world with files := made }
      (child.write CompilerOutput.outputStream
        ("%%compiled\t" ++ file.item.output ++ "\t" ++ file.item.source ++ "\n")) hothers
    have hchild (report : String) : child.write CompilerOutput.outputStream report =
        { child with output := child.output ++ report } := rfl
    refine ⟨text, ?_, ?_⟩
    · rw [htext, hchild, List.flatMap_cons, ← toList_report, String.toList_append,
        List.append_assoc]
    · simp only [List.flatMap_cons, actions, List.cons_append, List.nil_append,
        Running.performChild, hwrite]
      exact hrun

/-- What is reported of these files. -/
def report (files : List MadeFile) : CompilerOutput :=
  { CompilerOutput.initial with compiled := files.map item, exitCode := some 0 }

/-- Either way the files are made and reported, if they can be written. -/
theorem run_execute {invocation : Invocation} {run : CompilerRun} (world : World)
    (hmakes : MadeBy files run) (hreports : ∀ file ∈ files, file.item.Reportable)
    (hwrites : writeAll files world.files = (.ok (), fs')) :
    invocation.execute ctx refuses .utf8 run { world } =
      ({ world := { world with files := fs' }, reported := report files }, none) := by
  cases invocation with
  | inProcess classpath outputs =>
    have hperform := performAll_actions ctx refuses { world } hreports rfl hwrites
    simp only [Invocation.execute, Running.runInProcess, hmakes.actions, hperform, Running.endingOf]
    rcases hmakes.ending with hending | hending <;> rw [hending] <;> rfl
  | forked java mainClass classpath machine encoding =>
    obtain ⟨text, htext, hperform⟩ := performChild_actions ctx world {} hwrites
    have hitems : text.toList = (files.map item).flatMap fun item => item.line ++ ['\n'] := by
      rw [htext, List.flatMap_map]
      rfl
    have hreturn : Text.unifyLineEnds text.toList = text.toList := by
      refine Text.unifyLineEnds_of_not_mem ?_
      rw [hitems, List.mem_flatMap]
      rintro ⟨item, hm, hreturn⟩
      obtain ⟨file, hfile, rfl⟩ := List.mem_map.mp hm
      have hreport := hreports file hfile
      exact OutputItem.not_mem_line (by decide) (by decide) hreport.output.no_return
        hreport.source.no_return (by simpa using hreturn)
    have hfeed := CompilerOutput.feed_reports (p := .initial) refuses (files.map item) rfl
      (by simpa using hreports) hitems
    have hread (world : World) :
        Running.readStream refuses .utf8 CompilerOutput.outputStream text { world } =
          ({ world, reported := { CompilerOutput.initial with compiled := files.map item } },
            none) := by
      simp only [Running.readStream, Charset.reread, hreturn, String.ofList_toList, Running.feed,
        hfeed]
      rfl
    simp only [Invocation.execute, Running.runForked, hmakes.actions, hperform, Running.endingOf]
    rcases hmakes.ending with hending | hending <;>
      simp only [hending, Running.ChildOutput.conclude, Running.readChild, hread] <;> rfl

end MadeFile

-- ---------------------------------------------------------------------------
-- Child processes
-- ---------------------------------------------------------------------------

/-- A program of the system's own starts with arguments that are short enough. -/
theorem startFault?_of_system {files : FileSystem} {ctx : Context} {name : String}
    {arguments : List String} (hfiles : commandFiles ctx.searchPath name = [name])
    (hsystem : Path.ofString name ∈ ctx.systemPrograms) (hname : name ≠ "")
    (hspelled : spellsDirectory name = false)
    (hzero : ∀ argument ∈ name :: arguments, holdsZero argument = false)
    (hshort : isTooLong (name :: arguments) = false) :
    startFault? files ctx (name :: arguments) = none := by
  have hstarts : startRefusal? files ctx.systemPrograms scriptDepth name = none := by
    simp [startRefusal?, scriptDepth, hname, hsystem, hspelled]
  have hno : (name :: arguments).any holdsZero = false := by simpa using hzero
  simp only [startFault?, hno, Bool.false_eq_true, if_false, List.headD_cons, hfiles,
    List.map_cons, List.map_nil, hstarts, hshort]
  rfl

/-- A path that the system takes is spelled without the zero character. -/
theorem holdsZero_below {place : Location} (h : Admissible place) :
    holdsZero (below place).toString = false := by
  have hzero : Char.ofNat 0 ∉ (below place).toString.toList := by
    intro hmem
    rw [Path.below, toString_of_slashes (show Anchor.root ≠ .relative by decide),
      String.toList_append, List.mem_append] at hmem
    rcases hmem with hmem | hmem
    · exact absurd hmem (by decide)
    · rcases mem_spellNames hmem with hslash | ⟨name, hname, hmem⟩
      · exact absurd hslash (by decide)
      · exact hasZero_eq_false_iff.mp h.no_zero name hname hmem
  simpa [holdsZero] using hzero

/-- A command is not too long if a last argument that is the path of a file is left room for. -/
theorem isTooLong_concat {front : List String} {place : Location} (h : Admissible place)
    (hfront : isTooLong front = false)
    (hroom : front.foldl (fun size argument => size + argumentSize argument + 8) 0 +
      pathLimit + 8 ≤ commandLimit) :
    isTooLong (front ++ [(below place).toString]) = false := by
  have hfits := h.fits
  rw [isTooLong, Bool.or_eq_false_iff] at hfront ⊢
  rw [List.any_append, Bool.or_eq_false_iff, List.foldl_append]
  simp only [List.any_cons, List.any_nil, Bool.or_false, List.foldl_cons, List.foldl_nil]
  refine ⟨⟨hfront.1, decide_eq_false ?_⟩, decide_eq_false ?_⟩
  · simp only [argumentSize, argumentLimit, pathLimit] at *
    omega
  · simp only [argumentSize, pathLimit] at *
    omega

-- ---------------------------------------------------------------------------
-- Jobs
-- ---------------------------------------------------------------------------

/-- The runs of a builder over a chunk start, and what they report is read as it was written. -/
structure Builder.Starts (builder : Builder) (ctx : Context) (chunk : Chunk) : Prop where
  optimize : ∀ count, ∃ optimize, shouldOptimize builder.settings chunk count = .ok optimize
  encoding : ∀ file, Build.encodingFailure? file ctx.project.encoding = none
  launch : ∀ plan files, ∃ invocation, builder.launch plan files ctx = .ok invocation ∧
    ∀ parameters, invocation.prepare ctx files parameters = .ok .utf8

/-- The runs of a builder over a chunk start from this working directory, if their argument file is
one of these, and what they report is read as it was written. -/
structure Builder.StartsFrom (builder : Builder) (ctx : Context) (chunk : Chunk) (cwd : Path)
    (arguments : Set Path) : Prop where
  optimize : ∀ count, ∃ optimize, shouldOptimize builder.settings chunk count = .ok optimize
  encoding : ∀ file, Build.encodingFailure? file ctx.project.encoding = none
  launch : ∀ (optimize : Bool) (plan : InvocationPlan) (files : FileSystem),
    plan.settings = builder.settings → plan.chunk = chunk →
    plan.processClasspath =
      processClasspath cwd ctx.project builder.settings builder.extensions chunk optimize →
    ∃ invocation, builder.launch plan files ctx = .ok invocation ∧
      ∀ argumentFile ∈ arguments, invocation.prepare ctx files (programParameters optimize
        builder.role argumentFile builder.settings.invokeDynamic) = .ok .utf8

theorem Builder.Starts.startsFrom {builder : Builder} {ctx : Context} {chunk : Chunk}
    (h : builder.Starts ctx chunk) (cwd : Path) (arguments : Set Path) :
    builder.StartsFrom ctx chunk cwd arguments where
  optimize := h.optimize
  encoding := h.encoding
  launch _ plan files _ _ _ := by
    obtain ⟨invocation, hlaunch, hprepare⟩ := h.launch plan files
    exact ⟨invocation, hlaunch, fun _ _ => hprepare _⟩

namespace Build

variable {ctx : Context} {builder : Builder} {chunk : Chunk} {job : Job} {w : World}

/-- A job comes to an end with all files made and reported, whichever of these lists of files its
run makes. -/
theorem run_compileJob (job : Job) (w : World) (lists : List MadeFile → Prop)
    {arguments : Set Path} (hstarts : builder.StartsFrom ctx chunk w.cwd arguments)
    (hargument : job.argumentFile ∈ arguments)
    (hprogram : ∀ call, call.parameters = programParameters job.optimize builder.role
        job.argumentFile builder.settings.invokeDynamic →
      call.argumentFile = Invocation.parameterContent w.files call.parameters →
      ∃ files, lists files ∧ MadeFile.MadeBy files (ctx.compiler w.calls call w.files))
    (hreports : ∀ files, lists files → ∀ file ∈ files, file.item.Reportable)
    (hwrites : ∀ files, lists files → ∃ fs', MadeFile.writeAll files w.files = (.ok (), fs')) :
    ∃ files fs' call, lists files ∧ MadeFile.writeAll files w.files = (.ok (), fs') ∧
      compileJob ctx builder chunk job w = (.ok (MadeFile.report files),
        { w with
          files := fs'
          calls := w.calls ++ [call]
          outputs := w.outputs ++ [MadeFile.report files] }) := by
  obtain ⟨invocation, hlaunch, hprepare⟩ := hstarts.launch job.optimize
    { settings := builder.settings
      chunk
      fullClasspath := job.classpath
      processClasspath := processClasspath w.cwd ctx.project builder.settings builder.extensions
        chunk job.optimize
      outputs := job.finalOutputs.values } w.files rfl rfl rfl
  replace hprepare := hprepare _ hargument
  have hrun : launch ctx builder chunk job w = (.ok invocation, w) := by
    simp only [launch, run_bind, run_get, hlaunch, run_ofExcept]
  obtain ⟨parameters, hparameters⟩ : ∃ parameters, programParameters job.optimize builder.role
      job.argumentFile builder.settings.invokeDynamic = parameters := ⟨_, rfl⟩
  rw [hparameters] at hprepare
  obtain ⟨files, hlist, hmakes⟩ : ∃ files, lists files ∧
      MadeFile.MadeBy files (invocation.program ctx parameters w) :=
    hprogram (invocation.call parameters w) hparameters.symm rfl
  obtain ⟨fs', hwrite⟩ := hwrites files hlist
  refine ⟨files, fs', invocation.call parameters w, hlist, hwrite, ?_⟩
  rw [compileJob, run_bind_of_ok hrun, hparameters]
  simp only [runCompiler, run_bind, run_get, Invocation.run, hprepare,
    MadeFile.run_execute { w with calls := w.calls ++ [invocation.call parameters w] }
      hmakes (hreports files hlist) hwrite, Running.close]
  rfl

end Build

end GroovyRounds
