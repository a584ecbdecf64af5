import GroovyRounds.Proofs.Build.ReadyRounds

/-!
# Rounds that deliver

A round that is ready compiles all its sources, if the compiler makes one file
of each (`run_compile`), and brings every file to the directory of its owner
(`run_deliver`).
-/

namespace GroovyRounds

open FileSystem Path Program

-- ---------------------------------------------------------------------------
-- What the compiler does
-- ---------------------------------------------------------------------------

/-- Whenever the compiler is told these sources in a role, it makes the file of each of them in
some order. -/
def Context.Makes (ctx : Context) (role : Role) (directory : Location) (sources : List Path)
    (content : Path → List UInt8) : Prop :=
  ∀ (calls : List CompilerCall) (call : CompilerCall) (files : FileSystem) (file : ArgumentFile),
    call.parameters[1]? = some role.mode → call.argumentFile = some file.bytes →
    Path.ofString file.output = below directory → file.sources = pathsToCompile sources →
    ∃ order : List Path, order.Perm sources ∧
      MadeFile.MadeBy (order.map (role.made content directory)) (ctx.compiler calls call files)

/-- Whenever the compiler is told these sources in a role, it makes the file of each of them in
one of these orders. -/
def Context.MakesIn (ctx : Context) (role : Role) (directory : Location) (sources : List Path)
    (content : Path → List UInt8) (orders : List Path → Prop) : Prop :=
  ∀ (calls : List CompilerCall) (call : CompilerCall) (files : FileSystem) (file : ArgumentFile),
    call.parameters[1]? = some role.mode → call.argumentFile = some file.bytes →
    Path.ofString file.output = below directory → file.sources = pathsToCompile sources →
    ∃ order : List Path, orders order ∧
      MadeFile.MadeBy (order.map (role.made content directory)) (ctx.compiler calls call files)

/-- Where the files of these sources are made and where they belong. -/
def filePlaces (chunk : Chunk) (place : TargetId → Location) (role : Role)
    (owner : Path → TargetId) (sources : List Path) : Set Location :=
  {goal | ∃ p ∈ sources, goal = place chunk.representative.toTargetId ++ role.fileNames p ∨
    goal = place (owner p) ++ role.fileNames p}

/-- The file of every source lies in the directory of its owner, and none is left in that of the
representative. -/
structure Delivered (chunk : Chunk) (place : TargetId → Location) (role : Role)
    (owner : Path → TargetId) (content : Path → List UInt8) (sources : List Path)
    (files : FileSystem) : Prop where
  there : ∀ p ∈ sources, files.HoldsFile (place (owner p) ++ role.fileNames p) (content p)
  gone : ∀ p ∈ sources, owner p ≠ chunk.representative.toTargetId →
    files.node? (place chunk.representative.toTargetId ++ role.fileNames p) = none

/-- The directory of the package that files are made in is there, if any are. -/
def Packaged (directory : Location) (sources : List Path) (files : FileSystem) : Prop :=
  ∀ p ∈ sources, ∀ above, above <+: directory ++ ["pkg"] → files.node? above = some .directory

theorem prefix_package (directory : Location) (role : Role) (p : Path) :
    directory ++ ["pkg"] <+: directory ++ role.fileNames p :=
  ⟨[p.stem ++ role.suffix], by simp [Role.fileNames]⟩

/-- No file lies where a package is to be, or above. -/
theorem Apart.not_file_above {chunk : Chunk} {place : TargetId → Location} {role : Role}
    {target owner : TargetId} {p : Path} {root : Location} (h : Apart chunk place)
    (ht : target ∈ chunk.ids) (howner : owner ∈ chunk.ids)
    (hroot : root = place target ++ role.fileNames p ∨ root = place owner ++ role.fileNames p) :
    ¬ root <+: place target ++ ["pkg"] := by
  intro hbelow
  have hlong (names : List String) (hlength : 1 < names.length) :
      ¬ place target ++ names <+: place target ++ ["pkg"] := by
    rw [List.prefix_append_right_inj]
    exact fun hover => absurd hover.length_le (by simp; omega)
  rcases hroot with rfl | rfl
  · exact hlong _ (by simp [Role.fileNames]) hbelow
  · by_cases heq : owner = target
    · exact hlong _ (by simp [Role.fileNames]) (heq ▸ hbelow)
    · have haside : Aside (place owner) (place target) :=
        ⟨h.disjoint _ howner _ ht heq, h.disjoint _ ht _ howner (Ne.symm heq)⟩
      exact (haside.append _ _).1 hbelow

namespace Build

variable {ctx : Context} {builder : Builder} {chunk : Chunk} {cwd : Path} {data temp : Location}
variable {owner : Path → TargetId} {content : Path → List UInt8} {sources order : List Path}
variable {job : Job} {n : Nat} {v w : World}

-- ---------------------------------------------------------------------------
-- Compiling
-- ---------------------------------------------------------------------------

variable (owner) in
theorem mem_filePlaces {place : TargetId → Location} {role : Role} {p : Path} (hp : p ∈ sources) :
    place chunk.representative.toTargetId ++ role.fileNames p ∈
      filePlaces chunk place role owner sources :=
  ⟨p, hp, .inl rfl⟩

/-- The files of different sources lie beside each other in any directory. -/
theorem aside_files {directory : Location} {role : Role} (hspell : Spellable sources)
    (hnodup : sources.Nodup) :
    (sources.map (role.made content directory)).Pairwise fun file other =>
      Aside file.place other.place := by
  refine List.pairwise_map.mpr (hnodup.pairwise_of_forall_ne fun p hp q hq hne => ?_)
  have hapart {p q : Path} (hp : p ∈ sources) (hq : q ∈ sources) (hne : p ≠ q) :
      ¬ directory ++ role.fileNames p <+: directory ++ role.fileNames q := by
    rw [List.prefix_append_right_inj]
    exact fun hbelow => hne (hspell.stems p hp q hq (stem_eq_of_below hbelow))
  exact ⟨hapart hp hq hne, hapart hq hp (Ne.symm hne)⟩

section
variable {role : Role} {place : TargetId → Location} (hrole : builder.role = role)
variable (hplace : role.place ctx.project cwd = place)
variable (horderly : Orderly ctx chunk cwd data temp)
variable (hready : Ready ctx builder chunk cwd temp sources job n w.files)
variable (hspell : Spellable sources) (hnodup : sources.Nodup)
include hrole hplace horderly hready hspell hnodup

variable (owner) in
/-- A round that is ready compiles all its sources. -/
theorem run_compile {orders : List Path → Prop} (hcwd : w.cwd = cwd)
    (hstarts : builder.StartsFrom ctx chunk cwd (argumentFiles temp))
    (horders : ∀ order, orders order → order.Perm sources)
    (hmakes : ctx.MakesIn role (place chunk.representative.toTargetId) sources content orders) :
    ∃ (order : List Path) (call : CompilerCall) (files : FileSystem), orders order ∧
      compileJob ctx builder chunk job w =
        (.ok (MadeFile.report
            (order.map (role.made content (place chunk.representative.toTargetId)))),
          { w with
            files
            calls := w.calls ++ [call]
            outputs := w.outputs ++ [MadeFile.report
              (order.map (role.made content (place chunk.representative.toTargetId)))] }) ∧
      (∀ p ∈ sources, files.HoldsFile
        (place chunk.representative.toTargetId ++ role.fileNames p) (content p)) ∧
      (∀ target ∈ chunk.ids, target ≠ chunk.representative.toTargetId → ∀ p ∈ sources,
        files.Room (place target ++ role.fileNames p)) ∧
      Contained (filePlaces chunk place role owner sources)
        (filePlaces chunk place role owner sources) w.files files := by
  subst hrole hplace
  have hrep : chunk.representative.toTargetId ∈ chunk.ids := List.mem_cons_self
  have hstarts' : builder.StartsFrom ctx chunk w.cwd (argumentFiles temp) := hcwd ▸ hstarts
  obtain ⟨file, hcontent, houtput, hsources⟩ := hready.told
  have hwrites (order : List Path) (hperm : order.Perm sources) :=
    MadeFile.run_writeAll w.files (order.map (builder.role.made content
        (builder.role.place ctx.project cwd chunk.representative.toTargetId)))
      (List.forall_mem_map.mpr fun p hp => hready.room _ hrep p (hperm.subset hp))
      (aside_files (hspell.mono hperm.subset) (hperm.nodup_iff.mpr hnodup))
  obtain ⟨_, files, call, ⟨order, horder, rfl⟩, hwrite, hcompile⟩ := run_compileJob job w
    (fun made => ∃ order : List Path, orders order ∧
      made = order.map (builder.role.made content
        (builder.role.place ctx.project cwd chunk.representative.toTargetId))) hstarts'
    ⟨n, hready.argumentFile, hready.admissible⟩
    (by
      intro call hparameters hargument
      rw [hparameters, hcontent] at hargument
      obtain ⟨order, horder, hmade⟩ := hmakes w.calls call w.files file (by rw [hparameters]; rfl)
        hargument (houtput ▸ hready.output) hsources
      exact ⟨_, ⟨order, horder, rfl⟩, hmade⟩)
    (by
      rintro _ ⟨order, horder, rfl⟩ made hm
      obtain ⟨p, hp, rfl⟩ := List.mem_map.mp hm
      exact Role.reportable_made (horderly.inline _ _ hrep)
        (hspell.inline p ((horders order horder).subset hp)))
    (by
      rintro _ ⟨order, horder, rfl⟩
      obtain ⟨files, hwrite, -⟩ := hwrites order (horders order horder)
      exact ⟨files, hwrite⟩)
  have hperm := horders order horder
  obtain ⟨_, hsame, hholds, hchanged⟩ := hwrites order hperm
  rw [hwrite] at hsame
  obtain ⟨-, rfl⟩ := Prod.mk.inj hsame
  have hplaces : MadeFile.places (order.map (builder.role.made content
      (builder.role.place ctx.project cwd chunk.representative.toTargetId))) ⊆
      filePlaces chunk (builder.role.place ctx.project cwd) builder.role owner sources := by
    rintro _ ⟨made, hm, rfl⟩
    obtain ⟨p, hp, rfl⟩ := List.mem_map.mp hm
    exact mem_filePlaces owner (hperm.subset hp)
  refine ⟨order, call, files, horder, hcompile, fun p hp => ?_, fun target ht hne p hp => ?_,
    hchanged.mono hplaces hplaces⟩
  · exact hholds _ (List.mem_map_of_mem (hperm.symm.subset hp))
  · -- Nothing was written to the directory of another target.
    have haside : ∀ root ∈ MadeFile.places (order.map (builder.role.made content
        (builder.role.place ctx.project cwd chunk.representative.toTargetId))),
        Aside root (builder.role.place ctx.project cwd target ++ builder.role.fileNames p) := by
      rintro _ ⟨made, hm, rfl⟩
      obtain ⟨q, -, rfl⟩ := List.mem_map.mp hm
      have hapart := horderly.apart builder.role
      exact Aside.append ⟨hapart.disjoint _ hrep _ ht (Ne.symm hne),
        hapart.disjoint _ ht _ hrep hne⟩ _ _
    exact (hready.room target ht p hp).contained hchanged (fun root hroot => (haside root hroot).1)
      fun goal hgoal => (haside goal hgoal).2

end

-- ---------------------------------------------------------------------------
-- Bringing the files to their owners
-- ---------------------------------------------------------------------------

/-- The name of a chunk of named modules. -/
theorem exists_chunkName (h : ∀ target ∈ chunk.ids, ∃ name, target.name = .text name) :
    ∃ name, chunk.name = .ok name := by
  have htexts : ∀ names : List Scalar, (∀ name ∈ names, ∃ text, name = .text text) →
      ∀ start, ∃ texts, allTexts start (names.map .scalar) = .ok texts := by
    intro names hnames
    induction names with
    | nil => exact fun _ => ⟨[], rfl⟩
    | cons name names ih =>
      obtain ⟨⟨text, rfl⟩, hrest⟩ := List.forall_mem_cons.mp hnames
      intro start
      obtain ⟨texts, htexts⟩ := ih hrest (start + 1)
      rw [List.map_cons, allTexts, htexts]
      exact ⟨_, rfl⟩
  obtain ⟨texts, hfound⟩ := htexts chunk.modules (fun name hm => by
    obtain ⟨target, ht, rfl⟩ := List.mem_map.mp (List.mem_eraseDups.mp hm)
    exact h target.toTargetId (List.mem_map_of_mem ht)) 0
  rw [Chunk.name, hfound]
  exact ⟨_, rfl⟩

/-- All that was compiled comes to the directories of the owners. -/
theorem run_deliver (tool : String) {role : Role} {place : TargetId → Location}
    {name compilerOutput : String} {outputs : OrderedMap TargetId String}
    (hplaces : Apart chunk place) (hname : chunk.name = .ok name)
    (houtputs : Spells chunk place outputs)
    (hcompiler : Path.ofString compilerOutput = below (place chunk.representative.toTargetId))
    (hspell : Spellable sources) (hnodup : sources.Nodup) (hperm : order.Perm sources)
    (howner : ∀ p ∈ sources, ctx.project.owner? w.tempRoots p = some (owner p) ∧
      owner p ∈ chunk.ids)
    (hmade : ∀ p ∈ sources, w.files.HoldsFile
      (place chunk.representative.toTargetId ++ role.fileNames p) (content p))
    (hroom : ∀ target ∈ chunk.ids, target ≠ chunk.representative.toTargetId → ∀ p ∈ sources,
      w.files.Room (place target ++ role.fileNames p)) :
    ∃ files, reconcileRun ctx tool chunk outputs compilerOutput
        (MadeFile.report (order.map
          (role.made content (place chunk.representative.toTargetId)))).compiled w =
          (.ok ((role.making owner content).group place (order.map Path.toString) .empty),
            { w with files }) ∧
      Delivered chunk place role owner content sources files ∧
      Contained (filePlaces chunk place role owner sources)
        (filePlaces chunk place role owner sources) w.files files := by
  have hspell' := hspell.mono hperm.subset
  have hread {p : Path} (hp : p ∈ order) : Path.ofString p.toString = p :=
    ofString_toString (hspell'.valid p hp)
  have hfile {p : Path} (hp : p ∈ order) :
      (role.making owner content).file p.toString = role.fileNames p :=
    Role.file_making (hspell'.valid p hp)
  have hplace {p : Path} (hp : p ∈ order) : (role.making owner content).place place p.toString =
      place (owner p) ++ role.fileNames p := by
    rw [Making.place, hfile hp]
    simp only [Role.making, hread hp]
  have hitems : (MadeFile.report (order.map
      (role.made content (place chunk.representative.toTargetId)))).compiled =
        (order.map Path.toString).map
          ((role.making owner content).item (place chunk.representative.toTargetId)) := by
    simp only [MadeFile.report, List.map_map]
    exact List.map_congr_left fun p hp => Role.item_made (hspell'.valid p hp)
  obtain ⟨files, hrun, hreconciled, hchanged⟩ := run_reconcileAll tool
    (role.making owner content) .empty hplaces
    (Role.filesApart_making hspell') houtputs hcompiler (List.Subset.refl _)
    (Role.nodup_toString hspell' (hperm.nodup_iff.mpr hnodup))
    (List.forall_mem_map.mpr fun p hp => by
      simp only [Role.making, hread hp]
      exact howner p (hperm.subset hp))
    (List.forall_mem_map.mpr fun p hp => by
      rw [hfile hp]
      simp only [Role.making, hread hp]
      exact hmade p (hperm.subset hp))
    (List.forall_mem_map.mpr fun p hp hne => by
      rw [hplace hp]
      simp only [Role.making, hread hp] at hne
      have hin := hperm.subset hp
      exact hroom _ (howner p hin).2 hne p hin)
  have hsub : (role.making owner content).places chunk place (order.map Path.toString) ⊆
      filePlaces chunk place role owner sources := by
    rintro goal ⟨source, hsource, hat⟩
    obtain ⟨p, hp, rfl⟩ := List.mem_map.mp hsource
    rw [hfile hp, hplace hp] at hat
    exact ⟨p, hperm.subset hp, hat⟩
  refine ⟨files, ?_, ⟨fun p hp => ?_, fun p hp hne => ?_⟩, hchanged.mono hsub hsub⟩
  · rw [hitems, reconcileRun, run_bind_of_ok hrun,
      run_bind_of_ok (chunkName_eq_ok_iff.mpr ⟨hname, rfl⟩)]
    rfl
  · have hin := hperm.symm.subset hp
    have hthere := hreconciled.there _ (List.mem_map_of_mem hin)
    rw [hplace hin] at hthere
    simpa only [Role.making, hread hin] using hthere
  · have hin := hperm.symm.subset hp
    have hgone := hreconciled.gone _ (List.mem_map_of_mem hin)
    rw [hfile hin] at hgone
    refine hgone ?_
    simpa only [Role.making, hread hin] using hne

end Build

end GroovyRounds
