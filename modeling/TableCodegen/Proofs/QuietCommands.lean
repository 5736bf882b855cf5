import TableCodegen.Proofs.Commands

/-!
# Quiet commands

A command prints what its run echoes, and a quiet one has no echo. The echoes stand between the
stages of a run, each before a stage that can fail. But a stream that takes every byte never
refuses one, so no stage learns whether there is an echo: the same command, asked for quietly, ends
in the same way, says the same on the error stream and leaves the same files (`run_quietly`).

What the other one prints is told by the stage that it comes to (`Prints`).
-/

namespace TableCodegen

open Text

/-! ### Runs without an echo -/

/-- A run as it is without its echo. -/
def Generation.unheard (run : Generation) : Generation := { run with echo := none }

section Unheard

variable (generator : Generator) (paths : Paths) (tree : FileTree)

/-- The stages behind the dump do not depend on an echo that takes everything. -/
theorem run_emitSource_unheard (records : List Record) (received : Bytes)
    (events : List Log.Event) :
    (emitSource generator records paths none events : StateM FileTree Generation).run tree =
      Prod.map Generation.unheard id
        ((emitSource generator records paths (some ⟨none, received⟩) events :
          StateM FileTree Generation).run tree) := by
  rw [run_emitSource, run_emitSource]
  cases tree.rendering generator paths records with
  | error failure => rfl
  | ok text =>
    have hheard : Sink.writeTo (some ⟨none, received⟩) text =
      (some ⟨none, received ++ utf8 text⟩, true) := rfl
    have hunheard : Sink.writeTo none text = (none, true) := rfl
    simp only [hheard, hunheard]
    cases tree.write paths.output (utf8 text) <;> rfl

/-- **A run does not depend on an echo that takes everything.** -/
theorem run_generate_unheard (table : Text) :
    (generate generator table paths none : StateM FileTree Generation).run tree =
      Prod.map Generation.unheard id
        ((generate generator table paths (some Sink.unlimited) :
          StateM FileTree Generation).run tree) := by
  unfold generate
  cases generator.load table with
  | error error => rfl
  | ok records =>
    -- Every write to the echo fits, so both runs come by the same stages.
    have hdump : Sink.writeTo (some Sink.unlimited) (Dump.records records) =
      (some ⟨none, utf8 (Dump.records records)⟩, true) := rfl
    have hline : Sink.writeTo (some ⟨none, utf8 (Dump.records records)⟩) ['\n'] =
      (some ⟨none, utf8 (Dump.records records) ++ utf8 ['\n']⟩, true) := rfl
    have hunheard : ∀ t, Sink.writeTo none t = (none, true) := fun _ => rfl
    simp only [hdump, hline, hunheard]
    exact run_emitSource_unheard ..

end Unheard

namespace CommandLine

/-! ### Commands without an output stream -/

/-- An outcome as it is with nothing printed. -/
def Outcome.unprinted (outcome : Outcome) : Outcome := { outcome with stdout := [] }

/-- A run on a table is the same quietly, but for what it prints. The sink is the only thing that
the flag takes away, and a sink on the standard output has no effect on files. -/
theorem run_runOnTable_quiet (generator : Generator) (paths : Paths) (tree : FileTree)
    (before : List Log.Event) :
    (runOnTable generator paths true before : StateM FileTree Outcome).run tree =
      Prod.map Outcome.unprinted id
        ((runOnTable generator paths false before : StateM FileTree Outcome).run tree) := by
  simp only [runOnTable, FileTree.run_bind, FileTree.run_readText]
  cases tree.textOf paths.table with
  | error reason => rfl
  | ok text =>
    have hrun := run_generate_unheard generator paths tree text
    simp only [if_true, Bool.false_eq_true, if_false, FileTree.run_bind, hrun]
    obtain ⟨⟨result, echo, events⟩, after⟩ :=
      (generate generator text paths (some Sink.unlimited) : StateM FileTree Generation).run tree
    cases result with
    | error failure =>
      simp only [Prod.map, Generation.unheard, id]
      cases failure.isFatal <;> rfl
    | ok count => rfl

/-- A task for a generator is the same quietly, but for what it prints. -/
theorem perform_quiet (tree : FileTree) (settingsFile : Option Text) (generator : Generator)
    (overrides : Overrides) :
    (perform settingsFile true (.generate generator overrides) :
        StateM FileTree Outcome).run tree =
      Prod.map Outcome.unprinted id
        ((perform settingsFile false (.generate generator overrides) :
          StateM FileTree Outcome).run tree) := by
  obtain ⟨result, events, hrun, -⟩ := tree.run_loadSettings settingsFile
  simp only [perform, FileTree.run_bind, hrun]
  cases result with
  | error failure => rfl
  | ok settings => exact run_runOnTable_quiet ..

/-! ### What is printed -/

/-- What a command that is not quiet prints, and what it leaves when its status is 0. -/
inductive Prints (tree : FileTree) (settingsFile : Option Text) (generator : Generator)
    (overrides : Overrides) (status : Nat) (after : FileTree) : Bytes → Prop where
  /-- The settings cannot be read or are none. -/
  | noSettings {failure : Failure}
    (hsettings : tree.Settles settingsFile generator (.error failure)) :
    Prints tree settingsFile generator overrides status after []
  /-- The table cannot be read. -/
  | noTable {paths : Paths} {reason : IoError}
    (hpaths : Effective tree settingsFile generator overrides paths)
    (htable : tree.textOf paths.table = .error reason) :
    Prints tree settingsFile generator overrides status after []
  /-- The table does not load. -/
  | notLoaded {paths : Paths} {text : Text} {error : Table.Error}
    (hpaths : Effective tree settingsFile generator overrides paths)
    (htable : tree.textOf paths.table = .ok text) (hload : generator.load text = .error error) :
    Prints tree settingsFile generator overrides status after []
  /-- The template cannot be read, parsed or rendered: the dump and a line feed. -/
  | dump {paths : Paths} {text : Text} {records : List Record} {failure : Failure}
    (hloaded : Loaded tree settingsFile generator overrides paths text records)
    (hrender : tree.rendering generator paths records = .error failure) :
    Prints tree settingsFile generator overrides status after
      (utf8 (Dump.records records) ++ utf8 ['\n'])
  /-- There is a source: the dump, a line feed and the source. With status 0 the source is what the
  output file holds. -/
  | source {paths : Paths} {text : Text} {records : List Record} {source : Text}
    (hloaded : Loaded tree settingsFile generator overrides paths text records)
    (hrender : tree.rendering generator paths records = .ok source)
    (houtput : status = 0 → FileTree.Written tree paths.output (utf8 source) after) :
    Prints tree settingsFile generator overrides status after
      (utf8 (Dump.records records) ++ utf8 ['\n'] ++ utf8 source)

section Prints

variable {tree : FileTree} {settingsFile : Option Text} {generator : Generator}
  {overrides : Overrides}

/-- A command with status 0 has a generation that succeeded. -/
theorem Answers.eq_ok_of_status {table : Document} {result : Except Failure Nat} {outcome : Outcome}
    (h : Answers table result outcome) (hstatus : outcome.status = 0) :
    ∃ count, result = .ok count := by
  cases h with
  | fatal _ h101 => cases h101.symm.trans hstatus
  | failure _ h1 => cases h1.symm.trans hstatus
  | @success count => exact ⟨count, rfl⟩

/-- What a generation has written when it succeeds is its source. -/
theorem written_of_left {table : Text} {paths : Paths} {records : List Record} {source : Text}
    {count : Nat} {after : FileTree} (h : Left generator table paths tree (.ok count) after)
    (hload : generator.load table = .ok records)
    (hrender : tree.rendering generator paths records = .ok source) :
    FileTree.Written tree paths.output (utf8 source) after := by
  cases h with
  | written hload' hrender' hwrite =>
    obtain rfl := Except.ok.inj (hload.symm.trans hload')
    obtain rfl := Except.ok.inj (hrender.symm.trans hrender')
    exact FileTree.written_of_write hwrite

/-- What a run prints, told by what its echo has received. -/
theorem prints_of_echoed {paths : Paths} {text : Text} {result : Except Failure Nat}
    {received : Bytes} {outcome : Outcome} {after : FileTree}
    (hpaths : Effective tree settingsFile generator overrides paths)
    (htable : tree.textOf paths.table = .ok text)
    (hechoed : Echoed generator text paths tree none received result)
    (hleft : Left generator text paths tree result after)
    (hanswers : Answers ⟨paths.table, text⟩ result outcome) :
    Prints tree settingsFile generator overrides outcome.status after received := by
  cases hechoed with
  | notLoaded hload => exact .notLoaded hpaths htable hload
  | notRendered hload _ hrender => exact .dump ⟨hpaths, htable, hload⟩ hrender
  | whole hload hrender =>
    refine .source ⟨hpaths, htable, hload⟩ hrender fun hstatus => ?_
    obtain ⟨count, hcount⟩ := hanswers.eq_ok_of_status hstatus
    rw [hcount] at hleft
    exact written_of_left hleft hload hrender
  | inDump _ hlimit | behindDump _ hlimit | inSource _ _ hlimit => cases hlimit

/-- The stages from the table on. -/
theorem runOnTable_prints {paths : Paths}
    (hpaths : Effective tree settingsFile generator overrides paths) (events : List Log.Event) :
    ∃ outcome after,
      (runOnTable generator paths false events : StateM FileTree Outcome).run tree =
        (outcome, after) ∧
      Prints tree settingsFile generator overrides outcome.status after outcome.stdout := by
  cases htable : tree.textOf paths.table with
  | error reason =>
    simp only [runOnTable, FileTree.run_bind, FileTree.run_readText, htable]
    exact ⟨_, tree, rfl, .noTable hpaths htable⟩
  | ok text =>
    obtain ⟨result, received, outcome, after, hrun, hanswers, hstdout, hechoed, hleft⟩ :=
      run_runOnTable htable generator false events
    refine ⟨outcome, after, hrun, ?_⟩
    obtain rfl : outcome.stdout = received := hstdout
    exact prints_of_echoed hpaths htable hechoed hleft hanswers

/-- All stages. -/
theorem perform_prints (tree : FileTree) (settingsFile : Option Text) (generator : Generator)
    (overrides : Overrides) :
    ∃ outcome after,
      (perform settingsFile false (.generate generator overrides) :
        StateM FileTree Outcome).run tree = (outcome, after) ∧
      Prints tree settingsFile generator overrides outcome.status after outcome.stdout := by
  obtain ⟨result, events, hrun, hsettles⟩ := tree.run_loadSettings settingsFile
  simp only [perform, FileTree.run_bind, hrun]
  have hsettings := hsettles generator
  cases result with
  | error failure => exact ⟨_, tree, rfl, .noSettings hsettings⟩
  | ok settings => exact runOnTable_prints ⟨hsettings, rfl, rfl, rfl⟩ events

end Prints

/-- **A quiet command differs in what it prints alone.** Two command lines that ask for the same
run, one of them quietly, end with the same status, say the same on the error stream and leave the
same files, whatever the files are. The quiet one prints nothing, and the other one what belongs to
the stage that it comes to. -/
theorem run_quietly {generator : Generator} {settingsFile : Option Text} {overrides : Overrides}
    {arguments quietArguments : List Text}
    (h : Invokes generator settingsFile false overrides arguments)
    (hquiet : Invokes generator settingsFile true overrides quietArguments) (tree : FileTree) :
    ∃ outcome after,
      (run arguments : StateM FileTree Outcome).run tree = (outcome, after) ∧
      (run quietArguments : StateM FileTree Outcome).run tree = (outcome.unprinted, after) ∧
      Prints tree settingsFile generator overrides outcome.status after outcome.stdout := by
  obtain ⟨outcome, after, hrun, hprints⟩ := perform_prints tree settingsFile generator overrides
  have hrunQuietly := perform_quiet tree settingsFile generator overrides
  rw [hrun] at hrunQuietly
  refine ⟨outcome, after, ?_, ?_, hprints⟩
  · rw [run, h.ofArguments?_eq]
    exact hrun
  · rw [run, hquiet.ofArguments?_eq]
    exact hrunQuietly

/-- Files for a run without settings: a table with one row and a template that names it. -/
def filesWithOneRow : FileTree := ⟨[
  (["home".toList], .directory),
  (["home".toList, "work".toList], .directory),
  (["home".toList, "work".toList, "3gpp_itu_interfaces.tsv".toList],
    .file (utf8 "h\nUu\tp\te\td\tr\n".toList)),
  (["home".toList, "work".toList, "t".toList], .file (utf8
    "\x7b% for i in interfaces %\x7d\x7b\x7b i.name \x7d\x7d;\x7b% endfor %\x7d".toList))]⟩

/-- Two command lines that succeed on these files and leave the source in the file they name. They
are spelled in different ways and mean the same but for the flag, and only the first of them
prints. -/
theorem run_quietly_oneRow :
    Invokes .referencePoints none false ⟨none, some ['t'], some ['o']⟩
        ["reference-points".toList, "-t".toList, ['t'], "-o".toList, ['o']] ∧
      Invokes .referencePoints none true ⟨none, some ['t'], some ['o']⟩
        ["--quiet".toList, "reference-points".toList, "--output=o".toList, "-tt".toList] ∧
      ∃ outcome after,
        (run ["reference-points".toList, "-t".toList, ['t'], "-o".toList, ['o']] :
          StateM FileTree Outcome).run filesWithOneRow = (outcome, after) ∧
        (run ["--quiet".toList, "reference-points".toList, "--output=o".toList, "-tt".toList] :
          StateM FileTree Outcome).run filesWithOneRow = (outcome.unprinted, after) ∧
        Prints filesWithOneRow none .referencePoints ⟨none, some ['t'], some ['o']⟩ 0 after
          outcome.stdout ∧
        outcome.stdout ≠ [] ∧ after.textOf ['o'] = .ok "Uu;".toList := by
  have hinvokes : Invokes .referencePoints none false ⟨none, some ['t'], some ['o']⟩
      ["reference-points".toList, "-t".toList, ['t'], "-o".toList, ['o']] :=
    ofArguments?_eq_run_iff.1 (by decide +kernel)
  have hquiet : Invokes .referencePoints none true ⟨none, some ['t'], some ['o']⟩
      ["--quiet".toList, "reference-points".toList, "--output=o".toList, "-tt".toList] :=
    ofArguments?_eq_run_iff.1 (by decide +kernel)
  have hevaluated : ((run ["reference-points".toList, "-t".toList, ['t'], "-o".toList, ['o']] :
      StateM FileTree Outcome).run filesWithOneRow).1.status = 0 ∧
    ((run ["reference-points".toList, "-t".toList, ['t'], "-o".toList, ['o']] :
      StateM FileTree Outcome).run filesWithOneRow).1.stdout ≠ [] ∧
    ((run ["reference-points".toList, "-t".toList, ['t'], "-o".toList, ['o']] :
      StateM FileTree Outcome).run filesWithOneRow).2.textOf ['o'] = .ok "Uu;".toList := by
    decide +kernel
  obtain ⟨outcome, after, hrun, hrunQuietly, hprints⟩ :=
    run_quietly hinvokes hquiet filesWithOneRow
  rw [hrun] at hevaluated
  obtain ⟨hstatus, hstdout, houtput⟩ := hevaluated
  change outcome.status = 0 at hstatus
  rw [hstatus] at hprints
  exact ⟨hinvokes, hquiet, outcome, after, hrun, hrunQuietly, hprints, hstdout, houtput⟩

end CommandLine
end TableCodegen
