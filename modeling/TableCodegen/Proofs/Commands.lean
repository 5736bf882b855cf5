import TableCodegen.Proofs.Configuration
import TableCodegen.Proofs.Invocations
import TableCodegen.Proofs.LineEndings
import TableCodegen.Proofs.TemplateFaults

/-!
# Generator commands

A command for a generator goes through its stages in order: the settings, the file of the table, its
content, the template, the source, and the output. `Concludes` has a case for each stage that can be
the first to fail, and one for the run that passes them all; `run_concludes` says that these are all
the ways in which a command ends. A command that fails says so and leaves the files as they were,
and one that succeeds has written the source to its output and touched nothing else.

The exit status is 1 for a failure, with one exception: a fatal fault in the template ends the
program with status 101.
-/

namespace TableCodegen

open Text

/-! ### The stages of a run -/

namespace FileTree

/-- The template that a file holds. -/
def templateOf (tree : FileTree) (path : Text) : Except Failure Liquid.Template :=
  match tree.textOf path with
  | .error reason => .error (.io path reason)
  | .ok source => (Liquid.Template.parse source).mapError .template

end FileTree

/-- The source that a template makes of the records of a generator. -/
def Generator.sourceOf (generator : Generator) (template : Liquid.Template)
    (records : List Record) : Except Failure Text :=
  (template.render
    [(generator.templateVariable, .array (records.map Liquid.Value.ofRecord))]).mapError .template

namespace FileTree

/-- The source of a run is made by the template that the template file holds. -/
theorem rendering_eq (tree : FileTree) (generator : Generator) (paths : Paths)
    (records : List Record) :
    tree.rendering generator paths records =
      tree.templateOf paths.template >>= (generator.sourceOf · records) := by
  unfold rendering templateOf
  cases tree.textOf paths.template with
  | error reason => rfl
  | ok source =>
    simp only [renderRecords, Liquid.renderText]
    cases Liquid.Template.parse source <;> rfl

end FileTree

/-- Without a source it is not the table that fails. -/
theorem FileTree.ne_table_of_rendering {tree : FileTree} {generator : Generator} {paths : Paths}
    {records : List Record} {failure : Failure}
    (h : tree.rendering generator paths records = .error failure) (error : Table.Error) :
    failure ≠ .table error := by
  rintro rfl
  unfold rendering at h
  split at h
  · cases h
  · cases hrender : renderRecords generator _ records with
    | error fault =>
      rw [hrender] at h
      cases h
    | ok source =>
      rw [hrender] at h
      cases h

/-- A template that has been read makes a source or fails in the ordinary way. -/
theorem Generator.isFatal_of_sourceOf {generator : Generator} {template : Liquid.Template}
    {records : List Record} {failure : Failure}
    (h : generator.sourceOf template records = .error failure) : failure.isFatal = false := by
  unfold sourceOf at h
  cases hrender : template.render
      [(generator.templateVariable, .array (records.map Liquid.Value.ofRecord))] with
  | error error =>
    rw [hrender] at h
    obtain rfl := Except.error.inj h
    exact template.harmless_render _ error hrender
  | ok source =>
    rw [hrender] at h
    cases h

/-! ### Reports -/

namespace Failure

/-- A failure that is not about the table always has a report. -/
theorem exists_report {failure : Failure} (h : ∀ error, failure ≠ .table error)
    (table : Document) : ∃ report, failure.report table = .ok report := by
  cases failure with
  | table error => exact absurd rfl (h error)
  | _ => exact ⟨_, rfl⟩

/-- A failure always has something to say. -/
theorem report_ne_nil {failure : Failure} {table : Document} {report : Text}
    (h : failure.report table = .ok report) : report ≠ [] := by
  unfold Failure.report at h
  cases hsummary : failure.summary table with
  | error fault =>
    rw [hsummary] at h
    cases h
  | ok summary =>
    rw [hsummary] at h
    obtain rfl := Except.ok.inj h
    exact List.append_ne_nil_of_right_ne_nil _ (List.cons_ne_nil _ _)

end Failure

/-- The error of a table that does not load has a report, whatever the table is called. -/
theorem Generator.exists_report_of_load {generator : Generator} {text : Text} {error : Table.Error}
    (h : generator.load text = .error error) (path : Text) :
    ∃ report, (Failure.table error).report ⟨path, text⟩ = .ok report := by
  rw [load_eq_recordsOfRows] at h
  obtain ⟨row, hrow⟩ := recordsOfRows_eq_error h
  obtain ⟨before, content, after, front, part, behind, hline, hcontent, hstart, hstop, -⟩ :=
    Table.exists_part_of_pointsAtParts generator.pointsAtParts_recordOfRow hrow.mem hrow.fails
  exact ⟨_, report_of_part path error hline hcontent hstart hstop⟩

namespace CommandLine

/-- An outcome that tells a failure: its report, and status 1. -/
structure Tells (table : Document) (failure : Failure) (outcome : Outcome) : Prop where
  status : outcome.status = 1
  stderr : failure.report table = .ok outcome.stderr

/-- What is said of a failure is its report, if it has one. -/
theorem report_eq_reportOf {table : Document} {failure : Failure}
    (h : ∃ report, failure.report table = .ok report) :
    failure.report table = .ok (reportOf table failure) := by
  obtain ⟨report, hreport⟩ := h
  rw [reportOf, hreport]

/-! ### The ways in which a command ends -/

/-- The paths that a command works with: each is the one that is given, or else that of the
settings. -/
inductive Effective (tree : FileTree) (settingsFile : Option Text) (generator : Generator)
    (overrides : Overrides) : Paths → Prop where
  | mk {base paths : Paths} (hsettings : tree.Settles settingsFile generator (.ok base))
    (htable : paths.table = overrides.table.getD base.table)
    (htemplate : paths.template = overrides.template.getD base.template)
    (houtput : paths.output = overrides.output.getD base.output) :
    Effective tree settingsFile generator overrides paths

/-- What a command has when its table is loaded: the paths, the table's text and the records. -/
structure Loaded (tree : FileTree) (settingsFile : Option Text) (generator : Generator)
    (overrides : Overrides) (paths : Paths) (text : Text) (records : List Record) : Prop where
  effective : Effective tree settingsFile generator overrides paths
  read : tree.textOf paths.table = .ok text
  loaded : generator.load text = .ok records

/-- **How a command for a generator ends,** and what it leaves of the files. -/
inductive Concludes (tree : FileTree) (settingsFile : Option Text) (generator : Generator)
    (overrides : Overrides) : Outcome → FileTree → Prop where
  /-- The settings cannot be read or are none. -/
  | noSettings {failure : Failure} {outcome : Outcome}
    (hsettings : tree.Settles settingsFile generator (.error failure))
    (hstatus : outcome.status = 1)
    (hstderr : outcome.stderr = "error\n".toList ++ failure.message ++ ['\n']) :
    Concludes tree settingsFile generator overrides outcome tree
  /-- The table cannot be read. -/
  | noTable {paths : Paths} {reason : IoError} {outcome : Outcome}
    (hpaths : Effective tree settingsFile generator overrides paths)
    (htable : tree.textOf paths.table = .error reason) (hstatus : outcome.status = 1)
    (hstderr : outcome.stderr =
      "error\n".toList ++ (paths.table ++ ": ".toList ++ reason.tableMessage) ++ ['\n']) :
    Concludes tree settingsFile generator overrides outcome tree
  /-- The table does not load. -/
  | notLoaded {paths : Paths} {text : Text} {error : Table.Error} {outcome : Outcome}
    (hpaths : Effective tree settingsFile generator overrides paths)
    (htable : tree.textOf paths.table = .ok text) (hload : generator.load text = .error error)
    (htells : Tells ⟨paths.table, text⟩ (.table error) outcome) :
    Concludes tree settingsFile generator overrides outcome tree
  /-- The template cannot be read or is none. -/
  | noTemplate {paths : Paths} {text : Text} {records : List Record} {failure : Failure}
    {outcome : Outcome} (hloaded : Loaded tree settingsFile generator overrides paths text records)
    (htemplate : tree.templateOf paths.template = .error failure)
    (hfatal : failure.isFatal = false) (htells : Tells ⟨paths.table, text⟩ failure outcome) :
    Concludes tree settingsFile generator overrides outcome tree
  /-- The template has a fatal fault. -/
  | fatalTemplate {paths : Paths} {text : Text} {records : List Record} {failure : Failure}
    {outcome : Outcome} (hloaded : Loaded tree settingsFile generator overrides paths text records)
    (htemplate : tree.templateOf paths.template = .error failure)
    (hfatal : failure.isFatal = true) (hstatus : outcome.status = 101)
    (hstderr : outcome.stderr ≠ []) : Concludes tree settingsFile generator overrides outcome tree
  /-- The template makes no source of the records. -/
  | notRendered {paths : Paths} {text : Text} {records : List Record} {template : Liquid.Template}
    {failure : Failure} {outcome : Outcome}
    (hloaded : Loaded tree settingsFile generator overrides paths text records)
    (htemplate : tree.templateOf paths.template = .ok template)
    (hsource : generator.sourceOf template records = .error failure)
    (htells : Tells ⟨paths.table, text⟩ failure outcome) :
    Concludes tree settingsFile generator overrides outcome tree
  /-- The output cannot be written. -/
  | notWritten {paths : Paths} {text : Text} {records : List Record} {template : Liquid.Template}
    {source : Text} {reason : IoError} {outcome : Outcome}
    (hloaded : Loaded tree settingsFile generator overrides paths text records)
    (htemplate : tree.templateOf paths.template = .ok template)
    (hsource : generator.sourceOf template records = .ok source)
    (hwrite : tree.write paths.output (utf8 source) = .error reason)
    (htells : Tells ⟨paths.table, text⟩ (.io paths.output reason) outcome) :
    Concludes tree settingsFile generator overrides outcome tree
  /-- Every stage succeeds. -/
  | written {paths : Paths} {text : Text} {records : List Record} {template : Liquid.Template}
    {source : Text} {outcome : Outcome} {after : FileTree}
    (hloaded : Loaded tree settingsFile generator overrides paths text records)
    (htemplate : tree.templateOf paths.template = .ok template)
    (hsource : generator.sourceOf template records = .ok source)
    (hwritten : FileTree.Written tree paths.output (utf8 source) after)
    (hstatus : outcome.status = 0) (hstderr : outcome.stderr = []) :
    Concludes tree settingsFile generator overrides outcome after

section Commands

variable {tree : FileTree} {settingsFile : Option Text} {generator : Generator}
  {overrides : Overrides}

/-- **A command that fails touches no file,** and says that it fails. -/
theorem Concludes.eq_of_status_ne {outcome : Outcome} {after : FileTree}
    (h : Concludes tree settingsFile generator overrides outcome after)
    (hstatus : outcome.status ≠ 0) : after = tree ∧ outcome.stderr ≠ [] := by
  cases h with
  | noSettings _ _ hstderr | noTable _ _ _ hstderr =>
    refine ⟨rfl, ?_⟩
    rw [hstderr]
    exact List.append_ne_nil_of_right_ne_nil _ (List.cons_ne_nil _ _)
  | notLoaded _ _ _ htells | noTemplate _ _ _ htells | notRendered _ _ _ htells
  | notWritten _ _ _ _ htells => exact ⟨rfl, Failure.report_ne_nil htells.stderr⟩
  | fatalTemplate _ _ _ _ hstderr => exact ⟨rfl, hstderr⟩
  | written _ _ _ _ hzero => exact absurd hzero hstatus

/-! ### When a command ends on the spot -/

/-- A command works with one set of paths. -/
theorem Effective.unique {paths paths' : Paths}
    (h : Effective tree settingsFile generator overrides paths)
    (h' : Effective tree settingsFile generator overrides paths') : paths = paths' := by
  obtain ⟨hsettings, htable, htemplate, houtput⟩ := h
  obtain ⟨hsettings', htable', htemplate', houtput'⟩ := h'
  obtain rfl := Except.ok.inj (hsettings.unique hsettings')
  obtain ⟨table, template, output⟩ := paths
  obtain ⟨table', template', output'⟩ := paths'
  simp only at htable htemplate houtput htable' htemplate' houtput'
  rw [htable, htemplate, houtput, htable', htemplate', houtput']

/-- What a command has loaded is told by the tree and its arguments. -/
theorem Loaded.unique {paths paths' : Paths} {text text' : Text} {records records' : List Record}
    (h : Loaded tree settingsFile generator overrides paths text records)
    (h' : Loaded tree settingsFile generator overrides paths' text' records') :
    paths = paths' ∧ text = text' ∧ records = records' := by
  obtain rfl := h.effective.unique h'.effective
  obtain rfl := Except.ok.inj (h.read.symm.trans h'.read)
  obtain rfl := Except.ok.inj (h.loaded.symm.trans h'.loaded)
  exact ⟨rfl, rfl, rfl⟩

/-- The table is loaded, and the template has a fatal fault. -/
def MeetsFatalTemplate (tree : FileTree) (settingsFile : Option Text) (generator : Generator)
    (overrides : Overrides) : Prop :=
  ∃ paths text records failure, Loaded tree settingsFile generator overrides paths text records ∧
    tree.templateOf paths.template = .error failure ∧ failure.isFatal = true

/-- **The status is 0, 1 or 101,** and 101 exactly if the template has a fatal fault. Every case of
a conclusion is looked at from both sides: the stage it names excludes a fatal template, or it is
the stage of that template. -/
theorem Concludes.status {outcome : Outcome} {after : FileTree}
    (h : Concludes tree settingsFile generator overrides outcome after) :
    outcome.status = 101 ∧ MeetsFatalTemplate tree settingsFile generator overrides ∨
      (outcome.status = 0 ∨ outcome.status = 1) ∧
        ¬ MeetsFatalTemplate tree settingsFile generator overrides := by
  cases h with
  | noSettings hsettings hstatus =>
    refine .inr ⟨.inr hstatus, ?_⟩
    rintro ⟨paths, text, records, failure, ⟨⟨hsettings', -⟩, -⟩, -⟩
    cases hsettings.unique hsettings'
  | noTable hpaths htable hstatus =>
    refine .inr ⟨.inr hstatus, ?_⟩
    rintro ⟨paths, text, records, failure, hloaded, -⟩
    obtain rfl := hpaths.unique hloaded.effective
    cases htable.symm.trans hloaded.read
  | notLoaded hpaths htable hload htells =>
    refine .inr ⟨.inr htells.status, ?_⟩
    rintro ⟨paths, text, records, failure, hloaded, -⟩
    obtain rfl := hpaths.unique hloaded.effective
    obtain rfl := Except.ok.inj (htable.symm.trans hloaded.read)
    cases hload.symm.trans hloaded.loaded
  | noTemplate hloaded htemplate hfatal htells =>
    refine .inr ⟨.inr htells.status, ?_⟩
    rintro ⟨paths, text, records, failure, hloaded', htemplate', hfatal'⟩
    obtain ⟨rfl, -, -⟩ := hloaded.unique hloaded'
    obtain rfl := Except.error.inj (htemplate.symm.trans htemplate')
    cases hfatal.symm.trans hfatal'
  | fatalTemplate hloaded htemplate hfatal hstatus =>
    exact .inl ⟨hstatus, _, _, _, _, hloaded, htemplate, hfatal⟩
  | notRendered hloaded htemplate _ htells | notWritten hloaded htemplate _ _ htells =>
    refine .inr ⟨.inr htells.status, ?_⟩
    rintro ⟨paths, text, records, failure, hloaded', htemplate', -⟩
    obtain ⟨rfl, -, -⟩ := hloaded.unique hloaded'
    cases htemplate.symm.trans htemplate'
  | written hloaded htemplate _ _ hstatus =>
    refine .inr ⟨.inl hstatus, ?_⟩
    rintro ⟨paths, text, records, failure, hloaded', htemplate', -⟩
    obtain ⟨rfl, -, -⟩ := hloaded.unique hloaded'
    cases htemplate.symm.trans htemplate'

/-! ### Commands over a file tree -/

/-- What an outcome says of how a generation ended. -/
inductive Answers (table : Document) : Except Failure Nat → Outcome → Prop where
  | fatal {failure : Failure} {outcome : Outcome} (hfatal : failure.isFatal = true)
    (hstatus : outcome.status = 101) (hstderr : outcome.stderr ≠ []) :
    Answers table (.error failure) outcome
  | failure {failure : Failure} {outcome : Outcome} (hfatal : failure.isFatal = false)
    (hstatus : outcome.status = 1) (hstderr : outcome.stderr = reportOf table failure) :
    Answers table (.error failure) outcome
  | success {count : Nat} {outcome : Outcome} (hstatus : outcome.status = 0)
    (hstderr : outcome.stderr = []) : Answers table (.ok count) outcome

/-- A failure with a report that is not fatal is told. -/
theorem Answers.tells {table : Document} {failure : Failure} {outcome : Outcome}
    (h : Answers table (.error failure) outcome) (hfatal : failure.isFatal = false)
    (hreport : ∃ report, failure.report table = .ok report) : Tells table failure outcome := by
  cases h with
  | fatal hfatal' => cases hfatal.symm.trans hfatal'
  | failure _ hstatus hstderr => exact ⟨hstatus, by rw [hstderr, report_eq_reportOf hreport]⟩

/-- A run on a table that is read answers how the generation from it ended, with nothing in the way
of its echo, and shows what has been echoed unless it is quiet. -/
theorem run_runOnTable {paths : Paths} {text : Text} (htable : tree.textOf paths.table = .ok text)
    (generator : Generator) (quiet : Bool) (events : List Log.Event) :
    ∃ result received outcome after,
      (runOnTable generator paths quiet events : StateM FileTree Outcome).run tree =
        (outcome, after) ∧
      Answers ⟨paths.table, text⟩ result outcome ∧
      outcome.stdout = (if quiet then [] else received) ∧
      Echoed generator text paths tree none received result ∧
      Left generator text paths tree result after := by
  have hsink : (if quiet then none else some Sink.unlimited) =
      (if quiet then none else some none : Option (Option Nat)).map (Sink.filled · []) := by
    cases quiet <;> rfl
  have hlimit : (if quiet then none else some none : Option (Option Nat)).join = none := by
    cases quiet <;> rfl
  obtain ⟨⟨result, echo, ran⟩, received, after, hrun, hecho, hechoed, hleft⟩ :=
    generate_cases generator text paths tree (if quiet then none else some none)
  rw [hlimit] at hechoed
  have hstdout : (echo.map Sink.received).getD [] = if quiet then [] else received := by
    change echo = _ at hecho
    rw [hecho]
    cases quiet <;> rfl
  refine ⟨result, received, ?_⟩
  simp only [runOnTable, FileTree.run_bind, FileTree.run_readText, htable, hsink, hrun]
  cases result with
  | error failure =>
    cases hfatal : failure.isFatal with
    | true =>
      have hstderr : failure.message ++ ['\n'] ≠ [] :=
        List.append_ne_nil_of_right_ne_nil _ (List.cons_ne_nil _ _)
      simp only [hfatal, if_true]
      exact ⟨_, after, rfl, .fatal hfatal rfl hstderr, hstdout, hechoed, hleft⟩
    | false =>
      simp only [hfatal, Bool.false_eq_true, if_false]
      exact ⟨_, after, rfl, .failure hfatal rfl rfl, hstdout, hechoed, hleft⟩
  | ok count => exact ⟨_, after, rfl, .success rfl rfl, hstdout, hechoed, hleft⟩

/-- A generation that ends without a source has failed at its template: it could not be read, has a
fault, or did not render. In each case the files are as they were. -/
theorem concludes_of_rendering {paths : Paths} {text : Text} {records : List Record}
    {failure : Failure} {outcome : Outcome}
    (hloaded : Loaded tree settingsFile generator overrides paths text records)
    (hrender : tree.rendering generator paths records = .error failure)
    (h : Answers ⟨paths.table, text⟩ (.error failure) outcome) :
    Concludes tree settingsFile generator overrides outcome tree := by
  have hreport := Failure.exists_report (FileTree.ne_table_of_rendering hrender) ⟨paths.table, text⟩
  rw [FileTree.rendering_eq] at hrender
  cases htemplate : tree.templateOf paths.template with
  | error error =>
    rw [htemplate] at hrender
    obtain rfl := Except.error.inj hrender
    cases hfatal : error.isFatal with
    | true =>
      cases h with
      | fatal _ hstatus hstderr => exact .fatalTemplate hloaded htemplate hfatal hstatus hstderr
      | failure hfatal' => cases hfatal.symm.trans hfatal'
    | false => exact .noTemplate hloaded htemplate hfatal (h.tells hfatal hreport)
  | ok template =>
    rw [htemplate] at hrender
    have hfatal := Generator.isFatal_of_sourceOf hrender
    exact .notRendered hloaded htemplate hrender (h.tells hfatal hreport)

/-- A generation that has its source ends with the output: it could not be written, or it has been,
and no other file has changed. -/
theorem concludes_of_source {paths : Paths} {text : Text} {records : List Record} {source : Text}
    {outcome : Outcome} {after : FileTree}
    (hloaded : Loaded tree settingsFile generator overrides paths text records)
    (hrender : tree.rendering generator paths records = .ok source)
    (h : Answers ⟨paths.table, text⟩ (match tree.write paths.output (utf8 source) with
      | .error reason => .error (.io paths.output reason)
      | .ok _ => .ok records.length) outcome)
    (hleft : Left generator text paths tree (match tree.write paths.output (utf8 source) with
      | .error reason => .error (.io paths.output reason)
      | .ok _ => .ok records.length) after) :
    Concludes tree settingsFile generator overrides outcome after := by
  have hstages := hrender
  rw [FileTree.rendering_eq] at hstages
  obtain ⟨template, htemplate, hsource⟩ := exists_of_bind_eq_ok hstages
  cases hwrite : tree.write paths.output (utf8 source) with
  | error reason =>
    simp only [hwrite] at h hleft
    cases hleft
    exact .notWritten hloaded htemplate hsource hwrite (h.tells rfl ⟨_, rfl⟩)
  | ok written =>
    simp only [hwrite] at h hleft
    generalize records.length = count at hleft
    cases hleft with
    | written hload hrender' hwrite' =>
      obtain rfl := Except.ok.inj (hloaded.loaded.symm.trans hload)
      obtain rfl := Except.ok.inj (hrender.symm.trans hrender')
      cases h with
      | success hstatus hstderr =>
        exact .written hloaded htemplate hsource (FileTree.written_of_write hwrite') hstatus hstderr

/-- The stages from the table on. The file of the table is read, its rows are loaded, and the
generation goes on with them; each stage that fails is a case of the conclusion. -/
theorem runOnTable_concludes {paths : Paths}
    (hpaths : Effective tree settingsFile generator overrides paths) (quiet : Bool)
    (events : List Log.Event) :
    ∃ outcome after,
      (runOnTable generator paths quiet events : StateM FileTree Outcome).run tree =
        (outcome, after) ∧
      Concludes tree settingsFile generator overrides outcome after := by
  cases htable : tree.textOf paths.table with
  | error reason =>
    simp only [runOnTable, FileTree.run_bind, FileTree.run_readText, htable]
    exact ⟨_, tree, rfl, .noTable hpaths htable rfl rfl⟩
  | ok text =>
    obtain ⟨result, received, outcome, after, hrun, hanswers, -, hechoed, hleft⟩ :=
      run_runOnTable htable generator quiet events
    refine ⟨outcome, after, hrun, ?_⟩
    cases hechoed with
    | notLoaded hload =>
      cases hleft
      have hreport := Generator.exists_report_of_load hload paths.table
      exact .notLoaded hpaths htable hload (hanswers.tells rfl hreport)
    | notRendered hload _ hrender =>
      cases hleft
      exact concludes_of_rendering ⟨hpaths, htable, hload⟩ hrender hanswers
    | whole hload hrender =>
      exact concludes_of_source ⟨hpaths, htable, hload⟩ hrender hanswers hleft
    | inDump _ hlimit | behindDump _ hlimit | inSource _ _ hlimit => cases hlimit

/-- All stages. -/
theorem perform_concludes (tree : FileTree) (settingsFile : Option Text) (quiet : Bool)
    (generator : Generator) (overrides : Overrides) :
    ∃ outcome after,
      (perform settingsFile quiet (.generate generator overrides) :
        StateM FileTree Outcome).run tree = (outcome, after) ∧
      Concludes tree settingsFile generator overrides outcome after := by
  obtain ⟨result, events, hrun, hsettles⟩ := tree.run_loadSettings settingsFile
  simp only [perform, FileTree.run_bind, hrun]
  have hsettings := hsettles generator
  cases result with
  | error failure => exact ⟨_, tree, rfl, .noSettings hsettings rfl rfl⟩
  | ok settings => exact runOnTable_concludes ⟨hsettings, rfl, rfl, rfl⟩ quiet events

end Commands

/-- **A command for a generator** concludes in one of the ways, whatever the files are. It touches
no file unless it succeeds, and says so when it fails. Its status is 0 or 1 except that it is 101
when the table is loaded and the template has a fatal fault. -/
theorem run_concludes {generator : Generator} {settingsFile : Option Text} {quiet : Bool}
    {overrides : Overrides} {arguments : List Text}
    (h : Invokes generator settingsFile quiet overrides arguments) (tree : FileTree) :
    ∃ outcome after,
      (run arguments : StateM FileTree Outcome).run tree = (outcome, after) ∧
      Concludes tree settingsFile generator overrides outcome after ∧
      (outcome.status ≠ 0 → after = tree ∧ outcome.stderr ≠ []) ∧
      (outcome.status = 101 ∧ MeetsFatalTemplate tree settingsFile generator overrides ∨
        (outcome.status = 0 ∨ outcome.status = 1) ∧
          ¬ MeetsFatalTemplate tree settingsFile generator overrides) := by
  obtain ⟨outcome, after, hrun, hconcludes⟩ :=
    perform_concludes tree settingsFile quiet generator overrides
  refine ⟨outcome, after, ?_, hconcludes, hconcludes.eq_of_status_ne, hconcludes.status⟩
  rw [run, h.ofArguments?_eq]
  exact hrun

/-- Files for a run without settings: a table without rows and a template whose number has more than
64 bits. -/
def filesWithHugeNumber : FileTree := ⟨[
  (["home".toList], .directory),
  (["home".toList, "work".toList], .directory),
  (["home".toList, "work".toList, "3gpp_itu_interfaces.tsv".toList], .file (utf8 "h\n".toList)),
  (["home".toList, "work".toList, "templates".toList], .directory),
  (["home".toList, "work".toList, "templates".toList, "reference_points.liquid".toList],
    .file (utf8 "\x7b\x7b 9223372036854775808 \x7d\x7d".toList))]⟩

/-- A template with a number too large for an integer. A quiet run on these files ends with status
101, leaves them as they were and says why on the standard error. -/
theorem run_concludes_hugeNumber :
    Invokes .referencePoints none true ⟨none, none, some "out.java".toList⟩
        ["-q".toList, "reference-points".toList, "-o".toList, "out.java".toList] ∧
      ∃ outcome after,
        (run ["-q".toList, "reference-points".toList, "-o".toList, "out.java".toList] :
          StateM FileTree Outcome).run filesWithHugeNumber = (outcome, after) ∧
        Concludes filesWithHugeNumber none .referencePoints ⟨none, none, some "out.java".toList⟩
          outcome after ∧
        MeetsFatalTemplate filesWithHugeNumber none .referencePoints
          ⟨none, none, some "out.java".toList⟩ ∧
        outcome.status = 101 ∧ after = filesWithHugeNumber ∧ outcome.stderr ≠ [] := by
  have hinvokes : Invokes .referencePoints none true ⟨none, none, some "out.java".toList⟩
      ["-q".toList, "reference-points".toList, "-o".toList, "out.java".toList] :=
    ofArguments?_eq_run_iff.1 (by decide +kernel)
  have hevaluated : ((run ["-q".toList, "reference-points".toList, "-o".toList, "out.java".toList] :
      StateM FileTree Outcome).run filesWithHugeNumber).1.status = 101 := by decide +kernel
  obtain ⟨outcome, after, hrun, hconcludes, hunchanged, hstatus⟩ :=
    run_concludes hinvokes filesWithHugeNumber
  rw [hrun] at hevaluated
  change outcome.status = 101 at hevaluated
  have hne : outcome.status ≠ 0 := by omega
  rcases hstatus with ⟨h101, hfatal⟩ | ⟨hsmall, -⟩
  · exact ⟨hinvokes, outcome, after, hrun, hconcludes, hfatal, h101, hunchanged hne⟩
  · omega

end CommandLine
end TableCodegen
