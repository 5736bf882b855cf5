import Mathlib.Data.List.Basic
import TableCodegen.Proofs.Generation

/-!
# Runs one after the other

A run reads two files and writes at most one. So runs do not get in each other's way when no output
is an input of a run or on the way to a file of one, and outputs are shared only by repeated runs.
Then each of them comes to what it comes to alone, however many there are and in whatever order, and
together they leave what each leaves alone (`performAll_independent`).

The invariant is `After`: at the place of each output that has been written there is what its run
writes alone, and all other places are as they were.
-/

namespace TableCodegen

open Text

/-- A run on files: the generator, the paths of the files, and the echo. -/
structure Job where
  generator : Generator
  paths : Paths
  echo : Option Sink

/-- Reads the table of a job and runs the generator on it. -/
def Job.perform {m : Type → Type} [Monad m] [Storage m] (job : Job) :
    m (Except IoError Generation) := do
  match ← Storage.readText job.paths.table with
  | .error reason => return .error reason
  | .ok text => return .ok (← generate job.generator text job.paths job.echo)

/-! ### What a run changes -/

namespace FileTree

/-- A tree with a file written at a place, or as it is. -/
def change (tree : FileTree) : Option (Location × Bytes) → FileTree
  | none => tree
  | some (place, content) => tree.put place (.file content)

/-- The text of a path is told by the places on the way and the place that it leads to. -/
theorem textOf_congr {tree other : FileTree} {path : Text}
    (h : ∀ place ∈ tree.passed path, other.lookup place = tree.lookup place)
    (hplace : ∀ place, tree.locate path = .ok place → other.lookup place = tree.lookup place) :
    other.textOf path = tree.textOf path := by
  rw [textOf, textOf, read_congr h hplace]

/-- Paths that lead to the same place lead to the same text. -/
theorem textOf_of_locate {tree : FileTree} {path path' : Text}
    (h : tree.locate path = tree.locate path') : tree.textOf path = tree.textOf path' := by
  rw [textOf, textOf, read, read, h]

/-- A source is made by a template that has been read, so a run that comes to a source finds its
template. -/
theorem exists_of_rendering {tree : FileTree} {generator : Generator} {paths : Paths}
    {records : List Record} {source : Text}
    (h : tree.rendering generator paths records = .ok source) :
    ∃ template, tree.textOf paths.template = .ok template ∧
      renderRecords generator template records = .ok source := by
  unfold rendering at h
  cases htemplate : tree.textOf paths.template with
  | error reason =>
    rw [htemplate] at h
    cases h
  | ok template =>
    refine ⟨template, rfl, ?_⟩
    rw [htemplate] at h
    cases hrender : renderRecords generator template records with
    | error error =>
      simp only [hrender] at h
      cases h
    | ok text =>
      simp only [hrender] at h
      cases h
      rfl

end FileTree

/-- The change that a run makes to a tree: none if it fails, and else its source at the place of its
output. -/
inductive Changes (generator : Generator) (table : Text) (paths : Paths) (tree : FileTree) :
    Except Failure Nat → Option (Location × Bytes) → Prop where
  | none (failure : Failure) : Changes generator table paths tree (.error failure) none
  | source {records : List Record} {source : Text} {place : Location}
    (hload : generator.load table = .ok records)
    (hrender : tree.rendering generator paths records = .ok source)
    (htarget : tree.target paths.output = .ok place) :
    Changes generator table paths tree (.ok records.length) (some (place, utf8 source))

section Trees

variable {tree other : FileTree} {paths : Paths}

/-- The stages behind the dump come to the same on trees with the same template and the same place
for the output, and make the same change. -/
theorem run_emitSource_changes {generator : Generator} {table : Text} {records : List Record}
    (hload : generator.load table = .ok records)
    (htemplate : other.textOf paths.template = tree.textOf paths.template)
    (htarget : other.target paths.output = tree.target paths.output) (echo : Option Sink)
    (events : List Log.Event) :
    ∃ run change,
      (emitSource generator records paths echo events : StateM FileTree Generation).run tree =
        (run, tree.change change) ∧
      (emitSource generator records paths echo events : StateM FileTree Generation).run other =
        (run, other.change change) ∧
      Changes generator table paths tree run.outcome change := by
  have hrendering : other.rendering generator paths records =
      tree.rendering generator paths records := by
    rw [FileTree.rendering, FileTree.rendering, htemplate]
  rw [run_emitSource, run_emitSource, hrendering]
  cases hrender : tree.rendering generator paths records with
  | error failure =>
    refine ⟨_, none, rfl, rfl, ?_⟩
    exact .none failure
  | ok source =>
    cases hsink : Sink.writeTo echo source with
    | mk echo fits =>
      cases fits with
      | false =>
        simp only [hsink]
        refine ⟨_, none, rfl, rfl, ?_⟩
        exact .none _
      | true =>
        simp only [hsink, FileTree.write, htarget]
        cases hplace : tree.target paths.output with
        | error reason =>
          refine ⟨_, none, rfl, rfl, ?_⟩
          exact .none _
        | ok place =>
          refine ⟨_, some (place, utf8 source), rfl, rfl, ?_⟩
          exact .source hload hrender hplace

/-- **A run is told by its table, its template and the place for its output.** In two trees that
agree on these it comes to the same, and makes the same change to both. -/
theorem run_generate_changes (generator : Generator) (table : Text)
    (htemplate : other.textOf paths.template = tree.textOf paths.template)
    (htarget : other.target paths.output = tree.target paths.output) (echo : Option Sink) :
    ∃ run change,
      (generate generator table paths echo : StateM FileTree Generation).run tree =
        (run, tree.change change) ∧
      (generate generator table paths echo : StateM FileTree Generation).run other =
        (run, other.change change) ∧
      Changes generator table paths tree run.outcome change := by
  unfold generate
  cases hload : generator.load table with
  | error error =>
    refine ⟨_, none, rfl, rfl, ?_⟩
    exact .none _
  | ok records =>
    cases hdump : Sink.writeTo echo (Dump.records records) with
    | mk echo fits =>
      cases fits with
      | false =>
        simp only [hdump]
        refine ⟨_, none, rfl, rfl, ?_⟩
        exact .none _
      | true =>
        simp only [hdump]
        cases hline : Sink.writeTo echo ['\n'] with
        | mk echo fits =>
          cases fits with
          | false =>
            refine ⟨_, none, rfl, rfl, ?_⟩
            exact .none _
          | true => exact run_emitSource_changes hload htemplate htarget echo _

end Trees

namespace Job

/-- The change that a job makes to a tree, given what it comes to. -/
inductive Makes (job : Job) (tree : FileTree) :
    Except IoError Generation → Option (Location × Bytes) → Prop where
  /-- The table cannot be read. -/
  | unread (reason : IoError) : Makes job tree (.error reason) none
  | run {run : Generation} {table : Text} {change : Option (Location × Bytes)}
    (htable : tree.textOf job.paths.table = .ok table)
    (hchanges : Changes job.generator table job.paths tree run.outcome change) :
    Makes job tree (.ok run) change

/-- A tree on which a job finds what it finds on another one: the same inputs, and the same place
for its output. -/
structure FindsSame (job : Job) (tree other : FileTree) : Prop where
  table : other.textOf job.paths.table = tree.textOf job.paths.table
  template : other.textOf job.paths.template = tree.textOf job.paths.template
  target : other.target job.paths.output = tree.target job.paths.output

/-- **A job comes to the same, and makes the same change,** where it finds the same. -/
theorem FindsSame.perform {job : Job} {tree other : FileTree} (h : job.FindsSame tree other) :
    ∃ result change,
      (job.perform : StateM FileTree _).run tree = (result, tree.change change) ∧
      (job.perform : StateM FileTree _).run other = (result, other.change change) ∧
      job.Makes tree result change := by
  simp only [Job.perform, FileTree.run_bind, FileTree.run_readText, h.table]
  cases htable : tree.textOf job.paths.table with
  | error reason => exact ⟨_, none, rfl, rfl, .unread reason⟩
  | ok table =>
    obtain ⟨run, change, hrun, hother, hchanges⟩ :=
      run_generate_changes job.generator table h.template h.target job.echo
    simp only [FileTree.run_bind, hrun, hother]
    exact ⟨_, change, rfl, rfl, .run htable hchanges⟩

/-! ### Jobs alone -/

/-- What a job comes to on a tree. -/
def result (job : Job) (tree : FileTree) : Except IoError Generation :=
  ((job.perform : StateM FileTree _).run tree).1

/-- What a job leaves of a tree. -/
def after (job : Job) (tree : FileTree) : FileTree :=
  ((job.perform : StateM FileTree _).run tree).2

/-- A job succeeds on a tree. -/
def Succeeds (job : Job) (tree : FileTree) : Prop :=
  ∃ run count, job.result tree = .ok run ∧ run.outcome = .ok count

/-- The place of the output of a job, if a file can be written there. -/
def place? (job : Job) (tree : FileTree) : Option Location :=
  (tree.target job.paths.output).toOption

/-- A job succeeds on a tree, and its output is at a place. -/
def WritesTo (job : Job) (tree : FileTree) (place : Location) : Prop :=
  job.Succeeds tree ∧ place ∈ job.place? tree

/-- Two jobs are the same run on a tree: the same generator, and paths that lead to the same
inputs. -/
structure SameRun (tree : FileTree) (job other : Job) : Prop where
  generator : job.generator = other.generator
  table : tree.locate job.paths.table = tree.locate other.paths.table
  template : tree.locate job.paths.template = tree.locate other.paths.template

instance (tree : FileTree) (job other : Job) : Decidable (job.SameRun tree other) :=
  decidable_of_iff (job.generator = other.generator ∧
    tree.locate job.paths.table = tree.locate other.paths.table ∧
    tree.locate job.paths.template = tree.locate other.paths.template)
    ⟨fun ⟨h, h', h''⟩ => ⟨h, h', h''⟩, fun ⟨h, h', h''⟩ => ⟨h, h', h''⟩⟩

/-- A job writes to the place that its output path leads to, if the path can be written. -/
theorem mem_place?_iff {job : Job} {tree : FileTree} {place : Location} :
    place ∈ job.place? tree ↔ tree.target job.paths.output = .ok place := by
  unfold place?
  cases tree.target job.paths.output <;> simp [Except.toOption]

/-- What a job leaves is its change. -/
theorem exists_change (job : Job) (tree : FileTree) :
    ∃ change, job.after tree = tree.change change ∧ job.Makes tree (job.result tree) change := by
  have hfinds : job.FindsSame tree tree := ⟨rfl, rfl, rfl⟩
  obtain ⟨result, change, hrun, -, hmakes⟩ := hfinds.perform
  refine ⟨change, ?_, ?_⟩
  · rw [after, hrun]
  · rw [Job.result, hrun]
    exact hmakes

/-- A job that succeeds is one that makes a change at its place. There is at most one place, that of
its output, so a job writes nowhere else. -/
theorem Makes.writesTo_iff {job : Job} {tree : FileTree} {change : Option (Location × Bytes)}
    (h : job.Makes tree (job.result tree) change) (place : Location) :
    job.WritesTo tree place ↔ ∃ content, change = some (place, content) := by
  constructor
  · rintro ⟨⟨run, count, hresult, hcount⟩, hplace⟩
    rw [hresult] at h
    rw [mem_place?_iff] at hplace
    cases h with
    | run htable hchanges =>
      rw [hcount] at hchanges
      cases hchanges with
      | source hload hrender htarget =>
        obtain rfl := Except.ok.inj (htarget.symm.trans hplace)
        exact ⟨_, rfl⟩
  · rintro ⟨content, rfl⟩
    generalize hresult : job.result tree = result at h
    cases h with
    | @run run table _ htable hchanges =>
      generalize houtcome : run.outcome = outcome at hchanges
      cases hchanges with
      | source hload hrender htarget =>
        exact ⟨⟨run, _, hresult, houtcome⟩, mem_place?_iff.2 htarget⟩

/-- A job that succeeds leaves a file at its place, where there is no directory before. -/
theorem WritesTo.exists_content {job : Job} {tree : FileTree} {place : Location}
    (h : job.WritesTo tree place) :
    ∃ content, job.Makes tree (job.result tree) (some (place, content)) ∧
      FileTree.Written tree job.paths.output content (job.after tree) ∧
      (job.after tree).lookup place = some (.file content) ∧
      tree.lookup place ≠ some .directory := by
  obtain ⟨change, hafter, hmakes⟩ := job.exists_change tree
  obtain ⟨content, rfl⟩ := (hmakes.writesTo_iff place).1 h
  have htarget : tree.target job.paths.output = .ok place := mem_place?_iff.1 h.2
  have hwrite : tree.write job.paths.output content = .ok (job.after tree) := by
    rw [FileTree.write, htarget, hafter]
    rfl
  refine ⟨content, hmakes, FileTree.written_of_write hwrite, ?_,
    (FileTree.target_eq_ok htarget).2⟩
  rw [hafter]
  exact tree.lookup_put_self (FileTree.ne_nil_of_target htarget) _

/-- A job that succeeds writes somewhere. -/
theorem Succeeds.exists_place {job : Job} {tree : FileTree} (h : job.Succeeds tree) :
    ∃ place, job.WritesTo tree place := by
  obtain ⟨run, count, hresult, hcount⟩ := h
  obtain ⟨change, -, hmakes⟩ := job.exists_change tree
  rw [hresult] at hmakes
  cases hmakes with
  | run htable hchanges =>
    rw [hcount] at hchanges
    cases hchanges with
    | @source _ _ place hload hrender htarget =>
      exact ⟨place, ⟨run, _, hresult, hcount⟩, mem_place?_iff.2 htarget⟩

/-- A job writes to one place. -/
theorem WritesTo.place_unique {job : Job} {tree : FileTree} {place place' : Location}
    (h : job.WritesTo tree place) (h' : job.WritesTo tree place') : place = place' :=
  Option.mem_unique h.2 h'.2

/-- What is written is the source of the table. -/
theorem Makes.exists_source {job : Job} {tree : FileTree} {result : Except IoError Generation}
    {place : Location} {content : Bytes} (h : job.Makes tree result (some (place, content))) :
    ∃ table records source, tree.textOf job.paths.table = .ok table ∧
      job.generator.load table = .ok records ∧
      tree.rendering job.generator job.paths records = .ok source ∧
      tree.target job.paths.output = .ok place ∧ content = utf8 source := by
  cases h with
  | @run run table _ htable hchanges =>
    generalize run.outcome = outcome at hchanges
    cases hchanges with
    | source hload hrender htarget => exact ⟨table, _, _, htable, hload, hrender, htarget, rfl⟩

/-- The same run writes the same source. -/
theorem SameRun.content_eq {tree : FileTree} {job other : Job} (h : job.SameRun tree other)
    {result result' : Except IoError Generation} {place place' : Location}
    {content content' : Bytes} (hmakes : job.Makes tree result (some (place, content)))
    (hmakes' : other.Makes tree result' (some (place', content'))) : content = content' := by
  obtain ⟨table, records, source, htable, hload, hrender, -, rfl⟩ := hmakes.exists_source
  obtain ⟨table', records', source', htable', hload', hrender', -, rfl⟩ := hmakes'.exists_source
  obtain ⟨template, htemplate, hsource⟩ := FileTree.exists_of_rendering hrender
  obtain ⟨template', htemplate', hsource'⟩ := FileTree.exists_of_rendering hrender'
  rw [FileTree.textOf_of_locate h.table] at htable
  rw [FileTree.textOf_of_locate h.template] at htemplate
  obtain rfl := Except.ok.inj (htable.symm.trans htable')
  obtain rfl := Except.ok.inj (htemplate.symm.trans htemplate')
  rw [h.generator] at hload hsource
  obtain rfl := Except.ok.inj (hload.symm.trans hload')
  obtain rfl := Except.ok.inj (hsource.symm.trans hsource')
  rfl

end Job

/-- A job spares another one on a tree: where it can write its output, there is no input of the
other, no path of the other goes through, and if the other can write there, the two are the same
run. -/
structure Job.Spares (tree : FileTree) (job other : Job) : Prop where
  inputs : ∀ place ∈ job.place? tree,
    tree.locate other.paths.table ≠ .ok place ∧ tree.locate other.paths.template ≠ .ok place
  passed : ∀ place ∈ job.place? tree,
    place ∉ tree.passed other.paths.table ∧ place ∉ tree.passed other.paths.template ∧
      place ∉ tree.passed other.paths.output
  shared : ∀ place ∈ job.place? tree, place ∈ other.place? tree → job.SameRun tree other

instance (tree : FileTree) (job other : Job) : Decidable (job.Spares tree other) :=
  decidable_of_iff
    ((∀ place ∈ job.place? tree,
      tree.locate other.paths.table ≠ .ok place ∧ tree.locate other.paths.template ≠ .ok place) ∧
    (∀ place ∈ job.place? tree,
      place ∉ tree.passed other.paths.table ∧ place ∉ tree.passed other.paths.template ∧
        place ∉ tree.passed other.paths.output) ∧
    ∀ place ∈ job.place? tree, place ∈ other.place? tree → job.SameRun tree other)
    ⟨fun ⟨h, h', h''⟩ => ⟨h, h', h''⟩, fun ⟨h, h', h''⟩ => ⟨h, h', h''⟩⟩

/-- Jobs that do not get in each other's way on a tree. -/
def Independent (tree : FileTree) (jobs : List Job) : Prop :=
  ∀ job ∈ jobs, ∀ other ∈ jobs, job.Spares tree other

instance (tree : FileTree) (jobs : List Job) : Decidable (Independent tree jobs) :=
  inferInstanceAs (Decidable (∀ job ∈ jobs, ∀ other ∈ jobs, job.Spares tree other))

/-- A tree after some jobs: there is what each of them that succeeds writes alone, and all else is
as it was. -/
structure After (tree : FileTree) (done : List Job) (now : FileTree) : Prop where
  written : ∀ job ∈ done, ∀ place, job.WritesTo tree place →
    now.lookup place = (job.after tree).lookup place
  kept : ∀ place, (∀ job ∈ done, ¬ job.WritesTo tree place) → now.lookup place = tree.lookup place

section Sequences

variable {tree now : FileTree} {jobs done : List Job} {job : Job}

/-- There are directories at the places where there were directories before. -/
theorem After.directory_iff (h : After tree done now) (place : Location) :
    now.lookup place = some .directory ↔ tree.lookup place = some .directory := by
  by_cases hwritten : ∃ job ∈ done, job.WritesTo tree place
  · obtain ⟨job, hjob, hwrites⟩ := hwritten
    obtain ⟨content, -, -, hlookup, hdirectory⟩ := hwrites.exists_content
    rw [h.written job hjob place hwrites, hlookup]
    exact ⟨(nomatch ·), (absurd · hdirectory)⟩
  · rw [h.kept place fun job hjob hwrites => hwritten ⟨job, hjob, hwrites⟩]

/-- No output is at a place that a path of a job goes through. -/
theorem After.lookup_passed (h : After tree done now) (hindependent : Independent tree jobs)
    (hdone : done ⊆ jobs) (hjob : job ∈ jobs) {path : Text}
    (hpath : path = job.paths.table ∨ path = job.paths.template ∨ path = job.paths.output) :
    ∀ place ∈ tree.passed path, now.lookup place = tree.lookup place := by
  intro place hplace
  refine h.kept place fun other hother hwrites => ?_
  obtain ⟨htable, htemplate, houtput⟩ :=
    (hindependent other (hdone hother) job hjob).passed place hwrites.2
  rcases hpath with rfl | rfl | rfl
  · exact htable hplace
  · exact htemplate hplace
  · exact houtput hplace

/-- No output is at the place of an input of a job. -/
theorem After.lookup_input (h : After tree done now) (hindependent : Independent tree jobs)
    (hdone : done ⊆ jobs) (hjob : job ∈ jobs) {path : Text}
    (hpath : path = job.paths.table ∨ path = job.paths.template) :
    ∀ place, tree.locate path = .ok place → now.lookup place = tree.lookup place := by
  intro place hplace
  refine h.kept place fun other hother hwrites => ?_
  obtain ⟨htable, htemplate⟩ :=
    (hindependent other (hdone hother) job hjob).inputs place hwrites.2
  rcases hpath with rfl | rfl
  · exact htable hplace
  · exact htemplate hplace

/-- A job finds what it finds at first, whatever other jobs are done. -/
theorem After.findsSame (h : After tree done now) (hindependent : Independent tree jobs)
    (hdone : done ⊆ jobs) (hjob : job ∈ jobs) : job.FindsSame tree now := by
  refine ⟨?_, ?_, ?_⟩
  · exact FileTree.textOf_congr (h.lookup_passed hindependent hdone hjob (.inl rfl))
      (h.lookup_input hindependent hdone hjob (.inl rfl))
  · exact FileTree.textOf_congr (h.lookup_passed hindependent hdone hjob (.inr (.inl rfl)))
      (h.lookup_input hindependent hdone hjob (.inr rfl))
  · refine FileTree.target_congr (h.lookup_passed hindependent hdone hjob (.inr (.inr rfl)))
      fun place _ => ?_
    exact h.directory_iff place

/-- The output of a job that succeeds reads as it does behind the job alone. -/
theorem After.read_output (h : After tree jobs now) (hindependent : Independent tree jobs)
    (hjob : job ∈ jobs) (hsucceeds : job.Succeeds tree) :
    now.read job.paths.output = (job.after tree).read job.paths.output := by
  obtain ⟨place, hwrites⟩ := hsucceeds.exists_place
  obtain ⟨content, -, hwritten, hlookup, -⟩ := hwrites.exists_content
  have hlocate : now.locate job.paths.output = .ok place := by
    rw [FileTree.locate_congr (h.lookup_passed hindependent (List.Subset.refl _) hjob
      (.inr (.inr rfl)))]
    exact (FileTree.target_eq_ok (Job.mem_place?_iff.1 hwrites.2)).1
  have hplace : now.lookup place = some (.file content) := by
    rw [h.written job hjob place hwrites, hlookup]
  rw [hwritten.read, FileTree.read, hlocate]
  simp only [bind, Except.bind, hplace]
  rfl

/-- A job that fails leaves a tree that is after it as well. -/
theorem After.skip (h : After tree done now) (hfails : ∀ place, ¬ job.WritesTo tree place) :
    After tree (job :: done) now := by
  constructor
  · intro other hother place hplace
    rcases List.mem_cons.1 hother with rfl | hother
    · exact absurd hplace (hfails place)
    · exact h.written other hother place hplace
  · intro place hplace
    exact h.kept place fun other hother => hplace other (List.mem_cons_of_mem _ hother)

/-- A job that succeeds leaves a tree that is after it, if all that write to its place write the
same. -/
theorem After.put {place : Location} {content : Bytes} (h : After tree done now)
    (hwrites : job.WritesTo tree place)
    (hsame : ∀ other ∈ job :: done, other.WritesTo tree place →
      (other.after tree).lookup place = some (.file content)) :
    After tree (job :: done) (now.put place (.file content)) := by
  have hroot : place ≠ [] := FileTree.ne_nil_of_target (Job.mem_place?_iff.1 hwrites.2)
  constructor
  · intro other hother place' hplace'
    by_cases heq : place' = place
    · rw [heq] at hplace' ⊢
      rw [now.lookup_put_self hroot, hsame other hother hplace']
    · rw [now.lookup_put_of_ne heq]
      rcases List.mem_cons.1 hother with rfl | hother
      · exact absurd (hplace'.place_unique hwrites) heq
      · exact h.written other hother place' hplace'
  · intro place' hplace'
    have hne : place' ≠ place := by
      rintro rfl
      exact hplace' job List.mem_cons_self hwrites
    rw [now.lookup_put_of_ne hne]
    exact h.kept place' fun other hother => hplace' other (List.mem_cons_of_mem _ hother)

/-- **One more job keeps the invariant,** and comes to what it comes to alone. It finds what it
would find at first, as no other job writes to a place that it looks at. -/
theorem After.perform (h : After tree done now) (hindependent : Independent tree jobs)
    (hdone : done ⊆ jobs) (hjob : job ∈ jobs) :
    ∃ later, (job.perform : StateM FileTree _).run now = (job.result tree, later) ∧
      After tree (job :: done) later := by
  obtain ⟨result, change, hrun, hnow, hmakes⟩ := (h.findsSame hindependent hdone hjob).perform
  obtain rfl : job.result tree = result := by rw [Job.result, hrun]
  refine ⟨now.change change, hnow, ?_⟩
  cases change with
  | none =>
    refine h.skip fun place hplace => ?_
    obtain ⟨content, hcontent⟩ := (hmakes.writesTo_iff place).1 hplace
    cases hcontent
  | some target =>
    obtain ⟨place, content⟩ := target
    have hwrites : job.WritesTo tree place := (hmakes.writesTo_iff place).2 ⟨content, rfl⟩
    -- What a job done before has left at this place is overwritten, and has to be the same.
    refine h.put hwrites fun other hother hother' => ?_
    have hspares : job.Spares tree other :=
      hindependent job hjob other (List.cons_subset.2 ⟨hjob, hdone⟩ hother)
    have hsame : job.SameRun tree other := hspares.shared place hwrites.2 hother'.2
    obtain ⟨content', hmakes', -, hlookup, -⟩ := hother'.exists_content
    rw [hlookup, hsame.content_eq hmakes hmakes']

/-- **All jobs of a sequence,** behind others that are done. The induction is on the jobs to do,
with the jobs done and the tree as variables, as each job moves from the one list to the other. -/
theorem After.performAll (hindependent : Independent tree jobs) :
    ∀ {todo done : List Job} {now : FileTree}, After tree done now → done ⊆ jobs → todo ⊆ jobs →
      ∃ later, (todo.mapM Job.perform : StateM FileTree _).run now =
          (todo.map (·.result tree), later) ∧
        After tree (todo.reverse ++ done) later := by
  intro todo
  induction todo with
  | nil => exact fun h _ _ => ⟨_, rfl, h⟩
  | cons job todo ih =>
    intro done now h hdone htodo
    obtain ⟨hjob, htodo⟩ := List.cons_subset.1 htodo
    obtain ⟨next, hnext, hafter⟩ := h.perform hindependent hdone hjob
    obtain ⟨later, hlater, hall⟩ := ih hafter (List.cons_subset.2 ⟨hjob, hdone⟩) htodo
    refine ⟨later, ?_, ?_⟩
    · rw [List.mapM_cons, FileTree.run_bind, hnext, FileTree.run_bind, hlater]
      rfl
    · rw [List.reverse_cons, List.append_assoc]
      exact hall

/-- Before any job is done all places are as they were. -/
theorem After.nil (tree : FileTree) : After tree [] tree :=
  ⟨fun _ hjob => absurd hjob List.not_mem_nil, fun _ _ => rfl⟩

/-- What jobs have left depends on which of them have been done, not on their order or number. -/
theorem After.congr (h : After tree done now) {others : List Job}
    (hmem : ∀ job, job ∈ others ↔ job ∈ done) : After tree others now := by
  constructor
  · exact fun job hjob => h.written job ((hmem job).1 hjob)
  · exact fun place hplace => h.kept place fun job hjob => hplace job ((hmem job).2 hjob)

/-- A sequence of jobs from its start on. -/
theorem exists_after_performAll (h : Independent tree jobs) :
    ∃ later, (jobs.mapM Job.perform : StateM FileTree _).run tree =
        (jobs.map (·.result tree), later) ∧ After tree jobs later := by
  obtain ⟨later, hrun, hafter⟩ :=
    (After.nil tree).performAll h (List.nil_subset _) (List.Subset.refl jobs)
  exact ⟨later, hrun, hafter.congr fun job => by simp⟩

end Sequences

/-- **Runs are repeatable and independent of each other.** In a sequence of jobs that do not get in
each other's way every one comes to what it comes to alone. Behind it there is what each job that
succeeds writes alone, at the place of its output, and all else is as it was. -/
theorem performAll_independent {tree : FileTree} {jobs : List Job} (h : Independent tree jobs) :
    ∃ later, (jobs.mapM Job.perform : StateM FileTree _).run tree =
        (jobs.map (·.result tree), later) ∧
      After tree jobs later ∧
      ∀ job ∈ jobs, job.Succeeds tree →
        later.read job.paths.output = (job.after tree).read job.paths.output := by
  obtain ⟨later, hrun, hafter⟩ := exists_after_performAll h
  exact ⟨later, hrun, hafter, fun job hjob hsucceeds => hafter.read_output h hjob hsucceeds⟩

/-- Files for runs of both generators: a table for each, the one of them with one row and the other
with a marked one, and a template for each. -/
def filesForBoth : FileTree := ⟨[
  (["home".toList], .directory),
  (["home".toList, "work".toList], .directory),
  (["home".toList, "work".toList, "t1".toList], .file (utf8 "h\nUu\tp\te\td\tr\n".toList)),
  (["home".toList, "work".toList, "t2".toList], .file (utf8 "h\nx\n".toList)),
  (["home".toList, "work".toList, "r1".toList],
    .file (utf8 "\x7b\x7b interfaces.size \x7d\x7d".toList)),
  (["home".toList, "work".toList, "r2".toList],
    .file (utf8 "\x7b\x7b elements.size \x7d\x7d".toList))]⟩

/-- A job of each generator, one without a template, and the first one once more, by other paths
and with an echo. -/
def jobsForBoth : List Job := [
  ⟨.referencePoints, ⟨"t1".toList, "r1".toList, "o1".toList⟩, none⟩,
  ⟨.informationElements, ⟨"t2".toList, "r2".toList, "o2".toList⟩, none⟩,
  ⟨.informationElements, ⟨"t2".toList, "r3".toList, "o3".toList⟩, none⟩,
  ⟨.referencePoints, ⟨"t1".toList, "../work/r1".toList, "./o1".toList⟩, some Sink.unlimited⟩]

/-- These jobs do not get in each other's way, and leave two outputs. -/
theorem performAll_forBoth :
    Independent filesForBoth jobsForBoth ∧
      ∃ later, (jobsForBoth.mapM Job.perform : StateM FileTree _).run filesForBoth =
          (jobsForBoth.map (·.result filesForBoth), later) ∧
        After filesForBoth jobsForBoth later ∧
        later.textOf "o1".toList = .ok "1".toList ∧ later.textOf "o2".toList = .ok "0".toList ∧
        later.textOf "o3".toList = .error .notFound := by
  have hindependent : Independent filesForBoth jobsForBoth := by decide +kernel
  have hevaluated :
      let later := ((jobsForBoth.mapM Job.perform : StateM FileTree _).run filesForBoth).2
      later.textOf "o1".toList = .ok "1".toList ∧ later.textOf "o2".toList = .ok "0".toList ∧
        later.textOf "o3".toList = .error .notFound := by decide +kernel
  obtain ⟨later, hrun, hafter, -⟩ := performAll_independent hindependent
  rw [hrun] at hevaluated
  exact ⟨hindependent, later, hrun, hafter, hevaluated⟩

end TableCodegen
