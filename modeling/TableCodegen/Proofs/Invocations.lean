import TableCodegen.CommandLine.Request
import TableCodegen.Proofs.Switches
import Mathlib.Data.List.Perm.Basic

/-!
# Invocations of the generators

A generator is invoked by the switches for all commands, the name of the command, and the switches
for its paths, in any order and each at most once. `Invokes` says so in terms of the grammar of
switches, and `ofArguments?_eq_run_iff` that these are all the arguments that ask for a generator
run.
-/

namespace TableCodegen
namespace CommandLine

/-- The name of the command of a generator. -/
def commandName : Generator → Text
  | .referencePoints => "reference-points".toList
  | .informationElements => "gtpv2-ies".toList

/-- The switch that an item is about. -/
def Item.key? {κ : Type} : Item κ → Option κ
  | .flag key => some key
  | .setting key _ => some key
  | _ => none

/-- The settings that name the given paths. -/
def Overrides.items (overrides : Overrides) : List (Item PathKey) :=
  overrides.table.toList.map (.setting .table) ++
    (overrides.template.toList.map (.setting .template) ++
      overrides.output.toList.map (.setting .output))

/-- The path that overrides give to a switch. -/
def Overrides.get (overrides : Overrides) : PathKey → Option Text
  | .table => overrides.table
  | .template => overrides.template
  | .output => overrides.output
  | .help => none

/-- What the switches for all commands say, given a settings file and that a run is quiet. -/
def globalItems (settingsFile : Option Text) (quiet : Bool) : List (Item GlobalKey) :=
  settingsFile.toList.map (.setting .config) ++ if quiet then [.flag .quiet] else []

/-- **The arguments of a generator run.** Behind the last switch `--` may stand. -/
structure Invokes (generator : Generator) (settingsFile : Option Text) (quiet : Bool)
    (overrides : Overrides) (arguments : List Text) : Prop where
  spelled : ∃ before behind stop globals paths,
    arguments = before ++ commandName generator :: (behind ++ stop) ∧
    Spelled globalSwitches before globals ∧
    globals.Perm (globalItems settingsFile quiet) ∧
    Spelled pathSwitches behind paths ∧
    paths.Perm overrides.items ∧
    (stop = [] ∨ stop = [['-', '-']])
  settingsFile_ne : settingsFile ≠ some []
  paths_ne : ∀ key, overrides.get key ≠ some []

/-! ### The paths of a run -/

namespace Overrides

/-- The settings of overrides, one by one. -/
theorem mem_items {overrides : Overrides} {item : Item PathKey} :
    item ∈ overrides.items ↔
      (∃ path, overrides.table = some path ∧ item = .setting .table path) ∨
      (∃ path, overrides.template = some path ∧ item = .setting .template path) ∨
      ∃ path, overrides.output = some path ∧ item = .setting .output path := by
  simp [items, eq_comm]

/-- Overrides give each switch one path at most. -/
theorem nodup_items (overrides : Overrides) : (overrides.items.map Item.key?).Nodup := by
  obtain ⟨table, template, output⟩ := overrides
  cases table <;> cases template <;> cases output <;> simp [items, Item.key?]

/-- The order of settings does not matter: overrides with the same settings in another order are the
same. -/
theorem eq_of_perm {before after : Overrides} (h : before.items.Perm after.items) :
    before = after := by
  obtain ⟨table, template, output⟩ := before
  obtain ⟨table', template', output'⟩ := after
  have hmem := fun item => h.mem_iff (a := item)
  simp only [mem_items] at hmem
  congr
  · refine Option.ext fun path => ?_
    simpa using hmem (.setting .table path)
  · refine Option.ext fun path => ?_
    simpa using hmem (.setting .template path)
  · refine Option.ext fun path => ?_
    simpa using hmem (.setting .output path)

/-- No path is given twice. -/
theorem not_perm_twice {before after : Overrides} {key : PathKey} {first second : Text}
    {items : List (Item PathKey)} (hfirst : .setting key first ∈ before.items) :
    ¬ (before.items ++ .setting key second :: items).Perm after.items := by
  intro h
  have hnodup := (h.map Item.key?).nodup_iff.2 after.nodup_items
  rw [List.map_append, List.nodup_append] at hnodup
  exact hnodup.2.2 (some key) (List.mem_map.2 ⟨_, hfirst, rfl⟩) (some key) (by simp [Item.key?]) rfl

/-- Overrides with a path for a switch. -/
def set (overrides : Overrides) (path : Text) : PathKey → Overrides
  | .table => { overrides with table := some path }
  | .template => { overrides with template := some path }
  | .output => { overrides with output := some path }
  | .help => overrides

/-- A path that overrides give is one of their settings. -/
theorem mem_items_of_get {overrides : Overrides} {key : PathKey} {path : Text}
    (h : overrides.get key = some path) : .setting key path ∈ overrides.items := by
  rw [mem_items]
  cases key with
  | table => exact .inl ⟨path, h, rfl⟩
  | template => exact .inr (.inl ⟨path, h, rfl⟩)
  | output => exact .inr (.inr ⟨path, h, rfl⟩)
  | help => cases h

/-- A setting of overrides is the path that they give to its switch. -/
theorem get_of_mem_items {overrides : Overrides} {key : PathKey} {path : Text}
    (h : .setting key path ∈ overrides.items) : overrides.get key = some path := by
  rcases mem_items.1 h with ⟨_, hpath, heq⟩ | ⟨_, hpath, heq⟩ | ⟨_, hpath, heq⟩
  · cases heq
    exact hpath
  · cases heq
    exact hpath
  · cases heq
    exact hpath

/-- **A path for a switch without one adds one setting.** Settings are listed by their switch, so
the new one may come to stand between the others, and the lists agree up to order only. -/
theorem items_set {overrides : Overrides} {key : PathKey} (hkey : key ≠ .help)
    (h : overrides.get key = none) (path : Text) :
    (overrides.set path key).items.Perm (.setting key path :: overrides.items) := by
  obtain ⟨table, template, output⟩ := overrides
  cases key with
  | table =>
    obtain rfl : table = none := h
    exact .refl _
  | template =>
    obtain rfl : template = none := h
    exact List.perm_middle
  | output =>
    obtain rfl : output = none := h
    simp only [items, set, Option.toList_some, Option.toList_none, List.map_cons, List.map_nil,
      ← List.append_assoc, List.append_nil]
    exact List.perm_append_singleton _ _
  | help => exact absurd rfl hkey

end Overrides

/-- A setting is taken if it is the first of its switch and its path is not empty. One statement for
the three switches: which field of the overrides is looked at and set is told by the switch. -/
theorem generatorGoal_setting (generator : Generator) (before : Overrides) {key : PathKey}
    (hkey : key ≠ .help) (path : Text) (items : List (Item PathKey)) :
    generatorGoal generator before (.setting key path :: items) =
      if before.get key = none ∧ path ≠ [] then
        generatorGoal generator (before.set path key) items
      else none := by
  have honce : once (before.get key) path =
      if before.get key = none ∧ path ≠ [] then some (some path) else none := by
    simp only [once, Option.isNone_iff_eq_none]
  by_cases htaken : before.get key = none ∧ path ≠ []
  · rw [if_pos htaken] at honce ⊢
    cases key with
    | help => exact absurd rfl hkey
    | _ =>
      rw [Overrides.get] at honce
      simp only [generatorGoal, honce]
      rfl
  · rw [if_neg htaken] at honce ⊢
    cases key with
    | help => exact absurd rfl hkey
    | _ =>
      rw [Overrides.get] at honce
      simp only [generatorGoal, honce]
      rfl

/-- Nothing but settings of paths makes a generator run. -/
theorem generatorGoal_other {generator : Generator} {before : Overrides} {item : Item PathKey}
    (h : ¬ ∃ key path, item = .setting key path ∧ key ≠ .help) (items : List (Item PathKey))
    (task : Task) : generatorGoal generator before (item :: items) ≠ some (.task task) := by
  cases item with
  | setting key path =>
    cases key with
    | help => nofun
    | _ => exact absurd ⟨_, path, rfl, nofun⟩ h
  | flag key => cases key <;> nofun
  | _ => nofun

/-- What makes overrides a run of a generator: items that give each further path once. -/
def Completes (generator : Generator) (before : Overrides) (items : List (Item PathKey))
    (task : Task) : Prop :=
  ∃ after, task = .generate generator after ∧ (before.items ++ items).Perm after.items ∧
    ∀ key path, .setting key path ∈ items → path ≠ []

section Completion

variable {generator : Generator} {before : Overrides} {items : List (Item PathKey)} {task : Task}
  {key : PathKey} {path : Text}

/-- A first path for a switch joins those before, so taking it moves it from the items that are to
come to the overrides that are given. -/
theorem completes_cons (hkey : key ≠ .help) (hget : before.get key = none) (hpath : path ≠ []) :
    Completes generator before (.setting key path :: items) task ↔
      Completes generator (before.set path key) items task := by
  have hset : ((before.set path key).items ++ items).Perm
      (.setting key path :: (before.items ++ items)) :=
    (Overrides.items_set hkey hget path).append_right items
  have hmiddle : (before.items ++ .setting key path :: items).Perm
      ((before.set path key).items ++ items) := List.perm_middle.trans hset.symm
  constructor
  · rintro ⟨after, rfl, hperm, hvalues⟩
    exact ⟨after, rfl, hmiddle.symm.trans hperm, fun key' path' hmem =>
      hvalues key' path' (List.mem_cons_of_mem _ hmem)⟩
  · rintro ⟨after, rfl, hperm, hvalues⟩
    refine ⟨after, rfl, hmiddle.trans hperm, fun key' path' hmem => ?_⟩
    rcases List.mem_cons.1 hmem with heq | hmem
    · cases heq
      exact hpath
    · exact hvalues key' path' hmem

/-- A second path for a switch makes no run, and neither does an empty one. -/
theorem not_completes_of_taken (h : ¬ (before.get key = none ∧ path ≠ [])) :
    ¬ Completes generator before (.setting key path :: items) task := by
  rintro ⟨after, -, hperm, hvalues⟩
  have hne : path ≠ [] := hvalues key path List.mem_cons_self
  cases hget : before.get key with
  | none => exact h ⟨hget, hne⟩
  | some first => exact Overrides.not_perm_twice (Overrides.mem_items_of_get hget) hperm

/-- Anything but the setting of a path makes no run, a request for help included. -/
theorem not_completes_of_other {item : Item PathKey}
    (h : ¬ ∃ key path, item = .setting key path ∧ key ≠ .help) :
    ¬ Completes generator before (item :: items) task := by
  rintro ⟨after, -, hperm, -⟩
  have hmem := hperm.subset (List.mem_append_right before.items List.mem_cons_self)
  rcases Overrides.mem_items.1 hmem with ⟨path, -, rfl⟩ | ⟨path, -, rfl⟩ | ⟨path, -, rfl⟩
  · exact h ⟨_, path, rfl, nofun⟩
  · exact h ⟨_, path, rfl, nofun⟩
  · exact h ⟨_, path, rfl, nofun⟩

/-- **Items behind overrides make further overrides** exactly when they give each further path once,
and none of them is empty. -/
theorem generatorGoal_eq_task_iff :
    generatorGoal generator before items = some (.task task) ↔
      Completes generator before items task := by
  -- The goal goes through the items with the paths it has taken so far, so the induction is for all
  -- of them, and what is left of the items has to complete them.
  induction items generalizing before with
  | nil =>
    rw [Completes, List.append_nil]
    constructor
    · rintro ⟨⟩
      exact ⟨before, rfl, .refl _, nofun⟩
    · rintro ⟨after, rfl, hperm, -⟩
      rw [Overrides.eq_of_perm hperm]
      rfl
  | cons item items ih =>
    by_cases hitem : ∃ key path, item = .setting key path ∧ key ≠ .help
    · obtain ⟨key, path, rfl, hkey⟩ := hitem
      rw [generatorGoal_setting generator before hkey]
      by_cases htaken : before.get key = none ∧ path ≠ []
      · rw [if_pos htaken, ih, completes_cons hkey htaken.1 htaken.2]
      · rw [if_neg htaken]
        exact iff_of_false nofun (not_completes_of_taken htaken)
    · exact iff_of_false (generatorGoal_other hitem items task) (not_completes_of_other hitem)

end Completion

/-! ### The switches for all commands -/

/-- What the switches for all commands say, one by one. -/
theorem mem_globalItems {settingsFile : Option Text} {quiet : Bool} {item : Item GlobalKey} :
    item ∈ globalItems settingsFile quiet ↔
      (∃ path, settingsFile = some path ∧ item = .setting .config path) ∨
      (quiet = true ∧ item = .flag .quiet) := by
  cases quiet <;> simp [globalItems, eq_comm]

/-- Each of them is said once at most. -/
theorem nodup_globalItems (settingsFile : Option Text) (quiet : Bool) :
    ((globalItems settingsFile quiet).map Item.key?).Nodup := by
  cases settingsFile <;> cases quiet <;> simp [globalItems, Item.key?]

/-- Their order does not matter. -/
theorem eq_of_perm_globalItems {before after : Option Text} {quiet quiet' : Bool}
    (h : (globalItems before quiet).Perm (globalItems after quiet')) :
    before = after ∧ quiet = quiet' := by
  have hmem := fun item => h.mem_iff (a := item)
  simp only [mem_globalItems] at hmem
  constructor
  · refine Option.ext fun path => ?_
    simpa using hmem (.setting .config path)
  · rw [Bool.eq_iff_iff]
    simpa using hmem (.flag .quiet)

/-- No switch is given twice. -/
theorem not_perm_globalItems {before after : Option Text} {quiet quiet' : Bool}
    {first second : Item GlobalKey} {items : List (Item GlobalKey)}
    (hfirst : first ∈ globalItems before quiet) (hkey : first.key? = second.key?) :
    ¬ (globalItems before quiet ++ second :: items).Perm (globalItems after quiet') := by
  intro h
  have hnodup := (h.map Item.key?).nodup_iff.2 (nodup_globalItems after quiet')
  rw [List.map_append, List.nodup_append] at hnodup
  exact hnodup.2.2 _ (List.mem_map.2 ⟨first, hfirst, rfl⟩) _ List.mem_cons_self hkey

/-- What makes a request to run a task: switches, then the name of a command and its arguments. -/
def AsksFor (settingsFile : Option Text) (quiet : Bool) (items : List (Item GlobalKey))
    (settingsFile' : Option Text) (quiet' : Bool) (task : Task) : Prop :=
  ∃ given name following others, items = given ++ .operand name following :: others ∧
    (globalItems settingsFile quiet ++ given).Perm (globalItems settingsFile' quiet') ∧
    (∀ path, .setting .config path ∈ given → path ≠ []) ∧
    commandGoal name following = some (.task task)

section Requests

variable {settingsFile settingsFile' : Option Text} {quiet quiet' : Bool} {task : Task}
  {items : List (Item GlobalKey)}

/-- The switch in front of the others joins those before. The two switches for all commands are
treated alike, told only by what is said before and after. -/
theorem asksFor_cons {item : Item GlobalKey} {file : Option Text} {silent : Bool}
    (hperm : (globalItems file silent).Perm (item :: globalItems settingsFile quiet))
    (hpath : ∀ path, item = .setting .config path → path ≠ [])
    (hoperand : ∀ name following, item ≠ .operand name following) :
    AsksFor settingsFile quiet (item :: items) settingsFile' quiet' task ↔
      AsksFor file silent items settingsFile' quiet' task := by
  have hjoin : ∀ given, (globalItems settingsFile quiet ++ item :: given).Perm
      (globalItems file silent ++ given) := fun given =>
    List.perm_middle.trans (hperm.symm.append_right given)
  constructor
  · rintro ⟨given, name, following, others, hitems, hgiven, hpaths, hgoal⟩
    cases given with
    | nil => exact absurd (List.cons.inj hitems).1 (hoperand name following)
    | cons _ given =>
      obtain ⟨rfl, rfl⟩ := List.cons.inj hitems
      exact ⟨given, name, following, others, rfl, (hjoin given).symm.trans hgiven,
        fun path hmem => hpaths path (List.mem_cons_of_mem _ hmem), hgoal⟩
  · rintro ⟨given, name, following, others, rfl, hgiven, hpaths, hgoal⟩
    refine ⟨item :: given, name, following, others, rfl, (hjoin given).trans hgiven,
      fun path hmem => ?_, hgoal⟩
    rcases List.mem_cons.1 hmem with heq | hmem
    · exact hpath path heq.symm
    · exact hpaths path hmem

/-- A switch that is there already, or that a run does not know, makes no request to run. -/
theorem not_asksFor_cons {item : Item GlobalKey}
    (hoperand : ∀ name following, item ≠ .operand name following)
    (h : ∀ given, (∀ path, .setting .config path ∈ item :: given → path ≠ []) →
      ¬ (globalItems settingsFile quiet ++ item :: given).Perm (globalItems settingsFile' quiet')) :
    ¬ AsksFor settingsFile quiet (item :: items) settingsFile' quiet' task := by
  rintro ⟨given, name, following, others, hitems, hgiven, hpaths, -⟩
  cases given with
  | nil => exact absurd (List.cons.inj hitems).1 (hoperand name following)
  | cons _ given =>
    obtain ⟨rfl, rfl⟩ := List.cons.inj hitems
    exact h given hpaths hgiven

/-- A switch that is there already makes no request to run. -/
theorem not_asksFor_twice {first second : Item GlobalKey}
    (hfirst : first ∈ globalItems settingsFile quiet) (hkey : first.key? = second.key?)
    (hoperand : ∀ name following, second ≠ .operand name following) :
    ¬ AsksFor settingsFile quiet (second :: items) settingsFile' quiet' task :=
  not_asksFor_cons hoperand fun _ _ => not_perm_globalItems hfirst hkey

/-- What is neither quiet nor a settings file nor a command makes no request to run. -/
theorem not_asksFor_unknown {item : Item GlobalKey}
    (hoperand : ∀ name following, item ≠ .operand name following) (hquiet : item ≠ .flag .quiet)
    (hconfig : ∀ path, item ≠ .setting .config path) :
    ¬ AsksFor settingsFile quiet (item :: items) settingsFile' quiet' task := by
  refine not_asksFor_cons hoperand fun given _ hperm => ?_
  have hmem := hperm.subset (List.mem_append_right _ List.mem_cons_self)
  rcases mem_globalItems.1 hmem with ⟨path, -, heq⟩ | ⟨-, heq⟩
  · exact hconfig path heq
  · exact hquiet heq

/-- The switch for quiet may be given once. -/
theorem asksFor_quiet :
    AsksFor settingsFile quiet (.flag .quiet :: items) settingsFile' quiet' task ↔
      quiet = false ∧ AsksFor settingsFile true items settingsFile' quiet' task := by
  cases quiet with
  | true =>
    have hquiet : .flag .quiet ∈ globalItems settingsFile true :=
      mem_globalItems.2 (.inr ⟨rfl, rfl⟩)
    exact iff_of_false (not_asksFor_twice hquiet rfl nofun) nofun
  | false =>
    have hperm : (globalItems settingsFile true).Perm
        (.flag .quiet :: globalItems settingsFile false) := by
      simp only [globalItems, if_true, Bool.false_eq_true, if_false, List.append_nil]
      exact List.perm_append_singleton _ _
    rw [asksFor_cons hperm nofun nofun]
    exact (and_iff_right rfl).symm

/-- A settings file may be given once, and its path is not empty. -/
theorem asksFor_config (path : Text) :
    AsksFor settingsFile quiet (.setting .config path :: items) settingsFile' quiet' task ↔
      (settingsFile = none ∧ path ≠ []) ∧
        AsksFor (some path) quiet items settingsFile' quiet' task := by
  cases settingsFile with
  | some first =>
    have hfirst : .setting .config first ∈ globalItems (some first) quiet :=
      mem_globalItems.2 (.inl ⟨first, rfl, rfl⟩)
    exact iff_of_false (not_asksFor_twice hfirst rfl nofun) nofun
  | none =>
    by_cases hpath : path = []
    · refine iff_of_false ?_ fun h => h.1.2 hpath
      exact not_asksFor_cons nofun fun _ hpaths _ => hpaths path List.mem_cons_self hpath
    · rw [and_iff_right ⟨rfl, hpath⟩]
      refine asksFor_cons (.refl _) ?_ nofun
      rintro _ ⟨⟩
      exact hpath

/-- A command with its arguments decides the request: nothing is said for all commands any more, and
no argument behind the command is left over. -/
theorem asksFor_operand {name : Text} {following : List Text} :
    AsksFor settingsFile quiet (.operand name following :: items) settingsFile' quiet' task ↔
      commandGoal name following = some (.task task) ∧ settingsFile = settingsFile' ∧
        quiet = quiet' := by
  constructor
  · rintro ⟨given, name', following', others, hitems, hgiven, -, hgoal⟩
    cases given with
    | nil =>
      obtain ⟨heq, -⟩ := List.cons.inj hitems
      cases heq
      rw [List.append_nil] at hgiven
      exact ⟨hgoal, eq_of_perm_globalItems hgiven⟩
    | cons item given =>
      obtain ⟨rfl, -⟩ := List.cons.inj hitems
      have hmem := hgiven.subset (List.mem_append_right _ List.mem_cons_self)
      rcases mem_globalItems.1 hmem with ⟨path, -, heq⟩ | ⟨-, heq⟩
      · cases heq
      · cases heq
  · rintro ⟨hgoal, rfl, rfl⟩
    exact ⟨[], name, following, items, rfl, by rw [List.append_nil], nofun, hgoal⟩

/-- A command ends the switches in front of it, and what they said goes with its task. -/
theorem requestOf_operand {name : Text} {following : List Text} :
    requestOf settingsFile quiet (.operand name following :: items) =
        some (.run settingsFile' quiet' task) ↔
      commandGoal name following = some (.task task) ∧ settingsFile = settingsFile' ∧
        quiet = quiet' := by
  rw [requestOf, Option.map_eq_some_iff]
  constructor
  · rintro ⟨goal, hgoal, hrequest⟩
    cases goal with
    | help => cases hrequest
    | task found =>
      cases hrequest
      exact ⟨hgoal, rfl, rfl⟩
  · rintro ⟨hgoal, rfl, rfl⟩
    exact ⟨_, hgoal, rfl⟩

/-- A settings file is taken if it is the first one and its path is not empty. -/
theorem requestOf_config (path : Text) :
    requestOf settingsFile quiet (.setting .config path :: items) =
      if settingsFile = none ∧ path ≠ [] then requestOf (some path) quiet items else none := by
  simp only [requestOf, once, Option.isNone_iff_eq_none]
  by_cases htaken : settingsFile = none ∧ path ≠ []
  · rw [if_pos htaken, if_pos htaken]
    rfl
  · rw [if_neg htaken, if_neg htaken]
    rfl

/-- **A request to run a task** is made by the switches for all commands, in any order and each at
most once, and a command. -/
theorem requestOf_eq_run_iff :
    requestOf settingsFile quiet items = some (.run settingsFile' quiet' task) ↔
      AsksFor settingsFile quiet items settingsFile' quiet' task := by
  -- As above, what has been said so far is part of the induction. A command ends it.
  induction items generalizing settingsFile quiet with
  | nil =>
    constructor
    · nofun
    · rintro ⟨given, name, following, others, hitems, -⟩
      simp at hitems
  | cons item items ih =>
    cases item with
    | flag key =>
      cases key with
      | quiet =>
        rw [asksFor_quiet, ← ih]
        cases quiet with
        | true => exact iff_of_false nofun nofun
        | false => exact (and_iff_right rfl).symm
      | config => exact iff_of_false nofun (not_asksFor_unknown nofun nofun nofun)
      | version => exact iff_of_false nofun (not_asksFor_unknown nofun nofun nofun)
      | help => exact iff_of_false nofun (not_asksFor_unknown nofun nofun nofun)
    | setting key path =>
      cases key with
      | config =>
        rw [requestOf_config, asksFor_config, ← ih]
        by_cases htaken : settingsFile = none ∧ path ≠ []
        · rw [if_pos htaken, and_iff_right htaken]
        · rw [if_neg htaken]
          exact iff_of_false nofun fun h => htaken h.1
      | quiet => exact iff_of_false nofun (not_asksFor_unknown nofun nofun nofun)
      | version => exact iff_of_false nofun (not_asksFor_unknown nofun nofun nofun)
      | help => exact iff_of_false nofun (not_asksFor_unknown nofun nofun nofun)
    | operand name following => rw [requestOf_operand, asksFor_operand]
    | plainOperand t => exact iff_of_false nofun (not_asksFor_unknown nofun nofun nofun)
    | fault => exact iff_of_false nofun (not_asksFor_unknown nofun nofun nofun)

end Requests

/-! ### Commands -/

/-- The byte literal command makes no generator run. -/
theorem literalGoal_ne_generate (operands : List Text) (legacy : Bool)
    (items : List (Item LiteralKey)) (generator : Generator) (overrides : Overrides) :
    literalGoal operands legacy items ≠ some (.task (.generate generator overrides)) := by
  fun_induction literalGoal operands legacy items with
  | case5 _ _ _ _ ih => exact ih
  | case6 _ _ _ _ _ _ ih => exact ih
  | case8 _ _ _ _ _ ih => exact ih
  | _ => nofun

/-- **A goal is that of a command,** told by its name: of a generator, of the byte literal command,
or the help. -/
theorem commandGoal_cases {name : Text} {following : List Text} {goal : Goal}
    (h : commandGoal name following = some goal) :
    (∃ generator, name = commandName generator ∧ generatorGoal generator ⟨none, none, none⟩
        (readItems pathSwitches none following) = some goal) ∨
      (name = "byte-literal".toList ∧
        literalGoal [] false (readItems literalSwitches none following) = some goal) ∨
      (name = "help".toList ∧ goal = .help) := by
  unfold commandGoal at h
  split at h
  · rename_i hname
    exact .inl ⟨.referencePoints, hname, h⟩
  · split at h
    · rename_i hname
      exact .inl ⟨.informationElements, hname, h⟩
    · split at h
      · rename_i hname
        exact .inr (.inl ⟨hname, h⟩)
      · split at h
        · rename_i hname
          exact .inr (.inr ⟨hname, (Option.some.inj h).symm⟩)
        · cases h

/-- A generator run is asked for under the name of its command, with switches that ask for the run.
No other name leads to one. -/
theorem commandGoal_eq_generate_iff {name : Text} {following : List Text} {generator : Generator}
    {overrides : Overrides} :
    commandGoal name following = some (.task (.generate generator overrides)) ↔
      name = commandName generator ∧
        generatorGoal generator ⟨none, none, none⟩ (readItems pathSwitches none following) =
          some (.task (.generate generator overrides)) := by
  constructor
  · intro h
    obtain ⟨found, hname, hgoal⟩ | ⟨-, hgoal⟩ | ⟨-, hgoal⟩ := commandGoal_cases h
    · obtain ⟨after, heq, -⟩ := generatorGoal_eq_task_iff.1 hgoal
      cases heq
      exact ⟨hname, hgoal⟩
    · exact absurd hgoal (literalGoal_ne_generate _ _ _ _ _)
    · cases hgoal
  · rintro ⟨rfl, h⟩
    cases generator with
    | referencePoints => exact h
    | informationElements =>
      have hname : commandName .informationElements ≠ "reference-points".toList := by decide
      rw [commandGoal, if_neg hname]
      exact h

/-- Items that are switches in another order are switches. -/
theorem isSwitch_of_perm {κ : Type} {items expected : List (Item κ)} (h : items.Perm expected)
    (hexpected : ∀ item ∈ expected, item.isSwitch = true) :
    ∀ item ∈ items, item.isSwitch = true := fun item hitem =>
  hexpected item (h.subset hitem)

/-- What is said for all commands is said by switches. -/
theorem isSwitch_globalItems (settingsFile : Option Text) (quiet : Bool) :
    ∀ item ∈ globalItems settingsFile quiet, item.isSwitch = true := by
  intro item hitem
  rcases mem_globalItems.1 hitem with ⟨path, -, rfl⟩ | ⟨-, rfl⟩
  · rfl
  · rfl

/-- The paths of a run are given by switches. -/
theorem Overrides.isSwitch_items (overrides : Overrides) :
    ∀ item ∈ overrides.items, item.isSwitch = true := by
  intro item hitem
  rcases mem_items.1 hitem with ⟨path, -, rfl⟩ | ⟨path, -, rfl⟩ | ⟨path, -, rfl⟩
  · rfl
  · rfl
  · rfl

/-- A name of a command is an operand. -/
theorem holdsSwitches_of_commandGoal {name : Text} {following : List Text} {goal : Goal}
    (h : commandGoal name following = some goal) : holdsSwitches name = false := by
  obtain ⟨generator, rfl, -⟩ | ⟨rfl, -⟩ | ⟨rfl, -⟩ := commandGoal_cases h
  · cases generator with
    | referencePoints => rfl
    | informationElements => rfl
  · rfl
  · rfl

section Arguments

variable {generator : Generator} {settingsFile : Option Text} {quiet : Bool}
  {overrides : Overrides} {arguments : List Text} {task : Task}

/-- **The arguments that ask for a task** are the switches for all commands, each at most once, and
a command whose own arguments ask for the task. -/
theorem ofArguments?_eq_task_iff :
    Request.ofArguments? arguments = some (.run settingsFile quiet task) ↔
      settingsFile ≠ some [] ∧ ∃ before name following globals,
        arguments = before ++ name :: following ∧ Spelled globalSwitches before globals ∧
        globals.Perm (globalItems settingsFile quiet) ∧
        commandGoal name following = some (.task task) := by
  rw [Request.ofArguments?, requestOf_eq_run_iff]
  constructor
  · rintro ⟨globals, name, following, others, hread, hglobals, hpath, hgoal⟩
    obtain ⟨before, rest, rfl, hbefore, hrest⟩ := spelledBehind_of_readItems hread
      (isSwitch_of_perm hglobals (isSwitch_globalItems _ _)) (.inr ⟨_, _, _, rfl⟩)
    cases hrest
    refine ⟨?_, before, name, following, globals, rfl, hbefore, hglobals, hgoal⟩
    rintro rfl
    exact hpath [] (hglobals.symm.subset (mem_globalItems.2 (.inl ⟨[], rfl, rfl⟩))) rfl
  · rintro ⟨hfile, before, name, following, globals, rfl, hbefore, hglobals, hgoal⟩
    rw [hbefore.readItems_append, readItems_operand (holdsSwitches_of_commandGoal hgoal)]
    refine ⟨globals, name, following, _, rfl, hglobals, fun path hmem => ?_, hgoal⟩
    rintro rfl
    rcases mem_globalItems.1 (hglobals.subset hmem) with ⟨path, hpath, heq⟩ | ⟨-, heq⟩
    · cases heq
      exact hfile hpath
    · cases heq

/-- The request that arguments of the grammar make. -/
theorem Invokes.ofArguments?_eq (h : Invokes generator settingsFile quiet overrides arguments) :
    Request.ofArguments? arguments =
      some (.run settingsFile quiet (.generate generator overrides)) := by
  obtain ⟨⟨before, behind, stop, globals, paths, rfl, hbefore, hglobals, hbehind, hpaths, hstop⟩,
    hfile, hne⟩ := h
  have hread : readItems pathSwitches none (behind ++ stop) = paths := by
    rw [hbehind.readItems_append]
    rcases hstop with rfl | rfl
    · exact List.append_nil paths
    · exact List.append_nil paths
  have hgoal : generatorGoal generator ⟨none, none, none⟩ paths =
      some (.task (.generate generator overrides)) := by
    refine generatorGoal_eq_task_iff.2 ⟨overrides, rfl, hpaths, fun key path hmem => ?_⟩
    rintro rfl
    exact hne key (Overrides.get_of_mem_items (hpaths.subset hmem))
  exact ofArguments?_eq_task_iff.2 ⟨hfile, before, _, _, globals, rfl, hbefore, hglobals,
    commandGoal_eq_generate_iff.2 ⟨rfl, by rw [hread, hgoal]⟩⟩

/-- Arguments that make such a request are of the grammar. -/
theorem invokes_of_ofArguments? (h : Request.ofArguments? arguments =
    some (.run settingsFile quiet (.generate generator overrides))) :
    Invokes generator settingsFile quiet overrides arguments := by
  obtain ⟨hfile, before, name, following, globals, rfl, hbefore, hglobals, hgoal⟩ :=
    ofArguments?_eq_task_iff.1 h
  obtain ⟨rfl, hgenerator⟩ := commandGoal_eq_generate_iff.1 hgoal
  obtain ⟨_, heq, hpaths, hne⟩ := generatorGoal_eq_task_iff.1 hgenerator
  cases heq
  obtain ⟨behind, stop, rfl, hbehind, hstop⟩ := spelledBehind_of_readItems
    (List.append_nil _).symm (isSwitch_of_perm hpaths overrides.isSwitch_items) (.inl rfl)
  refine ⟨⟨before, behind, stop, globals, _, rfl, hbefore, hglobals, hbehind, hpaths, ?_⟩, hfile,
    fun key hkey => ?_⟩
  · cases hstop with
    | nothing => exact .inl rfl
    | stop => exact .inr rfl
  · exact hne key [] (hpaths.symm.subset (Overrides.mem_items_of_get hkey)) rfl

/-- **The arguments that ask for a generator run** are those of the grammar. -/
theorem ofArguments?_eq_run_iff :
    Request.ofArguments? arguments =
        some (.run settingsFile quiet (.generate generator overrides)) ↔
      Invokes generator settingsFile quiet overrides arguments :=
  ⟨invokes_of_ofArguments?, Invokes.ofArguments?_eq⟩

end Arguments

end CommandLine
end TableCodegen
