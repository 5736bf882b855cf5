import TableCodegen.CommandLine.Run
import TableCodegen.Proofs.Documents
import TableCodegen.Proofs.Generation
import TableCodegen.Proofs.Loading

/-!
# The settings of a run

A document of settings that is read gives each generator the paths of its section, or the defaults
if it has none (`Settings.section_of_parse`). A run takes its settings from the file that is given,
from the file of the default name if that is there, or else from nowhere, and changes no file while
it does so (`FileTree.run_loadSettings`).
-/

namespace TableCodegen
namespace Settings

/-- The paths that a section names: a table under its three keys, an array as its first items. -/
inductive Names : Toml.Value → Paths → Prop where
  | table {origin : Toml.Origin} {entries : Toml.Entries} {paths : Paths}
    (htable : entries.lookup "table".toList = some (.text paths.table))
    (htemplate : entries.lookup "template".toList = some (.text paths.template))
    (houtput : entries.lookup "output".toList = some (.text paths.output)) :
    Names (.table origin entries) paths
  | array (paths : Paths) (others : List Toml.Value) :
    Names (.array (.text paths.table :: .text paths.template :: .text paths.output :: others)) paths

/-- The paths of a generator in a document: those that its section names, or the defaults if there
is no such section. -/
inductive Section (entries : Toml.Entries) (generator : Generator) : Paths → Prop where
  | named {value : Toml.Value} {paths : Paths}
    (hvalue : entries.lookup (sectionName generator) = some value) (hnames : Names value paths) :
    Section entries generator paths
  | missing (hvalue : entries.lookup (sectionName generator) = none) :
    Section entries generator (defaultPaths generator)

/-! ### The paths of a section -/

/-- A path is a text; any other value in its place is refused. -/
theorem pathOf_eq_ok {value : Toml.Value} {path : Text} (h : pathOf value = .ok path) :
    value = .text path := by
  cases value with
  | text t =>
    obtain rfl := Except.ok.inj h
    rfl
  | _ => cases h

/-- What the entries of a section add to one of its paths: nothing, or a path under its key. -/
def FoundIn (entries : Toml.Entries) (key : Text) (before after : Option Text) : Prop :=
  after = before ∨ ∃ path, after = some path ∧ (key, .text path) ∈ entries

namespace FoundIn

variable {entries : Toml.Entries} {key : Text} {before after : Option Text}

/-- An entry in front of the others does not take anything away from what they add. -/
theorem skip (h : FoundIn entries key before after) (entry : Text × Toml.Value) :
    FoundIn (entry :: entries) key before after :=
  h.imp_right fun ⟨path, hpath, hmem⟩ => ⟨path, hpath, List.mem_cons_of_mem entry hmem⟩

/-- A path in front of the others is added, or replaced by a later one under the same key. -/
theorem take {path : Text} (h : FoundIn entries key (some path) after) :
    FoundIn ((key, .text path) :: entries) key before after := by
  rcases h with hpath | ⟨path', hpath, hmem⟩
  · exact .inr ⟨path, hpath, List.mem_cons_self⟩
  · exact .inr ⟨path', hpath, List.mem_cons_of_mem _ hmem⟩

/-- A path that was not there before is the one under its key. -/
theorem lookup_eq_some {path : Text} (h : FoundIn entries key none after)
    (hentries : entries.Keyed) (hafter : after = some path) :
    entries.lookup key = some (.text path) := by
  rcases h with hnone | ⟨_, hpath, hmem⟩
  · rw [hnone] at hafter
    cases hafter
  · rw [hafter] at hpath
    obtain rfl := Option.some.inj hpath
    exact (Toml.Entries.lookup_eq_some_iff hentries.keys).2 hmem

end FoundIn

/-- **What the entries of a section add to its paths** stands under the keys of the paths. The
reader takes the entries one by one and a later path would replace an earlier one, so it is only
said that what is found there is an entry; that it is the only one is the business of `Keyed`. -/
theorem foundIn_of_readEntries {before after : PartialPaths} {entries : Toml.Entries}
    (h : readEntries before entries = .ok after) :
    FoundIn entries "table".toList before.table after.table ∧
      FoundIn entries "template".toList before.template after.template ∧
      FoundIn entries "output".toList before.output after.output := by
  -- An entry is the table, the template, the output, or passed over whatever its value is. The
  -- paths so far change from entry to entry, so the induction is for all of them.
  induction entries generalizing before with
  | nil =>
    obtain rfl := Except.ok.inj h
    exact ⟨.inl rfl, .inl rfl, .inl rfl⟩
  | cons entry entries ih =>
    obtain ⟨key, value⟩ := entry
    unfold readEntries at h
    split at h
    · rename_i hkey
      obtain ⟨path, hpath, h⟩ := exists_of_bind_eq_ok h
      obtain ⟨htable, htemplate, houtput⟩ := ih h
      obtain rfl := pathOf_eq_ok hpath
      exact ⟨hkey ▸ htable.take, htemplate.skip _, houtput.skip _⟩
    · split at h
      · rename_i hkey
        obtain ⟨path, hpath, h⟩ := exists_of_bind_eq_ok h
        obtain ⟨htable, htemplate, houtput⟩ := ih h
        obtain rfl := pathOf_eq_ok hpath
        exact ⟨htable.skip _, hkey ▸ htemplate.take, houtput.skip _⟩
      · split at h
        · rename_i hkey
          obtain ⟨path, hpath, h⟩ := exists_of_bind_eq_ok h
          obtain ⟨htable, htemplate, houtput⟩ := ih h
          obtain rfl := pathOf_eq_ok hpath
          exact ⟨htable.skip _, htemplate.skip _, hkey ▸ houtput.take⟩
        · obtain ⟨htable, htemplate, houtput⟩ := ih h
          exact ⟨htable.skip _, htemplate.skip _, houtput.skip _⟩

/-- A section that is read as a table names its three paths, each under its key. -/
theorem names_of_pathsOfEntries {entries : Toml.Entries} (hentries : entries.Keyed)
    {paths : Paths} (h : pathsOfEntries entries = .ok paths) (origin : Toml.Origin) :
    Names (.table origin entries) paths := by
  obtain ⟨read, hread, h⟩ := exists_of_bind_eq_ok h
  obtain ⟨htable, htemplate, houtput⟩ := foundIn_of_readEntries hread
  split at h
  · cases h
  · cases h
  · cases h
  · rename_i hsome₁ hsome₂ hsome₃
    obtain rfl := Except.ok.inj h
    exact .table (htable.lookup_eq_some hentries hsome₁)
      (htemplate.lookup_eq_some hentries hsome₂) (houtput.lookup_eq_some hentries hsome₃)

/-- Paths in a row are read one by one, and all of them have to be texts. -/
theorem mapM_pathOf_eq_ok {items : List Toml.Value} {texts : List Text}
    (h : items.mapM pathOf = .ok texts) : items = texts.map .text := by
  induction items generalizing texts with
  | nil =>
    obtain rfl := Except.ok.inj h
    rfl
  | cons item items ih =>
    rw [List.mapM_cons] at h
    obtain ⟨path, hpath, h⟩ := exists_of_bind_eq_ok h
    obtain ⟨paths, hpaths, h⟩ := exists_of_bind_eq_ok h
    obtain rfl := Except.ok.inj h
    rw [pathOf_eq_ok hpath, ih hpaths, List.map_cons]

/-- Three paths at the start of an array. -/
theorem eq_of_pathsOfItems {items : List Toml.Value} {paths : Paths}
    (h : pathsOfItems items = .ok paths) :
    items = .text paths.table :: .text paths.template :: .text paths.output :: items.drop 3 := by
  obtain ⟨texts, htexts, h⟩ := exists_of_bind_eq_ok h
  have hitems : items.take 3 = texts.map .text := mapM_pathOf_eq_ok htexts
  split at h
  · obtain rfl := Except.ok.inj h
    conv_lhs => rw [← List.take_append_drop 3 items, hitems]
    rfl
  · cases h

/-- A section that is read names its paths. -/
theorem names_of_pathsOf {value : Toml.Value} (hvalue : value.Keyed) {paths : Paths}
    (h : pathsOf value = .ok paths) : Names value paths := by
  cases value with
  | table origin entries => exact names_of_pathsOfEntries (Toml.Value.keyed_table.1 hvalue) h origin
  | array items =>
    rw [eq_of_pathsOfItems h]
    exact .array paths _
  | tables items =>
    have hitems := eq_of_pathsOfItems h
    cases items with
    | nil => cases hitems
    | cons _ _ => cases (List.cons.inj hitems).1
  | _ => cases h

/-! ### The sections of a document -/

/-- The paths of one generator are set without touching those of the other. -/
theorem paths_withPaths (settings : Settings) (paths : Paths) (generator other : Generator) :
    (settings.withPaths paths generator).paths other =
      if generator = other then paths else settings.paths other := by
  cases generator <;> cases other <;> rfl

/-- The default settings have the default paths of each generator. -/
theorem paths_defaults (generator : Generator) :
    defaults.paths generator = defaultPaths generator := by
  cases generator <;> rfl

/-- The two generators have sections of different names, so a section is one generator's. -/
theorem sectionName_injective : Function.Injective sectionName := by
  intro generator other h
  cases generator <;> cases other
  · rfl
  · exact absurd h (by decide)
  · exact absurd h (by decide)
  · rfl

/-- Every entry of a document of settings is the section of a generator. -/
theorem ofEntries_cons {before after : Settings} {key : Text} {value : Toml.Value}
    {entries : Toml.Entries} (h : ofEntries before ((key, value) :: entries) = .ok after) :
    ∃ generator paths, key = sectionName generator ∧ pathsOf value = .ok paths ∧
      ofEntries (before.withPaths paths generator) entries = .ok after := by
  unfold ofEntries at h
  split at h
  · rename_i hkey
    obtain ⟨paths, hpaths, h⟩ := exists_of_bind_eq_ok h
    exact ⟨_, paths, hkey, hpaths, h⟩
  · split at h
    · rename_i hkey
      obtain ⟨paths, hpaths, h⟩ := exists_of_bind_eq_ok h
      exact ⟨_, paths, hkey, hpaths, h⟩
    · cases h

/-- A generator has the paths of a section of its name, or those from before if there is none. A
later section would replace the paths of an earlier one, which the keys of a document exclude. -/
theorem paths_of_ofEntries {before after : Settings} {entries : Toml.Entries}
    (h : ofEntries before entries = .ok after) (generator : Generator) :
    (after.paths generator = before.paths generator ∧
        sectionName generator ∉ entries.map Prod.fst) ∨
      ∃ value, (sectionName generator, value) ∈ entries ∧
        pathsOf value = .ok (after.paths generator) := by
  induction entries generalizing before with
  | nil =>
    obtain rfl := Except.ok.inj h
    exact .inl ⟨rfl, List.not_mem_nil⟩
  | cons entry entries ih =>
    obtain ⟨key, value⟩ := entry
    obtain ⟨owner, paths, rfl, hpaths, hentries⟩ := ofEntries_cons h
    rcases ih hentries with ⟨hafter, hmissing⟩ | ⟨value', hmem, hvalue⟩
    · rw [paths_withPaths] at hafter
      split at hafter
      · rename_i howner
        subst howner
        exact .inr ⟨value, List.mem_cons_self, by rw [hpaths, hafter]⟩
      · rename_i howner
        refine .inl ⟨hafter, fun hmem => ?_⟩
        rcases List.mem_cons.1 hmem with heq | hmem
        · exact howner (sectionName_injective heq).symm
        · exact hmissing hmem
    · exact .inr ⟨value', List.mem_cons_of_mem _ hmem, hvalue⟩

/-- **A generator works with the paths of its section,** or with the defaults if there is none. -/
theorem section_of_parse {t : Text} {settings : Settings} (h : parse t = .ok settings)
    (generator : Generator) :
    ∃ entries, Toml.parse? t = some entries ∧
      Section entries generator (settings.paths generator) := by
  unfold parse at h
  split at h
  · rename_i entries hparse
    have hkeyed := Toml.keyed_of_parse? hparse
    refine ⟨entries, hparse, ?_⟩
    rcases paths_of_ofEntries h generator with ⟨hpaths, hmissing⟩ | ⟨value, hmem, hpaths⟩
    · rw [hpaths, paths_defaults]
      exact .missing (Toml.Entries.lookup_eq_none_iff.2 hmissing)
    · exact .named ((Toml.Entries.lookup_eq_some_iff hkeyed.keys).2 hmem)
        (names_of_pathsOf (hkeyed.values _ hmem) hpaths)
  · cases h

end Settings

namespace FileTree

open CommandLine

/-- The settings file of a run: the one that is given, or the one of the default name if nothing is
given and there is something of that name. -/
inductive Selects (tree : FileTree) : Option Text → Text → Prop where
  | given (path : Text) : Selects tree (some path) path
  | found (h : tree.pathExists Log.defaultSettingsFile = true) :
    Selects tree none Log.defaultSettingsFile

/-- The settings that a file holds. -/
def settingsOf (tree : FileTree) (path : Text) : Except Failure Settings :=
  match tree.textOf path with
  | .error reason => .error (.io path reason)
  | .ok text => (Settings.parse text).mapError .settings

/-- The paths that the settings of a run name for a generator, or why they cannot be told. -/
inductive Settles (tree : FileTree) (settingsFile : Option Text) (generator : Generator) :
    Except Failure Paths → Prop where
  /-- There is no settings file. -/
  | defaults (hnone : settingsFile = none)
    (hmissing : tree.pathExists Log.defaultSettingsFile = false) :
    Settles tree settingsFile generator (.ok (Settings.defaultPaths generator))
  /-- The settings file cannot be read or holds no settings. -/
  | refused {path : Text} {failure : Failure} (hselects : tree.Selects settingsFile path)
    (hsettings : tree.settingsOf path = .error failure) :
    Settles tree settingsFile generator (.error failure)
  | taken {path text : Text} {settings : Settings} {entries : Toml.Entries}
    (hselects : tree.Selects settingsFile path) (hsettings : tree.settingsOf path = .ok settings)
    (htext : tree.textOf path = .ok text) (hentries : Toml.parse? text = some entries)
    (hsection : Settings.Section entries generator (settings.paths generator)) :
    Settles tree settingsFile generator (.ok (settings.paths generator))

/-- A run selects one settings file at most. -/
theorem Selects.unique {tree : FileTree} {settingsFile : Option Text} {path path' : Text}
    (h : tree.Selects settingsFile path) (h' : tree.Selects settingsFile path') : path = path' := by
  cases h with
  | given =>
    cases h'
    rfl
  | found =>
    cases h'
    rfl

/-- Without a settings file none is selected. -/
theorem not_selects {tree : FileTree} (h : tree.pathExists Log.defaultSettingsFile = false)
    (path : Text) : ¬ tree.Selects none path := by
  rintro ⟨⟩
  cases h.symm.trans ‹_›

/-- The settings of a run are one thing or the other. They hang on one file at most, and what a file
holds is told by the tree. -/
theorem Settles.unique {tree : FileTree} {settingsFile : Option Text} {generator : Generator}
    {result result' : Except Failure Paths} (h : tree.Settles settingsFile generator result)
    (h' : tree.Settles settingsFile generator result') : result = result' := by
  cases h with
  | defaults hnone hmissing =>
    subst hnone
    cases h' with
    | defaults => rfl
    | refused hselects | taken hselects => exact absurd hselects (not_selects hmissing _)
  | refused hselects hsettings =>
    cases h' with
    | defaults hnone hmissing =>
      subst hnone
      exact absurd hselects (not_selects hmissing _)
    | refused hselects' hsettings' =>
      obtain rfl := hselects.unique hselects'
      obtain rfl := Except.error.inj (hsettings.symm.trans hsettings')
      rfl
    | taken hselects' hsettings' =>
      obtain rfl := hselects.unique hselects'
      cases hsettings.symm.trans hsettings'
  | taken hselects hsettings =>
    cases h' with
    | defaults hnone hmissing =>
      subst hnone
      exact absurd hselects (not_selects hmissing _)
    | refused hselects' hsettings' =>
      obtain rfl := hselects.unique hselects'
      cases hsettings.symm.trans hsettings'
    | taken hselects' hsettings' =>
      obtain rfl := hselects.unique hselects'
      obtain rfl := Except.ok.inj (hsettings.symm.trans hsettings')
      rfl

/-- The settings that a file holds give a generator the paths of its section, with the document that
the section stands in. -/
theorem section_of_settingsOf {tree : FileTree} {path : Text} {settings : Settings}
    (h : tree.settingsOf path = .ok settings) (generator : Generator) :
    ∃ text entries, tree.textOf path = .ok text ∧ Toml.parse? text = some entries ∧
      Settings.Section entries generator (settings.paths generator) := by
  unfold settingsOf at h
  cases hread : tree.textOf path with
  | error reason =>
    rw [hread] at h
    cases h
  | ok text =>
    rw [hread] at h
    cases hparse : Settings.parse text with
    | error error =>
      simp only [hparse] at h
      cases h
    | ok found =>
      simp only [hparse] at h
      obtain rfl := Except.ok.inj h
      obtain ⟨entries, hentries, hsection⟩ := Settings.section_of_parse hparse generator
      exact ⟨text, entries, rfl, hentries, hsection⟩

/-- A settings file is read without a change of the files. -/
theorem run_readSettings (tree : FileTree) (path : Text) :
    ∃ events, (readSettings path : StateM FileTree _).run tree =
      ((tree.settingsOf path, events), tree) := by
  unfold readSettings settingsOf
  rw [run_bind, run_readText]
  cases hread : tree.textOf path with
  | error reason => exact ⟨_, rfl⟩
  | ok text =>
    cases hparse : Settings.parse text with
    | error error =>
      refine ⟨[], ?_⟩
      simp only [hparse]
      rfl
    | ok settings =>
      refine ⟨[.settingsLoaded path], ?_⟩
      simp only [hparse]
      rfl

/-- What a selected file says is what the settings come to. -/
theorem settles_of_selects {tree : FileTree} {settingsFile : Option Text} {path : Text}
    (h : tree.Selects settingsFile path) (generator : Generator) :
    tree.Settles settingsFile generator ((tree.settingsOf path).map (·.paths generator)) := by
  cases hsettings : tree.settingsOf path with
  | error failure => exact .refused h hsettings
  | ok settings =>
    obtain ⟨text, entries, htext, hentries, hsection⟩ := section_of_settingsOf hsettings generator
    exact .taken h hsettings htext hentries hsection

/-- **The settings of a run** are loaded without a change of the files. Of no given file and none of
the default name the outcome is the default paths; of any other, what the file holds or why it holds
no settings. -/
theorem run_loadSettings (tree : FileTree) (settingsFile : Option Text) :
    ∃ result events,
      (loadSettings settingsFile : StateM FileTree _).run tree = ((result, events), tree) ∧
      ∀ generator, tree.Settles settingsFile generator (result.map (·.paths generator)) := by
  cases settingsFile with
  | some path =>
    obtain ⟨events, hrun⟩ := run_readSettings tree path
    exact ⟨_, events, hrun, settles_of_selects (.given path)⟩
  | none =>
    have hexists : (Storage.pathExists Log.defaultSettingsFile : StateM FileTree _).run tree =
      (tree.pathExists Log.defaultSettingsFile, tree) := rfl
    simp only [loadSettings, run_bind, hexists]
    cases hfound : tree.pathExists Log.defaultSettingsFile with
    | true =>
      obtain ⟨events, hrun⟩ := run_readSettings tree Log.defaultSettingsFile
      exact ⟨_, events, hrun, settles_of_selects (.found hfound)⟩
    | false =>
      refine ⟨.ok .defaults, [.noSettings], rfl, fun generator => ?_⟩
      show tree.Settles none generator (.ok (Settings.defaults.paths generator))
      rw [Settings.paths_defaults]
      exact .defaults rfl hfound

end FileTree
end TableCodegen
