import TableCodegen.Proofs.Configuration
import TableCodegen.Proofs.WrittenSections

/-!
# Settings as they are written

A document of settings has sections with text under their keys. What it comes to is decided by the
first section that is not a generator's with all three keys:

| that section | the settings |
| --- | --- |
| there is none | the paths of each section, the defaults of each generator without a section |
| has the name of a generator | no settings: the first of table, template and output it lacks |
| has another name | no settings: its name |

So the paths of a generator are all written or all defaults (`parse_written`). Once a header has
another name, no text behind it makes the document one of settings again.
-/

namespace TableCodegen
namespace Settings

/-- A section that has the three paths under their keys, in any order and among others. -/
structure Gives (s : Toml.Section) (paths : Paths) : Prop where
  table : ("table".toList, paths.table) ∈ s.entries
  template : ("template".toList, paths.template) ∈ s.entries
  output : ("output".toList, paths.output) ∈ s.entries

/-- The first of the three keys that is not in a section. -/
inductive Lacks (s : Toml.Section) : Text → Prop where
  | table (htable : "table".toList ∉ s.entries.map Prod.fst) : Lacks s "table".toList
  | template (htable : "table".toList ∈ s.entries.map Prod.fst)
    (htemplate : "template".toList ∉ s.entries.map Prod.fst) : Lacks s "template".toList
  | output (htable : "table".toList ∈ s.entries.map Prod.fst)
    (htemplate : "template".toList ∈ s.entries.map Prod.fst)
    (houtput : "output".toList ∉ s.entries.map Prod.fst) : Lacks s "output".toList

/-- A section of a generator with all its paths. -/
def Complete (s : Toml.Section) : Prop :=
  ∃ generator paths, s.name = sectionName generator ∧ Gives s paths

/-- The paths of a generator: those of its section, or the defaults if there is no such section. -/
inductive Chosen (sections : List Toml.Section) (generator : Generator) : Paths → Prop where
  | written {s : Toml.Section} {paths : Paths} (hs : s ∈ sections)
    (hname : s.name = sectionName generator) (hgives : Gives s paths) :
    Chosen sections generator paths
  | defaults (hnone : ∀ s ∈ sections, s.name ≠ sectionName generator) :
    Chosen sections generator (defaultPaths generator)

/-- Why a section is not one of settings. -/
inductive Refused (s : Toml.Section) : Error → Prop where
  | missing {generator : Generator} {key : Text} (hname : s.name = sectionName generator)
    (hlacks : Lacks s key) : Refused s (.missingField key)
  | unknown (hname : ∀ generator, s.name ≠ sectionName generator) :
    Refused s (.unknownSection s.name)

/-- What the sections of a document come to. -/
inductive Outcome (sections : List Toml.Section) : Except Error Settings → Prop where
  | taken {settings : Settings} (hsections : ∀ s ∈ sections, Complete s)
    (hpaths : ∀ generator, Chosen sections generator (settings.paths generator)) :
    Outcome sections (.ok settings)
  /-- The first section that is not complete tells the error. -/
  | refused {before behind : List Toml.Section} {s : Toml.Section} {error : Error}
    (hsections : sections = before ++ s :: behind) (hbefore : ∀ r ∈ before, Complete r)
    (hrefused : Refused s error) : Outcome sections (.error error)

/-! ### One section -/

/-- Each path is what stands under its key, or what was there before. All values are texts, so none
of them can be of the wrong kind. -/
theorem readEntries_texts {entries : List (Text × Text)} (hkeys : (entries.map Prod.fst).Nodup)
    (before : PartialPaths) :
    readEntries before (Toml.texts entries) =
      .ok ⟨(entries.lookup "table".toList).or before.table,
        (entries.lookup "template".toList).or before.template,
        (entries.lookup "output".toList).or before.output⟩ := by
  induction entries generalizing before with
  | nil => rfl
  | cons entry entries ih =>
    obtain ⟨key, t⟩ := entry
    obtain ⟨hkey, hrest⟩ := List.nodup_cons.1 hkeys
    have hnone : entries.lookup key = none := Toml.Entries.lookup_eq_none_iff.2 hkey
    have hcons : Toml.texts ((key, t) :: entries) = (key, .text t) :: Toml.texts entries := rfl
    rw [hcons, readEntries]
    split
    · rename_i htable
      subst htable
      refine (ih hrest _).trans ?_
      rw [hnone]
      rfl
    · split
      · rename_i htemplate
        subst htemplate
        refine (ih hrest _).trans ?_
        rw [hnone]
        rfl
      · split
        · rename_i houtput
          subst houtput
          refine (ih hrest _).trans ?_
          rw [hnone]
          rfl
        · rename_i htable htemplate houtput
          have hother : ∀ {name : Text}, key ≠ name →
              ((key, t) :: entries).lookup name = entries.lookup name := by
            intro name hne
            rw [List.lookup_cons, beq_false_of_ne hne.symm]
          rw [ih hrest, hother htable, hother htemplate, hother houtput]

/-- A section has all three keys, or there is a first that it lacks. The keys are asked for in the
order of the fields, and not in that of the section. -/
theorem pathsOfEntries_texts {s : Toml.Section} (hkeys : (s.entries.map Prod.fst).Nodup) :
    (∃ paths, pathsOfEntries (Toml.texts s.entries) = .ok paths ∧ Gives s paths) ∨
      ∃ key, pathsOfEntries (Toml.texts s.entries) = .error (.missingField key) ∧ Lacks s key := by
  have hread := readEntries_texts hkeys ⟨none, none, none⟩
  simp only [Option.or_none] at hread
  rw [pathsOfEntries, hread]
  cases htable : s.entries.lookup "table".toList with
  | none => exact .inr ⟨_, rfl, .table (Toml.Entries.lookup_eq_none_iff.1 htable)⟩
  | some table =>
    have htable' := Toml.Entries.mem_of_lookup htable
    cases htemplate : s.entries.lookup "template".toList with
    | none =>
      exact .inr ⟨_, rfl, .template (List.mem_map_of_mem htable')
        (Toml.Entries.lookup_eq_none_iff.1 htemplate)⟩
    | some template =>
      have htemplate' := Toml.Entries.mem_of_lookup htemplate
      cases houtput : s.entries.lookup "output".toList with
      | none =>
        exact .inr ⟨_, rfl, .output (List.mem_map_of_mem htable')
          (List.mem_map_of_mem htemplate') (Toml.Entries.lookup_eq_none_iff.1 houtput)⟩
      | some output =>
        exact .inl ⟨⟨table, template, output⟩, rfl, htable', htemplate',
          Toml.Entries.mem_of_lookup houtput⟩

/-- A section gives one set of paths, as no key stands twice in it. -/
theorem Gives.unique {s : Toml.Section} (hkeys : (s.entries.map Prod.fst).Nodup)
    {paths paths' : Paths} (h : Gives s paths) (h' : Gives s paths') : paths = paths' := by
  have hone : ∀ {key t t' : Text}, (key, t) ∈ s.entries → (key, t') ∈ s.entries → t = t' :=
    fun hmem hmem' => (Prod.mk.inj (List.inj_on_of_nodup_map hkeys hmem hmem' rfl)).2
  obtain ⟨table, template, output⟩ := paths
  obtain ⟨table', template', output'⟩ := paths'
  obtain rfl := hone h.table h'.table
  obtain rfl := hone h.template h'.template
  obtain rfl := hone h.output h'.output
  rfl

/-- The first key that a section lacks is one key. The keys are looked for in one order, and those
in front of it are there. -/
theorem Lacks.unique {s : Toml.Section} {key key' : Text} (h : Lacks s key) (h' : Lacks s key') :
    key = key' := by
  cases h with
  | table htable =>
    cases h' with
    | table => rfl
    | template htable' | output htable' => exact absurd htable' htable
  | template htable htemplate =>
    cases h' with
    | table htable' => exact absurd htable htable'
    | template => rfl
    | output _ htemplate' => exact absurd htemplate' htemplate
  | output htable htemplate houtput =>
    cases h' with
    | table htable' => exact absurd htable htable'
    | template _ htemplate' => exact absurd htemplate htemplate'
    | output => rfl

/-- A section is refused for one reason. -/
theorem Refused.unique {s : Toml.Section} {error error' : Error} (h : Refused s error)
    (h' : Refused s error') : error = error' := by
  cases h with
  | missing hname hlacks =>
    cases h' with
    | missing _ hlacks' => rw [hlacks.unique hlacks']
    | unknown hother => exact absurd hname (hother _)
  | unknown hother =>
    cases h' with
    | missing hname' _ => exact absurd hname' (hother _)
    | unknown => rfl

/-- No section is both refused and complete. -/
theorem Refused.not_complete {s : Toml.Section} {error : Error} (h : Refused s error) :
    ¬ Complete s := by
  rintro ⟨generator, paths, hname, hgives⟩
  cases h with
  | unknown hother => exact hother generator hname
  | missing _ hlacks =>
    cases hlacks with
    | table htable => exact htable (List.mem_map_of_mem hgives.table)
    | template _ htemplate => exact htemplate (List.mem_map_of_mem hgives.template)
    | output _ _ houtput => exact houtput (List.mem_map_of_mem hgives.output)

/-! ### All sections -/

/-- A section with the name of a generator sets the paths of that generator, or fails for want of a
key. -/
theorem ofEntries_sectionName (before : Settings) (generator : Generator) (value : Toml.Value)
    (entries : Toml.Entries) :
    ofEntries before ((sectionName generator, value) :: entries) =
      (pathsOf value).bind fun paths => ofEntries (before.withPaths paths generator) entries := by
  cases generator <;> rfl

/-- A section with any other name fails, whatever it holds. -/
theorem ofEntries_other (before : Settings) {name : Text}
    (hname : ∀ generator, name ≠ sectionName generator) (value : Toml.Value)
    (entries : Toml.Entries) :
    ofEntries before ((name, value) :: entries) = .error (.unknownSection name) := by
  rw [ofEntries, if_neg (hname _), if_neg (hname _)]
  rfl

/-- A section of a generator gives it other paths and leaves the other generator its own. The names
of the sections differ, so it is never in doubt whose paths they are. -/
theorem Chosen.append {sections : List Toml.Section} {before : Settings}
    (h : ∀ generator, Chosen sections generator (before.paths generator)) {s : Toml.Section}
    {owner : Generator} (hname : s.name = sectionName owner) {paths : Paths}
    (hgives : Gives s paths) (generator : Generator) :
    Chosen (sections ++ [s]) generator ((before.withPaths paths owner).paths generator) := by
  rw [paths_withPaths]
  split
  · rename_i howner
    subst howner
    exact .written (List.mem_append_right _ List.mem_cons_self) hname hgives
  · rename_i howner
    have hchosen := h generator
    generalize before.paths generator = paths at hchosen ⊢
    cases hchosen with
    | written hs hname' hgives' => exact .written (List.mem_append_left _ hs) hname' hgives'
    | defaults hnone =>
      refine .defaults fun s' hs' => ?_
      rcases List.mem_append.1 hs' with hs' | hs'
      · exact hnone s' hs'
      · obtain rfl := List.mem_singleton.1 hs'
        rw [hname]
        exact fun heq => howner (sectionName_injective heq)

/-- Reading goes on with complete sections behind it. The induction is on the sections that are
left, and the first that is not complete ends it with its error. -/
theorem outcome_ofEntries {done : List Toml.Section} (hdone : ∀ s ∈ done, Complete s)
    {before : Settings} (hbefore : ∀ generator, Chosen done generator (before.paths generator))
    {sections : List Toml.Section} (hkeys : ∀ s ∈ sections, (s.entries.map Prod.fst).Nodup) :
    Outcome (done ++ sections) (ofEntries before (Toml.tables sections)) := by
  induction sections generalizing done before with
  | nil =>
    rw [List.append_nil]
    exact .taken hdone hbefore
  | cons s sections ih =>
    have hcons : Toml.tables (s :: sections) =
        (s.name, .table .header (Toml.texts s.entries)) :: Toml.tables sections := rfl
    rw [hcons]
    by_cases hname : ∃ generator, s.name = sectionName generator
    · obtain ⟨generator, hname⟩ := hname
      rw [hname, ofEntries_sectionName, pathsOf]
      rcases pathsOfEntries_texts (hkeys s List.mem_cons_self) with
        ⟨paths, hpaths, hgives⟩ | ⟨key, hmissing, hlacks⟩
      · rw [hpaths]
        have hcomplete : Complete s := ⟨generator, paths, hname, hgives⟩
        have hrest := ih (List.forall_mem_append.2 ⟨hdone, List.forall_mem_singleton.2 hcomplete⟩)
          (Chosen.append hbefore hname hgives)
          (fun s' hs' => hkeys s' (List.mem_cons_of_mem s hs'))
        rw [List.append_assoc] at hrest
        exact hrest
      · rw [hmissing]
        exact .refused rfl hdone (.missing hname hlacks)
    · have hother := not_exists.1 hname
      rw [ofEntries_other before hother]
      exact .refused rfl hdone (.unknown hother)

/-- **A written document comes to the outcome of its sections.** The document is read as one table
for each section, and the tables are looked at in its order. -/
theorem outcome_parse {sections : List Toml.Section} {t : Text} (hwritten : Toml.Written sections t)
    (hdistinct : Toml.Distinct sections) : Outcome sections (parse t) := by
  rw [parse, hwritten.parse?_eq hdistinct]
  refine outcome_ofEntries (show ∀ s ∈ ([] : List Toml.Section), Complete s from
    List.forall_mem_nil _) (fun generator => ?_) hdistinct.keys
  rw [paths_defaults]
  exact .defaults (List.forall_mem_nil _)

/-! ### One outcome -/

/-- Sections of one name are the same section. -/
theorem eq_of_name_eq {sections : List Toml.Section} (hdistinct : Toml.Distinct sections)
    {s s' : Toml.Section} (hs : s ∈ sections) (hs' : s' ∈ sections) (hname : s.name = s'.name) :
    s = s' :=
  List.inj_on_of_nodup_map hdistinct.names hs hs' hname

/-- The paths of a generator are decided: by its one section, or by the defaults if it has none. -/
theorem Chosen.unique {sections : List Toml.Section} (hdistinct : Toml.Distinct sections)
    {generator : Generator} {paths paths' : Paths} (h : Chosen sections generator paths)
    (h' : Chosen sections generator paths') : paths = paths' := by
  cases h with
  | written hs hname hgives =>
    cases h' with
    | written hs' hname' hgives' =>
      obtain rfl := eq_of_name_eq hdistinct hs hs' (hname.trans hname'.symm)
      exact hgives.unique (hdistinct.keys _ hs) hgives'
    | defaults hnone => exact absurd hname (hnone _ hs)
  | defaults hnone =>
    cases h' with
    | written hs' hname' _ => exact absurd hname' (hnone _ hs')
    | defaults => rfl

/-- Settings are told by the paths of both generators. -/
theorem ext_paths {settings settings' : Settings}
    (h : ∀ generator, settings.paths generator = settings'.paths generator) :
    settings = settings' := by
  obtain ⟨points, elements⟩ := settings
  obtain rfl : points = settings'.referencePoints := h .referencePoints
  obtain rfl : elements = settings'.informationElements := h .informationElements
  rfl

/-- There is one first section that is not complete. -/
theorem eq_of_first {before before' behind behind' : List Toml.Section} {s s' : Toml.Section}
    (hsections : before ++ s :: behind = before' ++ s' :: behind')
    (hbefore : ∀ r ∈ before, Complete r) (hbefore' : ∀ r ∈ before', Complete r)
    (hs : ¬ Complete s) (hs' : ¬ Complete s') : s = s' := by
  classical
  have hfirst : ∀ (before behind : List Toml.Section) (s : Toml.Section),
      (∀ r ∈ before, Complete r) → ¬ Complete s →
      (before ++ s :: behind).find? (fun r => ¬ Complete r) = some s := by
    intro before behind s hbefore hs
    refine List.find?_eq_some_iff_append.2 ⟨decide_eq_true hs, before, behind, rfl, fun r hr => ?_⟩
    simp [hbefore r hr]
  have heq := hfirst before behind s hbefore hs
  rw [hsections, hfirst before' behind' s' hbefore' hs'] at heq
  exact (Option.some.inj heq).symm

/-- **The sections decide the outcome.** Of two outcomes that refuse the document, both name the
first section that is not complete, so they refuse it for one reason. -/
theorem Outcome.unique {sections : List Toml.Section} (hdistinct : Toml.Distinct sections)
    {result result' : Except Error Settings} (h : Outcome sections result)
    (h' : Outcome sections result') : result = result' := by
  cases h with
  | taken hsections hpaths =>
    cases h' with
    | taken _ hpaths' =>
      have hpath := fun generator => (hpaths generator).unique hdistinct (hpaths' generator)
      rw [ext_paths hpath]
    | refused hsections' _ hrefused' =>
      subst hsections'
      exact absurd (hsections _ List.mem_append_cons_self) hrefused'.not_complete
  | refused hsections hbefore hrefused =>
    subst hsections
    cases h' with
    | taken hsections' _ =>
      exact absurd (hsections' _ List.mem_append_cons_self) hrefused.not_complete
    | refused hsections' hbefore' hrefused' =>
      obtain rfl := eq_of_first hsections' hbefore hbefore' hrefused.not_complete
        hrefused'.not_complete
      rw [hrefused.unique hrefused']

/-- All sections of settings are a generator's. -/
theorem exists_sectionName {before after : Settings} {entries : Toml.Entries}
    (h : ofEntries before entries = .ok after) :
    ∀ name ∈ entries.map Prod.fst, ∃ generator, name = sectionName generator := by
  induction entries generalizing before with
  | nil => exact List.forall_mem_nil _
  | cons entry entries ih =>
    obtain ⟨key, value⟩ := entry
    obtain ⟨generator, paths, hkey, -, hrest⟩ := ofEntries_cons h
    exact List.forall_mem_cons.2 ⟨⟨generator, hkey⟩, ih hrest⟩

/-- A header of another name behind whole lines is an error, whatever stands behind it. -/
theorem exists_error_of_header {items : List Toml.Item} {front : Text}
    (hfront : Toml.WholeLines items front) {name header : Text}
    (hheader : Toml.WrittenItem (.header name) header)
    (hname : ∀ generator, name ≠ sectionName generator) (rest : Text) :
    ∃ error, parse (front ++ (header ++ rest)) = .error error := by
  cases hparse : parse (front ++ (header ++ rest)) with
  | error error => exact ⟨error, rfl⟩
  | ok settings =>
    rw [parse] at hparse
    split at hparse
    · rename_i entries hentries
      obtain ⟨generator, heq⟩ := exists_sectionName hparse name
        (Toml.mem_keys_of_header hfront hheader rest hentries)
      exact absurd heq (hname generator)
    · cases hparse

/-- **Settings are taken section by section.** Every list of sections can be written as a document,
and a document, however it is written, comes to what its sections come to and to nothing else. And
where a header of another name follows whole lines, there are no settings, whatever stands below the
header. -/
theorem parse_written {sections : List Toml.Section} (hdistinct : Toml.Distinct sections) :
    (∃ t, Toml.Written sections t) ∧
      (∀ {t : Text}, Toml.Written sections t →
        ∀ result, parse t = result ↔ Outcome sections result) ∧
      ∀ {items : List Toml.Item} {front name header : Text} (rest : Text),
        Toml.WholeLines items front → Toml.WrittenItem (.header name) header →
        (∀ generator, name ≠ sectionName generator) →
        ∃ error, parse (front ++ (header ++ rest)) = .error error := by
  refine ⟨Toml.exists_written sections, ?_, ?_⟩
  · intro t hwritten result
    have houtcome := outcome_parse hwritten hdistinct
    constructor
    · rintro rfl
      exact houtcome
    · exact houtcome.unique hdistinct
  · intro items front name header rest hfront hheader hname
    exact exists_error_of_header hfront hheader hname rest

/-- A section with a key that is none of a path's, and a quote in one of its paths; then the same
section in front of a header that belongs to no generator. -/
theorem parse_written_quoted :
    let front := ("[reference_points]\noutput=\"o\"\nnote=\"\"\n".toList ++
      "table=\"\\\"\"\ntemplate=\"t\"\n".toList)
    let header := "[byte_literal]".toList
    parse front = .ok ⟨⟨['"'], ['t'], ['o']⟩, defaultPaths .informationElements⟩ ∧
      ∃ error, parse (front ++ (header ++ "\nwidth = 8\n".toList)) = .error error := by
  intro front header
  let s : Toml.Section := ⟨"reference_points".toList,
    [("output".toList, ['o']), ("note".toList, []), ("table".toList, ['"']),
      ("template".toList, ['t'])]⟩
  have hkey : ∀ key : Text, (!key.isEmpty && key.all Toml.isBareKeyChar) = true →
      Toml.WrittenKey key key := by
    intro key h
    obtain ⟨hne, hall⟩ := Bool.and_eq_true_iff.1 h
    exact .bare (by rintro rfl; cases hne) (List.all_eq_true.1 hall)
  have hheader : ∀ name : Text, Toml.WrittenKey name name →
      Toml.WrittenItem (.header name) ('[' :: (name ++ [']'])) :=
    fun name h => .header h Toml.blanks_nil Toml.blanks_nil
  have hpair : ∀ {key t form : Text}, Toml.WrittenKey key key → Toml.WrittenText t form →
      Toml.WrittenItem (.pair key t) (key ++ '=' :: '"' :: (form ++ ['"'])) :=
    fun hkey htext => .pair hkey Toml.blanks_nil Toml.blanks_nil htext
  have hlines : Toml.WholeLines s.items front :=
    .cons_item (hheader s.name (hkey _ (by decide)))
      (.cons_item (hpair (hkey _ (by decide)) (.cons (.plain rfl (by decide) (by decide)) .nil))
      (.cons_item (hpair (hkey _ (by decide)) .nil)
      (.cons_item (hpair (hkey _ (by decide))
        (.cons (.short (show ('"', '"') ∈ Toml.shortEscapes by decide)) .nil))
      (.cons_item (hpair (hkey _ (by decide)) (.cons (.plain rfl (by decide) (by decide)) .nil))
        .nil))))
  have hgives : Gives s ⟨['"'], ['t'], ['o']⟩ := ⟨by decide, by decide, by decide⟩
  have hwritten : Toml.Written [s] front := hlines.document
  have hdistinct : Toml.Distinct [s] := ⟨by decide, by decide⟩
  obtain ⟨-, hdocument, hother⟩ := parse_written hdistinct
  refine ⟨(hdocument hwritten _).2 (.taken ?_ ?_),
    hother _ hlines (hheader "byte_literal".toList (hkey _ (by decide))) ?_⟩
  · exact List.forall_mem_singleton.2 ⟨.referencePoints, _, rfl, hgives⟩
  · intro generator
    cases generator with
    | referencePoints => exact .written List.mem_cons_self rfl hgives
    | informationElements => exact .defaults (List.forall_mem_singleton.2 (by decide))
  · intro generator
    cases generator <;> decide

end Settings
end TableCodegen
