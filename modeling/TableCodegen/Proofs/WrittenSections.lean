import TableCodegen.Proofs.Documents
import TableCodegen.Proofs.WrittenLines

/-!
# Documents as they are written, section by section

A section is a header with the pairs below it. Where no name and no key of a section stands twice, a
document of sections is read as one table for each, in the order of the document
(`Written.parse?_eq`), and every list of sections can be written (`exists_written`).

Other documents may have more in them. Still, once a header has given a name to the document, it is
among the keys in the end, whatever follows (`mem_keys_of_header`).
-/

namespace TableCodegen
namespace Toml

/-- A header and the pairs below it. -/
structure Section where
  name : Text
  entries : List (Text × Text)
  deriving DecidableEq, Repr

/-- Pairs as they are read. -/
def texts (entries : List (Text × Text)) : Entries := entries.map fun e => (e.1, .text e.2)

/-- Sections as they are read. -/
def tables (sections : List Section) : Entries :=
  sections.map fun s => (s.name, .table .header (texts s.entries))

/-- What the lines of a section say. -/
def Section.items (s : Section) : List Item :=
  .header s.name :: s.entries.map fun e => .pair e.1 e.2

/-- The forms of a document of sections. -/
def Written (sections : List Section) (t : Text) : Prop :=
  WrittenDocument (sections.flatMap Section.items) t

/-- Sections of which no two have one name, each without a key that stands twice. -/
structure Distinct (sections : List Section) : Prop where
  names : (sections.map Section.name).Nodup
  keys : ∀ s ∈ sections, (s.entries.map Prod.fst).Nodup

/-! ### Every list of sections can be written -/

/-- Every key can be written, between quotes if need be. -/
theorem exists_writtenKey (key : Text) : ∃ form, WrittenKey key form := by
  obtain ⟨form, hform⟩ := exists_writtenText key
  exact ⟨_, .quoted hform⟩

/-- Every header and every pair can be written. -/
theorem exists_writtenItem (item : Item) : ∃ form, WrittenItem item form := by
  cases item with
  | header name =>
    obtain ⟨form, hform⟩ := exists_writtenKey name
    exact ⟨_, .header hform blanks_nil blanks_nil⟩
  | pair key t =>
    obtain ⟨keyForm, hkey⟩ := exists_writtenKey key
    obtain ⟨form, hform⟩ := exists_writtenText t
    exact ⟨_, .pair hkey blanks_nil blanks_nil hform⟩

/-- Items can be written one to a line. -/
theorem exists_wholeLines (items : List Item) : ∃ s, WholeLines items s := by
  induction items with
  | nil => exact ⟨[], .nil⟩
  | cons item items ih =>
    obtain ⟨form, hform⟩ := exists_writtenItem item
    obtain ⟨s, hs⟩ := ih
    exact ⟨_, .cons_item hform hs⟩

/-- Whole lines are a document, with an empty line behind the last line break. -/
theorem WholeLines.document {items : List Item} {s : Text} (h : WholeLines items s) :
    WrittenDocument items s := by
  have hdocument := WrittenDocument.intro h (.empty (.blanks blanks_nil))
  rwa [List.append_nil, List.append_nil] at hdocument

/-- **Every list of sections can be written.** -/
theorem exists_written (sections : List Section) : ∃ t, Written sections t := by
  obtain ⟨s, hs⟩ := exists_wholeLines (sections.flatMap Section.items)
  exact ⟨s, hs.document⟩

/-! ### What sections are read as -/

/-- A new key goes behind the others. -/
theorem Entries.insertNew_of_notMem {key : Text} {value : Value} {entries : Entries}
    (h : key ∉ entries.map Prod.fst) :
    entries.insertNew key value = some (entries ++ [(key, value)]) := by
  rw [insertNew, lookup_eq_none_iff.2 h]
  rfl

/-- A key that is not there can be taken out, and nothing changes. -/
theorem Entries.remove_of_notMem {key : Text} {entries : Entries}
    (h : key ∉ entries.map Prod.fst) : entries.remove key = entries := by
  refine List.filter_eq_self.2 fun entry hentry => decide_eq_true fun heq => ?_
  exact h (heq ▸ List.mem_map_of_mem hentry)

/-- Pairs with new keys are added in their order. They go into the table that is open and nothing
else of the construction changes. -/
theorem addItems_pairs (entries : List (Text × Text)) (c : Construction)
    (hkeys : (c.current.map Prod.fst ++ entries.map Prod.fst).Nodup) :
    addItems c (entries.map fun e => .pair e.1 e.2) =
      some { c with current := c.current ++ texts entries } := by
  induction entries generalizing c with
  | nil =>
    rw [texts, List.map_nil, List.map_nil, List.append_nil]
    rfl
  | cons entry entries ih =>
    obtain ⟨key, t⟩ := entry
    have hnew : key ∉ c.current.map Prod.fst := fun hmem =>
      (List.nodup_append.1 hkeys).2.2 key hmem key List.mem_cons_self rfl
    have hadd : Item.addTo c (.pair key t) =
        some { c with current := c.current ++ [(key, .text t)] } := by
      rw [Item.addTo, Construction.insert, Entries.insert, Entries.insertNew_of_notMem hnew]
      rfl
    have hrest := ih { c with current := c.current ++ [(key, .text t)] } (by
      rw [List.map_append, List.append_assoc]
      exact hkeys)
    rw [List.map_cons, addItems, List.foldlM_cons, hadd]
    refine hrest.trans ?_
    rw [List.append_assoc]
    rfl

/-- A header of a new name starts an empty table behind what has been read. -/
theorem openTable_of_notMem {c : Construction} {entries : Entries} {name : Text}
    (hfinish : c.finish = some entries) (hname : name ∉ entries.map Prod.fst) :
    c.openTable [] name = some ⟨entries, [name], false, []⟩ := by
  have hstart : Construction.entriesAt name [] entries = some [] := by
    rw [Construction.entriesAt, Construction.startTable, Entries.lookup_eq_none_iff.2 hname]
  have hchange : entries.changeAt (fun parent => some (Entries.remove name parent)) [] =
      some entries := by
    rw [Entries.changeAt, Entries.remove_of_notMem hname]
  rw [Construction.openTable, hfinish]
  show (do
    let current ← Construction.entriesAt name [] entries
    let root ← entries.changeAt (fun parent => some (Entries.remove name parent)) []
    return (⟨root, [] ++ [name], false, current⟩ : Construction)) = _
  rw [hstart, hchange]
  rfl

/-- **A section puts one table behind what has been read.** -/
theorem addItems_section {c : Construction} {entries : Entries} {s : Section}
    (hfinish : c.finish = some entries) (hname : s.name ∉ entries.map Prod.fst)
    (hkeys : (s.entries.map Prod.fst).Nodup) :
    ∃ after, addItems c s.items = some after ∧
      after.finish = some (entries ++ [(s.name, .table .header (texts s.entries))]) := by
  refine ⟨⟨entries, [s.name], false, texts s.entries⟩, ?_, Entries.insertNew_of_notMem hname⟩
  have hpairs := addItems_pairs s.entries ⟨entries, [s.name], false, []⟩ hkeys
  rw [Section.items, addItems, List.foldlM_cons, Item.addTo, openTable_of_notMem hfinish hname]
  exact hpairs

/-- **Sections put their tables behind what has been read, in their order.** The induction carries
the entries that the document would have if it ended here: their names and those of the sections to
come are all different. -/
theorem finish_addItems {sections : List Section} {c : Construction} {entries : Entries}
    (hfinish : c.finish = some entries)
    (hnames : (entries.map Prod.fst ++ sections.map Section.name).Nodup)
    (hkeys : ∀ s ∈ sections, (s.entries.map Prod.fst).Nodup) :
    (addItems c (sections.flatMap Section.items)).bind Construction.finish =
      some (entries ++ tables sections) := by
  induction sections generalizing c entries with
  | nil =>
    rw [tables, List.map_nil, List.append_nil]
    exact hfinish
  | cons s sections ih =>
    have hname : s.name ∉ entries.map Prod.fst := fun hmem =>
      (List.nodup_append.1 hnames).2.2 s.name hmem s.name List.mem_cons_self rfl
    obtain ⟨after, hadd, hafter⟩ :=
      addItems_section hfinish hname (hkeys s List.mem_cons_self)
    rw [List.flatMap_cons, addItems_append, hadd, Option.bind_some, ih hafter]
    · rw [List.append_assoc]
      rfl
    · rw [List.map_append, List.append_assoc]
      exact hnames
    · exact fun s' hs' => hkeys s' (List.mem_cons_of_mem s hs')

/-- **A document of sections is read as one table for each.** -/
theorem Written.parse?_eq {sections : List Section} {t : Text} (h : Written sections t)
    (hdistinct : Distinct sections) : parse? t = some (tables sections) := by
  rw [WrittenDocument.parse?_eq h]
  exact finish_addItems (c := .start) rfl hdistinct.names hdistinct.keys

/-! ### The names of headers -/

/-- Entries that have a key, and all those of the entries before. -/
structure Entries.Gains (key : Text) (before after : Entries) : Prop where
  key : key ∈ after.map Prod.fst
  others : ∀ other ∈ before.map Prod.fst, other ∈ after.map Prod.fst

/-- An entry at the end adds its key and takes none away. -/
theorem Entries.gains_append (key : Text) (value : Value) (entries : Entries) :
    Gains key entries (entries ++ [(key, value)]) := by
  constructor
  · rw [List.map_append]
    exact List.mem_append_right _ List.mem_cons_self
  · intro other hother
    rw [List.map_append]
    exact List.mem_append_left _ hother

/-- A replacement keeps the keys, the one of the replaced value among them. -/
theorem Entries.gains_replace {key : Text} {found : Value} {entries : Entries}
    (hfound : entries.lookup key = some found) (value : Value) :
    Gains key entries (entries.replace key value) := by
  constructor
  · rw [keys_replace]
    exact List.mem_map_of_mem (mem_of_lookup hfound)
  · intro other hother
    rwa [keys_replace]

/-- Neither a table on the path of a change nor one beside it is lost. -/
theorem Entries.gains_of_changeAt {change : Entries → Option Entries} {step : Text}
    {path : List Text} {entries after : Entries}
    (h : entries.changeAt change (step :: path) = some after) : Gains step entries after := by
  rw [changeAt] at h
  split at h
  · obtain ⟨inner, -, rfl⟩ := Option.map_eq_some_iff.1 h
    exact gains_append step _ entries
  · cases h
  · rename_i hfound
    obtain ⟨inner, -, rfl⟩ := Option.map_eq_some_iff.1 h
    exact gains_replace hfound _
  · rename_i hfound
    split at h
    · cases h
    · obtain ⟨last, -, rfl⟩ := Option.map_eq_some_iff.1 h
      exact gains_replace hfound _
  · cases h

/-- A document under construction that has a name among its keys, or will have it when the table
being filled is put into it. -/
inductive Construction.Names (name : Text) (c : Construction) : Prop where
  | path (h : c.path.head? = some name)
  | root (hpath : c.path ≠ []) (h : name ∈ c.root.map Prod.fst)

namespace Construction

variable {name : Text} {c after : Construction}

/-- The table being filled is put into the document under the first key of its path. The other keys
of the top stay, however deep the path goes. -/
theorem gains_of_finish {entries : Entries} (hfinish : c.finish = some entries) {step : Text}
    {path : List Text} (hpath : c.path = step :: path) : Entries.Gains step c.root entries := by
  rw [Construction.finish, hpath] at hfinish
  cases path with
  | nil =>
    change (if c.repeated then _ else _) = _ at hfinish
    split at hfinish
    · split at hfinish
      · rename_i hfound
        obtain rfl := Option.some.inj hfinish
        exact Entries.gains_replace hfound _
      · cases hfinish
    · rw [Entries.insertNew] at hfinish
      split at hfinish
      · cases hfinish
      · obtain rfl := Option.some.inj hfinish
        exact Entries.gains_append step _ c.root
  | cons second path =>
    rw [List.getLast?_eq_getLast_of_ne_nil (List.cons_ne_nil _ _),
      List.dropLast_cons_cons] at hfinish
    exact Entries.gains_of_changeAt hfinish

/-- A name that a document under construction has is among the keys in the end. -/
theorem Names.finish (h : c.Names name) {entries : Entries} (hentries : c.finish = some entries) :
    name ∈ entries.map Prod.fst := by
  cases hpath : c.path with
  | nil =>
    cases h with
    | path h => rw [hpath] at h; cases h
    | root hne _ => exact absurd hpath hne
  | cons step path =>
    have hgains := gains_of_finish hentries hpath
    cases h with
    | path h =>
      rw [hpath] at h
      obtain rfl := Option.some.inj h
      exact hgains.key
    | root _ h => exact hgains.others name h

/-- Another header does not lose the name. The table that it opens may be taken out of the top for a
while, and then its name is the path of the construction. -/
theorem Names.openTable (h : c.Names name) {path : List Text} {key : Text}
    (hafter : c.openTable path key = some after) : after.Names name := by
  obtain ⟨root, hroot, hafter⟩ := Option.bind_eq_some_iff.1 hafter
  obtain ⟨current, hcurrent, hafter⟩ := Option.bind_eq_some_iff.1 hafter
  obtain ⟨root', hroot', hafter⟩ := Option.bind_eq_some_iff.1 hafter
  cases hafter
  have hmem := h.finish hroot
  cases path with
  | nil =>
    obtain rfl := Option.some.inj hroot'
    by_cases hkey : name = key
    · exact .path (congrArg some hkey.symm)
    · -- Only the key of the header is taken out of the top.
      refine .root (List.cons_ne_nil _ _) ?_
      obtain ⟨entry, hentry, rfl⟩ := List.mem_map.1 hmem
      exact List.mem_map_of_mem (List.mem_filter.2 ⟨hentry, decide_eq_true hkey⟩)
  | cons step path =>
    exact .root (List.cons_ne_nil _ _) ((Entries.gains_of_changeAt hroot').others name hmem)

/-- A repeated header does not lose the name. It puts the table that was open under its name, as
every header does, and takes nothing out of the top. -/
theorem Names.openRepeated (h : c.Names name) {path : List Text} {key : Text}
    (hafter : c.openRepeated path key = some after) : after.Names name := by
  obtain ⟨root, hroot, hafter⟩ := Option.bind_eq_some_iff.1 hafter
  obtain ⟨root', hroot', hafter⟩ := Option.bind_eq_some_iff.1 hafter
  cases hafter
  have hmem := h.finish hroot
  cases path with
  | nil =>
    refine .root (List.cons_ne_nil _ _) ?_
    rw [Entries.changeAt] at hroot'
    split at hroot'
    · obtain rfl := Option.some.inj hroot'
      exact (Entries.gains_append key _ root).others name hmem
    · obtain rfl := Option.some.inj hroot'
      exact hmem
    · cases hroot'
  | cons step path =>
    exact .root (List.cons_ne_nil _ _) ((Entries.gains_of_changeAt hroot').others name hmem)

/-- No line loses a name that a header has given. -/
theorem Names.grows (h : c.Names name) (hgrows : c.Grows after) : after.Names name := by
  cases hgrows with
  | same => exact h
  | opened hopen => exact h.openTable hopen
  | repeated hopen => exact h.openRepeated hopen
  | inserted _ hinsert =>
    obtain ⟨current, -, rfl⟩ := Option.map_eq_some_iff.1 hinsert
    cases h with
    | path h => exact .path h
    | root hpath h => exact .root hpath h

/-- A header gives its name to the document. -/
theorem names_of_openTable (hafter : c.openTable [] name = some after) : after.Names name := by
  obtain ⟨root, hroot, hafter⟩ := Option.bind_eq_some_iff.1 hafter
  obtain ⟨current, hcurrent, hafter⟩ := Option.bind_eq_some_iff.1 hafter
  obtain ⟨root', hroot', hafter⟩ := Option.bind_eq_some_iff.1 hafter
  cases hafter
  exact .path rfl

end Construction

/-- **The name of a header is among the keys of a document,** whatever stands behind the header.
Nothing that is read later takes a key away, so a foreign section cannot be hidden. -/
theorem mem_keys_of_header {items : List Item} {front : Text} (hfront : WholeLines items front)
    {name header : Text} (hheader : WrittenItem (.header name) header) (rest : Text)
    {entries : Entries} (hentries : parse? (front ++ (header ++ rest)) = some entries) :
    name ∈ entries.map Prod.fst := by
  have hhead : (front ++ (header ++ rest)).head? ≠ some '\ufeff' :=
    hfront.head?_append_ne (hheader.head?_append_ne (by decide) (by decide) (by decide) rest)
  rw [parse?_of_head?_ne hhead] at hentries
  obtain ⟨bound, hbound, hread⟩ := readLines_wholeLines hfront .start (header ++ rest)
    (Nat.le_refl _)
  rw [hread] at hentries
  obtain ⟨c, -, hentries⟩ := Option.bind_eq_some_iff.1 hentries
  cases hheader with
  | header hname hbefore hbehind =>
    simp only [List.cons_append, List.append_assoc, List.nil_append] at hentries hbound
    obtain ⟨bound, rfl, hcons⟩ := readLines_cons (c := c) (List.cons_ne_nil _ _) hbound
    rw [hcons, readLine_header c hname hbefore hbehind] at hentries
    obtain ⟨⟨after, next⟩, hline, hentries⟩ := Option.bind_eq_some_iff.1 hentries
    obtain ⟨opened, hopen, hnext⟩ := Option.bind_eq_some_iff.1 hline
    obtain ⟨_, -, heq⟩ := Option.map_eq_some_iff.1 hnext
    obtain ⟨rfl, rfl⟩ := Prod.mk.inj heq
    obtain ⟨last, hlast, hfinish⟩ := exists_finish_of_readLines Construction.Names.grows
      (Construction.names_of_openTable hopen) hentries
    exact hlast.finish hfinish

end Toml
end TableCodegen
