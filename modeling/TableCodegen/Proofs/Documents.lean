import TableCodegen.Toml.Document
import Mathlib.Data.List.Nodup

/-!
# The keys of a document

In a document that is read no key stands twice, neither at the top nor in any table below it. So the
value of a key is the one value under it, wherever a reader starts to look (`keyed_of_parse?`).
-/

namespace TableCodegen
namespace Toml

/-- A value in which no table has a key twice. -/
inductive Value.Keyed : Value → Prop where
  | text (t : Text) : (text t).Keyed
  | integer (n : Int) : (integer n).Keyed
  | boolean (b : Bool) : (boolean b).Keyed
  | float (x : Float) : (float x).Keyed
  | dateTime : dateTime.Keyed
  | array {items : List Value} (h : ∀ item ∈ items, item.Keyed) : (array items).Keyed
  | table {origin : Origin} {entries : Entries} (hkeys : (entries.map Prod.fst).Nodup)
    (hvalues : ∀ entry ∈ entries, entry.2.Keyed) : (table origin entries).Keyed
  | tables {items : List Entries} (h : ∀ entries ∈ items, (table .header entries).Keyed) :
    (tables items).Keyed

/-- Entries in which no key stands twice, nor in any table below. -/
structure Entries.Keyed (entries : Entries) : Prop where
  keys : (entries.map Prod.fst).Nodup
  values : ∀ entry ∈ entries, entry.2.Keyed

/-- A table is keyed exactly if its entries are. Where the table comes from, a header or a key in a
line, does not matter. -/
theorem Value.keyed_table {origin : Origin} {entries : Entries} :
    (table origin entries).Keyed ↔ entries.Keyed := by
  constructor
  · rintro (_ | _ | _ | _ | _ | _ | ⟨hkeys, hvalues⟩ | _)
    exact ⟨hkeys, hvalues⟩
  · rintro ⟨hkeys, hvalues⟩
    exact .table hkeys hvalues

/-- The tables under a repeated header are keyed exactly if the entries of each are. Different
tables may have the same key. -/
theorem Value.keyed_tables {items : List Entries} :
    (tables items).Keyed ↔ ∀ entries ∈ items, Entries.Keyed entries := by
  constructor
  · rintro (_ | _ | _ | _ | _ | _ | _ | h) entries hmem
    exact keyed_table.1 (h entries hmem)
  · exact fun h => .tables fun entries hmem => keyed_table.2 (h entries hmem)

namespace Entries

/-- A key is not found exactly if no entry has it. -/
theorem lookup_eq_none_iff {β : Type} {entries : List (Text × β)} {key : Text} :
    entries.lookup key = none ↔ key ∉ entries.map Prod.fst := by
  rw [List.lookup_eq_none_iff]
  constructor
  · intro h hmem
    obtain ⟨entry, hentry, rfl⟩ := List.mem_map.1 hmem
    exact bne_iff_ne.1 (h entry hentry) rfl
  · intro h entry hentry
    rw [bne_iff_ne]
    rintro rfl
    exact h (List.mem_map_of_mem hentry)

/-- What is found is the value of an entry. Of several entries with the key it is that of the first
one. -/
theorem mem_of_lookup {β : Type} {entries : List (Text × β)} {key : Text} {value : β}
    (h : entries.lookup key = some value) : (key, value) ∈ entries := by
  obtain ⟨before, behind, rfl, -⟩ := List.lookup_eq_some_iff.1 h
  exact List.mem_append_right _ List.mem_cons_self

/-- Where no key stands twice, every value is found under its key. -/
theorem lookup_eq_some_iff {β : Type} {entries : List (Text × β)}
    (hkeys : (entries.map Prod.fst).Nodup) {key : Text} {value : β} :
    entries.lookup key = some value ↔ (key, value) ∈ entries := by
  refine ⟨mem_of_lookup, fun hmem => ?_⟩
  cases hfound : entries.lookup key with
  | none => exact absurd (List.mem_map_of_mem hmem) (lookup_eq_none_iff.1 hfound)
  | some first =>
    have hfirst := List.inj_on_of_nodup_map hkeys (mem_of_lookup hfound) hmem rfl
    rw [(Prod.mk.inj hfirst).2]

/-! ### How entries grow -/

/-- A table without entries is keyed, and every new table starts as one. -/
theorem keyed_nil : Keyed [] := ⟨List.nodup_nil, nofun⟩

/-- What is found in keyed entries is keyed itself, so the property reaches every table that a path
leads to. -/
theorem Keyed.of_lookup {entries : Entries} (h : entries.Keyed) {key : Text} {value : Value}
    (hfound : entries.lookup key = some value) : value.Keyed :=
  h.values _ (mem_of_lookup hfound)

/-- An entry under a new key may be added. This is the only way in which entries get longer. -/
theorem Keyed.append {entries : Entries} (h : entries.Keyed) {key : Text} {value : Value}
    (hnew : entries.lookup key = none) (hvalue : value.Keyed) :
    Keyed (entries ++ [(key, value)]) := by
  constructor
  · rw [List.map_append]
    refine List.nodup_append.2 ⟨h.keys, List.nodup_singleton key, ?_⟩
    rintro first hfirst _ hlast rfl
    obtain rfl : first = key := List.mem_singleton.1 hlast
    exact lookup_eq_none_iff.1 hnew hfirst
  · intro entry hentry
    rcases List.mem_append.1 hentry with hentry | hentry
    · exact h.values entry hentry
    · obtain rfl := List.mem_singleton.1 hentry
      exact hvalue

/-- A replacement changes no key: one value goes and another one comes to its place. -/
theorem keys_replace (key : Text) (value : Value) (entries : Entries) :
    (entries.replace key value).map Prod.fst = entries.map Prod.fst := by
  induction entries with
  | nil => rfl
  | cons entry entries ih =>
    rw [replace]
    split
    · rename_i hkey
      rw [List.map_cons, List.map_cons, hkey]
    · rw [List.map_cons, List.map_cons, ih]

/-- After a replacement there is no entry but the new one and those that were there. -/
theorem mem_replace {key : Text} {value : Value} {entries : Entries} {entry : Text × Value}
    (h : entry ∈ entries.replace key value) : entry = (key, value) ∨ entry ∈ entries := by
  induction entries with
  | nil => exact .inr h
  | cons first entries ih =>
    rw [replace] at h
    split at h
    · rcases List.mem_cons.1 h with rfl | h
      · exact .inl rfl
      · exact .inr (List.mem_cons_of_mem _ h)
    · rcases List.mem_cons.1 h with rfl | h
      · exact .inr List.mem_cons_self
      · exact (ih h).imp_right (List.mem_cons_of_mem _)

/-- Entries stay keyed when a value is replaced by a keyed one, as their keys stay the same. -/
theorem Keyed.replace {entries : Entries} (h : entries.Keyed) (key : Text) {value : Value}
    (hvalue : value.Keyed) : (entries.replace key value).Keyed := by
  refine ⟨by rw [keys_replace]; exact h.keys, fun entry hentry => ?_⟩
  rcases mem_replace hentry with rfl | hentry
  · exact hvalue
  · exact h.values entry hentry

/-- Entries stay keyed when a key is taken out. -/
theorem Keyed.remove {entries : Entries} (h : entries.Keyed) (key : Text) :
    (entries.remove key).Keyed :=
  ⟨h.keys.sublist (List.filter_sublist.map _),
    fun entry hentry => h.values entry (List.mem_of_mem_filter hentry)⟩

/-- Entries stay keyed when a table in them does. -/
theorem Keyed.replaceTable {entries inner inner' : Entries} (h : entries.Keyed) {step : Text}
    {origin : Origin} (hstep : entries.lookup step = some (.table origin inner))
    (hinner : inner.Keyed → inner'.Keyed) :
    (entries.replace step (.table origin inner')).Keyed :=
  h.replace step (Value.keyed_table.2 (hinner (Value.keyed_table.1 (h.of_lookup hstep))))

/-- Entries stay keyed when the last of the tables under a repeated header does. -/
theorem Keyed.replaceLast {entries last last' : Entries} (h : entries.Keyed) {step : Text}
    {items : List Entries} (hstep : entries.lookup step = some (.tables items))
    (hlast : items.getLast? = some last) (hinner : last.Keyed → last'.Keyed) :
    (entries.replace step (.tables (items.dropLast ++ [last']))).Keyed := by
  have hitems := Value.keyed_tables.1 (h.of_lookup hstep)
  refine h.replace step (Value.keyed_tables.2 fun item hmem => ?_)
  rcases List.mem_append.1 hmem with hmem | hmem
  · exact hitems item (List.dropLast_subset items hmem)
  · obtain rfl := List.mem_singleton.1 hmem
    exact hinner (hitems last (List.mem_of_getLast? hlast))

/-- A key may be inserted where it is not found yet. Where it is found the insertion fails, and this
is what keeps keys from standing twice. -/
theorem Keyed.insertNew {entries after : Entries} (h : entries.Keyed) {key : Text} {value : Value}
    (hvalue : value.Keyed) (hafter : entries.insertNew key value = some after) : after.Keyed := by
  rw [Entries.insertNew] at hafter
  split at hafter
  · cases hafter
  · rename_i hnew
    obtain rfl := Option.some.inj hafter
    exact h.append (Option.not_isSome_iff_eq_none.1 hnew) hvalue

/-- **A key with points leaves entries keyed.** The induction is on the steps that are still to go,
and every step opens a new table, goes into one that is there, or goes into the last one under a
repeated header. -/
theorem Keyed.insertDotted {key : Text} {value : Value} (hvalue : value.Keyed) {path : List Text}
    {origin : Origin} {entries after : Entries} (h : entries.Keyed)
    (hafter : entries.insertDotted key value path origin = some after) : after.Keyed := by
  induction path generalizing origin entries after with
  | nil =>
    rw [Entries.insertDotted] at hafter
    split at hafter
    · exact h.insertNew hvalue hafter
    · cases hafter
  | cons step path ih =>
    rw [Entries.insertDotted] at hafter
    -- Under the step there is nothing, a table of keys, an implied one, tables, or another value.
    split at hafter
    · rename_i hstep
      obtain ⟨inner, hinner, rfl⟩ := Option.map_eq_some_iff.1 hafter
      exact h.append hstep (Value.keyed_table.2 (ih keyed_nil hinner))
    · rename_i inner hstep
      obtain ⟨inner', hinner, rfl⟩ := Option.map_eq_some_iff.1 hafter
      exact h.replaceTable hstep fun hkeyed => ih hkeyed hinner
    · rename_i inner hstep
      obtain ⟨inner', hinner, rfl⟩ := Option.map_eq_some_iff.1 hafter
      exact h.replaceTable hstep fun hkeyed => ih hkeyed hinner
    · rename_i items hstep
      split at hafter
      · cases hafter
      · rename_i last hlast
        obtain ⟨last', hlast', rfl⟩ := Option.map_eq_some_iff.1 hafter
        exact h.replaceLast hstep hlast fun hkeyed => ih hkeyed hlast'
    · cases hafter

/-- A key of any number of steps leaves entries keyed. -/
theorem Keyed.insert {entries after : Entries} (h : entries.Keyed) {path : List Text} {key : Text}
    {value : Value} (hvalue : value.Keyed) (hafter : entries.insert path key value = some after) :
    after.Keyed := by
  cases path with
  | nil => exact h.insertNew hvalue hafter
  | cons step path => exact Keyed.insertDotted hvalue h hafter

/-- A change that keeps entries keyed does so below a path of tables. The path may open tables that
are not there yet, and leads into the last of the tables under a repeated header. -/
theorem Keyed.changeAt {change : Entries → Option Entries}
    (hchange : ∀ {before after : Entries}, before.Keyed → change before = some after → after.Keyed)
    {path : List Text} {entries after : Entries} (h : entries.Keyed)
    (hafter : entries.changeAt change path = some after) : after.Keyed := by
  induction path generalizing entries after with
  | nil => exact hchange h hafter
  | cons step path ih =>
    rw [Entries.changeAt] at hafter
    -- Under the step there is nothing, an inline table, another table, tables, or another value.
    split at hafter
    · rename_i hstep
      obtain ⟨inner, hinner, rfl⟩ := Option.map_eq_some_iff.1 hafter
      exact h.append hstep (Value.keyed_table.2 (ih keyed_nil hinner))
    · cases hafter
    · rename_i origin inner _ hstep
      obtain ⟨inner', hinner, rfl⟩ := Option.map_eq_some_iff.1 hafter
      exact h.replaceTable hstep fun hkeyed => ih hkeyed hinner
    · rename_i items hstep
      split at hafter
      · cases hafter
      · rename_i last hlast
        obtain ⟨last', hlast', rfl⟩ := Option.map_eq_some_iff.1 hafter
        exact h.replaceLast hstep hlast fun hkeyed => ih hkeyed hlast'
    · cases hafter

end Entries

/-! ### Values as they are read -/

/-- A value that is no array and no table has no keys at all, so there are none that could
repeat. -/
theorem keyed_of_readScalar {t rest : Text} {value : Value}
    (h : readScalar t = some (value, rest)) : value.Keyed := by
  unfold readScalar at h
  split at h
  · cases h
    exact .text _
  · split at h
    · cases h
      exact .boolean _
    · cases h
      exact .boolean _
    · split at h
      · cases h
        exact .dateTime
      · split at h
        · cases h
          exact .float _
        · obtain ⟨read, -, heq⟩ := Option.map_eq_some_iff.1 h
          cases heq
          exact .integer _

/-- What readers with a bound give is keyed. -/
structure KeyedUpTo (bound : Nat) : Prop where
  value : ∀ {depth : Nat} {t rest : Text} {value : Value},
    readValue bound depth t = some (value, rest) → value.Keyed
  items : ∀ {depth : Nat} {t rest : Text} {items : List Value},
    readItems bound depth t = some (items, rest) → ∀ item ∈ items, item.Keyed
  pairs : ∀ {depth : Nat} {before after : Entries} {t rest : Text}, before.Keyed →
    readPairs bound depth before t = some (after, rest) → after.Keyed

/-- Without any bound left the readers give nothing. -/
theorem keyedUpTo_zero : KeyedUpTo 0 where
  value h := by rw [readValue] at h; cases h
  items h := by rw [readItems] at h; cases h
  pairs _ h := by rw [readPairs] at h; cases h

/-- **What a reader gives is keyed if what the readers below it give is.** Values, items and pairs
are read by one another, so the three are shown together. Only pairs insert a key, and an insertion
keeps entries keyed. -/
theorem KeyedUpTo.succ {bound : Nat} (ih : KeyedUpTo bound) : KeyedUpTo (bound + 1) where
  value {depth t rest value} h := by
    unfold readValue at h
    -- An array, an inline table or a scalar; the other cases are those of levels used up.
    split at h
    · cases h
    · split at h
      · rename_i hitems
        cases h
        exact .array (ih.items hitems)
      · cases h
    · cases h
    · split at h
      · cases h
        exact Value.keyed_table.2 Entries.keyed_nil
      · split at h
        · rename_i hpairs
          cases h
          exact Value.keyed_table.2 (ih.pairs Entries.keyed_nil hpairs)
        · cases h
    · exact keyed_of_readScalar h
  items {depth t rest items} h := by
    rw [readItems] at h
    split at h
    · cases h
      nofun
    · split at h
      · cases h
      · rename_i item _ hitem
        split at h
        · cases h
          exact List.forall_mem_singleton.2 (ih.value hitem)
        · split at h
          · rename_i hitems
            cases h
            exact List.forall_mem_cons.2 ⟨ih.value hitem, ih.items hitems⟩
          · cases h
        · cases h
  pairs {depth before after t rest} hbefore h := by
    rw [readPairs] at h
    split at h
    · split at h
      · cases h
      · rename_i hvalue
        split at h
        · cases h
        · rename_i hinsert
          have hkeyed := hbefore.insert (ih.value hvalue) hinsert
          split at h
          · cases h
            exact hkeyed
          · exact ih.pairs hkeyed h
          · cases h
    · cases h

/-- **Every value that is read is keyed,** whatever the bound. -/
theorem keyedUpTo (bound : Nat) : KeyedUpTo bound := by
  induction bound with
  | zero => exact keyedUpTo_zero
  | succ bound ih => exact ih.succ

/-! ### Documents as they are read -/

/-- A document under construction in which no table has a key twice. -/
structure Construction.Keyed (c : Construction) : Prop where
  root : c.root.Keyed
  current : c.current.Keyed

namespace Construction

/-- A document starts without entries. -/
theorem keyed_start : start.Keyed := ⟨Entries.keyed_nil, Entries.keyed_nil⟩

/-- **The table that is open at the end is put where its header says,** and the document stays
keyed: a new key gets the table, and an array of tables gets it behind the others. -/
theorem Keyed.finish {c : Construction} (h : c.Keyed) {entries : Entries}
    (hentries : c.finish = some entries) : entries.Keyed := by
  rw [Construction.finish] at hentries
  split at hentries
  · cases hentries
    exact h.current
  · refine Entries.Keyed.changeAt (fun {before after} hbefore hafter => ?_) h.root hentries
    split at hafter
    · split at hafter
      · rename_i items hitems
        cases hafter
        refine hbefore.replace _ (Value.keyed_tables.2 fun entries hmem => ?_)
        rcases List.mem_append.1 hmem with hmem | hmem
        · exact Value.keyed_tables.1 (hbefore.of_lookup hitems) entries hmem
        · obtain rfl := List.mem_singleton.1 hmem
          exact h.current
      · cases hafter
    · exact hbefore.insertNew (Value.keyed_table.2 h.current) hafter

/-- A table that a header opens starts without entries, or with those that longer headers in front
of it gave. -/
theorem keyed_of_startTable {key : Text} {parent entries : Entries} (h : parent.Keyed)
    (hentries : startTable key parent = some entries) : entries.Keyed := by
  rw [startTable] at hentries
  split at hentries
  · cases hentries
    exact Entries.keyed_nil
  · rename_i hfound
    cases hentries
    exact Value.keyed_table.1 (h.of_lookup hfound)
  · cases hentries

/-- The entries that a header with several steps leads to are part of the document, so they are
keyed. -/
theorem keyed_of_entriesAt {key : Text} {path : List Text} {entries after : Entries}
    (h : entries.Keyed) (hafter : entriesAt key path entries = some after) : after.Keyed := by
  induction path generalizing entries with
  | nil => exact keyed_of_startTable h hafter
  | cons step path ih =>
    rw [entriesAt] at hafter
    split at hafter
    · cases hafter
      exact Entries.keyed_nil
    · cases hafter
    · rename_i hfound
      exact ih (Value.keyed_table.1 (h.of_lookup hfound)) hafter
    · rename_i items hfound
      split at hafter
      · cases hafter
      · rename_i last hlast
        have hitems := Value.keyed_tables.1 (h.of_lookup hfound)
        exact ih (hitems last (List.mem_of_getLast? hlast)) hafter
    · cases hafter

/-- A header leaves the document keyed: the table that is open is finished, and the new one is taken
out of its parent while it is open. -/
theorem Keyed.openTable {c after : Construction} (h : c.Keyed) {path : List Text} {key : Text}
    (hafter : c.openTable path key = some after) : after.Keyed := by
  obtain ⟨root, hroot, hafter⟩ := Option.bind_eq_some_iff.1 hafter
  obtain ⟨current, hcurrent, hafter⟩ := Option.bind_eq_some_iff.1 hafter
  obtain ⟨root', hroot', hafter⟩ := Option.bind_eq_some_iff.1 hafter
  cases hafter
  refine ⟨Entries.Keyed.changeAt (fun hbefore hchange => ?_) (h.finish hroot) hroot',
    keyed_of_entriesAt (h.finish hroot) hcurrent⟩
  cases hchange
  exact hbefore.remove key

/-- A repeated header leaves the document keyed. It opens a table without entries, in a list that is
new or was made by such headers. -/
theorem Keyed.openRepeated {c after : Construction} (h : c.Keyed) {path : List Text} {key : Text}
    (hafter : c.openRepeated path key = some after) : after.Keyed := by
  obtain ⟨root, hroot, hafter⟩ := Option.bind_eq_some_iff.1 hafter
  obtain ⟨root', hroot', hafter⟩ := Option.bind_eq_some_iff.1 hafter
  cases hafter
  refine ⟨Entries.Keyed.changeAt (fun hbefore hchange => ?_) (h.finish hroot) hroot',
    Entries.keyed_nil⟩
  split at hchange
  · rename_i hnew
    cases hchange
    exact hbefore.append hnew (Value.keyed_tables.2 nofun)
  · cases hchange
    exact hbefore
  · cases hchange

/-- A key in a line goes to the table that is open. -/
theorem Keyed.insert {c after : Construction} (h : c.Keyed) {path : List Text} {key : Text}
    {value : Value} (hvalue : value.Keyed) (hafter : c.insert path key value = some after) :
    after.Keyed := by
  obtain ⟨current, hcurrent, rfl⟩ := Option.map_eq_some_iff.1 hafter
  exact ⟨h.root, h.current.insert hvalue hcurrent⟩

end Construction

/-! ### Documents line by line -/

/-- What a line does to a document under construction: nothing, or one of the three changes. -/
inductive Construction.Grows (c : Construction) : Construction → Prop where
  | same : Grows c c
  | opened {path : List Text} {key : Text} {after : Construction}
    (h : c.openTable path key = some after) : Grows c after
  | repeated {path : List Text} {key : Text} {after : Construction}
    (h : c.openRepeated path key = some after) : Grows c after
  | inserted {bound depth : Nat} {t rest : Text} {path : List Text} {key : Text} {value : Value}
    {after : Construction} (hvalue : readValue bound depth t = some (value, rest))
    (h : c.insert path key value = some after) : Grows c after

/-- **A line makes one of the four changes, or reading fails at it.** So what holds of a document
under construction is shown change by change, and the forms of a line are looked at here only. -/
theorem Construction.grows_of_readLine {c after : Construction} {t rest : Text}
    (hafter : readLine c t = some (after, rest)) : c.Grows after := by
  unfold readLine at hafter
  -- A repeated header, a header, or a line that is neither: a blank one or one with a key.
  split at hafter
  · split at hafter
    · split at hafter
      · rename_i hopen _
        cases hafter
        exact .repeated hopen
      · cases hafter
    · cases hafter
  · split at hafter
    · split at hafter
      · rename_i hopen _
        cases hafter
        exact .opened hopen
      · cases hafter
    · cases hafter
  · split at hafter
    · cases hafter
      exact .same
    · split at hafter
      · split at hafter
        · cases hafter
        · rename_i hvalue
          split at hafter
          · rename_i hinsert _
            cases hafter
            exact .inserted hvalue hinsert
          · cases hafter
      · cases hafter

/-- **What every line preserves** holds of the document that is finished in the end. Any property of
a document under construction may be put in: that its keys are unique is one, and that it has a
certain name is another. -/
theorem exists_finish_of_readLines {P : Construction → Prop}
    (hgrows : ∀ {c after : Construction}, P c → c.Grows after → P after) {bound : Nat}
    {c : Construction} (hc : P c) {t : Text} {entries : Entries}
    (hentries : readLines bound c t = some entries) :
    ∃ last : Construction, P last ∧ last.finish = some entries := by
  induction bound generalizing c t with
  | zero =>
    cases t with
    | nil => exact ⟨c, hc, by rwa [readLines] at hentries⟩
    | cons ch cs => rw [readLines] at hentries; cases hentries
  | succ bound ih =>
    cases t with
    | nil => exact ⟨c, hc, by rwa [readLines] at hentries⟩
    | cons ch cs =>
      rw [readLines] at hentries
      split at hentries
      · rename_i hline
        exact ih (hgrows hc (Construction.grows_of_readLine hline)) hentries
      · cases hentries
      · nofun

/-- A document under construction stays keyed, whatever a line does to it. -/
theorem Construction.Keyed.grows {c after : Construction} (h : c.Keyed) (hgrows : c.Grows after) :
    after.Keyed := by
  cases hgrows with
  | same => exact h
  | opened hopen => exact h.openTable hopen
  | repeated hopen => exact h.openRepeated hopen
  | inserted hvalue hinsert => exact h.insert ((keyedUpTo _).value hvalue) hinsert

/-- **No key stands twice in a document,** at the top or in any table. -/
theorem keyed_of_parse? {t : Text} {entries : Entries} (h : parse? t = some entries) :
    entries.Keyed := by
  obtain ⟨last, hkeyed, hfinish⟩ :=
    exists_finish_of_readLines Construction.Keyed.grows Construction.keyed_start h
  exact hkeyed.finish hfinish

end Toml
end TableCodegen
