import TableCodegen.FileTree

/-!
# What writing a file does to a tree

A write that is refused leaves the tree as it is. One that is not puts the content at the place of
the path and touches no other place. Since there was no directory at that place before, no path went
through it, and every path that led somewhere still leads there.

A path is only told by the places that it goes through. Two trees that agree on these lead it to the
same place, or give the same reason why it leads nowhere.
-/

namespace TableCodegen
namespace FileTree

/-- What has been put at a place is found there. The root is always a directory, so nothing can be
put there. -/
theorem lookup_put_self (tree : FileTree) {location : Location} (h : location ≠ [])
    (entry : Entry) : (tree.put location entry).lookup location = some entry := by
  rw [lookup, if_neg h, put, List.lookup_cons_self]

/-- Taking a key out of a list of entries leaves the others to be found. -/
theorem lookup_filter_of_ne {location other : Location} (h : other ≠ location) :
    ∀ entries : List (Location × Entry),
      (entries.filter (·.1 ≠ location)).lookup other = entries.lookup other
  | [] => rfl
  | (key, entry) :: entries => by
    have ih := lookup_filter_of_ne h entries
    by_cases hkey : key = location
    · have hne : (other == key) = false := beq_eq_false_iff_ne.2 (hkey ▸ h)
      rw [List.filter_cons_of_neg (by simpa using hkey), ih, List.lookup_cons, hne]
    · rw [List.filter_cons_of_pos (by simpa using hkey), List.lookup_cons, List.lookup_cons, ih]

/-- What has been put at a place is found nowhere else. -/
theorem lookup_put_of_ne (tree : FileTree) {location other : Location} (h : other ≠ location)
    (entry : Entry) : (tree.put location entry).lookup other = tree.lookup other := by
  have hne : (other == location) = false := beq_eq_false_iff_ne.2 h
  simp only [lookup, put, List.lookup_cons, hne, lookup_filter_of_ne h]

/-- A path to be written leads to a place where there is no directory. -/
theorem target_eq_ok {tree : FileTree} {path : Text} {location : Location}
    (h : tree.target path = .ok location) :
    tree.locate path = .ok location ∧ tree.lookup location ≠ some .directory := by
  rw [target] at h
  split at h
  · simp only [bind, Except.bind] at h
    split at h <;> cases h
  · cases hlocate : tree.locate path with
    | error reason => simp [hlocate, bind, Except.bind] at h
    | ok place =>
      simp only [hlocate, bind, Except.bind] at h
      split at h
      · cases h
      · obtain rfl := Except.ok.inj h
        exact ⟨rfl, by assumption⟩

/-- The root is no place for a file. -/
theorem ne_nil_of_target {tree : FileTree} {path : Text} {location : Location}
    (h : tree.target path = .ok location) : location ≠ [] := by
  rintro rfl
  exact (target_eq_ok h).2 (if_pos rfl)

/-- A file in the place of no directory is in nobody's way. -/
theorem walk_put {tree : FileTree} {location : Location}
    (h : tree.lookup location ≠ some .directory) (content : Bytes) {names : List Text} :
    ∀ {start place : Location}, tree.walk start names = .ok place →
      (tree.put location (.file content)).walk start names = .ok place := by
  induction names with
  | nil => exact fun hwalk => hwalk
  | cons name names ih =>
    intro start place hwalk
    rw [walk] at hwalk ⊢
    split at hwalk
    · cases hwalk
    · cases hwalk
    · rename_i hstart
      have hne : start ≠ location := fun heq => h (heq ▸ hstart)
      rw [lookup_put_of_ne tree hne, hstart]
      exact ih hwalk

/-- A path that led somewhere still leads there, if the new file stands where no directory was. -/
theorem locate_put {tree : FileTree} {location place : Location} {path : Text}
    (h : tree.lookup location ≠ some .directory) (content : Bytes)
    (hlocate : tree.locate path = .ok place) :
    (tree.put location (.file content)).locate path = .ok place := by
  rw [locate] at hlocate ⊢
  split at hlocate
  · cases hlocate
  · rename_i hpath
    rw [if_neg hpath]
    exact walk_put h content hlocate

/-- A tree after a file has been written: the path leads to a place where there was no directory,
that place now holds the content, and all others what they held. -/
structure Written (tree : FileTree) (path : Text) (content : Bytes) (after : FileTree) : Prop where
  read : after.read path = .ok content
  place : ∃ location, tree.locate path = .ok location ∧
    after.lookup location = some (.file content) ∧
    (∀ other, other ≠ location → after.lookup other = tree.lookup other) ∧
    ∀ other, tree.locate other ≠ .ok location →
      ∀ bytes, tree.read other = .ok bytes → after.read other = .ok bytes

/-- **A write touches its own place and no other.** What is read along any other path is what was
read before, for every path that led somewhere leads there still. -/
theorem written_of_write {tree after : FileTree} {path : Text} {content : Bytes}
    (h : tree.write path content = .ok after) : Written tree path content after := by
  rw [write] at h
  cases htarget : tree.target path with
  | error reason =>
    rw [htarget] at h
    cases h
  | ok location =>
    rw [htarget] at h
    obtain rfl := Except.ok.inj h
    obtain ⟨hlocate, hdirectory⟩ := target_eq_ok htarget
    have hself := lookup_put_self tree (ne_nil_of_target htarget) (.file content)
    refine ⟨?_, location, hlocate, hself, fun other hne => lookup_put_of_ne tree hne _,
      fun other hother bytes hread => ?_⟩
    · simp only [read, locate_put hdirectory content hlocate, bind, Except.bind, hself]
      rfl
    · rw [read] at hread ⊢
      cases hplace : tree.locate other with
      | error reason => simp [hplace, bind, Except.bind] at hread
      | ok place =>
        have hne : place ≠ location := fun heq => hother (heq ▸ hplace)
        simp only [hplace, bind, Except.bind] at hread
        simp only [locate_put hdirectory content hplace, bind, Except.bind,
          lookup_put_of_ne tree hne]
        exact hread

/-! ### The places that a path goes through -/

/-- The places that a walk looks at, since a further name is to be followed from there. -/
def trail (tree : FileTree) (location : Location) : List Text → List Location
  | [] => []
  | name :: names =>
    location ::
      if tree.lookup location = some .directory then trail tree (stepTo location name) names else []

/-- The places that a path goes through. The place it leads to is not one of them, unless the path
comes by there as well. -/
def passed (tree : FileTree) (path : Text) : List Location := tree.trail (base path) (names path)

/-- A walk goes on from a directory. -/
theorem trail_of_directory {tree : FileTree} {location : Location}
    (h : tree.lookup location = some .directory) (name : Text) (names : List Text) :
    tree.trail location (name :: names) = location :: tree.trail (stepTo location name) names := by
  rw [trail, if_pos h]

/-- A walk ends where there is no directory, and looks at no place behind it. -/
theorem trail_of_not_directory {tree : FileTree} {location : Location}
    (h : tree.lookup location ≠ some .directory) (name : Text) (names : List Text) :
    tree.trail location (name :: names) = [location] := by
  rw [trail, if_neg h]

/-- For the last name only the place in front of it is looked at. -/
theorem trail_singleton (tree : FileTree) (location : Location) (name : Text) :
    tree.trail location [name] = [location] := by
  rw [trail, trail, ite_self]

/-- What the last name is makes no difference to the places on the way. -/
theorem trail_concat (tree : FileTree) (last other : Text) {names : List Text} :
    ∀ location, tree.trail location (names ++ [last]) = tree.trail location (names ++ [other]) := by
  induction names with
  | nil => exact fun _ => rfl
  | cons name names ih =>
    intro location
    rw [List.cons_append, List.cons_append, trail, trail, ih]

/-- Empty names lead to no other places. They stand where a path has two slashes in a row or one at
its end. -/
theorem trail_filter_subset (tree : FileTree) {names : List Text} :
    ∀ location, tree.trail location (names.filter (· ≠ [])) ⊆ tree.trail location names := by
  induction names with
  | nil => exact fun _ => List.Subset.refl _
  | cons name names ih =>
    intro location
    by_cases hdirectory : tree.lookup location = some .directory
    · by_cases hname : name = []
      · have hstep : stepTo location name = location := if_pos (.inl hname)
        rw [List.filter_cons_of_neg (by simpa using hname), trail_of_directory hdirectory, hstep]
        exact List.subset_cons_of_subset _ (ih location)
      · rw [List.filter_cons_of_pos (by simpa using hname), trail_of_directory hdirectory,
          trail_of_directory hdirectory]
        exact List.cons_subset_cons _ (ih _)
    · rw [trail_of_not_directory hdirectory]
      cases (name :: names).filter (· ≠ []) with
      | nil => exact List.nil_subset _
      | cons first others => rw [trail_of_not_directory hdirectory]; exact List.Subset.refl _

/-- A path that ends in a slash goes through the places on the way to the directory it names. -/
theorem trail_directory_subset (tree : FileTree) (path : Text) :
    tree.trail (base path) (((names path).filter (· ≠ [])).dropLast ++ [[]]) ⊆
      tree.passed path := by
  have hnames : names path ≠ [] := List.splitOn_ne_nil _ _
  cases hlast : ((names path).filter (· ≠ [])).getLast? with
  | none =>
    rw [List.getLast?_eq_none_iff] at hlast
    obtain ⟨name, others, hname⟩ := List.exists_cons_of_ne_nil hnames
    rw [hlast, List.dropLast_nil, List.nil_append, trail_singleton, passed, hname, trail]
    exact List.cons_subset.2 ⟨List.mem_cons_self, List.nil_subset _⟩
  | some last =>
    obtain ⟨front, hfront⟩ := List.getLast?_eq_some_iff.1 hlast
    rw [hfront, List.dropLast_concat, tree.trail_concat [] last, ← hfront]
    exact tree.trail_filter_subset (base path)

section Agreement

variable {tree other : FileTree} {path : Text}

/-- **A walk is told by the places that it looks at.** -/
theorem walk_congr {names : List Text} :
    ∀ {start : Location}, (∀ place ∈ tree.trail start names,
      other.lookup place = tree.lookup place) → other.walk start names = tree.walk start names := by
  induction names with
  | nil => exact fun _ => rfl
  | cons name names ih =>
    intro start h
    have hstart : other.lookup start = tree.lookup start := h start List.mem_cons_self
    rw [walk, walk, hstart]
    split
    · rfl
    · rfl
    · rename_i hdirectory
      refine ih fun place hplace => h place ?_
      rw [trail_of_directory hdirectory]
      exact List.mem_cons_of_mem _ hplace

/-- **A path is told by the places that it goes through,** also when it leads nowhere. -/
theorem locate_congr (h : ∀ place ∈ tree.passed path, other.lookup place = tree.lookup place) :
    other.locate path = tree.locate path := by
  rw [locate, locate, walk_congr h]

/-- Reading is told by the places on the way and the place that the path leads to. -/
theorem read_congr (h : ∀ place ∈ tree.passed path, other.lookup place = tree.lookup place)
    (hplace : ∀ place, tree.locate path = .ok place → other.lookup place = tree.lookup place) :
    other.read path = tree.read path := by
  rw [read, read, locate_congr h]
  cases hlocate : tree.locate path with
  | error reason => rfl
  | ok place =>
    have hlookup : other.lookup place = tree.lookup place := hplace place hlocate
    simp only [bind, Except.bind, hlookup]

/-- Whether a path can be written is told by the places on the way, and by whether there is a
directory at the place that it leads to. -/
theorem target_congr (h : ∀ place ∈ tree.passed path, other.lookup place = tree.lookup place)
    (hplace : ∀ place, tree.locate path = .ok place →
      (other.lookup place = some .directory ↔ tree.lookup place = some .directory)) :
    other.target path = tree.target path := by
  rw [target, target]
  split
  · rename_i hslash
    have hwalk : other.walk (base path) (((names path).filter (· ≠ [])).dropLast ++ [[]]) =
        tree.walk (base path) (((names path).filter (· ≠ [])).dropLast ++ [[]]) :=
      walk_congr fun place hmem => h place (trail_directory_subset tree path hmem)
    simp only [hwalk]
  · rw [locate_congr h]
    cases hlocate : tree.locate path with
    | error reason => rfl
    | ok place =>
      have hdirectory := hplace place hlocate
      simp only [bind, Except.bind]
      by_cases hold : tree.lookup place = some .directory
      · rw [hold, hdirectory.2 hold]
      · have hnew : other.lookup place ≠ some .directory := fun hnew => hold (hdirectory.1 hnew)
        split
        · exact absurd ‹_› hnew
        · rfl

end Agreement

end FileTree
end TableCodegen
