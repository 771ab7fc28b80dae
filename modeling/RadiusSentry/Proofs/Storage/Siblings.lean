import RadiusSentry.Proofs.Storage.Files

/-!
# Files in one directory

Creating, rewriting or removing a file changes what stands at one place, which was no directory
and is none afterwards (`FileTree.Touches.exists_differsAt`). Paths lead through directories
alone, so they lead to the same directories as before (`FileTree.DiffersAt.directoryAt_iff`),
and whether anything has another name there stays as it was
(`FileTree.Touches.pathExists_join_of_ne`).
-/

set_option autoImplicit false

namespace RadiusSentry.FileTree

/-- The file that a path leads to is created, rewritten or removed. -/
inductive Touches (path : Path) (t t' : FileTree) : Prop
  | written (contents : Octets) (h : t.write path contents = .ok t')
  | removed (h : t.remove path = .ok t')

/-- Two trees differ at one place at most, where neither has a directory. -/
structure DiffersAt (t t' : FileTree) (place : List String) : Prop where
  working : t'.working = t.working
  elsewhere : ∀ other, other ≠ place → t'.lookup other = t.lookup other
  plain : t.lookup place ≠ some .directory
  plain' : t'.lookup place ≠ some .directory

variable {t t' : FileTree} {place : List String}

theorem lookup_erase (nonempty : place ≠ []) (other : List String) :
    (t.erase place).lookup other = if other = place then none else t.lookup other := by
  unfold lookup erase
  by_cases root : other = []
  · rw [if_pos root, if_pos root, if_neg (root ▸ Ne.symm nonempty)]
  rw [if_neg root, if_neg root, List.find?_filter]
  by_cases same : other = place
  · rw [if_pos same, Option.map_eq_none_iff, List.find?_eq_none]
    rintro ⟨names, e⟩ -
    simp [same]
  · rw [if_neg same]
    congr 2
    funext ⟨names, e⟩
    by_cases own : names = other
    · simp [own, same]
    · simp [own]

theorem DiffersAt.symm (h : DiffersAt t t' place) : DiffersAt t' t place where
  working := h.working.symm
  elsewhere other different := (h.elsewhere other different).symm
  plain := h.plain'
  plain' := h.plain

theorem DiffersAt.lookup_directory (h : DiffersAt t t' place) {other : List String}
    (there : t.lookup other = some .directory) : t'.lookup other = some .directory := by
  rw [h.elsewhere other, there]
  rintro rfl
  exact h.plain there

/-- A walk to a directory begins at one. -/
theorem lookup_start_of_walk {names start reached : List String}
    (walked : t.walk start names = .ok reached) (there : t.lookup reached = some .directory) :
    t.lookup start = some .directory := by
  cases names with
  | nil =>
    cases walked
    exact there
  | cons name rest =>
    rw [← List.singleton_append, walk_append] at walked
    obtain ⟨next, first, -⟩ := bind_eq_ok_iff.mp walked
    exact (walk_singleton_eq_ok_iff.mp first).1

/-- A walk to a directory passes directories alone. -/
theorem DiffersAt.walk (h : DiffersAt t t' place) {names start reached : List String}
    (walked : t.walk start names = .ok reached) (there : t.lookup reached = some .directory) :
    t'.walk start names = .ok reached := by
  induction names generalizing start with
  | nil => exact walked
  | cons name rest ih =>
    rw [← List.singleton_append, walk_append] at walked ⊢
    obtain ⟨next, first, later⟩ := bind_eq_ok_iff.mp walked
    obtain ⟨directory, step⟩ := walk_singleton_eq_ok_iff.mp first
    have passed : t'.lookup next = some .directory :=
      h.lookup_directory (lookup_start_of_walk later there)
    have again : t'.walk start [name] = .ok next := by
      refine walk_singleton_eq_ok_iff.mpr ⟨h.lookup_directory directory, ?_⟩
      cases step with
      | stay => exact .stay
      | up => exact .up
      | member single double short => exact .member single double short (by rw [passed]; rfl)
    rw [again]
    exact ih later

/-- A path leads to the same directories in both trees. -/
theorem DiffersAt.directoryAt_iff (h : DiffersAt t t' place) {dir : Path}
    (ends : dir.EndsInName) {reached : List String} :
    t'.DirectoryAt dir reached ↔ t.DirectoryAt dir reached := by
  suffices ∀ {t t' : FileTree}, DiffersAt t t' place → t.DirectoryAt dir reached →
      t'.DirectoryAt dir reached from ⟨this h.symm, this h⟩
  intro t t' h ⟨found, directory⟩
  refine ⟨?_, h.lookup_directory directory⟩
  rw [find_of_endsInName ends] at found ⊢
  obtain ⟨start, origin, walked⟩ := bind_eq_ok_iff.mp found
  have same : t'.origin dir = t.origin dir := by
    rw [FileTree.origin, FileTree.origin, h.working]
  rw [same, origin]
  exact h.walk walked directory

section Below

variable {dir : Path} {dirs : List String} {last name : String}
  (ends : dir.EndsIn dirs last) (hn : Path.IsName name) (clear : '\x00' ∉ name.toList)

include ends hn in
theorem fits_of_origin {start : List String} (h : t.origin (Path.join dir name) = .ok start) :
    Fits dir name := by
  have size := Path.utf8ByteSize_join ends.named hn
  unfold origin at h
  split at h
  · cases h
  · split at h
    · cases h
    · split at h
      · cases h
      · unfold Fits
        omega

include ends hn clear

/-- Where a file may stand under a name below a directory, that directory is there. -/
theorem directoryAt_of_leads {reached : List String}
    (h : Leads t (Path.join dir name) (Path.names dir) name reached) :
    t.DirectoryAt dir reached := by
  obtain ⟨start, origin, walked⟩ := h.walked
  refine ⟨?_, h.directory⟩
  rw [find_of_endsInName ends.named,
    ← origin_join ends.named hn clear (fits_of_origin ends hn origin), origin]
  exact walked

/-- What is created, rewritten or removed under a name stands in the directory. -/
theorem Touches.exists_differsAt (h : Touches (Path.join dir name) t t') :
    ∃ reached, t.DirectoryAt dir reached ∧ DiffersAt t t' (reached ++ [name]) := by
  cases h with
  | written contents h =>
    obtain ⟨place, target, working, lookup⟩ := lookup_write h
    obtain ⟨dirs', last', ends'⟩ := exists_endsIn_of_target target
    obtain ⟨reached, leads, free, rfl⟩ := (target_eq_ok_iff ends').mp target
    have cut := ends'.names
    rw [Path.names_join ends.named hn] at cut
    obtain ⟨rfl, named⟩ := List.append_inj' cut rfl
    cases named
    refine ⟨reached, directoryAt_of_leads ends hn clear leads, working, ?_, free, ?_⟩
    · intro other different
      rw [lookup, if_neg different]
    · rw [lookup, if_pos rfl]
      nofun
  | removed h =>
    change (t.find (Path.join dir name)).bind _ = _ at h
    obtain ⟨place, found, h⟩ := bind_eq_ok_iff.mp h
    split at h
    · rename_i contents file
      cases h
      obtain ⟨-, reached, there, step⟩ :=
        (find_join_eq_ok_iff ends.named hn clear).mp found
      cases step with
      | stay =>
        rw [there.2] at file
        cases file
      | up =>
        -- the directory was reached from the one above it
        obtain ⟨above, leads, -, rfl⟩ := (find_eq_ok_iff ends).mp there.1
        rw [List.dropLast_concat, leads.directory] at file
        cases file
      | member =>
        have nonempty : reached ++ [name] ≠ [] := by simp
        refine ⟨reached, there, rfl, ?_, ?_, ?_⟩
        · intro other different
          rw [lookup_erase nonempty, if_neg different]
        · rw [file]
          nofun
        · rw [lookup_erase nonempty, if_pos rfl]
          nofun
    · cases h
    · cases h

/-- Whether anything has another name there stays as it was. -/
theorem Touches.pathExists_join_of_ne {name' : String} (hn' : Path.IsName name')
    (clear' : '\x00' ∉ name'.toList) (different : name' ≠ name)
    (h : Touches (Path.join dir name) t t') :
    t'.pathExists (Path.join dir name') = t.pathExists (Path.join dir name') := by
  obtain ⟨reached, there, differs⟩ := h.exists_differsAt ends hn clear
  suffices ∀ {t t' : FileTree}, t.DirectoryAt dir reached →
      DiffersAt t t' (reached ++ [name]) → t.pathExists (Path.join dir name') = true →
        t'.pathExists (Path.join dir name') = true by
    rw [Bool.eq_iff_iff]
    exact ⟨this ((differs.directoryAt_iff ends.named).mpr there) differs.symm,
      this there differs⟩
  intro t t' there differs found
  simp only [pathExists_iff, find_join_eq_ok_iff ends.named hn' clear'] at found ⊢
  obtain ⟨place, fits, other, there', step⟩ := found
  -- both names stand in one directory
  have same : other = reached := Except.ok.inj (there'.1.symm.trans there.1)
  subst same
  refine ⟨place, fits, other, (differs.directoryAt_iff ends.named).mpr there', ?_⟩
  cases step with
  | stay => exact .stay
  | up => exact .up
  | member single double short found =>
    refine .member single double short ?_
    rw [differs.elsewhere _ (append_name_ne different other other)]
    exact found

end Below

end RadiusSentry.FileTree
