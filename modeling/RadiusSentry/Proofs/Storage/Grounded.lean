import RadiusSentry.Proofs.Storage.Files

/-!
# Trees in which everything stands in a directory

In a grounded tree two dots never leave a directory for a file. A path that leads to a file
therefore ends in the name of it, and the file may be written where it was read
(`FileTree.Grounded.target_of_read`).
-/

set_option autoImplicit false

namespace RadiusSentry.FileTree

/-- Whatever stands somewhere stands in a directory, and relative paths begin at one. -/
structure Grounded (t : FileTree) : Prop where
  above : ∀ place name, (t.lookup (place ++ [name])).isSome = true →
    t.lookup place = some .directory
  working : t.lookup t.working = some .directory

variable {t : FileTree} {path : Path} {place : List String} {contents : Octets}

theorem read_eq_ok_iff_find : t.read path = .ok contents ↔
    ∃ place, t.find path = .ok place ∧ t.lookup place = some (.file contents) := by
  change (t.find path).bind _ = _ ↔ _
  rw [bind_eq_ok_iff]
  refine exists_congr fun place => and_congr_right fun _ => ?_
  cases t.lookup place with
  | none => simp
  | some e => cases e <;> simp

theorem ne_empty_of_find (h : t.find path = .ok place) : path ≠ "" := by
  rintro rfl
  cases h

/-- A dot leads nowhere else. -/
theorem Step.eq_of_dot {reached : List String} (h : t.Step place "." reached) :
    reached = place := by
  generalize dot : "." = name at h
  cases h with
  | stay => rfl
  | up => exact absurd dot (by decide)
  | member single => exact absurd dot.symm single

namespace Grounded

variable (grounded : t.Grounded)
include grounded

theorem lookup_dropLast (there : t.lookup place = some .directory) :
    t.lookup place.dropLast = some .directory := by
  rcases List.eq_nil_or_concat place with rfl | ⟨front, name, rfl⟩
  · rfl
  · rw [List.concat_eq_append] at there ⊢
    rw [List.dropLast_concat]
    exact grounded.above front name (by rw [there]; rfl)

theorem lookup_start {start : List String} (h : t.origin path = .ok start) :
    t.lookup start = some .directory := by
  rw [eq_of_origin_eq_ok h]
  split
  · rfl
  · exact grounded.working

/-- A path that leads to a file ends in a name. -/
theorem exists_endsIn (held : t.read path = .ok contents) : ∃ dirs name, path.EndsIn dirs name := by
  obtain ⟨place, found, file⟩ := read_eq_ok_iff_find.mp held
  have nonempty := ne_empty_of_find found
  change (t.origin path).bind _ = _ at found
  obtain ⟨start, origin, walk⟩ := bind_eq_ok_iff.mp found
  unfold steps at walk
  split at walk
  · -- after a slash at the end only a directory is reached
    rw [walk_append] at walk
    obtain ⟨dir, -, last⟩ := bind_eq_ok_iff.mp walk
    obtain ⟨directory, step⟩ := walk_singleton_eq_ok_iff.mp last
    rw [step.eq_of_dot, directory] at file
    cases file
  · rename_i plain
    rcases List.eq_nil_or_concat (Path.names path) with none | ⟨dirs, name, names⟩
    · rw [none] at walk
      cases walk
      rw [grounded.lookup_start origin] at file
      cases file
    · rw [List.concat_eq_append] at names
      rw [names, walk_append] at walk
      obtain ⟨dir, -, last⟩ := bind_eq_ok_iff.mp walk
      obtain ⟨directory, step⟩ := walk_singleton_eq_ok_iff.mp last
      cases step with
      | stay =>
        rw [directory] at file
        cases file
      | up =>
        rw [grounded.lookup_dropLast directory] at file
        cases file
      | member single double =>
        exact ⟨dirs, name, ⟨nonempty, Bool.eq_false_iff.mpr plain⟩, names, single, double⟩

/-- Where a file is read one may be written. -/
theorem target_of_read (held : t.read path = .ok contents) :
    ∃ place, t.target path = .ok place := by
  obtain ⟨dirs, name, ends⟩ := grounded.exists_endsIn held
  obtain ⟨dir, leads, file⟩ := (read_eq_ok_iff ends).mp held
  have free : t.lookup (dir ++ [name]) ≠ some .directory := by
    rw [file]
    nofun
  exact ⟨_, (target_eq_ok_iff ends).mpr ⟨dir, leads, free, rfl⟩⟩

end Grounded

end RadiusSentry.FileTree
