import RadiusSentry.Storage.FileTree

/-!
# Where paths lead

A path below a directory is walked to the directory first and then one name further
(`FileTree.walk_append`). `FileTree.Step` says where that name leads: one dot stays, two
dots go up, and any other name goes to a member of the directory. What a name below a
directory reaches is stated in `FileTree.find_join_eq_ok_iff`.
-/

set_option autoImplicit false

namespace RadiusSentry

namespace Text

theorem split_cons_self (separator : Char) (rest : List Char) :
    split separator (separator :: rest) = [] :: split separator rest := by
  rw [split]
  split
  · rename_i none
    exact absurd none (split_ne_nil _ _)
  · rename_i pieces
    rw [if_pos rfl, pieces]

theorem split_cons_of_ne {separator c : Char} {rest piece : List Char}
    {pieces : List (List Char)} (different : c ≠ separator)
    (h : split separator rest = piece :: pieces) :
    split separator (c :: rest) = (c :: piece) :: pieces := by
  simp only [split, h, if_neg different]

/-- A text without the separator is one piece. -/
theorem split_of_not_mem {separator : Char} {text : List Char} (h : separator ∉ text) :
    split separator text = [text] := by
  induction text with
  | nil => rfl
  | cons c rest ih =>
    rw [List.mem_cons, not_or] at h
    exact split_cons_of_ne (Ne.symm h.1) (ih h.2)

/-- Texts on both sides of a separator are cut apart from each other. -/
theorem split_append_cons (separator : Char) (first second : List Char) :
    split separator (first ++ separator :: second) =
      split separator first ++ split separator second := by
  induction first with
  | nil => exact split_cons_self separator second
  | cons c rest ih =>
    by_cases same : c = separator
    · subst same
      rw [List.cons_append, split_cons_self, split_cons_self, ih, List.cons_append]
    · obtain ⟨piece, pieces, cut⟩ := List.exists_cons_of_ne_nil (split_ne_nil separator rest)
      rw [cut, List.cons_append] at ih
      rw [List.cons_append, split_cons_of_ne same ih, split_cons_of_ne same cut,
        List.cons_append]

end Text

namespace Path

/-- A single name, which holds no separator. -/
def IsName (name : String) : Prop :=
  name ≠ "" ∧ '/' ∉ name.toList

/-- A path whose last octet belongs to a name. -/
def EndsInName (path : Path) : Prop :=
  path ≠ "" ∧ endsWithSlash path = false

variable {dir path : Path} {name : String}

theorem IsName.isAbsolute (h : IsName name) : isAbsolute name = false := by
  obtain ⟨-, plain⟩ := h
  unfold Path.isAbsolute
  cases chars : name.toList with
  | nil => rfl
  | cons c rest =>
    rw [chars, List.mem_cons, not_or] at plain
    simpa using Ne.symm plain.1

theorem IsName.endsInName (h : IsName name) : EndsInName name := by
  refine ⟨h.1, ?_⟩
  rw [endsWithSlash, beq_eq_false_iff_ne]
  intro slash
  exact h.2 (List.mem_of_getLast? slash)

theorem EndsInName.append (before : Path) (h : EndsInName path) : EndsInName (before ++ path) := by
  obtain ⟨nonempty, plain⟩ := h
  have chars : path.toList ≠ [] := fun none => nonempty (String.toList_eq_nil_iff.mp none)
  constructor
  · intro none
    rw [← String.toList_eq_nil_iff, String.toList_append, List.append_eq_nil_iff] at none
    exact chars none.2
  · rw [endsWithSlash] at plain ⊢
    rw [String.toList_append, List.getLast?_append, List.getLast?_eq_some_getLast chars,
      Option.some_or, ← List.getLast?_eq_some_getLast chars, plain]

/-- A name stays at the end of what it is joined to. -/
theorem IsName.endsInName_join (h : IsName name) (dir : Path) : EndsInName (join dir name) := by
  unfold join
  split
  · exact h.endsInName
  · split
    · exact h.endsInName.append _
    · exact h.endsInName.append _

theorem EndsInName.join_eq (hd : EndsInName dir) (hn : IsName name) :
    join dir name = dir ++ "/" ++ name := by
  obtain ⟨nonempty, plain⟩ := hd
  have chars : dir.toList ≠ [] := fun none => nonempty (String.toList_eq_nil_iff.mp none)
  rw [endsWithSlash, beq_eq_false_iff_ne] at plain
  rw [join, if_neg plain, if_neg]
  rw [hn.isAbsolute]
  simpa using nonempty

theorem toList_join (hd : EndsInName dir) (hn : IsName name) :
    (join dir name).toList = dir.toList ++ '/' :: name.toList := by
  rw [hd.join_eq hn, String.toList_append, String.toList_append, List.append_assoc]
  rfl

theorem utf8ByteSize_join (hd : EndsInName dir) (hn : IsName name) :
    (join dir name).utf8ByteSize = dir.utf8ByteSize + 1 + name.utf8ByteSize := by
  rw [hd.join_eq hn, String.utf8ByteSize_append, String.utf8ByteSize_append]
  rfl

/-- A name comes after the names of the directory it stands in. -/
theorem names_join (hd : EndsInName dir) (hn : IsName name) :
    names (join dir name) = names dir ++ [name] := by
  have chars : name.toList ≠ [] := fun none => hn.1 (String.toList_eq_nil_iff.mp none)
  rw [names, toList_join hd hn, Text.split_append_cons, Text.split_of_not_mem hn.2,
    List.filter_append, List.map_append, ← names]
  simp [chars]

theorem isAbsolute_join (hd : EndsInName dir) (hn : IsName name) :
    isAbsolute (join dir name) = isAbsolute dir := by
  have chars : dir.toList ≠ [] := fun none => hd.1 (String.toList_eq_nil_iff.mp none)
  obtain ⟨c, rest, cut⟩ := List.exists_cons_of_ne_nil chars
  rw [isAbsolute, isAbsolute, toList_join hd hn, cut]
  rfl

end Path

namespace FileTree

variable (t : FileTree)

theorem walk_append (place : List String) (first second : List String) :
    t.walk place (first ++ second) =
      (t.walk place first).bind fun reached => t.walk reached second := by
  induction first generalizing place with
  | nil => rfl
  | cons name rest ih =>
    rw [List.cons_append, walk, walk]
    cases t.lookup place with
    | none => rfl
    | some e =>
      cases e with
      | file contents => rfl
      | directory =>
        -- a name is refused or passed before anything is known of what follows it
        simp only
        split
        · exact ih place
        · split
          · exact ih place.dropLast
          · split
            · rfl
            · split
              · rfl
              · exact ih (place ++ [name])

/-- Where one name leads from a directory. -/
inductive Step (place : List String) : String → List String → Prop
  | stay : Step place "." place
  | up : Step place ".." place.dropLast
  | member {name : String} (single : name ≠ ".") (double : name ≠ "..")
      (short : name.utf8ByteSize ≤ maxNameLength)
      (exists_member : (t.lookup (place ++ [name])).isSome) :
      Step place name (place ++ [name])

variable {t}

theorem walk_singleton_eq_ok_iff {place reached : List String} {name : String} :
    t.walk place [name] = .ok reached ↔
      t.lookup place = some .directory ∧ t.Step place name reached := by
  rw [walk]
  cases entry : t.lookup place with
  | none => simp
  | some e =>
    cases e with
    | file contents => simp
    | directory =>
      simp only [true_and, walk]
      constructor
      · intro h
        split at h
        · rename_i single
          cases h
          rw [single]
          exact .stay
        · rename_i single
          split at h
          · rename_i double
            cases h
            rw [double]
            exact .up
          · rename_i double
            split at h
            · cases h
            · rename_i short
              split at h
              · cases h
              · rename_i found
                cases h
                refine .member single double (Nat.not_lt.mp short) ?_
                rwa [Option.isNone_iff_eq_none, ← ne_eq, Option.ne_none_iff_isSome] at found
      · intro step
        cases step with
        | stay => rw [if_pos rfl]
        | up => rw [if_neg (by decide), if_pos rfl]
        | member single double short found =>
          rw [if_neg single, if_neg double, if_neg (Nat.not_lt.mpr short), if_neg]
          rwa [Option.isNone_iff_eq_none, ← ne_eq, Option.ne_none_iff_isSome]

/-- The path leads to a directory, which stands at the place. -/
def DirectoryAt (t : FileTree) (dir : Path) (place : List String) : Prop :=
  t.find dir = .ok place ∧ t.lookup place = some .directory

/-- The path leads to a directory in which something has the name. -/
def HasMember (t : FileTree) (dir : Path) (name : String) : Prop :=
  ∃ place, t.DirectoryAt dir place ∧ (t.lookup (place ++ [name])).isSome

/-- A name below the directory makes no path that is too long. -/
def Fits (dir : Path) (name : String) : Prop :=
  dir.utf8ByteSize + 1 + name.utf8ByteSize ≤ maxPathLength

variable {dir : Path} {name : String}

theorem pathExists_iff {path : Path} :
    t.pathExists path = true ↔ ∃ reached, t.find path = .ok reached := by
  rw [pathExists]
  cases t.find path with
  | error e => simp [Except.toOption]
  | ok reached => simp [Except.toOption]

theorem find_of_endsInName (h : Path.EndsInName dir) :
    t.find dir = (t.origin dir).bind fun start => t.walk start (Path.names dir) := by
  rw [find, steps, if_neg (by simp [h.2])]
  rfl

theorem origin_join (hd : Path.EndsInName dir) (hn : Path.IsName name)
    (clear : '\x00' ∉ name.toList) (fits : Fits dir name) :
    t.origin (Path.join dir name) = t.origin dir := by
  unfold Fits at fits
  have chars : dir.toList ≠ [] := fun none => hd.1 (String.toList_eq_nil_iff.mp none)
  have nul : '\x00' ∈ (Path.join dir name).toList ↔ '\x00' ∈ dir.toList := by
    rw [Path.toList_join hd hn]
    simp [clear]
  have size := Path.utf8ByteSize_join hd hn
  have joined : (Path.join dir name).toList ≠ [] := by
    rw [Path.toList_join hd hn]
    simp
  have whole : ¬ maxPathLength < (Path.join dir name).utf8ByteSize := by omega
  have part : ¬ maxPathLength < dir.utf8ByteSize := by omega
  unfold origin
  rw [if_neg joined, if_neg chars, if_neg whole, if_neg part, Path.isAbsolute_join hd hn]
  simp only [nul]

/-- What a name below a directory reaches: the path as a whole must not be too long, and
the directory must be there. -/
theorem find_join_eq_ok_iff (hd : Path.EndsInName dir) (hn : Path.IsName name)
    (clear : '\x00' ∉ name.toList) {reached : List String} :
    t.find (Path.join dir name) = .ok reached ↔
      Fits dir name ∧ ∃ place, t.DirectoryAt dir place ∧ t.Step place name reached := by
  simp only [DirectoryAt, find_of_endsInName (hn.endsInName_join dir), find_of_endsInName hd]
  by_cases fits : Fits dir name
  · rw [and_iff_right fits, origin_join hd hn clear fits, Path.names_join hd hn]
    cases t.origin dir with
    | error e => simp [Except.bind]
    | ok start =>
      simp only [Except.bind, walk_append]
      cases t.walk start (Path.names dir) with
      | error e => simp
      | ok place => simp [walk_singleton_eq_ok_iff, and_assoc]
  · have size := Path.utf8ByteSize_join hd hn
    have long : maxPathLength < (Path.join dir name).utf8ByteSize := by
      unfold Fits at fits
      omega
    have refused : ∃ e, t.origin (Path.join dir name) = .error e := by
      unfold origin
      rw [if_pos long]
      split
      · exact ⟨_, rfl⟩
      · split <;> exact ⟨_, rfl⟩
    obtain ⟨e, refused⟩ := refused
    rw [refused]
    simp [Except.bind, fits]

end FileTree

end RadiusSentry
