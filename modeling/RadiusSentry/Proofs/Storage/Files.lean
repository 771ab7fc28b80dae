import RadiusSentry.Proofs.Storage.Paths

/-!
# What files hold

Texts written to files and read from them. An operation that goes through leaves directories
where they are and takes nothing away (`FileTree.Keeps`), so a path that led somewhere leads
there afterwards. Main statements: `FileTree.append_eq_ok_iff` with `FileTree.lookup_put`,
for what an append writes and what it leaves alone; `FileTree.createDirectories_again`, by
which a directory is made once; and `Octets.text?_ofText`.
-/

set_option autoImplicit false

namespace RadiusSentry

namespace Octets

theorem toList_loop_eq (bytes : ByteArray) (i : Nat) (read : Octets) :
    ByteArray.toList.loop bytes i read = read.reverse ++ bytes.data.toList.drop i := by
  induction i, read using ByteArray.toList.loop.induct bytes with
  | case1 i read inside ih =>
    have bound : i < bytes.data.toList.length := by simpa using inside
    have first : bytes.get! i = bytes.data.toList[i] := by
      rw [ByteArray.get!, Array.getElem_toList]
      exact getElem!_pos bytes.data i (by simpa using inside)
    rw [ByteArray.toList.loop, if_pos inside, ih, List.drop_eq_getElem_cons bound, first]
    simp
  | case2 i read past =>
    have bound : bytes.data.toList.length ≤ i := by simpa using past
    rw [ByteArray.toList.loop, if_neg past, List.drop_eq_nil_of_le bound, List.append_nil]

theorem ofText_eq (text : String) : ofText text = text.toByteArray.data.toList := by
  rw [ofText, String.toUTF8_eq_toByteArray, ByteArray.toList, toList_loop_eq]
  rfl

theorem ofText_empty : ofText "" = [] := by
  rw [ofText_eq]
  rfl

theorem ofText_append (first second : String) :
    ofText (first ++ second) = ofText first ++ ofText second := by
  rw [ofText_eq, ofText_eq, ofText_eq, String.toByteArray_append, ByteArray.toList_data_append]

/-- A text is read back from its UTF-8 form. -/
theorem text?_ofText (text : String) : text? (ofText text) = some text := by
  rw [text?, ofText_eq, Array.toArray_toList]
  exact dif_pos text.isValidUTF8

end Octets

namespace Path

/-- The path ends in a name other than dots, after these names. -/
structure EndsIn (path : Path) (dirs : List String) (name : String) : Prop where
  named : EndsInName path
  names : names path = dirs ++ [name]
  single : name ≠ "."
  double : name ≠ ".."

theorem isAbsolute_append {path : Path} (h : path ≠ "") (more : String) :
    isAbsolute (path ++ more) = isAbsolute path := by
  have chars : path.toList ≠ [] := fun none => h (String.toList_eq_nil_iff.mp none)
  obtain ⟨c, rest, cut⟩ := List.exists_cons_of_ne_nil chars
  rw [isAbsolute, isAbsolute, String.toList_append, cut]
  rfl

/-- What is put behind a text stays behind what the text is joined to. -/
theorem join_append (dir : Path) {name : Path} (h : name ≠ "") (more : String) :
    join dir (name ++ more) = join dir name ++ more := by
  unfold join
  rw [isAbsolute_append h]
  split
  · rfl
  · split <;> simp only [String.append_assoc]

theorem join_ne_empty (dir : Path) {name : Path} (h : name ≠ "") : join dir name ≠ "" := by
  unfold join
  split
  · exact h
  · split
    · exact fun none => h (String.append_eq_empty_iff.mp none).2
    · exact fun none => h (String.append_eq_empty_iff.mp none).2

end Path

/-- A text without the separator makes the last piece of what it is put behind longer. -/
theorem Text.exists_split_append (separator : Char) (first : List Char) :
    ∃ (front : List (List Char)) (last : List Char), ∀ second, separator ∉ second →
      split separator (first ++ second) = front ++ [last ++ second] := by
  induction first with
  | nil => exact ⟨[], [], fun second h => split_of_not_mem h⟩
  | cons c rest ih =>
    obtain ⟨front, last, cut⟩ := ih
    by_cases same : c = separator
    · refine ⟨[] :: front, last, fun second h => ?_⟩
      rw [same, List.cons_append, split_cons_self, cut second h, List.cons_append]
    · cases front with
      | nil =>
        exact ⟨[], c :: last, fun second h => split_cons_of_ne same (cut second h)⟩
      | cons piece front =>
        exact ⟨(c :: piece) :: front, last, fun second h => split_cons_of_ne same (cut second h)⟩

/-- Paths that begin alike lead through the same directories: a name put behind a path makes
its last name longer. -/
theorem Path.exists_names_append (path : Path) : ∃ (dirs : List String) (stem : String),
    ∀ name, IsName name → names (path ++ name) = dirs ++ [stem ++ name] := by
  obtain ⟨front, last, cut⟩ := Text.exists_split_append '/' path.toList
  refine ⟨(front.filter (· ≠ [])).map String.ofList, String.ofList last, fun name h => ?_⟩
  have chars : last ++ name.toList ≠ [] := by
    intro none
    exact h.1 (String.toList_eq_nil_iff.mp (List.append_eq_nil_iff.mp none).2)
  have joined : String.ofList (last ++ name.toList) = String.ofList last ++ name := by
    rw [String.ofList_append, String.ofList_toList]
  rw [names, String.toList_append, cut _ h.2, List.filter_append, List.map_append, ← joined]
  simp [chars]

namespace FileTree

variable {t t' : FileTree} {place : List String} {e : Entry}

theorem bind_eq_ok_iff {ε α β : Type} {x : Except ε α} {f : α → Except ε β} {b : β} :
    x.bind f = .ok b ↔ ∃ a, x = .ok a ∧ f a = .ok b := by
  cases x <;> simp [Except.bind]

/-- A file with the octets of a text reads as the text. -/
theorem readText_of_read {path : Path} {text : String}
    (h : t.read path = .ok (Octets.ofText text)) : t.readText path = .ok text := by
  rw [readText, h]
  simp only [bind, Except.bind, Octets.text?_ofText]

/-- Replacing what stands at a place does not change which names stand where. -/
theorem find?_replace (entries : List (List String × Entry)) (place other : List String)
    (e : Entry) :
    (entries.map fun (names, old) => if names = place then (names, e) else (names, old)).find?
        (fun (names, _) => names == other) =
      (entries.find? fun (names, _) => names == other).map
        fun (names, old) => if names = place then (names, e) else (names, old) := by
  rw [List.find?_map]
  congr 2
  funext ⟨names, old⟩
  by_cases same : names = place <;> simp [same]

/-- Putting something at a place changes what is there, and nothing else. -/
theorem lookup_put (t : FileTree) (nonempty : place ≠ []) (e : Entry) (other : List String) :
    (t.put place e).lookup other = if other = place then some e else t.lookup other := by
  unfold put
  split
  · rename_i found
    by_cases root : other = []
    · rw [lookup, if_pos root, root, if_neg (Ne.symm nonempty), lookup, if_pos rfl]
    rw [lookup, if_neg nonempty, Option.isSome_map] at found
    rw [lookup, if_neg root, lookup, if_neg root, find?_replace, Option.map_map]
    cases there : t.entries.find? (fun (names, _) => names == other) with
    | none =>
      have different : other ≠ place := by
        rintro rfl
        rw [there] at found
        cases found
      rw [if_neg different]
      rfl
    | some entry =>
      have name : entry.1 = other := by simpa using List.find?_some there
      subst name
      by_cases same : entry.1 = place <;> simp [same]
  · rename_i missing
    rw [Option.not_isSome_iff_eq_none] at missing
    by_cases same : other = place
    · rw [lookup, if_neg nonempty, Option.map_eq_none_iff] at missing
      subst same
      simp [lookup, nonempty, List.find?_append, missing]
    · have different : place ≠ other := Ne.symm same
      simp [lookup, List.find?_append, same, different]

/-- Directories stay directories, and whatever was there is still there. -/
structure Keeps (t t' : FileTree) : Prop where
  working : t'.working = t.working
  directories : ∀ place, t.lookup place = some .directory → t'.lookup place = some .directory
  members : ∀ place, (t.lookup place).isSome = true → (t'.lookup place).isSome = true

theorem Keeps.refl (t : FileTree) : Keeps t t :=
  ⟨rfl, fun _ h => h, fun _ h => h⟩

theorem Keeps.trans {u : FileTree} (first : Keeps t t') (second : Keeps t' u) : Keeps t u :=
  ⟨second.working.trans first.working, fun p h => second.directories p (first.directories p h),
    fun p h => second.members p (first.members p h)⟩

/-- Something may be put wherever no directory is, and a directory anywhere. -/
theorem Keeps.put (nonempty : place ≠ [])
    (free : t.lookup place ≠ some .directory ∨ e = .directory) : Keeps t (t.put place e) := by
  constructor
  · unfold FileTree.put
    split <;> rfl
  · intro p h
    rw [lookup_put t nonempty]
    split
    · rename_i same
      subst same
      exact congrArg some (free.resolve_left fun file => file h)
    · exact h
  · intro p h
    rw [lookup_put t nonempty]
    split
    · rfl
    · exact h

theorem Keeps.walk (keeps : Keeps t t') {names : List String} {start reached : List String}
    (h : t.walk start names = .ok reached) : t'.walk start names = .ok reached := by
  induction names generalizing start with
  | nil => exact h
  | cons name rest ih =>
    rw [← List.singleton_append, walk_append] at h ⊢
    cases first : t.walk start [name] with
    | error e =>
      rw [first] at h
      cases h
    | ok next =>
      rw [first] at h
      obtain ⟨directory, step⟩ := walk_singleton_eq_ok_iff.mp first
      have again : t'.walk start [name] = .ok next := by
        refine walk_singleton_eq_ok_iff.mpr ⟨keeps.directories _ directory, ?_⟩
        cases step with
        | stay => exact .stay
        | up => exact .up
        | member single double short found =>
          exact .member single double short (keeps.members _ found)
      rw [again]
      exact ih h

theorem Keeps.origin (keeps : Keeps t t') (path : Path) : t'.origin path = t.origin path := by
  rw [FileTree.origin, FileTree.origin, keeps.working]

/-- Making directories takes nothing away, and there is nothing left to make in whatever keeps
what it made. -/
theorem createAlong_again {names : List String} {start : List String}
    (h : t.createAlong start names = .ok t') :
    Keeps t t' ∧ ∀ u, Keeps t' u → u.createAlong start names = .ok u := by
  induction names generalizing t start with
  | nil =>
    cases h
    exact ⟨.refl _, fun u _ => rfl⟩
  | cons name rest ih =>
    rw [createAlong] at h
    by_cases single : name = "."
    · rw [if_pos single] at h
      obtain ⟨keeps, again⟩ := ih h
      refine ⟨keeps, fun u later => ?_⟩
      rw [createAlong, if_pos single, again u later]
    by_cases double : name = ".."
    · rw [if_neg single, if_pos double] at h
      obtain ⟨keeps, again⟩ := ih h
      refine ⟨keeps, fun u later => ?_⟩
      rw [createAlong, if_neg single, if_pos double, again u later]
    by_cases long : maxNameLength < name.utf8ByteSize
    · rw [if_neg single, if_neg double, if_pos long] at h
      cases h
    rw [if_neg single, if_neg double, if_neg long] at h
    -- a directory is there already or is put there, and the rest is made below it
    have made : ∃ v, Keeps t v ∧ v.lookup (start ++ [name]) = some .directory ∧
        v.createAlong (start ++ [name]) rest = .ok t' := by
      cases there : t.lookup (start ++ [name]) with
      | none =>
        rw [there] at h
        simp only at h
        split at h
        · cases h
        · have nonempty : start ++ [name] ≠ [] := by simp
          refine ⟨_, .put nonempty (.inr rfl), ?_, h⟩
          rw [lookup_put t nonempty, if_pos rfl]
      | some entry =>
        rw [there] at h
        cases entry with
        | file contents => cases h
        | directory => exact ⟨t, .refl t, there, h⟩
    obtain ⟨v, before, there, made⟩ := made
    obtain ⟨keeps, again⟩ := ih made
    refine ⟨before.trans keeps, fun u later => ?_⟩
    have directory := later.directories _ (keeps.directories _ there)
    rw [createAlong, if_neg single, if_neg double, if_neg long, directory]
    exact again u later

/-- A directory is made once: in whatever keeps what was made there is nothing left to
make. -/
theorem createDirectories_again {dir : Path} (h : t.createDirectories dir = .ok t') :
    Keeps t t' ∧ ∀ u, Keeps t' u → u.createDirectories dir = .ok u := by
  unfold createDirectories at h ⊢
  by_cases here : dir.toList = []
  · rw [if_pos here] at h
    cases h
    exact ⟨.refl _, fun u _ => if_pos here⟩
  · rw [if_neg here] at h
    cases start : t.origin dir with
    | error e =>
      rw [start] at h
      cases h
    | ok place =>
      rw [start] at h
      obtain ⟨keeps, again⟩ := createAlong_again h
      refine ⟨keeps, fun u later => ?_⟩
      rw [if_neg here, (keeps.trans later).origin dir, start]
      exact again u later

theorem eq_of_origin_eq_ok {path : Path} {start : List String} (h : t.origin path = .ok start) :
    start = if path.isAbsolute then [] else t.working := by
  unfold origin at h
  split at h
  · cases h
  · split at h
    · cases h
    · split at h
      · cases h
      · exact (Except.ok.inj h).symm

/-- A file may stand at the end of the path: the names before its last lead to a directory. -/
structure Leads (t : FileTree) (path : Path) (dirs : List String) (name : String)
    (dir : List String) : Prop where
  walked : ∃ start, t.origin path = .ok start ∧ t.walk start dirs = .ok dir
  directory : t.lookup dir = some .directory
  short : name.utf8ByteSize ≤ maxNameLength

/-- Paths through the same directories lead to one place, also in a tree that keeps it. -/
theorem Leads.eq_of_keeps {path path' : Path} {dirs : List String} {name name' : String}
    {dir dir' : List String} (h : Leads t path dirs name dir)
    (later : Leads t' path' dirs name' dir') (keeps : Keeps t t')
    (absolute : path'.isAbsolute = path.isAbsolute) : dir' = dir := by
  obtain ⟨start, origin, walk⟩ := h.walked
  obtain ⟨start', origin', walk'⟩ := later.walked
  have same : start' = start := by
    rw [eq_of_origin_eq_ok origin, eq_of_origin_eq_ok origin', absolute, keeps.working]
  rw [same, keeps.walk walk] at walk'
  exact (Except.ok.inj walk').symm

theorem Leads.of_keeps {path : Path} {dirs : List String} {name : String} {dir : List String}
    (h : Leads t path dirs name dir) (keeps : Keeps t t') : Leads t' path dirs name dir := by
  obtain ⟨⟨start, origin, walk⟩, directory, short⟩ := h
  exact ⟨⟨start, (keeps.origin path).trans origin, keeps.walk walk⟩,
    keeps.directories dir directory, short⟩

/-- Different names lead to different places. -/
theorem append_name_ne {name name' : String} (different : name' ≠ name)
    (dir dir' : List String) : dir ++ [name'] ≠ dir' ++ [name] :=
  fun same => different (List.singleton_inj.mp (List.append_inj' same rfl).2)

section EndsIn

variable {path : Path} {dirs : List String} {name : String} (ends : path.EndsIn dirs name)
include ends

/-- A path that ends in a name leads to what has the name in a directory. -/
theorem find_eq_ok_iff {reached : List String} : t.find path = .ok reached ↔
    ∃ dir, Leads t path dirs name dir ∧ (t.lookup (dir ++ [name])).isSome = true ∧
      reached = dir ++ [name] := by
  rw [find_of_endsInName ends.named, ends.names]
  simp only [bind_eq_ok_iff, walk_append, walk_singleton_eq_ok_iff]
  constructor
  · rintro ⟨start, origin, dir, walk, directory, step⟩
    cases step with
    | stay => exact absurd rfl ends.single
    | up => exact absurd rfl ends.double
    | member _ _ short found => exact ⟨dir, ⟨⟨start, origin, walk⟩, directory, short⟩, found, rfl⟩
  · rintro ⟨dir, ⟨⟨start, origin, walk⟩, directory, short⟩, found, rfl⟩
    exact ⟨start, origin, dir, walk, directory, .member ends.single ends.double short found⟩

/-- What a path leads to it leads to in every tree that keeps it. -/
theorem Keeps.pathExists (keeps : Keeps t t') (h : t.pathExists path = true) :
    t'.pathExists path = true := by
  obtain ⟨place, found⟩ := pathExists_iff.mp h
  obtain ⟨dir, leads, there, rfl⟩ := (find_eq_ok_iff ends).mp found
  exact pathExists_iff.mpr
    ⟨_, (find_eq_ok_iff ends).mpr ⟨dir, leads.of_keeps keeps, keeps.members _ there, rfl⟩⟩

/-- A file may be written at the end of a path unless a directory stands there. -/
theorem target_eq_ok_iff {reached : List String} : t.target path = .ok reached ↔
    ∃ dir, Leads t path dirs name dir ∧ t.lookup (dir ++ [name]) ≠ some .directory ∧
      reached = dir ++ [name] := by
  have file : ¬ (path.endsWithSlash = true ∨ name = "." ∨ name = "..") := by
    rw [ends.named.2]
    simp [ends.single, ends.double]
  have last : (Path.names path).getLast? = some name := by
    rw [ends.names, List.getLast?_concat]
  have front : (Path.names path).dropLast = dirs := by
    rw [ends.names, List.dropLast_concat]
  unfold target
  rw [last, front]
  simp only [bind, bind_eq_ok_iff, if_neg file]
  constructor
  · rintro ⟨start, origin, dir, walk, checked⟩
    split at checked
    · cases checked
    · cases checked
    · rename_i directory
      split at checked
      · cases checked
      · rename_i short
        split at checked
        · cases checked
        · rename_i free
          cases checked
          exact ⟨dir, ⟨⟨start, origin, walk⟩, directory, Nat.not_lt.mp short⟩, free, rfl⟩
  · rintro ⟨dir, ⟨⟨start, origin, walk⟩, directory, short⟩, free, rfl⟩
    refine ⟨start, origin, dir, walk, ?_⟩
    rw [directory]
    simp only [if_neg (Nat.not_lt.mpr short), if_neg free]

/-- What a file holds that a path leads to. -/
theorem read_eq_ok_iff {octets : Octets} : t.read path = .ok octets ↔
    ∃ dir, Leads t path dirs name dir ∧ t.lookup (dir ++ [name]) = some (.file octets) := by
  change (t.find path).bind _ = _ ↔ _
  simp only [bind_eq_ok_iff, find_eq_ok_iff ends]
  constructor
  · rintro ⟨place, ⟨dir, leads, -, rfl⟩, opened⟩
    split at opened
    · rename_i file
      cases opened
      exact ⟨dir, leads, file⟩
    · cases opened
    · cases opened
  · rintro ⟨dir, leads, file⟩
    refine ⟨dir ++ [name], ⟨dir, leads, by rw [file]; rfl, rfl⟩, ?_⟩
    rw [file]

/-- Of a file that is written at the end of a path, in whatever way. -/
theorem target_bind_eq_ok_iff {f : List String → FileTree} :
    ((t.target path).bind fun place => .ok (f place)) = .ok t' ↔
      ∃ dir, Leads t path dirs name dir ∧ t.lookup (dir ++ [name]) ≠ some .directory ∧
        t' = f (dir ++ [name]) := by
  simp only [bind_eq_ok_iff, target_eq_ok_iff ends, Except.ok.injEq]
  constructor
  · rintro ⟨place, ⟨dir, leads, free, rfl⟩, rfl⟩
    exact ⟨dir, leads, free, rfl⟩
  · rintro ⟨dir, leads, free, rfl⟩
    exact ⟨dir ++ [name], ⟨dir, leads, free, rfl⟩, rfl⟩

/-- An append goes to the end of one file, which is there afterwards. -/
theorem append_eq_ok_iff {octets : Octets} : t.append path octets = .ok t' ↔
    ∃ dir, Leads t path dirs name dir ∧ t.lookup (dir ++ [name]) ≠ some .directory ∧
      t' = t.put (dir ++ [name]) (.file (t.contentsAt (dir ++ [name]) ++ octets)) :=
  target_bind_eq_ok_iff ends

/-- A write replaces one file, which is there afterwards. -/
theorem write_eq_ok_iff {octets : Octets} : t.write path octets = .ok t' ↔
    ∃ dir, Leads t path dirs name dir ∧ t.lookup (dir ++ [name]) ≠ some .directory ∧
      t' = t.put (dir ++ [name]) (.file octets) :=
  target_bind_eq_ok_iff ends

theorem Keeps.of_append {octets : Octets} (h : t.append path octets = .ok t') : Keeps t t' := by
  obtain ⟨dir, -, free, rfl⟩ := (append_eq_ok_iff ends).mp h
  exact .put (by simp) (.inl free)

/-- A file that an append creates holds what was appended. -/
theorem read_append_of_absent {octets : Octets} (absent : t.pathExists path = false)
    (h : t.append path octets = .ok t') : t'.read path = .ok octets := by
  have keeps := Keeps.of_append ends h
  obtain ⟨dir, leads, free, rfl⟩ := (append_eq_ok_iff ends).mp h
  have nothing : t.lookup (dir ++ [name]) = none := by
    rw [← Option.not_isSome_iff_eq_none]
    intro found
    have there := pathExists_iff.mpr ⟨_, (find_eq_ok_iff ends).mpr ⟨dir, leads, found, rfl⟩⟩
    rw [absent] at there
    cases there
  refine (read_eq_ok_iff ends).mpr ⟨dir, leads.of_keeps keeps, ?_⟩
  rw [lookup_put t (by simp), if_pos rfl, contentsAt, nothing, List.nil_append]

/-- A file that is there keeps what it held in front of what was appended. -/
theorem read_append_of_read {old octets : Octets} (held : t.read path = .ok old)
    (h : t.append path octets = .ok t') : t'.read path = .ok (old ++ octets) := by
  have keeps := Keeps.of_append ends h
  obtain ⟨dir, leads, file⟩ := (read_eq_ok_iff ends).mp held
  obtain ⟨dir', leads', -, rfl⟩ := (append_eq_ok_iff ends).mp h
  have same := leads.eq_of_keeps leads' (.refl t) rfl
  subst same
  refine (read_eq_ok_iff ends).mpr ⟨dir', leads'.of_keeps keeps, ?_⟩
  rw [lookup_put t (by simp), if_pos rfl, contentsAt, file]

/-- A path through the same directories to another name leads where it led before. -/
theorem Leads.of_append {path' : Path} {name' : String} {dir' : List String} {octets : Octets}
    (absolute : path'.isAbsolute = path.isAbsolute) (h : t.append path octets = .ok t')
    (later : Leads t' path' dirs name' dir') : Leads t path' dirs name' dir' := by
  have keeps := Keeps.of_append ends h
  obtain ⟨dir, leads, -, -⟩ := (append_eq_ok_iff ends).mp h
  have same := leads.eq_of_keeps later keeps absolute
  subst same
  obtain ⟨start, origin, walk⟩ := leads.walked
  obtain ⟨start', origin', walk'⟩ := later.walked
  rw [keeps.origin path'] at origin'
  have same : start' = start := by
    rw [eq_of_origin_eq_ok origin, eq_of_origin_eq_ok origin', absolute]
  exact ⟨⟨start, same ▸ origin', walk⟩, leads.directory, later.short⟩

section Siblings

variable {path' : Path} {name' : String} (ends' : path'.EndsIn dirs name')
  (different : name' ≠ name) {octets : Octets} (h : t.append path octets = .ok t')
include ends' different h

/-- An append to one file does not create another. -/
theorem pathExists_append_of_ne (absolute : path'.isAbsolute = path.isAbsolute)
    (absent : t.pathExists path' = false) : t'.pathExists path' = false := by
  rw [← Bool.not_eq_true, pathExists_iff] at absent ⊢
  rintro ⟨place, found⟩
  obtain ⟨dir, leads, there, rfl⟩ := (find_eq_ok_iff ends').mp found
  have before := leads.of_append ends absolute h
  obtain ⟨dir', -, -, rfl⟩ := (append_eq_ok_iff ends).mp h
  rw [lookup_put t (by simp), if_neg (append_name_ne different dir dir')] at there
  exact absent ⟨_, (find_eq_ok_iff ends').mpr ⟨dir, before, there, rfl⟩⟩

/-- An append to one file leaves another as it was. -/
theorem read_append_of_ne {held : Octets} (before : t.read path' = .ok held) :
    t'.read path' = .ok held := by
  have keeps := Keeps.of_append ends h
  obtain ⟨dir, leads, file⟩ := (read_eq_ok_iff ends').mp before
  obtain ⟨dir', -, -, rfl⟩ := (append_eq_ok_iff ends).mp h
  refine (read_eq_ok_iff ends').mpr ⟨dir, leads.of_keeps keeps, ?_⟩
  rwa [lookup_put t (by simp), if_neg (append_name_ne different dir dir')]

end Siblings

end EndsIn

/-- Where a file may be written the path ends in a name. -/
theorem exists_endsIn_of_target {path : Path} (h : t.target path = .ok place) :
    ∃ dirs name, path.EndsIn dirs name := by
  unfold target at h
  simp only [bind, bind_eq_ok_iff] at h
  obtain ⟨start, -, h⟩ := h
  split at h
  · cases h
  · rename_i name last
    obtain ⟨dir, -, h⟩ := bind_eq_ok_iff.mp h
    split at h
    · cases h
    · cases h
    · split at h
      · cases h
      · rename_i file
        simp only [not_or, Bool.not_eq_true] at file
        have nonempty : path ≠ "" := by
          rintro rfl
          cases last
        obtain ⟨dirs, names⟩ := List.getLast?_eq_some_iff.mp last
        exact ⟨dirs, name, ⟨nonempty, file.1⟩, names, file.2.1, file.2.2⟩

/-- A write changes what stands at one place, and nothing else. -/
theorem lookup_write {path : Path} {octets : Octets} (h : t.write path octets = .ok t') :
    ∃ place, t.target path = .ok place ∧ t'.working = t.working ∧
      ∀ other, t'.lookup other = if other = place then some (.file octets) else t.lookup other := by
  change (t.target path).bind _ = _ at h
  obtain ⟨place, target, h⟩ := bind_eq_ok_iff.mp h
  cases h
  obtain ⟨dirs, name, ends⟩ := exists_endsIn_of_target target
  obtain ⟨dir, -, free, rfl⟩ := (target_eq_ok_iff ends).mp target
  have keeps : Keeps t (t.put (dir ++ [name]) (.file octets)) := .put (by simp) (.inl free)
  exact ⟨_, target, keeps.working, lookup_put t (by simp) _⟩

/-- What was written is read. -/
theorem read_write {path : Path} {octets : Octets} (h : t.write path octets = .ok t') :
    t'.read path = .ok octets := by
  obtain ⟨place, target, -⟩ := lookup_write h
  obtain ⟨dirs, name, ends⟩ := exists_endsIn_of_target target
  obtain ⟨dir, leads, free, rfl⟩ := (write_eq_ok_iff ends).mp h
  have keeps : Keeps t (t.put (dir ++ [name]) (.file octets)) := .put (by simp) (.inl free)
  refine (read_eq_ok_iff ends).mpr ⟨dir, leads.of_keeps keeps, ?_⟩
  rw [lookup_put t (by simp), if_pos rfl]

end FileTree

end RadiusSentry
