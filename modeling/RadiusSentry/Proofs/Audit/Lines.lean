import RadiusSentry.Audit.Log
import RadiusSentry.Proofs.Audit.Days
import RadiusSentry.Proofs.Audit.Entries
import RadiusSentry.Proofs.Storage.Files
import RadiusSentry.Text.Lines

/-!
# The lines of a dated log

A log keeps a file for each day, and what is appended stays where it is. One append adds a
line to the file of the entry's day and leaves the other files alone (`Log.Filed.append`);
over a run each file then holds the lines of the entries of its day, in the order of their
appends (`Log.filed_appendAll`). As no text of an entry holds the end of a line, the lines
can be told apart and read back. Main statement: `Log.holds_appendAll`.
-/

set_option autoImplicit false

namespace RadiusSentry.Audit

/-- The entries whose time falls on a day, or outside the calendar. -/
def onDay (d : Option Int) (es : List Entry) : List Entry :=
  es.filter fun e => e.dayNumber? = d

theorem onDay_append_self (es : List Entry) (e : Entry) :
    onDay e.dayNumber? (es ++ [e]) = onDay e.dayNumber? es ++ [e] := by
  rw [onDay, List.filter_append, List.filter_cons_of_pos (by simp), List.filter_nil, ← onDay]

theorem onDay_append_of_ne {d : Option Int} {e : Entry} (h : e.dayNumber? ≠ d)
    (es : List Entry) : onDay d (es ++ [e]) = onDay d es := by
  rw [onDay, List.filter_append, List.filter_cons_of_neg (by simpa using h), List.filter_nil,
    List.append_nil, ← onDay]

/-- The file of one day holds these entries: there is none without entries, and otherwise its
text is cut by the ends of the lines into the texts of the entries, with nothing behind the
last one, and each line reads as its entry. -/
structure Holds (t : FileTree) (path : Path) (es : List Entry) : Prop where
  absent : es = [] → t.pathExists path = false
  present : es ≠ [] → ∃ text, t.readText path = .ok text ∧
    Text.split '\n' text.toList = es.map (fun e => e.toText.toList) ++ [[]] ∧
    (Text.lines text.toList).map (fun line => Entry.ofText? (String.ofList line)) = es.map some

/-- The texts of entries, a line each. -/
def linesText (es : List Entry) : String :=
  String.ofList (es.flatMap fun e => e.toText.toList ++ ['\n'])

theorem ofText_linesText (es : List Entry) :
    Octets.ofText (linesText es) = es.flatMap Log.lineOctets := by
  induction es with
  | nil => exact Octets.ofText_empty
  | cons e es ih =>
    have first : linesText (e :: es) = e.toText ++ "\n" ++ linesText es := by
      rw [linesText, List.flatMap_cons, String.ofList_append, String.ofList_append,
        String.ofList_toList]
      rfl
    rw [first, Octets.ofText_append, ih, List.flatMap_cons, Log.lineOctets]

/-- No text of an entry holds the end of a line, so the lines are those that were written. -/
theorem split_linesText (es : List Entry) :
    Text.split '\n' (linesText es).toList = es.map (fun e => e.toText.toList) ++ [[]] := by
  rw [linesText, String.toList_ofList]
  induction es with
  | nil => rfl
  | cons e es ih =>
    have whole : '\n' ∉ e.toText.toList := e.not_mem_toText (by decide)
    rw [List.flatMap_cons, List.append_assoc, List.singleton_append, Text.split_append_cons,
      Text.split_of_not_mem whole, ih]
    rfl

/-- No text of an entry ends with a carriage return, so none is taken off. -/
theorem lines_linesText (es : List Entry) :
    Text.lines (linesText es).toList = es.map fun e => e.toText.toList := by
  have kept : (es.map fun e => e.toText.toList).map Text.dropReturn =
      es.map fun e => e.toText.toList := by
    rw [List.map_map]
    refine List.map_congr_left fun e _ => ?_
    have noReturn : e.toText.toList.getLast? ≠ some '\r' := fun last =>
      e.not_mem_toText (by decide) (List.mem_of_getLast? last)
    exact if_neg noReturn
  rw [Text.lines, split_linesText, List.getLast?_concat, List.dropLast_concat, kept]

/-- The file has the octets of the entries' lines, and without entries there is none. -/
structure Stored (t : FileTree) (path : Path) (es : List Entry) : Prop where
  absent : es = [] → t.pathExists path = false
  octets : es ≠ [] → t.read path = .ok (es.flatMap Log.lineOctets)

namespace Stored

variable {t t' : FileTree} {path : Path} {es : List Entry} {e : Entry} {dirs : List String}
  {name : String}

/-- The octets are those of a text, whose lines are read back. -/
theorem holds (h : Stored t path es) : Holds t path es := by
  refine ⟨h.absent, fun nonempty => ⟨linesText es, ?_, split_linesText es, ?_⟩⟩
  · apply FileTree.readText_of_read
    rw [ofText_linesText]
    exact h.octets nonempty
  · rw [lines_linesText, List.map_map]
    refine List.map_congr_left fun e _ => ?_
    rw [Function.comp_apply, String.ofList_toList, Entry.ofText?_toText]

/-- The first line of a file makes it, and a later one comes behind those that are there. -/
theorem append (h : Stored t path es) (ends : path.EndsIn dirs name)
    (appended : t.append path (Log.lineOctets e) = .ok t') : Stored t' path (es ++ [e]) := by
  refine ⟨fun none => absurd none (by simp), fun _ => ?_⟩
  rw [List.flatMap_append, List.flatMap_singleton]
  by_cases first : es = []
  · rw [first, List.flatMap_nil, List.nil_append]
    exact FileTree.read_append_of_absent ends (h.absent first) appended
  · exact FileTree.read_append_of_read ends (h.octets first) appended

/-- A line of another file in the same directory changes nothing here. -/
theorem append_of_ne {path' : Path} {name' : String} (h : Stored t path' es)
    (ends : path.EndsIn dirs name) (ends' : path'.EndsIn dirs name') (different : name' ≠ name)
    (absolute : path'.isAbsolute = path.isAbsolute)
    (appended : t.append path (Log.lineOctets e) = .ok t') : Stored t' path' es :=
  ⟨fun none => FileTree.pathExists_append_of_ne ends ends' different appended absolute
      (h.absent none),
    fun nonempty => FileTree.read_append_of_ne ends ends' different appended (h.octets nonempty)⟩

end Stored

theorem isName_dayName (d : Option Int) : Path.IsName (dayName d) := by
  refine ⟨fun none => dayName_ne_empty d (String.toList_eq_nil_iff.mpr none), fun slash => ?_⟩
  exact absurd (isAlphanum_or_sign_of_mem_dayName slash) (by decide)

/-- A name of a day has a character that is no dot. -/
theorem append_dayName_ne (stem : String) (d : Option Int) {dots : String}
    (h : dots.toList.all (· == '.') = true) : stem ++ dayName d ≠ dots := by
  intro same
  obtain ⟨c, rest, cut⟩ := List.exists_cons_of_ne_nil (dayName_ne_empty d)
  have here : c ∈ (dayName d).toList := cut ▸ List.mem_cons_self
  have dot : c = '.' := by
    rw [← same, String.toList_append] at h
    exact beq_iff_eq.mp (List.all_eq_true.mp h c (List.mem_append_right _ here))
  subst dot
  exact absurd (isAlphanum_or_sign_of_mem_dayName here) (by decide)

namespace Log

variable {l : Log} {made t t' : FileTree} {es : List Entry} {e : Entry}

/-- What the paths of a log's files begin with. -/
def stem (l : Log) : Path :=
  Path.join l.dir (l.name ++ "." ++ l.instanceName ++ ".")

theorem stem_name_ne_empty (l : Log) : l.name ++ "." ++ l.instanceName ++ "." ≠ "" :=
  fun none => absurd (String.append_eq_empty_iff.mp none).2 (by decide)

theorem pathFor_eq (l : Log) (day : String) : l.pathFor day = l.stem ++ day :=
  Path.join_append l.dir l.stem_name_ne_empty day

theorem isAbsolute_pathFor (l : Log) (day : String) :
    (l.pathFor day).isAbsolute = l.stem.isAbsolute := by
  have nonempty : l.stem ≠ "" := Path.join_ne_empty l.dir l.stem_name_ne_empty
  rw [pathFor_eq, Path.isAbsolute_append nonempty]

/-- The files of a log have names that differ in the day alone, in one directory. -/
theorem exists_endsIn (l : Log) : ∃ (dirs : List String) (base : String),
    ∀ d, (l.pathFor (dayName d)).EndsIn dirs (base ++ dayName d) := by
  obtain ⟨dirs, base, names⟩ := Path.exists_names_append l.stem
  refine ⟨dirs, base, fun d => ⟨?_, ?_, ?_, ?_⟩⟩
  · rw [pathFor_eq]
    exact (isName_dayName d).endsInName.append l.stem
  · rw [pathFor_eq]
    exact names _ (isName_dayName d)
  · exact append_dayName_ne base d rfl
  · exact append_dayName_ne base d rfl

/-- The log's files hold these entries, a line each, in a tree that keeps what was made for
the log. -/
structure Filed (l : Log) (made t : FileTree) (es : List Entry) : Prop where
  kept : made.Keeps t
  stored : ∀ d, Stored t (l.pathFor (dayName d)) (onDay d es)

/-- An append adds a line to the file of the entry's day, and no other file changes. -/
theorem Filed.append (filed : l.Filed made t es)
    (h : t.append (l.pathFor e.day) (lineOctets e) = .ok t') : l.Filed made t' (es ++ [e]) := by
  obtain ⟨dirs, base, ends⟩ := l.exists_endsIn
  rw [e.day_eq] at h
  refine ⟨filed.kept.trans (.of_append (ends e.dayNumber?) h), fun d => ?_⟩
  by_cases same : e.dayNumber? = d
  · subst same
    rw [onDay_append_self]
    exact (filed.stored _).append (ends _) h
  · have other : base ++ dayName d ≠ base ++ dayName e.dayNumber? := by
      rw [ne_eq, String.append_right_inj]
      exact fun name => same (dayName_injective name).symm
    rw [onDay_append_of_ne same]
    exact (filed.stored d).append_of_ne (ends _) (ends d) other
      (by rw [isAbsolute_pathFor, isAbsolute_pathFor]) h

/-- Appends entries one after another. -/
def appendAll (l : Log) : List Entry → FileTree → Except SystemError FileTree
  | [], t => .ok t
  | e :: es, t => (l.append e t).bind (l.appendAll es)

/-- The log's directory can be made, and none of the log's files is there then. -/
def Fresh (l : Log) (t : FileTree) : Prop :=
  ∃ made, t.createDirectories l.dir = .ok made ∧
    ∀ d, made.pathExists (l.pathFor (dayName d)) = false

/-- A run of appends goes on in a tree that keeps the directory, so each entry goes to the
file of its day. -/
theorem filed_appendAll {before : FileTree} {done : List Entry}
    (created : before.createDirectories l.dir = .ok made) (filed : l.Filed made t done)
    (h : l.appendAll es t = .ok t') : l.Filed made t' (done ++ es) := by
  induction es generalizing t done with
  | nil =>
    cases h
    rwa [List.append_nil]
  | cons e es ih =>
    obtain ⟨u, appended, rest⟩ := FileTree.bind_eq_ok_iff.mp h
    have there := (FileTree.createDirectories_again created).2 t filed.kept
    rw [Log.append, there] at appended
    have next := filed.append appended
    rw [List.append_cons]
    exact ih next rest

/-- The first append makes the directory, and the run is the same where it has been made. -/
theorem appendAll_of_made (created : t.createDirectories l.dir = .ok made) (e : Entry)
    (es : List Entry) : l.appendAll (e :: es) t = l.appendAll (e :: es) made := by
  have there := (FileTree.createDirectories_again created).2 made (.refl made)
  rw [appendAll, appendAll, Log.append, Log.append, created, there]

/-- A character that the log's names do not have, and no dot or day has, is in no name of a
file. -/
theorem not_mem_fileName {c : Char} (plain : c ∉ l.name.toList ++ l.instanceName.toList)
    (dot : c ≠ '.') (other : ¬ (c.isAlphanum = true ∨ c = '-' ∨ c = '+')) (d : Option Int) :
    c ∉ (l.name ++ "." ++ l.instanceName ++ "." ++ dayName d).toList := by
  have single : c ∉ ".".toList := fun h => dot (List.mem_singleton.mp h)
  rw [List.mem_append, not_or] at plain
  simp only [String.toList_append, List.mem_append, not_or]
  exact ⟨⟨⟨⟨plain.1, single⟩, plain.2⟩, single⟩,
    fun h => other (isAlphanum_or_sign_of_mem_dayName h)⟩

/-- A log with plain names is fresh where its directory, once it has been made, is empty. -/
theorem fresh_of_empty (named : Path.EndsInName l.dir)
    (slash : '/' ∉ l.name.toList ++ l.instanceName.toList)
    (nul : '\x00' ∉ l.name.toList ++ l.instanceName.toList)
    (created : t.createDirectories l.dir = .ok made)
    (empty : ∀ place name, made.find l.dir = .ok place → made.lookup (place ++ [name]) = none) :
    l.Fresh t := by
  refine ⟨made, created, fun d => ?_⟩
  have single : Path.IsName (l.name ++ "." ++ l.instanceName ++ "." ++ dayName d) :=
    ⟨append_dayName_ne _ d rfl, not_mem_fileName slash (by decide) (by decide) d⟩
  have clear := not_mem_fileName nul (by decide) (by decide) d
  rw [← Bool.not_eq_true, FileTree.pathExists_iff]
  rintro ⟨reached, found⟩
  obtain ⟨-, place, ⟨there, -⟩, step⟩ := (FileTree.find_join_eq_ok_iff named single clear).mp found
  generalize member : l.name ++ "." ++ l.instanceName ++ "." ++ dayName d = name at step
  cases step with
  | stay => exact append_dayName_ne _ d rfl member
  | up => exact append_dayName_ne _ d rfl member
  | member _ _ _ inside =>
    rw [empty place name there] at inside
    cases inside

/-- Entries appended to a fresh log are on the lines of their days' files, in the order of
their appends, and nothing else is there. -/
theorem holds_appendAll (fresh : l.Fresh t) (done : l.appendAll es t = .ok t') (d : Option Int) :
    Holds t' (l.pathFor (dayName d)) (onDay d es) := by
  obtain ⟨made, created, vacant⟩ := fresh
  cases es with
  | nil =>
    cases done
    obtain ⟨dirs, base, ends⟩ := l.exists_endsIn
    have keeps := (FileTree.createDirectories_again created).1
    refine ⟨fun _ => ?_, fun nonempty => absurd rfl nonempty⟩
    rw [← Bool.not_eq_true]
    intro there
    exact absurd (FileTree.Keeps.pathExists (ends d) keeps there) (by rw [vacant d]; decide)
  | cons e es =>
    rw [appendAll_of_made created] at done
    have start : l.Filed made made [] :=
      ⟨.refl made, fun d => ⟨fun _ => vacant d, fun nonempty => absurd rfl nonempty⟩⟩
    exact ((filed_appendAll created start done).stored d).holds

/-- A log below the root. -/
def serverLog : Log :=
  ⟨"/logs", "audit", "auth"⟩

/-- An entry whose texts hold ends of lines, quotes, backslashes and control characters. -/
def forgingEntry : Entry where
  timestamp := 1704164645
  timestampText := "2024-01-02T03:04:05Z"
  plugin := "usermac"
  event := "passed\n\x7b\"plugin\":\"usermac\"\x7d\r\n"
  fields := Fields.ofList [("user\\", "mallory\x00\x1f\x7f"), ("mac", "\t\u2028é")]

/-- An entry without fields, at a time that no calendar has. -/
def timelessEntry : Entry where
  timestamp := 9223372036854775807
  timestampText := ""
  plugin := "log"
  event := "trace"

/-- Two entries of one day with one outside the calendar between them: the former share a file
with a line for each, and the latter has a file of its own. -/
theorem holds_appendAll_serverLog : serverLog.Fresh {} ∧
    ∃ t', serverLog.appendAll [forgingEntry, timelessEntry, forgingEntry] {} = .ok t' ∧
      Holds t' (serverLog.pathFor "2024-01-02") [forgingEntry, forgingEntry] ∧
      Holds t' (serverLog.pathFor "unknown") [timelessEntry] := by
  have created : FileTree.createDirectories {} serverLog.dir =
      .ok { entries := [(["logs"], .directory)] } := rfl
  have fresh : serverLog.Fresh {} := by
    refine fresh_of_empty ⟨by decide, rfl⟩ (by decide) (by decide) created fun place name found => ?_
    have there : place = ["logs"] := (Except.ok.inj found).symm
    rw [there]
    rfl
  have passes : (serverLog.appendAll [forgingEntry, timelessEntry, forgingEntry] {}).isOk =
      true := rfl
  refine ⟨fresh, ?_⟩
  cases done : serverLog.appendAll [forgingEntry, timelessEntry, forgingEntry] {} with
  | error e =>
    rw [done] at passes
    cases passes
  | ok t' =>
    have named : dayName (some 19724) = "2024-01-02" := rfl
    have day : onDay (some 19724) [forgingEntry, timelessEntry, forgingEntry] =
        [forgingEntry, forgingEntry] := rfl
    have dated := holds_appendAll fresh done (some 19724)
    have timeless := holds_appendAll fresh done none
    rw [named, day] at dated
    exact ⟨t', rfl, dated, timeless⟩

end Log

end RadiusSentry.Audit
