import RadiusSentry.Audit.Entry
import RadiusSentry.Proofs.Json.Records

/-!
# Entries are read back from their texts

The fields of an entry are named in ascending order, so putting them one by one in that order
makes them again (`Fields.ofList_entries`). Main statements: `Entry.ofText?_toText`, for
entries with fields and without them, and `Entry.not_mem_toText`: no control character, and so
no end of a line, stands in the text of an entry.
-/

set_option autoImplicit false

namespace RadiusSentry.Audit

/-- A name above all others comes last. -/
theorem putEntry_of_forall_lt (key value : String) {entries : List (String × String)}
    (above : ∀ e ∈ entries, e.1 < key) :
    putEntry key value entries = entries ++ [(key, value)] := by
  induction entries with
  | nil => rfl
  | cons first rest ih =>
    obtain ⟨k, v⟩ := first
    have less : k < key := above (k, v) List.mem_cons_self
    have different : key ≠ k := by
      rintro rfl
      exact String.lt_irrefl key less
    rw [putEntry, if_neg (String.lt_asymm less), if_neg different,
      ih fun e he => above e (List.mem_cons_of_mem _ he), List.cons_append]

namespace Fields

theorem eq_of_entries_eq {f g : Fields} (h : f.entries = g.entries) : f = g := by
  cases f
  cases g
  cases h
  rfl

theorem entries_foldl_put (pairs : List (String × String)) (f : Fields)
    (ascending : Ascending (f.entries ++ pairs)) :
    (pairs.foldl (fun f pair => f.put pair.1 pair.2) f).entries = f.entries ++ pairs := by
  induction pairs generalizing f with
  | nil => rw [List.foldl_nil, List.append_nil]
  | cons pair pairs ih =>
    have above : ∀ e ∈ f.entries, e.1 < pair.1 := fun e he =>
      (List.pairwise_append.mp ascending).2.2 e he pair List.mem_cons_self
    have last : (f.put pair.1 pair.2).entries = f.entries ++ [pair] :=
      putEntry_of_forall_lt pair.1 pair.2 above
    rw [List.append_cons, ← last] at ascending
    rw [List.foldl_cons, ih _ ascending, last, ← List.append_cons]

/-- The entries of fields make them again. -/
theorem ofList_entries (f : Fields) : ofList f.entries = f :=
  eq_of_entries_eq (entries_foldl_put f.entries empty f.ascending)

/-- Fields are empty when they have no entries. -/
theorem eq_empty_of_isEmpty {f : Fields} (h : f.isEmpty = true) : f = empty :=
  eq_of_entries_eq (List.isEmpty_iff.mp h)

end Fields

namespace Entry

/-- The member that holds an entry's fields, if there are any. -/
def fieldMembers (e : Entry) : List (String × Json) :=
  if e.fields.isEmpty then []
  else [("fields", Json.ofMembers (e.fields.entries.map fun (k, v) => (k, .ofText v)))]

/-- The members that an entry is written as. -/
def members (e : Entry) : List (String × Json) :=
  [("timestamp", .ofInt e.timestamp.toInt),
    ("timestamp_iso", .ofText e.timestampText),
    ("plugin", .ofText e.plugin),
    ("event", .ofText e.event)] ++ e.fieldMembers

theorem toJson_eq (e : Entry) : e.toJson = .ofMembers e.members :=
  rfl

theorem plain_fieldMembers (e : Entry) : ∀ m ∈ e.fieldMembers, m.2.Plain := by
  unfold fieldMembers
  split
  · exact List.forall_mem_nil _
  · rw [List.forall_mem_singleton]
    apply Json.Plain.ofMembers
    intro m hm
    obtain ⟨pair, -, rfl⟩ := List.mem_map.mp hm
    exact .ofText pair.2

theorem plain_toJson (e : Entry) : e.toJson.Plain := by
  rw [toJson_eq]
  apply Json.Plain.ofMembers
  rw [members, List.forall_mem_append]
  refine ⟨?_, plain_fieldMembers e⟩
  simp only [List.forall_mem_cons, List.not_mem_nil, false_implies, implies_true, and_true]
  exact ⟨.ofInt _, .ofText _, .ofText _, .ofText _⟩

theorem fieldsOfJson?_ofMembers (pairs : List (String × String)) :
    fieldsOfJson? (Json.ofMembers (pairs.map fun (k, v) => (k, .ofText v))) =
      some (Fields.ofList pairs) := by
  have texts : (pairs.map fun (k, v) => (k, Json.ofText v)).mapM
      (fun m => m.2.text?.map fun text => (m.1, text)) = some pairs := by
    rw [List.mapM_map]
    exact (List.mapM_pure (f := id)).trans (congrArg some (List.map_id pairs))
  simp only [fieldsOfJson?, Json.members?_ofMembers, Option.bind_eq_bind, Option.bind_some, texts]

/-- The names of an entry's members; that of the fields is the last, if it is there. -/
theorem map_fst_members (e : Entry) : e.members.map Prod.fst =
    if e.fields.isEmpty then memberNames.dropLast else memberNames := by
  unfold members fieldMembers
  split <;> rfl

theorem names_members (e : Entry) : (e.members.map Prod.fst).Sublist memberNames := by
  rw [map_fst_members]
  split
  · exact List.dropLast_sublist memberNames
  · exact List.Sublist.refl memberNames

theorem record?_toJson (e : Entry) : e.toJson.record? memberNames = some e.members := by
  have names := names_members e
  rw [toJson_eq]
  apply Json.record?_ofMembers
  · intro m hm
    exact names.subset (List.mem_map_of_mem hm)
  · exact names.nodup (by decide)

theorem fieldOr_members (e : Entry) :
    Json.fieldOr .empty fieldsOfJson? "fields" e.members = some e.fields := by
  have distinct := (names_members e).nodup (by decide)
  by_cases none : e.fields.isEmpty = true
  · have absent : "fields" ∉ e.members.map Prod.fst := by
      rw [map_fst_members, if_pos none]
      decide
    rw [Json.fieldOr, Json.lookup?_of_not_mem absent, Fields.eq_empty_of_isEmpty none]
  · have present : ("fields", Json.ofMembers (e.fields.entries.map fun (k, v) =>
        (k, .ofText v))) ∈ e.members := by
      unfold members fieldMembers
      rw [if_neg none]
      exact List.mem_append_right _ List.mem_cons_self
    rw [Json.fieldOr, Json.lookup?_of_mem distinct present]
    exact (fieldsOfJson?_ofMembers e.fields.entries).trans
      (congrArg some (Fields.ofList_entries e.fields))

theorem ofJson?_toJson (e : Entry) : ofJson? e.toJson = some e := by
  have distinct := (names_members e).nodup (by decide)
  have timestamp : Json.lookup? "timestamp" e.members = some (.ofInt e.timestamp.toInt) :=
    Json.lookup?_of_mem distinct (by simp [members])
  have timestampText : Json.lookup? "timestamp_iso" e.members = some (.ofText e.timestampText) :=
    Json.lookup?_of_mem distinct (by simp [members])
  have plugin : Json.lookup? "plugin" e.members = some (.ofText e.plugin) :=
    Json.lookup?_of_mem distinct (by simp [members])
  have event : Json.lookup? "event" e.members = some (.ofText e.event) :=
    Json.lookup?_of_mem distinct (by simp [members])
  simp only [ofJson?, record?_toJson, Json.field?, timestamp, timestampText, plugin, event,
    fieldOr_members, Json.int64?_ofInt, Json.text?_ofText, Option.bind_eq_bind, Option.bind_some]

/-- An entry is read back from its text. -/
theorem ofText?_toText (e : Entry) : ofText? e.toText = some e := by
  rw [ofText?, toText, Json.parse?_compact (plain_toJson e), Option.bind_some, ofJson?_toJson]

/-- No control character stands in the text of an entry. -/
theorem not_mem_toText (e : Entry) {c : Char} (control : c.toNat < 0x20) :
    c ∉ e.toText.toList := by
  intro h
  rw [toText, Json.compact, String.toList_ofList] at h
  have := Json.le_of_mem_compactChars (plain_toJson e) c h
  omega

end Entry

end RadiusSentry.Audit
