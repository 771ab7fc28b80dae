import RadiusSentry.Audit.Fields

/-!
# Reading fields back

A text put under a name is read under that name, and every other name reads as before
(`Fields.get?_put`). A text added under a name joins those that are there (`get?_extend_self`).
-/

set_option autoImplicit false

namespace RadiusSentry.Audit

variable {key other : String}

theorem find?_putEntry_self (value : String) (entries : List (String × String)) :
    (putEntry key value entries).find? (fun e => e.1 == key) = some (key, value) := by
  induction entries with
  | nil => simp [putEntry]
  | cons first rest ih =>
    unfold putEntry
    split
    · simp
    · split
      · simp
      · rename_i different
        rw [List.find?_cons_of_neg (by simpa using Ne.symm different), ih]

theorem find?_putEntry_of_ne (value : String) (entries : List (String × String))
    (different : key ≠ other) :
    (putEntry key value entries).find? (fun e => e.1 == other) =
      entries.find? fun e => e.1 == other := by
  induction entries with
  | nil => simp [putEntry, different]
  | cons first rest ih =>
    obtain ⟨k, v⟩ := first
    unfold putEntry
    split
    · rw [List.find?_cons_of_neg (by simpa using different)]
    · split
      · rename_i same
        subst same
        rw [List.find?_cons_of_neg (by simpa using different),
          List.find?_cons_of_neg (by simpa using different)]
      · rw [List.find?_cons, List.find?_cons, ih]

namespace Fields

theorem get?_put (f : Fields) (key value other : String) :
    (f.put key value).get? other = if key = other then some value else f.get? other := by
  rw [get?, put]
  split
  · rename_i same
    subst same
    rw [find?_putEntry_self, Option.map_some]
  · rename_i different
    rw [find?_putEntry_of_ne value f.entries different, get?]

theorem isSome_get?_put (f : Fields) (key value other : String) :
    ((f.put key value).get? other).isSome = true ↔
      other = key ∨ (f.get? other).isSome = true := by
  rw [get?_put]
  split
  · rename_i same
    simp [same]
  · rename_i different
    simp [Ne.symm different]

/-- The names are those that something is read under. -/
theorem mem_names_iff (f : Fields) (key : String) :
    key ∈ f.entries.map Prod.fst ↔ (f.get? key).isSome = true := by
  rw [get?, Option.isSome_map, List.find?_isSome, List.mem_map]
  simp only [beq_iff_eq]

/-- What is read under a name after texts were added under it one by one. -/
def joined? (values : List String) : Option String :=
  if values = [] then none else some (", ".intercalate values)

theorem get?_extend_self {f : Fields} {key : String} {values : List String}
    (h : f.get? key = joined? values) (value : String) :
    (f.extend key value).get? key = joined? (values ++ [value]) := by
  have more : joined? (values ++ [value]) = some (", ".intercalate (values ++ [value])) :=
    if_neg (by simp)
  rw [extend, h, more]
  by_cases first : values = []
  · subst first
    rw [List.nil_append, String.intercalate_singleton]
    exact (get?_put f key value key).trans (if_pos rfl)
  · rw [joined?, if_neg first, String.intercalate_append_of_ne_nil first (by simp),
      String.intercalate_singleton]
    exact (get?_put f key _ key).trans (if_pos rfl)

theorem get?_extend_of_ne (f : Fields) {key other : String} (different : key ≠ other)
    (value : String) : (f.extend key value).get? other = f.get? other := by
  rw [extend]
  split
  · rw [get?_put, if_neg different]
  · rw [get?_put, if_neg different]

end Fields

end RadiusSentry.Audit
