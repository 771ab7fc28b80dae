/-!
# Fields

Named texts in the order of their names, each name once. The order is part of the
type, so that equal contents are equal values.
-/

set_option autoImplicit false

namespace RadiusSentry.Audit

/-- Whether the names ascend. -/
def Ascending (entries : List (String × String)) : Prop :=
  entries.Pairwise fun a b => a.1 < b.1

/-- The entries with a text put under a name. -/
def putEntry (key value : String) : List (String × String) → List (String × String)
  | [] => [(key, value)]
  | (k, v) :: rest =>
    if key < k then (key, value) :: (k, v) :: rest
    else if key = k then (key, value) :: rest
    else (k, v) :: putEntry key value rest

theorem mem_putEntry {key value : String} {entries : List (String × String)} {e : String × String}
    (h : e ∈ putEntry key value entries) : e = (key, value) ∨ e ∈ entries := by
  induction entries with
  | nil => simpa [putEntry] using h
  | cons first rest ih =>
    obtain ⟨k, v⟩ := first
    unfold putEntry at h
    split at h
    · simpa using h
    · split at h
      · rcases List.mem_cons.1 h with h | h
        · exact .inl h
        · exact .inr (List.mem_cons_of_mem _ h)
      · rcases List.mem_cons.1 h with h | h
        · exact .inr (h ▸ List.mem_cons_self)
        · exact (ih h).imp id (List.mem_cons_of_mem _)

theorem ascending_putEntry (key value : String) {entries : List (String × String)}
    (h : Ascending entries) : Ascending (putEntry key value entries) := by
  induction entries with
  | nil => simp [putEntry, Ascending]
  | cons first rest ih =>
    obtain ⟨k, v⟩ := first
    obtain ⟨before, tail⟩ := List.pairwise_cons.1 h
    unfold putEntry
    split
    · rename_i lt
      refine List.pairwise_cons.2 ⟨?_, h⟩
      intro e he
      rcases List.mem_cons.1 he with rfl | he
      · exact lt
      · exact String.lt_trans lt (before e he)
    · rename_i notLess
      split
      · rename_i eq
        subst eq
        exact List.pairwise_cons.2 ⟨before, tail⟩
      · rename_i ne
        refine List.pairwise_cons.2 ⟨?_, ih tail⟩
        intro e he
        rcases mem_putEntry he with rfl | he
        · exact String.not_le.1 fun le => ne (String.le_antisymm le (String.not_lt.1 notLess))
        · exact before e he

/-- Texts by name. -/
structure Fields where
  entries : List (String × String)
  ascending : Ascending entries
deriving DecidableEq

namespace Fields

def empty : Fields :=
  ⟨[], List.Pairwise.nil⟩

/-- The fields with a text put under a name, in place of an earlier one. -/
def put (f : Fields) (key value : String) : Fields :=
  ⟨putEntry key value f.entries, ascending_putEntry key value f.ascending⟩

def get? (f : Fields) (key : String) : Option String :=
  (f.entries.find? fun e => e.1 == key).map Prod.snd

/-- The fields with a text added under a name, after a comma if there is one already. -/
def extend (f : Fields) (key value : String) : Fields :=
  match f.get? key with
  | none => f.put key value
  | some old => f.put key (old ++ ", " ++ value)

/-- The fields that a list of pairs makes; of two pairs with one name the later counts. -/
def ofList (pairs : List (String × String)) : Fields :=
  pairs.foldl (fun f pair => f.put pair.1 pair.2) empty

def isEmpty (f : Fields) : Bool :=
  f.entries.isEmpty

end Fields

end RadiusSentry.Audit
