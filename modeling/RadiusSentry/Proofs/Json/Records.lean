import RadiusSentry.Proofs.Json.RoundTrip

/-!
# Records written as objects

An object made of named members is read as those members (`members?_ofMembers`), and as a
record with these fields if no name comes twice (`record?_ofMembers`); each field is then
found under its name (`lookup?_of_mem`). Scalars read back from the values they were made of.
-/

set_option autoImplicit false

namespace RadiusSentry.Json

variable {members : List (String × Json)}

@[simp] theorem members?_ofMembers (members : List (String × Json)) :
    (ofMembers members).members? = some members := by
  simp only [ofMembers, members?, List.mapM_map]
  exact (List.mapM_pure (f := id)).trans (congrArg some (List.map_id members))

/-- Members with the names of fields, none of them twice, are read as a record. -/
theorem record?_ofMembers {fields : List String} (known : ∀ m ∈ members, m.1 ∈ fields)
    (distinct : (members.map Prod.fst).Nodup) :
    (ofMembers members).record? fields = some members := by
  have all : members.filter (fun m => fields.contains m.1) = members :=
    List.filter_eq_self.mpr fun m hm => List.contains_iff_mem.mpr (known m hm)
  change ((ofMembers members).members?).bind _ = _
  rw [members?_ofMembers, Option.bind_some]
  simp only [all, if_pos distinct]

/-- A field is found under its name. -/
theorem lookup?_of_mem {key : String} {value : Json} (distinct : (members.map Prod.fst).Nodup)
    (h : (key, value) ∈ members) : lookup? key members = some value := by
  induction members with
  | nil => cases h
  | cons m members ih =>
    rw [List.map_cons, List.nodup_cons] at distinct
    rcases List.mem_cons.mp h with rfl | h
    · rw [lookup?, if_pos rfl]
    · have other : m.1 ≠ key := by
        rintro rfl
        exact distinct.1 (List.mem_map.mpr ⟨_, h, rfl⟩)
      rw [lookup?, if_neg other, ih distinct.2 h]

theorem lookup?_of_not_mem {key : String} (h : key ∉ members.map Prod.fst) :
    lookup? key members = none := by
  induction members with
  | nil => rfl
  | cons m members ih =>
    rw [List.map_cons, List.mem_cons, not_or] at h
    rw [lookup?, if_neg (Ne.symm h.1), ih h.2]

/-- A value that may be missing, as `null` where it is. -/
def ofOption {α : Type} (write : α → Json) (value : Option α) : Json :=
  (value.map write).getD .null

@[simp] theorem text?_ofText (s : String) : (ofText s).text? = some s :=
  rfl

@[simp] theorem bool?_bool (b : Bool) : (Json.bool b).bool? = some b :=
  rfl

theorem natBelow?_ofInt {bound n : Nat} (h : n < bound) :
    (ofInt n).natBelow? bound = some n := by
  have inside : 0 ≤ (n : Int) ∧ (n : Int) < bound := by omega
  simp only [natBelow?, int?, ofInt, Number.toInt?_ofInt, Option.bind_eq_bind, Option.bind_some]
  rw [if_pos inside, Int.toNat_natCast]

@[simp] theorem uint16?_ofInt (n : UInt16) : (ofInt n.toNat).uint16? = some n := by
  rw [uint16?, natBelow?_ofInt n.toNat_lt, Option.map_some, UInt16.ofNat_toNat]

@[simp] theorem uint64?_ofInt (n : UInt64) : (ofInt n.toNat).uint64? = some n := by
  rw [uint64?, natBelow?_ofInt n.toNat_lt, Option.map_some, UInt64.ofNat_toNat]

section Written

variable {α : Type} {write : α → Json} {read : Json → Option α}
  (written : ∀ a, read (write a) = some a)
include written

theorem list?_map (values : List α) : (array (values.map write)).list? read = some values := by
  have reads : read ∘ write = some := funext written
  rw [list?, List.mapM_map, reads]
  exact (List.mapM_pure (f := id)).trans (congrArg some (List.map_id values))

/-- Nothing but a missing value is written as `null`. -/
theorem optional?_ofOption (given : ∀ a, write a ≠ .null) (value : Option α) :
    (ofOption write value).optional? read = some value := by
  cases value with
  | none => rfl
  | some a =>
    have present : ofOption write (some a) = write a := rfl
    rw [present, optional?, written, Option.map_some]
    exact given a

end Written

@[simp] theorem int64?_ofInt (n : Int64) : (ofInt n.toInt).int64? = some n := by
  have low : -9223372036854775808 ≤ n.toInt := n.le_toInt
  have high : n.toInt < 9223372036854775808 := n.toInt_lt
  simp only [int64?, int?, ofInt, Number.toInt?_ofInt, Option.bind_eq_bind, Option.bind_some]
  rw [if_pos (by omega), Int64.ofInt_toInt]

theorem Plain.ofText (s : String) : Plain (ofText s) :=
  .text s

theorem Plain.ofInt (n : Int) : Plain (ofInt n) := by
  cases n with
  | ofNat n => exact .integer false n
  | negSucc n => exact .integer true (n + 1)

theorem Plain.ofOption {α : Type} {write : α → Json} (h : ∀ a, Plain (write a))
    (value : Option α) : Plain (ofOption write value) := by
  cases value with
  | none => exact .null
  | some a => exact h a

theorem Plain.map {α : Type} {write : α → Json} (h : ∀ a, Plain (write a)) (values : List α) :
    Plain (Json.array (values.map write)) := by
  apply Plain.array
  intro j hj
  obtain ⟨a, -, rfl⟩ := List.mem_map.mp hj
  exact h a

theorem Plain.ofMembers (h : ∀ m ∈ members, Plain m.2) : Plain (ofMembers members) := by
  apply Plain.object
  · intro m hm
    obtain ⟨_, -, rfl⟩ := List.mem_map.mp hm
    rfl
  · intro m hm
    obtain ⟨n, hn, rfl⟩ := List.mem_map.mp hm
    exact h n hn

end RadiusSentry.Json
