import RadiusSentry.Plugin.Setup
import RadiusSentry.Proofs.Storage.Paths

/-!
# Admission by the allow list

When a request is admitted whose key was not asked for since the last reload. A key is
one name, which holds no separator (`AllowList.isName_key`), and so the look-up ends at a
member of the directory of users, except for the keys that are dots alone
(`AllowList.Reserved`). Those lead to the directory of users itself or to the one above
it, and so they are admitted as soon as the directory is there, whatever it holds
(`AllowList.decide_unasked`).
-/

set_option autoImplicit false

namespace RadiusSentry.Plugin.AllowList

open FileTree (Fits)

/-! ## Keys -/

/-- The cleaned texts whose key names no file: one dot stands for the directory of users
and two dots for the directory above it. -/
inductive Reserved : String → String → Prop
  | users : Reserved "" ""
  | aboveByUser : Reserved "." ""
  | aboveByStation : Reserved "" "."

variable {user station : String}

theorem toList_key : (key user station).toList = user.toList ++ '.' :: station.toList := by
  rw [key, String.toList_append, String.toList_append, List.append_assoc]
  rfl

theorem key_eq_dot_iff : key user station = "." ↔ user = "" ∧ station = "" := by
  rw [← String.toList_inj, toList_key, ← String.toList_eq_nil_iff, ← String.toList_eq_nil_iff]
  change user.toList ++ '.' :: station.toList = ['.'] ↔ _
  cases user.toList with
  | nil => simp
  | cons c rest => cases rest <;> simp

theorem key_eq_dots_iff :
    key user station = ".." ↔ (user = "." ∧ station = "") ∨ (user = "" ∧ station = ".") := by
  simp only [← String.toList_inj, toList_key]
  change user.toList ++ '.' :: station.toList = ['.', '.'] ↔
    (user.toList = ['.'] ∧ station.toList = []) ∨ (user.toList = [] ∧ station.toList = ['.'])
  cases user.toList with
  | nil => simp
  | cons c rest =>
    cases rest with
    | nil => simp
    | cons d more => cases more <;> simp

theorem reserved_iff :
    Reserved user station ↔ key user station = "." ∨ key user station = ".." := by
  rw [key_eq_dot_iff, key_eq_dots_iff]
  constructor
  · intro h
    cases h with
    | users => exact .inl ⟨rfl, rfl⟩
    | aboveByUser => exact .inr (.inl ⟨rfl, rfl⟩)
    | aboveByStation => exact .inr (.inr ⟨rfl, rfl⟩)
  · rintro (⟨rfl, rfl⟩ | ⟨rfl, rfl⟩ | ⟨rfl, rfl⟩)
    · exact .users
    · exact .aboveByUser
    · exact .aboveByStation

/-- Every character of a cleaned text is one that cleaning keeps. -/
theorem isKept_of_mem_clean {text : String} {c : Char} (h : c ∈ (clean text).toList) :
    isKept c = true := by
  rw [clean, String.toList_ofList, List.mem_filter] at h
  exact h.2

theorem not_mem_key {c : Char} (dropped : isKept c = false) (text other : String) :
    c ∉ (key (clean text) (clean other)).toList := by
  intro member
  rw [toList_key, List.mem_append, List.mem_cons] at member
  rcases member with ofUser | rfl | ofStation
  · rw [isKept_of_mem_clean ofUser] at dropped
    cases dropped
  · cases dropped
  · rw [isKept_of_mem_clean ofStation] at dropped
    cases dropped

/-- Nothing in a text can make the key of it more than one name. -/
theorem isName_key (text other : String) : Path.IsName (key (clean text) (clean other)) := by
  refine ⟨?_, not_mem_key (by decide) text other⟩
  rw [ne_eq, ← String.toList_eq_nil_iff, toList_key]
  exact List.append_ne_nil_of_right_ne_nil _ (List.cons_ne_nil _ _)

/-! ## The look-up -/

/-- What the look-up of a key comes to that was not remembered. -/
structure Decision (files : FileTree) (users : Path) (user station : String)
    (verdict : Bool) : Prop where
  admits_iff : verdict = true ↔ Fits users (key user station) ∧
    (Reserved user station ∧ (∃ place, files.DirectoryAt users place) ∨
      ¬ Reserved user station ∧ (key user station).utf8ByteSize ≤ FileTree.maxNameLength ∧
        files.HasMember users (key user station))
  admits_from_empty : ∀ place, files.DirectoryAt users place →
    (∀ name, files.lookup (place ++ [name]) = none) →
      (verdict = true ↔ Fits users (key user station) ∧ Reserved user station)
  reaches : ∀ reached, files.find (Path.join users (key user station)) = .ok reached →
    ∃ place, files.DirectoryAt users place ∧
      (¬ Reserved user station ∧ reached = place ++ [key user station] ∨
        key user station = "." ∧ reached = place ∨
        key user station = ".." ∧ reached = place.dropLast)

variable {files : FileTree} {users : Path}

theorem exists_step_iff {place : List String} :
    (∃ reached, files.Step place (key user station) reached) ↔
      Reserved user station ∨
        ¬ Reserved user station ∧ (key user station).utf8ByteSize ≤ FileTree.maxNameLength ∧
          (files.lookup (place ++ [key user station])).isSome := by
  rw [reserved_iff]
  generalize key user station = name
  constructor
  · rintro ⟨reached, step⟩
    cases step with
    | stay => exact .inl (.inl rfl)
    | up => exact .inl (.inr rfl)
    | member single double short found =>
      exact .inr ⟨not_or.mpr ⟨single, double⟩, short, found⟩
  · rintro ((rfl | rfl) | ⟨named, short, found⟩)
    · exact ⟨_, .stay⟩
    · exact ⟨_, .up⟩
    · exact ⟨_, .member (fun h => named (.inl h)) (fun h => named (.inr h)) short found⟩

section Keyed

variable (hu : Path.EndsInName users) (hk : Path.IsName (key user station))
  (clear : '\x00' ∉ (key user station).toList)

include hu hk clear

theorem pathExists_key_iff :
    files.pathExists (Path.join users (key user station)) = true ↔
      Fits users (key user station) ∧
        (Reserved user station ∧ (∃ place, files.DirectoryAt users place) ∨
          ¬ Reserved user station ∧
            (key user station).utf8ByteSize ≤ FileTree.maxNameLength ∧
            files.HasMember users (key user station)) := by
  have leads : files.pathExists (Path.join users (key user station)) = true ↔
      Fits users (key user station) ∧
        ∃ place, files.DirectoryAt users place ∧
          ∃ reached, files.Step place (key user station) reached := by
    simp only [FileTree.pathExists_iff, FileTree.find_join_eq_ok_iff hu hk clear]
    constructor
    · rintro ⟨reached, fits, place, directory, step⟩
      exact ⟨fits, place, directory, reached, step⟩
    · rintro ⟨fits, place, directory, reached, step⟩
      exact ⟨reached, fits, place, directory, step⟩
  simp only [exists_step_iff] at leads
  rw [leads]
  refine and_congr_right fun _ => ?_
  constructor
  · rintro ⟨place, directory, reserved | ⟨named, short, member⟩⟩
    · exact .inl ⟨reserved, place, directory⟩
    · exact .inr ⟨named, short, place, directory, member⟩
  · rintro (⟨reserved, place, directory⟩ | ⟨named, short, place, directory, member⟩)
    · exact ⟨place, directory, .inl reserved⟩
    · exact ⟨place, directory, .inr ⟨named, short, member⟩⟩

theorem reached_of_find_key {reached : List String}
    (there : files.find (Path.join users (key user station)) = .ok reached) :
    ∃ place, files.DirectoryAt users place ∧
      (¬ Reserved user station ∧ reached = place ++ [key user station] ∨
        key user station = "." ∧ reached = place ∨
        key user station = ".." ∧ reached = place.dropLast) := by
  obtain ⟨-, place, directory, step⟩ := (FileTree.find_join_eq_ok_iff hu hk clear).mp there
  refine ⟨place, directory, ?_⟩
  rw [reserved_iff]
  generalize key user station = name at step ⊢
  cases step with
  | stay => exact .inr (.inl ⟨rfl, rfl⟩)
  | up => exact .inr (.inr ⟨rfl, rfl⟩)
  | member single double => exact .inl ⟨not_or.mpr ⟨single, double⟩, rfl⟩

/-- Whether the path of a key leads anywhere decides as `Decision` says. -/
theorem decision_pathExists : Decision files users user station
    (files.pathExists (Path.join users (key user station))) := by
  constructor
  case admits_iff => exact pathExists_key_iff hu hk clear
  case admits_from_empty =>
    intro place directory empty
    rw [pathExists_key_iff hu hk clear]
    refine and_congr_right fun _ => ?_
    constructor
    · rintro (⟨reserved, -⟩ | ⟨-, -, other, there, member⟩)
      · exact reserved
      · -- a path leads to one place only, and nothing is in that one
        have same : place = other := Except.ok.inj (directory.1.symm.trans there.1)
        rw [← same, empty] at member
        cases member
    · exact fun reserved => .inl ⟨reserved, place, directory⟩
  case reaches => exact fun reached there => reached_of_find_key hu hk clear there

end Keyed

/-! ## Decisions on requests -/

/-- The key that a request is looked up by, if it names its user and its station. -/
def key? (r : Request) : Option String :=
  match r.packet? with
  | none => none
  | some p =>
    match p.text? .userName, p.text? .callingStationId with
    | some user, some station => some (key (clean user) (clean station))
    | _, _ => none

variable (l : AllowList) {cache : Cache}

/-- What is remembered after decisions on requests since the last reload, each with the
files as they were then. -/
def cacheAfter (decisions : List (Request × FileTree)) : Cache :=
  decisions.foldl (fun cache (r, files) => (l.decide r files cache).state) []

theorem lookup_of_unremembered {name : String}
    (fresh : l.caching = true → remembered? cache name = none) :
    (l.lookup files cache name).verdict = files.pathExists (Path.join l.users name) := by
  rw [lookup]
  cases caching : l.caching with
  | false => rfl
  | true =>
    rw [if_pos rfl, fresh caching]

theorem remembered?_lookup_of_ne {name other : String} (different : name ≠ other) :
    remembered? (l.lookup files cache name).state other = remembered? cache other := by
  rw [lookup]
  split
  · rfl
  · simp only
    split
    · rw [remembered?, List.find?_cons_of_neg (by simpa using different), ← remembered?]
    · rfl

/-- A decision makes no other key remembered than that of its request. -/
theorem remembered?_decide_of_ne {r : Request} {name : String} (different : key? r ≠ some name) :
    remembered? (l.decide r files cache).state name = remembered? cache name := by
  unfold key? at different
  rw [decide]
  cases packet : r.packet? with
  | none => rfl
  | some p =>
    simp only [packet] at different ⊢
    split
    · rename_i user station ofUser ofStation
      simp only [ofUser, ofStation] at different
      exact remembered?_lookup_of_ne l fun same => different (congrArg some same)
    · rfl

/-- A key that no decision was about is not remembered. -/
theorem remembered?_cacheAfter {decisions : List (Request × FileTree)} {name : String}
    (unasked : ∀ d ∈ decisions, key? d.1 ≠ some name) :
    remembered? (l.cacheAfter decisions) name = none := by
  suffices ∀ cache : Cache, remembered? cache name = none →
      remembered? (decisions.foldl (fun cache (r, files) => (l.decide r files cache).state)
        cache) name = none from this [] rfl
  induction decisions with
  | nil => exact fun cache h => h
  | cons d rest ih =>
    intro cache h
    refine ih (fun e member => unasked e (List.mem_cons_of_mem d member)) _ ?_
    rw [remembered?_decide_of_ne l (unasked d List.mem_cons_self), h]

/-- The path of the directory of users has a last name, whatever it is joined to. -/
theorem endsInName_users (c : Config) : Path.EndsInName (ofConfig c).users :=
  Path.IsName.endsInName_join ⟨by decide, by decide⟩ c.dir

/-- A request that names its user and its station in texts is decided by the directory of
users alone, unless its key was asked for since the last reload and decisions are
remembered. A request that lacks one of the two, or has it first in octets that are no
text, is refused. -/
theorem decide_unasked (c : Config) (decisions : List (Request × FileTree))
    (files : FileTree) (r : Request) (p : Packet) (decoded : r.packet? = some p) :
    (∀ user station, p.text? .userName = some user →
      p.text? .callingStationId = some station →
      (c.cache = true →
        ∀ d ∈ decisions, key? d.1 ≠ some (key (clean user) (clean station))) →
      Decision files (Path.join c.dir "users") (clean user) (clean station)
        ((ofConfig c).decide r files ((ofConfig c).cacheAfter decisions)).verdict) ∧
    (∀ k : Attribute.Kind, k = .userName ∨ k = .callingStationId →
      (p.find? k.number = none ∨
        ∃ a, p.find? k.number = some a ∧ Octets.text? a.value = none) →
      ((ofConfig c).decide r files ((ofConfig c).cacheAfter decisions)).verdict = false) := by
  constructor
  · intro user station ofUser ofStation unasked
    have verdict : ((ofConfig c).decide r files ((ofConfig c).cacheAfter decisions)).verdict =
        files.pathExists (Path.join (ofConfig c).users (key (clean user) (clean station))) := by
      rw [decide, decoded]
      simp only [ofUser, ofStation]
      exact lookup_of_unremembered (ofConfig c) fun caching =>
        remembered?_cacheAfter (ofConfig c) (unasked caching)
    rw [verdict]
    exact decision_pathExists (endsInName_users c) (isName_key user station)
      (not_mem_key (by decide) user station)
  · intro k named missing
    have untold : p.text? k = none := by
      rw [Packet.text?]
      rcases missing with absent | ⟨a, first, other⟩
      · rw [absent]
        rfl
      · rw [first]
        exact other
    rw [decide, decoded]
    rcases named with rfl | rfl
    · simp only [untold]
    · simp only [untold]
      split
      · rename_i told
        cases told
      · rfl

/-- A proxy that keeps its allow list below a directory and remembers decisions. -/
def listing : Config where
  dir := "/lib"
  cache := true
  plugins := [name]

/-- A directory of users with nothing in it. -/
def nobody : FileTree where
  entries := [(["lib"], .directory), (["lib", "users"], .directory)]

/-- A decoded datagram with a User-Name and a Calling-Station-Id of the given octets. -/
def arrived (user station : Octets) : Request :=
  Request.decoded {
    datagram := [1, 7, 0, 24 + UInt8.ofNat (user.length + station.length)] ++
      List.replicate 16 9 ++ [1, 2 + UInt8.ofNat user.length] ++ user ++
      [31, 2 + UInt8.ofNat station.length] ++ station
    source := none }

/-- The packet in which both are empty. -/
def nameless : Packet where
  code := .accessRequest
  identifier := 7
  authenticator := .filled 9
  attributes := [⟨1, []⟩, ⟨31, []⟩]

/-- With nobody listed, a request with empty names is admitted: its key is a dot, and no
decision was about that one before. -/
theorem decide_unasked_nobody :
    ¬ nobody.HasMember (Path.join listing.dir "users") (key (clean "") (clean "")) ∧
      ((ofConfig listing).decide (arrived [] []) nobody
        ((ofConfig listing).cacheAfter [(arrived [98] [50], nobody)])).verdict = true := by
  have directory : nobody.DirectoryAt (Path.join listing.dir "users") ["lib", "users"] :=
    ⟨rfl, rfl⟩
  have dot : key (clean "") (clean "") = "." := rfl
  have decoded : (arrived [] []).packet? = some nameless := by decide +kernel
  have ofUser : nameless.text? .userName = some "" := rfl
  have ofStation : nameless.text? .callingStationId = some "" := rfl
  have asked : key? (arrived [98] [50]) = some "b.2" := by decide +kernel
  have unasked : ∀ d ∈ [(arrived [98] [50], nobody)],
      key? d.1 ≠ some (key (clean "") (clean "")) := by
    intro d member
    rw [List.mem_singleton.mp member, asked, dot]
    decide
  obtain ⟨named, -⟩ := decide_unasked listing [(arrived [98] [50], nobody)] nobody
    (arrived [] []) nameless decoded
  have decision := named "" "" ofUser ofStation fun _ => unasked
  constructor
  · rintro ⟨place, there, member⟩
    have same : place = ["lib", "users"] := Except.ok.inj (there.1.symm.trans directory.1)
    rw [same, dot] at member
    cases member
  · refine decision.admits_iff.mpr ⟨?_, .inl ⟨.users, _, directory⟩⟩
    rw [Fits, dot]
    decide

end RadiusSentry.Plugin.AllowList
