import Mathlib.Logic.Relation
import RadiusSentry.Proofs.AllowList.Memory
import RadiusSentry.Proofs.Storage.Siblings

/-!
# Which requests share a file

The key of a request is its user and its station with a dot between, and both may hold dots
themselves. So different pairs have one key exactly if they are one text divided at different
dots (`AllowList.key_eq_key_iff`). Such requests are decided alike, which lets a station in
that is listed for another user (`pairs_mixed`). All others are decided apart: whatever happens
to the file of one changes no decision on the other (`AllowList.AgreeBut`, `pairs_apart`).
-/

set_option autoImplicit false

namespace RadiusSentry.Plugin.AllowList

open FileTree (Touches)

/-- Two pairs are one text divided at different dots. -/
inductive Redivided (user station user' station' : String) : Prop
  | later (middle : String) (of_user : user' = key user middle)
      (of_station : station = key middle station')
  | sooner (middle : String) (of_user : user = key user' middle)
      (of_station : station' = key middle station)

/-- A request names a user and a station in texts, which are these when cleaned. -/
def Names (r : Request) (user station : String) : Prop :=
  ∃ p first second, r.packet? = some p ∧ p.text? .userName = some first ∧
    p.text? .callingStationId = some second ∧ user = clean first ∧ station = clean second

/-- Two uses are the same, but that files were created, rewritten or removed at a path. -/
inductive Use.Beside (path : Path) : Use → Use → Prop
  | ask (r : Request) : Beside path (.ask r) (.ask r)
  | reload : Beside path .reload .reload
  | refile {files files' : FileTree}
      (touched : Relation.ReflTransGen (Touches path) files files') :
      Beside path (.refile files) (.refile files')

/-! ## Keys -/

section Keys

variable {user station user' station' : String}

theorem key_assoc (first middle last : String) :
    key (key first middle) last = key first (key middle last) := by
  simp only [key, String.append_assoc]

/-- Of two pairs with one key, the one with the shorter user has more in its station. -/
theorem divided_of_append {rest : List Char} (of_user : user'.toList = user.toList ++ rest)
    (of_rest : '.' :: station.toList = rest ++ '.' :: station'.toList) :
    (user, station) = (user', station') ∨ Redivided user station user' station' := by
  cases rest with
  | nil =>
    rw [List.append_nil, String.toList_inj] at of_user
    rw [List.nil_append, List.cons.injEq, and_iff_right rfl, String.toList_inj] at of_rest
    rw [of_user, of_rest]
    exact .inl rfl
  | cons c middle =>
    rw [List.cons_append, List.cons.injEq] at of_rest
    obtain ⟨rfl, of_station⟩ := of_rest
    refine .inr (.later (String.ofList middle) ?_ ?_)
    · rw [← String.toList_inj, of_user, toList_key, String.toList_ofList]
    · rw [← String.toList_inj, of_station, toList_key, String.toList_ofList]

theorem Redivided.symm (h : Redivided user station user' station') :
    Redivided user' station' user station := by
  cases h with
  | later middle of_user of_station => exact .sooner middle of_user of_station
  | sooner middle of_user of_station => exact .later middle of_user of_station

/-- A key tells its user and its station but for the dot that it is divided at. -/
theorem key_eq_key_iff : key user station = key user' station' ↔
    (user, station) = (user', station') ∨ Redivided user station user' station' := by
  constructor
  · intro same
    rw [← String.toList_inj, toList_key, toList_key] at same
    -- one of the users begins with the other, and the station of the other holds the rest
    rcases List.append_eq_append_iff.mp same with ⟨rest, longer, cut⟩ | ⟨rest, shorter, cut⟩
    · exact divided_of_append longer cut
    · rcases divided_of_append shorter cut with same | divided
      · exact .inl same.symm
      · exact .inr divided.symm
  · rintro (same | divided)
    · cases same
      rfl
    · cases divided with
      | later middle of_user of_station => rw [of_user, of_station, key_assoc]
      | sooner middle of_user of_station => rw [of_user, of_station, key_assoc]

/-- Pairs whose stations hold no dot are divided in one way. -/
theorem not_redivided (plain : '.' ∉ station.toList) (plain' : '.' ∉ station'.toList) :
    ¬ Redivided user station user' station' := by
  intro divided
  cases divided with
  | later middle of_user of_station =>
    rw [of_station, toList_key] at plain
    exact plain (List.mem_append_right _ List.mem_cons_self)
  | sooner middle of_user of_station =>
    rw [of_station, toList_key] at plain'
    exact plain' (List.mem_append_right _ List.mem_cons_self)

end Keys

/-! ## Files of other keys -/

theorem key?_of_names {r : Request} {user station : String} (named : Names r user station) :
    key? r = some (key user station) := by
  obtain ⟨p, first, second, packet, ofUser, ofStation, rfl, rfl⟩ := named
  rw [key?, packet]
  simp only [ofUser, ofStation]

theorem exists_of_key? {r : Request} {name : String} (named : key? r = some name) :
    ∃ user station, name = key (clean user) (clean station) := by
  unfold key? at named
  split at named
  · cases named
  · split at named
    · rename_i user station _ _
      cases named
      exact ⟨user, station, rfl⟩
    · cases named

/-- The path of the directory of users ends in a name other than dots. -/
theorem exists_endsIn_users (c : Config) : ∃ dirs last, (ofConfig c).users.EndsIn dirs last := by
  have plain : Path.IsName "users" := ⟨by decide, by decide⟩
  obtain ⟨before, joined⟩ : ∃ before, Path.join c.dir "users" = before ++ "users" := by
    unfold Path.join
    split
    · exact ⟨"", rfl⟩
    · split
      · exact ⟨_, rfl⟩
      · exact ⟨_, rfl⟩
  obtain ⟨dirs, stem, names⟩ := Path.exists_names_append before
  -- the last name is too long for dots, even if the directory's path goes on into it
  have long : ∀ dots : String, dots.length < 5 → stem ++ "users" ≠ dots := by
    rintro _ short rfl
    rw [String.length_append] at short
    have five : "users".length = 5 := rfl
    omega
  refine ⟨dirs, stem ++ "users", endsInName_users c, ?_, long _ (by decide), long _ (by decide)⟩
  change Path.names (Path.join c.dir "users") = _
  rw [joined, names _ plain]

/-- What happens to the file of one key leaves whether another leads anywhere. -/
theorem pathExists_of_touches (c : Config) {r q : Request} {name other : String}
    (named : key? r = some name) (named' : key? q = some other) (different : other ≠ name)
    {files files' : FileTree}
    (touched : Relation.ReflTransGen (Touches (Path.join (ofConfig c).users name)) files files') :
    files'.pathExists (Path.join (ofConfig c).users other) =
      files.pathExists (Path.join (ofConfig c).users other) := by
  obtain ⟨dirs, last, ends⟩ := exists_endsIn_users c
  obtain ⟨user, station, rfl⟩ := exists_of_key? named
  obtain ⟨user', station', rfl⟩ := exists_of_key? named'
  induction touched with
  | refl => rfl
  | tail _ step ih =>
    rw [← ih]
    exact step.pathExists_join_of_ne ends (isName_key user station)
      (not_mem_key (by decide) user station) (isName_key user' station')
      (not_mem_key (by decide) user' station') different

/-! ## One decision -/

section Deciding

variable {l : AllowList} {files files' : FileTree} {cache cache' : Cache}

/-- A look-up depends on what is remembered for its key and on whether its path leads
anywhere. -/
theorem lookup_congr {name : String}
    (known : remembered? cache' name = remembered? cache name)
    (found : files'.pathExists (Path.join l.users name) =
      files.pathExists (Path.join l.users name)) :
    (l.lookup files' cache' name).verdict = (l.lookup files cache name).verdict ∧
      (l.lookup files' cache' name).effects = (l.lookup files cache name).effects ∧
      remembered? (l.lookup files' cache' name).state name =
        remembered? (l.lookup files cache name).state name := by
  rw [lookup, lookup, known, found]
  split
  · exact ⟨rfl, rfl, known⟩
  · refine ⟨rfl, rfl, ?_⟩
    simp only
    split
    · simp [remembered?]
    · exact known

/-- So does a decision on a request. -/
theorem decide_congr {r : Request}
    (known : ∀ name, key? r = some name → remembered? cache' name = remembered? cache name)
    (found : ∀ name, key? r = some name → files'.pathExists (Path.join l.users name) =
      files.pathExists (Path.join l.users name)) :
    (l.decide r files' cache').verdict = (l.decide r files cache).verdict ∧
      (l.decide r files' cache').effects = (l.decide r files cache).effects := by
  rcases l.decide_cases r with ⟨name, report, isKey, decided⟩ | ⟨-, effects, decided⟩
  · obtain ⟨verdict, effects, -⟩ := lookup_congr (known name isKey) (found name isKey)
    simp only [decided, verdict, effects, and_self]
  · rw [decided, decided]
    exact ⟨rfl, rfl⟩

end Deciding

/-! ## Two runs -/

/-- Two states agree but for one key: the files but for what became of the file of the key, and
what is remembered but for what is known of the key. -/
structure AgreeBut (c : Config) (place : Nat) (name : String) (w w' : World) : Prop where
  files : Relation.ReflTransGen (Touches (Path.join (ofConfig c).users name)) w.files w'.files
  seats : w'.caches.length = w.caches.length
  memory : ∀ other, other ≠ name →
    remembered? (w'.cache place) other = remembered? (w.cache place) other

namespace AgreeBut

variable {c : Config} {place : Nat} {name : String} {w w' : World}

/-- A request with another key finds the same. -/
theorem found_eq (h : AgreeBut c place name w w') {r q : Request} (named : key? r = some name)
    {other : String} (named' : key? q = some other) (different : other ≠ name) :
    remembered? (w'.cache place) other = remembered? (w.cache place) other ∧
      w'.files.pathExists (Path.join (ofConfig c).users other) =
        w.files.pathExists (Path.join (ofConfig c).users other) :=
  ⟨h.memory other different, pathExists_of_touches c named named' different h.files⟩

/-- It is ruled on alike. -/
theorem ruling_eq (h : AgreeBut c place name w w') {r q : Request} (named : key? r = some name)
    (different : key? q ≠ some name) :
    ruling q (((ofConfig c).toModule place).answer .preAuth q w') =
      ruling q (((ofConfig c).toModule place).answer .preAuth q w) := by
  have same : ∀ other, key? q = some other → _ := fun other isKey =>
    h.found_eq named isKey fun own => different (own ▸ isKey)
  obtain ⟨verdict, effects⟩ := decide_congr (l := ofConfig c)
    (fun other isKey => (same other isKey).1) (fun other isKey => (same other isKey).2)
  have reports := congrArg (List.filterMap Effect.report?) effects
  exact congrArg₂ (Ruling.mk q) verdict reports

theorem withCache (h : AgreeBut c place name w w') {cache cache' : Cache}
    (memory : ∀ other, other ≠ name → remembered? cache' other = remembered? cache other) :
    AgreeBut c place name (w.withCache place cache) (w'.withCache place cache') where
  files := h.files
  seats := by
    rw [World.withCache, World.withCache, List.length_set, List.length_set, h.seats]
  memory other different := by
    rw [cache_withCache, cache_withCache, h.seats]
    split
    · exact memory other different
    · rfl

/-- What a decision adds to what is remembered is the same but for the key. -/
theorem ask (h : AgreeBut c place name w w') {r : Request} (named : key? r = some name)
    (q : Request) :
    AgreeBut c place name (w.withCache place ((ofConfig c).decide q w.files (w.cache place)).state)
      (w'.withCache place ((ofConfig c).decide q w'.files (w'.cache place)).state) := by
  -- of the key itself nothing is asked: it may be remembered in one of the states alone
  refine h.withCache fun other different => ?_
  by_cases named' : key? q = some other
  · obtain ⟨known, found⟩ := h.found_eq named named' different
    rw [(decide_of_named named').2, (decide_of_named named').2]
    exact (lookup_congr known found).2.2
  · rw [remembered?_decide_of_ne _ named', remembered?_decide_of_ne _ named']
    exact h.memory other different

/-- Each use keeps two states alike. -/
theorem leaves (h : AgreeBut c place name w w') {r : Request} (named : key? r = some name)
    {use use' : Use} (beside : use.Beside (Path.join (ofConfig c).users name) use') :
    AgreeBut c place name (use.leaves ((ofConfig c).toModule place) w)
      (use'.leaves ((ofConfig c).toModule place) w') := by
  cases beside with
  | ask q => exact h.ask named q
  | reload => exact h.withCache fun _ _ => rfl
  | refile touched => exact ⟨touched, h.seats, h.memory⟩

/-- Over two runs, a request with another key is ruled on alike. -/
theorem rulings (h : AgreeBut c place name w w') {r : Request} (named : key? r = some name)
    {uses uses' : List Use}
    (beside : List.Forall₂ (Use.Beside (Path.join (ofConfig c).users name)) uses uses') :
    List.Forall₂ (fun ruling ruling' => ruling'.request = ruling.request ∧
        (key? ruling.request ≠ some name → ruling' = ruling))
      (rulings ((ofConfig c).toModule place) w uses)
      (rulings ((ofConfig c).toModule place) w' uses') := by
  induction beside generalizing w w' with
  | nil => exact .nil
  | cons step _ ih =>
    have later := ih (h.leaves named step)
    cases step with
    | ask q => exact .cons ⟨rfl, h.ruling_eq named⟩ later
    | reload => exact later
    | refile touched => exact later

end AgreeBut

/-- Two requests are told apart by their files unless they name one pair, or pairs that are one
text divided at different dots. Told apart, the second is ruled on alike over any two runs in
which everything is the same but what became of the file of the first, before the runs or within
them, with and without remembering. Otherwise every decision on one is that on the other. -/
theorem pairs_apart (c : Config) (place : Nat) {r₁ r₂ : Request}
    {user₁ station₁ user₂ station₂ : String}
    (named₁ : Names r₁ user₁ station₁) (named₂ : Names r₂ user₂ station₂) :
    let l := ofConfig c
    let path := Path.join l.users (key user₁ station₁)
    ((user₁, station₁) ≠ (user₂, station₂) → ¬ Redivided user₁ station₁ user₂ station₂ →
      ∀ (w w' : World) (uses uses' : List Use), w'.caches = w.caches →
        Relation.ReflTransGen (Touches path) w.files w'.files →
        List.Forall₂ (Use.Beside path) uses uses' →
        List.Forall₂ (fun ruling ruling' => ruling'.request = ruling.request ∧
            (ruling.request = r₂ → ruling' = ruling))
          (rulings (l.toModule place) w uses) (rulings (l.toModule place) w' uses')) ∧
    ((user₁, station₁) = (user₂, station₂) ∨ Redivided user₁ station₁ user₂ station₂ →
      ∀ files cache, (l.decide r₁ files cache).verdict = (l.decide r₂ files cache).verdict) := by
  intro l path
  have isKey₁ := key?_of_names named₁
  have isKey₂ := key?_of_names named₂
  constructor
  · intro different undivided w w' uses uses' caches files beside
    have agree : AgreeBut c place (key user₁ station₁) w w' :=
      ⟨files, by rw [caches], fun other _ => by rw [World.cache, caches, World.cache]⟩
    refine (agree.rulings isKey₁ beside).imp fun ruling ruling' related => ?_
    obtain ⟨request, same⟩ := related
    refine ⟨request, fun own => same ?_⟩
    rw [own, isKey₂, ne_eq, Option.some.injEq]
    intro one
    rcases key_eq_key_iff.mp one.symm with pair | divided
    · exact different pair
    · exact undivided divided
  · intro one files cache
    rw [← key_eq_key_iff] at one
    rw [(decide_of_named isKey₁).1, (decide_of_named isKey₂).1, one]

/-- A packet with a user and a station in these octets. -/
def introduced (user station : Octets) : Packet :=
  { nameless with attributes := [⟨1, user⟩, ⟨31, station⟩] }

/-- A file for one user admits that one between two requests, and another user at the same
station stays refused. -/
theorem pairs_apart_listed :
    Names (arrived [98] [50]) "b" "2" ∧ Names (arrived [99] [50]) "c" "2" ∧
    nobody.write "/lib/users/b.2" [] = .ok somebody ∧
    (let run (files : FileTree) := rulings ((ofConfig listing).toModule 0)
      (World.initial listing files)
      [.ask (arrived [98] [50]), .ask (arrived [99] [50])]
    (run somebody).map Ruling.verdict = [true, false] ∧
    List.Forall₂ (fun ruling ruling' => ruling'.request = ruling.request ∧
      (ruling.request = arrived [99] [50] → ruling' = ruling)) (run nobody) (run somebody)) := by
  have named₁ : Names (arrived [98] [50]) "b" "2" :=
    ⟨introduced [98] [50], "b", "2", by decide +kernel⟩
  have named₂ : Names (arrived [99] [50]) "c" "2" :=
    ⟨introduced [99] [50], "c", "2", by decide +kernel⟩
  have written : nobody.write "/lib/users/b.2" [] = .ok somebody := by rfl
  obtain ⟨apart, -⟩ := pairs_apart listing 0 named₁ named₂
  refine ⟨named₁, named₂, written, by decide +kernel, ?_⟩
  refine apart (by decide) (not_redivided (by decide) (by decide)) (World.initial listing nobody)
    (World.initial listing somebody) _ _ rfl (.single (.written [] written)) ?_
  exact .cons (.ask _) (.cons (.ask _) .nil)

/-- The directory of users with the file of `b.c` at `a`, which is that of `c` at `a.b`. -/
def mixed : FileTree where
  entries := nobody.entries ++ [(["lib", "users", "a.b.c"], .file [])]

/-- The pairs differ, but creating the file of the first admits the second, and removing it
refuses the second again, with and without remembering. -/
theorem pairs_mixed :
    Names (arrived [97, 46, 98] [99]) "a.b" "c" ∧ Names (arrived [97] [98, 46, 99]) "a" "b.c" ∧
    ("a.b", "c") ≠ ("a", "b.c") ∧
    nobody.write (Path.join (ofConfig listing).users (key "a.b" "c")) [] = .ok mixed ∧
    mixed.remove (Path.join (ofConfig listing).users (key "a.b" "c")) = .ok nobody ∧
    ∀ cache : Bool, (rulings ((ofConfig { listing with cache }).toModule 0)
      (World.initial listing nobody)
      [.ask (arrived [97] [98, 46, 99]), .refile mixed, .reload,
        .ask (arrived [97] [98, 46, 99]), .refile nobody, .reload,
        .ask (arrived [97] [98, 46, 99])]).map Ruling.verdict = [false, true, false] :=
  ⟨⟨introduced [97, 46, 98] [99], "a.b", "c", by decide +kernel⟩,
    ⟨introduced [97] [98, 46, 99], "a", "b.c", by decide +kernel⟩,
    by decide, rfl, rfl, by decide +kernel⟩

end RadiusSentry.Plugin.AllowList
