import RadiusSentry.Proofs.AllowList.Reports

/-!
# What an allow list remembers

An allow list that remembers decisions gives the answer of the files as they were when a key
was first asked for since the last reload (`AllowList.FirstAsked`), one that does not gives that
of the files as they are (`AllowList.Ruling.OfFiles`). The invariant `AllowList.Recalls` says
which answers are remembered after a part of a run, and each kind of use keeps it
(`Recalls.ask`, `Recalls.reload`, `Recalls.refile`). Main statement: `rulings_of_files`, by
which rulings with and without remembering differ exactly where an answer changed between two
requests with one key and no reload.
-/

set_option autoImplicit false

namespace RadiusSentry.Plugin.AllowList

/-- The files after a part of a run. -/
def filesAfter (files : FileTree) : List Use → FileTree
  | [] => files
  | .refile others :: rest => filesAfter others rest
  | _ :: rest => filesAfter files rest

/-- The requests of a run, each with what happened before it. -/
def occasions (before : List Use) : List Use → List (List Use × Request)
  | [] => []
  | .ask r :: rest => (before, r) :: occasions (before ++ [.ask r]) rest
  | use :: rest => occasions (before ++ [use]) rest

/-- A key was asked for since the last reload. -/
def Asked (name : String) (uses : List Use) : Prop :=
  ∃ before r after, uses = before ++ .ask r :: after ∧ key? r = some name ∧ .reload ∉ after

/-- This is what happened before a key was first asked for since the last reload. -/
structure FirstAsked (name : String) (uses earlier : List Use) : Prop where
  asked : ∃ r after, uses = earlier ++ .ask r :: after ∧ key? r = some name ∧ .reload ∉ after
  first : ¬ Asked name earlier

/-- Whether the path of a key leads anywhere after a part of a run. -/
def listed (l : AllowList) (files : FileTree) (uses : List Use) (name : String) : Bool :=
  (filesAfter files uses).pathExists (Path.join l.users name)

/-- A ruling on an occasion is the answer of the files: as they are, or if decisions are
remembered, as they were when the key was first asked for since the last reload. -/
structure Ruling.OfFiles (l : AllowList) (files : FileTree) (occasion : List Use × Request)
    (ruling : Ruling) : Prop where
  request : ruling.request = occasion.2
  present : l.caching = false → ∀ name, key? occasion.2 = some name →
    ruling.verdict = l.listed files occasion.1 name
  remembered : l.caching = true → ∀ name, key? occasion.2 = some name →
    ∃ earlier, FirstAsked name (occasion.1 ++ [.ask occasion.2]) earlier ∧
      ruling.verdict = l.listed files earlier name
  unnamed : key? occasion.2 = none → ruling.verdict = false

/-- Between two requests with one key nothing changes whether its path leads anywhere, unless
there is a reload between them. -/
def Steady (l : AllowList) (files : FileTree) (uses : List Use) : Prop :=
  ∀ before r middle q after name, uses = before ++ .ask r :: (middle ++ .ask q :: after) →
    .reload ∉ middle → key? r = some name → key? q = some name →
      l.listed files (before ++ .ask r :: middle) name = l.listed files before name

/-! ## When a key was asked for -/

section Asking

variable {name : String} {uses earlier : List Use} {use : Use}

theorem not_asked_reload : ¬ Asked name (uses ++ [.reload]) := by
  rintro ⟨before, r, after, cut, -, unloaded⟩
  rcases List.eq_nil_or_concat after with rfl | ⟨front, last, rfl⟩
  · have same := (List.append_inj' cut rfl).2
    cases same
  · rw [List.concat_eq_append, ← List.cons_append, ← List.append_assoc] at cut
    have same : last = .reload := (List.singleton_inj.mp (List.append_inj' cut rfl).2).symm
    rw [List.concat_eq_append, same] at unloaded
    exact unloaded (List.mem_append_right _ List.mem_cons_self)

/-- What asks for a key stands in the part of the run before its last use, or is the last. -/
theorem asked_append_cases (h : Asked name (uses ++ [use])) :
    Asked name uses ∨ ∃ r, use = .ask r ∧ key? r = some name := by
  obtain ⟨before, r, after, cut, named, unloaded⟩ := h
  rcases List.eq_nil_or_concat after with rfl | ⟨front, last, rfl⟩
  · exact .inr ⟨r, List.singleton_inj.mp (List.append_inj' cut rfl).2, named⟩
  · rw [List.concat_eq_append] at cut unloaded
    rw [← List.cons_append, ← List.append_assoc] at cut
    refine .inl ⟨before, r, front, (List.append_inj' cut rfl).1, named, fun reloaded => ?_⟩
    exact unloaded (List.mem_append_left _ reloaded)

theorem FirstAsked.append (h : FirstAsked name uses earlier) {more : List Use}
    (unloaded : .reload ∉ more) : FirstAsked name (uses ++ more) earlier := by
  obtain ⟨⟨r, after, rfl, named, clear⟩, first⟩ := h
  refine ⟨⟨r, after ++ more, by simp, named, ?_⟩, first⟩
  rw [List.mem_append, not_or]
  exact ⟨clear, unloaded⟩

theorem firstAsked_self (unasked : ¬ Asked name uses) {r : Request} (named : key? r = some name) :
    FirstAsked name (uses ++ [.ask r]) uses :=
  ⟨⟨r, [], rfl, named, List.not_mem_nil⟩, unasked⟩

theorem FirstAsked.isPrefix (h : FirstAsked name uses earlier) : earlier <+: uses := by
  obtain ⟨⟨r, after, cut, -, -⟩, -⟩ := h
  exact ⟨_, cut.symm⟩

/-- A key is asked for first at one point of a run. -/
theorem FirstAsked.unique {other : List Use} (h : FirstAsked name uses earlier)
    (h' : FirstAsked name uses other) : earlier = other := by
  suffices ∀ {first second : List Use}, FirstAsked name uses first →
      FirstAsked name uses second → first <+: second → first = second by
    rcases List.prefix_or_prefix_of_prefix h.isPrefix h'.isPrefix with shorter | longer
    · exact this h h' shorter
    · exact (this h' h longer).symm
  intro first second h h' ⟨middle, within⟩
  obtain ⟨⟨r, after, cut, named, clear⟩, -⟩ := h
  obtain ⟨⟨q, rest, cut', -, -⟩, unasked⟩ := h'
  cases middle with
  | nil => rw [← within, List.append_nil]
  | cons use middle =>
    -- then the key was asked for before what is the first time
    rw [cut, ← within, List.append_assoc, List.append_cancel_left_eq, List.cons_append,
      List.cons.injEq] at cut'
    obtain ⟨rfl, rfl⟩ := cut'
    refine absurd ⟨first, r, middle, within.symm, named, fun reloaded => ?_⟩ unasked
    exact clear (List.mem_append_left _ reloaded)

theorem exists_firstAsked {uses : List Use} (h : Asked name uses) :
    ∃ earlier, FirstAsked name uses earlier := by
  obtain ⟨before, r, after, cut, named, clear⟩ := h
  by_cases sooner : Asked name before
  · have shorter : before.length < uses.length := by
      rw [cut, List.length_append, List.length_cons]
      omega
    obtain ⟨earlier, first⟩ := exists_firstAsked sooner
    rw [cut]
    exact ⟨earlier, first.append (by simp [clear])⟩
  · exact ⟨before, ⟨r, after, cut, named, clear⟩, sooner⟩
termination_by uses.length

end Asking

theorem filesAfter_append (files : FileTree) (first second : List Use) :
    filesAfter files (first ++ second) = filesAfter (filesAfter files first) second := by
  induction first generalizing files with
  | nil => rfl
  | cons use rest ih => cases use <;> exact ih _

theorem occasions_cons (before : List Use) (use : Use) (rest : List Use) :
    occasions before (use :: rest) =
      (use.request?.map fun r => (before, r)).toList ++ occasions (before ++ [use]) rest := by
  cases use <;> rfl

theorem request?_eq_some_iff {use : Use} {r : Request} : use.request? = some r ↔ use = .ask r := by
  cases use <;> simp [Use.request?]

/-- The occasions of a run are its divisions at a request. -/
theorem mem_occasions_iff {past uses before : List Use} {r : Request} :
    (before, r) ∈ occasions past uses ↔
      ∃ passed after, uses = passed ++ .ask r :: after ∧ before = past ++ passed := by
  induction uses generalizing past with
  | nil => simp [occasions]
  | cons use rest ih =>
    rw [occasions_cons, List.mem_append, ih]
    have here : (before, r) ∈ (use.request?.map fun q => (past, q)).toList ↔
        use = .ask r ∧ before = past := by
      rw [← request?_eq_some_iff]
      cases use.request? <;> simp [eq_comm, and_comm]
    rw [here]
    constructor
    · rintro (⟨rfl, rfl⟩ | ⟨passed, after, rfl, rfl⟩)
      · exact ⟨[], rest, rfl, (List.append_nil _).symm⟩
      · exact ⟨use :: passed, after, rfl, by simp⟩
    · rintro ⟨passed, after, cut, rfl⟩
      cases passed with
      | nil =>
        obtain ⟨rfl, -⟩ := List.cons.inj cut
        exact .inl ⟨rfl, List.append_nil _⟩
      | cons first passed =>
        obtain ⟨rfl, rfl⟩ := List.cons.inj cut
        exact .inr ⟨passed, after, rfl, by simp⟩

/-! ## One use -/

section Deciding

/-- A decision is what the look-up of the request's key gives, with a report on it, or for want
of a key a refusal. -/
theorem decide_cases (l : AllowList) (r : Request) :
    (∃ (name : String) (report : Bool → Audit.Write), key? r = some name ∧
      ∀ files cache, l.decide r files cache =
        let found := l.lookup files cache name
        { found with effects := found.effects ++ [.queued (report found.verdict)] }) ∨
    key? r = none ∧ ∃ effects, ∀ files cache,
      l.decide r files cache = { verdict := false, state := cache, effects } := by
  unfold decide key?
  cases r.packet? with
  | none => exact .inr ⟨rfl, [], fun _ _ => rfl⟩
  | some p =>
    simp only
    cases p.text? .userName with
    | none => exact .inr ⟨rfl, _, fun _ _ => rfl⟩
    | some user =>
      cases p.text? .callingStationId with
      | none => exact .inr ⟨rfl, _, fun _ _ => rfl⟩
      | some station =>
        let report (good : Bool) : Audit.Write :=
          ⟨l.log, record good (clean user) (clean station) p r⟩
        exact .inl ⟨_, report, rfl, fun _ _ => rfl⟩

variable {l : AllowList} {files : FileTree} {cache : Cache} {r : Request} {name : String}

theorem decide_of_named (named : key? r = some name) :
    (l.decide r files cache).verdict = (l.lookup files cache name).verdict ∧
      (l.decide r files cache).state = (l.lookup files cache name).state := by
  rcases l.decide_cases r with ⟨own, report, isKey, decided⟩ | ⟨unnamed, -⟩
  · cases named.symm.trans isKey
    rw [decided]
    exact ⟨rfl, rfl⟩
  · cases named.symm.trans unnamed

theorem decide_of_unnamed (unnamed : key? r = none) :
    (l.decide r files cache).verdict = false ∧ (l.decide r files cache).state = cache := by
  rcases l.decide_cases r with ⟨own, report, isKey, -⟩ | ⟨-, effects, decided⟩
  · cases unnamed.symm.trans isKey
  · rw [decided]
    exact ⟨rfl, rfl⟩

theorem lookup_of_remembered (files : FileTree) (caching : l.caching = true) {good : Bool}
    (known : remembered? cache name = some good) :
    (l.lookup files cache name).verdict = good ∧ (l.lookup files cache name).state = cache := by
  rw [lookup, if_pos caching, known]
  exact ⟨rfl, rfl⟩

/-- What was looked up is remembered, if decisions are. -/
theorem remembered?_lookup_self (caching : l.caching = true) :
    remembered? (l.lookup files cache name).state name =
      some (l.lookup files cache name).verdict := by
  cases known : remembered? cache name with
  | some good =>
    obtain ⟨verdict, state⟩ := lookup_of_remembered files caching known
    rw [verdict, state, known]
  | none =>
    rw [lookup, if_pos caching, known]
    simp only [if_pos caching, remembered?]
    rw [List.find?_cons_of_pos (by simp), Option.map_some]

end Deciding

/-- What is remembered after a part of a run: the answers on the keys asked for since the last
reload, each as the files were at the first time. -/
structure Recalls (l : AllowList) (files : FileTree) (before : List Use) (cache : Cache) :
    Prop where
  answered : ∀ name good, remembered? cache name = some good →
    ∃ earlier, FirstAsked name before earlier ∧ good = l.listed files earlier name
  asked : ∀ name, Asked name before → (remembered? cache name).isSome = true

namespace Recalls

variable {l : AllowList} {files : FileTree} {before : List Use} {cache : Cache}

/-- The decision on a request is what is remembered, or the answer of the files as they are. -/
theorem verdict (h : Recalls l files before cache) (caching : l.caching = true) {r : Request}
    {name : String} (named : key? r = some name) :
    ∃ earlier, FirstAsked name (before ++ [.ask r]) earlier ∧
      (l.decide r (filesAfter files before) cache).verdict = l.listed files earlier name := by
  rw [(decide_of_named named).1]
  cases known : remembered? cache name with
  | none =>
    have unasked : ¬ Asked name before := by
      intro asked
      have remembered := h.asked name asked
      rw [known] at remembered
      cases remembered
    exact ⟨before, firstAsked_self unasked named, lookup_of_unremembered l fun _ => known⟩
  | some good =>
    obtain ⟨earlier, first, answer⟩ := h.answered name good known
    refine ⟨earlier, first.append (by simp), ?_⟩
    rw [(lookup_of_remembered _ caching known).1, answer]

theorem nil : Recalls l files [] [] where
  answered := nofun
  asked := by
    rintro name ⟨before, r, after, cut, -⟩
    simp at cut

theorem ask (h : Recalls l files before cache) (caching : l.caching = true) (r : Request) :
    Recalls l files (before ++ [.ask r]) (l.decide r (filesAfter files before) cache).state := by
  constructor
  · intro name good known
    by_cases named : key? r = some name
    · rw [(decide_of_named named).2, remembered?_lookup_self caching,
        ← (decide_of_named named).1] at known
      cases known
      exact h.verdict caching named
    · rw [remembered?_decide_of_ne l named] at known
      obtain ⟨earlier, first, answer⟩ := h.answered name good known
      exact ⟨earlier, first.append (by simp), answer⟩
  · intro name asked
    by_cases named : key? r = some name
    · rw [(decide_of_named named).2, remembered?_lookup_self caching]
      rfl
    · rw [remembered?_decide_of_ne l named]
      rcases asked_append_cases asked with earlier | ⟨q, same, ofLast⟩
      · exact h.asked name earlier
      · cases same
        exact absurd ofLast named

theorem reload : Recalls l files (before ++ [.reload]) [] where
  answered := nofun
  asked _ asked := absurd asked not_asked_reload

theorem refile (h : Recalls l files before cache) (others : FileTree) :
    Recalls l files (before ++ [.refile others]) cache := by
  constructor
  · intro name good known
    obtain ⟨earlier, first, answer⟩ := h.answered name good known
    exact ⟨earlier, first.append (by simp), answer⟩
  · intro name asked
    rcases asked_append_cases asked with earlier | ⟨q, same, -⟩
    · exact h.asked name earlier
    · cases same

end Recalls

/-! ## Runs -/

/-- The state that a use of a plugin leaves. -/
def Use.leaves (m : Module World) (w : World) : Use → World
  | .ask r => (m.answer .preAuth r w).state
  | .reload => m.reload w
  | .refile files => { w with files }

/-- A part of a run has led to this state. -/
structure Follows (l : AllowList) (place : Nat) (files : FileTree) (before : List Use)
    (w : World) : Prop where
  files_eq : w.files = filesAfter files before
  seated : place < w.caches.length
  recalls : l.caching = true → Recalls l files before (w.cache place)

section Following

variable {l : AllowList} {place : Nat} {files : FileTree} {before : List Use} {w : World}

theorem cache_withCache (w : World) (place : Nat) (cache : Cache) :
    (w.withCache place cache).cache place = if place < w.caches.length then cache else [] := by
  rw [World.cache, World.withCache, List.getD_eq_getElem?_getD, List.getElem?_set_self']
  split <;> simp_all

/-- A decision is the answer of the files. -/
theorem Follows.ofFiles (h : Follows l place files before w) (r : Request) :
    (ruling r ((l.toModule place).answer .preAuth r w)).OfFiles l files (before, r) := by
  have verdict : (ruling r ((l.toModule place).answer .preAuth r w)).verdict =
      (l.decide r (filesAfter files before) (w.cache place)).verdict := by
    rw [← h.files_eq]
    rfl
  refine ⟨rfl, ?_, ?_, ?_⟩
  · intro present name named
    rw [verdict, (decide_of_named named).1]
    exact lookup_of_unremembered l fun caching => by rw [present] at caching; cases caching
  · intro caching name named
    rw [verdict]
    exact (h.recalls caching).verdict caching named
  · intro unnamed
    rw [verdict]
    exact (decide_of_unnamed unnamed).1

theorem Follows.leaves (h : Follows l place files before w) (use : Use) :
    Follows l place files (before ++ [use]) (use.leaves (l.toModule place) w) := by
  have latest : (use.leaves (l.toModule place) w).files = filesAfter files (before ++ [use]) := by
    rw [filesAfter_append, ← h.files_eq]
    cases use <;> rfl
  cases use with
  | ask r =>
    refine ⟨latest, Nat.lt_of_lt_of_eq h.seated List.length_set.symm, fun caching => ?_⟩
    change Recalls _ _ _ ((w.withCache place (l.decide r w.files (w.cache place)).state).cache place)
    rw [cache_withCache, if_pos h.seated, h.files_eq]
    exact (h.recalls caching).ask caching r
  | reload =>
    refine ⟨latest, Nat.lt_of_lt_of_eq h.seated List.length_set.symm, fun _ => ?_⟩
    change Recalls _ _ _ ((w.withCache place []).cache place)
    rw [cache_withCache, if_pos h.seated]
    exact .reload
  | refile others => exact ⟨latest, h.seated, fun caching => (h.recalls caching).refile others⟩

/-- Every ruling of a run is the answer of the files. -/
theorem Follows.rulings (h : Follows l place files before w) (uses : List Use) :
    List.Forall₂ (fun occasion ruling => ruling.OfFiles l files occasion)
      (occasions before uses) (rulings (l.toModule place) w uses) := by
  induction uses generalizing before w with
  | nil => exact .nil
  | cons use rest ih =>
    have later := ih (h.leaves use)
    cases use with
    | ask r => exact .cons (h.ofFiles r) later
    | reload => exact later
    | refile others => exact later

end Following

/-! ## With and without remembering -/

/-- On an occasion the files answer as they did when the key was first asked for since the last
reload. -/
def Unchanged (l : AllowList) (files : FileTree) (occasion : List Use × Request) : Prop :=
  ∀ name earlier, key? occasion.2 = some name →
    FirstAsked name (occasion.1 ++ [.ask occasion.2]) earlier →
      l.listed files earlier name = l.listed files occasion.1 name

section Comparing

variable {l : AllowList} {files : FileTree} {uses : List Use}

/-- What is given for each element once and again is the same just where both agree. -/
theorem map_eq_map_iff_of_forall₂ {α β γ : Type} {R S : α → β → Prop} {T : α → Prop} {f : β → γ}
    {xs : List α} {ys zs : List β} (first : List.Forall₂ R xs ys) (second : List.Forall₂ S xs zs)
    (agree : ∀ x y z, R x y → S x z → (f y = f z ↔ T x)) :
    ys.map f = zs.map f ↔ ∀ x ∈ xs, T x := by
  induction first generalizing zs with
  | nil =>
    cases second
    simp
  | cons related _ ih =>
    cases second with
    | cons related' rest =>
      rw [List.map_cons, List.map_cons, List.cons.injEq, agree _ _ _ related related', ih rest,
        List.forall_mem_cons]

/-- Rulings with and without remembering agree on an occasion on which nothing changed. -/
theorem verdict_eq_iff {occasion : List Use × Request} {ruled present : Ruling}
    (h : ruled.OfFiles { l with caching := true } files occasion)
    (h' : present.OfFiles { l with caching := false } files occasion) :
    ruled.verdict = present.verdict ↔ l.Unchanged files occasion := by
  cases named : key? occasion.2 with
  | none =>
    rw [h.unnamed named, h'.unnamed named]
    simp [Unchanged, named]
  | some name =>
    obtain ⟨earlier, first, answer⟩ := h.remembered rfl name named
    rw [answer, h'.present rfl name named]
    constructor
    · intro same other early also since
      rw [named] at also
      cases also
      rw [since.unique first]
      exact same
    · intro unchanged
      exact unchanged name earlier named first

/-- Nothing changed on any occasion of a run just if it is steady. -/
theorem forall_unchanged_iff :
    (∀ occasion ∈ occasions [] uses, l.Unchanged files occasion) ↔ l.Steady files uses := by
  constructor
  · intro unchanged before r middle q after name cut unloaded ofFirst ofSecond
    have atFirst : (before, r) ∈ occasions [] uses := mem_occasions_iff.mpr ⟨before, _, cut, rfl⟩
    have atSecond : (before ++ .ask r :: middle, q) ∈ occasions [] uses :=
      mem_occasions_iff.mpr ⟨before ++ .ask r :: middle, after, by simp [cut], rfl⟩
    obtain ⟨earlier, first⟩ : ∃ earlier, FirstAsked name (before ++ [.ask r]) earlier :=
      exists_firstAsked ⟨before, r, [], rfl, ofFirst, List.not_mem_nil⟩
    have still : FirstAsked name (before ++ .ask r :: middle ++ [.ask q]) earlier := by
      have more : FirstAsked name (before ++ [.ask r] ++ (middle ++ [.ask q])) earlier :=
        first.append (by simp [unloaded])
      simpa using more
    rw [← unchanged _ atFirst name earlier ofFirst first,
      unchanged _ atSecond name earlier ofSecond still]
  · intro steady occasion member name earlier named first
    obtain ⟨before, r⟩ := occasion
    obtain ⟨_, after, cut, rfl⟩ := mem_occasions_iff.mp member
    obtain ⟨⟨q, rest, whole, ofFirst, unloaded⟩, -⟩ := first
    rcases List.eq_nil_or_concat rest with rfl | ⟨middle, last, rfl⟩
    · rw [(List.append_inj' whole rfl).1]
    · rw [List.concat_eq_append] at whole unloaded
      rw [← List.cons_append, ← List.append_assoc] at whole
      obtain ⟨rfl, -⟩ := List.append_inj' whole rfl
      have clear : .reload ∉ middle := fun loaded => unloaded (List.mem_append_left _ loaded)
      have cut' : uses = earlier ++ .ask q :: (middle ++ .ask r :: after) := by simp [cut]
      exact (steady earlier q middle r after name cut' clear ofFirst named).symm

end Comparing

/-- Nothing has happened and nothing is remembered when a plugin is set up. -/
theorem follows_initial (c : Config) {place : Nat} (seated : place < c.plugins.length)
    (files : FileTree) : Follows (ofConfig c) place files [] (World.initial c files) := by
  have fresh : (World.initial c files).cache place = [] := by
    simp [World.cache, World.initial, seated]
  refine ⟨rfl, by simpa [World.initial] using seated, fun _ => ?_⟩
  rw [fresh]
  exact .nil

/-- Over any run of requests, reloads and changes of the files, every ruling on a request that
names its user and its station is whether its path leads anywhere: at that time, or if decisions
are remembered, when its key was first asked for since the plugin was set up or reloaded. With
and without remembering all rulings are the same just if no such answer changes between two
requests with one key without a reload. -/
theorem rulings_of_files (c : Config) (place : Nat) (files : FileTree) (uses : List Use)
    (seated : place < c.plugins.length) :
    let run (c : Config) := rulings ((ofConfig c).toModule place) (World.initial c files) uses
    List.Forall₂ (fun occasion ruling => ruling.OfFiles (ofConfig c) files occasion)
      (occasions [] uses) (run c) ∧
    ((run { c with cache := true }).map Ruling.verdict =
        (run { c with cache := false }).map Ruling.verdict ↔
      (ofConfig c).Steady files uses) := by
  intro run
  refine ⟨(follows_initial c seated files).rulings uses, ?_⟩
  have remembering := (follows_initial { c with cache := true } seated files).rulings uses
  have present := (follows_initial { c with cache := false } seated files).rulings uses
  rw [← forall_unchanged_iff]
  exact map_eq_map_iff_of_forall₂ remembering present fun _ _ _ => verdict_eq_iff (l := ofConfig c)

/-- The directory of users with one member. -/
def somebody : FileTree where
  entries := nobody.entries ++ [(["lib", "users", "b.2"], .file [])]

/-- A station is listed between two requests for it, and the plugin is reloaded before a third. -/
def listedLater : List Use :=
  [.ask (arrived [98] [50]), .refile somebody, .ask (arrived [98] [50]), .reload,
    .ask (arrived [98] [50])]

/-- The refusal of the first request stands until the reload, so that the run is not steady. -/
theorem rulings_of_files_listedLater :
    0 < listing.plugins.length ∧
    List.Forall₂ (fun occasion ruling => ruling.OfFiles (ofConfig listing) nobody occasion)
      (occasions [] listedLater)
      (rulings ((ofConfig listing).toModule 0) (World.initial listing nobody) listedLater) ∧
    (rulings ((ofConfig listing).toModule 0) (World.initial listing nobody) listedLater).map
      Ruling.verdict = [false, false, true] ∧
    ¬ (ofConfig listing).Steady nobody listedLater := by
  have seated : 0 < listing.plugins.length := by decide
  obtain ⟨answers, same⟩ := rulings_of_files listing 0 nobody listedLater seated
  refine ⟨seated, answers, by decide +kernel, fun steady => ?_⟩
  exact absurd (same.mpr steady) (by decide +kernel)

end RadiusSentry.Plugin.AllowList
