import RadiusSentry.Proofs.CommandLine.Arguments
import RadiusSentry.Proofs.Config.RoundTrip
import RadiusSentry.Proofs.Config.Startable
import RadiusSentry.Proofs.Storage.Grounded

/-!
# What command lines leave of files

Of all files only that of a configuration is ever written to. It is left as it was when the
configuration is reported on or can be loaded; otherwise the sample takes its place, whatever
it held (`Leaves`). Main statement: `leaves_perform`.
-/

set_option autoImplicit false

namespace RadiusSentry

namespace Config

/-- What the file of a new installation holds. -/
def sampleOctets : Octets :=
  Octets.ofText sample.toText

/-- There is no fault in the sample, whatever the resolver says. -/
theorem load_of_read_sample {t : FileTree} {path : Path} (h : t.read path = .ok sampleOctets)
    (lookUp : LookUp) : load lookUp t path = .ok sample := by
  have literal : IpAddress.ofText? sample.serverHost = some (.v4 ⟨127, 0, 0, 1⟩) := by
    decide +kernel
  have faultless : sample.fault? ownHost = none := by decide +kernel
  rw [load_of_read h, validate, fault?_of_literal literal lookUp ownHost, faultless]
  rfl

theorem write_of_save {c : Config} {t t' : FileTree} {path : Path} (h : c.save t path = .ok t') :
    t.write path (Octets.ofText c.toText) = .ok t' := by
  rw [save] at h
  cases written : t.write path (Octets.ofText c.toText) with
  | error e =>
    rw [written] at h
    cases h
  | ok t'' =>
    rw [written] at h
    cases h
    rfl

end Config

namespace CommandLine

/-- What a command line leaves of the files on a host with a given network. -/
structure Leaves (t : FileTree) (n : Network) (arguments : List String) (after : FileTree) :
    Prop where
  working : after.working = t.working
  /-- nothing changes but the file of a configuration that is to be served and is not loaded -/
  changed : ∀ place, after.lookup place ≠ t.lookup place → ∃ path cause,
    Asks arguments false path ∧ Config.load n.lookUp t path = .error cause ∧
      t.target path = .ok place ∧ after.lookup place = some (.file Config.sampleOctets)
  /-- that file is then the sample, also where there was none -/
  sample : ∀ path cause place, Asks arguments false path →
    Config.load n.lookUp t path = .error cause → t.target path = .ok place →
      after.read path = .ok Config.sampleOctets
  /-- what the file of a configuration held is still there exactly if the configuration was
  only to be reported on, or was loaded -/
  kept_iff : ∀ path contents validating, Asks arguments validating path →
    t.read path = .ok contents →
      (after.read path = .ok contents ↔
        validating = true ∨ ∃ c, Config.load n.lookUp t path = .ok c)

variable {t : FileTree} {n : Network} {path : Path}

theorem files_of_loaded {c : Config} (loaded : Config.load n.lookUp t path = .ok c) :
    (perform t n (.serve path)).1 = t := by
  rw [perform, serve, loaded]

/-- Serving a configuration that is not loaded saves the sample, if it can. -/
theorem files_of_unloaded {cause : ConfigError}
    (unloaded : Config.load n.lookUp t path = .error cause) :
    Config.sample.save t path = .ok (perform t n (.serve path)).1 ∨
      (∃ e, Config.sample.save t path = .error e) ∧ (perform t n (.serve path)).1 = t := by
  rw [perform, serve, unloaded]
  simp only [writeSample]
  cases Config.sample.save t path with
  | ok written => exact .inl rfl
  | error e => exact .inr ⟨⟨e, rfl⟩, rfl⟩

/-- A command line changes no file, or saves the sample where a configuration to be served is
not loaded. -/
theorem files_cases (t : FileTree) (n : Network) (asked : Invocation) :
    (perform t n asked).1 = t ∨
      ∃ path cause, asked = .serve path ∧ Config.load n.lookUp t path = .error cause ∧
        Config.sample.save t path = .ok (perform t n asked).1 := by
  cases asked with
  | help => exact .inl rfl
  | version => exact .inl rfl
  | misuse => exact .inl rfl
  | validate path => exact .inl rfl
  | serve path =>
    cases loaded : Config.load n.lookUp t path with
    | ok c => exact .inl (files_of_loaded loaded)
    | error cause =>
      rcases files_of_unloaded loaded with saved | ⟨-, same⟩
      · exact .inr ⟨path, cause, rfl, loaded, saved⟩
      · exact .inl same

/-- A command line writes to the file of a configuration that is to be served and cannot be
loaded, whatever keeps it from being loaded, and to no other file. In such a file the sample
takes the place of what was there; in every other case a configuration is left as it was. -/
theorem leaves_perform (t : FileTree) (grounded : t.Grounded) (n : Network)
    (arguments : List String) :
    Leaves t n arguments (perform t n (invocation arguments)).1 := by
  have replaced : ∀ path cause place, Asks arguments false path →
      Config.load n.lookUp t path = .error cause → t.target path = .ok place →
        (perform t n (invocation arguments)).1.read path = .ok Config.sampleOctets := by
    intro path cause place asks unloaded target
    rw [(invocation_eq_on_iff arguments false path).mpr asks]
    rcases files_of_unloaded unloaded with saved | ⟨⟨e, failed⟩, -⟩
    · exact FileTree.read_write (Config.write_of_save saved)
    · obtain ⟨t', saved, -⟩ := Config.save_of_target target Config.sample
      rw [saved] at failed
      cases failed
  constructor
  case working =>
    rcases files_cases t n (invocation arguments) with same | ⟨path, cause, -, -, saved⟩
    · rw [same]
    · obtain ⟨place, -, working, -⟩ := FileTree.lookup_write (Config.write_of_save saved)
      exact working
  case changed =>
    intro place different
    rcases files_cases t n (invocation arguments) with same | ⟨path, cause, asked, unloaded, saved⟩
    · rw [same] at different
      exact absurd rfl different
    · obtain ⟨written, target, -, lookup⟩ := FileTree.lookup_write (Config.write_of_save saved)
      have asks := (invocation_eq_on_iff arguments false path).mp asked
      by_cases here : place = written
      · subst here
        exact ⟨path, cause, asks, unloaded, target, (lookup place).trans (if_pos rfl)⟩
      · exact absurd ((lookup place).trans (if_neg here)) different
  case sample => exact replaced
  case kept_iff =>
    intro path contents validating asks held
    cases validating with
    | true =>
      rw [(invocation_eq_on_iff arguments true path).mpr asks]
      exact ⟨fun _ => .inl rfl, fun _ => held⟩
    | false =>
      cases loaded : Config.load n.lookUp t path with
      | ok c =>
        rw [(invocation_eq_on_iff arguments false path).mpr asks]
        refine ⟨fun _ => .inr ⟨c, rfl⟩, fun _ => ?_⟩
        rwa [Invocation.on, if_neg (by decide), files_of_loaded loaded]
      | error cause =>
        obtain ⟨place, target⟩ := grounded.target_of_read held
        have sample := replaced path cause place asks loaded target
        constructor
        · -- the sample itself would have been loaded
          intro kept
          rw [sample] at kept
          cases kept
          rw [Config.load_of_read_sample held n.lookUp] at loaded
          cases loaded
        · rintro (report | ⟨c, found⟩)
          · cases report
          · cases found

/-- A working directory with a configuration in it. -/
def holding (contents : Octets) : FileTree where
  entries := [(["config.json"], .file contents)]

theorem grounded_holding (contents : Octets) : (holding contents).Grounded := by
  constructor
  case above =>
    intro place name there
    by_cases here : place ++ [name] = ["config.json"]
    · obtain ⟨rfl, -⟩ := List.append_inj' (here.trans (List.nil_append _).symm) rfl
      rfl
    · have absent : (holding contents).lookup (place ++ [name]) = none := by
        simp [holding, FileTree.lookup, Ne.symm here]
      rw [absent] at there
      cases there
  case working => rfl

theorem read_holding (contents : Octets) : (holding contents).read "config.json" = .ok contents :=
  rfl

/-- A configuration of which the end is missing. -/
def truncated : FileTree :=
  holding (Octets.ofText "\x7b")

/-- A single brace is no configuration. -/
theorem load_truncated (lookUp : LookUp) :
    Config.load lookUp truncated "config.json" = .error .parse := by
  have scanned : Json.scan ['\x7b'] = some [.beginObject] := by
    rw [Json.scan, if_neg (by decide), if_pos rfl, Json.scan, Option.map_some]
  have unread : Config.ofText? "\x7b" = none := by
    rw [Config.ofText?, Json.parse?, Json.ofChars?]
    change ((Json.scan ['\x7b']).bind Json.ofTokens?).bind Config.ofJson? = none
    rw [scanned]
    rfl
  rw [truncated, Config.load_of_readText (FileTree.readText_of_read (read_holding _)), unread]

/-- A host that knows itself alone. -/
def secluded : Network where
  accepts := IpAddress.isLoopback
  lookUp := Config.ownHost

/-- A relay that is to forward to its own host, by name and on the port it listens on. -/
def selfNamed : Config :=
  { Config.sample with serverHost := "localhost", serverPort := some 1812 }

theorem load_selfNamed :
    Config.load secluded.lookUp (holding (Octets.ofText selfNamed.toText)) "config.json" =
      .error (.invalid (.loopsBack { ip := .v4 ⟨127, 0, 0, 1⟩, port := 1812 }
        { ip := .v4 ⟨0, 0, 0, 0⟩, port := 1812 })) := by
  have loops : selfNamed.fault? Config.ownHost = some (.loopsBack
      { ip := .v4 ⟨127, 0, 0, 1⟩, port := 1812 } { ip := .v4 ⟨0, 0, 0, 0⟩, port := 1812 }) := by
    decide +kernel
  rw [Config.load_of_read (read_holding _), Config.validate, secluded, loops]
  rfl

/-- Without any argument, a configuration of which the end is missing is lost: the sample stands
in its place. With the option to validate it is kept. A whole configuration is lost too where
the resolver finds the relay itself under the name of its server. -/
theorem leaves_perform_truncated :
    (perform truncated secluded (invocation [])).1.read "config.json" = .ok Config.sampleOctets ∧
    (perform truncated secluded (invocation [])).1.read "config.json" ≠
      .ok (Octets.ofText "\x7b") ∧
    (perform truncated secluded (invocation ["-v"])).1.read "config.json" =
      .ok (Octets.ofText "\x7b") ∧
    (perform (holding (Octets.ofText selfNamed.toText)) secluded (invocation [])).1.read
      "config.json" = .ok Config.sampleOctets := by
  have held : truncated.read "config.json" = .ok (Octets.ofText "\x7b") := read_holding _
  have served := leaves_perform truncated (grounded_holding _) secluded []
  have reported := leaves_perform truncated (grounded_holding _) secluded ["-v"]
  have looped := leaves_perform (holding (Octets.ofText selfNamed.toText)) (grounded_holding _)
    secluded []
  have serves : Asks [] false "config.json" := ⟨none, rfl, rfl, rfl⟩
  have reports : Asks ["-v"] true "config.json" := ⟨none, rfl, rfl, rfl⟩
  refine ⟨served.sample _ _ _ serves (load_truncated _) rfl, ?_, ?_,
    looped.sample _ _ _ serves load_selfNamed rfl⟩
  · rw [ne_eq, served.kept_iff _ _ _ serves held, load_truncated]
    rintro (report | ⟨c, loaded⟩)
    · cases report
    · cases loaded
  · exact (reported.kept_iff _ _ _ reports held).mpr (.inl rfl)

end CommandLine

end RadiusSentry
