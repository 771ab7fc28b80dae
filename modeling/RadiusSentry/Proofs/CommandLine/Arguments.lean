import RadiusSentry.CommandLine

/-!
# What arguments ask for

A command line makes sense, and neither help nor the version is asked for, when its words are
the path of a configuration and the option to validate, each at most once and in either order
(`Asks`). Main statement: `invocation_eq_on_iff`.
-/

set_option autoImplicit false

namespace RadiusSentry.CommandLine

namespace Word

def operand? : Word → Option String
  | .operand text => some text
  | .flag _ => none

def flag? : Word → Option (Option Flag)
  | .operand _ => none
  | .flag flag? => some flag?

end Word

def operands (words : List Word) : List String :=
  words.filterMap Word.operand?

def flags (words : List Word) : List (Option Flag) :=
  words.filterMap Word.flag?

/-- The options of a command line that asks for a configuration to be reported on, or to be
served. -/
def options (validating : Bool) : List (Option Flag) :=
  if validating then [some .validate] else []

/-- The invocation for a configuration. -/
def Invocation.on (validating : Bool) (path : Path) : Invocation :=
  if validating then .validate path else .serve path

/-- The arguments ask for a configuration, to be reported on or to be served: no operand or one
is given, and no option but the one to validate, which is given once. -/
def Asks (arguments : List String) (validating : Bool) (path : Path) : Prop :=
  ∃ config? : Option Path, operands (words arguments) = config?.toList ∧
    flags (words arguments) = options validating ∧ path = config?.getD defaultConfig

theorem Invocation.on_injective {validating other : Bool} {path path' : Path}
    (h : on validating path = on other path') : validating = other ∧ path = path' := by
  cases validating <;> cases other <;> cases h <;> exact ⟨rfl, rfl⟩

/-- Words to come are read after a configuration and the option to validate may have been
given: what is asked for is what all of them together ask for. -/
theorem interpret_eq_on_iff (rest : List Word) (validating : Bool) (path : Path) :
    ∀ (config? : Option Path) (given : Bool),
      interpret config? given rest = .on validating path ↔
        ∃ asked? : Option Path, config?.toList ++ operands rest = asked?.toList ∧
          options given ++ flags rest = options validating ∧
          path = asked?.getD defaultConfig := by
  induction rest with
  | nil =>
    intro config? given
    have last : interpret config? given [] = .on given (config?.getD defaultConfig) := rfl
    rw [last]
    constructor
    · intro h
      obtain ⟨rfl, rfl⟩ := Invocation.on_injective h
      exact ⟨config?, List.append_nil _, List.append_nil _, rfl⟩
    · rintro ⟨asked?, operands, options, rfl⟩
      cases config? <;> cases asked? <;> cases operands <;> cases given <;> cases validating <;>
        cases options <;> rfl
  | cons word rest ih =>
    intro config? given
    cases word with
    | operand text =>
      cases config? with
      | none => exact ih (some text) given
      | some config =>
        -- a second operand makes no sense
        constructor
        · intro h
          cases validating <;> cases h
        · rintro ⟨asked?, operands, -⟩
          cases asked? <;> cases operands
    | flag flag? =>
      by_cases expected : flag? = some .validate ∧ given = false
      · obtain ⟨rfl, rfl⟩ := expected
        exact ih config? true
      · -- another option asks for something else, and a second one to validate makes no sense
        constructor
        · intro h
          cases flag? with
          | none => cases validating <;> cases h
          | some f =>
            cases f with
            | help => cases validating <;> cases h
            | version => cases validating <;> cases h
            | validate =>
              cases given with
              | false => exact absurd ⟨rfl, rfl⟩ expected
              | true => cases validating <;> cases h
        · rintro ⟨asked?, -, same, -⟩
          change options given ++ flag? :: flags rest = options validating at same
          cases given with
          | true => cases validating <;> cases same
          | false =>
            cases validating with
            | false => cases same
            | true => exact absurd ⟨(List.cons.inj same).1, rfl⟩ expected

/-- What is asked for does not depend on the order of the words. -/
theorem invocation_eq_on_iff (arguments : List String) (validating : Bool) (path : Path) :
    invocation arguments = .on validating path ↔ Asks arguments validating path :=
  interpret_eq_on_iff (words arguments) validating path none false

end RadiusSentry.CommandLine
