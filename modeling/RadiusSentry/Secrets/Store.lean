import RadiusSentry.Address.Endpoint
import RadiusSentry.Octets

/-!
# Shared secrets by client

A store has a default secret and a mapping from the beginnings of host texts to
secrets. As soon as the mapping has a key, it alone counts. The candidates for a
host are the secrets of all keys its text begins with, longest key first, and
last the one for every host.
-/

set_option autoImplicit false

namespace RadiusSentry

/-- Why no secret can be found, or a packet does not prove one. -/
inductive SecretFault
  | noSecretConfigured
  | noClientAddress
  | noMatchingSecret (host : String)
  | mismatch
  | missingAuthenticator
  | noPacket
deriving DecidableEq, Repr

def SecretFault.message : SecretFault → String
  | .noSecretConfigured => "no shared secret configured"
  | .noClientAddress => "no client address available for secret lookup"
  | .noMatchingSecret host => "client " ++ host ++ " matches no configured secret"
  | .mismatch => "packet does not match the shared secret"
  | .missingAuthenticator => "packet carries no Message-Authenticator"
  | .noPacket => "no decoded packet to check"

namespace Secrets

/-- The key that stands for every host. -/
def wildcardKey : String := "0.0.0.0"

/-- Secrets by key; no key stands twice. -/
structure Mapping where
  entries : List (String × Octets)
  distinct : (entries.map Prod.fst).Nodup
deriving DecidableEq, Repr

namespace Mapping

def empty : Mapping := ⟨[], List.nodup_nil⟩

def keys (m : Mapping) : List String :=
  m.entries.map Prod.fst

def others (m : Mapping) (key : String) : List (String × Octets) :=
  m.entries.filter fun entry => entry.1 ≠ key

theorem distinct_others_append (m : Mapping) (key : String) (secret : Octets) :
    ((m.others key ++ [(key, secret)]).map Prod.fst).Nodup := by
  have sub : (m.others key).map Prod.fst |>.Sublist (m.entries.map Prod.fst) :=
    List.filter_sublist.map Prod.fst
  have fresh : key ∉ (m.others key).map Prod.fst := by
    simp [others]
  rw [List.map_append, List.nodup_append]
  refine ⟨m.distinct.sublist sub, by simp, ?_⟩
  intro k hk k' hk'
  simp only [List.map_cons, List.map_nil, List.mem_singleton] at hk'
  subst hk'
  rintro rfl
  exact fresh hk

/-- The mapping with a secret for a key, in place of an earlier one. -/
def insert (m : Mapping) (key : String) (secret : Octets) : Mapping where
  entries := m.others key ++ [(key, secret)]
  distinct := m.distinct_others_append key secret

/-- The mapping that a list of entries makes; of two entries with one key the later counts. -/
def ofList (entries : List (String × Octets)) : Mapping :=
  entries.foldl (fun m entry => m.insert entry.1 entry.2) empty

def get? (m : Mapping) (key : String) : Option Octets :=
  (m.entries.find? fun entry => entry.1 == key).map Prod.snd

end Mapping

/-- A table of shared secrets. -/
structure Store where
  default : Option Octets := none
  mapping : Mapping := Mapping.empty
deriving DecidableEq, Repr

namespace Store

/-- One secret for every client. -/
def single (secret : Octets) : Store :=
  { default := some secret }

def isMapped (s : Store) : Bool :=
  !s.mapping.entries.isEmpty

def keys (s : Store) : List String :=
  s.mapping.keys

/-- Whether a host text begins with a key. -/
def applies (host key : String) : Bool :=
  key.toList.isPrefixOf host.toList

/-- The entries whose keys a host text begins with, longest key first. -/
def literalEntries (s : Store) (host : String) : List (String × Octets) :=
  (s.mapping.entries.filter fun entry => entry.1 != wildcardKey && applies host entry.1).mergeSort
    fun a b => b.1.length ≤ a.1.length

/-- Every secret that the mapping has for a host text, most specific first. -/
def candidatesForHost (s : Store) (host : String) : Except SecretFault (List Octets) :=
  match (s.literalEntries host).map Prod.snd ++ (s.mapping.get? wildcardKey).toList with
  | [] => .error (.noMatchingSecret host)
  | candidates => .ok candidates

/-- Every secret a packet from `source` may be proved with, most specific first. -/
def candidates (s : Store) (source : Option Endpoint) : Except SecretFault (List Octets) :=
  if s.isMapped then
    match source with
    | none => .error .noClientAddress
    | some e => s.candidatesForHost e.host.toText
  else
    match s.default with
    | none => .error .noSecretConfigured
    | some secret => .ok [secret]

/-- The most specific secret for a packet from `source`. -/
def resolve (s : Store) (source : Option Endpoint) : Except SecretFault Octets :=
  match s.candidates source with
  | .error e => .error e
  | .ok [] => .error .noSecretConfigured
  | .ok (secret :: _) => .ok secret

end Store

end Secrets

end RadiusSentry
