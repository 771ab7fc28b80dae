import RadiusSentry.Registry

/-!
# What plugins share

The files they read and write, and the decisions each allow list remembers. An
allow list is told apart from others by its place among the plugins.
-/

set_option autoImplicit false

namespace RadiusSentry.Plugin

/-- Remembered decisions by key. -/
abbrev Cache := List (String × Bool)

/-- The state that plugins share. -/
structure World where
  files : FileTree
  caches : List Cache := []

namespace World

def cache (w : World) (place : Nat) : Cache :=
  w.caches.getD place []

def withCache (w : World) (place : Nat) (cache : Cache) : World :=
  { w with caches := w.caches.set place cache }

end World

end RadiusSentry.Plugin
