import RadiusSentry.Audit.Entry
import RadiusSentry.Storage.FileTree

/-!
# Dated logs

Entries go to the end of a file whose name holds the day of the entry, one line
each. The directory is created when it is missing.
-/

set_option autoImplicit false

namespace RadiusSentry.Audit

/-- A log of one file a day. -/
structure Log where
  dir : Path
  name : String
  instanceName : String
deriving DecidableEq, Repr

namespace Log

/-- The file of a day. -/
def pathFor (l : Log) (day : String) : Path :=
  Path.join l.dir (l.name ++ "." ++ l.instanceName ++ "." ++ day)

def lineOctets (e : Entry) : Octets :=
  Octets.ofText (e.toText ++ "\n")

def append (l : Log) (e : Entry) (t : FileTree) : Except SystemError FileTree := do
  let withDir ← t.createDirectories l.dir
  withDir.append (l.pathFor e.day) (lineOctets e)

end Log

/-- A report on its way to a log. -/
structure Write where
  log : Log
  record : Record
deriving DecidableEq

/-- Adds a report to its log at a given time. -/
def Write.perform (w : Write) (now : Moment) (t : FileTree) : Except SystemError FileTree :=
  w.log.append (w.record.stamped now) t

end RadiusSentry.Audit
