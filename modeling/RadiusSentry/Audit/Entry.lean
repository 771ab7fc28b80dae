import RadiusSentry.Audit.Calendar
import RadiusSentry.Audit.Fields
import RadiusSentry.Json.Printer
import RadiusSentry.Json.Reader

/-!
# Audit entries

What a module reports, and the same with the time it was reported. An entry is
written as one line of JSON; its fields are left out when there are none.
-/

set_option autoImplicit false

namespace RadiusSentry.Audit

/-- What a module reports. -/
structure Record where
  plugin : String
  event : String
  fields : Fields := .empty
deriving DecidableEq

/-- A report with its time. -/
structure Entry where
  timestamp : Int64
  timestampText : String
  plugin : String
  event : String
  fields : Fields := .empty
deriving DecidableEq

namespace Record

def withField (r : Record) (key value : String) : Record :=
  { r with fields := r.fields.put key value }

/-- The entry of a report made at a given time. -/
def stamped (r : Record) (m : Moment) : Entry where
  timestamp := Int64.ofInt m.seconds
  timestampText := m.toText
  plugin := r.plugin
  event := r.event
  fields := r.fields

end Record

namespace Entry

/-- The day in the name of the file an entry goes to. -/
def day (e : Entry) : String :=
  match Moment.ofSeconds? e.timestamp.toInt 0 with
  | some m => String.ofList m.date.toChars
  | none => "unknown"

def memberNames : List String :=
  ["timestamp", "timestamp_iso", "plugin", "event", "fields"]

def toJson (e : Entry) : Json :=
  let fields :=
    if e.fields.isEmpty then []
    else [("fields", Json.ofMembers (e.fields.entries.map fun (k, v) => (k, .ofText v)))]
  .ofMembers ([
    ("timestamp", .ofInt e.timestamp.toInt),
    ("timestamp_iso", .ofText e.timestampText),
    ("plugin", .ofText e.plugin),
    ("event", .ofText e.event)] ++ fields)

def fieldsOfJson? (j : Json) : Option Fields := do
  let members ← j.members?
  let pairs ← members.mapM fun (key, value) => value.text?.map fun text => (key, text)
  some (Fields.ofList pairs)

def ofJson? (j : Json) : Option Entry := do
  let record ← j.record? memberNames
  let timestamp ← Json.field? Json.int64? "timestamp" record
  let timestampText ← Json.field? Json.text? "timestamp_iso" record
  let plugin ← Json.field? Json.text? "plugin" record
  let event ← Json.field? Json.text? "event" record
  let fields ← Json.fieldOr .empty fieldsOfJson? "fields" record
  some { timestamp, timestampText, plugin, event, fields }

def toText (e : Entry) : String :=
  e.toJson.compact

def ofText? (text : String) : Option Entry :=
  (Json.parse? text).bind ofJson?

end Entry

end RadiusSentry.Audit
