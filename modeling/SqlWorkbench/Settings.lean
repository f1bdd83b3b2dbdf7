import SqlWorkbench.Session.Connection
import SqlWorkbench.Session.Journal
import SqlWorkbench.Toml.Reader

/-!
# Settings

What a user sets once: the usual dialect, limits, and the saved connections. Settings are kept in
a document in which every part may be left out, and unknown parts are passed over.
-/

namespace SqlWorkbench

/-- The settings of a user. -/
structure Settings where
  defaultDialect : Dialect := .postgres
  /-- Rows of a table that are shown at once. -/
  pageLimit : Nat := 100
  /-- How many entries of the journal a connection keeps; all of them if zero. -/
  logCapacity : Nat := Journal.defaultCapacity
  /-- Which messages about the program's own work are shown. -/
  logFilter : Option String := none
  connections : List Connection := []
deriving DecidableEq

/-- What is found at a path. -/
inductive Found where
  | nothing
  | unreadable
  | text (content : String)

/-- Why settings cannot be loaded or saved. -/
inductive SettingsError where
  /-- What is at the path cannot be read. -/
  | unreadable (path : String)
  /-- The document at the path holds no settings. -/
  | malformed (path : String)
  /-- A number has no place in a document. -/
  | unwritable
deriving DecidableEq

/-- The wording of a failure. -/
def SettingsError.message : SettingsError → String
  | unreadable path => "Failed to read config file: " ++ path
  | malformed path => "Failed to parse config file: " ++ path
  | unwritable => "Failed to serialize config"

/-- A saved connection in a document; only the name may be left out. -/
def Connection.ofToml? (t : Toml) : Option Connection := do
  let slots ← t.slots? ["id", "name", "dialect", "connection_string"]
  let id ← Toml.fieldAt? slots 0 Toml.string?
  let name ← Toml.fieldOr? slots 1 "" Toml.string?
  let dialect ← Toml.fieldAt? slots 2 (Toml.choice? Dialect.ofName?)
  let connectionString ← Toml.fieldAt? slots 3 Toml.string?
  some { id, name, dialect, connectionString }

namespace Settings

/-- Where the settings are kept, below the directory that the user has for settings. -/
def defaultPath : String :=
  "polysql/config.toml"

/-! ### Saved connections -/

/-- The texts differ at most in the case of letters from A to Z. -/
def isSameName (s t : String) : Bool :=
  s.toList.map Char.toLower == t.toList.map Char.toLower

/-- The saved connection that a key means: the one with that identifier, or else the first with
that name. -/
def connection? (s : Settings) (key : String) : Option Connection :=
  (s.connections.find? fun c => c.id == key).or
    (s.connections.find? fun c => isSameName c.name key)

/-- An empty journal. -/
def journal (s : Settings) : Journal :=
  .empty (if s.logCapacity = 0 then none else some s.logCapacity)

/-! ### Loading -/

/-- The settings in a document. -/
def ofToml? (members : Toml.Members) : Option Settings := do
  let slots := ["default_dialect", "page_limit", "log_capacity", "log_filter", "connections"].map
    (Keyed.find? members)
  let defaults : Settings := {}
  let defaultDialect ← Toml.fieldOr? slots 0 defaults.defaultDialect (Toml.choice? Dialect.ofName?)
  let pageLimit ← Toml.fieldOr? slots 1 defaults.pageLimit Toml.natural?
  let logCapacity ← Toml.fieldOr? slots 2 defaults.logCapacity Toml.natural?
  let logFilter ← Toml.fieldOr? slots 3 none fun t => t.string?.map some
  let connections ← Toml.fieldOr? slots 4 [] fun t => t.array?.bind (·.mapM Connection.ofToml?)
  some { defaultDialect, pageLimit, logCapacity, logFilter, connections }

/-- The settings in the document at a path; without a document they are the defaults. -/
def load (path : String) (found : Found) : Except SettingsError Settings :=
  match found with
  | .nothing => .ok {}
  | .unreadable => .error (.unreadable path)
  | .text content =>
    match (Toml.read? content).bind ofToml? with
    | some s => .ok s
    | none => .error (.malformed path)

/-! ### Saving -/

/-- A name with a text behind it. -/
private def textLine (name value : String) : String :=
  name ++ " = " ++ String.ofList (Toml.quotedText value.toList) ++ "\n"

/-- A name with a number behind it. -/
private def numberLine (name : String) (value : Nat) : String :=
  name ++ " = " ++ toString value ++ "\n"

/-- A saved connection under a header of its own. -/
def connectionSection (c : Connection) : String :=
  "\n[[connections]]\n" ++ textLine "id" c.id ++ textLine "name" c.name ++
    textLine "dialect" c.dialect.name ++ textLine "connection_string" c.connectionString

/-- The settings as a document, which holds integers of 64 bits with a sign. -/
def save (s : Settings) : Except SettingsError String :=
  if s.pageLimit < 2 ^ 63 ∧ s.logCapacity < 2 ^ 63 then
    .ok (textLine "default_dialect" s.defaultDialect.name ++ numberLine "page_limit" s.pageLimit ++
      numberLine "log_capacity" s.logCapacity ++
      (s.logFilter.map (textLine "log_filter")).getD "" ++
      if s.connections.isEmpty then "connections = []\n"
      else String.join (s.connections.map connectionSection))
  else .error .unwritable

/-! ### Structured data -/

/-- Settings from structured data. -/
def ofJson? (j : Json) : Option Settings := do
  let slots ← Json.slots? (["default_dialect", "page_limit", "log_capacity", "log_filter",
    "connections"].map fun name => ⟨name, .default⟩) j
  let defaults : Settings := {}
  let defaultDialect ← Json.fieldAt? slots 0 defaults.defaultDialect Dialect.ofJson?
  let pageLimit ← Json.fieldAt? slots 1 defaults.pageLimit natural64?
  let logCapacity ← Json.fieldAt? slots 2 defaults.logCapacity natural64?
  let logFilter ← Json.fieldAt? slots 3 none (Json.optional? Json.string?)
  let connections ← Json.fieldAt? slots 4 [] (Json.list? Connection.ofJson?)
  some { defaultDialect, pageLimit, logCapacity, logFilter, connections }

/-- Settings as structured data. -/
def toJson (s : Settings) : Json :=
  .object [("default_dialect", .string s.defaultDialect.name), ("page_limit", .int s.pageLimit),
    ("log_capacity", .int s.logCapacity), ("log_filter", Json.ofString? s.logFilter),
    ("connections", .array (s.connections.map Connection.toJson))]

end Settings

end SqlWorkbench
