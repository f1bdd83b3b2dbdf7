import SqlWorkbench.Postgres.Cell
import SqlWorkbench.Postgres.Certificate
import SqlWorkbench.Postgres.Conninfo
import SqlWorkbench.Script.Group
import SqlWorkbench.Session.Dispatch

/-!
# Talking to a server

A statement is run over a connection of its own. It is prepared, its data are bound to the types
that the server expects, and its rows are read from their binary form. A text of several statements
cannot be prepared and is sent as it is, which gives rows of texts; so is a statement without data
whose rows cannot be read. With data, such a statement is wrapped so that each row arrives as
structured data.
-/

namespace SqlWorkbench.Postgres

/-! ### The server -/

/-- What is sent to a server. -/
inductive Message where
  /-- The wish for an encrypted connection. -/
  | tlsRequest
  | parse (sql : String)
  | bind (parameters : List (Option Bytes))
  | query (sql : String)

/-- Why a server does not do what it is asked. -/
inductive Refusal where
  | reported (code message : String)
  | closed

/-- How a server takes a new connection. -/
inductive Greeting where
  | ready
  | refused (reason : Refusal)
  /-- It never answers. -/
  | silent

/-- A prepared statement. -/
structure Statement where
  parameters : List DataType := []
  columns : List (String × DataType) := []

/-- What a server answers. Statements are numbered in the order in which they are prepared. -/
structure Server where
  acceptsTls : Bool := false
  greeting : Greeting := .ready
  prepare : Nat → String → Except Refusal Statement
  execute : Nat → List (Option Bytes) → Except Refusal (List (List (Option Bytes)))
  query : String → Except Refusal (List (List (String × Option String)))

/-- The failure that a refusal is reported as. -/
def Refusal.toError : Refusal → TransportError
  | reported code message => .ofCode code message
  | closed => .ofConnection "connection closed"

/-! ### Settings of the client -/

/-- A file of certificates: its path, and its text or why it cannot be read. -/
structure CertificateFile where
  path : String
  content : Except String String

/-- How the client connects. -/
structure Client where
  timeoutMillis : Nat := 15000
  /-- Certificates of the server are not checked. -/
  acceptsInvalidCertificates : Bool := false
  /-- Certificates that are trusted besides those of the system. -/
  certificates : Option CertificateFile := none

/-- What happens while a statement is run: the messages sent so far, and an outcome. -/
abbrev Exchange (α : Type) := ExceptT TransportError (StateM (List Message)) α

namespace Exchange

/-- Send a message. -/
def send (m : Message) : Exchange Unit :=
  modify (· ++ [m])

/-- Send a message with a text, which must not contain a zero character. -/
def sendText (sql : String) (m : Message) : Exchange Unit :=
  if sql.toList.contains '\x00' then throw (.ofConnection "error encoding message to server")
  else send m

/-- What a server answers. -/
def answer {α : Type} (a : Except Refusal α) : Exchange α :=
  match a with
  | .ok a => pure a
  | .error r => throw r.toError

/-! ### Connecting -/

/-- The certificates that the client is to trust are read and checked. -/
def checkCertificates (client : Client) : Exchange Unit :=
  match client.certificates with
  | some file =>
    if client.acceptsInvalidCertificates then pure ()
    else
      match file.content with
      | .error reason => throw (.ofConnection
          ("failed to read CA certificate " ++ file.path ++ ": " ++ reason))
      | .ok text =>
        if Certificate.areValid text.toList then pure ()
        else throw (.ofConnection "invalid CA certificate: <openssl>")
  | none => pure ()

/-- Agree with a server on encryption. -/
def negotiate (server : Server) (mode : SslMode) : Exchange Unit :=
  match mode with
  | .disable => pure ()
  | .prefer => send .tlsRequest
  | .require => do
    send .tlsRequest
    if server.acceptsTls then pure ()
    else throw (.ofConnection "error performing TLS handshake")

/-- Connect to the server that a connection string leads to. -/
def connect (client : Client) (reach : Conninfo → Option Server) (connectionString : String) :
    Exchange Server := do
  match Conninfo.read? connectionString with
  | none => throw (.ofConnection "invalid connection string: invalid connection string")
  | some info =>
    if info.sslMode != .disable then checkCertificates client
    if !info.isComplete then throw (.ofConnection "invalid configuration")
    match reach info with
    | none => throw (.ofConnection "error connecting to server")
    | some server =>
      negotiate server info.sslMode
      match server.greeting with
      | .ready => pure server
      | .refused r => throw r.toError
      | .silent => throw (.ofConnection
          ("connection timed out after " ++ toString (client.timeoutMillis / 1000) ++ "s"))

/-! ### Running statements -/

/-- The text holds more than one statement. -/
def hasSeveralStatements (sql : String) : Bool :=
  1 < (Script.statements sql).length

/-- A row of texts. -/
def textRow (cells : List (String × Option String)) : Row :=
  cells.foldl (fun row c => Keyed.put row c.1 (Json.ofString? c.2)) []

/-- A row of cells in binary form. -/
def binaryRow (columns : List (String × DataType)) (cells : List (Option Bytes)) : Row :=
  (columns.zip cells).foldl (fun row c => Keyed.put row c.1.1 (Cell.read c.1.2 c.2)) []

/-- A row that arrives as structured data in its first cell. -/
def jsonRow (cells : List (Option Bytes)) : Row :=
  match cells with
  | some bytes :: _ => ((Cell.json? bytes).bind Json.object?).getD []
  | _ => []

/-- A statement without blanks around it and without semicolons at its end. -/
def statementBody (sql : String) : String :=
  let trimmed := Text.trim sql.toList
  String.ofList (trimmed.reverse.dropWhile fun c => c == ';' || Text.isBlank c).reverse

/-- A statement wrapped so that each row is one cell of structured data. -/
def wrapped (sql : String) : String :=
  "WITH polysql_rows AS (\n" ++ statementBody sql ++
    "\n) SELECT row_to_json(polysql_rows) AS row FROM polysql_rows"

/-- Send a text as it is. -/
def query (server : Server) (sql : String) : Exchange (List Row) := do
  sendText sql (.query sql)
  return (← answer (server.query sql)).map textRow

/-- Prepare a statement. -/
def prepare (server : Server) (number : Nat) (sql : String) : Exchange Statement := do
  sendText sql (.parse sql)
  answer (server.prepare number sql)

/-- Run a prepared statement. -/
def execute (server : Server) (number : Nat) (statement : Statement) (data : List Datum) :
    Exchange (List (List (Option Bytes))) := do
  let parameters ← ExceptT.mk (pure (bindAll statement.parameters data))
  if parameters.length < statement.parameters.length then
    throw { message := "expected " ++ toString statement.parameters.length ++
              " parameters but got " ++ toString parameters.length }
  let bytes := parameters.map Parameter.toBytes?
  send (.bind bytes)
  answer (server.execute number bytes)

/-- Run a text over a connection. -/
def runText (server : Server) (sql : String) (data : List Datum) : Exchange (List Row) := do
  if data.isEmpty && hasSeveralStatements sql then query server sql
  else
    let statement ← prepare server 0 sql
    if statement.columns.all fun c => c.2.hasReader then
      return (← execute server 0 statement data).map (binaryRow statement.columns)
    else if data.isEmpty then query server sql
    else
      let statement ← prepare server 1 (wrapped sql)
      return (← execute server 1 statement data).map jsonRow

/-- Connect and run a text. -/
def run (client : Client) (reach : Conninfo → Option Server) (dialect : Dialect)
    (connectionString sql : String) (data : List Datum) : Exchange (List Row) := do
  if dialect != .postgres then
    throw (.ofConnection ("the postgres transport cannot reach " ++ dialect.name ++
      " connections"))
  let server ← connect client reach connectionString
  runText server sql data

end Exchange

/-- The transport of sessions to servers that connection strings lead to. -/
def transport (client : Client) (reach : Conninfo → Option Server) : Transport := fun _ call =>
  let exchange := Exchange.run client reach call.dialect call.connectionString call.sql
    call.parameters
  { outcome := (exchange []).1.map fun rows => { rows } }

end SqlWorkbench.Postgres
