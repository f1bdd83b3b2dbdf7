import Mathlib.Tactic.Common
import SqlWorkbench.Postgres.Exchange

/-!
# Types whose cells can be read

Which types have a reader is said once for the choice of how a statement is run, and once more by
the reading of cells itself. Main statement: the two agree on every type, so that a statement whose
rows are read from their binary form has no column whose cells are null for want of a reader; and
the types whose data are sent as plain text are those whose cells are read as it.
-/

namespace SqlWorkbench

lemma Bytes.text?_ofText (s : String) : (Bytes.ofText s).text? = some s := by
  rw [text?, ofText, Array.toArray_toList, String.fromUTF8?]
  exact dif_pos s.isValidUTF8

namespace Postgres

variable {t : DataType} {d : Datum}

/-! ### Types -/

/-- A type is known to have a reader exactly if cells of it are read, and if some cell of it is not
null. Texts are bound to it as they are exactly if its values travel as plain text, and then a cell
that holds what a datum is bound as is read as the text of the datum. -/
structure Agrees (t : DataType) : Prop where
  hasReader_iff : t.hasReader = true ↔ (Cell.reader? t).isSome = true
  reads_iff : t.hasReader = true ↔ ∃ bytes, (Cell.read t (some bytes)).isNull = false
  binds_iff : ∀ s, bind (.text s) t = .ok (.text s) ↔ t.isTextual = true
  reads_bound : t.isTextual = true → ∀ d : Datum, d.isNull = false →
    ∃ p, bind d t = .ok p ∧ Cell.read t p.toBytes? = .string d.display

lemma mem_valueTypes (v : ValueType) : v ∈ DataType.valueTypes := by
  rcases v with _ | (_ | _ | _) | _ <;> decide

/-- The types that are not the server's own with values of other forms are read as texts or not at
all. -/
lemma reader?_eq (h : ∀ v, t ≠ .value v) :
    Cell.reader? t = if t.isTextual then some Cell.text? else none := by
  cases t with
  | value v => exact absurd rfl (h v)
  | text | enumeration | domain | array | other => rfl

/-- These types also take texts or nothing at all. -/
lemma converter?_eq (h : ∀ v, t ≠ .value v) :
    converter? t = if t.isTextual then some fun d => some (.text d.display) else none := by
  cases t with
  | value v => exact absurd rfl (h v)
  | text | enumeration | domain | array | other => rfl

lemma ne_value_of_isTextual (h : t.isTextual = true) (v : ValueType) : t ≠ .value v := by
  rintro rfl
  cases h

lemma hasReader_eq (t : DataType) : t.hasReader = (Cell.reader? t).isSome := by
  by_cases hvalue : ∃ v, t = .value v
  · obtain ⟨v, rfl⟩ := hvalue
    have hmem : DataType.valueTypes.contains v = true :=
      List.contains_iff_mem.mpr (mem_valueTypes v)
    rw [DataType.hasReader, hmem, Bool.or_true]
    cases v <;> rfl
  · simp only [not_exists] at hvalue
    have hreader : t.hasReader = t.isTextual := by
      cases t with
      | value v => exact absurd rfl (hvalue v)
      | text | enumeration | domain | array | other => exact Bool.or_false _
    rw [hreader, reader?_eq hvalue]
    split <;> simp_all

/-! ### Cells -/

/-- A cell that is not null. -/
def sampleCell : ValueType → Bytes
  | .bool => [0]
  | .int w => Bytes.ofInt w.bytes 0
  | .oid | .float4 | .date => Bytes.ofNat 4 0
  | .float8 | .time | .timestamp | .timestamptz | .numeric => Bytes.ofNat 8 0
  | .uuid => Bytes.ofNat 16 0
  | .json => Bytes.ofText "0"
  | .jsonb => 1 :: Bytes.ofText "0"
  | .bytea => []
  | .textArray | .varcharArray | .int4Array | .int8Array => Bytes.ofNat 12 0

lemma json?_ofText_zero : Cell.json? (Bytes.ofText "0") = some (.int 0) := by
  rw [Cell.json?, Bytes.text?_ofText]
  rfl

lemma isNull_read_sampleCell (v : ValueType) :
    (Cell.read (.value v) (some (sampleCell v))).isNull = false := by
  cases v with
  | json => simp [Cell.read, Cell.reader?, sampleCell, json?_ofText_zero, Json.isNull]
  | jsonb => simp [Cell.read, Cell.reader?, sampleCell, Cell.jsonb?, json?_ofText_zero, Json.isNull]
  | int w => cases w <;> rfl
  | _ => rfl

lemma read_ofText (h : t.isTextual = true) (s : String) :
    Cell.read t (some (Bytes.ofText s)) = .string s := by
  simp [Cell.read, reader?_eq (ne_value_of_isTextual h), h, Cell.text?, Bytes.text?_ofText]

lemma exists_read (h : t.hasReader = true) :
    ∃ bytes, (Cell.read t (some bytes)).isNull = false := by
  by_cases hvalue : ∃ v, t = .value v
  · obtain ⟨v, rfl⟩ := hvalue
    exact ⟨sampleCell v, isNull_read_sampleCell v⟩
  · simp only [not_exists] at hvalue
    rw [hasReader_eq, reader?_eq hvalue] at h
    have htextual : t.isTextual = true := by
      by_contra hnot
      simp [hnot] at h
    exact ⟨Bytes.ofText "", by rw [read_ofText htextual]; rfl⟩

lemma read_eq_null (h : t.hasReader = false) (cell : Option Bytes) : Cell.read t cell = .null := by
  rw [hasReader_eq, Option.isSome_eq_false_iff, Option.isNone_iff_eq_none] at h
  cases cell with
  | none => rfl
  | some bytes => simp [Cell.read, h]

/-! ### Data -/

lemma bind_eq_ok_iff {p : Parameter} : bind d t = .ok p ↔ ∃ convert, converter? t = some convert ∧
    (d.isNull = true ∧ p = .null ∨ d.isNull = false ∧ convert d = some p) := by
  rw [bind]
  cases converter? t with
  | none => simp
  | some convert =>
    cases hnull : d.isNull with
    | true => simp [eq_comm]
    | false => cases hp : convert d <;> simp [hp]

lemma bind_of_isTextual (h : t.isTextual = true) (hnull : d.isNull = false) :
    bind d t = .ok (.text d.display) := by
  refine bind_eq_ok_iff.mpr ⟨fun d => some (.text d.display), ?_, .inr ⟨hnull, rfl⟩⟩
  rw [converter?_eq (ne_value_of_isTextual h), if_pos h]

/-- Only plain text is bound as a text. -/
lemma isTextual_of_bind {s : String} (h : bind d t = .ok (.text s)) : t.isTextual = true := by
  obtain ⟨convert, hconvert, ⟨-, hp⟩ | ⟨-, hp⟩⟩ := bind_eq_ok_iff.mp h
  · cases hp
  by_contra hnot
  by_cases hvalue : ∃ v, t = .value v
  · obtain ⟨v, rfl⟩ := hvalue
    cases v <;> cases hconvert <;> simp at hp
  · simp only [not_exists] at hvalue
    rw [converter?_eq hvalue, if_neg hnot] at hconvert
    cases hconvert

lemma agrees (t : DataType) : Agrees t where
  hasReader_iff := by rw [hasReader_eq]
  reads_iff := by
    refine ⟨exists_read, fun ⟨bytes, hbytes⟩ => ?_⟩
    by_contra hnot
    rw [read_eq_null (by simpa using hnot)] at hbytes
    cases hbytes
  binds_iff _ := ⟨isTextual_of_bind, fun h => bind_of_isTextual h rfl⟩
  reads_bound h d hnull := ⟨_, bind_of_isTextual h hnull, read_ofText h d.display⟩

/-! ### Statements -/

namespace Exchange

variable {α β : Type} {server : Server} {number : Nat} {sql : String} {data : List Datum}
  {rows : List Row} {before after : List Message}

/-- What comes of an exchange, and all messages up to its end. -/
def outcome (x : Exchange α) (before : List Message) : Except TransportError α × List Message :=
  x before

/-- The exchange succeeds, and the messages are those after it if they were those before it. -/
def Gives (x : Exchange α) (before : List Message) (a : α) (after : List Message) : Prop :=
  x.outcome before = (.ok a, after)

lemma outcome_bind (x : Exchange α) (f : α → Exchange β) (before : List Message) :
    (x >>= f).outcome before = match x.outcome before with
      | (.ok a, middle) => (f a).outcome middle
      | (.error e, middle) => (.error e, middle) := by
  rw [outcome]
  change (ExceptT.bindCont f (x.outcome before).1) (x.outcome before).2 = _
  rcases x.outcome before with ⟨_ | _, middle⟩ <;> rfl

lemma gives_bind_iff {x : Exchange α} {f : α → Exchange β} {b : β} :
    (x >>= f).Gives before b after ↔
      ∃ a middle, x.Gives before a middle ∧ (f a).Gives middle b after := by
  simp only [Gives, outcome_bind]
  rcases x.outcome before with ⟨e | a, middle⟩
  · simp
  · simp only [Prod.mk.injEq, Except.ok.injEq]
    constructor
    · exact fun h => ⟨a, middle, ⟨rfl, rfl⟩, h⟩
    · rintro ⟨_, _, ⟨rfl, rfl⟩, h⟩
      exact h

lemma gives_pure_iff {a b : α} :
    (pure a : Exchange α).Gives before b after ↔ a = b ∧ before = after := by
  have hpure : (pure a : Exchange α).outcome before = (.ok a, before) := rfl
  rw [Gives, hpure, Prod.mk.injEq, Except.ok.injEq]

lemma not_gives_throw {e : TransportError} {a : α} :
    ¬ (throw e : Exchange α).Gives before a after := by
  have hthrow : (throw e : Exchange α).outcome before = (.error e, before) := rfl
  simp [Gives, hthrow]

lemma gives_send_iff {m : Message} {u : Unit} :
    (send m).Gives before u after ↔ after = before ++ [m] := by
  have hsend : (send m).outcome before = (.ok (), before ++ [m]) := rfl
  simp [Gives, hsend, eq_comm]

lemma gives_sendText {m : Message} {u : Unit} (h : (sendText sql m).Gives before u after) :
    after = before ++ [m] := by
  rw [sendText] at h
  split at h
  · exact absurd h not_gives_throw
  · exact gives_send_iff.mp h

lemma gives_answer_iff {r : Except Refusal α} {a : α} :
    (answer r).Gives before a after ↔ r = .ok a ∧ before = after := by
  cases r with
  | ok b => rw [answer, gives_pure_iff, Except.ok.injEq]
  | error e => simp [answer, not_gives_throw]

lemma gives_query (h : (query server sql).Gives before rows after) :
    after = before ++ [.query sql] := by
  obtain ⟨_, middle, hsend, h⟩ := gives_bind_iff.mp h
  obtain ⟨_, _, hanswer, h⟩ := gives_bind_iff.mp h
  obtain rfl := gives_sendText hsend
  obtain ⟨-, rfl⟩ := gives_answer_iff.mp hanswer
  exact (gives_pure_iff.mp h).2.symm

lemma gives_prepare {statement : Statement}
    (h : (prepare server number sql).Gives before statement after) :
    server.prepare number sql = .ok statement ∧ after = before ++ [.parse sql] := by
  obtain ⟨_, middle, hsend, h⟩ := gives_bind_iff.mp h
  obtain rfl := gives_sendText hsend
  obtain ⟨hanswer, rfl⟩ := gives_answer_iff.mp h
  exact ⟨hanswer, rfl⟩

lemma gives_execute {statement : Statement} {cells : List (List (Option Bytes))}
    (h : (execute server number statement data).Gives before cells after) :
    ∃ bytes, server.execute number bytes = .ok cells ∧ after = before ++ [.bind bytes] := by
  obtain ⟨parameters, middle, hbind, hrun⟩ := gives_bind_iff.mp h
  obtain rfl : before = middle := (Prod.ext_iff.mp hbind).2
  dsimp only at hrun
  split at hrun
  · obtain ⟨_, _, hthrow, -⟩ := gives_bind_iff.mp hrun
    exact absurd hthrow not_gives_throw
  · obtain ⟨_, middle, hsend, hrun⟩ := gives_bind_iff.mp hrun
    obtain rfl := gives_send_iff.mp hsend
    obtain ⟨hanswer, rfl⟩ := gives_answer_iff.mp hrun
    exact ⟨_, hanswer, rfl⟩

/-- The ways to the rows of a text, with the messages of each: the rows of the text as it is, those
of its statement in binary form, the text as it is once its columns are known, and the rows of the
statement as structured data. -/
inductive Route (server : Server) (sql : String) (data : List Datum) :
    List Row → List Message → Prop
  | text (rows : List Row) (hseveral : data.isEmpty && hasSeveralStatements sql) :
    Route server sql data rows [.query sql]
  | binary (statement : Statement) (bytes : List (Option Bytes))
      (cells : List (List (Option Bytes)))
      (hone : ¬ (data.isEmpty && hasSeveralStatements sql))
      (hprepare : server.prepare 0 sql = .ok statement)
      (hreaders : ∀ c ∈ statement.columns, c.2.hasReader = true)
      (hexecute : server.execute 0 bytes = .ok cells) :
    Route server sql data (cells.map (binaryRow statement.columns)) [.parse sql, .bind bytes]
  | unread (rows : List Row) (statement : Statement)
      (hprepare : server.prepare 0 sql = .ok statement)
      (hreaders : ¬ ∀ c ∈ statement.columns, c.2.hasReader = true) :
    Route server sql data rows [.parse sql, .query sql]
  | structured (rows : List Row) (statement : Statement) (bytes : List (Option Bytes))
      (hprepare : server.prepare 0 sql = .ok statement)
      (hreaders : ¬ ∀ c ∈ statement.columns, c.2.hasReader = true) :
    Route server sql data rows [.parse sql, .parse (wrapped sql), .bind bytes]

lemma route_of_gives (h : (runText server sql data).Gives [] rows after) :
    Route server sql data rows after := by
  rw [runText] at h
  split at h
  · next hseveral =>
    rw [gives_query h]
    exact .text rows hseveral
  · next hone =>
    obtain ⟨statement, middle, hrun, h⟩ := gives_bind_iff.mp h
    obtain ⟨hprepare, rfl⟩ := gives_prepare hrun
    split at h
    · next hreaders =>
      obtain ⟨cells, middle, hrun, h⟩ := gives_bind_iff.mp h
      obtain ⟨bytes, hexecute, rfl⟩ := gives_execute hrun
      obtain ⟨rfl, rfl⟩ := gives_pure_iff.mp h
      exact .binary statement bytes cells hone hprepare (List.all_eq_true.mp hreaders) hexecute
    · next hreaders =>
      rw [List.all_eq_true] at hreaders
      split at h
      · rw [gives_query h]
        exact .unread rows statement hprepare hreaders
      · obtain ⟨other, middle, hother, h⟩ := gives_bind_iff.mp h
        obtain ⟨-, rfl⟩ := gives_prepare hother
        obtain ⟨cells, middle, hrun, h⟩ := gives_bind_iff.mp h
        obtain ⟨bytes, -, rfl⟩ := gives_execute hrun
        obtain ⟨-, rfl⟩ := gives_pure_iff.mp h
        exact .structured rows statement bytes hprepare hreaders

/-- The statement of a text is run with nothing else, and its rows are read from their binary
form. -/
def ReadsBinary (server : Server) (sql : String) (rows : List Row) (sent : List Message) : Prop :=
  ∃ statement bytes cells, server.prepare 0 sql = .ok statement ∧
    server.execute 0 bytes = .ok cells ∧ sent = [.parse sql, .bind bytes] ∧
    rows = cells.map (binaryRow statement.columns)

/-- The text is a single statement, or has data, and all columns of its statement are of types whose
cells are read. -/
def AllRead (server : Server) (sql : String) (data : List Datum) : Prop :=
  ¬ (data.isEmpty && hasSeveralStatements sql) ∧
    ∃ statement, server.prepare 0 sql = .ok statement ∧
      ∀ c ∈ statement.columns, (Cell.reader? c.2).isSome = true

lemma Route.readsBinary_iff (h : Route server sql data rows after) :
    ReadsBinary server sql rows after ↔ AllRead server sql data := by
  have hreader : ∀ statement : Statement,
      (∀ c ∈ statement.columns, (Cell.reader? c.2).isSome = true) ↔
        ∀ c ∈ statement.columns, c.2.hasReader = true := by
    intro statement
    simp only [hasReader_eq]
  have hother : ∀ statement other : Statement, server.prepare 0 sql = .ok statement →
      server.prepare 0 sql = .ok other → statement = other := by
    intro statement other hstatement hother
    exact Except.ok.inj (hstatement.symm.trans hother)
  cases h with
  | text rows hseveral =>
    constructor
    · rintro ⟨_, _, _, -, -, hsent, -⟩
      simp at hsent
    · exact fun h => absurd hseveral h.1
  | binary statement bytes cells hone hprepare hreaders hexecute =>
    constructor
    · exact fun _ => ⟨hone, statement, hprepare, (hreader statement).mpr hreaders⟩
    · exact fun _ => ⟨statement, bytes, cells, hprepare, hexecute, rfl, rfl⟩
  | unread rows statement hprepare hreaders | structured rows statement bytes hprepare hreaders =>
    constructor
    · rintro ⟨_, _, _, -, -, hsent, -⟩
      simp at hsent
    · rintro ⟨-, other, hprepare', hall⟩
      obtain rfl := hother _ _ hprepare hprepare'
      exact absurd ((hreader _).mp hall) hreaders

/-- What is known of the readers agrees with what is read, for every type, and data that travel as
plain text are read back as it. Rows that a text gives are read from their binary form exactly if
the cells of all columns are of types that are read. -/
theorem agrees_and_readsBinary_iff :
    (∀ t : DataType, Agrees t) ∧
    ∀ (server : Server) (sql : String) (data : List Datum) (rows : List Row) (sent : List Message),
      (runText server sql data).Gives [] rows sent →
        (ReadsBinary server sql rows sent ↔ AllRead server sql data) :=
  ⟨agrees, fun _ _ _ _ _ h => (route_of_gives h).readsBinary_iff⟩

/-- A server with one person, whose address is of a domain over another one. -/
def directory : Server where
  prepare _ _ := .ok
    { parameters := [.value (.int .four)]
      columns := [("id", .value (.int .four)),
        ("mail", .domain "mail" (.domain "address" (.text .text)))] }
  execute _ _ := .ok [[some [0, 0, 0, 7], some (Bytes.ofText "a@b")]]
  query _ := .ok []

theorem readsBinary_directory :
    (runText directory "SELECT id, mail FROM people WHERE id = $1" [.int 7]).Gives []
        [[("id", .int 7), ("mail", .string "a@b")]]
        [.parse "SELECT id, mail FROM people WHERE id = $1", .bind [some [0, 0, 0, 7]]] ∧
      AllRead directory "SELECT id, mail FROM people WHERE id = $1" [.int 7] := by
  have hmail : Cell.read (.domain "mail" (.domain "address" (.text .text)))
      (some (Bytes.ofText "a@b")) = .string "a@b" := read_ofText rfl "a@b"
  have hgives : (runText directory "SELECT id, mail FROM people WHERE id = $1" [.int 7]).Gives []
      [[("id", .int 7), ("mail", .string "a@b")]]
      [.parse "SELECT id, mail FROM people WHERE id = $1", .bind [some [0, 0, 0, 7]]] := by
    rw [← hmail]
    rfl
  refine ⟨hgives, (agrees_and_readsBinary_iff.2 _ _ _ _ _ hgives).mp ?_⟩
  refine ⟨_, _, _, rfl, rfl, rfl, ?_⟩
  rw [← hmail]
  rfl

end Exchange

end Postgres

end SqlWorkbench
