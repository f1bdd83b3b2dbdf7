import Mathlib.Logic.Relation
import SqlWorkbench.Proofs.Session.KeptDrivers
import SqlWorkbench.Session.Operation

/-!
# Operations of a session

An operation asks for the driver of its connection, puts its query into words and sends it. In a
session whose drivers come from calls for drivers, these words are those of the dialect of the
connection. Main statement: however much is done in a session, its drivers come from calls for
drivers.
-/

namespace SqlWorkbench

/-- A query as the transport receives it over a connection, word for word. -/
def Connection.call (c : Connection) (q : Query) : Call where
  dialect := c.dialect
  connectionString := c.connectionString
  sql := q.sql
  parameters := q.parameters

namespace Session

variable {α β : Type} {t : Transport} {c : Connection} {s s' : Session}

/-! ### Operations one after the other -/

lemma bind_of_ok {op : Operation α} {f : α → Operation β} {a : α} (h : op s = (.ok a, s')) :
    (op >>= f) s = f a s' := by
  show ExceptT.bindCont f (op s).1 (op s).2 = f a s'
  rw [h]
  rfl

lemma bind_of_error {op : Operation α} {f : α → Operation β} {e : SessionError}
    (h : op s = (.error e, s')) : (op >>= f) s = (.error e, s') := by
  show ExceptT.bindCont f (op s).1 (op s).2 = (.error e, s')
  rw [h]
  rfl

/-- An operation whose failure is taken for no answer. -/
lemma tryCatch_none (op : Operation α) (s : Session) :
    (tryCatch (some <$> op) fun _ => pure none : Operation (Option α)) s
      = (.ok (op s).1.toOption, (op s).2) := by
  simp only [tryCatch, tryCatchThe, MonadExceptOf.tryCatch, ExceptT.tryCatch, ExceptT.mk,
    Functor.map, ExceptT.map, bind, StateT.bind]
  cases op s with
  | mk result s' => cases result <;> rfl

/-! ### The words of a connection -/

/-- The session once the driver of a connection was asked for. -/
def asked (s : Session) (c : Connection) : Session :=
  { s with drivers := (s.drivers.driver c).1 }

@[simp] lemma calls_asked : (s.asked c).calls = s.calls := rfl

@[simp] lemma journal_asked : (s.asked c).journal = s.journal := rfl

/-- The drivers of the session are what calls for drivers have left, however these overlap. -/
def IsSound (s : Session) : Prop :=
  ∃ building answers, Drivers.Overlap.Reachable ⟨s.drivers, building, answers⟩

lemma isSound_ofJournal (j : Journal) : (ofJournal j).IsSound :=
  ⟨[], [], .start⟩

/-- One more call for a driver leaves sound drivers, and is answered with one of its connection. -/
lemma IsSound.driver (hs : s.IsSound) (c : Connection) :
    (s.asked c).IsSound ∧ (s.drivers.driver c).2.Serves c := by
  obtain ⟨building, answers, hreachable⟩ := hs
  have hlook := hreachable.look c
  rw [Drivers.Overlap.look] at hlook
  rw [IsSound, asked, Drivers.driver]
  cases hfind : s.drivers.find? c with
  | some d =>
    simp only [hfind] at hlook ⊢
    exact ⟨⟨_, _, hlook⟩, (Drivers.Overlap.sound_of_reachable hlook).serves c d (by simp)⟩
  | none =>
    simp only [hfind] at hlook ⊢
    have hfinish := hlook.finish (c := c) (by simp)
    exact ⟨⟨_, _, hfinish⟩, Driver.serves_ofConnection s.drivers.built c⟩

/-- The queries of a connection are put into the words of its dialect. -/
lemma IsSound.styleOf_eq (hs : s.IsSound) (c : Connection) :
    styleOf c s = (.ok (.binding c.dialect), s.asked c) := by
  have hstyle : styleOf c s = (.ok (s.drivers.driver c).2.style, s.asked c) := rfl
  rw [hstyle, (hs.driver c).2.style]

/-! ### Sending -/

/-- A query that is not reworded is received as it is. -/
lemma exists_execute {q : Query} (hq : Wording.forDispatch c.dialect q.sql = q.sql) (t : Transport)
    (s : Session) : ∃ s', s'.calls = s.calls ++ [c.call q] ∧
      execute t c q s = ((t s.calls (c.call q)).outcome.mapError .transport, s') := by
  have hcall : (⟨c.dialect, c.connectionString, Wording.forDispatch c.dialect q.sql,
      q.parameters⟩ : Call) = c.call q := by
    rw [hq]
    rfl
  have hexecute : execute t c q s = (Except.mapError SessionError.transport
      (t s.calls ⟨c.dialect, c.connectionString, Wording.forDispatch c.dialect q.sql,
        q.parameters⟩).outcome, (s.dispatch t c q.sql q.parameters).1) := rfl
  have hcalls : (s.dispatch t c q.sql q.parameters).1.calls = s.calls ++ [⟨c.dialect,
      c.connectionString, Wording.forDispatch c.dialect q.sql, q.parameters⟩] := rfl
  rw [hcall] at hexecute hcalls
  exact ⟨_, hcalls, hexecute⟩

/-! ### What keeps drivers sound -/

lemma IsSound.of_drivers_eq (hs : s.IsSound) (h : s'.drivers = s.drivers) : s'.IsSound := by
  rwa [IsSound, h]

/-- A driver may be forgotten at any time. -/
lemma IsSound.forget (hs : s.IsSound) (id : String) :
    IsSound { s with drivers := (s.drivers.forget id).1 } := by
  obtain ⟨building, answers, hreachable⟩ := hs
  exact ⟨building, answers, hreachable.forget id⟩

/-- The operation leaves sound drivers, whatever comes of it. -/
def KeepsSound (op : Operation α) : Prop :=
  ∀ s : Session, s.IsSound → (op s).2.IsSound

lemma KeepsSound.pure (a : α) : KeepsSound (pure a) :=
  fun _ hs => hs

lemma KeepsSound.throw (e : SessionError) : KeepsSound (throw e : Operation α) :=
  fun _ hs => hs

lemma KeepsSound.bind {op : Operation α} {f : α → Operation β} (h : KeepsSound op)
    (hf : ∀ a, KeepsSound (f a)) : KeepsSound (op >>= f) := by
  intro s hs
  have hnext := h s hs
  cases hop : op s with
  | mk result s' =>
    rw [hop] at hnext
    cases result with
    | ok a =>
      rw [bind_of_ok hop]
      exact hf a s' hnext
    | error e =>
      rw [bind_of_error hop]
      exact hnext

/-- A failure that is taken for no answer leaves what the operation left. -/
lemma KeepsSound.tryCatch_none {op : Operation α} (h : KeepsSound op) :
    KeepsSound (tryCatch (some <$> op) fun _ => Pure.pure none : Operation (Option α)) := by
  intro s hs
  rw [Session.tryCatch_none]
  exact h s hs

lemma keepsSound_styleOf (c : Connection) : KeepsSound (styleOf c) :=
  fun _ hs => (hs.driver c).1

lemma keepsSound_worded (q : Except QueryError α) : KeepsSound (worded q) := by
  cases q with
  | ok a => exact .pure a
  | error e => exact .throw (.query e)

lemma keepsSound_execute (t : Transport) (c : Connection) (q : Query) :
    KeepsSound (execute t c q) :=
  fun _ hs => hs.of_drivers_eq rfl

/-- A query that is put into words and sent. -/
lemma keepsSound_sent (t : Transport) (c : Connection) (q : SqlStyle → Except QueryError Query) :
    KeepsSound (do let style ← styleOf c; execute t c (← worded (q style))) :=
  (keepsSound_styleOf c).bind fun _ => (keepsSound_worded _).bind (keepsSound_execute t c)

lemma keepsSound_select (t : Transport) (c : Connection) (r : SelectRequest) :
    KeepsSound (select t c r) :=
  (keepsSound_styleOf c).bind fun _ => (keepsSound_worded _).bind fun q =>
    (keepsSound_execute t c q).bind fun _ => .pure _

lemma keepsSound_insert (t : Transport) (c : Connection) (r : InsertRequest) :
    KeepsSound (insert t c r) :=
  (keepsSound_styleOf c).bind fun _ => keepsSound_execute t c _

lemma keepsSound_countRows (t : Transport) (c : Connection) (plan : CountPlan) :
    KeepsSound (countRows t c plan) := by
  refine (keepsSound_execute t c _).bind fun output => ?_
  cases firstNumber? output.rows "total" with
  | some total => exact .pure _
  | none => exact .throw _

lemma keepsSound_count (t : Transport) (c : Connection) (r : CountRequest) :
    KeepsSound (count t c r) := by
  refine (keepsSound_styleOf c).bind fun style => (keepsSound_worded _).bind fun plan => ?_
  cases plan with
  | counted q => exact keepsSound_countRows t c _
  | estimated estimate q =>
    refine (keepsSound_execute t c estimate).tryCatch_none.bind fun answer => ?_
    cases answer.bind estimateOf? with
    | some n => exact .pure n
    | none => exact keepsSound_countRows t c _

lemma keepsSound_ask (t : Transport) (c : Connection) (q : Option Query) :
    KeepsSound (ask t c q) := by
  cases q with
  | some q => exact (keepsSound_execute t c q).bind fun _ => .pure _
  | none => exact .pure []

/-- What the answer of a catalog is read as. -/
lemma keepsSound_read (t : Transport) (c : Connection) (q : Option Query) (read : List Row → α) :
    KeepsSound (do return read (← ask t c q)) :=
  (keepsSound_ask t c q).bind fun rows => .pure (read rows)

lemma keepsSound_enums (t : Transport) (c : Connection) : KeepsSound (enums t c) :=
  keepsSound_read t c _ _

lemma keepsSound_indexes (t : Transport) (c : Connection) (table : String) :
    KeepsSound (indexes t c table) :=
  keepsSound_read t c _ fun rows => Index.group (Catalog.indexColumnsOfRows c.dialect rows) table

lemma keepsSound_constraints (t : Transport) (c : Connection) : KeepsSound (constraints t c) :=
  keepsSound_read t c _ _

lemma drivers_runSteps (s : Session) (steps : List ScriptStep) :
    (s.runSteps t c steps).1.drivers = s.drivers := by
  induction steps generalizing s with
  | nil => rfl
  | cons step rest ih =>
    have hdispatch : (s.dispatch t c step.sql []).1.drivers = s.drivers := rfl
    rw [runSteps]
    split
    · next s' e h => rwa [h] at hdispatch
    · next s' output h =>
      rw [h] at hdispatch
      exact (ih s').trans hdispatch

lemma drivers_runScript (s : Session) (text : String) :
    (s.runScript t c text).1.drivers = s.drivers := by
  rw [runScript, drivers_runSteps]

/-! ### Whatever is done in a session -/

/-- What can be done in a session: requests, scripts, questions to the catalog, the two halves of
sending a statement, calls for drivers and their removal, and changes of the journal by others. -/
inductive Step (t : Transport) (s : Session) : Session → Prop
  | select (c : Connection) (r : SelectRequest) : Step t s (select t c r s).2
  | count (c : Connection) (r : CountRequest) : Step t s (count t c r s).2
  | update (c : Connection) (r : UpdateRequest) : Step t s (update t c r s).2
  | delete (c : Connection) (r : DeleteRequest) : Step t s (delete t c r s).2
  | insert (c : Connection) (r : InsertRequest) : Step t s (insert t c r s).2
  | stream (c : Connection) (r : SelectRequest) : Step t s (stream c r s).2
  | script (c : Connection) (text : String) : Step t s (s.runScript t c text).1
  | enums (c : Connection) : Step t s (enums t c s).2
  | indexes (c : Connection) (table : String) : Step t s (indexes t c table s).2
  | constraints (c : Connection) : Step t s (constraints t c s).2
  | start (c : Connection) (sql : String) (parameters : List Datum) :
    Step t s (s.start t c sql parameters).1
  | settle (f : Flight) : Step t s (s.settle f).1
  | driver (c : Connection) : Step t s (s.asked c)
  | forget (id : String) : Step t s { s with drivers := (s.drivers.forget id).1 }
  | record (j : Journal) : Step t s { s with journal := j }

/-- Step lemma: only calls for drivers change the drivers, and the removal of one. -/
lemma IsSound.step (hs : s.IsSound) (h : Step t s s') : s'.IsSound := by
  cases h with
  | select c r => exact keepsSound_select t c r s hs
  | count c r => exact keepsSound_count t c r s hs
  | update c r => exact keepsSound_sent t c _ s hs
  | delete c r => exact keepsSound_sent t c _ s hs
  | insert c r => exact keepsSound_insert t c r s hs
  | stream c r => exact KeepsSound.throw _ s hs
  | script c text => exact hs.of_drivers_eq (drivers_runScript s text)
  | enums c => exact keepsSound_enums t c s hs
  | indexes c table => exact keepsSound_indexes t c table s hs
  | constraints c => exact keepsSound_constraints t c s hs
  | start | settle | record => exact hs.of_drivers_eq rfl
  | driver c => exact (hs.driver c).1
  | forget id => exact hs.forget id

/-- However much is done in a session, its drivers come from calls for drivers. -/
theorem isSound_of_steps {j : Journal} (h : Relation.ReflTransGen (Step t) (ofJournal j) s) :
    s.IsSound := by
  induction h with
  | refl => exact isSound_ofJournal j
  | tail _ hstep ih => exact ih.step hstep

end Session

end SqlWorkbench
