import SqlWorkbench.Proofs.Query.Faults
import SqlWorkbench.Proofs.Session.Operations

/-!
# Refused requests

A request that cannot be compiled is refused. Main statement: which requests these are and with
which error, and that one leaves no trace: neither the transport nor the journal is touched.
-/

namespace SqlWorkbench

namespace Session

variable {α : Type} {t : Transport} {c : Connection} {s : Session} {e : QueryError}

/-- The operation fails with the error of its query, and touches neither transport nor journal. -/
structure Refuses (op : Operation α) (s : Session) (e : QueryError) : Prop where
  error : (op s).1 = .error (.query e)
  calls : (op s).2.calls = s.calls
  journal : (op s).2.journal = s.journal

/-- The operation of the request refuses it. -/
def RefusesRequest (t : Transport) (c : Connection) (s : Session) : Request → QueryError → Prop
  | .select r, e => Refuses (select t c r) s e
  | .count r, e => Refuses (count t c r) s e
  | .update r, e => Refuses (update t c r) s e
  | .delete r, e => Refuses (delete t c r) s e
  | .insert r, e => Refuses (insert t c r) s e

lemma Refuses.of_eq {op : Operation α} (h : op s = (.error (.query e), s.asked c)) :
    Refuses op s e := by
  constructor
  · rw [h]
  · rw [h, calls_asked]
  · rw [h, journal_asked]

/-- An operation that has no query ends before it sends anything. -/
lemma IsSound.refuses {β : Type} {q : SqlStyle → Except QueryError β}
    {f : SqlStyle → β → Operation α} (hs : s.IsSound) (h : q (.binding c.dialect) = .error e) :
    Refuses (do let style ← styleOf c; let query ← worded (q style); f style query) s e := by
  apply Refuses.of_eq (c := c)
  rw [bind_of_ok (hs.styleOf_eq c), h]
  exact bind_of_error rfl

lemma IsSound.refusesRequest (hs : s.IsSound) {r : Request}
    (h : r.compile (.binding c.dialect) = .error e) : RefusesRequest t c s r e := by
  cases r with
  | select r =>
    rw [Request.compile, exceptMap_eq_error_iff] at h
    exact hs.refuses h
  | count r =>
    rw [Request.compile, exceptMap_eq_error_iff] at h
    exact hs.refuses h
  | update r =>
    rw [Request.compile, exceptMap_eq_error_iff] at h
    exact hs.refuses h
  | delete r =>
    rw [Request.compile, exceptMap_eq_error_iff] at h
    exact hs.refuses h
  | insert r => cases h

/-- In every style the requests that cannot be compiled are those with a fault in their filters,
which fail with the error of the first one, and the updates that change nothing. Over a connection
such a request is refused with its error, and leaves no trace. -/
theorem failsWith_iff_and_refusesRequest :
    (∀ (style : SqlStyle) (r : Request) (e : QueryError),
      r.compile style = .error e ↔ r.FailsWith style.dialect e) ∧
    (∀ (d : Dialect) (filters : List Filter),
      (∃ e, Filter.FirstFault d filters e) ↔ ∃ f ∈ filters, f.IsFaulty d) ∧
    ∀ (t : Transport) (c : Connection) (s : Session), s.IsSound → ∀ (r : Request) (e : QueryError),
      r.compile (.binding c.dialect) = .error e → RefusesRequest t c s r e := by
  refine ⟨Request.compile_eq_error_iff, fun d filters => Filter.exists_firstFault_iff, ?_⟩
  intro t c s hs r e h
  exact hs.refusesRequest h

/-- A removal with two faults, the first of which is a value that is missed. -/
def faultyRemoval : Request :=
  .delete { table := "users", filters := [⟨"id", .eq, []⟩, ⟨"name", .ilike, []⟩] }

theorem refusesRequest_faultyRemoval :
    (ofJournal .empty).IsSound ∧
    faultyRemoval.compile (.binding .mysql) = .error (.missingValue "id" .eq) ∧
    RefusesRequest (fun _ _ => { outcome := .ok {} }) (.ofId "a" .mysql "") (ofJournal .empty)
      faultyRemoval (.missingValue "id" .eq) := by
  have hsound := isSound_ofJournal .empty
  have hfault : Filter.Fault .mysql ⟨"id", .eq, []⟩ (.missingValue "id" .eq) := by
    apply Filter.Fault.lacking
    · simp [Filter.IsUnsupported]
    · simp [Filter.LacksValue]
  have hfails : faultyRemoval.FailsWith .mysql (.missingValue "id" .eq) :=
    .delete ⟨[], _, _, rfl, by simp, hfault⟩
  have hcompile : faultyRemoval.compile (.binding .mysql) = .error (.missingValue "id" .eq) :=
    (failsWith_iff_and_refusesRequest.1 _ _ _).mpr hfails
  exact ⟨hsound, hcompile, failsWith_iff_and_refusesRequest.2.2 _ _ _ hsound _ _ hcompile⟩

end Session

end SqlWorkbench
