import Mathlib.Tactic.Common
import SqlWorkbench.Proofs.Session.History
import SqlWorkbench.Session.Dispatch

/-!
# Statements in flight

Statements may be in flight over any connections at one time. Each is entered in the journal when it
is sent and settled when its answer comes, and these come in any order; connections are cleared at
any moment. Main statement: in every state that can be reached so the entries keep to their own
statements, those that are pending are the statements in flight, and no answer misses its entry
unless the connection was cleared.
-/

namespace SqlWorkbench

/-- Settle the entry of a statement with its answer; tells whether the entry was still there. -/
def Flight.settle (f : Flight) (j : Journal) : Journal × Bool :=
  (f.reply.cleared.foldl Journal.clear j).answer f.connection f.entry
    (f.reply.outcome.mapError TransportError.message)

lemma Session.settle_eq (s : Session) (f : Flight) :
    s.settle f = ({ s with journal := (f.settle s.journal).1 }, f.reply.outcome) := by
  obtain ⟨c, entry, cleared, outcome⟩ := f
  cases outcome <;> rfl

/-- A session with the statements that are in flight and what has happened to its journal. -/
structure Traffic where
  session : Session
  flights : List Flight := []
  history : History := []

namespace Traffic

/-- No statement has been sent. -/
def start (capacity : Option Nat) : Traffic where
  session := .ofJournal (.empty capacity)

/-- The session whose next entry has the identifier. -/
def numbered (w : Traffic) (id : Nat) : Session :=
  { w.session with journal := { w.session.journal with next := id } }

/-- A statement is entered under an identifier and handed to the transport. -/
def send (w : Traffic) (t : Transport) (id : Nat) (c : Connection) (sql : String)
    (parameters : List Datum) : Traffic where
  session := ((w.numbered id).start t c sql parameters).1
  flights := w.flights ++ [((w.numbered id).start t c sql parameters).2]
  history := w.history ++ [.sent id c.id (Wording.forDispatch c.dialect sql) parameters]

/-- The answer to a statement comes, after which it is not in flight. -/
def receive (w : Traffic) (f : Flight) : Traffic where
  session := (w.session.settle f).1
  flights := w.flights.filter fun g => g.entry != f.entry
  history := w.history ++ f.reply.cleared.map .cleared ++
    [.answered f.entry f.reply.outcome (f.settle w.session.journal).2]

/-- A connection is cleared. -/
def clear (w : Traffic) (c : String) : Traffic :=
  { w with
    session := { w.session with journal := w.session.journal.clear c }
    history := w.history ++ [.cleared c] }

/-- What comes of statements that are sent, answered and cleared in any order. No identifier is
given twice. -/
inductive Reachable (t : Transport) (capacity : Option Nat) : Traffic → Prop
  | start : Reachable t capacity (.start capacity)
  | send {w : Traffic} (h : Reachable t capacity w) {id : Nat} (hid : id ∉ w.history.sentIds)
    (c : Connection) (sql : String) (parameters : List Datum) :
    Reachable t capacity (w.send t id c sql parameters)
  | receive {w : Traffic} (h : Reachable t capacity w) {f : Flight} (hf : f ∈ w.flights) :
    Reachable t capacity (w.receive f)
  | clear {w : Traffic} (h : Reachable t capacity w) (c : String) : Reachable t capacity (w.clear c)

/-- The entries of a connection. -/
def entries (w : Traffic) (c : String) : List Entry :=
  w.session.journal.entries c

/-- The entries of each connection are those of its own statements, and the pending ones are in
flight. -/
structure Orderly (w : Traffic) : Prop where
  /-- The entries come from statements sent over the connection, in the order of sending. -/
  sublist : ∀ c, ((w.entries c).map Entry.stamp).Sublist (w.history.stamps c)
  /-- An identifier tells a statement, and an entry, from all others. -/
  nodup_sentIds : w.history.sentIds.Nodup
  nodup_ids : ∀ c, ((w.entries c).map Entry.id).Nodup
  /-- An entry shows what has come of its statement. -/
  shows : ∀ c, ∀ e ∈ w.entries c, e.Shows (w.history.outcome? e.id)
  not_both : ∀ c, ∀ e ∈ w.entries c, ¬ (e.result.isSome ∧ e.error.isSome)
  duration_isSome : ∀ c, ∀ e ∈ w.entries c, e.duration.isSome = e.result.isSome
  /-- The pending entries are the statements in flight whose connection was not cleared. -/
  pending_iff : ∀ c id, (∃ e ∈ w.entries c, e.id = id ∧ e.isPending = true) ↔
    ∃ f ∈ w.flights, f.connection = c ∧ f.entry = id ∧ ¬ w.history.ClearedSince id c
  /-- Each answer has found its entry, unless the connection was cleared. -/
  justified : w.history.Justified

/-- The statements in flight are those that were sent and not answered. -/
def Underway (w : Traffic) : Prop :=
  ∀ c id, (∃ f ∈ w.flights, f.connection = c ∧ f.entry = id) ↔
    w.history.Sent id c ∧ w.history.outcome? id = none

end Traffic

namespace History

variable {h : History} {j : Journal} {id : Nat} {c : String}

lemma sent_append_cleared (cs : List String) :
    Sent (h ++ cs.map .cleared) id c ↔ h.Sent id c := by
  simp [Sent]

lemma outcome?_append_cleared (cs : List String) :
    outcome? (h ++ cs.map .cleared) id = h.outcome? id := by
  induction cs generalizing h with
  | nil => simp
  | cons d cs ih =>
    rw [List.map_cons, List.append_cons, ih, outcome?_concat]
    exact Option.or_none

/-- Several connections are cleared one after the other. -/
lemma Tracks.append_cleared (ht : h.Tracks j) (cs : List String) :
    Tracks (h ++ cs.map .cleared) (cs.foldl Journal.clear j) := by
  induction cs generalizing h j with
  | nil => simpa using ht
  | cons d cs ih =>
    rw [List.map_cons, List.append_cons]
    exact ih (ht.concat_cleared d)

end History

namespace Traffic

variable {t : Transport} {capacity : Option Nat} {w : Traffic}

/-- Step lemma: a new statement is in flight. -/
lemma Underway.send (hw : w.Underway) (hp : w.history.Proper) {id : Nat}
    (hid : id ∉ w.history.sentIds) (c : Connection) (sql : String) (parameters : List Datum) :
    (w.send t id c sql parameters).Underway := by
  intro d k
  obtain ⟨g, hg, hconnection, hentry⟩ : ∃ g,
      (w.send t id c sql parameters).flights = w.flights ++ [g] ∧ g.connection = c.id ∧
        g.entry = id := ⟨_, rfl, rfl, rfl⟩
  have hsent : (w.send t id c sql parameters).history.Sent k d ↔
      w.history.Sent k d ∨ c.id = d ∧ id = k := by
    rw [Traffic.send, History.sent_concat]
    refine or_congr_right ⟨?_, ?_⟩
    · rintro ⟨_, _, heq⟩
      cases heq
      exact ⟨rfl, rfl⟩
    · rintro ⟨rfl, rfl⟩
      exact ⟨_, _, rfl⟩
  have houtcome : (w.send t id c sql parameters).history.outcome? k = w.history.outcome? k := by
    rw [Traffic.send, History.outcome?_concat]
    exact Option.or_none
  rw [hg, hsent, houtcome]
  simp only [List.mem_append, List.mem_singleton, or_and_right, exists_or, exists_eq_left, hw d k,
    hconnection, hentry]
  refine or_congr_right (iff_self_and.mpr ?_)
  rintro ⟨-, rfl⟩
  exact hp.outcome?_eq_none hid

/-- Step lemma: a statement that is answered is in flight no more. -/
lemma Underway.receive (hw : w.Underway) (f : Flight) : (w.receive f).Underway := by
  intro c id
  have hsent : (w.receive f).history.Sent id c ↔ w.history.Sent id c := by
    rw [Traffic.receive, History.sent_concat, History.sent_append_cleared]
    simp
  have houtcome : (w.receive f).history.outcome? id = none ↔
      w.history.outcome? id = none ∧ f.entry ≠ id := by
    rw [Traffic.receive, History.outcome?_concat, History.outcome?_append_cleared,
      Option.or_eq_none_iff]
    simp [Event.outcome?]
  rw [hsent, houtcome, ← and_assoc, ← hw c id]
  constructor
  · rintro ⟨g, hg, rfl, rfl⟩
    obtain ⟨hg, hne⟩ := List.mem_filter.mp hg
    exact ⟨⟨g, hg, rfl, rfl⟩, fun heq => by simp [heq] at hne⟩
  · rintro ⟨⟨g, hg, rfl, rfl⟩, hne⟩
    exact ⟨g, List.mem_filter.mpr ⟨hg, by simpa using hne.symm⟩, rfl, rfl⟩

/-- Step lemma: clearing ends no flight. -/
lemma Underway.clear (hw : w.Underway) (c : String) : (w.clear c).Underway := by
  intro d id
  have hsent : (w.clear c).history.Sent id d ↔ w.history.Sent id d := by
    rw [Traffic.clear, History.sent_concat]
    simp
  have houtcome : (w.clear c).history.outcome? id = w.history.outcome? id := by
    rw [Traffic.clear, History.outcome?_concat]
    exact Option.or_none
  rw [hsent, houtcome]
  exact hw d id

/-- Run lemma: the journal keeps to its history, and what is not answered is in flight. -/
lemma tracks_of_reachable (h : Reachable t capacity w) :
    w.history.Tracks w.session.journal ∧ w.Underway := by
  induction h with
  | start => exact ⟨.empty capacity, fun c id => by simp [start, History.Sent]⟩
  | send _ hid c sql parameters ih =>
    obtain ⟨htracks, hflights⟩ := ih
    exact ⟨htracks.concat_sent hid c.id _ parameters, hflights.send htracks.proper hid c sql _⟩
  | @receive w _ f hf ih =>
    obtain ⟨htracks, hflights⟩ := ih
    obtain ⟨hsent, hopen⟩ := (hflights f.connection f.entry).mp ⟨f, hf, rfl, rfl⟩
    refine ⟨?_, hflights.receive f⟩
    rw [receive, Session.settle_eq]
    refine (htracks.append_cleared f.reply.cleared).concat_answered ?_ ?_ f.reply.outcome
    · exact (History.sent_append_cleared _).mpr hsent
    · rw [History.outcome?_append_cleared, hopen]
  | clear _ c ih =>
    obtain ⟨htracks, hflights⟩ := ih
    exact ⟨htracks.concat_cleared c, hflights.clear c⟩

/-- Statements in flight never mix: in every state that can be reached, whatever the capacity, the
entries of a connection are a part of those of its statements, each with what came of its own, the
pending ones are the statements in flight that were not cleared, and an answer finds its entry
exactly if the connection was not cleared since. -/
theorem orderly_of_reachable (h : Reachable t capacity w) : w.Orderly := by
  obtain ⟨htracks, hflights⟩ := tracks_of_reachable h
  refine ⟨fun c => (htracks.records c).sublist, htracks.proper.nodup, htracks.distinct,
    fun c => (htracks.records c).shows, fun c e he => ?_, fun c e he => ?_, fun c id => ?_,
    htracks.justified⟩
  · exact ((htracks.records c).shows e he).not_both.1
  · exact ((htracks.records c).shows e he).not_both.2
  · rw [entries, (htracks.records c).pending_iff, History.Awaits, ← and_assoc, ← hflights c id]
    constructor
    · rintro ⟨⟨f, hf, hconnection, hentry⟩, hclear⟩
      exact ⟨f, hf, hconnection, hentry, hclear⟩
    · rintro ⟨f, hf, hconnection, hentry, hclear⟩
      exact ⟨⟨f, hf, hconnection, hentry⟩, hclear⟩

/-! ### Two connections at once -/

/-- A transport that answers each statement with no rows. -/
def promptly : Transport := fun _ _ => { outcome := .ok {} }

/-- Three statements over two connections, not numbered in order. -/
def threeSent : Traffic :=
  (((start (some 1)).send promptly 7 (.ofId "a" .sqlite "") "SELECT 1" []).send promptly 3
    (.ofId "b" .sqlite "") "SELECT 2" []).send promptly 5 (.ofId "a" .sqlite "") "SELECT 3" []

/-- The statement in flight under an identifier over a connection. -/
def flightOf (id : Nat) (c : String) : Flight :=
  ⟨c, id, { outcome := .ok {} }⟩

/-- One connection is cleared, then the last statement over the other is answered before the first,
whose entry is the one that stays. -/
def crossed : Traffic :=
  ((threeSent.clear "b").receive (flightOf 5 "a")).receive (flightOf 3 "b")

theorem orderly_crossed : Reachable promptly (some 1) crossed ∧ crossed.Orderly ∧
    (crossed.entries "a").map Entry.id = [7] ∧ crossed.entries "b" = [] := by
  have hthree : Reachable promptly (some 1) threeSent :=
    ((Reachable.start.send (by decide) _ _ _).send (by decide) _ _ _).send (by decide) _ _ _
  have hcrossed : Reachable promptly (some 1) crossed := by
    have hflights : threeSent.flights = [flightOf 7 "a", flightOf 3 "b", flightOf 5 "a"] := rfl
    have hleft : ((threeSent.clear "b").receive (flightOf 5 "a")).flights
        = [flightOf 7 "a", flightOf 3 "b"] := rfl
    refine ((hthree.clear "b").receive ?_).receive ?_
    · rw [clear, hflights]
      simp
    · rw [hleft]
      simp
  exact ⟨hcrossed, orderly_of_reachable hcrossed, by decide +kernel, by decide +kernel⟩

end Traffic

end SqlWorkbench
