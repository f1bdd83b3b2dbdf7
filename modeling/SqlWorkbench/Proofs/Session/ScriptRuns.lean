import Mathlib.Data.List.Nodup
import Mathlib.Tactic.Common
import SqlWorkbench.Proofs.Session.Retention
import SqlWorkbench.Proofs.Session.Scripts
import SqlWorkbench.Proofs.Session.Traffic

/-!
# Runs of a script

A script runs up to its first statement that fails. What the transport would answer to the
statements if it received them all tells beforehand how far a run comes: it ends with the first
answer that is a failure. Main statement: the transport receives the statements up to that one in
their order and nothing else, the report gives what it answered, and the journal has one settled
entry for each of them.
-/

namespace SqlWorkbench

/-! ### Dropping in several goes -/

namespace Journal

variable {n : Nat} {capacity : Option Nat} {log more : List Entry} {e : Entry}

/-- No more can be dropped than there is. -/
lemma dropSettled_eq_min (n : Nat) (log : List Entry) :
    dropSettled n log = dropSettled (min n (log.countP Entry.isSettled)) log := by
  fun_induction dropSettled n log with
  | case1 log => simp
  | case2 => simp
  | case3 n e log hpending ih =>
    have hsettled : ¬ e.isSettled = true := by simp [Entry.isSettled, hpending]
    rw [List.countP_cons_of_neg hsettled, ih]
    cases min (n + 1) (log.countP Entry.isSettled) with
    | zero => simp
    | succ m => rw [dropSettled, if_pos hpending]
  | case4 n e log hpending ih =>
    have hsettled : e.isSettled = true := by simpa [Entry.isSettled] using hpending
    rw [List.countP_cons_of_pos hsettled, Nat.succ_eq_add_one, Nat.add_min_add_right, dropSettled,
      if_neg hpending, ih]

/-- From a longer log entries are dropped in its first part as long as there are any. -/
lemma dropSettled_append (n : Nat) (log more : List Entry) :
    dropSettled n (log ++ more)
      = dropSettled n log ++ dropSettled (n - log.countP Entry.isSettled) more := by
  fun_induction dropSettled n log with
  | case1 log => simp
  | case2 => simp
  | case3 n e log hpending ih =>
    have hsettled : ¬ e.isSettled = true := by simp [Entry.isSettled, hpending]
    rw [List.cons_append, dropSettled, if_pos hpending, ih, List.countP_cons_of_neg hsettled,
      List.cons_append]
  | case4 n e log hpending ih =>
    have hsettled : e.isSettled = true := by simpa [Entry.isSettled] using hpending
    rw [List.cons_append, dropSettled, if_neg hpending, ih, List.countP_cons_of_pos hsettled,
      Nat.succ_eq_add_one, Nat.add_sub_add_right]

lemma dropSettled_dropSettled (m n : Nat) (log : List Entry) :
    dropSettled m (dropSettled n log) = dropSettled (n + m) log := by
  fun_induction dropSettled n log with
  | case1 log => simp
  | case2 => simp
  | case3 n e log hpending ih =>
    cases m with
    | zero => rw [dropSettled_zero, Nat.add_zero, dropSettled, if_pos hpending]
    | succ m =>
      rw [dropSettled, if_pos hpending, ih, Nat.add_right_comm, dropSettled, if_pos hpending,
        Nat.add_right_comm]
  | case4 n e log hpending ih =>
    rw [ih, Nat.succ_add, dropSettled, if_neg hpending]

/-- What is dropped from a log and what is left of its settled entries. -/
lemma length_dropSettled (n : Nat) (log : List Entry) :
    (dropSettled n log).length + min n (log.countP Entry.isSettled) = log.length ∧
      (dropSettled n log).countP Entry.isSettled = log.countP Entry.isSettled - n := by
  fun_induction dropSettled n log with
  | case1 log => simp
  | case2 => simp
  | case3 n e log hpending ih =>
    have hsettled : ¬ e.isSettled = true := by simp [Entry.isSettled, hpending]
    rw [List.countP_cons_of_neg hsettled, List.countP_cons_of_neg hsettled, List.length_cons,
      List.length_cons]
    omega
  | case4 n e log hpending ih =>
    have hsettled : e.isSettled = true := by simpa [Entry.isSettled] using hpending
    rw [List.countP_cons_of_pos hsettled, List.length_cons]
    omega

/-- Entries that are dropped before others come would be dropped with them too. -/
lemma evict_dropSettled {cap : Nat} (h : n + cap ≤ log.length + more.length) :
    evict (some cap) (dropSettled n log ++ more) = evict (some cap) (log ++ more) := by
  obtain ⟨m, hm, hmin⟩ : ∃ m, m ≤ log.countP Entry.isSettled ∧ m ≤ n ∧
      dropSettled n log = dropSettled m log :=
    ⟨min n (log.countP Entry.isSettled), Nat.min_le_right _ _, Nat.min_le_left _ _,
      dropSettled_eq_min n log⟩
  obtain ⟨hlength, hcount⟩ := length_dropSettled m log
  rw [Nat.min_eq_left hm] at hlength
  have hall : m + ((dropSettled m log ++ more).length - cap) = (log ++ more).length - cap := by
    rw [List.length_append, List.length_append]
    omega
  have hrest : (dropSettled m log ++ more).length - cap
      - (dropSettled m log).countP Entry.isSettled
      = (log ++ more).length - cap - log.countP Entry.isSettled := by
    omega
  rw [hmin.2, evict, evict, dropSettled_append, dropSettled_append, dropSettled_dropSettled, hall,
    hrest]

/-- Dropping entries after each of two changes is dropping them after both. -/
lemma evict_evict_append (capacity : Option Nat) (log more : List Entry) :
    evict capacity (evict capacity log ++ more) = evict capacity (log ++ more) := by
  cases capacity with
  | none => rfl
  | some cap =>
    by_cases h : cap ≤ log.length
    · exact evict_dropSettled (by omega)
    · have hall : evict (some cap) log = log := by
        rw [evict, Nat.sub_eq_zero_of_le (Nat.le_of_not_le h), dropSettled_zero]
      rw [hall]

/-- A pending entry at the end of a log stays, whatever is dropped in front of it, and is the one
that is answered. -/
lemma evict_evict_concat (capacity : Option Nat) (log : List Entry) (h : e.isPending = true) :
    ∃ left, evict capacity (log ++ [e]) = left ++ [e] ∧
      ∀ k, evict capacity (left ++ [k]) = evict capacity (log ++ [k]) := by
  cases capacity with
  | none => exact ⟨log, rfl, fun k => rfl⟩
  | some cap =>
    refine ⟨dropSettled ((log ++ [e]).length - cap) log, ?_, fun k => ?_⟩
    · rw [evict, dropSettled_append]
      congr 1
      cases (log ++ [e]).length - cap - log.countP Entry.isSettled with
      | zero => rfl
      | succ m => rw [dropSettled, if_pos h, dropSettled_nil]
    · by_cases hcap : cap ≤ log.length + 1
      · refine evict_dropSettled ?_
        simp only [List.length_append, List.length_singleton]
        omega
      · rw [List.length_append, List.length_singleton, Nat.sub_eq_zero_of_le (by omega),
          dropSettled_zero]

/-- A log that is not beyond the capacity loses nothing. -/
lemma Bounded.evict_eq (h : Bounded capacity log) : evict capacity log = log := by
  cases capacity with
  | none => rfl
  | some cap =>
    by_cases hcap : log.length ≤ cap
    · rw [evict, Nat.sub_eq_zero_of_le hcap, dropSettled_zero]
    · have hpending : log.length ≤ log.countP Entry.isPending := by
        have := h cap rfl
        omega
      have hall := List.countP_eq_length.mp (Nat.le_antisymm List.countP_le_length hpending)
      have hsettled : log.countP Entry.isSettled = 0 :=
        List.countP_eq_zero.mpr fun e he => by simp [Entry.isSettled, hall e he]
      rw [evict, dropSettled_eq_min, hsettled, Nat.min_zero, dropSettled_zero]

end Journal

/-! ### Attempts -/

/-- A statement of a script with the answer of the transport. -/
structure Attempt where
  step : ScriptStep
  reply : Reply

namespace Attempt

/-- The statement as the transport receives it over a connection. -/
def call (c : Connection) (a : Attempt) : Call :=
  Session.scriptCall c a.step.sql

/-- The statement as it stands in the script, with its lines and what came of it. -/
def result (a : Attempt) : ScriptStep × Except TransportError Output :=
  (a.step, a.reply.outcome)

/-- The statement has failed. -/
def isFailed (a : Attempt) : Bool :=
  match a.reply.outcome with
  | .ok _ => false
  | .error _ => true

/-- What came of the statement, as it is entered in the journal. -/
def outcome (a : Attempt) : Except String Output :=
  a.reply.outcome.mapError TransportError.message

/-- The entry of the statement before it is answered. -/
def pending (c : Connection) (id : Nat) (a : Attempt) : Entry :=
  { id, sql := (a.call c).sql, parameters := (a.call c).parameters }

/-- The entry of the statement once it is answered. -/
def entry (c : Connection) (id : Nat) (a : Attempt) : Entry :=
  (a.pending c id).answered a.outcome

/-- What is done to the journal for the statement: it is entered, others clear connections while it
runs, and its entry is settled. -/
def actions (c : Connection) (id : Nat) (a : Attempt) : List Journal.Action :=
  .append c.id (a.call c).sql (a.call c).parameters ::
    (a.reply.cleared.map .clear ++ [.answer c.id id a.outcome])

/-- How many statements run before the first that fails. -/
def reach (as : List Attempt) : Nat :=
  as.findIdx isFailed

/-- The statements up to the first that fails, that one with them. -/
def sent (as : List Attempt) : List Attempt :=
  as.take (reach as + 1)

/-- The entries of statements, with identifiers from the given one on. -/
def entriesFrom (c : Connection) (id : Nat) (as : List Attempt) : List Entry :=
  (as.zipIdx id).map fun (a, id) => a.entry c id

/-- What is done to the journal for statements, with identifiers from the given one on. -/
def actionsFrom (c : Connection) (id : Nat) (as : List Attempt) : List Journal.Action :=
  (as.zipIdx id).flatMap fun (a, id) => a.actions c id

variable {c : Connection} {a : Attempt} {as : List Attempt}

lemma reach_cons_of_isFailed (h : a.isFailed = true) : reach (a :: as) = 0 := by
  simp [reach, List.findIdx_cons, h]

lemma reach_cons (h : a.isFailed = false) : reach (a :: as) = reach as + 1 := by
  simp [reach, List.findIdx_cons, h]

lemma sent_cons_of_isFailed (h : a.isFailed = true) : sent (a :: as) = [a] := by
  rw [sent, reach_cons_of_isFailed h]
  rfl

lemma sent_cons (h : a.isFailed = false) : sent (a :: as) = a :: sent as := by
  rw [sent, reach_cons h]
  rfl

lemma actionsFrom_cons (id : Nat) :
    actionsFrom c id (a :: as) = a.actions c id ++ actionsFrom c (id + 1) as := by
  simp [actionsFrom]

lemma entriesFrom_cons (id : Nat) :
    entriesFrom c id (a :: as) = a.entry c id :: entriesFrom c (id + 1) as := by
  simp [entriesFrom]

end Attempt

/-! ### What a run does to the journal -/

namespace Journal

variable {j : Journal} {c : Connection} {a : Attempt} {as : List Attempt}

lemma Numbered.act (h : j.Numbered) (action : Action) : (j.act action).Numbered := fun d =>
  (effect_act (fun d => (h d).1) action d).numbered (h d).1 (h d).2

lemma Numbered.run (h : j.Numbered) (actions : List Action) : (j.run actions).Numbered := by
  induction actions generalizing j with
  | nil => exact h
  | cons action actions ih => exact ih (h.act action)

lemma run_append (j : Journal) (actions more : List Action) :
    j.run (actions ++ more) = (j.run actions).run more :=
  List.foldl_append

lemma run_map_clear (j : Journal) (ds : List String) :
    j.run (ds.map .clear) = ds.foldl clear j := by
  rw [run, List.foldl_map]
  rfl

@[simp] lemma next_foldl_clear (j : Journal) (ds : List String) :
    (ds.foldl clear j).next = j.next := by
  induction ds generalizing j with
  | nil => rfl
  | cons d ds ih => exact ih (j.clear d)

@[simp] lemma capacity_foldl_clear (j : Journal) (ds : List String) :
    (ds.foldl clear j).capacity = j.capacity := by
  induction ds generalizing j with
  | nil => rfl
  | cons d ds ih => exact ih (j.clear d)

lemma entries_foldl_clear {d : String} (j : Journal) {ds : List String} (h : d ∉ ds) :
    (ds.foldl clear j).entries d = j.entries d := by
  induction ds generalizing j with
  | nil => rfl
  | cons k ds ih =>
    rw [List.mem_cons, not_or] at h
    rw [List.foldl_cons, ih _ h.2, entries_clear_of_ne (Ne.symm h.1)]

/-- The journal after a statement. -/
lemma run_actions (j : Journal) (a : Attempt) (id : Nat) : j.run (a.actions c id)
    = ((a.reply.cleared.foldl clear (j.append c.id (a.call c).sql (a.call c).parameters).1).answer
        c.id id a.outcome).1 := by
  rw [Attempt.actions, ← List.singleton_append, run_append, run_append, run_map_clear]
  rfl

lemma next_run_actions (j : Journal) (a : Attempt) (id : Nat) :
    (j.run (a.actions c id)).next = j.next + 1 := by
  rw [run_actions, answer_eq_settle, capacity_settle.2, next_foldl_clear]
  rfl

lemma capacity_run_actions (j : Journal) (a : Attempt) (id : Nat) :
    (j.run (a.actions c id)).capacity = j.capacity := by
  rw [run_actions, answer_eq_settle, capacity_settle.1, capacity_foldl_clear]
  rfl

/-- Step lemma: a statement leaves its settled entry at the end of the log. -/
lemma entries_run_actions (hj : j.Numbered) (h : c.id ∉ a.reply.cleared) :
    (j.run (a.actions c j.next)).entries c.id
      = evict j.capacity (j.entries c.id ++ [a.entry c j.next]) := by
  obtain ⟨left, hleft, hanswered⟩ := evict_evict_concat (e := a.pending c j.next) j.capacity
    (j.entries c.id) rfl
  have happended : (j.append c.id (a.call c).sql (a.call c).parameters).1.entries c.id
      = left ++ [a.pending c j.next] := by
    rw [entries_append_self, ← hleft]
    rfl
  have hnumbered := (hj.act (.append c.id (a.call c).sql (a.call c).parameters)).run
    (a.reply.cleared.map .clear)
  rw [run_map_clear] at hnumbered
  have hlog := (entries_foldl_clear _ h).trans happended
  rw [run_actions, answer_eq_settle]
  exact (entries_settle_of_mem hlog (hnumbered c.id).1).trans
    ((congrArg (evict · _) (capacity_foldl_clear _ _)).trans (hanswered _))

/-- Run lemma: statements leave their settled entries at the end of the log, in their order. -/
lemma entries_run_actionsFrom (hj : j.Numbered) (hbound : Bounded j.capacity (j.entries c.id))
    (h : ∀ a ∈ as, c.id ∉ a.reply.cleared) :
    (j.run (Attempt.actionsFrom c j.next as)).entries c.id
      = evict j.capacity (j.entries c.id ++ Attempt.entriesFrom c j.next as) := by
  induction as generalizing j with
  | nil => exact (List.append_nil (j.entries c.id)).symm ▸ hbound.evict_eq.symm
  | cons a as ih =>
    obtain ⟨ha, has⟩ := List.forall_mem_cons.mp h
    have hrest := ih (hj.run (a.actions c j.next))
    rw [next_run_actions, capacity_run_actions, entries_run_actions hj ha, evict_evict_append]
      at hrest
    replace hrest := hrest (retains_evict _ _).bounded has
    rw [Attempt.actionsFrom_cons, run_append, hrest, Attempt.entriesFrom_cons, List.append_assoc,
      List.singleton_append]

end Journal

/-! ### Runs -/

namespace Session

/-- The session once statements were sent over a connection, each settled before the next. -/
def after (s : Session) (c : Connection) (as : List Attempt) : Session :=
  { s with
    calls := s.calls ++ as.map (Attempt.call c)
    journal := s.journal.run (Attempt.actionsFrom c s.journal.next as) }

/-- The statements of a script with the answers that the transport gives after other calls if it
receives them all. -/
def attempts (t : Transport) (c : Connection) (before : List Call) (steps : List ScriptStep) :
    List Attempt :=
  steps.mapIdx fun i step =>
    ⟨step, t (before ++ (steps.take i).map fun step => scriptCall c step.sql)
      (scriptCall c step.sql)⟩

/-- What comes of statements that run one after the other up to the first that fails: the session
afterwards and the report. -/
structure Runs (c : Connection) (s : Session) (as : List Attempt) (s' : Session)
    (report : ScriptReport) : Prop where
  /-- The statements up to the first that fails are sent, and no others. -/
  session : s' = s.after c (Attempt.sent as)
  /-- The report gives the outputs of the statements in front of the first that fails. -/
  completed : (report.completed.map fun (step, output) => (step, Except.ok output))
    = (as.take (Attempt.reach as)).map Attempt.result
  /-- The report gives the error of the first statement that fails, if one does. -/
  failure : (report.failure.map fun (step, error) => (step, Except.error error))
    = as[Attempt.reach as]?.map Attempt.result
  /-- Each statement that is sent leaves its settled entry at the end of the log, which only loses
  its oldest settled entries beyond the capacity, unless others clear it. -/
  entries : s.journal.Numbered → Journal.Bounded s.journal.capacity (s.journal.entries c.id) →
    (∀ a ∈ Attempt.sent as, c.id ∉ a.reply.cleared) →
    s'.journal.entries c.id = Journal.evict s.journal.capacity
      (s.journal.entries c.id ++ Attempt.entriesFrom c s.journal.next (Attempt.sent as))

variable {t : Transport} {c : Connection} {s : Session} {a : Attempt} {as : List Attempt}

lemma attempts_cons (before : List Call) (step : ScriptStep) (rest : List ScriptStep) :
    attempts t c before (step :: rest) = ⟨step, t before (scriptCall c step.sql)⟩ ::
      attempts t c (before ++ [scriptCall c step.sql]) rest := by
  simp [attempts, List.mapIdx_cons]

@[simp] lemma after_nil : s.after c [] = s := by
  simp [after, Attempt.actionsFrom, Journal.run]

lemma after_singleton : s.after c [a] = { s with
    calls := s.calls ++ [a.call c]
    journal := s.journal.run (a.actions c s.journal.next) } := by
  simp [after, Attempt.actionsFrom]

lemma after_cons : s.after c (a :: as) = (s.after c [a]).after c as := by
  rw [after_singleton, after, after, Attempt.actionsFrom_cons, Journal.run_append,
    Journal.next_run_actions, List.append_assoc]
  rfl

/-- Sending a statement. -/
lemma dispatch_eq_after (t : Transport) (c : Connection) (s : Session) (step : ScriptStep) :
    s.dispatch t c step.sql []
      = (s.after c [⟨step, t s.calls (scriptCall c step.sql)⟩],
        (t s.calls (scriptCall c step.sql)).outcome) := by
  refine (settle_eq (s.start t c step.sql []).1 (s.start t c step.sql []).2).trans ?_
  rw [after_singleton, Journal.run_actions]
  rfl

/-- The log follows from what is sent. -/
lemma Runs.of_session {s' : Session} {report : ScriptReport}
    (session : s' = s.after c (Attempt.sent as))
    (completed : (report.completed.map fun (step, output) => (step, Except.ok output))
      = (as.take (Attempt.reach as)).map Attempt.result)
    (failure : (report.failure.map fun (step, error) => (step, Except.error error))
      = as[Attempt.reach as]?.map Attempt.result) : Runs c s as s' report where
  session := session
  completed := completed
  failure := failure
  entries hj hbound hclear := by
    rw [session]
    exact Journal.entries_run_actionsFrom hj hbound hclear

/-- Step lemma: a statement that fails ends the run. -/
lemma Runs.of_error {step : ScriptStep} {reply : Reply} {e : TransportError}
    (h : reply.outcome = .error e) :
    Runs c s (⟨step, reply⟩ :: as) (s.after c [⟨step, reply⟩]) { failure := some (step, e) } := by
  have hfailed : Attempt.isFailed ⟨step, reply⟩ = true := by rw [Attempt.isFailed, h]
  refine .of_session ?_ ?_ ?_
  · rw [Attempt.sent_cons_of_isFailed hfailed]
  · rw [Attempt.reach_cons_of_isFailed hfailed]
    rfl
  · rw [Attempt.reach_cons_of_isFailed hfailed, List.getElem?_cons_zero, Option.map_some,
      Option.map_some, Attempt.result, h]

/-- Step lemma: a statement that succeeds comes in front of what the others come to. -/
lemma Runs.cons {s' : Session} {report : ScriptReport} {step : ScriptStep} {reply : Reply}
    {output : Output} (h : reply.outcome = .ok output)
    (hrest : Runs c (s.after c [⟨step, reply⟩]) as s' report) :
    Runs c s (⟨step, reply⟩ :: as) s' (report.precede step output) := by
  have hfailed : Attempt.isFailed ⟨step, reply⟩ = false := by rw [Attempt.isFailed, h]
  refine .of_session ?_ ?_ ?_
  · rw [Attempt.sent_cons hfailed, after_cons]
    exact hrest.session
  · rw [Attempt.reach_cons hfailed, List.take_succ_cons, List.map_cons, ← hrest.completed,
      Attempt.result, h]
    rfl
  · rw [Attempt.reach_cons hfailed, List.getElem?_cons_succ]
    exact hrest.failure

/-- Run lemma: what comes of statements is told by what the transport would answer to them. -/
lemma runs_runSteps (t : Transport) (c : Connection) (s : Session) (steps : List ScriptStep) :
    Runs c s (attempts t c s.calls steps) (s.runSteps t c steps).1 (s.runSteps t c steps).2 := by
  induction steps generalizing s with
  | nil =>
    refine .of_session ?_ rfl rfl
    rw [runSteps]
    exact after_nil.symm
  | cons step rest ih =>
    have hrest := ih (s.after c [⟨step, t s.calls (scriptCall c step.sql)⟩])
    rw [attempts_cons, runSteps, dispatch_eq_after]
    cases h : (t s.calls (scriptCall c step.sql)).outcome with
    | error e => exact .of_error h
    | ok output => exact hrest.cons h

/-- A script runs its statements in their order up to the first that fails: the transport receives
these and nothing else, one after the other, the report gives what it answered to each together with
the statement as it stands in the script and the lines of its group, and the journal has one entry
for each with the text that was sent. -/
theorem runs_runScript (t : Transport) (c : Connection) (s : Session) (text : String) :
    Runs c s (attempts t c s.calls (Script.steps text)) (s.runScript t c text).1
      (s.runScript t c text).2 :=
  runs_runSteps t c s (Script.steps text)

/-! ### A run that ends early -/

/-- A transport that refuses one statement. -/
def refusing (sql : String) : Transport := fun _ call =>
  { outcome := if call.sql = sql then .error { message := "refused" } else .ok {} }

/-- Three statements, the second of which is refused. -/
def refusedScript : String :=
  "SELECT 1; oops;\nSELECT 2;"

/-- The statements with the answers to them. -/
def refusedAttempts : List Attempt :=
  attempts (refusing "oops") (.ofId "a" .sqlite "") [] (Script.steps refusedScript)

/-- What comes of the statements. -/
def refusedRun : Session × ScriptReport :=
  (Session.ofJournal (.empty (some 1))).runScript (refusing "oops") (.ofId "a" .sqlite "")
    refusedScript

theorem runs_refusedScript :
    Runs (.ofId "a" .sqlite "") (.ofJournal (.empty (some 1))) refusedAttempts refusedRun.1
      refusedRun.2 ∧
    (refusedRun.2.completed.map fun (step, _) => (step.startLine, step.endLine, step.sql))
      = [(1, 1, "SELECT 1")] ∧
    (refusedRun.2.failure.map fun (step, e) => (step.sql, e.message)) = some ("oops", "refused") ∧
    refusedRun.1.journal.entries "a" = Journal.evict (some 1)
      (Attempt.entriesFrom (.ofId "a" .sqlite "") 0 (Attempt.sent refusedAttempts)) ∧
    ((refusedRun.1.journal.entries "a").map fun e => (e.id, e.sql, e.error))
      = [(1, "oops", some "refused")] := by
  have hrun : Runs (.ofId "a" .sqlite "") (.ofJournal (.empty (some 1))) refusedAttempts
      refusedRun.1 refusedRun.2 :=
    runs_runScript (refusing "oops") (.ofId "a" .sqlite "") (.ofJournal (.empty (some 1))) _
  have hnumbered : (Journal.empty (some 1)).Numbered := fun d =>
    ⟨List.nodup_nil, by simp [Journal.entries_empty]⟩
  have hbound : Journal.Bounded (some 1) ((Journal.empty (some 1)).entries "a") := by
    simp [Journal.entries_empty, Journal.Bounded]
  exact ⟨hrun, by decide +kernel, by decide +kernel,
    hrun.entries hnumbered hbound (by decide +kernel), by decide +kernel⟩

end Session

end SqlWorkbench
