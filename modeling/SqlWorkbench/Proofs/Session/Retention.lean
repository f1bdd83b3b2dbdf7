import Mathlib.Data.List.Nodup
import Mathlib.Tactic.Common
import SqlWorkbench.Session.Journal

/-!
# Retention of entries

Beyond the capacity a log loses its settled entries, the oldest first, and never one whose statement
still runs. Main statement: after any actions on a journal each log is within the capacity or holds
pending entries only, and what an action does to a log is to change it in one place and to drop the
settled entries beyond the capacity.
-/

namespace SqlWorkbench

variable {n cap : Nat} {capacity : Option Nat} {log left : List Entry} {e : Entry} {id : Nat}

/-! ### Dropping settled entries -/

/-- The statement of the entry has ended. -/
def Entry.isSettled (e : Entry) : Bool :=
  !e.isPending

namespace Journal

/-- Dropping takes the settled entries out of a first stretch of the log. -/
lemma exists_dropSettled (n : Nat) (log : List Entry) : ∃ old new, log = old ++ new ∧
    old.countP Entry.isSettled = min n (log.countP Entry.isSettled) ∧
    dropSettled n log = old.filter Entry.isPending ++ new := by
  fun_induction dropSettled n log with
  | case1 log => exact ⟨[], log, by simp⟩
  | case2 => exact ⟨[], [], by simp⟩
  | case3 n e log hpending ih =>
    obtain ⟨old, new, hlog, hcount, hdrop⟩ := ih
    refine ⟨e :: old, new, by rw [hlog, List.cons_append], ?_, ?_⟩
    · simp [Entry.isSettled, hpending, hcount]
    · rw [hdrop, List.filter_cons_of_pos hpending, List.cons_append]
  | case4 n e log hpending ih =>
    obtain ⟨old, new, hlog, hcount, hdrop⟩ := ih
    have hsettled : e.isSettled = true := by simpa [Entry.isSettled] using hpending
    refine ⟨e :: old, new, by rw [hlog, List.cons_append], ?_, ?_⟩
    · rw [List.countP_cons_of_pos hsettled, List.countP_cons_of_pos hsettled, hcount]
      omega
    · rw [hdrop, List.filter_cons_of_neg hpending]

/-- What is left of a log without its oldest settled entries, as many as there are beyond the
capacity. -/
structure Evicts (cap : Nat) (log left : List Entry) : Prop where
  exists_stretch : ∃ old new, log = old ++ new ∧
    old.countP Entry.isSettled = min (log.length - cap) (log.countP Entry.isSettled) ∧
    left = old.filter Entry.isPending ++ new
  filter_isPending : left.filter Entry.isPending = log.filter Entry.isPending
  eq_of_length_le : log.length ≤ cap → left = log

lemma evicts_evict (cap : Nat) (log : List Entry) : Evicts cap log (evict (some cap) log) where
  exists_stretch := exists_dropSettled (log.length - cap) log
  filter_isPending := by
    obtain ⟨old, new, hlog, -, hdrop⟩ := exists_dropSettled (log.length - cap) log
    rw [evict, hdrop, hlog, List.filter_append, List.filter_append, List.filter_filter]
    simp
  eq_of_length_le h := by rw [evict, Nat.sub_eq_zero_of_le h, dropSettled_zero]

namespace Evicts

lemma sublist (h : Evicts cap log left) : left.Sublist log := by
  obtain ⟨old, new, rfl, -, rfl⟩ := h.exists_stretch
  exact List.filter_sublist.append_right new

/-- What is left is within the capacity, or all of it is pending. -/
lemma length_le (h : Evicts cap log left) :
    left.length ≤ max cap (left.countP Entry.isPending) := by
  obtain ⟨old, new, hlog, hcount, hleft⟩ := h.exists_stretch
  have hpending : left.countP Entry.isPending = log.countP Entry.isPending := by
    rw [List.countP_eq_length_filter, List.countP_eq_length_filter, h.filter_isPending]
  have hparts (l : List Entry) :
      l.length = l.countP Entry.isPending + l.countP Entry.isSettled := by
    rw [List.length_eq_countP_add_countP Entry.isPending]
    congr 2
    funext e
    simp [Entry.isSettled]
  have hlength : left.length + old.countP Entry.isSettled = log.length := by
    rw [hleft, hlog, List.length_append, List.length_append, ← List.countP_eq_length_filter,
      hparts old]
    omega
  have hall := hparts log
  omega

end Evicts

/-- What a journal of the capacity keeps of a log. -/
def Retains (capacity : Option Nat) (log left : List Entry) : Prop :=
  match capacity with
  | none => left = log
  | some cap => Evicts cap log left

lemma retains_evict (capacity : Option Nat) (log : List Entry) :
    Retains capacity log (evict capacity log) := by
  cases capacity with
  | none => rfl
  | some cap => exact evicts_evict cap log

namespace Retains

lemma sublist (h : Retains capacity log left) : left.Sublist log := by
  cases capacity with
  | none => rw [show left = log from h]
  | some cap => exact Evicts.sublist h

lemma filter_isPending (h : Retains capacity log left) :
    left.filter Entry.isPending = log.filter Entry.isPending := by
  cases capacity with
  | none => rw [show left = log from h]
  | some cap => exact Evicts.filter_isPending h

/-- The pending entries are those of the whole log. -/
lemma exists_pending_iff {p : Entry → Prop} (h : Retains capacity log left) :
    (∃ e ∈ left, p e ∧ e.isPending = true) ↔ ∃ e ∈ log, p e ∧ e.isPending = true := by
  have hmem {l : List Entry} :
      (∃ e ∈ l, p e ∧ e.isPending = true) ↔ ∃ e ∈ l.filter Entry.isPending, p e := by
    refine exists_congr fun e => ?_
    rw [List.mem_filter, and_assoc, and_comm (b := p e)]
  rw [hmem, h.filter_isPending, ← hmem]

end Retains

/-! ### The log of a connection -/

variable {j : Journal} {c other : String}

lemma entries_empty (capacity : Option Nat) (c : String) : (empty capacity).entries c = [] := rfl

/-- The entry of a statement that is about to be sent. -/
def newEntry (j : Journal) (sql : String) (parameters : List Datum) : Entry :=
  { id := j.next, sql, parameters }

lemma entries_append_self (sql : String) (parameters : List Datum) :
    (j.append c sql parameters).1.entries c
      = evict j.capacity (j.entries c ++ [j.newEntry sql parameters]) := by
  simp [append, newEntry, entries]

lemma entries_append_of_ne (sql : String) (parameters : List Datum) (h : c ≠ other) :
    (j.append c sql parameters).1.entries other = j.entries other := by
  simp [append, entries, Keyed.find?_put_of_ne _ _ h]

lemma entries_clear_self : (j.clear c).entries c = [] := by
  simp [clear, entries]

lemma entries_clear_of_ne (h : c ≠ other) : (j.clear c).entries other = j.entries other := by
  simp [clear, entries, Keyed.find?_erase_of_ne _ h]

lemma entry?_eq_none_iff : j.entry? c id = none ↔ ∀ e ∈ j.entries c, e.id ≠ id := by
  simp [entryOf?, entry?]

lemma settle_of_forall_ne {change : Entry → Entry} (h : ∀ e ∈ j.entries c, e.id ≠ id) :
    j.settle c id change = (j, false) := by
  rw [settle, entry?_eq_none_iff.mpr h]

lemma settle_of_mem {change : Entry → Entry} (h : e ∈ j.entries c) :
    j.settle c e.id change = ({ j with
      logs := Keyed.put j.logs c (evict j.capacity (changeEntry e.id change (j.entries c))) },
      true) := by
  rw [settle]
  split
  · next hnone => exact absurd rfl (entry?_eq_none_iff.mp hnone e h)
  · rfl

lemma entries_settle_of_ne {change : Entry → Entry} (h : c ≠ other) :
    (j.settle c id change).1.entries other = j.entries other := by
  rw [settle]
  split
  · rfl
  · simp [entries, Keyed.find?_put_of_ne _ _ h]

/-- No two entries of the log have one identifier. -/
def Distinct (log : List Entry) : Prop :=
  (log.map Entry.id).Nodup

lemma Distinct.sublist (h : Distinct log) (hleft : left.Sublist log) : Distinct left :=
  List.Nodup.sublist (hleft.map Entry.id) h

lemma Distinct.id_ne {before after : List Entry} (h : Distinct (before ++ e :: after)) :
    ∀ k ∈ before ++ after, k.id ≠ e.id := by
  have hperm : (before ++ e :: after).Perm (e :: (before ++ after)) := List.perm_middle
  have hnodup := (hperm.map Entry.id).nodup_iff.mp h
  intro k hk heq
  exact (List.nodup_cons.mp hnodup).1 (heq ▸ List.mem_map_of_mem hk)

/-- Among distinct entries one alone is changed, in its place. -/
lemma changeEntry_append_cons {change : Entry → Entry} {before after : List Entry}
    (h : Distinct (before ++ e :: after)) :
    changeEntry e.id change (before ++ e :: after) = before ++ change e :: after := by
  have hkeep {l : List Entry} (hl : ∀ k ∈ l, k ∈ before ++ after) :
      changeEntry e.id change l = l := by
    rw [changeEntry]
    conv_rhs => rw [← List.map_id l]
    exact List.map_congr_left fun k hk => if_neg (h.id_ne k (hl k hk))
  have hparts : changeEntry e.id change (before ++ e :: after)
      = changeEntry e.id change before ++ change e :: changeEntry e.id change after := by
    simp [changeEntry]
  rw [hparts, hkeep fun k hk => List.mem_append_left after hk,
    hkeep fun k hk => List.mem_append_right before hk]

lemma entries_settle_of_mem {change : Entry → Entry} {before after : List Entry}
    (hlog : j.entries c = before ++ e :: after) (h : Distinct (j.entries c)) :
    (j.settle c e.id change).1.entries c = evict j.capacity (before ++ change e :: after) := by
  have hmem : e ∈ j.entries c := by
    rw [hlog]
    simp
  rw [settle_of_mem hmem, hlog, changeEntry_append_cons (hlog ▸ h)]
  simp [entries]

/-! ### Actions -/

/-- What is done to a journal from outside: a statement is entered, a statement is answered with its
output or the message of its failure, or the log of a connection is cleared. -/
inductive Action where
  | append (connection sql : String) (parameters : List Datum)
  | answer (connection : String) (id : Nat) (outcome : Except String Output)
  | clear (connection : String)

/-- Settle an entry with what came of its statement; tells whether it was still there. -/
def answer (j : Journal) (connection : String) (id : Nat) (outcome : Except String Output) :
    Journal × Bool :=
  match outcome with
  | .ok output => j.complete connection id output
  | .error message => j.fail connection id message

/-- The journal after an action. -/
def act (j : Journal) : Action → Journal
  | .append c sql parameters => (j.append c sql parameters).1
  | .answer c id outcome => (j.answer c id outcome).1
  | .clear c => j.clear c

/-- The journal after actions, one after the other. -/
def run (j : Journal) (actions : List Action) : Journal :=
  actions.foldl act j

end Journal

/-- The connection whose log an action is about. -/
def Journal.Action.connection : Journal.Action → String
  | append c _ _ | answer c _ _ | clear c => c

/-- The entry with what came of its statement. -/
def Entry.answered (outcome : Except String Output) (e : Entry) : Entry :=
  match outcome with
  | .ok output => e.complete output
  | .error message => e.fail message

@[simp] lemma Entry.id_answered (outcome : Except String Output) (e : Entry) :
    (e.answered outcome).id = e.id := by
  cases outcome <;> rfl

namespace Journal

variable {j : Journal} {c : String} {a : Action} {outcome : Except String Output}

lemma answer_eq_settle : j.answer c id outcome = j.settle c id (Entry.answered outcome) := by
  cases outcome <;> rfl

lemma answer_found_iff : (j.answer c id outcome).2 = true ↔ ∃ e ∈ j.entries c, e.id = id := by
  rw [answer_eq_settle]
  constructor
  · intro hfound
    by_contra hnone
    push Not at hnone
    rw [settle_of_forall_ne hnone] at hfound
    exact absurd hfound (by simp)
  · rintro ⟨e, he, rfl⟩
    rw [settle_of_mem he]

/-- What an action does to the log of a connection, in a journal of the capacity whose next entry
has the identifier `next`. -/
inductive Effect (capacity : Option Nat) (next : Nat) :
    Action → String → List Entry → List Entry → Prop
  | appended {c sql : String} {parameters : List Datum} {log left : List Entry}
    (h : Retains capacity (log ++ [{ id := next, sql, parameters }]) left) :
    Effect capacity next (.append c sql parameters) c log left
  | answered {c : String} {e : Entry} {outcome : Except String Output}
    {before after left : List Entry}
    (h : Retains capacity (before ++ e.answered outcome :: after) left) :
    Effect capacity next (.answer c e.id outcome) c (before ++ e :: after) left
  | unknown {c : String} {id : Nat} {outcome : Except String Output} {log : List Entry}
    (h : ∀ e ∈ log, e.id ≠ id) : Effect capacity next (.answer c id outcome) c log log
  | cleared {c : String} {log : List Entry} : Effect capacity next (.clear c) c log []
  | elsewhere {a : Action} {c : String} {log : List Entry} (h : a.connection ≠ c) :
    Effect capacity next a c log log

/-- The entries of each connection are distinct, and the next one differs from them all. -/
def Numbered (j : Journal) : Prop :=
  ∀ c, Distinct (j.entries c) ∧ ∀ e ∈ j.entries c, e.id < j.next

lemma capacity_settle {change : Entry → Entry} :
    (j.settle c id change).1.capacity = j.capacity ∧ (j.settle c id change).1.next = j.next := by
  rw [settle]
  split <;> exact ⟨rfl, rfl⟩

@[simp] lemma capacity_act : (j.act a).capacity = j.capacity := by
  cases a with
  | append c sql parameters => rfl
  | answer c id outcome =>
    rw [act, answer_eq_settle]
    exact capacity_settle.1
  | clear c => rfl

/-- Step lemma: an action does to each log what it should. -/
lemma effect_act (hj : ∀ c, Distinct (j.entries c)) (a : Action) (c : String) :
    Effect j.capacity j.next a c (j.entries c) ((j.act a).entries c) := by
  by_cases hc : a.connection = c
  · cases a with
    | append d sql parameters =>
      obtain rfl : d = c := hc
      rw [act, entries_append_self]
      exact .appended (retains_evict _ _)
    | answer d id outcome =>
      obtain rfl : d = c := hc
      rw [act, answer_eq_settle]
      by_cases hid : ∀ e ∈ j.entries d, e.id ≠ id
      · rw [settle_of_forall_ne hid]
        exact .unknown hid
      · push Not at hid
        obtain ⟨e, he, rfl⟩ := hid
        obtain ⟨before, after, hlog⟩ := List.append_of_mem he
        rw [entries_settle_of_mem hlog (hj d), hlog]
        exact .answered (retains_evict _ _)
    | clear d =>
      obtain rfl : d = c := hc
      rw [act, entries_clear_self]
      exact .cleared
  · have hentries : (j.act a).entries c = j.entries c := by
      cases a with
      | append d sql parameters => exact entries_append_of_ne sql parameters hc
      | answer d id outcome =>
        rw [act, answer_eq_settle]
        exact entries_settle_of_ne hc
      | clear d => exact entries_clear_of_ne hc
    rw [hentries]
    exact .elsewhere hc

/-! ### Runs -/

lemma next_le_act (j : Journal) (a : Action) : j.next ≤ (j.act a).next := by
  cases a with
  | append c sql parameters => exact Nat.le_succ j.next
  | answer c id outcome =>
    rw [act, answer_eq_settle]
    exact Nat.le_of_eq capacity_settle.2.symm
  | clear c => exact Nat.le_refl j.next

/-- Step lemma: an action keeps the entries of a log distinct and numbered below the next one. -/
lemma Effect.numbered {log left : List Entry}
    (h : Effect capacity j.next a c log left) (hdistinct : Distinct log)
    (hlt : ∀ e ∈ log, e.id < j.next) : Distinct left ∧ ∀ e ∈ left, e.id < (j.act a).next := by
  have hnext : ∀ e ∈ log, e.id < (j.act a).next := fun e he =>
    Nat.lt_of_lt_of_le (hlt e he) (next_le_act j a)
  cases h with
  | @appended c sql parameters log left h =>
    have hnew : Distinct (log ++ [{ id := j.next, sql, parameters }]) := by
      rw [Distinct, List.map_append, List.nodup_append]
      refine ⟨hdistinct, List.nodup_singleton _, fun x hx y hy => ?_⟩
      obtain ⟨e, he, rfl⟩ := List.mem_map.mp hx
      obtain rfl : y = j.next := by simpa using hy
      exact Nat.ne_of_lt (hlt e he)
    refine ⟨hnew.sublist h.sublist, fun e he => ?_⟩
    rcases List.mem_append.mp (h.sublist.subset he) with he | he
    · exact hnext e he
    · rw [List.mem_singleton.mp he]
      exact Nat.lt_succ_self j.next
  | @answered c k outcome before after left h =>
    have hids : (before ++ k.answered outcome :: after).map Entry.id
        = (before ++ k :: after).map Entry.id := by simp
    have hchanged : Distinct (before ++ k.answered outcome :: after) := by
      rwa [Distinct, hids]
    refine ⟨hchanged.sublist h.sublist, fun e he => ?_⟩
    have hmem := List.mem_map_of_mem (f := Entry.id) (h.sublist.subset he)
    rw [hids] at hmem
    obtain ⟨k', hk', hid⟩ := List.mem_map.mp hmem
    rw [← hid]
    exact hnext k' hk'
  | unknown h => exact ⟨hdistinct, hnext⟩
  | cleared => exact ⟨List.nodup_nil, by simp⟩
  | elsewhere h => exact ⟨hdistinct, hnext⟩

/-- The log is within the capacity, or all of it is pending. -/
def Bounded (capacity : Option Nat) (log : List Entry) : Prop :=
  ∀ cap, capacity = some cap → log.length ≤ max cap (log.countP Entry.isPending)

lemma Retains.bounded {log left : List Entry} (h : Retains capacity log left) :
    Bounded capacity left := by
  rintro cap rfl
  exact Evicts.length_le h

/-- Step lemma: an action leaves no log beyond the capacity. -/
lemma Effect.bounded {log left : List Entry} (h : Effect capacity n a c log left)
    (hlog : Bounded capacity log) : Bounded capacity left := by
  cases h with
  | appended h => exact h.bounded
  | answered h => exact h.bounded
  | unknown h => exact hlog
  | cleared => simp [Bounded]
  | elsewhere h => exact hlog

/-- Run lemma: what holds at the start holds after any actions. -/
lemma run_keeps (hj : j.Numbered) (hbound : ∀ c, Bounded j.capacity (j.entries c))
    (actions : List Action) : (j.run actions).capacity = j.capacity ∧ (j.run actions).Numbered ∧
      ∀ c, Bounded j.capacity ((j.run actions).entries c) := by
  induction actions generalizing j with
  | nil => exact ⟨rfl, hj, hbound⟩
  | cons a actions ih =>
    have heffect := effect_act (fun c => (hj c).1) a
    have hstep := ih (j := j.act a) (fun c => (heffect c).numbered (hj c).1 (hj c).2) fun c => by
      rw [capacity_act]
      exact (heffect c).bounded (hbound c)
    rwa [capacity_act] at hstep

/-- After any actions on an empty journal each log is within the capacity or all pending. A further
action leaves the logs of other connections alone; a log in which it enters or settles a statement
loses its oldest settled entries beyond the capacity, and none if there is no capacity. -/
theorem bounded_effect_run (capacity : Option Nat) (actions : List Action) (c : String) :
    Bounded capacity (((empty capacity).run actions).entries c) ∧
      ∀ a, Effect capacity ((empty capacity).run actions).next a c
        (((empty capacity).run actions).entries c)
        ((((empty capacity).run actions).act a).entries c) := by
  have hempty : (empty capacity).Numbered := fun c => ⟨List.nodup_nil, by simp [entries_empty]⟩
  obtain ⟨hcapacity, hnumbered, hbound⟩ :=
    run_keeps hempty (fun c => by simp [entries_empty, Bounded]) actions
  refine ⟨hbound c, fun a => ?_⟩
  have heffect := effect_act (fun d => (hnumbered d).1) a c
  rwa [hcapacity] at heffect

end Journal

end SqlWorkbench
