import Mathlib.Data.List.Infix
import Mathlib.Tactic.Common
import SqlWorkbench.Proofs.Session.Retention
import SqlWorkbench.Session.TransportError

/-!
# The history of a journal

What has happened to a journal tells what its logs may hold: entries of the statements that were
sent, in their order, each with what came of that statement, and all those that still run and were
not cleared. Main statement: entering, answering and clearing keep to this, and an answer finds its
entry exactly if the connection was not cleared in between.
-/

namespace SqlWorkbench

/-- What happens to a journal: a statement is sent over a connection, a statement is answered, which
may find its entry or not, or a connection is cleared. -/
inductive Event where
  | sent (id : Nat) (connection sql : String) (parameters : List Datum)
  | answered (id : Nat) (outcome : Except TransportError Output) (found : Bool)
  | cleared (connection : String)

/-- What has happened, the latest event last. -/
abbrev History := List Event

/-- What an entry takes from the statement that is sent. -/
structure Stamp where
  id : Nat
  sql : String
  parameters : List Datum

/-- The stamp of an entry. -/
def Entry.stamp (e : Entry) : Stamp :=
  ⟨e.id, e.sql, e.parameters⟩

/-- The entry of a statement that is sent. -/
def Entry.ofStamp (s : Stamp) : Entry where
  id := s.id
  sql := s.sql
  parameters := s.parameters

/-- The entry shows what has come of its statement so far. -/
def Entry.Shows (e : Entry) : Option (Except TransportError Output) → Prop
  | none => e.result = none ∧ e.duration = none ∧ e.error = none
  | some (.ok output) =>
    e.result = some output.rows ∧ e.duration = some (output.micros / 1000) ∧ e.error = none
  | some (.error error) => e.result = none ∧ e.duration = none ∧ e.error = some error.message

namespace Entry

variable {e : Entry} {outcome : Except TransportError Output}

@[simp] lemma stamp_ofStamp (s : Stamp) : (ofStamp s).stamp = s := rfl

@[simp] lemma stamp_answered {result : Except String Output} :
    (e.answered result).stamp = e.stamp := by
  cases result <;> rfl

lemma isPending_answered (result : Except String Output) :
    (e.answered result).isPending = false := by
  cases result <;> simp [answered, isPending, complete, fail]

lemma Shows.isPending_iff {o : Option (Except TransportError Output)} (he : e.Shows o) :
    e.isPending = true ↔ o = none := by
  rcases o with _ | error | output
  · simp [isPending, he.1, he.2.2]
  · simp [isPending, he.2.2]
  · simp [isPending, he.1]

/-- An entry has not both rows and a failure, and has a duration if it has rows. -/
lemma Shows.not_both {o : Option (Except TransportError Output)} (he : e.Shows o) :
    ¬ (e.result.isSome ∧ e.error.isSome) ∧ e.duration.isSome = e.result.isSome := by
  rcases o with _ | error | output
  · simp [he.1, he.2.1]
  · simp [he.1, he.2.1]
  · simp [he.1, he.2.1, he.2.2]

lemma Shows.answered (he : e.Shows none) :
    (e.answered (outcome.mapError TransportError.message)).Shows (some outcome) := by
  obtain ⟨hresult, hduration, herror⟩ := he
  cases outcome with
  | ok output => exact ⟨rfl, rfl, herror⟩
  | error error => exact ⟨hresult, hduration, rfl⟩

end Entry

namespace Event

/-- The stamp of a statement that is sent over the connection. -/
def stamp? (c : String) : Event → Option Stamp
  | sent id connection sql parameters =>
    if connection = c then some ⟨id, sql, parameters⟩ else none
  | _ => none

/-- The identifier that is given to a statement. -/
def sentId? : Event → Option Nat
  | sent id _ _ _ => some id
  | _ => none

/-- What comes of the statement with the identifier. -/
def outcome? (id : Nat) : Event → Option (Except TransportError Output)
  | answered k outcome _ => if k = id then some outcome else none
  | _ => none

end Event

namespace History

/-- The stamps of what was sent over a connection. -/
def stamps (h : History) (c : String) : List Stamp :=
  h.filterMap (Event.stamp? c)

/-- The identifiers that were given. -/
def sentIds (h : History) : List Nat :=
  h.filterMap Event.sentId?

/-- What has come of the statement with the identifier. -/
def outcome? (h : History) (id : Nat) : Option (Except TransportError Output) :=
  h.findSome? (Event.outcome? id)

/-- The statement was sent over the connection. -/
def Sent (h : History) (id : Nat) (c : String) : Prop :=
  ∃ sql parameters, Event.sent id c sql parameters ∈ h

/-- The connection was cleared since the statement was sent over it. -/
def ClearedSince (h : History) (id : Nat) (c : String) : Prop :=
  ∃ before sql parameters after, h = before ++ .sent id c sql parameters :: after ∧
    .cleared c ∈ after

variable {h : History} {v : Event} {id k : Nat} {c d sql : String} {parameters : List Datum}
  {found : Bool} {outcome : Except TransportError Output}

@[simp] lemma stamps_concat : stamps (h ++ [v]) c = h.stamps c ++ (v.stamp? c).toList := by
  cases hv : v.stamp? c <;> simp [stamps, hv]

@[simp] lemma sentIds_concat : sentIds (h ++ [v]) = h.sentIds ++ v.sentId?.toList := by
  cases hv : v.sentId? <;> simp [sentIds, hv]

@[simp] lemma outcome?_concat : outcome? (h ++ [v]) id = (h.outcome? id).or (v.outcome? id) := by
  cases hv : v.outcome? id <;> simp [outcome?, hv]

lemma sent_concat : Sent (h ++ [v]) id c ↔
    h.Sent id c ∨ ∃ sql parameters, v = .sent id c sql parameters := by
  simp only [Sent, List.mem_append, List.mem_singleton, exists_or, eq_comm]

/-- A connection is cleared since a statement was sent when it is cleared at last, or before. -/
lemma clearedSince_concat :
    ClearedSince (h ++ [v]) id c ↔ h.ClearedSince id c ∨ v = .cleared c ∧ h.Sent id c := by
  constructor
  · rintro ⟨before, sql, parameters, after, heq, hmem⟩
    rcases List.eq_nil_or_concat after with rfl | ⟨after, w, rfl⟩
    · simp at hmem
    rw [List.concat_eq_append, ← List.cons_append, ← List.append_assoc] at heq
    obtain ⟨rfl, hlast⟩ := List.append_inj' heq rfl
    obtain rfl : v = w := by simpa using hlast
    rw [List.concat_eq_append, List.mem_append, List.mem_singleton] at hmem
    rcases hmem with hmem | hmem
    · exact Or.inl ⟨before, sql, parameters, after, rfl, hmem⟩
    · exact Or.inr ⟨hmem.symm, sql, parameters, by simp⟩
  · rintro (⟨before, sql, parameters, after, rfl, hmem⟩ | ⟨rfl, sql, parameters, hsent⟩)
    · exact ⟨before, sql, parameters, after ++ [v], by simp, by simp [hmem]⟩
    · obtain ⟨before, after, rfl⟩ := List.append_of_mem hsent
      exact ⟨before, sql, parameters, after ++ [.cleared c], by simp, by simp⟩

lemma Sent.mem_sentIds (hs : h.Sent id c) : id ∈ h.sentIds := by
  obtain ⟨sql, parameters, hmem⟩ := hs
  exact List.mem_filterMap.mpr ⟨_, hmem, rfl⟩

lemma ClearedSince.sent (hc : h.ClearedSince id c) : h.Sent id c := by
  obtain ⟨before, sql, parameters, after, rfl, -⟩ := hc
  exact ⟨sql, parameters, by simp⟩

/-- A statement that was sent is the only one with its identifier. -/
lemma Sent.connection_eq (hids : h.sentIds.Nodup) (hc : h.Sent id c) (hd : h.Sent id d) :
    c = d := by
  induction h with
  | nil => simp [Sent] at hc
  | cons v h ih =>
    have hfirst {b : String} {sql : String} {parameters : List Datum}
        (hv : v = .sent id b sql parameters) : id ∉ sentIds h := by
      subst hv
      exact (List.nodup_cons.mp hids).1
    have hrest : (sentIds h).Nodup := hids.sublist (List.sublist_cons_self v h |>.filterMap _)
    obtain ⟨sql, parameters, hc⟩ := hc
    obtain ⟨sql', parameters', hd⟩ := hd
    rcases List.mem_cons.mp hc with hcv | hc <;> rcases List.mem_cons.mp hd with hdv | hd
    · rw [← hdv] at hcv
      cases hcv
      rfl
    · exact absurd (Sent.mem_sentIds ⟨sql', parameters', hd⟩) (hfirst hcv.symm)
    · exact absurd (Sent.mem_sentIds ⟨sql, parameters, hc⟩) (hfirst hdv.symm)
    · exact ih hrest ⟨sql, parameters, hc⟩ ⟨sql', parameters', hd⟩

lemma mem_stamps_iff {s : Stamp} :
    s ∈ h.stamps c ↔ .sent s.id c s.sql s.parameters ∈ h := by
  rw [stamps, List.mem_filterMap]
  constructor
  · rintro ⟨v, hv, hs⟩
    cases v with
    | sent id connection sql parameters =>
      simp only [Event.stamp?] at hs
      split at hs
      · next hc =>
        cases hs
        exact hc ▸ hv
      · cases hs
    | _ => cases hs
  · intro hmem
    exact ⟨_, hmem, by simp [Event.stamp?]⟩

/-- The statement was sent over the connection, has not been answered, and the connection has not
been cleared since. -/
def Awaits (h : History) (id : Nat) (c : String) : Prop :=
  h.Sent id c ∧ h.outcome? id = none ∧ ¬ h.ClearedSince id c

/-- Identifiers are given once, and only statements that were sent are answered. -/
structure Proper (h : History) : Prop where
  nodup : h.sentIds.Nodup
  sent_of_answered : ∀ id, h.outcome? id ≠ none → ∃ c, h.Sent id c

lemma Proper.outcome?_eq_none (hp : h.Proper) (hid : id ∉ h.sentIds) : h.outcome? id = none := by
  by_contra hsome
  obtain ⟨c, hc⟩ := hp.sent_of_answered id hsome
  exact hid hc.mem_sentIds

lemma awaits_concat_sent (hp : h.Proper) (hid : id ∉ h.sentIds) :
    Awaits (h ++ [.sent id c sql parameters]) k c ↔ h.Awaits k c ∨ k = id := by
  have hsent : Sent (h ++ [.sent id c sql parameters]) k c ↔ h.Sent k c ∨ k = id := by
    rw [sent_concat]
    refine or_congr_right ⟨?_, ?_⟩
    · rintro ⟨_, _, heq⟩
      cases heq
      rfl
    · rintro rfl
      exact ⟨sql, parameters, rfl⟩
  have houtcome : Event.outcome? k (.sent id c sql parameters) = none := rfl
  simp only [Awaits, hsent, outcome?_concat, houtcome, Option.or_none, clearedSince_concat,
    reduceCtorEq, false_and, or_false]
  constructor
  · rintro ⟨hk | hk, hrest⟩
    · exact Or.inl ⟨hk, hrest⟩
    · exact Or.inr hk
  · rintro (⟨hk, hrest⟩ | rfl)
    · exact ⟨Or.inl hk, hrest⟩
    · exact ⟨Or.inr rfl, hp.outcome?_eq_none hid, fun hc => hid hc.sent.mem_sentIds⟩

lemma awaits_concat_answered :
    Awaits (h ++ [.answered id outcome found]) k c ↔ h.Awaits k c ∧ k ≠ id := by
  have hsent : Sent (h ++ [.answered id outcome found]) k c ↔ h.Sent k c := by
    simp [sent_concat]
  have houtcome : Event.outcome? k (.answered id outcome found) = none ↔ k ≠ id := by
    simp [Event.outcome?, eq_comm]
  simp only [Awaits, hsent, outcome?_concat, Option.or_eq_none_iff, houtcome, clearedSince_concat,
    reduceCtorEq, false_and, or_false]
  tauto

lemma not_awaits_concat_cleared : ¬ Awaits (h ++ [.cleared c]) k c := by
  rintro ⟨hsent, -, hclear⟩
  rw [clearedSince_concat, not_or] at hclear
  refine hclear.2 ⟨rfl, ?_⟩
  simpa [sent_concat] using hsent

/-- An answer has found its entry exactly if the connection was not cleared since its statement was
sent. -/
def Justified (h : History) : Prop :=
  ∀ (before : History) id outcome found, before ++ [.answered id outcome found] <+: h →
    ∃ c, before.Sent id c ∧ (found = true ↔ ¬ before.ClearedSince id c)

/-! ### What a log holds -/

/-- The log of a connection holds entries of statements that were sent over it, in their order, each
with what has come of its statement, and among them those of all statements that are awaited. -/
structure Records (h : History) (c : String) (log : List Entry) : Prop where
  sublist : (log.map Entry.stamp).Sublist (h.stamps c)
  shows : ∀ e ∈ log, e.Shows (h.outcome? e.id)
  pending_iff : ∀ id, (∃ e ∈ log, e.id = id ∧ e.isPending = true) ↔ h.Awaits id c

variable {log left : List Entry} {e : Entry} {capacity : Option Nat}

lemma map_id_stamps_sublist (h : History) (c : String) :
    ((h.stamps c).map Stamp.id).Sublist h.sentIds := by
  induction h using List.reverseRecOn with
  | nil => exact List.Sublist.slnil
  | append_singleton h v ih =>
    rw [stamps_concat, sentIds_concat, List.map_append]
    refine List.Sublist.append ih ?_
    cases v with
    | sent id connection sql parameters =>
      rw [Event.stamp?]
      split <;> simp [Event.sentId?]
    | _ => exact List.Sublist.slnil

namespace Records

lemma sent (hr : h.Records c log) (he : e ∈ log) : h.Sent e.id c :=
  ⟨e.sql, e.parameters, mem_stamps_iff.mp (hr.sublist.subset (List.mem_map_of_mem he))⟩

lemma distinct (hr : h.Records c log) (hp : h.Proper) : Journal.Distinct log := by
  have hids := (hr.sublist.map Stamp.id).trans (map_id_stamps_sublist h c)
  rw [List.map_map] at hids
  exact hp.nodup.sublist hids

/-- What happens elsewhere leaves a log right. -/
lemma concat_elsewhere (hr : h.Records c log) (hstamp : v.stamp? c = none)
    (houtcome : ∀ id, v.outcome? id = none) (hclear : v ≠ .cleared c) :
    Records (h ++ [v]) c log where
  sublist := by simpa [hstamp] using hr.sublist
  shows e he := by simpa [houtcome] using hr.shows e he
  pending_iff id := by
    rw [hr.pending_iff]
    have hsent : Sent (h ++ [v]) id c ↔ h.Sent id c := by
      rw [sent_concat, or_iff_left]
      rintro ⟨sql, parameters, rfl⟩
      simp [Event.stamp?] at hstamp
    simp only [Awaits, hsent, outcome?_concat, houtcome, Option.or_none, clearedSince_concat,
      hclear, false_and, or_false]

/-- A statement that is sent over the connection is entered at the end. -/
lemma concat_sent (hr : h.Records c log) (hp : h.Proper) (hid : id ∉ h.sentIds)
    (hleft : Journal.Retains capacity (log ++ [Entry.ofStamp ⟨id, sql, parameters⟩]) left) :
    Records (h ++ [.sent id c sql parameters]) c left where
  sublist := by
    have hstamps := hleft.sublist.map Entry.stamp
    rw [List.map_append, List.map_singleton, Entry.stamp_ofStamp] at hstamps
    simpa [Event.stamp?] using hstamps.trans (hr.sublist.append (List.Sublist.refl _))
  shows e he := by
    have houtcome : Event.outcome? e.id (.sent id c sql parameters) = none := rfl
    rw [outcome?_concat, houtcome, Option.or_none]
    rcases List.mem_append.mp (hleft.sublist.subset he) with he | he
    · exact hr.shows e he
    · obtain rfl := List.mem_singleton.mp he
      rw [show h.outcome? (Entry.ofStamp ⟨id, sql, parameters⟩).id = none from
        hp.outcome?_eq_none hid]
      exact ⟨rfl, rfl, rfl⟩
  pending_iff k := by
    rw [Journal.Retains.exists_pending_iff hleft, awaits_concat_sent hp hid, ← hr.pending_iff]
    simp only [List.mem_append, List.mem_singleton, or_and_right, exists_or, exists_eq_left]
    refine or_congr_right ⟨fun hk => hk.1.symm, fun hk => ⟨hk.symm, rfl⟩⟩

/-- A statement that is answered shows what has come of it. -/
lemma concat_answered {before after : List Entry} (hr : h.Records c (before ++ e :: after))
    (hp : h.Proper) (hopen : h.outcome? e.id = none)
    (hleft : Journal.Retains capacity
      (before ++ e.answered (outcome.mapError TransportError.message) :: after) left) :
    Records (h ++ [.answered e.id outcome found]) c left := by
  have hothers := (hr.distinct hp).id_ne
  have hmem {k : Entry} (hk : k ∈ before ++ after) : k ∈ before ++ e :: after := by
    simp only [List.mem_append, List.mem_cons] at hk ⊢
    tauto
  have hcases {k : Entry} {answer : Entry} (hk : k ∈ before ++ answer :: after) :
      k ∈ before ++ after ∨ k = answer := by
    simp only [List.mem_append, List.mem_cons] at hk ⊢
    tauto
  refine ⟨?_, fun k hk => ?_, fun id => ?_⟩
  · have hstamps := hleft.sublist.map Entry.stamp
    rw [List.map_append, List.map_cons, Entry.stamp_answered] at hstamps
    simpa [Event.stamp?] using hstamps.trans (by simpa using hr.sublist)
  · rw [outcome?_concat]
    rcases hcases (hleft.sublist.subset hk) with hk | rfl
    · have hother : Event.outcome? k.id (.answered e.id outcome found) = none :=
        if_neg (hothers k hk).symm
      rw [hother, Option.or_none]
      exact hr.shows k (hmem hk)
    · have hself : Event.outcome? e.id (.answered e.id outcome found) = some outcome := if_pos rfl
      rw [Entry.id_answered, hopen, hself, Option.none_or]
      exact Entry.Shows.answered (hopen ▸ hr.shows e (by simp))
  · rw [Journal.Retains.exists_pending_iff hleft, awaits_concat_answered, ← hr.pending_iff]
    constructor
    · rintro ⟨k, hk, rfl, hpending⟩
      rcases hcases hk with hk | rfl
      · exact ⟨⟨k, hmem hk, rfl, hpending⟩, hothers k hk⟩
      · rw [Entry.isPending_answered] at hpending
        exact absurd hpending (by simp)
    · rintro ⟨⟨k, hk, rfl, hpending⟩, hne⟩
      rcases hcases hk with hk | rfl
      · refine ⟨k, ?_, rfl, hpending⟩
        simp only [List.mem_append, List.mem_cons] at hk ⊢
        tauto
      · exact absurd rfl hne

/-- An answer to a statement of another entry, or of none, leaves the log right. -/
lemma concat_answered_of_ne (hr : h.Records c log) (hid : ∀ e ∈ log, e.id ≠ id) :
    Records (h ++ [.answered id outcome found]) c log where
  sublist := by simpa [Event.stamp?] using hr.sublist
  shows e he := by
    have hother : Event.outcome? e.id (.answered id outcome found) = none :=
      if_neg (hid e he).symm
    rw [outcome?_concat, hother, Option.or_none]
    exact hr.shows e he
  pending_iff k := by
    rw [awaits_concat_answered, ← hr.pending_iff, iff_self_and]
    rintro ⟨e, he, rfl, -⟩
    exact hid e he

lemma concat_cleared : Records (h ++ [.cleared c]) c [] where
  sublist := List.nil_sublist _
  shows := by simp
  pending_iff id := by simp [not_awaits_concat_cleared]

end Records

/-! ### Steps -/

/-- All that a journal holds is right for its history. -/
structure Tracks (h : History) (j : Journal) : Prop where
  proper : h.Proper
  justified : h.Justified
  records : ∀ c, h.Records c (j.entries c)

variable {j : Journal}

lemma Justified.concat (hj : h.Justified)
    (hv : ∀ id outcome found, v = .answered id outcome found →
      ∃ c, h.Sent id c ∧ (found = true ↔ ¬ h.ClearedSince id c)) : Justified (h ++ [v]) := by
  intro before id outcome found hbefore
  rcases List.prefix_concat_iff.mp hbefore with heq | hbefore
  · obtain ⟨rfl, hlast⟩ := List.append_inj' heq rfl
    exact hv id outcome found (by simpa using hlast.symm)
  · exact hj before id outcome found hbefore

namespace Tracks

lemma distinct (ht : h.Tracks j) (c : String) : Journal.Distinct (j.entries c) :=
  (ht.records c).distinct ht.proper

lemma empty (capacity : Option Nat) : Tracks [] (.empty capacity) where
  proper := ⟨List.nodup_nil, fun _ hsome => absurd rfl hsome⟩
  justified before id outcome found hbefore := by simp at hbefore
  records c := by
    refine ⟨List.Sublist.slnil, by simp [Journal.entries_empty], fun id => ?_⟩
    simp [Journal.entries_empty, Awaits, Sent]

/-- Step lemma: a statement is sent. -/
lemma concat_sent (ht : h.Tracks j) (hid : id ∉ h.sentIds) (c sql : String)
    (parameters : List Datum) :
    Tracks (h ++ [.sent id c sql parameters])
      ({ j with next := id }.append c sql parameters).1 where
  proper := by
    refine ⟨?_, fun k hk => ?_⟩
    · rw [sentIds_concat, List.nodup_append_comm]
      exact List.nodup_cons.mpr ⟨hid, ht.proper.nodup⟩
    · have houtcome : Event.outcome? k (.sent id c sql parameters) = none := rfl
      rw [outcome?_concat, houtcome, Option.or_none] at hk
      obtain ⟨d, hd⟩ := ht.proper.sent_of_answered k hk
      exact ⟨d, sent_concat.mpr (Or.inl hd)⟩
  justified := ht.justified.concat (by simp)
  records d := by
    rcases eq_or_ne c d with rfl | hd
    · rw [Journal.entries_append_self]
      exact (ht.records c).concat_sent ht.proper hid (Journal.retains_evict _ _)
    · rw [Journal.entries_append_of_ne _ _ hd]
      exact (ht.records d).concat_elsewhere (if_neg hd) (fun _ => rfl) (by simp)

/-- Step lemma: a connection is cleared. -/
lemma concat_cleared (ht : h.Tracks j) (c : String) :
    Tracks (h ++ [.cleared c]) (j.clear c) where
  proper := by
    refine ⟨by simpa [Event.sentId?] using ht.proper.nodup, fun k hk => ?_⟩
    have houtcome : Event.outcome? k (.cleared c) = none := rfl
    rw [outcome?_concat, houtcome, Option.or_none] at hk
    obtain ⟨d, hd⟩ := ht.proper.sent_of_answered k hk
    exact ⟨d, sent_concat.mpr (Or.inl hd)⟩
  justified := ht.justified.concat (by simp)
  records d := by
    rcases eq_or_ne c d with rfl | hd
    · rw [Journal.entries_clear_self]
      exact Records.concat_cleared
    · rw [Journal.entries_clear_of_ne hd]
      exact (ht.records d).concat_elsewhere rfl (fun _ => rfl) (by simpa using hd)

/-- An answer finds its entry if the connection was not cleared since. -/
lemma found_iff (ht : h.Tracks j) (hsent : h.Sent id c) (hopen : h.outcome? id = none)
    (result : Except String Output) :
    (j.answer c id result).2 = true ↔ ¬ h.ClearedSince id c := by
  have hpending : (∃ e ∈ j.entries c, e.id = id) ↔
      ∃ e ∈ j.entries c, e.id = id ∧ e.isPending = true := by
    refine exists_congr fun e => and_congr_right fun he => ⟨?_, And.left⟩
    rintro rfl
    exact ⟨rfl, ((ht.records c).shows e he).isPending_iff.mpr hopen⟩
  rw [Journal.answer_found_iff, hpending, (ht.records c).pending_iff, Awaits]
  exact ⟨fun hk => hk.2.2, fun hk => ⟨hsent, hopen, hk⟩⟩

/-- Step lemma: a statement is answered. -/
lemma concat_answered (ht : h.Tracks j) (hsent : h.Sent id c) (hopen : h.outcome? id = none)
    (outcome : Except TransportError Output) :
    Tracks
      (h ++ [.answered id outcome
        (j.answer c id (outcome.mapError TransportError.message)).2])
      (j.answer c id (outcome.mapError TransportError.message)).1 where
  proper := by
    refine ⟨by simpa [Event.sentId?] using ht.proper.nodup, fun k hk => ?_⟩
    rw [outcome?_concat, Ne, Option.or_eq_none_iff, not_and_or] at hk
    rcases hk with hk | hk
    · obtain ⟨d, hd⟩ := ht.proper.sent_of_answered k hk
      exact ⟨d, sent_concat.mpr (Or.inl hd)⟩
    · obtain rfl : id = k := by
        by_contra hne
        exact hk (if_neg hne)
      exact ⟨c, sent_concat.mpr (Or.inl hsent)⟩
  justified := ht.justified.concat fun k o found heq => by
    cases heq
    exact ⟨c, hsent, ht.found_iff hsent hopen _⟩
  records d := by
    rw [Journal.answer_eq_settle]
    rcases eq_or_ne c d with rfl | hd
    · by_cases hid : ∀ e ∈ j.entries c, e.id ≠ id
      · rw [Journal.settle_of_forall_ne hid]
        exact (ht.records c).concat_answered_of_ne hid
      · push Not at hid
        obtain ⟨e, he, rfl⟩ := hid
        obtain ⟨before, after, hlog⟩ := List.append_of_mem he
        rw [Journal.entries_settle_of_mem hlog (ht.distinct c)]
        have hrecords := ht.records c
        rw [hlog] at hrecords
        exact hrecords.concat_answered ht.proper hopen (Journal.retains_evict _ _)
    · rw [Journal.entries_settle_of_ne hd]
      refine (ht.records d).concat_answered_of_ne fun e he heq => hd ?_
      exact hsent.connection_eq ht.proper.nodup (heq ▸ (ht.records d).sent he)

end Tracks

end History

end SqlWorkbench
