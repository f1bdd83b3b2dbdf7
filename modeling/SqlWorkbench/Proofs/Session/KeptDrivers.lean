import Mathlib.Data.List.Induction
import Mathlib.Tactic.Common
import SqlWorkbench.Session.Driver

/-!
# Kept drivers

A call for a driver looks for the one that is kept and, if that does not fit, builds another and
keeps it; between the two other calls may do the same. Main statement: every call is answered with
a driver of its own connection, however the calls overlap; and when they do not, a driver is given
out again exactly as long as its connection stays the same and is not forgotten.
-/

namespace SqlWorkbench

/-- The driver is for the dialect and the connection string of the connection, and puts queries into
the words of that dialect. -/
structure Driver.Serves (d : Driver) (c : Connection) : Prop where
  dialect : d.dialect = c.dialect
  connectionString : d.connectionString = c.connectionString
  style : d.style = .binding c.dialect

namespace Driver

variable {d : Driver} {c other : Connection}

lemma fits_iff : d.fits c = true ↔
    d.dialect = c.dialect ∧ d.connectionString = c.connectionString := by
  simp [fits]

lemma serves_ofConnection (serial : Nat) (c : Connection) : (ofConnection serial c).Serves c :=
  ⟨rfl, rfl, rfl⟩

lemma Serves.fits_iff (h : d.Serves other) : d.fits c = true ↔
    other.dialect = c.dialect ∧ other.connectionString = c.connectionString := by
  rw [Driver.fits_iff, h.dialect, h.connectionString]

/-- A driver that fits another connection serves it too. -/
lemma Serves.of_fits (h : d.Serves other) (hfits : d.fits c = true) : d.Serves c := by
  obtain ⟨hdialect, hstring⟩ := h.fits_iff.mp hfits
  exact ⟨h.dialect.trans hdialect, h.connectionString.trans hstring, hdialect ▸ h.style⟩

end Driver

namespace Drivers

variable {ds : Drivers} {c : Connection} {d : Driver} {id : String}

lemma find?_eq_some_iff :
    ds.find? c = some d ↔ Keyed.find? ds.kept c.id = some d ∧ d.fits c = true := by
  rw [find?, Option.filter_eq_some_iff]

lemma find?_kept_build : Keyed.find? (ds.build c).1.kept id =
    if c.id = id then some (ds.build c).2 else Keyed.find? ds.kept id := by
  split
  · next h => rw [← h, build, Keyed.find?_put_self]
  · next h => rw [build, Keyed.find?_put_of_ne _ _ h]

lemma find?_kept_forget {other : String} : Keyed.find? (ds.forget id).1.kept other =
    if id = other then none else Keyed.find? ds.kept other := by
  split
  · next h => rw [← h, forget, Keyed.find?_erase_self]
  · next h => rw [forget, Keyed.find?_erase_of_ne _ h]

/-! ### Calls that overlap -/

/-- Calls for drivers, each of which may be between its two halves. -/
structure Overlap where
  drivers : Drivers := {}
  /-- The connections of the calls that found no driver that fits, and have to build one. -/
  building : List Connection := []
  /-- The connections of the calls that are answered, each with its driver. -/
  answers : List (Connection × Driver) := []

namespace Overlap

/-- The first half of a call, which answers it if there is a driver that fits. -/
def look (w : Overlap) (c : Connection) : Overlap :=
  match w.drivers.find? c with
  | some d => { w with answers := w.answers ++ [(c, d)] }
  | none => { w with building := w.building ++ [c] }

/-- The second half of a call that is not answered by the first. -/
def finish (w : Overlap) (c : Connection) : Overlap where
  drivers := (w.drivers.build c).1
  building := w.building.erase c
  answers := w.answers ++ [(c, (w.drivers.build c).2)]

/-- A driver is forgotten. -/
def forget (w : Overlap) (id : String) : Overlap :=
  { w with drivers := (w.drivers.forget id).1 }

/-- What comes of calls whose halves follow one another in any order. -/
inductive Reachable : Overlap → Prop
  | start : Reachable {}
  | look {w : Overlap} (h : Reachable w) (c : Connection) : Reachable (w.look c)
  | finish {w : Overlap} (h : Reachable w) {c : Connection} (hc : c ∈ w.building) :
    Reachable (w.finish c)
  | forget {w : Overlap} (h : Reachable w) (id : String) : Reachable (w.forget id)

/-- A call whose halves are not parted. -/
lemma Reachable.driver {ds : Drivers} {answers : List (Connection × Driver)}
    (h : Reachable ⟨ds, [], answers⟩) (c : Connection) :
    Reachable ⟨(ds.driver c).1, [], answers ++ [(c, (ds.driver c).2)]⟩ := by
  have hlook := h.look c
  rw [Overlap.look] at hlook
  rw [Drivers.driver]
  cases hfind : ds.find? c with
  | some d => simpa [hfind] using hlook
  | none =>
    simp only [hfind, List.nil_append] at hlook
    have hfinish := hlook.finish List.mem_cons_self
    rwa [Overlap.finish, List.erase_cons_head] at hfinish

/-- Each kept driver was built for some connection, and each call is answered with a driver of its
own. -/
structure Sound (w : Overlap) : Prop where
  kept : ∀ id d, Keyed.find? w.drivers.kept id = some d → ∃ c, d.Serves c
  serves : ∀ c d, (c, d) ∈ w.answers → d.Serves c

variable {w : Overlap}

/-- Step lemma: what a call finds is checked against its own connection. -/
lemma Sound.look (h : w.Sound) (c : Connection) : (w.look c).Sound := by
  rw [Overlap.look]
  split
  · next d hfind =>
    obtain ⟨hkept, hfits⟩ := find?_eq_some_iff.mp hfind
    obtain ⟨other, hother⟩ := h.kept c.id d hkept
    refine ⟨h.kept, fun a e ha => ?_⟩
    rcases List.mem_append.mp ha with ha | ha
    · exact h.serves a e ha
    · obtain ⟨rfl, rfl⟩ : a = c ∧ e = d := by simpa using ha
      exact hother.of_fits hfits
  · exact ⟨h.kept, h.serves⟩

/-- Step lemma: a call that builds does not look again at what others have kept since. -/
lemma Sound.finish (h : w.Sound) (c : Connection) : (w.finish c).Sound := by
  have hbuilt : (w.drivers.build c).2.Serves c := Driver.serves_ofConnection w.drivers.built c
  refine ⟨fun id d hd => ?_, fun a e ha => ?_⟩
  · rw [Overlap.finish, find?_kept_build] at hd
    split at hd
    · cases hd
      exact ⟨c, hbuilt⟩
    · exact h.kept id d hd
  · rcases List.mem_append.mp ha with ha | ha
    · exact h.serves a e ha
    · obtain ⟨rfl, rfl⟩ : a = c ∧ e = (w.drivers.build c).2 := by simpa using ha
      exact hbuilt

lemma Sound.forget (h : w.Sound) (id : String) : (w.forget id).Sound := by
  refine ⟨fun other d hd => ?_, h.serves⟩
  rw [Overlap.forget, find?_kept_forget] at hd
  split at hd
  · cases hd
  · exact h.kept other d hd

/-- Run lemma: no call is answered with a driver of another connection. -/
lemma sound_of_reachable (h : Reachable w) : w.Sound := by
  induction h with
  | start => exact ⟨by simp, by simp⟩
  | look _ c ih => exact ih.look c
  | finish _ _ ih => exact ih.finish _
  | forget _ id ih => exact ih.forget id

end Overlap

/-! ### Calls one after the other -/

/-- A call for a driver, or to forget one. -/
inductive Call where
  | ask (c : Connection)
  | forget (id : String)

/-- A call with its answer. -/
inductive Event where
  | asked (c : Connection) (d : Driver)
  | forgot (id : String) (found : Bool)

namespace Event

/-- The identifier that the call is about. -/
def about : Event → String
  | asked c _ => c.id
  | forgot id _ => id

@[simp] lemma about_asked (c : Connection) (d : Driver) : (asked c d).about = c.id := rfl

@[simp] lemma about_forgot (id : String) (found : Bool) : (forgot id found).about = id := rfl

/-- The call without its answer. -/
def call : Event → Call
  | asked c _ => .ask c
  | forgot id _ => .forget id

/-- The driver that is given out. -/
def driver? : Event → Option Driver
  | asked _ d => some d
  | forgot _ _ => none

/-- The connection that is answered, with its driver. -/
def answer? : Event → Option (Connection × Driver)
  | asked c d => some (c, d)
  | forgot _ _ => none

end Event

/-- What has happened, the latest call last. -/
abbrev Log := List Event

namespace Log

/-- The last call for a driver under the identifier, its answer, and what has happened since. -/
def Previous (log : Log) (id : String) (last : Connection) (d : Driver) (since : Log) : Prop :=
  (∃ before, log = before ++ .asked last d :: since) ∧ last.id = id ∧
    ∀ c e, .asked c e ∈ since → c.id ≠ id

/-- A driver was asked for under the identifier, and not forgotten since. -/
def Holds (log : Log) (id : String) : Prop :=
  ∃ before c d since, log = before ++ .asked c d :: since ∧ c.id = id ∧
    ∀ found, .forgot id found ∉ since

/-- The last call about the identifier. -/
def last? (log : Log) (id : String) : Option Event :=
  log.reverse.find? fun e => e.about == id

/-- The driver that the call is answered with serves its connection. It is the one of the previous
call with the same identifier if that was for the same dialect and connection string and no call has
forgotten it since, and otherwise it is none that was given out before. -/
structure Answers (before : Log) (c : Connection) (d : Driver) : Prop where
  serves : d.Serves c
  eq_iff : ∀ last e since, before.Previous c.id last e since →
    (d = e ↔ last.dialect = c.dialect ∧ last.connectionString = c.connectionString ∧
      ∀ found, .forgot c.id found ∉ since)
  fresh : (∀ last e since, before.Previous c.id last e since → d ≠ e) →
    ∀ other e, .asked other e ∈ before → e.serial ≠ d.serial

/-- A driver is found to be forgotten exactly if one is held. -/
def Justifies (before : Log) : Event → Prop
  | .asked c d => before.Answers c d
  | .forgot id found => found = true ↔ before.Holds id

/-- Each call is answered as those before it tell. -/
def Justified (log : Log) : Prop :=
  ∀ (before : Log) e since, log = before ++ e :: since → before.Justifies e

variable {log before since : Log} {e : Event} {id : String} {c : Connection} {d : Driver}

lemma last?_append : last? (before ++ since) id = (last? since id).or (last? before id) := by
  rw [last?, List.reverse_append, List.find?_append, ← last?, ← last?]

@[simp] lemma last?_singleton : last? [e] id = if e.about = id then some e else none := by
  simp [last?, List.find?_singleton]

/-- One more call is answered as those before it tell. -/
lemma Justified.concat (h : log.Justified) (he : log.Justifies e) : Justified (log ++ [e]) := by
  intro before v since heq
  rcases List.eq_nil_or_concat since with rfl | ⟨since, w, rfl⟩
  · obtain ⟨rfl, hlast⟩ := List.append_inj' heq rfl
    cases hlast
    exact he
  · rw [List.concat_eq_append, ← List.cons_append, ← List.append_assoc] at heq
    exact h before v since (List.append_inj' heq rfl).1

lemma last?_concat : last? (log ++ [e]) id = if e.about = id then some e else log.last? id := by
  rw [last?_append, last?_singleton]
  split <;> rfl

lemma last?_eq_none_iff : log.last? id = none ↔ ∀ e ∈ log, e.about ≠ id := by
  simp [last?]

lemma of_last?_eq_some (h : log.last? id = some e) :
    e.about = id ∧ ∃ before since, log = before ++ e :: since ∧ ∀ v ∈ since, v.about ≠ id := by
  rw [last?, List.find?_eq_some_iff_append] at h
  obtain ⟨hid, since, before, heq, hnot⟩ := h
  refine ⟨by simpa using hid, before.reverse, since.reverse, ?_, fun v hv => ?_⟩
  · rw [← List.reverse_reverse log, heq]
    simp
  · simpa using hnot v (List.mem_reverse.mp hv)

lemma previous_of_last? (h : log.last? id = some (.asked c d)) :
    ∃ since, log.Previous id c d since := by
  obtain ⟨hid, before, since, rfl, hnot⟩ := of_last?_eq_some h
  exact ⟨since, ⟨before, rfl⟩, hid, fun other e hmem => hnot _ hmem⟩

lemma Previous.mem (h : log.Previous id c d since) : .asked c d ∈ log := by
  obtain ⟨⟨before, rfl⟩, -, -⟩ := h
  simp

/-- The previous call is the last about its identifier if nothing was forgotten since. -/
lemma Previous.last?_eq_some (h : log.Previous id c d since)
    (hkept : ∀ found, .forgot id found ∉ since) : log.last? id = some (.asked c d) := by
  obtain ⟨⟨before, rfl⟩, hid, hnot⟩ := h
  have hsince : last? since id = none := by
    refine last?_eq_none_iff.mpr fun e he heq => ?_
    cases e with
    | asked other e => exact hnot other e he heq
    | forgot other found => exact hkept found (heq ▸ he)
  rw [List.append_cons, last?_append, hsince, Option.none_or, last?_concat]
  exact if_pos hid

/-- Otherwise the last call about it has forgotten the driver. -/
lemma Previous.driver?_last?_eq_none {found : Bool} (h : log.Previous id c d since)
    (hforgot : .forgot id found ∈ since) : (log.last? id).bind Event.driver? = none := by
  obtain ⟨⟨before, rfl⟩, -, hnot⟩ := h
  cases hlast : last? since id with
  | none => exact absurd rfl (last?_eq_none_iff.mp hlast _ hforgot)
  | some e =>
    obtain ⟨hid, early, late, rfl, -⟩ := of_last?_eq_some hlast
    rw [List.append_cons, last?_append, hlast]
    cases e with
    | asked other e => exact absurd hid (hnot other e (by simp))
    | forgot other found => rfl

lemma holds_iff : log.Holds id ↔ ∃ d, (log.last? id).bind Event.driver? = some d := by
  constructor
  · rintro ⟨before, c, d, since, rfl, hid, hnot⟩
    rw [List.append_cons, last?_append, last?_concat, Event.about_asked, if_pos hid]
    cases hlast : last? since id with
    | none => exact ⟨d, rfl⟩
    | some e =>
      obtain ⟨rfl, early, late, rfl, -⟩ := of_last?_eq_some hlast
      cases e with
      | asked other e => exact ⟨e, rfl⟩
      | forgot other found => exact absurd (by simp) (hnot found)
  · rintro ⟨d, hd⟩
    obtain ⟨e, hlast, he⟩ := Option.bind_eq_some_iff.mp hd
    obtain ⟨hid, before, since, rfl, hnot⟩ := of_last?_eq_some hlast
    cases e with
    | asked c d => exact ⟨before, c, d, since, rfl, hid, fun found hmem => hnot _ hmem rfl⟩
    | forgot other found => cases he

end Log

/-- The drivers after some calls, with what has happened. -/
structure Trace where
  drivers : Drivers := {}
  log : Log := []

namespace Trace

/-- One more call is made and answered. -/
def call (t : Trace) : Call → Trace
  | .ask c => ⟨(t.drivers.driver c).1, t.log ++ [.asked c (t.drivers.driver c).2]⟩
  | .forget id => ⟨(t.drivers.forget id).1, t.log ++ [.forgot id (t.drivers.forget id).2]⟩

/-- The calls are made one after the other. -/
def ofCalls (calls : List Call) : Trace :=
  calls.foldl call {}

/-- Each call is answered as those before it tell, and there are as many drivers as identifiers
under which one is held. -/
structure Exact (t : Trace) : Prop where
  justified : t.log.Justified
  size : ∃ ids : List String, ids.Nodup ∧ ids.length = t.drivers.size ∧
    ∀ id, id ∈ ids ↔ t.log.Holds id

/-- What is kept is what was given out last and not forgotten, and the same comes of calls that may
overlap but do not. -/
structure Tracks (t : Trace) : Prop where
  kept : ∀ id, Keyed.find? t.drivers.kept id = (t.log.last? id).bind Event.driver?
  older : ∀ c d, .asked c d ∈ t.log → d.serial < t.drivers.built
  nodup : (t.drivers.kept.map Prod.fst).Nodup
  reachable : Overlap.Reachable ⟨t.drivers, [], t.log.filterMap Event.answer?⟩
  justified : t.log.Justified

variable {t : Trace} {c : Connection} {d e : Driver} {id : String}

lemma ofCalls_concat (calls : List Call) (call : Call) :
    ofCalls (calls ++ [call]) = (ofCalls calls).call call := by
  rw [ofCalls, List.foldl_append]
  rfl

namespace Tracks

lemma serves (h : t.Tracks) (hmem : .asked c d ∈ t.log) : d.Serves c :=
  (Overlap.sound_of_reachable h.reachable).serves c d (List.mem_filterMap.mpr ⟨_, hmem, rfl⟩)

/-- What is kept was given out by the last call for a driver under the identifier. -/
lemma previous_of_kept (h : t.Tracks) (hkept : Keyed.find? t.drivers.kept id = some d) :
    ∃ last since, t.log.Previous id last d since := by
  rw [h.kept, Option.bind_eq_some_iff] at hkept
  obtain ⟨v, hlast, hv⟩ := hkept
  cases v with
  | asked last e =>
    cases hv
    exact ⟨last, Log.previous_of_last? hlast⟩
  | forgot other found => cases hv

/-- What fits is what was given out for an equal connection and not forgotten. -/
lemma find?_iff (h : t.Tracks) {last : Connection} {since : Log}
    (hlast : t.log.Previous c.id last d since) :
    t.drivers.find? c = some e ↔ d = e ∧ last.dialect = c.dialect ∧
      last.connectionString = c.connectionString ∧ ∀ found, .forgot c.id found ∉ since := by
  have hserves : d.Serves last := h.serves hlast.mem
  rw [find?_eq_some_iff, h.kept]
  by_cases hkept : ∀ found, .forgot c.id found ∉ since
  · rw [hlast.last?_eq_some hkept, Option.bind_some, Event.driver?, Option.some.injEq]
    refine and_congr_right fun heq => ?_
    rw [← heq, hserves.fits_iff, and_iff_left hkept]
  · obtain ⟨found, hforgot⟩ := not_forall_not.mp hkept
    rw [hlast.driver?_last?_eq_none hforgot]
    exact iff_of_false (by simp) fun hall => hkept hall.2.2.2

/-- Each call is answered as those before it tell. -/
lemma answers (h : t.Tracks) (hserves : (t.drivers.driver c).2.Serves c) :
    t.log.Answers c (t.drivers.driver c).2 := by
  -- A driver that is built is none of those before.
  have hbuilt : t.drivers.find? c = none →
      ∀ other e, .asked other e ∈ t.log → e.serial ≠ (t.drivers.driver c).2.serial := by
    intro hnone other e hmem
    rw [driver, hnone]
    exact Nat.ne_of_lt (h.older other e hmem)
  refine ⟨hserves, fun last e since hlast => ?_, fun hdiffers other e hmem => ?_⟩
  · constructor
    · intro heq
      -- The driver of the last call has a serial of its own unless it was found.
      by_contra hdiffers
      have hnone : t.drivers.find? c = none :=
        Option.eq_none_iff_forall_ne_some.mpr fun d hd => hdiffers ((h.find?_iff hlast).mp hd).2
      exact hbuilt hnone last e hlast.mem (by rw [heq])
    · intro hsame
      rw [driver, (h.find?_iff hlast).mpr ⟨rfl, hsame⟩]
  · refine hbuilt ?_ other e hmem
    refine Option.eq_none_iff_forall_ne_some.mpr fun d hd => ?_
    obtain ⟨last, since, hlast⟩ := h.previous_of_kept (find?_eq_some_iff.mp hd).1
    exact hdiffers last d since hlast (by rw [driver, hd])

/-- Step lemma: a call for a driver. -/
lemma ask (h : t.Tracks) (c : Connection) : (t.call (.ask c)).Tracks := by
  have hreachable : Overlap.Reachable ⟨(t.drivers.driver c).1, [],
      (t.log ++ [Event.asked c (t.drivers.driver c).2]).filterMap Event.answer?⟩ := by
    rw [List.filterMap_append]
    exact h.reachable.driver c
  have hserves : (t.drivers.driver c).2.Serves c :=
    (Overlap.sound_of_reachable hreachable).serves c _
      (List.mem_filterMap.mpr ⟨_, List.mem_append_right _ List.mem_cons_self, rfl⟩)
  have hjustified : Log.Justified (t.log ++ [.asked c (t.drivers.driver c).2]) :=
    h.justified.concat (h.answers hserves)
  cases hfind : t.drivers.find? c with
  | some d =>
    have hdriver : t.drivers.driver c = (t.drivers, d) := by rw [driver, hfind]
    rw [Trace.call]
    rw [hdriver] at hreachable hjustified ⊢
    refine ⟨fun id => ?_, fun other e hmem => ?_, h.nodup, hreachable, hjustified⟩
    · rw [Log.last?_concat, Event.about_asked]
      split
      · next hid =>
        rw [← hid, (find?_eq_some_iff.mp hfind).1]
        rfl
      · exact h.kept id
    · rcases List.mem_append.mp hmem with hmem | hmem
      · exact h.older other e hmem
      · cases List.mem_singleton.mp hmem
        obtain ⟨last, since, hlast⟩ := h.previous_of_kept (find?_eq_some_iff.mp hfind).1
        exact h.older last d hlast.mem
  | none =>
    have hdriver : t.drivers.driver c = t.drivers.build c := by rw [driver, hfind]
    rw [Trace.call]
    rw [hdriver] at hreachable hjustified ⊢
    refine ⟨fun id => ?_, fun other e hmem => ?_, ?_, hreachable, hjustified⟩
    · rw [Log.last?_concat, Event.about_asked, find?_kept_build]
      split
      · rfl
      · exact h.kept id
    · rcases List.mem_append.mp hmem with hmem | hmem
      · exact Nat.lt_succ_of_lt (h.older other e hmem)
      · cases List.mem_singleton.mp hmem
        exact Nat.lt_succ_self t.drivers.built
    · exact Keyed.nodup_keys_put h.nodup

/-- Step lemma: a call to forget a driver. -/
lemma forget (h : t.Tracks) (id : String) : (t.call (.forget id)).Tracks := by
  refine ⟨fun other => ?_, fun c d hmem => ?_, Keyed.nodup_keys_erase h.nodup, ?_,
    h.justified.concat ?_⟩
  · rw [Trace.call, Log.last?_concat, Event.about_forgot, find?_kept_forget]
    split
    · rfl
    · exact h.kept other
  · rcases List.mem_append.mp hmem with hmem | hmem
    · exact h.older c d hmem
    · cases List.mem_singleton.mp hmem
  · rw [Trace.call, List.filterMap_append]
    show Overlap.Reachable ⟨(t.drivers.forget id).1, [], t.log.filterMap Event.answer? ++ []⟩
    rw [List.append_nil]
    exact h.reachable.forget id
  · show (Drivers.forget t.drivers id).2 = true ↔ t.log.Holds id
    rw [Log.holds_iff, ← h.kept, Drivers.forget, Option.isSome_iff_exists]

/-- Run lemma: whatever the calls, the drivers keep to what has happened. -/
lemma ofCalls (calls : List Call) : (Trace.ofCalls calls).Tracks := by
  induction calls using List.reverseRecOn with
  | nil => exact ⟨fun _ => rfl, by simp [Trace.ofCalls], by simp [Trace.ofCalls], .start, by
      simp [Trace.ofCalls, Log.Justified]⟩
  | append_singleton calls call ih =>
    rw [ofCalls_concat]
    cases call with
    | ask c => exact ih.ask c
    | forget id => exact ih.forget id

lemma isExact (h : t.Tracks) : t.Exact := by
  refine ⟨h.justified, t.drivers.kept.map Prod.fst, h.nodup, ?_, fun id => ?_⟩
  · rw [List.length_map, size]
  · rw [Keyed.mem_keys_iff, h.kept, Log.holds_iff]

end Tracks

lemma map_call_log_ofCalls (calls : List Call) : (ofCalls calls).log.map Event.call = calls := by
  induction calls using List.reverseRecOn with
  | nil => rfl
  | append_singleton calls call ih =>
    rw [ofCalls_concat]
    cases call <;> simp [Trace.call, Event.call, ih]

end Trace

/-- However the halves of calls follow one another, every call is answered with a driver of its own
connection. Made one after the other, the calls are answered as those before them tell: a driver is
given out again exactly if the previous call under the identifier was for an equal connection and
the driver was not forgotten since, and one is forgotten, and counted, exactly if it is held. -/
theorem serves_and_exact :
    (∀ w, Overlap.Reachable w → ∀ c d, (c, d) ∈ w.answers → d.Serves c) ∧
      ∀ calls, (Trace.ofCalls calls).log.map Event.call = calls ∧
        (Trace.ofCalls calls).Exact := by
  constructor
  · intro w hw
    exact (Overlap.sound_of_reachable hw).serves
  · intro calls
    exact ⟨Trace.map_call_log_ofCalls calls, (Trace.Tracks.ofCalls calls).isExact⟩

/-- A saved connection. -/
def savedConnection : Connection :=
  .ofId "a" .postgres "old"

/-- The connection with another string. -/
def changedConnection : Connection :=
  { savedConnection with connectionString := "new" }

/-- Two calls that both find nothing kept, and are answered in the other order. -/
def race : Overlap :=
  (((Overlap.look {} savedConnection).look changedConnection).finish changedConnection).finish
    savedConnection

theorem serves_race : Overlap.Reachable race ∧ (∀ c d, (c, d) ∈ race.answers → d.Serves c) ∧
    race.answers.map (fun a => (a.1.connectionString, a.2.connectionString))
      = [("new", "new"), ("old", "old")] := by
  have hreachable : Overlap.Reachable race :=
    (((Overlap.Reachable.start.look savedConnection).look changedConnection).finish
      (by decide)).finish (by decide)
  exact ⟨hreachable, serves_and_exact.1 race hreachable, by decide⟩

end Drivers

end SqlWorkbench
