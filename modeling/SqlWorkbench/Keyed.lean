/-!
# Keyed lists

Values under texts as keys, each key at most once, in the order in which the keys came.
-/

namespace SqlWorkbench.Keyed

variable {α : Type}

/-- The value under a key. -/
def find? (entries : List (String × α)) (key : String) : Option α :=
  entries.lookup key

/-- Put a value: in the place of the one under its key, or at the end. -/
def put (entries : List (String × α)) (key : String) (value : α) : List (String × α) :=
  match entries with
  | [] => [(key, value)]
  | e :: rest => if e.1 = key then (key, value) :: rest else e :: put rest key value

/-- Put values one after the other. -/
def putAll (entries more : List (String × α)) : List (String × α) :=
  more.foldl (fun es e => put es e.1 e.2) entries

/-- Without the value under a key. -/
def erase (entries : List (String × α)) (key : String) : List (String × α) :=
  entries.filter fun e => e.1 != key

@[simp] theorem put_nil (key : String) (value : α) : put [] key value = [(key, value)] := rfl

@[simp] theorem putAll_nil (entries : List (String × α)) : putAll entries [] = entries := rfl

@[simp] theorem putAll_cons (entries : List (String × α)) (e : String × α)
    (more : List (String × α)) : putAll entries (e :: more) = putAll (put entries e.1 e.2) more :=
  rfl

@[simp] theorem find?_nil (key : String) : find? ([] : List (String × α)) key = none := rfl

theorem find?_cons (e : String × α) (rest : List (String × α)) (key : String) :
    find? (e :: rest) key = if e.1 = key then some e.2 else find? rest key := by
  obtain ⟨k, v⟩ := e
  by_cases h : k = key
  · simp [find?, h]
  · have : (key == k) = false := by simpa using Ne.symm h
    simp [find?, List.lookup_cons, h, this]

@[simp] theorem find?_put_self (entries : List (String × α)) (key : String) (value : α) :
    find? (put entries key value) key = some value := by
  induction entries with
  | nil => simp [put, find?_cons]
  | cons e rest ih =>
    by_cases h : e.1 = key
    · simp [put, h, find?_cons]
    · simp [put, h, find?_cons, ih]

theorem find?_put_of_ne (entries : List (String × α)) {key other : String} (value : α)
    (h : key ≠ other) : find? (put entries key value) other = find? entries other := by
  induction entries with
  | nil => simp [put, find?_cons, h]
  | cons e rest ih =>
    by_cases he : e.1 = key
    · have : e.1 ≠ other := fun ho => h (he.symm.trans ho)
      simp [put, he, find?_cons, h]
    · simp [put, he, find?_cons, ih]

@[simp] theorem find?_erase_self (entries : List (String × α)) (key : String) :
    find? (erase entries key) key = none := by
  induction entries with
  | nil => rfl
  | cons e rest ih =>
    by_cases h : e.1 = key
    · simpa [erase, h] using ih
    · simp only [erase, List.filter_cons] at ih ⊢
      simp [h, find?_cons, ih]

theorem find?_erase_of_ne (entries : List (String × α)) {key other : String} (h : key ≠ other) :
    find? (erase entries key) other = find? entries other := by
  induction entries with
  | nil => rfl
  | cons e rest ih =>
    simp only [erase] at ih
    by_cases he : e.1 = key
    · simp [erase, he, find?_cons, h, ih]
    · simp [erase, he, find?_cons, ih]

theorem mem_of_find? {entries : List (String × α)} {key : String} {value : α}
    (h : find? entries key = some value) : (key, value) ∈ entries := by
  induction entries with
  | nil => cases h
  | cons e rest ih =>
    rw [find?_cons] at h
    split at h
    · next he =>
      cases h
      cases he
      exact List.mem_cons_self
    · exact List.mem_cons_of_mem e (ih h)

theorem find?_of_mem {entries : List (String × α)} {key : String} {value : α}
    (h : ∀ e ∈ entries, e.1 = key → e.2 = value) (hmem : (key, value) ∈ entries) :
    find? entries key = some value := by
  induction entries with
  | nil => cases hmem
  | cons e rest ih =>
    rw [find?_cons]
    split
    · next he => rw [h e List.mem_cons_self he]
    · next he =>
      have hrest : (key, value) ∈ rest :=
        (List.mem_cons.mp hmem).resolve_left fun heq => he (by rw [← heq])
      exact ih (fun o ho => h o (List.mem_cons_of_mem e ho)) hrest

theorem find?_eq_none_iff {entries : List (String × α)} {key : String} :
    find? entries key = none ↔ ∀ e ∈ entries, e.1 ≠ key := by
  induction entries with
  | nil => simp
  | cons e rest ih =>
    by_cases he : e.1 = key
    · simp [find?_cons, he]
    · simp [find?_cons, he, ih]

theorem mem_keys_iff {entries : List (String × α)} {key : String} :
    key ∈ entries.map Prod.fst ↔ ∃ value, find? entries key = some value := by
  rw [← Option.ne_none_iff_exists', ne_eq, find?_eq_none_iff]
  simp

theorem mem_keys_put {entries : List (String × α)} {key other : String} {value : α} :
    other ∈ (put entries key value).map Prod.fst ↔ other = key ∨ other ∈ entries.map Prod.fst := by
  induction entries with
  | nil => simp
  | cons e rest ih =>
    rw [put]
    split
    · next he => simp [he]
    · rw [List.map_cons, List.mem_cons, ih, List.map_cons, List.mem_cons, or_left_comm]

theorem nodup_keys_put {entries : List (String × α)} {key : String} {value : α}
    (h : (entries.map Prod.fst).Nodup) : ((put entries key value).map Prod.fst).Nodup := by
  induction entries with
  | nil => simp
  | cons e rest ih =>
    rw [List.map_cons, List.nodup_cons] at h
    rw [put]
    split
    · next he => exact he ▸ List.nodup_cons.mpr h
    · next he =>
      rw [List.map_cons, List.nodup_cons, mem_keys_put, not_or]
      exact ⟨⟨he, h.1⟩, ih h.2⟩

theorem nodup_keys_erase {entries : List (String × α)} {key : String}
    (h : (entries.map Prod.fst).Nodup) : ((erase entries key).map Prod.fst).Nodup :=
  h.sublist (List.filter_sublist.map Prod.fst)

theorem find?_putAll_of_ne {entries more : List (String × α)} {key : String}
    (h : ∀ e ∈ more, e.1 ≠ key) : find? (putAll entries more) key = find? entries key := by
  induction more generalizing entries with
  | nil => rfl
  | cons e more ih =>
    rw [putAll_cons, ih fun o ho => h o (List.mem_cons_of_mem e ho),
      find?_put_of_ne entries e.2 (h e List.mem_cons_self)]

/-- A value stays that is not replaced by another one. -/
theorem find?_putAll_of_find? {entries more : List (String × α)} {key : String} {value : α}
    (h : ∀ e ∈ more, e.1 = key → e.2 = value) (hfind : find? entries key = some value) :
    find? (putAll entries more) key = some value := by
  induction more generalizing entries with
  | nil => exact hfind
  | cons e more ih =>
    rw [putAll_cons]
    apply ih fun o ho => h o (List.mem_cons_of_mem e ho)
    by_cases he : e.1 = key
    · rw [he, find?_put_self, h e List.mem_cons_self he]
    · rw [find?_put_of_ne entries e.2 he, hfind]

/-- A value is put that is not replaced by another one. -/
theorem find?_putAll_of_mem {entries more : List (String × α)} {key : String} {value : α}
    (h : ∀ e ∈ more, e.1 = key → e.2 = value) (hmem : (key, value) ∈ more) :
    find? (putAll entries more) key = some value := by
  induction more generalizing entries with
  | nil => cases hmem
  | cons e more ih =>
    have hmore : ∀ o ∈ more, o.1 = key → o.2 = value := fun o ho =>
      h o (List.mem_cons_of_mem e ho)
    rw [putAll_cons]
    rcases List.mem_cons.mp hmem with he | hmem
    · exact find?_putAll_of_find? hmore (by rw [← he, find?_put_self])
    · exact ih hmore hmem

end SqlWorkbench.Keyed
