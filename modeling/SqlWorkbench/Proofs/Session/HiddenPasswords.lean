import SqlWorkbench.Postgres.Conninfo
import SqlWorkbench.Proofs.Script.Words
import SqlWorkbench.Session.Redaction

/-!
# Hidden passwords

What is shown of a connection string must not depend on its password. For a location it does not,
whatever stands in the password. For a list of settings it depends on how the password is written:
the value is taken up to the next single quote, or up to a blank or semicolon, while a backslash in
it keeps the reader of settings from ending the value there.
-/

namespace SqlWorkbench.Redaction

open Text

variable {s x start after key before behind password value front back : List Char} {b : Bool}
  {c : Char}

/-! ### Locations -/

lemma maskLocations_of_eq_some (h : splitLocation? s = some (start, after)) :
    maskLocations s = start ++ mask ++ '@' :: maskLocations after := by
  rw [maskLocations]
  split
  · next hsplit =>
    rw [h] at hsplit
    cases hsplit
    rfl
  · next hsplit =>
    rw [h] at hsplit
    cases hsplit

@[simp] lemma maskLocations_nil : maskLocations [] = [] := by
  rw [maskLocations]
  split
  · next hsplit => cases hsplit
  · rfl

lemma maskLocations_cons (h : splitLocation? (c :: s) = none) :
    maskLocations (c :: s) = c :: maskLocations s := by
  rw [maskLocations]
  split
  · next hsplit =>
    rw [h] at hsplit
    cases hsplit
  · rfl

lemma splitLocation?_cons_of_ne (hc : c ≠ ':') : splitLocation? (c :: s) = none := by
  unfold splitLocation?
  split
  · next heq => exact absurd (List.cons.inj heq).1 hc
  · rfl

/-- What has no colon is passed over. -/
lemma maskLocations_append (hs : ':' ∉ s) : maskLocations (s ++ x) = s ++ maskLocations x := by
  induction s with
  | nil => rfl
  | cons c s ih =>
    rw [List.mem_cons, not_or] at hs
    rw [List.cons_append, maskLocations_cons (splitLocation?_cons_of_ne (Ne.symm hs.1)), ih hs.2,
      List.cons_append]

lemma splitLocation?_location {user : List Char} (huser : ∀ c ∈ user, isUserChar c = true)
    (hpassword : '@' ∉ password) :
    splitLocation? ("://".toList ++ user ++ ':' :: password ++ '@' :: after)
      = some ("://".toList ++ user ++ [':'], after) := by
  have hdrop : (user ++ ':' :: (password ++ '@' :: after)).dropWhile isUserChar
      = ':' :: (password ++ '@' :: after) := by
    rw [List.dropWhile_append_of_pos huser, List.dropWhile_cons_of_neg (by decide)]
  have htake : (user ++ ':' :: (password ++ '@' :: after)).takeWhile isUserChar = user := by
    rw [List.takeWhile_append_of_pos huser, List.takeWhile_cons_of_neg (by decide),
      List.append_nil]
  have hat : (password ++ '@' :: after).dropWhile (· != '@') = '@' :: after := by
    rw [List.dropWhile_append_of_pos, List.dropWhile_cons_of_neg (by simp)]
    intro d hd
    simpa using ne_of_mem_of_not_mem hd hpassword
  show splitLocation? (':' :: '/' :: '/' :: (user ++ ':' :: password ++ '@' :: after)) = _
  rw [List.append_assoc, List.cons_append, splitLocation?]
  simp only [hdrop, hat, htake]
  rfl

/-- A location with a user and a password. -/
def location (scheme user password rest : String) : String :=
  scheme ++ "://" ++ user ++ ":" ++ password ++ "@" ++ rest

lemma maskLocations_location {scheme user password rest : String} (hscheme : ':' ∉ scheme.toList)
    (huser : ∀ c ∈ user.toList, isUserChar c = true) (hpassword : '@' ∉ password.toList) :
    maskLocations (location scheme user password rest).toList
      = (location scheme user "***" "").toList ++ maskLocations rest.toList := by
  have htext : (location scheme user password rest).toList = scheme.toList
      ++ ("://".toList ++ user.toList ++ ':' :: password.toList ++ '@' :: rest.toList) := by
    simp [location]
  rw [htext, maskLocations_append hscheme,
    maskLocations_of_eq_some (splitLocation?_location huser hpassword)]
  simp [location, mask]

/-- The password of a location leaves no trace: the three stars stand for any of them. -/
theorem redact_location (scheme user p q rest : String) (hscheme : ':' ∉ scheme.toList)
    (huser : ∀ c ∈ user.toList, c ≠ ':' ∧ c ≠ '/' ∧ c ≠ '@') (hp : '@' ∉ p.toList)
    (hq : '@' ∉ q.toList) :
    redact (location scheme user p rest) = redact (location scheme user q rest) ∧
      redact (location scheme user p rest) = String.ofList (maskSettings false
        ((location scheme user "***" "").toList ++ maskLocations rest.toList)) := by
  have hchars : ∀ c ∈ user.toList, isUserChar c = true := by
    intro c hc
    simpa [isUserChar, and_assoc] using huser c hc
  rw [redact, redact, maskLocations_location hscheme hchars hp,
    maskLocations_location hscheme hchars hq]
  exact ⟨rfl, rfl⟩

/-- Passwords that look like locations and settings themselves. -/
theorem redact_location_nested :
    redact (location "postgres" "u" "a://b:c password=d" "h/db")
        = redact (location "postgres" "u" ";\n'" "h/db") ∧
      redact (location "postgres" "u" "a://b:c password=d" "h/db")
        = String.ofList (maskSettings false
          ((location "postgres" "u" "***" "").toList ++ maskLocations "h/db".toList)) :=
  redact_location "postgres" "u" "a://b:c password=d" ";\n'" "h/db" (by decide) (by simp)
    (by decide) (by decide)

/-! ### Keys of a password -/

/-- The text is a key of a password, in any case of its letters. -/
def IsKey (key : List Char) : Prop :=
  IsForm ['P', 'A', 'S', 'S', 'W', 'O', 'R', 'D'] key ∨ IsForm ['P', 'W', 'D'] key

lemma IsKey.isBlank (h : IsKey key) : ∀ c ∈ key, Text.isBlank c = false := by
  rcases h with h | h
  all_goals
    refine fun c hc => isBlank_of_isWordChar (h.isWordChar ?_ c hc)
    simp only [List.mem_cons, List.not_mem_nil, or_false, forall_eq_or_imp, forall_eq]
    decide

lemma IsKey.ne_nil (h : IsKey key) : key ≠ [] := by
  rintro rfl
  rcases h with h | h <;> cases h

lemma isLetter_eq_false {c : Char} (h : isLetter 'W' c = true) : isLetter 'A' c = false := by
  simp only [isLetter, Bool.or_eq_true, Bool.and_eq_true, beq_iff_eq] at h
  have hupper : c.toUpper = 'W' := by simpa using h
  simp [isLetter, hupper]

lemma afterKey?_append (h : IsKey key) : afterKey? (key ++ x) = some x := by
  have hlong : "PASSWORD".toList = ['P', 'A', 'S', 'S', 'W', 'O', 'R', 'D'] := rfl
  have hshort : "PWD".toList = ['P', 'W', 'D'] := rfl
  rw [afterKey?, dropEither?, hlong, hshort]
  rcases h with h | h
  · rw [dropWord?_eq_some_iff.mpr ⟨key, rfl, h⟩, Option.some_or]
  · -- The second letter tells the two words apart.
    obtain _ | ⟨hp, _ | ⟨hw, hd⟩⟩ := id h
    rw [dropWord?_eq_some_iff.mpr ⟨_, rfl, h⟩]
    simp [dropWord?, isLetter_eq_false hw]

lemma exists_of_afterKey? {rest : List Char} (h : afterKey? s = some rest) :
    ∃ key, s = key ++ rest ∧ IsKey key := by
  rcases Option.or_eq_some_iff.mp h with h | ⟨-, h⟩
  · obtain ⟨key, hs, hkey⟩ := dropWord?_eq_some_iff.mp h
    exact ⟨key, hs, .inl hkey⟩
  · obtain ⟨key, hs, hkey⟩ := dropWord?_eq_some_iff.mp h
    exact ⟨key, hs, .inr hkey⟩

/-! ### Settings of a password -/

/-- The text is a key of a password with a sign of equality, up to the value. -/
def IsOpening (start : List Char) : Prop :=
  ∃ key before behind, start = key ++ before ++ '=' :: behind ∧ IsKey key ∧ IsBlanks before ∧
    IsBlanks behind

/-- The text is empty or begins with no blank. -/
def StartsDense (s : List Char) : Prop :=
  ∀ c ∈ s.head?, Text.isBlank c = false

lemma startsDense_cons : StartsDense (c :: s) ↔ Text.isBlank c = false := by
  simp [StartsDense]

lemma exists_eq_append_trimStart (s : List Char) :
    ∃ blanks, s = blanks ++ trimStart s ∧ IsBlanks blanks ∧ StartsDense (trimStart s) := by
  refine ⟨s.takeWhile Text.isBlank, List.takeWhile_append_dropWhile.symm, ?_, ?_⟩
  · intro c hc
    exact List.mem_takeWhile_imp hc
  · intro c hc
    have := List.head?_dropWhile_not Text.isBlank s
    rw [← trimStart, Option.mem_def.mp hc] at this
    exact this

lemma trimStart_append (hbefore : IsBlanks before) (hx : StartsDense x) :
    trimStart (before ++ x) = x := by
  rw [trimStart, List.dropWhile_append_of_pos hbefore]
  exact trimStart_eq_self hx

lemma splitSetting?_append (hstart : IsOpening start) (hpassword : StartsDense password) :
    splitSetting? (start ++ password) = some (start, afterPassword password) := by
  obtain ⟨key, before, behind, hs, hkey, hbefore, hbehind⟩ := hstart
  have hdense : StartsDense ('=' :: (behind ++ password)) := startsDense_cons.mpr (by decide)
  have hequals : afterEquals? (before ++ '=' :: (behind ++ password)) = some password := by
    simp only [afterEquals?, trimStart_append hbefore hdense, trimStart_append hbehind hpassword]
  have htext : start ++ password = key ++ (before ++ '=' :: (behind ++ password)) := by
    simp [hs]
  have hread : (afterKey? (start ++ password)).bind afterEquals? = some password := by
    rw [htext, afterKey?_append hkey, Option.bind_some, hequals]
  simp only [splitSetting?, hread]
  simp

lemma exists_of_splitSetting? (h : splitSetting? s = some (start, after)) :
    ∃ password, s = start ++ password ∧ IsOpening start ∧ StartsDense password ∧
      after = afterPassword password := by
  unfold splitSetting? at h
  split at h
  · next password hpassword =>
    obtain ⟨rest, hrest, hequals⟩ := Option.bind_eq_some_iff.mp hpassword
    obtain ⟨key, rfl, hkey⟩ := exists_of_afterKey? hrest
    unfold afterEquals? at hequals
    split at hequals
    · next tail htail =>
      cases hequals
      cases h
      obtain ⟨before, hbefore, hblanks, -⟩ := exists_eq_append_trimStart rest
      obtain ⟨behind, hbehind, hblanks', hdense⟩ := exists_eq_append_trimStart tail
      rw [htail] at hbefore
      have htext : key ++ rest = (key ++ before ++ '=' :: behind) ++ trimStart tail := by
        rw [hbefore]
        nth_rewrite 1 [hbehind]
        simp
      have hstart : (key ++ rest).take ((key ++ rest).length - (trimStart tail).length)
          = key ++ before ++ '=' :: behind := by
        rw [htext, List.length_append, Nat.add_sub_cancel, List.take_left]
      rw [hstart]
      exact ⟨trimStart tail, htext, ⟨key, before, behind, rfl, hkey, hblanks, hblanks'⟩, hdense,
        rfl⟩
    · cases hequals
  · cases h

/-! ### Texts without a key -/

/-- A word character stands in front of what follows the text; `b` says it of the text itself. -/
def wordBehind (b : Bool) (s : List Char) : Bool :=
  (s.getLast?.map isWordChar).getD b

@[simp] lemma wordBehind_cons : wordBehind b (c :: s) = wordBehind (isWordChar c) s := by
  simp [wordBehind, List.getLast?_cons, Option.getD_map]

/-- No setting of a password begins in the text. -/
def IsKeyless (s : List Char) : Prop :=
  ∀ u v, s = u ++ v → endsWord u = false → splitSetting? v = none

instance : Decidable (IsKeyless s) :=
  decidable_of_iff
    (∀ i ≤ s.length, endsWord (s.take i) = false → (splitSetting? (s.drop i)).isNone = true) <| by
    constructor
    · rintro h u v rfl hu
      simpa using h u.length (by simp) (by simpa using hu)
    · intro h i _ hi
      simpa using h (s.take i) (s.drop i) (List.take_append_drop i s).symm hi

@[simp] lemma maskSettings_nil : maskSettings b [] = [] := by
  rw [maskSettings]
  split
  · next hsplit =>
    split at hsplit
    · cases hsplit
    · cases hsplit
  · rfl

lemma maskSettings_cons (h : b = false → splitSetting? (c :: s) = none) :
    maskSettings b (c :: s) = c :: maskSettings (isWordChar c) s := by
  rw [maskSettings]
  split
  · next hsplit =>
    split at hsplit
    · cases hsplit
    · next hb =>
      rw [h (by simpa using hb)] at hsplit
      cases hsplit
  · rfl

lemma maskSettings_opening (hstart : IsOpening start) (hpassword : StartsDense password) :
    ∃ b, maskSettings false (start ++ password)
      = start ++ mask ++ maskSettings b (afterPassword password) := by
  rw [maskSettings]
  split
  · next hsplit =>
    rw [if_neg (by decide), splitSetting?_append hstart hpassword] at hsplit
    cases hsplit
    exact ⟨_, rfl⟩
  · next hsplit =>
    rw [if_neg (by decide), splitSetting?_append hstart hpassword] at hsplit
    cases hsplit

lemma splitSetting?_of_isBlank (hc : Text.isBlank c = true) : splitSetting? (c :: s) = none := by
  by_contra hsplit
  obtain ⟨⟨start, after⟩, hsome⟩ := Option.ne_none_iff_exists'.mp hsplit
  obtain ⟨password, hs, ⟨key, before, behind, rfl, hkey, -, -⟩, -, -⟩ :=
    exists_of_splitSetting? hsome
  obtain ⟨d, key, rfl⟩ := List.exists_cons_of_ne_nil hkey.ne_nil
  obtain rfl : c = d := (List.cons.inj hs).1
  have hdense := hkey.isBlank c List.mem_cons_self
  rw [hc] at hdense
  cases hdense

/-- What stands in front of a blank does not matter. -/
lemma maskSettings_of_isBlank_head (h : ∀ c ∈ s.head?, Text.isBlank c = true) :
    maskSettings b s = maskSettings false s := by
  cases s with
  | nil => rw [maskSettings_nil, maskSettings_nil]
  | cons c s =>
    have hnone : splitSetting? (c :: s) = none := splitSetting?_of_isBlank (h c rfl)
    rw [maskSettings_cons fun _ => hnone, maskSettings_cons fun _ => hnone]

/-- A text in which no setting of a password begins is passed over. -/
lemma maskSettings_append
    (h : ∀ u v, s = u ++ v → v ≠ [] → wordBehind b u = false → splitSetting? (v ++ x) = none) :
    maskSettings b (s ++ x) = s ++ maskSettings (wordBehind b s) x := by
  induction s generalizing b with
  | nil => rfl
  | cons c s ih =>
    have hc : b = false → splitSetting? (c :: (s ++ x)) = none := by
      intro hb
      exact h [] (c :: s) rfl (by simp) hb
    rw [List.cons_append, maskSettings_cons hc, ih, wordBehind_cons, List.cons_append]
    intro u v hs hv hu
    exact h (c :: u) v (by rw [hs, List.cons_append]) hv (by rwa [wordBehind_cons])

/-- What is masked shows a key, so that a text is left as it is only if it has none. -/
lemma maskSettings_cases (b : Bool) (s : List Char) :
    maskSettings b s = s ∨
      ∃ u v, maskSettings b s = u ++ v ∧ wordBehind b u = false ∧ splitSetting? v ≠ none := by
  induction s generalizing b with
  | nil => exact .inl maskSettings_nil
  | cons c s ih =>
    by_cases hc : b = false → splitSetting? (c :: s) = none
    · rw [maskSettings_cons hc]
      rcases ih (isWordChar c) with heq | ⟨u, v, heq, hu, hv⟩
      · exact .inl (by rw [heq])
      · exact .inr ⟨c :: u, v, by rw [heq, List.cons_append], by rwa [wordBehind_cons], hv⟩
    · push Not at hc
      obtain ⟨rfl, hsplit⟩ := hc
      obtain ⟨⟨start, after⟩, hsome⟩ := Option.ne_none_iff_exists'.mp hsplit
      obtain ⟨password, hs, hstart, hpassword, -⟩ := exists_of_splitSetting? hsome
      obtain ⟨b, hmask⟩ := maskSettings_opening hstart hpassword
      refine .inr ⟨[], _, rfl, rfl, ?_⟩
      rw [hs, hmask, List.append_assoc, splitSetting?_append hstart]
      · simp
      · exact startsDense_cons.mpr (by decide)

lemma endsWord_of_wordBehind (h : wordBehind b s = false) : endsWord s = false := by
  rcases hlast : s.getLast? with _ | c
  · simp [endsWord, hlast]
  · simpa [endsWord, wordBehind, hlast] using h

lemma IsKeyless.maskSettings_eq (h : IsKeyless s) : maskSettings b s = s := by
  have happend := maskSettings_append (b := b) (s := s) (x := []) fun u v hs hv hu => by
    rw [List.append_nil]
    exact h u v hs (endsWord_of_wordBehind hu)
  simpa using happend

/-- A text without a key is left as it is, and nothing else becomes it. -/
lemma IsKeyless.maskSettings_append_eq_iff (h : IsKeyless s) :
    maskSettings b (x ++ s) = s ↔ x = [] := by
  constructor
  · intro heq
    rcases maskSettings_cases b (x ++ s) with hsame | ⟨u, v, hmask, hu, hv⟩
    · rw [hsame] at heq
      simpa using heq
    · exact absurd (h u v (heq.symm.trans hmask) (endsWord_of_wordBehind hu)) hv
  · rintro rfl
    exact h.maskSettings_eq

/-- A key that begins in front of a blank ends in front of it. -/
lemma IsKeyless.splitSetting?_append_eq_none (h : IsKeyless front)
    (hblank : ∀ c ∈ front.getLast?, Text.isBlank c = true) (hx : StartsDense x)
    (hequals : x.head? ≠ some '=') {u v : List Char} (hfront : front = u ++ v) (hv : v ≠ [])
    (hu : endsWord u = false) : splitSetting? (v ++ x) = none := by
  have hlast : ∀ c ∈ v.getLast?, Text.isBlank c = true := by
    intro c hc
    refine hblank c ?_
    rw [hfront, List.getLast?_append_of_ne_nil _ hv]
    exact hc
  by_contra hsplit
  obtain ⟨⟨start, after⟩, hsome⟩ := Option.ne_none_iff_exists'.mp hsplit
  obtain ⟨password, hs, ⟨key, before, behind, rfl, hkey, hbefore, hbehind⟩, -, -⟩ :=
    exists_of_splitSetting? hsome
  have htext : key ++ before ++ '=' :: (behind ++ password) = v ++ x := by
    rw [hs]
    simp
  rcases List.append_eq_append_iff.mp htext with ⟨w, hvw, hx'⟩ | ⟨w, hkw, hx'⟩
  · -- The sign of equality stands in front of the end, and so does all of the key.
    cases w with
    | nil =>
      rw [List.nil_append] at hx'
      exact hequals (by rw [← hx', List.head?_cons])
    | cons d w =>
      obtain ⟨rfl, -⟩ := List.cons_eq_cons.mp hx'
      obtain ⟨blanks, hw, hblanks, hdense⟩ := exists_eq_append_trimStart w
      have hopening : IsOpening (key ++ before ++ '=' :: blanks) :=
        ⟨key, before, blanks, rfl, hkey, hbefore, hblanks⟩
      have hvtext : v = key ++ before ++ '=' :: blanks ++ trimStart w := by
        rw [hvw]
        nth_rewrite 1 [hw]
        simp
      have hnone := h u v hfront hu
      rw [hvtext, splitSetting?_append hopening hdense] at hnone
      cases hnone
  · rcases List.append_eq_append_iff.mp hkw with ⟨k, hvk, hbw⟩ | ⟨k, hkey', -⟩
    · -- The end of the key would stand in front of a blank that the rest begins with.
      cases w with
      | nil => exact hequals (by rw [hx', List.nil_append, List.head?_cons])
      | cons d w =>
        have hd : Text.isBlank d = true := hbefore d (by simp [hbw])
        rw [hx d (by simp [hx'])] at hd
        cases hd
    · -- The last character would stand in the key.
      have hmem : v.getLast hv ∈ key := by simp [hkey']
      have hlastBlank := hlast _ (List.getLast?_eq_some_getLast hv)
      rw [hkey.isBlank _ hmem] at hlastBlank
      cases hlastBlank

/-! ### Written values -/

/-- The text is how a value is written in a list of settings. -/
def IsWritten (value : List Char) : Prop :=
  ∃ v, Postgres.Conninfo.value? value = some (v, [])

lemma exists_of_quotedValue? {v : List Char}
    (h : Postgres.Conninfo.quotedValue? s = some (v, [])) : ∃ inner, s = inner ++ ['\x27'] := by
  fun_induction Postgres.Conninfo.quotedValue? s generalizing v with
  | case1 => cases h
  | case2 => cases h
  | case3 c rest ih =>
    obtain ⟨⟨w, after⟩, hread, heq⟩ := Option.map_eq_some_iff.mp h
    obtain ⟨-, rfl⟩ := Prod.mk.inj heq
    obtain ⟨inner, rfl⟩ := ih hread
    exact ⟨'\\' :: c :: inner, rfl⟩
  | case4 rest =>
    cases h
    exact ⟨[], rfl⟩
  | case5 c rest _ _ _ ih =>
    obtain ⟨⟨w, after⟩, hread, heq⟩ := Option.map_eq_some_iff.mp h
    obtain ⟨-, rfl⟩ := Prod.mk.inj heq
    obtain ⟨inner, rfl⟩ := ih hread
    exact ⟨c :: inner, rfl⟩

lemma bareValue_of_isBlank (h : Text.isBlank c = true) :
    Postgres.Conninfo.bareValue (c :: s) = ([], c :: s) := by
  have hc : c ≠ '\\' := by
    rintro rfl
    exact absurd h (by decide)
  unfold Postgres.Conninfo.bareValue
  split
  · next heq => cases heq
  · next heq => exact absurd (List.cons.inj heq).1 hc
  · next heq => exact absurd (List.cons.inj heq).1 hc
  · next heq =>
    cases heq
    rw [if_pos h]

/-- A written value begins with a quote that another one follows, or with neither a quote nor a
blank. -/
lemma IsWritten.cases (h : IsWritten value) :
    value ≠ [] ∧ StartsDense value ∧
      ((∃ inner left, value = '\x27' :: (inner ++ '\x27' :: left) ∧ '\x27' ∉ inner) ∨
        value.head? ≠ some '\x27') := by
  obtain ⟨v, hv⟩ := h
  unfold Postgres.Conninfo.value? at hv
  split at hv
  · next rest =>
    obtain ⟨whole, rfl⟩ := exists_of_quotedValue? hv
    -- The first quote behind the opening one may stand in front of the closing one.
    obtain ⟨inner, left, hsplit, hinner⟩ :=
      List.eq_append_cons_of_mem (show '\x27' ∈ whole ++ ['\x27'] by simp)
    exact ⟨by simp, startsDense_cons.mpr (by decide), .inl ⟨inner, left, by rw [hsplit], hinner⟩⟩
  · next hquote =>
    have hbare : (Postgres.Conninfo.bareValue value).1 ≠ [] := by
      intro hempty
      simp [hempty] at hv
    cases value with
    | nil => exact absurd rfl hbare
    | cons c rest =>
      refine ⟨by simp, ?_, .inr fun hc => hquote rest (by simpa using hc)⟩
      intro d hd
      obtain rfl : c = d := by simpa using hd
      by_contra hblank
      exact hbare (by rw [bareValue_of_isBlank (by simpa using hblank)])

/-- The written value is masked to its end: between quotes it has no quote, and without quotes it
has neither a blank nor a semicolon. -/
def IsSimple (value : List Char) : Prop :=
  (∃ inner, value = '\x27' :: (inner ++ ['\x27']) ∧ '\x27' ∉ inner) ∨
    value.head? ≠ some '\x27' ∧ ∀ c ∈ value, isBareChar c = true

lemma afterPassword_quoted {inner rest : List Char} (h : '\x27' ∉ inner) :
    afterPassword ('\x27' :: (inner ++ '\x27' :: rest)) = rest := by
  have hdrop : (inner ++ '\x27' :: rest).dropWhile (· != '\x27') = '\x27' :: rest := by
    rw [List.dropWhile_append_of_pos, List.dropWhile_cons_of_neg (by simp)]
    intro c hc
    simpa using ne_of_mem_of_not_mem hc h
  simp only [afterPassword, hdrop]

lemma afterPassword_bare (h : s.head? ≠ some '\x27') :
    afterPassword s = s.dropWhile isBareChar := by
  unfold afterPassword
  split
  · exact absurd rfl h
  · rfl

lemma IsWritten.afterPassword_append (h : IsWritten value)
    (hback : ∀ c ∈ back.head?, Text.isBlank c = true) :
    afterPassword (value ++ back) = afterPassword value ++ back := by
  obtain ⟨hne, -, ⟨inner, left, rfl, hinner⟩ | hquote⟩ := h.cases
  · rw [afterPassword_quoted hinner, List.cons_append, List.append_assoc, List.cons_append,
      afterPassword_quoted hinner]
  · have hquote' : (value ++ back).head? ≠ some '\x27' := by
      rwa [List.head?_append_of_ne_nil _ hne]
    have hdrop : back.dropWhile isBareChar = back := by
      cases back with
      | nil => rfl
      | cons c back => simp [isBareChar, hback c (by simp)]
    rw [afterPassword_bare hquote, afterPassword_bare hquote', List.dropWhile_append, hdrop]
    split
    · next hnil => rw [List.isEmpty_iff.mp hnil, List.nil_append]
    · rfl

lemma IsWritten.isSimple_iff (h : IsWritten value) :
    IsSimple value ↔ afterPassword value = [] := by
  constructor
  · rintro (⟨inner, rfl, hinner⟩ | ⟨hquote, hbare⟩)
    · exact afterPassword_quoted hinner
    · rwa [afterPassword_bare hquote, List.dropWhile_eq_nil_iff]
  · intro hnil
    obtain ⟨-, -, ⟨inner, left, rfl, hinner⟩ | hquote⟩ := h.cases
    · rw [afterPassword_quoted hinner] at hnil
      exact .inl ⟨inner, by rw [hnil], hinner⟩
    · rw [afterPassword_bare hquote, List.dropWhile_eq_nil_iff] at hnil
      exact .inr ⟨hquote, hnil⟩

/-! ### A password among settings -/

/-- A location with an at sign may begin in the text. -/
def HasLocation (s : List Char) : Prop :=
  ∃ between, "://".toList ++ between ++ ['@'] <:+: s

lemma hasLocation_of_splitLocation? (h : splitLocation? s = some (start, after)) :
    HasLocation s := by
  unfold splitLocation? at h
  split at h
  · next rest =>
    split at h
    · next password hpassword =>
      split at h
      · next after' hafter =>
        refine ⟨rest.takeWhile isUserChar ++ ':' :: password.takeWhile (· != '@'), [], after', ?_⟩
        have hrest := List.takeWhile_append_dropWhile (p := isUserChar) (l := rest)
        have hpass := List.takeWhile_append_dropWhile (p := (· != '@')) (l := password)
        rw [hafter] at hpass
        rw [hpassword, ← hpass] at hrest
        conv_rhs => rw [← hrest]
        simp
      · cases h
    · cases h
  · cases h

lemma maskLocations_eq_self (h : ¬ HasLocation s) : maskLocations s = s := by
  induction s with
  | nil => exact maskLocations_nil
  | cons c s ih =>
    have hnone : splitLocation? (c :: s) = none := by
      by_contra hsplit
      obtain ⟨⟨start, after⟩, hsome⟩ := Option.ne_none_iff_exists'.mp hsplit
      exact h (hasLocation_of_splitLocation? hsome)
    rw [maskLocations_cons hnone, ih]
    rintro ⟨between, hbetween⟩
    exact h ⟨between, hbetween.trans (List.suffix_cons c s).isInfix⟩

/-- A list of settings with a place for the value of its password; no other setting of a password
begins in front of it. -/
structure Surroundings where
  /-- The settings in front of the password. -/
  front : List Char
  /-- The blanks in front of the sign of equality. -/
  before : List Char
  /-- The blanks behind the sign of equality. -/
  behind : List Char
  /-- The settings behind the password. -/
  back : List Char
  isBlanks_before : IsBlanks before
  isBlanks_behind : IsBlanks behind
  isBlank_front : ∀ c ∈ front.getLast?, Text.isBlank c = true
  isBlank_back : ∀ c ∈ back.head?, Text.isBlank c = true
  isKeyless_front : IsKeyless front

namespace Surroundings

variable (a : Surroundings)

/-- The key of the password and the sign of equality. -/
def opening : List Char :=
  ['p', 'a', 's', 's', 'w', 'o', 'r', 'd'] ++ a.before ++ '=' :: a.behind

/-- The list with a value written for the password. -/
def text (value : List Char) : List Char :=
  a.front ++ (a.opening ++ (value ++ a.back))

lemma isOpening_opening : IsOpening a.opening := by
  refine ⟨_, a.before, a.behind, rfl, .inl ?_, a.isBlanks_before, a.isBlanks_behind⟩
  unfold IsForm
  decide

/-- What follows the value as it is masked is all that is shown of it. -/
lemma exists_maskSettings_text (hvalue : IsWritten value) :
    ∃ b, maskSettings false (a.text value)
      = a.front ++ (a.opening ++ (mask ++ maskSettings b (afterPassword value ++ a.back))) := by
  obtain ⟨hne, hdense, -⟩ := hvalue.cases
  have hdense' : StartsDense (value ++ a.back) := by
    intro c hc
    rw [List.head?_append_of_ne_nil _ hne] at hc
    exact hdense c hc
  obtain ⟨b, hmask⟩ := maskSettings_opening a.isOpening_opening hdense'
  have hfront : wordBehind false a.front = false := by
    rcases hlast : a.front.getLast? with _ | c
    · simp [wordBehind, hlast]
    · simpa [wordBehind, hlast] using isWordChar_of_isBlank (a.isBlank_front c hlast)
  refine ⟨b, ?_⟩
  rw [text, maskSettings_append, hfront, hmask, hvalue.afterPassword_append a.isBlank_back]
  · simp only [List.append_assoc]
  · intro u v hs hv hu
    refine a.isKeyless_front.splitSetting?_append_eq_none a.isBlank_front ?_ ?_ hs hv hu
    · exact startsDense_cons.mpr (by decide)
    · simp [opening]

/-- What is shown of the list if the password is masked to its end. -/
def shown : List Char :=
  a.front ++ (a.opening ++ (mask ++ maskSettings false a.back))

/-- A value that is written in a simple way is masked to its end. -/
lemma redact_text (hvalue : IsWritten value) (hloc : ¬ HasLocation (a.text value))
    (hsimple : IsSimple value) : redact (String.ofList (a.text value)) = String.ofList a.shown := by
  obtain ⟨b, hmask⟩ := a.exists_maskSettings_text hvalue
  rw [hvalue.isSimple_iff.mp hsimple, List.nil_append,
    maskSettings_of_isBlank_head a.isBlank_back] at hmask
  rw [redact, String.toList_ofList, maskLocations_eq_self hloc, hmask, shown]

/-- No other value is, if no setting of a password begins behind it. -/
lemma isSimple_of_redact_text (hvalue : IsWritten value) (hloc : ¬ HasLocation (a.text value))
    (hback : IsKeyless a.back)
    (hshown : redact (String.ofList (a.text value)) = String.ofList a.shown) : IsSimple value := by
  obtain ⟨b, hmask⟩ := a.exists_maskSettings_text hvalue
  rw [redact, String.toList_ofList, maskLocations_eq_self hloc, hmask, String.ofList_inj, shown,
    List.append_cancel_left_eq, List.append_cancel_left_eq, List.append_cancel_left_eq,
    hback.maskSettings_eq, hback.maskSettings_append_eq_iff] at hshown
  exact hvalue.isSimple_iff.mpr hshown

end Surroundings

variable {p q : List Char}

/-- Three stars stand for each of two passwords that are written in a simple way, whatever follows
them; a password that is not shows more, unless there are more settings of a password. -/
theorem redact_text_password (a : Surroundings) (hp : IsWritten p) (hq : IsWritten q)
    (hploc : ¬ HasLocation (a.text p)) (hqloc : ¬ HasLocation (a.text q)) (hsimple : IsSimple p) :
    redact (String.ofList (a.text p)) = String.ofList a.shown ∧
      (IsSimple q → redact (String.ofList (a.text q)) = redact (String.ofList (a.text p))) ∧
      (IsKeyless a.back →
        redact (String.ofList (a.text q)) = redact (String.ofList (a.text p)) → IsSimple q) := by
  have hshown := a.redact_text hp hploc hsimple
  rw [hshown]
  exact ⟨rfl, a.redact_text hq hqloc, a.isSimple_of_redact_text hq hqloc⟩

lemma isBlank_space : Text.isBlank ' ' = true := by decide

/-- A list of settings with a blank at either side of the sign of equality. -/
def hostAndDatabase : Surroundings where
  front := "host=h ".toList
  before := [' ']
  behind := [' ']
  back := " dbname=d".toList
  isBlanks_before := by simp [isBlank_space]
  isBlanks_behind := by simp [isBlank_space]
  isBlank_front := by simp [isBlank_space]
  isBlank_back := by simp [isBlank_space]
  isKeyless_front := by decide +kernel

lemma not_hasLocation_of_not_mem (h : ':' ∉ s) : ¬ HasLocation s := by
  rintro ⟨between, hbetween⟩
  exact h (hbetween.subset (by simp))

/-- A quoted blank is masked like any other value, and one behind a backslash is shown. -/
theorem redact_text_blanks :
    redact "host=h password = \x27a b\x27 dbname=d" = "host=h password = *** dbname=d" ∧
      redact "host=h password = secret dbname=d"
        = redact "host=h password = \x27a b\x27 dbname=d" ∧
      redact "host=h password = a\\ b dbname=d"
        ≠ redact "host=h password = \x27a b\x27 dbname=d" := by
  have hquoted : ¬ HasLocation (hostAndDatabase.text "\x27a b\x27".toList) :=
    not_hasLocation_of_not_mem (by decide +kernel)
  have hplain : ¬ HasLocation (hostAndDatabase.text "secret".toList) :=
    not_hasLocation_of_not_mem (by decide +kernel)
  have hbare : ¬ HasLocation (hostAndDatabase.text "a\\ b".toList) :=
    not_hasLocation_of_not_mem (by decide +kernel)
  have hwritten : IsWritten "\x27a b\x27".toList := ⟨"a b".toList, by decide +kernel⟩
  have hsimple : IsSimple "\x27a b\x27".toList :=
    .inl ⟨"a b".toList, by decide +kernel, by decide +kernel⟩
  obtain ⟨hshown, hsame, -⟩ := redact_text_password hostAndDatabase hwritten
    ⟨"secret".toList, by decide +kernel⟩ hquoted hplain hsimple
  obtain ⟨-, -, hsimple_of⟩ := redact_text_password hostAndDatabase hwritten
    ⟨"a b".toList, by decide +kernel⟩ hquoted hbare hsimple
  have hplainSimple : IsSimple "secret".toList :=
    .inr ⟨by decide, List.all_eq_true.mp (by decide +kernel)⟩
  refine ⟨hshown.trans (by decide +kernel), hsame hplainSimple, fun heq => ?_⟩
  rcases hsimple_of (by decide +kernel) heq with ⟨inner, hinner, -⟩ | ⟨-, hchars⟩
  · cases hinner
  · exact absurd (hchars ' ' (by decide)) (by decide)

/-- Behind a quote that the reader of settings takes for a part of the password, the rest of the
password is shown. -/
theorem redact_escapedQuote :
    Postgres.Conninfo.settings? "host=h password=\x27it\\\x27s secret\x27".toList
        = some [("host".toList, "h".toList), ("password".toList, "it\x27s secret".toList)] ∧
      Postgres.Conninfo.settings? "host=h password=\x27other\x27".toList
        = some [("host".toList, "h".toList), ("password".toList, "other".toList)] ∧
      redact "host=h password=\x27it\\\x27s secret\x27" = "host=h password=***s secret\x27" ∧
      redact "host=h password=\x27it\\\x27s secret\x27"
        ≠ redact "host=h password=\x27other\x27" :=
  ⟨by decide +kernel, by decide +kernel, by decide +kernel, by decide +kernel⟩

end SqlWorkbench.Redaction
