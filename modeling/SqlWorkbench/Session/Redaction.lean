import SqlWorkbench.Text.Blank
import SqlWorkbench.Text.Word

/-!
# Masked passwords

A connection string is shown with its password masked. Two forms are known: the password of a
location, between the colon after a user and the first at sign, and the value under the key
`password` or `pwd`, quoted or up to a blank or semicolon.
-/

namespace SqlWorkbench.Redaction

/-- What stands for a password. -/
def mask : List Char :=
  ['*', '*', '*']

/-! ### Locations -/

/-- The character may stand in the user of a location. -/
def isUserChar (c : Char) : Bool :=
  c != ':' && c != '/' && c != '@'

/-- A location with a password: the start up to the colon before the password, and what follows
the at sign behind it. -/
def splitLocation? (s : List Char) : Option (List Char × List Char) :=
  match s with
  | ':' :: '/' :: '/' :: rest =>
    match rest.dropWhile isUserChar with
    | ':' :: password =>
      match password.dropWhile (· != '@') with
      | '@' :: after => some ([':', '/', '/'] ++ rest.takeWhile isUserChar ++ [':'], after)
      | _ => none
    | _ => none
  | _ => none

theorem length_dropWhile_le {α : Type} (p : α → Bool) (l : List α) :
    (l.dropWhile p).length ≤ l.length := by
  induction l with
  | nil => simp
  | cons a l ih =>
    simp only [List.dropWhile_cons]
    split
    · simp only [List.length_cons]; omega
    · simp

/-- What follows a location is shorter. -/
theorem length_splitLocation? {s start after : List Char}
    (h : splitLocation? s = some (start, after)) : after.length < s.length := by
  unfold splitLocation? at h
  split at h
  · next rest =>
    split at h
    · next password hpassword =>
      split at h
      · next after' hafter =>
        simp only [Option.some.injEq, Prod.mk.injEq] at h
        obtain ⟨-, rfl⟩ := h
        have h₁ := length_dropWhile_le isUserChar rest
        have h₂ := length_dropWhile_le (· != '@') password
        rw [hpassword] at h₁
        rw [hafter] at h₂
        simp only [List.length_cons] at *
        omega
      · contradiction
    · contradiction
  · contradiction

/-- The text with the passwords of its locations masked. -/
def maskLocations (s : List Char) : List Char :=
  match h : splitLocation? s with
  | some (start, after) =>
    have := length_splitLocation? h
    start ++ mask ++ '@' :: maskLocations after
  | none =>
    match s with
    | [] => []
    | c :: rest => c :: maskLocations rest
termination_by s.length

/-! ### Settings -/

/-- The character may stand in a password without quotes. -/
def isBareChar (c : Char) : Bool :=
  !Text.isBlank c && c != ';'

/-- What follows a password, quoted or bare; a quote that is not closed is part of a bare one. -/
def afterPassword (s : List Char) : List Char :=
  match s with
  | '\'' :: rest =>
    match rest.dropWhile (· != '\'') with
    | '\'' :: after => after
    | _ => s.dropWhile isBareChar
  | _ => s.dropWhile isBareChar

/-- What follows a key of a password at the start of a text. -/
def afterKey? (s : List Char) : Option (List Char) :=
  Text.dropEither? "PASSWORD".toList "PWD".toList s

/-- The blanks in front of a text, a sign of equality and the blanks behind it are passed over. -/
def afterEquals? (s : List Char) : Option (List Char) :=
  match Text.trimStart s with
  | '=' :: rest => some (Text.trimStart rest)
  | _ => none

/-- A setting of a password: the start up to the password, and what follows the password. -/
def splitSetting? (s : List Char) : Option (List Char × List Char) :=
  match (afterKey? s).bind afterEquals? with
  | some password => some (s.take (s.length - password.length), afterPassword password)
  | none => none

theorem length_afterPassword_le (s : List Char) : (afterPassword s).length ≤ s.length := by
  unfold afterPassword
  split
  · next rest =>
    split
    · next after h =>
      have := length_dropWhile_le (· != '\'') rest
      rw [h] at this
      simp only [List.length_cons] at *
      omega
    · exact length_dropWhile_le _ _
  · exact length_dropWhile_le _ _

theorem length_afterKey? {s rest : List Char} (h : afterKey? s = some rest) :
    rest.length < s.length := by
  unfold afterKey? Text.dropEither? at h
  rcases Option.or_eq_some_iff.1 h with h | ⟨-, h⟩
  · have := Text.length_dropWord? h
    have : 0 < "PASSWORD".toList.length := by decide
    omega
  · have := Text.length_dropWord? h
    have : 0 < "PWD".toList.length := by decide
    omega

theorem length_afterEquals? {s rest : List Char} (h : afterEquals? s = some rest) :
    rest.length < s.length := by
  unfold afterEquals? at h
  split at h
  · next tail htail =>
    simp only [Option.some.injEq] at h
    subst h
    have h₁ := length_dropWhile_le Text.isBlank s
    have h₂ := length_dropWhile_le Text.isBlank tail
    rw [show s.dropWhile Text.isBlank = '=' :: tail from htail] at h₁
    simp only [Text.trimStart, List.length_cons] at *
    omega
  · contradiction

/-- What follows a setting is shorter. -/
theorem length_splitSetting? {s start after : List Char}
    (h : splitSetting? s = some (start, after)) : after.length < s.length := by
  unfold splitSetting? at h
  split at h
  · next password hpassword =>
    simp only [Option.some.injEq, Prod.mk.injEq] at h
    obtain ⟨-, rfl⟩ := h
    obtain ⟨rest, hrest, hpassword⟩ := Option.bind_eq_some_iff.1 hpassword
    have := length_afterKey? hrest
    have := length_afterEquals? hpassword
    have := length_afterPassword_le password
    omega
  · contradiction

/-- A last character of a text is a word character. -/
def endsWord (s : List Char) : Bool :=
  (s.getLast?.map Text.isWordChar).getD false

/-- The text with the passwords of its settings masked; a key starts where a word does. -/
def maskSettings (afterWordChar : Bool) (s : List Char) : List Char :=
  match h : if afterWordChar then none else splitSetting? s with
  | some (start, after) =>
    have : after.length < s.length := by
      split at h
      · contradiction
      · exact length_splitSetting? h
    start ++ mask ++ maskSettings (endsWord (s.take (s.length - after.length))) after
  | none =>
    match s with
    | [] => []
    | c :: rest => c :: maskSettings (Text.isWordChar c) rest
termination_by s.length

/-- The text with all passwords masked. -/
def redact (s : String) : String :=
  String.ofList (maskSettings false (maskLocations s.toList))

end SqlWorkbench.Redaction
