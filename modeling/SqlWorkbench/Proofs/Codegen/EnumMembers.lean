import Mathlib.Tactic.Common
import SqlWorkbench.Codegen.Prisma
import SqlWorkbench.Proofs.Codegen.Literals
import SqlWorkbench.Proofs.Json.Texts
import SqlWorkbench.Proofs.Text.FirstOccurrence

/-!
# Members of Prisma enums are read back

A Prisma enum has a line for each value. A value that is an identifier is a member itself; any other
has a member of a made-up name, behind which it stands as a text. Main statement: the members are
read back as the values, in their order, whatever their characters.
-/

namespace SqlWorkbench

open Text

/-! ### Names -/

namespace Naming

/-- A name that is free is the candidate, or the candidate with a number. -/
lemma free_cases (used : List String) (candidate : String) :
    free used candidate = candidate ∨ ∃ n : Nat, free used candidate = candidate ++ toString n := by
  have hnumbered (number fuel : Nat) :
      ∃ n : Nat, numbered used candidate number fuel = candidate ++ toString n := by
    fun_induction numbered used candidate number fuel with
    | case1 number => exact ⟨number, rfl⟩
    | case2 number fuel hused ih => exact ih
    | case3 number fuel hused => exact ⟨number, rfl⟩
  rw [free]
  split
  · exact .inr (hnumbered 2 used.length)
  · exact .inl rfl

end Naming

namespace Prisma

variable {name value : String}

lemma isIdentifier_iff : isIdentifier name = true ↔
    (name.toList.head?.map Char.isAlpha).getD false = true ∧
      ∀ c ∈ name.toList, isWordChar c = true := by
  rw [isIdentifier]
  cases name.toList with
  | nil => simp
  | cons c rest =>
    simp only [Bool.and_eq_true, List.all_eq_true, List.head?_cons, Option.map_some,
      Option.getD_some, List.forall_mem_cons]
    refine and_congr_right fun hc => ?_
    rw [and_iff_right (isWordChar_of_isAlpha hc)]

lemma isIdentifier_append_toString (h : isIdentifier name = true) (n : Nat) :
    isIdentifier (name ++ toString n) = true := by
  rw [isIdentifier_iff] at h ⊢
  obtain ⟨hhead, hchars⟩ := h
  rw [String.toList_append, toList_toString_nat]
  constructor
  · cases hname : name.toList with
    | nil => simp [hname] at hhead
    | cons c rest => simpa [hname] using hhead
  · intro c hc
    rcases List.mem_append.mp hc with hc | hc
    · exact hchars c hc
    · exact isWordChar_of_isDigit (isDigit_of_mem_toDigits hc)

lemma isIdentifier_memberName (value : String) : isIdentifier (memberName value) = true := by
  have hsanitized : ∀ c ∈ (Naming.sanitized value).toList, isWordChar c = true := by
    intro c hc
    simp only [Naming.sanitized, String.toList_ofList, List.mem_map] at hc
    obtain ⟨d, -, rfl⟩ := hc
    split
    · next hd => exact hd
    · decide
  rw [isIdentifier_iff, memberName]
  split
  · next hhead => exact ⟨hhead, hsanitized⟩
  · rw [String.toList_append]
    refine ⟨rfl, fun c hc => ?_⟩
    rcases List.mem_append.mp hc with hc | hc
    · have hprefix : ∀ c ∈ "value_".toList, c.isAlpha = true ∨ c = '_' := by simp
      rcases hprefix c hc with halpha | rfl
      · exact isWordChar_of_isAlpha halpha
      · decide
    · exact hsanitized c hc

lemma not_mem_of_isIdentifier (h : isIdentifier name = true) {c : Char}
    (hc : isWordChar c = false) : c ∉ name.toList := by
  intro hmem
  rw [(isIdentifier_iff.mp h).2 c hmem] at hc
  cases hc

lemma isIdentifier_claim (used : List String) (h : isIdentifier name = true) :
    isIdentifier (Naming.claim used name).1 = true := by
  rw [Naming.claim]
  rcases Naming.free_cases used name with hfree | ⟨n, hfree⟩
  · rwa [hfree]
  · rw [hfree]
    exact isIdentifier_append_toString h n

/-! ### Members -/

/-- The value that a member stands for. -/
def Member.meant (m : Member) : String :=
  m.value.getD m.name

/-- The members stand for the values, and their names are identifiers. -/
lemma ofValues_spec (used values : List String) :
    (Member.ofValues used values).map Member.meant = values ∧
      ∀ m ∈ Member.ofValues used values, isIdentifier m.name = true := by
  fun_induction Member.ofValues used values with
  | case1 => simp
  | case2 used value rest hvalue ih =>
    exact ⟨congrArg (value :: ·) ih.1, List.forall_mem_cons.mpr ⟨hvalue, ih.2⟩⟩
  | case3 used value rest hvalue name used' hclaim ih =>
    refine ⟨congrArg (value :: ·) ih.1, List.forall_mem_cons.mpr ⟨?_, ih.2⟩⟩
    have hname := isIdentifier_claim used (isIdentifier_memberName value)
    rwa [hclaim] at hname

/-- The value of a member, by its line: the member itself, or the text in its attribute. -/
def memberValue? (line : List Char) : Option String :=
  match splitAt? " @map(".toList line with
  | none => if isIdentifier (String.ofList line) then some (String.ofList line) else none
  | some (name, mapped) =>
    if isIdentifier (String.ofList name) && mapped.getLast? == some ')' then
      match Json.read? (String.ofList mapped.dropLast) with
      | some (.string value) => some value
      | _ => none
    else none

/-- The value of the member on a line with two blanks in front. -/
def memberReader : Reader String := fun s => do
  let s ← dropPrefix? "  ".toList s
  let value ← memberValue? (s.takeWhile (· != '\n'))
  some (value, s.dropWhile (· != '\n'))

/-- The line of a member tells its value. -/
lemma memberValue?_text {m : Member} (hname : isIdentifier m.name = true) :
    ∃ line, m.text.toList = "  ".toList ++ line ∧ '\n' ∉ line ∧
      memberValue? line = some m.meant := by
  have hblank : ' ' ∉ m.name.toList := not_mem_of_isIdentifier hname (by decide)
  have hbreak : '\n' ∉ m.name.toList := not_mem_of_isIdentifier hname (by decide)
  have hopen : '(' ∉ m.name.toList := not_mem_of_isIdentifier hname (by decide)
  have hmark : " @map(".toList ≠ [] := by decide
  obtain ⟨name, value⟩ := m
  cases value with
  | none =>
    refine ⟨name.toList, by simp [Member.text], hbreak, ?_⟩
    have hsplit : splitAt? " @map(".toList name.toList = none := by
      rw [splitAt?_eq_none_iff hmark]
      exact fun hoccurs => hblank (hoccurs.subset (by decide))
    rw [memberValue?, hsplit]
    simp [hname, Member.meant]
  | some value =>
    refine ⟨name.toList ++ " @map(".toList ++ ((Json.quotedText value).toList ++ [')']), ?_, ?_, ?_⟩
    · simp [Member.text, Naming.doubleQuoted]
    · simp [hbreak, Json.break_not_mem_quotedText value]
    · have hsplit : splitAt? " @map(".toList
          (name.toList ++ " @map(".toList ++ ((Json.quotedText value).toList ++ [')']))
            = some (name.toList, (Json.quotedText value).toList ++ [')']) := by
        rw [splitAt?_eq_some_iff hmark]
        refine ⟨rfl, fun hoccurs => ?_⟩
        rcases List.mem_append.mp (hoccurs.subset (show '(' ∈ " @map(".toList by decide)) with h | h
        · exact hopen h
        · exact absurd h (by decide)
      rw [memberValue?, hsplit]
      simp [hname, Json.read?_quotedText, Member.meant]

lemma takes_memberText {m : Member} (hname : isIdentifier m.name = true) {next : List Char}
    (hnext : next.head? = some '\n') : memberReader.Takes m.text m.meant next := by
  obtain ⟨line, htext, hbreak, hvalue⟩ := memberValue?_text hname
  have hline : ∀ c ∈ line, (c != '\n') = true := fun c hc => by
    simpa using ne_of_mem_of_not_mem hc hbreak
  obtain ⟨rest, rfl⟩ : ∃ rest, next = '\n' :: rest := by
    cases next with
    | nil => cases hnext
    | cons c rest => exact ⟨rest, by rw [Option.some.inj hnext]⟩
  have htake : (line ++ '\n' :: rest).takeWhile (· != '\n') = line := by
    rw [List.takeWhile_append_of_pos hline, List.takeWhile_cons_of_neg (by decide), List.append_nil]
  have hdrop : (line ++ '\n' :: rest).dropWhile (· != '\n') = '\n' :: rest := by
    rw [List.dropWhile_append_of_pos hline, List.dropWhile_cons_of_neg (by decide)]
  rw [Reader.Takes, htext, List.append_assoc, memberReader]
  simp only [Reader.dropPrefix?_append, Option.bind_eq_bind, Option.bind_some, htake, hdrop, hvalue]

/-- The values in an enum. -/
def valuesReader (name : String) : Reader (List String) :=
  Reader.within ("enum " ++ name ++ " \x7b\n") "\n\x7d" (memberReader.many "\n")

/-- An enum is read back as the values that it was made of. -/
lemma takes_enumBlock (name : String) {e : EnumType} (hne : e.values ≠ []) (next : List Char) :
    (valuesReader name).Takes (EnumBlock.ofType name e).text e.values next := by
  obtain ⟨hmeant, hname⟩ := ofValues_spec (e.values.filter isIdentifier) e.values
  have hmembers : Member.ofValues (e.values.filter isIdentifier) e.values ≠ [] := by
    intro hnil
    rw [hnil] at hmeant
    exact hne hmeant.symm
  have hlist : Reader.Takes (memberReader.many "\n")
      (joinWith "\n" ((Member.ofValues (e.values.filter isIdentifier) e.values).map Member.text))
      ((Member.ofValues (e.values.filter isIdentifier) e.values).map Member.meant)
      ("\n\x7d".toList ++ next) := by
    refine Reader.takes_joinWith Member.text Member.meant (fun s => s.head? = some '\n') (by decide)
      (fun s => rfl) (fun m hm s hs => takes_memberText (hname m hm) hs) rfl ?_ hmembers
    intro s hs
    obtain rfl : '\x7d' :: next = s := by simpa using hs
    rfl
  rw [hmeant] at hlist
  exact hlist.within _

end Prisma

end SqlWorkbench
