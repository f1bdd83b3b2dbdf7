import SqlWorkbench.Text.Letter

/-!
# Words in any case

Keywords are recognised in any case of their letters. Two letters have a third form besides the
capital and the small one: the long s and the sign for degrees of Kelvin.
-/

namespace SqlWorkbench.Text

/-- The character is a form of the letter, which is given as a capital. -/
def isLetter (letter c : Char) : Bool :=
  c.toUpper == letter || (letter == 'S' && c == 'ſ') || (letter == 'K' && c == '\u212A')

/-- What follows a word in capitals at the start of a text, if it is there in any case. -/
def dropWord? : List Char → List Char → Option (List Char)
  | [], s => some s
  | _ :: _, [] => none
  | letter :: word, c :: s => if isLetter letter c then dropWord? word s else none

@[simp] theorem dropWord?_nil (s : List Char) : dropWord? [] s = some s := rfl

/-- What is left is shorter by the length of the word. -/
theorem length_dropWord? {word s rest : List Char} (h : dropWord? word s = some rest) :
    rest.length + word.length = s.length := by
  induction word generalizing s with
  | nil => simp only [dropWord?_nil, Option.some.injEq] at h; simp [h]
  | cons letter word ih =>
    cases s with
    | nil => simp [dropWord?] at h
    | cons c s =>
      simp only [dropWord?] at h
      split at h
      · have := ih h
        simp only [List.length_cons]
        omega
      · contradiction

/-- What follows one of two words at the start of a text. -/
def dropEither? (first second s : List Char) : Option (List Char) :=
  (dropWord? first s).or (dropWord? second s)

end SqlWorkbench.Text
