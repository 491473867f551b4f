import Formula.Text.Case

/-!
Names in lower case. Character by character a sigma has one lower case form; in a whole text
one that ends a word has another. The two readings of a name differ there and nowhere else.
-/

namespace Formula.Text

theorem sameName_iff {left right : String} :
    sameName left right = true ↔ lowerChars left.toList = lowerChars right.toList := by
  unfold sameName
  rw [Bool.or_eq_true, beq_iff_eq, beq_iff_eq]
  constructor
  · rintro (rfl | same)
    · rfl
    · exact same
  · exact .inr

theorem sameName_congr {left right : String} (same : sameName left right = true)
    (name : String) : sameName name left = sameName name right := by
  rw [Bool.eq_iff_iff, sameName_iff, sameName_iff, sameName_iff.mp same]

/-- A capital sigma that follows a letter and comes before none. -/
def endsWord (before : List Char) (char : Char) (rest : List Char) : Bool :=
  isCapitalSigma char && (meetsCased before && !meetsCased rest)

/-- For each character of the lower case form, whether it is there for a sigma that ends a
word. -/
def finalsFrom (before : List Char) : List Char → List Bool
  | [] => []
  | char :: rest =>
      (lowerChar char).map (fun _ => endsWord before char rest) ++
        finalsFrom (char :: before) rest

def finals (text : String) : List Bool :=
  finalsFrom [] text.toList

variable {before rest : List Char} {char : Char}

theorem lowerChar_of_isCapitalSigma (sigma : isCapitalSigma char = true) :
    lowerChar char = [smallSigma] := by
  have isSigma : char = Char.ofNat 0x3a3 := by
    rw [← Char.ofNat_toNat char, beq_iff_eq.mp sigma]
  rw [isSigma]
  decide +kernel

theorem lowerChar_of_endsWord (ends : endsWord before char rest = true) :
    lowerChar char = [smallSigma] :=
  lowerChar_of_isCapitalSigma (Bool.and_eq_true_iff.mp ends).1

theorem lowerFrom_cons :
    lowerFrom before (char :: rest) =
      (if endsWord before char rest then [finalSigma] else lowerChar char) ++
        lowerFrom (char :: before) rest := by
  rw [lowerFrom]
  unfold endsWord
  -- On its own a capital sigma turns into the small one, as it does where no word ends.
  by_cases sigma : isCapitalSigma char = true
  · rw [if_pos sigma, sigma, Bool.true_and, lowerChar_of_isCapitalSigma sigma]
  · rw [if_neg sigma, eq_false_of_ne_true sigma, Bool.false_and, if_neg Bool.false_ne_true]

theorem lowerChars_cons : lowerChars (char :: rest) = lowerChar char ++ lowerChars rest :=
  List.flatMap_cons

/-- The letters of a name, the text that shows them, and which of them are final sigmas. -/
inductive Shows : List Char → List Char → List Bool → Prop
  | nil : Shows [] [] []
  | letter {letters text : List Char} {marks : List Bool} (char : Char) :
      Shows letters text marks → Shows (char :: letters) (char :: text) (false :: marks)
  | final {letters text : List Char} {marks : List Bool} :
      Shows letters text marks →
        Shows (smallSigma :: letters) (finalSigma :: text) (true :: marks)

namespace Shows

variable {letters otherLetters text otherText : List Char} {marks otherMarks : List Bool}

theorem append (front : Shows letters text marks) (back : Shows otherLetters otherText otherMarks) :
    Shows (letters ++ otherLetters) (text ++ otherText) (marks ++ otherMarks) := by
  induction front with
  | nil => exact back
  | letter char _ ih => exact .letter char ih
  | final _ ih => exact .final ih

theorem plain (letters : List Char) : Shows letters letters (letters.map fun _ => false) := by
  induction letters with
  | nil => exact .nil
  | cons char _ ih => exact .letter char ih

theorem text_unique (left : Shows letters text marks) (right : Shows letters otherText marks) :
    text = otherText := by
  induction left generalizing otherText with
  | nil => cases right; rfl
  | letter char _ ih =>
      cases right with
      | letter _ right => rw [ih right]
  | final _ ih =>
      cases right with
      | final right => rw [ih right]

theorem letters_unique (left : Shows letters text marks) (right : Shows otherLetters text marks) :
    letters = otherLetters := by
  induction left generalizing otherLetters with
  | nil => cases right; rfl
  | letter char _ ih =>
      cases right with
      | letter _ right => rw [ih right]
  | final _ ih =>
      cases right with
      | final right => rw [ih right]

theorem marks_unique (left : Shows letters text marks) (right : Shows letters text otherMarks) :
    marks = otherMarks := by
  -- The small and the final sigma are two characters, so what is shown tells them apart.
  induction left generalizing otherMarks with
  | nil => cases right; rfl
  | letter char _ ih =>
      cases right with
      | letter _ right => rw [ih right]
  | final _ ih =>
      cases right with
      | final right => rw [ih right]

end Shows

theorem shows_lowerFrom (before chars : List Char) :
    Shows (lowerChars chars) (lowerFrom before chars) (finalsFrom before chars) := by
  induction chars generalizing before with
  | nil => exact .nil
  | cons char rest ih =>
      rw [lowerChars_cons, lowerFrom_cons, finalsFrom]
      refine .append ?_ (ih _)
      by_cases ends : endsWord before char rest = true
      · rw [if_pos ends, lowerChar_of_endsWord ends, ends]
        exact .final .nil
      · rw [if_neg ends, eq_false_of_ne_true ends]
        exact .plain _

theorem lower_eq_iff {left right : String} :
    lower left = lower right ↔ lowerFrom [] left.toList = lowerFrom [] right.toList :=
  String.ofList_inj

/-- Two names agree in the one reading exactly when they agree in the other, unless they agree
in one of them and a sigma ends a word in one name where none does in the other. -/
theorem sameName_iff_lower_eq_iff (left right : String) :
    (sameName left right = true ↔ lower left = lower right) ↔
      (sameName left right = true ∨ lower left = lower right → finals left = finals right) := by
  rw [sameName_iff, lower_eq_iff, finals, finals]
  have ofLeft := shows_lowerFrom [] left.toList
  have ofRight := shows_lowerFrom [] right.toList
  constructor
  · intro agree either
    have letters : lowerChars left.toList = lowerChars right.toList := either.elim id agree.mpr
    rw [letters, agree.mp letters] at ofLeft
    exact ofLeft.marks_unique ofRight
  · intro same
    constructor
    · intro letters
      rw [letters, same (.inl letters)] at ofLeft
      exact ofLeft.text_unique ofRight
    · intro text
      rw [text, same (.inr text)] at ofLeft
      exact ofLeft.letters_unique ofRight

end Formula.Text
