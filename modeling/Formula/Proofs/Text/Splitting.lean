import Formula.Proofs.Text.Search

/-!
Splitting at a separator of any length. The parts of a text do not contain the separator, and
joined with it they are the text again. A character separates like the text of it.
-/

namespace Formula.Text

variable {separator text part : List Char} {parts : List (List Char)} {char : Char}

/-- Parts of a text without the separator in them, which it stands between. -/
inductive Splits (separator : List Char) : List Char → List (List Char) → Prop
  | whole {text : List Char} (absent : ¬separator <:+: text) : Splits separator text [text]
  | part {before after : List Char} {parts : List (List Char)} (absent : ¬separator <:+: before)
      (rest : Splits separator after parts) :
      Splits separator (before ++ separator ++ after) (before :: parts)

namespace Splits

theorem ne_nil (splits : Splits separator text parts) : parts ≠ [] := by
  cases splits <;> exact List.cons_ne_nil _ _

theorem apart (splits : Splits separator text parts) :
    ∀ part ∈ parts, ¬separator <:+: part := by
  induction splits with
  | whole absent => simpa using absent
  | part absent rest ih => simpa using ⟨absent, ih⟩

theorem join_eq (splits : Splits separator text parts) : join separator parts = text := by
  induction splits with
  | whole absent => exact List.intercalate_singleton
  | part absent rest ih =>
      unfold join at ih ⊢
      rw [List.intercalate_cons_of_ne_nil rest.ne_nil, ih]

theorem cons (splits : Splits separator text (part :: parts))
    (notHere : ¬separator <+: char :: text) :
    Splits separator (char :: text) ((char :: part) :: parts) := by
  generalize isParts : part :: parts = all at splits
  cases splits with
  | whole absent =>
      cases isParts
      refine .whole fun within => ?_
      rcases List.infix_cons_iff.mp within with here | later
      · exact notHere here
      · exact absent later
  | part absent rest =>
      cases isParts
      have stillAbsent : ¬separator <:+: char :: part := by
        intro within
        rcases List.infix_cons_iff.mp within with here | later
        · refine notHere (here.trans ?_)
          simp [List.append_assoc]
        · exact absent later
      exact .part stillAbsent rest

end Splits

theorem splitFrom_skip (separator : List Char) (skip : Nat) (text : List Char) :
    splitFrom separator skip text = splitFrom separator 0 (text.drop skip) := by
  induction skip generalizing text with
  | zero => rfl
  | succ skip ih =>
      cases text with
      | nil => simp [splitFrom]
      | cons char text => simp [splitFrom, ih]

theorem splitOn_separator_append (nonempty : separator ≠ []) (after : List Char) :
    splitOn separator (separator ++ after) = [] :: splitOn separator after := by
  obtain ⟨wanted, rest, rfl⟩ := List.exists_cons_of_ne_nil nonempty
  have starts : startsWith (wanted :: rest) (wanted :: (rest ++ after)) = true :=
    startsWith_iff.mpr (List.prefix_append _ _)
  simp [splitOn, splitFrom, starts, splitFrom_skip _ rest.length]

theorem splitOn_cons (notHere : ¬separator <+: char :: text) :
    splitOn separator (char :: text) = (splitOn separator text).modifyHead (char :: ·) := by
  have starts : startsWith separator (char :: text) = false :=
    eq_false_of_ne_true fun starts => notHere (startsWith_iff.mp starts)
  simp [splitOn, splitFrom, starts]

theorem splits_splitOn (nonempty : separator ≠ []) (text : List Char) :
    Splits separator text (splitOn separator text) := by
  by_cases starts : separator <+: text
  · obtain ⟨after, rfl⟩ := starts
    have shorter : after.length < (separator ++ after).length := by
      simpa using List.length_pos_iff.mpr nonempty
    have absent : ¬separator <:+: [] := by simpa using nonempty
    rw [splitOn_separator_append nonempty]
    exact .part absent (splits_splitOn nonempty after)
  · cases text with
    | nil => exact .whole (by simpa using nonempty)
    | cons char text =>
        have later := splits_splitOn nonempty text
        rw [splitOn_cons starts]
        obtain ⟨part, parts, isParts⟩ := List.exists_cons_of_ne_nil later.ne_nil
        rw [isParts] at later ⊢
        exact later.cons starts
termination_by text.length

theorem splitWhere_eq_splitOn (separator : Char) (text : List Char) :
    splitWhere (· == separator) text = splitOn [separator] text := by
  induction text with
  | nil => rfl
  | cons char text ih =>
      rw [splitWhere_cons, ih]
      by_cases same : char = separator
      · subst same
        simpa using (splitOn_separator_append (List.cons_ne_nil char []) text).symm
      · rw [splitOn_cons (by simpa using Ne.symm same)]
        simp [same]

end Formula.Text
