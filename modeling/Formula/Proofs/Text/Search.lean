import Formula.Text.Blank
import Formula.Text.Search

/-!
Cutting and splitting at a single character: at its first place, or nowhere if it is not there.
-/

namespace Formula.Text

variable {separator : Char} {before text : List Char}

theorem stripLeading?_self (separator : Char) (text : List Char) :
    stripLeading? [separator] (separator :: text) = some text := by
  simp [stripLeading?]

theorem stripLeading?_other {char : Char} (different : separator ≠ char) (text : List Char) :
    stripLeading? [separator] (char :: text) = none := by
  simp [stripLeading?, different]

theorem stripLeading?_of_not_mem (absent : separator ∉ text) :
    stripLeading? [separator] text = none := by
  cases text with
  | nil => rfl
  | cons char text => exact stripLeading?_other (List.ne_of_not_mem_cons absent) text

theorem cutAt?_append (absent : separator ∉ before) (text : List Char) :
    cutAt? [separator] (before ++ separator :: text) = some (before, text) := by
  induction before with
  | nil => simp [cutAt?, stripLeading?_self]
  | cons char before ih =>
      have different := List.ne_of_not_mem_cons absent
      have later := ih (List.not_mem_of_not_mem_cons absent)
      simp [cutAt?, stripLeading?_other different, later]

theorem cutAt?_of_not_mem (absent : separator ∉ text) : cutAt? [separator] text = none := by
  induction text with
  | nil => rfl
  | cons char text ih =>
      have different := List.ne_of_not_mem_cons absent
      have later := ih (List.not_mem_of_not_mem_cons absent)
      simp [cutAt?, stripLeading?_other different, later]

theorem splitFrom_append (absent : separator ∉ before) (text : List Char) :
    splitFrom [separator] 0 (before ++ separator :: text) =
      (before, splitOn [separator] text) := by
  induction before with
  | nil => simp [splitFrom, startsWith, stripLeading?_self, splitOn]
  | cons char before ih =>
      have different := List.ne_of_not_mem_cons absent
      have later := ih (List.not_mem_of_not_mem_cons absent)
      simp [splitFrom, startsWith, stripLeading?_other different, later]

theorem splitFrom_of_not_mem (absent : separator ∉ text) :
    splitFrom [separator] 0 text = (text, []) := by
  induction text with
  | nil => rfl
  | cons char text ih =>
      have different := List.ne_of_not_mem_cons absent
      have later := ih (List.not_mem_of_not_mem_cons absent)
      simp [splitFrom, startsWith, stripLeading?_other different, later]

theorem splitOn_append (absent : separator ∉ before) (text : List Char) :
    splitOn [separator] (before ++ separator :: text) = before :: splitOn [separator] text := by
  rw [splitOn, splitFrom_append absent]

theorem splitOn_of_not_mem (absent : separator ∉ text) : splitOn [separator] text = [text] := by
  rw [splitOn, splitFrom_of_not_mem absent]

theorem stripLeading?_cases (separator : Char) (text : List Char) :
    (text.head? ≠ some separator ∧ stripLeading? [separator] text = none) ∨
      ∃ rest, text = separator :: rest ∧ stripLeading? [separator] text = some rest := by
  cases text with
  | nil => exact .inl ⟨nofun, rfl⟩
  | cons first rest =>
      by_cases same : separator = first
      · subst same
        exact .inr ⟨rest, rfl, stripLeading?_self separator rest⟩
      · refine .inl ⟨fun head => same ?_, stripLeading?_other same rest⟩
        exact (Option.some.inj head).symm

theorem cutAt?_cases (separator : Char) (text : List Char) :
    (separator ∉ text ∧ cutAt? [separator] text = none) ∨
      ∃ before after, separator ∉ before ∧ text = before ++ separator :: after ∧
        cutAt? [separator] text = some (before, after) := by
  by_cases present : separator ∈ text
  · obtain ⟨before, after, rfl, absent⟩ := List.eq_append_cons_of_mem present
    exact .inr ⟨before, after, absent, rfl, cutAt?_append absent after⟩
  · exact .inl ⟨present, cutAt?_of_not_mem present⟩

theorem splitOn_cases (separator : Char) (text : List Char) :
    (separator ∉ text ∧ splitOn [separator] text = [text]) ∨
      ∃ before after, separator ∉ before ∧ text = before ++ separator :: after ∧
        splitOn [separator] text = before :: splitOn [separator] after := by
  by_cases present : separator ∈ text
  · obtain ⟨before, after, rfl, absent⟩ := List.eq_append_cons_of_mem present
    exact .inr ⟨before, after, absent, rfl, splitOn_append absent after⟩
  · exact .inl ⟨present, splitOn_of_not_mem present⟩

theorem stripLeading?_eq_some_iff {pattern rest : List Char} :
    stripLeading? pattern text = some rest ↔ text = pattern ++ rest := by
  induction pattern generalizing text with
  | nil => simp [stripLeading?]
  | cons wanted pattern ih =>
      cases text with
      | nil => simp [stripLeading?]
      | cons char text =>
          by_cases same : wanted = char
          · simp [stripLeading?, same, ih]
          · simp [stripLeading?, same, Ne.symm same]

theorem startsWith_iff {pattern : List Char} :
    startsWith pattern text = true ↔ pattern <+: text := by
  unfold startsWith
  rw [Option.isSome_iff_exists]
  simp only [stripLeading?_eq_some_iff]
  exact ⟨fun ⟨rest, whole⟩ => ⟨rest, whole.symm⟩, fun ⟨rest, whole⟩ => ⟨rest, whole.symm⟩⟩

theorem position?_cases (pattern text : List Char) :
    (∃ place, position? pattern text = some place ∧ place ≤ text.length ∧
      pattern <+: text.drop place ∧ ∀ other, pattern <+: text.drop other → place ≤ other) ∨
      position? pattern text = none ∧ ∀ other, ¬pattern <+: text.drop other := by
  induction text with
  | nil =>
      by_cases empty : pattern = []
      · exact .inl ⟨0, by simp [position?, empty], Nat.le_refl 0, by simp [empty],
          fun _ _ => Nat.zero_le _⟩
      · exact .inr ⟨by simp [position?, empty], by simp [empty]⟩
  | cons char text ih =>
      by_cases here : pattern <+: char :: text
      · refine .inl ⟨0, ?_, Nat.zero_le _, here, fun _ _ => Nat.zero_le _⟩
        rw [position?, if_pos (startsWith_iff.mpr here)]
      · rw [position?, if_neg fun starts => here (startsWith_iff.mp starts)]
        rcases ih with ⟨place, found, within, occurs, first⟩ | ⟨missing, nowhere⟩
        · refine .inl ⟨place + 1, by rw [found]; rfl, Nat.succ_le_succ within, occurs, ?_⟩
          rintro (_ | other) elsewhere
          · exact absurd elsewhere here
          · exact Nat.succ_le_succ (first other elsewhere)
        · refine .inr ⟨by rw [missing]; rfl, ?_⟩
          rintro (_ | other) elsewhere
          · exact here elsewhere
          · exact nowhere other elsewhere

theorem isBlank_of_isDigit {char : Char} (digit : char.isDigit = true) :
    isBlank char = false := by
  have bounds : 48 ≤ char.toNat ∧ char.toNat ≤ 57 := by
    simpa [Char.isDigit, Char.le_def, UInt32.le_iff_toNat_le] using digit
  simp only [isBlank, Bool.or_eq_false_iff, Bool.and_eq_false_iff, beq_eq_false_iff_ne,
    decide_eq_false_iff_not]
  omega

theorem trimStart_of_head (solid : ∀ first ∈ text.head?, isBlank first = false) :
    trimStart text = text := by
  cases text with
  | nil => rfl
  | cons first text =>
      have isSolid := solid first rfl
      exact List.dropWhile_cons_of_neg (by simp [isSolid])

theorem trim_of_ends (solid : ∀ first ∈ text.head?, isBlank first = false)
    (solidEnd : ∀ last ∈ text.getLast?, isBlank last = false) : trim text = text := by
  have reversed : ∀ first ∈ text.reverse.head?, isBlank first = false := by
    rw [List.head?_reverse]
    exact solidEnd
  rw [trim, trimStart_of_head solid, trimEnd, trimStart_of_head reversed, List.reverse_reverse]

theorem trim_surrounded {before after : List Char} (blank : ∀ char ∈ before, isBlank char = true)
    (blankEnd : ∀ char ∈ after, isBlank char = true)
    (solid : ∀ first ∈ text.head?, isBlank first = false)
    (solidEnd : ∀ last ∈ text.getLast?, isBlank last = false) :
    trim (before ++ text ++ after) = text := by
  cases text with
  | nil =>
      have allBlank : ∀ char ∈ before ++ after, isBlank char = true :=
        List.forall_mem_append.mpr ⟨blank, blankEnd⟩
      have nothing : trimStart (before ++ [] ++ after) = [] := by
        rw [List.append_nil, ← List.append_nil (before ++ after), trimStart,
          List.dropWhile_append_of_pos allBlank]
        rfl
      rw [trim, nothing]
      rfl
  | cons first text =>
      have start : trimStart (before ++ first :: text ++ after) = first :: text ++ after := by
        rw [List.append_assoc, trimStart, List.dropWhile_append_of_pos blank]
        exact trimStart_of_head solid
      have reversed : ∀ char ∈ after.reverse, isBlank char = true := by simpa using blankEnd
      have solidReversed : ∀ last ∈ (first :: text).reverse.head?, isBlank last = false := by
        rwa [List.head?_reverse]
      rw [trim, start, trimEnd, List.reverse_append, trimStart,
        List.dropWhile_append_of_pos reversed]
      exact (congrArg List.reverse (trimStart_of_head solidReversed)).trans (List.reverse_reverse _)

theorem trim_of_not_blank (solid : ∀ char ∈ text, isBlank char = false) : trim text = text :=
  trim_of_ends (fun first isFirst => solid first (List.mem_of_mem_head? isFirst))
    fun last isLast => solid last (List.mem_of_mem_getLast? isLast)

end Formula.Text
