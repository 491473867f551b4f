import Formula.Overload.Ranking

/-!
The comparison of two candidates is antisymmetric: swapping the candidates swaps the answer, at
every stage. It is not transitive, so this is all that the choice among many can rest on.
-/

namespace Formula

namespace Preference

def swap : Preference → Preference
  | first => second
  | second => first
  | neither => neither

theorem ofNats_swap (first second : Nat) : ofNats second first = (ofNats first second).swap := by
  unfold ofNats
  by_cases less : second < first
  · have notGreater : ¬first < second := by omega
    rw [if_pos less, if_neg notGreater, if_pos less]
    rfl
  · rw [if_neg less]
    by_cases greater : first < second
    · rw [if_pos greater, if_neg less, if_pos greater]
      rfl
    · rw [if_neg greater, if_neg greater, if_neg less]
      rfl

end Preference

namespace Catalog

variable (catalog : Catalog)

theorem nearerType_swap (first second argument : DataType) :
    catalog.nearerType second first argument =
      (catalog.nearerType first second argument).swap := by
  unfold nearerType
  by_cases same : first = second
  · subst same
    simp [Preference.swap]
  · have different : second ≠ first := fun equal => same equal.symm
    by_cases atFirst : first = argument
    · subst atFirst
      simp [same, different, Preference.swap]
    · by_cases atSecond : second = argument
      · subst atSecond
        simp [same, different, Preference.swap]
      · -- What is left is a pair of conversions, and swapping the types swaps the pair.
        by_cases tables : isTableScalar first && isTableScalar second
        · have tables' : (isTableScalar second && isTableScalar first) = true := by
            rw [Bool.and_comm]
            exact tables
          simp only [beq_iff_eq, same, different, atFirst, atSecond, tables, tables', if_false,
            if_true]
          cases second.widensTo first <;> cases first.widensTo second <;> rfl
        · have tables' : ¬(isTableScalar second && isTableScalar first) = true := by
            rw [Bool.and_comm]
            exact tables
          simp only [beq_iff_eq, same, different, atFirst, atSecond, tables, tables', if_false]
          cases catalog.isAssignable first second <;>
            cases catalog.isAssignable second first <;> rfl

theorem vote?_swap (first second : Applicable) (position : Nat) (argument : DataType) :
    catalog.vote? second first position argument =
      (catalog.vote? first second position argument).map Preference.swap := by
  unfold vote?
  by_cases same : first.typeAt position = second.typeAt position
  · simp [same]
  · have different : second.typeAt position ≠ first.typeAt position := fun equal => same equal.symm
    simp [same, different, catalog.nearerType_swap (first.typeAt position)]

def votes (first second : Applicable) (arguments : List DataType) : List Preference :=
  arguments.zipIdx.filterMap fun (argument, position) =>
    catalog.vote? first second position argument

theorem votes_swap (first second : Applicable) (arguments : List DataType) :
    catalog.votes second first arguments =
      (catalog.votes first second arguments).map Preference.swap := by
  unfold votes
  rw [List.map_filterMap]
  congr 1
  funext ⟨argument, position⟩
  exact catalog.vote?_swap first second position argument

theorem contains_map_swap (votes : List Preference) (preference : Preference) :
    (votes.map Preference.swap).contains preference = votes.contains preference.swap := by
  induction votes with
  | nil => rfl
  | cons vote votes ih =>
      rw [List.map_cons, List.contains_cons, List.contains_cons, ih]
      congr 1
      cases vote <;> cases preference <;> rfl

def countVotes (votes : List Preference) (lengths : Preference) : Preference :=
  if votes.contains .neither then .neither
  else
    match votes.contains .first, votes.contains .second with
    | true, false => .first
    | false, true => .second
    | true, true => .neither
    | false, false => lengths

theorem countVotes_swap (votes : List Preference) (lengths : Preference) :
    countVotes (votes.map Preference.swap) lengths.swap = (countVotes votes lengths).swap := by
  have first := contains_map_swap votes .first
  have second := contains_map_swap votes .second
  have neither := contains_map_swap votes .neither
  rw [show Preference.first.swap = .second from rfl] at first
  rw [show Preference.second.swap = .first from rfl] at second
  rw [show Preference.neither.swap = .neither from rfl] at neither
  unfold countVotes
  rw [first, second, neither]
  by_cases undecided : votes.contains Preference.neither = true
  · rw [if_pos undecided, if_pos undecided]
    rfl
  · rw [if_neg undecided, if_neg undecided]
    cases votes.contains Preference.first <;> cases votes.contains Preference.second <;> rfl

theorem compareParameters_eq (first second : Applicable) (arguments : List DataType) :
    catalog.compareParameters first second arguments =
      match first.form.isExpanded, second.form.isExpanded with
      | true, false => .second
      | false, true => .first
      | _, _ => countVotes (catalog.votes first second arguments)
          (.ofNats first.signature.parameters.length second.signature.parameters.length) :=
  rfl

theorem compareParameters_swap (first second : Applicable) (arguments : List DataType) :
    catalog.compareParameters second first arguments =
      (catalog.compareParameters first second arguments).swap := by
  rw [compareParameters_eq, compareParameters_eq, catalog.votes_swap first second,
    Preference.ofNats_swap first.signature.parameters.length, countVotes_swap]
  cases first.form.isExpanded <;> cases second.form.isExpanded <;> rfl

theorem compareCandidates_swap (first second : Applicable) (arguments : List DataType) :
    catalog.compareCandidates second first arguments =
      (catalog.compareCandidates first second arguments).swap := by
  unfold compareCandidates
  rw [catalog.compareParameters_swap first second]
  cases catalog.compareParameters first second arguments with
  | first => rfl
  | second => rfl
  | neither =>
      simp only [Preference.swap]
      by_cases same : parameterTypes first.signature.parameters =
          parameterTypes second.signature.parameters
      · simp only [same, beq_self_eq_true, if_true]
        exact Preference.ofNats_swap _ _
      · have different : parameterTypes second.signature.parameters ≠
            parameterTypes first.signature.parameters := fun equal => same equal.symm
        simp [same, different]

theorem beats_asymmetric {arguments : List DataType} {first second : Applicable}
    (wins : catalog.beats arguments first second = true) :
    catalog.beats arguments second first = false := by
  unfold beats at wins ⊢
  rw [catalog.compareCandidates_swap first second, eq_of_beq wins]
  rfl

end Catalog

end Formula
