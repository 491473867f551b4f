import Formula.Proofs.Overload.Ties

/-!
A type is nearest to itself. So a candidate that takes every argument for its own type is preferred
over all others of its form, those apart that do so as well, and in the normal form it is preferred
over the expanded ones by the form alone. Where it is the only one, it is the choice.
-/

namespace Formula.Catalog

variable {catalog : Catalog} {candidates : List Signature} {arguments : List DataType}
  {first second : Applicable} {index : Nat} {signature : Signature} {form : CallForm}

def IsExact (arguments : List DataType) (candidate : Applicable) : Prop :=
  ∀ position argument, arguments[position]? = some argument →
    candidate.typeAt position = argument

/-- The candidate at a place takes the arguments in the normal form, each of them under a parameter
of its own type. -/
def MatchesExactly (catalog : Catalog) (candidates : List Signature) (arguments : List DataType)
    (index : Nat) : Prop :=
  ∃ signature, catalog.Applies candidates arguments ⟨index, signature, .normal⟩ ∧
    ∀ (position : Nat) (argument : DataType), arguments[position]? = some argument →
      signature.parameters[position]?.map Parameter.type = some argument

theorem IsExact.sameTypes_iff (exact : IsExact arguments first) :
    SameTypes arguments first second ↔ IsExact arguments second := by
  constructor
  · intro same position argument found
    rw [← same position argument found]
    exact exact position argument found
  · intro both position argument found
    rw [exact position argument found, both position argument found]

theorem IsExact.asNear (exact : IsExact arguments first) :
    catalog.AsNear arguments first second := by
  intro position argument found
  rw [exact position argument found]
  by_cases same : argument = second.typeAt position
  · exact .inl same
  · exact .inr (nearer_iff.mpr ⟨same, .inl rfl⟩)

theorem IsExact.outranks (exact : IsExact arguments first)
    (sameForm : first.form.isExpanded = second.form.isExpanded)
    (inexact : ¬IsExact arguments second) : catalog.Outranks arguments first second :=
  .types sameForm exact.asNear fun same => absurd (exact.sameTypes_iff.mp same) inexact

/-- An exact candidate is chosen if the others are inexact, or expanded where it is not. -/
theorem resolve_of_isExact
    (applies : catalog.Applies candidates arguments ⟨index, signature, form⟩)
    (exact : IsExact arguments ⟨index, signature, form⟩)
    (worse : ∀ rival, catalog.Applies candidates arguments rival → rival.index ≠ index →
      (form.isExpanded = false ∧ rival.form.isExpanded = true) ∨
        (form.isExpanded = rival.form.isExpanded ∧ ¬IsExact arguments rival)) :
    catalog.resolve candidates arguments = .chosen index form := by
  rw [resolve_chosen_iff]
  refine ⟨signature, applies, fun rival appliesRival different => ?_⟩
  rw [outranks_iff applies appliesRival]
  rcases worse rival appliesRival different with ⟨isNormal, isExpanded⟩ | ⟨sameForm, inexact⟩
  · exact .form isNormal isExpanded
  · exact exact.outranks sameForm inexact

theorem isExact_normal_iff
    (applies : catalog.Applies candidates arguments ⟨index, signature, .normal⟩) :
    IsExact arguments ⟨index, signature, .normal⟩ ↔
      ∀ (position : Nat) (argument : DataType), arguments[position]? = some argument →
        signature.parameters[position]?.map Parameter.type = some argument := by
  refine forall₃_congr fun position argument found => ?_
  obtain ⟨inRange, _⟩ := List.getElem?_eq_some_iff.mp found
  have declared := List.getElem?_eq_getElem
    (Nat.lt_of_lt_of_le inRange (length_le_of_normal applies.2))
  unfold Applicable.typeAt
  simp only [declared, Option.map_some, Option.getD_some, Option.some.injEq]

/-- The only candidate that takes the arguments exactly is chosen, whatever else takes them. -/
theorem resolve_exact (matching : catalog.MatchesExactly candidates arguments index)
    (only : ∀ other, catalog.MatchesExactly candidates arguments other → other = index) :
    catalog.resolve candidates arguments = .chosen index .normal := by
  obtain ⟨signature, applies, exact⟩ := matching
  refine resolve_of_isExact applies ((isExact_normal_iff applies).mpr exact) ?_
  rintro ⟨other, rival, form⟩ appliesRival different
  cases form with
  | expanded element => exact .inl ⟨rfl, rfl⟩
  | normal =>
      refine .inr ⟨rfl, fun exactRival => different (only other ?_)⟩
      exact ⟨rival, appliesRival, (isExact_normal_iff appliesRival).mp exactRival⟩

/-- What takes a number: as an object, as a wider one, as it is, and in a row of any length. -/
def numberTakers : List Signature :=
  [⟨[.of "value" .object], .none⟩, ⟨[.of "value" (.ofScalar (.integer .int64))], .none⟩,
    ⟨[.of "value" (.ofScalar (.integer .int32))], .none⟩,
    ⟨[.variadic "values" (.ofScalar (.integer .int32))], .none⟩]

theorem resolve_exact_number :
    primitives.MatchesExactly numberTakers [.ofScalar (.integer .int32)] 2 ∧
    (∀ other, primitives.MatchesExactly numberTakers [.ofScalar (.integer .int32)] other →
      other = 2) ∧
    primitives.resolve numberTakers [.ofScalar (.integer .int32)] = .chosen 2 .normal := by
  have matching : primitives.MatchesExactly numberTakers [.ofScalar (.integer .int32)] 2 := by
    refine ⟨_, ⟨rfl, by decide⟩, ?_⟩
    rintro (_ | position) argument ⟨⟩
    rfl
  have only : ∀ other, primitives.MatchesExactly numberTakers [.ofScalar (.integer .int32)] other →
      other = 2 := by
    rintro other ⟨signature, ⟨found, _⟩, exact⟩
    have own := exact 0 _ rfl
    match other, found with
    | 0, found => cases found; revert own; decide
    | 1, found => cases found; revert own; decide
    | 2, _ => rfl
    | 3, found => cases found; revert own; decide
  exact ⟨matching, only, resolve_exact matching only⟩

end Formula.Catalog
