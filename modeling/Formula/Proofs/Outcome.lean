import Mathlib.Data.List.Forall2

/-!
Steps taken one after the other, of which the first that fails ends the work.
-/

namespace Formula

variable {ε α β : Type}

theorem bind_eq_ok {first : Except ε α} {next : α → Except ε β} {result : β} :
    first >>= next = .ok result ↔ ∃ value, first = .ok value ∧ next value = .ok result := by
  cases first with
  | error cause =>
      constructor
      · intro impossible
        cases impossible
      · rintro ⟨value, impossible, _⟩
        cases impossible
  | ok value =>
      constructor
      · intro finished
        exact ⟨value, rfl, finished⟩
      · rintro ⟨other, same, finished⟩
        cases same
        exact finished

theorem pure_eq_ok {value result : α} :
    (pure value : Except ε α) = .ok result ↔ value = result :=
  Except.ok.injEq value result ▸ Iff.rfl

theorem map_eq_ok {first : Except ε α} {change : α → β} {result : β} :
    change <$> first = .ok result ↔ ∃ value, first = .ok value ∧ change value = result := by
  cases first with
  | error cause =>
      constructor
      · intro impossible
        cases impossible
      · rintro ⟨value, impossible, _⟩
        cases impossible
  | ok value =>
      constructor
      · intro finished
        cases finished
        exact ⟨value, rfl, rfl⟩
      · rintro ⟨other, same, rfl⟩
        cases same
        rfl

theorem mapM_eq_ok {step : α → Except ε β} {items : List α} {results : List β} :
    items.mapM step = .ok results ↔
      List.Forall₂ (fun item result => step item = .ok result) items results := by
  induction items generalizing results with
  | nil =>
      rw [List.mapM_nil, pure_eq_ok, List.forall₂_nil_left_iff]
      exact eq_comm
  | cons item items ih =>
      rw [List.mapM_cons, bind_eq_ok]
      constructor
      · rintro ⟨first, stepped, rest⟩
        rw [bind_eq_ok] at rest
        obtain ⟨others, steppedAll, finished⟩ := rest
        rw [pure_eq_ok] at finished
        rw [← finished]
        exact .cons stepped (ih.mp steppedAll)
      · intro each
        cases each with
        | cons stepped others =>
            refine ⟨_, stepped, ?_⟩
            rw [bind_eq_ok]
            exact ⟨_, ih.mpr others, rfl⟩

/-- Whenever the first outcome is a result, so is the second, and the two are related. -/
def Follows (related : α → β → Prop) (first : Except ε α) (second : Except ε β) : Prop :=
  ∀ one, first = .ok one → ∃ other, second = .ok other ∧ related one other

namespace Follows

variable {γ δ : Type} {related : α → β → Prop} {relatedNext : γ → δ → Prop}

theorem ok {one : α} {other : β} (same : related one other) :
    Follows related (.ok one : Except ε α) (.ok other) := by
  intro result finished
  cases finished
  exact ⟨other, rfl, same⟩

theorem error {cause : ε} {second : Except ε β} : Follows related (.error cause) second := by
  intro result impossible
  cases impossible

theorem bind {first : Except ε α} {second : Except ε β} {next : α → Except ε γ}
    {nextSecond : β → Except ε δ} (follows : Follows related first second)
    (further : ∀ one other, related one other →
      Follows relatedNext (next one) (nextSecond other)) :
    Follows relatedNext (first >>= next) (second >>= nextSecond) := by
  intro result finished
  rw [bind_eq_ok] at finished
  obtain ⟨one, isOne, finished⟩ := finished
  obtain ⟨other, isOther, same⟩ := follows one isOne
  obtain ⟨last, isLast, relates⟩ := further one other same result finished
  exact ⟨last, bind_eq_ok.mpr ⟨other, isOther, isLast⟩, relates⟩

theorem bind_same {first : Except ε α} {next : α → Except ε γ} {nextSecond : α → Except ε δ}
    (further : ∀ one, Follows relatedNext (next one) (nextSecond one)) :
    Follows relatedNext (first >>= next) (first >>= nextSecond) := by
  intro result finished
  rw [bind_eq_ok] at finished
  obtain ⟨one, isOne, finished⟩ := finished
  obtain ⟨last, isLast, relates⟩ := further one result finished
  exact ⟨last, bind_eq_ok.mpr ⟨one, isOne, isLast⟩, relates⟩

theorem map {first : Except ε α} {second : Except ε β} {change : α → γ} {changeSecond : β → δ}
    (follows : Follows related first second)
    (further : ∀ one other, related one other → relatedNext (change one) (changeSecond other)) :
    Follows relatedNext (change <$> first) (changeSecond <$> second) := by
  intro result finished
  obtain ⟨one, isOne, rfl⟩ := map_eq_ok.mp finished
  obtain ⟨other, isOther, same⟩ := follows one isOne
  exact ⟨_, map_eq_ok.mpr ⟨other, isOther, rfl⟩, further one other same⟩

theorem mapM {step : α → Except ε γ} {stepSecond : β → Except ε δ}
    (follows : ∀ one other, related one other →
      Follows relatedNext (step one) (stepSecond other)) {items : List α} {others : List β}
    (each : List.Forall₂ related items others) :
    Follows (List.Forall₂ relatedNext) (items.mapM step) (others.mapM stepSecond) := by
  induction each with
  | nil =>
      rw [List.mapM_nil, List.mapM_nil]
      exact .ok .nil
  | cons same _ ih =>
      rw [List.mapM_cons, List.mapM_cons]
      refine .bind (follows _ _ same) fun first second sameFirst => ?_
      refine .bind ih fun rest others sameRest => ?_
      exact .ok (.cons sameFirst sameRest)

end Follows

def cause? : Except ε α → Option ε
  | .error cause => some cause
  | .ok _ => none

theorem cause?_eq_some {outcome : Except ε α} {cause : ε} :
    cause? outcome = some cause ↔ outcome = .error cause := by
  cases outcome with
  | error other =>
      rw [Except.error.injEq]
      exact Option.some_inj
  | ok result =>
      constructor
      · intro impossible
        cases impossible
      · intro impossible
        cases impossible

theorem ok_of_any {outcome : Except ε α} {holds : α → Bool}
    (passed : outcome.toOption.any holds = true) :
    ∃ result, outcome = .ok result ∧ holds result = true := by
  cases outcome with
  | error cause => cases passed
  | ok result => exact ⟨result, rfl, passed⟩

end Formula
