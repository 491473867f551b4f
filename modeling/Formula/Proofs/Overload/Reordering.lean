import Mathlib.Logic.Equiv.Fin.Basic
import Formula.Proofs.Overload.Selection
import Formula.TypingError

/-!
The choice among candidates whose list is put in another order: the same candidate is chosen, and
where the choice stays open, the same candidates are reported in another order.
-/

namespace Formula

variable {α : Type}

theorem exists_places {items others : List α} (perm : items.Perm others) :
    ∃ places : Fin others.length ≃ Fin items.length,
      ∀ place, others.get place = items.get (places place) := by
  induction perm with
  | nil => exact ⟨.refl _, fun _ => rfl⟩
  | @cons item items others perm ih =>
      obtain ⟨places, same⟩ := ih
      refine ⟨(finSuccEquiv _).trans ((Equiv.optionCongr places).trans (finSuccEquiv _).symm), ?_⟩
      intro place
      cases place using Fin.cases with
      | zero => rfl
      | succ place => exact same place
  | swap first second rest =>
      refine ⟨Equiv.swap 0 1, fun place => ?_⟩
      cases place using Fin.cases with
      | zero => rfl
      | succ place =>
          cases place using Fin.cases with
          | zero => rfl
          | succ place =>
              rw [Equiv.swap_apply_of_ne_of_ne]
              · rfl
              · exact Fin.succ_ne_zero _
              · exact fun same => Fin.succ_ne_zero place (Fin.succ_injective _ same)
  | trans _ _ ihFirst ihSecond =>
      obtain ⟨first, sameFirst⟩ := ihFirst
      obtain ⟨second, sameSecond⟩ := ihSecond
      refine ⟨second.trans first, fun place => ?_⟩
      rw [sameSecond, sameFirst]
      rfl

/-- Outcomes that mean the same for two lists: they choose the same item, or report the same
items. -/
inductive Resolution.Alike (items others : List α) : Resolution → Resolution → Prop
  | chosen {index place : Nat} {form : CallForm} (same : items[index]? = others[place]?) :
      Alike items others (.chosen index form) (.chosen place form)
  | noMatch : Alike items others .noMatch .noMatch
  | ambiguous {indices places : List Nat}
      (perm : (indices.filterMap (items[·]?)).Perm (places.filterMap (others[·]?))) :
      Alike items others (.ambiguous indices) (.ambiguous places)

namespace Catalog

section Order

variable {catalog : Catalog} {candidates : List Signature} {arguments : List DataType}

theorem Tied.index_lt {index : Nat} (tied : catalog.Tied candidates arguments index) :
    index < candidates.length := by
  obtain ⟨candidate, applies, rfl, _⟩ := tied
  exact applies.index_lt

theorem length_reordered (order : Equiv.Perm (Fin candidates.length)) :
    (reordered candidates order).length = candidates.length :=
  List.length_ofFn

theorem exists_order {items others : List α} (perm : items.Perm others)
    (signature : α → Signature) :
    ∃ order : Equiv.Perm (Fin (items.map signature).length),
      others.map signature = reordered (items.map signature) order ∧
        ∀ place, others[place.val]? = items[(order place).val]? := by
  obtain ⟨places, same⟩ := exists_places perm
  have length : (items.map signature).length = items.length := List.length_map signature
  have lengths : (items.map signature).length = others.length := length.trans perm.length_eq
  let order : Equiv.Perm (Fin (items.map signature).length) :=
    (finCongr lengths).trans (places.trans (finCongr length.symm))
  have found : ∀ place, others[place.val]? = items[(order place).val]? := by
    intro place
    have there : place.val < others.length := by omega
    have here := (places ⟨place.val, there⟩).isLt
    change others[place.val]? = items[(places ⟨place.val, there⟩).val]?
    rw [List.getElem?_eq_getElem there, List.getElem?_eq_getElem here]
    exact congrArg some (same ⟨place.val, there⟩)
  refine ⟨order, ?_, found⟩
  apply List.ext_getElem?
  intro index
  unfold reordered
  rw [List.getElem?_map, List.getElem?_ofFn]
  split
  · rename_i inRange
    rw [found ⟨index, inRange⟩, ← List.getElem?_map, List.getElem?_eq_getElem (order _).isLt]
    rfl
  · rename_i outside
    rw [List.getElem?_eq_none (by omega)]
    rfl

theorem tied_perm {items others : List α} {order : Equiv.Perm (Fin candidates.length)}
    (found : ∀ place, others[place.val]? = items[(order place).val]?) {tied places : List Nat}
    (tiedApart : tied.Nodup) (placesApart : places.Nodup)
    (tiedInRange : ∀ index ∈ tied, index < candidates.length)
    (placesInRange : ∀ place ∈ places, place < candidates.length)
    (members : ∀ place : Fin candidates.length, place.val ∈ places ↔ (order place).val ∈ tied) :
    (tied.filterMap (items[·]?)).Perm (places.filterMap (others[·]?)) := by
  let back (place : Nat) : Nat :=
    if inRange : place < candidates.length then order ⟨place, inRange⟩ else place
  have backAt : ∀ place, ∀ inRange : place < candidates.length,
      back place = order ⟨place, inRange⟩ := fun place inRange => dif_pos inRange
  have moved : tied.Perm (places.map back) := by
    refine (List.perm_ext_iff_of_nodup tiedApart ?_).mpr fun index => ?_
    · refine List.Nodup.map_on (fun one isOne other isOther same => ?_) placesApart
      rw [backAt one (placesInRange one isOne), backAt other (placesInRange other isOther),
        Fin.val_inj, order.apply_eq_iff_eq, Fin.mk.injEq] at same
      exact same
    · rw [List.mem_map]
      constructor
      · intro isTied
        have inRange := tiedInRange index isTied
        have isPlace := members (order.symm ⟨index, inRange⟩)
        rw [Equiv.apply_symm_apply] at isPlace
        refine ⟨_, isPlace.mpr isTied, ?_⟩
        rw [backAt _ (Fin.isLt _), Fin.eta, Equiv.apply_symm_apply]
      · rintro ⟨place, isPlace, rfl⟩
        have inRange := placesInRange place isPlace
        rw [backAt place inRange]
        exact (members ⟨place, inRange⟩).mp isPlace
  refine (moved.filterMap _).trans ?_
  rw [List.filterMap_map]
  refine List.Perm.of_eq (List.filterMap_congr fun place isPlace => ?_)
  have inRange := placesInRange place isPlace
  rw [Function.comp_apply, backAt place inRange]
  exact (found ⟨place, inRange⟩).symm

/-- The order of the candidates does not matter to the choice. -/
theorem resolve_perm {items others : List α} (perm : items.Perm others)
    (signature : α → Signature) (arguments : List DataType) :
    (catalog.resolve (items.map signature) arguments).Alike items others
      (catalog.resolve (others.map signature) arguments) := by
  obtain ⟨order, reorders, found⟩ := exists_order perm signature
  rw [reorders]
  cases outcome : catalog.resolve (reordered (items.map signature) order) arguments with
  | noMatch =>
      rw [(resolve_reordered_noMatch order).mp outcome]
      exact .noMatch
  | chosen index form =>
      obtain ⟨_, applies, _⟩ := resolve_chosen_iff.mp outcome
      have inRange := applies.index_lt
      rw [length_reordered] at inRange
      rw [(resolve_reordered_chosen order ⟨index, inRange⟩ form).mp outcome]
      exact .chosen (found ⟨index, inRange⟩).symm
  | ambiguous places =>
      obtain ⟨tied, original, members⟩ := resolve_reordered_ambiguous order outcome
      obtain ⟨_, _, increasing, isTied⟩ := resolve_ambiguous_iff.mp original
      obtain ⟨_, _, placesIncreasing, isPlace⟩ := resolve_ambiguous_iff.mp outcome
      rw [original]
      refine .ambiguous (tied_perm found (increasing.imp Nat.ne_of_lt)
        (placesIncreasing.imp Nat.ne_of_lt) ?_ ?_ members)
      · exact fun index member => ((isTied index).mp member).index_lt
      · intro place member
        have inRange := ((isPlace place).mp member).index_lt
        rwa [length_reordered] at inRange

end Order

end Catalog

namespace TypingError

theorem ambiguousAmong_perm {lines others : List String} (perm : lines.Perm others) :
    ambiguousAmong lines = ambiguousAmong others := by
  unfold ambiguousAmong
  congr 1
  have sorted : ∀ lines : List String,
      (lines.mergeSort fun left right => decide (left ≤ right)).Pairwise fun left right =>
        decide (left ≤ right) = true := by
    intro lines
    apply List.pairwise_mergeSort
    · intro first second third
      simp only [decide_eq_true_eq]
      exact String.le_trans
    · intro first second
      rw [Bool.or_eq_true, decide_eq_true_eq, decide_eq_true_eq]
      exact String.le_total first second
  refine List.Perm.eq_of_pairwise ?_ (sorted lines) (sorted others)
    ((List.mergeSort_perm _ _).trans (perm.trans (List.mergeSort_perm _ _).symm))
  intro first second _ _ upward downward
  rw [decide_eq_true_eq] at upward downward
  exact String.le_antisymm upward downward

end TypingError

end Formula
