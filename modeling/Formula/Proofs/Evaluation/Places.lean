import Mathlib.Logic.Function.Basic
import Formula.Evaluation.Basic

/-!
Moving a tree to another place. What a tree gives depends on its place only through the names
that the run has for the places in it, so a tree that is moved gives what it gave before to a run
that calls its places by the names of the new ones.
-/

namespace Formula

namespace Setting

/-- Two runs that call the places of one tree by the same names, wherever it stands in either. -/
structure Agrees (one other : Setting) (site otherSite : List Nat) : Prop where
  catalog : one.catalog = other.catalog
  receiver : one.receiver = other.receiver
  place : ∀ path, one.place (path ++ site) = other.place (path ++ otherSite)

namespace Agrees

variable {one other : Setting} {site otherSite : List Nat}

theorem here (agrees : Agrees one other site otherSite) :
    one.place site = other.place otherSite :=
  agrees.place []

theorem child (agrees : Agrees one other site otherSite) (position : Nat) :
    Agrees one other (position :: site) (position :: otherSite) where
  catalog := agrees.catalog
  receiver := agrees.receiver
  place path := by
    have moved := agrees.place (path ++ [position])
    rw [List.append_assoc, List.append_assoc] at moved
    exact moved

end Agrees

mutual

/-- A tree gives the same in two runs that have the same names for its places. -/
theorem evaluate_of_agrees {one other : Setting} : ∀ (term : Term) {site otherSite : List Nat},
    Agrees one other site otherSite → one.evaluate site term = other.evaluate otherSite term
  | .constant value type, _, _, _ => by simp only [evaluate]
  | .parameter name type, _, _, agrees => by simp only [evaluate, agrees.receiver]
  | .staticMember member, _, _, agrees => by simp only [evaluate, agrees.here]
  | .instanceMember receiver member, _, _, agrees => by
      have read := evaluate_of_agrees receiver (agrees.child 0)
      simp only [evaluate, agrees.here, read]
  | .index receiver indexer arguments, _, _, agrees => by
      have read := evaluate_of_agrees receiver (agrees.child 0)
      have passed := evaluateAll_of_agrees arguments 1 agrees
      simp only [evaluate, agrees.here, read, passed]
  | .staticCall method arguments, _, _, agrees => by
      have passed := evaluateAll_of_agrees arguments 1 agrees
      simp only [evaluate, agrees.here, passed]
  | .instanceCall receiver method arguments, _, _, agrees => by
      have read := evaluate_of_agrees receiver (agrees.child 0)
      have passed := evaluateAll_of_agrees arguments 1 agrees
      simp only [evaluate, agrees.here, read, passed]
  | .convert operand target, _, _, agrees => by
      have inner := evaluate_of_agrees operand (agrees.child 0)
      simp only [evaluate, agrees.catalog, inner]
  | .convertBy method operand target, _, _, agrees => by
      have inner := evaluate_of_agrees operand (agrees.child 0)
      simp only [evaluate, agrees.here, inner]
  | .unary operator operand type, _, _, agrees => by
      have inner := evaluate_of_agrees operand (agrees.child 0)
      simp only [evaluate, inner]
  | .unaryBy method operator operand, _, _, agrees => by
      have inner := evaluate_of_agrees operand (agrees.child 0)
      simp only [evaluate, agrees.here, inner]
  | .binary operator left right type, _, _, agrees => by
      have first := evaluate_of_agrees left (agrees.child 0)
      have second := evaluate_of_agrees right (agrees.child 1)
      -- the logical operators have equations of their own
      cases operator <;> simp only [evaluate, first, second]
  | .binaryBy method operator left right, _, _, agrees => by
      have first := evaluate_of_agrees left (agrees.child 0)
      have second := evaluate_of_agrees right (agrees.child 1)
      simp only [evaluate, agrees.here, first, second]
  | .coalesce left right, _, _, agrees => by
      have first := evaluate_of_agrees left (agrees.child 0)
      have second := evaluate_of_agrees right (agrees.child 1)
      simp only [evaluate, first, second]
  | .conditional test whenTrue whenFalse, _, _, agrees => by
      have tested := evaluate_of_agrees test (agrees.child 0)
      have first := evaluate_of_agrees whenTrue (agrees.child 1)
      have second := evaluate_of_agrees whenFalse (agrees.child 2)
      simp only [evaluate, tested, first, second]
  | .elementAt array position, _, _, agrees => by
      have read := evaluate_of_agrees array (agrees.child 0)
      have asked := evaluate_of_agrees position (agrees.child 1)
      simp only [evaluate, read, asked]
  | .lengthOf array, _, _, agrees => by
      have read := evaluate_of_agrees array (agrees.child 0)
      simp only [evaluate, read]
  | .newArray itemType items, _, _, agrees => by
      have filled := evaluateAll_of_agrees items 0 agrees
      simp only [evaluate, agrees.here, filled]

theorem evaluateAll_of_agrees {one other : Setting} : ∀ (terms : List Term) (child : Nat)
    {site otherSite : List Nat}, Agrees one other site otherSite →
    one.evaluateAll site child terms = other.evaluateAll otherSite child terms
  | [], _, _, _, _ => by simp only [evaluateAll]
  | term :: terms, child, _, _, agrees => by
      have first := evaluate_of_agrees term (agrees.child child)
      have rest := evaluateAll_of_agrees terms (child + 1) agrees
      simp only [evaluateAll, first, rest]

end

end Setting

/-- Paths from the node up: neither of two nodes is inside the other. -/
def Apart (site other : List Nat) : Prop :=
  ¬ site <:+ other ∧ ¬ other <:+ site

namespace Apart

theorem symm {site other : List Nat} (apart : Apart site other) : Apart other site :=
  ⟨apart.2, apart.1⟩

theorem append_ne {site other : List Nat} (apart : Apart site other) (path otherPath : List Nat) :
    path ++ site ≠ otherPath ++ other := by
  intro same
  have inside : site <:+ otherPath ++ other := ⟨path, same⟩
  rcases List.suffix_or_suffix_of_suffix inside (List.suffix_append otherPath other) with
    below | above
  · exact apart.1 below
  · exact apart.2 above

theorem of_append_ne {site other : List Nat}
    (apart : ∀ path otherPath, path ++ site ≠ otherPath ++ other) : Apart site other := by
  constructor
  · rintro ⟨path, same⟩
    exact apart path [] same
  · rintro ⟨path, same⟩
    exact apart [] path same.symm

theorem of_children {first second : Nat} (different : first ≠ second)
    (path otherPath base : List Nat) :
    Apart (path ++ first :: base) (otherPath ++ second :: base) := by
  apply of_append_ne
  intro above otherAbove same
  rw [← List.append_assoc, ← List.append_assoc] at same
  have children := List.append_inj_right' same rfl
  exact different (List.cons.inj children).1

theorem below {site other : List Nat} (apart : Apart site other) (path : List Nat) :
    Apart (path ++ site) other := by
  apply of_append_ne
  intro above otherAbove same
  rw [← List.append_assoc] at same
  exact apart.append_ne (above ++ path) otherAbove same

theorem pairwise_split {spare : List Nat} {first second : List (List Nat)}
    (apart : (spare :: (first ++ second)).Pairwise Apart) :
    ((0 :: spare) :: first ++ (1 :: spare) :: second).Pairwise Apart := by
  rw [List.pairwise_cons, List.pairwise_append] at apart
  obtain ⟨spareApart, firstApart, secondApart, across⟩ := apart
  have fromSpare : ∀ position, ∀ target ∈ first ++ second, Apart (position :: spare) target :=
    fun position target member => (spareApart target member).below [position]
  rw [List.cons_append, List.pairwise_cons, List.pairwise_append, List.pairwise_cons]
  refine ⟨?_, firstApart, ⟨?_, secondApart⟩, ?_⟩
  · intro target member
    rw [List.mem_append, List.mem_cons] at member
    rcases member with isFirst | rfl | isSecond
    · exact fromSpare 0 target (List.mem_append_left _ isFirst)
    · exact of_children Nat.zero_ne_one [] [] spare
    · exact fromSpare 0 target (List.mem_append_right _ isSecond)
  · exact fun target member => fromSpare 1 target (List.mem_append_right _ member)
  · intro target isFirst other member
    rcases List.mem_cons.mp member with rfl | isSecond
    · exact (fromSpare 1 target (List.mem_append_left _ isFirst)).symm
    · exact across target isFirst other isSecond

end Apart

/-- Moves what is below each of some places to another one, and all else to a spare place. -/
def relocate (spare : List Nat) : List (List Nat × List Nat) → List Nat → List Nat
  | [], path => path ++ spare
  | (site, target) :: moves, path =>
      if site <:+ path then path.take (path.length - site.length) ++ target
      else relocate spare moves path

variable {spare : List Nat} {moves : List (List Nat × List Nat)}

theorem relocate_head (site target path : List Nat) :
    relocate spare ((site, target) :: moves) (path ++ site) = path ++ target := by
  unfold relocate
  rw [if_pos (List.suffix_append path site), List.length_append, Nat.add_sub_cancel,
    List.take_left]

theorem relocate_tail {site path : List Nat} (outside : ¬ site <:+ path) (target : List Nat) :
    relocate spare ((site, target) :: moves) path = relocate spare moves path :=
  if_neg outside

theorem relocate_mem {site target : List Nat} (apart : (moves.map Prod.fst).Pairwise Apart)
    (member : (site, target) ∈ moves) (path : List Nat) :
    relocate spare moves (path ++ site) = path ++ target := by
  induction moves with
  | nil => cases member
  | cons move moves ih =>
      obtain ⟨first, firstTarget⟩ := move
      rw [List.map_cons, List.pairwise_cons] at apart
      rcases List.mem_cons.mp member with same | later
      · cases same
        exact relocate_head site target path
      · have outside : ¬ first <:+ path ++ site := by
          rintro ⟨above, same⟩
          exact (apart.1 site (List.mem_map_of_mem later)).append_ne above path same
        rw [relocate_tail outside]
        exact ih apart.2 later

theorem relocate_range (spare : List Nat) (moves : List (List Nat × List Nat)) (path : List Nat) :
    ∃ target ∈ spare :: moves.map Prod.snd, target <:+ relocate spare moves path := by
  induction moves with
  | nil => exact ⟨spare, List.mem_singleton_self spare, List.suffix_append path spare⟩
  | cons move moves ih =>
      obtain ⟨site, target⟩ := move
      unfold relocate
      split
      · exact ⟨target, by simp, List.suffix_append _ target⟩
      · obtain ⟨other, member, below⟩ := ih
        refine ⟨other, ?_, below⟩
        rw [List.map_cons, List.mem_cons, List.mem_cons]
        rcases List.mem_cons.mp member with isSpare | isTarget
        · exact .inl isSpare
        · exact .inr (.inr isTarget)

/-- Different places stay different if the targets and the spare place are apart. -/
theorem relocate_injective (apart : (spare :: moves.map Prod.snd).Pairwise Apart) :
    Function.Injective (relocate spare moves) := by
  induction moves with
  | nil =>
      intro path other same
      exact List.append_cancel_right same
  | cons move moves ih =>
      obtain ⟨site, target⟩ := move
      rw [List.map_cons, List.pairwise_cons, List.pairwise_cons] at apart
      obtain ⟨spareApart, targetApart, othersApart⟩ := apart
      have rest := ih (List.pairwise_cons.mpr
        ⟨fun other member => spareApart other (List.mem_cons_of_mem _ member), othersApart⟩)
      -- the targets and the spare place of the later moves are apart from the first target
      have elsewhere : ∀ path other, path ++ target ≠ relocate spare moves other := by
        intro path other same
        obtain ⟨reached, member, above, ends⟩ := relocate_range spare moves other
        rw [← ends] at same
        rcases List.mem_cons.mp member with rfl | isTarget
        · exact (spareApart target (List.mem_cons_self ..)).symm.append_ne path above same
        · exact (targetApart reached isTarget).append_ne path above same
      intro path other same
      by_cases below : site <:+ path
      · obtain ⟨inner, rfl⟩ := below
        rw [relocate_head] at same
        by_cases otherBelow : site <:+ other
        · obtain ⟨otherInner, rfl⟩ := otherBelow
          rw [relocate_head] at same
          rw [List.append_cancel_right same]
        · rw [relocate_tail otherBelow] at same
          exact absurd same (elsewhere inner other)
      · rw [relocate_tail below] at same
        by_cases otherBelow : site <:+ other
        · obtain ⟨otherInner, rfl⟩ := otherBelow
          rw [relocate_head] at same
          exact absurd same.symm (elsewhere otherInner path)
        · rw [relocate_tail otherBelow] at same
          exact rest same

theorem relocate_ne {otherSpare : List Nat} {others : List (List Nat × List Nat)}
    (apart : (spare :: moves.map Prod.snd ++ otherSpare :: others.map Prod.snd).Pairwise Apart)
    (path other : List Nat) : relocate spare moves path ≠ relocate otherSpare others other := by
  obtain ⟨target, member, above, ends⟩ := relocate_range spare moves path
  obtain ⟨otherTarget, otherMember, otherAbove, otherEnds⟩ :=
    relocate_range otherSpare others other
  rw [← ends, ← otherEnds]
  rw [List.pairwise_append] at apart
  exact (apart.2.2 target member otherTarget otherMember).append_ne above otherAbove

end Formula
