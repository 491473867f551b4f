import Formula.Proofs.Library.Texts
import Formula.Proofs.Number.Integer
import Formula.Proofs.Text.Search

/-!
Positions in texts. All members of texts that take or give a position count characters from the
start, so that they agree with one another: on where a text can be cut, on where a pattern occurs
first, and on which character is where.
-/

namespace Formula

namespace Library

variable {text part : List Char} {start length : Int}

theorem substring_eq_ok :
    substring text start (some length) = .ok part ↔
      (0 ≤ start ∧ 0 ≤ length ∧ start + length ≤ text.length) ∧
        (text.drop start.toNat).take length.toNat = part := by
  unfold substring
  by_cases outside : start < 0 ∨ (text.length : Int) < start
  · simp only [outside, if_true, reduceCtorEq, false_iff]
    omega
  · by_cases tooLong : length < 0 ∨ (text.length : Int) < start + length
    · simp only [outside, tooLong, if_true, if_false, reduceCtorEq, false_iff]
      omega
    · simp only [outside, tooLong, if_false, Except.ok.injEq]
      refine (and_iff_right ?_).symm
      omega

theorem substring_eq_error :
    (∃ fault, substring text start (some length) = .error fault) ↔
      start < 0 ∨ text.length < start ∨ length < 0 ∨ text.length < start + length := by
  unfold substring
  by_cases outside : start < 0 ∨ (text.length : Int) < start
  · rw [if_pos outside]
    exact iff_of_true ⟨_, rfl⟩ (by omega)
  · rw [if_neg outside]
    by_cases tooLong : length < 0 ∨ (text.length : Int) < start + length
    · exact iff_of_true ⟨_, if_pos tooLong⟩ (by omega)
    · dsimp only
      rw [if_neg tooLong]
      exact iff_of_false nofun (by omega)

theorem substring_none {start : Nat} (within : start ≤ text.length) :
    substring text start none = .ok (text.drop start) := by
  unfold substring
  rw [if_neg (by omega), Int.toNat_natCast]

theorem indexOf_cases (pattern text : List Char) :
    (∃ place : Nat, indexOf pattern text = place ∧ place ≤ text.length ∧
      pattern <+: text.drop place ∧ ∀ other, pattern <+: text.drop other → place ≤ other) ∨
      indexOf pattern text = -1 ∧ ∀ other, ¬pattern <+: text.drop other := by
  unfold indexOf
  rcases Text.position?_cases pattern text with ⟨place, found, occurs⟩ | ⟨missing, nowhere⟩
  · rw [found]
    exact .inl ⟨place, rfl, occurs⟩
  · rw [missing]
    exact .inr ⟨rfl, nowhere⟩

theorem isSome_position? (pattern text : List Char) :
    (Text.position? pattern text).isSome = decide (0 ≤ indexOf pattern text) := by
  unfold indexOf
  cases Text.position? pattern text with
  | none => rfl
  | some place => exact (decide_eq_true (Int.natCast_nonneg place)).symm

theorem startsWith_eq (pattern text : List Char) :
    Text.startsWith pattern text = decide (indexOf pattern text = 0) := by
  rw [Bool.eq_iff_iff, Text.startsWith_iff, decide_eq_true_iff]
  rcases indexOf_cases pattern text with ⟨place, index, _, occurs, first⟩ | ⟨index, nowhere⟩
  · rw [index]
    constructor
    · intro starts
      have atStart := first 0 starts
      omega
    · intro atStart
      obtain rfl : place = 0 := by omega
      exact occurs
  · rw [index]
    exact ⟨fun starts => absurd starts (nowhere 0), fun impossible => by omega⟩

theorem charAt_eq_ok {text : String} {index : Int} {char : Char} :
    charAt text index = .ok char ↔ 0 ≤ index ∧ text.toList[index.toNat]? = some char := by
  unfold charAt
  split
  · next counted =>
      rw [and_iff_right counted]
      cases text.toList[index.toNat]? <;> simp
  · next negative => simp [negative]

end Library

structure TextReceiver where
  surroundings : Surroundings
  site : List Nat
  origin : Origin
  text : String

namespace TextReceiver

variable (receiver : TextReceiver)

def library : Catalog :=
  .standard receiver.surroundings

def call (arguments : List Value) : Invocation :=
  { site := receiver.site
    receiver := some (.text receiver.origin receiver.text)
    arguments := arguments }

def made (text : String) : Value :=
  Shape.text.write receiver.site text

def on (text : String) : TextReceiver :=
  { receiver with text := text }

def length : List (Outcome Value) :=
  receiver.library.textProperty "Length" (receiver.call [])

def item (index : Int) : List (Outcome Value) :=
  receiver.library.textItem (receiver.call [.int32 index])

def substringFrom (start : Int) : List (Outcome Value) :=
  receiver.library.textResponses "Substring" false [.int32] (receiver.call [.int32 start])

def substring (start length : Int) : List (Outcome Value) :=
  receiver.library.textResponses "Substring" false [.int32, .int32]
    (receiver.call [.int32 start, .int32 length])

def search (name : String) (origin : Origin) (pattern : String) : List (Outcome Value) :=
  receiver.library.textResponses name false [.string] (receiver.call [.text origin pattern])

variable (origin : Origin) (pattern : String) {start length index : Int}

theorem length_eq : receiver.length = [.ok (.int32 receiver.text.length)] := by
  rw [← String.length_toList]
  exact Catalog.textProperty_standard ..

theorem item_eq (holds : IntegerKind.int32.Holds index) :
    receiver.item index = [Value.character <$> Library.charAt receiver.text index] := by
  have read := Catalog.textItem_standard receiver.surroundings (receiver.call [.int32 index])
  unfold item library
  rw [read]
  change [(do return Value.character (← Library.charAt receiver.text
    (IntegerKind.int32.wrap index)))] = _
  rw [IntegerKind.wrap_of_holds holds]
  rfl

theorem substringFrom_eq (holds : IntegerKind.int32.Holds start) :
    receiver.substringFrom start =
      [(fun part => receiver.made (String.ofList part)) <$>
        Library.substring receiver.text.toList start none] := by
  unfold substringFrom library
  rw [Catalog.textResponses_standard _ _ _ (by decide +kernel)]
  change [(do return receiver.made (← String.ofList <$> Library.substring receiver.text.toList
    (IntegerKind.int32.wrap start) none))] = _
  rw [IntegerKind.wrap_of_holds holds]
  cases Library.substring receiver.text.toList start none <;> rfl

theorem substring_eq (holds : IntegerKind.int32.Holds start)
    (holdsLength : IntegerKind.int32.Holds length) :
    receiver.substring start length =
      [(fun part => receiver.made (String.ofList part)) <$>
        Library.substring receiver.text.toList start (some length)] := by
  unfold substring library
  rw [Catalog.textResponses_standard _ _ _ (by decide +kernel)]
  change [(do return receiver.made (← String.ofList <$> Library.substring receiver.text.toList
    (IntegerKind.int32.wrap start) (some (IntegerKind.int32.wrap length))))] = _
  rw [IntegerKind.wrap_of_holds holds, IntegerKind.wrap_of_holds holdsLength]
  cases Library.substring receiver.text.toList start (some length) <;> rfl

theorem search_indexOf :
    receiver.search "IndexOf" origin pattern =
      [.ok (.int32 (Library.indexOf pattern.toList receiver.text.toList))] := by
  unfold search library
  rw [Catalog.textResponses_standard _ _ _ (by decide +kernel)]
  rfl

theorem search_contains :
    receiver.search "Contains" origin pattern =
      [.ok (.boolean (Text.position? pattern.toList receiver.text.toList).isSome)] := by
  unfold search library
  rw [Catalog.textResponses_standard _ _ _ (by decide +kernel)]
  rfl

theorem search_startsWith :
    receiver.search "StartsWith" origin pattern =
      [.ok (.boolean (Text.startsWith pattern.toList receiver.text.toList))] := by
  unfold search library
  rw [Catalog.textResponses_standard _ _ _ (by decide +kernel)]
  rfl

theorem made_inj {left right : String} :
    receiver.made left = receiver.made right ↔ left = right := by
  unfold made
  exact ⟨fun same => (Value.text.inj same).2, congrArg _⟩

theorem substring_eq_ok (holds : IntegerKind.int32.Holds start)
    (holdsLength : IntegerKind.int32.Holds length) {part : String} :
    receiver.substring start length = [.ok (receiver.made part)] ↔
      (0 ≤ start ∧ 0 ≤ length ∧ start + length ≤ receiver.text.length) ∧
        (receiver.text.toList.drop start.toNat).take length.toNat = part.toList := by
  rw [receiver.substring_eq holds holdsLength, List.cons.injEq, and_iff_left rfl, map_eq_ok]
  simp only [made_inj, ← String.toList_inj, String.toList_ofList, exists_eq_right,
    Library.substring_eq_ok, String.length_toList]

theorem refused_iff (holds : IntegerKind.int32.Holds start)
    (holdsLength : IntegerKind.int32.Holds length) :
    (∃ fault, receiver.substring start length = [.error fault]) ↔
      start < 0 ∨ receiver.text.length < start ∨ length < 0 ∨
        receiver.text.length < start + length := by
  rw [← String.length_toList, ← Library.substring_eq_error, receiver.substring_eq holds holdsLength]
  cases Library.substring receiver.text.toList start (some length) <;> simp

theorem cut (holds : IntegerKind.int32.Holds start)
    (holdsLength : IntegerKind.int32.Holds length)
    (accepted : ¬∃ fault, receiver.substring start length = [.error fault]) :
    ∃ part, receiver.substring start length = [.ok (receiver.made part)] ∧
      (receiver.on part).length = [.ok (.int32 length)] := by
  rw [receiver.refused_iff holds holdsLength] at accepted
  refine ⟨String.ofList ((receiver.text.toList.drop start.toNat).take length.toNat),
    (receiver.substring_eq_ok holds holdsLength).mpr ⟨by omega, String.toList_ofList.symm⟩, ?_⟩
  rw [length_eq, on, String.length_ofList, List.length_take_of_le, Int.toNat_of_nonneg (by omega)]
  rw [List.length_drop, String.length_toList]
  omega

theorem item_eq_ok (holds : IntegerKind.int32.Holds index) {value : Value} :
    receiver.item index = [.ok value] ↔
      0 ≤ index ∧ ∃ char, receiver.text.toList[index.toNat]? = some char ∧
        Value.character char = value := by
  rw [receiver.item_eq holds, List.cons.injEq, and_iff_left rfl, map_eq_ok]
  simp only [Library.charAt_eq_ok, and_assoc, exists_and_left]

theorem item_iff (holds : IntegerKind.int32.Holds index) :
    (∃ value, receiver.item index = [.ok value]) ↔
      0 ≤ index ∧ index < receiver.text.length := by
  simp only [receiver.item_eq_ok holds, exists_and_left]
  refine and_congr_right fun counted => ?_
  have within := isSome_getElem? receiver.text.toList index.toNat
  rw [Option.isSome_iff_exists, String.length_toList] at within
  rw [exists_comm]
  simp only [exists_and_left, exists_eq', and_true, within]
  omega

theorem substring_one (holds : IntegerKind.int32.Holds index) {value : Value}
    (isItem : receiver.item index = [.ok value]) :
    receiver.substring index 1 = [.ok (receiver.made value.toText)] := by
  have within := (receiver.item_iff holds).mp ⟨value, isItem⟩
  obtain ⟨_, char, isChar, rfl⟩ := (receiver.item_eq_ok holds).mp isItem
  refine (receiver.substring_eq_ok holds (by decide)).mpr ⟨by omega, ?_⟩
  change List.take 1 _ = _
  rw [List.take_one, List.head?_drop, isChar]
  exact (String.toList_singleton char).symm

/-- The part of the text at a place that is as long as the pattern is the pattern. -/
def Occurs (pattern : String) (place : Int) : Prop :=
  IntegerKind.int32.Holds place ∧
    receiver.substring place pattern.length = [.ok (receiver.made pattern)]

def IsIndexOf (pattern : String) (position : Int) : Prop :=
  (position = -1 ∧ ∀ place, ¬receiver.Occurs pattern place) ∨
    (receiver.Occurs pattern position ∧ ∀ place, receiver.Occurs pattern place → position ≤ place)

section

variable (fits : receiver.text.length ≤ IntegerKind.int32.greatest)
include fits

theorem halves {place : Nat} (within : place ≤ receiver.text.length) :
    ∃ front back, receiver.substring 0 place = [.ok (receiver.made front)] ∧
      receiver.substringFrom place = [.ok (receiver.made back)] ∧
      front ++ back = receiver.text ∧
      (receiver.on front).length = [.ok (.int32 place)] ∧
      (receiver.on back).length = [.ok (.int32 (receiver.text.length - place))] := by
  have holds : IntegerKind.int32.Holds place :=
    IntegerKind.holds_of_nonneg (Int.natCast_nonneg _) ((Int.ofNat_le.mpr within).trans fits)
  have withinChars : place ≤ receiver.text.toList.length := by
    rwa [String.length_toList]
  refine ⟨String.ofList (receiver.text.toList.take place),
    String.ofList (receiver.text.toList.drop place), ?_, ?_, ?_, ?_, ?_⟩
  · refine (receiver.substring_eq_ok (by decide) holds).mpr ⟨by omega, ?_⟩
    rw [Int.toNat_natCast, Int.toNat_zero, List.drop_zero, String.toList_ofList]
  · rw [receiver.substringFrom_eq holds, Library.substring_none withinChars]
    rfl
  · rw [← String.ofList_append, List.take_append_drop, String.ofList_toList]
  · rw [length_eq, on, String.length_ofList, List.length_take_of_le withinChars]
  · rw [length_eq, on, String.length_ofList, List.length_drop, String.length_toList,
      Int.ofNat_sub within]

theorem occurs_iff (patternFits : pattern.length ≤ IntegerKind.int32.greatest) {place : Int} :
    receiver.Occurs pattern place ↔
      ∃ start : Nat, place = start ∧ start ≤ receiver.text.length ∧
        pattern.toList <+: receiver.text.toList.drop start := by
  have holdsLength : IntegerKind.int32.Holds pattern.length :=
    IntegerKind.holds_of_nonneg (Int.natCast_nonneg _) patternFits
  unfold Occurs
  constructor
  · rintro ⟨holds, isPattern⟩
    obtain ⟨⟨counted, _, within⟩, cut⟩ :=
      (receiver.substring_eq_ok holds holdsLength).mp isPattern
    refine ⟨place.toNat, (Int.toNat_of_nonneg counted).symm, by omega, ?_⟩
    rw [← cut]
    exact List.take_prefix _ _
  · rintro ⟨start, rfl, within, isPrefix⟩
    have holds : IntegerKind.int32.Holds start :=
      IntegerKind.holds_of_nonneg (Int.natCast_nonneg _) ((Int.ofNat_le.mpr within).trans fits)
    have length := isPrefix.length_le
    rw [List.length_drop, String.length_toList, String.length_toList] at length
    refine ⟨holds, (receiver.substring_eq_ok holds holdsLength).mpr ⟨by omega, ?_⟩⟩
    rw [Int.toNat_natCast, Int.toNat_natCast, ← String.length_toList]
    exact (List.prefix_iff_eq_take.mp isPrefix).symm

theorem isIndexOf_indexOf (patternFits : pattern.length ≤ IntegerKind.int32.greatest) :
    receiver.IsIndexOf pattern (Library.indexOf pattern.toList receiver.text.toList) := by
  unfold IsIndexOf
  simp only [receiver.occurs_iff pattern fits patternFits]
  rcases Library.indexOf_cases pattern.toList receiver.text.toList with
    ⟨place, index, within, occurs, first⟩ | ⟨index, nowhere⟩
  · rw [String.length_toList] at within
    refine .inr ⟨⟨place, index, within, occurs⟩, ?_⟩
    rintro _ ⟨other, rfl, _, elsewhere⟩
    have least := first other elsewhere
    omega
  · refine .inl ⟨index, ?_⟩
    rintro _ ⟨other, _, _, somewhere⟩
    exact nowhere other somewhere

end

/-- The members of a text that have to do with positions, for a pattern to look for. -/
structure HasPositions : Prop where
  length : receiver.length = [.ok (.int32 receiver.text.length)]
  halves : ∀ place : Nat, place ≤ receiver.text.length →
    ∃ front back, receiver.substring 0 place = [.ok (receiver.made front)] ∧
      receiver.substringFrom place = [.ok (receiver.made back)] ∧
      front ++ back = receiver.text ∧
      (receiver.on front).length = [.ok (.int32 place)] ∧
      (receiver.on back).length = [.ok (.int32 (receiver.text.length - place))]
  refused : ∀ start length, IntegerKind.int32.Holds start → IntegerKind.int32.Holds length →
    ((∃ fault, receiver.substring start length = [.error fault]) ↔
      start < 0 ∨ receiver.text.length < start ∨ length < 0 ∨
        receiver.text.length < start + length)
  cut : ∀ start length, IntegerKind.int32.Holds start → IntegerKind.int32.Holds length →
    (¬∃ fault, receiver.substring start length = [.error fault]) →
      ∃ part, receiver.substring start length = [.ok (receiver.made part)] ∧
        (receiver.on part).length = [.ok (.int32 length)]
  search : ∃ position, receiver.IsIndexOf pattern position ∧
    receiver.search "IndexOf" origin pattern = [.ok (.int32 position)] ∧
    receiver.search "Contains" origin pattern = [.ok (.boolean (decide (0 ≤ position)))] ∧
    receiver.search "StartsWith" origin pattern = [.ok (.boolean (decide (position = 0)))]
  item : ∀ index, IntegerKind.int32.Holds index →
    ((∃ value, receiver.item index = [.ok value]) ↔ 0 ≤ index ∧ index < receiver.text.length) ∧
      ∀ value, receiver.item index = [.ok value] →
        receiver.substring index 1 = [.ok (receiver.made value.toText)]

/-- The members of a text agree on positions, if these are numbers of 32 bits. -/
theorem hasPositions (fits : receiver.text.length ≤ IntegerKind.int32.greatest)
    (patternFits : pattern.length ≤ IntegerKind.int32.greatest) :
    receiver.HasPositions origin pattern where
  length := receiver.length_eq
  halves _ := receiver.halves fits
  refused _ _ := receiver.refused_iff
  cut _ _ := receiver.cut
  search := by
    refine ⟨_, receiver.isIndexOf_indexOf pattern fits patternFits,
      receiver.search_indexOf origin pattern, ?_, ?_⟩
    · rw [search_contains, Library.isSome_position?]
    · rw [search_startsWith, Library.startsWith_eq]
  item _ holds := ⟨receiver.item_iff holds, fun _ => receiver.substring_one holds⟩

/-- A text whose letters take one and two bytes in turn. -/
def babble : TextReceiver where
  surroundings := ⟨⟨0, 0, 0, .unspecified⟩, .universal, fun _ => .zero⟩
  site := []
  origin := .given 0
  text := "bébébé"

/-- The pattern occurs twice, and the two occurrences overlap. -/
theorem hasPositions_overlapping :
    (babble.text.length : Int) ≤ IntegerKind.int32.greatest ∧
      ("ébé".length : Int) ≤ IntegerKind.int32.greatest ∧
      babble.HasPositions (.given 1) "ébé" :=
  have fits : (babble.text.length : Int) ≤ IntegerKind.int32.greatest := by decide
  have patternFits : ("ébé".length : Int) ≤ IntegerKind.int32.greatest := by decide
  ⟨fits, patternFits, babble.hasPositions (.given 1) "ébé" fits patternFits⟩

end TextReceiver

end Formula
