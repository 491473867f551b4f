import Mathlib.Data.Nat.Bitwise
import Formula.Proofs.Library.Positions
import Formula.Proofs.Text.Splitting

/-!
Splitting texts and joining them. Every way to split at a separator gives the same parts, options
only treat them afterwards, and joined with the separator the parts are the text they come from.
-/

namespace Formula

namespace Library

section

variable (bits : Int64)

/-- However the highest bit is read, the lowest two stay the same. -/
theorem toInt_emod_four : bits.toInt % 4 = (bits.toBitVec.toNat % 4 : Nat) := by
  change bits.toBitVec.toInt % 4 = _
  rw [BitVec.toInt_eq_toNat_cond]
  split <;> omega

theorem and_eq_zero_iff (mask : Int64) :
    bits &&& mask = 0 ↔ bits.toBitVec.toNat &&& mask.toBitVec.toNat = 0 := by
  rw [← Int64.toBitVec_inj, ← BitVec.toNat_inj, Int64.toBitVec_and, BitVec.toNat_and]
  rfl

theorem and_one_ne_zero : bits &&& 1 ≠ 0 ↔ bits.toInt % 2 = 1 := by
  have lowest : bits.toBitVec.toNat &&& 1 = bits.toBitVec.toNat % 2 := Nat.and_one_is_mod _
  have kept := toInt_emod_four bits
  rw [ne_eq, and_eq_zero_iff]
  change ¬bits.toBitVec.toNat &&& 1 = 0 ↔ _
  omega

theorem and_two_ne_zero : bits &&& 2 ≠ 0 ↔ bits.toInt / 2 % 2 = 1 := by
  have second : bits.toBitVec.toNat &&& 2 = 0 ↔ bits.toBitVec.toNat / 2 % 2 = 0 := by
    have digit := Nat.and_two_pow bits.toBitVec.toNat 1
    rw [pow_one, Nat.testBit_eq_decide_div_mod_eq, pow_one] at digit
    rcases Nat.mod_two_eq_zero_or_one (bits.toBitVec.toNat / 2) with even | odd
    · simp [digit, even]
    · simp [digit, odd]
  have kept := toInt_emod_four bits
  rw [ne_eq, and_eq_zero_iff]
  change ¬bits.toBitVec.toNat &&& 2 = 0 ↔ _
  omega

end

/-- The bits of options. A value of another shape has none. -/
def optionBits : Value → Int64
  | .enumeration _ bits => bits
  | _ => 0

/-- The plain parts as options want them: trimmed with the bit of `TrimEntries`, and after that
without the empty ones with the bit of `RemoveEmptyEntries`. -/
def treated (options : Value) (parts : List String) : List String :=
  let entries :=
    if optionBits options &&& 2 ≠ 0 then
      parts.map fun part => String.ofList (Text.trim part.toList)
    else parts
  if optionBits options &&& 1 ≠ 0 then entries.filter (· ≠ "") else entries

theorem map_apply (options : Value) (parts : List (List Char)) :
    ((SplitOptions.ofBits (optionBits options).toInt).apply parts).map String.ofList =
      treated options (parts.map String.ofList) := by
  have isEmpty (part : List Char) : part.isEmpty = decide (part = []) := by
    cases part <;> rfl
  unfold SplitOptions.apply SplitOptions.ofBits treated
  simp only [and_one_ne_zero, and_two_ne_zero]
  by_cases removes : (optionBits options).toInt % 2 = 1 <;>
    by_cases trims : (optionBits options).toInt / 2 % 2 = 1 <;>
      simp [removes, trims, List.filter_map, Function.comp_def, isEmpty]

end Library

namespace TextReceiver

open Library

variable (receiver : TextReceiver)

def row (texts : List String) : Value :=
  Shape.texts.write receiver.site texts

def optionsType : DataType :=
  .plain .stringSplitOptions

def splitAtAny (arguments : List Value) : List (Outcome Value) :=
  receiver.library.textResponses "Split" false [(DataType.ofScalar .character).arrayOf]
    (receiver.call arguments)

def splitAtChar (char : Char) (options : Value) : List (Outcome Value) :=
  receiver.library.textResponses "Split" false [.ofScalar .character, optionsType]
    (receiver.call [.character char, options])

def splitAtText (origin : Origin) (separator : String) (options : Value) :
    List (Outcome Value) :=
  receiver.library.textResponses "Split" false [.string, optionsType]
    (receiver.call [.text origin separator, options])

def omittedOptions : List (List (Option Value)) :=
  ((receiver.library.methods .string "Split" false).filter fun method =>
    method.types == [.string, optionsType]).map fun method =>
      (method.parameters.drop 1).map (·.default)

/-- Joins the items of an array with a separator, anywhere in the tree, by the overload for items
of a type. -/
def joined (site : List Nat) (element : DataType) (origin : Origin) (separator : String)
    (items : Value) : List (Outcome Value) :=
  receiver.library.textResponses "Join" true [.string, element.arrayOf]
    { site := site, receiver := none, arguments := [.text origin separator, items] }

def partsAtChar (char : Char) : List String :=
  (Text.splitWhere (· == char) receiver.text.toList).map String.ofList

def partsAtText (separator : String) : List String :=
  (splitText separator.toList receiver.text.toList).map String.ofList

theorem splitAtAny_eq {arguments : List Value} {char : Char}
    (isChar : spread arguments = [.character char]) :
    receiver.splitAtAny arguments = [.ok (receiver.row (receiver.partsAtChar char))] := by
  have own : [char].contains = (· == char) := by
    funext other
    rw [List.contains_cons, List.contains_nil, Bool.or_false]
  unfold splitAtAny library partsAtChar
  rw [Catalog.textResponses_standard _ _ _ (by decide +kernel), ← own]
  change [Except.ok (receiver.row ((Library.splitAtAny
    ((spread arguments).filterMap Shape.character.read?) receiver.text.toList).map
      String.ofList))] = _
  rw [isChar]
  rfl

theorem splitAtChar_eq (char : Char) (options : Value) :
    receiver.splitAtChar char options =
      [.ok (receiver.row (treated options (receiver.partsAtChar char)))] := by
  unfold splitAtChar library partsAtChar
  rw [← map_apply]
  rw [Catalog.textResponses_standard _ _ _ (by decide +kernel)]
  cases options <;> rfl

theorem splitAtText_eq (origin : Origin) (separator : String) (options : Value) :
    receiver.splitAtText origin separator options =
      [.ok (receiver.row (treated options (receiver.partsAtText separator)))] := by
  unfold splitAtText library partsAtText
  rw [← map_apply]
  rw [Catalog.textResponses_standard _ _ _ (by decide +kernel)]
  cases options <;> rfl

theorem omittedOptions_eq :
    receiver.omittedOptions = [[some (.enumeration .stringSplitOptions 0)]] := by
  unfold omittedOptions library
  rw [Catalog.standard_methods_string _ (by decide +kernel)]
  rfl

theorem joined_eq (site : List Nat) {element : DataType}
    (isElement : element ∈ [DataType.string, .object]) (origin : Origin) (separator : String)
    (items : Value) :
    receiver.joined site element origin separator items =
      [.ok (Shape.text.write site (String.ofList (Text.join separator.toList
        ((spread [items]).map fun value => value.toText.toList))))] := by
  unfold joined library
  rw [Catalog.textResponses_static]
  rcases List.mem_pair.mp isElement with rfl | rfl <;> rfl

/-- The parts are texts without the separator, and whatever overload joins them with it gives the
whole text. -/
structure SplitsInto (separator : String) (parts : List String) : Prop where
  restored : ∀ site, ∀ element ∈ [DataType.string, .object], ∀ origin,
    receiver.joined site element origin separator (receiver.row parts) =
      [.ok (Shape.text.write site receiver.text)]
  apart : separator ≠ "" → ∀ part ∈ parts, ¬separator.toList <:+: part.toList

theorem splitsInto_of_join {separator : String} {parts : List (List Char)}
    (join_eq : Text.join separator.toList parts = receiver.text.toList)
    (separated : separator ≠ "" → ∀ part ∈ parts, ¬separator.toList <:+: part) :
    receiver.SplitsInto separator (parts.map String.ofList) where
  restored site element isElement origin := by
    have texts : (spread [receiver.row (parts.map String.ofList)]).map
        (fun value => value.toText.toList) = parts := by
      simp [row, Shape.texts, spread, Value.toText, List.zipIdx_map, Function.comp_def]
    rw [receiver.joined_eq site isElement, texts, join_eq, String.ofList_toList]
  apart nonempty := by
    simpa using separated nonempty

theorem splitsInto_partsAtChar (char : Char) :
    receiver.SplitsInto (Value.character char).toText (receiver.partsAtChar char) := by
  have splits := Text.splits_splitOn (List.cons_ne_nil char []) receiver.text.toList
  have isText : (Value.character char).toText.toList = [char] := String.toList_singleton char
  unfold partsAtChar
  rw [Text.splitWhere_eq_splitOn]
  apply splitsInto_of_join
  · rw [isText, splits.join_eq]
  · rw [isText]
    exact fun _ => splits.apart

/-- Without a separator the whole text is the only part. -/
theorem splitsInto_partsAtText (separator : String) :
    receiver.SplitsInto separator (receiver.partsAtText separator) := by
  unfold partsAtText splitText
  by_cases empty : separator = ""
  · subst empty
    apply splitsInto_of_join
    · exact List.intercalate_singleton
    · exact fun nonempty => absurd rfl nonempty
  · have nonempty : separator.toList ≠ [] := fun none => empty (String.toList_inj.mp none)
    have splits := Text.splits_splitOn nonempty receiver.text.toList
    rw [if_neg (by simpa using nonempty)]
    exact receiver.splitsInto_of_join splits.join_eq fun _ => splits.apart

/-- The ways to split a text at a character, and those to split it at a text, agree on its plain
parts; options only treat these. -/
structure SplitsAndJoins : Prop where
  atChar : ∀ char, ∃ parts, receiver.SplitsInto (Value.character char).toText parts ∧
    (∀ arguments, spread arguments = [.character char] →
      receiver.splitAtAny arguments = [.ok (receiver.row parts)]) ∧
    ∀ options, receiver.splitAtChar char options = [.ok (receiver.row (treated options parts))]
  atText : ∀ origin separator, ∃ parts, receiver.SplitsInto separator parts ∧
    (∃ options, receiver.omittedOptions = [[some options]] ∧
      receiver.splitAtText origin separator options = [.ok (receiver.row parts)]) ∧
    ∀ options, receiver.splitAtText origin separator options =
      [.ok (receiver.row (treated options parts))]

/-- Joining the parts of a text with what it was split at gives the text again. -/
theorem joining_undoes_splitting : receiver.SplitsAndJoins where
  atChar char :=
    ⟨_, receiver.splitsInto_partsAtChar char, fun _ => receiver.splitAtAny_eq,
      receiver.splitAtChar_eq char⟩
  atText origin separator :=
    ⟨_, receiver.splitsInto_partsAtText separator,
      ⟨_, receiver.omittedOptions_eq, receiver.splitAtText_eq origin separator _⟩,
      receiver.splitAtText_eq origin separator⟩

/-- Separators that overlap are found from the left. -/
example : (splitText "aba".toList "ababaaba".toList).map String.ofList = ["", "ba", ""] := by
  decide

end TextReceiver

end Formula
