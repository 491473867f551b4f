import Formula.Proofs.Decimal.Rounding
import Formula.Proofs.Library.Concatenations
import Formula.Proofs.Library.Registration
import Formula.Proofs.Number.Integer
import Formula.Proofs.Number.Numeral
import Formula.Proofs.Text.Search

/-!
Conversions to integers. A value that stands for an integer is converted to it, if the kind holds
it. Else the conversion overflows; only texts of numbers beyond 128 bits are refused as if they
showed no number at all.
-/

namespace Formula

namespace Catalog

open Library

theorem standard_find?_convert (surroundings : Surroundings) :
    (standard surroundings).find? .convert = some convertEntry := by
  let before := objects ++ scalars ++ texts ++ arrays ++ enumerations ++ mathematics
  let later := times surroundings.zone surroundings.now ++ guids surroundings.fresh ++ patterns
  have order : steps surroundings = before ++ .register convertEntry :: later := by
    simp [steps, before, later, conversions, Part.all, Part.steps]
  have isConvert : convertEntry.id = .convert := by decide +kernel
  have succeeds : (primitives.install before).2 = none := by decide +kernel
  have absent : (primitives.install before).1.contains convertEntry.id = false := by
    decide +kernel
  have sparedLater : later.all (·.spares convertEntry.id) = true := by
    rw [isConvert]
    rfl
  unfold standard
  rw [order, ← isConvert]
  exact install_register succeeds absent sparedLater

/-- What the conversion of a name makes of a value, anywhere in the tree. -/
def conversionResponses (catalog : Catalog) (name : String) (site : List Nat) (value : Value) :
    List (Outcome Value) :=
  (catalog.methods (.plain .convert) name true).map
    (·.body { site := site, receiver := none, arguments := [value] })

theorem conversionResponses_standard (surroundings : Surroundings) (name : String)
    (site : List Nat) (value : Value) :
    (standard surroundings).conversionResponses name site value =
      (convertEntry.methods.filter fun method => method.isStatic && method.isNamed name).map
        (·.body { site := site, receiver := none, arguments := [value] }) := by
  have found : (standard surroundings).entryFor? (.plain .convert) = some convertEntry :=
    standard_find?_convert surroundings
  unfold conversionResponses
  rw [methods_static (standard_ownsMethods surroundings) found]

end Catalog

namespace Library

/-- The number takes at most 128 bits, of which one is for the sign. -/
def FitsWide (number : Int) : Prop :=
  -(1 <<< 127 : Nat) ≤ number ∧ number < (1 <<< 127 : Nat)

instance (number : Int) : Decidable (FitsWide number) :=
  inferInstanceAs (Decidable (_ ∧ _))

/-- The integer that a value stands for. A decimal number that is none itself stands for the
nearest one, and a text for the one that it shows between white space. -/
inductive StandsFor : Value → Int → Prop
  | integer (integer : Integer) : StandsFor (.integer integer) integer.value
  | character (char : Char) : StandsFor (.character char) char.toNat
  | no : StandsFor (.boolean false) 0
  | yes : StandsFor (.boolean true) 1
  | whole {decimal : Decimal} {number : Int} (isWhole : decimal.value = number) :
      StandsFor (.decimal decimal) number
  | rounded {decimal : Decimal} {number : Int} (nearest : IsNearest decimal.value number) :
      StandsFor (.decimal decimal) number
  | text {origin : Origin} {text : String} {before numeral after : List Char} {number : Int}
      (shown : text.toList = before ++ numeral ++ after)
      (blank : ∀ char ∈ before, Text.isBlank char = true)
      (blankEnd : ∀ char ∈ after, Text.isBlank char = true)
      (isNumeral : Numeral.Signed numeral number) : StandsFor (.text origin text) number

variable {value : Value} {kind : IntegerKind} {number : Int} {chars : List Char}

theorem fitsWide_of_holds (holds : kind.Holds number) : FitsWide number := by
  unfold FitsWide
  cases kind <;> simp [IntegerKind.Holds, IntegerKind.least, IntegerKind.greatest,
    IntegerKind.modulus, IntegerKind.isSigned, IntegerKind.width] at holds ⊢ <;> omega

theorem not_isBlank_of_signed (isNumeral : Numeral.Signed chars number) :
    ∀ char ∈ chars, Text.isBlank char = false := by
  intro char member
  rcases isNumeral.of_mem member with digit | rfl | rfl
  · exact Text.isBlank_of_isDigit digit
  · rfl
  · rfl

theorem wideInteger?_of_signed (isNumeral : Numeral.Signed chars number) :
    wideInteger? chars = if FitsWide number then some number else none := by
  unfold wideInteger?
  rw [Numeral.integer?_eq_some_iff.mpr isNumeral, Option.filter_some]
  refine if_congr ?_ rfl rfl
  rw [Bool.and_eq_true, decide_eq_true_iff, decide_eq_true_iff]
  rfl

theorem parseNumber_of_shown {before after : List Char} {text : String}
    (shown : text.toList = before ++ chars ++ after)
    (blank : ∀ char ∈ before, Text.isBlank char = true)
    (blankEnd : ∀ char ∈ after, Text.isBlank char = true)
    (isNumeral : Numeral.Signed chars number) :
    parseNumber wideInteger? text =
      if FitsWide number then .ok number else .error (.malformed (.numeral text)) := by
  have solid := not_isBlank_of_signed isNumeral
  have trimmed := Text.trim_surrounded blank blankEnd
    (fun first isFirst => solid first (List.mem_of_mem_head? isFirst))
    (fun last isLast => solid last (List.mem_of_getLast? isLast))
  unfold parseNumber
  rw [shown, trimmed, wideInteger?_of_signed isNumeral]
  by_cases wide : FitsWide number
  · rw [if_pos wide, if_pos wide]
  · rw [if_neg wide, if_neg wide]

def outOfRange (number : Int) : Value → Fault
  | .text _ text => if FitsWide number then .overflow else .malformed (.numeral text)
  | _ => .overflow

theorem toIntegerKind_of_integerOf (read : integerOf (.integer kind) value = .ok number) :
    toIntegerKind kind value = if kind.Holds number then .ok number else .error .overflow := by
  unfold toIntegerKind
  rw [read]
  rfl

theorem toIntegerKind_of_standsFor (standsFor : StandsFor value number) (kind : IntegerKind) :
    toIntegerKind kind value =
      if kind.Holds number then .ok number else .error (outOfRange number value) := by
  cases standsFor with
  | integer | character | no | yes => exact toIntegerKind_of_integerOf rfl
  | @whole decimal _ isWhole =>
      have nearest := decimal.isNearest_round
      rw [isWhole] at nearest
      rw [(isNearest_intCast number).unique nearest]
      exact toIntegerKind_of_integerOf rfl
  | @rounded decimal _ nearest =>
      rw [nearest.unique decimal.isNearest_round]
      exact toIntegerKind_of_integerOf rfl
  | @text origin text before numeral after _ shown blank blankEnd isNumeral =>
      have read : integerOf (.integer kind) (.text origin text) = _ :=
        parseNumber_of_shown shown blank blankEnd isNumeral
      by_cases wide : FitsWide number
      · rw [if_pos wide] at read
        rw [toIntegerKind_of_integerOf read, outOfRange, if_pos wide]
      · rw [if_neg wide] at read
        rw [if_neg fun holds => wide (fitsWide_of_holds holds), outOfRange, if_neg wide]
        unfold toIntegerKind
        rw [read]
        rfl

/-- What a conversion gives that refuses what the kind does not hold. -/
def answer (kind : IntegerKind) (number : Int) (fault : Fault) : Outcome Value :=
  if holds : kind.Holds number then .ok (.integer ⟨kind, number, holds⟩) else .error fault

theorem map_toIntegerKind (standsFor : StandsFor value number) (kind : IntegerKind) :
    (Value.integer ∘ Integer.wrap kind) <$> toIntegerKind kind value =
      answer kind number (outOfRange number value) := by
  unfold answer
  rw [toIntegerKind_of_standsFor standsFor]
  by_cases holds : kind.Holds number
  · have own : Integer.wrap kind number = ⟨kind, number, holds⟩ := by
      unfold Integer.wrap
      simp only [IntegerKind.wrap_of_holds holds]
    rw [if_pos holds, dif_pos holds, ← own]
    rfl
  · rw [if_neg holds, dif_neg holds]
    rfl

theorem answer_eq_overflow_iff :
    answer kind number (outOfRange number value) = answer kind number .overflow ↔
      ∀ origin text, value = .text origin text → FitsWide number := by
  constructor
  · intro same origin text isText
    by_contra tooLong
    have refused : ¬kind.Holds number := fun holds => tooLong (fitsWide_of_holds holds)
    rw [isText, answer, answer, dif_neg refused, dif_neg refused, outOfRange,
      if_neg tooLong] at same
    cases same
  · intro wide
    cases value with
    | text origin text => rw [outOfRange, if_pos (wide origin text rfl)]
    | _ => rfl

/-- What the conversions to integers of 32 and of 64 bits make of values. -/
structure ConvertsIntegers (surroundings : Surroundings) : Prop where
  nearest : ∀ decimal : Decimal, ∃! number, IsNearest decimal.value number
  answers : ∀ value number, StandsFor value number →
    ∀ target ∈ [("ToInt32", IntegerKind.int32), ("ToInt64", .int64)], ∀ site,
      (Catalog.standard surroundings).conversionResponses target.1 site value =
        [answer target.2 number (outOfRange number value)]
  /-- Overflow is the fault but for texts of numbers beyond 128 bits. -/
  overflows : ∀ kind value number,
    answer kind number (outOfRange number value) = answer kind number .overflow ↔
      ∀ origin text, value = .text origin text → FitsWide number

theorem convertsIntegers (surroundings : Surroundings) : ConvertsIntegers surroundings where
  nearest decimal :=
    ⟨_, decimal.isNearest_round, fun _ nearest => nearest.unique decimal.isNearest_round⟩
  answers value number standsFor target isTarget site := by
    rw [Catalog.conversionResponses_standard]
    rcases List.mem_pair.mp isTarget with rfl | rfl
    · rw [← map_toIntegerKind standsFor]
      rfl
    · rw [← map_toIntegerKind standsFor]
      rfl
  overflows _ _ _ := answer_eq_overflow_iff

/-- A text beyond 32 bits, and one beyond 128. -/
example :
    toIntegerKind .int32 (.text (.given 0) " 2147483648") = .error .overflow ∧
      toIntegerKind .int32 (.text (.given 0) "170141183460469231731687303715884105728") =
        .error (.malformed (.numeral "170141183460469231731687303715884105728")) := by
  decide +kernel

end Library

end Formula
