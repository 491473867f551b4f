import Formula.Proofs.Library.Texts
import Formula.Proofs.Text.Template

/-!
Formatting. The method accepts the templates that are rows of tokens, whatever values come with
them, and puts the texts of the values in the places that ask for them.
-/

namespace Formula.Library

open Text (Piece ReadsAs Token)

/-- The texts that the places of a template ask for. -/
def argumentText (values : List Value) (index : Fin values.length) : List Char :=
  (values.get index).toText.toList

variable {values : List Value} {template text : String}

theorem map_toText (values : List Value) :
    values.map (fun value => value.toText.toList) = List.ofFn (argumentText values) := by
  conv_lhs => rw [← List.ofFn_get values, List.map_ofFn]
  rfl

theorem formatText_eq_ok :
    formatText template values = .ok text ↔
      ReadsAs (argumentText values) template.toList text.toList := by
  unfold formatText
  rw [map_toText, ← Text.fill?_eq_some_iff]
  cases Text.fill? (List.ofFn (argumentText values)) template.toList <;>
    simp [← String.toList_inj]

theorem formatText_eq_error :
    formatText template values = .error (.malformed .template) ↔
      ¬∃ text, formatText template values = .ok text := by
  unfold formatText
  split <;> simp

structure Formats (values : List Value) : Prop where
  accepts : ∀ template text, formatText template values = .ok text ↔
    ReadsAs (argumentText values) template.toList text.toList
  refuses : ∀ template, formatText template values = .error (.malformed .template) ↔
    ¬∃ tokens : List (Token values.length), tokens.flatMap Token.written = template.toList
  unique : Function.Injective fun tokens : List (Token values.length) =>
    tokens.flatMap Token.written
  restores : ∀ pieces : List (Piece values.length),
    formatText (String.ofList (pieces.flatMap Piece.rendered)) values =
      .ok (String.ofList (pieces.flatMap (Piece.shown (argumentText values))))
  response : ∀ surroundings site origin template rest, spread rest = values →
    (Catalog.standard surroundings).textResponses "Format" true
        [.string, DataType.object.arrayOf]
        { site := site, receiver := none, arguments := .text origin template :: rest } =
      [Shape.text.write site <$> formatText template values]

theorem response_format (surroundings : Surroundings) (site : List Nat) (origin : Origin)
    (template : String) (rest : List Value) :
    (Catalog.standard surroundings).textResponses "Format" true
        [.string, DataType.object.arrayOf]
        { site := site, receiver := none, arguments := .text origin template :: rest } =
      [Shape.text.write site <$> formatText template (spread rest)] := by
  rw [Catalog.textResponses_static]
  rfl

/-- Formatting follows the grammar of templates. -/
theorem formatText_followsGrammar (values : List Value) : Formats values where
  accepts _ _ := formatText_eq_ok
  refuses template := by
    rw [formatText_eq_error, not_iff_not]
    constructor
    · rintro ⟨text, made⟩
      obtain ⟨tokens, written, _⟩ := formatText_eq_ok.mp made
      exact ⟨tokens, written⟩
    · rintro ⟨tokens, written⟩
      refine ⟨String.ofList (tokens.flatMap (Token.meaning (argumentText values))), ?_⟩
      exact formatText_eq_ok.mpr ⟨tokens, written, String.toList_ofList.symm⟩
  unique := Token.flatMap_written_injective
  restores pieces := by
    rw [formatText_eq_ok, String.toList_ofList, String.toList_ofList]
    exact Text.readsAs_rendered _ pieces
  response surroundings site origin template rest isRest :=
    isRest ▸ response_format surroundings site origin template rest

/-- Doubled braces around a place, and a number that is too large. -/
example :
    formatText "\x7b\x7b\x7b01\x7d\x7d\x7d" [.null, .boolean true] = .ok "\x7bTrue\x7d" ∧
      formatText "\x7b2\x7d" [.null, .boolean true] = .error (.malformed .template) := by
  decide +kernel

end Formula.Library
