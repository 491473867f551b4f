import Mathlib.Data.List.OfFn
import Formula.Proofs.Number.Numeral
import Formula.Proofs.Text.Search
import Formula.Text.Template

/-!
The grammar of templates. A template is a row of tokens: characters that are no braces, doubled
braces, and numbers in braces. Filling it in succeeds for such rows only and takes every token for
what it means, and no template is a row of tokens in two ways.
-/

namespace Formula.Text

inductive Token (count : Nat) where
  | plain (char : Char) (isPlain : char ≠ '\x7b' ∧ char ≠ '\x7d')
  | opening
  | closing
  | place (digits : List Char) (isNumber : Numeral.IsDigits digits)
      (known : Numeral.ofDigits digits < count)

variable {count : Nat}

namespace Token

def written : Token count → List Char
  | plain char _ => [char]
  | opening => ['\x7b', '\x7b']
  | closing => ['\x7d', '\x7d']
  | place digits _ _ => '\x7b' :: (digits ++ ['\x7d'])

def meaning (argument : Fin count → List Char) : Token count → List Char
  | plain char _ => [char]
  | opening => ['\x7b']
  | closing => ['\x7d']
  | place digits _ known => argument ⟨Numeral.ofDigits digits, known⟩

theorem written_place_append {digits : List Char} (isNumber : Numeral.IsDigits digits)
    (known : Numeral.ofDigits digits < count) (rest : List Char) :
    (place digits isNumber known).written ++ rest = '\x7b' :: (digits ++ '\x7d' :: rest) := by
  simp [written]

end Token

/-- A piece of a text to be made: a text as it is, or one of so many arguments. -/
inductive Piece (count : Nat) where
  | literal (chars : List Char)
  | reference (index : Fin count)

namespace Piece

def doubled (char : Char) : List Char :=
  if char = '\x7b' ∨ char = '\x7d' then [char, char] else [char]

def rendered : Piece count → List Char
  | literal chars => chars.flatMap doubled
  | reference index => '\x7b' :: (Nat.toDigits 10 index ++ ['\x7d'])

def shown (argument : Fin count → List Char) : Piece count → List Char
  | literal chars => chars
  | reference index => argument index

end Piece

/-- The template is a row of tokens, and the text is what these mean. -/
def ReadsAs (argument : Fin count → List Char) (template text : List Char) : Prop :=
  ∃ tokens : List (Token count),
    tokens.flatMap Token.written = template ∧ tokens.flatMap (Token.meaning argument) = text

variable {argument : Fin count → List Char} {text rest : List Char} {char : Char}

theorem ReadsAs.cons (reads : ReadsAs argument rest text) (token : Token count) :
    ReadsAs argument (token.written ++ rest) (token.meaning argument ++ text) := by
  obtain ⟨tokens, rfl, rfl⟩ := reads
  exact ⟨token :: tokens, List.flatMap_cons, List.flatMap_cons⟩

theorem ne_brace_of_isDigit (digit : char.isDigit = true) : char ≠ '\x7b' ∧ char ≠ '\x7d' := by
  constructor
  all_goals
    rintro rfl
    exact absurd digit (by decide)

theorem digits_ne_opening {digits : List Char} (isNumber : Numeral.IsDigits digits)
    (rest after : List Char) : digits ++ rest ≠ '\x7b' :: after := by
  intro same
  obtain ⟨nonempty, areDigits⟩ := isNumber
  obtain ⟨first, others, rfl⟩ := List.exists_cons_of_ne_nil nonempty
  have isFirst := (ne_brace_of_isDigit (areDigits first (List.mem_cons_self ..))).1
  exact isFirst (List.cons.inj same).1

theorem closing_not_mem_digits {digits : List Char} (isNumber : Numeral.IsDigits digits) :
    '\x7d' ∉ digits :=
  fun member => (ne_brace_of_isDigit (isNumber.2 _ member)).2 rfl

variable {arguments : List (List Char)} {done : List Char}

theorem fillFrom_plain (isPlain : char ≠ '\x7b' ∧ char ≠ '\x7d') (rest : List Char) :
    fillFrom arguments none (char :: rest) = (fillFrom arguments none rest).map (char :: ·) := by
  rw [fillFrom]
  · exact fun _ opens => absurd opens isPlain.1
  · exact fun _ closes => absurd closes isPlain.2
  · exact isPlain.1
  · exact isPlain.2

theorem fillFrom_opening (single : ∀ after, rest ≠ '\x7b' :: after) :
    fillFrom arguments none ('\x7b' :: rest) = fillFrom arguments (some []) rest := by
  rw [fillFrom]
  exact single

theorem fillFrom_digit (digit : char.isDigit = true) (rest : List Char) :
    fillFrom arguments (some done) (char :: rest) =
      fillFrom arguments (some (done ++ [char])) rest := by
  rw [fillFrom, if_pos digit]
  exact (ne_brace_of_isDigit digit).2

theorem fillFrom_digits {digits : List Char} (areDigits : ∀ char ∈ digits, char.isDigit = true)
    (rest : List Char) :
    fillFrom arguments (some done) (digits ++ rest) =
      fillFrom arguments (some (done ++ digits)) rest := by
  induction digits generalizing done with
  | nil => rw [List.append_nil, List.nil_append]
  | cons digit digits ih =>
      obtain ⟨isDigit, others⟩ := List.forall_mem_cons.mp areDigits
      rw [List.cons_append, fillFrom_digit isDigit, ih others, List.append_assoc,
        List.singleton_append]

theorem fillFrom_closing_eq_some :
    fillFrom (List.ofFn argument) (some done) ('\x7d' :: rest) = some text ↔
      ∃ (_ : Numeral.IsDigits done) (known : Numeral.ofDigits done < count) (after : List Char),
        fillFrom (List.ofFn argument) none rest = some after ∧
          argument ⟨Numeral.ofDigits done, known⟩ ++ after = text := by
  rw [fillFrom]
  simp only [Option.bind_eq_bind, Option.bind_eq_some_iff, Numeral.natural?_eq_some_iff,
    List.getElem?_ofFn, Option.dite_none_right_eq_some, Option.some.injEq, Option.pure_def]
  constructor
  · rintro ⟨number, ⟨isNumber, rfl⟩, _, ⟨known, rfl⟩, after, filled, rfl⟩
    exact ⟨isNumber, known, after, filled, rfl⟩
  · rintro ⟨isNumber, known, after, filled, rfl⟩
    exact ⟨_, ⟨isNumber, rfl⟩, _, ⟨known, rfl⟩, after, filled, rfl⟩

theorem fillFrom_written (token : Token count)
    (filled : fillFrom (List.ofFn argument) none rest = some text) :
    fillFrom (List.ofFn argument) none (token.written ++ rest) =
      some (token.meaning argument ++ text) := by
  cases token with
  | plain char isPlain => exact (fillFrom_plain isPlain rest).trans (filled ▸ rfl)
  | opening => exact congrArg (Option.map _) filled
  | closing => exact congrArg (Option.map _) filled
  | place digits isNumber known =>
      rw [Token.written_place_append, fillFrom_opening (digits_ne_opening isNumber _),
        fillFrom_digits isNumber.2, List.nil_append]
      exact fillFrom_closing_eq_some.mpr ⟨isNumber, known, text, filled, rfl⟩

/-- A template that is filled in is a row of tokens. Inside a place, the row begins with the brace
that opens the place and the digits that are read. -/
theorem readsAs_of_fillFrom {state : Option (List Char)} {template : List Char}
    (filled : fillFrom (List.ofFn argument) state template = some text) :
    ReadsAs argument (state.elim [] ('\x7b' :: ·) ++ template) text := by
  induction state, template using fillFrom.induct generalizing text with
  | case1 =>
      obtain rfl := Option.some.inj filled
      exact ⟨[], rfl, rfl⟩
  | case2 rest ih =>
      obtain ⟨after, filledRest, rfl⟩ := Option.map_eq_some_iff.mp filled
      exact (ih filledRest).cons .opening
  | case3 rest ih =>
      obtain ⟨after, filledRest, rfl⟩ := Option.map_eq_some_iff.mp filled
      exact (ih filledRest).cons .closing
  | case4 rest single ih =>
      rw [fillFrom_opening single] at filled
      exact ih filled
  | case5 rest single =>
      rw [fillFrom] at filled
      · cases filled
      · exact single
  | case6 char rest _ _ notOpening notClosing ih =>
      rw [fillFrom_plain ⟨notOpening, notClosing⟩] at filled
      obtain ⟨after, filledRest, rfl⟩ := Option.map_eq_some_iff.mp filled
      exact (ih filledRest).cons (.plain char ⟨notOpening, notClosing⟩)
  | case7 done => cases filled
  | case8 digits rest ih =>
      -- What is read so far needs no invariant: the number is checked where the place is closed.
      obtain ⟨isNumber, known, after, filledRest, rfl⟩ := fillFrom_closing_eq_some.mp filled
      have reads := (ih filledRest).cons (.place digits isNumber known)
      rwa [Token.written_place_append] at reads
  | case9 done char rest notClosing isDigit ih =>
      rw [fillFrom_digit isDigit] at filled
      have reads : ReadsAs argument ('\x7b' :: (done ++ [char]) ++ rest) text := ih filled
      rwa [List.cons_append, List.append_assoc] at reads
  | case10 done char rest notClosing notDigit =>
      rw [fillFrom, if_neg notDigit] at filled
      · cases filled
      · exact notClosing

/-- Templates that are rows of tokens are filled in, and no others are. -/
theorem fill?_eq_some_iff {template : List Char} :
    fill? (List.ofFn argument) template = some text ↔ ReadsAs argument template text := by
  constructor
  · exact readsAs_of_fillFrom
  · rintro ⟨tokens, rfl, rfl⟩
    induction tokens with
    | nil => rfl
    | cons token tokens ih => exact fillFrom_written token ih

namespace Token

theorem written_ne_nil (token : Token count) : token.written ≠ [] := by
  cases token <;> exact List.cons_ne_nil _ _

/-- Where a token ends is settled by the token itself. -/
theorem written_append_inj {left right : Token count} {rest other : List Char}
    (same : left.written ++ rest = right.written ++ other) : left = right ∧ rest = other := by
  cases left with
  | plain char isPlain =>
      cases right with
      | plain =>
          obtain ⟨rfl, rfl⟩ := List.cons.inj same
          exact ⟨rfl, rfl⟩
      | opening => exact absurd (List.cons.inj same).1 isPlain.1
      | closing => exact absurd (List.cons.inj same).1 isPlain.2
      | place => exact absurd (List.cons.inj same).1 isPlain.1
  | opening =>
      cases right with
      | plain char isPlain => exact absurd (List.cons.inj same).1.symm isPlain.1
      | opening => exact ⟨rfl, List.append_cancel_left same⟩
      | closing => exact absurd (List.cons.inj same).1 (by decide)
      | place digits isNumber known =>
          rw [written_place_append] at same
          exact absurd (List.cons.inj same).2.symm (digits_ne_opening isNumber _ _)
  | closing =>
      cases right with
      | plain char isPlain => exact absurd (List.cons.inj same).1.symm isPlain.2
      | opening => exact absurd (List.cons.inj same).1 (by decide)
      | closing => exact ⟨rfl, List.append_cancel_left same⟩
      | place => exact absurd (List.cons.inj same).1 (by decide)
  | place digits isNumber known =>
      cases right with
      | plain char isPlain => exact absurd (List.cons.inj same).1.symm isPlain.1
      | opening =>
          rw [written_place_append] at same
          exact absurd (List.cons.inj same).2 (digits_ne_opening isNumber _ _)
      | closing => exact absurd (List.cons.inj same).1 (by decide)
      | place others areOthers knownToo =>
          rw [written_place_append, written_place_append] at same
          have cut := congrArg (cutAt? ['\x7d']) (List.cons.inj same).2
          rw [cutAt?_append (closing_not_mem_digits isNumber),
            cutAt?_append (closing_not_mem_digits areOthers), Option.some.injEq,
            Prod.mk.injEq] at cut
          obtain ⟨rfl, rfl⟩ := cut
          exact ⟨rfl, rfl⟩

theorem flatMap_written_injective :
    Function.Injective fun tokens : List (Token count) => tokens.flatMap written := by
  intro tokens others same
  induction tokens generalizing others with
  | nil =>
      cases others with
      | nil => rfl
      | cons other others =>
          have empty := (List.append_eq_nil_iff.mp same.symm).1
          exact absurd empty other.written_ne_nil
  | cons token tokens ih =>
      cases others with
      | nil =>
          have empty := (List.append_eq_nil_iff.mp same).1
          exact absurd empty token.written_ne_nil
      | cons other others =>
          obtain ⟨sameToken, sameRest⟩ := written_append_inj same
          rw [sameToken, ih sameRest]

end Token

theorem ReadsAs.doubled (reads : ReadsAs argument rest text) (char : Char) :
    ReadsAs argument (Piece.doubled char ++ rest) (char :: text) := by
  unfold Piece.doubled
  split
  · next isBrace =>
      rcases isBrace with rfl | rfl
      · exact reads.cons .opening
      · exact reads.cons .closing
  · next isPlain => exact reads.cons (.plain char (not_or.mp isPlain))

theorem ReadsAs.piece (reads : ReadsAs argument rest text) (piece : Piece count) :
    ReadsAs argument (piece.rendered ++ rest) (piece.shown argument ++ text) := by
  cases piece with
  | literal chars =>
      induction chars with
      | nil => exact reads
      | cons char chars ih =>
          have more := ih.doubled char
          rwa [← List.append_assoc] at more
  | reference index =>
      have isNumber : Numeral.IsDigits (Nat.toDigits 10 index) := Numeral.isDigits_zeros_append 0 _
      have number : Numeral.ofDigits (Nat.toDigits 10 index) = index :=
        Numeral.ofDigits_zeros_append 0 _
      have known : Numeral.ofDigits (Nat.toDigits 10 index) < count := number.symm ▸ index.isLt
      have same : (⟨Numeral.ofDigits (Nat.toDigits 10 index), known⟩ : Fin count) = index :=
        Fin.ext number
      have more := reads.cons (.place _ isNumber known)
      rwa [Token.meaning, same] at more

/-- The pieces of a text come back from their template. -/
theorem readsAs_rendered (argument : Fin count → List Char) (pieces : List (Piece count)) :
    ReadsAs argument (pieces.flatMap Piece.rendered) (pieces.flatMap (Piece.shown argument)) := by
  induction pieces with
  | nil => exact ⟨[], rfl, rfl⟩
  | cons piece pieces ih => exact ih.piece piece

end Formula.Text
