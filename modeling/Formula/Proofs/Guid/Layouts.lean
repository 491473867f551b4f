import Formula.Proofs.Guid.Digits
import Formula.Proofs.Text.Search
import Formula.Text.Case

/-!
The layouts of identifiers. Every identifier is read back from its text in every layout, in either
case and with white space around it. Reading cuts off brackets only where a pair matches.
-/

namespace Formula.Guid

variable {lengths : List Nat} {text digits inner : List Char} {char : Char} {guid : Guid}

def total (lengths : List Nat) : Nat :=
  lengths.foldr (· + ·) 0

theorem mem_grouped (member : char ∈ grouped lengths text) : char = '-' ∨ char ∈ text := by
  fun_induction grouped lengths text with
  | case1 text => exact .inr member
  | case2 length text => exact .inr (List.mem_of_mem_take member)
  | case3 length lengths text _ ih =>
      rcases List.mem_append.mp member with front | back
      · exact .inr (List.mem_of_mem_take front)
      · rcases List.mem_cons.mp back with hyphen | back
        · exact .inl hyphen
        · exact (ih back).imp_right List.mem_of_mem_drop

theorem map_grouped {change : Char → Char} (keeps : change '-' = '-') :
    (grouped lengths text).map change = grouped lengths (text.map change) := by
  fun_induction grouped lengths text with
  | case1 text => rfl
  | case2 length text => simp [grouped]
  | case3 length lengths text several ih => simp [grouped, keeps, ih]

theorem length_grouped (long : text.length = total groups) :
    (grouped groups text).length = 36 := by
  have long : text.length = 32 := long
  simp [grouped, groups, long]

theorem ungrouped?_grouped (several : lengths ≠ []) (long : text.length = total lengths) :
    ungrouped? lengths (grouped lengths text) = some text := by
  fun_induction grouped lengths text with
  | case1 text => exact absurd rfl several
  | case2 length text =>
      have long : text.length = length := long
      simp [ungrouped?, ← long]
  | case3 length lengths text more ih =>
      have long : text.length = length + total lengths := long
      have front : (text.take length).length = length := by
        rw [List.length_take]
        omega
      have back : (text.drop length).length = total lengths := by
        rw [List.length_drop]
        omega
      rw [ungrouped?.eq_3 _ _ _ more, List.drop_left' front, List.take_left' front]
      simp [ih more back]

theorem mem_of_ungrouped? (read : ungrouped? lengths text = some digits) (member : char ∈ text) :
    char = '-' ∨ char ∈ digits := by
  fun_induction ungrouped? lengths text generalizing digits with
  | case1 text empty =>
      rw [List.isEmpty_iff.mp empty] at member
      cases member
  | case2 | case4 | case6 => cases read
  | case3 text =>
      cases read
      exact .inr member
  | case5 length lengths text _ rest isRest ih =>
      obtain ⟨others, readRest, rfl⟩ := Option.map_eq_some_iff.mp read
      rw [← List.take_append_drop length text, isRest] at member
      rcases List.mem_append.mp member with front | back
      · exact .inr (List.mem_append_left _ front)
      · rcases List.mem_cons.mp back with hyphen | back
        · exact .inl hyphen
        · exact (ih readRest back).imp_right (List.mem_append_right _)

def ofInner? (inner : List Char) : Option Guid :=
  if inner.length = 32 then ofDigits? inner
  else if inner.length = 36 then (ungrouped? groups inner).bind ofDigits?
  else none

theorem ofText?_eq (text : List Char) : ofText? text = ofInner? (unwrap (Text.trim text)) :=
  rfl

def IsPlain (char : Char) : Prop :=
  char = '-' ∨ char ∈ hexChars

theorem isPlain_of_ofDigits? (read : ofDigits? text = some guid) : ∀ char ∈ text, IsPlain char := by
  obtain ⟨digits, shows, -, -⟩ := ofDigits?_eq_some_iff.mp read
  exact fun char member => .inr (shows.mem_hexChars char member)

theorem isPlain_of_ungrouped? (read : (ungrouped? groups text).bind ofDigits? = some guid) :
    ∀ char ∈ text, IsPlain char := by
  obtain ⟨digits, taken, readDigits⟩ := Option.bind_eq_some_iff.mp read
  intro char member
  rcases mem_of_ungrouped? taken member with hyphen | digit
  · exact .inl hyphen
  · exact isPlain_of_ofDigits? readDigits char digit

theorem isPlain_of_ofInner? (read : ofInner? inner = some guid) : ∀ char ∈ inner, IsPlain char := by
  unfold ofInner? at read
  split at read
  · exact isPlain_of_ofDigits? read
  · split at read
    · exact isPlain_of_ungrouped? read
    · cases read

theorem ofInner?_digits (read : ofDigits? digits = some guid) : ofInner? digits = some guid := by
  obtain ⟨_, shows, length, _⟩ := ofDigits?_eq_some_iff.mp read
  unfold ofInner?
  rw [if_pos (shows.length_eq.trans length), read]

theorem ofInner?_grouped (read : ofDigits? digits = some guid) :
    ofInner? (grouped groups digits) = some guid := by
  obtain ⟨_, shows, length, _⟩ := ofDigits?_eq_some_iff.mp read
  have long : digits.length = total groups := shows.length_eq.trans length
  unfold ofInner?
  rw [length_grouped long, if_neg (by decide), if_pos rfl, ungrouped?_grouped (by decide) long]
  exact read

def brackets : List Char :=
  ['\x7b', '\x7d', '(', ')']

def IsPair (first last : Char) : Prop :=
  (first = '\x7b' ∧ last = '\x7d') ∨ (first = '(' ∧ last = ')')

theorem IsPair.mem_brackets {first last : Char} (pair : IsPair first last) :
    first ∈ brackets ∧ last ∈ brackets := by
  rcases pair with ⟨rfl, rfl⟩ | ⟨rfl, rfl⟩ <;> decide

theorem IsPair.ne {first last : Char} (pair : IsPair first last) : first ≠ last := by
  rcases pair with ⟨rfl, rfl⟩ | ⟨rfl, rfl⟩ <;> decide

/-- There are no brackets, or one pair that goes together and has all the rest between it. -/
inductive Bracketed : List Char → Prop
  | bare {text : List Char} (plain : ∀ char ∈ text, char ∉ brackets) : Bracketed text
  | within {first last : Char} {inner : List Char} (pair : IsPair first last)
      (plain : ∀ char ∈ inner, char ∉ brackets) : Bracketed (first :: inner ++ [last])

theorem eq_surrounded {first last : Char} (isFirst : text.head? = some first)
    (isLast : text.getLast? = some last) (different : first ≠ last) :
    text = first :: text.tail.dropLast ++ [last] := by
  obtain ⟨rest, rfl⟩ := List.head?_eq_some_iff.mp isFirst
  rcases List.eq_nil_or_concat' rest with rfl | ⟨inner, final, rfl⟩
  · simp only [List.getLast?_singleton, Option.some.injEq] at isLast
    exact absurd isLast different
  · rw [← List.cons_append, List.getLast?_concat, Option.some.injEq] at isLast
    simp [isLast]

theorem unwrap_cases (text : List Char) :
    unwrap text = text ∨
      ∃ first last, IsPair first last ∧ text = first :: unwrap text ++ [last] := by
  unfold unwrap
  split
  · next first last isFirst isLast =>
      split
      · next pair =>
          exact .inr ⟨first, last, pair, eq_surrounded isFirst isLast (IsPair.ne pair)⟩
      · exact .inl rfl
  · exact .inl rfl

theorem unwrap_surrounded {first last : Char} (pair : IsPair first last) (inner : List Char) :
    unwrap (first :: inner ++ [last]) = inner := by
  have isLast : (first :: inner ++ [last]).getLast? = some last := List.getLast?_concat
  have cut : (first :: inner ++ [last]).tail.dropLast = inner := List.dropLast_concat
  unfold unwrap
  rw [isLast, cut]
  exact if_pos pair

theorem unwrap_of_plain (plain : ∀ char ∈ text, char ∉ brackets) : unwrap text = text := by
  rcases unwrap_cases text with same | ⟨first, last, pair, surrounded⟩
  · exact same
  · rw [surrounded] at plain
    exact absurd pair.mem_brackets.1 (plain first (by simp))

theorem plain_of_isPlain (plain : ∀ char ∈ text, IsPlain char) :
    ∀ char ∈ text, char ∉ brackets := by
  have each : ∀ char ∈ '-' :: hexChars, char ∉ brackets :=
    List.forall_iff_forall_mem.mp (by decide)
  exact fun char member => each char (List.mem_cons.mpr (plain char member))

theorem bracketed_of_ofText? (read : ofText? text = some guid) : Bracketed (Text.trim text) := by
  have plain := plain_of_isPlain (isPlain_of_ofInner? read)
  rcases unwrap_cases (Text.trim text) with same | ⟨first, last, pair, surrounded⟩
  · rw [same] at plain
    exact .bare plain
  · rw [surrounded]
    exact .within pair plain

inductive Layout where
  | digitsOnly
  | hyphens
  | braces
  | parentheses

namespace Layout

/-- The names of a layout; the one with hyphens may go without. -/
def names : Layout → List String
  | hyphens => ["", "D", "d"]
  | digitsOnly => ["N", "n"]
  | braces => ["B", "b"]
  | parentheses => ["P", "p"]

def lay (digits : List Char) : Layout → List Char
  | hyphens => grouped groups digits
  | digitsOnly => digits
  | braces => '\x7b' :: grouped groups digits ++ ['\x7d']
  | parentheses => '(' :: grouped groups digits ++ [')']

theorem format_of_mem {name : String} (layout : Layout) (isName : name ∈ layout.names) :
    guid.format name = .ok (String.ofList (layout.lay guid.digits)) := by
  cases layout with
  | hyphens => exact if_pos isName
  | digitsOnly | braces | parentheses => rcases List.mem_pair.mp isName with rfl | rfl <;> rfl

theorem exists_of_format {name shown : String} (formatted : guid.format name = .ok shown) :
    ∃ layout : Layout, name ∈ layout.names ∧ shown = String.ofList (layout.lay guid.digits) := by
  unfold format at formatted
  split at formatted
  · next isName => exact ⟨.hyphens, isName, (Except.ok.inj formatted).symm⟩
  split at formatted
  · next isName => exact ⟨.digitsOnly, isName, (Except.ok.inj formatted).symm⟩
  split at formatted
  · next isName => exact ⟨.braces, isName, (Except.ok.inj formatted).symm⟩
  split at formatted
  · next isName => exact ⟨.parentheses, isName, (Except.ok.inj formatted).symm⟩
  · cases formatted

theorem mem_lay (layout : Layout) (member : char ∈ layout.lay digits) :
    char ∈ '-' :: brackets ∨ char ∈ digits := by
  have hyphened (within : char ∈ grouped groups digits) : char ∈ '-' :: brackets ∨ char ∈ digits :=
    (mem_grouped within).imp_left fun hyphen => List.mem_cons.mpr (.inl hyphen)
  cases layout with
  | hyphens => exact hyphened member
  | digitsOnly => exact .inr member
  | braces | parentheses =>
      rcases List.mem_append.mp member with front | last
      · rcases List.mem_cons.mp front with rfl | inside
        · exact .inl (by decide)
        · exact hyphened inside
      · rw [List.mem_singleton.mp last]
        exact .inl (by decide)

theorem map_lay {change : Char → Char} (layout : Layout)
    (keeps : ∀ char ∈ '-' :: brackets, change char = char) :
    (layout.lay digits).map change = layout.lay (digits.map change) := by
  simp only [brackets, List.forall_mem_cons] at keeps
  cases layout <;> simp [lay, map_grouped, keeps]

theorem ofInner?_unwrap_lay (layout : Layout) (read : ofDigits? digits = some guid) :
    ofInner? (unwrap (layout.lay digits)) = some guid := by
  have grouped := ofInner?_grouped read
  cases layout with
  | hyphens =>
      have plain := plain_of_isPlain (isPlain_of_ofInner? grouped)
      exact (congrArg ofInner? (unwrap_of_plain plain)).trans grouped
  | digitsOnly =>
      have plain := plain_of_isPlain (isPlain_of_ofDigits? read)
      exact (congrArg ofInner? (unwrap_of_plain plain)).trans (ofInner?_digits read)
  | braces => exact (congrArg ofInner? (unwrap_surrounded (.inl ⟨rfl, rfl⟩) _)).trans grouped
  | parentheses => exact (congrArg ofInner? (unwrap_surrounded (.inr ⟨rfl, rfl⟩) _)).trans grouped

theorem lay_chars (layout : Layout) (hexadecimal : ∀ char ∈ digits, char ∈ hexChars) :
    ∀ char ∈ layout.lay digits,
      Text.upperChar char = [char.toUpper] ∧ Text.isBlank char = false := by
  have each : ∀ char ∈ ('-' :: brackets) ++ hexChars,
      Text.upperChar char = [char.toUpper] ∧ Text.isBlank char = false :=
    List.forall_iff_forall_mem.mp (by decide)
  intro char member
  exact each char (List.mem_append.mpr ((layout.mem_lay member).imp_right (hexadecimal char)))

theorem upper_lay (layout : Layout) (hexadecimal : ∀ char ∈ digits, char ∈ hexChars) :
    Text.upper (String.ofList (layout.lay digits)) =
      String.ofList (layout.lay (digits.map Char.toUpper)) := by
  have single : (layout.lay digits).flatMap Text.upperChar =
      (layout.lay digits).flatMap fun char => [char.toUpper] :=
    List.flatMap_congr fun char member => (layout.lay_chars hexadecimal char member).1
  unfold Text.upper
  rw [String.toList_ofList, single, ← List.map_eq_flatMap,
    layout.map_lay (List.forall_iff_forall_mem.mp (by decide))]

theorem ofText?_lay (layout : Layout) (read : ofDigits? digits = some guid)
    {before after : List Char} (blank : ∀ char ∈ before, Text.isBlank char = true)
    (blankEnd : ∀ char ∈ after, Text.isBlank char = true) :
    ofText? (before ++ layout.lay digits ++ after) = some guid := by
  obtain ⟨_, shows, -, -⟩ := ofDigits?_eq_some_iff.mp read
  have chars := layout.lay_chars shows.mem_hexChars
  have trimmed := Text.trim_surrounded blank blankEnd
    (fun first isFirst => (chars first (List.mem_of_mem_head? isFirst)).2)
    fun last isLast => (chars last (List.mem_of_mem_getLast? isLast)).2
  rw [ofText?_eq, trimmed, layout.ofInner?_unwrap_lay read]

end Layout

end Formula.Guid
