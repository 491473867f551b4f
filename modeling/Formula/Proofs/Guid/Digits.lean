import Mathlib.Data.List.Forall2
import Formula.Guid

/-!
Hexadecimal digits. An identifier is written in 32 of them, zeros in front included, and these are
read as the identifier in either case.
-/

namespace Formula.Guid

variable {char : Char} {chars : List Char} {digit : Nat} {digits : List Nat}

def hexChars : List Char :=
  "0123456789abcdefABCDEF".toList

theorem toNat_lt_of_hexDigit? (read : hexDigit? char = some digit) : char.toNat < 128 := by
  unfold hexDigit? at read
  simp only [Char.isDigit, Bool.and_eq_true, decide_eq_true_eq, Char.le_def,
    UInt32.le_iff_toNat_le] at read
  change char.val.toNat < 128
  split at read
  · next decimal => exact Nat.lt_of_le_of_lt decimal.2 (by decide)
  · split at read
    · next lower => exact Nat.lt_of_le_of_lt lower.2 (by decide)
    · split at read
      · next upper => exact Nat.lt_of_le_of_lt upper.2 (by decide)
      · cases read

theorem mem_hexChars (read : hexDigit? char = some digit) : char ∈ hexChars := by
  have each : ∀ point : Fin 128, (hexDigit? (Char.ofNat point)).isSome →
      Char.ofNat point ∈ hexChars := by decide
  have small := toNat_lt_of_hexDigit? read
  have isSome : (hexDigit? (Char.ofNat char.toNat)).isSome := by
    rw [Char.ofNat_toNat, read]
    rfl
  simpa using each ⟨char.toNat, small⟩ isSome

theorem hexDigit?_digitChar (small : digit < 16) : hexDigit? digit.digitChar = some digit := by
  have each : ∀ digit < 16, hexDigit? (Nat.digitChar digit) = some digit := by decide
  exact each digit small

theorem hexDigit?_toUpper (read : hexDigit? char = some digit) :
    hexDigit? char.toUpper = some digit := by
  have each : ∀ char ∈ hexChars, hexDigit? char.toUpper = hexDigit? char :=
    List.forall_iff_forall_mem.mp (by decide)
  rw [each char (mem_hexChars read), read]

def ofHexDigits (digits : List Nat) : Nat :=
  digits.foldl (fun value digit => value * 16 + digit) 0

/-- The characters are these digits, in either case. -/
def ShowsDigits (chars : List Char) (digits : List Nat) : Prop :=
  List.Forall₂ (fun char digit => hexDigit? char = some digit) chars digits

theorem mapM_hexDigit?_iff : chars.mapM hexDigit? = some digits ↔ ShowsDigits chars digits := by
  unfold ShowsDigits
  induction chars generalizing digits with
  | nil => simp [List.mapM_nil, eq_comm]
  | cons char chars ih =>
      simp only [List.mapM_cons, Option.bind_eq_bind, Option.bind_eq_some_iff, ih,
        Option.pure_def, Option.some.injEq, List.forall₂_cons_left_iff, exists_and_left,
        eq_comm (a := digits)]

theorem ofDigits?_eq_some_iff {guid : Guid} :
    ofDigits? chars = some guid ↔
      ∃ digits, ShowsDigits chars digits ∧ digits.length = 32 ∧ ofHexDigits digits = guid.value := by
  simp only [← mapM_hexDigit?_iff]
  unfold ofDigits?
  cases chars.mapM hexDigit? with
  | none => simp
  | some digits =>
      change (if fits : ofHexDigits digits < 1 <<< 128 ∧ digits.length = 32 then
        some (⟨ofHexDigits digits, fits.1⟩ : Guid) else none) = some guid ↔ _
      constructor
      · intro read
        obtain ⟨fits, isGuid⟩ := Option.dite_none_right_eq_some.mp read
        cases isGuid
        exact ⟨digits, rfl, fits.2, rfl⟩
      · rintro ⟨_, ⟨⟩, length, isValue⟩
        have fits : ofHexDigits digits < 1 <<< 128 := isValue ▸ guid.value_lt
        rw [dif_pos ⟨fits, length⟩, Option.some.injEq]
        cases guid
        cases isValue
        rfl

namespace ShowsDigits

theorem append {more : List Char} {moreDigits : List Nat} (shows : ShowsDigits chars digits)
    (showsMore : ShowsDigits more moreDigits) :
    ShowsDigits (chars ++ more) (digits ++ moreDigits) :=
  List.rel_append shows showsMore

theorem mem_hexChars (shows : ShowsDigits chars digits) : ∀ char ∈ chars, char ∈ hexChars := by
  induction shows with
  | nil => simp
  | cons read shows ih => simpa using ⟨Guid.mem_hexChars read, ih⟩

theorem map_toUpper (shows : ShowsDigits chars digits) :
    ShowsDigits (chars.map Char.toUpper) digits :=
  List.forall₂_map_left_iff.mpr (shows.imp fun _ _ => hexDigit?_toUpper)

end ShowsDigits

theorem ofHexDigits_append_singleton (digits : List Nat) (digit : Nat) :
    ofHexDigits (digits ++ [digit]) = ofHexDigits digits * 16 + digit :=
  List.foldl_append

theorem exists_showsDigits (number : Nat) :
    ∃ digits, ShowsDigits (Nat.toDigits 16 number) digits ∧ ofHexDigits digits = number := by
  induction number using Nat.strongRecOn with
  | ind number ih =>
      by_cases small : number < 16
      · rw [Nat.toDigits_of_lt_base small]
        exact ⟨[number], .cons (hexDigit?_digitChar small) .nil, by simp [ofHexDigits]⟩
      · obtain ⟨digits, shows, isQuotient⟩ := ih (number / 16) (by omega)
        have last : number % 16 < 16 := Nat.mod_lt _ (by decide)
        rw [Nat.toDigits_of_base_le (by decide) (Nat.le_of_not_lt small)]
        refine ⟨digits ++ [number % 16], shows.append (.cons (hexDigit?_digitChar last) .nil), ?_⟩
        rw [ofHexDigits_append_singleton, isQuotient]
        omega

theorem showsDigits_zeros (zeros : Nat) (shows : ShowsDigits chars digits) :
    ∃ padded, ShowsDigits (List.replicate zeros '0' ++ chars) padded ∧
      ofHexDigits padded = ofHexDigits digits := by
  induction zeros with
  | zero => exact ⟨digits, shows, rfl⟩
  | succ zeros ih =>
      obtain ⟨padded, showsPadded, same⟩ := ih
      refine ⟨0 :: padded, .cons rfl showsPadded, ?_⟩
      rw [← same]
      rfl

theorem length_digits (guid : Guid) : guid.digits.length = 32 := by
  have bound : guid.value < 16 ^ 32 := guid.value_lt
  have most := (Nat.length_toDigits_le_iff (b := 16) (k := 32) (by decide) (by decide)).mpr bound
  unfold digits Text.hexadecimal
  rw [List.length_append, List.length_replicate]
  omega

theorem ofDigits?_digits (guid : Guid) : ofDigits? guid.digits = some guid := by
  obtain ⟨shown, shows, isValue⟩ := exists_showsDigits guid.value
  obtain ⟨padded, showsPadded, same⟩ :=
    showsDigits_zeros (32 - (Text.hexadecimal guid.value).length) shows
  have length : padded.length = 32 := by
    rw [← showsPadded.length_eq]
    exact guid.length_digits
  exact ofDigits?_eq_some_iff.mpr ⟨padded, showsPadded, length, same.trans isValue⟩

theorem ofDigits?_upper (guid : Guid) : ofDigits? (guid.digits.map Char.toUpper) = some guid := by
  obtain ⟨values, shows, isNumber⟩ := ofDigits?_eq_some_iff.mp guid.ofDigits?_digits
  exact ofDigits?_eq_some_iff.mpr ⟨values, shows.map_toUpper, isNumber⟩

end Formula.Guid
