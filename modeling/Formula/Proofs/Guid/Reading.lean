import Formula.Proofs.Guid.Layouts

/-!
Reading identifiers, counted in bytes as well as in characters. A part is cut out of a text at
places in bytes only where these are boundaries of characters, and then the two readings agree.
-/

namespace Formula.Guid

variable {text inner : List Char} {guid : Guid}

/-- The part of a text between two places in bytes. There is none if a place lies within a
character or outside of the text, or if the first comes behind the second. -/
def bytesBetween? (text : String) (start stop : Nat) : Option String := do
  let first ← text.pos? ⟨start⟩
  let last ← text.pos? ⟨stop⟩
  (text.slice? first last).map (·.copy)

def ofSize? (text : String) (size : Nat) : Option Guid :=
  if size = 32 then ofDigits? text.toList
  else if size = 36 then (ungrouped? groups text.toList).bind ofDigits?
  else none

def unwrapBytes? (text : List Char) : Option String :=
  match text.head?, text.getLast? with
  | some first, some last =>
      if (first = '\x7b' ∧ last = '\x7d') ∨ (first = '(' ∧ last = ')') then
        bytesBetween? (String.ofList text) 1 ((String.ofList text).utf8ByteSize - 1)
      else some (String.ofList text)
  | _, _ => some (String.ofList text)

/-- Reading that takes the size of a text and the places in it in bytes. It does not come to an
outcome if there is nothing between the places where it cuts. -/
def ofBytes? (text : String) : Option (Outcome Guid) := do
  let inner ← unwrapBytes? (Text.trim text.toList)
  match ofSize? inner inner.utf8ByteSize with
  | some guid => return .ok guid
  | none => return .error (.malformed .guidText)

theorem pos?_offset {text : String} (place : text.Pos) : text.pos? place.offset = some place := by
  have valid : place.offset.IsValidForSlice text.toSlice := by
    simpa using place.toSlice.isValidForSlice
  simp [String.pos?, String.Slice.pos?, valid]
  rfl

theorem bytesBetween?_surrounded (front inner back : String) :
    bytesBetween? (front ++ inner ++ back) front.utf8ByteSize (front ++ inner).utf8ByteSize =
      some inner := by
  have validFirst : String.Pos.Raw.IsValid (front ++ inner ++ back) ⟨front.utf8ByteSize⟩ :=
    String.Pos.Raw.isValid_iff_exists_append.mpr
      ⟨front, inner ++ back, String.append_assoc, rfl⟩
  have validLast :
      String.Pos.Raw.IsValid (front ++ inner ++ back) ⟨(front ++ inner).utf8ByteSize⟩ :=
    String.Pos.Raw.isValid_iff_exists_append.mpr ⟨front ++ inner, back, rfl, rfl⟩
  let first : (front ++ inner ++ back).Pos := ⟨_, validFirst⟩
  let last : (front ++ inner ++ back).Pos := ⟨_, validLast⟩
  have splitsFirst : first.Splits front (inner ++ back) := ⟨String.append_assoc, rfl⟩
  have splitsLast : last.Splits (front ++ inner) back := ⟨rfl, rfl⟩
  obtain ⟨ordered, isInner⟩ :=
    String.copy_slice_eq_iff_splits.mpr ⟨front, back, splitsFirst, splitsLast⟩
  have isFirst := pos?_offset first
  have isLast := pos?_offset last
  unfold bytesBetween?
  rw [isFirst, isLast]
  simp [String.slice?, ordered, isInner]

theorem bytesBetween?_pair {first last : Char} (pair : IsPair first last) (inner : List Char) :
    bytesBetween? (String.ofList (first :: inner ++ [last])) 1
        ((String.ofList (first :: inner ++ [last])).utf8ByteSize - 1) =
      some (String.ofList inner) := by
  have each : ∀ char ∈ brackets, char.utf8Size = 1 :=
    List.forall_iff_forall_mem.mp (by decide)
  have sizes := pair.mem_brackets.imp (each first) (each last)
  have cut := bytesBetween?_surrounded (String.ofList [first]) (String.ofList inner)
    (String.ofList [last])
  rw [← String.ofList_append, ← String.ofList_append] at cut
  simpa [sizes, Nat.add_comm 1] using cut

theorem utf8ByteSize_of_isPlain (plain : ∀ char ∈ inner, IsPlain char) :
    (String.ofList inner).utf8ByteSize = inner.length := by
  have each : ∀ char ∈ '-' :: hexChars, char.utf8Size = 1 :=
    List.forall_iff_forall_mem.mp (by decide)
  induction inner with
  | nil => rfl
  | cons char inner ih =>
      obtain ⟨plainChar, plainRest⟩ := List.forall_mem_cons.mp plain
      have one := each char (List.mem_cons.mpr plainChar)
      simp [String.ofList_cons, ih plainRest, one, Nat.add_comm 1]

/-- A text of another size in bytes than in characters does not stand for anything. -/
theorem ofSize?_eq (inner : List Char) :
    ofSize? (String.ofList inner) (String.ofList inner).utf8ByteSize = ofInner? inner := by
  unfold ofSize? ofInner?
  rw [String.toList_ofList]
  by_cases plain : ∀ char ∈ inner, IsPlain char
  · rw [utf8ByteSize_of_isPlain plain]
  · have noDigits : ofDigits? inner = none :=
      Option.eq_none_iff_forall_ne_some.mpr fun _ read => plain (isPlain_of_ofDigits? read)
    have noGroups : (ungrouped? groups inner).bind ofDigits? = none :=
      Option.eq_none_iff_forall_ne_some.mpr fun _ read => plain (isPlain_of_ungrouped? read)
    simp [noDigits, noGroups]

theorem unwrapBytes?_eq (text : List Char) :
    unwrapBytes? text = some (String.ofList (unwrap text)) := by
  unfold unwrapBytes? unwrap
  cases isFirst : text.head? with
  | none => rfl
  | some first =>
      cases isLast : text.getLast? with
      | none => rfl
      | some last =>
          dsimp only
          split
          · next pair =>
              have cut := bytesBetween?_pair pair text.tail.dropLast
              rwa [← eq_surrounded isFirst isLast (IsPair.ne pair)] at cut
          · rfl

/-- Reading in bytes comes to an outcome for every text, the one of reading in characters. -/
theorem ofBytes?_eq (text : String) : ofBytes? text = some (ofText text) := by
  unfold ofBytes? ofText
  rw [unwrapBytes?_eq, ofText?_eq, Option.bind_eq_bind, Option.bind_some, ofSize?_eq]
  cases ofInner? (unwrap (Text.trim text.toList)) <;> rfl

/-- What reading makes of the texts that are written, and of texts with brackets that do not go
together. -/
structure ReadsLayouts : Prop where
  accepts : ∀ (guid : Guid) (name : String), (∃ text, guid.format name = .ok text) ↔
    name ∈ ["", "D", "d", "N", "n", "B", "b", "P", "p"]
  restores : ∀ (guid : Guid) (name text : String), guid.format name = .ok text →
    ∀ shown ∈ [text, Text.upper text], ∀ before after : String,
      (∀ char ∈ before.toList, Text.isBlank char = true) →
      (∀ char ∈ after.toList, Text.isBlank char = true) →
        ofText (before ++ shown ++ after) = .ok guid
  finishes : ∀ text, ofBytes? text = some (ofText text)
  refuses : ∀ text, ¬Bracketed (Text.trim text.toList) →
    ofText text = .error (.malformed .guidText)

theorem ofText_eq_ok {text : String} :
    ofText text = .ok guid ↔ ofText? text.toList = some guid := by
  unfold ofText
  cases ofText? text.toList <;> simp

theorem ofText_eq_error {text : String} :
    ofText text = .error (.malformed .guidText) ↔ ofText? text.toList = none := by
  unfold ofText
  cases ofText? text.toList <;> simp

/-- Identifiers come back from every layout of theirs, and stray brackets are refused. -/
theorem readsLayouts : ReadsLayouts where
  accepts guid name := by
    constructor
    · rintro ⟨text, formatted⟩
      obtain ⟨layout, isName, -⟩ := Layout.exists_of_format formatted
      have each : ∀ name ∈ layout.names, name ∈ ["", "D", "d", "N", "n", "B", "b", "P", "p"] := by
        cases layout <;> decide
      exact each name isName
    · intro member
      have each : ∀ name ∈ ["", "D", "d", "N", "n", "B", "b", "P", "p"],
          ∃ layout ∈ [Layout.hyphens, .digitsOnly, .braces, .parentheses],
            name ∈ layout.names := by decide
      obtain ⟨layout, -, isName⟩ := each name member
      exact ⟨_, layout.format_of_mem isName⟩
  restores guid name text formatted shown isShown before after blank blankEnd := by
    obtain ⟨layout, -, rfl⟩ := Layout.exists_of_format formatted
    have digits := guid.ofDigits?_digits
    obtain ⟨_, shows, -, -⟩ := ofDigits?_eq_some_iff.mp digits
    rw [layout.upper_lay shows.mem_hexChars] at isShown
    rw [ofText_eq_ok, String.toList_append, String.toList_append]
    rcases List.mem_pair.mp isShown with rfl | rfl
    · rw [String.toList_ofList]
      exact layout.ofText?_lay digits blank blankEnd
    · rw [String.toList_ofList]
      exact layout.ofText?_lay guid.ofDigits?_upper blank blankEnd
  finishes := ofBytes?_eq
  refuses text stray := by
    rw [ofText_eq_error, Option.eq_none_iff_forall_ne_some]
    exact fun guid read => stray (bracketed_of_ofText? read)

end Formula.Guid
