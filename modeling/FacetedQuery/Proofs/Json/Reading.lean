import FacetedQuery.Proofs.Json.Numeral

/-!
# Documents are read back

The compact text of a value is read as the value, in front of whatever ends it.  All that has to be
known are its numbers: each of them has to be spelt so that it is read again.
-/

namespace FacetedQuery.Json

open Decimal (IsNumeric isNumeralChar isNumeric_digits isNumeric_mixed)

variable {text rest : List Char} {steps : Nat}

theorem hexValue?_lowerHexDigit {digit : Nat} (low : digit < 16) :
    hexValue? (lowerHexDigit digit) = some digit := by
  have all : ∀ digit < 16, hexValue? (lowerHexDigit digit) = some digit := by decide
  exact all digit low

/-- A unit of 16 bits is read from its escape; two digits suffice for the control characters. -/
theorem readUnit?_low {unit : Nat} (low : unit < 0x20) (rest : List Char) :
    readUnit? ('0' :: '0' :: lowerHexDigit (unit / 16) :: lowerHexDigit (unit % 16) :: rest) =
      some (unit, rest) := by
  have zero : hexValue? '0' = some 0 := rfl
  have high : hexValue? (lowerHexDigit (unit / 16)) = some (unit / 16) :=
    hexValue?_lowerHexDigit (by omega)
  have last : hexValue? (lowerHexDigit (unit % 16)) = some (unit % 16) :=
    hexValue?_lowerHexDigit (by omega)
  have sum : unit / 16 * 16 + unit % 16 = unit := by omega
  simp [readUnit?, zero, high, last, sum]

/-- A character between quotes is read back, whatever follows it. -/
theorem readPiece?_escapeChar (character : Char) (rest : List Char) :
    readPiece? (escapeChar character ++ rest) = some (.character character, rest) := by
  by_cases quote : character = '"'
  · subst quote
    rfl
  by_cases backslash : character = '\\'
  · subst backslash
    rfl
  by_cases feed : character = '\n'
  · subst feed
    rfl
  by_cases carriageReturn : character = '\r'
  · subst carriageReturn
    rfl
  by_cases tab : character = '\t'
  · subst tab
    rfl
  by_cases backspace : character = '\x08'
  · subst backspace
    rfl
  by_cases formFeed : character = '\x0c'
  · subst formFeed
    rfl
  by_cases control : character.toNat < 0x20
  · have escaped : escapeChar character = ['\\', 'u', '0', '0',
        lowerHexDigit (character.toNat / 16), lowerHexDigit (character.toNat % 16)] := by
      simp [escapeChar, quote, backslash, feed, carriageReturn, tab, backspace, formFeed, control]
    have unit := readUnit?_low control rest
    have single : isHighHalf character.toNat = false ∧ isLowHalf character.toNat = false := by
      constructor
      · simp only [isHighHalf, Bool.and_eq_false_iff, decide_eq_false_iff_not]
        omega
      · simp only [isLowHalf, Bool.and_eq_false_iff, decide_eq_false_iff_not]
        omega
    rw [escaped]
    simp [readPiece?, readUnicodeEscape?, unit, single]
  · have plain : escapeChar character = [character] := by
      simp [escapeChar, quote, backslash, feed, carriageReturn, tab, backspace, formFeed, control]
    rw [plain, List.singleton_append]
    simp [readPiece?, backslash, control]

theorem readStringBody?_escapes (text rest : List Char)
    (enough : (text.flatMap escapeChar).length < steps) :
    readStringBody? steps (text.flatMap escapeChar ++ '"' :: rest) = some (some text, rest) := by
  induction text generalizing steps with
  | nil =>
      obtain ⟨steps, rfl⟩ := Nat.exists_eq_add_of_lt enough
      simp [readStringBody?, readPiece?]
  | cons character text induction =>
      have width : 0 < (escapeChar character).length := by
        unfold escapeChar
        repeat' split
        all_goals simp
      rw [List.flatMap_cons, List.length_append] at enough
      obtain ⟨steps, rfl⟩ : ∃ fewer, steps = fewer + 1 := ⟨steps - 1, by omega⟩
      have further : readStringBody? steps (text.flatMap escapeChar ++ '"' :: rest) =
          some (some text, rest) := induction (by omega)
      rw [List.flatMap_cons, List.append_assoc, readStringBody?, readPiece?_escapeChar]
      simp [further]

theorem quote_append (text rest : List Char) :
    quote text ++ rest = '"' :: (text.flatMap escapeChar ++ '"' :: rest) := by
  simp [quote]

theorem readString?_escapes (text : String) (rest : List Char)
    (enough : (quote text.toList).length ≤ steps + 1) :
    readString? steps (text.toList.flatMap escapeChar ++ '"' :: rest) = some (some text, rest) := by
  have shorter : (text.toList.flatMap escapeChar).length < steps := by
    simp only [quote, List.length_cons, List.length_append] at enough
    omega
  have body := readStringBody?_escapes text.toList rest shorter
  simp [readString?, body]

theorem skipSpace_of_not_space {character : Char} (visible : isSpace character = false)
    (text : List Char) : skipSpace (character :: text) = character :: text := by
  simp [skipSpace, visible]

theorem not_space_of_numeral {character : Char} (numeral : isNumeralChar character = true) :
    isSpace character = false := by
  have all : ∀ space ∈ [' ', '\n', '\t', '\r'], isNumeralChar space = false := by decide
  cases space : isSpace character with
  | false => rfl
  | true =>
      have member : character ∈ [' ', '\n', '\t', '\r'] := by
        simpa [isSpace, or_assoc] using space
      exact absurd numeral (by simp [all character member])

/-- A value that starts with a character of numbers is a number. -/
theorem readValue?_numeral {character : Char} (numeral : isNumeralChar character = true)
    {number : Number} : readValue? (steps + 1) (character :: text) = some (.number number, rest) ↔
      ∃ numeral, readNumeral? (character :: text) = some (numeral, rest) ∧
        numeral.number? = some number := by
  have other : ∀ start ∈ ['n', 't', 'f', '"', '[', '{'], character ≠ start := by
    rintro start member rfl
    have all : ∀ start ∈ ['n', 't', 'f', '"', '[', '{'], isNumeralChar start = false := by decide
    exact absurd numeral (by simp [all character member])
  rw [readValue?, skipSpace_of_not_space (not_space_of_numeral numeral)]
  split
  case h_8 _ start behind _ _ _ _ _ _ equality =>
    obtain ⟨rfl, rfl⟩ := List.cons.inj equality
    rw [Option.map_eq_some_iff]
    constructor
    · rintro ⟨⟨numeral, after⟩, read, parts⟩
      cases denotes : numeral.number? with
      | none => simp [denotes] at parts
      | some value =>
          simp only [denotes, Prod.mk.injEq, Value.number.injEq] at parts
          obtain ⟨rfl, rfl⟩ := parts
          exact ⟨numeral, read, denotes⟩
    · rintro ⟨numeral, read, denotes⟩
      exact ⟨_, read, by simp [denotes]⟩
  all_goals simp_all

/-- A number is written with the characters of numbers, unless it is not finite. -/
theorem Number.numeric {number : Number} (notNull : number.write ≠ "null".toList) :
    IsNumeric number.write := by
  cases number with
  | natural value => exact isNumeric_digits value
  | negative magnitude => exact .cons (by decide) (isNumeric_digits magnitude)
  | real value =>
      have spelling : (Number.real value).write = (Decimal.mixed? value).getD "null".toList := rfl
      rw [spelling] at notNull ⊢
      cases written : Decimal.mixed? value with
      | none => simp [written] at notNull
      | some text => exact isNumeric_mixed written

theorem Number.IsSpelt.numeric {number : Number} (spelt : number.IsSpelt) :
    IsNumeric number.write := by
  apply Number.numeric
  intro null
  obtain ⟨numeral, read, -⟩ := spelt
  rw [null] at read
  cases read

theorem Number.IsSpelt.write_ne_nil {number : Number} (spelt : number.IsSpelt) :
    number.write ≠ [] := by
  intro nothing
  obtain ⟨numeral, read, -⟩ := spelt
  rw [nothing] at read
  cases read

theorem readValue?_of_isSpelt {number : Number} (spelt : number.IsSpelt)
    (ends : EndsNumeral rest) :
    readValue? (steps + 1) (number.write ++ rest) = some (.number number, rest) := by
  have numeric := spelt.numeric
  have nonempty := spelt.write_ne_nil
  obtain ⟨numeral, read, denotes⟩ := spelt
  have further := readNumeral?_append ends read
  cases written : number.write with
  | nil => exact absurd written nonempty
  | cons character text =>
      rw [written] at further numeric
      exact (readValue?_numeral (numeric character List.mem_cons_self)).mpr
        ⟨numeral, further, denotes⟩

/-- All numbers of a value are spelt so that they are read again, and all of it denotes
something. -/
inductive Value.IsSpelt : Value → Prop
  | null : IsSpelt .null
  | boolean (value : Bool) : IsSpelt (.boolean value)
  | number {number : Number} (spelt : number.IsSpelt) : IsSpelt (.number number)
  | text (value : String) : IsSpelt (.text value)
  | array {items : List Value} (spelt : ∀ item ∈ items, item.IsSpelt) : IsSpelt (.array items)
  | object {members : List (String × Value)} (spelt : ∀ member ∈ members, member.2.IsSpelt) :
      IsSpelt (.object members)

/-- The text of a value starts with a character that is neither space nor a closing bracket. -/
theorem Value.IsSpelt.write_start {value : Value} (spelt : value.IsSpelt) :
    ∃ start further, value.write = start :: further ∧ isSpace start = false ∧ start ≠ ']' := by
  cases spelt with
  | null => exact ⟨'n', _, rfl, rfl, by decide⟩
  | boolean value =>
      cases value with
      | false => exact ⟨'f', _, rfl, rfl, by decide⟩
      | true => exact ⟨'t', _, rfl, rfl, by decide⟩
  | @number number spelt =>
      have numeric := spelt.numeric
      obtain ⟨start, further, written⟩ := List.exists_cons_of_ne_nil spelt.write_ne_nil
      have numeral : isNumeralChar start = true := numeric start (by simp [written])
      refine ⟨start, further, written, not_space_of_numeral numeral, ?_⟩
      rintro rfl
      cases numeral
  | text value => exact ⟨'"', _, rfl, rfl, by decide⟩
  | array spelt => exact ⟨'[', _, rfl, rfl, by decide⟩
  | object spelt => exact ⟨'{', _, rfl, rfl, by decide⟩

/-- A value is read back from its text, whatever ends it. -/
def Value.IsRead (value : Value) : Prop :=
  ∀ (steps : Nat) (rest : List Char), EndsNumeral rest → value.write.length ≤ steps →
    readValue? steps (value.write ++ rest) = some (value, rest)

theorem writeItems_cons_cons (item second : Value) (items : List Value) :
    writeItems (item :: second :: items) = item.write ++ ',' :: writeItems (second :: items) := by
  rw [writeItems]
  simp

theorem writeMembers_cons_cons (key : String) (value : Value) (second : String × Value)
    (members : List (String × Value)) : writeMembers ((key, value) :: second :: members) =
      quote key.toList ++ ':' :: value.write ++ ',' :: writeMembers (second :: members) := by
  rw [writeMembers]
  simp

theorem exists_writeItems (item : Value) (items : List Value) :
    ∃ further, writeItems (item :: items) = item.write ++ further := by
  cases items with
  | nil => exact ⟨[], by simp [writeItems]⟩
  | cons second items => exact ⟨_, writeItems_cons_cons item second items⟩

theorem exists_writeMembers (member : String × Value) (members : List (String × Value)) :
    ∃ further, writeMembers (member :: members) = '"' :: further := by
  obtain ⟨key, value⟩ := member
  cases members with
  | nil => exact ⟨_, rfl⟩
  | cons second members => exact ⟨_, writeMembers_cons_cons key value second members⟩

theorem readItems?_write {items : List Value} (read : ∀ item ∈ items, item.IsRead)
    (present : items ≠ []) (rest : List Char) (enough : (writeItems items).length < steps) :
    readItems? steps (writeItems items ++ ']' :: rest) = some (items, rest) := by
  induction items generalizing steps with
  | nil => exact absurd rfl present
  | cons item items induction =>
      obtain ⟨steps, rfl⟩ : ∃ fewer, steps = fewer + 1 := ⟨steps - 1, by omega⟩
      have here := read item List.mem_cons_self steps
      have others : ∀ other ∈ items, other.IsRead :=
        fun other member => read other (List.mem_cons_of_mem item member)
      cases items with
      | nil =>
          rw [writeItems] at enough ⊢
          have last := here (']' :: rest) (endsNumeral_cons (by decide)) (by omega)
          rw [readItems?, last]
          simp [skipSpace_of_not_space (show isSpace ']' = false by decide)]
      | cons second items =>
          rw [writeItems_cons_cons, List.length_append, List.length_cons] at enough
          have further : readItems? steps (writeItems (second :: items) ++ ']' :: rest) =
              some (second :: items, rest) := induction others (by simp) (by omega)
          have first := here (',' :: (writeItems (second :: items) ++ ']' :: rest))
            (endsNumeral_cons (by decide)) (by omega)
          rw [writeItems_cons_cons, List.append_assoc, List.cons_append, readItems?, first]
          simp [skipSpace_of_not_space (show isSpace ',' = false by decide), further]

theorem readMembers?_write {members : List (String × Value)}
    (read : ∀ member ∈ members, member.2.IsRead) (present : members ≠ []) (rest : List Char)
    (enough : (writeMembers members).length < steps) :
    readMembers? steps (writeMembers members ++ '}' :: rest) =
      some (members.map fun member => (some member.1, member.2), rest) := by
  induction members generalizing steps with
  | nil => exact absurd rfl present
  | cons member members induction =>
      obtain ⟨key, value⟩ := member
      obtain ⟨steps, rfl⟩ : ∃ fewer, steps = fewer + 1 := ⟨steps - 1, by omega⟩
      have here : value.IsRead := read (key, value) List.mem_cons_self
      have others : ∀ other ∈ members, other.2.IsRead :=
        fun other member => read other (List.mem_cons_of_mem _ member)
      have colon := skipSpace_of_not_space (show isSpace ':' = false by decide)
      have quoted := skipSpace_of_not_space (show isSpace '"' = false by decide)
      cases members with
      | nil =>
          simp only [writeMembers, List.length_append, List.length_cons] at enough ⊢
          have short : (quote key.toList).length ≤ steps + 1 := by omega
          have name := readString?_escapes key (':' :: (value.write ++ '}' :: rest)) short
          have last := here steps ('}' :: rest) (endsNumeral_cons (by decide)) (by omega)
          rw [List.append_assoc, List.cons_append, quote_append, readMembers?, quoted]
          simp [name, colon, last, skipSpace_of_not_space (show isSpace '}' = false by decide)]
      | cons second members =>
          simp only [writeMembers_cons_cons, List.length_append, List.length_cons] at enough
          have further : readMembers? steps (writeMembers (second :: members) ++ '}' :: rest) =
              some ((second :: members).map fun member => (some member.1, member.2), rest) :=
            induction others (by simp) (by omega)
          have first := here steps (',' :: (writeMembers (second :: members) ++ '}' :: rest))
            (endsNumeral_cons (by decide)) (by omega)
          have short : (quote key.toList).length ≤ steps + 1 := by omega
          have name := readString?_escapes key
            (':' :: (value.write ++ ',' :: (writeMembers (second :: members) ++ '}' :: rest))) short
          have whole : writeMembers ((key, value) :: second :: members) ++ '}' :: rest =
              quote key.toList ++ ':' :: (value.write ++ ',' ::
                (writeMembers (second :: members) ++ '}' :: rest)) := by
            simp [writeMembers_cons_cons]
          rw [whole, quote_append, readMembers?, quoted]
          simp [name, colon, first, skipSpace_of_not_space (show isSpace ',' = false by decide),
            further]

theorem objectOf_readable (members : List (String × Value)) :
    objectOf (members.map fun member => (some member.1, member.2)) = .object members := by
  have readable : (members.map fun member => (some member.1, member.2)).mapM
      (fun member => member.1.map (·, member.2)) = some members := by
    induction members with
    | nil => rfl
    | cons member members induction => simp [induction]
  simp only [objectOf, readable]

theorem Value.isRead_null : Value.null.IsRead := by
  intro steps rest _ enough
  obtain ⟨steps, rfl⟩ : ∃ fewer, steps = fewer + 1 := Nat.exists_eq_add_one.mpr (by
    have : Value.null.write.length = 4 := rfl
    omega)
  rfl

theorem Value.isRead_boolean (value : Bool) : (Value.boolean value).IsRead := by
  intro steps rest _ enough
  obtain ⟨steps, rfl⟩ : ∃ fewer, steps = fewer + 1 := Nat.exists_eq_add_one.mpr (by
    have : 0 < (Value.boolean value).write.length := by cases value <;> decide
    omega)
  cases value <;> rfl

theorem Value.isRead_text (value : String) : (Value.text value).IsRead := by
  intro steps rest _ enough
  have written : (Value.text value).write = quote value.toList := rfl
  rw [written] at enough ⊢
  obtain ⟨steps, rfl⟩ : ∃ fewer, steps = fewer + 1 := Nat.exists_eq_add_one.mpr (by
    simp only [quote, List.length_append, List.length_cons] at enough
    omega)
  have body := readString?_escapes value rest enough
  rw [quote_append, readValue?, skipSpace_of_not_space (by decide)]
  simp [body]

theorem Value.isRead_array {items : List Value} (starts : ∀ item ∈ items, item.IsSpelt)
    (read : ∀ item ∈ items, item.IsRead) : (Value.array items).IsRead := by
  intro steps rest _ enough
  have written : (Value.array items).write ++ rest = '[' :: (writeItems items ++ ']' :: rest) := by
    simp [Value.write]
  have length : (Value.array items).write.length = (writeItems items).length + 2 := by
    simp [Value.write]
  obtain ⟨steps, rfl⟩ : ∃ fewer, steps = fewer + 1 := Nat.exists_eq_add_one.mpr (by omega)
  rw [written, readValue?, skipSpace_of_not_space (by decide)]
  cases items with
  | nil => simp [writeItems, skipSpace_of_not_space (show isSpace ']' = false by decide)]
  | cons item items =>
      have short : (writeItems (item :: items)).length < steps := by omega
      have body := readItems?_write read (by simp) rest short
      obtain ⟨further, spelling⟩ := exists_writeItems item items
      obtain ⟨start, behind, first, visible, unclosed⟩ :=
        (starts item List.mem_cons_self).write_start
      rw [spelling, first, List.cons_append, List.cons_append] at body ⊢
      simpa [skipSpace_of_not_space visible, unclosed] using body

theorem Value.isRead_object {members : List (String × Value)}
    (read : ∀ member ∈ members, member.2.IsRead) : (Value.object members).IsRead := by
  intro steps rest _ enough
  have written : (Value.object members).write ++ rest =
      '{' :: (writeMembers members ++ '}' :: rest) := by
    simp [Value.write]
  have length : (Value.object members).write.length = (writeMembers members).length + 2 := by
    simp [Value.write]
  obtain ⟨steps, rfl⟩ : ∃ fewer, steps = fewer + 1 := Nat.exists_eq_add_one.mpr (by omega)
  rw [written, readValue?, skipSpace_of_not_space (by decide)]
  cases members with
  | nil => simp [writeMembers, skipSpace_of_not_space (show isSpace '}' = false by decide)]
  | cons member members =>
      have short : (writeMembers (member :: members)).length < steps := by omega
      have body := readMembers?_write read (by simp) rest short
      obtain ⟨further, spelling⟩ := exists_writeMembers member members
      rw [spelling, List.cons_append] at body ⊢
      simpa [skipSpace_of_not_space (show isSpace '"' = false by decide), body] using
        objectOf_readable (member :: members)

/-- A value all of whose numbers are read again is read back from its text. -/
theorem Value.IsSpelt.isRead {value : Value} (spelt : value.IsSpelt) : value.IsRead := by
  induction spelt with
  | null => exact Value.isRead_null
  | boolean value => exact Value.isRead_boolean value
  | number spelt =>
      intro steps rest ends enough
      have present := List.length_pos_iff.mpr spelt.write_ne_nil
      obtain ⟨steps, rfl⟩ : ∃ fewer, steps = fewer + 1 := Nat.exists_eq_add_one.mpr (by
        exact Nat.lt_of_lt_of_le present enough)
      exact readValue?_of_isSpelt spelt ends
  | text value => exact Value.isRead_text value
  | array spelt read => exact Value.isRead_array spelt read
  | object spelt read => exact Value.isRead_object read

theorem read?_write {value : Value} (spelt : value.IsSpelt) : read? value.write = some value := by
  have whole := spelt.isRead (2 * value.write.length + 2) [] nofun (by omega)
  rw [List.append_nil] at whole
  simp [read?, whole, skipSpace]

theorem eq_nil_of_skipSpace (numeric : IsNumeric text)
    (finished : (skipSpace text).isEmpty = true) :
    text = [] := by
  cases text with
  | nil => rfl
  | cons character text =>
      have visible := not_space_of_numeral (numeric character List.mem_cons_self)
      simp [skipSpace_of_not_space visible] at finished

theorem isSpelt_of_readValue? {number : Number} {after : List Char}
    (numeric : IsNumeric number.write)
    (read : readValue? (steps + 1) number.write = some (.number number, after))
    (finished : (skipSpace after).isEmpty = true) : number.IsSpelt := by
  cases written : number.write with
  | nil =>
      rw [written] at read
      cases read
  | cons character text =>
      rw [written] at read numeric
      obtain ⟨numeral, further, denotes⟩ :=
        (readValue?_numeral (numeric character List.mem_cons_self)).mp read
      have left : IsNumeric after := numeric.sublist (suffix_of_readNumeral? further).subset
      obtain rfl := eq_nil_of_skipSpace left finished
      exact ⟨numeral, written ▸ further, denotes⟩

/-- The numbers that are read again are those whose own text is read as the number. -/
theorem Number.isSpelt_iff {number : Number} :
    number.IsSpelt ↔ read? number.write = some (.number number) := by
  constructor
  · intro spelt
    exact read?_write (.number spelt)
  · intro kept
    have notNull : number.write ≠ "null".toList := by
      intro null
      have asNull : read? "null".toList = some .null := rfl
      rw [null, asNull] at kept
      cases kept
    unfold read? at kept
    split at kept
    · next found after read =>
      split at kept
      · next finished =>
        cases kept
        exact isSpelt_of_readValue? (Number.numeric notNull) read finished
      · cases kept
    · cases kept

/-- Some decimals are read as one of their neighbours. -/
example : ¬ (Number.real 10.078601524580563).IsSpelt := by decide +kernel

end FacetedQuery.Json
