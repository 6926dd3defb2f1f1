import FacetedQuery.Proofs.Decimal.Digits
import FacetedQuery.Proofs.Template.Placeholder

/-!
# Spelling

How texts of known tokens are put together.  A piece on one line brings three things along: the
tokens it consists of, that no line feed is in it, and that no placeholder is.
-/

namespace FacetedQuery.Sparql.Token

open Template (Free isInside free_append free_cons_of_ne)

theorem readToken?_iri {text : List Char} (enclosable : Rdf.Enclosable text)
    (after : List Char) :
    readToken? ('<' :: (text ++ '>' :: after)) =
      some (.name (.iri (String.ofList text)), after) := by
  have inside : ∀ character ∈ text, (!isIriExcluded character) = true := by
    intro character member
    rw [enclosable character member]
    rfl
  have stops : Stops (fun character => !isIriExcluded character) ('>' :: after) := by
    intro character first
    obtain rfl : '>' = character := by simpa using first
    rfl
  show (readIri? _).or _ = _
  unfold readIri?
  rw [takeWhile_append_eq_left inside stops, dropWhile_append_eq_right inside stops]
  rfl

theorem isVarChar_of_isVarStart {character : Char} (starts : isVarStart character = true) :
    isVarChar character = true := by
  simp only [isVarStart, isNameStart, isLetter, Bool.or_eq_true] at starts
  rcases starts with (underscore | letter) | digit
  · simp [isVarChar, Rdf.Name.isVariableRest, underscore]
  · simp [isVarChar, Rdf.Name.isVariableRest, letter]
  · simp [isVarChar, Rdf.Name.isVariableRest, digit]

theorem readToken?_var {first : Char} {name : List Char} (starts : isVarStart first = true)
    (inside : ∀ character ∈ name, isVarChar character = true) {after : List Char}
    (stops : Stops isVarChar after) :
    readToken? ('?' :: (first :: name ++ after)) =
      some (.var (String.ofList (first :: name)), after) := by
  have insideAll : ∀ character ∈ first :: name, isVarChar character = true := by
    simpa [isVarChar_of_isVarStart starts] using inside
  have taken := takeWhile_append_eq_left insideAll stops
  have dropped := dropWhile_append_eq_right insideAll stops
  show (readVar? (first :: (name ++ after))).or _ = _
  rw [List.cons_append] at taken dropped
  rw [readVar?, if_pos starts, taken, dropped]
  rfl

theorem readLocal_varChars {name : List Char}
    (inside : ∀ character ∈ name, isVarChar character = true) : readLocal name = (name, []) := by
  induction name with
  | nil => rfl
  | cons character name induction =>
      have goesOn := inside character (by simp)
      have different : ∀ other, isVarChar other = false → character ≠ other := by
        rintro other outside rfl
        simp [outside] at goesOn
      have isName : isNameChar character = true := by
        simpa [isNameChar, isVarChar] using Or.inr goesOn
      have here : continuesAt character name = true := by
        rw [continuesAt, continuesLocal_cons (different '%' (by decide))
          (different '\\' (by decide)), isName]
        simp [different '.' (by decide)]
      rw [readLocal_cons (different '\\' (by decide)), if_pos here,
        induction fun other member => inside other (by simp [member])]

/-- The tokens of a name behind a question mark.  A name may start with a colon, which variables of
queries do not. -/
def nameTokens (name : List Char) : List Token :=
  match name with
  | ':' :: rest => [.mark .question, .name (.prefixed "" (String.ofList rest))]
  | _ => [.var (String.ofList name)]

/-- Whether the character behind a colon at the start of a name may stand there in a query. -/
def isReadable (name : List Char) : Bool :=
  match name with
  | ':' :: first :: _ => isVarStart first
  | _ => true

theorem spells_name {name : List Char} (wellFormed : Rdf.Name.isVariable name = true)
    (readable : isReadable name = true) : Spells ('?' :: name) (nameTokens name) := by
  cases name with
  | nil => cases wellFormed
  | cons first name =>
      simp only [Rdf.Name.isVariable, Bool.and_eq_true, List.all_eq_true] at wellFormed
      obtain ⟨starts, inside⟩ := wellFormed
      by_cases colon : first = ':'
      · subst colon
        have read : readPrefixed [] name = (.name (.prefixed "" (String.ofList name)), []) := by
          cases name with
          | nil => rfl
          | cons second name =>
              have startsHere : startsLocal (second :: name) = true := by
                have startsName : isVarStart second = true := readable
                simp [startsLocal, startsName]
              simp only [readPrefixed, startsHere, if_true, readLocal_varChars inside]
        have behind : readToken? (':' :: name) =
            some (.name (.prefixed "" (String.ofList name)), []) := congrArg some read
        exact .token rfl (.token behind .nil)
      · have startsName : isVarStart first = true := by
          simp only [Rdf.Name.isStart, Bool.or_eq_true, beq_iff_eq, colon, false_or] at starts
          simpa [isVarStart, isNameStart, isLetter, or_assoc, or_comm, or_left_comm] using starts
        have tokens : nameTokens (first :: name) = [.var (String.ofList (first :: name))] := by
          unfold nameTokens
          split
          · next equality => exact absurd (List.cons.inj equality).1 colon
          · rfl
        rw [tokens]
        have read := readToken?_var startsName inside (show Stops isVarChar [] by simp [Stops])
        rw [List.append_nil] at read
        exact .token read .nil

theorem readToken?_digit {first : Char} (digit : first.isDigit = true) (rest : List Char) :
    readToken? (first :: rest) = readNumber? .none (first :: rest) := by
  have apart : ∀ other : Char, other.isDigit = false → first ≠ other := by
    rintro other noDigit rfl
    rw [digit] at noDigit
    cases noDigit
  unfold readToken?
  split <;> first
    | (next equality => cases equality)
    | (next equality =>
        obtain ⟨rfl, -⟩ := List.cons.inj equality
        first | exact absurd digit (by decide) | exact if_pos digit)

theorem numberOf_digits {row : List Char} (digit : ∀ character ∈ row, character.isDigit = true)
    (nonempty : row ≠ []) : numberOf row = row := by
  have ends : Stops Char.isDigit [] := by simp [Stops]
  have whole := takeWhile_append_eq_left digit ends
  have nothing := dropWhile_append_eq_right digit ends
  rw [List.append_nil] at whole nothing
  have notEmpty : row.isEmpty = false := by simpa using nonempty
  unfold numberOf
  rw [whole, nothing]
  simp [notEmpty, exponentOf]

/-- What may follow any token at once. -/
inductive Joint : List Char → Prop where
  | space (rest : List Char) : Joint (' ' :: rest)
  | feed (rest : List Char) : Joint ('\n' :: rest)
  | comma (rest : List Char) : Joint (',' :: ' ' :: rest)
  | close : Joint [')']
  | repeated : Joint [')', '*']

namespace Joint

variable {text : List Char}

theorem outside (joint : Joint text) : ∀ next ∈ text.head?, isInside next = false := by
  cases joint <;> simp <;> decide

theorem endsEscape (joint : Joint text) :
    ∀ next ∈ text.head?, Token.endsEscape next = true := by
  cases joint <;> simp <;> decide

theorem unescape (joint : Joint text) : Joint (Token.unescape text) := by
  cases joint with
  | space rest =>
      rw [unescape_cons (by decide)]
      exact .space _
  | feed rest =>
      rw [unescape_cons (by decide)]
      exact .feed _
  | comma rest =>
      rw [unescape_cons (by decide), unescape_cons (by decide)]
      exact .comma _
  | close =>
      rw [unescape_eq_self (by simp)]
      exact .close
  | repeated =>
      rw [unescape_eq_self (by simp)]
      exact .repeated

theorem border (joint : Joint text) : Border text := by
  cases joint with
  | space rest => exact .ofSpace rfl
  | feed rest => exact .ofSpace rfl
  | comma rest => exact ⟨by simp; decide, rfl⟩
  | close => exact ⟨by simp; decide, rfl⟩
  | repeated => exact ⟨by simp; decide, rfl⟩

end Joint

section

variable {text after blanks : List Char} {tokens more : List Token}

theorem spells_behind (first : Spells (unescape text) tokens)
    (second : Spells (unescape after) more) (joint : Joint after) :
    Spells (unescape (text ++ after)) (tokens ++ more) := by
  rw [unescape_append joint.endsEscape]
  exact first.append joint.unescape.border second

theorem ne_backslash_of_isSpace {character : Char} (space : Json.isSpace character = true) :
    character ≠ '\\' := by
  rintro rfl
  cases space

theorem spells_space {character : Char} (space : Json.isSpace character = true)
    (spells : Spells (unescape text) tokens) : Spells (unescape (character :: text)) tokens := by
  rw [unescape_cons (ne_backslash_of_isSpace space)]
  exact .space space spells

theorem spells_spaces (spaces : ∀ character ∈ blanks, Json.isSpace character = true)
    (spells : Spells (unescape text) tokens) : Spells (unescape (blanks ++ text)) tokens := by
  induction blanks with
  | nil => exact spells
  | cons character blanks induction =>
      exact spells_space (spaces character (by simp))
        (induction fun other member => spaces other (by simp [member]))

/-- White space in front of a text may be trimmed with its lines. -/
theorem spells_trimmed_spaces (spaces : ∀ character ∈ blanks, Json.isSpace character = true)
    (spells : Spells (unescape (Text.trimFinished text)) tokens) :
    Spells (unescape (Text.trimFinished (blanks ++ text))) tokens := by
  induction blanks with
  | nil => exact spells
  | cons character blanks induction =>
      have behind := induction fun other member => spaces other (by simp [member])
      rw [List.cons_append, Text.trimFinished_cons]
      split
      · exact behind
      · exact spells_space (spaces character (by simp)) behind

end

section

variable {text : List Char} {tokens : List Token}

theorem spells_token (start : List Char) {next : Char} {token : Token}
    (read : ∀ rest, readToken? (start ++ next :: rest) = some (token, next :: rest))
    (plain : ∀ character ∈ next :: start, character ≠ '\\')
    (spells : Spells (unescape (next :: text)) tokens) :
    Spells (unescape (start ++ next :: text)) (token :: tokens) := by
  rw [unescape_cons (plain next (by simp))] at spells
  rw [unescape_append_of_plain fun character member => plain character (by simp [member]),
    unescape_cons (plain next (by simp))]
  exact .token (read _) spells

theorem spells_mark (character : Char) {mark : Mark}
    (read : ∀ rest, readToken? (character :: rest) = some (.mark mark, rest))
    (plain : character ≠ '\\') (spells : Spells (unescape text) tokens) :
    Spells (unescape (character :: text)) (.mark mark :: tokens) := by
  rw [unescape_cons plain]
  exact .token (read _) spells

theorem spells_iri (value : Rdf.Iri) (spells : Spells (unescape text) tokens) :
    Spells (unescape ('<' :: (value.text.toList ++ '>' :: text)))
      (.name (.iri value.text) :: tokens) := by
  have enclosable := value.enclosable
  have split : '<' :: (value.text.toList ++ '>' :: text) =
      '<' :: (value.text.toList ++ ['>']) ++ text := by
    simp
  have plain : ∀ character ∈ '<' :: (value.text.toList ++ ['>']), character ≠ '\\' := by
    rintro _ member rfl
    have inside : '\\' ∈ value.text.toList := by simpa using member
    exact absurd (enclosable '\\' inside) (by decide)
  rw [split, unescape_append_of_plain plain]
  have read := readToken?_iri enclosable (unescape text)
  rw [String.ofList_toList] at read
  exact .token (by simpa using read) spells

theorem head?_unescape {next : Char} {rest : List Char} (plain : next ≠ '\\') :
    (unescape (next :: rest)).head? = some next := by
  rw [unescape_cons plain]
  rfl

/-- A text in quotes. -/
theorem spells_quoted (value : List Char) (spells : Spells (unescape text) tokens)
    (outside : ∀ next ∈ text.head?, next ≠ '"' ∧ next ≠ '\\') :
    Spells (unescape ('"' :: (value.flatMap Rdf.Literal.escapeChar ++ '"' :: text)))
      (.string (String.ofList value) :: tokens) := by
  have noQuote : (unescape text).head? ≠ some '"' := by
    cases text with
    | nil => simp [unescape_nil]
    | cons next text =>
        obtain ⟨noQuote, plain⟩ := outside next (by simp)
        rw [head?_unescape plain]
        simpa using noQuote
  rw [unescape_cons (by decide), unescape_escaped, unescape_cons (by decide)]
  exact .token (readToken?_quoted value noQuote) spells

end

/-- A text on one line that consists of the given tokens and holds no placeholder. -/
structure Spelled (text : List Char) (tokens : List Token) : Prop where
  line : '\n' ∉ text
  free : Free text
  spells : Spells (unescape text) tokens

namespace Spelled

variable {text after : List Char} {tokens more : List Token}

theorem nil : Spelled [] [] :=
  ⟨by simp, rfl, by simpa [unescape_nil] using Spells.nil⟩

theorem append (first : Spelled text tokens) (second : Spelled after more)
    (joint : Joint after) : Spelled (text ++ after) (tokens ++ more) where
  line := by simpa using ⟨first.line, second.line⟩
  free := (free_append joint.outside).mpr ⟨first.free, second.free⟩
  spells := spells_behind first.spells second.spells joint

theorem space (spelled : Spelled text tokens) : Spelled (' ' :: text) tokens where
  line := by simpa using spelled.line
  free := (free_cons_of_ne (by decide)).mpr spelled.free
  spells := spells_space rfl spelled.spells

/-- A token in front of a character that it does not take. -/
theorem token (start : List Char) {next : Char} {token : Token}
    (read : ∀ rest, readToken? (start ++ next :: rest) = some (token, next :: rest))
    (plain : ∀ character ∈ next :: start, character ≠ '\\' ∧ character ≠ '\n')
    (free : Free (start ++ next :: text)) (spelled : Spelled (next :: text) tokens) :
    Spelled (start ++ next :: text) (token :: tokens) where
  line := by
    rw [List.mem_append, not_or]
    exact ⟨fun member => (plain _ (by simp [member])).2 rfl, spelled.line⟩
  free := free
  spells :=
    spells_token start read (fun character member => (plain character member).1) spelled.spells

/-- A word in front of a blank or an opening parenthesis. -/
theorem word (letters : List Char) {next : Char}
    (read : ∀ rest, readToken? (letters ++ next :: rest) =
      some (.word (String.ofList letters), next :: rest))
    (plain : ∀ character ∈ next :: letters,
      character ≠ '\\' ∧ character ≠ '\n' ∧ character ≠ '<')
    (spelled : Spelled (next :: text) tokens) :
    Spelled (letters ++ next :: text) (.word (String.ofList letters) :: tokens) :=
  token letters read (fun character member => ⟨(plain character member).1,
    (plain character member).2.1⟩) (Template.free_append_of_not_mem
      (fun member => (plain _ (List.mem_cons_of_mem _ member)).2.2 rfl) spelled.free) spelled

theorem mark (character : Char) {mark : Mark}
    (read : ∀ rest, readToken? (character :: rest) = some (.mark mark, rest))
    (plain : character ≠ '\\' ∧ character ≠ '\n' ∧ character ≠ '<')
    (spelled : Spelled text tokens) : Spelled (character :: text) (.mark mark :: tokens) where
  line := by simpa using ⟨Ne.symm plain.2.1, spelled.line⟩
  free := (free_cons_of_ne plain.2.2).mpr spelled.free
  spells := spells_mark character read plain.1 spelled.spells

theorem openParen (spelled : Spelled text tokens) :
    Spelled ('(' :: text) (.mark .openParen :: tokens) :=
  mark _ (fun _ => rfl) (by decide) spelled

theorem closeParen : Spelled [')'] [.mark .closeParen] :=
  mark _ (fun _ => rfl) (by decide) nil

theorem openBrace (spelled : Spelled text tokens) :
    Spelled ('\x7b' :: text) (.mark .openBrace :: tokens) :=
  mark _ (fun _ => rfl) (by decide) spelled

theorem closeBrace : Spelled ['\x7d'] [.mark .closeBrace] :=
  mark _ (fun _ => rfl) (by decide) nil

theorem dot : Spelled ['.'] [.mark .dot] where
  line := by decide
  free := rfl
  spells := by
    rw [unescape_eq_self (by decide)]
    exact .token rfl .nil

theorem comma (spelled : Spelled text tokens) :
    Spelled (',' :: text) (.mark .comma :: tokens) :=
  mark _ (fun _ => rfl) (by decide) spelled

theorem inParens (spelled : Spelled text tokens) :
    Spelled ('(' :: (text ++ [')'])) (.mark .openParen :: (tokens ++ [.mark .closeParen])) :=
  openParen (spelled.append closeParen .close)

/-- An operator with blanks at both sides. -/
theorem operation (operator : List Char) {mark : Mark} (left : Spelled text tokens)
    (right : Spelled after more)
    (read : ∀ rest, readToken? (operator ++ ' ' :: rest) = some (.mark mark, ' ' :: rest))
    (plain : ∀ character ∈ operator, character ≠ '\\' ∧ character ≠ '\n')
    (free : ∀ rest, Free rest → Free (operator ++ ' ' :: rest)) :
    Spelled (text ++ ' ' :: (operator ++ ' ' :: after)) (tokens ++ .mark mark :: more) := by
  refine left.append (space (token operator read ?_ (free _ right.free) right.space)) (.space _)
  intro character member
  rcases List.mem_cons.mp member with rfl | member
  · decide
  · exact plain character member

theorem name {name : List Char} (wellFormed : Rdf.Name.isVariable name = true)
    (readable : isReadable name = true) : Spelled ('?' :: name) (nameTokens name) := by
  have plain : ∀ other, Rdf.Name.isStart other = false → Rdf.Name.isVariableRest other = false →
      other ∉ name := by
    intro other noStart noRest member
    cases name with
    | nil => cases member
    | cons first name =>
        simp only [Rdf.Name.isVariable, Bool.and_eq_true, List.all_eq_true] at wellFormed
        rcases List.mem_cons.mp member with rfl | member
        · simp [noStart] at wellFormed
        · simp [wellFormed.2 other member] at noRest
  refine ⟨?_, ?_, ?_⟩
  · simpa using plain '\n' (by decide) (by decide)
  · exact Template.free_of_not_mem (by simpa using plain '<' (by decide) (by decide))
  · rw [unescape_cons (by decide), unescape_eq_self]
    · exact spells_name wellFormed readable
    · rintro _ member rfl
      exact plain '\\' (by decide) (by decide) member

theorem iri (value : Rdf.Iri) (spelled : Spelled text tokens)
    (outside : ∀ next ∈ text.head?, isInside next = false) :
    Spelled ('<' :: (value.text.toList ++ '>' :: text))
      (.name (.iri value.text) :: tokens) := by
  have enclosable := value.enclosable
  have split : '<' :: (value.text.toList ++ '>' :: text) =
      '<' :: (value.text.toList ++ ['>']) ++ text := by
    simp
  refine ⟨?_, ?_, ?_⟩
  · have noFeed : '\n' ∉ value.text.toList :=
      fun member => absurd (enclosable '\n' member) (by decide)
    simpa using ⟨noFeed, spelled.line⟩
  · rw [split]
    exact (free_append outside).mpr ⟨Template.free_iri value, spelled.free⟩
  · exact spells_iri value spelled.spells

/-- A text whose quoted form holds no placeholder. -/
def Quotable (value : List Char) : Prop :=
  '<' ∉ value ∨ ∀ character ∈ value, character.isUpper = false

theorem feed_not_mem_escaped (value : List Char) :
    '\n' ∉ value.flatMap Rdf.Literal.escapeChar := by
  intro member
  obtain ⟨character, -, member⟩ := List.mem_flatMap.mp member
  rcases escapeChar_cases character with
    ⟨letter, found, -, escaped, -⟩ | ⟨-, -, -, noFeed, -, escaped | ⟨low, escaped⟩⟩
  · rw [escaped] at member
    obtain rfl : '\n' = letter := by simpa using member
    cases found
  · rw [escaped] at member
    obtain rfl : '\n' = character := by simpa using member
    exact noFeed rfl
  · rw [escaped] at member
    have noDigit : ∀ digit < 16, Text.hexDigit digit ≠ '\n' := by decide
    have first := noDigit (character.toNat / 16) (by omega)
    have second := noDigit (character.toNat % 16) (by omega)
    simp [Ne.symm first, Ne.symm second] at member

theorem quoted {value : List Char} (quotable : Quotable value) (spelled : Spelled text tokens)
    (outside : ∀ next ∈ text.head?, next ≠ '"' ∧ next ≠ '\\') :
    Spelled ('"' :: (value.flatMap Rdf.Literal.escapeChar ++ '"' :: text))
      (.string (String.ofList value) :: tokens) where
  line := by
    have noFeed := feed_not_mem_escaped value
    have line := spelled.line
    simp only [List.mem_cons, List.mem_append, not_or]
    exact ⟨by decide, noFeed, by decide, line⟩
  free := by
    have free : Free ('"' :: text) := (free_cons_of_ne (by decide)).mpr spelled.free
    refine (free_cons_of_ne (by decide)).mpr ?_
    rcases quotable with bare | small
    · exact Template.free_escaped_of_not_mem bare free (by simp; decide)
    · exact (Template.free_escaped_of_not_isUpper small free (by simp)).1
  spells := spells_quoted value spelled.spells outside

/-- The digits of a number. -/
theorem digits (number : Nat) :
    Spelled (Decimal.digits number) [.number .none (Decimal.natural number)] where
  line member := absurd (Decimal.isDigit_of_mem_digits member) (by decide)
  free := Template.free_of_not_mem fun member =>
    absurd (Decimal.isDigit_of_mem_digits member) (by decide)
  spells := by
    have digit : ∀ character ∈ Decimal.digits number, character.isDigit = true :=
      fun _ => Decimal.isDigit_of_mem_digits
    rw [unescape_eq_self fun character member same => by
      subst same
      exact absurd (digit _ member) (by decide)]
    cases row : Decimal.digits number with
    | nil => exact absurd row (Decimal.digits_ne_nil number)
    | cons first rest =>
        have read : readToken? (first :: rest) =
          some (.number .none (Decimal.natural number), []) := by
          rw [readToken?_digit (digit first (by simp [row])), readNumber?,
            numberOf_digits (by simpa [row] using digit) (by simp)]
          simp [Decimal.natural, row]
        exact .token read .nil

end Spelled

end FacetedQuery.Sparql.Token
