import FacetedQuery.Proofs.Sparql.Lexeme

/-!
# Borders

A border is what ends every token before it.  Read in front of a border, a text has the tokens
that it has on its own, provided that it does not end in a backslash that escapes the border.
-/

namespace FacetedQuery.Sparql.Token

/-- A text that does not continue a run of characters. -/
def Stops (inRun : Char → Bool) (text : List Char) : Prop :=
  ∀ character ∈ text.head?, inRun character = false

theorem takeWhile_append_of_stops {inRun : Char → Bool} {after : List Char}
    (stops : Stops inRun after) (text : List Char) :
    (text ++ after).takeWhile inRun = text.takeWhile inRun := by
  induction text with
  | nil =>
      cases after with
      | nil => rfl
      | cons character rest =>
          have stopped := stops character rfl
          simp [stopped]
  | cons character text induction =>
      by_cases inside : inRun character = true
      · simp [inside, induction]
      · simp [inside]

theorem dropWhile_append_of_stops {inRun : Char → Bool} {after : List Char}
    (stops : Stops inRun after) (text : List Char) :
    (text ++ after).dropWhile inRun = text.dropWhile inRun ++ after := by
  induction text with
  | nil =>
      cases after with
      | nil => rfl
      | cons character rest =>
          have stopped := stops character rfl
          simp [stopped]
  | cons character text induction =>
      by_cases inside : inRun character = true
      · simp [inside, induction]
      · simp [inside]

theorem Stops.takeWhile_eq_nil {inRun : Char → Bool} {text : List Char}
    (stops : Stops inRun text) : text.takeWhile inRun = [] := by
  simpa using takeWhile_append_of_stops stops []

theorem Stops.dropWhile_eq_self {inRun : Char → Bool} {text : List Char}
    (stops : Stops inRun text) : text.dropWhile inRun = text := by
  simpa using dropWhile_append_of_stops stops []

/-- What is outside of a run is not dropped with it. -/
theorem mem_dropWhile {inRun : Char → Bool} {character : Char} {text : List Char}
    (outside : inRun character = false) (member : character ∈ text) :
    character ∈ text.dropWhile inRun := by
  induction text with
  | nil => cases member
  | cons first text induction =>
      by_cases inside : inRun first = true
      · have different : character ≠ first := by
          rintro rfl
          rw [outside] at inside
          cases inside
        simpa [inside] using induction (by simpa [different] using member)
      · simpa [inside] using member

theorem takeWhile_append_eq_left {inRun : Char → Bool} {text after : List Char}
    (inside : ∀ character ∈ text, inRun character = true) (stops : Stops inRun after) :
    (text ++ after).takeWhile inRun = text := by
  rw [List.takeWhile_append_of_pos inside, stops.takeWhile_eq_nil, List.append_nil]

theorem dropWhile_append_eq_right {inRun : Char → Bool} {text after : List Char}
    (inside : ∀ character ∈ text, inRun character = true) (stops : Stops inRun after) :
    (text ++ after).dropWhile inRun = after := by
  rw [List.dropWhile_append_of_pos inside, stops.dropWhile_eq_self]

/-- The characters that end every token before them. -/
def isBorder (character : Char) : Bool :=
  Json.isSpace character || character == '(' || character == ')' || character == ',' ||
    character == '#'

/-- What ends every token before it, also an opening angle bracket that could start an IRI. -/
structure Border (text : List Char) : Prop where
  head : ∀ character ∈ text.head?, isBorder character = true
  noIri : readIri? text = none

theorem isBorder_iff {character : Char} :
    isBorder character = true ↔
      character ∈ [' ', '\n', '\t', '\r', '(', ')', ',', '#'] := by
  simp [isBorder, Json.isSpace, or_assoc]

theorem Border.nil : Border [] :=
  ⟨by simp, rfl⟩

/-- White space is a border. -/
theorem Border.ofSpace {character : Char} {rest : List Char}
    (space : Json.isSpace character = true) : Border (character :: rest) := by
  refine ⟨by simp [isBorder, space], ?_⟩
  have excluded : isIriExcluded character = true := by
    simp [Json.isSpace] at space
    rcases space with ((rfl | rfl) | rfl) | rfl <;> decide
  have different : character ≠ '>' := by
    rintro rfl
    simp [Json.isSpace] at space
  unfold readIri?
  simp only [List.dropWhile_cons, excluded, Bool.not_true, Bool.false_eq_true, if_false]
  split
  · next same => exact absurd (List.cons.inj same).1 different
  · rfl

theorem Border.stops {inRun : Char → Bool} {after : List Char} (border : Border after)
    (outside : ([' ', '\n', '\t', '\r', '(', ')', ',', '#'].all (!inRun ·)) = true) :
    Stops inRun after := by
  intro character first
  have member := isBorder_iff.mp (border.head character first)
  have notInside := List.all_eq_true.mp outside character member
  simpa using notInside

/-- What a reader returns if more text follows. -/
def followedBy (after : List Char) (result : α × List Char) : α × List Char :=
  (result.1, result.2 ++ after)

section

variable {after : List Char}

theorem takeWhile_append_of_dropWhile_eq_cons {inRun : Char → Bool} {text : List Char}
    {character : Char} {rest : List Char} (dropped : text.dropWhile inRun = character :: rest) :
    (text ++ after).takeWhile inRun = text.takeWhile inRun := by
  have split := congrArg List.length (List.takeWhile_append_dropWhile (p := inRun) (l := text))
  rw [dropped, List.length_append, List.length_cons] at split
  rw [List.takeWhile_append, if_neg (by omega)]

theorem readIri?_append (border : Border after) (text : List Char) :
    readIri? (text ++ after) = (readIri? text).map (followedBy after) := by
  unfold readIri?
  cases dropped : text.dropWhile (!isIriExcluded ·) with
  | nil =>
      have noIri := border.noIri
      unfold readIri? at noIri
      rw [List.dropWhile_append, dropped]
      simp only [List.isEmpty_nil, if_true]
      cases stop : after.dropWhile (!isIriExcluded ·) with
      | nil => rfl
      | cons character rest =>
          rw [stop] at noIri
          by_cases closing : character = '>'
          · subst closing
            cases noIri
          · split
            · next same => exact absurd (List.cons.inj same).1 closing
            · rfl
  | cons character rest =>
      rw [List.dropWhile_append, dropped, takeWhile_append_of_dropWhile_eq_cons dropped]
      simp only [List.isEmpty_cons, Bool.false_eq_true, if_false, List.cons_append]
      by_cases closing : character = '>'
      · subst closing
        rfl
      · split
        · next same => exact absurd (List.cons.inj same).1 closing
        · split
          · next same => exact absurd (List.cons.inj same).1 closing
          · rfl

theorem readShort?_cons {quote character : Char} {rest : List Char}
    (plain : character ≠ '\\') :
    readShort? quote (character :: rest) =
      if character == quote then some ([], rest)
      else if character == '\n' || character == '\r' || character == '\\' then none
      else (readShort? quote rest).map fun result => (character :: result.1, result.2) := by
  rw [readShort?]
  intro letter rest' same
  exact absurd same plain

theorem readLong?_cons {quote character : Char} {rest : List Char}
    (plain : character ≠ '\\') :
    readLong? quote (character :: rest) =
      if [quote, quote, quote].isPrefixOf (character :: rest) then some ([], rest.drop 2)
      else if character == '\\' then none
      else (readLong? quote rest).map fun result => (character :: result.1, result.2) := by
  rw [readLong?]
  intro letter rest' same
  exact absurd same plain

theorem readShort?_append {quote : Char} (plain : quote ≠ '\\') {text value rest : List Char}
    (read : readShort? quote text = some (value, rest)) :
    readShort? quote (text ++ after) = some (value, rest ++ after) := by
  fun_induction readShort? quote text generalizing value with
  | case1 => cases read
  | case2 letter body character escape induction =>
      obtain ⟨⟨inner, rest'⟩, readBody, equality⟩ := Option.map_eq_some_iff.mp read
      cases equality
      simp [readShort?, escape, induction readBody]
  | case3 => cases read
  | case4 character body single same =>
      obtain rfl := eq_of_beq same
      cases read
      simp [readShort?_cons plain]
  | case5 => cases read
  | case6 character body single different ordinary induction =>
      obtain ⟨⟨inner, rest'⟩, readBody, equality⟩ := Option.map_eq_some_iff.mp read
      cases equality
      have notBackslash : character ≠ '\\' := by
        rintro rfl
        simp at ordinary
      rw [List.cons_append, readShort?_cons notBackslash, if_neg different, if_neg ordinary,
        induction readBody]
      rfl

theorem readLong?_length_le {quote : Char} {text value rest : List Char}
    (read : readLong? quote text = some (value, rest)) : 3 ≤ text.length := by
  obtain ⟨taken, rfl⟩ := readLong?_ends read
  simp only [List.length_append, List.length_cons]
  omega

theorem isPrefixOf_append_of_length_le {start text : List Char} (after : List Char)
    (long : start.length ≤ text.length) :
    start.isPrefixOf (text ++ after) = start.isPrefixOf text := by
  rw [Bool.eq_iff_iff, List.isPrefixOf_iff_prefix, List.isPrefixOf_iff_prefix]
  constructor
  · intro found
    exact List.prefix_of_prefix_length_le found (List.prefix_append text after) long
  · intro found
    exact found.trans (List.prefix_append text after)

theorem readLong?_append {quote : Char} (plain : quote ≠ '\\') {text value rest : List Char}
    (read : readLong? quote text = some (value, rest)) :
    readLong? quote (text ++ after) = some (value, rest ++ after) := by
  have long := readLong?_length_le read
  fun_induction readLong? quote text generalizing value with
  | case1 => cases read
  | case2 letter body character escape induction =>
      obtain ⟨⟨inner, rest'⟩, readBody, equality⟩ := Option.map_eq_some_iff.mp read
      cases equality
      simp [readLong?, escape, induction readBody (readLong?_length_le readBody)]
  | case3 => cases read
  | case4 character body single quotes =>
      cases read
      obtain ⟨last, whole⟩ := List.isPrefixOf_iff_prefix.mp quotes
      cases whole
      rw [List.cons_append, readLong?_cons plain]
      simp
  | case5 => cases read
  | case6 character body single different ordinary induction =>
      obtain ⟨⟨inner, rest'⟩, readBody, equality⟩ := Option.map_eq_some_iff.mp read
      cases equality
      have notBackslash : character ≠ '\\' := by
        rintro rfl
        simp at ordinary
      rw [← isPrefixOf_append_of_length_le after (by simpa using long),
        List.cons_append] at different
      rw [List.cons_append, readLong?_cons notBackslash, if_neg different, if_neg ordinary,
        induction readBody (readLong?_length_le readBody)]
      rfl

theorem readString?_append (border : Border after) {quote : Char}
    (isQuote : quote = '"' ∨ quote = '\'') {text rest : List Char} {token : Token}
    (read : readString? quote text = some (token, rest)) :
    readString? quote (text ++ after) = some (token, rest ++ after) := by
  have plain : quote ≠ '\\' := by
    rcases isQuote with rfl | rfl <;> decide
  have notBorder : isBorder quote = false := by
    rcases isQuote with rfl | rfl <;> decide
  obtain ⟨⟨value, rest'⟩, readBody, equality⟩ := Option.map_eq_some_iff.mp read
  cases equality
  unfold readString?
  split at readBody
  · next quotes =>
      obtain ⟨body, rfl⟩ := List.isPrefixOf_iff_prefix.mp quotes
      have longer : [quote, quote].isPrefixOf ([quote, quote] ++ body ++ after) = true := by simp
      have whole : ([quote, quote] ++ body ++ after).drop 2 = body ++ after := rfl
      have bodyRead : readLong? quote body = some (value, rest') := readBody
      rw [if_pos longer, whole, readLong?_append plain bodyRead]
      rfl
  · next quotes =>
      have longer : [quote, quote].isPrefixOf (text ++ after) = false := by
        -- An empty string may end the text; what follows then has to be no quote.
        match text, quotes, readBody with
        | [], _, readBody => cases readBody
        | [first], _, _ =>
            cases after with
            | nil => simp [List.isPrefixOf]
            | cons character after =>
                have isBorder := border.head character rfl
                have different : quote ≠ character := by
                  rintro rfl
                  rw [notBorder] at isBorder
                  cases isBorder
                simp [List.isPrefixOf, different]
        | first :: second :: text, quotes, _ =>
            simpa [List.isPrefixOf] using quotes
      rw [if_neg (by simp [longer]), readShort?_append plain readBody]
      rfl

theorem readLanguage?_append (border : Border after) {text rest : List Char} {token : Token}
    (read : readLanguage? text = some (token, rest)) :
    readLanguage? (text ++ after) = some (token, rest ++ after) := by
  have stops : Stops (fun character => character.isAlphanum || character == '-') after :=
    border.stops (by decide)
  cases text with
  | nil => cases read
  | cons first text =>
      unfold readLanguage? at read ⊢
      simp only [List.cons_append] at read ⊢
      split at read
      · next letter =>
          cases read
          rw [if_pos letter, ← List.cons_append, takeWhile_append_of_stops stops,
            dropWhile_append_of_stops stops]
      · cases read

theorem readVar?_append (border : Border after) (text : List Char) :
    readVar? (text ++ after) = (readVar? text).map (followedBy after) := by
  have stops : Stops isVarChar after := border.stops (by decide)
  cases text with
  | nil =>
      cases after with
      | nil => rfl
      | cons character after =>
          have notStart : isVarStart character = false :=
            (border.stops (by decide) : Stops isVarStart _) character rfl
          simp [readVar?, notStart]
  | cons first text =>
      unfold readVar?
      simp only [List.cons_append]
      split
      · rw [← List.cons_append, takeWhile_append_of_stops stops, dropWhile_append_of_stops stops]
        rfl
      · rfl

theorem exponentOf_append (border : Border after) (text : List Char) :
    exponentOf (text ++ after) = exponentOf text := by
  have noDigit : Stops Char.isDigit after := border.stops (by decide)
  have noSign : Stops (fun c => c == '+' || c == '-') after := border.stops (by decide)
  have noMark : Stops (fun c => c == 'e' || c == 'E') after := border.stops (by decide)
  -- A letter and a sign are looked at before the digits, so these two may be the last of the text.
  match text with
  | [] =>
      cases after with
      | nil => rfl
      | cons character after =>
          have notMark := noMark character rfl
          simp [exponentOf, notMark]
  | [letter] =>
      have noTaken : (after.take 1).filter (fun c => c == '+' || c == '-') = [] := by
        cases after with
        | nil => rfl
        | cons character after =>
            have notSign := noSign character rfl
            simp [notSign]
      simp [exponentOf, noTaken, noDigit.takeWhile_eq_nil]
  | letter :: first :: text =>
      unfold exponentOf
      simp only [List.cons_append]
      split
      · have dropped : ∀ signs : List Char, signs.length ≤ 1 →
            ((first :: (text ++ after)).drop signs.length).takeWhile Char.isDigit =
              ((first :: text).drop signs.length).takeWhile Char.isDigit := by
          intro signs short
          have inside : signs.length ≤ (first :: text).length := by
            simp only [List.length_cons]
            omega
          rw [← List.cons_append, List.drop_append_of_le_length inside,
            takeWhile_append_of_stops noDigit]
        have short : ([first].filter (fun c => c == '+' || c == '-')).length ≤ 1 :=
          List.length_filter_le _ [first]
        simp only [List.take_succ_cons, List.take_zero]
        rw [dropped _ short]
      · rfl

theorem numberOf_append (border : Border after) (text : List Char) :
    numberOf (text ++ after) = numberOf text := by
  have noDigit : Stops Char.isDigit after := border.stops (by decide)
  have noPoint : Stops (· == '.') after := border.stops (by decide)
  unfold numberOf
  simp only [takeWhile_append_of_stops noDigit, dropWhile_append_of_stops noDigit]
  cases text.dropWhile Char.isDigit with
  | nil =>
      have exponent := exponentOf_append border []
      rw [List.nil_append] at exponent ⊢
      cases after with
      | nil => rfl
      | cons character after =>
          have notPoint : character ≠ '.' := by
            simpa using noPoint character rfl
          split
          · next same => exact absurd (List.cons.inj same).1 notPoint
          · rw [exponent]
  | cons character rest =>
      by_cases point : character = '.'
      · subst point
        simp only [List.cons_append, takeWhile_append_of_stops noDigit,
          dropWhile_append_of_stops noDigit, exponentOf_append border]
      · have exponent : exponentOf (character :: (rest ++ after)) =
          exponentOf (character :: rest) :=
          exponentOf_append border (character :: rest)
        simp [point, exponent]

theorem readNumber?_append (border : Border after) (sign : NumberSign) (text : List Char) :
    readNumber? sign (text ++ after) = (readNumber? sign text).map (followedBy after) := by
  unfold readNumber?
  rw [numberOf_append border]
  cases row : numberOf text with
  | nil => rfl
  | cons digit digits =>
      have inside : (digit :: digits).length ≤ text.length := by
        rw [← row]
        exact (numberOf_isPrefix text).length_le
      simp only
      rw [List.drop_append_of_le_length inside]
      rfl

/-- No escape reaches from the end of what is read of a text into what follows it.  A backslash at
the end escapes nothing behind a comment among what is left. -/
def Sealed (text left after : List Char) : Prop :=
  text.getLast? = some '\\' →
    '#' ∈ left ∨ ∀ character ∈ after.head?, isLocalEscape character = false

section

variable {text left : List Char}

theorem Sealed.ofClosed (closed : text.getLast? ≠ some '\\') : Sealed text left after :=
  fun last => absurd last closed

theorem Sealed.mono {more : List Char} (isSealed : Sealed text left after)
    (inside : '#' ∈ left → '#' ∈ more) : Sealed text more after :=
  fun last => (isSealed last).imp_left inside

theorem Sealed.tail {first : Char} (isSealed : Sealed (first :: text) left after) :
    Sealed text left after := by
  cases text with
  | nil => exact .ofClosed (by simp)
  | cons second text => simpa [Sealed, List.getLast?_cons_cons] using isSealed

theorem Sealed.dropWhile {inRun : Char → Bool} (isSealed : Sealed text left after) :
    Sealed (text.dropWhile inRun) left after := by
  induction text with
  | nil => exact isSealed
  | cons first text induction =>
      by_cases inside : inRun first = true
      · simpa [inside] using induction isSealed.tail
      · simpa [inside] using isSealed

/-- A single backslash that nothing is taken of escapes nothing. -/
theorem Sealed.single (isSealed : Sealed text left after) (backslash : text = ['\\'])
    (inside : '#' ∈ left → '#' ∈ text) :
    ∀ character ∈ after.head?, isLocalEscape character = false := by
  subst backslash
  rcases isSealed rfl with comment | plain
  · simp at inside
    exact absurd comment inside
  · exact plain

end

theorem continuesLocal_cons {character : Char} {rest : List Char} (noPercent : character ≠ '%')
    (plain : character ≠ '\\') :
    continuesLocal (character :: rest) = (character == ':' || isNameChar character) := by
  rw [continuesLocal]
  · intro first second after same
    exact absurd same noPercent
  · intro next after same
    exact absurd same plain

/-- A text is looked through character by character, where the instance for statements about all
characters would go through the whole of Unicode. -/
instance decidableForallMem (property : Char → Prop) [DecidablePred property] (text : List Char) :
    Decidable (∀ character ∈ text, property character) :=
  List.decidableBAll property text

theorem hexValue?_border {character : Char} (isBorder : isBorder character = true) :
    Json.hexValue? character = none := by
  have member := isBorder_iff.mp isBorder
  have all : ∀ other ∈ [' ', '\n', '\t', '\r', '(', ')', ',', '#'], Json.hexValue? other =
    none := by
    decide
  exact all character member

theorem continuesLocal_append (border : Border after) {text : List Char}
    (single : text = ['\\'] → ∀ character ∈ after.head?, isLocalEscape character = false) :
    continuesLocal (text ++ after) = continuesLocal text := by
  -- No more than three characters are looked at, so the border only shows behind shorter texts.
  match text with
  | [] =>
      cases after with
      | nil => rfl
      | cons character after =>
          have outside : (character == ':' || isNameChar character) = false :=
            (border.stops (by decide) : Stops (fun c => c == ':' || isNameChar c) _) character rfl
          have different : ∀ other, isBorder other = false → character ≠ other := by
            rintro other notBorder rfl
            rw [border.head character rfl] at notBorder
            cases notBorder
          rw [List.nil_append, continuesLocal_cons (different '%' (by decide))
            (different '\\' (by decide)), outside]
          rfl
  | [first] =>
      by_cases backslash : first = '\\'
      · subst backslash
        cases after with
        | nil => rfl
        | cons character after => exact single rfl character rfl
      by_cases percent : first = '%'
      · subst percent
        match after, border with
        | [], _ => rfl
        | [character], _ => rfl
        | character :: next :: after, border =>
            have noHex := hexValue?_border (border.head character rfl)
            simp only [List.cons_append, List.nil_append, continuesLocal, noHex,
              Option.isSome_none, Bool.false_and]
            decide
      · rw [List.cons_append, continuesLocal_cons percent backslash,
          continuesLocal_cons percent backslash]
  | [first, second] =>
      by_cases percent : first = '%'
      · subst percent
        cases after with
        | nil => rfl
        | cons character after =>
            have noHex := hexValue?_border (border.head character rfl)
            simp only [List.cons_append, List.nil_append, continuesLocal, noHex,
              Option.isSome_none, Bool.and_false]
            rfl
      · by_cases backslash : first = '\\'
        · subst backslash
          rfl
        · rw [List.cons_append, continuesLocal_cons percent backslash,
            continuesLocal_cons percent backslash]
  | first :: second :: third :: text =>
      by_cases percent : first = '%'
      · subst percent
        rfl
      · by_cases backslash : first = '\\'
        · subst backslash
          rfl
        · rw [List.cons_append, continuesLocal_cons percent backslash,
            continuesLocal_cons percent backslash]

/-- Whether a local name goes on at a character that is no backslash. -/
def continuesAt (character : Char) (rest : List Char) : Bool :=
  (character == '.' && continuesLocal (rest.dropWhile (· == '.'))) ||
    (character != '.' && continuesLocal (character :: rest))

theorem readLocal_cons {character : Char} {rest : List Char} (plain : character ≠ '\\') :
    readLocal (character :: rest) =
      if continuesAt character rest then (character :: (readLocal rest).1, (readLocal rest).2)
      else ([], character :: rest) := by
  rw [readLocal]
  · rfl
  · intro next after same
    exact absurd same plain

theorem continuesAt_append (border : Border after) {character : Char} {rest : List Char}
    (isSealed : Sealed (character :: rest) (character :: rest) after) :
    continuesAt character (rest ++ after) = continuesAt character rest := by
  have noPoint : Stops (· == '.') after := border.stops (by decide)
  have here : continuesLocal (character :: (rest ++ after)) = continuesLocal (character :: rest) :=
    continuesLocal_append border fun single => isSealed.single single id
  unfold continuesAt
  rw [dropWhile_append_of_stops noPoint, here]
  by_cases point : character = '.'
  · subst point
    have behind : continuesLocal (rest.dropWhile (· == '.') ++ after) =
        continuesLocal (rest.dropWhile (· == '.')) :=
      continuesLocal_append border fun single =>
        isSealed.tail.dropWhile.single single fun comment =>
          mem_dropWhile (by decide) (by simpa using comment)
    rw [behind]
  · have noPoint : (character == '.') = false := by simpa using point
    rw [noPoint, Bool.false_and, Bool.false_and]

theorem readLocal_border (border : Border after) : readLocal after = ([], after) := by
  cases after with
  | nil => rfl
  | cons character after =>
      have different : ∀ other, isBorder other = false → character ≠ other := by
        rintro other notBorder rfl
        rw [border.head character rfl] at notBorder
        cases notBorder
      have outside : (character == ':' || isNameChar character) = false :=
        (border.stops (by decide) : Stops (fun c => c == ':' || isNameChar c) _) character rfl
      have stops : continuesAt character after = false := by
        have noPoint : (character == '.') = false := by
          simpa using different '.' (by decide)
        rw [continuesAt, noPoint, continuesLocal_cons (different '%' (by decide))
          (different '\\' (by decide)), outside]
        simp
      rw [readLocal_cons (different '\\' (by decide)), stops]
      rfl

theorem readLocal_append (border : Border after) {text : List Char}
    (isSealed : Sealed text (readLocal text).2 after) :
    readLocal (text ++ after) = followedBy after (readLocal text) := by
  fun_induction readLocal text with
  | case1 => exact readLocal_border border
  | case2 character rest escape result induction =>
      simp only [List.cons_append, readLocal, escape, if_true, induction isSealed.tail.tail]
      rfl
  | case3 character rest escape =>
      simp only [List.cons_append, readLocal, escape]
      rfl
  | case4 character rest single continues result induction =>
      have plain : character ≠ '\\' := by
        rintro rfl
        cases rest with
        | nil => cases continues
        | cons next rest => exact single next rest rfl rfl
      have here : continuesAt character rest = true := continues
      obtain ⟨taken, split, -⟩ := readLocal_leaves rest
      have inside : '#' ∈ (readLocal rest).2 → '#' ∈ character :: rest := fun comment =>
        List.mem_cons_of_mem _ (split ▸ List.mem_append_right taken comment)
      rw [List.cons_append, readLocal_cons plain, continuesAt_append border (isSealed.mono inside),
        here, if_pos rfl, induction isSealed.tail]
      rfl
  | case5 character rest single stops =>
      have here : ¬ continuesAt character rest = true := stops
      by_cases backslash : character = '\\'
      · subst backslash
        cases rest with
        | nil =>
            cases after with
            | nil => rfl
            | cons next after =>
                have noEscape := isSealed.single rfl id next rfl
                simp only [List.cons_append, List.nil_append, readLocal, noEscape]
                rfl
        | cons next rest => exact absurd rfl (single next rest rfl)
      · rw [List.cons_append, readLocal_cons backslash, continuesAt_append border isSealed,
          if_neg here]
        rfl

theorem readPrefixed_append (border : Border after) (space : List Char) {text : List Char}
    (isSealed : Sealed text (readPrefixed space text).2 after) :
    readPrefixed space (text ++ after) = followedBy after (readPrefixed space text) := by
  have starts : (if startsLocal (text ++ after) then readLocal (text ++ after)
      else ([], text ++ after)) =
        followedBy after (if startsLocal text then readLocal text else ([], text)) := by
    cases text with
    | nil =>
        have local? := readLocal_border border
        simp only [List.nil_append, local?, ite_self]
        rfl
    | cons first text =>
        have same : startsLocal (first :: text ++ after) = startsLocal (first :: text) := rfl
        rw [same]
        cases starts : startsLocal (first :: text) with
        | false => rfl
        | true =>
            have isLocal : (readPrefixed space (first :: text)).2 =
              (readLocal (first :: text)).2 := by
              rw [readPrefixed, starts]
              rfl
            rw [if_pos rfl, if_pos rfl, readLocal_append border (isLocal ▸ isSealed)]
  unfold readPrefixed
  simp only [starts]
  rfl

theorem readWord?_append (border : Border after) (text : List Char) :
    readName?.readWord? (text ++ after) =
      (readName?.readWord? text).map (followedBy after) := by
  have stops : Stops isWordChar after := border.stops (by decide)
  unfold readName?.readWord?
  rw [takeWhile_append_of_stops stops]
  cases run : text.takeWhile isWordChar with
  | nil => rfl
  | cons first run' =>
      have inside : (first :: run').length ≤ text.length := by
        rw [← run]
        exact (List.takeWhile_prefix isWordChar).length_le
      simp only
      rw [List.drop_append_of_le_length inside]
      rfl

theorem readName?_append (border : Border after) {text : List Char}
    (isSealed : ∀ token left, readName? text = some (token, left) → Sealed text left after) :
    readName? (text ++ after) = (readName? text).map (followedBy after) := by
  have stops : Stops isRunChar after := border.stops (by decide)
  have noColon : Stops (· == ':') after := border.stops (by decide)
  rw [readName?_eq] at isSealed
  rw [readName?_eq, readName?_eq, takeWhile_append_of_stops stops,
    dropWhile_append_of_stops stops]
  cases dropped : text.dropWhile isRunChar with
  | nil =>
      simp only [List.nil_append]
      split
      · next rest =>
          have colon := noColon ':' rfl
          simp at colon
      · exact readWord?_append border text
  | cons character rest =>
      by_cases colon : character = ':'
      · subst colon
        simp only [List.cons_append]
        split
        · next isName =>
          have whole : Sealed text (readPrefixed (text.takeWhile isRunChar) rest).2 after := by
            refine isSealed (readPrefixed (text.takeWhile isRunChar) rest).1 _ ?_
            rw [dropped]
            simp only [isName, if_true]
          have behind : Sealed (text.dropWhile isRunChar)
              (readPrefixed (text.takeWhile isRunChar) rest).2 after := whole.dropWhile
          rw [dropped] at behind
          rw [readPrefixed_append border _ behind.tail]
          rfl
        · exact readWord?_append border text
      · simp [colon, readWord?_append border text]

theorem readBlank?_cons (first : Char) (body : List Char) :
    readBlank? (first :: body) =
      if isVarStart first then
        some (.blank (String.ofList (splitPoints ((first :: body).takeWhile isRunChar)
            ((first :: body).dropWhile isRunChar)).1),
          (splitPoints ((first :: body).takeWhile isRunChar)
            ((first :: body).dropWhile isRunChar)).2)
      else none := by
  rfl

theorem splitPoints_append_right (run rest : List Char) :
    splitPoints run (rest ++ after) = followedBy after (splitPoints run rest) := by
  simp [splitPoints, followedBy]

theorem readBlank?_append (border : Border after) (text : List Char) :
    readBlank? (text ++ after) = (readBlank? text).map (followedBy after) := by
  have stops : Stops isRunChar after := border.stops (by decide)
  cases text with
  | nil =>
      cases after with
      | nil => rfl
      | cons character after =>
          have notStart : isVarStart character = false :=
            (border.stops (by decide) : Stops isVarStart _) character rfl
          simp [readBlank?, notStart]
  | cons first text =>
      rw [List.cons_append, readBlank?_cons, readBlank?_cons, ← List.cons_append,
        takeWhile_append_of_stops stops, dropWhile_append_of_stops stops,
        splitPoints_append_right]
      split <;> rfl

/-- A border is no second character of a token. -/
theorem Border.noSecond (border : Border after) {second : Char}
    (notBorder : isBorder second = false) {rest : List Char}
    (alone : ∀ more, rest = second :: more → False) :
    ∀ more, rest ++ after = second :: more → False := by
  intro more equality
  cases rest with
  | nil =>
      rw [List.nil_append] at equality
      subst equality
      rw [border.head second rfl] at notBorder
      cases notBorder
  | cons first rest =>
      obtain ⟨rfl, -⟩ := List.cons.inj equality
      exact alone rest rfl

/-- A mark of two characters is read only if both are there. -/
theorem readMark?_append (border : Border after) {text rest : List Char} {mark : Mark}
    (read : readMark? text = some (mark, rest)) :
    readMark? (text ++ after) = some (mark, rest ++ after) := by
  unfold readMark? at read
  split at read
  all_goals cases read
  all_goals simp only [List.cons_append]
  all_goals first
    | rfl
    | skip
  all_goals
    rw [readMark?]
    exact border.noSecond (by decide) ‹_›

theorem readMarkToken?_append (border : Border after) {text rest : List Char} {token : Token}
    (read : readMarkToken? text = some (token, rest)) :
    readMarkToken? (text ++ after) = some (token, rest ++ after) := by
  obtain ⟨⟨mark, rest'⟩, readMark, equality⟩ := Option.map_eq_some_iff.mp read
  cases equality
  unfold readMarkToken?
  rw [readMark?_append border readMark]
  rfl

theorem orMark_append (border : Border after) {text rest : List Char} {token : Token}
    {reader longer : Option (Token × List Char)}
    (same : longer = reader.map (followedBy after))
    (read : reader.or (readMarkToken? text) = some (token, rest)) :
    longer.or (readMarkToken? (text ++ after)) = some (token, rest ++ after) := by
  subst same
  rcases Option.or_eq_some_iff.mp read with found | ⟨missing, mark⟩
  · rw [found]
    rfl
  · rw [missing, readMarkToken?_append border mark]
    rfl

/-- In front of a border a token is read as it is at the end of a text. -/
theorem readToken?_append (border : Border after) {text rest : List Char} {token : Token}
    (isSealed : Sealed text rest after) (read : readToken? text = some (token, rest)) :
    readToken? (text ++ after) = some (token, rest ++ after) := by
  unfold readToken? at read
  split at read
  · cases read
  · exact orMark_append border (readIri?_append border _) read
  · exact readString?_append border (.inl rfl) read
  · exact readString?_append border (.inr rfl) read
  · exact readLanguage?_append border read
  · exact orMark_append border (readVar?_append border _) read
  · simp only [List.cons_append, readToken?]
    rw [readVar?_append border, read]
    rfl
  · simp only [List.cons_append, readToken?]
    rw [readBlank?_append border, read]
    rfl
  · simp only [List.cons_append, readToken?]
    cases read
    rw [readPrefixed_append border [] isSealed.tail]
    rfl
  · exact orMark_append border (readNumber?_append border .plus _) read
  · exact orMark_append border (readNumber?_append border .minus _) read
  · exact orMark_append border (readNumber?_append border .none _) read
  · next character tail notIri notQuote notApostrophe notTag notVar notDollar notBlank notColon
      notPlus notMinus notPoint =>
      have notBlank' : ∀ more, character = '_' → tail ++ after = ':' :: more → False := by
        rintro more rfl
        exact border.noSecond (by decide) (fun rest => notBlank rest rfl) more
      rw [List.cons_append, readToken?.eq_13 _ _ notIri notQuote notApostrophe notTag notVar
        notDollar notBlank' notColon notPlus notMinus notPoint, ← List.cons_append]
      split at read
      · next digit =>
          rw [if_pos digit, readNumber?_append border, read]
          rfl
      · next noDigit =>
          rw [if_neg noDigit]
          split at read
          · next letter =>
              rw [if_pos letter, readName?_append border fun _ _ found => by
                cases read.symm.trans found
                exact isSealed, read]
              rfl
          · next noLetter =>
              rw [if_neg noLetter]
              exact readMarkToken?_append border read

end

end FacetedQuery.Sparql.Token
