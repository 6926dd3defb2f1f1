import FacetedQuery.Proofs.Sparql.Lexing

/-!
# Texts in front of what closes nothing

A text in front of white space without quotes behind it has tokens only if it has them on its own,
or if it ends in a comment that goes on.  So the tokens of a whole text can be split where one part
of it ends.
-/

namespace FacetedQuery.Sparql.Token

section

variable {quote : Char} {text after : List Char}

theorem readShort?_of_not_mem (noQuote : quote ∉ text) : readShort? quote text = none := by
  cases read : readShort? quote text with
  | none => rfl
  | some result =>
      obtain ⟨taken, rfl⟩ := readShort?_ends read
      exact absurd (by simp) noQuote

theorem readLong?_of_not_mem (noQuote : quote ∉ text) : readLong? quote text = none := by
  cases read : readLong? quote text with
  | none => rfl
  | some result =>
      obtain ⟨taken, rfl⟩ := readLong?_ends read
      exact absurd (by simp) noQuote

/-- A string on one line is not closed by a text without quotes. -/
theorem readShort?_append_eq_none (noQuote : quote ∉ after)
    (read : readShort? quote text = none) : readShort? quote (text ++ after) = none := by
  fun_induction readShort? quote text with
  | case1 => exact readShort?_of_not_mem noQuote
  | case2 letter rest character escape induction =>
      simp only [List.cons_append, readShort?, escape, induction (by simpa using read)]
      rfl
  | case3 letter rest escape =>
      simp only [List.cons_append, readShort?, escape]
  | case4 => cases read
  | case5 character rest single other stops =>
      by_cases backslash : character = '\\'
      · subst backslash
        cases rest with
        | nil =>
            cases after with
            | nil =>
                rw [List.append_nil, readShort?, if_neg other, if_pos stops]
                simp
            | cons letter after =>
                have noMore : quote ∉ after := fun member => noQuote (List.mem_cons_of_mem _ member)
                simp only [List.cons_append, List.nil_append, readShort?,
                  readShort?_of_not_mem noMore]
                split <;> rfl
        | cons letter rest => exact absurd rfl (single letter rest rfl)
      · rw [List.cons_append, readShort?_cons backslash, if_neg other, if_pos stops]
  | case6 character rest single other inside induction =>
      have nothing : readShort? quote rest = none := by simpa using read
      have plainCharacter : character ≠ '\\' := by
        rintro rfl
        simp at inside
      rw [List.cons_append, readShort?_cons plainCharacter, if_neg other, if_neg inside,
        induction nothing]
      rfl

/-- What holds nothing of a start does not complete it. -/
theorem isPrefixOf_append_of_not_mem {start : List Char}
    (outside : ∀ character ∈ start, character ∉ after)
    (nonempty : ¬ start.isPrefixOf text = true) : ¬ start.isPrefixOf (text ++ after) = true := by
  intro longer
  have isPrefix := List.isPrefixOf_iff_prefix.mp longer
  rcases List.prefix_or_prefix_of_prefix isPrefix (List.prefix_append text after) with
    inside | ⟨left, rfl⟩
  · exact nonempty (List.isPrefixOf_iff_prefix.mpr inside)
  · rw [List.prefix_append_right_inj] at isPrefix
    cases left with
    | nil => exact nonempty (List.isPrefixOf_iff_prefix.mpr (by simp))
    | cons character left => exact outside character (by simp) (isPrefix.subset (by simp))

/-- Neither is a string of any lines. -/
theorem readLong?_append_eq_none (noQuote : quote ∉ after)
    (read : readLong? quote text = none) : readLong? quote (text ++ after) = none := by
  fun_induction readLong? quote text with
  | case1 => exact readLong?_of_not_mem noQuote
  | case2 letter rest character escape induction =>
      simp only [List.cons_append, readLong?, escape, induction (by simpa using read)]
      rfl
  | case3 letter rest escape =>
      simp only [List.cons_append, readLong?, escape]
  | case4 => cases read
  | case5 character rest single open? stops =>
      obtain rfl : character = '\\' := by simpa using stops
      cases rest with
      | nil =>
          cases after with
          | nil =>
              rw [List.append_nil, readLong?, if_neg open?, if_pos stops]
              simp
          | cons letter after =>
              have noMore : quote ∉ after := fun member => noQuote (List.mem_cons_of_mem _ member)
              simp only [List.cons_append, List.nil_append, readLong?, readLong?_of_not_mem noMore]
              split <;> rfl
      | cons letter rest => exact absurd rfl (single letter rest rfl)
  | case6 character rest single open? inside induction =>
      have nothing : readLong? quote rest = none := by simpa using read
      have plainCharacter : character ≠ '\\' := by
        rintro rfl
        simp at inside
      have stillOpen : ¬ [quote, quote, quote].isPrefixOf (character :: rest ++ after) = true :=
        isPrefixOf_append_of_not_mem (by simpa using noQuote) open?
      rw [List.cons_append] at stillOpen ⊢
      rw [readLong?_cons plainCharacter, if_neg stillOpen, if_neg inside, induction nothing]
      rfl

theorem readString?_append_eq_none (noQuote : quote ∉ after)
    (read : readString? quote text = none) : readString? quote (text ++ after) = none := by
  unfold readString? at read ⊢
  simp only [Option.map_eq_none_iff] at read ⊢
  by_cases quotes : [quote, quote].isPrefixOf text = true
  · obtain ⟨body, rfl⟩ := List.isPrefixOf_iff_prefix.mp quotes
    have longer : [quote, quote].isPrefixOf ([quote, quote] ++ body ++ after) = true := by simp
    have nothing : readLong? quote body = none := by simpa [quotes] using read
    rw [if_pos longer]
    exact readLong?_append_eq_none noQuote nothing
  · rw [if_neg quotes] at read
    rw [if_neg (isPrefixOf_append_of_not_mem (by simpa using noQuote) quotes)]
    exact readShort?_append_eq_none noQuote read

theorem readLanguage?_append_eq_none (border : Border after) (read : readLanguage? text = none) :
    readLanguage? (text ++ after) = none := by
  have noLetter : Stops Char.isAlpha after := border.stops (by decide)
  cases text with
  | nil =>
      cases after with
      | nil => rfl
      | cons character after => simp [readLanguage?, noLetter character rfl]
  | cons first text =>
      unfold readLanguage? at read ⊢
      simp only [List.cons_append] at read ⊢
      split at read
      · cases read
      · next noLetter => rw [if_neg noLetter]

/-- What starts no mark starts none in front of a border. -/
theorem readMark?_append_eq_none (border : Border after) {first : Char}
    (read : readMark? (first :: text) = none) : readMark? (first :: text ++ after) = none := by
  have apart : first = '&' → ∀ more, text ++ after ≠ '&' :: more := by
    rintro rfl
    refine border.noSecond (by decide) fun more same => ?_
    rw [same] at read
    cases read
  unfold readMark? at read
  split at read
  all_goals try cases read
  rw [List.cons_append, readMark?]
  all_goals
    rintro rest same
    obtain ⟨start, more⟩ := List.cons.inj same
    have short := congrArg (· :: text) start
    first
      | exact apart start _ more
      | solve_by_elim

theorem readMarkToken?_append_eq_none (border : Border after) {first : Char}
    (read : readMarkToken? (first :: text) = none) :
    readMarkToken? (first :: text ++ after) = none := by
  unfold readMarkToken? at read ⊢
  rw [Option.map_eq_none_iff] at read ⊢
  exact readMark?_append_eq_none border read

theorem orMark_append_eq_none (border : Border after) {first : Char}
    {reader longer : Option (Token × List Char)} (same : longer = reader.map (followedBy after))
    (read : reader.or (readMarkToken? (first :: text)) = none) :
    longer.or (readMarkToken? (first :: text ++ after)) = none := by
  subst same
  rw [Option.or_eq_none_iff, Option.map_eq_none_iff] at *
  exact ⟨read.1, readMarkToken?_append_eq_none border read.2⟩

/-- What starts no token starts none in front of a border without quotes. -/
theorem readToken?_append_eq_none (border : Border after) (noQuote : '"' ∉ after ∧ '\'' ∉ after)
    (nonempty : text ≠ []) (read : readToken? text = none) :
    readToken? (text ++ after) = none := by
  unfold readToken? at read
  split at read
  · exact absurd rfl nonempty
  · exact orMark_append_eq_none border (readIri?_append border _) read
  · exact readString?_append_eq_none noQuote.1 read
  · exact readString?_append_eq_none noQuote.2 read
  · exact readLanguage?_append_eq_none border read
  · exact orMark_append_eq_none border (readVar?_append border _) read
  · simp only [List.cons_append, readToken?]
    rw [readVar?_append border, read]
    rfl
  · simp only [List.cons_append, readToken?]
    rw [readBlank?_append border, read]
    rfl
  · cases read
  · exact orMark_append_eq_none border (readNumber?_append border .plus _) read
  · exact orMark_append_eq_none border (readNumber?_append border .minus _) read
  · exact orMark_append_eq_none border (readNumber?_append border .none _) read
  · next character tail notIri notQuote notApostrophe notTag notVar notDollar notBlank notColon
      notPlus notMinus notPoint =>
      have notBlank' : ∀ more, character = '_' → tail ++ after = ':' :: more → False := by
        rintro more rfl
        exact border.noSecond (by decide) (fun rest => notBlank rest rfl) more
      rw [List.cons_append, readToken?.eq_13 _ _ notIri notQuote notApostrophe notTag notVar
        notDollar notBlank' notColon notPlus notMinus notPoint, ← List.cons_append]
      split at read
      · next digit =>
          rw [if_pos digit, readNumber?_append border, read]
          rfl
      · next noDigit =>
          rw [if_neg noDigit]
          split at read
          · next letter =>
              have noName : ∀ token left, readName? (character :: tail) = some (token, left) →
                  Sealed (character :: tail) left after := by
                simp [read]
              rw [if_pos letter, readName?_append border noName, read]
              rfl
          · next noLetter =>
              rw [if_neg noLetter]
              exact readMarkToken?_append_eq_none border read

end

/-- A text of the given tokens whose last comment goes on. -/
inductive Trails : List Char → List Token → Prop where
  | open {body : List Char} :
      (∀ character ∈ body, character ≠ '\n' ∧ character ≠ '\r') → Trails ('#' :: body) []
  | space {character : Char} {text : List Char} {tokens : List Token} :
      Json.isSpace character = true → Trails text tokens → Trails (character :: text) tokens
  | comment {body text : List Char} {stop : Char} {tokens : List Token} :
      (∀ character ∈ body, character ≠ '\n' ∧ character ≠ '\r') →
      (stop = '\n' ∨ stop = '\r') → Trails text tokens →
      Trails ('#' :: (body ++ stop :: text)) tokens
  | token {text rest : List Char} {token : Token} {tokens : List Token} :
      readToken? text = some (token, rest) → Trails rest tokens → Trails text (token :: tokens)

section

variable {text after : List Char} {tokens : List Token}

/-- A comment without an end holds no tokens. -/
theorem lex_open {body : List Char} (inside : ∀ character ∈ body, character ≠ '\n' ∧
    character ≠ '\r') :
    lex ('#' :: body) = some [] := by
  have skipped : skipBlank true body = [] := by
    induction body with
    | nil => rfl
    | cons character body induction =>
        obtain ⟨⟨noFeed, noReturn⟩, inside⟩ := List.forall_mem_cons.mp inside
        simp only [skipBlank, if_true]
        rw [bne_iff_ne.mpr noFeed, bne_iff_ne.mpr noReturn]
        exact induction inside
  have start : skipBlank false ('#' :: body) = skipBlank true body := by
    simp [skipBlank, Json.isSpace]
  rw [lex_eq, start, skipped]

theorem Trails.comment_mem (trails : Trails text tokens) : '#' ∈ text := by
  induction trails with
  | «open» => simp
  | space _ _ induction => exact List.mem_cons_of_mem _ induction
  | comment => simp
  | token read _ induction =>
      obtain ⟨taken, rfl, -⟩ := readToken?_advances read
      exact List.mem_append_right taken induction

/-- A comment takes up all that follows on its line. -/
theorem Trails.lex_append (trails : Trails text tokens) (border : Border after)
    (line : ∀ character ∈ after, character ≠ '\n' ∧ character ≠ '\r') :
    lex (text ++ after) = some tokens := by
  induction trails with
  | «open» inside => exact lex_open (List.forall_mem_append.mpr ⟨inside, line⟩)
  | space space _ induction => rw [List.cons_append, lex_space space, induction]
  | comment inside ends _ induction =>
      rw [List.cons_append, List.append_assoc, List.cons_append, lex_comment inside ends, induction]
  | token read later induction =>
      rw [lex_token (readToken?_append border (fun _ => .inl later.comment_mem) read), induction]
      rfl

/-- A token in front of white space is a token of the text itself. -/
theorem exists_readToken? {blank : Char} {left : List Char} {token : Token}
    (space : Json.isSpace blank = true) (noQuote : '"' ∉ after ∧ '\'' ∉ after)
    (nonempty : text ≠ []) (read : readToken? (text ++ blank :: after) = some (token, left)) :
    ∃ rest, readToken? text = some (token, rest) ∧ left = rest ++ blank :: after := by
  have border : Border (blank :: after) := .ofSpace space
  have plain : '"' ≠ blank ∧ '\'' ≠ blank ∧ isLocalEscape blank = false := by
    simp [Json.isSpace] at space
    rcases space with ((rfl | rfl) | rfl) | rfl <;> decide
  cases own : readToken? text with
  | none =>
      rw [readToken?_append_eq_none border (by simp [plain, noQuote]) nonempty own] at read
      cases read
  | some found =>
      obtain ⟨token, rest⟩ := found
      have isSealed : Sealed text rest (blank :: after) := fun _ => .inr (by simpa using plain.2.2)
      cases (readToken?_append border isSealed own).symm.trans read
      exact ⟨rest, rfl, rfl⟩

/-- The tokens of a text in front of white space are its own and then those of what follows, unless
a comment goes on at its end. -/
theorem split_lex {blank : Char} {all : List Token} (space : Json.isSpace blank = true)
    (noQuote : '"' ∉ after ∧ '\'' ∉ after) (lexed : lex (text ++ blank :: after) = some all) :
    (∃ tokens more, Spells text tokens ∧ lex after = some more ∧ all = tokens ++ more) ∨
      ∃ tokens, Trails text tokens := by
  -- A token and a comment take more than one character, so the induction is on the length.
  induction length : text.length using Nat.strongRecOn generalizing text all with
  | ind length induction =>
      subst length
      cases text with
      | nil => exact .inl ⟨[], all, .nil, by rwa [List.nil_append, lex_space space] at lexed, rfl⟩
      | cons character text =>
          by_cases isSpace : Json.isSpace character = true
          · rw [List.cons_append, lex_space isSpace] at lexed
            rcases induction text.length (by simp) lexed rfl with
              ⟨tokens, more, spells, further, rfl⟩ | ⟨tokens, trails⟩
            · exact .inl ⟨tokens, more, .space isSpace spells, further, rfl⟩
            · exact .inr ⟨tokens, .space isSpace trails⟩
          by_cases comment : character = '#'
          · subst comment
            by_cases ends : ∃ character ∈ text, character = '\n' ∨ character = '\r'
            · obtain ⟨body, stop, rest, rfl, inside, isStop⟩ := exists_comment ends
              rw [List.cons_append, List.append_assoc, List.cons_append,
                lex_comment inside isStop] at lexed
              rcases induction rest.length (by simp; omega) lexed rfl with
                ⟨tokens, more, spells, further, rfl⟩ | ⟨tokens, trails⟩
              · exact .inl ⟨tokens, more, .comment inside isStop spells, further, rfl⟩
              · exact .inr ⟨tokens, .comment inside isStop trails⟩
            · exact .inr ⟨[], .open (by simpa [not_or] using ends)⟩
          · have skipped : skipBlank false (character :: text ++ blank :: after) =
                character :: text ++ blank :: after := by
              simp [skipBlank, isSpace, comment]
            rw [lex_eq, skipped] at lexed
            cases first : readToken? (character :: text ++ blank :: after) with
            | none => simp [List.cons_append ▸ first] at lexed
            | some result =>
                obtain ⟨token, left⟩ := result
                obtain ⟨rest, own, rfl⟩ := exists_readToken? space noQuote (by simp) first
                obtain ⟨tail, further, rfl⟩ : ∃ tail, lex (rest ++ blank :: after) = some tail ∧
                    token :: tail = all := by
                  simpa [List.cons_append ▸ first] using lexed
                rcases induction rest.length (readToken?_length_lt own) further rfl with
                  ⟨tokens, more, spells, behind, rfl⟩ | ⟨tokens, trails⟩
                · exact .inl ⟨token :: tokens, more, .token own spells, behind, rfl⟩
                · exact .inr ⟨token :: tokens, .token own trails⟩

end

end FacetedQuery.Sparql.Token
