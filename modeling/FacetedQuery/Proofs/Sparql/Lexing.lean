import FacetedQuery.Proofs.Sparql.Border

/-!
# Lexing

The tokens of a text, computed from left to right.  The number of steps does not matter as long as
it exceeds the length of the text, so that a token at the start of a text can be split off.  A text
that is spelled by tokens, with white space and no comments between them, can be read in front of
any border.
-/

namespace FacetedQuery.Sparql.Token

/-- The tokens of a text in which no escape of a code point is left. -/
def lex (text : List Char) : Option (List Token) :=
  readAll? (text.length + 1) text

theorem tokens?_eq_lex (text : List Char) : tokens? text = lex (unescape text) :=
  rfl

theorem skipBlank_length_le (inComment : Bool) (text : List Char) :
    (skipBlank inComment text).length ≤ text.length := by
  induction text generalizing inComment with
  | nil => simp [skipBlank]
  | cons character text induction =>
      unfold skipBlank
      split
      · exact Nat.le_succ_of_le (induction _)
      · split
        · exact Nat.le_succ_of_le (induction _)
        · split
          · exact Nat.le_succ_of_le (induction _)
          · exact Nat.le_refl _

/-- More steps than characters are enough. -/
theorem readAll?_eq_of_length_lt {steps more : Nat} {text : List Char}
    (enough : text.length < steps) (enoughToo : text.length < more) :
    readAll? steps text = readAll? more text := by
  induction steps generalizing more text with
  | zero => omega
  | succ steps induction =>
      cases more with
      | zero => omega
      | succ more =>
          have shorter := skipBlank_length_le false text
          simp only [readAll?]
          cases skipped : skipBlank false text with
          | nil => rfl
          | cons start rest =>
              rw [skipped] at shorter
              cases read : readToken? (start :: rest) with
              | none => simp only [read]
              | some result =>
                  have progress : result.2.length < (start :: rest).length :=
                    readToken?_length_lt read
                  simp only [read]
                  rw [induction (show result.2.length < steps by omega)
                    (show result.2.length < more by omega)]

theorem lex_nil : lex [] = some [] :=
  rfl

/-- A text after its leading white space and comments. -/
theorem lex_eq (text : List Char) :
    lex text =
      match skipBlank false text with
      | [] => some []
      | start :: rest =>
        match readToken? (start :: rest) with
        | none => none
        | some (token, after) => (lex after).map (token :: ·) := by
  have shorter := skipBlank_length_le false text
  unfold lex
  rw [readAll?]
  cases skipped : skipBlank false text with
  | nil => rfl
  | cons start rest =>
      rw [skipped] at shorter
      cases read : readToken? (start :: rest) with
      | none => simp only [read]
      | some result =>
          have progress : result.2.length < (start :: rest).length := readToken?_length_lt read
          simp only [read]
          rw [readAll?_eq_of_length_lt (by omega) (Nat.lt_succ_self result.2.length)]

theorem lex_space {character : Char} (space : Json.isSpace character = true)
    (text : List Char) : lex (character :: text) = lex text := by
  rw [lex_eq, lex_eq text]
  simp [skipBlank, space]

theorem lex_spaces {blanks : List Char}
    (spaces : ∀ character ∈ blanks, Json.isSpace character = true) (text : List Char) :
    lex (blanks ++ text) = lex text := by
  induction blanks with
  | nil => rfl
  | cons character blanks induction =>
      rw [List.cons_append, lex_space (spaces character (by simp))]
      exact induction fun other member => spaces other (by simp [member])

theorem skipBlank_comment {body : List Char} {stop : Char}
    (inside : ∀ character ∈ body, character ≠ '\n' ∧ character ≠ '\r')
    (ends : stop = '\n' ∨ stop = '\r') (text : List Char) :
    skipBlank true (body ++ stop :: text) = skipBlank false text := by
  induction body with
  | nil => rcases ends with rfl | rfl <;> rfl
  | cons character body induction =>
      obtain ⟨noFeed, noReturn⟩ := inside character (by simp)
      simp only [List.cons_append, skipBlank, if_true]
      rw [bne_iff_ne.mpr noFeed, bne_iff_ne.mpr noReturn]
      exact induction fun other member => inside other (by simp [member])

theorem lex_comment {body : List Char} {stop : Char}
    (inside : ∀ character ∈ body, character ≠ '\n' ∧ character ≠ '\r')
    (ends : stop = '\n' ∨ stop = '\r') (text : List Char) :
    lex ('#' :: (body ++ stop :: text)) = lex text := by
  rw [lex_eq, lex_eq text]
  have skipped : skipBlank false ('#' :: (body ++ stop :: text)) = skipBlank false text := by
    rw [← skipBlank_comment inside ends text]
    rfl
  rw [skipped]

/-- A token starts with neither white space nor the mark of a comment. -/
theorem readToken?_start {character : Char} {text rest : List Char} {token : Token}
    (read : readToken? (character :: text) = some (token, rest)) :
    Json.isSpace character = false ∧ character ≠ '#' := by
  constructor
  · by_cases space : Json.isSpace character = true
    · simp [Json.isSpace] at space
      rcases space with ((rfl | rfl) | rfl) | rfl <;> cases read
    · simpa using space
  · rintro rfl
    cases read

theorem lex_token {text rest : List Char} {token : Token}
    (read : readToken? text = some (token, rest)) :
    lex text = (lex rest).map (token :: ·) := by
  cases text with
  | nil => cases read
  | cons character text =>
      obtain ⟨noSpace, noComment⟩ := readToken?_start read
      have skipped : skipBlank false (character :: text) = character :: text := by
        simp [skipBlank, noSpace, noComment]
      rw [lex_eq, skipped]
      simp only [read]

/-- A text of the given tokens with nothing but white space and comments between them, each comment
with the end of its line. -/
inductive Spells : List Char → List Token → Prop where
  | nil : Spells [] []
  | space {character : Char} {text : List Char} {tokens : List Token} :
      Json.isSpace character = true → Spells text tokens → Spells (character :: text) tokens
  | comment {body text : List Char} {stop : Char} {tokens : List Token} :
      (∀ character ∈ body, character ≠ '\n' ∧ character ≠ '\r') →
      (stop = '\n' ∨ stop = '\r') → Spells text tokens →
      Spells ('#' :: (body ++ stop :: text)) tokens
  | token {text rest : List Char} {token : Token} {tokens : List Token} :
      readToken? text = some (token, rest) → Spells rest tokens → Spells text (token :: tokens)

theorem Spells.lex {text : List Char} {tokens : List Token} (spells : Spells text tokens) :
    lex text = some tokens := by
  induction spells with
  | nil => rfl
  | space space _ induction => rw [lex_space space, induction]
  | comment inside ends _ induction => rw [lex_comment inside ends, induction]
  | token read _ induction => rw [lex_token read, induction]; rfl

/-- A text that tokens spell does not end in a backslash. -/
theorem Spells.closed {text : List Char} {tokens : List Token} (spells : Spells text tokens) :
    text.getLast? ≠ some '\\' := by
  induction spells with
  | nil => simp
  | @space character text tokens space _ induction =>
      cases text with
      | nil =>
          rintro equality
          obtain rfl : character = '\\' := by simpa using equality
          simp [Json.isSpace] at space
      | cons next text => simpa [List.getLast?_cons_cons] using induction
  | @comment body text stop tokens _ ends _ induction =>
      rw [← List.cons_append, List.getLast?_append]
      cases text with
      | nil => rcases ends with rfl | rfl <;> simp
      | cons next text => simpa [List.getLast?_cons_cons] using induction
  | token read _ induction =>
      obtain ⟨taken, rfl, -, last⟩ := readToken?_advances read
      rename_i rest _ _ _
      cases rest with
      | nil => simpa using last
      | cons next rest => simpa [List.getLast?_append] using induction

/-- In front of a border a text has the tokens that it has on its own. -/
theorem Spells.lex_append {text : List Char} {tokens : List Token} (spells : Spells text tokens)
    {after : List Char} (border : Border after) :
    Token.lex (text ++ after) = (Token.lex after).map (tokens ++ ·) := by
  induction spells with
  | nil => simp
  | space space _ induction => rw [List.cons_append, lex_space space, induction]
  | comment inside ends _ induction =>
      rw [List.cons_append, List.append_assoc, List.cons_append, lex_comment inside ends, induction]
  | @token text rest token tokens read later induction =>
      have closed := (Spells.token read later).closed
      rw [lex_token (readToken?_append border (.ofClosed closed) read), induction, Option.map_map]
      rfl

/-- Texts of tokens may be put one behind the other with a border between them. -/
theorem Spells.append {text after : List Char} {tokens more : List Token}
    (spells : Spells text tokens) (border : Border after) (spellsMore : Spells after more) :
    Spells (text ++ after) (tokens ++ more) := by
  induction spells with
  | nil => exact spellsMore
  | space space _ induction => exact .space space induction
  | comment inside ends _ induction =>
      rw [List.cons_append, List.append_assoc, List.cons_append]
      exact .comment inside ends induction
  | token read later induction =>
      have closed := (Spells.token read later).closed
      exact .token (readToken?_append border (.ofClosed closed) read) induction

theorem exists_comment {text : List Char}
    (ends : ∃ character ∈ text, character = '\n' ∨ character = '\r') :
    ∃ body stop after, text = body ++ stop :: after ∧
      (∀ character ∈ body, character ≠ '\n' ∧ character ≠ '\r') ∧
      (stop = '\n' ∨ stop = '\r') := by
  induction text with
  | nil => simp at ends
  | cons character text induction =>
      by_cases stops : character = '\n' ∨ character = '\r'
      · exact ⟨[], character, text, rfl, by simp, stops⟩
      · obtain ⟨body, stop, after, rfl, inside, isStop⟩ := induction (by simpa [stops] using ends)
        rw [not_or] at stops
        exact ⟨character :: body, stop, after, rfl, by simpa [stops] using inside, isStop⟩

/-- Whether every comment of a text ends in it: the text ends in a line feed or has no comments. -/
def EndsComments (text : List Char) : Prop :=
  text = [] ∨ text.getLast? = some '\n' ∨ '#' ∉ text

instance (text : List Char) : Decidable (EndsComments text) :=
  inferInstanceAs (Decidable (_ ∨ _ ∨ _))

theorem EndsComments.behind (text : List Char) {after : List Char}
    (ends : EndsComments (text ++ after)) :
    EndsComments after := by
  cases after with
  | nil => exact .inl rfl
  | cons character after =>
      rcases ends with nothing | last | plain
      · simp at nothing
      · exact .inr (.inl (by simpa [List.getLast?_append] using last))
      · exact .inr (.inr fun member => plain (by simp [member]))

theorem spells_of_lex {text : List Char} {tokens : List Token} (read : Token.lex text = some tokens)
    (ends : EndsComments text) : Spells text tokens := by
  -- A token and a comment take more than one character, so the induction is on the length.
  induction length : text.length using Nat.strongRecOn generalizing text tokens with
  | ind length induction =>
      subst length
      cases text with
      | nil =>
          obtain rfl : [] = tokens := by simpa [lex_nil] using read
          exact .nil
      | cons character rest =>
          by_cases space : Json.isSpace character = true
          · rw [lex_space space] at read
            exact .space space
              (induction rest.length (by simp) read (EndsComments.behind [character] ends) rfl)
          by_cases comment : character = '#'
          · subst comment
            have member : '\n' ∈ rest := by
              rcases ends with nothing | last | plain
              · cases nothing
              · simpa using List.mem_of_getLast? last
              · simp at plain
            obtain ⟨body, stop, after, rfl, inside, isStop⟩ := exists_comment ⟨_, member, .inl rfl⟩
            rw [lex_comment inside isStop] at read
            have behind : EndsComments after :=
              EndsComments.behind ('#' :: (body ++ [stop])) (by simpa using ends)
            exact .comment inside isStop
              (induction after.length (by simp; omega) read behind rfl)
          · have skipped : skipBlank false (character :: rest) = character :: rest := by
              simp [skipBlank, space, comment]
            rw [lex_eq, skipped] at read
            cases first : readToken? (character :: rest) with
            | none => simp [first] at read
            | some result =>
                obtain ⟨token, after⟩ := result
                obtain ⟨tail, further, rfl⟩ : ∃ tail, lex after = some tail ∧
                    token :: tail = tokens := by
                  simpa [first] using read
                have shorter := readToken?_length_lt first
                obtain ⟨taken, split, -, -⟩ := readToken?_advances first
                exact .token first
                  (induction after.length shorter further
                    (EndsComments.behind taken (split ▸ ends)) rfl)

end FacetedQuery.Sparql.Token
