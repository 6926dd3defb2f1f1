import Mathlib.Data.List.TakeWhile
import FacetedQuery.Proofs.Clause.Reading
import FacetedQuery.Proofs.Clause.Spelling
import FacetedQuery.Proofs.Sparql.Query
import FacetedQuery.Proofs.Text.Lowercase

/-!
# The tokens of expressions

The text of an expression consists of its tokens whatever its literals hold, and all of them mean
something, provided that calls have fitting numbers of arguments, variables are named as in queries
and languages are language tags.
-/

namespace FacetedQuery

namespace Rdf.LanguageTag

variable {tag : List Char} {place : Place} {extended : Nat} {list : List (List Char)}

theorem exists_parts (tag : List Char) : ∃ part others, parts tag = part :: others := by
  fun_cases parts tag <;> exact ⟨_, _, rfl⟩

theorem parts_cons_of_ne {first : Char} {rest part : List Char} {others : List (List Char)}
    (noHyphen : first ≠ '-') (split : parts rest = part :: others) :
    parts (first :: rest) = (first :: part) :: others := by
  rw [parts, split]
  exact noHyphen

/-- A tag consists of its parts and of hyphens. -/
theorem mem_parts {character : Char} (member : character ∈ tag) :
    character = '-' ∨ ∃ part ∈ parts tag, character ∈ part := by
  induction tag with
  | nil => cases member
  | cons first rest induction =>
      by_cases hyphen : first = '-'
      · subst hyphen
        rcases List.mem_cons.mp member with same | member
        · exact .inl same
        · exact (induction member).imp_right fun ⟨part, inside, here⟩ =>
            ⟨part, List.mem_cons_of_mem _ inside, here⟩
      · obtain ⟨part, others, split⟩ := exists_parts rest
        rw [parts_cons_of_ne hyphen split]
        rcases List.mem_cons.mp member with rfl | member
        · exact .inr ⟨character :: part, by simp, by simp⟩
        · refine (induction member).imp_right ?_
          rintro ⟨other, inside, here⟩
          rw [split] at inside
          rcases List.mem_cons.mp inside with rfl | inside
          · exact ⟨first :: other, by simp, by simp [here]⟩
          · exact ⟨other, by simp [inside], here⟩

theorem isAlphanumeric_of_isAlphabetic {part : List Char} (alphabetic : isAlphabetic part = true) :
    isAlphanumeric part = true := by
  simp only [isAlphabetic, isAlphanumeric, List.all_eq_true] at *
  exact fun character member => by simp [Char.isAlphanum, alphabetic character member]

theorem isAlphanumeric_of_isNumeric {part : List Char} (numeric : isNumeric part = true) :
    isAlphanumeric part = true := by
  simp only [isNumeric, isAlphanumeric, List.all_eq_true] at *
  exact fun character member => by simp [Char.isAlphanum, numeric character member]

theorem isAlphanumeric_of_nextPlace? {part : List Char} {next : Place}
    (found : nextPlace? place extended part = some next) : isAlphanumeric part = true := by
  unfold nextPlace? at found
  simp only at found
  split at found
  · next first =>
    simp only [Bool.and_eq_true] at first
    exact isAlphanumeric_of_isAlphabetic first.2
  split at found
  · next second =>
    simp only [Bool.and_eq_true] at second
    exact isAlphanumeric_of_isAlphabetic second.2
  split at found
  · next third =>
    simp only [Bool.and_eq_true, Bool.or_eq_true] at third
    exact third.2.elim (fun letters => isAlphanumeric_of_isAlphabetic letters.2)
      fun row => isAlphanumeric_of_isNumeric row.2
  split at found
  · next fourth =>
    simp only [Bool.and_eq_true] at fourth
    exact fourth.1.2
  · cases found

theorem isAlphanumeric_of_acceptsFrom (accepted : acceptsFrom place extended list = true) :
    ∀ part ∈ list, isAlphanumeric part = true := by
  induction list generalizing place extended with
  | nil => simp
  | cons part rest induction =>
      suffices both : isAlphanumeric part = true ∧
          ∃ next count, acceptsFrom next count rest = true by
        obtain ⟨first, next, count, further⟩ := both
        intro other member
        rcases List.mem_cons.mp member with rfl | member
        · exact first
        · exact induction further other member
      unfold acceptsFrom at accepted
      split at accepted
      · cases accepted
      split at accepted
      · split at accepted
        · cases accepted
        · next short =>
          simp only [Bool.or_eq_true, Bool.not_eq_true', not_or, Bool.not_eq_false] at short
          refine ⟨isAlphanumeric_of_isAlphabetic short.2, ?_⟩
          split at accepted <;> exact ⟨_, _, accepted⟩
      · rw [Bool.and_eq_true] at accepted
        exact ⟨accepted.1, _, _, accepted.2⟩
      · split at accepted
        · next single =>
          rw [Bool.and_eq_true] at single
          refine ⟨single.2, ?_⟩
          split at accepted
          · cases accepted
          split at accepted <;> exact ⟨_, _, accepted⟩
        · split at accepted
          · rw [Bool.and_eq_true] at accepted
            exact ⟨accepted.1, _, _, accepted.2⟩
          · split at accepted
            · next found => exact ⟨isAlphanumeric_of_nextPlace? found, _, _, accepted⟩
            · cases accepted

/-- The characters of language tags. -/
def isTagChar (character : Char) : Bool :=
  character.isAlphanum || character == '-'

/-- Whether a text starts with a letter and goes on with letters, digits and hyphens. -/
def isTag (tag : List Char) : Bool :=
  tag.head?.any Char.isAlpha && tag.all isTagChar

theorem isTag_cons {first : Char} {rest : List Char} : isTag (first :: rest) = true ↔
    first.isAlpha = true ∧ ∀ character ∈ rest, isTagChar character = true := by
  simp only [isTag, List.head?_cons, Option.any_some, List.all_cons, Bool.and_eq_true,
    List.all_eq_true]
  exact ⟨fun ⟨letter, _, inside⟩ => ⟨letter, inside⟩,
    fun ⟨letter, inside⟩ => ⟨letter, by simp [isTagChar, Char.isAlphanum, letter], inside⟩⟩

theorem isAlpha_of_isUpper {character : Char} (upper : character.isUpper = true) :
    character.isAlpha = true := by
  change (character.isUpper || character.isLower) = true
  rw [upper, Bool.true_or]

theorem isAlpha_of_toLower {character : Char} (letter : character.toLower.isAlpha = true) :
    character.isAlpha = true := by
  cases upper : character.isUpper with
  | true => exact isAlpha_of_isUpper upper
  | false => rwa [Text.toLower_eq_self upper] at letter

theorem isTagChar_of_toLower {character : Char} (inside : isTagChar character.toLower = true) :
    isTagChar character = true := by
  cases upper : character.isUpper with
  | true => simp [isTagChar, Char.isAlphanum, isAlpha_of_isUpper upper]
  | false => rwa [Text.toLower_eq_self upper] at inside

theorem isTag_of_grandfathered (member : String.ofList (tag.map Char.toLower) ∈ grandfathered) :
    isTag tag = true := by
  have all : grandfathered.all (fun text => isTag text.toList) = true := by decide +kernel
  have small := List.all_eq_true.mp all _ member
  rw [String.toList_ofList] at small
  cases tag with
  | nil => cases small
  | cons first rest =>
      obtain ⟨letter, inside⟩ := isTag_cons.mp small
      exact isTag_cons.mpr ⟨isAlpha_of_toLower letter, fun character here =>
        isTagChar_of_toLower (inside _ (List.mem_map_of_mem here))⟩

theorem isTag_of_parts (accepted : acceptsFrom .start extended (parts tag) = true) :
    isTag tag = true := by
  have alphanumeric := isAlphanumeric_of_acceptsFrom accepted
  have inside : ∀ character ∈ tag, isTagChar character = true := by
    intro character member
    rcases mem_parts member with rfl | ⟨part, inside, here⟩
    · rfl
    · have letter := List.all_eq_true.mp (alphanumeric part inside) character here
      simp [isTagChar, letter]
  cases tag with
  | nil => cases accepted
  | cons first rest =>
      refine isTag_cons.mpr ⟨?_, fun character member => inside character (by simp [member])⟩
      by_cases hyphen : first = '-'
      · subst hyphen
        rw [parts, acceptsFrom] at accepted
        cases accepted
      · obtain ⟨part, others, split⟩ := exists_parts rest
        rw [parts_cons_of_ne hyphen split, acceptsFrom] at accepted
        split at accepted
        · cases accepted
        split at accepted
        · cases accepted
        · next short =>
          simp only [Bool.or_eq_true, Bool.not_eq_true', not_or, Bool.not_eq_false, isAlphabetic,
            List.all_cons, Bool.and_eq_true] at short
          exact short.2.1

/-- An accepted tag is a single token behind its at sign. -/
theorem isTag_of_accepts {text : String} (accepted : accepts text = true) :
    isTag text.toList = true := by
  unfold accepts at accepted
  simp only at accepted
  split at accepted
  · next registered => exact isTag_of_grandfathered (by simpa using registered)
  have behind : ∀ {first : Char} {rest : List Char}, first.isAlpha = true →
      (!rest.isEmpty && rest.all fun c => c.isAlphanum || c == '-') = true →
      isTag (first :: '-' :: rest) = true := by
    intro first rest letter inside
    simp only [Bool.and_eq_true, List.all_eq_true] at inside
    refine isTag_cons.mpr ⟨letter, fun character member => ?_⟩
    rcases List.mem_cons.mp member with rfl | member
    · rfl
    · exact inside.2 character member
  split at accepted
  · next split => exact split ▸ behind (by decide) accepted
  · next split => exact split ▸ behind (by decide) accepted
  · exact isTag_of_parts accepted

end Rdf.LanguageTag

namespace Clause

open Rdf (Iri Literal Variable)
open Sparql (Mark Prologue Token)
open Sparql.Token (Joint Spells spells_behind spells_iri spells_mark spells_quoted spells_space
  spells_token unescape unescape_eq_self)

/-- A literal whose language, if it has one, is a language tag. -/
def Meaningful (literal : Literal) : Prop :=
  ∀ language, literal.kind = .tagged language → Rdf.LanguageTag.accepts language = true

namespace Expression

mutual

/-- Calls have as many arguments as their functions take, variables are named as in queries, and
languages are language tags. -/
def Fitting : Expression → Prop
  | .var target => IsWhole target
  | .iri _ => True
  | .literal value => Meaningful value
  | .member value list => value.Fitting ∧ ListFitting list
  | .conjunction left right => left.Fitting ∧ right.Fitting
  | .atLeast left right => left.Fitting ∧ right.Fitting
  | .atMost left right => left.Fitting ∧ right.Fitting
  | .bound target => IsWhole target
  | .call function arguments => function.Takes arguments.length ∧ ListFitting arguments
  | .cast _ value => value.Fitting

def ListFitting : List Expression → Prop
  | [] => True
  | expression :: rest => expression.Fitting ∧ ListFitting rest

end

end Expression

open Expression

section

variable {left right text : List Char} {first second tokens : List Token}

theorem spells_inParens (spells : Spells (unescape text) tokens) :
    Spells (unescape ('(' :: (text ++ [')'])))
      (.mark .openParen :: (tokens ++ [.mark .closeParen])) := by
  have closing : Spells (unescape [')']) [.mark .closeParen] :=
    Sparql.Token.Spelled.closeParen.spells
  exact spells_mark _ (fun _ => rfl) (by decide) (spells_behind spells closing .close)

theorem spells_operation (operator : List Char) {mark : Mark}
    (read : ∀ rest, Token.readToken? (operator ++ ' ' :: rest) = some (.mark mark, ' ' :: rest))
    (plain : ∀ character ∈ ' ' :: operator, character ≠ '\\')
    (spellsLeft : Spells (unescape left) first) (spellsRight : Spells (unescape right) second) :
    Spells (unescape (left ++ ' ' :: (operator ++ ' ' :: right))) (first ++ .mark mark :: second) :=
  spells_behind spellsLeft
    (spells_space rfl (spells_token operator read plain (spells_space rfl spellsRight))) (.space _)

theorem spells_call (letters : List Char)
    (read : ∀ rest, Token.readToken? (letters ++ '(' :: rest) =
      some (.word (String.ofList letters), '(' :: rest))
    (plain : ∀ character ∈ '(' :: letters, character ≠ '\\')
    (spells : Spells (unescape text) tokens) :
    Spells (unescape (letters ++ '(' :: (text ++ [')'])))
      (.word (String.ofList letters) :: .mark .openParen :: (tokens ++ [.mark .closeParen])) :=
  spells_token letters read plain (spells_inParens spells)

theorem spells_builtin (function : Builtin) (spells : Spells (unescape text) tokens) :
    Spells (unescape (function.name.toList ++ '(' :: (text ++ [')'])))
      (.word function.name :: .mark .openParen :: (tokens ++ [.mark .closeParen])) := by
  cases function
  · exact spells_call ['S', 'T', 'R'] (fun _ => rfl) (by decide) spells
  · exact spells_call ['L', 'C', 'A', 'S', 'E'] (fun _ => rfl) (by decide) spells
  · exact spells_call ['C', 'O', 'N', 'T', 'A', 'I', 'N', 'S'] (fun _ => rfl) (by decide) spells
  · exact spells_call ['C', 'O', 'A', 'L', 'E', 'S', 'C', 'E'] (fun _ => rfl) (by decide) spells

theorem spells_member (value : Spells (unescape left) first)
    (list : Spells (unescape right) second) :
    Spells (unescape (left ++ ' ' :: 'I' :: 'N' :: ' ' :: '(' :: (right ++ [')'])))
      (first ++ .word "IN" :: .mark .openParen :: (second ++ [.mark .closeParen])) :=
  spells_behind value (spells_space rfl (spells_token ['I', 'N'] (fun _ => rfl) (by decide)
    (spells_space rfl (spells_inParens list)))) (.space _)

theorem spells_comma (value : Spells (unescape left) first)
    (rest : Spells (unescape right) second) :
    Spells (unescape (left ++ ',' :: ' ' :: right)) (first ++ .mark .comma :: second) :=
  spells_behind value (spells_mark _ (fun _ => rfl) (by decide) (spells_space rfl rest)) (.comma _)

end

theorem spells_variable {target : Variable} (whole : IsWhole target) :
    Spells (unescape target.render.toList) ((variablePieces target).map Piece.token) := by
  suffices readable : Readable target from (spelled_variable readable).spells
  unfold Readable Token.isReadable
  split
  · next split => exact absurd (by rw [split]; rfl) whole
  · rfl

/-- The token of a language behind its at sign. -/
theorem spells_language {language : String} (accepted : Rdf.LanguageTag.accepts language = true) :
    Spells (unescape ('@' :: language.toList)) [.language language] := by
  have isTag := Rdf.LanguageTag.isTag_of_accepts accepted
  cases split : language.toList with
  | nil => cases split ▸ isTag
  | cons first rest =>
      rw [split] at isTag
      obtain ⟨letter, inside⟩ := Rdf.LanguageTag.isTag_cons.mp isTag
      have all : ∀ character ∈ first :: rest, Rdf.LanguageTag.isTagChar character = true := by
        intro character member
        rcases List.mem_cons.mp member with rfl | member
        · simp [Rdf.LanguageTag.isTagChar, Char.isAlphanum, letter]
        · exact inside character member
      have plain : ∀ character ∈ '@' :: first :: rest, character ≠ '\\' := by
        rintro _ member rfl
        rcases List.mem_cons.mp member with same | member
        · cases same
        · cases all _ member
      have taken : (first :: rest).takeWhile Rdf.LanguageTag.isTagChar = first :: rest := by
        exact List.takeWhile_eq_self_iff.mpr all
      have dropped : (first :: rest).dropWhile Rdf.LanguageTag.isTagChar = [] := by
        exact List.dropWhile_eq_nil_iff.mpr all
      have read : Token.readToken? ('@' :: first :: rest) = some (.language language, []) := by
        simp only [Token.readToken?, Token.readLanguage?, letter, if_true]
        change some (Token.language (String.ofList
            ((first :: rest).takeWhile Rdf.LanguageTag.isTagChar)),
          (first :: rest).dropWhile Rdf.LanguageTag.isTagChar) = _
        rw [taken, dropped, ← split, String.ofList_toList]
      rw [unescape_eq_self plain]
      exact .token read .nil

theorem spells_literal {literal : Literal} (meaningful : Meaningful literal) :
    Spells (unescape literal.render.toList) ((literalPieces literal).map Piece.token) := by
  cases kind : literal.kind with
  | plain =>
      have nothing : Spells (unescape []) [] := by
        simpa [Sparql.Token.unescape_nil] using Spells.nil
      have bare := spells_quoted literal.value.toList nothing (by simp)
      simpa [Literal.render, Literal.quote, literalPieces, kind, Piece.token] using bare
  | tagged language =>
      have quoted := spells_quoted literal.value.toList (spells_language (meaningful language kind))
        (by simp)
      simpa [Literal.render, Literal.quote, literalPieces, kind, Piece.token] using quoted
  | typed datatype =>
      have nothing : Spells (unescape []) [] := by
        simpa [Sparql.Token.unescape_nil] using Spells.nil
      have behind : Spells (unescape (['^', '^'] ++ '<' :: (datatype.text.toList ++ ['>'])))
          [.mark .doubleCaret, .name (.iri datatype.text)] :=
        spells_token _ (fun _ => rfl) (by decide) (spells_iri datatype nothing)
      simpa [Literal.render, Literal.quote, literalPieces, kind, Piece.token, Piece.mark,
        Piece.datatype, Iri.render] using spells_quoted literal.value.toList behind (by simp)

namespace Expression

mutual

/-- An expression consists of its tokens. -/
theorem spells : (expression : Expression) → expression.Fitting →
    Spells (unescape expression.render.toList) expression.tokens
  | .var _, whole => by
      simpa [render, tokens, pieces] using spells_variable whole
  | .iri value, _ => by
      simpa [render, tokens, pieces, Piece.token] using (spelled_iri value).spells
  | .literal _, meaningful => by
      simpa [render, tokens, pieces] using spells_literal meaningful
  | .member value list, fitting => by
      simpa [render, tokens, pieces, listTokens, Piece.token, Piece.word, Piece.mark] using
        spells_member (spells value fitting.1) (list_spells list fitting.2)
  | .conjunction left right, fitting => by
      simpa [render, tokens, pieces, Piece.token, Piece.mark] using
        spells_inParens (spells_operation ['&', '&'] (fun _ => rfl) (by decide)
          (spells left fitting.1) (spells right fitting.2))
  | .atLeast left right, fitting => by
      simpa [render, tokens, pieces, Piece.token, Piece.mark] using
        spells_inParens (spells_operation ['>', '='] (fun _ => rfl) (by decide)
          (spells left fitting.1) (spells right fitting.2))
  | .atMost left right, fitting => by
      simpa [render, tokens, pieces, Piece.token, Piece.mark] using
        spells_inParens (spells_operation ['<', '='] (fun _ => rfl) (by decide)
          (spells left fitting.1) (spells right fitting.2))
  | .bound _, whole => by
      simpa [render, tokens, pieces, Piece.token, Piece.word, Piece.mark] using
        spells_call ['B', 'O', 'U', 'N', 'D'] (fun _ => rfl) (by decide) (spells_variable whole)
  | .call function arguments, fitting => by
      simpa [render, tokens, pieces, listTokens, Piece.token, Piece.word, Piece.mark] using
        spells_builtin function (list_spells arguments fitting.2)
  | .cast datatype value, fitting => by
      simpa [render, tokens, pieces, Piece.token, Piece.datatype, Piece.mark, Iri.render] using
        spells_iri datatype (spells_inParens (spells value fitting))

theorem list_spells : (list : List Expression) → ListFitting list →
    Spells (unescape (renderList list).toList) (listTokens list)
  | [], _ => by
      simpa [renderList, listTokens, listPieces, Sparql.Token.unescape_nil] using Spells.nil
  | [expression], fitting => by
      simpa [renderList, tokens, listTokens, listPieces] using spells expression fitting.1
  | expression :: next :: rest, fitting => by
      simpa [renderList, tokens, listTokens, listPieces, Piece.token, Piece.mark] using
        spells_comma (spells expression fitting.1) (list_spells (next :: rest) fitting.2)

end

theorem tokens?_render {expression : Expression} (fitting : expression.Fitting) :
    Token.tokens? expression.render.toList = some expression.tokens := by
  rw [Token.tokens?_eq_lex]
  exact (spells expression fitting).lex

end Expression

/-- The pieces mean something without any declaration. -/
def Accepted (pieces : List Piece) : Prop :=
  ∀ piece ∈ pieces, Prologue.empty.acceptsToken piece.token = true

section

variable {first second : List Piece}

theorem accepted_append : Accepted (first ++ second) ↔ Accepted first ∧ Accepted second := by
  simp [Accepted, or_imp, forall_and]

theorem accepted_cons {piece : Piece} : Accepted (piece :: first) ↔
    Prologue.empty.acceptsToken piece.token = true ∧ Accepted first := by
  simp [Accepted]

theorem accepted_nil : Accepted [] := by
  simp [Accepted]

theorem accepted_word (letters : String) : Prologue.empty.acceptsToken (Piece.word letters).token =
    true :=
  rfl

theorem accepted_mark (mark : Mark) : Prologue.empty.acceptsToken (Piece.mark mark).token = true :=
  rfl

theorem accepted_iri (value : Iri) : Prologue.empty.acceptsToken (.name (.iri value.text)) = true :=
  Prologue.acceptsToken_of_admits (Prologue.admits_iri rfl value)

theorem accepted_variable {target : Variable} (whole : IsWhole target) :
    Accepted (variablePieces target) := by
  intro piece member
  have inside : piece.token ∈ (variablePieces target).map Piece.token := List.mem_map_of_mem member
  rw [tokens_variable whole, List.mem_singleton] at inside
  rw [inside]
  rfl

theorem accepted_literal {literal : Literal} (meaningful : Meaningful literal) :
    Accepted (literalPieces literal) := by
  refine accepted_cons.mpr ⟨rfl, ?_⟩
  split
  · exact accepted_nil
  · next language kind => exact accepted_cons.mpr ⟨meaningful language kind, accepted_nil⟩
  · next datatype _ =>
    exact accepted_cons.mpr ⟨rfl, accepted_cons.mpr ⟨accepted_iri datatype, accepted_nil⟩⟩

end

namespace Expression

mutual

theorem accepted : (expression : Expression) → expression.Fitting → Accepted expression.pieces
  | .var _, whole => accepted_variable whole
  | .iri value, _ => accepted_cons.mpr ⟨accepted_iri value, accepted_nil⟩
  | .literal _, meaningful => accepted_literal meaningful
  | .member value list, fitting => by
      simp only [pieces, accepted_append, accepted_cons, accepted_word, accepted_mark, accepted_nil,
        accepted value fitting.1, list_accepted list fitting.2, and_self]
  | .conjunction left right, fitting
  | .atLeast left right, fitting
  | .atMost left right, fitting => by
      simp only [pieces, accepted_append, accepted_cons, accepted_mark, accepted_nil,
        accepted left fitting.1, accepted right fitting.2, and_self]
  | .bound target, whole => by
      simp only [pieces, accepted_append, accepted_cons, accepted_word, accepted_mark, accepted_nil,
        accepted_variable (show IsWhole target from whole), and_self]
  | .call _ arguments, fitting => by
      simp only [pieces, accepted_append, accepted_cons, accepted_word, accepted_mark, accepted_nil,
        list_accepted arguments fitting.2, and_self]
  | .cast datatype value, fitting => by
      simp only [pieces, accepted_append, accepted_cons, accepted_mark, accepted_nil,
        accepted value fitting, and_self, and_true]
      exact accepted_iri datatype

theorem list_accepted : (list : List Expression) → ListFitting list → Accepted (listPieces list)
  | [], _ => accepted_nil
  | [expression], fitting => accepted expression fitting.1
  | expression :: next :: rest, fitting => by
      simp only [listPieces, accepted_append, accepted_cons, accepted_mark,
        accepted expression fitting.1, list_accepted (next :: rest) fitting.2, and_self]

end

theorem all_acceptsToken {expression : Expression} (fitting : expression.Fitting) :
    expression.tokens.all Prologue.empty.acceptsToken = true := by
  rw [tokens, List.all_map, List.all_eq_true]
  exact accepted expression fitting

end Expression

end Clause

end FacetedQuery
