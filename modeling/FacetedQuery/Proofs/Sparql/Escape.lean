import FacetedQuery.Proofs.Sparql.Lexing
import FacetedQuery.Rdf.Term

/-!
# Escapes

What the escapes of code points and of quoted texts leave of a text.  A text can be cut in front of
a character that continues no escape, and a quoted text is read back as it was, whatever it holds.
-/

namespace FacetedQuery.Sparql.Token

/-- The number of digits behind the letter of an escape. -/
def escapeWidth? (letter : Char) : Option Nat :=
  if letter = 'u' then some 4 else if letter = 'U' then some 8 else none

/-- What an escape stands for and what follows it, given its letter and the text behind it. -/
def escaped? (letter : Char) (text : List Char) : Option (Char × List Char) :=
  (escapeWidth? letter).bind fun width =>
    if width ≤ text.length then
      (codePoint? (text.take width)).map fun character => (character, text.drop width)
    else none

theorem escaped?_length_le {letter character : Char} {text rest : List Char}
    (read : escaped? letter text = some (character, rest)) : rest.length ≤ text.length := by
  unfold escaped? at read
  cases found : escapeWidth? letter with
  | none => simp [found] at read
  | some width =>
      simp only [found, Option.bind_some] at read
      split at read
      · obtain ⟨_, -, equality⟩ := Option.map_eq_some_iff.mp read
        obtain ⟨-, rfl⟩ : _ = character ∧ text.drop width = rest := by simpa using equality
        simp
      · cases read

theorem unescape_nil : unescape [] = [] := by
  rw [unescape.eq_def]

theorem unescape_cons {character : Char} (plain : character ≠ '\\') (text : List Char) :
    unescape (character :: text) = character :: unescape text := by
  rw [unescape.eq_def]
  split <;> simp_all

theorem unescape_single : unescape ['\\'] = ['\\'] := by
  rw [unescape.eq_def]
  simp [unescape_nil]

theorem unescape_backslash (letter : Char) (text : List Char) :
    unescape ('\\' :: letter :: text) =
      match escaped? letter text with
      | some (character, rest) => character :: unescape rest
      | none => '\\' :: letter :: unescape text := by
  rw [unescape.eq_def]
  split
  next a b c d rest equality =>
    obtain ⟨rfl, rfl⟩ : letter = 'u' ∧ text = a :: b :: c :: d :: rest := by simpa using equality
    cases point : codePoint? [a, b, c, d] <;> simp [escaped?, escapeWidth?, point]
  next a b c d e f g h rest equality =>
    obtain ⟨rfl, rfl⟩ : letter = 'U' ∧ text = a :: b :: c :: d :: e :: f :: g :: h :: rest := by
      simpa using equality
    cases point : codePoint? [a, b, c, d, e, f, g, h] <;> simp [escaped?, escapeWidth?, point]
  next character rest noShort noLong equality =>
    obtain ⟨rfl, rfl⟩ : letter = character ∧ text = rest := by simpa using equality
    have noEscape : escaped? letter text = none := by
      unfold escaped? escapeWidth?
      split
      · next short =>
        subst short
        rcases text with _ | ⟨a, _ | ⟨b, _ | ⟨c, _ | ⟨d, text⟩⟩⟩⟩ <;> simp
        exact absurd rfl (noShort a b c d text rfl)
      · split
        · next long =>
          subst long
          rcases text with _ | ⟨a, _ | ⟨b, _ | ⟨c, _ | ⟨d, _ | ⟨e, _ | ⟨f, _ | ⟨g, _ |
            ⟨h, text⟩⟩⟩⟩⟩⟩⟩⟩ <;> simp
          exact absurd rfl (noLong a b c d e f g h text rfl)
        · rfl
    rw [noEscape]
  next character rest _ _ noBackslash equality =>
    obtain ⟨rfl, rfl⟩ : '\\' = character ∧ letter :: text = rest := by simpa using equality
    exact absurd rfl (noBackslash letter text rfl)
  next equality => simp at equality

theorem codePoint?_eq_none {row : List Char} {character : Char} (member : character ∈ row)
    (noDigit : Json.hexValue? character = none) : codePoint? row = none := by
  have noNumber : row.mapM Json.hexValue? = none := by
    induction row with
    | nil => cases member
    | cons first row induction =>
        rw [List.mapM_cons]
        rcases List.mem_cons.mp member with rfl | member
        · rw [noDigit]
          rfl
        · rw [induction member]
          cases Json.hexValue? first <;> rfl
  simp [codePoint?, hexNumber?, noNumber]

/-- A character that is no part of an escape. -/
def endsEscape (character : Char) : Bool :=
  (Json.hexValue? character).isNone && character != 'u' && character != 'U' && character != '\\'

section

variable {after : List Char} (ends : ∀ character ∈ after.head?, endsEscape character = true)

include ends

theorem escaped?_append (letter : Char) (text : List Char) :
    escaped? letter (text ++ after) =
      (escaped? letter text).map fun result => (result.1, result.2 ++ after) := by
  unfold escaped?
  cases escapeWidth? letter with
  | none => rfl
  | some width =>
      simp only [Option.bind_some, List.length_append]
      by_cases long : width ≤ text.length
      · rw [if_pos (by omega), if_pos long, List.take_append_of_le_length long,
          List.drop_append_of_le_length long, Option.map_map]
        rfl
      · rw [if_neg long]
        cases after with
        | nil => simp [long]
        | cons next after =>
            have noDigit : Json.hexValue? next = none := by
              have plain := ends next (by simp)
              simp [endsEscape] at plain
              exact plain.1.1.1
            have member : next ∈ (text ++ next :: after).take width := by
              obtain ⟨further, equality⟩ : ∃ further, width - text.length = further + 1 :=
                ⟨width - text.length - 1, by omega⟩
              simp [List.take_append, equality]
            rw [codePoint?_eq_none member noDigit]
            simp

/-- Escapes do not reach over a character that is no part of one. -/
theorem unescape_append (text : List Char) :
    unescape (text ++ after) = unescape text ++ unescape after := by
  induction length : text.length using Nat.strongRecOn generalizing text with
  | ind length induction =>
      subst length
      cases text with
      | nil => simp [unescape_nil]
      | cons character text =>
          by_cases backslash : character = '\\'
          · subst backslash
            cases text with
            | nil =>
                rw [unescape_single]
                cases after with
                | nil => simp [unescape_nil, unescape_single]
                | cons next after =>
                    have plain := ends next (by simp)
                    simp [endsEscape] at plain
                    obtain ⟨⟨⟨-, noShort⟩, noLong⟩, noBackslash⟩ := plain
                    rw [List.singleton_append, unescape_backslash, unescape_cons noBackslash]
                    simp [escaped?, escapeWidth?, noShort, noLong]
            | cons letter text =>
                rw [List.cons_append, List.cons_append, unescape_backslash, unescape_backslash,
                  escaped?_append ends]
                cases point : escaped? letter text with
                | none =>
                    have hypothesis :=
                      induction text.length (by simp only [List.length_cons]; omega) text rfl
                    simp [hypothesis]
                | some result =>
                    have shorter : result.2.length ≤ text.length := escaped?_length_le point
                    have hypothesis := induction result.2.length
                      (by simp only [List.length_cons]; omega) result.2 rfl
                    simp [hypothesis]
          · rw [List.cons_append, unescape_cons backslash, unescape_cons backslash,
              induction text.length (by simp) text rfl, List.cons_append]

end

theorem unescape_append_of_plain {text : List Char}
    (plain : ∀ character ∈ text, character ≠ '\\') (after : List Char) :
    unescape (text ++ after) = text ++ unescape after := by
  induction text with
  | nil => rfl
  | cons character text induction =>
      rw [List.cons_append, unescape_cons (plain character (by simp)),
        induction fun other member => plain other (by simp [member]), List.cons_append]

theorem unescape_eq_self {text : List Char} (plain : ∀ character ∈ text, character ≠ '\\') :
    unescape text = text := by
  simpa [unescape_nil] using unescape_append_of_plain plain []

open Rdf.Literal (escapeChar)

/-- A character between quotes once the escapes of code points are undone. -/
def quotedChar (character : Char) : List Char :=
  match escapeChar character with
  | [backslash, letter] => [backslash, letter]
  | _ => [character]

theorem codePoint?_hexDigits {character : Char} (low : character.toNat < 0x80) :
    codePoint? ['0', '0', Text.hexDigit (character.toNat / 16),
      Text.hexDigit (character.toNat % 16)] = some character := by
  have all : ∀ code < 0x80, codePoint? ['0', '0', Text.hexDigit (code / 16),
      Text.hexDigit (code % 16)] = some (Char.ofNat code) := by
    decide +kernel
  simpa using all character.toNat low

/-- A character between quotes is a pair with a backslash, a control character or itself. -/
theorem escapeChar_cases (character : Char) :
    (∃ letter, stringEscape? letter = some character ∧ escapeWidth? letter = none ∧
        escapeChar character = ['\\', letter] ∧ quotedChar character = ['\\', letter]) ∨
      (quotedChar character = [character] ∧ character ≠ '\\' ∧ character ≠ '"' ∧
        character ≠ '\n' ∧ character ≠ '\r' ∧
        (escapeChar character = [character] ∨
          character.toNat < 0x80 ∧ escapeChar character =
            ['\\', 'u', '0', '0', Text.hexDigit (character.toNat / 16),
              Text.hexDigit (character.toNat % 16)])) := by
  by_cases backspace : character = '\x08'
  · subst backspace
    exact .inl ⟨'b', rfl, rfl, rfl, rfl⟩
  by_cases tab : character = '\t'
  · subst tab
    exact .inl ⟨'t', rfl, rfl, rfl, rfl⟩
  by_cases feed : character = '\n'
  · subst feed
    exact .inl ⟨'n', rfl, rfl, rfl, rfl⟩
  by_cases formFeed : character = '\x0c'
  · subst formFeed
    exact .inl ⟨'f', rfl, rfl, rfl, rfl⟩
  by_cases carriageReturn : character = '\r'
  · subst carriageReturn
    exact .inl ⟨'r', rfl, rfl, rfl, rfl⟩
  by_cases quote : character = '"'
  · subst quote
    exact .inl ⟨'"', rfl, rfl, rfl, rfl⟩
  by_cases backslash : character = '\\'
  · subst backslash
    exact .inl ⟨'\\', rfl, rfl, rfl, rfl⟩
  refine .inr ?_
  by_cases control : character.toNat < 0x20 ∨ character.toNat = 0x7F
  · have escaped : escapeChar character =
        ['\\', 'u', '0', '0', Text.hexDigit (character.toNat / 16),
          Text.hexDigit (character.toNat % 16)] := by
      simp [escapeChar, backspace, tab, feed, formFeed, carriageReturn, quote, backslash, control]
    exact ⟨by simp [quotedChar, escaped], backslash, quote, feed, carriageReturn,
      .inr ⟨by omega, escaped⟩⟩
  · have escaped : escapeChar character = [character] := by
      simp [escapeChar, backspace, tab, feed, formFeed, carriageReturn, quote, backslash, control]
    exact ⟨by simp [quotedChar, escaped], backslash, quote, feed, carriageReturn, .inl escaped⟩

theorem unescape_escapeChar (character : Char) (after : List Char) :
    unescape (escapeChar character ++ after) = quotedChar character ++ unescape after := by
  rcases escapeChar_cases character with
    ⟨letter, -, noWidth, escaped, quoted⟩ | ⟨quoted, plain, -, -, -, escaped | ⟨low, escaped⟩⟩
  · rw [escaped, quoted]
    simp [unescape_backslash, escaped?, noWidth]
  · rw [escaped, quoted]
    simp [unescape_cons plain]
  · rw [escaped, quoted]
    simp [unescape_backslash, escaped?, escapeWidth?, codePoint?_hexDigits low]

theorem unescape_escaped (value after : List Char) :
    unescape (value.flatMap escapeChar ++ after) = value.flatMap quotedChar ++ unescape after := by
  induction value with
  | nil => rfl
  | cons character value induction =>
      rw [List.flatMap_cons, List.append_assoc, unescape_escapeChar, induction,
        List.flatMap_cons, List.append_assoc]

theorem readShort?_quotedChar (character : Char) (after : List Char) :
    readShort? '"' (quotedChar character ++ after) =
      (readShort? '"' after).map fun result => (character :: result.1, result.2) := by
  rcases escapeChar_cases character with
    ⟨letter, found, -, -, quoted⟩ | ⟨quoted, plain, noQuote, noFeed, noReturn, -⟩
  · rw [quoted]
    simp [readShort?, found]
  · rw [quoted, List.singleton_append, readShort?_cons plain]
    simp [plain, noQuote, noFeed, noReturn]

/-- What stands between quotes is read back, whatever it holds. -/
theorem readShort?_quoted (value after : List Char) :
    readShort? '"' (value.flatMap quotedChar ++ '"' :: after) = some (value, after) := by
  induction value with
  | nil => simp [readShort?_cons]
  | cons character value induction =>
      rw [List.flatMap_cons, List.append_assoc, readShort?_quotedChar, induction]
      rfl

/-- A quoted text is a single token unless a third quote stands behind an empty one. -/
theorem readToken?_quoted (value : List Char) {after : List Char}
    (noQuote : after.head? ≠ some '"') :
    readToken? ('"' :: (value.flatMap quotedChar ++ '"' :: after)) =
      some (.string (String.ofList value), after) := by
  have short : ['"', '"'].isPrefixOf (value.flatMap quotedChar ++ '"' :: after) = false := by
    cases value with
    | nil =>
        cases after with
        | nil => rfl
        | cons next after =>
            have differs : ('"' == next) = false :=
              beq_eq_false_iff_ne.mpr fun equality => noQuote (by simp [← equality])
            simp [List.isPrefixOf, differs]
    | cons character value =>
        rcases escapeChar_cases character with
          ⟨letter, -, -, -, quoted⟩ | ⟨quoted, -, noQuote, -⟩
        · simp [quoted, List.isPrefixOf]
        · have differs : ('"' == character) = false := beq_eq_false_iff_ne.mpr (Ne.symm noQuote)
          simp only [List.flatMap_cons, quoted, List.cons_append, List.isPrefixOf, differs,
            Bool.false_and]
  show readString? '"' _ = _
  unfold readString?
  simp only [short]
  rw [if_neg (by simp), readShort?_quoted]
  rfl

end FacetedQuery.Sparql.Token
