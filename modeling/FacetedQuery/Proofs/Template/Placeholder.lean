import FacetedQuery.Proofs.Rdf.Iri
import FacetedQuery.Proofs.Sparql.Escape
import FacetedQuery.Proofs.Text.Lines

/-!
# Placeholders

Where a text holds placeholders.  A text can be cut in front of any character that is no part of
one; an IRI is none because of the colon of its scheme.
-/

namespace FacetedQuery.Template

/-- A text that starts with a placeholder. -/
def OpensPlaceholder (text : List Char) : Prop :=
  ∃ first name rest, text = '<' :: (first :: name ++ '>' :: rest) ∧ first.isUpper = true ∧
    ∀ character ∈ name, isNameChar character = true

/-- A text without placeholders. -/
def Free (text : List Char) : Prop :=
  firstPlaceholder? text = none

instance (text : List Char) : Decidable (Free text) :=
  inferInstanceAs (Decidable (_ = none))

/-- The characters of a placeholder behind its first one. -/
def isInside (character : Char) : Bool :=
  isNameChar character || character == '>'

theorem isNameChar_of_isUpper {character : Char} (upper : character.isUpper = true) :
    isNameChar character = true := by
  simp [isNameChar, upper]

/-- All of a placeholder but its first character is inside of it. -/
theorem isInside_of_mem {first : Char} {name : List Char} (upper : first.isUpper = true)
    (inside : ∀ character ∈ name, isNameChar character = true) :
    ∀ character ∈ first :: name ++ ['>'], isInside character = true := by
  intro character member
  rcases List.mem_append.mp member with member | member
  · rcases List.mem_cons.mp member with rfl | member
    · simp [isInside, isNameChar_of_isUpper upper]
    · simp [isInside, inside character member]
  · obtain rfl : character = '>' := by simpa using member
    rfl

theorem opensPlaceholder_of_placeholderAt? {text : List Char}
    (found : placeholderAt? text ≠ none) : OpensPlaceholder text := by
  unfold placeholderAt? at found
  split at found
  · next rest =>
    split at found
    · next first name after taken dropped =>
      split at found
      · next upper =>
        refine ⟨first, name, after, ?_, upper, ?_⟩
        · rw [← dropped, ← taken, List.takeWhile_append_dropWhile]
        · intro character member
          have inside : character ∈ rest.takeWhile isNameChar := by simp [taken, member]
          exact List.all_eq_true.mp List.all_takeWhile character inside
      · exact absurd rfl found
    · exact absurd rfl found
  · exact absurd rfl found

theorem placeholderAt?_of_opensPlaceholder {text : List Char} (opens : OpensPlaceholder text) :
    placeholderAt? text ≠ none := by
  obtain ⟨first, name, rest, rfl, upper, inside⟩ := opens
  have names : ∀ character ∈ first :: name, isNameChar character = true := by
    simpa [isNameChar_of_isUpper upper] using inside
  have stops : Sparql.Token.Stops isNameChar ('>' :: rest) := by
    intro character member
    obtain rfl : '>' = character := by simpa using member
    decide
  have taken := Sparql.Token.takeWhile_append_eq_left names stops
  have dropped := Sparql.Token.dropWhile_append_eq_right names stops
  simp only [placeholderAt?, taken, dropped, upper, if_true]
  exact Option.some_ne_none _

theorem free_nil : Free [] :=
  rfl

theorem free_cons {character : Char} {text : List Char} :
    Free (character :: text) ↔ ¬OpensPlaceholder (character :: text) ∧ Free text := by
  unfold Free
  rw [firstPlaceholder?]
  constructor
  · intro noPlace
    split at noPlace
    · cases noPlace
    · next closed =>
      exact ⟨fun opens => placeholderAt?_of_opensPlaceholder opens closed, noPlace⟩
  · rintro ⟨closed, noPlace⟩
    cases found : placeholderAt? (character :: text) with
    | none => exact noPlace
    | some name => exact absurd (opensPlaceholder_of_placeholderAt? (by simp [found])) closed

/-- What stands behind a character that is no part of a placeholder does not matter. -/
theorem OpensPlaceholder.of_append {character : Char} {text after : List Char}
    (outside : ∀ next ∈ after.head?, isInside next = false)
    (opens : OpensPlaceholder (character :: text ++ after)) :
    OpensPlaceholder (character :: text) := by
  obtain ⟨first, name, rest, equality, upper, inside⟩ := opens
  obtain ⟨rfl, behind⟩ : character = '<' ∧ text ++ after = (first :: name ++ ['>']) ++ rest := by
    simpa using equality
  have insides := isInside_of_mem upper inside
  rcases List.append_eq_append_iff.mp behind with ⟨more, shorter, further⟩ | ⟨more, longer, -⟩
  · cases more with
    | nil =>
        rw [List.append_nil] at shorter
        exact ⟨first, name, [], by simp [← shorter], upper, inside⟩
    | cons next more =>
        have isIn := insides next (by simp [shorter])
        simp [outside next (by simp [further])] at isIn
  · exact ⟨first, name, more, by simp [longer], upper, inside⟩

theorem OpensPlaceholder.append {text : List Char} (opens : OpensPlaceholder text)
    (after : List Char) : OpensPlaceholder (text ++ after) := by
  obtain ⟨first, name, rest, rfl, upper, inside⟩ := opens
  exact ⟨first, name, rest ++ after, by simp, upper, inside⟩

theorem free_append {text after : List Char}
    (outside : ∀ next ∈ after.head?, isInside next = false) :
    Free (text ++ after) ↔ Free text ∧ Free after := by
  induction text with
  | nil => simp [free_nil]
  | cons character text induction =>
      rw [List.cons_append, free_cons, free_cons, induction, ← List.cons_append, and_assoc]
      constructor
      · rintro ⟨closed, rest⟩
        exact ⟨fun opens => closed (opens.append after), rest⟩
      · rintro ⟨closed, rest⟩
        exact ⟨fun opens => closed (opens.of_append outside), rest⟩

theorem free_of_not_mem {text : List Char} (plain : '<' ∉ text) : Free text := by
  induction text with
  | nil => exact free_nil
  | cons character text induction =>
      simp only [List.mem_cons, not_or] at plain
      refine free_cons.mpr ⟨?_, induction plain.2⟩
      rintro ⟨_, _, _, equality, -⟩
      exact plain.1 (List.cons.inj equality).1.symm

theorem free_cons_of_ne {character : Char} (plain : character ≠ '<') {text : List Char} :
    Free (character :: text) ↔ Free text := by
  rw [free_cons, and_iff_right]
  rintro ⟨_, _, _, equality, -⟩
  exact plain (List.cons.inj equality).1

theorem free_append_of_not_mem {text after : List Char} (plain : '<' ∉ text)
    (free : Free after) : Free (text ++ after) := by
  induction text with
  | nil => exact free
  | cons character text induction =>
      simp only [List.mem_cons, not_or] at plain
      exact (free_cons_of_ne (Ne.symm plain.1)).mpr (induction plain.2)

/-- Indenting makes no placeholder. -/
theorem free_indent {indentation : List Char} (plain : '<' ∉ indentation) {text : List Char}
    (free : Free text) : Free (indent indentation text) := by
  induction length : text.length using Nat.strongRecOn generalizing text with
  | ind length induction =>
      subst length
      by_cases feed : '\n' ∈ text
      · obtain ⟨line, rest, rfl, onLine⟩ := List.eq_append_cons_of_mem feed
        obtain ⟨freeLine, freeRest⟩ := (free_append (by simp; decide)).mp free
        have further := induction rest.length (by simp; omega)
          ((free_cons_of_ne (by decide)).mp freeRest) rfl
        have split : indent indentation (line ++ '\n' :: rest) =
            line ++ '\n' :: (indentation ++ indent indentation rest) := by
          rw [Text.indent_append, Text.indent_of_line onLine]
          simp [indent]
        rw [split]
        exact (free_append (by simp; decide)).mpr
          ⟨freeLine, (free_cons_of_ne (by decide)).mpr (free_append_of_not_mem plain further)⟩
      · rw [Text.indent_of_line feed]
        exact free

open Rdf.Literal (escapeChar)
open Sparql.Token (escapeChar_cases)

/-- The colon of its scheme tells an IRI from a placeholder. -/
theorem free_iri (iri : Rdf.Iri) : Free ('<' :: (iri.text.toList ++ ['>'])) := by
  have enclosable := iri.enclosable
  have hasColon := iri.colon_mem
  have noClosing : '>' ∉ iri.text.toList := fun member =>
    absurd (enclosable '>' member) (by decide)
  have noOpening : '<' ∉ iri.text.toList := fun member =>
    absurd (enclosable '<' member) (by decide)
  refine free_cons.mpr ⟨?_, free_of_not_mem (by simpa using noOpening)⟩
  rintro ⟨first, name, after, equality, upper, inside⟩
  have behind : iri.text.toList ++ ['>'] = (first :: name) ++ '>' :: after := by
    simpa using equality
  have noColon : ':' ∉ first :: name := by
    intro member
    rcases List.mem_cons.mp member with rfl | member
    · cases upper
    · cases inside ':' member
  rcases List.append_eq_append_iff.mp behind with ⟨more, longer, -⟩ | ⟨more, shorter, further⟩
  · exact noColon (longer ▸ List.mem_append_left more hasColon)
  · cases more with
    | nil => exact noColon (by simpa [shorter] using hasColon)
    | cons next more =>
        obtain ⟨rfl, -⟩ := List.cons.inj further
        exact noClosing (by simp [shorter])

theorem hexDigit_ne_bracket {digit : Nat} (low : digit < 16) : Text.hexDigit digit ≠ '<' := by
  have all : ∀ digit < 16, Text.hexDigit digit ≠ '<' := by decide
  exact all digit low

theorem bracket_not_mem_escapeChar {character : Char} (plain : character ≠ '<') :
    '<' ∉ escapeChar character := by
  rcases escapeChar_cases character with
    ⟨letter, found, -, escaped, -⟩ | ⟨-, -, -, -, -, escaped | ⟨low, escaped⟩⟩
  · rw [escaped]
    have different : '<' ≠ letter := by
      rintro rfl
      cases found
    simpa using different
  · rw [escaped]
    simpa using Ne.symm plain
  · rw [escaped]
    have first := hexDigit_ne_bracket (show character.toNat / 16 < 16 by omega)
    have second := hexDigit_ne_bracket (show character.toNat % 16 < 16 by omega)
    simp [Ne.symm first, Ne.symm second]

theorem free_escaped_of_not_mem {value after : List Char} (plain : '<' ∉ value)
    (free : Free after) (outside : ∀ next ∈ after.head?, isInside next = false) :
    Free (value.flatMap escapeChar ++ after) := by
  refine (free_append outside).mpr ⟨free_of_not_mem ?_, free⟩
  intro member
  obtain ⟨character, inside, member⟩ := List.mem_flatMap.mp member
  exact bracket_not_mem_escapeChar (by rintro rfl; exact plain inside) member

theorem free_cons_of_not_isUpper {character : Char} {text : List Char} (free : Free text)
    (small : ∀ next ∈ text.head?, next.isUpper = false) : Free (character :: text) := by
  refine free_cons.mpr ⟨?_, free⟩
  rintro ⟨first, name, rest, equality, upper, -⟩
  obtain ⟨-, rfl⟩ := List.cons.inj equality
  simp [small first (by simp)] at upper

/-- A quoted text without a capital letter. -/
theorem free_escaped_of_not_isUpper {value after : List Char}
    (small : ∀ character ∈ value, character.isUpper = false) (free : Free after)
    (outside : ∀ next ∈ after.head?, next.isUpper = false) :
    Free (value.flatMap escapeChar ++ after) ∧
      ∀ next ∈ (value.flatMap escapeChar ++ after).head?, next.isUpper = false := by
  induction value with
  | nil => exact ⟨free, outside⟩
  | cons character value induction =>
      obtain ⟨freeRest, smallRest⟩ := induction fun other member => small other (by simp [member])
      rw [List.flatMap_cons, List.append_assoc]
      by_cases bracket : character = '<'
      · subst bracket
        exact ⟨free_cons_of_not_isUpper freeRest smallRest, by simp [escapeChar]⟩
      · refine ⟨free_append_of_not_mem (bracket_not_mem_escapeChar bracket) freeRest, ?_⟩
        have smallFirst := small character (by simp)
        rcases escapeChar_cases character with
          ⟨letter, -, -, escaped, -⟩ | ⟨-, -, -, -, -, escaped | ⟨-, escaped⟩⟩
        · simp [escaped]
        · simpa [escaped] using smallFirst
        · simp [escaped]

end FacetedQuery.Template
