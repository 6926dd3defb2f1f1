import FacetedQuery.Proofs.Sparql.Query

/-!
# Names in namespaces

A namespace is open if every plain name behind it makes an absolute IRI.  Then it can be seen from
a name alone that it means something.
-/

namespace FacetedQuery

namespace Rdf.Iri

/-- The characters of plain names. -/
def isNameChar (character : Char) : Bool :=
  character.isAlphanum || character == '_' || character == '-'

/-- An IRI that plain names continue. -/
def IsOpen (start : List Char) : Prop :=
  ∀ name, (∀ character ∈ name, isNameChar character = true) →
    (check (start ++ name)).isOk = true

theorem readPart_of_all {allowed ends : Char → Bool} {text : List Char}
    (inside : ∀ character ∈ text, character ≠ '%' ∧ ends character = false ∧
      allowed character = true) :
    readPart allowed ends text = .ok [] := by
  induction text with
  | nil => rfl
  | cons character text induction =>
      obtain ⟨noEscape, goesOn, isAllowed⟩ := inside character (by simp)
      have further := induction fun other member => inside other (by simp [member])
      unfold readPart
      split
      · next equality => cases equality
      · next equality => exact absurd (List.cons.inj equality).1 noEscape
      · next equality =>
        obtain ⟨rfl, rfl⟩ := List.cons.inj equality
        rw [goesOn, isAllowed]
        exact further

theorem ne_of_isNameChar {character other : Char} (isName : isNameChar character = true)
    (outside : isNameChar other = false) : character ≠ other := by
  rintro rfl
  rw [isName] at outside
  cases outside

theorem isPlain_of_isNameChar {character : Char} (isName : isNameChar character = true) :
    isPlain character = true := by
  simp only [isNameChar, Bool.or_eq_true, beq_iff_eq] at isName
  rcases isName with (letter | rfl) | rfl
  · simp [isPlain, letter]
  · decide
  · decide

/-- A namespace whose names are segments of a path. -/
theorem isOpen_path {start : List Char} (reads : ∀ name, check (start ++ name) = readPath name) :
    IsOpen start := by
  intro name isName
  have whole : readPart isPathChar (fun character => character == '?' || character == '#') name =
      .ok [] := readPart_of_all fun character member => by
    have isName := isName character member
    refine ⟨ne_of_isNameChar isName (by decide),
      ?_, by simp [isPathChar, isPlain_of_isNameChar isName]⟩
    simp [ne_of_isNameChar isName (show isNameChar '?' = false by decide),
      ne_of_isNameChar isName (show isNameChar '#' = false by decide)]
  rw [reads, readPath, whole]
  rfl

/-- A namespace whose names are fragments. -/
theorem isOpen_fragment {start : List Char}
    (reads : ∀ name, check (start ++ name) = readFragment name) : IsOpen start := by
  intro name isName
  have whole : readPart isFragmentChar endsNever name = .ok [] :=
    readPart_of_all fun character member => by
      have isName := isName character member
      exact ⟨ne_of_isNameChar isName (by decide), rfl,
        by simp [isFragmentChar, isPathChar, isPlain_of_isNameChar isName]⟩
  rw [reads, readFragment, whole]
  rfl

end Rdf.Iri

namespace Sparql.Prologue

open Rdf.Iri (IsOpen isNameChar)

/-- A token that is fixed or a plain name with one of the given prefixes. -/
def isNamed (spaces : List String) : Token → Bool
  | .name (.prefixed space name) => spaces.contains space && name.toList.all isNameChar
  | token => isFixed token

/-- The prefixes stand for open namespaces. -/
def Opens (prologue : Prologue) (spaces : List String) : Prop :=
  ∀ space ∈ spaces, ∃ start, prologue.prefixes.lookup space = some start ∧ IsOpen start

theorem Opens.admits {prologue : Prologue} {spaces : List String} (opens : prologue.Opens spaces)
    {token : Token} (named : isNamed spaces token = true) : prologue.admits token = true := by
  unfold isNamed at named
  split at named
  · next space name =>
    simp only [Bool.and_eq_true, List.contains_iff_mem, List.all_eq_true] at named
    obtain ⟨start, declared, isOpen⟩ := opens space named.1
    have accepts : prologue.accepts (.prefixed space name) = isAbsolute (start ++ name.toList) := by
      rw [Prologue.accepts, declared]
    exact accepts.trans (isOpen _ named.2)
  · have fixed : [token].all isFixed = true := by simpa using named
    exact admits_of_isFixed fixed token (by simp)

end Sparql.Prologue

end FacetedQuery
