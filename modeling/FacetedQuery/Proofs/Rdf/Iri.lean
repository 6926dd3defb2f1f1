import FacetedQuery.Proofs.Outcome
import FacetedQuery.Rdf.Iri
import FacetedQuery.Sparql.Token

/-!
# Characters of IRIs

An absolute IRI holds none of the characters that end it in a query, and its scheme ends in a
colon, which no placeholder holds.
-/

namespace FacetedQuery.Rdf

open Sparql.Token (isIriExcluded)

/-- A text without the characters that may not stand in angle brackets. -/
def Enclosable (text : List Char) : Prop :=
  ∀ character ∈ text, isIriExcluded character = false

theorem Enclosable.append {text more : List Char} (first : Enclosable text)
    (second : Enclosable more) : Enclosable (text ++ more) := by
  intro character member
  rcases List.mem_append.mp member with member | member
  · exact first character member
  · exact second character member

theorem Enclosable.cons {character : Char} {text : List Char}
    (plain : isIriExcluded character = false) (rest : Enclosable text) :
    Enclosable (character :: text) := by
  intro other member
  rcases List.mem_cons.mp member with rfl | member
  · exact plain
  · exact rest other member

/-- A text that is enclosable if what is left of it is. -/
def Reduces (text rest : List Char) : Prop :=
  Enclosable rest → Enclosable text

theorem Reduces.refl (text : List Char) : Reduces text text :=
  id

theorem Reduces.trans {text middle rest : List Char} (first : Reduces text middle)
    (second : Reduces middle rest) : Reduces text rest :=
  fun enclosable => first (second enclosable)

theorem Reduces.cons {character : Char} {text rest : List Char}
    (plain : isIriExcluded character = false) (reduces : Reduces text rest) :
    Reduces (character :: text) rest :=
  fun enclosable => (reduces enclosable).cons plain

/-- None of the characters of a kind is excluded from angle brackets. -/
def Allowable (kind : Char → Bool) : Prop :=
  ∀ character, kind character = true → isIriExcluded character = false

theorem toNat_lt_of_excluded {character : Char} (excluded : isIriExcluded character = true) :
    character.toNat < 0x7F := by
  simp only [isIriExcluded, Bool.or_eq_true, decide_eq_true_eq, beq_iff_eq] at excluded
  rcases excluded with ((((((((low | rfl) | rfl) | rfl) | rfl) | rfl) | rfl) | rfl) | rfl) | rfl
  · omega
  all_goals decide

theorem allowable_of_ascii {kind : Char → Bool}
    (ascii : ∀ code < 0x7F, isIriExcluded (Char.ofNat code) = true →
      kind (Char.ofNat code) = false) : Allowable kind := by
  intro character inside
  refine Bool.eq_false_iff.mpr fun excluded => ?_
  have outside := ascii character.toNat (toNat_lt_of_excluded excluded)
  rw [Char.ofNat_toNat] at outside
  simp [outside excluded] at inside

/-- The kinds of characters of which the parts of IRIs consist. -/
def partKinds : List (Char → Bool) :=
  [HostAddress.isHexDigit, Char.isDigit, Iri.isPlain, Iri.isPathChar, Iri.isQueryChar,
    Iri.isFragmentChar, Iri.isSchemeChar, fun character =>
    Iri.isPlain character || character == ':']

theorem allowable_of_mem {kind : Char → Bool} (member : kind ∈ partKinds) : Allowable kind := by
  have ascii : ∀ kind ∈ partKinds, ∀ code < 0x7F, isIriExcluded (Char.ofNat code) = true →
      kind (Char.ofNat code) = false := by
    decide +kernel
  exact allowable_of_ascii (ascii kind member)

theorem Reduces.dropWhile {kind : Char → Bool} (allowable : Allowable kind)
    (text : List Char) : Reduces text (text.dropWhile kind) := by
  intro rest
  rw [← List.takeWhile_append_dropWhile (p := kind) (l := text)]
  refine Enclosable.append ?_ rest
  intro character member
  exact allowable character (List.all_eq_true.mp List.all_takeWhile character member)

namespace HostAddress

theorem isHexDigit_allowable : Allowable isHexDigit :=
  allowable_of_mem (by simp [partKinds])

theorem isDigit_allowable : Allowable Char.isDigit :=
  allowable_of_mem (by simp [partKinds])

theorem readGroup?_reduces {text rest : List Char} (read : readGroup? text = some rest) :
    Reduces text rest := by
  simp only [readGroup?] at read
  split at read
  · cases read
    exact .dropWhile isHexDigit_allowable text
  · cases read

theorem readOctet?_reduces {text rest : List Char} (read : readOctet? text = some rest) :
    Reduces text rest := by
  simp only [readOctet?] at read
  split at read
  · cases read
    exact .dropWhile isDigit_allowable text
  · cases read

theorem readOctets?_reduces {count : Nat} {text rest : List Char}
    (read : readOctets? count text = some rest) : Reduces text rest := by
  fun_induction readOctets? count text with
  | case1 text =>
      cases read
      exact .refl _
  | case2 text => exact readOctet?_reduces read
  | case3 text count after first induction =>
      exact (readOctet?_reduces first).trans ((induction read).cons (by decide))
  | case4 => cases read

theorem groupBody_reduces {first : Bool} {text body : List Char}
    (found : (match first, text with
      | true, _ => some text
      | false, ':' :: rest => some rest
      | false, _ => none) = some body) : Reduces text body := by
  split at found
  · cases found
    exact .refl _
  · cases found
    exact (Reduces.refl _).cons (by decide)
  · cases found

theorem readGroups_reduces (limit : Nat) (first : Bool) (text : List Char) :
    Reduces text (readGroups limit first text).rest := by
  fun_induction readGroups limit first text with
  | case1 => exact .refl _
  | case2 => exact .refl _
  | case3 limit first text body? body found rest octets =>
      split at octets
      · cases octets
      · exact (groupBody_reduces found).trans (readOctets?_reduces octets)
  | case4 => exact .refl _
  | case5 limit first text body? body found _ rest group run induction =>
      exact ((groupBody_reduces found).trans (readGroup?_reduces group)).trans induction

theorem isVersion6_enclosable {text : List Char} (accepted : isVersion6 text = true) :
    Enclosable text := by
  have reduces := readGroups_reduces 8 true text
  simp only [isVersion6] at accepted
  split at accepted
  · exact reduces (by simp [List.isEmpty_iff.mp accepted, Enclosable])
  · split at accepted
    · cases accepted
    · split at accepted
      · next rest equality =>
        rw [equality] at reduces
        have more := readGroups_reduces (7 - (readGroups 8 true text).count) true rest
        have enclosable := more (by simp [List.isEmpty_iff.mp accepted, Enclosable])
        exact reduces ((enclosable.cons (by decide)).cons (by decide))
      · cases accepted

end HostAddress

namespace Iri

theorem isPlain_allowable : Allowable isPlain :=
  allowable_of_mem (by simp [partKinds])

theorem isPathChar_allowable : Allowable isPathChar :=
  allowable_of_mem (by simp [partKinds])

theorem isQueryChar_allowable : Allowable isQueryChar :=
  allowable_of_mem (by simp [partKinds])

theorem isFragmentChar_allowable : Allowable isFragmentChar :=
  allowable_of_mem (by simp [partKinds])

theorem isSchemeChar_allowable : Allowable isSchemeChar :=
  allowable_of_mem (by simp [partKinds])

theorem readPart_reduces {allowed ends : Char → Bool} (allowable : Allowable allowed)
    {text rest : List Char} (read : readPart allowed ends text = .ok rest) :
    Reduces text rest := by
  fun_induction readPart allowed ends text with
  | case1 =>
      cases read
      exact .refl _
  | case2 first second after digits induction =>
      rw [Bool.and_eq_true] at digits
      exact (((induction read).cons (HostAddress.isHexDigit_allowable _ digits.2)).cons
        (HostAddress.isHexDigit_allowable _ digits.1)).cons (by decide)
  | case3 => cases read
  | case4 => cases read
  | case5 =>
      cases read
      exact .refl _
  | case6 character rest _ _ inside induction =>
      exact (induction read).cons (allowable _ inside)
  | case7 => cases read

theorem readPart_rest {allowed ends : Char → Bool} {text rest : List Char}
    (read : readPart allowed ends text = .ok rest) : ∀ character ∈ rest.head?, ends character := by
  fun_induction readPart allowed ends text with
  | case1 =>
      cases read
      simp
  | case2 first second after digits induction => exact induction read
  | case3 => cases read
  | case4 => cases read
  | case5 =>
      cases read
      simpa
  | case6 character rest _ _ inside induction => exact induction read
  | case7 => cases read

/-- A reader that takes a text to its end refuses every text that may not be enclosed. -/
def Encloses (reader : List Char → Except IriFault Unit) : Prop :=
  ∀ text, reader text = .ok () → Enclosable text

theorem enclosable_nil : Enclosable [] := by
  simp [Enclosable]

theorem readFragment_encloses : Encloses readFragment := by
  intro text read
  obtain ⟨rest, part, -⟩ := Outcome.bind_eq_ok.mp read
  have reduces := readPart_reduces isFragmentChar_allowable part
  cases rest with
  | nil => exact reduces enclosable_nil
  | cons character rest => simpa [endsNever] using readPart_rest part

theorem readQuery_encloses : Encloses readQuery := by
  intro text read
  obtain ⟨rest, part, further⟩ := Outcome.bind_eq_ok.mp read
  have reduces := readPart_reduces isQueryChar_allowable part
  cases rest with
  | nil => exact reduces enclosable_nil
  | cons character rest =>
      obtain rfl : character = '#' := by simpa using readPart_rest part
      exact reduces ((readFragment_encloses rest further).cons (by decide))

theorem readPath_encloses : Encloses readPath := by
  intro text read
  obtain ⟨rest, part, further⟩ := Outcome.bind_eq_ok.mp read
  have reduces := readPart_reduces isPathChar_allowable part
  cases rest with
  | nil => exact reduces enclosable_nil
  | cons character rest =>
      rcases (by simpa using readPart_rest part : character = '?' ∨ character = '#') with rfl | rfl
      · exact reduces ((readQuery_encloses rest further).cons (by decide))
      · exact reduces ((readFragment_encloses rest further).cons (by decide))

theorem readPort_encloses : Encloses readPort := by
  intro text read
  fun_induction readPort text with
  | case1 => exact enclosable_nil
  | case2 character rest isDigit induction =>
      exact (induction read).cons (HostAddress.isDigit_allowable _ isDigit)
  | case3 => exact readPath_encloses _ read
  | case4 => cases read

theorem checkFutureAddress_encloses : Encloses checkFutureAddress := by
  intro text read
  have reduces := Reduces.dropWhile HostAddress.isHexDigit_allowable text
  simp only [checkFutureAddress] at read
  split at read
  · cases read
  · next rest dropped =>
    rw [dropped] at reduces
    split at read
    · cases read
    · cases read
    · cases read
    · split at read
      · cases read
      · next none =>
        refine reduces (Enclosable.cons (by decide) fun character member => ?_)
        have inside := List.find?_eq_none.mp none character member
        by_cases plain : isPlain character = true
        · exact isPlain_allowable character plain
        · obtain rfl : character = ':' := by simpa [plain] using inside
          decide
  · cases read

theorem checkAddress_encloses : Encloses checkAddress := by
  intro text read
  unfold checkAddress at read
  split at read
  · exact (checkFutureAddress_encloses _ read).cons (by decide)
  · exact (checkFutureAddress_encloses _ read).cons (by decide)
  · split at read
    · next accepted => exact HostAddress.isVersion6_enclosable accepted
    · cases read

theorem readAfterAddress_encloses : Encloses readAfterAddress := by
  intro text read
  unfold readAfterAddress at read
  split at read
  · exact enclosable_nil
  · exact (readPort_encloses _ read).cons (by decide)
  · split at read
    · exact readPath_encloses _ read
    · cases read

theorem readHost_encloses : Encloses readHost := by
  intro text read
  unfold readHost at read
  split at read
  · next rest =>
    split at read
    · cases read
    · next first after dropped =>
      obtain ⟨_, address, further⟩ := Outcome.bind_eq_ok.mp read
      have bracket : first = ']' := by
        have outside := List.head?_dropWhile_not (· != ']') rest
        rw [dropped] at outside
        simpa using outside
      refine Enclosable.cons (by decide) ?_
      rw [← List.takeWhile_append_dropWhile (p := (· != ']')) (l := rest), dropped, bracket]
      exact (checkAddress_encloses _ address).append
        ((readAfterAddress_encloses _ further).cons (by decide))
  · obtain ⟨rest, part, further⟩ := Outcome.bind_eq_ok.mp read
    have reduces := readPart_reduces isPlain_allowable part
    split at further
    · exact reduces enclosable_nil
    · exact reduces ((readPort_encloses _ further).cons (by decide))
    · exact reduces (readPath_encloses _ further)

theorem isUserChar_allowable : Allowable fun character => isPlain character || character == ':' :=
  allowable_of_mem (by simp [partKinds])

theorem readAuthority_encloses : Encloses readAuthority := by
  intro text read
  obtain ⟨rest, part, further⟩ := Outcome.bind_eq_ok.mp read
  have reduces := readPart_reduces isUserChar_allowable part
  split at further
  · exact reduces ((readHost_encloses _ further).cons (by decide))
  · exact readHost_encloses _ further

theorem readHierarchy_encloses : Encloses readHierarchy := by
  intro text read
  unfold readHierarchy at read
  split at read
  · exact ((readAuthority_encloses _ read).cons (by decide)).cons (by decide)
  · exact readPath_encloses _ read

/-- An absolute IRI starts with a scheme and its colon. -/
theorem exists_scheme {text : String} (accepted : accepts text = true) :
    ∃ rest, text.toList.dropWhile isSchemeChar = ':' :: rest ∧ Enclosable rest := by
  unfold accepts at accepted
  split at accepted
  · next _ read =>
    unfold check at read
    split at read
    · next rest scheme =>
      have enclosable := readHierarchy_encloses rest read
      unfold afterScheme? at scheme
      split at scheme
      · cases scheme
      · split at scheme
        · split at scheme
          · next colon =>
            cases scheme
            exact ⟨_, colon, enclosable⟩
          · cases scheme
        · cases scheme
    · split at read
      · cases read
      · obtain ⟨_, -, refused⟩ := Outcome.bind_eq_ok.mp read
        cases refused
  · cases accepted

/-- Reading keeps the text. -/
theorem ofText_eq_ok {text : String} {iri : Iri} : ofText text = .ok iri ↔ iri.text = text := by
  unfold ofText
  split
  · next wellFormed =>
    rw [Except.ok.injEq, Iri.mk.injEq, eq_comm]
  · next refused =>
    constructor
    · split <;> nofun
    · rintro rfl
      exact absurd iri.wellFormed refused

theorem text_injective : Function.Injective Iri.text := by
  rintro ⟨text, wellFormed⟩ ⟨_, _⟩ rfl
  rfl

theorem colon_mem (iri : Iri) : ':' ∈ iri.text.toList := by
  obtain ⟨rest, colon, -⟩ := exists_scheme iri.wellFormed
  exact (List.dropWhile_suffix _).subset (colon ▸ List.mem_cons_self)

theorem enclosable (iri : Iri) : Enclosable iri.text.toList := by
  obtain ⟨rest, colon, enclosable⟩ := exists_scheme iri.wellFormed
  have reduces := Reduces.dropWhile isSchemeChar_allowable iri.text.toList
  rw [colon] at reduces
  exact reduces (enclosable.cons (by decide))

end Iri

end FacetedQuery.Rdf
