import FacetedQuery.Proofs.Clause.Reading

/-!
# Reading that stops too early

Where an operand ends too early, the rest of the tokens starts with something that no operator joins
and no bracket closes.  Whatever the operand is a part of then ends there as well, or cannot be
read.
-/

namespace FacetedQuery.Clause

open Sparql (Mark Reader Token)
open Sparql.Grammar
open Sparql.Reader hiding Agree

/-- What is read, if anything is, ends in front of one of the given tokens. -/
def Halts (allowed : List Token) (result : Option (α × List Token)) : Prop :=
  ∀ value rest, result = some (value, rest) → ∃ next ∈ allowed, rest.head? = some next

/-- The parenthesis behind a datatype that is no call. -/
def opened : List Token :=
  [.mark .openParen]

/-- What follows an operand that ends too early. -/
def parted : List Token :=
  .word "IN" :: opened

/-- What follows a part of a condition that ends too early. -/
def severed : List Token :=
  .mark .greaterEqual :: .mark .lessEqual :: parted

/-- What follows a condition that ends too early. -/
def broken : List Token :=
  .mark .doubleAnd :: severed

section

variable {allowed more tokens further rest : List Token} {result : Option (α × List Token)}
  {value : α} {next : Token}

theorem Halts.none : Halts allowed (none : Option (α × List Token)) := by
  simp [Halts]

theorem Halts.at (member : next ∈ allowed) (value : α) (rest : List Token) :
    Halts allowed (some (value, next :: rest)) := by
  rintro _ _ equality
  cases equality
  exact ⟨next, member, rfl⟩

theorem Halts.mono (halts : Halts allowed result) (subset : allowed ⊆ more) : Halts more result :=
  fun value rest equality =>
    (halts value rest equality).imp fun _ found => ⟨subset found.1, found.2⟩

theorem Halts.cases (halts : Halts allowed result) : result = Option.none ∨
    ∃ value next rest, next ∈ allowed ∧ result = some (value, next :: rest) := by
  cases result with
  | none => exact .inl rfl
  | some found =>
      obtain ⟨value, rest⟩ := found
      obtain ⟨next, member, head⟩ := halts value rest rfl
      obtain ⟨rest, rfl⟩ := List.head?_eq_some_iff.mp head
      exact .inr ⟨value, next, rest, member, rfl⟩

theorem opened_subset : opened ⊆ parted :=
  List.subset_cons_self _ _

theorem parted_subset : parted ⊆ severed := fun next member => by
  simp [severed, member]

theorem severed_subset : severed ⊆ broken :=
  List.subset_cons_self _ _

theorem mark_of_ne {expected : Mark} (other : next ≠ .mark expected) (rest : List Token) :
    mark expected (next :: rest) = none := by
  cases next with
  | mark found =>
      have different : found ≠ expected := fun same => other (by rw [same])
      simp [Sparql.Reader.mark, token, different]
  | _ => rfl

theorem many_of_stopped {separator : Mark} (apart : .mark separator ∉ allowed)
    (inside : next ∈ allowed) (operand : Reader α) (rest : List Token) :
    many (do mark separator; operand) (next :: rest) = some ([], next :: rest) :=
  many_of_none (by
    rw [bind_apply, mark_of_ne (ne_of_mem_of_not_mem inside apart)]
    rfl)

theorem chain_of_halts {separator : Mark} {combine : α → α → α} {operand : Reader α}
    (halts : Halts allowed (operand tokens)) (apart : .mark separator ∉ allowed) :
    Halts allowed (chain (mark separator) combine operand tokens) := by
  unfold chain
  rcases halts.cases with failed | ⟨value, next, rest, inside, read⟩
  · rw [bind_apply, failed]
    exact .none
  · rw [bind_apply, read, Option.bind_some, bind_apply, many_of_stopped apart inside]
    exact .at inside _ rest

/-- A chain of which the second operand ends too early. -/
theorem chain_of_halts_right {separator : Mark} {combine : α → α → α}
    {operand : Reader α} {left : α}
    (readLeft : operand tokens = some (left, .mark separator :: further))
    (halts : Halts allowed (operand further)) (apart : .mark separator ∉ allowed) :
    Halts (.mark separator :: allowed) (chain (mark separator) combine operand tokens) := by
  have isSeparator : mark separator (.mark separator :: further) = some ((), further) := by
    simp [Sparql.Reader.mark, token]
  have behind : (do mark separator; operand : Reader α) (.mark separator :: further) =
      operand further := by
    rw [bind_apply, isSeparator, Option.bind_some]
  unfold chain
  rw [bind_apply, readLeft, Option.bind_some, bind_apply]
  rcases halts.cases with failed | ⟨value, next, rest, inside, read⟩
  · rw [many_of_none (behind.trans failed)]
    exact .at (by simp) _ further
  · unfold many
    rw [List.length_cons, manyWithin_of_some (behind.trans read), manyWithin_of_none (by
      rw [bind_apply, mark_of_ne (ne_of_mem_of_not_mem inside apart)]
      rfl)]
    exact .at (by simp [inside]) _ rest

/-- What stands in parentheses has to be read up to the closing one. -/
theorem parenthesised_of_halts {item : Reader α} (halts : Halts allowed (item tokens))
    (apart : .mark .closeParen ∉ allowed) :
    parenthesised item (.mark .openParen :: tokens) = none := by
  have isOpen : mark .openParen (.mark .openParen :: tokens) = some ((), tokens) := rfl
  unfold parenthesised
  rw [bind_apply, isOpen, Option.bind_some, bind_apply]
  rcases halts.cases with failed | ⟨value, next, rest, inside, read⟩
  · rw [failed]
    rfl
  · rw [read, Option.bind_some, bind_apply, mark_of_ne (ne_of_mem_of_not_mem inside apart)]
    rfl

theorem separated_of_halts {item : Reader α} (halts : Halts allowed (item tokens))
    (apart : .mark .comma ∉ allowed) : Halts allowed (separated (mark .comma) item tokens) := by
  unfold separated
  rcases halts.cases with failed | ⟨value, next, rest, inside, read⟩
  · rw [bind_apply, failed]
    exact .none
  · rw [bind_apply, read, Option.bind_some, bind_apply, many_of_stopped apart inside]
    exact .at inside _ rest

/-- A list of which a further item cannot be read. -/
theorem separated_of_halts_further {item : Reader α} (takes : ∀ size, Advance size item item)
    (read : item tokens = some (value, .mark .comma :: further))
    (halts : Halts allowed (separated (mark .comma) item further))
    (joins : .mark .comma ∈ allowed) :
    Halts allowed (separated (mark .comma) item tokens) := by
  have isComma : mark .comma (.mark .comma :: further) = some ((), further) := rfl
  unfold separated at halts ⊢
  rw [bind_apply, read, Option.bind_some, bind_apply]
  cases head : item further with
  | none =>
      rw [many_of_none (by rw [bind_apply, isComma, Option.bind_some, head])]
      exact .at joins _ further
  | some found =>
      obtain ⟨values, rest, repeated⟩ := exists_many (do mark .comma; item) found.2
      have behind : (do mark .comma; item : Reader α) (.mark .comma :: further) = some found := by
        rw [bind_apply, isComma, Option.bind_some, head]
      have takesBoth : ∀ size, Advance size (do mark .comma; item) (do mark .comma; item) :=
        fun _ => .bind (.token _) fun _ => .ofAdvance (takes _)
      have whole : many (do mark .comma; item) (.mark .comma :: further) =
          some (found.1 :: values, rest) := by
        rw [many_of_some takesBoth behind, repeated]
        rfl
      rw [bind_apply, head, Option.bind_some, bind_apply, repeated] at halts
      obtain ⟨next, inside, start⟩ := halts (found.1 :: values) rest rfl
      rw [whole]
      rintro _ _ equality
      cases equality
      exact ⟨next, inside, start⟩

/-- A list that cannot be read is not an empty one either. -/
theorem listed_of_halts {item : Reader α}
    (halts : Halts allowed (separated (mark .comma) item tokens))
    (apart : .mark .closeParen ∉ allowed) (filled : mark .closeParen tokens = none) :
    listed item (.mark .openParen :: tokens) = none := by
  unfold listed
  rcases halts.cases with failed | ⟨values, next, rest, inside, read⟩
  · have isOpen : mark .openParen (.mark .openParen :: tokens) = some ((), tokens) := rfl
    unfold parenthesised
    rw [bind_apply, isOpen, Option.bind_some, bind_apply, orElse_apply, failed, Option.none_or,
      pure_apply, Option.bind_some, bind_apply, filled]
    rfl
  · have halts : Halts allowed ((separated (mark .comma) item <|> pure []) tokens) := by
      rw [orElse_apply, read]
      exact .at inside _ rest
    exact parenthesised_of_halts halts apart

end

section

variable {readers : Readers} {tokens rest further : List Token} {value left : Sparql.Expression}

/-- No factor and no term stands behind an operand that ends too early. -/
theorem sum_of_halts (unsigned : unaryOperator tokens = none)
    (halts : Halts opened (primary readers tokens)) : Halts opened (sum readers tokens) := by
  have noSign : Reader.maybe unaryOperator tokens = some (none, tokens) := by
    unfold Reader.maybe
    rw [orElse_apply, map_apply, unsigned]
    rfl
  unfold sum product unary
  rcases halts.cases with failed | ⟨value, next, rest, member, read⟩
  · rw [bind_apply, bind_apply, bind_apply, noSign, Option.bind_some, bind_apply, failed]
    exact .none
  · obtain rfl : next = .mark .openParen := by simpa [opened] using member
    rw [bind_apply, bind_apply, bind_apply, noSign, Option.bind_some, bind_apply, read]
    exact .at member _ rest

theorem relation_of_halts (halts : Halts opened (sum readers tokens)) :
    Halts opened (relation readers tokens) := by
  unfold relation
  rcases halts.cases with failed | ⟨value, next, rest, member, read⟩
  · rw [bind_apply, failed]
    exact .none
  · obtain rfl : next = .mark .openParen := by simpa [opened] using member
    rw [bind_apply, read]
    exact .at member value rest

/-- A comparison of which the second part ends too early. -/
theorem relation_of_halts_right {sign : Mark} {operator : Sparql.BinaryOperator}
    (compares : Compares sign operator)
    (readLeft : sum readers tokens = some (left, .mark sign :: further))
    (halts : Halts parted (sum readers further)) : Halts severed (relation readers tokens) := by
  have isSign : comparison (.mark sign :: further) = some (operator, further) := by
    cases compares <;> rfl
  unfold relation
  rw [bind_apply, readLeft, Option.bind_some, orElse_apply, bind_apply, isSign, Option.bind_some,
    bind_apply]
  rcases halts.cases with failed | ⟨value, next, rest, member, read⟩
  · rw [failed]
    exact .at (by cases compares <;> simp [severed]) left further
  · rw [read]
    exact .at (parted_subset member) _ rest

/-- A membership whose list cannot be read. -/
theorem relation_of_refused_list
    (readValue : sum readers tokens = some (value, .word "IN" :: further))
    (refused : listed readers.expression further = none) :
    Halts severed (relation readers tokens) := by
  have noSign : comparison (.word "IN" :: further) = none := rfl
  have isWord : word "IN" (.word "IN" :: further) = some ((), further) := rfl
  have noNegation : word "NOT" (.word "IN" :: further) = none := rfl
  unfold relation
  rw [bind_apply, readValue, Option.bind_some, orElse_apply, bind_apply, noSign, Option.bind_none,
    Option.none_or, orElse_apply, bind_apply, isWord, Option.bind_some, map_apply, refused,
    orElse_apply, bind_apply, noNegation]
  exact .at (by simp [severed, parted]) value further

theorem expression_of_halts (halts : Halts severed (relation readers tokens)) :
    Halts broken (expressionWith readers tokens) :=
  chain_of_halts ((chain_of_halts halts (by decide)).mono severed_subset) (by decide)

theorem expression_of_halts_right
    (readLeft : relation readers tokens = some (left, .mark .doubleAnd :: further))
    (halts : Halts severed (relation readers further)) :
    Halts broken (expressionWith readers tokens) :=
  chain_of_halts (chain_of_halts_right readLeft halts (by decide)) (by decide)

theorem primary_of_halts (halts : Halts broken (readers.expression tokens)) :
    primary readers (.mark .openParen :: tokens) = none := by
  unfold primary
  rw [orElse_apply, parenthesised_of_halts halts (by decide)]
  rfl

theorem constraint_of_halts (halts : Halts broken (readers.expression tokens)) :
    constraint readers (.mark .openParen :: tokens) = none := by
  unfold constraint
  rw [orElse_apply, parenthesised_of_halts halts (by decide)]
  rfl

theorem primary_of_refused_call (function : Builtin) {arity : Sparql.Arity}
    (known : Sparql.arity? function.name = some arity)
    (refused : listed readers.expression tokens = none) :
    primary readers (.word function.name :: tokens) = none := by
  rw [primary_builtin function known, refused, Option.bind_none]

theorem primary_of_refused_cast (name : Sparql.IriName) (plain : word "DISTINCT" tokens = none)
    (refused : listed readers.expression (.mark .openParen :: tokens) = none) :
    Halts opened (primary readers (.name name :: .mark .openParen :: tokens)) := by
  rw [primary_resource name plain, refused]
  exact .at (by simp [opened]) _ tokens

end

end FacetedQuery.Clause
