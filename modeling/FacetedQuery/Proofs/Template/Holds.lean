import FacetedQuery.Proofs.Template.Sheet

/-!
# The placeholders of a text

The names that stand between angle brackets in a text.  Filling in a placeholder keeps all other
names and adds those of the value.  A sealed value completes no name together with what stands next
to it, so that two sealed values without placeholders leave the same names.
-/

namespace FacetedQuery.Template

variable {text more value name : List Char} {placeholder : Placeholder}

/-- What stands between the brackets of a placeholder. -/
structure IsName (name : List Char) : Prop where
  upper : ∃ first ∈ name.head?, first.isUpper = true
  inside : ∀ character ∈ name, isNameChar character = true

theorem isName_name (placeholder : Placeholder) : IsName placeholder.name.toList := by
  refine ⟨⟨placeholder.name.toList.headD 'A', ?_, ?_⟩, ?_⟩ <;> cases placeholder <;> decide

/-- A name between brackets. -/
def bracketed (name : List Char) : List Char :=
  '<' :: (name ++ ['>'])

theorem toList_token (placeholder : Placeholder) :
    placeholder.token.toList = bracketed placeholder.name.toList := by
  simp [Placeholder.token, bracketed]

theorem name_injective {other : Placeholder}
    (same : placeholder.name.toList = other.name.toList) : placeholder = other :=
  token_injective (by rw [toList_token, toList_token, same])

theorem IsName.closing_not_mem (isName : IsName name) : '>' ∉ name :=
  fun member => absurd (isName.inside '>' member) (by decide)

theorem IsName.feed_not_mem (isName : IsName name) : '\n' ∉ bracketed name := by
  intro member
  have inside : '\n' ∈ name := by simpa [bracketed] using member
  exact absurd (isName.inside '\n' inside) (by decide)

theorem IsName.opening_not_mem (isName : IsName name) : '<' ∉ name ++ ['>'] := by
  intro member
  have inside : '<' ∈ name := by simpa using member
  exact absurd (isName.inside '<' inside) (by decide)

theorem IsName.unique {other : List Char} (isName : IsName name) (isOther : IsName other)
    (here : bracketed name <+: bracketed other ++ more) : name = other := by
  have behind : name ++ ['>'] <+: other ++ '>' :: more := by
    simpa [bracketed] using here
  exact eq_of_prefix_close isName.closing_not_mem isOther.closing_not_mem behind

/-- The text holds a placeholder of the name. -/
structure Holds (text name : List Char) : Prop where
  isName : IsName name
  stands : bracketed name <:+: text

theorem opensPlaceholder_iff : OpensPlaceholder text ↔
    ∃ name, IsName name ∧ bracketed name <+: text := by
  constructor
  · rintro ⟨first, name, rest, rfl, upper, inside⟩
    refine ⟨first :: name, ⟨⟨first, rfl, upper⟩, ?_⟩, rest, by simp [bracketed]⟩
    simpa [isNameChar_of_isUpper upper] using inside
  · rintro ⟨name, ⟨⟨first, head, upper⟩, inside⟩, rest, rfl⟩
    obtain ⟨name, rfl⟩ := List.head?_eq_some_iff.mp head
    exact ⟨first, name, rest, by simp [bracketed], upper,
      fun character member => inside character (List.mem_cons_of_mem _ member)⟩

theorem holds_cons {character : Char} : Holds (character :: text) name ↔
    (IsName name ∧ bracketed name <+: character :: text) ∨ Holds text name := by
  constructor
  · rintro ⟨isName, stands⟩
    exact (List.infix_cons_iff.mp stands).imp (⟨isName, ·⟩) (⟨isName, ·⟩)
  · rintro (⟨isName, here⟩ | ⟨isName, stands⟩)
    · exact ⟨isName, here.isInfix⟩
    · exact ⟨isName, List.infix_cons stands⟩

theorem not_holds_nil : ¬Holds [] name := by
  rintro ⟨-, stands⟩
  exact absurd (List.infix_nil.mp stands) (by simp [bracketed])

theorem Holds.mono (holds : Holds text name) (part : text <:+: more) : Holds more name :=
  ⟨holds.isName, holds.stands.trans part⟩

theorem free_iff_not_holds : Free text ↔ ∀ name, ¬Holds text name := by
  induction text with
  | nil => exact ⟨fun _ _ => not_holds_nil, fun _ => free_nil⟩
  | cons character text induction =>
      simp only [free_cons, induction, opensPlaceholder_iff, holds_cons, not_or, not_exists,
        forall_and]

/-- A text at whose end no name is unfinished. -/
def Finished (text : List Char) : Prop :=
  ∀ last ∈ text.getLast?, last ≠ '<' ∧ isNameChar last = false

instance (text : List Char) : Decidable (Finished text) :=
  Option.decidableForallMem (p := fun last => last ≠ '<' ∧ isNameChar last = false) text.getLast?

/-- No name reaches over the end of a text that leaves none unfinished. -/
theorem Finished.holds_append (finished : Finished text) :
    Holds (text ++ more) name ↔ Holds text name ∨ Holds more name := by
  constructor
  · rintro ⟨isName, before, after, equality⟩
    rw [List.append_assoc] at equality
    rcases List.append_eq_append_iff.mp equality with ⟨rest, rfl, isRest⟩ | ⟨rest, rfl, isRest⟩
    · rcases List.append_eq_append_iff.mp isRest with ⟨rest, rfl, rfl⟩ | ⟨last, split, rfl⟩
      · exact .inl ⟨isName, before, rest, by simp⟩
      -- The name starts in the text; if it ends behind it, the text does not end in a bracket.
      · cases last with
        | nil =>
            rw [List.append_nil] at split
            exact .inl ⟨isName, before, [], by simp [split]⟩
        | cons next last =>
            rcases List.eq_nil_or_concat rest with rfl | ⟨rest, character, rfl⟩
            · exact .inr ⟨isName, [], after, by simp [split]⟩
            · obtain ⟨noBracket, noName⟩ := finished character (by simp)
              have start : rest ++ [character] <+: bracketed name := ⟨next :: last, by simp [split]⟩
              have front : rest ++ [character] <+: '<' :: name := by
                have shorter : (rest ++ [character]).length ≤ ('<' :: name).length := by
                  have lengths := congrArg List.length split
                  simp [bracketed] at lengths ⊢
                  omega
                exact List.prefix_of_prefix_length_le start ⟨['>'], by simp [bracketed]⟩ shorter
              rcases List.mem_cons.mp (front.subset (show character ∈ rest ++ [character] by simp))
                with same | member
              · exact absurd same noBracket
              · simp [isName.inside character member] at noName
    · exact .inr ⟨isName, rest, after, by simp [isRest]⟩
  · rintro (holds | holds)
    · exact holds.mono (List.prefix_append _ _).isInfix
    · exact holds.mono (List.suffix_append _ _).isInfix

theorem finished_token (placeholder : Placeholder) : Finished placeholder.token.toList := by
  intro last member
  rw [toList_token, bracketed, ← List.cons_append, List.getLast?_concat] at member
  cases member
  decide

theorem holds_token : Holds placeholder.token.toList name ↔ name = placeholder.name.toList := by
  rw [toList_token]
  constructor
  · rintro ⟨isName, stands⟩
    rcases List.infix_cons_iff.mp stands with here | ⟨before, after, equality⟩
    · exact isName.unique (isName_name placeholder)
        (here.trans (List.prefix_append _ ([] : List Char)))
    · exact absurd (equality ▸ by simp [bracketed]) (isName_name placeholder).opening_not_mem
  · rintro rfl
    exact ⟨isName_name placeholder, List.infix_refl _⟩

theorem holds_place (place : placeholder.token.toList <:+: text) :
    Holds text placeholder.name.toList :=
  (holds_token.mpr rfl).mono place

theorem holds_indent {indentation : List Char} (holds : Holds text name) :
    Holds (indent indentation text) name := by
  obtain ⟨isName, before, after, rfl⟩ := holds
  refine ⟨isName, indent indentation before, indent indentation after, ?_⟩
  rw [Text.indent_append, Text.indent_append, Text.indent_of_line isName.feed_not_mem]

theorem holds_inserted {line : List Char} (holds : Holds value name) :
    Holds (inserted line value) name := by
  unfold inserted
  split
  · exact holds_indent holds
  · exact holds

/-- A text with the placeholder in front, or with another first character. -/
theorem placeholderInduction (placeholder : Placeholder)
    {motive : List Char → Prop} (nil : motive [])
    (token : ∀ rest, motive rest → motive (placeholder.token.toList ++ rest))
    (cons : ∀ character rest, ¬placeholder.token.toList.isPrefixOf (character :: rest) = true →
      motive rest → motive (character :: rest)) (text : List Char) : motive text := by
  induction length : text.length using Nat.strongRecOn generalizing text with
  | ind length induction =>
      subst length
      by_cases starts : placeholder.token.toList.isPrefixOf text = true
      · obtain ⟨rest, rfl⟩ := List.isPrefixOf_iff_prefix.mp starts
        have positive := List.length_pos_iff.mpr (token_ne_nil placeholder)
        exact token rest (induction rest.length (by simp; omega) rest rfl)
      · cases text with
        | nil => exact nil
        | cons character rest => exact cons character rest starts (induction _ (by simp) rest rfl)

/-- Filling in a placeholder keeps the others. -/
theorem holds_replace (holds : Holds text name) (other : name ≠ placeholder.name.toList)
    (line : List Char) : Holds (replace placeholder.token.toList value line 0 text) name := by
  induction text using placeholderInduction placeholder generalizing line with
  | nil => exact absurd holds not_holds_nil
  | token rest induction =>
      rw [replace_token]
      rcases (finished_token placeholder).holds_append.mp holds with here | further
      · exact absurd (holds_token.mp here) other
      · exact (induction further _).mono (List.suffix_append _ _).isInfix
  | cons character rest noToken induction =>
      rw [replace_cons, if_neg noToken]
      rcases holds_cons.mp holds with ⟨isName, after, equality⟩ | further
      · obtain ⟨rfl, rfl⟩ : '<' = character ∧ (name ++ ['>']) ++ after = rest := by
          simpa [bracketed] using equality
        rw [replace_plain isName.opening_not_mem]
        exact ⟨isName, [], _, rfl⟩
      · exact holds_cons.mpr (.inr (induction further _))

/-- What the value holds comes to the place of the placeholder. -/
theorem holds_replace_value (place : Holds text placeholder.name.toList) (holds : Holds value name)
    (line : List Char) : Holds (replace placeholder.token.toList value line 0 text) name := by
  induction text using placeholderInduction placeholder generalizing line with
  | nil => exact absurd place not_holds_nil
  | token rest induction =>
      rw [replace_token]
      exact (holds_inserted holds).mono (List.prefix_append _ _).isInfix
  | cons character rest noToken induction =>
      rw [replace_cons, if_neg noToken]
      rcases holds_cons.mp place with ⟨-, here⟩ | further
      · rw [← toList_token] at here
        exact absurd (List.isPrefixOf_iff_prefix.mpr here) noToken
      · exact holds_cons.mpr (.inr (induction further _))

/-- A text that does not go on with a name up to its bracket. -/
def Breaks (text : List Char) : Prop :=
  ∃ first ∈ (text.dropWhile isNameChar).head?, first ≠ '>'

instance (text : List Char) : Decidable (Breaks text) :=
  decidable_of_iff ((text.dropWhile isNameChar).head?.any (· != '>') = true)
    (by simp [Breaks, Option.any_eq_true])

/-- A value that completes no name, neither with what stands before it nor with what follows. -/
structure Sealed (value : List Char) : Prop where
  front : Breaks value
  back : Finished value

theorem Breaks.append (breaks : Breaks value) (more : List Char) : Breaks (value ++ more) := by
  obtain ⟨first, head, noBracket⟩ := breaks
  obtain ⟨rest, dropped⟩ := List.head?_eq_some_iff.mp head
  refine ⟨first, ?_, noBracket⟩
  rw [List.dropWhile_append, dropped]
  rfl

theorem Sealed.around {start last : List Char} (breaks : Breaks start) (finished : Finished last)
    (nonempty : last ≠ []) (middle : List Char) : Sealed (start ++ (middle ++ last)) := by
  refine ⟨breaks.append _, fun character member => finished character ?_⟩
  obtain ⟨before, ending, rfl⟩ := List.eq_nil_or_concat last |>.resolve_left nonempty
  simpa [← List.append_assoc] using member

/-- Sealed texts with the same text between each two. -/
theorem Sealed.join {separator : String} {pieces : List String} (nonempty : pieces ≠ [])
    (areSealed : ∀ piece ∈ pieces, Sealed piece.toList) :
    Sealed (Text.join separator pieces).toList := by
  induction pieces with
  | nil => exact absurd rfl nonempty
  | cons piece pieces induction =>
      have first := areSealed piece (by simp)
      cases pieces with
      | nil => exact first
      | cons next pieces =>
          have others := induction (by simp) fun other member => areSealed other (by simp [member])
          have nonempty : (Text.join separator (next :: pieces)).toList ≠ [] := fun nothing => by
            obtain ⟨_, head, -⟩ := others.front
            rw [nothing] at head
            cases head
          have isText : (Text.join separator (piece :: next :: pieces)).toList = piece.toList ++
              (separator.toList ++ (Text.join separator (next :: pieces)).toList) := by
            simp [Text.join]
          rw [isText]
          exact .around first.front others.back nonempty _

theorem Breaks.not_prefix (breaks : Breaks value)
    (inside : ∀ character ∈ name, isNameChar character = true) :
    ¬name ++ ['>'] <+: value ++ more := by
  rintro ⟨rest, equality⟩
  obtain ⟨first, head, noBracket⟩ := breaks.append more
  have stops : isNameChar '>' = false := by decide
  have bracket : ((name ++ ['>'] ++ rest).dropWhile isNameChar).head? = some '>' := by
    rw [List.append_assoc, List.dropWhile_append_of_pos inside]
    simp [stops]
  rw [equality] at bracket
  exact noBracket (Option.some.inj (head.symm.trans bracket))

theorem head?_dropWhile_indent (indentation text : List Char) :
    ((indent indentation text).dropWhile isNameChar).head? =
      (text.dropWhile isNameChar).head? := by
  induction text with
  | nil => rfl
  | cons character text induction =>
      by_cases feed : character = '\n'
      · subst feed
        rfl
      · have head : indent indentation (character :: text) =
            character :: indent indentation text := by
          simp [indent, feed]
        rw [head]
        by_cases inside : isNameChar character = true
        · rw [List.dropWhile_cons_of_pos inside, List.dropWhile_cons_of_pos inside, induction]
        · rw [List.dropWhile_cons_of_neg inside, List.dropWhile_cons_of_neg inside]
          rfl

theorem ends_of_isBlank {character : Char} (blank : Text.isBlank character = true) :
    character ≠ '<' ∧ isNameChar character = false := by
  simp only [Text.isBlank, Bool.or_eq_true, Bool.and_eq_true, decide_eq_true_eq,
    beq_iff_eq] at blank
  have noCapital : character.isUpper = false := by
    refine Bool.eq_false_iff.mpr fun upper => ?_
    have low : 65 ≤ character.toNat := (of_decide_eq_true upper).1
    have high : character.toNat ≤ 90 := (of_decide_eq_true upper).2
    omega
  refine ⟨?_, ?_⟩
  · rintro rfl
    revert blank
    decide
  · have noLine : character ≠ '_' := by
      rintro rfl
      revert blank
      decide
    simp [isNameChar, noCapital, noLine]

theorem Finished.indent {indentation : List Char}
    (blank : ∀ character ∈ indentation, Text.isBlank character = true) (finished : Finished text) :
    Finished (Template.indent indentation text) := by
  rcases List.eq_nil_or_concat text with rfl | ⟨text, character, rfl⟩
  · exact finished
  · intro last member
    rw [List.concat_eq_append, Text.indent_append] at member
    by_cases feed : character = '\n'
    · subst feed
      have blanks : ∀ other ∈ '\n' :: indentation, Text.isBlank other = true := by
        simpa using ⟨by decide, blank⟩
      have isLast : last ∈ ('\n' :: indentation).getLast? := by
        simpa [Template.indent, List.getLast?_append] using member
      exact ends_of_isBlank (blanks last (List.mem_of_mem_getLast? isLast))
    · have same : Template.indent indentation [character] = [character] :=
        Text.indent_of_line (by simpa using Ne.symm feed)
      rw [same, List.getLast?_concat] at member
      cases member
      exact finished character (by simp)

/-- A sealed value is sealed in its place. -/
theorem Sealed.inserted (isSealed : Sealed value) (line : List Char) :
    Sealed (inserted line value) := by
  unfold Template.inserted
  split
  · next blank =>
    have blanks : ∀ character ∈ line.reverse, Text.isBlank character = true :=
      fun character member =>
      List.all_eq_true.mp blank character (List.mem_reverse.mp member)
    refine ⟨?_, isSealed.back.indent blanks⟩
    rw [Breaks, head?_dropWhile_indent]
    exact isSealed.front
  · exact isSealed

theorem free_inserted (free : Free value) (line : List Char) : Free (inserted line value) := by
  unfold inserted
  split
  · next blank =>
    refine free_indent (fun member => ?_) free
    have isBlank := List.all_eq_true.mp blank '<' (List.mem_reverse.mp member)
    exact absurd rfl (ends_of_isBlank isBlank).1
  · exact free

/-- A sealed value opens no name that is not there without it. -/
theorem prefix_of_prefix_replace_sealed (isSealed : Sealed value)
    (inside : ∀ character ∈ name, isNameChar character = true) {line : List Char}
    (starts : name ++ ['>'] <+: replace placeholder.token.toList value line 0 text) :
    name ++ ['>'] <+: text := by
  induction name generalizing text line with
  | nil =>
      cases text with
      | nil => exact starts
      | cons next text =>
          rw [replace_cons] at starts
          split at starts
          · exact absurd starts ((isSealed.inserted line).front.not_prefix inside)
          · obtain ⟨rfl, -⟩ := List.cons_prefix_cons.mp starts
            exact ⟨text, rfl⟩
  | cons character name induction =>
      cases text with
      | nil => exact starts
      | cons next text =>
          rw [replace_cons] at starts
          split at starts
          · exact absurd starts ((isSealed.inserted line).front.not_prefix inside)
          · obtain ⟨rfl, further⟩ := List.cons_prefix_cons.mp starts
            exact List.cons_prefix_cons.mpr
              ⟨rfl, induction (fun other member => inside other (by simp [member])) further⟩

/-- A sealed value without placeholders leaves those of the text but the one that it replaces. -/
theorem holds_of_holds_replace (isSealed : Sealed value) (free : Free value) {line : List Char}
    (holds : Holds (replace placeholder.token.toList value line 0 text) name) :
    Holds text name ∧ name ≠ placeholder.name.toList := by
  induction text using placeholderInduction placeholder generalizing line with
  | nil => exact absurd holds not_holds_nil
  | token rest induction =>
      rw [replace_token] at holds
      rcases (isSealed.inserted line).back.holds_append.mp holds with here | further
      · exact absurd here (free_iff_not_holds.mp (free_inserted free line) name)
      · exact (induction further).imp_left (·.mono (List.suffix_append _ _).isInfix)
  | cons character rest noToken induction =>
      rw [replace_cons, if_neg noToken] at holds
      rcases holds_cons.mp holds with ⟨isName, here⟩ | further
      · obtain ⟨rfl, behind⟩ := List.cons_prefix_cons.mp here
        have starts : bracketed name <+: '<' :: rest := List.cons_prefix_cons.mpr
          ⟨rfl, prefix_of_prefix_replace_sealed isSealed isName.inside behind⟩
        refine ⟨⟨isName, starts.isInfix⟩, ?_⟩
        rintro rfl
        rw [← toList_token] at starts
        exact noToken (List.isPrefixOf_iff_prefix.mpr starts)
      · exact (induction further).imp_left fun holds => holds_cons.mpr (.inr holds)

/-- The text holds no placeholders but some of the given ones. -/
def HoldsOnly (allowed : List Placeholder) (text : List Char) : Prop :=
  ∀ name, Holds text name → ∃ placeholder ∈ allowed, name = placeholder.name.toList

variable {allowed : List Placeholder}

theorem holdsOnly_nil : HoldsOnly [] text ↔ Free text := by
  simp [HoldsOnly, free_iff_not_holds]

theorem HoldsOnly.of_replace {line : List Char}
    (only : HoldsOnly allowed (replace placeholder.token.toList value line 0 text)) :
    HoldsOnly (placeholder :: allowed) text := by
  intro name holds
  by_cases here : name = placeholder.name.toList
  · exact ⟨placeholder, by simp, here⟩
  · obtain ⟨other, member, same⟩ := only name (holds_replace holds here line)
    exact ⟨other, by simp [member], same⟩

theorem HoldsOnly.filled (only : HoldsOnly (placeholder :: allowed) text) (isSealed : Sealed value)
    (free : Free value) (line : List Char) :
    HoldsOnly allowed (replace placeholder.token.toList value line 0 text) := by
  intro name holds
  obtain ⟨holds, other⟩ := holds_of_holds_replace isSealed free holds
  obtain ⟨found, member, same⟩ := only name holds
  rcases List.mem_cons.mp member with rfl | member
  · exact absurd same other
  · exact ⟨found, member, same⟩

theorem HoldsOnly.of_fillAll {fills : List (Placeholder × List Char)}
    (only : HoldsOnly allowed (fillAll fills text)) :
    HoldsOnly (fills.map Prod.fst ++ allowed) text := by
  induction fills generalizing text with
  | nil => exact only
  | cons fill fills induction => exact (induction only).of_replace

theorem fillAll_append (firsts lasts : List (Placeholder × List Char)) (text : List Char) :
    fillAll (firsts ++ lasts) text = fillAll lasts (fillAll firsts text) :=
  List.foldl_append

theorem fillAll_concat (fills : List (Placeholder × List Char)) (placeholder : Placeholder)
    (value text : List Char) : fillAll (fills ++ [(placeholder, value)]) text =
      replace placeholder.token.toList value [] 0 (fillAll fills text) :=
  fillAll_append fills _ text

/-- The last fills leave what the first ones have left. -/
theorem HoldsOnly.of_fills {lasts : List (Placeholder × List Char)}
    (firsts : List (Placeholder × List Char))
    (only : HoldsOnly allowed (fillAll (firsts ++ lasts) text)) :
    HoldsOnly (lasts.map Prod.fst ++ allowed) (fillAll firsts text) := by
  rw [fillAll_append] at only
  exact only.of_fillAll

theorem holds_fillAll {fills : List (Placeholder × List Char)} (holds : Holds text name)
    (others : ∀ fill ∈ fills, name ≠ fill.1.name.toList) : Holds (fillAll fills text) name := by
  induction fills generalizing text with
  | nil => exact holds
  | cons fill fills induction =>
      exact induction (holds_replace holds (others fill (by simp)) [])
        fun other member => others other (by simp [member])

/-- What a value holds that is filled in at a place is left for the later fills. -/
theorem HoldsOnly.of_value {firsts lasts : List (Placeholder × List Char)}
    (only : HoldsOnly allowed (fillAll (firsts ++ (placeholder, value) :: lasts) text))
    (place : Holds text placeholder.name.toList)
    (apart : ∀ fill ∈ firsts, placeholder ≠ fill.1) :
    HoldsOnly (lasts.map Prod.fst ++ allowed) value := by
  have others : ∀ fill ∈ firsts, placeholder.name.toList ≠ fill.1.name.toList :=
    fun fill member same => apart fill member (name_injective same)
  rw [fillAll_append] at only
  exact fun name holds => (@of_fillAll _ _ lasts only) name
    (holds_replace_value (holds_fillAll place others) holds [])

theorem free_of_disjoint {others : List Placeholder} (only : HoldsOnly allowed text)
    (onlyOthers : HoldsOnly others text)
    (apart : ∀ placeholder ∈ allowed, placeholder ∉ others) : Free text := by
  refine free_iff_not_holds.mpr fun name holds => ?_
  obtain ⟨placeholder, member, rfl⟩ := only name holds
  obtain ⟨other, memberOther, same⟩ := onlyOthers _ holds
  exact apart placeholder member (name_injective same ▸ memberOther)

end FacetedQuery.Template
