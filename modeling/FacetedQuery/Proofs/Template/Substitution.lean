import Mathlib.Data.List.Nodup
import FacetedQuery.Proofs.Template.Piece
import FacetedQuery.Proofs.Template.Places

/-!
# Filling as substitution

Filling placeholders one after another is putting all values in at once, up to the white space
around lines: no step looks at what an earlier one put in.  This holds as long as the values bring
none of the placeholders that are filled, neither by themselves nor together with what stands next
to them.
-/

namespace FacetedQuery

namespace Text

variable {text rest : List Char}

theorem trimmedLines_append_feed (text rest : List Char) :
    trimmedLines (text ++ '\n' :: rest) = trimmedLines text ++ trimmedLines rest := by
  simp [trimmedLines, splitLines_append_feed]

theorem trimmedLines_of_line (onLine : '\n' ∉ text) :
    trimmedLines text = [String.ofList (trimChars text)] := by
  simp [trimmedLines, splitLines_of_line onLine]

theorem strip_feed (onLine : '\n' ∉ text) (more : rest ≠ []) :
    strip (text ++ '\n' :: rest) = trimEnd text ++ '\n' :: strip rest := by
  rw [strip_line onLine (by simp [LineRest]), strip]
  simp [more]

/-- Stripping drops a line feed at the end, and otherwise white space at the ends of lines only. -/
theorem trimmedLines_strip (text : List Char) :
    trimmedLines (strip text) ++ (if text.getLast? = some '\n' then [""] else []) =
      trimmedLines text := by
  have trimmed : ∀ {line : List Char}, '\n' ∉ line →
      trimmedLines (trimEnd line) = trimmedLines line := fun onLine => by
    rw [trimmedLines_of_line onLine, trimmedLines_of_line (feed_not_mem_trimEnd onLine),
      trimChars_trimEnd]
  induction text using lineInduction with
  | line text onLine =>
      have nothing : LineRest [] := by simp [LineRest]
      have stripped := strip_line onLine nothing
      have noFeed : text.getLast? ≠ some '\n' := fun last => onLine (List.mem_of_getLast? last)
      simp only [strip, List.append_nil] at stripped
      rw [stripped, if_neg noFeed, List.append_nil, trimmed onLine]
  | feed text rest onLine induction =>
      by_cases nothing : rest = []
      · subst nothing
        have stripped : strip (text ++ ['\n']) = trimEnd text := by
          rw [strip_line onLine (by simp [LineRest])]
          simp [strip]
        rw [stripped, List.getLast?_concat, if_pos rfl, trimmed onLine, trimmedLines_append_feed]
        rfl
      · have last : (text ++ '\n' :: rest).getLast? = rest.getLast? := by
          rw [List.getLast?_append, List.getLast?_cons]
          cases other : rest.getLast? with
          | none => exact absurd (List.getLast?_eq_none_iff.mp other) nothing
          | some character => simp
        rw [strip_feed onLine nothing, last, trimmedLines_append_feed, List.append_assoc, induction,
          trimmed onLine, trimmedLines_append_feed]

/-- No line of a stripped text ends in white space. -/
theorem closed_of_mem_strip (text : List Char) : ∀ line ∈ splitLines (strip text), Closed line := by
  have alone : ∀ {line : List Char}, '\n' ∉ line →
      ∀ other ∈ splitLines (trimEnd line), Closed other := fun {line} onLine other member => by
    rw [splitLines_of_line (feed_not_mem_trimEnd onLine), List.mem_singleton] at member
    exact member ▸ closed_trimEnd line
  induction text using lineInduction with
  | line text onLine =>
      have nothing : LineRest [] := by simp [LineRest]
      have stripped := strip_line onLine nothing
      simp only [strip, List.append_nil] at stripped
      rw [stripped]
      exact alone onLine
  | feed text rest onLine induction =>
      by_cases nothing : rest = []
      · subst nothing
        rw [strip_line onLine (by simp [LineRest])]
        simpa [strip] using alone onLine
      · rw [strip_feed onLine nothing, splitLines_append_feed]
        intro line member
        rcases List.mem_append.mp member with member | member
        · exact alone onLine line member
        · exact induction line member

end Text

namespace Template

open Piece (chars flat)

variable {fills firsts lasts : List (Placeholder × List Char)} {placeholder : Placeholder}
  {value text before after name : List Char}

/-- White space behind a text completes no name. -/
theorem holds_append_blank {spaces : List Char}
    (blank : ∀ character ∈ spaces, Text.isBlank character) :
    Holds (text ++ spaces) name ↔ Holds text name := by
  refine ⟨?_, fun holds => holds.mono (List.prefix_append _ _).isInfix⟩
  rintro ⟨isName, before, after, split⟩
  refine ⟨isName, ?_⟩
  rcases List.append_eq_append_iff.mp split with ⟨rest, isText, -⟩ | ⟨rest, longer, isSpaces⟩
  · exact ⟨before, rest, isText.symm⟩
  · rcases List.eq_nil_or_concat rest with rfl | ⟨rest, last, rfl⟩
    · exact ⟨before, [], by simpa using longer⟩
    -- The name would end within the white space.
    · have ending := congrArg List.getLast? longer
      rw [bracketed, ← List.cons_append, ← List.append_assoc, List.getLast?_concat,
        List.concat_eq_append, ← List.append_assoc, List.getLast?_concat] at ending
      obtain rfl := Option.some.inj ending
      exact absurd (blank '>' (by simp [isSpaces])) (by decide)

theorem holds_blank_append {spaces : List Char}
    (blank : ∀ character ∈ spaces, Text.isBlank character) :
    Holds (spaces ++ text) name ↔ Holds text name := by
  have finished : Finished spaces := fun last member =>
    ends_of_isBlank (blank last (List.mem_of_mem_getLast? member))
  have nothing : ¬Holds spaces name := fun holds =>
    not_holds_nil ((@holds_append_blank [] _ _ blank).mp holds)
  rw [finished.holds_append, or_iff_right nothing]

theorem holds_trimChars : Holds (Text.trimChars text) name ↔ Holds text name := by
  have start : ∀ text, Holds (Text.trimStart text) name ↔ Holds text name := fun text => by
    have blank : ∀ character ∈ text.takeWhile Text.isBlank, Text.isBlank character :=
      fun character => List.all_eq_true.mp List.all_takeWhile character
    rw [← holds_blank_append blank, Text.trimStart, List.takeWhile_append_dropWhile]
  have ending : ∀ text, Holds (Text.trimEnd text) name ↔ Holds text name := fun text => by
    have blank : ∀ character ∈ (text.reverse.takeWhile Text.isBlank).reverse,
        Text.isBlank character := fun character member =>
      List.all_eq_true.mp List.all_takeWhile character (List.mem_reverse.mp member)
    rw [← holds_append_blank blank, Text.trimEnd, Text.trimStart, ← List.reverse_append,
      List.takeWhile_append_dropWhile, List.reverse_reverse]
  rw [Text.trimChars, ending, start]

/-- A text holds the names that its lines hold. -/
theorem holds_iff_trimmedLines :
    Holds text name ↔ ∃ line ∈ Text.trimmedLines text, Holds line.toList name := by
  induction text using Text.lineInduction with
  | line text onLine => simp [Text.trimmedLines_of_line onLine, holds_trimChars]
  | feed text rest onLine induction =>
      have feed : ∀ character ∈ ['\n'], Text.isBlank character := by decide
      have finished : Finished (text ++ ['\n']) := fun last member => by
        rw [List.getLast?_concat] at member
        cases member
        decide
      have split : text ++ '\n' :: rest = (text ++ ['\n']) ++ rest := by simp
      rw [Text.trimmedLines_append_feed, split, finished.holds_append, holds_append_blank feed,
        induction, Text.trimmedLines_of_line onLine]
      simp only [List.mem_append, List.mem_singleton, or_and_right, exists_or, exists_eq_left,
        String.toList_ofList, holds_trimChars]

/-- Puts all values in at once: wherever the token of a placeholder stands, its value takes its
place, and what follows the token is gone on with.  The first characters to be passed over belong to
a token. -/
def substitute (fills : List (Placeholder × List Char)) : Nat → List Char → List Char
  | _, [] => []
  | passed + 1, _ :: rest => substitute fills passed rest
  | 0, character :: rest =>
    match fills.find? fun fill => fill.1.token.toList.isPrefixOf (character :: rest) with
    | some fill => fill.2 ++ substitute fills (fill.1.token.length - 1) rest
    | none => character :: substitute fills 0 rest

theorem substitute_passed (fills : List (Placeholder × List Char)) (passed after : List Char) :
    substitute fills passed.length (passed ++ after) = substitute fills 0 after := by
  induction passed with
  | nil => rfl
  | cons character passed induction => exact induction

theorem eq_of_prefix_token {other : Placeholder}
    (starts : other.token.toList <+: placeholder.token.toList ++ after) : other = placeholder := by
  rw [toList_token, toList_token] at starts
  exact name_injective ((isName_name other).unique (isName_name placeholder) starts)

/-- A value takes the place of its placeholder. -/
theorem substitute_token (given : fills.lookup placeholder = some value) (after : List Char) :
    substitute fills 0 (placeholder.token.toList ++ after) = value ++ substitute fills 0 after := by
  obtain ⟨firsts, lasts, rfl, apart⟩ := exists_first given
  obtain ⟨first, rest, token, -⟩ := exists_token placeholder
  have found : (firsts ++ (placeholder, value) :: lasts).find? (fun fill =>
      fill.1.token.toList.isPrefixOf (placeholder.token.toList ++ after)) =
        some (placeholder, value) := by
    have noFill : firsts.find? (fun fill =>
        fill.1.token.toList.isPrefixOf (placeholder.token.toList ++ after)) = none :=
      List.find?_eq_none.mpr fun fill member starts =>
        apart fill member (eq_of_prefix_token (List.isPrefixOf_iff_prefix.mp starts)).symm
    rw [List.find?_append, noFill, Option.none_or, List.find?_cons_of_pos]
    exact List.isPrefixOf_iff_prefix.mpr (List.prefix_append _ _)
  have length : placeholder.token.length - 1 = (first :: rest ++ ['>']).length := by
    rw [← String.length_toList, token]
    rfl
  rw [token, List.cons_append] at found ⊢
  rw [substitute, found]
  simp only [length]
  rw [substitute_passed]

theorem substitute_cons {character : Char} {rest : List Char}
    (noFill : ∀ fill ∈ fills, ¬fill.1.token.toList <+: character :: rest) :
    substitute fills 0 (character :: rest) = character :: substitute fills 0 rest := by
  rw [substitute, List.find?_eq_none.mpr]
  exact fun fill member starts => noFill fill member (List.isPrefixOf_iff_prefix.mp starts)

/-- A text starts with the token of a placeholder that is filled, or with another character. -/
theorem tokenInduction (fills : List (Placeholder × List Char)) {motive : List Char → Prop}
    (nil : motive [])
    (token : ∀ placeholder value rest, fills.lookup placeholder = some value → motive rest →
      motive (placeholder.token.toList ++ rest))
    (cons : ∀ character rest, (∀ fill ∈ fills, ¬fill.1.token.toList <+: character :: rest) →
      motive rest → motive (character :: rest)) (text : List Char) : motive text := by
  induction length : text.length using Nat.strongRecOn generalizing text with
  | ind length induction =>
      subst length
      by_cases starts : ∃ fill ∈ fills, fill.1.token.toList <+: text
      · obtain ⟨⟨placeholder, text⟩, member, rest, rfl⟩ := starts
        obtain ⟨value, given⟩ : ∃ value, fills.lookup placeholder = some value := by
          rw [← Option.isSome_iff_exists, List.lookup_isSome_iff]
          exact ⟨(placeholder, text), member, by simp⟩
        have nonempty := List.length_pos_iff.mpr (token_ne_nil placeholder)
        exact token placeholder value rest given (induction rest.length (by simp; omega) rest rfl)
      · cases text with
        | nil => exact nil
        | cons character rest =>
            exact cons character rest (fun fill member here => starts ⟨fill, member, here⟩)
              (induction _ (by simp) rest rfl)

/-- The pieces of a template, with a place for each token that is filled. -/
theorem exists_pieces (fills : List (Placeholder × List Char)) (text : List Char) :
    ∃ pieces, flat pieces = text ∧ flat (Piece.putAll fills pieces) = substitute fills 0 text := by
  induction text using tokenInduction fills with
  | nil => exact ⟨[], rfl, rfl⟩
  | token placeholder value rest given induction =>
      obtain ⟨pieces, isRest, put⟩ := induction
      refine ⟨.hole placeholder :: pieces, by simp [Piece.text, isRest], ?_⟩
      simp [Piece.putAll_cons_hole, Piece.put, given, put, substitute_token given]
  | cons character rest noFill induction =>
      obtain ⟨pieces, isRest, put⟩ := induction
      refine ⟨.char character :: pieces, by simp [Piece.text, isRest], ?_⟩
      simp [Piece.putAll_cons_hole, Piece.put, Piece.text, put, substitute_cons noFill]

/-- A token that stands in front of another one ends before it. -/
theorem token_prefix_append {other : Placeholder} (nonempty : text ≠ [])
    (starts : other.token.toList <+: text ++ (placeholder.token.toList ++ after)) :
    other.token.toList <+: text := by
  rw [toList_token, toList_token] at *
  cases text with
  | nil => exact absurd rfl nonempty
  | cons first text =>
      obtain ⟨rfl, behind⟩ := List.cons_prefix_cons.mp starts
      exact List.cons_prefix_cons.mpr
        ⟨rfl, (Text.prefix_append_cons (isName_name other).opening_not_mem).mp behind⟩

/-- Every place of a placeholder is one to be filled. -/
theorem substitute_place (given : fills.lookup placeholder = some value)
    (before after : List Char) :
    substitute fills 0 (before ++ (placeholder.token.toList ++ after)) =
      substitute fills 0 before ++ (value ++ substitute fills 0 after) := by
  induction before using tokenInduction fills with
  | nil => exact substitute_token given after
  | token other more rest givenOther induction =>
      rw [List.append_assoc, substitute_token givenOther, induction, substitute_token givenOther,
        List.append_assoc]
  | cons character rest noFill induction =>
      rw [List.cons_append, substitute_cons noFill, substitute_cons, induction, List.cons_append]
      intro fill member starts
      rw [← List.cons_append] at starts
      exact noFill fill member (token_prefix_append (by simp) starts)

/-- The order of the fills does not matter if their placeholders differ. -/
theorem substitute_perm {others : List (Placeholder × List Char)}
    (distinct : (fills.map Prod.fst).Nodup)
    (permuted : others.Perm fills) (passed : Nat) (text : List Char) :
    substitute others passed text = substitute fills passed text := by
  have same : ∀ text : List Char,
      others.find? (fun fill => fill.1.token.toList.isPrefixOf text) =
        fills.find? (fun fill => fill.1.token.toList.isPrefixOf text) := fun text => by
    cases found : fills.find? (fun fill => fill.1.token.toList.isPrefixOf text) with
    | none =>
        rw [List.find?_eq_none] at found ⊢
        exact fun fill member => found fill (permuted.mem_iff.mp member)
    | some fill =>
        have starts := List.find?_some found
        have member := List.mem_of_find?_eq_some found
        have isFound : (others.find? fun fill => fill.1.token.toList.isPrefixOf text).isSome :=
          List.find?_isSome.mpr ⟨fill, permuted.mem_iff.mpr member, starts⟩
        obtain ⟨other, foundOther⟩ := Option.isSome_iff_exists.mp isFound
        have memberOther := permuted.mem_iff.mp (List.mem_of_find?_eq_some foundOther)
        have startsOther : other.1.token.toList.isPrefixOf text := by
          simpa using List.find?_some foundOther
        obtain ⟨rest, rfl⟩ := List.isPrefixOf_iff_prefix.mp starts
        have key : other.1 = fill.1 :=
          eq_of_prefix_token (List.isPrefixOf_iff_prefix.mp startsOther)
        rw [foundOther, List.inj_on_of_nodup_map distinct memberOther member key]
  induction text generalizing passed with
  | nil => cases passed <;> rfl
  | cons character rest induction =>
      cases passed with
      | succ passed => exact induction passed
      | zero =>
          rw [substitute, substitute, same]
          split <;> rw [induction]

/-- The substituted text holds none of the placeholders that are filled: no value holds one or
completes one with what stands next to it. -/
def Apart (fills : List (Placeholder × List Char)) (text : List Char) : Prop :=
  ∀ fill ∈ fills, ¬Holds (substitute fills 0 text) fill.1.name.toList

variable {pieces : List Piece}

theorem not_infix_chars
    (apart : ∀ fill ∈ fills, ¬Holds (flat (Piece.putAll fills pieces)) fill.1.name.toList) :
    ∀ fill ∈ fills, ¬chars fill.1.token.toList <:+: Piece.fillAll fills pieces := by
  intro fill member spelled
  rw [toList_token] at spelled
  have holds := Piece.holds_of_chars (isName_name fill.1) spelled
  rw [holds_iff_trimmedLines, ← (Inset.refl pieces).fillAll.trimmedLines,
    ← holds_iff_trimmedLines] at holds
  exact apart fill member holds

/-- Filling step by step fills the places of the pieces of the template. -/
theorem exists_filled (apart : Apart fills text) : ∃ pieces, flat pieces = text ∧
    flat (Piece.putAll fills pieces) = substitute fills 0 text ∧
    fillAll fills text = flat (Piece.fillAll fills pieces) := by
  obtain ⟨pieces, rfl, put⟩ := exists_pieces fills text
  exact ⟨pieces, rfl, put, Piece.fillAll_flat (not_infix_chars (by rwa [put]))⟩

/-- Filling step by step is substitution, up to the white space around lines. -/
theorem trimmedLines_fillAll (apart : Apart fills text) :
    Text.trimmedLines (fillAll fills text) = Text.trimmedLines (substitute fills 0 text) := by
  obtain ⟨pieces, -, put, filled⟩ := exists_filled apart
  rw [filled, ← put, (Inset.refl pieces).fillAll.trimmedLines]

theorem holds_fillAll_iff (apart : Apart fills text) :
    Holds (fillAll fills text) name ↔ Holds (substitute fills 0 text) name := by
  rw [holds_iff_trimmedLines, trimmedLines_fillAll apart, ← holds_iff_trimmedLines]

/-- The text in front of a place is filled by itself, and the value comes behind it, indented by
what stands in front of it when it is put in. -/
theorem exists_fillAll_place (apart : Apart (firsts ++ (placeholder, value) :: lasts)
      (before ++ (placeholder.token.toList ++ after)))
    (fresh : ∀ fill ∈ firsts, placeholder ≠ fill.1) :
    ∃ rest, fillAll (firsts ++ (placeholder, value) :: lasts)
        (before ++ (placeholder.token.toList ++ after)) =
      fillAll (firsts ++ (placeholder, value) :: lasts) before ++
        (inserted (continueLine [] (fillAll (firsts ++ [(placeholder, value)]) before)) value ++
          rest) := by
  have given : (firsts ++ (placeholder, value) :: lasts).lookup placeholder = some value :=
    List.lookup_eq_some_iff.mpr ⟨firsts, lasts, rfl, by simpa using fresh⟩
  generalize isFills : firsts ++ (placeholder, value) :: lasts = fills at *
  -- No token is left over in the whole, nor in the text in front of the place, nor by the fills up
  -- to the placeholder: three times filling a text is filling its pieces.
  obtain ⟨pieces, isBefore, put⟩ := exists_pieces fills before
  obtain ⟨others, isAfter, putAfter⟩ := exists_pieces fills after
  have isText : flat (pieces ++ .hole placeholder :: others) =
      before ++ (placeholder.token.toList ++ after) := by
    simp [isBefore, isAfter, Piece.text]
  have whole : flat (Piece.putAll fills (pieces ++ .hole placeholder :: others)) =
      substitute fills 0 (before ++ (placeholder.token.toList ++ after)) := by
    rw [substitute_place given, Piece.putAll_append, Piece.putAll_cons_hole]
    simp [Piece.put, given, put, putAfter]
  have absent := @not_infix_chars fills (pieces ++ .hole placeholder :: others) (by rwa [whole])
  have absentBefore : ∀ fill ∈ fills,
      ¬chars fill.1.token.toList <:+: Piece.fillAll fills pieces := by
    refine not_infix_chars fun fill member holds => apart fill member ?_
    rw [← whole, Piece.putAll_append, Piece.flat_append]
    exact holds.mono (List.prefix_append _ _).isInfix
  have absentFirsts : ∀ fill ∈ firsts ++ [(placeholder, value)], ¬chars fill.1.token.toList <:+:
      Piece.fillAll (firsts ++ [(placeholder, value)]) pieces := by
    intro fill member spelled
    have inside : fill ∈ fills := by
      rw [← isFills]
      simpa using or_assoc.mp (.inl (by simpa using member))
    refine absentBefore fill inside ?_
    have split : fills = (firsts ++ [(placeholder, value)]) ++ lasts := by simp [← isFills]
    rw [split, Piece.fillAll_append]
    exact Piece.chars_infix_fillAll lasts spelled
  obtain ⟨rest, reached⟩ := Piece.exists_fillAll_hole fresh pieces others
  have step : ∀ pieces, Piece.fillAll fills pieces =
      Piece.fillAll lasts (Piece.fill placeholder value [] (Piece.fillAll firsts pieces)) :=
    fun pieces => by rw [← isFills, Piece.fillAll_append, Piece.fillAll_cons]
  have stepBefore : Piece.fillAll (firsts ++ [(placeholder, value)]) pieces =
      Piece.fill placeholder value [] (Piece.fillAll firsts pieces) := by
    rw [Piece.fillAll_append]
    rfl
  rw [← isText, Piece.fillAll_flat absent, ← isBefore, Piece.fillAll_flat absentBefore,
    Piece.fillAll_flat absentFirsts, stepBefore, step, step, reached, Piece.fill_append, Piece.fill,
    if_pos rfl]
  obtain ⟨ending, same⟩ := Piece.exists_fillAll_chars lasts
    (inserted
      (continueLine [] (flat (Piece.fill placeholder value [] (Piece.fillAll firsts pieces))))
      value) (Piece.fill placeholder value [] (Piece.fillAll firsts pieces)) _
  exact ⟨flat ending, by rw [same]; simp⟩

theorem continueLine_feed (line text rest : List Char) :
    continueLine line (text ++ '\n' :: rest) = continueLine [] rest := by
  rw [continueLine_append, continueLine_cons]
  rfl

/-- A blank line at the end of a text stays. -/
theorem continueLine_fillAll (fills : List (Placeholder × List Char))
    (blank : (continueLine [] text).all Text.isBlank = true) :
    continueLine [] (fillAll fills text) = continueLine [] text := by
  induction text using Text.lineInduction with
  | line text onLine =>
      rw [continueLine_of_line onLine, List.append_nil, List.all_reverse] at blank
      have plain : '<' ∉ text := fun member =>
        absurd (List.all_eq_true.mp blank '<' member) (by decide)
      rw [fillAll_of_free (free_of_not_mem plain)]
  | feed text rest onLine induction =>
      rw [continueLine_feed] at blank
      rw [fillAll_feed, continueLine_feed, continueLine_feed, induction blank]

/-- Fills placeholders one after another. -/
def fillEach (template : Template) (given : List (Placeholder × String)) : Template :=
  given.foldl (fun template fill => template.fill fill.1 fill.2) template

/-- The values of fills as characters. -/
def valuesOf (given : List (Placeholder × String)) : List (Placeholder × List Char) :=
  given.map fun fill => (fill.1, fill.2.toList)

variable {template : Template} {given others : List (Placeholder × String)}

theorem text_fillEach (template : Template) (given : List (Placeholder × String)) :
    (template.fillEach given).text = fillAll (valuesOf given) template.text := by
  induction given generalizing template with
  | nil => rfl
  | cons fill given induction => exact induction (template.fill fill.1 fill.2)

theorem keys_valuesOf (given : List (Placeholder × String)) :
    (valuesOf given).map Prod.fst = given.map Prod.fst := by
  simp [valuesOf]

theorem substitute_valuesOf (distinct : (given.map Prod.fst).Nodup) (permuted : others.Perm given)
    (text : List Char) : substitute (valuesOf others) 0 text = substitute (valuesOf given) 0 text :=
  substitute_perm (by rwa [← keys_valuesOf] at distinct) (permuted.map _) 0 text

theorem Apart.perm (distinct : (given.map Prod.fst).Nodup) (permuted : others.Perm given)
    (apart : Apart (valuesOf given) text) : Apart (valuesOf others) text := by
  intro fill member
  rw [substitute_valuesOf distinct permuted]
  exact apart fill ((permuted.map _).mem_iff.mp member)

theorem exists_finish_fillEach (apart : Apart (valuesOf given) template.text) :
    (∃ body, (template.fillEach given).finish = .ok body) ↔
      ∀ name, ¬Holds (substitute (valuesOf given) 0 template.text) name := by
  have finished : (∃ body, (template.fillEach given).finish = .ok body) ↔
      Free (template.fillEach given).text := by
    simp only [finish_eq_ok, exists_and_left, exists_eq, and_true]
  rw [finished, free_iff_not_holds, text_fillEach]
  exact forall_congr' fun name => not_congr (holds_fillAll_iff apart)

/-- The finished text has the lines of the substituted one, without a line feed at its end. -/
theorem body_of_fillEach (apart : Apart (valuesOf given) template.text) {body : String}
    (finished : (template.fillEach given).finish = .ok body) :
    Text.trimmedLines body.toList ++
        (if (template.fillEach given).text.getLast? = some '\n' then [""] else []) =
      Text.trimmedLines (substitute (valuesOf given) 0 template.text) ∧
    Free body.toList ∧ ∀ line ∈ Text.splitLines body.toList, Text.Closed line := by
  obtain ⟨free, rfl⟩ := finish_eq_ok.mp finished
  rw [String.toList_ofList]
  have lines := Text.trimmedLines_strip (template.fillEach given).text
  refine ⟨?_, ?_, Text.closed_of_mem_strip _⟩
  · rw [lines, text_fillEach, trimmedLines_fillAll apart]
  · refine free_iff_not_holds.mpr fun name holds => free_iff_not_holds.mp free name ?_
    obtain ⟨line, member, here⟩ := holds_iff_trimmedLines.mp holds
    exact holds_iff_trimmedLines.mpr ⟨line, lines ▸ List.mem_append_left _ member, here⟩

/-- Where nothing but white space stands in front of a placeholder on its line, in the template or
once it is filled, the further lines of the value are indented by this white space, which stays in
front of it. -/
theorem exists_indented {firsts lasts : List (Placeholder × String)} {value : String}
    {margin : List Char} (distinct : (given.map Prod.fst).Nodup)
    (apart : Apart (valuesOf given) template.text)
    (isText : template.text = before ++ (placeholder.token.toList ++ after))
    (isGiven : given = firsts ++ (placeholder, value) :: lasts)
    (blank : margin.all Text.isBlank = true)
    (isMargin : continueLine [] before = margin.reverse ∨
      continueLine [] (fillAll (valuesOf (firsts ++ [(placeholder, value)])) before) =
        margin.reverse) :
    continueLine [] (fillAll (valuesOf given) before) = margin.reverse ∧
      ∃ rest, (template.fillEach given).text =
        fillAll (valuesOf given) before ++ (indent margin value.toList ++ rest) := by
  have reached : continueLine [] (fillAll (valuesOf (firsts ++ [(placeholder, value)])) before) =
      margin.reverse := by
    refine isMargin.elim (fun inTemplate => ?_) id
    rw [continueLine_fillAll _ (by rwa [inTemplate, List.all_reverse]), inTemplate]
  have isValues : valuesOf given =
      valuesOf (firsts ++ [(placeholder, value)]) ++ valuesOf lasts := by
    simp [valuesOf, isGiven]
  have fresh : ∀ fill ∈ valuesOf firsts, placeholder ≠ fill.1 := by
    rintro fill member rfl
    have key : fill.1 ∈ firsts.map Prod.fst :=
      keys_valuesOf firsts ▸ List.mem_map_of_mem member
    rw [isGiven, List.map_append, List.map_cons] at distinct
    exact (List.nodup_append.mp distinct).2.2 fill.1 key fill.1 (by simp) rfl
  constructor
  · rw [isValues, fillAll_append, continueLine_fillAll _ (by rwa [reached, List.all_reverse]),
      reached]
  · have split : valuesOf given = valuesOf firsts ++ (placeholder, value.toList) ::
      valuesOf lasts := by
      simp [valuesOf, isGiven]
    have upTo : valuesOf (firsts ++ [(placeholder, value)]) =
        valuesOf firsts ++ [(placeholder, value.toList)] := by
      simp [valuesOf]
    rw [isText, split] at apart
    obtain ⟨rest, filled⟩ := exists_fillAll_place apart fresh
    rw [upTo] at reached
    refine ⟨rest, ?_⟩
    rw [text_fillEach, isText, split, filled, reached, inserted, List.all_reverse, if_pos blank,
      List.reverse_reverse]

/-- Filling distinct placeholders one after another is putting their values in at once, as long as
the values bring none of these placeholders.  The lines are the same but for white space around
them, in whatever order the placeholders are filled.  Finishing succeeds exactly if no placeholder
is left, and gives these lines, without a line feed at the end, without placeholders and without
white space at the end of a line.  The further lines of a value are indented like its placeholder if
nothing but white space stands in front of it. -/
theorem fillEach_substitutes {name text : String} {given : List (Placeholder × String)}
    (distinct : (given.map Prod.fst).Nodup)
    (apart : Apart (valuesOf given) (ofText name text).text) :
    (ofText name text).text = text.toList.dropWhile (· == '\n') ∧
    Text.trimmedLines ((ofText name text).fillEach given).text =
        Text.trimmedLines (substitute (valuesOf given) 0 (ofText name text).text) ∧
    (∀ others, others.Perm given →
      Text.trimmedLines ((ofText name text).fillEach others).text =
          Text.trimmedLines ((ofText name text).fillEach given).text ∧
        ((∃ body, ((ofText name text).fillEach others).finish = .ok body) ↔
          ∃ body, ((ofText name text).fillEach given).finish = .ok body)) ∧
    ((∃ body, ((ofText name text).fillEach given).finish = .ok body) ↔
      ∀ held, ¬Holds (substitute (valuesOf given) 0 (ofText name text).text) held) ∧
    (∀ body, ((ofText name text).fillEach given).finish = .ok body →
      Text.trimmedLines body.toList ++
          (if ((ofText name text).fillEach given).text.getLast? = some '\n' then [""] else []) =
        Text.trimmedLines (substitute (valuesOf given) 0 (ofText name text).text) ∧
      Free body.toList ∧ ∀ line ∈ Text.splitLines body.toList, Text.Closed line) ∧
    ∀ before placeholder after firsts value lasts margin,
      (ofText name text).text = before ++ (placeholder.token.toList ++ after) →
      given = firsts ++ (placeholder, value) :: lasts → margin.all Text.isBlank = true →
      (continueLine [] before = margin.reverse ∨
        continueLine [] (fillAll (valuesOf (firsts ++ [(placeholder, value)])) before) =
          margin.reverse) →
      continueLine [] (fillAll (valuesOf given) before) = margin.reverse ∧
        ∃ rest, ((ofText name text).fillEach given).text =
          fillAll (valuesOf given) before ++ (indent margin value.toList ++ rest) := by
  have lines : ∀ {others}, Apart (valuesOf others) (ofText name text).text →
      Text.trimmedLines ((ofText name text).fillEach others).text =
        Text.trimmedLines (substitute (valuesOf others) 0 (ofText name text).text) :=
    fun apart => (congrArg _ (text_fillEach _ _)).trans (trimmedLines_fillAll apart)
  have ends : ∀ {others}, Apart (valuesOf others) (ofText name text).text →
      ((∃ body, ((ofText name text).fillEach others).finish = .ok body) ↔
        ∀ held, ¬Holds (substitute (valuesOf others) 0 (ofText name text).text) held) :=
    exists_finish_fillEach
  refine ⟨rfl, lines apart, fun others permuted => ?_, ends apart,
    fun body finished => body_of_fillEach apart finished,
    fun before placeholder after firsts value lasts margin isText isGiven blank isMargin =>
      exists_indented distinct apart isText isGiven blank isMargin⟩
  have apartOthers := apart.perm distinct permuted
  rw [lines apartOthers, lines apart, ends apartOthers, ends apart,
    substitute_valuesOf distinct permuted]
  exact ⟨rfl, Iff.rfl⟩

/-- A block on a line of its own and an id in two places, in either order. -/
theorem fillEach_substitutes_twice :
    Text.trimmedLines ((ofText "q" "\nWHERE\n  <FILTER>\n<ID> <ID>\n").fillEach
        [(.id, "x"), (.filter, "a\nb")]).text = ["WHERE", "a", "b", "x x", ""] ∧
      (∃ body, ((ofText "q" "\nWHERE\n  <FILTER>\n<ID> <ID>\n").fillEach
        [(.filter, "a\nb"), (.id, "x")]).finish = .ok body) ∧
      ∃ rest, ((ofText "q" "\nWHERE\n  <FILTER>\n<ID> <ID>\n").fillEach
        [(.filter, "a\nb"), (.id, "x")]).text = "WHERE\n  a\n  b".toList ++ rest := by
  have distinct : ([(Placeholder.filter, "a\nb"), (.id, "x")].map Prod.fst).Nodup := by decide
  have isSubstituted : substitute (valuesOf [(.filter, "a\nb"), (.id, "x")]) 0
      (ofText "q" "\nWHERE\n  <FILTER>\n<ID> <ID>\n").text = "WHERE\n  a\nb\nx x\n".toList := by
        decide
  have nothing : ∀ held, ¬Holds "WHERE\n  a\nb\nx x\n".toList held :=
    free_iff_not_holds.mp (free_of_not_mem (by decide))
  have apart : Apart (valuesOf [(.filter, "a\nb"), (.id, "x")])
      (ofText "q" "\nWHERE\n  <FILTER>\n<ID> <ID>\n").text := fun fill _ holds =>
    nothing _ (isSubstituted ▸ holds)
  obtain ⟨-, lines, anyOrder, ends, -, indented⟩ :=
    @fillEach_substitutes "q" _ _ distinct apart
  refine ⟨?_, ends.mpr (by rwa [isSubstituted]), ?_⟩
  · rw [(anyOrder [(.id, "x"), (.filter, "a\nb")] (List.Perm.swap _ _ _)).1, lines, isSubstituted]
    decide
  · obtain ⟨-, rest, filled⟩ := indented "WHERE\n  ".toList .filter "\n<ID> <ID>\n".toList [] "a\nb"
      [(.id, "x")] [' ', ' '] (by decide) rfl (by decide) (.inl (by decide))
    exact ⟨rest, filled.trans (by rw [← List.append_assoc]; congr 1)⟩

end Template

end FacetedQuery
