import FacetedQuery.Template

/-!
# Lines

Removing the white space at the ends of lines, one character after another.  What this does to a
text depends on the texts around it only where white space meets the end of a line.
-/

namespace FacetedQuery.Text

/-- Whether the first line of a text holds more than white space. -/
def visible : List Char → Bool
  | [] => false
  | character :: rest =>
    if isBlank character then character != '\n' && visible rest else true

/-- Whether the first line of a text is blank and ends in a line feed. -/
def blankFinished : List Char → Bool
  | [] => false
  | character :: rest => character == '\n' || (isBlank character && blankFinished rest)

/-- A text that does not end in white space. -/
def Closed (text : List Char) : Prop :=
  ∀ character ∈ text.getLast?, isBlank character = false

instance (text : List Char) : Decidable (Closed text) :=
  Option.decidableForallMem (p := fun character => isBlank character = false) text.getLast?

theorem ne_feed_of_shown {character : Char} (shown : isBlank character = false) :
    character ≠ '\n' := by
  rintro rfl
  cases shown

theorem visible_cons {character : Char} (shown : isBlank character = false)
    (rest : List Char) : visible (character :: rest) = true := by
  simp [visible, shown]

theorem ne_nil_of_visible {text : List Char} (shown : visible text = true) : text ≠ [] := by
  rintro rfl
  cases shown

theorem visible_append {text : List Char} (shown : visible text = true) (after : List Char) :
    visible (text ++ after) = true := by
  induction text with
  | nil => cases shown
  | cons character text induction =>
      by_cases blank : isBlank character = true
      · simp only [visible, blank, if_true, Bool.and_eq_true] at shown
        simp [visible, blank, shown.1, induction shown.2]
      · simp [visible, blank]

theorem blankFinished_of_visible {text : List Char} (shown : visible text = true) :
    blankFinished text = false := by
  induction text with
  | nil => rfl
  | cons character text induction =>
      by_cases blank : isBlank character = true
      · simp only [visible, blank, if_true, Bool.and_eq_true, bne_iff_ne] at shown
        simp [blankFinished, shown.1, induction shown.2]
      · have noFeed := ne_feed_of_shown (by simpa using blank)
        simp [blankFinished, blank, noFeed]

theorem blankFinished_append_of_visible {after : List Char} (shown : visible after = true)
    (text : List Char) : blankFinished (text ++ after) = blankFinished text := by
  induction text with
  | nil => exact blankFinished_of_visible shown
  | cons character text induction => simp [blankFinished, induction]

theorem Closed.nil : Closed [] := by
  simp [Closed]

theorem Closed.tail {character : Char} {text : List Char} (closed : Closed (character :: text)) :
    Closed text := by
  cases text with
  | nil => exact .nil
  | cons next text =>
      intro last member
      exact closed last (by simpa [List.getLast?_cons_cons] using member)

theorem Closed.behind {after : List Char} (closed : Closed after) (nonempty : after ≠ [])
    (text : List Char) : Closed (text ++ after) := by
  cases after with
  | nil => exact absurd rfl nonempty
  | cons next after =>
      intro last member
      exact closed last (by simpa [List.getLast?_append] using member)

/-- The first line of a text that does not end in white space is not blank, or it is not the last
one. -/
theorem Closed.first_line {text : List Char} (closed : Closed text) (nonempty : text ≠ [])
    (after : List Char) : visible (text ++ after) = visible text ∧
      blankFinished (text ++ after) = blankFinished text ∧
      (visible text = false → blankFinished text = true) := by
  induction text with
  | nil => exact absurd rfl nonempty
  | cons character text induction =>
      cases text with
      | nil =>
          have shown : isBlank character = false := closed character (by simp)
          have noFeed := ne_feed_of_shown shown
          simp [visible, blankFinished, shown, noFeed]
      | cons next text =>
          obtain ⟨sameVisible, sameFinished, finished⟩ := induction closed.tail (by simp)
          by_cases blank : isBlank character = true
          · by_cases feed : character = '\n'
            · subst feed
              simp [visible, blankFinished]
            · simp only [List.cons_append, visible, blankFinished, blank, if_true,
                bne_iff_ne.mpr feed, Bool.true_and, beq_eq_false_iff_ne.mpr feed, Bool.false_or]
                at *
              exact ⟨sameVisible, sameFinished, finished⟩
          · have noFeed := ne_feed_of_shown (by simpa using blank)
            simp [visible, blankFinished, blank, noFeed]

/-- A text with the white space in front of its line feeds removed. -/
def trimFinished : List Char → List Char
  | [] => []
  | character :: rest =>
    if character != '\n' && isBlank character && blankFinished rest then trimFinished rest
    else character :: trimFinished rest

/-- A text with the white space at the ends of its lines removed and without a final line feed. -/
def strip : List Char → List Char
  | [] => []
  | character :: rest =>
    if character == '\n' then if rest.isEmpty then [] else character :: strip rest
    else if isBlank character && !visible rest then strip rest
    else character :: strip rest

theorem trimFinished_cons (character : Char) (rest : List Char) :
    trimFinished (character :: rest) =
      if character != '\n' && isBlank character && blankFinished rest then trimFinished rest
      else character :: trimFinished rest :=
  rfl

theorem trimFinished_append_of_visible {after : List Char} (shown : visible after = true)
    (text : List Char) :
    trimFinished (text ++ after) = trimFinished text ++ trimFinished after := by
  induction text with
  | nil => rfl
  | cons character text induction =>
      simp only [List.cons_append, trimFinished, blankFinished_append_of_visible shown, induction]
      split <;> rfl

theorem trimFinished_append_of_closed {text : List Char} (closed : Closed text)
    (after : List Char) :
    trimFinished (text ++ after) = trimFinished text ++ trimFinished after := by
  induction text with
  | nil => rfl
  | cons character text induction =>
      have inductionTail := induction closed.tail
      cases text with
      | nil =>
          have shown : isBlank character = false := closed character (by simp)
          simp [trimFinished, shown]
      | cons next text =>
          obtain ⟨-, sameFinished, -⟩ := closed.tail.first_line (by simp) after
          rw [List.cons_append, trimFinished_cons, sameFinished, inductionTail,
            trimFinished_cons character (next :: text)]
          split <;> rfl

theorem strip_append_of_closed {text : List Char} (closed : Closed text) (after : List Char) :
    strip (text ++ after) = trimFinished text ++ strip after := by
  induction text with
  | nil => rfl
  | cons character text induction =>
      have inductionTail := induction closed.tail
      cases text with
      | nil =>
          have shown : isBlank character = false := closed character (by simp)
          have noFeed := ne_feed_of_shown shown
          simp [strip, trimFinished, shown, noFeed]
      | cons next text =>
          obtain ⟨sameVisible, -, finished⟩ := closed.tail.first_line (by simp) after
          have exclusive : blankFinished (next :: text) = !visible (next :: text) := by
            cases shown : visible (next :: text) with
            | false => exact finished shown
            | true => exact blankFinished_of_visible shown
          rw [List.cons_append, strip, sameVisible, inductionTail,
            trimFinished_cons character (next :: text), exclusive]
          by_cases feed : character = '\n'
          · subst feed
            simp
          · simp only [beq_iff_eq, feed, if_false, bne_iff_ne.mpr feed, Bool.true_and]
            split <;> rfl

theorem blankFinished_of_line {text : List Char} (line : '\n' ∉ text) :
    blankFinished text = false := by
  induction text with
  | nil => rfl
  | cons character text induction =>
      simp only [List.mem_cons, not_or] at line
      simp [blankFinished, induction line.2, Ne.symm line.1]

theorem trimFinished_of_line {text : List Char} (line : '\n' ∉ text) :
    trimFinished text = text := by
  induction text with
  | nil => rfl
  | cons character text induction =>
      simp only [List.mem_cons, not_or] at line
      simp [trimFinished, induction line.2, blankFinished_of_line line.2]

theorem trimEnd_cons (character : Char) (text : List Char) :
    trimEnd (character :: text) =
      if isBlank character && text.all isBlank then [] else character :: trimEnd text := by
  unfold trimEnd trimStart
  rw [List.reverse_cons, List.dropWhile_append]
  by_cases blank : text.all isBlank = true
  · have nothing : text.reverse.dropWhile isBlank = [] := by
      have blanks : ∀ character ∈ text.reverse, isBlank character = true := by simpa using blank
      have dropped := @List.dropWhile_append_of_pos _ isBlank text.reverse [] blanks
      simpa using dropped
    by_cases blankFirst : isBlank character = true <;> simp [nothing, blank, blankFirst]
  · have something : text.reverse.dropWhile isBlank ≠ [] := by
      intro nothing
      have all := List.all_takeWhile (p := isBlank) (l := text.reverse)
      rw [← List.append_nil (List.takeWhile _ _), ← nothing, List.takeWhile_append_dropWhile,
        List.all_reverse] at all
      exact blank all
    simp [something, blank]

theorem trimEnd_eq_nil {text : List Char} (blank : text.all isBlank = true) :
    trimEnd text = [] := by
  cases text with
  | nil => rfl
  | cons character text =>
      rw [List.all_cons] at blank
      rw [trimEnd_cons, if_pos blank]

theorem trimEnd_dropReturn (line : List Char) : trimEnd (dropReturn line) = trimEnd line := by
  unfold dropReturn
  split
  · next rest reversed =>
    have split : line = rest.reverse ++ ['\r'] := by
      rw [← List.reverse_reverse line, reversed, List.reverse_cons]
    rw [split]
    unfold trimEnd trimStart
    rw [List.reverse_append, List.reverse_reverse]
    rfl
  · rfl

theorem blankFinished_feed {line : List Char} (onLine : '\n' ∉ line) (rest : List Char) :
    blankFinished (line ++ '\n' :: rest) = line.all isBlank := by
  induction line with
  | nil => rfl
  | cons character line induction =>
      simp only [List.mem_cons, not_or] at onLine
      simp [blankFinished, induction onLine.2, Ne.symm onLine.1]

/-- A line that is finished loses the white space at its end. -/
theorem trimFinished_feed {line : List Char} (onLine : '\n' ∉ line) (rest : List Char) :
    trimFinished (line ++ '\n' :: rest) = trimEnd line ++ '\n' :: trimFinished rest := by
  induction line with
  | nil => rfl
  | cons character line induction =>
      simp only [List.mem_cons, not_or] at onLine
      rw [List.cons_append, trimFinished_cons, blankFinished_feed onLine.2, trimEnd_cons,
        induction onLine.2, bne_iff_ne.mpr (Ne.symm onLine.1), Bool.true_and]
      by_cases blank : (isBlank character && line.all isBlank) = true
      · rw [if_pos blank, if_pos blank]
        rw [Bool.and_eq_true] at blank
        rw [trimEnd_eq_nil blank.2]
      · rw [if_neg blank, if_neg blank, List.cons_append]

/-- The lines that follow, each behind a line feed. -/
def followingLines (lines : List (List Char)) : List Char :=
  if lines = [] ∨ lines = [[]] then []
  else '\n' :: joinChars ['\n'] ((dropEmptyLast (dropReturns lines)).map trimEnd)

theorem dropReturns_cons (line : List Char) (lines : List (List Char)) :
    ∃ first others, dropReturns (line :: lines) = first :: others ∧
      trimEnd first = trimEnd line ∧ (first :: others = [[]] ↔ line :: lines = [[]]) := by
  cases lines with
  | nil => exact ⟨line, [], rfl, rfl, Iff.rfl⟩
  | cons second lines =>
      refine ⟨dropReturn line, dropReturns (second :: lines), rfl, trimEnd_dropReturn line, ?_⟩
      cases lines <;> simp [dropReturns]

theorem dropEmptyLast_cons {line : List Char} {lines : List (List Char)}
    (nonempty : line :: lines ≠ [[]]) :
    dropEmptyLast (line :: lines) = line :: dropEmptyLast lines := by
  rw [dropEmptyLast]
  rintro rfl rfl
  exact nonempty rfl

theorem joinLines_cons (line : List Char) (lines : List (List Char)) :
    joinChars ['\n'] ((dropEmptyLast (dropReturns (line :: lines))).map trimEnd) =
      trimEnd line ++ followingLines lines := by
  cases lines with
  | nil =>
      cases line with
      | nil => rfl
      | cons character line => simp [dropReturns, dropEmptyLast, joinChars, followingLines]
  | cons second lines =>
      obtain ⟨first, others, equality, same, alone⟩ := dropReturns_cons second lines
      rw [dropReturns, equality, dropEmptyLast_cons (by simp)]
      · by_cases last : first :: others = [[]]
        · simp [last, alone.mp last, dropEmptyLast, joinChars, followingLines, trimEnd_dropReturn]
        · have more : ¬(second :: lines = [] ∨ second :: lines = [[]]) := by
            rintro (nothing | empty)
            · cases nothing
            · exact last (alone.mpr empty)
          rw [followingLines, if_neg more, equality, dropEmptyLast_cons last]
          simp [joinChars, trimEnd_dropReturn]
      · simp

theorem exists_splitLines (text : List Char) :
    ∃ line lines, splitLines text = line :: lines ∧ visible text = !line.all isBlank := by
  induction text with
  | nil => exact ⟨[], [], rfl, rfl⟩
  | cons character text induction =>
      obtain ⟨line, lines, split, shown⟩ := induction
      by_cases feed : character = '\n'
      · subst feed
        exact ⟨[], line :: lines, by rw [splitLines, split], rfl⟩
      · refine ⟨character :: line, lines, by rw [splitLines, split]; exact feed, ?_⟩
        by_cases blank : isBlank character = true
        · simp [visible, blank, feed, shown]
        · simp [visible, blank]

theorem splitLines_eq_single {text : List Char} (single : splitLines text = [[]]) : text = [] := by
  cases text with
  | nil => rfl
  | cons character text =>
      obtain ⟨line, lines, split, -⟩ := exists_splitLines text
      by_cases feed : character = '\n'
      · subst feed
        simp [splitLines, split] at single
      · rw [splitLines, split] at single
        · simp at single
        · exact feed

/-- Removing white space line by line is removing it character by character. -/
theorem stripLines_eq_strip (text : List Char) : Template.stripLines text = strip text := by
  unfold Template.stripLines lines
  induction text with
  | nil => rfl
  | cons character text induction =>
      obtain ⟨line, lines, split, shown⟩ := exists_splitLines text
      by_cases feed : character = '\n'
      · subst feed
        rw [splitLines, joinLines_cons, strip, followingLines]
        cases text with
        | nil => rfl
        | cons next text =>
            have more : ¬(splitLines (next :: text) = [] ∨ splitLines (next :: text) = [[]]) := by
              rintro (nothing | empty)
              · simp [split] at nothing
              · cases splitLines_eq_single empty
            rw [if_neg more, induction]
            rfl
      · have splitCons : splitLines (character :: text) = (character :: line) :: lines := by
          rw [splitLines, split]
          exact feed
        rw [split, joinLines_cons] at induction
        rw [splitCons, joinLines_cons, strip, ← induction, shown, Bool.not_not,
          beq_eq_false_iff_ne.mpr feed, trimEnd_cons]
        by_cases blank : (isBlank character && line.all isBlank) = true
        · rw [Bool.and_eq_true] at blank
          simp [blank, trimEnd_eq_nil blank.2]
        · simp [blank]

section

variable {indentation : List Char}

theorem indent_append (text more : List Char) :
    Template.indent indentation (text ++ more) =
      Template.indent indentation text ++ Template.indent indentation more :=
  List.flatMap_append

theorem indent_of_line {text : List Char} (line : '\n' ∉ text) :
    Template.indent indentation text = text := by
  induction text with
  | nil => rfl
  | cons character text induction =>
      simp only [List.mem_cons, not_or] at line
      have head : Template.indent indentation (character :: text) =
          character :: Template.indent indentation text := by
        simp [Template.indent, Ne.symm line.1]
      rw [head, induction line.2]

theorem indent_feed {line : List Char} (onLine : '\n' ∉ line) (rest : List Char) :
    Template.indent indentation (line ++ '\n' :: rest) =
      line ++ '\n' :: (indentation ++ Template.indent indentation rest) := by
  rw [indent_append, indent_of_line onLine]
  simp [Template.indent]

theorem visible_indent (indentation : List Char) {text : List Char} (shown : visible text = true) :
    visible (Template.indent indentation text) = true := by
  induction text with
  | nil => cases shown
  | cons character text induction =>
      by_cases feed : character = '\n'
      · subst feed
        cases shown
      · have head : Template.indent indentation (character :: text) =
            character :: Template.indent indentation text := by
          simp [Template.indent, feed]
        rw [head]
        by_cases blank : isBlank character = true
        · simp only [visible, blank, if_true, Bool.and_eq_true] at shown
          simp [visible, blank, shown.1, induction shown.2]
        · simp [visible, blank]

theorem closed_indent (indentation : List Char) {text : List Char} (closed : Closed text) :
    Closed (Template.indent indentation text) := by
  cases split : text.getLast? with
  | none =>
      obtain rfl := List.getLast?_eq_none_iff.mp split
      exact .nil
  | some last =>
      obtain ⟨before, rfl⟩ := List.getLast?_eq_some_iff.mp split
      have shown : isBlank last = false := closed last (by simp)
      have noFeed := ne_feed_of_shown shown
      rw [indent_append, indent_of_line (show '\n' ∉ [last] by simpa using Ne.symm noFeed)]
      intro character member
      obtain rfl : last = character := by simpa using member
      exact shown

theorem indent_nil (text : List Char) : Template.indent [] text = text := by
  induction text with
  | nil => rfl
  | cons character text induction =>
      by_cases feed : character = '\n' <;>
        simpa [Template.indent, feed] using induction

end

/-- A change of a text that keeps what stands on a line.  It may put an indentation behind every
line feed and remove white space in front of it. -/
structure LineEdit (indentation : List Char) (edit : List Char → List Char) : Prop where
  line : ∀ text, '\n' ∉ text → edit text = text
  visible : ∀ text after, visible after = true → edit (text ++ after) = edit text ++ edit after
  closed : ∀ text after, Closed text → edit (text ++ after) = edit text ++ edit after
  feed : ∀ after, Text.visible after = true → edit ('\n' :: after) =
    '\n' :: indentation ++ edit after
  space : ∀ after, edit (' ' :: after) = ' ' :: edit after ∨
    edit (' ' :: after) = edit after ∧ (edit after).head? = some '\n'

theorem LineEdit.refl : LineEdit [] id where
  line _ _ := rfl
  visible _ _ _ := rfl
  closed _ _ _ := rfl
  feed _ _ := rfl
  space _ := .inl rfl

theorem head_trimFinished_of_blankFinished {text : List Char}
    (finished : blankFinished text = true) :
    (trimFinished text).head? = some '\n' := by
  induction text with
  | nil => cases finished
  | cons character text induction =>
      by_cases feed : character = '\n'
      · subst feed
        simp [trimFinished]
      · have rest : isBlank character = true ∧ blankFinished text = true := by
          simpa [blankFinished, feed] using finished
        simp [trimFinished, feed, rest, induction rest.2]

theorem trimFinished_append_of_inset {inset after : List Char}
    (spaces : ∀ character ∈ inset, character ≠ '\n') (shown : visible after = true) :
    trimFinished (inset ++ after) = inset ++ trimFinished after := by
  rw [trimFinished_append_of_visible shown,
    trimFinished_of_line fun member => spaces _ member rfl]

/-- Indenting a text and then trimming the lines it has finished. -/
theorem LineEdit.trimmed {indentation : List Char}
    (spaces : ∀ character ∈ indentation, character ≠ '\n') :
    LineEdit indentation fun text => trimFinished (Template.indent indentation text) where
  line text line := by
    rw [indent_of_line line, trimFinished_of_line line]
  visible text after shown := by
    rw [indent_append, trimFinished_append_of_visible (visible_indent _ shown)]
  closed text after closed := by
    rw [indent_append, trimFinished_append_of_closed (closed_indent _ closed)]
  feed after shown := by
    have split : Template.indent indentation ('\n' :: after) =
        '\n' :: (indentation ++ Template.indent indentation after) := by
      simp [Template.indent]
    rw [split, trimFinished_cons, trimFinished_append_of_inset spaces (visible_indent _ shown)]
    rfl
  space after := by
    have split : Template.indent indentation (' ' :: after) =
        ' ' :: Template.indent indentation after := by
      simp [Template.indent]
    rw [split, trimFinished_cons]
    by_cases finished : blankFinished (Template.indent indentation after) = true
    · exact .inr ⟨by simp [finished, isBlank], head_trimFinished_of_blankFinished finished⟩
    · exact .inl (by simp [finished])

end FacetedQuery.Text
