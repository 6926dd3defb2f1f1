import FacetedQuery.Proofs.Template.Lines

/-!
# Texts without blank lines

Two texts that are joined by an empty line can be told apart again if the first one has no empty
line of its own.
-/

namespace FacetedQuery.Text

/-- The texts in front of and behind the first empty line of a text. -/
def splitEmptyLine? : List Char → Option (List Char × List Char)
  | [] => none
  | '\n' :: '\n' :: rest => some ([], rest)
  | character :: rest => (splitEmptyLine? rest).map fun (before, after) =>
    (character :: before, after)

/-- No line of a text is blank. -/
def Dense (text : String) : Prop :=
  ∀ line ∈ linesOf text, trim line ≠ ""

theorem splitEmptyLine?_line {line : List Char} (onLine : '\n' ∉ line) (rest : List Char) :
    splitEmptyLine? (line ++ rest) =
      (splitEmptyLine? rest).map fun (before, after) => (line ++ before, after) := by
  induction line with
  | nil => simp
  | cons character line induction =>
      simp only [List.mem_cons, not_or] at onLine
      rw [List.cons_append, splitEmptyLine?, induction onLine.2, Option.map_map]
      · rfl
      · exact fun _ same _ => onLine.1 same.symm

theorem splitEmptyLine?_feed {next : Char} (noFeed : next ≠ '\n') (rest : List Char) :
    splitEmptyLine? ('\n' :: next :: rest) =
      (splitEmptyLine? (next :: rest)).map fun (before, after) => ('\n' :: before, after) := by
  rw [splitEmptyLine?]
  rintro _ - same
  cases same
  exact noFeed rfl

theorem exists_first {text : List Char} (nonempty : ∀ line ∈ splitLines text, line ≠ []) :
    ∃ first rest, text = first :: rest ∧ first ≠ '\n' := by
  cases text with
  | nil => exact absurd rfl (nonempty [] (by simp [splitLines]))
  | cons first rest =>
      refine ⟨first, rest, rfl, ?_⟩
      rintro rfl
      exact nonempty [] (by simp [splitLines]) rfl

/-- The first empty line behind lines that are not empty is the one that comes next. -/
theorem splitEmptyLine?_append {text : List Char} (nonempty : ∀ line ∈ splitLines text, line ≠ [])
    (after : List Char) : splitEmptyLine? (text ++ '\n' :: '\n' :: after) = some (text, after) := by
  induction text using lineInduction with
  | line text onLine =>
      rw [splitEmptyLine?_line onLine]
      simp [splitEmptyLine?]
  | feed text rest onLine induction =>
      have behind : ∀ line ∈ splitLines rest, line ≠ [] := fun line member =>
        nonempty line (by simp [splitLines_append_feed, member])
      obtain ⟨next, others, rfl, noFeed⟩ := exists_first behind
      have further := induction behind
      rw [List.cons_append] at further
      rw [List.append_assoc, splitEmptyLine?_line onLine, List.cons_append, List.cons_append,
        splitEmptyLine?_feed noFeed, further]
      rfl

theorem ne_nil_of_trim {line : List Char} (shown : trim (String.ofList line) ≠ "") : line ≠ [] := by
  rintro rfl
  exact shown rfl

theorem Dense.split {text : String} (dense : Dense text) (after : String) :
    splitEmptyLine? (text ++ "\n\n" ++ after).toList = some (text.toList, after.toList) := by
  have lines : ∀ line ∈ splitLines text.toList, line ≠ [] := fun line member =>
    ne_nil_of_trim (dense _ (List.mem_map_of_mem member))
  simpa using splitEmptyLine?_append lines after.toList

theorem trimStart_ne_nil {text : List Char} (shown : visible text = true) :
    trimStart text ≠ [] := by
  induction text with
  | nil => cases shown
  | cons character text induction =>
      by_cases blank : isBlank character = true
      · simp only [visible, blank, if_true, Bool.and_eq_true] at shown
        simpa [trimStart, blank] using induction shown.2
      · simp [trimStart, blank]

theorem trimChars_ne_nil {text : List Char} (shown : visible text = true) :
    trimChars text ≠ [] := by
  have started := trimStart_ne_nil shown
  obtain ⟨first, rest, split⟩ := List.exists_cons_of_ne_nil started
  have bare : isBlank first = false := by
    have head := List.head?_dropWhile_not isBlank text
    rw [show text.dropWhile isBlank = first :: rest from split] at head
    simpa using head
  rw [trimChars, split, trimEnd_cons]
  simp [bare]

/-- Lines that are joined are the lines of the text. -/
theorem trimmedLines_join {lines : List String} (onLines : ∀ line ∈ lines, '\n' ∉ line.toList)
    (nonempty : lines ≠ []) : trimmedLines (join "\n" lines).toList = lines.map trim := by
  induction lines with
  | nil => exact absurd rfl nonempty
  | cons line lines induction =>
      have onLine := onLines line (by simp)
      cases lines with
      | nil => simp [join, trimmedLines, splitLines_of_line onLine, trim]
      | cons next lines =>
          have further := induction (fun other member => onLines other (by simp [member])) (by simp)
          unfold trimmedLines at further ⊢
          rw [Template.Sheet.toList_join_cons, splitLines_append_feed, splitLines_of_line onLine,
            List.map_append, further]
          rfl

end FacetedQuery.Text
