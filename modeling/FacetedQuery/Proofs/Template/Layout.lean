import Mathlib.Data.List.Forall2
import FacetedQuery.Proofs.Template.Sheet
import FacetedQuery.Text.Brace

/-!
# Layout of templates

Templates are written as lists of lines, most of them with nothing to be filled in.  Each line by
itself tells the tokens that it becomes, behind whatever indentation it is put.
-/

namespace FacetedQuery

namespace Text

/-- Lines of lines are lines. -/
theorem join_append (separator : String) {first second : List String} (nonempty : first ≠ [])
    (more : second ≠ []) :
    join separator (first ++ second) =
      join separator first ++ separator ++ join separator second := by
  induction first with
  | nil => exact absurd rfl nonempty
  | cons piece first induction =>
      cases first with
      | nil =>
          cases second with
          | nil => exact absurd rfl more
          | cons next second => rfl
      | cons next first =>
          have further := induction (by simp)
          simp only [List.cons_append, join] at further ⊢
          rw [further]
          simp [String.append_assoc]

theorem join_flatten (separator : String) {groups : List (List String)}
    (nonempty : ∀ group ∈ groups, group ≠ []) :
    join separator (groups.map (join separator)) = join separator groups.flatten := by
  induction groups with
  | nil => rfl
  | cons group groups induction =>
      have further := induction fun other member => nonempty other (by simp [member])
      cases groups with
      | nil => simp [join]
      | cons next groups =>
          have more : (next :: groups).flatten ≠ [] := by
            simpa using fun nothing => absurd nothing (nonempty next (by simp))
          rw [List.flatten_cons, join_append separator (nonempty group (by simp)) more, ← further]
          rfl

end Text

namespace Template

open Sparql (Token)
open Sparql.Token (Spelled Spells unescape)

variable {fills firsts lasts : List (Placeholder × List Char)} {placeholder : Placeholder}

/-- A line that becomes complete lines of the given tokens, behind any indentation. -/
def Draws (fills : List (Placeholder × List Char)) (line : String) (tokens : List Token) : Prop :=
  ∀ indentation, Spaces indentation → '\n' ∉ indentation →
    Lays (fillAll fills (indentation ++ line.toList)) tokens

/-- A text on one line that is free of placeholders and comments and consists of the given
tokens. -/
structure PlainText (text : List Char) (tokens : List Token) : Prop where
  onLine : '\n' ∉ text
  free : Free text
  read : Token.tokens? text = some tokens
  bare : '#' ∉ unescape text
  closed : Text.Closed text
  nonempty : text ≠ []

instance (text : List Char) (tokens : List Token) : Decidable (PlainText text tokens) :=
  decidable_of_iff
    ('\n' ∉ text ∧ Free text ∧ Token.tokens? text = some tokens ∧ '#' ∉ unescape text ∧
      Text.Closed text ∧ text ≠ [])
    ⟨fun ⟨onLine, free, read, bare, closed, nonempty⟩ =>
        ⟨onLine, free, read, bare, closed, nonempty⟩,
      fun plain =>
        ⟨plain.onLine, plain.free, plain.read, plain.bare, plain.closed, plain.nonempty⟩⟩

/-- A line in which nothing is filled. -/
def Plain (line : String) (tokens : List Token) : Prop :=
  PlainText line.toList tokens

instance (line : String) (tokens : List Token) : Decidable (Plain line tokens) :=
  inferInstanceAs (Decidable (PlainText line.toList tokens))

theorem joined {first second : String} {text more : List Char} (same : first = String.ofList text)
    (sameEnd : second = String.ofList more) : first ++ second = String.ofList (text ++ more) := by
  rw [same, sameEnd, String.ofList_append]

theorem Plain.ofChars {line : String} {text : List Char} {tokens : List Token}
    (same : line = String.ofList text) (plain : PlainText text tokens) : Plain line tokens := by
  subst same
  unfold Plain
  rwa [String.toList_ofList]

theorem PlainText.spelled {text : List Char} {tokens : List Token} (plain : PlainText text tokens) :
    Spelled text tokens where
  line := plain.onLine
  free := plain.free
  spells :=
    Token.spells_of_lex (by rw [← Token.tokens?_eq_lex, plain.read]) (.inr (.inr plain.bare))

theorem Plain.spelled {line : String} {tokens : List Token} (plain : Plain line tokens) :
    Spelled line.toList tokens :=
  PlainText.spelled plain

theorem spelled_behind {indentation text : List Char} {tokens : List Token}
    (spaces : Spaces indentation) (onLine : '\n' ∉ indentation) (spelled : Spelled text tokens) :
    Spelled (indentation ++ text) tokens where
  line := by simpa using ⟨onLine, spelled.line⟩
  free := free_append_of_not_mem spaces.not_mem spelled.free
  spells := Token.spells_spaces spaces spelled.spells

theorem exists_first {value : List Char} (given : fills.lookup placeholder = some value) :
    ∃ firsts lasts, fills = firsts ++ (placeholder, value) :: lasts ∧
      ∀ fill ∈ firsts, placeholder ≠ fill.1 := by
  obtain ⟨firsts, lasts, same, apart⟩ := List.lookup_eq_some_iff.mp given
  exact ⟨firsts, lasts, same, fun fill member => by simpa using apart fill member⟩

namespace Draws

variable {line value : String} {tokens : List Token}

theorem ofSpelled {text filled : List Char}
    (fill : ∀ indentation, Spaces indentation → '\n' ∉ indentation →
      fillAll fills (indentation ++ text) = indentation ++ filled)
    (spelled : Spelled filled tokens) (closed : Text.Closed filled) (nonempty : filled ≠ [])
    (isLine : line.toList = text) : Draws fills line tokens := fun indentation spaces onLine => by
  rw [isLine, fill indentation spaces onLine]
  exact .line (spelled_behind spaces onLine spelled) (closed.behind nonempty indentation)

theorem plain (plain : Plain line tokens) : Draws fills line tokens :=
  ofSpelled (fun _ spaces _ =>
    fillAll_of_free (free_append_of_not_mem spaces.not_mem plain.spelled.free) _)
    plain.spelled (PlainText.closed plain) (PlainText.nonempty plain) rfl

theorem closeBrace : Draws fills Text.closeBrace [.mark .closeBrace] :=
  .plain (by decide +kernel)

theorem insert {value : List Char} (given : fills.lookup placeholder = some value)
    (insertable : Insertable (fun after => after.head? = some '\n') value tokens) :
    Draws fills placeholder.token tokens := fun indentation spaces onLine => by
  obtain ⟨firsts, lasts, rfl, apart⟩ := exists_first given
  have lays := Lays.value insertable spaces onLine
  rw [fillAll_slot apart spaces onLine, fillAll_of_free lays.free]
  exact lays

/-- A value on one line within a line. -/
theorem inline {before value after : List Char} (given : fills.lookup placeholder = some value)
    (isLine : line.toList = before ++ (placeholder.token.toList ++ after))
    (plainBefore : '<' ∉ before) (plainAfter : '<' ∉ after) (onLine : '\n' ∉ value)
    (spelled : Spelled (before ++ (value ++ after)) tokens)
    (closed : Text.Closed (before ++ (value ++ after)))
    (nonempty : before ++ (value ++ after) ≠ []) :
    Draws fills line tokens := by
  obtain ⟨firsts, lasts, rfl, apart⟩ := exists_first given
  refine ofSpelled (fun indentation spaces _ => ?_) spelled closed nonempty isLine
  have noBracket : '<' ∉ indentation ++ before := by simpa using ⟨spaces.not_mem, plainBefore⟩
  rw [← List.append_assoc, fillAll_inline apart noBracket plainAfter onLine, List.append_assoc]
  rw [List.append_assoc]
  exact free_append_of_not_mem spaces.not_mem spelled.free

theorem indent (draws : Draws fills line tokens) : Draws fills ("  " ++ line) tokens :=
  fun indentation spaces onLine => by
    have further := draws (indentation ++ [' ', ' '])
      (fun character member => by
        rcases List.mem_append.mp member with member | member
        · exact spaces character member
        · obtain rfl : character = ' ' := by simpa using member
          rfl)
      (by simpa using onLine)
    simpa using further

end Draws

/-- Lines that become the given tokens. -/
inductive Sheet (fills : List (Placeholder × List Char)) : List String → List Token → Prop where
  | nil : Sheet fills [] []
  | cons {line : String} {lines : List String} {tokens more : List Token} :
      Draws fills line tokens → Sheet fills lines more →
      Sheet fills (line :: lines) (tokens ++ more)

/-- The tokens of a line by itself. -/
def lineTokens (line : String) : List Token :=
  (Token.tokens? line.toList).getD []

/-- Lines in which nothing is filled, and their tokens. -/
structure PlainLines (lines : List String) (tokens : List Token) : Prop where
  plain : ∀ line ∈ lines, Plain line (lineTokens line)
  tokens : lines.flatMap lineTokens = tokens

instance (lines : List String) (tokens : List Token) : Decidable (PlainLines lines tokens) :=
  decidable_of_iff ((∀ line ∈ lines, Plain line (lineTokens line)) ∧
    lines.flatMap lineTokens = tokens)
    ⟨fun ⟨plain, tokens⟩ => ⟨plain, tokens⟩, fun lines => ⟨lines.plain, lines.tokens⟩⟩

/-- Lines are checked more quickly if their characters are known. -/
theorem PlainLines.ofChars {lines : List String} {texts : List (List Char)} {tokens : List Token}
    (same : List.Forall₂ (fun line text => line = String.ofList text) lines texts)
    (plain : (∀ text ∈ texts, PlainText text ((Token.tokens? text).getD [])) ∧
      texts.flatMap (fun text => (Token.tokens? text).getD []) = tokens) :
    PlainLines lines tokens := by
  have read : ∀ text, lineTokens (String.ofList text) = (Token.tokens? text).getD [] :=
    fun text => by
    rw [lineTokens, String.toList_ofList]
  obtain ⟨plain, rfl⟩ := plain
  induction same with
  | nil => exact ⟨nofun, rfl⟩
  | @cons line text lines texts same _ induction =>
      obtain ⟨first, others⟩ := List.forall_mem_cons.mp plain
      obtain ⟨others, tokens⟩ := induction others
      refine ⟨List.forall_mem_cons.mpr ⟨.ofChars same ?_, others⟩, ?_⟩
      · rwa [same, read]
      · rw [List.flatMap_cons, List.flatMap_cons, tokens, same, read]

namespace Sheet

variable {lines others : List String} {tokens more : List Token}

theorem append (first : Sheet fills lines tokens) (second : Sheet fills others more) :
    Sheet fills (lines ++ others) (tokens ++ more) := by
  induction first with
  | nil => exact second
  | cons draws _ induction =>
      rw [List.cons_append, List.append_assoc]
      exact .cons draws induction

theorem indent (sheet : Sheet fills lines tokens) :
    Sheet fills (lines.map ("  " ++ ·)) tokens := by
  induction sheet with
  | nil => exact .nil
  | cons draws _ induction => exact .cons draws.indent induction

theorem plain (lines : PlainLines others tokens) : Sheet fills others tokens := by
  obtain ⟨plain, rfl⟩ := lines
  induction others with
  | nil => exact .nil
  | cons line others induction =>
      exact .cons (.plain (plain line (by simp)))
        (induction fun other member => plain other (by simp [member]))

theorem group (head : String) {start : List Token}
    (opens : Draws fills (if head.isEmpty then Text.openBrace else head ++ " " ++ Text.openBrace)
      start)
    (sheet : Sheet fills lines tokens) :
    Sheet fills (Text.groupLines head lines) (start ++ (tokens ++ [.mark .closeBrace])) := by
  exact .cons opens (sheet.indent.append (.cons .closeBrace .nil))

theorem toList_join_cons (line next : String) (lines : List String) :
    (Text.join "\n" (line :: next :: lines)).toList =
      line.toList ++ '\n' :: (Text.join "\n" (next :: lines)).toList := by
  simp [Text.join]

theorem infix_join {line : String} {lines : List String} (member : line ∈ lines) :
    line.toList <:+: (Text.join "\n" lines).toList := by
  induction lines with
  | nil => cases member
  | cons first lines induction =>
      cases lines with
      | nil =>
          obtain rfl := List.mem_singleton.mp member
          simp [Text.join]
      | cons next lines =>
          rw [toList_join_cons]
          rcases List.mem_cons.mp member with rfl | member
          · exact (List.prefix_append _ _).isInfix
          · exact (induction member).trans
              ((List.suffix_cons _ _).trans (List.suffix_append _ _)).isInfix

theorem head?_join (line next : String) (lines : List String) {first : Char}
    (starts : line.toList.head? = some first) :
    (Text.join "\n" (line :: next :: lines)).toList.head? = some first := by
  rw [toList_join_cons, List.head?_append, starts]
  rfl

end Sheet

/-- On a line of its own a placeholder gives way to lines, in which others may be filled later. -/
theorem Draws.sheet {lines : List String} {tokens : List Token}
    (apart : ∀ fill ∈ firsts, placeholder ≠ fill.1) (sheet : Sheet lasts lines tokens)
    (onLines : ∀ line ∈ lines, '\n' ∉ line.toList) (nonempty : lines ≠ []) :
    Draws (firsts ++ (placeholder, (Text.join "\n" lines).toList) :: lasts) placeholder.token
      tokens := fun indentation spaces onLine => by
  rw [fillAll_slot apart spaces onLine]
  induction sheet with
  | nil => exact absurd rfl nonempty
  | @cons line lines tokens more draws sheet induction =>
      have first := draws indentation spaces onLine
      have isLine := onLines line (by simp)
      cases lines with
      | nil =>
          cases sheet
          rw [Text.join, Text.indent_of_line isLine, List.append_nil]
          exact first
      | cons next lines =>
          have further := induction (fun other member => onLines other (by simp [member])) (by simp)
          rw [Sheet.toList_join_cons, Text.indent_feed isLine, ← List.append_assoc, fillAll_feed]
          exact first.append further

/-- A line that ends a text with a token. -/
structure Ends (fills : List (Placeholder × List Char)) (line : String) (tokens : List Token) :
    Prop where
  spelled : Spelled (fillAll fills line.toList) tokens
  closed : Text.Closed (fillAll fills line.toList)
  nonempty : fillAll fills line.toList ≠ []

/-- Lines that become a text of the given tokens, the last of which ends it. -/
inductive Page (fills : List (Placeholder × List Char)) : List String → List Token → Prop where
  | last {line : String} {tokens : List Token} : Ends fills line tokens → Page fills [line] tokens
  | cons {line : String} {lines : List String} {tokens more : List Token} :
      Draws fills line tokens → Page fills lines more → Page fills (line :: lines) (tokens ++ more)

theorem Ends.ofFilled {line : String} {filled : List Char} {tokens : List Token}
    (same : fillAll fills line.toList = filled) (spelled : Spelled filled tokens)
    (closed : Text.Closed filled) (nonempty : filled ≠ []) : Ends fills line tokens := by
  subst same
  exact ⟨spelled, closed, nonempty⟩

theorem Ends.plain {line : String} {tokens : List Token} (plain : Plain line tokens) :
    Ends fills line tokens :=
  .ofFilled (fillAll_of_free plain.spelled.free fills) plain.spelled (PlainText.closed plain)
    (PlainText.nonempty plain)

theorem Ends.slot {value : List Char} {tokens : List Token}
    (given : fills.lookup placeholder = some value) (spelled : Spelled value tokens)
    (closed : Text.Closed value) (nonempty : value ≠ []) : Ends fills placeholder.token tokens := by
  obtain ⟨firsts, lasts, rfl, apart⟩ := exists_first given
  have filled := @fillAll_inline firsts lasts placeholder value [] [] apart (by simp) (by simp)
    spelled.line (by simpa using spelled.free)
  exact .ofFilled (by simpa using filled) spelled closed nonempty

theorem Sheet.page {lines others : List String} {tokens more : List Token}
    (sheet : Sheet fills lines tokens) (page : Page fills others more) :
    Page fills (lines ++ others) (tokens ++ more) := by
  induction sheet with
  | nil => exact page
  | cons draws _ induction =>
      rw [List.cons_append, List.append_assoc]
      exact .cons draws induction

theorem Page.spells {lines : List String} {tokens : List Token} (page : Page fills lines tokens) :
    fillAll fills (Text.join "\n" lines).toList ≠ [] ∧
      Free (fillAll fills (Text.join "\n" lines).toList) ∧
      Spells (unescape (Text.strip (fillAll fills (Text.join "\n" lines).toList))) tokens := by
  induction page with
  | @last line tokens ends =>
      refine ⟨ends.nonempty, ends.spelled.free, ?_⟩
      change Spells (unescape (Text.strip (fillAll fills line.toList))) tokens
      rw [strip_of_closed ends.closed, Text.trimFinished_of_line ends.spelled.line]
      exact ends.spelled.spells
  | @cons line lines tokens more draws page induction =>
      obtain ⟨nonempty, free, spells⟩ := induction
      have first : Lays (fillAll fills line.toList) tokens := draws [] (by simp [Spaces]) (by simp)
      have split : (Text.join "\n" (line :: lines)).toList =
          line.toList ++ '\n' :: (Text.join "\n" lines).toList := by
        cases page <;> exact Sheet.toList_join_cons _ _ _
      rw [split, fillAll_feed, Text.strip_append_feed _ nonempty]
      exact ⟨by simp, (free_append (by simp; decide)).mpr
        ⟨first.free, (free_cons_of_ne (by decide)).mpr free⟩, first.spells spells⟩

theorem finish_page {template : Template} {lines : List String} {tokens : List Token}
    (page : Page fills lines tokens)
    (isText : template.text = fillAll fills (Text.join "\n" lines).toList) :
    ∃ query, template.finish = .ok query ∧ Spells (unescape query.toList) tokens := by
  obtain ⟨-, free, spells⟩ := page.spells
  rw [← isText] at free spells
  exact ⟨_, finish_of_free free, by rwa [String.toList_ofList]⟩

theorem text_ofText {name text : String} (starts : text.toList.head? ≠ some '\n') :
    (ofText name text).text = text.toList := by
  cases characters : text.toList with
  | nil => simp [ofText, characters]
  | cons first rest =>
      have shown : first ≠ '\n' := by simpa [characters] using starts
      simp [ofText, characters, shown]

end Template

end FacetedQuery
