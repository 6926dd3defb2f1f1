import FacetedQuery.Proofs.Clause.Pieces

/-!
# Clauses are spelled by their pieces

The text of a clause consists of the tokens of its pieces, provided that its names can be read, its
literals bear no language and its property paths consist of tokens.  The white space at the ends of
lines and an indentation of further lines do not matter.
-/

namespace FacetedQuery.Clause

open Rdf (Iri Literal Variable)
open Sparql (Token)
open Sparql.Token (Joint Spelled Spells spells_behind unescape)
open Template (Free)

/-- A variable whose name is one of queries, or reads like a mark and a prefixed name. -/
def Readable (target : Variable) : Prop :=
  Token.isReadable target.name.toList = true

/-- A literal without a language that looks like no placeholder. -/
structure Quotable (literal : Literal) : Prop where
  untagged : ∀ language, literal.kind ≠ .tagged language
  value : Spelled.Quotable literal.value.toList

namespace Expression

mutual

def Sound : Expression → Prop
  | .var target => Readable target
  | .iri _ => True
  | .literal value => Quotable value
  | .member value list => value.Sound ∧ ListSound list
  | .conjunction left right => left.Sound ∧ right.Sound
  | .atLeast left right => left.Sound ∧ right.Sound
  | .atMost left right => left.Sound ∧ right.Sound
  | .bound target => Readable target
  | .call _ arguments => ListSound arguments
  | .cast _ value => value.Sound

def ListSound : List Expression → Prop
  | [] => True
  | expression :: rest => expression.Sound ∧ ListSound rest

end

end Expression

theorem map_token_fixed (tokens : List Token) :
    (tokens.map Piece.fixed).map Piece.token = tokens := by
  simp [Function.comp_def, Piece.token]

theorem spelled_variable {target : Variable} (readable : Readable target) :
    Spelled target.render.toList ((variablePieces target).map Piece.token) := by
  rw [variablePieces, map_token_fixed]
  simpa [Variable.render] using Spelled.name target.wellFormed readable

theorem spelled_iri (value : Iri) : Spelled value.render.toList [.name (.iri value.text)] := by
  simpa [Iri.render] using Spelled.iri value .nil (by simp)

theorem spelled_literal {literal : Literal} (quotable : Quotable literal) :
    Spelled literal.render.toList ((literalPieces literal).map Piece.token) := by
  have value := quotable.value
  cases kind : literal.kind with
  | plain =>
      simpa [Literal.render, Literal.quote, literalPieces, kind, Piece.token] using
        Spelled.quoted value .nil (by simp)
  | tagged language => exact absurd kind (quotable.untagged language)
  | typed datatype =>
      have behind : Spelled ('^' :: '^' :: '<' :: (datatype.text.toList ++ ['>']))
          [.mark .doubleCaret, .name (.iri datatype.text)] := by
        have inner := Spelled.iri datatype .nil (by simp)
        exact Spelled.token ['^', '^'] (fun _ => rfl) (by decide)
          (Template.free_append_of_not_mem (by decide) inner.free) inner
      simpa [Literal.render, Literal.quote, literalPieces, kind, Piece.token, Piece.mark,
        Piece.datatype, Iri.render] using Spelled.quoted value behind (by simp)

section

variable {left right text : List Char} {first second tokens : List Token}

theorem spelled_conjunction (spelledLeft : Spelled left first)
    (spelledRight : Spelled right second) :
    Spelled (left ++ ' ' :: '&' :: '&' :: ' ' :: right) (first ++ .mark .doubleAnd :: second) :=
  Spelled.operation ['&', '&'] spelledLeft spelledRight (fun _ => rfl) (by decide)
    fun _ free => Template.free_append_of_not_mem (by decide)
      ((Template.free_cons_of_ne (by decide)).mpr free)

theorem spelled_atLeast (spelledLeft : Spelled left first) (spelledRight : Spelled right second) :
    Spelled (left ++ ' ' :: '>' :: '=' :: ' ' :: right)
      (first ++ .mark .greaterEqual :: second) :=
  Spelled.operation ['>', '='] spelledLeft spelledRight (fun _ => rfl) (by decide)
    fun _ free => Template.free_append_of_not_mem (by decide)
      ((Template.free_cons_of_ne (by decide)).mpr free)

theorem spelled_atMost (spelledLeft : Spelled left first) (spelledRight : Spelled right second) :
    Spelled (left ++ ' ' :: '<' :: '=' :: ' ' :: right) (first ++ .mark .lessEqual :: second) :=
  Spelled.operation ['<', '='] spelledLeft spelledRight (fun _ => rfl) (by decide)
    fun _ free => Template.free_cons_of_not_isUpper
      ((Template.free_cons_of_ne (by decide)).mpr ((Template.free_cons_of_ne (by decide)).mpr free))
      (by simp)

theorem spelled_call (letters : List Char)
    (read : ∀ rest, Token.readToken? (letters ++ '(' :: rest) =
      some (.word (String.ofList letters), '(' :: rest))
    (plain : ∀ character ∈ '(' :: letters,
      character ≠ '\\' ∧ character ≠ '\n' ∧ character ≠ '<')
    (spelled : Spelled text tokens) :
    Spelled (letters ++ '(' :: (text ++ [')']))
      (.word (String.ofList letters) :: .mark .openParen :: (tokens ++ [.mark .closeParen])) :=
  Spelled.word letters read plain spelled.inParens

theorem spelled_builtin (function : Builtin) (spelled : Spelled text tokens) :
    Spelled (function.name.toList ++ '(' :: (text ++ [')']))
      (.word function.name :: .mark .openParen :: (tokens ++ [.mark .closeParen])) := by
  cases function
  · exact spelled_call ['S', 'T', 'R'] (fun _ => rfl) (by decide) spelled
  · exact spelled_call ['L', 'C', 'A', 'S', 'E'] (fun _ => rfl) (by decide) spelled
  · exact spelled_call ['C', 'O', 'N', 'T', 'A', 'I', 'N', 'S'] (fun _ => rfl)
      (by decide) spelled
  · exact spelled_call ['C', 'O', 'A', 'L', 'E', 'S', 'C', 'E'] (fun _ => rfl)
      (by decide) spelled

theorem spelled_member (value : Spelled left first) (list : Spelled right second) :
    Spelled (left ++ ' ' :: 'I' :: 'N' :: ' ' :: '(' :: (right ++ [')']))
      (first ++ .word "IN" :: .mark .openParen :: (second ++ [.mark .closeParen])) :=
  value.append (Spelled.space (Spelled.word ['I', 'N'] (fun _ => rfl) (by decide)
    list.inParens.space)) (.space _)

end

namespace Expression

mutual

/-- An expression is spelled by its pieces. -/
theorem spelled : (expression : Expression) → expression.Sound →
    Spelled expression.render.toList (expression.pieces.map Piece.token)
  | .var target, sound => by
      simpa [render, pieces] using spelled_variable sound
  | .iri value, _ => by
      simpa [render, pieces, Piece.token] using spelled_iri value
  | .literal value, sound => by
      simpa [render, pieces] using spelled_literal sound
  | .member value list, sound => by
      simpa [render, pieces, Piece.token, Piece.word, Piece.mark] using
        spelled_member (spelled value sound.1) (list_spelled list sound.2)
  | .conjunction left right, sound => by
      simpa [render, pieces, Piece.token, Piece.mark] using
        (spelled_conjunction (spelled left sound.1) (spelled right sound.2)).inParens
  | .atLeast left right, sound => by
      simpa [render, pieces, Piece.token, Piece.mark] using
        (spelled_atLeast (spelled left sound.1) (spelled right sound.2)).inParens
  | .atMost left right, sound => by
      simpa [render, pieces, Piece.token, Piece.mark] using
        (spelled_atMost (spelled left sound.1) (spelled right sound.2)).inParens
  | .bound target, sound => by
      simpa [render, pieces, Piece.token, Piece.word, Piece.mark] using
        spelled_call ['B', 'O', 'U', 'N', 'D'] (fun _ => rfl) (by decide)
          (spelled_variable sound)
  | .call function arguments, sound => by
      simpa [render, pieces, Piece.token, Piece.word, Piece.mark] using
        spelled_builtin function (list_spelled arguments sound)
  | .cast datatype value, sound => by
      have call := Spelled.iri datatype (spelled value sound).inParens (by simp; decide)
      simpa [render, pieces, Piece.token, Piece.datatype, Piece.mark, Iri.render] using call

theorem list_spelled : (list : List Expression) → ListSound list →
    Spelled (renderList list).toList ((listPieces list).map Piece.token)
  | [], _ => by
      simpa [renderList, listPieces] using Spelled.nil
  | [expression], sound => by
      simpa [renderList, listPieces] using spelled expression sound.1
  | expression :: next :: rest, sound => by
      have behind := (list_spelled (next :: rest) sound.2).space.comma
      simpa [renderList, listPieces, Piece.token, Piece.mark] using
        (spelled expression sound.1).append behind (.comma _)

end

end Expression

/-- A text that consists of the given tokens once its lines are edited. -/
structure Reads (edit : List Char → List Char) (text : List Char) (tokens : List Token) : Prop where
  free : Free text
  spells : Spells (unescape (edit text)) tokens
  shown : Text.visible text = true
  closed : Text.Closed text

/-- A property path that consists of its tokens once its lines are edited. -/
structure PropertyPath.Reads (edit : List Char → List Char) (path : PropertyPath) : Prop where
  free : Free path.text.toList
  spells : Spells (unescape (edit path.text.toList)) path.tokens

/-- A text that an edit keeps, whatever follows it. -/
def Kept (edit : List Char → List Char) (text : List Char) : Prop :=
  ∀ rest, edit (text ++ rest) = text ++ edit rest

def Node.Sound (edit : List Char → List Char) : Node → Prop
  | .var target => Readable target ∧ Kept edit target.render.toList
  | .iri _ => True

namespace Pattern

mutual

def Sound (edit : List Char → List Char) : Pattern → Prop
  | .triple subject path object => subject.Sound edit ∧ path.Reads edit ∧ object.Sound edit
  | .values target _ => Readable target
  | .optional elements => ListSound edit elements
  | .filter condition => condition.Sound

def ListSound (edit : List Char → List Char) : List Pattern → Prop
  | [] => True
  | element :: rest => element.Sound edit ∧ ListSound edit rest

end

end Pattern

section

variable {indentation : List Char} {edit : List Char → List Char}

theorem closed_of_last (text : List Char) {last : Char} (shown : Text.isBlank last = false) :
    Text.Closed (text ++ [last]) := by
  intro character member
  obtain rfl : last = character := by simpa using member
  exact shown

theorem spelled_node {node : Node} (sound : node.Sound edit) :
    Spelled node.render.toList (node.pieces.map Piece.token) := by
  cases node with
  | var target => exact spelled_variable sound.1
  | iri value => exact spelled_iri value

theorem kept_of_closed (lineEdit : Text.LineEdit indentation edit) {text : List Char}
    (line : '\n' ∉ text) (closed : Text.Closed text) : Kept edit text := by
  intro rest
  rw [lineEdit.closed text rest closed, lineEdit.line text line]

theorem kept_node (lineEdit : Text.LineEdit indentation edit) {node : Node}
    (sound : node.Sound edit) : Kept edit node.render.toList := by
  cases node with
  | var target => exact sound.2
  | iri value =>
      have split : (Node.iri value).render.toList = '<' :: value.text.toList ++ ['>'] := by
        simp [Node.render, Iri.render]
      refine kept_of_closed lineEdit (spelled_iri value).line ?_
      rw [split]
      exact closed_of_last _ rfl

theorem visible_node (node : Node) (rest : List Char) :
    Text.visible (node.render.toList ++ rest) = true := by
  cases node with
  | var target =>
      simpa [Node.render, Variable.render] using
        Text.visible_cons (show Text.isBlank '?' = false from rfl) _
  | iri value =>
      simpa [Node.render, Iri.render] using Text.visible_cons
        (show Text.isBlank '<' = false from rfl) _

/-- The white space between a subject and a path, with the path. -/
theorem PropertyPath.Reads.behind_space (lineEdit : Text.LineEdit indentation edit)
    {path : PropertyPath} (reads : path.Reads edit) :
    (∃ head rest, edit (' ' :: path.text.toList) = head :: rest ∧ (head = ' ' ∨ head = '\n')) ∧
      Spells (unescape (edit (' ' :: path.text.toList))) path.tokens := by
  rcases lineEdit.space path.text.toList with kept | ⟨dropped, feed⟩
  · rw [kept, Token.unescape_cons (by decide)]
    exact ⟨⟨' ', _, rfl, .inl rfl⟩, .space rfl reads.spells⟩
  · rw [dropped]
    obtain ⟨rest, split⟩ := List.head?_eq_some_iff.mp feed
    exact ⟨⟨'\n', rest, split, .inr rfl⟩, reads.spells⟩

theorem reads_line (lineEdit : Text.LineEdit indentation edit) {text : List Char}
    {tokens : List Token} (spelled : Spelled text tokens) (shown : Text.visible text = true)
    (closed : Text.Closed text) : Reads edit text tokens where
  free := spelled.free
  spells := by
    rw [lineEdit.line text spelled.line]
    exact spelled.spells
  shown := shown
  closed := closed

theorem reads_triple (lineEdit : Text.LineEdit indentation edit) {subject object : Node}
    {path : PropertyPath} (soundSubject : subject.Sound edit) (reads : path.Reads edit)
    (soundObject : object.Sound edit) :
    Reads edit (subject.render.toList ++ (' ' :: path.text.toList ++
        ' ' :: (object.render.toList ++ [' ', '.'])))
      (subject.pieces.map Piece.token ++ (path.tokens ++
        (object.pieces.map Piece.token ++ [.mark .dot]))) := by
  have spelledSubject := spelled_node soundSubject
  have behind : Spelled (' ' :: (object.render.toList ++ [' ', '.']))
      (object.pieces.map Piece.token ++ [.mark .dot]) :=
    ((spelled_node soundObject).append Spelled.dot.space (.space _)).space
  have shownBehind : Text.visible (' ' :: (object.render.toList ++ [' ', '.'])) = true :=
    visible_node object [' ', '.']
  obtain ⟨⟨head, rest, split, isSpace⟩, spellsPath⟩ := reads.behind_space lineEdit
  refine ⟨?_, ?_, ?_, ?_⟩
  · have freePath : Free (' ' :: path.text.toList ++ ' ' :: (object.render.toList ++ [' ', '.'])) :=
      (Template.free_append (by simp; decide)).mpr
        ⟨(Template.free_cons_of_ne (by decide)).mpr reads.free, behind.free⟩
    exact (Template.free_append (by simp; decide)).mpr ⟨spelledSubject.free, freePath⟩
  · rw [kept_node lineEdit soundSubject, lineEdit.visible _ _ shownBehind,
      lineEdit.line _ behind.line]
    have joint : Joint (edit (' ' :: path.text.toList) ++
        ' ' :: (object.render.toList ++ [' ', '.'])) := by
      rw [split]
      rcases isSpace with rfl | rfl
      · exact .space _
      · exact .feed _
    exact spells_behind spelledSubject.spells
      (spells_behind spellsPath behind.spells (.space _)) joint
  · exact visible_node subject _
  · have last : subject.render.toList ++ (' ' :: path.text.toList ++
        ' ' :: (object.render.toList ++ [' ', '.'])) =
        (subject.render.toList ++ (' ' :: path.text.toList ++
          ' ' :: (object.render.toList ++ [' ']))) ++ ['.'] := by
      simp
    rw [last]
    exact closed_of_last _ rfl

theorem spelled_iris (items : List Iri) :
    Spelled (Text.join " " (items.map Iri.render)).toList
      (items.map fun item => Token.name (.iri item.text)) := by
  induction items with
  | nil => exact Spelled.nil
  | cons item items induction =>
      cases items with
      | nil => exact spelled_iri item
      | cons next items =>
          simpa [Text.join] using (spelled_iri item).append induction.space (.space _)

theorem reads_values (lineEdit : Text.LineEdit indentation edit) {target : Variable}
    (readable : Readable target) (items : List Iri) :
    Reads edit (Pattern.values target items).render.toList
      ((Pattern.values target items).pieces.map Piece.token) := by
  have closing : Spelled [' ', '\x7d'] [.mark .closeBrace] := Spelled.closeBrace.space
  have content := (((spelled_iris items).append closing (.space _)).space.openBrace).space
  have spelled := Spelled.word ['V', 'A', 'L', 'U', 'E', 'S']
    (fun _ => rfl) (by decide) ((spelled_variable readable).append content (.space _)).space
  have closed := closed_of_last (['V', 'A', 'L', 'U', 'E', 'S'] ++
    ' ' :: (target.render.toList ++ ' ' :: '\x7b' :: ' ' ::
      ((Text.join " " (items.map Iri.render)).toList ++ [' '])))
    (show Text.isBlank '\x7d' = false from rfl)
  have reads := reads_line lineEdit spelled rfl (by simpa using closed)
  simpa [Pattern.render, Pattern.pieces, Text.braced, Text.openBrace, Text.closeBrace,
    Piece.token, Piece.word, Piece.mark, Function.comp_def] using reads

theorem reads_filter (lineEdit : Text.LineEdit indentation edit) {condition : Expression}
    (sound : condition.Sound) :
    Reads edit (Pattern.filter condition).render.toList
      ((Pattern.filter condition).pieces.map Piece.token) := by
  have spelled : Spelled ('F' :: 'I' :: 'L' :: 'T' :: 'E' :: 'R' :: '(' ::
      (condition.render.toList ++ [')'])) _ :=
    spelled_call ['F', 'I', 'L', 'T', 'E', 'R'] (fun _ => rfl) (by decide)
      (condition.spelled sound)
  have reads := reads_line lineEdit spelled rfl
    (closed_of_last ('F' :: 'I' :: 'L' :: 'T' :: 'E' :: 'R' :: '(' :: condition.render.toList) rfl)
  simpa [Pattern.render, Pattern.pieces, Piece.token, Piece.word, Piece.mark] using reads

/-- Patterns with a space between them. -/
theorem Reads.append (lineEdit : Text.LineEdit indentation edit) {text after : List Char}
    {tokens more : List Token} (first : Reads edit text tokens) (second : Reads edit after more) :
    Reads edit (text ++ ' ' :: after) (tokens ++ more) where
  free := (Template.free_append (by simp; decide)).mpr
    ⟨first.free, (Template.free_cons_of_ne (by decide)).mpr second.free⟩
  spells := by
    have behind : edit (' ' :: after) = ' ' :: edit after := by
      rw [← List.singleton_append, lineEdit.visible _ _ second.shown,
        lineEdit.line [' '] (by decide)]
      rfl
    rw [lineEdit.closed _ _ first.closed, behind]
    refine spells_behind first.spells ?_ (.space _)
    rw [Token.unescape_cons (by decide)]
    exact .space rfl second.spells
  shown := Text.visible_append first.shown _
  closed := by
    have split : text ++ ' ' :: after = (text ++ [' ']) ++ after := by simp
    rw [split]
    exact second.closed.behind (Text.ne_nil_of_visible second.shown) _

/-- The text in front of the elements of an optional group. -/
def optionalStart : List Char :=
  "OPTIONAL \x7b".toList

theorem reads_optional (lineEdit : Text.LineEdit indentation edit) {text : List Char}
    {tokens : List Token} (reads : Reads edit text tokens) :
    Reads edit (optionalStart ++ (' ' :: text ++ [' ', '\x7d']))
      (.word "OPTIONAL" :: .mark .openBrace :: (tokens ++ [.mark .closeBrace])) := by
  have closing : Spelled [' ', '\x7d'] [.mark .closeBrace] := Spelled.closeBrace.space
  have opening : Kept edit optionalStart :=
    kept_of_closed lineEdit (by decide) (closed_of_last "OPTIONAL ".toList rfl)
  have behind : edit (' ' :: text) = ' ' :: edit text := by
    rw [← List.singleton_append, lineEdit.visible _ _ reads.shown,
      lineEdit.line [' '] (by decide)]
    rfl
  refine ⟨?_, ?_, ?_, ?_⟩
  · exact Template.free_append_of_not_mem (by decide) ((Template.free_append (by simp; decide)).mpr
      ⟨(Template.free_cons_of_ne (by decide)).mpr reads.free, closing.free⟩)
  · rw [opening, lineEdit.visible _ _ rfl, lineEdit.line _ closing.line, behind,
      Token.unescape_append_of_plain (by decide), List.cons_append,
      Token.unescape_cons (by decide)]
    have content := spells_behind reads.spells closing.spells (.space _)
    exact .token rfl (.space rfl (.token rfl (.space rfl content)))
  · exact Text.visible_cons (show Text.isBlank 'O' = false from rfl) _
  · have closed := closed_of_last (optionalStart ++ (' ' :: text ++ [' ']))
      (show Text.isBlank '\x7d' = false from rfl)
    simpa using closed

theorem reads_optional_nil (lineEdit : Text.LineEdit indentation edit) :
    Reads edit (Pattern.optional []).render.toList
      ((Pattern.optional []).pieces.map Piece.token) := by
  have spelled := Spelled.word ['O', 'P', 'T', 'I', 'O', 'N', 'A', 'L'] (fun _ => rfl)
    (by decide) (Spelled.closeBrace.space.space.openBrace).space
  exact reads_line lineEdit spelled rfl (closed_of_last "OPTIONAL \x7b  ".toList rfl)

namespace Pattern

theorem render_optional (elements : List Pattern) :
    (Pattern.optional elements).render = "OPTIONAL " ++ Text.braced (renderList elements) := by
  rw [render]

theorem toList_optional (content : String) :
    ("OPTIONAL " ++ Text.braced content).toList =
      optionalStart ++ (' ' :: content.toList ++ [' ', '\x7d']) := by
  show _ = "OPTIONAL \x7b".toList ++ _
  simp [Text.braced, Text.openBrace, Text.closeBrace]

theorem pieces_optional (elements : List Pattern) :
    (Pattern.optional elements).pieces.map Piece.token =
      .word "OPTIONAL" :: .mark .openBrace ::
        ((listPieces elements).map Piece.token ++ [.mark .closeBrace]) := by
  simp [pieces, Piece.token, Piece.mark, Piece.word]

mutual

/-- A pattern is spelled by its pieces, however its lines are edited. -/
theorem reads (lineEdit : Text.LineEdit indentation edit) : (pattern : Pattern) →
    pattern.Sound edit → Reads edit pattern.render.toList (pattern.pieces.map Piece.token)
  | .triple subject path object, sound => by
      simpa [render, pieces, Piece.token, Piece.mark, PropertyPath.pieces, Function.comp_def]
        using reads_triple lineEdit sound.1 sound.2.1 sound.2.2
  | .values target items, sound => reads_values lineEdit sound items
  | .filter condition, sound => reads_filter lineEdit sound
  | .optional elements, sound => by
      by_cases nothing : elements = []
      · subst nothing
        exact reads_optional_nil lineEdit
      · rw [render_optional, toList_optional, pieces_optional]
        exact reads_optional lineEdit (list_reads lineEdit elements sound nothing)

theorem list_reads (lineEdit : Text.LineEdit indentation edit) : (elements : List Pattern) →
    ListSound edit elements → elements ≠ [] →
    Reads edit (renderList elements).toList ((listPieces elements).map Piece.token)
  | [], _, nonempty => absurd rfl nonempty
  | [element], sound, _ => by
      simpa [renderList, listPieces] using reads lineEdit element sound.1
  | element :: next :: rest, sound, _ => by
      simpa [renderList, listPieces] using (reads lineEdit element sound.1).append lineEdit
        (list_reads lineEdit (next :: rest) sound.2 (by simp))

end

end Pattern

end

end FacetedQuery.Clause
