import FacetedQuery.Proofs.Clause.Spelling
import FacetedQuery.Proofs.ConstraintBlock.Outline
import FacetedQuery.Proofs.Decimal.Digits

/-!
# Constraint blocks are spelled by their pieces

If the property paths of a portal consist of tokens and the names of its facets can be read, so does
every block.  It still does when its lines are indented and trimmed, if no token of a path meets the
end of a line.
-/

namespace FacetedQuery

open Clause (Expression Kept Pattern Piece PropertyPath Quotable Readable)
open Rdf (Iri Literal Variable)
open Sparql (Token)
open Sparql.Token (Spelled Spells spells_behind spells_space spells_spaces spells_trimmed_spaces
  unescape)
open Template (Free)

/-- A path that consists of tokens and holds no placeholder. -/
structure Tokenises (path : String) : Prop where
  free : Free path.toList
  spells : ∃ tokens, Spells (unescape path.toList) tokens

/-- A text in which no token meets the end of a line: each line consists of tokens, and so it does
without the white space in front of its line feed. -/
inductive LinesSpell : List Char → List Token → Prop where
  | last {line : List Char} {tokens : List Token} :
      '\n' ∉ line → Spells (unescape line) tokens → LinesSpell line tokens
  | feed {line rest : List Char} {tokens more : List Token} :
      '\n' ∉ line → Spells (unescape line) tokens → Spells (unescape (Text.trimEnd line)) tokens →
      LinesSpell rest more → LinesSpell (line ++ '\n' :: rest) (tokens ++ more)

/-- A path whose tokens do not depend on the white space at the ends of its lines. -/
structure Settles (path : String) : Prop where
  free : Free path.toList
  lines : ∃ tokens, LinesSpell path.toList tokens

namespace Clause.PropertyPath

theorem tokens_of_spells (path : PropertyPath) {tokens : List Token}
    (spells : Spells (unescape path.text.toList) tokens) : path.tokens = tokens := by
  rw [PropertyPath.tokens, Token.tokens?_eq_lex, spells.lex]
  rfl

theorem reads_of_tokenises {path : String} (tokenises : Tokenises path) :
    PropertyPath.Reads id ⟨path⟩ := by
  obtain ⟨tokens, spells⟩ := tokenises.spells
  refine ⟨tokenises.free, ?_⟩
  rw [tokens_of_spells _ spells]
  exact spells

variable {indentation : List Char} {edit : List Char → List Char}

/-- A path in parentheses that is repeated. -/
theorem Reads.zeroOrMore (lineEdit : Text.LineEdit indentation edit) {path : PropertyPath}
    (plain : path.Reads id) (reads : path.Reads edit) : path.zeroOrMore.Reads edit := by
  have closing : Spelled [')', '*'] [.mark .closeParen, .mark .star] :=
    Spelled.mark _ (fun _ => rfl) (by decide)
      (Spelled.mark '*' (fun _ => rfl) (by decide) .nil)
  have text : path.zeroOrMore.text.toList = ['('] ++ (path.text.toList ++ [')', '*']) := by
    simp [PropertyPath.zeroOrMore]
  -- The same argument for the text itself and for its edited form.
  have spellsOf : ∀ {inner : List Char}, Spells (unescape inner) path.tokens →
      Spells (unescape (['('] ++ (inner ++ [')', '*'])))
        (.mark .openParen :: (path.tokens ++ [.mark .closeParen, .mark .star])) := by
    intro inner spells
    rw [List.singleton_append, Token.unescape_cons (by decide)]
    exact .token rfl (spells_behind spells closing.spells .repeated)
  have tokens := tokens_of_spells path.zeroOrMore (by
    rw [text]
    exact spellsOf plain.spells)
  refine ⟨?_, ?_⟩
  · rw [text]
    exact Template.free_append_of_not_mem (by decide)
      ((Template.free_append (by simp; decide)).mpr ⟨reads.free, closing.free⟩)
  · have parts : edit (['('] ++ (path.text.toList ++ [')', '*'])) =
        ['('] ++ (edit path.text.toList ++ [')', '*']) := by
      rw [lineEdit.closed ['('] _ (closed_of_last [] rfl), lineEdit.line ['('] (by decide),
        lineEdit.visible _ _ rfl, lineEdit.line [')', '*'] (by decide)]
    rw [tokens, text, parts]
    exact spellsOf reads.spells

end Clause.PropertyPath

namespace LinesSpell

variable {text : List Char} {tokens : List Token} {indentation : List Char}

theorem spells (lines : LinesSpell text tokens) : Spells (unescape text) tokens := by
  induction lines with
  | last _ spells => exact spells
  | feed _ spells _ _ induction => exact spells_behind spells (spells_space rfl induction) (.feed _)

theorem trimmed (lines : LinesSpell text tokens)
    (spaces : ∀ character ∈ indentation, Json.isSpace character = true) :
    Spells (unescape (Text.trimFinished (Template.indent indentation text))) tokens := by
  induction lines with
  | last onLine spells =>
      rw [Text.indent_of_line onLine, Text.trimFinished_of_line onLine]
      exact spells
  | feed onLine _ spells _ induction =>
      rw [Text.indent_feed onLine, Text.trimFinished_feed onLine]
      exact spells_behind spells (spells_space rfl (spells_trimmed_spaces spaces induction))
        (.feed _)

end LinesSpell

theorem Settles.tokenises {path : String} (settles : Settles path) : Tokenises path := by
  obtain ⟨tokens, lines⟩ := settles.lines
  exact ⟨settles.free, tokens, lines.spells⟩

/-- An edit of lines under which every path of a kind keeps its tokens. -/
structure Preserves (edit : List Char → List Char) (kind : String → Prop) : Prop where
  plain : ∀ path, kind path → Tokenises path
  reads : ∀ path, kind path → PropertyPath.Reads edit ⟨path⟩

theorem Preserves.refl : Preserves id Tokenises where
  plain _ tokenises := tokenises
  reads _ tokenises := PropertyPath.reads_of_tokenises tokenises

theorem Preserves.trimmed {indentation : List Char}
    (spaces : ∀ character ∈ indentation, Json.isSpace character = true) :
    Preserves (fun text => Text.trimFinished (Template.indent indentation text)) Settles where
  plain _ settles := settles.tokenises
  reads path settles := by
    obtain ⟨tokens, lines⟩ := settles.lines
    refine ⟨settles.free, ?_⟩
    rw [PropertyPath.tokens_of_spells ⟨path⟩ lines.spells]
    exact lines.trimmed spaces

namespace Filter

theorem exists_suffix {suffix : String} (member : suffix ∈ suffixes) :
    ∃ first middle last, suffix.toList = first :: (middle ++ [last]) ∧
      Token.isVarStart first = true ∧ first ≠ ':' ∧ Text.isBlank last = false := by
  refine ⟨suffix.toList.headD 'A', suffix.toList.tail.dropLast, suffix.toList.getLastD 'A', ?_⟩
  simp only [suffixes, List.mem_cons, List.not_mem_nil, or_false] at member
  rcases member with rfl | rfl | rfl | rfl | rfl | rfl | rfl | rfl <;> decide

variable {context : Context} {suffix : String} {target : Variable}

theorem Context.Binds.readable (binds : context.Binds suffix target) (member : suffix ∈ suffixes)
    (readable : Token.isReadable context.facet.id.toList = true) : Readable target := by
  obtain ⟨first, middle, last, split, starts, noColon, -⟩ := exists_suffix member
  unfold Readable
  rw [show target.name = _ from binds, String.toList_append, split]
  cases name : context.facet.id.toList with
  | nil =>
      simp only [List.nil_append, Token.isReadable]
      split
      · next equality => exact absurd (List.cons.inj equality).1 noColon
      · rfl
  | cons head rest =>
      rw [name] at readable
      by_cases colon : head = ':'
      · subst colon
        cases rest with
        | nil => exact starts
        | cons next rest => exact readable
      · simp only [List.cons_append, Token.isReadable]
        split
        · next equality => exact absurd (List.cons.inj equality).1 colon
        · rfl

theorem Context.Binds.kept {indentation : List Char} {edit : List Char → List Char}
    (lineEdit : Text.LineEdit indentation edit) (binds : context.Binds suffix target)
    (member : suffix ∈ suffixes) (readable : Token.isReadable context.facet.id.toList = true) :
    Kept edit target.render.toList := by
  obtain ⟨first, middle, last, split, -, -, shown⟩ := exists_suffix member
  refine Clause.kept_of_closed lineEdit
    (Clause.spelled_variable (binds.readable member readable)).line ?_
  have ends : target.render.toList =
      '?' :: (context.facet.id.toList ++ (first :: middle)) ++ [last] := by
    simp [Variable.render, show target.name = _ from binds, split]
  rw [ends]
  exact Clause.closed_of_last _ shown

/-- A property of all paths that a filter may use. -/
structure FilterPaths (kind : String → Prop) (facet : Facet) : Prop where
  predicate : ∀ path, facet.predicate = some path → kind path
  labelPath : ∀ path, facet.labelPath = some path → kind path
  parent : ∀ path, facet.parent = some path → kind path
  timespan : ∀ paths, facet.timespan = some paths → kind paths.start ∧ kind paths.stop
  spatial : ∀ paths, facet.spatial = some paths → kind paths.latitude ∧ kind paths.longitude

theorem FilterPaths.ofPaths {kind : String → Prop} {facet : Facet}
    (paths : ∀ named ∈ facet.paths, kind named.path) : FilterPaths kind facet where
  predicate path found :=
    paths ⟨"predicate", path⟩ (by simp [Facet.paths, Facet.optionalPath, found])
  labelPath path found :=
    paths ⟨"label path", path⟩ (by simp [Facet.paths, Facet.optionalPath, found])
  parent path found :=
    paths ⟨"parent property", path⟩ (by simp [Facet.paths, Facet.optionalPath, found])
  timespan parts found :=
    ⟨paths ⟨"start property", parts.start⟩ (by simp [Facet.paths, found]),
      paths ⟨"end property", parts.stop⟩ (by simp [Facet.paths, found])⟩
  spatial parts found :=
    ⟨paths ⟨"latitude property", parts.latitude⟩ (by simp [Facet.paths, found]),
      paths ⟨"longitude property", parts.longitude⟩ (by simp [Facet.paths, found])⟩

section

variable {indentation : List Char} {edit : List Char → List Char} {kind : String → Prop}
  {facetClass : String} {facet : Facet} {patterns : List Pattern} {value : FilterValue}

theorem quotable_text (content : String) :
    Quotable (.plain (Text.lowercase content)) where
  untagged _ equality := by cases equality
  value := .inr fun _ member => (Text.settled_of_mem_lowercase member).noCapital

theorem typed_untagged (value : String) (datatype : Iri) (language : String) :
    (Literal.typed value datatype).kind ≠ .tagged language := by
  unfold Literal.typed
  split <;> simp [Literal.plain]

theorem quotable_date (date : Calendar.Date) : Quotable (.typed date.render Rdf.xsdDate) where
  untagged := typed_untagged _ _
  value := .inl (by
    rw [Clause.typed_value]
    exact date.bare_render)

theorem quotable_double (number : Float) : Quotable (.double number) where
  untagged := typed_untagged _ _
  value := .inl (by
    rw [Literal.double, Clause.typed_value]
    exact Decimal.bare_plain number)

theorem listSound_append {first second : List Pattern} (soundFirst : Pattern.ListSound edit first)
    (soundSecond : Pattern.ListSound edit second) :
    Pattern.ListSound edit (first ++ second) := by
  induction first with
  | nil => exact soundSecond
  | cons element first induction => exact ⟨soundFirst.1, induction soundFirst.2⟩

theorem sound_members (items : List Iri) :
    Expression.ListSound (items.map .iri) := by
  induction items with
  | nil => trivial
  | cons item items induction => exact ⟨trivial, induction⟩

/-- A variable that may stand in a triple. -/
structure Usable (edit : List Char → List Char) (target : Variable) : Prop where
  readable : Readable target
  kept : Kept edit target.render.toList

theorem sound_link (preserves : Preserves edit kind) {subject object : Variable} {path : String}
    (usableSubject : Usable edit subject) (isKind : kind path) (usableObject : Usable edit object) :
    (Pattern.link subject path object).Sound edit :=
  ⟨⟨usableSubject.readable, usableSubject.kept⟩, preserves.reads path isKind,
    ⟨usableObject.readable, usableObject.kept⟩⟩

theorem sound_location (preserves : Preserves edit kind) {located latitude longitude : Variable}
    {paths : SpatialPaths} (usableLocated : Usable edit located)
    (usableLatitude : Usable edit latitude) (usableLongitude : Usable edit longitude)
    (isKind : kind paths.latitude ∧ kind paths.longitude) (corners : GeoBox) :
    Pattern.ListSound edit (ofLocation located latitude longitude paths corners) :=
  ⟨sound_link preserves usableLocated isKind.1 usableLatitude,
    sound_link preserves usableLocated isKind.2 usableLongitude,
    ⟨⟨⟨usableLatitude.readable, quotable_double _⟩, usableLatitude.readable, quotable_double _⟩,
      ⟨usableLongitude.readable, quotable_double _⟩, usableLongitude.readable,
      quotable_double _⟩, trivial⟩

/-- The patterns of a facet can be spelled if its paths and names can. -/
theorem sound_patterns (lineEdit : Text.LineEdit indentation edit)
    (preserves : Preserves edit kind) (paths : FilterPaths kind facet)
    (name : Token.isReadable facet.id.toList = true) (usable : Usable edit target)
    (made : Filter.patterns facetClass facet target value = .ok patterns) :
    Pattern.ListSound edit patterns := by
  have bound : ∀ {suffix : String} {fresh : Variable}, suffix ∈ suffixes →
      Context.Binds ⟨facetClass, facet, target⟩ suffix fresh → Usable edit fresh :=
    fun member binds => ⟨binds.readable member name, binds.kept lineEdit member name⟩
  cases patterns_eq_ok.mp made with
  | exact path binds =>
      have usableValue := bound (by decide) binds
      exact ⟨sound_link preserves usable (paths.predicate _ path) usableValue,
        ⟨usableValue.readable, sound_members _⟩, trivial⟩
  | concepts path up binds bindsBelow =>
      have usableValue := bound (by decide) binds
      have usableBelow := bound (by decide) bindsBelow
      have isKind := paths.parent _ up
      have plain := PropertyPath.reads_of_tokenises (preserves.plain _ isKind)
      exact ⟨usableValue.readable,
        ⟨⟨usableBelow.readable, usableBelow.kept⟩,
          plain.zeroOrMore lineEdit (preserves.reads _ isKind),
          ⟨usableValue.readable, usableValue.kept⟩⟩,
        sound_link preserves usable (paths.predicate _ path) usableBelow, trivial⟩
  | text found binds =>
      have usableLabel := bound (by decide) binds
      exact ⟨sound_link preserves usable (paths.labelPath _ found) usableLabel,
        ⟨⟨⟨usableLabel.readable, trivial⟩, trivial⟩, quotable_text _, trivial⟩, trivial⟩
  | @timespan min max _ _ _ _ _ path found bindsSpan bindsStart bindsStop =>
      have usableSpan := bound (by decide) bindsSpan
      have usableStart := bound (by decide) bindsStart
      have usableStop := bound (by decide) bindsStop
      have isKind := paths.timespan _ found
      refine listSound_append ⟨sound_link preserves usable (paths.predicate _ path) usableSpan,
        ⟨sound_link preserves usableSpan isKind.1 usableStart, trivial⟩,
        ⟨sound_link preserves usableSpan isKind.2 usableStop, trivial⟩, trivial⟩ ?_
      cases min <;> cases max <;>
        simp [overlapConditions, Expression.all?, dateLiteral, Pattern.ListSound, Pattern.Sound,
          Expression.Sound, Expression.ListSound, usableStart.readable, usableStop.readable,
          quotable_date]
  | place _ found bindsLatitude bindsLongitude =>
      exact sound_location preserves usable (bound (by decide) bindsLatitude)
        (bound (by decide) bindsLongitude) (paths.spatial _ found) _
  | located path found binds bindsLatitude bindsLongitude =>
      have usableLocated := bound (by decide) binds
      exact ⟨sound_link preserves usable (paths.predicate _ path) usableLocated,
        sound_location preserves usableLocated (bound (by decide) bindsLatitude)
          (bound (by decide) bindsLongitude) (paths.spatial _ found) _⟩

end

end Filter

/-- A portal whose paths are of a kind and whose facets bear names that can be read. -/
structure Portal.Spellable (kind : String → Prop) (portal : Portal) : Prop where
  paths : ∀ spec ∈ portal.resultClasses, ∀ facet ∈ spec.facets, ∀ named ∈ facet.paths,
    kind named.path
  names : ∀ spec ∈ portal.resultClasses, ∀ facet ∈ spec.facets,
    Token.isReadable facet.id.toList = true

namespace ConstraintBlock

open Clause (Reads)
open Outcome (mapM_cons_eq_ok)

variable {indentation : List Char} {edit : List Char → List Char} {kind : String → Prop}
  {portal : Portal} {facetClass filterTarget : String} {spec : ResultClass} {target : Variable}
  {constraints : Option ConstraintSet} {block : ConstraintBlock}

theorem Portal.mem_of_resultClass (known : portal.resultClass facetClass = .ok spec) :
    spec ∈ portal.resultClasses := by
  unfold Portal.resultClass at known
  split at known
  · next found =>
    cases known
    exact List.mem_of_find?_eq_some found
  · cases known

theorem sound_fragments (lineEdit : Text.LineEdit indentation edit)
    (preserves : Preserves edit kind)
    (paths : ∀ facet ∈ spec.facets, ∀ named ∈ facet.paths, kind named.path)
    (names : ∀ facet ∈ spec.facets, Token.isReadable facet.id.toList = true)
    (usable : Filter.Usable edit target) {entries : List (String × Constraint)}
    {fragments : List (List Pattern)}
    (made : entries.mapM (fragment facetClass spec target) = .ok fragments) :
    Pattern.ListSound edit fragments.flatten := by
  refine satisfies_flatten trivial Filter.listSound_append (fun entry _ _ facet _ parts => ?_) made
  have member : facet ∈ spec.facets := List.mem_of_find?_eq_some parts.known
  exact Filter.sound_patterns lineEdit preserves (.ofPaths (paths facet member))
    (names facet member) usable parts.made

theorem patterns_ne_nil {facet : Facet} {value : FilterValue} {patterns : List Pattern}
    (made : Filter.patterns facetClass facet target value = .ok patterns) : patterns ≠ [] := by
  cases Filter.patterns_eq_ok.mp made <;>
    simp [Filter.ofExactUris, Filter.ofConcepts, Filter.ofSpan, Filter.ofLocation]

/-- A text on further lines behind another one. -/
theorem reads_feed (lineEdit : Text.LineEdit indentation edit)
    (spaces : ∀ character ∈ indentation, Json.isSpace character = true) {text after : List Char}
    {tokens more : List Token} (first : Reads edit text tokens) (second : Reads edit after more) :
    Reads edit (text ++ '\n' :: after) (tokens ++ more) where
  free := (Template.free_append (by simp; decide)).mpr
    ⟨first.free, (Template.free_cons_of_ne (by decide)).mpr second.free⟩
  spells := by
    rw [lineEdit.closed _ _ first.closed, lineEdit.feed _ second.shown, List.cons_append]
    exact spells_behind first.spells
      (spells_space rfl (spells_spaces spaces second.spells)) (.feed _)
  shown := Text.visible_append first.shown _
  closed := by
    have split : text ++ '\n' :: after = (text ++ ['\n']) ++ after := by simp
    rw [split]
    exact second.closed.behind (Text.ne_nil_of_visible second.shown) _

theorem reads_elements (lineEdit : Text.LineEdit indentation edit)
    (spaces : ∀ character ∈ indentation, Json.isSpace character = true)
    {elements : List Pattern} (sound : Pattern.ListSound edit elements)
    (nonempty : elements ≠ []) :
    Reads edit (Text.join "\n" (elements.map Pattern.render)).toList
      ((Pattern.listPieces elements).map Piece.token) := by
  induction elements with
  | nil => exact absurd rfl nonempty
  | cons element elements induction =>
      cases elements with
      | nil => simpa [Pattern.listPieces, Text.join] using element.reads lineEdit sound.1
      | cons next elements =>
          have behind := induction sound.2 (by simp)
          simpa [Pattern.listPieces, Text.join] using
            reads_feed lineEdit spaces (element.reads lineEdit sound.1) behind

/-- A block is spelled by its pieces, however its lines are edited. -/
theorem reads_block (lineEdit : Text.LineEdit indentation edit)
    (spaces : ∀ character ∈ indentation, Json.isSpace character = true)
    (preserves : Preserves edit kind) (spellable : portal.Spellable kind)
    (usable : ∀ target : Variable, target.name = filterTarget → Filter.Usable edit target)
    (composed : compose portal facetClass constraints filterTarget = .ok block)
    (restricts : active constraints ≠ []) :
    Reads edit block.render.toList (block.pieces.map Piece.token) := by
  rcases compose_eq_ok.mp composed with
    ⟨nothing, -⟩ | ⟨-, spec, target, fragments, known, name, made, rfl⟩
  · exact absurd nothing restricts
  · have member := Portal.mem_of_resultClass known
    have sound := sound_fragments lineEdit preserves (spellable.paths spec member)
      (spellable.names spec member) (usable target name) made
    have nonempty : fragments.flatten ≠ [] := by
      cases entries : active constraints with
      | nil => exact absurd entries restricts
      | cons entry rest =>
          rw [entries] at made
          obtain ⟨first, others, head, -, rfl⟩ := mapM_cons_eq_ok.mp made
          obtain ⟨facet, value, parts⟩ := fragment_eq_ok.mp head
          simpa using fun nothing => absurd nothing (patterns_ne_nil parts.made)
    have reads := reads_elements lineEdit spaces sound nonempty
    unfold render isEmpty
    rw [if_neg (by simpa using nonempty)]
    exact reads

end ConstraintBlock

end FacetedQuery
