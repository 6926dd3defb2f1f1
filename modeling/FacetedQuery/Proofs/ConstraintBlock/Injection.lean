import FacetedQuery.Proofs.ConstraintBlock.Spelling
import FacetedQuery.Proofs.Template.Frame

/-!
# Values of users stay values

The tokens of a constraint block are fixed by the portal and the outline of the constraints; every
value of the user is the content of one token.  They are still there when the block has been put
into a template and the template has been finished.
-/

namespace FacetedQuery.ConstraintBlock

open Clause (Piece outlineOf valuesOf)
open Rdf (Variable)
open Sparql (Token)
open Sparql.Token (Spells unescape unescape_append unescape_eq_self)
open Template (Frame Free Insertable LineEnd Spaced Spaces weave)

variable {portal : Portal} {facetClass filterTarget : String}
  {constraints : Option ConstraintSet} {block : ConstraintBlock}

theorem eq_empty_of_compose
    (composed : compose portal facetClass constraints filterTarget = .ok block)
    (nothing : active constraints = []) : block = empty := by
  rcases compose_eq_ok.mp composed with ⟨-, rfl⟩ | ⟨something, -⟩
  · rfl
  · exact absurd nothing something

theorem usable_id {target : Variable} (readable : Token.isReadable target.name.toList = true) :
    Filter.Usable id target :=
  ⟨readable, fun _ => rfl⟩

theorem lex_render_empty : Token.tokens? empty.render.toList = some [] := by
  decide +kernel

/-- Read by itself a block consists of its pieces. -/
theorem tokens_render (spellable : portal.Spellable Tokenises)
    (readable : Token.isReadable filterTarget.toList = true)
    (composed : compose portal facetClass constraints filterTarget = .ok block) :
    Token.tokens? block.render.toList = some (block.pieces.map Piece.token) ∧
      Free block.render.toList := by
  by_cases nothing : active constraints = []
  · rw [eq_empty_of_compose composed nothing]
    exact ⟨lex_render_empty, by decide +kernel⟩
  · have reads := reads_block Text.LineEdit.refl (by simp) Preserves.refl spellable
      (fun target name => usable_id (name ▸ readable)) composed nothing
    refine ⟨?_, reads.free⟩
    rw [Token.tokens?_eq_lex]
    exact reads.spells.lex

theorem spaced_of_feed {after : List Char} (feed : after.head? = some '\n') : Spaced after := by
  intro character member
  obtain rfl : '\n' = character := by simpa [feed] using member
  rfl

theorem usable_trimmed {indentation : List Char} {target : Variable} (onLine : '\n' ∉ indentation)
    (readable : Token.isReadable target.name.toList = true)
    (closed : Text.Closed target.name.toList) :
    Filter.Usable (fun text => Text.trimFinished (Template.indent indentation text)) target := by
  refine ⟨readable, Clause.kept_of_closed
    (Text.LineEdit.trimmed fun character member => ne_of_mem_of_not_mem member onLine)
    (Clause.spelled_variable readable).line ?_⟩
  have text : target.render.toList = ['?'] ++ target.name.toList := by
    simp [Variable.render]
  rw [text]
  by_cases nothing : target.name.toList = []
  · rw [nothing]
    exact Clause.closed_of_last [] rfl
  · exact closed.behind nothing _

/-- A block that restricts something may be put in front of any white space. -/
theorem insertable_of_active (spellable : portal.Spellable Settles)
    (readable : Token.isReadable filterTarget.toList = true)
    (closed : Text.Closed filterTarget.toList)
    (composed : compose portal facetClass constraints filterTarget = .ok block)
    (restricts : active constraints ≠ []) :
    Insertable Spaced block.render.toList (block.pieces.map Piece.token) := by
  have reads : ∀ {indentation : List Char}, Spaces indentation → '\n' ∉ indentation →
      Clause.Reads (fun text => Text.trimFinished (Template.indent indentation text))
        block.render.toList (block.pieces.map Piece.token) := fun spaces onLine =>
    have noFeed := fun character member => ne_of_mem_of_not_mem member onLine
    reads_block (.trimmed noFeed) spaces (.trimmed spaces) spellable
      (fun target name => usable_trimmed onLine (name ▸ readable) (name ▸ closed))
        composed restricts
  have plain := reads (show Spaces [] by simp [Spaces]) (by simp)
  exact ⟨plain.free, plain.shown, plain.closed, fun spaces onLine spaced more =>
    Template.spells_spaced (reads spaces onLine).spells more spaced⟩

/-- A block that restricts nothing needs the rest of its line. -/
theorem insertable_empty :
    Insertable (fun after => after.head? = some '\n') empty.render.toList [] := by
  have text : empty.render.toList = '#' :: " no filters".toList := by decide +kernel
  have onLine : '\n' ∉ empty.render.toList := by decide +kernel
  refine ⟨by decide +kernel, by decide +kernel, by decide +kernel, ?_⟩
  intro indentation after more _ _ feed spells
  cases after with
  | nil => cases feed
  | cons first after =>
      obtain rfl : first = '\n' := by simpa using feed
      rw [Token.unescape_cons (by decide)] at spells
      have further : Spells (unescape after) more := by
        cases spells with
        | space _ spells => exact spells
        | token read _ => cases read
      rw [Text.indent_of_line onLine, Text.trimFinished_of_line onLine, text, List.nil_append,
        unescape_append (by simp; decide), unescape_eq_self (by decide +kernel),
        Token.unescape_cons (by decide)]
      exact .comment (by decide +kernel) (.inl rfl) further

/-- Every block may be put at the end of a line. -/
theorem insertable_of_compose (spellable : portal.Spellable Settles)
    (readable : Token.isReadable filterTarget.toList = true)
    (closed : Text.Closed filterTarget.toList)
    (composed : compose portal facetClass constraints filterTarget = .ok block) :
    Insertable (fun after => after.head? = some '\n') block.render.toList
      (block.pieces.map Piece.token) := by
  by_cases nothing : active constraints = []
  · rw [eq_empty_of_compose composed nothing]
    exact insertable_empty
  · have insertable := insertable_of_active spellable readable closed composed nothing
    exact ⟨insertable.free, insertable.shown, insertable.closed, fun spaces onLine feed more =>
      insertable.spells spaces onLine (spaced_of_feed feed) more⟩

/-- The tokens of a block are those of its pieces; the values of the user are the contents of
single tokens, and nothing else depends on them.  A finished template holds the tokens of the block
between its own. -/
theorem compose_contains_values (spellable : portal.Spellable Tokenises)
    (readable : Token.isReadable filterTarget.toList = true)
    (composed : compose portal facetClass constraints filterTarget = .ok block) :
    Token.tokens? block.render.toList = some (block.pieces.map Piece.token) ∧
    valuesOf block.pieces = texts constraints ∧
    Template.firstPlaceholder? block.render.toList = none ∧
    (∀ others other, compose portal facetClass others filterTarget = .ok other →
      outline others = outline constraints → outlineOf other.pieces = outlineOf block.pieces) ∧
    (portal.Spellable Settles → Text.Closed filterTarget.toList → ∀ name text groups,
      (Frame LineEnd .filter text groups ∨
        Frame Spaced .filter text groups ∧ active constraints ≠ []) →
      ∃ query, ((⟨name, text⟩ : Template).fill .filter block.render).finish = .ok query ∧
        Token.tokens? query.toList = some (weave (block.pieces.map Piece.token) groups)) := by
  obtain ⟨tokens, free⟩ := tokens_render spellable readable composed
  refine ⟨tokens, valuesOf_pieces composed, free, ?_, ?_⟩
  · intro others other otherComposed same
    exact outlineOf_pieces composed otherComposed same
  · rintro settles closed name text groups (frame | ⟨frame, restricts⟩)
    · have insertable := insertable_of_compose settles readable closed composed
      simpa using Template.finish_frame_lineEnd insertable frame name
    · have insertable := insertable_of_active settles readable closed composed restricts
      simpa using Template.finish_frame_spaced insertable frame name

theorem tokenises_of_tokens {path : String} (free : Free path.toList)
    (read : (Token.tokens? path.toList).isSome = true)
    (ends : Token.EndsComments (unescape path.toList)) : Tokenises path := by
  obtain ⟨tokens, found⟩ := Option.isSome_iff_exists.mp read
  exact ⟨free, tokens, Token.spells_of_lex (by rw [← Token.tokens?_eq_lex, found]) ends⟩

theorem spellable_single {kind : String → Prop} {facet path : String} (isKind : kind path)
    (readable : Token.isReadable facet.toList = true) : (single facet path).Spellable kind where
  paths spec member entry inside named found := by
    obtain rfl := List.mem_singleton.mp member
    obtain rfl := List.mem_singleton.mp inside
    obtain rfl : named = ⟨"predicate", path⟩ := by
      simpa [Facet.paths, Facet.optionalPath, Facet.ofUris, Facet.new, Facet.withPredicate]
        using found
    exact isKind
  names spec member entry inside := by
    obtain rfl := List.mem_singleton.mp member
    obtain rfl := List.mem_singleton.mp inside
    exact readable

theorem compose_contains_values_single :
    (single "f" "ex:a").Spellable Tokenises ∧ Token.isReadable "id".toList = true ∧
    ∃ block query, compose (single "f" "ex:a") "c" (selection "f") "id" = .ok block ∧
      valuesOf block.pieces = ["http://a/"] ∧
      ((⟨"", "\x7b <FILTER> \x7d".toList⟩ : Template).fill .filter block.render).finish =
        .ok query ∧
      Token.tokens? query.toList =
        some (.mark .openBrace :: block.pieces.map Piece.token ++ [.mark .closeBrace]) := by
  have lines : LinesSpell "ex:a".toList [.name (.prefixed "ex" "a")] :=
    .last (by decide) (Token.spells_of_lex (by decide +kernel) (by decide +kernel))
  have settles : Settles "ex:a" := ⟨by decide, _, lines⟩
  have spellable : (single "f" "ex:a").Spellable Tokenises :=
    spellable_single settles.tokenises (by decide)
  have readable : Token.isReadable "id".toList = true := by decide
  have restricts : active (selection "f") ≠ [] := by decide
  have frame : Frame Spaced .filter "\x7b <FILTER> \x7d".toList
      [[.mark .openBrace], [.mark .closeBrace]] :=
    @Frame.slot _ _ ['\x7b'] [' '] [' ', '\x7d'] _ _ (by decide +kernel) (by decide +kernel)
      (by decide +kernel) (.inr (by decide +kernel))
      (Token.spells_of_lex (by decide +kernel) (by decide +kernel)) (by decide +kernel)
      (.last (by decide +kernel) (Token.spells_of_lex (by decide +kernel) (by decide +kernel)))
  obtain ⟨block, composed⟩ :
      ∃ block, compose (single "f" "ex:a") "c" (selection "f") "id" = .ok block := ⟨_, rfl⟩
  obtain ⟨-, values, -, -, survives⟩ := compose_contains_values spellable readable composed
  obtain ⟨query, finished, tokens⟩ := survives (spellable_single settles (by decide))
    (by decide) "" _ _ (.inr ⟨frame, restricts⟩)
  exact ⟨spellable, readable, block, query, composed, values,
    finished, by simpa [weave] using tokens⟩

/-- White space that belongs to a token is lost at the end of a line, and a name behind a colon need
not be one of queries. -/
theorem exists_lost_tokens :
    Tokenises "ex:a\u1680\n/ex:b" ∧ Tokenises "ex:a" ∧ Tokenises "\nex:a" ∧
    ∀ sample ∈ [("f", "ex:a\u1680\n/ex:b", "id"), (":\u00B7f", "ex:a", "id"),
        ("f", "ex:a", ":\u00B7id"), ("f", "\nex:a", "id\u1680")],
      ∃ block query,
        compose (single sample.1 sample.2.1) "c" (selection sample.1) sample.2.2 = .ok block ∧
        ((⟨"", "<FILTER>\n".toList⟩ : Template).fill .filter block.render).finish = .ok query ∧
        (Token.tokens? block.render.toList = none ∨
          Token.tokens? query.toList ≠ Token.tokens? block.render.toList) := by
  refine ⟨tokenises_of_tokens (by decide +kernel) (by decide +kernel) (by decide +kernel),
    tokenises_of_tokens (by decide +kernel) (by decide +kernel) (by decide +kernel),
    tokenises_of_tokens (by decide +kernel) (by decide +kernel) (by decide +kernel), ?_⟩
  simp only [List.forall_mem_cons, List.not_mem_nil, false_imp_iff, implies_true, and_true]
  exact ⟨⟨_, _, rfl, rfl, .inr (by decide +kernel)⟩, ⟨_, _, rfl, rfl, .inl (by decide +kernel)⟩,
    ⟨_, _, rfl, rfl, .inl (by decide +kernel)⟩, ⟨_, _, rfl, rfl, .inr (by decide +kernel)⟩⟩

end FacetedQuery.ConstraintBlock
