import FacetedQuery.Proofs.ConstraintBlock.Legible
import FacetedQuery.Proofs.Template.Layout

/-!
# Passages

Lines of a template that become a part of a group, whose names mean something.  Passages behind one
another are a passage, and a query is made of a head, a passage in braces and a tail.
-/

namespace FacetedQuery.Template

open Clause (PropertyPath)
open Sparql (Prologue Token)
open Sparql.Grammar
open Sparql.Token (Spelled)

variable {prologue : Prologue} {fills firsts lasts : List (Placeholder × List Char)}

/-- Lines that become a part of a group, which binds variables and assigns to some of them. -/
def Passage (prologue : Prologue) (fills : List (Placeholder × List Char)) (lines : List String)
    (scope assigned : List String) : Prop :=
  ∃ tokens, Sheet fills lines tokens ∧ Forms tokens scope assigned ∧
    ∀ token ∈ tokens, prologue.admits token = true

namespace Passage

variable {lines others : List String} {scope more assigned further : List String}

theorem append (first : Passage prologue fills lines scope assigned)
    (second : Passage prologue fills others more further)
    (fresh : ∀ target ∈ further, target ∉ scope) :
    Passage prologue fills (lines ++ others) (scope ++ more) (assigned ++ further) := by
  obtain ⟨tokens, sheet, forms, admitted⟩ := first
  obtain ⟨behind, sheetBehind, formsBehind, admittedBehind⟩ := second
  refine ⟨tokens ++ behind, sheet.append sheetBehind, forms.append formsBehind fresh, ?_⟩
  intro token member
  rcases List.mem_append.mp member with member | member
  · exact admitted token member
  · exact admittedBehind token member

theorem appendPlain (first : Passage prologue fills lines scope assigned)
    (second : Passage prologue fills others more []) :
    Passage prologue fills (lines ++ others) (scope ++ more) assigned := by
  simpa using first.append second (by simp)

theorem plain {tokens : List Token} (plain : PlainLines lines tokens)
    (forms : Forms tokens scope assigned)
    (admitted : ∀ token ∈ tokens, prologue.admits token = true) :
    Passage prologue fills lines scope assigned :=
  ⟨tokens, .plain plain, forms, admitted⟩

theorem single {line : String} {tokens : List Token} (draws : Draws fills line tokens)
    (forms : Forms tokens scope assigned)
    (admitted : ∀ token ∈ tokens, prologue.admits token = true) :
    Passage prologue fills [line] scope assigned :=
  ⟨tokens, by simpa using Sheet.cons draws .nil, forms, admitted⟩

theorem blank {placeholder : Placeholder} (given : fills.lookup placeholder = some []) :
    Passage prologue fills [placeholder.token] [] [] := by
  obtain ⟨firsts, lasts, rfl, apart⟩ := exists_first given
  refine single (fun indentation spaces onLine => ?_) .nil (by simp)
  rw [fillAll_slot apart spaces onLine,
    fillAll_of_free (free_of_not_mem (by simpa [indent] using spaces.not_mem))]
  simpa [indent] using Lays.blank spaces onLine

theorem slot {placeholder : Placeholder} (apart : ∀ fill ∈ firsts, placeholder ≠ fill.1)
    (passage : Passage prologue lasts lines scope assigned)
    (onLines : ∀ line ∈ lines, '\n' ∉ line.toList) (nonempty : lines ≠ []) :
    Passage prologue (firsts ++ (placeholder, (Text.join "\n" lines).toList) :: lasts)
      [placeholder.token] scope assigned := by
  obtain ⟨tokens, sheet, forms, admitted⟩ := passage
  exact single (.sheet apart sheet onLines nonempty) forms admitted

/-- The place of a block of constraints. -/
theorem block {portal : Portal} {facetClass filterTarget : String}
    {constraints : Option ConstraintSet} {block : ConstraintBlock}
    (given : fills.lookup .filter = some block.render.toList) (navigable : portal.Navigable)
    (settles : portal.Spellable Settles) (spellable : portal.Spellable Tokenises)
    (whole : filterTarget.toList.head? ≠ some ':') (closed : Text.Closed filterTarget.toList)
    (composed : ConstraintBlock.compose portal facetClass constraints filterTarget = .ok block) :
    Passage portal.prologue fills [Placeholder.filter.token]
        (Clause.Pattern.listScope block.elements) [] ∧
      ∀ name ∈ Clause.Pattern.listScope block.elements,
        name = filterTarget ∨ ConstraintBlock.IsOwn name := by
  obtain ⟨forms, admitted, names⟩ :=
    ConstraintBlock.forms_block navigable spellable whole composed
  have insertable := ConstraintBlock.insertable_of_compose settles
    (ConstraintBlock.readable_of_whole whole) closed composed
  refine ⟨single (.insert given insertable) forms ?_, names⟩
  intro token member
  obtain ⟨piece, inside, rfl⟩ := List.mem_map.mp member
  exact admitted piece inside

theorem admitted_braces {tokens : List Token}
    (admitted : ∀ token ∈ tokens, prologue.admits token = true) :
    ∀ token ∈ .mark .openBrace :: (tokens ++ [.mark .closeBrace]), prologue.admits token =
      true := by
  intro token member
  simp only [List.mem_cons, List.mem_append, List.not_mem_nil, or_false] at member
  rcases member with rfl | member | rfl
  · rfl
  · exact admitted token member
  · rfl

/-- An optional group. -/
theorem optional (passage : Passage prologue fills lines scope []) :
    Passage prologue fills (Text.groupLines "OPTIONAL" lines) scope [] := by
  obtain ⟨tokens, sheet, forms, admitted⟩ := passage
  have opens : Draws fills ("OPTIONAL" ++ " " ++ Text.openBrace)
      [.word "OPTIONAL", .mark .openBrace] := .plain (by decide +kernel)
  refine ⟨_, .group "OPTIONAL" opens sheet, forms.optional, ?_⟩
  intro token member
  rcases List.mem_cons.mp member with rfl | member
  · rfl
  · exact admitted_braces admitted token member

end Passage

/-- The name of a variable that is a single token. -/
structure Named (name : String) : Prop where
  wellFormed : Rdf.Name.isVariable name.toList = true
  whole : name.toList.head? ≠ some ':'

instance (name : String) : Decidable (Named name) :=
  decidable_of_iff (Rdf.Name.isVariable name.toList = true ∧ name.toList.head? ≠ some ':')
    ⟨fun ⟨wellFormed, whole⟩ => ⟨wellFormed, whole⟩, fun named => ⟨named.wellFormed, named.whole⟩⟩

theorem Named.spelled {name : String} (named : Named name) :
    Spelled ('?' :: name.toList) [.var name] := by
  have whole : Clause.Expression.IsWhole ⟨name, named.wellFormed⟩ := named.whole
  have spelled := @Clause.spelled_variable ⟨name, named.wellFormed⟩
    (ConstraintBlock.readable_of_whole named.whole)
  rw [Clause.tokens_variable whole] at spelled
  simpa [Rdf.Variable.render] using spelled

/-- A name that is continued by characters of names. -/
theorem Named.suffixed {name ending : String} (named : Named name)
    (rest : ending.toList.all Rdf.Name.isVariableRest = true) : Named (name ++ ending) := by
  obtain ⟨wellFormed, whole⟩ := named
  cases characters : name.toList with
  | nil =>
      rw [characters] at wellFormed
      cases wellFormed
  | cons first others =>
      rw [characters] at wellFormed whole
      have parts : (name ++ ending).toList = first :: (others ++ ending.toList) := by
        simp [characters]
      simp only [Rdf.Name.isVariable, Bool.and_eq_true] at wellFormed
      refine ⟨?_, ?_⟩
      · rw [parts]
        simp only [Rdf.Name.isVariable, List.all_append, Bool.and_eq_true]
        exact ⟨wellFormed.1, wellFormed.2, rest⟩
      · rw [parts]
        simpa using whole

/-- A path on one line that can be followed. -/
structure Walkable (prologue : Prologue) (path : String) : Prop extends
    Traversable prologue path where
  plain : Plain path (PropertyPath.mk path).tokens

/-- The text of a link between two variables, in front of more. -/
def linkText (subject path object : String) (text : List Char) : List Char :=
  '?' :: (subject.toList ++ ' ' :: (path.toList ++ ' ' :: '?' :: (object.toList ++ ' ' :: text)))

section

variable {subject object path line : String} {text : List Char} {tokens : List Token}

theorem spelled_link (named : Named subject) (walkable : Walkable prologue path)
    (namedObject : Named object) (spelled : Spelled text tokens) :
    Spelled (linkText subject path object text)
      (.var subject :: ((PropertyPath.mk path).tokens ++ .var object :: tokens)) := by
  have behind := (namedObject.spelled.append spelled.space (.space _)).space
  exact named.spelled.append (walkable.plain.spelled.append behind (.space _)).space (.space _)

theorem closed_link (subject path object : String) (closed : Text.Closed text)
    (nonempty : text ≠ []) :
    Text.Closed (linkText subject path object text) := by
  have split : linkText subject path object text =
      '?' :: (subject.toList ++ ' ' :: (path.toList ++ ' ' :: '?' :: (object.toList ++ [' ']))) ++
        text := by
    simp [linkText]
  rw [split]
  exact closed.behind nonempty _

theorem admitted_link (walkable : Walkable prologue path)
    (admitted : ∀ token ∈ tokens, prologue.admits token = true) :
    ∀ token ∈ .var subject :: ((PropertyPath.mk path).tokens ++ .var object :: tokens),
      prologue.admits token = true := by
  intro token member
  simp only [List.mem_cons, List.mem_append] at member
  rcases member with rfl | member | rfl | member
  · rfl
  · exact walkable.admitted token member
  · rfl
  · exact admitted token member

theorem Passage.ofSpelled {scope : List String} (spelled : Spelled text tokens)
    (closed : Text.Closed text) (nonempty : text ≠ []) (isLine : line.toList = text)
    (forms : Forms tokens scope [])
    (admitted : ∀ token ∈ tokens, prologue.admits token = true) :
    Passage prologue fills [line] scope [] :=
  single (.ofSpelled (fun _ spaces _ =>
    fillAll_of_free (free_append_of_not_mem spaces.not_mem spelled.free) _) spelled
      closed nonempty isLine)
    forms admitted

theorem Passage.link (named : Named subject) (walkable : Walkable prologue path)
    (namedObject : Named object) (isLine : line.toList = linkText subject path object ['.']) :
    Passage prologue fills [line] [subject, object] [] :=
  ofSpelled (spelled_link named walkable namedObject Spelled.dot)
    (closed_link subject path object (by decide) (by simp)) (by simp [linkText]) isLine
    (.link walkable.arePath subject object) (admitted_link walkable (by simp; rfl))

/-- The text in front of an optional link. -/
def optionalStart : List Char :=
  ['O', 'P', 'T', 'I', 'O', 'N', 'A', 'L', ' ', '\x7b', ' ']

theorem spelled_optional (named : Named subject) (walkable : Walkable prologue path)
    (namedObject : Named object) :
    Spelled (optionalStart ++ linkText subject path object ['\x7d'])
      (.word "OPTIONAL" :: .mark .openBrace :: .var subject ::
        ((PropertyPath.mk path).tokens ++ [.var object, .mark .closeBrace])) := by
  have link := spelled_link named walkable namedObject Spelled.closeBrace
  exact Spelled.word ['O', 'P', 'T', 'I', 'O', 'N', 'A', 'L'] (fun _ => rfl) (by decide)
    link.space.openBrace.space

/-- A line that links two variables if it can. -/
theorem Passage.optionalLink (named : Named subject) (walkable : Walkable prologue path)
    (namedObject : Named object)
    (isLine : line.toList = optionalStart ++ linkText subject path object ['\x7d']) :
    Passage prologue fills [line] [subject, object] [] := by
  have closed := @closed_link ['\x7d'] subject path object (by decide) (by simp)
  refine ofSpelled (spelled_optional named walkable namedObject)
    (closed.behind (by simp [linkText]) _) (by simp [linkText]) isLine
    (.optionalLink walkable.arePath subject object) ?_
  intro token member
  rcases List.mem_cons.mp member with rfl | member
  · rfl
  rcases List.mem_cons.mp member with rfl | member
  · rfl
  exact admitted_link walkable (by simp; rfl) token member

end

/-- Lines in front of the group of a query, or behind it. -/
def Margin (prologue : Prologue) (fills : List (Placeholder × List Char)) (lines : List String)
    (tokens : List Token) : Prop :=
  Sheet fills lines tokens ∧ ∀ token ∈ tokens, prologue.admits token = true

theorem Margin.plain {lines : List String} {tokens : List Token}
    (plain : PlainLines lines tokens) (admitted : ∀ token ∈ tokens, prologue.admits token = true) :
    Margin prologue fills lines tokens :=
  ⟨.plain plain, admitted⟩

theorem Margin.append {lines others : List String} {tokens more : List Token}
    (first : Margin prologue fills lines tokens) (second : Margin prologue fills others more) :
    Margin prologue fills (lines ++ others) (tokens ++ more) := by
  refine ⟨first.1.append second.1, ?_⟩
  intro token member
  rcases List.mem_append.mp member with member | member
  · exact first.2 token member
  · exact second.2 token member

section

variable {heading content ending : List String} {head tail : List Token}
  {columns : Option (List Sparql.Column)} {modified : Sparql.Modifiers}
  {scope assigned : List String}

theorem draws_where : Draws fills ("WHERE" ++ " " ++ Text.openBrace)
    [.word "WHERE", .mark .openBrace] :=
  .plain (by decide +kernel)

theorem admitted_select {middle : List Token}
    (admittedHead : ∀ token ∈ head, prologue.admits token = true)
    (admitted : ∀ token ∈ middle, prologue.admits token = true)
    (admittedTail : ∀ token ∈ tail, prologue.admits token = true) :
    ∀ token ∈ selectTokens head middle tail, prologue.admits token = true := by
  intro token member
  simp only [selectTokens, List.mem_append, List.mem_cons] at member
  rcases member with member | rfl | rfl | member | rfl | member
  · exact admittedHead token member
  · rfl
  · rfl
  · exact admitted token member
  · rfl
  · exact admittedTail token member

/-- A query in braces. -/
theorem Passage.subquery {list : List Sparql.Column} (margin : Margin prologue fills heading head)
    (passage : Passage prologue fills content scope assigned)
    (below : Margin prologue fills ending tail)
    (encloses : ∀ rest, Encloses head tail (some list) modified (.mark .closeBrace :: rest)) :
    Passage prologue fills
      (Text.groupLines "" (heading ++ Text.groupLines "WHERE" content ++ ending))
      (namesOf list) [] := by
  obtain ⟨sheetHead, admittedHead⟩ := margin
  obtain ⟨tokens, sheet, forms, admitted⟩ := passage
  obtain ⟨sheetTail, admittedTail⟩ := below
  have opens : Draws fills Text.openBrace [.mark .openBrace] := .plain (by decide +kernel)
  have inside := (sheetHead.append (Sheet.group "WHERE" draws_where sheet)).append sheetTail
  have parts : head ++ ([.word "WHERE", .mark .openBrace] ++ (tokens ++ [.mark .closeBrace])) ++
    tail = selectTokens head tokens tail := by
    simp [selectTokens]
  rw [parts] at inside
  exact ⟨_, .group "" opens inside, .subquery encloses forms,
    admitted_braces (admitted_select admittedHead admitted admittedTail)⟩

end

/-- A text that becomes a query once it is filled: a head, a passage in braces and a tail. -/
inductive Arranged (prologue : Prologue) (fills : List (Placeholder × List Char)) : String →
    Prop where
  | intro {heading content ending : List String} {head tail : List Token}
      {columns : Option (List Sparql.Column)} {modified : Sparql.Modifiers}
      {scope assigned : List String} :
      Margin prologue fills heading head → Passage prologue fills content scope assigned →
      Page fills (Text.closeBrace :: ending) (.mark .closeBrace :: tail) →
      (∀ token ∈ tail, prologue.admits token = true) → Encloses head tail columns modified [] →
      Arranged prologue fills
        (Text.join "\n" (heading ++ (Text.groupLines "WHERE" content ++ ending)))

/-- A template of a head, a passage in braces and a tail becomes a query of the head whose body
binds what the passage binds. -/
theorem select?_finish {portal : Portal}
    (sound : ∀ declaration ∈ portal.prefixes, declaration.Sound)
    {heading content ending : List String} {head tail : List Token}
    {columns : Option (List Sparql.Column)} {modified : Sparql.Modifiers}
    {scope assigned : List String} (margin : Margin portal.prologue fills heading head)
    (passage : Passage portal.prologue fills content scope assigned)
    (below : Page fills (Text.closeBrace :: ending) (.mark .closeBrace :: tail))
    (admittedTail : ∀ token ∈ tail, portal.prologue.admits token = true)
    (encloses : Encloses head tail columns modified []) {template : Template}
    (isText : template.text = fillAll fills
      (Text.join "\n" (heading ++ (Text.groupLines "WHERE" content ++ ending))).toList) :
    ∃ text, template.finish = .ok text ∧ ∃ body : Sparql.Group, body.scope = scope ∧
      Sparql.select? (portal.prefixDeclarations ++ text) =
        some (Select.ofParts columns body modified) := by
  obtain ⟨sheetHead, admittedHead⟩ := margin
  obtain ⟨tokens, sheet, forms, admitted⟩ := passage
  have page := sheetHead.page ((Sheet.cons draws_where sheet.indent).page below)
  have parts : head ++ ([.word "WHERE", .mark .openBrace] ++ tokens ++
      .mark .closeBrace :: tail) = selectTokens head tokens tail := by
    simp [selectTokens]
  have lines : ("WHERE" ++ " " ++ Text.openBrace) :: content.map ("  " ++ ·) ++
      Text.closeBrace :: ending = Text.groupLines "WHERE" content ++ ending := by
    rw [Text.groupLines, if_neg (by decide)]
    simp
  rw [parts, lines] at page
  obtain ⟨text, finished, spells⟩ := finish_page page isText
  obtain ⟨body, same, isQuery⟩ := exists_query encloses forms
  exact ⟨text, finished, body, same, Portal.select?_complete sound spells
    (encloses.noDeclaration _) (admitted_select admittedHead admitted admittedTail) isQuery⟩

/-- A template of an arranged text becomes a valid query. -/
theorem Arranged.isQuery_finish {portal : Portal}
    (sound : ∀ declaration ∈ portal.prefixes, declaration.Sound) {text : String}
    (arranged : Arranged portal.prologue fills text) {template : Template}
    (isText : template.text = fillAll fills text.toList) :
    ∃ body, template.finish = .ok body ∧
      Sparql.isQuery (portal.prefixDeclarations ++ body) = true := by
  cases arranged with
  | intro margin passage below admittedTail encloses =>
      obtain ⟨text, finished, _, -, isSelect⟩ :=
        select?_finish sound margin passage below admittedTail encloses isText
      exact ⟨text, finished, Sparql.isQuery_of_select? isSelect⟩

end FacetedQuery.Template
