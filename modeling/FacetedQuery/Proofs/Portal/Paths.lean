import FacetedQuery.Proofs.Clause.Wording
import FacetedQuery.Proofs.Portal.Validation
import FacetedQuery.Proofs.Sparql.Splitting
import FacetedQuery.Proofs.Sparql.Verb

/-!
# The paths of facets

The check of a path reads it between two variables, in the middle of a query.  A text may pass this
check and be no path: it may bring an object along and go on with a triple of its own.  A path that
passes in parentheses, too, is one.
-/

namespace FacetedQuery

namespace Portal

open Clause (Expression)
open Clause.Expression (IsWhole)
open Rdf (Variable)
open Sparql (Prologue Token)
open Sparql.Grammar
open Sparql.Token (Border Spells Trails lex spells_behind spells_space unescape)

variable {portal : Portal}

/-- A text that is a single verb, a property path or a variable, in the queries of a portal. -/
def IsVerb (portal : Portal) (path : String) (verb : Sparql.Verb) : Prop :=
  ∃ tokens, Spells (unescape path.toList) tokens ∧
    (∀ token ∈ tokens, portal.prologue.acceptsToken token = true) ∧
      pathVerb tokens = some (verb, [])

/-- The triples that a text is read as in the queries of a portal. -/
def triples? (portal : Portal) (text : String) : Option (List Sparql.Triples) :=
  whole? portal.prologue (fun _ => block pathVerb) text

/-- A text that makes a single triple of any two variables, whether a point ends it or not. -/
def Links (portal : Portal) (path : String) (verb : Sparql.Verb) : Prop :=
  ∀ subject object : Variable, IsWhole subject → IsWhole object →
    ∀ text ∈ [subject.render ++ " " ++ path ++ " " ++ object.render,
        (Clause.Pattern.link subject path object).render],
      portal.triples? text = some [⟨.var subject.name, [.about verb [.var object.name]]⟩]

section

variable {path : String} {verb : Sparql.Verb} {tokens : List Token}

/-- A text between two variables. -/
theorem spells_between (spells : Spells (unescape path.toList) tokens) {subject object : Variable}
    (whole : IsWhole subject) (wholeObject : IsWhole object) :
    Spells (unescape (subject.render ++ " " ++ path ++ " " ++ object.render).toList)
      (.var subject.name :: (tokens ++ [.var object.name])) := by
  have first := Clause.spells_variable whole
  have last := Clause.spells_variable wholeObject
  rw [Clause.tokens_variable whole] at first
  rw [Clause.tokens_variable wholeObject] at last
  have behind := spells_behind spells (@spells_space _ _ ' ' rfl last) (.space _)
  simpa using spells_behind first (@spells_space _ _ ' ' rfl behind) (.space _)

/-- What a text stands for if it is a verb between two variables, with a point or nothing behind
it. -/
theorem triples?_eq_some {text : String} {subject object : String} {point : List Token}
    (isVerb : pathVerb tokens = some (verb, []))
    (accepted : ∀ token ∈ tokens, portal.prologue.acceptsToken token = true)
    (isPoint : point = [] ∨ point = [.mark .dot])
    (spells : Spells (unescape text.toList) (.var subject :: (tokens ++ .var object :: point))) :
    portal.triples? text = some [⟨.var subject, [.about verb [.var object]]⟩] := by
  have lexed : Token.tokens? text.toList =
    some (.var subject :: (tokens ++ .var object :: point)) := by
    rw [Token.tokens?_eq_lex, spells.lex]
  refine whole?_eq_some lexed ?_ ?_
  · simp only [List.all_cons, List.all_append, List.all_eq_true.mpr accepted, Bool.true_and]
    rcases isPoint with rfl | rfl <;> rfl
  · have read := triples_of_verb subject object (pathVerb_behind isVerb object point)
      (by rcases isPoint with rfl | rfl <;> rfl) (by rcases isPoint with rfl | rfl <;> rfl)
    rcases isPoint with rfl | rfl
    · exact block_of_some read (Sparql.Reader.many_of_none rfl) rfl
    · exact block_of_some read (Sparql.Reader.many_of_none rfl) rfl

theorem links_of_isVerb (isVerb : portal.IsVerb path verb) : portal.Links path verb := by
  obtain ⟨tokens, spells, accepted, isVerb⟩ := isVerb
  intro subject object whole wholeObject text member
  have between := spells_between spells whole wholeObject
  have pointed := spells_behind between (Token.Spelled.dot.space.spells) (.space _)
  simp only [List.mem_cons, List.not_mem_nil, or_false] at member
  rcases member with rfl | rfl
  · exact triples?_eq_some isVerb accepted (.inl rfl) between
  · refine triples?_eq_some isVerb accepted (.inr rfl) ?_
    simpa [Clause.Pattern.link, Clause.Pattern.render, Clause.Node.render] using pointed

theorem lex_between {subject : Variable} (whole : IsWhole subject) (object : Variable) :
    Token.tokens? (subject.render ++ " " ++ path ++ " " ++ object.render).toList =
      (lex (unescape path.toList ++ ' ' :: unescape object.render.toList)).map
        (.var subject.name :: ·) := by
  have first := Clause.spells_variable whole
  rw [Clause.tokens_variable whole] at first
  have split : (subject.render ++ " " ++ path ++ " " ++ object.render).toList =
      subject.render.toList ++ ' ' :: (path.toList ++ ' ' :: object.render.toList) := by simp
  have space (text : List Char) : unescape (' ' :: text) = ' ' :: unescape text :=
    Token.unescape_cons (by decide) text
  rw [Token.tokens?_eq_lex, split, Token.unescape_append (by simp; decide), space,
    first.lex_append (.ofSpace rfl), Token.lex_space rfl, Token.unescape_append (by simp; decide),
    space]
  rfl

/-- What makes a single triple of two pairs of variables is a verb. -/
theorem isVerb_of_links (links : portal.Links path verb) : portal.IsVerb path verb := by
  have read (object : Variable) (wholeObject : IsWhole object) :
      ∃ tokens, lex (unescape path.toList ++ ' ' :: unescape object.render.toList) = some tokens ∧
        (∀ token ∈ tokens, portal.prologue.acceptsToken token = true) ∧
          block pathVerb (.var "s" :: tokens) =
            some ([⟨.var "s", [.about verb [.var object.name]]⟩], []) := by
    have isSubject : IsWhole ⟨"s", by decide⟩ := by simp [IsWhole]
    obtain ⟨_, lexed, accepted, finds⟩ := whole?_eq_some_iff.mp
      (links ⟨"s", by decide⟩ object isSubject wholeObject _ List.mem_cons_self)
    rw [lex_between isSubject] at lexed
    obtain ⟨tokens, behind, rfl⟩ := Option.map_eq_some_iff.mp lexed
    exact ⟨tokens, behind, (List.forall_mem_cons.mp accepted).2, finds⟩
  obtain ⟨all, lexed, accepted, isBlock⟩ := read ⟨"a", by decide⟩ (by simp [IsWhole])
  obtain ⟨other, lexedOther, -, isOther⟩ := read ⟨"b", by decide⟩ (by simp [IsWhole])
  have first : unescape (Variable.render ⟨"a", by decide⟩).toList = ['?', 'a'] := by decide +kernel
  have second : unescape (Variable.render ⟨"b", by decide⟩).toList = ['?', 'b'] := by decide +kernel
  rw [first] at lexed
  rw [second] at lexedOther
  rcases Token.split_lex rfl (by decide) lexed with
    ⟨tokens, more, spells, isMore, rfl⟩ | ⟨tokens, trails⟩
  · cases (by decide : lex ['?', 'a'] = some [.var "a"]).symm.trans isMore
    have lexedSecond : lex [' ', '?', 'b'] = some [.var "b"] := by decide
    rw [spells.lex_append (.ofSpace rfl), lexedSecond] at lexedOther
    cases lexedOther
    obtain ⟨_, _, _, _, _, same, rest, behind, isVerb, isNode, -⟩ := startsTriple_of_block isBlock
    obtain ⟨_, _, _, _, _, sameToo, _, _, isVerbToo, isNodeToo, -⟩ := startsTriple_of_block isOther
    cases same
    cases sameToo
    rw [node_eq_var isNode] at isVerb
    rw [node_eq_var isNodeToo] at isVerbToo
    exact ⟨tokens, spells, fun token member => accepted token (List.mem_append_left _ member),
      pathVerb_of_objects (by decide) isVerb isVerbToo⟩
  · -- A comment would hide the object, which differs.
    cases (trails.lex_append (.ofSpace rfl) (by decide)).symm.trans lexed
    cases (trails.lex_append (.ofSpace rfl) (by decide)).symm.trans lexedOther
    simpa using isBlock.symm.trans isOther

end

/-- What stands behind a path in a check. -/
def probeEnd : List Char :=
  [' ', '?', 'o', ' ', '\x7d']

def probeEndTokens : List Token :=
  [.var "o", .mark .closeBrace]

theorem spells_probeStart :
    Spells "SELECT * WHERE \x7b ?s".toList (probeTokens "s" []) :=
  Token.spells_of_lex (by decide) (by decide)

theorem lex_probe (text : List Char) :
    lex (unescape ("SELECT * WHERE \x7b ?s ".toList ++ text)) =
      (lex (unescape text)).map (probeTokens "s") := by
  have split : "SELECT * WHERE \x7b ?s ".toList ++ text =
      "SELECT * WHERE \x7b ?s".toList ++ ' ' :: text := rfl
  have border : Border (' ' :: unescape text) := .ofSpace rfl
  rw [split, Token.unescape_append_of_plain (by decide), Token.unescape_cons (by decide),
    spells_probeStart.lex_append border, Token.lex_space rfl]
  rfl

/-- A text is accepted between two variables exactly if the tokens that it has there are the rest of
a query. -/
def Passes (portal : Portal) (text : List Char) : Prop :=
  ∃ tokens, lex (unescape text) = some tokens ∧
    (∀ token ∈ tokens, portal.prologue.acceptsToken token = true) ∧
      Sparql.labelsAreLocal (probeTokens "s" tokens) = true ∧
        ∃ query, query? (probeTokens "s" tokens) = some query

theorem passes_part (sound : ∀ declaration ∈ portal.prefixes, declaration.Sound)
    (location text shown : String) :
    ((Check.part location ("?s " ++ text ++ " ?o") shown).report portal).outcome = .ok () ↔
      portal.Passes (text.toList ++ probeEnd) := by
  have isBody : portal.prefixDeclarations ++ "SELECT * WHERE " ++ Text.braced
    ("?s " ++ text ++ " ?o") =
      portal.prefixDeclarations ++ ("SELECT * WHERE " ++ Text.braced ("?s " ++ text ++ " ?o")) :=
    String.append_assoc ..
  have toList : ("SELECT * WHERE " ++ Text.braced ("?s " ++ text ++ " ?o")).toList =
      "SELECT * WHERE \x7b ?s ".toList ++ (text.toList ++ probeEnd) := by
    simp [Text.braced, Text.openBrace, Text.closeBrace, probeEnd]
  -- A query that starts with its variables declares no prefix of its own.
  have noDeclaration : ∀ tokens, lex (unescape
      ("SELECT * WHERE " ++ Text.braced ("?s " ++ text ++ " ?o")).toList) = some tokens →
      ∀ prologue, Prologue.declaration prologue tokens = none := by
    intro tokens lexed prologue
    rw [toList, lex_probe] at lexed
    obtain ⟨_, -, rfl⟩ := Option.map_eq_some_iff.mp lexed
    rfl
  have outcome : ((Check.part location ("?s " ++ text ++ " ?o") shown).report portal).outcome =
    .ok () ↔ Sparql.isQuery (portal.prefixDeclarations ++ "SELECT * WHERE " ++
        Text.braced ("?s " ++ text ++ " ?o")) = true := by
    change portal.probe _ _ _ = _ ↔ _
    unfold Portal.probe
    split <;> simp_all
  rw [outcome, isBody, isQuery_declared sound noDeclaration, toList, lex_probe]
  have accepted (tokens : List Token) :
      (∀ token ∈ probeTokens "s" tokens, portal.prologue.acceptsToken token = true) ↔
        ∀ token ∈ tokens, portal.prologue.acceptsToken token = true := by
    simp [probeTokens, Prologue.acceptsToken]
  constructor
  · rintro ⟨_, lexed, isAccepted, further⟩
    obtain ⟨tokens, found, rfl⟩ := Option.map_eq_some_iff.mp lexed
    exact ⟨tokens, found, (accepted tokens).mp isAccepted, further⟩
  · rintro ⟨tokens, lexed, isAccepted, further⟩
    exact ⟨_, by rw [lexed, Option.map_some], (accepted tokens).mpr isAccepted, further⟩

section

variable {path : String} {tokens : List Token}

theorem lex_probeEnd (text : List Char) :
    lex (unescape (text ++ probeEnd)) = lex (unescape text ++ probeEnd) := by
  have plain : unescape probeEnd = probeEnd := Token.unescape_eq_self (by decide)
  rw [@Token.unescape_append probeEnd (by simp [probeEnd]; decide), plain]

/-- A text with tokens of its own passes by these tokens. -/
theorem passes_of_spells (spells : Spells (unescape path.toList) tokens)
    (passes : portal.Passes (path.toList ++ probeEnd)) :
    (∀ token ∈ tokens, portal.prologue.acceptsToken token = true) ∧
      ∃ query, query? (probeTokens "s" (tokens ++ probeEndTokens)) = some query := by
  have border : Border probeEnd := @Border.ofSpace ' ' _ rfl
  have lexed : lex probeEnd = some probeEndTokens := by decide
  obtain ⟨_, found, accepted, -, isQuery⟩ := passes
  rw [lex_probeEnd, spells.lex_append border, lexed] at found
  cases found
  exact ⟨fun token member => accepted token (List.mem_append_left _ member), isQuery⟩

/-- The path that repeats another in a check. -/
def closureText (path : String) : String :=
  (Clause.PropertyPath.mk path).zeroOrMore.text

def closureEnd : List Char :=
  ')' :: '*' :: probeEnd

def closureEndTokens : List Token :=
  .mark .closeParen :: .mark .star :: probeEndTokens

theorem lex_closure (path : String) : lex (unescape ((closureText path).toList ++ probeEnd)) =
    (lex (unescape path.toList ++ closureEnd)).map (.mark .openParen :: ·) := by
  have split : (closureText path).toList ++ probeEnd = '(' :: (path.toList ++ closureEnd) := by
    simp [closureText, Clause.PropertyPath.zeroOrMore, probeEnd, closureEnd]
  have plain : unescape closureEnd = closureEnd := Token.unescape_eq_self (by decide)
  rw [split, Token.unescape_cons (by decide),
    @Token.unescape_append closureEnd (by simp [closureEnd]; decide), plain, Token.lex_token rfl]

/-- A path whose repetition passes, too, has tokens that are a path. -/
theorem exists_spells_of_passes (passes : portal.Passes (path.toList ++ probeEnd))
    (closure : portal.Passes ((closureText path).toList ++ probeEnd)) :
    ∃ tokens, Spells (unescape path.toList) tokens ∧ PathForm .alternatives tokens := by
  have border : Border closureEnd := ⟨by simp [closureEnd]; decide, rfl⟩
  obtain ⟨all, lexed, -, -, query, isQuery⟩ := passes
  obtain ⟨closed, lexedClosure, -, -, other, isOther⟩ := closure
  rw [lex_probeEnd] at lexed
  rw [lex_closure] at lexedClosure
  obtain ⟨inside, lexedInside, rfl⟩ := Option.map_eq_some_iff.mp lexedClosure
  rcases @Token.split_lex _ _ ' ' _ rfl (by decide) lexed with
    ⟨tokens, more, spells, -, rfl⟩ | ⟨tokens, trails⟩
  · have lexedEnd : lex closureEnd = some closureEndTokens := by decide
    rw [spells.lex_append border, lexedEnd] at lexedInside
    cases lexedInside
    refine ⟨tokens, spells, (form_of_queries isQuery isOther fun front behind same => ?_).1⟩
    cases front with
    | nil => rfl
    | cons first front =>
        obtain ⟨-, rest⟩ := List.cons.inj same
        have member : Token.mark .closeParen ∈ Token.mark .star :: probeEndTokens := by
          rw [rest]
          simp
        exact absurd member (by decide)
  · have line : ∀ character ∈ closureEnd, character ≠ '\n' ∧ character ≠ '\r' := by decide
    obtain rfl := Option.some.inj (lexed.symm.trans (trails.lex_append (.ofSpace rfl) (by decide)))
    obtain rfl := Option.some.inj (lexedInside.symm.trans (trails.lex_append border line))
    rw [← List.append_nil inside] at isQuery isOther
    exact absurd rfl (form_of_queries isQuery isOther (by simp)).2

/-- The repetition of a path passes if the path does. -/
theorem passes_closure (spells : Spells (unescape path.toList) tokens)
    (accepted : ∀ token ∈ tokens, portal.prologue.acceptsToken token = true)
    (form : PathForm .alternatives tokens) :
    portal.Passes ((closureText path).toList ++ probeEnd) := by
  have border : Border closureEnd := ⟨by simp [closureEnd]; decide, rfl⟩
  have lexedEnd : lex closureEnd = some closureEndTokens := by decide
  have named : ∀ token ∈ tokens, portal.prologue.admits token = true := by
    intro token member
    have isPath := form.madeOf token member
    cases token <;> first | exact accepted _ member | cases isPath
  have admitted : ∀ token ∈ probeTokens "s" (.mark .openParen :: (tokens ++ closureEndTokens)),
      portal.prologue.admits token = true := by
    simp only [probeTokens, closureEndTokens, probeEndTokens, List.forall_mem_cons,
      List.forall_mem_append]
    exact ⟨rfl, rfl, rfl, rfl, rfl, rfl, named, rfl, rfl, rfl, rfl, nofun⟩
  have repeated : PathForm .alternatives
      (.mark .openParen :: (tokens ++ [.mark .closeParen]) ++ [.mark .star]) :=
    .lastSequence (.lastStep (.step (.inl rfl) (.grouped form) (.inr ⟨.star, by decide, rfl⟩)))
  obtain ⟨group, -, isGroup⟩ := (Fills.link repeated.arePath "s" "o" []).group
  refine ⟨.mark .openParen :: (tokens ++ closureEndTokens), ?_, fun token member => ?_,
    Sparql.labelsAreLocal_of_admitted admitted, ?_⟩
  · rw [lex_closure, spells.lex_append border, lexedEnd]
    rfl
  · exact Prologue.acceptsToken_of_admits (admitted token (List.mem_append_right
      (probeTokens "s" []) member))
  · have content : probeTokens "s" (.mark .openParen :: (tokens ++ closureEndTokens)) =
        selectTokens Template.allHead
          (.var "s" :: (.mark .openParen :: (tokens ++ [.mark .closeParen]) ++
          [.mark .star] ++ [.var "o"])) [] := by
      simp [probeTokens, selectTokens, Template.allHead, closureEndTokens, probeEndTokens]
    rw [content]
    exact ⟨_, query?_of_group Template.encloses_all (by simpa using isGroup)⟩

end

section

variable (valid : portal.validate = .ok ())
  (sound : ∀ declaration ∈ portal.prefixes, declaration.Sound) {spec : ResultClass} {facet : Facet}

include sound

theorem passes_hierarchy {path : String} :
    ((hierarchyCheck spec facet path).report portal).outcome = .ok () ↔
      portal.Passes ((closureText path).toList ++ probeEnd) :=
  passes_part sound _ (closureText path) _

variable (member : spec ∈ portal.resultClasses) (inside : facet ∈ spec.facets)

include valid member inside

theorem passes_path {named : NamedPath} (listed : named ∈ facet.paths) :
    portal.Passes (named.path.toList ++ probeEnd) := by
  have isCheck : pathCheck spec facet named ∈ classChecks spec ++ queryChecks spec := by
    refine List.mem_append_left _
      (List.mem_cons_of_mem _ (List.mem_flatMap.mpr ⟨facet, inside, ?_⟩))
    exact List.mem_append_left _ (List.mem_cons_of_mem _ (List.mem_map_of_mem listed))
  exact (passes_part sound _ named.path _).mp (passes_class valid member isCheck)

theorem passes_parent {parent : String} (isParent : facet.parent = some parent) :
    portal.Passes (parent.toList ++ probeEnd) ∧
      portal.Passes ((closureText parent).toList ++ probeEnd) := by
  have listed : ⟨"parent property", parent⟩ ∈ facet.paths := by
    simp [Facet.paths, Facet.optionalPath, isParent]
  have isCheck : hierarchyCheck spec facet parent ∈ classChecks spec ++ queryChecks spec := by
    refine List.mem_append_left _
      (List.mem_cons_of_mem _ (List.mem_flatMap.mpr ⟨facet, inside, ?_⟩))
    exact List.mem_append_right _ (by simp [isParent])
  exact ⟨passes_path valid sound member inside listed,
    (passes_hierarchy sound).mp (passes_class valid member isCheck)⟩

end

section

variable {path : String}

/-- Among the texts that pass, those made of path tokens are the paths. -/
theorem exists_isVerb_iff (passes : portal.Passes (path.toList ++ probeEnd)) :
    (∃ verb, portal.IsVerb path verb) ↔ ∃ tokens, Spells (unescape path.toList) tokens ∧
      ((∀ token ∈ tokens, isPathToken token = true) ∨ ∃ name, tokens = [.var name]) := by
  constructor
  · rintro ⟨verb, tokens, spells, -, isVerb⟩
    exact ⟨tokens, spells, (exists_verb_iff.mp ⟨verb, isVerb⟩).imp_left PathForm.madeOf⟩
  · rintro ⟨tokens, spells, made⟩
    obtain ⟨accepted, query, isQuery⟩ := passes_of_spells spells passes
    have isVerb := exists_verb_iff.mpr (made.imp_left fun isPath => form_of_query isPath isQuery)
    exact isVerb.imp fun verb isVerb => ⟨tokens, spells, accepted, isVerb⟩

/-- Among the texts that pass, those that pass in parentheses are the paths. -/
theorem exists_isVerb_path_iff (passes : portal.Passes (path.toList ++ probeEnd)) :
    (∃ found, portal.IsVerb path (.path found)) ↔
      portal.Passes ((closureText path).toList ++ probeEnd) := by
  constructor
  · rintro ⟨found, tokens, spells, accepted, isVerb⟩
    exact passes_closure spells accepted (exists_path_iff.mp ⟨found, isVerb⟩)
  · intro closure
    obtain ⟨tokens, spells, form⟩ := exists_spells_of_passes passes closure
    obtain ⟨accepted, -⟩ := passes_of_spells spells passes
    exact (exists_path_iff.mpr form).imp fun found isVerb => ⟨tokens, spells, accepted, isVerb⟩

end

/-- A path of a facet of a valid portal is a single verb exactly if it is made of nothing but path
tokens, or is a variable; it is a property path exactly if it passes the check of a hierarchy, which
parents do; and the verbs are what makes a single triple of any two variables. -/
theorem facet_paths_link (valid : portal.validate = .ok ())
    (sound : ∀ declaration ∈ portal.prefixes, declaration.Sound) {spec : ResultClass}
    (member : spec ∈ portal.resultClasses) {facet : Facet} (inside : facet ∈ spec.facets) :
    (∀ named ∈ facet.paths,
      ((∃ verb, portal.IsVerb named.path verb) ↔
        ∃ tokens, Spells (unescape named.path.toList) tokens ∧
          ((∀ token ∈ tokens, isPathToken token = true) ∨ ∃ name, tokens = [.var name])) ∧
      ((∃ found, portal.IsVerb named.path (.path found)) ↔
        ((hierarchyCheck spec facet named.path).report portal).outcome = .ok ()) ∧
      ∀ verb, portal.IsVerb named.path verb ↔ portal.Links named.path verb) ∧
    ∀ parent, facet.parent = some parent → ∃ found, portal.IsVerb parent (.path found) := by
  refine ⟨fun named listed => ?_, fun parent isParent => ?_⟩
  · have passes := passes_path valid sound member inside listed
    exact ⟨exists_isVerb_iff passes,
      (exists_isVerb_path_iff passes).trans (passes_hierarchy sound).symm,
      fun _ => ⟨links_of_isVerb, isVerb_of_links⟩⟩
  · obtain ⟨passes, closure⟩ := passes_parent valid sound member inside isParent
    exact (exists_isVerb_path_iff passes).mpr closure

/-- A class whose facet leads to its values by two triples, which have nothing in common. -/
def severedClass : ResultClass where
  id := "c"
  rdfClasses := ["<http://a/C>"]
  properties := ""
  defaultSortKey := none
  facets := [(Facet.ofUris "f" "<http://a/p> ?x . ?y <http://a/q>").withLabelPath "<http://a/r>"]

def severed : Portal where
  prefixes := []
  resultClasses := [severedClass]
  listings := []
  lookups := []

theorem validate_severed : severed.validate = .ok () := by
  have sound : ∀ declaration ∈ severed.prefixes, declaration.Sound := nofun
  have read : Token.tokens?
      "SELECT * WHERE \x7b ?s <http://a/p> ?x . ?y <http://a/q> ?o \x7d".toList =
        some [.word "SELECT", .mark .star, .word "WHERE", .mark .openBrace, .var "s",
          .name (.iri "http://a/p"), .var "x", .mark .dot, .var "y", .name (.iri "http://a/q"),
          .var "o", .mark .closeBrace] := by
    rw [String.toList_ofList]
    decide +kernel
  have severs : Sparql.isQuery (severed.prefixDeclarations ++ "SELECT * WHERE " ++
      Text.braced ("?s " ++ "<http://a/p> ?x . ?y <http://a/q>" ++ " ?o")) = true :=
    Sparql.isQuery_of_tokens read (by decide +kernel)
  refine validate_of_class rfl rfl sound (framed_bare ⟨"http://a/C", by decide⟩ rfl rfl)
    (List.forall_mem_singleton.mpr (List.forall_mem_cons.mpr ⟨rfl, List.forall_mem_cons.mpr
      ⟨if_pos severs, List.forall_mem_singleton.mpr ?_⟩⟩)) nofun
  exact passes_property sound ⟨"http://a/r", by decide⟩ _ _

/-- The label path of the facet makes one triple of any two variables. -/
theorem facet_paths_link_severed : severed.validate = .ok () ∧
    ∃ verb, severed.Links "<http://a/r>" verb := by
  have spells : Spells (unescape "<http://a/r>".toList) [.name (.iri "http://a/r")] :=
    Token.spells_of_lex (by decide +kernel) (by decide +kernel)
  have isFacet : severedClass.facets.head (by decide) ∈ severedClass.facets := List.mem_cons_self
  obtain ⟨isVerb, -, links⟩ :=
    (facet_paths_link validate_severed nofun List.mem_cons_self isFacet).1
    ⟨"label path", "<http://a/r>"⟩ (by decide)
  obtain ⟨verb, single⟩ := isVerb.mpr ⟨_, spells, .inl (by decide)⟩
  exact ⟨validate_severed, verb, (links verb).mp single⟩

/-- The portal is valid, but its path makes two triples, neither of which leads from the subject to
the object. -/
theorem exists_severed_path : severed.validate = .ok () ∧
    ∃ spec ∈ severed.resultClasses, ∃ facet ∈ spec.facets, ∃ named ∈ facet.paths,
      (∀ verb, ¬ severed.IsVerb named.path verb) ∧
      severed.triples? ("?id " ++ named.path ++ " ?label .") =
        some [⟨.var "id", [.about (.path (.property (.resource (.iri "http://a/p")))) [.var "x"]]⟩,
          ⟨.var "y",
            [.about (.path (.property (.resource (.iri "http://a/q")))) [.var "label"]]⟩] := by
  refine ⟨validate_severed, _, List.mem_cons_self, _, List.mem_cons_self,
    ⟨"predicate", "<http://a/p> ?x . ?y <http://a/q>"⟩, by decide, ?_, ?_⟩
  · rintro verb ⟨tokens, spells, -, isVerb⟩
    have lexed : lex (unescape "<http://a/p> ?x . ?y <http://a/q>".toList) =
        some [.name (.iri "http://a/p"), .var "x", .mark .dot, .var "y",
          .name (.iri "http://a/q")] := by
      decide +kernel
    cases spells.lex.symm.trans lexed
    cases isVerb
  · have lexed : Token.tokens? "?id <http://a/p> ?x . ?y <http://a/q> ?label .".toList =
        some [.var "id", .name (.iri "http://a/p"), .var "x", .mark .dot, .var "y",
          .name (.iri "http://a/q"), .var "label", .mark .dot] := by decide +kernel
    exact whole?_eq_some lexed (by decide) rfl

end Portal

end FacetedQuery
