import FacetedQuery.Proofs.Sparql.PathForm
import FacetedQuery.Proofs.Sparql.Select

/-!
# Verbs within queries

A query whose group starts with a variable goes on with a verb and an object.  What stands between
the variable and the end of the query is taken apart: it may be a path and nothing else, but it need
not be.
-/

namespace FacetedQuery.Sparql.Grammar

open Reader

/-- Tokens with which no triple goes on, no element starts and no group ends. -/
structure Strays (tokens : List Token) : Prop where
  noMark : ∀ next ∈ [Mark.comma, .semicolon, .dot, .closeBrace], mark next tokens = none
  noElement : ∀ depth, patternElement (readersWithin depth) tokens = none

theorem Strays.ofVar (name : String) (rest : List Token) : Strays (.var name :: rest) where
  noMark _ _ := rfl
  noElement depth := by cases depth <;> rfl

theorem patternElement_mark (depth : Nat) {value : Mark} (noBrace : value ≠ .openBrace)
    (rest : List Token) : patternElement (readersWithin depth) (.mark value :: rest) = none := by
  cases depth <;> cases value <;> first
    | exact absurd rfl noBrace
    | rfl

theorem Strays.ofPath {token : Token} (isPath : isPathToken token = true) (rest : List Token) :
    Strays (token :: rest) := by
  cases token with
  | name value => exact ⟨fun _ _ => rfl, fun depth => by cases depth <;> rfl⟩
  | word letters =>
      obtain rfl : letters = "a" := beq_iff_eq.mp isPath
      exact ⟨fun _ _ => rfl, fun depth => by cases depth <;> rfl⟩
  | mark value =>
      have noBrace : value ≠ .openBrace := by
        rintro rfl
        cases isPath
      have noEnd : value ∉ [Mark.comma, .semicolon, .dot, .closeBrace] := by
        intro inside
        simp only [List.mem_cons, List.not_mem_nil, or_false] at inside
        rcases inside with rfl | rfl | rfl | rfl <;> cases isPath
      exact ⟨Ends.ofMark noEnd rest, fun depth => patternElement_mark depth noBrace rest⟩
  | _ => cases isPath

section

variable {tokens rest last : List Token}

theorem exists_of_bind {item : Reader α} {next : α → Reader β} {value : β}
    (read : (item >>= next) tokens = some (value, rest)) :
    ∃ first middle, item tokens = some (first, middle) ∧ next first middle =
      some (value, rest) := by
  rw [bind_apply] at read
  obtain ⟨⟨first, middle⟩, readFirst, readNext⟩ := Option.bind_eq_some_iff.mp read
  exact ⟨first, middle, readFirst, readNext⟩

theorem many_ends {separator : Mark} {item : Reader α} {values : List α}
    (read : many (do mark separator; item) tokens = some (values, last))
    (ends : mark separator tokens = none) : last = tokens := by
  have nothing : (do mark separator; item : Reader α) tokens = none := by
    rw [bind_apply, ends]
    rfl
  rw [many_of_none nothing] at read
  cases read
  rfl

theorem exists_of_separated {separator : Mark} {item : Reader α} {values : List α}
    (read : separated (mark separator) item tokens = some (values, last)) :
    ∃ first behind others, values = first :: others ∧ item tokens = some (first, behind) ∧
      (mark separator behind = none → last = behind) := by
  obtain ⟨first, behind, isFirst, others⟩ := exists_of_bind read
  obtain ⟨further, last', isFurther, same⟩ := exists_of_bind others
  cases same
  exact ⟨first, behind, further, rfl, isFirst, many_ends isFurther⟩

end

/-- Tokens that start with a verb and its object, behind which something goes on or ends. -/
def StartsTriple (tokens : List Token) (verb : Verb) (object : Node) (last : List Token) : Prop :=
  ∃ rest behind, pathVerb tokens = some (verb, rest) ∧ node pathVerb rest = some (object, behind) ∧
    (Strays behind → last = behind)

section

variable {tokens last : List Token} {subject : String}

theorem startsTriple_of_triples {found : Triples}
    (read : triples pathVerb (.var subject :: tokens) = some (found, last)) :
    ∃ verb object objects further, found =
      ⟨.var subject, .about verb (object :: objects) :: further⟩ ∧
      StartsTriple tokens verb object last := by
  obtain ⟨start, middle, isStart, isList⟩ := exists_of_bind read
  cases (node_var subject tokens).symm.trans isStart
  obtain ⟨list, last', isList, same⟩ := exists_of_bind isList
  cases same
  obtain ⟨first, middle, isFirst, isFurther⟩ := exists_of_bind isList
  obtain ⟨further, last', others, same⟩ := exists_of_bind isFurther
  cases same
  obtain ⟨verb, rest, isVerb, isObjects⟩ := exists_of_bind isFirst
  obtain ⟨objects, middle', isObjects, same⟩ := exists_of_bind isObjects
  cases same
  obtain ⟨object, behind, objects, rfl, isObject, ends⟩ := exists_of_separated isObjects
  refine ⟨verb, object, objects, _, rfl, rest, behind, isVerb, isObject, fun strays => ?_⟩
  obtain rfl := ends (strays.noMark .comma (by decide))
  exact many_ends others (strays.noMark .semicolon (by decide))

theorem startsTriple_of_block {found : List Triples}
    (read : block pathVerb (.var subject :: tokens) = some (found, last)) :
    ∃ verb object objects further others,
      found = ⟨.var subject, .about verb (object :: objects) :: further⟩ :: others ∧
        StartsTriple tokens verb object last := by
  obtain ⟨list, middle, isList, ends⟩ := exists_of_bind read
  obtain ⟨point, last', isPoint, same⟩ := exists_of_bind ends
  cases same
  obtain ⟨first, behind, others, rfl, isFirst, further⟩ := exists_of_separated isList
  obtain ⟨verb, object, objects, statements, rfl, rest, left, isVerb, isObject, stays⟩ :=
    startsTriple_of_triples isFirst
  refine ⟨verb, object, objects, statements, others, rfl, rest, left, isVerb, isObject,
    fun strays => ?_⟩
  obtain rfl := stays strays
  have noDot := strays.noMark .dot (by decide)
  obtain rfl := further noDot
  cases (taken_of_none noDot).symm.trans isPoint
  rfl

theorem many_element_ends {depth : Nat} {found : List (List Element)}
    (read : many (element (readersWithin depth)) tokens = some (found, last))
    (strays : Strays tokens) :
    last = tokens := by
  have nothing : element (readersWithin depth) tokens = none := by
    unfold element
    rw [bind_apply, strays.noElement]
    rfl
  cases (many_of_none nothing).symm.trans read
  rfl

theorem startsTriple_of_elements {depth : Nat} {found : List Element} {further : List Token}
    (read : elements (readersWithin depth) (.var subject :: tokens) =
      some (found, .mark .closeBrace :: further)) :
    ∃ verb object, StartsTriple tokens verb object (.mark .closeBrace :: further) := by
  obtain ⟨front, middle, isFront, others⟩ := exists_of_bind read
  obtain ⟨list, last', isList, same⟩ := exists_of_bind others
  cases same
  cases isBlock : block pathVerb (.var subject :: tokens) with
  | none =>
      cases (someTriples_of_none isBlock).symm.trans isFront
      cases many_element_ends isList (.ofVar _ _)
  | some result =>
      obtain ⟨triples, behind⟩ := result
      cases (someTriples_of_some isBlock).symm.trans isFront
      obtain ⟨verb, object, _, _, _, -, rest, left, isVerb, isObject, stays⟩ :=
        startsTriple_of_block isBlock
      refine ⟨verb, object, rest, left, isVerb, isObject, fun strays => ?_⟩
      obtain rfl := stays strays
      exact many_element_ends isList strays

/-- The tokens of a query for everything up to its first subject. -/
def probeTokens (subject : String) (tokens : List Token) : List Token :=
  .word "SELECT" :: .mark .star :: .word "WHERE" :: .mark .openBrace :: .var subject :: tokens

theorem startsTriple_of_group {depth : Nat} {found : Group}
    (read : (readersWithin depth).group (.mark .openBrace :: .var subject :: tokens) =
      some (found, last)) :
    ∃ verb object further, StartsTriple tokens verb object (.mark .closeBrace :: further) := by
  cases depth with
  | zero => cases read
  | succ depth =>
      have isBraced : groupWith (readersWithin depth) (.mark .openBrace :: .var subject :: tokens) =
        some (found, last) := read
      obtain ⟨_, middle, isOpen, inside⟩ := exists_of_bind isBraced
      cases isOpen
      obtain ⟨content, behind, isContent, isEnd⟩ := exists_of_bind inside
      obtain ⟨_, further, isClose, -⟩ := exists_of_bind isEnd
      obtain ⟨_, rfl, rfl⟩ := Takes.mark _ _ _ _ isClose
      rw [orElse_apply, map_apply, select_of_none rfl, Option.map_none, Option.none_or] at isContent
      obtain ⟨list, behind, isList, isSound⟩ := exists_of_bind isContent
      split at isSound
      · cases isSound
        obtain ⟨verb, object, starts⟩ := startsTriple_of_elements isList
        exact ⟨verb, object, further, starts⟩
      · cases isSound

theorem startsTriple_of_query {found : Query}
    (read : query? (probeTokens subject tokens) = some found) :
    ∃ verb object further, StartsTriple tokens verb object (.mark .closeBrace :: further) := by
  unfold query? at read
  split at read
  · next value isQuery =>
    have noOther : ∀ readers,
      (construct readers <|> describe readers <|> ask readers : Reader Query)
        (probeTokens subject tokens) = none := fun _ => rfl
    unfold query at isQuery
    rw [orElse_apply, noOther, Option.or_none, map_apply] at isQuery
    obtain ⟨⟨query, left⟩, isSelect, -⟩ := Option.map_eq_some_iff.mp isQuery
    obtain ⟨_, _, isWord, isSelect⟩ := exists_of_bind isSelect
    cases isWord
    obtain ⟨_, _, isDistinct, isSelect⟩ := exists_of_bind isSelect
    cases isDistinct
    obtain ⟨columns, _, isColumns, isSelect⟩ := exists_of_bind isSelect
    cases isColumns
    obtain ⟨_, _, isSources, isSelect⟩ := exists_of_bind isSelect
    cases (noSources_where _).symm.trans isSources
    obtain ⟨inside, _, isBody, -⟩ := exists_of_bind isSelect
    obtain ⟨_, _, isWhere, isGroup⟩ := exists_of_bind isBody
    cases isWhere
    exact startsTriple_of_group isGroup
  · cases read

/-- A query that starts with a subject goes on with a verb and an object, behind which the triple,
the group or its elements go on. -/
theorem exists_verb {found : Query} (read : query? (probeTokens subject tokens) = some found) :
    ∃ verb rest object behind, pathVerb tokens = some (verb, rest) ∧
      node pathVerb rest = some (object, behind) ∧ ¬ Strays behind := by
  obtain ⟨verb, object, further, rest, behind, isVerb, isObject, ends⟩ := startsTriple_of_query read
  refine ⟨verb, rest, object, behind, isVerb, isObject, fun strays => ?_⟩
  have closes := strays.noMark .closeBrace (by decide)
  rw [← ends strays] at closes
  cases closes

end

/-- What a node is made of: a single token, a literal or what a bracket closes. -/
inductive NodeForm : List Token → Prop where
  | single (token : Token) : NodeForm [token]
  | quoted (value : String) (rest : List Token) : NodeForm (.string value :: rest)
  | closed (front : List Token) {last : Mark} : last = .closeParen ∨ last = .closeBracket →
      NodeForm (front ++ [.mark last])

theorem Takes.rest {form : List Token → Prop} {item : Reader α} (takes : Takes form item) :
    Takes (fun _ => True) item :=
  takes.mono fun _ _ => trivial

theorem takes_any {meaning? : Token → Option α} : Takes (fun front => ∃ token, front = [token])
    (token meaning?) := by
  have taken : Takes (fun front => ∃ token, True ∧ front = [token]) (token meaning?) :=
    .token fun _ _ => trivial
  exact taken.mono fun _ found => found.imp fun _ => And.right

theorem takes_single {meaning? : Token → Option α} : Takes NodeForm (token meaning?) :=
  takes_any.mono fun _ found => by
    obtain ⟨token, rfl⟩ := found
    exact .single token

theorem takes_pathVerb : Takes (fun _ => True) pathVerb :=
  (takes_any.map _).rest.orElse
    ((show Takes (PathForm .alternatives) path from fun _ _ _ => exists_pathForm).map _).rest

theorem takes_literalForm : Takes NodeForm literalForm := by
  have taken : Takes (fun front => ∃ token, (∃ value, token = .string value) ∧
    front = [token]) text :=
    .token fun token means => by
      cases token <;> first | exact ⟨_, rfl⟩ | exact absurd rfl means
  have isText : Takes (fun front => ∃ value, front = [.string value]) text :=
    taken.mono fun _ found => by
      obtain ⟨_, ⟨value, rfl⟩, rfl⟩ := found
      exact ⟨value, rfl⟩
  have isQuoted : Takes NodeForm quotedForm := (isText.bind fun content =>
    ((takes_any.map _).behindMark.rest).orElse
      ((takes_any.map _).rest.orElse (Takes.pure _).rest)).mono fun _ found => by
    obtain ⟨_, rest, ⟨value, rfl⟩, -, rfl⟩ := found
    exact .quoted value rest
  have isBoolean : Takes NodeForm booleanForm :=
    (takes_single.finish fun _ => _).orElse (takes_single.finish fun _ => _)
  exact isQuoted.orElse (takes_single.orElse isBoolean)

theorem takes_statements {inner : Reader Node} (takes : Takes (fun _ => True) inner) :
    Takes (fun _ => True) (statements pathVerb inner) := by
  have single : Takes (fun _ => True) (statement pathVerb inner) :=
    (takes_pathVerb.bind fun _ => (takes.separated.rest.finish _)).rest
  exact (single.bind fun _ => (single.maybe.behindMark.many.rest.finish _)).rest

theorem takes_nodeWithin (depth : Nat) : Takes NodeForm (nodeWithin pathVerb depth) := by
  induction depth with
  | zero => exact fun _ _ _ read => nomatch read
  | succ depth induction =>
      have collection := (induction.many.parenthesised).map Node.collection
      refine (takes_single.map _).orElse <| (takes_single.map _).orElse <|
        (takes_literalForm.map _).orElse <| takes_single.orElse <|
          ((((takes_statements induction.rest).maybe.bind fun _ =>
            (Takes.mark .closeBracket).finish _).behindMark).mono ?_).orElse (collection.mono ?_)
      · rintro _ ⟨_, ⟨inside, _, -, rfl, rfl⟩, rfl⟩
        exact .closed (_ :: inside) (.inr rfl)
      · rintro _ ⟨inside, -, rfl⟩
        exact .closed (_ :: inside) (.inl rfl)

section

variable {tokens rest : List Token}

/-- A verb is a variable or a path. -/
theorem verb_cases {verb : Verb} (isVerb : pathVerb tokens = some (verb, rest)) :
    (∃ name, tokens = .var name :: rest ∧ verb = .var name) ∨
      ∃ found, verb = .path found ∧ path tokens = some (found, rest) := by
  unfold pathVerb at isVerb
  rw [orElse_apply, map_apply, map_apply] at isVerb
  rcases Option.or_eq_some_iff.mp isVerb with isVariable | ⟨-, isPath⟩
  · obtain ⟨⟨name, left⟩, read, same⟩ := Option.map_eq_some_iff.mp isVariable
    cases same
    cases tokens with
    | nil => cases read
    | cons token tokens =>
        cases token <;> cases read
        exact .inl ⟨name, rfl, rfl⟩
  · obtain ⟨⟨found, left⟩, read, same⟩ := Option.map_eq_some_iff.mp isPath
    cases same
    exact .inr ⟨found, rfl, read⟩

theorem pathVerb_behind {verb : Verb} (isVerb : pathVerb tokens = some (verb, [])) (object : String)
    (rest : List Token) :
    pathVerb (tokens ++ .var object :: rest) = some (verb, .var object :: rest) := by
  rcases verb_cases isVerb with ⟨name, rfl, rfl⟩ | ⟨found, rfl, isPath⟩
  · rfl
  · exact pathVerb_of_path (path_behind .nil (.var object rest) (by rwa [List.append_nil]))

/-- A node that is a variable is the token of the variable. -/
theorem node_eq_var {object : String} {behind : List Token}
    (isNode : node pathVerb tokens = some (.var object, behind)) :
    tokens = .var object :: behind := by
  cases tokens with
  | nil => cases isNode
  | cons first tokens =>
      have read : nodeWith pathVerb (nodeWithin pathVerb tokens.length) (first :: tokens) =
        some (.var object, behind) := isNode
      unfold nodeWith at read
      simp only [orElse_apply, Option.or_eq_some_iff, map_apply, Option.map_eq_some_iff,
        Prod.mk.injEq, reduceCtorEq, false_and, and_false, exists_false, false_or, or_false] at read
      rcases read with ⟨⟨name, left⟩, isName, same, rfl⟩ | ⟨-, -, -, isBlank | ⟨-, isBracket⟩⟩
      · cases same
        cases first <;> cases isName
        rfl
      · cases first <;> cases isBlank
      · obtain ⟨_, _, -, isBracket⟩ := exists_of_bind isBracket
        obtain ⟨content, _, -, isBracket⟩ := exists_of_bind isBracket
        obtain ⟨_, _, -, isNode⟩ := exists_of_bind isBracket
        cases content <;> cases isNode

/-- A verb in front of two objects is a verb by itself. -/
theorem pathVerb_of_objects {verb : Verb} {first second : String} (apart : first ≠ second)
    {behind more : List Token}
    (isVerb : pathVerb (tokens ++ [.var first]) = some (verb, .var first :: behind))
    (isVerbToo : pathVerb (tokens ++ [.var second]) = some (verb, .var second :: more)) :
    pathVerb tokens = some (verb, []) := by
  rcases verb_cases isVerb with ⟨name, starts, rfl⟩ | ⟨found, rfl, isPath⟩
  · rcases verb_cases isVerbToo with ⟨other, startsToo, same⟩ | ⟨found, same, -⟩
    · match tokens with
      | [] => cases starts
      | [next] =>
          obtain ⟨rfl, -⟩ := List.cons.inj starts
          rfl
      | next :: object :: tokens =>
          cases starts
          cases startsToo
          exact absurd rfl apart
    · cases same
  · rcases verb_cases isVerbToo with ⟨other, -, same⟩ | ⟨_, same, isPathToo⟩
    · cases same
    · cases same
      rcases blind_path (.var first []) (.var second []) tokens with ⟨nothing, -⟩ |
        ⟨value, left, read, readToo⟩
      · cases nothing.symm.trans isPath
      · cases left with
        | nil =>
            cases read.symm.trans isPath
            have byItself := path_behind (.var first []) .nil isPath
            rw [List.append_nil] at byItself
            exact pathVerb_of_path byItself
        | cons next left =>
            cases read.symm.trans isPath
            cases readToo.symm.trans isPathToo
            exact absurd rfl apart

/-- The paths among the verbs are made of path tokens. -/
theorem exists_path_iff : (∃ found, pathVerb tokens = some (.path found, [])) ↔
    PathForm .alternatives tokens := by
  constructor
  · rintro ⟨found, isVerb⟩
    rcases verb_cases isVerb with ⟨name, -, same⟩ | ⟨_, -, isPath⟩
    · cases same
    · obtain ⟨front, form, rfl⟩ := exists_pathForm isPath
      rwa [List.append_nil]
  · intro form
    obtain ⟨found, isPath⟩ := form.exists_path (.nil _)
    rw [List.append_nil] at isPath
    exact ⟨found, pathVerb_of_path isPath⟩

theorem exists_verb_iff : (∃ verb, pathVerb tokens = some (verb, [])) ↔
    PathForm .alternatives tokens ∨ ∃ name, tokens = [.var name] := by
  constructor
  · rintro ⟨verb, isVerb⟩
    rcases verb_cases isVerb with ⟨name, rfl, -⟩ | ⟨found, rfl, -⟩
    · exact .inr ⟨name, rfl⟩
    · exact .inl (exists_path_iff.mp ⟨found, isVerb⟩)
  · rintro (form | ⟨name, rfl⟩)
    · obtain ⟨found, isVerb⟩ := exists_path_iff.mpr form
      exact ⟨_, isVerb⟩
    · exact ⟨_, rfl⟩

end

section

variable {tokens rest : List Token} {subject object : String}

/-- A node that starts with a path token ends in front of the object, where nothing goes on. -/
theorem strays_of_node {found : Node} {behind : List Token} (nonempty : tokens ≠ [])
    (isPath : ∀ token ∈ tokens, isPathToken token = true)
    (read : node pathVerb (tokens ++ [.var object, .mark .closeBrace]) = some (found, behind)) :
    Strays behind := by
  obtain ⟨front, form, split⟩ := takes_nodeWithin _ _ _ _ read
  rcases List.append_eq_append_iff.mp split with ⟨more, rfl, ends⟩ | ⟨more, rfl, rfl⟩
  · cases more with
    | nil =>
        obtain rfl : [.var object, .mark .closeBrace] = behind := ends
        exact .ofVar object _
    | cons next more =>
        -- The node would have to end with the object or with the brace behind it.
        obtain ⟨first, tokens, rfl⟩ := List.exists_cons_of_ne_nil nonempty
        generalize taken : first :: tokens ++ next :: more = front at form
        cases form with
        | single token => simp at taken
        | quoted value rest =>
            obtain ⟨rfl, -⟩ := List.cons.inj taken
            cases isPath _ List.mem_cons_self
        | @closed front last isClosed =>
            have isLast : (next :: more).getLast? = some (.mark last) := by
              have whole := congrArg List.getLast? taken
              rwa [List.getLast?_append, List.getLast?_concat, List.getLast?_cons, Option.some_or,
                ← List.getLast?_cons] at whole
            have member : Token.mark last ∈ [.var object, .mark .closeBrace] := by
              rw [ends]
              exact List.mem_append_left _ (List.mem_of_getLast? isLast)
            rcases isClosed with rfl | rfl <;> simp at member
  · cases more with
    | nil => exact .ofVar object _
    | cons next more => exact .ofPath (isPath next (by simp)) _

/-- Path tokens between a subject and an object are a path. -/
theorem form_of_query {found : Query} (isPath : ∀ token ∈ tokens, isPathToken token = true)
    (read : query? (probeTokens subject (tokens ++ [.var object, .mark .closeBrace])) =
      some found) :
    PathForm .alternatives tokens := by
  obtain ⟨verb, rest, node, behind, isVerb, isNode, goesOn⟩ := exists_verb read
  cases tokens with
  | nil =>
      cases isVerb
      cases isNode
  | cons first tokens =>
      rcases verb_cases isVerb with ⟨name, starts, -⟩ | ⟨path, -, isRead⟩
      · obtain ⟨rfl, -⟩ := List.cons.inj starts
        cases isPath _ List.mem_cons_self
      obtain ⟨front, form, split⟩ := exists_pathForm isRead
      have split : (first :: tokens) ++ [.var object, .mark .closeBrace] = front ++ rest := split
      rcases List.append_eq_append_iff.mp split with ⟨more, rfl, ends⟩ | ⟨more, same, rfl⟩
      · cases more with
        | nil => rwa [List.append_nil] at form
        | cons next more =>
            obtain ⟨rfl, -⟩ := List.cons.inj ends
            cases form.madeOf (.var object) (by simp)
      · cases more with
        | nil =>
            rw [List.append_nil] at same
            rwa [same]
        | cons next more =>
            refine absurd (strays_of_node (by simp) (fun token member => isPath token ?_) isNode)
              goesOn
            rw [same]
            exact List.mem_append_right _ member

/-- Tokens that can be read both by themselves and in parentheses are a path, and the parenthesis
behind them is the one that closes them. -/
theorem form_of_queries {found other : Query} {more further : List Token}
    (read : query? (probeTokens subject (tokens ++ more)) = some found)
    (readToo : query? (probeTokens subject (.mark .openParen :: (tokens ++ further))) = some other)
    (single : ∀ inner behind, further = inner ++ .mark .closeParen :: behind → inner = []) :
    PathForm .alternatives tokens ∧ further ≠ [] := by
  obtain ⟨_, _, _, _, isVerb, -⟩ := exists_verb readToo
  rcases verb_cases isVerb with ⟨_, starts, -⟩ | ⟨_, -, isRead⟩
  · cases starts
  obtain ⟨inner, behind, form, split⟩ := exists_grouped isRead
  rcases List.append_eq_append_iff.mp split with ⟨rest, rfl, same⟩ | ⟨rest, rfl, same⟩
  · obtain rfl := single rest behind same
    exact ⟨by rwa [List.append_nil] at form, by simp [same]⟩
  · cases rest with
    | nil =>
        rw [List.append_nil]
        exact ⟨form, fun nothing => by simp [nothing] at same⟩
    | cons next rest =>
        -- Without the first parenthesis the path ends in front of one that nothing opened.
        obtain ⟨rfl, -⟩ := List.cons.inj same
        obtain ⟨verb, left, node, last, isVerb, isNode, -⟩ := exists_verb read
        rw [List.append_assoc, List.cons_append] at isVerb
        have ends : Ends PathLevel.alternatives.stops (.mark .closeParen :: (rest ++ more)) :=
          .ofMark (by decide) _
        obtain ⟨path, isPath⟩ := form.exists_path ends
        cases (pathVerb_of_path isPath).symm.trans isVerb
        cases isNode

end

end FacetedQuery.Sparql.Grammar
