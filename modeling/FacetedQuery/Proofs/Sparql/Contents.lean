import FacetedQuery.Proofs.Sparql.Nesting

/-!
# The contents of groups

How the elements of a group are read one after another.  Triples that follow each other are read as
one block, so the elements are compared triple by triple; the rules of scope do not tell the
difference.
-/

namespace FacetedQuery.Sparql.Grammar

open Reader

/-- A reader that agrees with itself for readers of nested parts that agree. -/
def Nested (reader : Readers → Reader α) : Prop :=
  ∀ {size first second}, ReadersAgree size first second → Agree size (reader first) (reader second)

/-- A reader finds a value in front of the rest of the tokens. -/
def Finds (reader : Readers → Reader α) (tokens : List Token) (value : α) (rest : List Token) :
    Prop :=
  reader (readersWithin (tokens.length + 1)) tokens = some (value, rest)

theorem nested_group : Nested Readers.group :=
  fun inner => .ofAdvance inner.group

theorem nested_expression : Nested Readers.expression :=
  fun inner => .ofAdvance inner.expression

section

variable {reader : Readers → Reader α} {tokens rest : List Token} {value : α} {depth : Nat}

theorem Finds.within (nested : Nested reader) (finds : Finds reader tokens value rest)
    (deep : tokens.length < depth) : reader (readersWithin depth) tokens = some (value, rest) := by
  rw [(nested (readersWithin_agree deep (Nat.lt_succ_self _))).same (Nat.le_refl _)]
  exact finds

theorem Finds.ofWithin (nested : Nested reader) (deep : tokens.length < depth)
    (read : reader (readersWithin depth) tokens = some (value, rest)) :
    Finds reader tokens value rest := by
  rw [(nested (readersWithin_agree deep (Nat.lt_succ_self _))).same (Nat.le_refl _)] at read
  exact read

end

/-- Elements with every triple by itself. -/
def parts : List Element → List Element
  | [] => []
  | .triples block :: rest => block.map (fun triple => .triples [triple]) ++ parts rest
  | element :: rest => element :: parts rest

theorem parts_append (first second : List Element) :
    parts (first ++ second) = parts first ++ parts second := by
  induction first with
  | nil => rfl
  | cons element first induction =>
      cases element <;> simp [parts, induction]

theorem parts_cons (element : Element) (rest : List Element) :
    parts (element :: rest) = parts [element] ++ parts rest :=
  parts_append [element] rest

/-- The elements of a group, triple by triple, stand in front of the rest of the tokens. -/
def Contents (tokens : List Token) (found : List Element) (rest : List Token) : Prop :=
  ∃ list, Finds elements tokens list rest ∧ parts list = found

variable {tokens rest last : List Token} {found : List Element}

/-- The elements are triples, if there are any in front, and then other elements with triples. -/
theorem finds_elements_iff {list : List Element} : Finds elements tokens list rest ↔
    ∃ front behind further, someTriples tokens = some (front, behind) ∧
      many (element (readersWithin (tokens.length + 1))) behind = some (further, rest) ∧
      list = front ++ further.flatten := by
  unfold Finds
  rw [elements_eq, bind_apply]
  constructor
  · intro read
    obtain ⟨⟨front, behind⟩, triples, read⟩ := Option.bind_eq_some_iff.mp read
    rw [bind_apply] at read
    obtain ⟨⟨further, other⟩, repeated, read⟩ := Option.bind_eq_some_iff.mp read
    cases read
    exact ⟨front, behind, further, triples, repeated, rfl⟩
  · rintro ⟨front, behind, further, triples, repeated, rfl⟩
    rw [triples, Option.bind_some, bind_apply, repeated]
    rfl

theorem nested_many_element : Nested fun readers => many (element readers) :=
  fun inner => .many (.ofAdvance (advance_element inner))

theorem someTriples_of_none (apart : block pathVerb tokens = none) :
    someTriples tokens = some ([], tokens) := by
  unfold someTriples
  rw [orElse_apply, bind_apply, apart]
  rfl

theorem someTriples_of_some {list : List Triples}
    (read : block pathVerb tokens = some (list, rest)) :
    someTriples tokens = some ([.triples list], rest) := by
  unfold someTriples
  rw [orElse_apply, bind_apply, read]
  rfl

theorem someTriples_length {front : List Element}
    (read : someTriples tokens = some (front, rest)) : rest.length ≤ tokens.length :=
  agree_someTriples.shorter (Nat.le_refl _) read

/-- An element that is no triple, in front of what is already read. -/
theorem Contents.element {part : Element} (finds : Finds patternElement tokens part rest)
    (apart : block pathVerb tokens = none) (noDot : mark .dot rest = none)
    (contents : Contents rest found last) : Contents tokens (parts [part] ++ found) last := by
  obtain ⟨list, behind, rfl⟩ := contents
  obtain ⟨front, further, repeated, triples, many, rfl⟩ := finds_elements_iff.mp behind
  have shorter := (advance_patternElement (readersWithin_self _)).shorter (Nat.le_refl _) finds
  have less := someTriples_length triples
  have head : Grammar.element (readersWithin (tokens.length + 1)) tokens =
      some (part :: front, further) := by
    unfold Grammar.element
    rw [bind_apply, show patternElement _ tokens = _ from finds, Option.bind_some, bind_apply,
      taken_of_none noDot, Option.bind_some, bind_apply, triples]
    rfl
  have deeper := Finds.within nested_many_element
    (Finds.ofWithin nested_many_element (by omega) many) (show further.length <
      tokens.length + 1 by omega)
  refine ⟨part :: front ++ repeated.flatten, finds_elements_iff.mpr
    ⟨[], tokens, (part :: front) :: repeated, someTriples_of_none apart, ?_, rfl⟩, ?_⟩
  · rw [many_of_some (fun _ => advance_element (readersWithin_self _)) head, deeper]
    rfl
  · rw [List.cons_append, parts_cons]

/-- A point and the triples behind it. -/
def furtherTriples : Reader Triples := do
  mark .dot
  triples pathVerb

theorem furtherTriples_dot (tokens : List Token) :
    furtherTriples (.mark .dot :: tokens) = triples pathVerb tokens :=
  rfl

theorem advance_furtherTriples {size : Nat} : Advance size furtherTriples furtherTriples :=
  .bind (.token _) fun _ => .ofAdvance (advance_triples advance_pathVerb)

theorem block_of_some {first : Triples} {list : List Triples} {further : List Token}
    (read : triples pathVerb tokens = some (first, further))
    (repeated : many furtherTriples further = some (list, rest)) {point : Bool}
    (ends : taken (mark .dot) rest = some (point, last)) :
    block pathVerb tokens = some (first :: list, last) := by
  unfold block
  rw [bind_apply, separated_of_some read repeated, Option.bind_some, bind_apply, ends]
  rfl

theorem block_of_none (nothing : triples pathVerb tokens = none) :
    block pathVerb tokens = none := by
  unfold block separated
  rw [bind_apply, bind_apply, nothing]
  rfl

/-- A triple with its point, in front of what is already read. -/
theorem Contents.triple {triple : Triples}
    (read : triples pathVerb tokens = some (triple, .mark .dot :: rest))
    (contents : Contents rest found last) : Contents tokens (.triples [triple] :: found) last := by
  obtain ⟨list, behind, rfl⟩ := contents
  obtain ⟨front, further, repeated, leading, many, rfl⟩ := finds_elements_iff.mp behind
  have shorter := (advance_triples advance_pathVerb).shorter (Nat.le_refl _) read
  have less := someTriples_length leading
  have deeper := Finds.within nested_many_element
    (Finds.ofWithin nested_many_element (by omega) many)
    (show further.length < tokens.length + 1 by simp at shorter; omega)
  cases next : triples pathVerb rest with
  | none =>
      rw [someTriples_of_none (block_of_none next)] at leading
      cases leading
      have single : block pathVerb tokens = some ([triple], rest) :=
        block_of_some read (many_of_none ((furtherTriples_dot rest).trans next)) (taken_of_some rfl)
      exact ⟨[.triples [triple]] ++ repeated.flatten,
        finds_elements_iff.mpr ⟨_, _, _, someTriples_of_some single, deeper, rfl⟩, rfl⟩
  | some value =>
      obtain ⟨others, left, further⟩ := exists_many furtherTriples value.2
      obtain ⟨point, final, ends⟩ := exists_taken (mark .dot) left
      rw [someTriples_of_some (block_of_some next further ends)] at leading
      cases leading
      have longer : Reader.many furtherTriples (.mark .dot :: rest) =
          some (value.1 :: others, left) := by
        rw [many_of_some (fun _ => advance_furtherTriples) ((furtherTriples_dot rest).trans next),
          further]
        rfl
      exact ⟨[.triples (triple :: value.1 :: others)] ++ repeated.flatten,
        finds_elements_iff.mpr ⟨_, _, _, someTriples_of_some (block_of_some read longer ends),
          deeper, rfl⟩, rfl⟩

theorem element_closeBrace (depth : Nat) (rest : List Token) :
    Grammar.element (readersWithin (depth + 1)) (.mark .closeBrace :: rest) = none :=
  rfl

theorem Contents.nil (rest : List Token) :
    Contents (.mark .closeBrace :: rest) [] (.mark .closeBrace :: rest) :=
  ⟨[], finds_elements_iff.mpr
    ⟨[], _, [], rfl, many_of_none (element_closeBrace _ rest), rfl⟩, rfl⟩

theorem Contents.lastTriple {triple : Triples}
    (read : triples pathVerb tokens = some (triple, .mark .closeBrace :: rest)) :
    Contents tokens [.triples [triple]] (.mark .closeBrace :: rest) := by
  have single : block pathVerb tokens = some ([triple], .mark .closeBrace :: rest) :=
    block_of_some read (many_of_none rfl) (taken_of_none rfl)
  exact ⟨[.triples [triple]], finds_elements_iff.mpr
    ⟨_, _, [], someTriples_of_some single, many_of_none (element_closeBrace _ rest), rfl⟩, rfl⟩

theorem group_word (depth : Nat) (letters : String) (tokens : List Token) :
    (readersWithin depth).group (.word letters :: tokens) = none := by
  cases depth <;> rfl

theorem word_mark (expected : String) (value : Mark) (tokens : List Token) :
    word expected (.mark value :: tokens) = none :=
  rfl

theorem Finds.optional {group : Group} (finds : Finds Readers.group tokens group rest) :
    Finds patternElement (.word "OPTIONAL" :: tokens) (.optional group) rest := by
  have read := finds.within nested_group (show tokens.length < tokens.length + 1 + 1 by omega)
  have name : capitals "OPTIONAL" = "OPTIONAL" := by decide
  unfold Finds patternElement
  simp [orElse_apply, bind_apply, map_apply, word_word, name, read]

theorem patternElement_filter (depth : Nat) (tokens : List Token) :
    patternElement (readersWithin depth) (.word "FILTER" :: tokens) =
      (constraint (readersWithin depth) tokens).map fun found => (.filter found.1, found.2) := by
  have name : capitals "FILTER" = "FILTER" := by decide
  unfold patternElement
  simp [orElse_apply, bind_apply, map_apply, word_word, name, separated_of_none (group_word _ _ _)]

theorem Finds.filter {condition : Expression} (finds : Finds constraint tokens condition rest) :
    Finds patternElement (.word "FILTER" :: tokens) (.filter condition) rest := by
  have read := finds.within (fun inner => .ofAdvance (.ofSucc (advance_constraint inner)))
    (show tokens.length < tokens.length + 1 + 1 by omega)
  rw [Finds, patternElement_filter, List.length_cons, read]
  rfl

theorem Finds.bind {value : Expression} {target : String}
    (finds : Finds assignment tokens (value, target) rest) :
    Finds patternElement (.word "BIND" :: tokens) (.bind value target) rest := by
  have read := finds.within (fun inner => .ofAdvance (.ofSucc (advance_assignment inner)))
    (show tokens.length < tokens.length + 1 + 1 by omega)
  have name : capitals "BIND" = "BIND" := by decide
  unfold Finds patternElement
  simp [orElse_apply, bind_apply, map_apply, word_word, name, separated_of_none (group_word _ _ _),
    read]

theorem Finds.values {data : InlineData} (read : inlineData tokens = some (data, rest)) :
    Finds patternElement (.word "VALUES" :: tokens) (.values data) rest := by
  have name : capitals "VALUES" = "VALUES" := by decide
  unfold Finds patternElement
  simp [orElse_apply, bind_apply, map_apply, word_word, name, separated_of_none (group_word _ _ _),
    read]

/-- A group by itself is a union of one. -/
theorem Finds.union {group : Group}
    (finds : Finds Readers.group (.mark .openBrace :: tokens) group rest)
    (single : word "UNION" rest = none) :
    Finds patternElement (.mark .openBrace :: tokens) (.union [group]) rest := by
  have further : many (do word "UNION"; (readersWithin (tokens.length + 1 + 1)).group) rest =
      some ([], rest) := many_of_none (by rw [bind_apply, single]; rfl)
  have read : separated (word "UNION") (readersWithin (tokens.length + 1 + 1)).group
      (.mark .openBrace :: tokens) = some ([group], rest) := separated_of_some finds further
  unfold Finds patternElement
  simp [orElse_apply, bind_apply, map_apply, word_mark, read]

theorem Finds.condition {condition : Expression}
    (finds : Finds Readers.expression tokens condition (.mark .closeParen :: rest)) :
    Finds constraint (.mark .openParen :: tokens) condition rest := by
  have read := finds.within nested_expression (show tokens.length < tokens.length + 1 + 1 by omega)
  unfold Finds constraint
  rw [orElse_apply, List.length_cons, parenthesised_of_some read]
  rfl

theorem Finds.assignment {value : Expression} {target : String}
    (finds : Finds Readers.expression tokens value
      (.word "AS" :: .var target :: .mark .closeParen :: rest)) :
    Finds assignment (.mark .openParen :: tokens) (value, target) rest := by
  have read := finds.within nested_expression (show tokens.length < tokens.length + 1 + 1 by omega)
  unfold Finds Grammar.assignment
  refine parenthesised_of_some ?_
  rw [bind_apply, List.length_cons, read]
  rfl

theorem braced_of_some {item : Reader α} {value : α}
    (read : item tokens = some (value, .mark .closeBrace :: rest)) :
    braced item (.mark .openBrace :: tokens) = some (value, rest) := by
  change (item tokens).bind _ = _
  rw [read]
  rfl

theorem many_dataValue (names : List IriName) (rest : List Token) :
    ∃ found, many dataValue (names.map .name ++ .mark .closeBrace :: rest) =
      some (found, .mark .closeBrace :: rest) := by
  induction names with
  | nil => exact ⟨[], many_of_none rfl⟩
  | cons name names induction =>
      obtain ⟨found, further⟩ := induction
      have read : dataValue (.name name :: (names.map .name ++ .mark .closeBrace :: rest)) =
          some ((), names.map .name ++ .mark .closeBrace :: rest) := rfl
      refine ⟨() :: found, ?_⟩
      rw [List.map_cons, List.cons_append, many_of_some (fun _ => advance_dataValue) read, further]
      rfl

/-- Inline data of resources for one variable. -/
theorem exists_inlineData (target : String) (names : List IriName) (rest : List Token) :
    ∃ widths, inlineData (.var target :: .mark .openBrace ::
      (names.map .name ++ .mark .closeBrace :: rest)) = some (⟨[target], widths⟩, rest) := by
  obtain ⟨found, read⟩ := many_dataValue names rest
  refine ⟨found.map fun _ => 1, ?_⟩
  unfold inlineData
  rw [orElse_apply, bind_apply]
  change ((braced (many dataValue) _).bind _).or _ = _
  rw [braced_of_some read]
  rfl

/-- The variables that elements assign to. -/
def targets : List Element → List String
  | [] => []
  | .bind _ target :: rest => target :: targets rest
  | _ :: rest => targets rest

theorem bindsFresh_iff (bound : List String) (list : List Element) :
    bindsFresh bound list = true ↔
      bindsFresh [] list = true ∧ ∀ target ∈ targets list, target ∉ bound := by
  induction list generalizing bound with
  | nil => simp [bindsFresh, targets]
  | cons element list induction =>
      cases element <;> simp [bindsFresh, targets, induction (_ ++ _), induction (Element.scope _)]
      all_goals grind

theorem bindsFresh_append (bound : List String) (first second : List Element) :
    bindsFresh bound (first ++ second) =
      (bindsFresh bound first && bindsFresh (bound ++ scopeOfElements first) second) := by
  induction first generalizing bound with
  | nil => simp [bindsFresh, scopeOfElements]
  | cons element first induction =>
      simp [bindsFresh, scopeOfElements, induction, Bool.and_assoc]

theorem elementsAreSound_append (first second : List Element) :
    elementsAreSound (first ++ second) = true ↔
      elementsAreSound first = true ∧ elementsAreSound second = true ∧
        ∀ target ∈ targets second, target ∉ scopeOfElements first := by
  unfold elementsAreSound
  rw [List.all_append, bindsFresh_append, Bool.and_eq_true, Bool.and_eq_true, Bool.and_eq_true,
    Bool.and_eq_true, Bool.and_eq_true, bindsFresh_iff ([] ++ _), List.nil_append]
  constructor
  · rintro ⟨⟨plainFirst, plainSecond⟩, freshFirst, freshSecond, apart⟩
    exact ⟨⟨plainFirst, freshFirst⟩, ⟨plainSecond, freshSecond⟩, apart⟩
  · rintro ⟨⟨plainFirst, freshFirst⟩, ⟨plainSecond, freshSecond⟩, apart⟩
    exact ⟨⟨plainFirst, plainSecond⟩, freshFirst, freshSecond, apart⟩

section

variable (list : List Element)

theorem scope_triples (block : List Triples) :
    scopeOfElements (block.map fun triple => .triples [triple]) = block.flatMap Triples.scope := by
  induction block with
  | nil => rfl
  | cons triple block induction => simp [scopeOfElements, Element.scope, induction]

theorem scope_append (first second : List Element) :
    scopeOfElements (first ++ second) = scopeOfElements first ++ scopeOfElements second := by
  induction first with
  | nil => rfl
  | cons element first induction => simp [scopeOfElements, induction]

theorem scope_parts : scopeOfElements (parts list) = scopeOfElements list := by
  induction list with
  | nil => rfl
  | cons element list induction =>
      cases element with
      | triples block =>
          rw [parts, scope_append, scope_triples, induction]
          rfl
      | _ => simp [parts, scopeOfElements, induction]

theorem targets_append (first second : List Element) :
    targets (first ++ second) = targets first ++ targets second := by
  induction first with
  | nil => rfl
  | cons element first induction => cases element <;> simp [targets, induction]

theorem bindsFresh_parts (bound : List String) :
    bindsFresh bound (parts list) = bindsFresh bound list := by
  induction list generalizing bound with
  | nil => rfl
  | cons element list induction =>
      cases element with
      | triples block =>
          have fresh : bindsFresh bound (block.map fun triple => .triples [triple]) = true := by
            induction block generalizing bound <;> simp_all [bindsFresh]
          rw [parts, bindsFresh_append, fresh, scope_triples, induction]
          rfl
      | _ => simp [parts, bindsFresh, induction]

theorem plain_parts : (parts list).all Element.isPlain = list.all Element.isPlain := by
  induction list with
  | nil => rfl
  | cons element list induction =>
      cases element with
      | triples block =>
          have plain : (block.map fun triple => Element.triples [triple]).all Element.isPlain =
            true := by
            simp [Element.isPlain]
          rw [parts, List.all_append, plain, induction]
          rfl
      | _ => simp [parts, induction]

/-- The rules of scope do not depend on how triples are put together. -/
theorem elementsAreSound_parts : elementsAreSound (parts list) = elementsAreSound list := by
  unfold elementsAreSound
  rw [plain_parts, bindsFresh_parts]

end

theorem select_of_none {readers : Readers} {sources : Reader Unit}
    (noQuery : word "SELECT" tokens = none) : select readers sources tokens = none := by
  unfold select
  rw [bind_apply, noQuery]
  rfl

/-- A group is read by its contents. -/
theorem exists_group {found : List Element}
    (contents : Contents tokens found (.mark .closeBrace :: rest))
    (noQuery : word "SELECT" tokens = none) (sound : elementsAreSound found = true) :
    ∃ list, parts list = found ∧
      Finds Readers.group (.mark .openBrace :: tokens) (.elements list) rest := by
  obtain ⟨list, finds, rfl⟩ := contents
  rw [elementsAreSound_parts] at sound
  refine ⟨list, rfl, braced_of_some ?_⟩
  rw [orElse_apply, map_apply, select_of_none noQuery, bind_apply, List.length_cons,
    show elements _ tokens = _ from finds, Option.bind_some, if_pos sound]
  rfl

theorem finds_query {query : Select}
    (finds : Finds (fun readers => select readers (pure ())) tokens query
      (.mark .closeBrace :: rest)) :
    Finds Readers.group (.mark .openBrace :: tokens) (.query query) rest := by
  refine braced_of_some ?_
  rw [orElse_apply, map_apply, List.length_cons, show select _ _ tokens = _ from finds]
  rfl

end FacetedQuery.Sparql.Grammar
