import FacetedQuery.Proofs.Sparql.Reader
import FacetedQuery.Sparql.Grammar.Query

/-!
# The depth of nesting

The readers of the grammar are given a bound for the nesting of brackets and braces.  As every
bracket is a token, a bound that exceeds the number of tokens hides nothing: whatever it is, the
same is read.
-/

namespace FacetedQuery.Sparql.Grammar

open Reader

variable {size : Nat}

theorem advance_propertyName : Advance size propertyName propertyName :=
  .orElse (.map _ (.token _)) (.bind (.token _) fun _ => .pure _)

theorem advance_excludedProperty : Advance size excludedProperty excludedProperty :=
  .behind (.taken (.ofAdvance (.token _))) fun _ => .bind advance_propertyName fun _ => .pure _

theorem advance_excludedProperties : Advance size excludedProperties excludedProperties :=
  .orElse (.bind advance_excludedProperty fun _ => .pure _)
    (.ofSucc (.parenthesised (.ofAdvance (.separated (.token _) advance_excludedProperty))))

theorem advance_pathModifier : Advance size pathModifier pathModifier :=
  .orElse (.bind (.token _) fun _ => .pure _) <|
    .orElse (.bind (.token _) fun _ => .pure _) (.bind (.token _) fun _ => .pure _)

section

variable {first second : Reader Path}

theorem advance_pathPrimary (inner : Agree size first second) :
    Advance (size + 1) (pathPrimary first) (pathPrimary second) :=
  .orElse (.map _ advance_propertyName) <|
    .orElse (.bind (.token _) fun _ => .ofAdvance (.map _ advance_excludedProperties))
      (.parenthesised inner)

theorem advance_pathStep (inner : Agree size first second) :
    Advance (size + 1) (pathStep first) (pathStep second) :=
  .behind (.taken (.ofAdvance (.token _))) fun _ => .bind (advance_pathPrimary inner) fun _ =>
    .bind (.maybe (.ofAdvance advance_pathModifier)) fun _ => .pure _

theorem advance_pathWith (inner : Agree size first second) :
    Advance (size + 1) (pathWith first) (pathWith second) :=
  .chain (.token _) _ (.chain (.token _) _ (advance_pathStep inner))

end

theorem advance_pathWithin (depth : Nat) : Advance size (pathWithin depth) (pathWithin depth) := by
  induction depth with
  | zero => exact .failure
  | succ depth induction => exact .ofSucc (advance_pathWith (.ofAdvance induction))

theorem advance_path : Advance size path path where
  same _ := rfl
  shorter small read := (advance_pathWithin _).shorter small read

theorem advance_pathVerb : Advance size pathVerb pathVerb :=
  .orElse (.map _ (.token _)) (.map _ advance_path)

theorem advance_quotedForm : Advance size quotedForm quotedForm :=
  .bind (.token _) fun _ =>
    .orElse (.bind (.ofAdvance (.token _)) fun _ => .map _ (.ofAdvance (.token _))) <|
      .orElse (.map _ (.ofAdvance (.token _))) (.pure _)

theorem advance_literalForm : Advance size literalForm literalForm :=
  .orElse advance_quotedForm <| .orElse (.token _) <|
    .orElse (.bind (.token _) fun _ => .pure _) (.bind (.token _) fun _ => .pure _)

section

variable {verb : Reader Verb} {inner : Reader Node}

theorem advance_statement (takesVerb : Advance size verb verb) (takes : Advance size inner inner) :
    Advance size (statement verb inner) (statement verb inner) :=
  .bind takesVerb fun _ => .bind (.ofAdvance (.separated (.token _) takes)) fun _ => .pure _

theorem advance_statements (takesVerb : Advance size verb verb) (takes : Advance size inner inner) :
    Advance size (statements verb inner) (statements verb inner) :=
  .bind (advance_statement takesVerb takes) fun _ =>
    .bind (.many (.bind (.ofAdvance (.token _)) fun _ =>
      .maybe (.ofAdvance (advance_statement takesVerb takes)))) fun _ => .pure _

theorem advance_nodeWith (takesVerb : Advance size verb verb) (takes : Advance size inner inner) :
    Advance size (nodeWith verb inner) (nodeWith verb inner) :=
  .orElse (.map _ (.token _)) <| .orElse (.map _ (.token _)) <|
    .orElse (.map _ advance_literalForm) <| .orElse (.token _) <|
    .orElse (.bind (.token _) fun _ =>
      .bind (.maybe (.ofAdvance (advance_statements takesVerb takes))) fun _ =>
        .bind (.ofAdvance (.token _)) fun _ => .pure _)
      (.map _ (.ofSucc (.parenthesised (.many (.ofAdvance takes)))))

theorem advance_nodeWithin (takesVerb : Advance size verb verb) (depth : Nat) :
    Advance size (nodeWithin verb depth) (nodeWithin verb depth) := by
  induction depth with
  | zero => exact .failure
  | succ depth induction => exact advance_nodeWith takesVerb induction

theorem advance_node (takesVerb : Advance size verb verb) :
    Advance size (node verb) (node verb) where
  same _ := rfl
  shorter small read := (advance_nodeWithin takesVerb _).shorter small read

theorem advance_triples (takesVerb : Advance size verb verb) :
    Advance size (triples verb) (triples verb) :=
  have list := advance_statements takesVerb (advance_node takesVerb)
  .bind (advance_node takesVerb) fun _ =>
    .ite (.bind (.maybe (.ofAdvance list)) fun _ => .pure _)
      (.bind (.ofAdvance list) fun _ => .pure _)

theorem advance_block (takesVerb : Advance size verb verb) :
    Advance size (block verb) (block verb) :=
  .bind (.separated (.token _) (advance_triples takesVerb)) fun _ =>
    .bind (.taken (.ofAdvance (.token _))) fun _ => .pure _

end

/-- Readers of nested expressions and groups that agree. -/
structure ReadersAgree (size : Nat) (first second : Readers) : Prop where
  expression : Advance size first.expression second.expression
  group : Advance size first.group second.group

variable {first second : Readers}

theorem advance_resourceCall (inner : ReadersAgree size first second) (name : IriName) :
    Advance (size + 1) (resourceCall first name) (resourceCall second name) :=
  .orElse (.parenthesised (.bind (.ofAdvance (.token _)) fun _ =>
    .bind (.ofAdvance inner.expression) fun _ => .pure _)) (.map _ (.listed inner.expression))

theorem advance_aggregateCall (inner : ReadersAgree size first second) (name : String) :
    Advance (size + 1) (aggregateCall first name) (aggregateCall second name) := by
  refine .parenthesised (.bind (.taken (.ofAdvance (.token _))) fun _ =>
    .ite (.bind (.taken (.ofAdvance (.token _))) fun _ => ?_) (.bind (.pure _) fun _ => ?_))
  all_goals
    exact .ite (.pure _) <| .bind (.ofAdvance inner.expression) fun _ =>
      .ite (.bind (.maybe (.bind (.ofAdvance (.token _)) fun _ =>
          .bind (.ofAdvance (.token _)) fun _ =>
            .bind (.ofAdvance (.token _)) fun _ => .ofAdvance (.token _))) fun _ => .pure _)
        (.pure _)

theorem advance_builtinCall (inner : ReadersAgree size first second) :
    Advance (size + 1) (builtinCall first) (builtinCall second) := by
  refine .orElse (.guard (.token _) fun _ => .map _ (.ofAdvance inner.group)) <|
    .orElse (.guard (.token _) fun _ => .bind (.ofAdvance (.token _)) fun _ =>
      .map _ (.ofAdvance inner.group)) <|
    .orElse (.bind (.token _) fun _ =>
      .map _ (.ofAdvance (.parenthesised (.ofAdvance (.token _))))) <|
    .bind (.token _) fun letters => .ite (.ofAdvance (advance_aggregateCall inner _)) ?_
  cases arity? (capitals letters) with
  | none => exact .ofAdvance .failure
  | some arity =>
      exact .bind (.ofAdvance (.listed inner.expression)) fun _ =>
        .ite (.pure _) (.ofAdvance .failure)

theorem advance_functionCall (inner : ReadersAgree size first second) :
    Advance (size + 1) (functionCall first) (functionCall second) :=
  .bind (.token _) fun _ => .ofAdvance (advance_resourceCall inner _)

theorem advance_primary (inner : ReadersAgree size first second) :
    Advance (size + 1) (primary first) (primary second) :=
  .orElse (.parenthesised (.ofAdvance inner.expression)) <|
    .orElse (.bind (.token _) fun _ =>
      .orElse (.ofAdvance (advance_resourceCall inner _)) (.pure _)) <|
    .orElse (.map _ (.token _)) <| .orElse (.map _ advance_literalForm) (advance_builtinCall inner)

theorem advance_unaryOperator : Advance size unaryOperator unaryOperator :=
  .orElse (.bind (.token _) fun _ => .pure _) <|
    .orElse (.bind (.token _) fun _ => .pure _) (.bind (.token _) fun _ => .pure _)

theorem advance_unary (inner : ReadersAgree size first second) :
    Advance (size + 1) (unary first) (unary second) :=
  .behind (.maybe (.ofAdvance advance_unaryOperator)) fun _ =>
    .bind (advance_primary inner) fun _ => .pure _

theorem agree_factors (inner : ReadersAgree size first second) (factor : Expression) :
    Agree (size + 1) (factors first factor) (factors second factor) :=
  .bind (.many (.bind (.ofAdvance (.token _)) fun _ =>
    .bind (.ofAdvance (advance_unary inner)) fun _ => .pure _)) fun _ => .pure _

theorem advance_product (inner : ReadersAgree size first second) :
    Advance (size + 1) (product first) (product second) :=
  .bind (advance_unary inner) fun _ => agree_factors inner _

theorem advance_sum (inner : ReadersAgree size first second) :
    Advance (size + 1) (sum first) (sum second) :=
  .bind (advance_product inner) fun _ =>
    .bind (.many (.orElse
      (.bind (.ofAdvance (.token _)) fun _ =>
        .bind (.ofAdvance (advance_product inner)) fun _ => .pure _)
      (.bind (.ofAdvance (.token _)) fun _ =>
        .bind (agree_factors inner _) fun _ => .pure _))) fun _ => .pure _

theorem advance_relation (inner : ReadersAgree size first second) :
    Advance (size + 1) (relation first) (relation second) :=
  .bind (advance_sum inner) fun _ =>
    .orElse (.bind (.ofAdvance (.token _)) fun _ =>
      .bind (.ofAdvance (advance_sum inner)) fun _ => .pure _) <|
    .orElse (.bind (.ofAdvance (.token _)) fun _ =>
      .map _ (.ofAdvance (.listed inner.expression))) <|
    .orElse (.bind (.ofAdvance (.token _)) fun _ => .bind (.ofAdvance (.token _)) fun _ =>
      .map _ (.ofAdvance (.listed inner.expression))) (.pure _)

theorem advance_expressionWith (inner : ReadersAgree size first second) :
    Advance (size + 1) (expressionWith first) (expressionWith second) :=
  .chain (.token _) _ (.chain (.token _) _ (advance_relation inner))

theorem advance_constraint (inner : ReadersAgree size first second) :
    Advance (size + 1) (constraint first) (constraint second) :=
  .orElse (.parenthesised (.ofAdvance inner.expression)) <|
    .orElse (advance_functionCall inner) (advance_builtinCall inner)

theorem advance_dataValue : Advance size dataValue dataValue :=
  .orElse (.bind (.token _) fun _ => .pure _) <|
    .orElse (.bind advance_literalForm fun _ => .pure _) (.token _)

theorem advance_braced {inner other : Reader α} (agree : Agree size inner other) :
    Advance (size + 1) (braced inner) (braced other) :=
  .guard (.token _) fun _ => .bind agree fun _ => .bind (.ofAdvance (.token _)) fun _ => .pure _

theorem advance_inlineData : Advance size inlineData inlineData :=
  .orElse (.bind (.token _) fun _ =>
      .bind (.ofAdvance (.ofSucc (advance_braced (.many (.ofAdvance advance_dataValue)))))
        fun _ => .pure _) <|
    .bind (.ofSucc (.parenthesised (.many (.ofAdvance (.token _))))) fun _ =>
      .bind (.ofAdvance (.ofSucc (advance_braced (.many (.ofAdvance (.ofSucc (.parenthesised
        (.many (.ofAdvance advance_dataValue))))))))) fun _ => .ite (.pure _) (.ofAdvance .failure)

theorem advance_target : Advance size target target :=
  .orElse (.map _ (.token _)) (.map _ (.token _))

theorem advance_assignment (inner : ReadersAgree size first second) :
    Advance (size + 1) (assignment first) (assignment second) :=
  .parenthesised (.bind (.ofAdvance inner.expression) fun _ =>
    .bind (.ofAdvance (.token _)) fun _ =>
    .bind (.ofAdvance (.token _)) fun _ => .pure _)

theorem advance_patternElement (inner : ReadersAgree size first second) :
    Advance size (patternElement first) (patternElement second) :=
  .orElse (.bind (.token _) fun _ => .map _ (.ofAdvance inner.group)) <|
    .orElse (.bind (.token _) fun _ => .map _ (.ofAdvance inner.group)) <|
    .orElse (.map _ (.separated (.token _) inner.group)) <|
    .orElse (.bind (.token _) fun _ => .bind (.ofAdvance advance_target) fun _ =>
      .map _ (.ofAdvance inner.group)) <|
    .orElse (.bind (.token _) fun _ => .bind (.taken (.ofAdvance (.token _))) fun _ =>
      .bind (.ofAdvance advance_target) fun _ => .map _ (.ofAdvance inner.group)) <|
    .orElse (.bind (.token _) fun _ => .map _ (.ofAdvance (.ofSucc (advance_constraint inner)))) <|
    .orElse (.bind (.token _) fun _ =>
      .bind (.ofAdvance (.ofSucc (advance_assignment inner))) fun _ => .pure _)
      (.bind (.token _) fun _ => .map _ (.ofAdvance advance_inlineData))

theorem agree_someTriples : Agree size someTriples someTriples :=
  .orElse (.bind (.ofAdvance (advance_block advance_pathVerb)) fun _ => .pure _) (.pure _)

/-- An element that is no triple, with the triples behind it. -/
def element (readers : Readers) : Reader (List Element) := do
  let element ← patternElement readers
  let _ ← taken (mark .dot)
  let after ← someTriples
  return element :: after

theorem elements_eq (readers : Readers) : elements readers = (do
    let first ← someTriples
    let rest ← many (element readers)
    return first ++ rest.flatten) :=
  rfl

theorem advance_element (inner : ReadersAgree size first second) :
    Advance size (element first) (element second) :=
  .bind (advance_patternElement inner) fun _ => .bind (.taken (.ofAdvance (.token _))) fun _ =>
    .bind agree_someTriples fun _ => .pure _

theorem agree_elements (inner : ReadersAgree size first second) :
    Agree size (elements first) (elements second) := by
  rw [elements_eq, elements_eq]
  exact .bind agree_someTriples fun _ =>
    .bind (.many (.ofAdvance (advance_element inner))) fun _ => .pure _

theorem advance_grouping (inner : ReadersAgree size first second) :
    Advance size (grouping first) (grouping second) :=
  .orElse (.bind (.ofSucc (advance_assignment inner)) fun _ => .pure _) <|
    .orElse (.bind (.ofSucc (advance_constraint inner)) fun _ => .pure _)
      (.bind (.token _) fun _ => .pure _)

theorem advance_ordering (inner : ReadersAgree size first second) :
    Advance size (ordering first) (ordering second) :=
  .orElse (.bind (.orElse (.token _) (.token _)) fun _ =>
      .ofAdvance (.ofSucc (.parenthesised (.ofAdvance inner.expression)))) <|
    .orElse (.ofSucc (advance_constraint inner)) (.map _ (.token _))

theorem advance_limit : Advance size slice.limit slice.limit :=
  .bind (.token _) fun _ => .bind (.ofAdvance (.token _)) fun _ => .pure _

theorem advance_offset : Advance size slice.offset slice.offset :=
  .bind (.token _) fun _ => .bind (.ofAdvance (.token _)) fun _ => .pure _

theorem agree_slice : Agree size slice slice :=
  .orElse (.bind (.ofAdvance advance_limit) fun _ =>
      .bind (.taken (.ofAdvance advance_offset)) fun _ => .pure _) <|
    .orElse (.bind (.ofAdvance advance_offset) fun _ =>
      .bind (.taken (.ofAdvance advance_limit)) fun _ => .pure _) (.pure _)

theorem agree_clause {keyword : Reader Unit} {item other : Reader α}
    (takes : Advance size keyword keyword) (advance : Advance size item other) :
    Agree size (clause keyword item) (clause keyword other) :=
  .orElse (.bind (.ofAdvance takes) fun _ => .ofAdvance (.several advance)) (.pure _)

theorem agree_modifiers (inner : ReadersAgree size first second) :
    Agree size (modifiers first) (modifiers second) :=
  .bind (agree_clause (.bind (.token _) fun _ => .ofAdvance (.token _)) (advance_grouping inner))
      fun _ =>
    .bind (agree_clause (.token _) (.ofSucc (advance_constraint inner))) fun _ =>
    .bind (agree_clause (.bind (.token _) fun _ => .ofAdvance (.token _)) (advance_ordering inner))
      fun _ =>
    .bind agree_slice fun _ =>
    .bind (.maybe (.bind (.ofAdvance (.token _)) fun _ => .ofAdvance advance_inlineData)) fun _ =>
      .pure _

theorem advance_body (inner : ReadersAgree size first second) :
    Advance size (body first) (body second) :=
  .behind (.taken (.ofAdvance (.token _))) fun _ => inner.group

theorem advance_column (inner : ReadersAgree size first second) :
    Advance size (column first) (column second) :=
  .orElse (.map _ (.token _)) (.bind (.ofSucc (advance_assignment inner)) fun _ => .pure _)

theorem advance_select (inner : ReadersAgree size first second) {sources : Reader Unit}
    (agree : Agree size sources sources) :
    Advance size (select first sources) (select second sources) := by
  refine .bind (.token _) fun _ => .bind (.taken (.ofAdvance (.orElse (.token _) (.token _))))
    fun _ => .bind (.orElse (.bind (.ofAdvance (.token _)) fun _ => .pure _)
      (.map _ (.ofAdvance (.several (advance_column inner))))) fun columns =>
    .bind agree fun _ => .bind (.ofAdvance (advance_body inner)) fun _ =>
    .bind (agree_modifiers inner) fun _ => .ite (.pure _) (.ofAdvance .failure)

theorem advance_groupWith (inner : ReadersAgree size first second) :
    Advance (size + 1) (groupWith first) (groupWith second) :=
  advance_braced (.orElse (.map _ (.ofAdvance (advance_select inner (.pure _))))
    (.bind (agree_elements inner) fun _ => .ite (.pure _) (.ofAdvance .failure)))

theorem readersWithin_self (depth : Nat) :
    ReadersAgree size (readersWithin depth) (readersWithin depth) := by
  induction depth with
  | zero => exact ⟨.failure, .failure⟩
  | succ depth induction =>
      exact ⟨.ofSucc (advance_expressionWith induction), .ofSucc (advance_groupWith induction)⟩

theorem expressionWith_nil (readers : Readers) : expressionWith readers [] = none :=
  rfl

theorem groupWith_nil (readers : Readers) : groupWith readers [] = none :=
  rfl

theorem advance_zero {inner other : Reader α} (nothing : inner [] = none)
    (nothingToo : other [] = none) :
    Advance 0 inner other where
  same small := by rw [List.length_eq_zero_iff.mp (Nat.le_zero.mp small), nothing, nothingToo]
  shorter small read := by
    rw [List.length_eq_zero_iff.mp (Nat.le_zero.mp small), nothing] at read
    cases read

/-- Readers whose bounds exceed the number of tokens agree. -/
theorem readersWithin_agree {depth other : Nat} (deep : size < depth) (otherDeep : size < other) :
    ReadersAgree size (readersWithin depth) (readersWithin other) := by
  induction size generalizing depth other with
  | zero =>
      obtain ⟨depth, rfl⟩ : ∃ smaller, depth = smaller + 1 := ⟨depth - 1, by omega⟩
      obtain ⟨other, rfl⟩ : ∃ smaller, other = smaller + 1 := ⟨other - 1, by omega⟩
      exact ⟨advance_zero (expressionWith_nil _) (expressionWith_nil _),
        advance_zero (groupWith_nil _) (groupWith_nil _)⟩
  | succ size induction =>
      obtain ⟨depth, rfl⟩ : ∃ smaller, depth = smaller + 1 := ⟨depth - 1, by omega⟩
      obtain ⟨other, rfl⟩ : ∃ smaller, other = smaller + 1 := ⟨other - 1, by omega⟩
      have inner : ReadersAgree size (readersWithin depth) (readersWithin other) :=
        induction (by omega) (by omega)
      exact ⟨advance_expressionWith inner, advance_groupWith inner⟩

end FacetedQuery.Sparql.Grammar
