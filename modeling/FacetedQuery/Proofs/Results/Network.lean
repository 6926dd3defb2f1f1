import FacetedQuery.Proofs.Objects.Grouping
import FacetedQuery.Proofs.Rdf.Iri
import FacetedQuery.Results.Network

/-!
# Links and nodes of networks

Each row is a link, the ends of all links are kept once in the order of their first appearance, and
so are the nodes by their ids.
-/

namespace FacetedQuery

open Outcome (bind_eq_ok mapM_cons_eq_ok mapM_nil_eq_ok)
open Rdf (Iri)

theorem nodup_eraseDups {α : Type} [BEq α] [LawfulBEq α] (items : List α) :
    items.eraseDups.Nodup := by
  induction items using List.reverseRecOn with
  | nil => exact List.nodup_nil
  | append_singleton items last induction =>
      by_cases known : last ∈ items
      · rwa [eraseDups_of_mem known]
      · rw [eraseDups_of_not_mem known, List.nodup_append_comm]
        simpa using ⟨known, induction⟩

/-- Items are repeated where their images are. -/
theorem map_eraseDups {α β : Type} [BEq α] [LawfulBEq α] [BEq β] [LawfulBEq β] {image : α → β}
    (injective : Function.Injective image) (items : List α) :
    items.eraseDups.map image = (items.map image).eraseDups := by
  induction items using List.reverseRecOn with
  | nil => rfl
  | append_singleton items last induction =>
      have member : image last ∈ items.map image ↔ last ∈ items :=
        List.mem_map_of_injective injective
      rw [List.map_append, List.map_singleton]
      by_cases known : last ∈ items
      · rw [eraseDups_of_mem known, eraseDups_of_mem (member.mpr known), induction]
      · rw [eraseDups_of_not_mem known, eraseDups_of_not_mem (mt member.mp known), List.map_append,
          induction, List.map_singleton]

/-- The link that a row stands for. -/
structure Solution.IsLink (row : Solution) (link : NetworkLink) : Prop where
  source : row.text? "source" = some link.source
  target : row.text? "target" = some link.target
  weight : link.weight =
    (row.text? "weight").bind fun text => Decimal.readUnsigned? (Text.trim text).toList

theorem Solution.text_eq_ok {row : Solution} {index : Nat} {column value : String} :
    row.text index column = .ok value ↔ row.text? column = some value := by
  unfold Solution.text
  cases row.text? column <;> simp

theorem isLink_of_readLink {row : Solution} {index : Nat} {link : NetworkLink}
    (read : readLink row index = .ok link) : row.IsLink link := by
  obtain ⟨source, isSource, further⟩ := bind_eq_ok.mp read
  obtain ⟨target, isTarget, further⟩ := bind_eq_ok.mp further
  obtain ⟨weight, isWeight, same⟩ := bind_eq_ok.mp further
  cases same
  refine ⟨Solution.text_eq_ok.mp isSource, Solution.text_eq_ok.mp isTarget, ?_⟩
  unfold Solution.number? at isWeight
  change weight = _
  cases found : row.text? "weight" with
  | none =>
      rw [found] at isWeight
      exact (Except.ok.inj isWeight).symm
  | some value =>
      rw [found] at isWeight
      cases parsed : Decimal.readUnsigned? (Text.trim value).toList with
      | none => simp [NumberKind.count, parsed] at isWeight
      | some number =>
          rw [Option.bind_some, parsed]
          simpa [NumberKind.count, parsed, eq_comm] using isWeight

/-- Rows are read one for one, in their order. -/
theorem forall₂_of_mapRows {α : Type} {read : Solution → Nat → Except MappingFault α}
    {relation : Solution → α → Prop}
    (sound : ∀ row index value, read row index = .ok value → relation row value)
    {rows : List Solution} {values : List α} (made : mapRows read rows = .ok values) :
    List.Forall₂ relation rows values := by
  unfold mapRows at made
  generalize 0 = index at made
  induction rows generalizing values index with
  | nil =>
      obtain rfl := mapM_nil_eq_ok.mp made
      exact .nil
  | cons row rows induction =>
      rw [List.zipIdx_cons] at made
      obtain ⟨value, rest, head, tail, rfl⟩ := mapM_cons_eq_ok.mp made
      exact .cons (sound row index value head) (induction (index + 1) tail)

theorem forall₂_of_readLinks {rows : List Solution} {links : List NetworkLink}
    (read : readLinks rows = .ok links) : List.Forall₂ Solution.IsLink rows links :=
  @forall₂_of_mapRows _ readLink _ (fun _ _ _ => isLink_of_readLink) _ _ read

/-- The ends of links, the source of each in front of its target. -/
def linkEnds (links : List NetworkLink) : List String :=
  links.flatMap fun link => [link.source, link.target]

/-- An end is added unless it is there. -/
theorem addEndpoint_eq_ok {index : Nat} {known result : List Iri} {column value : String} :
    addEndpoint index known.eraseDups column value = .ok result ↔
      ∃ iri, Iri.ofText value = .ok iri ∧ result = (known ++ [iri]).eraseDups := by
  unfold addEndpoint
  by_cases member : known.eraseDups.any (·.text == value) = true
  · obtain ⟨iri, inside, same⟩ := List.any_eq_true.mp member
    have read : Iri.ofText value = .ok iri := Iri.ofText_eq_ok.mpr (by simpa using same)
    have kept := eraseDups_of_mem (List.mem_eraseDups.mp inside)
    rw [if_pos member, read]
    simp [kept, eq_comm]
  · rw [if_neg member]
    cases read : Iri.ofText value with
    | error fault => simp
    | ok iri =>
        have fresh : iri ∉ known := fun inside =>
          member (List.any_eq_true.mpr ⟨iri, List.mem_eraseDups.mpr inside, by
            simpa using Iri.ofText_eq_ok.mp read⟩)
        simp [eraseDups_of_not_mem fresh, eq_comm]

/-- The ends of links are found exactly if all of them are IRIs; each is there once, where it
appears first. -/
theorem linkEndpoints_eq_ok {links : List NetworkLink} {endpoints : List Iri} :
    linkEndpoints links = .ok endpoints ↔
      ∃ ends, (linkEnds links).mapM Iri.ofText = .ok ends ∧ endpoints = ends.eraseDups := by
  have run : ∀ (known : List Iri) (index : Nat),
      (links.zipIdx index).foldlM (fun found link => do
        let withSource ← addEndpoint link.2 found "source" link.1.source
        addEndpoint link.2 withSource "target" link.1.target) known.eraseDups = .ok endpoints ↔
      ∃ ends, (linkEnds links).mapM Iri.ofText = .ok ends ∧
        endpoints = (known ++ ends).eraseDups := by
    induction links with
    | nil => simp [linkEnds, pure, Except.pure, eq_comm]
    | cons link links induction =>
        intro known index
        have ends : linkEnds (link :: links) = link.source :: link.target :: linkEnds links := rfl
        rw [List.zipIdx_cons, List.foldlM_cons, ends]
        simp only [bind_eq_ok, addEndpoint_eq_ok, mapM_cons_eq_ok]
        constructor
        · rintro ⟨_, ⟨_, ⟨source, isSource, rfl⟩, more⟩, further⟩
          obtain ⟨target, isTarget, rfl⟩ := addEndpoint_eq_ok.mp more
          obtain ⟨rest, isRest, rfl⟩ := (induction _ _).mp further
          exact ⟨_, ⟨source, _, isSource, ⟨target, rest, isTarget, isRest, rfl⟩, rfl⟩, by simp⟩
        · rintro ⟨_, ⟨source, _, isSource, ⟨target, rest, isTarget, isRest, rfl⟩, rfl⟩, rfl⟩
          refine ⟨_, ⟨_, ⟨source, isSource, rfl⟩, addEndpoint_eq_ok.mpr ⟨target, isTarget, rfl⟩⟩,
            ?_⟩
          exact (induction _ _).mpr ⟨rest, isRest, by simp⟩
  exact run [] 0

theorem map_text_of_mapM {texts : List String} {iris : List Iri}
    (read : texts.mapM Iri.ofText = .ok iris) : iris.map Iri.text = texts := by
  induction texts generalizing iris with
  | nil =>
      obtain rfl := mapM_nil_eq_ok.mp read
      rfl
  | cons text texts induction =>
      obtain ⟨iri, rest, head, tail, rfl⟩ := mapM_cons_eq_ok.mp read
      rw [List.map_cons, Iri.ofText_eq_ok.mp head, induction tail]

theorem mem_linkEnds {links : List NetworkLink} {id : String} :
    id ∈ linkEnds links ↔ ∃ link ∈ links, link.source = id ∨ link.target = id := by
  simp [linkEnds, eq_comm]

section

variable {α : Type} {id : α → String} {read : Solution → Nat → String → Except MappingFault α}

/-- A row adds the value for its id, unless there is one. -/
theorem ids_of_takeDistinct
    (keyed : ∀ row index key value, read row index key = .ok value → id value = key)
    {row : Solution × Nat} {found result : List α} {keys : List String}
    (known : found.map id = keys.eraseDups)
    (taken : (do
      let key ← row.1.text row.2 "id"
      if found.any (id · == key) then return found
      else return found ++ [← read row.1 row.2 key]) = (.ok result :
    Except MappingFault (List α))) :
    ∃ key, row.1.text? "id" = some key ∧ result.map id = (keys ++ [key]).eraseDups := by
  obtain ⟨key, isKey, further⟩ := bind_eq_ok.mp taken
  have member : found.any (id · == key) = true ↔ key ∈ keys := by
    rw [← List.mem_eraseDups, ← known]
    simp
  refine ⟨key, Solution.text_eq_ok.mp isKey, ?_⟩
  by_cases inside : key ∈ keys
  · rw [if_pos (member.mpr inside)] at further
    cases further
    rw [known, eraseDups_of_mem inside]
  · rw [if_neg (mt member.mp inside)] at further
    obtain ⟨value, made, same⟩ := bind_eq_ok.mp further
    cases same
    rw [List.map_append, known, eraseDups_of_not_mem inside, List.map_singleton,
      keyed row.1 row.2 key value made]

/-- Rows are read once for each id, in the order in which the ids appear first. -/
theorem ids_of_readDistinct
    (keyed : ∀ row index key value, read row index key = .ok value → id value = key)
    {rows : List Solution} {values : List α} (made : readDistinct id read rows = .ok values) :
    ∃ keys : List String, rows.map (·.text? "id") = keys.map some ∧ values.map id =
      keys.eraseDups := by
  have run : ∀ (index : Nat) (before : List String) (found : List α),
      found.map id = before.eraseDups →
      (rows.zipIdx index).foldlM (fun found row => do
        let key ← row.1.text row.2 "id"
        if found.any (id · == key) then return found
        else return found ++ [← read row.1 row.2 key]) found = .ok values →
      ∃ keys : List String, rows.map (·.text? "id") = keys.map some ∧
        values.map id = (before ++ keys).eraseDups := by
    clear made
    induction rows with
    | nil =>
        intro index before found known same
        cases same
        exact ⟨[], rfl, by simpa using known⟩
    | cons row rows induction =>
        intro index before found known made
        rw [List.zipIdx_cons, List.foldlM_cons] at made
        obtain ⟨middle, taken, further⟩ := bind_eq_ok.mp made
        obtain ⟨key, isKey, known⟩ := ids_of_takeDistinct keyed known taken
        obtain ⟨keys, isKeys, final⟩ := induction (index + 1) (before ++ [key]) middle known further
        exact ⟨key :: keys, by simp [isKey, isKeys], by simpa using final⟩
  exact run 0 [] [] rfl made

end

theorem ids_of_readNodes {rows : List Solution} {nodes : List NetworkNode}
    (read : readNodes rows = .ok nodes) :
    ∃ ids : List String, rows.map (·.text? "id") = ids.map some ∧
      nodes.map NetworkNode.id = ids.eraseDups := by
  refine ids_of_readDistinct ?_ read
  intro row index key value made
  cases made
  rfl

end FacetedQuery
