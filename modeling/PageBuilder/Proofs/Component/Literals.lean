import PageBuilder.Proofs.Component.Sources
import PageBuilder.Proofs.Json.Reading
import PageBuilder.Proofs.Templates.Lists

set_option autoImplicit false

namespace PageBuilder

theorem Json.ofText_compact {v : Json} (whole : v.Whole) (room : v.levels < 128) :
    Json.ofText v.compact = .ok v.sorted := by
  rw [Json.ofText, Json.compact, String.toList_ofList, Json.read_compactChars whole]
  simp only [Json.toJson_tree v whole 0 (by omega)]
  rfl

theorem Json.one_line_escapeChar {stop : Char} (lineEnd : stop = '\n' ∨ stop = '\r') (c : Char) :
    stop ∉ Json.escapeChar c := by
  have short : stop ∈ Json.shortEscaped := by rcases lineEnd with rfl | rfl <;> decide
  have notHex : ∀ n < 16, stop ≠ Nat.digitChar n := fun n small same => by
    have hex := Json.hexValue?_digitChar small
    rw [← same] at hex
    rcases lineEnd with rfl | rfl <;> cases hex
  by_cases escaped : c ∈ Json.shortEscaped
  · obtain ⟨d, same, _, short, _⟩ := Json.escapeChar_short escaped
    rw [same]
    rcases lineEnd with rfl | rfl <;> rintro (_ | ⟨_, _ | ⟨_, ⟨⟩⟩⟩) <;> cases short
  · rw [Json.escapeChar_other escaped]
    split
    · rename_i control
      have high := notHex (c.toNat / 16) (by omega)
      have low := notHex (c.toNat % 16) (by omega)
      rcases lineEnd with rfl | rfl <;> simp [high, low]
    · rw [List.mem_singleton]
      rintro rfl
      exact escaped short

theorem Json.one_line_quote {stop : Char} (lineEnd : stop = '\n' ∨ stop = '\r') (s : String) :
    stop ∉ (Json.quote s).toList := by
  have inside : stop ∉ s.toList.flatMap Json.escapeChar := fun mem => by
    obtain ⟨c, _, escaped⟩ := List.mem_flatMap.1 mem
    exact Json.one_line_escapeChar lineEnd c escaped
  have quote : stop ≠ '"' := by rcases lineEnd with rfl | rfl <;> decide
  rw [Json.quote, String.toList_ofList, Json.quoteChars]
  simp [inside, quote]

mutual

def Component.lists : Component → List (String × Json)
  | .comment _ | .text _ => []
  | .element _ _ _ inside => inside.lists
  | .list binding items body => (items.literal?.map (binding, ·)).toList ++ listsOfComponents body
  | .choice _ yes no => listsOfComponents yes ++ listsOfComponents no

def Inside.lists : Inside → List (String × Json)
  | .none | .trusted _ | .line _ => []
  | .block nodes => listsOfComponents nodes

def listsOfComponents : List Component → List (String × Json)
  | [] => []
  | node :: rest => node.lists ++ listsOfComponents rest

end

theorem listsOfAll_of_textsOf? {nodes : List Node} {texts : List Expr}
    (all : textsOf? nodes = some texts) : listsOfAll nodes = [] := by
  rw [eq_of_textsOf? all]
  clear all
  induction texts with
  | nil => rfl
  | cons e texts ih => exact ih

mutual

theorem Element.lists_component : ∀ e : Element, e.component.lists = e.lists
  | { markup := some _, .. } => rfl
  | { markup := none, children, .. } => by
    have nodes := lists_componentsOf children
    rw [Element.component, Component.lists, Element.lists]
    split
    · rename_i empty
      rw [List.isEmpty_iff.1 empty]
      rfl
    · split
      · rename_i texts all
        rw [listsOfAll_of_textsOf? all]
        rfl
      · exact nodes

theorem Node.lists_component : ∀ node : Node, node.component.lists = node.lists
  | .element e => Element.lists_component e
  | .text _ => rfl
  | .repeat _ _ body => by
    rw [Node.component, Component.lists, Node.lists, lists_componentsOf body]
  | .choice _ yes no => by
    rw [Node.component, Component.lists, Node.lists, lists_componentsOf yes,
      lists_componentsOf no]

theorem lists_componentsOf : ∀ nodes : List Node,
    listsOfComponents (componentsOf nodes) = listsOfAll nodes
  | [] => rfl
  | node :: rest => by
    rw [componentsOf, listsOfComponents, listsOfAll, Node.lists_component node,
      lists_componentsOf rest]

end

def mapSource (dialect : Dialect) (binding : String) (list : Json) : String :=
  "\x7b" ++ list.compact ++ ".map((" ++ dialect.parameters binding ++ ") => ("

theorem mem_fragment {text : String} {nodes : List Line} (depth : Nat)
    (mem : text ∈ nodes.map Line.text) : text ∈ (fragment depth nodes).map Line.text := by
  rw [fragment, List.map_append, List.map_cons]
  exact List.mem_append_left _ (List.mem_cons_of_mem _ mem)

section

variable (dialect : Dialect) {binding : String} {list : Json}

mutual

theorem Component.mapSource_mem : ∀ (c : Component) (depth : Nat), (binding, list) ∈ c.lists →
    mapSource dialect binding list ∈ (c.lines dialect depth).map Line.text
  | .element tag properties styles inside, depth, mem =>
    Inside.mapSource_mem inside depth tag _ mem
  | .list other items body, depth, mem => by
    rw [Component.lines, List.map_append, List.map_append, List.mem_append, List.mem_append]
    refine .inl ((List.mem_append.1 mem).imp (fun own => ?_)
      (mapSource_mem_linesOfAll body (depth + 2)))
    cases items with
    | inline v =>
      cases List.mem_singleton.1 own
      exact List.mem_cons_self
    | of | range => cases own
  | .choice condition yes no, depth, mem => by
    have inYes := mapSource_mem_linesOfAll yes (depth + 2)
    have inNo := mapSource_mem_linesOfAll no (depth + 2)
    rw [Component.lines, List.map_append, List.mem_append]
    refine (List.mem_append.1 mem).imp (fun own => ?_) (fun own => ?_)
    · exact List.mem_cons_of_mem _ (mem_fragment (depth + 1) (inYes own))
    · cases no with
      | nil => cases own
      | cons node rest =>
        refine List.mem_cons_of_mem _ ?_
        rw [List.append_eq, List.map_append]
        exact List.mem_append_left _ (mem_fragment (depth + 1) (inNo own))

theorem Inside.mapSource_mem : ∀ (inside : Inside) (depth : Nat) (tag opening : String),
    (binding, list) ∈ inside.lists →
      mapSource dialect binding list ∈ (inside.lines dialect depth tag opening).map Line.text
  | .block nodes, depth, tag, opening, mem => by
    have inner := mapSource_mem_linesOfAll nodes (depth + 1) mem
    rw [Inside.lines, List.map_append, List.map_cons]
    exact List.mem_append_left _ (List.mem_cons_of_mem _ inner)

theorem mapSource_mem_linesOfAll : ∀ (nodes : List Component) (depth : Nat),
    (binding, list) ∈ listsOfComponents nodes →
      mapSource dialect binding list ∈ (linesOfAll dialect depth nodes).map Line.text
  | node :: rest, depth, mem => by
    rw [linesOfAll, List.map_append, List.mem_append]
    exact (List.mem_append.1 mem).imp (Component.mapSource_mem node depth)
      (mapSource_mem_linesOfAll rest depth)

end

end

theorem Block.ofText_array {b : Block} {v : Json} (saved : v ∈ Json.arrays (membersOf b.encode)) :
    Json.ofText v.compact = .ok v := by
  have sorted : v.sorted = v := by
    rw [arrays_encode] at saved
    obtain ⟨w, _, rfl⟩ := List.mem_map.1 saved
    exact Json.sorted_sorted w
  obtain ⟨m, mem, rfl⟩ := List.mem_map.1 (List.mem_of_mem_filter saved)
  obtain ⟨members, same, inside⟩ := mem_membersOf mem
  have plain := b.encode_plain
  rw [same] at plain
  have whole := (Json.whole_object_iff members).1 plain.1 m inside
  have levels : m.2.levels ≤ 3 := (Json.levels_object_le_iff members 3).1 plain.2 m inside
  rw [Json.ofText_compact whole (by omega), sorted]

theorem Section.lists_element (block : Block) :
    (ofBlock block).element.component.lists.map Prod.snd =
      Json.arrays (Block.membersOf block.encode) := by
  have body : (ofBlock block).element.lists =
      (block.content.root block.base.background).lists ++ [] := rfl
  rw [Element.lists_component, body, List.append_nil, block.content.root_lists, block.arrays_encode]

/--
Every literal in the source of a component denotes its value. A string literal is read as its text,
as JSON and as script, and is on one line; the literal of an attribute, quoted or in braces, is read
as the value of the attribute. The lists that are written in the source of a section, each in front
of a mapped function, are the arrays of the saved block, and each is read as this array.
-/
theorem literals_denote_values :
    (∀ s, Json.ofText (Json.quote s) = .ok (.string s) ∧
      (∀ rest, Script.string? ((Json.quote s).toList ++ rest) = some (s, rest)) ∧
      '\n' ∉ (Json.quote s).toList ∧ '\r' ∉ (Json.quote s).toList) ∧
    (∀ abc s rest, Script.propertyValue? abc ((attributeLiteral s).toList ++ rest) =
      some (.literal s, rest)) ∧
    ∀ abc dialect block, ∃ component,
      Script.source? abc dialect ((Section.ofBlock block).elementSource dialect) =
        some [component] ∧
      component.lists.map Prod.snd = Json.arrays (Block.membersOf block.encode) ∧
      component.lists.Forall fun list =>
        mapSource dialect list.1 list.2 ∈
            (linesOfAll dialect 3 (Section.ofBlock block).components).map Line.text ∧
          Json.ofText list.2.compact = .ok list.2 := by
  refine ⟨fun s => ⟨?_, fun rest => ?_, Json.one_line_quote (.inl rfl) s,
    Json.one_line_quote (.inr rfl) s⟩, fun _ => Script.propertyValue?_attributeLiteral,
    fun _ dialect block => ⟨_, Section.source?_elementSource dialect block,
      Section.lists_element block, ?_⟩⟩
  · exact Json.ofText_compact (v := .string s) trivial (show 0 < 128 by decide)
  · rw [Json.quote, String.toList_ofList, Script.string?_quoteChars]
  · rw [List.forall_iff_forall_mem]
    intro list mem
    have saved : list.2 ∈ Json.arrays (Block.membersOf block.encode) :=
      Section.lists_element block ▸ List.mem_map_of_mem mem
    have inSection : list ∈ listsOfComponents (Section.ofBlock block).components := by
      rw [Section.components_eq]
      exact List.mem_append_left [] mem
    exact ⟨mapSource_mem_linesOfAll dialect _ 3 inSection, Block.ofText_array saved⟩

end PageBuilder
