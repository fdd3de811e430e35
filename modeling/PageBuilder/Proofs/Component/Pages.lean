import PageBuilder.Proofs.Component.Sources
import PageBuilder.Proofs.Markup.Fragments

set_option autoImplicit false

namespace PageBuilder

open Script
open Rendering (layoutAt)

variable {abc : Alphabet}

def Page.sectionLines (dialect : Dialect) (page : Page) : List Line :=
  page.sections.flatMap fun s => linesOfAll dialect 3 s.components

theorem Section.lines_components (dialect : Dialect) (block : Block) :
    linesOfAll dialect 3 (ofBlock block).components =
      (Component.comment block.content.tag).lines dialect 3 ++
        (ofBlock block).element.component.lines dialect 3 := by
  rw [components_eq, linesOfAll, linesOfAll, linesOfAll, List.append_nil]
  rfl

theorem nodes?_element {dialect : Dialect} (block : Block) {text rest : List Char}
    {nodes : List Component} (read : nodes? abc dialect text = some (nodes, rest)) :
    nodes? abc dialect
        (following ((Section.ofBlock block).element.component.lines dialect 3) ++ text) =
      some ((Section.ofBlock block).element.component :: nodes, rest) := by
  have element : node? abc dialect _ = some ((Section.ofBlock block).element.component, text) :=
    node?_lines _ (Section.element_readable block) 3 text
  exact nodes?_cons (nodeGap?_following (lines_ne_nil _ 3) (begins_of_node? element).1) element read

/-- The elements of sections are read one by one, across the comments between them. -/
theorem nodes?_sectionLines {dialect : Dialect} (settings : Settings) {blocks : List Block}
    (unnested : ∀ block ∈ blocks, ¬NestsCommentEnd block.content.tag.toList)
    {ending after : List Char} (ends : EndsNodes ending after) :
    nodes? abc dialect
        (following ((Page.mk settings (blocks.map .ofBlock)).sectionLines dialect) ++ ending) =
      some (blocks.map fun block => (Section.ofBlock block).element.component, after) := by
  rw [Page.sectionLines, List.flatMap_map]
  induction blocks with
  | nil => exact nodes?_nil ends
  | cons block blocks ih =>
    obtain ⟨first, others⟩ := List.forall_mem_cons.1 unnested
    rw [List.flatMap_cons, Section.lines_components, following_append, following_append,
      List.append_assoc, List.append_assoc, nodes?_commentLine first]
    exact nodes?_element block (ih others)

namespace Page

def root (settings : Settings) (nodes : List Component) : Component :=
  .element "div" [("className", .literal "min-h-screen")] (rootStyle settings) (insideOf nodes)

theorem rootStyle_readable (settings : Settings) :
    ∀ s ∈ rootStyle settings, EntryReadable abc s := by
  intro s mem
  obtain ⟨d, known, rfl⟩ := List.mem_map.1 mem
  refine ⟨?_, rfl⟩
  rcases List.mem_append.1 known with custom | plain
  · left
    have colors : ∀ d ∈ settings.palette, isCustomProperty d.1 := by
      simp [Settings.palette, isCustomProperty]
    exact colors d custom
  · right
    have names : ∀ name ∈ ["backgroundColor", "color", "fontFamily"],
        Alphabet.latin.isName name := by decide
    exact Alphabet.isName_of_latin (names d.1 (List.mem_map_of_mem plain))

theorem rootSource_text (dialect : Dialect) (settings : Settings) (text : List Char) :
    (rootSource dialect settings).toList ++ text = '<' :: ("div".toList ++ ((String.join
      ([("className", Expr.literal "min-h-screen")].map propertySource)).toList ++
        ((styleSource (styleCast dialect) (rootStyle settings)).toList ++ '>' :: text))) := by
  have source : rootSource dialect settings = "<div className=\"min-h-screen\"" ++
      styleSource (styleCast dialect) (rootStyle settings) ++ ">" := rfl
  have property : propertySource ("className", .literal "min-h-screen") =
      " className=\"min-h-screen\"" := rfl
  rw [source, List.map_singleton, property]
  simp

theorem node?_root {dialect : Dialect} (settings : Settings) {text rest : List Char}
    {nodes : List Component}
    (read : nodes? abc dialect text = some (nodes, (closingSource "div").toList ++ rest)) :
    node? abc dialect ((rootSource dialect settings).toList ++ text) =
      some (root settings nodes, rest) := by
  have known : isTag abc "div" := isTag_of_mem (by decide)
  have named : ∀ p ∈ [("className", Expr.literal "min-h-screen")], PropertyReadable abc p := by
    rw [List.forall_mem_singleton]
    exact ⟨Alphabet.isName_of_latin (by decide : Alphabet.latin.isName "className"), by decide,
      by decide, rfl⟩
  rw [rootSource_text]
  exact node?_tag (.inr rfl) known named (rootStyle_readable settings) ⟨rfl, rfl⟩
    (Alphabet.stops_part (by decide) (by decide) _) (opening?_end text) (inside?_nodes read)

end Page

theorem declaration?_header (dialect : Dialect) (rest : List Char) :
    declaration? abc dialect ((Page.header dialect).toList ++ rest) = some ("Page", rest) := by
  have valid : abc.isName "Page" :=
    Alphabet.isName_of_latin (by decide : Alphabet.latin.isName "Page")
  have const : ∀ text, after? "const " ("const ".toList ++ text) = some text := after?_append "const "
  have colon : ∀ text, token? ":" (':' :: text) = some text := after?_append ":"
  have type : ∀ text, token? "React.FC" (' ' :: ("React.FC".toList ++ text)) = some text :=
    after?_append "React.FC"
  have equal : ∀ text, token? "=" (' ' :: '=' :: text) = some text := after?_append "="
  have parameters : ∀ text, token? "()" (' ' :: '(' :: ')' :: text) = some text := after?_append "()"
  have arrow : ∀ text, token? "=>" (' ' :: '=' :: '>' :: text) = some text := after?_append "=>"
  have body : ∀ text, token? "\x7b" (' ' :: '\x7b' :: text) = some text := after?_append "\x7b"
  cases dialect with
  | typed =>
    have spelled : (Page.header .typed).toList ++ rest = "const ".toList ++ ("Page".toList ++ ':' ::
        ' ' :: ("React.FC".toList ++ ' ' :: '=' :: ' ' :: '(' :: ')' :: ' ' :: '=' :: '>' ::
          ' ' :: '\x7b' :: rest)) := rfl
    rw [spelled, declaration?, const, Option.bind_eq_bind, Option.bind_some,
      name?_append valid (Alphabet.stops_part (by decide) (by decide) _)]
    simp only [Option.bind_eq_bind, Option.bind_some, colon, type, equal, parameters, arrow, body]
    rfl
  | untyped =>
    have spelled : (Page.header .untyped).toList ++ rest = "const ".toList ++ ("Page".toList ++
        ' ' :: '=' :: ' ' :: '(' :: ')' :: ' ' :: '=' :: '>' :: ' ' :: '\x7b' :: rest) := rfl
    rw [spelled, declaration?, const, Option.bind_eq_bind, Option.bind_some,
      name?_append valid (Alphabet.stops_part (by decide) (by decide) _)]
    simp only [Option.bind_eq_bind, Option.bind_some, equal, parameters, arrow, body]
    rfl

def sourceEnd : List Char :=
  '\n' :: (indentation 1 ++ (");\n\x7d;\n\nexport default ".toList ++
    ("Page".toList ++ ";\n".toList)))

theorem Page.component_text (dialect : Dialect) (page : Page) :
    (page.component dialect).toList = "import React from \"react\";".toList ++ '\n' :: '\n' ::
      ((header dialect).toList ++ '\n' :: (indentation 1 ++ ("return".toList ++ ' ' :: '(' :: '\n' ::
        (indentation 2 ++ ((rootSource dialect page.settings).toList ++
          (following (page.sectionLines dialect) ++ '\n' :: (indentation 2 ++
            ((closingSource "div").toList ++ sourceEnd)))))))) := by
  rw [component_eq]
  refine (List.cons_inj_right '\n').1 ((following_write (page.lines dialect)).trans ?_)
  have margin : indentation 0 = [] := rfl
  have none : following [] = [] := rfl
  rw [lines, following_append, following_append]
  simp only [following_cons, margin, none, sourceEnd, sectionLines]
  simp

theorem exported?_sourceEnd : exported? sourceEnd = some ("Page".toList ++ ";\n".toList) := rfl

/-- The source of a page is read as a component if its sections are read as nodes. -/
theorem Page.component?_component {dialect : Dialect} {page : Page} {nodes : List Component}
    (read : ∀ {ending after}, EndsNodes ending after →
      nodes? abc dialect (following (page.sectionLines dialect) ++ ending) = some (nodes, after)) :
    component? abc dialect (page.component dialect) = some (root page.settings nodes) := by
  have valid : abc.isName "Page" :=
    Alphabet.isName_of_latin (by decide : Alphabet.latin.isName "Page")
  have imports : ∀ text, after? "import React from \"react\";"
      ("import React from \"react\";".toList ++ text) = some text := after?_append _
  have header : ∀ text, skipGap ((header dialect).toList ++ text) =
      (header dialect).toList ++ text := by
    intro text
    refine skipGap_of_stops ?_
    cases dialect <;> exact (stops_cons _ 'c' _).2 rfl
  have word : ∀ text, token? "return" ('\n' :: (indentation 1 ++ ("return".toList ++ text))) =
      some text := fun text => token?_line 1 ((stops_cons _ 'r' _).2 rfl)
  have opening : ∀ text, token? "(" (' ' :: '(' :: text) = some text := after?_append "("
  have start : ∀ text, skipGap ('\n' :: (indentation 2 ++
      ((rootSource dialect page.settings).toList ++ text))) =
        (rootSource dialect page.settings).toList ++ text := by
    intro text
    rw [skipGap_line, skipGap_indentation, rootSource_text]
    exact skipGap_of_stops ((stops_cons _ '<' _).2 rfl)
  have ends : EndsNodes ('\n' :: (indentation 2 ++ ((closingSource "div").toList ++ sourceEnd)))
      ((closingSource "div").toList ++ sourceEnd) := endsNodes_line 2 _
  have exported : name? abc ("Page".toList ++ ";\n".toList) = some ("Page", ";\n".toList) :=
    name?_append valid (Alphabet.stops_part (by decide) (by decide) _)
  rw [component?, component_text, imports]
  simp only [Option.bind_eq_bind, Option.bind_some, skipGap_line, header, declaration?_header,
    word, opening, start, node?_root page.settings (read ends), exported?_sourceEnd, exported]
  rfl

theorem Script.eq_of_textsOfAll? {nodes : List Component} {texts : List Expr}
    (found : textsOfAll? nodes = some texts) : nodes = texts.map .text := by
  induction nodes generalizing texts with
  | nil =>
    cases found
    rfl
  | cons node nodes ih =>
    cases node with
    | text e =>
      obtain ⟨rest, foundRest, rfl⟩ := Option.map_eq_some_iff.1 found
      rw [List.map_cons, ← ih foundRest]
    | _ => cases found

theorem render?_insideOf (env : Environment) (nodes : List Component) :
    (insideOf nodes).render? env false = renderAll? env nodes := by
  unfold insideOf
  split
  · rename_i texts found
    have nodes : componentsOf (texts.map Node.text) = texts.map .text := by
      clear found
      induction texts with
      | nil => rfl
      | cons e texts ih => rw [List.map_cons, componentsOf, ih, Node.component, List.map_cons]
    rw [eq_of_textsOfAll? found, render?_line, nodes]
  · rw [Inside.render?, if_neg Bool.false_ne_true]

theorem Rendered.valued_eq_flatMap (styles : List Declaration) :
    valued styles = styles.flatMap fun d => valued [d] := by
  induction styles with
  | nil => rfl
  | cons d styles ih =>
    rw [List.flatMap_cons, ← ih, valued, valued, valued, ← List.filter_append,
      List.singleton_append]

theorem entries?_literals {styles : List Declaration} (distinct : (styles.map Prod.fst).Nodup)
    (undone : ∀ d ∈ styles, cssName (styleKey d.1) = d.1) (env : Environment) :
    entries? env Value.declarations? (styles.map fun d => (styleKey d.1, .literal d.2)) =
      some (Rendered.valued styles) := by
  have named : ((styles.map fun d => (d.1, Expr.literal d.2)).map Prod.fst).Nodup := by
    rw [List.map_map]
    exact distinct
  have back : ∀ a ∈ styles.map fun d => (d.1, Expr.literal d.2), cssName (styleKey a.1) = a.1 :=
    List.forall_mem_map.2 undone
  have makes : ∀ a ∈ styles.map fun d => (d.1, Expr.literal d.2),
      (a.2.run? env).bind (Value.declarations? (styleKey a.1)) =
        some (Rendered.valued [(a.1, a.2.display [])]) := by
    refine List.forall_mem_map.2 fun d mem => ?_
    have made : ((Expr.literal d.2).run? env).bind (Value.declarations? (styleKey d.1)) =
        some (if d.2.isEmpty then [] else [(cssName (styleKey d.1), d.2)]) := rfl
    have text : (Expr.literal d.2).display [] = d.2 := rfl
    rw [made, undone d mem, text, Rendered.valued]
    cases empty : d.2.isEmpty <;> simp [empty]
  have all := entries?_eq named back makes
  rw [List.map_map, List.flatMap_map] at all
  rw [Rendered.valued_eq_flatMap]
  exact all

namespace Page

def rootDeclarations (settings : Settings) : List Declaration :=
  settings.palette ++ [("background-color", "var(--color-bg)"), ("color", "var(--color-text)"),
    ("font-family", settings.fontStack)]

theorem entries?_rootStyle (settings : Settings) :
    entries? [] Value.declarations? (rootStyle settings) =
      some (Rendered.valued (rootDeclarations settings)) := by
  have literals : rootStyle settings =
      (rootDeclarations settings).map fun d => (styleKey d.1, .literal d.2) := by
    simp [rootStyle, rootDeclarations, Settings.palette, styleKey, isCustomProperty, camelCase]
  have names : (rootDeclarations settings).map Prod.fst = (rootDeclarations {}).map Prod.fst := rfl
  have undone : ∀ name ∈ (rootDeclarations {}).map Prod.fst, cssName (styleKey name) = name := by
    decide
  rw [literals]
  refine entries?_literals ?_ (fun d mem => undone d.1 (names ▸ List.mem_map_of_mem mem)) []
  rw [names]
  decide

def rendered (settings : Settings) (inside : List Rendered) : Rendered :=
  .element "div" [⟨"class", some "min-h-screen"⟩] (Rendered.valued (rootDeclarations settings))
    inside

theorem render?_root (settings : Settings) {nodes : List Component} {inside : List Rendered}
    (render : renderAll? [] nodes = some inside) :
    (root settings nodes).render? [] = some [rendered settings inside] := by
  have named : entries? [] Value.attributes? [("className", .literal "min-h-screen")] =
      some [⟨"class", some "min-h-screen"⟩] := by decide
  have filled : isVoidTag "div" = false := rfl
  rw [root, Component.render?, named, entries?_rootStyle, filled, render?_insideOf, render]
  rfl

end Page

/--
Both outputs of a document describe the same trees, section by section. The standalone document has
the markup of the sections in their order between what stands before and after them. What the source
of the element of a section renders, in either dialect, is what its markup describes; and if no tag
has an end of a comment nested in it, the whole source renders one element around these trees.
-/
theorem Page.sources_render_markup (abc : Alphabet) (dialect : Dialect) (indent : Option String)
    (document : Document) :
    let page := Page.ofDocument document
    page.html indent = (Rendering.html indent).opening document.settings ++
        String.join (page.sections.map fun s =>
          Piece.write (s.markup.pieces (layoutAt indent 2))) ++
        (Rendering.html indent).closing ∧
      page.sections.mapM (fun s =>
        (source? abc dialect (s.elementSource dialect)).bind (renderAll? [])) =
          some (page.sections.map fun s => [Rendered.ofMarkup s.markup]) ∧
      ((∀ block ∈ document.blocks, ¬NestsCommentEnd block.content.tag.toList) →
        (component? abc dialect (page.component dialect)).bind (Component.render? []) =
          some [rendered document.settings
            (page.sections.map fun s => Rendered.ofMarkup s.markup)]) := by
  refine ⟨?_, mapM_eq_some_map fun s mem => ?_, fun unnested => ?_⟩
  · rw [Rendering.html_eq, Rendering.written, Page.ofDocument, List.map_map]
    rfl
  · obtain ⟨block, _, rfl⟩ := List.mem_map.1 mem
    rw [Section.source?_elementSource dialect block, Option.bind_some]
    exact Section.renderAll?_components [block]
  · have read : component? abc dialect ((ofDocument document).component dialect) =
        some (root document.settings _) :=
      component?_component fun ends => nodes?_sectionLines document.settings unnested ends
    have trees := render?_root document.settings (Section.renderAll?_components document.blocks)
    rw [read, Option.bind_some, trees, ofDocument, List.map_map]
    rfl

theorem Page.source_of_templates_renders :
    let document : Document :=
      { blocks := ⟨{}, .unsupported "*/*//"⟩ :: BlockKind.all.map BlockKind.template }
    let page := Page.ofDocument document
    (∀ block ∈ document.blocks, ¬NestsCommentEnd block.content.tag.toList) ∧
      (component? .western .typed (page.component .typed)).bind (Component.render? []) =
        some [rendered document.settings
          (page.sections.map fun s => Rendered.ofMarkup s.markup)] := by
  intro document page
  have unnested : ∀ block ∈ document.blocks, ¬NestsCommentEnd block.content.tag.toList := by
    decide +kernel
  exact ⟨unnested, (sources_render_markup .western .typed none document).2.2 unnested⟩

def elementTag : String := "**//\x7d<b />\x7b/*"

theorem nodes?_elementTag {dialect : Dialect} {text rest : List Char} {nodes : List Component}
    (read : nodes? abc dialect text = some (nodes, rest)) :
    nodes? abc dialect (following ((Component.comment elementTag).lines dialect 3) ++ text) =
      some (.element "b" [] [] .none :: nodes, rest) := by
  have spelled : commentSource elementTag = "\x7b/* */\x7d<b />\x7b/* */\x7d" := by decide +kernel
  have line : following ((Component.comment elementTag).lines dialect 3) ++ text =
      '\n' :: (indentation 3 ++ ("\x7b/* */".toList ++ '\x7d' ::
        ((openingSource "b" [] [] ++ " />").toList ++
          ("\x7b/* */".toList ++ '\x7d' :: text)))) := by
    rw [Component.lines, spelled]
    simp [following, openingSource, styleSource]
  have empty : ∀ rest, comment? ("\x7b/* */".toList ++ '\x7d' :: rest) = some ('\x7d' :: rest) :=
    fun _ => rfl
  have solid : ∀ rest, Stops isGap ("\x7b/* */".toList ++ rest) :=
    fun _ => (stops_cons _ '\x7b' _).2 rfl
  have element : node? abc dialect _ = some (.element "b" [] [] .none, _) :=
    node?_empty (isTag_of_latin (by decide)) (List.forall_mem_nil _) (List.forall_mem_nil _)
      ("\x7b/* */".toList ++ '\x7d' :: text)
  have tail : nodes? abc dialect ("\x7b/* */".toList ++ '\x7d' :: text) = some (nodes, rest) := by
    rw [nodes?_after_comment (nodeGap?_solid (solid _)) (empty _), read]
  rw [line, nodes?_after_comment (nodeGap?_line 3 (solid _)) (empty _)]
  exact nodes?_cons (nodeGap?_solid (begins_of_node? element).1) element tail

/-- What is left of the tag ends the comment, and an element stands outside of it. -/
theorem Page.nestedTag_adds_element :
    let document : Document := { blocks := [⟨{}, .unsupported elementTag⟩] }
    let page := Page.ofDocument document
    let trees := page.sections.map fun s => Rendered.ofMarkup s.markup
    let source := page.component .typed
    (component? .western .typed source).bind (Component.render? []) =
        some [rendered document.settings (.element "b" [] [] [] :: trees)] ∧
      ¬(component? .western .typed source).bind (Component.render? []) =
        some [rendered document.settings trees] := by
  intro document page trees source
  let block : Block := ⟨{}, .unsupported elementTag⟩
  have read : component? .western .typed source = some (root document.settings
      [.element "b" [] [] .none, (Section.ofBlock block).element.component]) := by
    refine component?_component fun ends => ?_
    have lines : page.sectionLines .typed = (Component.comment elementTag).lines .typed 3 ++
        (Section.ofBlock block).element.component.lines .typed 3 :=
      (List.append_nil _).trans (Section.lines_components .typed block)
    rw [lines, following_append, List.append_assoc]
    exact nodes?_elementTag (nodes?_element block (nodes?_nil ends))
  have render : renderAll? [] [.element "b" [] [] .none,
      (Section.ofBlock block).element.component] = some (.element "b" [] [] [] :: trees) := by
    have tree : renderAll? [] [(Section.ofBlock block).element.component] = some trees :=
      Section.renderAll?_components [block]
    rw [renderAll?, tree]
    rfl
  rw [read, Option.bind_some, render?_root _ render]
  refine ⟨rfl, fun same => ?_⟩
  cases same

end PageBuilder
