import Mathlib.Algebra.GroupWithZero.Nat
import PageBuilder.Artifact
import PageBuilder.Proofs.Markup.Tags
import PageBuilder.Proofs.Markup.Writer

set_option autoImplicit false

namespace PageBuilder

open Layout (lineStart lineEnd line deeper)
open Reader (isPlainName)
open Tags (Shows wordOf)

/-- An indentation that holds no tags. -/
def Layout.Calm (layout : Option Layout) : Prop := ∀ l ∈ layout, '<' ∉ l.indent.toList

namespace Layout

theorem Calm.deeper {layout : Option Layout} (calm : Calm layout) : Calm (deeper layout) := by
  rintro l deep
  obtain ⟨outer, found, rfl⟩ := Option.map_eq_some_iff.1 deep
  exact calm outer found

theorem Calm.lineStart {layout : Option Layout} (calm : Calm layout) :
    Shows ((lineStart layout).flatMap Piece.chars) [] 0 := by
  refine .calm fun h => ?_
  cases layout with
  | none => cases h
  | some l =>
    have indents : '<' ∈ (List.replicate l.depth l.indent).flatMap String.toList := by
      simpa [Layout.lineStart, Piece.chars, String.toList_join] using h
    obtain ⟨indent, repeated, mem⟩ := List.mem_flatMap.1 indents
    rw [List.eq_of_mem_replicate repeated] at mem
    exact calm l rfl mem

theorem shows_lineEnd (layout : Option Layout) :
    Shows ((lineEnd layout).flatMap Piece.chars) [] 0 := by
  cases layout with
  | none => exact .calm List.not_mem_nil
  | some l => exact .calm (show '<' ∉ ['\n'] by decide)

theorem Calm.line {layout : Option Layout} (calm : Calm layout) {pieces : List Piece}
    {words : List String} {loose : Nat} (inside : Shows (pieces.flatMap Piece.chars) words loose) :
    Shows ((line layout pieces).flatMap Piece.chars) words loose := by
  have shown := (calm.lineStart.append inside).append (shows_lineEnd layout)
  rwa [List.nil_append, Nat.zero_add, List.append_nil, Nat.add_zero, ← List.flatMap_append,
    ← List.flatMap_append] at shown

end Layout

namespace Markup

/-- The tags that nodes show, and the loose `<` in them, whatever the layout. -/
def Show (nodes : List Markup) (words : List String) (loose : Nat) : Prop :=
  ∀ layout, Layout.Calm layout →
    Shows ((piecesOfAll layout nodes).flatMap Piece.chars) words loose

theorem show_nil : Show [] [] 0 := fun _ _ => .calm List.not_mem_nil

theorem Show.append {nodes others : List Markup} {words more : List String} {loose left : Nat}
    (first : Show nodes words loose) (second : Show others more left) :
    Show (nodes ++ others) (words ++ more) (loose + left) := fun layout calm => by
  rw [piecesOfAll_append, List.flatMap_append]
  exact (first layout calm).append (second layout calm)

theorem show_singleton {node : Markup} {words : List String} {loose : Nat}
    (shown : ∀ layout, Layout.Calm layout →
      Shows ((node.pieces layout).flatMap Piece.chars) words loose) :
    Show [node] words loose := fun layout calm => by
  rw [piecesOfAll, piecesOfAll, List.append_nil]
  exact shown layout calm

theorem show_text (content : String) : Show [text content] [] 0 :=
  show_singleton fun layout calm => by
    rw [Markup.pieces]
    exact calm.line (.calm (by simpa [Piece.chars] using Tags.calm_text content))

theorem show_raw {content : String} {words : List String} {loose : Nat}
    (shown : Shows content.toList words loose) : Show [raw content] words loose :=
  show_singleton fun layout calm => by
    rw [Markup.pieces]
    exact calm.line (by simpa [Piece.chars] using shown)

theorem plain_styled {attributes : List Attribute} (plain : ∀ a ∈ attributes, isPlainName a.name)
    (styles : List Declaration) : ∀ a ∈ attributes ++ styleAttribute styles, isPlainName a.name :=
  List.forall_mem_append.2 ⟨plain, Reader.plain_styleAttribute⟩

variable {tag : String} {attributes : List Attribute} {styles : List Declaration}

theorem show_void (plainTag : isPlainName tag) (plain : ∀ a ∈ attributes, isPlainName a.name) :
    Show [element tag attributes styles .void] [wordOf tag.toList] 0 :=
  show_singleton fun layout calm => by
    rw [Markup.pieces, Body.pieces]
    refine calm.line ?_
    rw [List.flatMap_singleton]
    exact .opening plainTag (plain_styled plain styles)

def wrapped (tag : String) (words : List String) : List String :=
  wordOf tag.toList :: (words ++ [wordOf ('/' :: tag.toList)])

theorem shows_wrapped (plainTag : isPlainName tag) (plain : ∀ a ∈ attributes, isPlainName a.name)
    {inside : List Piece} {words : List String} {loose : Nat}
    (shown : Shows (inside.flatMap Piece.chars) words loose) :
    Shows ((Piece.opening tag (attributes ++ styleAttribute styles) ::
        (inside ++ [.closing tag])).flatMap Piece.chars) (wrapped tag words) loose := by
  have all := (Shows.opening plainTag (plain_styled plain styles)).append
    (shown.append (.closing plainTag))
  rw [Nat.zero_add, Nat.add_zero] at all
  rw [List.flatMap_cons, List.flatMap_append, List.flatMap_singleton]
  exact all

theorem show_inline (plainTag : isPlainName tag) (plain : ∀ a ∈ attributes, isPlainName a.name)
    {nodes : List Markup} {words : List String} {loose : Nat} (shown : Show nodes words loose) :
    Show [element tag attributes styles (.inline nodes)] (wrapped tag words) loose :=
  show_singleton fun layout calm => by
    have flat : Layout.Calm none := fun l h => nomatch h
    rw [Markup.pieces, Body.pieces]
    exact calm.line (shows_wrapped plainTag plain (shown none flat))

theorem show_block (plainTag : isPlainName tag) (plain : ∀ a ∈ attributes, isPlainName a.name)
    {nodes : List Markup} {words : List String} {loose : Nat} (shown : Show nodes words loose) :
    Show [element tag attributes styles (.block nodes)] (wrapped tag words) loose :=
  show_singleton fun layout calm => by
    have inside := ((Layout.shows_lineEnd layout).append (shown _ calm.deeper)).append
      calm.lineStart
    rw [List.nil_append, Nat.zero_add, List.append_nil, Nat.add_zero, ← List.flatMap_append,
      ← List.flatMap_append] at inside
    rw [Markup.pieces, Body.pieces]
    exact calm.line (shows_wrapped plainTag plain inside)

theorem shows_declarations {layout : Option Layout} (calm : Layout.Calm layout)
    {declarations : List Declaration} {words : Declaration → List String}
    {loose : Declaration → Nat}
    (shown : ∀ d ∈ declarations, Shows d.text.toList (words d) (loose d)) :
    Shows ((declarations.flatMap fun d => line layout [.raw d.text]).flatMap Piece.chars)
      (declarations.flatMap words) (declarations.map loose).sum := by
  induction declarations with
  | nil => exact .calm List.not_mem_nil
  | cons d declarations ih =>
    have first : Shows ([Piece.raw d.text].flatMap Piece.chars) (words d) (loose d) := by
      rw [List.flatMap_singleton]
      exact shown d List.mem_cons_self
    rw [List.flatMap_cons, List.flatMap_append]
    exact (calm.line first).append (ih fun e he => shown e (List.mem_cons_of_mem _ he))

theorem show_rule {selector : String} (calmSelector : '<' ∉ selector.toList)
    {declarations : List Declaration} {words : Declaration → List String}
    {loose : Declaration → Nat}
    (shown : ∀ d ∈ declarations, Shows d.text.toList (words d) (loose d)) :
    Show [rule selector declarations] (declarations.flatMap words) (declarations.map loose).sum :=
  show_singleton fun layout calm => by
    have opened : Shows ([Piece.raw (selector ++ " \x7b")].flatMap Piece.chars) [] 0 :=
      .calm (by simp [Piece.chars, calmSelector])
    have closed : Shows ([Piece.raw "\x7d"].flatMap Piece.chars) [] 0 :=
      .calm (by simp [Piece.chars])
    have all := ((calm.line opened).append (shows_declarations calm.deeper shown)).append
      (calm.line closed)
    rw [List.nil_append, List.append_nil, Nat.zero_add, Nat.add_zero] at all
    rw [Markup.pieces, List.flatMap_append, List.flatMap_append]
    exact all

def looseIn (declarations : List Declaration) : Nat :=
  (declarations.map fun d => d.2.toList.count '<').sum

theorem looseIn_eq_zero {declarations : List Declaration}
    (calm : ∀ d ∈ declarations, '<' ∉ d.2.toList) : looseIn declarations = 0 := by
  rw [looseIn, List.sum_eq_zero_iff_forall_eq_nat]
  rintro n hn
  obtain ⟨d, hd, rfl⟩ := List.mem_map.1 hn
  exact List.count_eq_zero.2 (calm d hd)

theorem shows_declaration {d : Declaration} (calm : '<' ∉ d.1.toList) {words : List String}
    {loose : Nat} (value : Shows d.2.toList words loose) : Shows d.text.toList words loose := by
  have before : Shows (d.1.toList ++ ": ".toList) [] 0 := .calm (by simp [calm])
  have all := (before.append value).append (.calm (by decide : '<' ∉ ";".toList))
  rw [List.nil_append, List.append_nil, Nat.zero_add, Nat.add_zero] at all
  simpa [Declaration.text] using all

theorem show_metadata {key : String} (plain : isPlainName key) (name content : String) :
    Show [.metadata key name content] [wordOf "meta".toList] 0 :=
  show_void (by decide) (by simp [plain, (by decide : isPlainName "content" = true)])

def tagsIfSet (content : String) : List String :=
  if content.isEmpty then [] else [wordOf "meta".toList]

theorem show_metadataIfSet {key : String} (plain : isPlainName key) (name content : String) :
    Show (metadataIfSet key name content) (tagsIfSet content) 0 := by
  unfold metadataIfSet tagsIfSet
  split
  · exact show_nil
  · exact show_metadata plain name content

theorem show_script (address : String) : Show [script address] (wrapped "script" []) 0 :=
  show_inline (by decide) (by simp [(by decide : isPlainName "src" = true)]) show_nil

theorem show_stylesheet (address : String) :
    Show [stylesheet address] [wordOf "link".toList] 0 :=
  show_void (by decide) (by
    simp [(by decide : isPlainName "rel" = true), (by decide : isPlainName "href" = true)])

theorem show_doctype : Show [raw "<!DOCTYPE html>"] [wordOf "!DOCTYPE".toList] 0 :=
  show_raw ⟨by decide, fun _ seen => by
    -- Where it is no tag, inside an element with text, the rest is text too.
    change Tags.State.run ⟨seen.enter (wordOf "!DOCTYPE".toList),
      if seen.accepts (wordOf "!DOCTYPE".toList) then .inside else .content⟩ "html>".toList = _
    split <;> rfl⟩

end Markup

namespace Settings

open Markup (Show wrapped tagsIfSet looseIn show_text show_raw show_void show_inline show_block)

/-- The tags of the metadata; which they are depends on the optional entries only. -/
def metadataTags (settings : Settings) : List String :=
  wordOf "meta".toList :: wordOf "meta".toList :: (wrapped "title" [] ++ [wordOf "meta".toList]) ++
    tagsIfSet settings.keywords ++ tagsIfSet settings.author ++ tagsIfSet settings.robots ++
    [wordOf "meta".toList, wordOf "meta".toList] ++ tagsIfSet settings.ogImage

theorem show_metadata (settings : Settings) :
    Show settings.metadata settings.metadataTags 0 := by
  have named : isPlainName "name" := by decide
  have property : isPlainName "property" := by decide
  have charset : Show [.element "meta" [⟨"charset", some "UTF-8"⟩] [] .void]
      [wordOf "meta".toList] 0 := show_void (by decide) (by decide)
  have title : Show [.element "title" [] [] (.inline [.text settings.title])]
      (wrapped "title" []) 0 := show_inline (by decide) (by decide) (show_text settings.title)
  have first := charset.append ((Markup.show_metadata named "viewport"
    "width=device-width, initial-scale=1.0").append
      (title.append (Markup.show_metadata named "description" settings.description)))
  have shared := (Markup.show_metadata property "og:title" settings.title).append
    (Markup.show_metadata property "og:description" settings.description)
  exact ((((first.append (Markup.show_metadataIfSet named "keywords" settings.keywords)).append
    (Markup.show_metadataIfSet named "author" settings.author)).append
    (Markup.show_metadataIfSet named "robots" settings.robots)).append shared).append
    (Markup.show_metadataIfSet property "og:image" settings.ogImage)

theorem show_resources (settings : Settings) :
    Show settings.resources
      (wrapped "script" [] ++ [wordOf "link".toList, wordOf "link".toList, wordOf "link".toList])
      0 :=
  (Markup.show_script _).append ((Markup.show_stylesheet _).append
    ((Markup.show_stylesheet _).append (Markup.show_stylesheet _)))

theorem calm_fontStack (settings : Settings) : '<' ∉ settings.fontStack.toList := by
  unfold fontStack
  cases settings.fontFamily <;> decide

theorem calm_palette (settings : Settings) : ∀ d ∈ settings.palette, '<' ∉ d.1.toList := by
  simp [palette]

theorem show_rules {settings : Settings} {words : Declaration → List String}
    {loose : Declaration → Nat}
    (shown : ∀ d ∈ settings.palette, Shows d.2.toList (words d) (loose d)) :
    Show settings.rules (settings.palette.flatMap words) (settings.palette.map loose).sum := by
  have palette := Markup.show_rule (by decide : '<' ∉ ":root".toList) fun d hd =>
    Markup.shows_declaration (settings.calm_palette d hd) (shown d hd)
  have body : Show [.raw ("body \x7b font-family: " ++ settings.fontStack ++
      "; background-color: var(--color-bg); color: var(--color-text); \x7d")] [] 0 :=
    show_raw (.calm (by simp [settings.calm_fontStack]))
  have icons : Show [.raw (".material-symbols-outlined \x7b font-variation-settings: " ++
      "'FILL' 0, 'wght' 400, 'GRAD' 0, 'opsz' 24; \x7d")] [] 0 := show_raw (.calm (by decide))
  have all := palette.append (body.append icons)
  rw [List.append_nil, List.append_nil] at all
  exact all

def pageTags (settings : Settings) (styled : List String) : List String :=
  wordOf "!DOCTYPE".toList :: wrapped "html" (wrapped "head" (settings.metadataTags ++
    (wrapped "script" [] ++ [wordOf "link".toList, wordOf "link".toList, wordOf "link".toList]) ++
    wrapped "style" styled) ++ wrapped "body" [])

theorem show_page {settings : Settings} {words : List String} {loose : Nat}
    (rules : Show settings.rules words loose) :
    Show (Page.markup ⟨settings, []⟩) (settings.pageTags words) loose := by
  have bare : ∀ a ∈ ([] : List Attribute), isPlainName a.name := by decide
  have style : Show [.element "style" [] [] (.block settings.rules)] _ _ :=
    show_block (by decide) bare rules
  have head : Show [settings.head] _ _ := show_block (by decide) bare
    ((settings.show_metadata.append settings.show_resources).append style)
  have body : Show [.element "body" [] [] (.block [])] (wrapped "body" []) 0 :=
    show_block (by decide) bare Markup.show_nil
  have root : Show [.element "html" [⟨"lang", some "en"⟩] []
      (.block ([settings.head] ++ [.element "body" [] [] (.block [])]))] _ _ :=
    show_block (by decide) (by decide) (head.append body)
  have all := Markup.show_doctype.append root
  rw [Nat.zero_add, Nat.zero_add, Nat.add_zero] at all
  exact all

def emptyPage (settings : Settings) (indent : Option String) : String :=
  (Page.ofDocument { settings }).html indent

theorem shows_emptyPage {settings : Settings} {words : Declaration → List String}
    {loose : Declaration → Nat}
    (shown : ∀ d ∈ settings.palette, Shows d.2.toList (words d) (loose d))
    {indent : Option String} (calm : ∀ i ∈ indent, '<' ∉ i.toList) :
    Shows (settings.emptyPage indent).toList
      (settings.pageTags (settings.palette.flatMap words)) (settings.palette.map loose).sum := by
  have layout : Layout.Calm (indent.map (⟨·, 0⟩)) := by
    intro l found
    obtain ⟨i, given, rfl⟩ := Option.map_eq_some_iff.1 found
    exact calm i given
  rw [emptyPage, Page.html_ofDocument, Piece.write, String.toList_ofList]
  exact show_page (show_rules shown) _ layout

/-- Without knowing more of the colors, each `<` in them is loose. -/
theorem shows_emptyPage_written (settings : Settings) {indent : Option String}
    (calm : ∀ i ∈ indent, '<' ∉ i.toList) :
    Shows (settings.emptyPage indent).toList (settings.pageTags []) (looseIn settings.palette) := by
  have colors : ∀ d ∈ settings.palette, Shows d.2.toList [] (d.2.toList.count '<') :=
    fun d _ => .written d.2.toList
  have shown := shows_emptyPage colors calm
  rwa [List.flatMap_eq_nil_iff.2 fun _ _ => rfl] at shown

theorem metadataTags_eq {s t : Settings} (keywords : s.keywords.isEmpty = t.keywords.isEmpty)
    (author : s.author.isEmpty = t.author.isEmpty) (robots : s.robots.isEmpty = t.robots.isEmpty)
    (image : s.ogImage.isEmpty = t.ogImage.isEmpty) : s.metadataTags = t.metadataTags := by
  unfold metadataTags tagsIfSet
  rw [keywords, author, robots, image]

/-- Settings that leave out the same entries give pages with the same number of `<`, exactly if
their colors hold the same number, and with the same tags, if their colors hold none. -/
theorem tags_of_empty_page {s t : Settings}
    (keywords : s.keywords.isEmpty = t.keywords.isEmpty)
    (author : s.author.isEmpty = t.author.isEmpty) (robots : s.robots.isEmpty = t.robots.isEmpty)
    (image : s.ogImage.isEmpty = t.ogImage.isEmpty) {indent : Option String}
    (calm : ∀ i ∈ indent, '<' ∉ i.toList) :
    ((s.emptyPage indent).toList.count '<' = (t.emptyPage indent).toList.count '<' ↔
        looseIn s.palette = looseIn t.palette) ∧
      ((∀ d ∈ s.palette ++ t.palette, '<' ∉ d.2.toList) →
        Tags.read (s.emptyPage indent) = Tags.read (t.emptyPage indent)) := by
  have same := metadataTags_eq keywords author robots image
  have first := s.shows_emptyPage_written calm
  have second := t.shows_emptyPage_written calm
  rw [pageTags, ← same] at second
  constructor
  · rw [first.count, second.count]
    exact Nat.add_left_cancel_iff
  · intro colors
    obtain ⟨calmS, calmT⟩ := List.forall_mem_append.1 colors
    rw [Markup.looseIn_eq_zero calmS] at first
    rw [Markup.looseIn_eq_zero calmT] at second
    rw [first.read_eq, second.read_eq]
    rfl

theorem calm_indent : ∀ i ∈ some Artifact.indent, '<' ∉ i.toList := by
  rintro i ⟨⟩
  decide

def plainTexts : Settings where
  ogImage := "image.png"

def hostileTexts : Settings where
  title := "</title><script>"
  description := "\"><script>"
  ogImage := "\"></head>"
  primaryColor := "red\x7d"

theorem tags_of_hostile_texts :
    (∀ i ∈ some Artifact.indent, '<' ∉ i.toList) ∧
      (∀ d ∈ plainTexts.palette ++ hostileTexts.palette, '<' ∉ d.2.toList) ∧
      Tags.read (plainTexts.emptyPage (some Artifact.indent)) =
        Tags.read (hostileTexts.emptyPage (some Artifact.indent)) := by
  have colors : ∀ d ∈ plainTexts.palette ++ hostileTexts.palette, '<' ∉ d.2.toList := by
    decide +kernel
  exact ⟨calm_indent, colors,
    (tags_of_empty_page (by decide) (by decide) (by decide) (by decide) calm_indent).2 colors⟩

def hostileColor : Settings where
  primaryColor := "red</style><script>alert(1)</script><style>"

def hostileTags : List String := ["/style", "script", "/script", "style"]

theorem shows_hostileColor : Shows hostileColor.primaryColor.toList hostileTags 0 := by
  have spelled : hostileColor.primaryColor.toList = "red".toList ++
      ((Piece.closing "style").chars ++ ((Piece.opening "script" []).chars ++
        ("alert(1)".toList ++ ((Piece.closing "script").chars ++
          (Piece.opening "style" []).chars)))) := by decide +kernel
  have bare : ∀ a ∈ ([] : List Attribute), isPlainName a.name := by decide
  rw [spelled]
  exact (Shows.calm (by decide)).append ((Shows.closing (by decide)).append
    ((Shows.opening (by decide) bare).append ((Shows.calm (by decide)).append
      ((Shows.closing (by decide)).append (Shows.opening (by decide) bare)))))

theorem shows_hostilePalette : ∀ d ∈ hostileColor.palette,
    Shows d.2.toList (if d.1 = "--color-primary" then hostileTags else []) 0 := by
  have primary : ∀ d ∈ hostileColor.palette, d.1 = "--color-primary" →
    d.2 = hostileColor.primaryColor := by decide +kernel
  have others : ∀ d ∈ hostileColor.palette, d.1 ≠ "--color-primary" → '<' ∉ d.2.toList := by
    decide +kernel
  intro d hd
  split
  · next named =>
    rw [primary d hd named]
    exact shows_hostileColor
  · next named => exact .calm (others d hd named)

/-- The tags in the color become tags of the page. -/
theorem hostileColor_adds_tags :
    (hostileColor.fontFamily = ({} : Settings).fontFamily ∧
      hostileColor.keywords.isEmpty = ({} : Settings).keywords.isEmpty ∧
      hostileColor.author.isEmpty = ({} : Settings).author.isEmpty ∧
      hostileColor.robots.isEmpty = ({} : Settings).robots.isEmpty ∧
      hostileColor.ogImage.isEmpty = ({} : Settings).ogImage.isEmpty) ∧
    Tags.read (hostileColor.emptyPage (some Artifact.indent)) ≠
      Tags.read (({} : Settings).emptyPage (some Artifact.indent)) := by
  have calmColors : ∀ d ∈ ({} : Settings).palette, '<' ∉ d.2.toList := by decide +kernel
  have hostile := (shows_emptyPage shows_hostilePalette calm_indent).read_eq
  have plain := (shows_emptyPage (fun d hd => Shows.calm (calmColors d hd)) calm_indent).read_eq
  refine ⟨by decide, ?_⟩
  rw [hostile, plain]
  decide +kernel

end Settings
end PageBuilder
