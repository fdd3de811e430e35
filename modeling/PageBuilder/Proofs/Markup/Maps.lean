import PageBuilder.Proofs.Markup.Views
import PageBuilder.Proofs.Text.Addresses

set_option autoImplicit false

namespace PageBuilder

def Dom.frameSources : Dom.View String := fun tag attributes _ =>
  if tag = "iframe" then attributes.filterMap fun a => if a.name = "src" then a.value else none
  else []

namespace MapEmbed

open Address (Field isQueryChar)

variable (c : MapEmbed)

def fields : List Field :=
  [⟨"q", Text.percentEncode c.address⟩, ⟨"z", natText c.zoom.toNat⟩, ⟨"output", "embed"⟩]

theorem source_eq : c.source = Address.write "https://maps.google.com/maps" c.fields := by
  have start : "https://maps.google.com/maps?q=".toList =
      "https://maps.google.com/maps".toList ++ ['?', 'q', '='] := by simp
  have output : "&output=embed".toList = '&' :: ("output".toList ++ '=' :: "embed".toList) := by
    simp
  have letters : "q".toList = ['q'] ∧ "&z=".toList = ['&', 'z', '='] ∧ "z".toList = ['z'] := by
    simp
  refine String.toList_inj.1 ?_
  unfold source Address.write
  simp only [String.toList_append, String.toList_ofList, fields, Field.text,
    List.map_cons, List.map_nil, List.intercalate_cons_cons, List.intercalate_singleton, start,
    output, letters, List.append_assoc, List.cons_append, List.nil_append]

theorem isQueryChar_of_mem_natText {n : Nat} : ∀ c ∈ (natText n).toList, isQueryChar c := by
  intro c mem
  rw [natText, String.toList_ofList] at mem
  simp [isQueryChar, Char.isAlphanum, Json.isDigit_of_mem_digits mem]

theorem fields_plain : ∀ f ∈ c.fields, f.IsPlain := by
  have words : ∀ w ∈ ["q", "z", "output", "embed"], w.toList.all isQueryChar := by decide
  have word : ∀ w ∈ ["q", "z", "output", "embed"], ∀ c ∈ w.toList, isQueryChar c :=
    fun w mem => List.all_eq_true.1 (words w mem)
  have address : Field.IsPlain ⟨"q", Text.percentEncode c.address⟩ :=
    ⟨word "q" (by decide), Address.isQueryChar_of_mem_percentEncode⟩
  have zoom : Field.IsPlain ⟨"z", natText c.zoom.toNat⟩ :=
    ⟨word "z" (by decide), isQueryChar_of_mem_natText⟩
  have output : Field.IsPlain ⟨"output", "embed"⟩ :=
    ⟨word "output" (by decide), word "embed" (by decide)⟩
  simp only [fields, List.forall_mem_cons, List.not_mem_nil, false_implies, implies_true, and_true]
  exact ⟨address, zoom, output⟩

/-- The source of the frame is read as a request with the address as one of three parameters. -/
theorem read_source (plus : UInt8) : Address.read plus c.source =
    ⟨"https://maps.google.com/maps",
      [(Text.bytes "q", Text.bytes c.address), (Text.bytes "z", Text.bytes (natText c.zoom.toNat)),
        (Text.bytes "output", Text.bytes "embed")], none⟩ := by
  have digits : ∀ d ∈ (natText c.zoom.toNat).toList, d ≠ '%' ∧ d ≠ '+' := fun d mem => by
    rw [natText, String.toList_ofList] at mem
    have digit := Json.isDigit_of_mem_digits mem
    constructor <;> rintro rfl <;> cases digit
  have filled : c.fields ≠ [] := List.cons_ne_nil _ _
  rw [source_eq, Address.read_write (by simp) (by simp) filled c.fields_plain]
  simp only [fields, List.map_cons, List.map_nil, Address.decode_percentEncode,
    Address.decode_plain plus digits]
  rfl

def frame : Element :=
  Element.new "iframe" |>.attr "width" "100%" |>.attr "height" "100%" |>.attr "frameborder" "0"
    |>.attr "loading" "lazy" |>.attr "title" "Map" |>.attr "src" c.source

theorem shows_frame : (c.frame.unroll []).Shows Dom.frameSources [c.source] := by
  have shows : (c.frame.unroll []).Shows Dom.frameSources _ := Element.shows_empty rfl rfl
  have sources : Dom.frameSources c.frame.tag (c.frame.allAttributes []) [] = [c.source] := by
    simp [frame, Dom.frameSources, Element.allAttributes, Element.new, Element.attr, attributesOf,
      stylesOf, styleAttribute, Expr.eval, Attribute.ofValue?, Json.display]
  rwa [sources] at shows

theorem shows_root : (c.root.unroll []).Shows Dom.frameSources [c.source] := by
  have quiet : ∀ attributes nodes, Dom.frameSources "div" attributes nodes = [] := fun _ _ => rfl
  have frame : c.root.IsFrame := .child (.container _) rfl
  refine frame.shows_child quiet (by simp [Element.container]) (.singleton ?_)
  exact Element.IsFrame.shows_child (.child (.style (.classed rfl _) _ _) rfl) quiet (by simp)
    (.singleton c.shows_frame)

end MapEmbed

/--
The address of a map cannot alter the request of its frame. In the page of a document, the fragment
of a map block stands between those of the blocks around it. There is one frame in it, and its source
has the fixed place and just three parameters: the address and the zoom as they are, whatever the
address holds, and the fixed output.
-/
theorem MapEmbed.address_keeps_request (base : Base) (c : MapEmbed) {indent : Option String}
    (inertIndent : ∀ text ∈ indent, Reader.isInert text) (plus : UInt8) :
    let block : Block := ⟨base, .map c⟩
    let r : Rendering := .html indent
    (∀ (d : Document) (before after : List Block), d.blocks = before ++ block :: after →
      (Page.ofDocument d).html indent = r.opening d.settings ++ r.written before ++
        r.fragment block.appearance ++ r.written after ++ r.closing) ∧
    (Reader.read (r.fragment block.appearance)).map
        (fun nodes => (Dom.seenIn Dom.frameSources nodes).map (Address.read plus)) =
      some [⟨"https://maps.google.com/maps",
        [(Text.bytes "q", Text.bytes c.address), (Text.bytes "z", Text.bytes (natText c.zoom.toNat)),
          (Text.bytes "output", Text.bytes "embed")], none⟩] := by
  intro block r
  refine ⟨fun d before after blocks => r.output_around blocks, ?_⟩
  have seen := Section.seen_fragment block rfl inertIndent (fun _ _ => rfl) c.shows_root
  have request := c.read_source plus
  rw [← Function.comp_def (List.map (Address.read plus)), ← Option.map_map, seen, Option.map_some,
    List.map_singleton, request]

/-- An address that tries to end its parameter and to set the zoom does not. -/
theorem MapEmbed.hostile_address_keeps_request :
    let c : MapEmbed := { address := "a&z=1#\"\u00e9+%41", zoom := 3 }
    let block : Block := ⟨{}, .map c⟩
    let r : Rendering := .html (some "  ")
    (∀ text ∈ some "  ", Reader.isInert text) ∧
    (Page.ofDocument { blocks := [block] }).html (some "  ") =
      r.opening {} ++ r.fragment block.appearance ++ r.closing ∧
    (Reader.read (r.fragment block.appearance)).map
        (fun nodes => (Dom.seenIn Dom.frameSources nodes).map (Address.read 32)) =
      some [⟨"https://maps.google.com/maps",
        [(Text.bytes "q", Text.bytes "a&z=1#\"\u00e9+%41"), (Text.bytes "z", Text.bytes "3"),
          (Text.bytes "output", Text.bytes "embed")], none⟩] := by
  intro c block r
  have inertIndent : ∀ text ∈ some "  ", Reader.isInert text := by simp [Reader.isInert]
  have zoom : natText c.zoom.toNat = "3" := by decide
  obtain ⟨stands, request⟩ := MapEmbed.address_keeps_request {} c inertIndent 32
  have page := stands { blocks := [block] } [] [] rfl
  rw [Rendering.written_nil, String.append_empty, String.append_empty] at page
  exact ⟨inertIndent, page, zoom ▸ request⟩

end PageBuilder
