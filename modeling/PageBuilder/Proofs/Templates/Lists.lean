import PageBuilder.Page.OfDocument
import PageBuilder.Proofs.Saving.Blocks
import PageBuilder.Proofs.Templates.Fits

set_option autoImplicit false

namespace PageBuilder

open Json (Codec)

def Items.literal? : Items → Option Json
  | .inline v => some v
  | .of _ | .range _ => none

mutual

/-- The bindings of repetitions over written lists, with the lists. -/
def Element.lists : Element → List (String × Json)
  | { markup := some _, .. } => []
  | { markup := none, children, .. } => listsOfAll children

def Node.lists : Node → List (String × Json)
  | .element e => e.lists
  | .text _ => []
  | .repeat binding items body => (items.literal?.map (binding, ·)).toList ++ listsOfAll body
  | .choice _ yes no => listsOfAll yes ++ listsOfAll no

def listsOfAll : List Node → List (String × Json)
  | [] => []
  | node :: rest => node.lists ++ listsOfAll rest

end

-- The equations are rewritten with: where they hold by definition, a root is evaluated with them.

@[simp]
theorem listsOfAll_nil : listsOfAll [] = [] := by
  rw [listsOfAll]

@[simp]
theorem listsOfAll_cons (node : Node) (nodes : List Node) :
    listsOfAll (node :: nodes) = node.lists ++ listsOfAll nodes := by
  rw [listsOfAll]

@[simp]
theorem listsOfAll_append (nodes others : List Node) :
    listsOfAll (nodes ++ others) = listsOfAll nodes ++ listsOfAll others := by
  induction nodes with
  | nil => rfl
  | cons node nodes ih => rw [List.cons_append, listsOfAll_cons, listsOfAll_cons, ih,
      List.append_assoc]

namespace Node

@[simp]
theorem lists_element (e : Element) : (element e).lists = e.lists := by
  rw [lists]

@[simp]
theorem lists_text (value : Expr) : (text value).lists = [] := by
  rw [lists]

@[simp]
theorem lists_each {α : Type} [Codec α] (binding : String) (list : List α) (body : Element) :
    (Node.each binding list body).lists = (binding, (Codec.encode list).sorted) :: body.lists := by
  simp [each, Node.lists, Items.ofList, Items.literal?]

@[simp]
theorem lists_repeat_of (binding : String) (list : Expr) (body : List Node) :
    (Node.repeat binding (.of list) body).lists = listsOfAll body := by
  simp [Node.lists, Items.literal?]

@[simp]
theorem lists_repeat_range (binding : String) (count : Nat) (body : List Node) :
    (Node.repeat binding (.range count) body).lists = listsOfAll body := by
  simp [Node.lists, Items.literal?]

@[simp]
theorem lists_choice (condition : Expr) (yes no : List Node) :
    (choice condition yes no).lists = listsOfAll yes ++ listsOfAll no := by
  rw [lists]

end Node

namespace Element

theorem lists_of_unmarked {e : Element} (unmarked : e.markup = none) :
    e.lists = listsOfAll e.children := by
  cases e
  cases unmarked
  rfl

@[simp]
theorem lists_new (tag : String) : (new tag).lists = [] := by
  rw [new, lists, listsOfAll_nil]

@[simp]
theorem lists_attr (e : Element) (name : String) (value : Expr) :
    (e.attr name value).lists = e.lists := by
  obtain ⟨_, _, _, _ | _, _⟩ := e <;> rfl

@[simp]
theorem lists_style (e : Element) (property : String) (value : Expr) :
    (e.style property value).lists = e.lists := by
  obtain ⟨_, _, _, _ | _, _⟩ := e <;> rfl

@[simp]
theorem lists_html (e : Element) (value : Expr) : (e.html value).lists = [] := by
  rw [html, lists]

@[simp]
theorem lists_append {e : Element} (unmarked : e.markup = none) (nodes : List Node) :
    (e.append nodes).lists = e.lists ++ listsOfAll nodes := by
  rw [lists_of_unmarked unmarked, lists_of_unmarked (by simp [unmarked]), append,
    listsOfAll_append]

@[simp]
theorem lists_child {e : Element} (unmarked : e.markup = none) (node : Node) :
    (e.child node).lists = e.lists ++ node.lists := by
  change (e.append [node]).lists = _
  rw [lists_append unmarked, listsOfAll_cons, listsOfAll_nil, List.append_nil]

@[simp]
theorem lists_text {e : Element} (unmarked : e.markup = none) (value : Expr) :
    (e.text value).lists = e.lists := by
  rw [text, lists_child unmarked, Node.lists_text, List.append_nil]

@[simp]
theorem lists_classed (tag classes : String) : (classed tag classes).lists = [] := by
  unfold classed
  rcases withClass_eq (new tag) classes with same | ⟨c, same⟩ <;> rw [same] <;> simp

@[simp]
theorem container_markup (classes : String) : (container classes).markup = none := by
  simp [container]

@[simp]
theorem lists_container (classes : String) : (container classes).lists = [] := lists_classed _ _

@[simp]
theorem lists_colored (tag classes : String) (color value : Expr) :
    (colored tag classes color value).lists = [] := by
  simp [colored]

@[simp]
theorem colored_markup (tag classes : String) (color value : Expr) :
    (colored tag classes color value).markup = none := by
  simp [colored]

@[simp]
theorem lists_picture (classes : String) (source alt : Expr) :
    (picture classes source alt).lists = [] := by
  simp [picture]

@[simp]
theorem lists_symbol (classes : String) (name : Expr) : (symbol classes name).lists = [] := by
  simp [symbol]

@[simp]
theorem lists_filledLink (classes : String) (address background color value : Expr) :
    (filledLink classes address background color value).lists = [] := by
  simp [filledLink]

end Element

theorem Navigation.root_lists (c : Navigation) :
    c.root.lists = [("link", (Codec.encode c.links).sorted)] := by
  have logo : c.logo.lists = [] := by
    unfold logo
    split <;> simp
  have button : listsOfAll c.button = [] := by
    unfold button
    split <;> simp
  unfold root
  split <;> simp [linkList, logo, button]

theorem Hero.root_lists (c : Hero) : c.root.lists = [] := by
  have first : listsOfAll c.firstButton = [] := by
    unfold firstButton
    split <;> simp
  have second : listsOfAll c.secondButton = [] := by
    unfold secondButton
    split <;> simp
  simp [root, first, second]

theorem Features.root_lists (c : Features) :
    c.root.lists = [("feature", (Codec.encode c.features).sorted)] := by
  simp [root, card]

theorem CallToAction.root_lists (c : CallToAction) : c.root.lists = [] := by
  have button : listsOfAll c.button = [] := by
    unfold button
    split <;> simp
  have overlay : listsOfAll c.overlay = [] := by
    unfold overlay
    split <;> simp
  simp [root, button, overlay]

theorem Footer.root_lists (c : Footer) :
    c.root.lists = [("social", (Codec.encode c.socialLinks).sorted)] := by
  simp [root]

theorem Split.root_lists (c : Split) : c.root.lists = [] := by
  simp [root]

theorem MapEmbed.root_lists (c : MapEmbed) : c.root.lists = [] := by
  simp [root]

theorem ContactForm.root_lists (c : ContactForm) (background : Background) :
    (c.root background).lists = [("field", (Codec.encode c.fields).sorted)] := by
  simp [root, field, area, input, dressed, submit]

theorem Picture.root_lists (c : Picture) : c.root.lists = [] := by
  have image : c.image.lists = [] := by
    unfold image
    split <;> simp
  have caption : listsOfAll c.captionLine = [] := by
    unfold captionLine
    split <;> simp
  simp [root, image, caption]

theorem Prose.root_lists (c : Prose) : c.root.lists = [] := by
  simp [root]

theorem ButtonLink.root_lists (c : ButtonLink) : c.root.lists = [] := by
  simp [root]

theorem Divider.root_lists (c : Divider) : c.root.lists = [] := by
  have line : listsOfAll c.line = [] := by
    unfold line
    split <;> simp
  simp [root, line]

theorem Pricing.root_lists (c : Pricing) :
    c.root.lists = [("plan", (Codec.encode c.plans).sorted)] := by
  simp [root, card, badge, feature, link]

theorem Testimonials.root_lists (c : Testimonials) :
    c.root.lists = [("item", (Codec.encode c.items).sorted)] := by
  simp [root, card, star, avatar]

theorem Team.root_lists (c : Team) :
    c.root.lists = [("member", (Codec.encode c.members).sorted)] := by
  simp [root, card]

theorem Faq.root_lists (c : Faq) : c.root.lists = [("item", (Codec.encode c.items).sorted)] := by
  simp [root, entry]

theorem Content.placeholder_lists (tag : String) : (placeholder tag).lists = [] := by
  simp [placeholder]

def Json.isArray : Json → Bool
  | .array _ => true
  | _ => false

theorem Json.isArray_sorted (v : Json) : v.sorted.isArray = v.isArray := by
  cases v <;> rfl

def Json.arrays (members : Json.Members) : List Json := (members.map Prod.snd).filter Json.isArray

theorem Json.arrays_append (members others : Json.Members) :
    Json.arrays (members ++ others) = Json.arrays members ++ Json.arrays others := by
  rw [Json.arrays, List.map_append, List.filter_append]
  rfl

theorem Json.arrays_sorted (members : Json.Members) :
    Json.arrays (members.map fun m => (m.1, m.2.sorted)) =
      (Json.arrays members).map Json.sorted := by
  rw [Json.arrays, Json.arrays, List.map_map, List.filter_map, List.filter_map, List.map_map]
  congr 1
  exact List.filter_congr fun m _ => Json.isArray_sorted m.2

theorem Base.arrays_members (base : Base) : Json.arrays (Base.record.members base) = [] := by
  obtain ⟨_, _, anchor, background, _⟩ := base
  cases anchor <;> cases background <;> rfl

theorem Content.arrays_encode (c : Content) :
    ∃ list : Option Json, Json.arrays (Block.membersOf c.encode) = list.toList := by
  cases c with
  | hero | cta | split | map | image | text | button | divider | unsupported => exact ⟨none, rfl⟩
  | _ => exact ⟨some _, rfl⟩

namespace Block

theorem flat_encode_distinct (b : Block) :
    Json.DistinctKeys (flat b.base b.content.tag (membersOf b.content.encode)) := by
  obtain ⟨base, content⟩ := b
  cases content with
  | unsupported tag =>
    have apart : (Base.record.keys ++ ["type"]).Nodup := by decide
    have sub : (([] : Json.Members).map Prod.fst).Sublist [] := .slnil
    exact flat_distinct apart sub base tag
  | _ => exact flat_distinct (by decide) (Json.Record.members_keys_sublist _) base _

theorem arrays_encode (b : Block) : Json.arrays (membersOf b.encode) =
    (Json.arrays (membersOf b.content.encode)).map Json.sorted := by
  have distinct := (Json.distinctKeys_map Json.sorted).2 b.flat_encode_distinct
  have perm : (Json.arrays (membersOf b.encode)).Perm
      ((Json.arrays (membersOf b.content.encode)).map Json.sorted) := by
    have members := ((Json.arranged_perm distinct).map Prod.snd).filter Json.isArray
    rw [encode_eq, Json.sorted_object]
    refine members.trans (.of_eq ?_)
    change Json.arrays _ = _
    rw [Json.arrays_sorted, flat, Json.arrays_append, Base.arrays_members]
    rfl
  obtain ⟨list, found⟩ := b.content.arrays_encode
  rw [found] at perm ⊢
  cases list with
  | none => exact List.perm_nil.1 perm
  | some v => exact List.perm_singleton.1 perm

end Block

theorem Content.root_lists (c : Content) (background : Background) :
    (c.root background).lists.map Prod.snd =
      (Json.arrays (Block.membersOf c.encode)).map Json.sorted := by
  cases c with
  | navigation c => exact congrArg (List.map Prod.snd) c.root_lists
  | hero c => exact congrArg (List.map Prod.snd) c.root_lists
  | feature c => exact congrArg (List.map Prod.snd) c.root_lists
  | cta c => exact congrArg (List.map Prod.snd) c.root_lists
  | footer c => exact congrArg (List.map Prod.snd) c.root_lists
  | split c => exact congrArg (List.map Prod.snd) c.root_lists
  | map c => exact congrArg (List.map Prod.snd) c.root_lists
  | form c => exact congrArg (List.map Prod.snd) (c.root_lists background)
  | image c => exact congrArg (List.map Prod.snd) c.root_lists
  | text c => exact congrArg (List.map Prod.snd) c.root_lists
  | button c => exact congrArg (List.map Prod.snd) c.root_lists
  | divider c => exact congrArg (List.map Prod.snd) c.root_lists
  | pricing c => exact congrArg (List.map Prod.snd) c.root_lists
  | testimonial c => exact congrArg (List.map Prod.snd) c.root_lists
  | team c => exact congrArg (List.map Prod.snd) c.root_lists
  | faq c => exact congrArg (List.map Prod.snd) c.root_lists
  | unsupported tag => exact congrArg (List.map Prod.snd) (placeholder_lists tag)

end PageBuilder
