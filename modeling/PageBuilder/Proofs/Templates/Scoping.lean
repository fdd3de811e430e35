import PageBuilder.Proofs.Templates.Contents
import PageBuilder.Proofs.Templates.Strict

set_option autoImplicit false

namespace PageBuilder

mutual

theorem Element.Each.imp {P Q : List String → Expr → Prop} (le : ∀ b e, P b e → Q b e) :
    ∀ (e : Element) (bindings : List String), e.Each P bindings → e.Each Q bindings
  | { .. }, bindings, ⟨attributes, styles, markup, children⟩ =>
    ⟨fun a mem => le _ _ (attributes a mem), fun s mem => le _ _ (styles s mem),
      fun e mem => le _ _ (markup e mem), EachOf.imp le _ bindings children⟩

theorem Node.Each.imp {P Q : List String → Expr → Prop} (le : ∀ b e, P b e → Q b e) :
    ∀ (node : Node) (bindings : List String), node.Each P bindings → node.Each Q bindings
  | .element e, bindings, each => Element.Each.imp le e bindings each
  | .text _, _, each => le _ _ each
  | .repeat binding _ body, bindings, ⟨items, each⟩ =>
    ⟨fun e mem => le _ _ (items e mem), EachOf.imp le body (binding :: bindings) each⟩
  | .choice _ yes no, bindings, ⟨condition, yesEach, noEach⟩ =>
    ⟨le _ _ condition, EachOf.imp le yes bindings yesEach, EachOf.imp le no bindings noEach⟩

theorem EachOf.imp {P Q : List String → Expr → Prop} (le : ∀ b e, P b e → Q b e) :
    ∀ (nodes : List Node) (bindings : List String), EachOf P bindings nodes →
      EachOf Q bindings nodes
  | [], _, _ => trivial
  | node :: rest, bindings, ⟨each, others⟩ =>
    ⟨Node.Each.imp le node bindings each, EachOf.imp le rest bindings others⟩

end

variable {bindings : List String}

namespace Expr

def Closed (bindings : List String) (e : Expr) : Prop := ∀ read ∈ e.reads, read.1 ∈ bindings

def Checked (bindings : List String) (e : Expr) : Prop := e.Closed bindings ∧ e.Definite

@[simp]
theorem checked_literal (s : String) : (literal s).Checked bindings :=
  ⟨nofun, trivial⟩

@[simp]
theorem checked_number (x : Binary64) : (number x).Checked bindings :=
  ⟨nofun, trivial⟩

@[simp]
theorem checked_member (binding path : String) :
    (member binding path).Checked bindings ↔ binding ∈ bindings := by
  simp [Checked, Closed, member, reads, Definite]

@[simp]
theorem checked_equals (a b : Expr) :
    (equals a b).Checked bindings ↔ a.Checked bindings ∧ b.Checked bindings := by
  simp only [Checked, Closed, reads, Definite, List.forall_mem_append]
  tauto

@[simp]
theorem checked_lessThan (a b : Expr) :
    (lessThan a b).Checked bindings ↔ a.Checked bindings ∧ b.Checked bindings := by
  simp only [Checked, Closed, reads, Definite, List.forall_mem_append]
  tauto

@[simp]
theorem checked_ternary (c a b : Expr) : (ternary c a b).Checked bindings ↔
    c.Checked bindings ∧ a.Checked bindings ∧ b.Checked bindings := by
  simp only [Checked, Closed, reads, Definite, List.forall_mem_append]
  tauto

@[simp]
theorem checked_template (parts : List Expr) :
    (template parts).Checked bindings ↔ ∀ e ∈ parts, e.Checked bindings := by
  induction parts with
  | nil => simp [Checked, Closed, reads, readsOfAll, Definite, AllDefinite]
  | cons e parts ih =>
    rw [List.forall_mem_cons, ← ih]
    simp only [Checked, Closed, reads, readsOfAll, Definite, AllDefinite, List.forall_mem_append]
    tauto

@[simp]
theorem checked_or_number (a : Expr) (x : Binary64) :
    (or a (.number x)).Checked bindings ↔ a.Checked bindings := by
  simp [Checked, Closed, reads, Definite]

@[simp]
theorem checked_or_badge (b : Expr) : (or (member "plan" "badgeText") b).Checked bindings ↔
    "plan" ∈ bindings ∧ b.Checked bindings := by
  have same : member "plan" "badgeText" = field badgeText.1 badgeText.2 := rfl
  simp only [Checked, Closed, same, reads, Definite, List.forall_mem_append,
    List.forall_mem_singleton]
  tauto

end Expr

@[simp]
theorem eachOf_nil {P : List String → Expr → Prop} : EachOf P bindings [] := trivial

@[simp]
theorem eachOf_cons {P : List String → Expr → Prop} (node : Node) (nodes : List Node) :
    EachOf P bindings (node :: nodes) ↔ node.Each P bindings ∧ EachOf P bindings nodes := Iff.rfl

@[simp]
theorem eachOf_append {P : List String → Expr → Prop} (nodes others : List Node) :
    EachOf P bindings (nodes ++ others) ↔ EachOf P bindings nodes ∧ EachOf P bindings others := by
  induction nodes with
  | nil => simp
  | cons node nodes ih => rw [List.cons_append, eachOf_cons, eachOf_cons, ih, and_assoc]

namespace Node

@[simp]
theorem checked_element (e : Element) :
    (element e).Each Expr.Checked bindings ↔ e.Each Expr.Checked bindings := Iff.rfl

@[simp]
theorem checked_choice (condition : Expr) (yes no : List Node) :
    (choice condition yes no).Each Expr.Checked bindings ↔ condition.Checked bindings ∧
      EachOf Expr.Checked bindings yes ∧ EachOf Expr.Checked bindings no := Iff.rfl

@[simp]
theorem checked_each {α : Type} [Json.Codec α] (binding : String) (list : List α)
    (body : Element) : (Node.each binding list body).Each Expr.Checked bindings ↔
      body.Each Expr.Checked (binding :: bindings) :=
  ⟨fun each => each.2.1, fun each => ⟨nofun, each, trivial⟩⟩

@[simp]
theorem checked_repeat_of (binding : String) (list : Expr) (body : List Node) :
    (Node.repeat binding (.of list) body).Each Expr.Checked bindings ↔
      list.Checked bindings ∧ EachOf Expr.Checked (binding :: bindings) body :=
  ⟨fun each => ⟨each.1 list rfl, each.2⟩,
    fun each => ⟨fun _ same => Option.some.inj same ▸ each.1, each.2⟩⟩

@[simp]
theorem checked_repeat_range (binding : String) (count : Nat) (body : List Node) :
    (Node.repeat binding (.range count) body).Each Expr.Checked bindings ↔
      EachOf Expr.Checked (binding :: bindings) body :=
  ⟨fun each => each.2, fun each => ⟨nofun, each⟩⟩

end Node

namespace Element

theorem each_iff {P : List String → Expr → Prop} (e : Element) : e.Each P bindings ↔
    (∀ a ∈ e.attributes, P bindings a.2) ∧ (∀ s ∈ e.styles, P bindings s.2) ∧
      (∀ m ∈ e.markup, P bindings m) ∧ EachOf P bindings e.children := by
  cases e
  rfl

@[simp]
theorem checked_new (tag : String) : (new tag).Each Expr.Checked bindings := by
  simp [each_iff, new]

@[simp]
theorem checked_attr (e : Element) (name : String) (value : Expr) :
    (e.attr name value).Each Expr.Checked bindings ↔
      e.Each Expr.Checked bindings ∧ value.Checked bindings := by
  simp only [each_iff, attr, List.forall_mem_append, List.forall_mem_singleton]
  tauto

@[simp]
theorem checked_style (e : Element) (property : String) (value : Expr) :
    (e.style property value).Each Expr.Checked bindings ↔
      e.Each Expr.Checked bindings ∧ value.Checked bindings := by
  simp only [each_iff, style, List.forall_mem_append, List.forall_mem_singleton]
  tauto

@[simp]
theorem checked_append (e : Element) (nodes : List Node) :
    (e.append nodes).Each Expr.Checked bindings ↔
      e.Each Expr.Checked bindings ∧ EachOf Expr.Checked bindings nodes := by
  simp only [each_iff, append, eachOf_append]
  tauto

@[simp]
theorem checked_child (e : Element) (node : Node) :
    (e.child node).Each Expr.Checked bindings ↔
      e.Each Expr.Checked bindings ∧ node.Each Expr.Checked bindings := by
  change (e.append [node]).Each Expr.Checked bindings ↔ _
  rw [checked_append, eachOf_cons, and_iff_left eachOf_nil]

@[simp]
theorem checked_text (e : Element) (value : Expr) :
    (e.text value).Each Expr.Checked bindings ↔
      e.Each Expr.Checked bindings ∧ value.Checked bindings :=
  checked_child e (.text value)

@[simp]
theorem checked_html {e : Element} (unmarked : e.markup = none) (value : Expr) :
    (e.html value).Each Expr.Checked bindings ↔
      e.Each Expr.Checked bindings ∧ value.Checked bindings := by
  simp only [each_iff, html, unmarked, Option.mem_some_iff, forall_eq']
  simp
  tauto

@[simp]
theorem checked_classed (tag classes : String) :
    (classed tag classes).Each Expr.Checked bindings := by
  unfold classed
  rcases withClass_eq (new tag) classes with same | ⟨c, same⟩ <;> rw [same] <;> simp

@[simp]
theorem checked_container (classes : String) : (container classes).Each Expr.Checked bindings := by
  simp [container]

@[simp]
theorem checked_colored (tag classes : String) (color value : Expr) :
    (colored tag classes color value).Each Expr.Checked bindings ↔
      color.Checked bindings ∧ value.Checked bindings := by
  simp [colored]

@[simp]
theorem checked_picture (classes : String) (source alt : Expr) :
    (picture classes source alt).Each Expr.Checked bindings ↔
      source.Checked bindings ∧ alt.Checked bindings := by
  simp [picture]

@[simp]
theorem checked_symbol (classes : String) (name : Expr) :
    (symbol classes name).Each Expr.Checked bindings ↔ name.Checked bindings := by
  simp [symbol]

@[simp]
theorem checked_filledLink (classes : String) (address background color value : Expr) :
    (filledLink classes address background color value).Each Expr.Checked bindings ↔
      address.Checked bindings ∧ background.Checked bindings ∧ color.Checked bindings ∧
        value.Checked bindings := by
  simp [filledLink, and_assoc]

end Element

theorem Navigation.root_checked (c : Navigation) : c.root.Each Expr.Checked bindings := by
  have logo : c.logo.Each Expr.Checked bindings := by
    unfold logo
    split <;> simp
  have button : EachOf Expr.Checked bindings c.button := by
    unfold button
    split <;> simp
  unfold root
  split <;> simp [linkList, logo, button]

theorem Hero.root_checked (c : Hero) : c.root.Each Expr.Checked bindings := by
  have first : EachOf Expr.Checked bindings c.firstButton := by
    unfold firstButton
    split <;> simp
  have second : EachOf Expr.Checked bindings c.secondButton := by
    unfold secondButton
    split <;> simp
  simp [root, first, second]

theorem Features.root_checked (c : Features) : c.root.Each Expr.Checked bindings := by
  simp [root, card]

theorem CallToAction.root_checked (c : CallToAction) : c.root.Each Expr.Checked bindings := by
  have button : EachOf Expr.Checked bindings c.button := by
    unfold button
    split <;> simp
  have overlay : EachOf Expr.Checked bindings c.overlay := by
    unfold overlay
    split <;> simp
  simp [root, button, overlay]

theorem Footer.root_checked (c : Footer) : c.root.Each Expr.Checked bindings := by
  simp [root]

theorem Split.root_checked (c : Split) : c.root.Each Expr.Checked bindings := by
  simp [root]

theorem MapEmbed.root_checked (c : MapEmbed) : c.root.Each Expr.Checked bindings := by
  simp [root]

theorem ContactForm.root_checked (c : ContactForm) (background : Background) :
    (c.root background).Each Expr.Checked bindings := by
  simp [root, field, area, input, dressed, submit]

theorem Picture.root_checked (c : Picture) : c.root.Each Expr.Checked bindings := by
  have image : c.image.Each Expr.Checked bindings := by
    unfold image
    split <;> simp
  have caption : EachOf Expr.Checked bindings c.captionLine := by
    unfold captionLine
    split <;> simp
  simp [root, image, caption]

theorem Prose.root_checked (c : Prose) : c.root.Each Expr.Checked bindings := by
  simp [root]

theorem ButtonLink.root_checked (c : ButtonLink) : c.root.Each Expr.Checked bindings := by
  simp [root]

theorem Divider.root_checked (c : Divider) : c.root.Each Expr.Checked bindings := by
  have line : EachOf Expr.Checked bindings c.line := by
    unfold line
    split <;> simp
  simp [root, line]

theorem Pricing.root_checked (c : Pricing) : c.root.Each Expr.Checked bindings := by
  simp [root, card, badge, feature, link, isPopular]

theorem Testimonials.root_checked (c : Testimonials) : c.root.Each Expr.Checked bindings := by
  simp [root, card, star, avatar]

theorem Team.root_checked (c : Team) : c.root.Each Expr.Checked bindings := by
  simp [root, card]

theorem Faq.root_checked (c : Faq) : c.root.Each Expr.Checked bindings := by
  simp [root, entry]

theorem Content.root_checked (c : Content) (background : Background) :
    (c.root background).Each Expr.Checked bindings := by
  cases c with
  | navigation c => exact c.root_checked
  | hero c => exact c.root_checked
  | feature c => exact c.root_checked
  | cta c => exact c.root_checked
  | footer c => exact c.root_checked
  | split c => exact c.root_checked
  | map c => exact c.root_checked
  | form c => exact c.root_checked background
  | image c => exact c.root_checked
  | text c => exact c.root_checked
  | button c => exact c.root_checked
  | divider c => exact c.root_checked
  | pricing c => exact c.root_checked
  | testimonial c => exact c.root_checked
  | team c => exact c.root_checked
  | faq c => exact c.root_checked
  | unsupported tag => simp [root, placeholder]

/--
Every page is well scoped. Each read in a section is from a binding of a repetition around it, and
however the page is unrolled, it meets an item that has its path, unless it is the text of a badge
that a plan does not have. Each repetition has a list for its items, and its body stands for all of
them. So unrolling that gives up where anything is missing gives the same markup.
-/
theorem Page.reads_are_met (document : Document) :
    (Page.ofDocument document).sections.Forall fun s =>
      EachOf Expr.Closed [] s.body ∧ AllMet [] s.body ∧
        unrollAll? [] s.body = some (unrollAll [] s.body) := by
  rw [List.forall_iff_forall_mem]
  intro s mem
  obtain ⟨block, _, rfl⟩ := List.mem_map.1 mem
  have checked : EachOf Expr.Checked [] (Section.ofBlock block).body :=
    ⟨block.content.root_checked block.base.background, trivial⟩
  have fits : FitAll block.content.holdsMarkup [] (Section.ofBlock block).body :=
    ⟨block.content.root_fits block.base.background, trivial⟩
  have definite := EachOf.imp (fun _ _ each => each.2) _ _ checked
  have met := allMet_of_fits _ _ fits _ definite _ Shapes.hold_nil
  exact ⟨EachOf.imp (fun _ _ each => each.1) _ _ checked, met, met.unrollAll?_eq⟩

end PageBuilder
