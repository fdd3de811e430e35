import PageBuilder.Proofs.Markup.Views

set_option autoImplicit false

namespace PageBuilder

open Json (Codec)

namespace Dom

def textOf (nodes : List Dom) : String :=
  String.join (nodes.filterMap fun
    | .text s => some s
    | .element .. => none)

def hasClass (attributes : List Attribute) (word : String) : Bool :=
  attributes.any fun a => a.name = "class" &&
    ((a.value.getD "").toList.splitOnP (· = ' ')).contains word.toList

def stars : View String := fun tag attributes nodes =>
  if tag = "span" ∧ hasClass attributes "material-symbols-outlined" ∧
      textOf nodes ∈ ["star", "star_border"] then [textOf nodes]
  else []

def cards (nodes : List Dom) : List Dom := inner (inner (inner nodes))

end Dom

def starRow (filled : Nat) : List String :=
  List.replicate filled "star" ++ List.replicate (5 - filled) "star_border"

theorem starRow_eq {filled : Nat} (atMost : filled ≤ 5) :
    (List.range 5).map (fun n => if n < filled then "star" else "star_border") =
      starRow filled := by
  have all : ∀ k ≤ 5, (List.range 5).map (fun n => if n < k then "star" else "star_border") =
      starRow k := by decide
  exact all filled atMost

namespace TestimonialItem

/-- How many stars are filled for an item; without a rating all are. -/
def filledStars (i : TestimonialItem) : Nat := if i.rating = 0 then 5 else min i.rating.toNat 5

theorem rating_of_encode (i : TestimonialItem) :
    (Codec.encode i).sorted.follow ["rating"] = .whole i.rating.toNat := by
  have nodup := record_faithful.keys_nodup
  have field : .of "rating" TestimonialItem.rating (fun v x => { x with rating := v }) ∈
      record.fields := by simp [record]
  have found := Json.Record.member?_members nodup field i
  change Json.member? "rating" (record.members i) = some (.whole i.rating.toNat) at found
  change (Json.object (record.members i)).sorted.follow ["rating"] = _
  rw [Json.sorted_object, Json.follow, Json.get?,
    Json.member?_arranged_sorted (record.members_distinct nodup i), found]
  rfl

end TestimonialItem

namespace Testimonials

def starScope (i : TestimonialItem) (n : Nat) : Scope :=
  [("star", .whole n), ("item", (Codec.encode i).sorted)]

theorem eval_rating (i : TestimonialItem) (n : Nat) :
    (Expr.or (.member "item" "rating") (.number (.ofNat 5))).eval (starScope i n) =
      if i.rating = 0 then .number (.real (.ofNat 5)) else .whole i.rating.toNat := by
  have rating : (Expr.member "item" "rating").eval (starScope i n) = .whole i.rating.toNat :=
    i.rating_of_encode
  have five : (Expr.number (.ofNat 5)).eval (starScope i n) = .number (.real (.ofNat 5)) :=
    if_pos (by decide +kernel)
  have small : i.rating.toNat < pow2 53 := Nat.lt_trans i.rating.toNat_lt (by decide)
  have holds : (Json.whole i.rating.toNat).holds = !decide (i.rating.toNat = 0) := by
    rw [← Binary64.isZero_ofNat small, ← Binary64.ofInt_natCast]
    rfl
  have zero : i.rating.toNat = 0 ↔ i.rating = 0 := by
    rw [← UInt8.toNat_inj]
    rfl
  rw [Expr.eval, rating, five]
  simp only [holds, zero]
  by_cases none : i.rating = 0 <;> simp [none]

theorem less_rating (i : TestimonialItem) {n : Nat} (below : n < 5) :
    (Json.whole n).less (if i.rating = 0 then .number (.real (.ofNat 5))
      else .whole i.rating.toNat) = decide (n < i.filledStars) := by
  have smallN : n < pow2 53 := Nat.lt_trans below (by decide)
  have small : i.rating.toNat < pow2 53 := Nat.lt_trans i.rating.toNat_lt (by decide)
  unfold TestimonialItem.filledStars
  by_cases none : i.rating = 0
  · rw [if_pos none, if_pos none]
    change (Binary64.ofInt n).less (.ofNat 5) = _
    rw [Binary64.ofInt_natCast, Binary64.less_ofNat smallN (by decide)]
  · rw [if_neg none, if_neg none]
    change (Binary64.ofInt n).less (.ofInt i.rating.toNat) = _
    rw [Binary64.ofInt_natCast, Binary64.ofInt_natCast, Binary64.less_ofNat smallN small]
    exact decide_eq_decide.2 (by omega)

theorem display_star (i : TestimonialItem) {n : Nat} (below : n < 5) :
    (Expr.ternary (.lessThan (.member "star" "")
        (.or (.member "item" "rating") (.number (.ofNat 5)))) "star" "star_border").display
      (starScope i n) = if n < i.filledStars then "star" else "star_border" := by
  have index : (Expr.member "star" "").eval (starScope i n) = .whole n := rfl
  have condition : (Expr.lessThan (.member "star" "")
      (.or (.member "item" "rating") (.number (.ofNat 5)))).eval (starScope i n) =
        .bool (decide (n < i.filledStars)) := by
    rw [Expr.eval, index, eval_rating, less_rating i below]
  rw [Expr.display, Expr.eval, condition]
  by_cases filled : n < i.filledStars <;> simp [filled, Json.holds, Expr.eval, Json.display]

/-- An icon with the class of the symbol font is a star if it is named like one. -/
theorem shows_symbol {scope : Scope} (classes : String) (value : Expr)
    (word : Dom.hasClass [⟨"class", some (Text.collapse ("material-symbols-outlined " ++ classes))⟩]
      "material-symbols-outlined") :
    ((Element.symbol classes value).unroll scope).Shows Dom.stars
      (if value.display scope ∈ ["star", "star_border"] then [value.display scope] else []) := by
  have shows : ((Element.symbol classes value).unroll scope).Shows Dom.stars _ :=
    Element.shows_of_text (by simp [Element.symbol, isVoidTag]) (by simp [Element.symbol]) value
      (by simp [Element.symbol])
  have tag : (Element.symbol classes value).tag = "span" := by simp [Element.symbol]
  have attributes : (Element.symbol classes value).allAttributes scope =
      [⟨"class", some (Text.collapse ("material-symbols-outlined " ++ classes))⟩] := by
    have filled : (Text.collapse ("material-symbols-outlined " ++ classes)).isEmpty = false := by
      refine Bool.eq_false_iff.2 fun empty => ?_
      rw [String.isEmpty_iff.1 empty] at word
      exact absurd word (by decide +kernel)
    rw [Element.symbol, Element.classed, Element.withClass, filled]
    rfl
  have text : Dom.textOf (Dom.ofMarkup [.text (value.display scope)]) = value.display scope := by
    by_cases empty : value.display scope = "" <;>
      simp [Dom.textOf, Dom.ofMarkup, Dom.putAll, Dom.put, Dom.putText, empty]
  rw [tag, attributes, Dom.stars, text] at shows
  simpa only [word, true_and] using shows

theorem shows_star (i : TestimonialItem) {n : Nat} (below : n < 5) :
    (star.unroll (starScope i n)).Shows Dom.stars
      [if n < i.filledStars then "star" else "star_border"] := by
  have shows : (star.unroll (starScope i n)).Shows Dom.stars _ :=
    shows_symbol "text-sm" _ (by decide +kernel)
  rw [display_star i below, if_pos (by split <;> simp)] at shows
  exact shows

theorem showAll_row (i : TestimonialItem) :
    ShowAll Dom.stars ((Node.repeat "star" (.range 5) [star]).unroll
      [("item", (Codec.encode i).sorted)]) (starRow i.filledStars) := by
  have atMost : i.filledStars ≤ 5 := by
    unfold TestimonialItem.filledStars
    split
    · exact Nat.le_refl 5
    · exact Nat.min_le_right _ 5
  have stars : ShowAll Dom.stars ((List.range 5).map fun n => star.unroll (starScope i n)) _ :=
    .map fun n mem => shows_star i (List.mem_range.1 mem)
  rw [← List.map_eq_flatMap, starRow_eq atMost] at stars
  rw [Node.unroll_repeat, Items.toList, List.map_map]
  exact stars

theorem showAll_avatar (scope : Scope) : ShowAll Dom.stars (avatar.unroll scope) [] := by
  rw [avatar, Node.unroll]
  split
  · exact .singleton (Element.shows_picture (fun _ _ => rfl) _ _ _)
  · have person : ∀ scope, ((Element.symbol "text-gray-400" "person").unroll scope).Shows Dom.stars
        [] := fun _ => shows_symbol _ _ (by decide +kernel)
    exact .singleton (Element.IsFrame.shows_child (.child (.classed rfl _) rfl) (fun _ _ => rfl)
      (by simp) (.singleton (person scope)))

theorem shows_card (c : Testimonials) (i : TestimonialItem) :
    (c.card.unroll [("item", (Codec.encode i).sorted)]).Shows Dom.stars (starRow i.filledStars) := by
  have quiet : ∀ attributes nodes, Dom.stars "div" attributes nodes = [] := fun _ _ => rfl
  have paragraph : ∀ classes color value,
      ((Element.colored "p" classes color value).unroll
        [("item", (Codec.encode i).sorted)]).Shows Dom.stars [] :=
    Element.shows_colored rfl fun _ _ => rfl
  have frame : c.card.IsFrame :=
    .child (.child (.child (.style (.classed rfl _) _ _) rfl) rfl) rfl
  have tag : c.card.tag = "div" := by simp [card]
  refine frame.shows (tag ▸ quiet) (Element.showAll_silent (Element.showAll_silent
    (Element.showAll_first ?_ (.singleton ?row)) (.singleton (paragraph _ _ _))) (.singleton ?person))
  · simp
  case row =>
    exact Element.IsFrame.shows_child (.child (.style (.classed rfl _) _ _) rfl) quiet (by simp)
      (showAll_row i)
  case person =>
    refine Element.IsFrame.shows (.child (.child (.classed rfl _) rfl) rfl) quiet
      (Element.showAll_silent (Element.showAll_first ?_ (showAll_avatar _)) (.singleton ?names))
    · simp
    case names =>
      exact Element.IsFrame.shows (.child (.child (.new rfl) rfl) rfl) quiet
        (Element.showAll_silent (Element.showAll_first rfl (.singleton (paragraph _ _ _)))
          (.singleton (paragraph _ _ _)))

theorem areRead_cards (base : Base) (c : Testimonials) {nodes : List Dom}
    (read : AreRead [(Section.ofBlock ⟨base, .testimonial c⟩).markup] (Dom.elements nodes)) :
    AreRead (c.items.map fun i => c.card.unroll [("item", (Codec.encode i).sorted)])
      (Dom.cards nodes) := by
  have rootFrame : c.root.IsFrame := .child (.container _) rfl
  have items : (Items.ofList c.items).toList [] =
      c.items.map fun i => (Codec.encode i).sorted := by
    change (Json.sortedItems (c.items.map Codec.encode)) = _
    rw [Json.sortedItems_eq, List.map_map]
    rfl
  have box := areRead_inner read
  rw [Dom.inner_elements] at box
  have list := rootFrame.areRead_child (by simp [Element.container]) box
  have cards := Element.IsFrame.areRead_child (.child (.classed rfl _) rfl) (by simp) list
  rw [Node.each, Node.unroll_repeat, items, List.map_map] at cards
  simpa only [Function.comp_def, Scope.push, Dom.cards] using cards

section

variable {indent : Option String} (inertIndent : ∀ text ∈ indent, Reader.isInert text)

include inertIndent

theorem seen_cards (base : Base) (c : Testimonials) :
    (Reader.read ((Rendering.html indent).fragment (Block.appearance ⟨base, .testimonial c⟩))).map
        (fun nodes => (Dom.cards nodes).map (Dom.seen Dom.stars)) =
      some (c.items.map fun i => starRow i.filledStars) := by
  obtain ⟨nodes, read, areRead⟩ :=
    Section.read_fragment ⟨base, .testimonial c⟩ rfl inertIndent
  rw [read, Option.map_some,
    map_seen_of_areRead (fun i => shows_card c i) (areRead_cards base c areRead)]

/--
The stars follow the rating. In the page of a document, the fragment of a testimonial block stands
between those of the blocks around it. A card for each item in order has five stars: as many filled
ones as its rating says, but five at most, and empty ones after them. Only a rating of zero is no
rating, which fills all five; so of two items with ratings, the one that is rated higher never has
fewer of them.
-/
theorem stars_follow_rating (base : Base) (c : Testimonials) :
    let block : Block := ⟨base, .testimonial c⟩
    let r : Rendering := .html indent
    (∀ (d : Document) (before after : List Block), d.blocks = before ++ block :: after →
      (Page.ofDocument d).html indent = r.opening d.settings ++ r.written before ++
        r.fragment block.appearance ++ r.written after ++ r.closing) ∧
    (Reader.read (r.fragment block.appearance)).map
        (fun nodes => (Dom.cards nodes).map (Dom.seen Dom.stars)) =
      some (c.items.map fun i => starRow i.filledStars) ∧
    ∀ i ∈ c.items, ∀ j ∈ c.items, i.rating ≠ 0 → i.rating < j.rating →
      i.filledStars ≤ j.filledStars := by
  intro block r
  refine ⟨fun d before after blocks => r.output_around blocks, seen_cards inertIndent base c,
    fun i _ j _ rated higher => ?_⟩
  have lower : i.rating.toNat < j.rating.toNat := UInt8.lt_iff_toNat_lt.1 higher
  have other : j.rating ≠ 0 := fun zero => by
    rw [zero] at lower
    exact Nat.not_lt_zero _ lower
  unfold TestimonialItem.filledStars
  rw [if_neg rated, if_neg other]
  omega

end

/-- Three stars, five stars at a rating above five, and no rating. -/
theorem stars_of_three_ratings :
    let c : Testimonials := { items := [{ rating := 3 }, { rating := 200 }, { rating := 0 }] }
    let block : Block := ⟨{}, .testimonial c⟩
    let r : Rendering := .html (some "  ")
    (∀ text ∈ some "  ", Reader.isInert text) ∧
    (Page.ofDocument { blocks := [block] }).html (some "  ") =
      r.opening {} ++ r.fragment block.appearance ++ r.closing ∧
    (Reader.read (r.fragment block.appearance)).map
        (fun nodes => (Dom.cards nodes).map (Dom.seen Dom.stars)) =
      some [["star", "star", "star", "star_border", "star_border"], starRow 5, starRow 5] := by
  intro c block r
  have inertIndent : ∀ text ∈ some "  ", Reader.isInert text := by simp [Reader.isInert]
  obtain ⟨stands, seen, _⟩ := stars_follow_rating inertIndent {} c
  have page := stands { blocks := [block] } [] [] rfl
  rw [Rendering.written_nil, String.append_empty, String.append_empty] at page
  have rows : c.items.map (fun i => starRow i.filledStars) =
      [["star", "star", "star", "star_border", "star_border"], starRow 5, starRow 5] := by decide
  exact ⟨inertIndent, page, seen.trans (congrArg some rows)⟩

theorem stars_of_zero_rating :
    let c : Testimonials := { items := [{ rating := 0 }, { rating := 3 }] }
    let block : Block := ⟨{}, .testimonial c⟩
    (Reader.read ((Rendering.html (some "  ")).fragment block.appearance)).map
        (fun nodes => (Dom.cards nodes).map (Dom.seen Dom.stars)) ≠
      some (c.items.map fun i => starRow (min i.rating.toNat 5)) := by
  intro c block
  have inertIndent : ∀ text ∈ some "  ", Reader.isInert text := by simp [Reader.isInert]
  rw [seen_cards inertIndent]
  decide

end Testimonials
end PageBuilder
