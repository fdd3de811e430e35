import PageBuilder.Markup.Piece

set_option autoImplicit false

/-!
# Reading markup text

A reader that knows tags, quoted and bare attributes, void elements and four entities, and nothing
else. It reads the text of a markup tree back to the tree, with adjacent texts as one, if the names
are plain and nothing in the tree is trusted markup.
-/

namespace PageBuilder

/-- An element tree as its text shows it: the styles are an attribute among the others. -/
inductive Dom where
  | text (content : String)
  | element (tag : String) (attributes : List Attribute) (children : List Dom)

namespace Dom

/-- Puts a text after nodes that are listed last first; it joins a text before it. -/
def putText (s : String) : List Dom → List Dom
  | .text t :: before => .text (t ++ s) :: before
  | before => if s.isEmpty then before else .text s :: before

mutual

def put (before : List Dom) : Markup → List Dom
  | .text s => putText s before
  | .element tag attributes styles body =>
    .element tag (attributes ++ styleAttribute styles) (inside body) :: before
  | .raw _ | .rule _ _ => before

def inside : Body → List Dom
  | .void => []
  | .inline nodes | .block nodes => (putAll [] nodes).reverse

def putAll (before : List Dom) : List Markup → List Dom
  | [] => before
  | node :: rest => putAll (put before node) rest

end

def ofMarkup (nodes : List Markup) : List Dom := (putAll [] nodes).reverse

end Dom

namespace Reader

/-- An open element and the nodes before it in its parent, last first. -/
structure Open where
  tag : String
  attributes : List Attribute
  before : List Dom

/-- What is being read; names and values are gathered last first. -/
inductive Stage where
  | content
  | entity (name : List Char)
  | bracket
  | closing (name : List Char)
  | tag (name : List Char)
  | attribute (tag : String) (attributes : List Attribute) (name : List Char)
  | equals (tag : String) (attributes : List Attribute) (name : String)
  | value (tag : String) (attributes : List Attribute) (name : String) (value : List Char)
  | valueEntity (tag : String) (attributes : List Attribute) (name : String) (value : List Char)
    (entity : List Char)
  | quoted (tag : String) (attributes : List Attribute)

/-- The open elements, innermost first, and the nodes of the innermost one, last first. -/
structure State where
  outer : List Open
  done : List Dom
  stage : Stage

def isNameChar (c : Char) : Bool := c.isAlphanum || c = '-'

def entity? (name : String) : Option Char :=
  if name = "amp" then some '&'
  else if name = "lt" then some '<'
  else if name = "gt" then some '>'
  else if name = "quot" then some '"'
  else none

def nameOf (letters : List Char) : String := String.ofList letters.reverse

namespace State

/-- A complete opening tag; a void element is complete with it. -/
def opened (s : State) (tag : String) (attributes : List Attribute) : State :=
  if isVoidTag tag then ⟨s.outer, .element tag attributes [] :: s.done, .content⟩
  else ⟨⟨tag, attributes, s.done⟩ :: s.outer, [], .content⟩

def closed? (s : State) (tag : String) : Option State :=
  match s.outer with
  | ⟨openTag, attributes, before⟩ :: outer =>
    if openTag = tag then some ⟨outer, .element tag attributes s.done.reverse :: before, .content⟩
    else none
  | [] => none

def inTag (s : State) (tag : String) (attributes : List Attribute) (c : Char)
    (otherwise : Option Stage) : Option State :=
  if c = '>' then some (s.opened tag attributes)
  else if c = ' ' then some { s with stage := .attribute tag attributes [] }
  else otherwise.map fun stage => { s with stage }

def step (s : State) (c : Char) : Option State :=
  match s.stage with
  | .content =>
    if c = '<' then some { s with stage := .bracket }
    else if c = '&' then some { s with stage := .entity [] }
    else some { s with done := Dom.putText (String.singleton c) s.done }
  | .entity name =>
    if c = ';' then (entity? (nameOf name)).map fun c =>
      ⟨s.outer, Dom.putText (String.singleton c) s.done, .content⟩
    else some { s with stage := .entity (c :: name) }
  | .bracket =>
    if c = '/' then some { s with stage := .closing [] }
    else if isNameChar c then some { s with stage := .tag [c] }
    else none
  | .closing name =>
    if c = '>' then s.closed? (nameOf name)
    else if isNameChar c then some { s with stage := .closing (c :: name) }
    else none
  | .tag name => s.inTag (nameOf name) [] c (if isNameChar c then some (.tag (c :: name)) else none)
  | .attribute tag attributes [] =>
    if isNameChar c then some { s with stage := .attribute tag attributes [c] } else none
  | .attribute tag attributes name =>
    s.inTag tag (attributes ++ [⟨nameOf name, none⟩]) c
      (if c = '=' then some (.equals tag attributes (nameOf name))
      else if isNameChar c then some (.attribute tag attributes (c :: name))
      else none)
  | .equals tag attributes name =>
    if c = '"' then some { s with stage := .value tag attributes name [] } else none
  | .value tag attributes name value =>
    if c = '"' then
      some { s with stage := .quoted tag (attributes ++ [⟨name, some (nameOf value)⟩]) }
    else if c = '&' then some { s with stage := .valueEntity tag attributes name value [] }
    else some { s with stage := .value tag attributes name (c :: value) }
  | .valueEntity tag attributes name value entity =>
    if c = ';' then (entity? (nameOf entity)).map fun c =>
      { s with stage := .value tag attributes name (c :: value) }
    else some { s with stage := .valueEntity tag attributes name value (c :: entity) }
  | .quoted tag attributes => s.inTag tag attributes c none

def run (s : State) (text : List Char) : Option State := text.foldlM step s

/-- The nodes of a text that ends outside of all tags and elements. -/
def finish? (s : State) : Option (List Dom) :=
  match s.stage, s.outer with
  | .content, [] => some s.done.reverse
  | _, _ => none

end State

def read (text : String) : Option (List Dom) :=
  (State.run ⟨[], [], .content⟩ text.toList).bind State.finish?

theorem isNameChar_ne {c d : Char} (name : isNameChar c) (other : isNameChar d = false) :
    c ≠ d := by
  rintro rfl
  rw [name] at other
  cases other

theorem nameOf_reverse (name : String) : nameOf name.toList.reverse = name := by
  rw [nameOf, List.reverse_reverse, String.ofList_toList]

def isPlainName (name : String) : Bool := !name.isEmpty && name.toList.all isNameChar

theorem isPlainName_letters {name : String} (plain : isPlainName name) :
    (∀ c ∈ name.toList, isNameChar c) ∧ name.toList ≠ [] := by
  rw [isPlainName, Bool.and_eq_true, List.all_eq_true] at plain
  refine ⟨plain.2, fun letters => ?_⟩
  have empty : name = "" := String.toList_eq_nil_iff.1 letters
  subst empty
  cases plain.1

variable {outer : List Open} {done : List Dom}

namespace State

theorem run_step {s t : State} {c : Char} (step : s.step c = some t) (rest : List Char) :
    s.run (c :: rest) = t.run rest := by
  rw [run, List.foldlM_cons, step]
  rfl

theorem putText_empty (before : List Dom) : Dom.putText "" before = before := by
  rcases before with _ | ⟨_ | _, rest⟩
  · rfl
  · rw [Dom.putText, String.append_empty]
  · rfl

theorem putText_putText (s t : String) (before : List Dom) :
    Dom.putText t (Dom.putText s before) = Dom.putText (s ++ t) before := by
  rcases before with _ | ⟨_ | _, rest⟩
  · by_cases empty : s = "" <;> simp [Dom.putText, empty]
  · rw [Dom.putText, Dom.putText, Dom.putText, String.append_assoc]
  · by_cases empty : s = "" <;> simp [Dom.putText, empty]

theorem run_escapeText (c : Char) (rest : List Char) :
    State.run ⟨outer, done, .content⟩ (Piece.escapeText c ++ rest) =
      State.run ⟨outer, Dom.putText (String.singleton c) done, .content⟩ rest := by
  unfold Piece.escapeText
  split
  · rename_i amp
    subst amp
    rfl
  · split
    · rename_i lt
      subst lt
      rfl
    · split
      · rename_i gt
        subst gt
        rfl
      · rename_i amp lt gt
        exact run_step (by simp [step, amp, lt]) rest

theorem run_text (text : List Char) (rest : List Char) :
    State.run ⟨outer, done, .content⟩ (text.flatMap Piece.escapeText ++ rest) =
      State.run ⟨outer, Dom.putText (String.ofList text) done, .content⟩ rest := by
  induction text generalizing done with
  | nil =>
    rw [List.flatMap_nil, List.nil_append]
    exact congrArg (fun done => State.run ⟨outer, done, .content⟩ rest) (putText_empty done).symm
  | cons c text ih =>
    have joined : String.singleton c ++ String.ofList text = String.ofList (c :: text) := by
      rw [← String.toList_inj]
      simp
    rw [List.flatMap_cons, List.append_assoc, run_escapeText, ih, putText_putText, joined]

theorem run_escapeValue (c : Char) (tag : String) (attributes : List Attribute) (name : String)
    (value : List Char) (rest : List Char) :
    State.run ⟨outer, done, .value tag attributes name value⟩ (Piece.escapeValue c ++ rest) =
      State.run ⟨outer, done, .value tag attributes name (c :: value)⟩ rest := by
  unfold Piece.escapeValue Piece.escapeText
  split
  · rename_i quote
    subst quote
    rfl
  · rename_i quote
    split
    · rename_i amp
      subst amp
      rfl
    · split
      · rename_i lt
        subst lt
        rfl
      · split
        · rename_i gt
          subst gt
          rfl
        · rename_i amp lt gt
          exact run_step (by simp [step, quote, amp]) rest

theorem run_value (text : List Char) (tag : String) (attributes : List Attribute) (name : String)
    (value : List Char) (rest : List Char) :
    State.run ⟨outer, done, .value tag attributes name value⟩
        (text.flatMap Piece.escapeValue ++ rest) =
      State.run ⟨outer, done, .value tag attributes name (text.reverse ++ value)⟩ rest := by
  induction text generalizing value with
  | nil => rfl
  | cons c text ih =>
    rw [List.flatMap_cons, List.append_assoc, run_escapeValue, ih, List.reverse_cons,
      List.append_assoc]
    rfl

theorem step_tag {c : Char} (plain : isNameChar c) (name : List Char) :
    step ⟨outer, done, .tag name⟩ c = some ⟨outer, done, .tag (c :: name)⟩ := by
  simp [step, inTag, plain, isNameChar_ne plain (show isNameChar '>' = false by decide),
    isNameChar_ne plain (show isNameChar ' ' = false by decide)]

theorem step_attribute {c : Char} (plain : isNameChar c) (tag : String)
    (attributes : List Attribute) (name : List Char) :
    step ⟨outer, done, .attribute tag attributes name⟩ c =
      some ⟨outer, done, .attribute tag attributes (c :: name)⟩ := by
  cases name <;>
    simp [step, inTag, plain, isNameChar_ne plain (show isNameChar '>' = false by decide),
      isNameChar_ne plain (show isNameChar ' ' = false by decide),
      isNameChar_ne plain (show isNameChar '=' = false by decide)]

theorem step_closing {c : Char} (plain : isNameChar c) (name : List Char) :
    step ⟨outer, done, .closing name⟩ c = some ⟨outer, done, .closing (c :: name)⟩ := by
  simp [step, plain, isNameChar_ne plain (show isNameChar '>' = false by decide)]

theorem run_name {gathering : List Char → Stage}
    (gathers : ∀ c name, isNameChar c →
      step ⟨outer, done, gathering name⟩ c = some ⟨outer, done, gathering (c :: name)⟩)
    {letters : List Char} (all : ∀ c ∈ letters, isNameChar c) (name : List Char)
    (rest : List Char) :
    State.run ⟨outer, done, gathering name⟩ (letters ++ rest) =
      State.run ⟨outer, done, gathering (letters.reverse ++ name)⟩ rest := by
  induction letters generalizing name with
  | nil => rfl
  | cons c letters ih =>
    rw [List.cons_append, run_step (gathers c name (all c List.mem_cons_self)),
      ih fun d h => all d (List.mem_cons_of_mem _ h), List.reverse_cons, List.append_assoc]
    rfl

end State

/-- A tag and its attributes are complete, unless another attribute follows. -/
def Stage.Awaits (stage : Stage) (tag : String) (attributes : List Attribute) : Prop :=
  ∀ outer done, State.step ⟨outer, done, stage⟩ '>' =
      some (State.opened ⟨outer, done, .content⟩ tag attributes) ∧
    State.step ⟨outer, done, stage⟩ ' ' = some ⟨outer, done, .attribute tag attributes []⟩

theorem awaits_tag (name : List Char) : (Stage.tag name).Awaits (nameOf name) [] :=
  fun _ _ => ⟨rfl, rfl⟩

theorem awaits_attribute (tag : String) (attributes : List Attribute) {name : List Char}
    (nonempty : name ≠ []) :
    (Stage.attribute tag attributes name).Awaits tag (attributes ++ [⟨nameOf name, none⟩]) := by
  cases name with
  | nil => contradiction
  | cons c name => exact fun _ _ => ⟨rfl, rfl⟩

theorem awaits_quoted (tag : String) (attributes : List Attribute) :
    (Stage.quoted tag attributes).Awaits tag attributes := fun _ _ => ⟨rfl, rfl⟩

namespace State

theorem run_attribute {stage : Stage} {tag : String} {attributes : List Attribute}
    (awaits : stage.Awaits tag attributes) {a : Attribute} (plain : isPlainName a.name) :
    ∃ after : Stage, after.Awaits tag (attributes ++ [a]) ∧ ∀ outer done rest,
      State.run ⟨outer, done, stage⟩ (Piece.attributeChars a ++ rest) =
        State.run ⟨outer, done, after⟩ rest := by
  obtain ⟨name, value⟩ := a
  obtain ⟨all, nonempty⟩ := isPlainName_letters plain
  have bare := awaits_attribute tag attributes (List.reverse_ne_nil_iff.2 nonempty)
  rw [nameOf_reverse] at bare
  cases value with
  | none =>
    refine ⟨_, bare, fun outer done rest => ?_⟩
    rw [Piece.attributeChars, List.append_nil, List.cons_append, run_step (awaits outer done).2,
      run_name (fun c name plain => step_attribute plain tag attributes name) all, List.append_nil]
  | some value =>
    refine ⟨_, awaits_quoted tag (attributes ++ [⟨name, some value⟩]), fun outer done rest => ?_⟩
    have equals : step ⟨outer, done, .attribute tag attributes name.toList.reverse⟩ '=' =
        some ⟨outer, done, .equals tag attributes name⟩ := by
      cases reversed : name.toList.reverse with
      | nil => exact absurd (List.reverse_eq_nil_iff.1 reversed) nonempty
      | cons d rest =>
        have same := nameOf_reverse name
        rw [reversed] at same
        rw [← same]
        rfl
    have opens : step ⟨outer, done, .equals tag attributes name⟩ '"' =
        some ⟨outer, done, .value tag attributes name []⟩ := rfl
    have closes : step ⟨outer, done, .value tag attributes name value.toList.reverse⟩ '"' =
        some ⟨outer, done, .quoted tag (attributes ++ [⟨name, some value⟩])⟩ := by
      simp [step, nameOf_reverse]
    simp only [Piece.attributeChars, List.cons_append, List.append_assoc]
    rw [run_step (awaits outer done).2,
      run_name (fun c name plain => step_attribute plain tag attributes name) all, List.append_nil,
      run_step equals, run_step opens, run_value, List.append_nil, List.nil_append, run_step closes]

theorem run_attributes {stage : Stage} {tag : String} {before : List Attribute}
    (awaits : stage.Awaits tag before) (attributes : List Attribute)
    (plain : ∀ a ∈ attributes, isPlainName a.name) :
    ∃ after : Stage, after.Awaits tag (before ++ attributes) ∧ ∀ outer done rest,
      State.run ⟨outer, done, stage⟩ (attributes.flatMap Piece.attributeChars ++ rest) =
        State.run ⟨outer, done, after⟩ rest := by
  induction attributes generalizing stage before with
  | nil =>
    rw [List.append_nil]
    exact ⟨stage, awaits, fun _ _ _ => rfl⟩
  | cons a attributes ih =>
    obtain ⟨middle, awaitsMiddle, first⟩ := run_attribute awaits (plain a List.mem_cons_self)
    obtain ⟨after, awaitsAfter, others⟩ :=
      ih awaitsMiddle fun b h => plain b (List.mem_cons_of_mem _ h)
    rw [List.append_assoc] at awaitsAfter
    refine ⟨after, awaitsAfter, fun outer done rest => ?_⟩
    rw [List.flatMap_cons, List.append_assoc, first, others]

theorem run_opening {tag : String} (plainTag : isPlainName tag) {attributes : List Attribute}
    (plain : ∀ a ∈ attributes, isPlainName a.name) (rest : List Char) :
    State.run ⟨outer, done, .content⟩ ((Piece.opening tag attributes).chars ++ rest) =
      (State.opened ⟨outer, done, .content⟩ tag attributes).run rest := by
  obtain ⟨all, nonempty⟩ := isPlainName_letters plainTag
  obtain ⟨c, letters, spelled⟩ := List.exists_cons_of_ne_nil nonempty
  have awaits := awaits_tag tag.toList.reverse
  rw [nameOf_reverse] at awaits
  obtain ⟨after, awaitsAfter, read⟩ := run_attributes awaits attributes plain
  rw [spelled, List.forall_mem_cons] at all
  have start : step ⟨outer, done, .bracket⟩ c = some ⟨outer, done, .tag [c]⟩ := by
    simp [step, all.1, isNameChar_ne all.1 (show isNameChar '/' = false by decide)]
  have reversed : letters.reverse ++ [c] = tag.toList.reverse := by
    rw [spelled, List.reverse_cons]
  simp only [Piece.chars, List.cons_append, List.append_assoc]
  rw [run_step rfl, spelled, List.cons_append, run_step start,
    run_name (fun c name plain => step_tag plain name) all.2, reversed, read]
  exact run_step (awaitsAfter outer done).1 rest

theorem run_closing {tag : String} (plainTag : isPlainName tag) (attributes : List Attribute)
    (before : List Dom) (rest : List Char) :
    State.run ⟨⟨tag, attributes, before⟩ :: outer, done, .content⟩
        ((Piece.closing tag).chars ++ rest) =
      State.run ⟨outer, .element tag attributes done.reverse :: before, .content⟩ rest := by
  have all := (isPlainName_letters plainTag).1
  have closes : step ⟨⟨tag, attributes, before⟩ :: outer, done, .closing tag.toList.reverse⟩ '>' =
      some ⟨outer, .element tag attributes done.reverse :: before, .content⟩ := by
    simp [step, nameOf_reverse, closed?]
  simp only [Piece.chars, List.cons_append, List.append_assoc]
  rw [run_step rfl, run_step rfl, run_name (fun c name plain => step_closing plain name) all,
    List.append_nil, List.nil_append, run_step closes]

end State

mutual

/-- All names are plain, only void tags lack an inside, and nothing is written as it is. -/
def Readable : Markup → Prop
  | .text _ => True
  | .raw _ | .rule _ _ => False
  | .element tag attributes _ body =>
    isPlainName tag ∧ (∀ a ∈ attributes, isPlainName a.name) ∧ ReadableBody (isVoidTag tag) body

def ReadableBody (void : Bool) : Body → Prop
  | .void => void = true
  | .inline nodes | .block nodes => void = false ∧ ReadableAll nodes

def ReadableAll : List Markup → Prop
  | [] => True
  | node :: rest => Readable node ∧ ReadableAll rest

end

theorem plain_styleAttribute {styles : List Declaration} :
    ∀ a ∈ styleAttribute styles, isPlainName a.name := by
  intro a h
  unfold styleAttribute at h
  split at h
  · cases h
  · cases List.mem_singleton.1 h
    exact (by decide : isPlainName "style" = true)

theorem opened_of_inside {tag : String} (inside : isVoidTag tag = false)
    (attributes : List Attribute) :
    State.opened ⟨outer, done, .content⟩ tag attributes =
      ⟨⟨tag, attributes, done⟩ :: outer, [], .content⟩ := by
  rw [State.opened, inside]
  rfl

def chars (nodes : List Markup) : List Char := (piecesOfAll none nodes).flatMap Piece.chars

theorem chars_cons (node : Markup) (nodes : List Markup) :
    chars (node :: nodes) = (node.pieces none).flatMap Piece.chars ++ chars nodes := by
  rw [chars, piecesOfAll, List.flatMap_append]
  rfl

theorem chars_element (tag : String) (attributes : List Attribute) (styles : List Declaration)
    (body : Body) :
    ((Markup.element tag attributes styles body).pieces none).flatMap Piece.chars =
      (Piece.opening tag (attributes ++ styleAttribute styles)).chars ++
        (body.pieces none tag).flatMap Piece.chars := by
  simp [Markup.pieces, Layout.line, Layout.lineStart, Layout.lineEnd]

theorem chars_body (tag : String) (nodes : List Markup) {body : Body}
    (same : body = .inline nodes ∨ body = .block nodes) :
    (body.pieces none tag).flatMap Piece.chars = chars nodes ++ (Piece.closing tag).chars := by
  rcases same with rfl | rfl <;>
    simp [Body.pieces, Layout.lineStart, Layout.lineEnd, Layout.deeper, chars]

mutual

theorem run_markup : ∀ (node : Markup), Readable node → ∀ outer done rest,
    State.run ⟨outer, done, .content⟩ ((node.pieces none).flatMap Piece.chars ++ rest) =
      State.run ⟨outer, Dom.put done node, .content⟩ rest
  | .text s, _, outer, done, rest => by
    have read : State.run ⟨outer, done, .content⟩ (s.toList.flatMap Piece.escapeText ++ rest) =
        State.run ⟨outer, Dom.putText (String.ofList s.toList) done, .content⟩ rest :=
      State.run_text s.toList rest
    rw [String.ofList_toList] at read
    simpa [Markup.pieces, Layout.line, Layout.lineStart, Layout.lineEnd, Piece.chars, Dom.put]
      using read
  | .element tag attributes styles body, ⟨plainTag, plain, readable⟩, outer, done, rest => by
    have plainAll : ∀ a ∈ attributes ++ styleAttribute styles, isPlainName a.name :=
      List.forall_mem_append.2 ⟨plain, plain_styleAttribute⟩
    rw [chars_element, List.append_assoc, State.run_opening plainTag plainAll]
    exact run_body body tag plainTag readable _ outer done rest

theorem run_body : ∀ (body : Body) (tag : String), isPlainName tag →
    ReadableBody (isVoidTag tag) body → ∀ attributes outer done rest,
    (State.opened ⟨outer, done, .content⟩ tag attributes).run
        ((body.pieces none tag).flatMap Piece.chars ++ rest) =
      State.run ⟨outer, .element tag attributes (Dom.inside body) :: done, .content⟩ rest
  | .void, tag, _, void, attributes, outer, done, rest => by
    rw [State.opened, void]
    rfl
  | .inline nodes, tag, plainTag, ⟨inside, readable⟩, attributes, outer, done, rest => by
    rw [opened_of_inside inside, chars_body tag nodes (.inl rfl), List.append_assoc,
      run_all nodes readable, State.run_closing plainTag]
    rfl
  | .block nodes, tag, plainTag, ⟨inside, readable⟩, attributes, outer, done, rest => by
    rw [opened_of_inside inside, chars_body tag nodes (.inr rfl), List.append_assoc,
      run_all nodes readable, State.run_closing plainTag]
    rfl

theorem run_all : ∀ (nodes : List Markup), ReadableAll nodes → ∀ outer done rest,
    State.run ⟨outer, done, .content⟩ (chars nodes ++ rest) =
      State.run ⟨outer, Dom.putAll done nodes, .content⟩ rest
  | [], _, _, _, _ => rfl
  | node :: nodes, ⟨readable, others⟩, outer, done, rest => by
    rw [chars_cons, List.append_assoc, run_markup node readable, run_all nodes others]
    rfl

end

/-- The text of markup without trusted parts is read back. -/
theorem read_write {nodes : List Markup} (readable : ReadableAll nodes) :
    read (Piece.write (piecesOfAll none nodes)) = some (Dom.ofMarkup nodes) := by
  have run := run_all nodes readable [] [] []
  rw [List.append_nil] at run
  rw [read, Piece.write, String.toList_ofList]
  change (State.run ⟨[], [], .content⟩ (chars nodes)).bind State.finish? = _
  rw [run]
  rfl

end Reader
end PageBuilder
