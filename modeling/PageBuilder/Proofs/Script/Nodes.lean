import PageBuilder.Proofs.Script.Elements

set_option autoImplicit false

namespace PageBuilder.Script

variable {abc : Alphabet} {dialect : Dialect}

def indentation (depth : Nat) : List Char := (String.join (List.replicate depth "  ")).toList

/-- The text of lines, each after the end of the one before it. -/
def following (lines : List Line) : List Char :=
  lines.flatMap fun l => '\n' :: (indentation l.depth ++ l.text.toList)

def flow : List Line → List Char
  | [] => []
  | l :: lines => l.text.toList ++ following lines

theorem isGap_indentation (depth : Nat) : ∀ c ∈ indentation depth, isGap c := by
  intro c mem
  rw [indentation, String.toList_join, List.mem_flatMap] at mem
  obtain ⟨pair, known, inside⟩ := mem
  have spaces : pair.toList = [' ', ' '] := by rw [List.eq_of_mem_replicate known]; rfl
  have space : c = ' ' := by simpa [spaces] using inside
  rw [space]
  rfl

@[simp]
theorem skipGap_indentation (depth : Nat) (text : List Char) :
    skipGap (indentation depth ++ text) = skipGap text :=
  List.dropWhile_append_of_pos (isGap_indentation depth)

theorem following_append (lines others : List Line) :
    following (lines ++ others) = following lines ++ following others := List.flatMap_append

theorem following_cons (l : Line) (lines : List Line) :
    following (l :: lines) = '\n' :: (indentation l.depth ++ (l.text.toList ++ following lines)) := by
  simp [following]

theorem following_write (lines : List Line) :
    '\n' :: (Line.write lines).toList = following lines ++ ['\n'] := by
  induction lines with
  | nil => rfl
  | cons l lines ih =>
    rw [following_cons, List.cons_append, List.append_assoc, List.append_assoc, ← ih]
    simp [Line.write, String.join_cons, indentation]

theorem nodeGap?_line (depth : Nat) {text : List Char} (solid : Stops isGap text) :
    nodeGap? ('\n' :: (indentation depth ++ text)) = some text := by
  have all : ∀ c ∈ '\n' :: indentation depth, isGap c :=
    List.forall_mem_cons.2 ⟨rfl, isGap_indentation depth⟩
  have gap : ('\n' :: (indentation depth ++ text)).takeWhile isGap = '\n' :: indentation depth :=
    takeWhile_append all solid
  rw [nodeGap?, gap, if_pos (.inr List.mem_cons_self), skipGap_line, skipGap_indentation,
    skipGap_of_stops solid]

theorem nodeGap?_solid {text : List Char} (solid : Stops isGap text) :
    nodeGap? text = some text := by
  have gap : text.takeWhile isGap = [] := takeWhile_append (List.forall_mem_nil _) solid
  rw [nodeGap?, gap, if_pos (.inl rfl), skipGap_of_stops solid]

theorem token?_line {word : String} (depth : Nat) {rest : List Char}
    (solid : Stops isGap (word.toList ++ rest)) :
    token? word ('\n' :: (indentation depth ++ (word.toList ++ rest))) = some rest := by
  rw [token?, skipGap_line, skipGap_indentation, skipGap_of_stops solid, after?_append]

theorem token?_closeLine (depth : Nat) (rest : List Char) :
    token? ")" ('\n' :: (indentation depth ++ ')' :: rest)) = some rest :=
  token?_line depth (show Stops isGap (")".toList ++ rest) from (stops_cons _ _ _).2 rfl)

theorem primary?_eq_none {c : Char} (other : c ∈ ['[', '\x7b', '<', '/']) (text : List Char) :
    primary? abc (c :: text) = none := by
  simp only [List.mem_cons, List.not_mem_nil, or_false] at other
  have unnamed : name? abc (c :: text) = none := by
    refine name?_eq_none ?_ ?_ text <;> rcases other with rfl | rfl | rfl | rfl <;> decide
  rcases other with rfl | rfl | rfl | rfl <;>
    rw [primary?, if_neg (by decide), if_neg (by decide), if_neg (by decide), if_neg (by decide),
      unnamed] <;>
    rfl

theorem items?_of_primary? {text rest : List Char} {e : Expr}
    (read : primary? abc text = some (e, rest)) (noCall : rest.head? ≠ some '(') :
    items? abc text = (after? "?.map(" rest).map fun rest => (.of e, rest) := by
  have noList : text.head? ≠ some '[' := by
    cases text with
    | nil => simp
    | cons c text =>
      rintro first
      cases Option.some.inj first
      rw [primary?_eq_none (by decide)] at read
      cases read
  have noRange : after? "Array.from(\x7b length: " text = none := by
    rw [Option.eq_none_iff_forall_ne_some]
    intro others range
    have call : text = (".".intercalate ["Array", "from"]).toList ++
        '(' :: '\x7b' :: ' ' :: 'l' :: 'e' :: 'n' :: 'g' :: 't' :: 'h' :: ':' :: ' ' :: others := by
      rw [eq_append_of_after? range]
      rfl
    have array : abc.isVariable "Array" := isVariable_of_latin (by decide)
    have names : ∀ name ∈ ["from"], abc.isName name := by
      simpa using Alphabet.isName_of_latin (by decide : Alphabet.latin.isName "from")
    rw [call, primary?_field array names (Alphabet.ends_cons (by decide) (by decide) _)] at read
    cases read
    exact noCall rfl
  rw [items?, if_neg noList, noRange]
  simp only [read, Option.bind_eq_bind, Option.bind_some]
  cases after? "?.map(" rest <;> rfl

theorem items?_inline {items : List Json} (whole : (Json.array items).Whole) (rest : List Char) :
    items? abc ((Items.inline (.array items)).script.toList ++
      '.' :: 'm' :: 'a' :: 'p' :: '(' :: rest) = some (.inline (.array items), rest) := by
  have map : after? ".map(" ('.' :: 'm' :: 'a' :: 'p' :: '(' :: rest) = some rest :=
    after?_append ".map(" rest
  have read : json? abc _ = _ := json?_array items whole ('.' :: 'm' :: 'a' :: 'p' :: '(' :: rest)
  have spelled : (Items.inline (.array items)).script.toList = (Json.array items).compactChars :=
    String.toList_ofList
  have list : ((Json.array items).compactChars ++ '.' :: 'm' :: 'a' :: 'p' :: '(' :: rest).head? =
      some '[' := rfl
  rw [spelled, items?, if_pos list, read]
  simp [map]

theorem items?_of {list : Expr} (readable : list.isReadable abc) (rest : List Char) :
    items? abc ((Items.of list).script.toList ++ '.' :: 'm' :: 'a' :: 'p' :: '(' :: rest) =
      some (.of list, rest) := by
  have spelled : (Items.of list).script.toList ++ '.' :: 'm' :: 'a' :: 'p' :: '(' :: rest =
      list.script.toList ++ '?' :: '.' :: 'm' :: 'a' :: 'p' :: '(' :: rest := by
    have mark : (Items.of list).script = list.script ++ "?" := rfl
    rw [mark, String.toList_append, List.append_assoc]
    rfl
  have read := primary?_script list readable ('?' :: '.' :: 'm' :: 'a' :: 'p' :: '(' :: rest)
    (Alphabet.ends_cons (by decide) (by decide) _)
  have chain : after? "?.map(" ('?' :: '.' :: 'm' :: 'a' :: 'p' :: '(' :: rest) = some rest :=
    after?_append "?.map(" rest
  rw [spelled, items?_of_primary? read (by simp), chain, Option.map_some]

theorem items?_range (count : Nat) (rest : List Char) :
    items? abc ((Items.range count).script.toList ++ '.' :: 'm' :: 'a' :: 'p' :: '(' :: rest) =
      some (.range count, rest) := by
  have map : after? ".map(" ('.' :: 'm' :: 'a' :: 'p' :: '(' :: rest) = some rest :=
    after?_append ".map(" rest
  have spelled : (Items.range count).script.toList ++ '.' :: 'm' :: 'a' :: 'p' :: '(' :: rest =
      "Array.from(\x7b length: ".toList ++ (Nat.toDigits 10 count ++
        (" \x7d, (_, i) => i)".toList ++ '.' :: 'm' :: 'a' :: 'p' :: '(' :: rest)) := by
    have call : (Items.range count).script =
        "Array.from(\x7b length: " ++ natText count ++ " \x7d, (_, i) => i)" := rfl
    have digits : (natText count).toList = Nat.toDigits 10 count := String.toList_ofList
    rw [call, String.toList_append, String.toList_append, digits, List.append_assoc,
      List.append_assoc]
  have noList : ("Array.from(\x7b length: ".toList ++ (Nat.toDigits 10 count ++
      (" \x7d, (_, i) => i)".toList ++ '.' :: 'm' :: 'a' :: 'p' :: '(' :: rest))).head? ≠
        some '[' := by
    rw [show "Array.from(\x7b length: ".toList = 'A' :: _ from rfl]
    simp
  have read := digits?_append count (show abc.Ends (" \x7d, (_, i) => i)".toList ++
    '.' :: 'm' :: 'a' :: 'p' :: '(' :: rest) from Alphabet.ends_space _)
  rw [spelled, items?, if_neg noList, after?_append]
  simp only [read, Option.bind_eq_bind, Option.bind_some, after?_append, map]
  rfl

theorem items?_script {items : Items} (readable : items.Readable abc) (rest : List Char) :
    items? abc (items.script.toList ++ '.' :: 'm' :: 'a' :: 'p' :: '(' :: rest) =
      some (items, rest) := by
  cases items with
  | inline v =>
    obtain ⟨⟨items, rfl⟩, whole⟩ := readable
    exact items?_inline whole rest
  | of list => exact items?_of readable rest
  | range count => exact items?_range count rest

theorem isName_index {binding : String} (valid : abc.isName binding) :
    abc.isName (binding ++ "Index") := by
  obtain ⟨c, letters, spelled, start, all⟩ := Alphabet.isName_letters valid
  have index : "Index".toList.all isNameChar := by decide
  rw [Alphabet.isName, String.toList_append, spelled, List.cons_append]
  simp only [start, Bool.true_and, List.all_eq_true, List.mem_append]
  rintro d (mem | mem)
  · exact all d (List.mem_cons_of_mem _ mem)
  · exact Alphabet.part_of_isNameChar (List.all_eq_true.1 index d mem)

theorem parameter?_typed {name type : String} (valid : abc.isName name)
    (solid : ∀ rest, skipGap (type.toList ++ rest) = type.toList ++ rest) (rest : List Char) :
    parameter? abc .typed type (name.toList ++ ':' :: ' ' :: (type.toList ++ rest)) =
      some (name, rest) := by
  have colon : ∀ text, token? ":" (':' :: text) = some text := fun text => after?_append ":" text
  have annotation : token? type (' ' :: (type.toList ++ rest)) = some rest := by
    rw [token?, skipGap_space, solid, after?_append]
  rw [parameter?, name?_append valid (Alphabet.stops_part (by decide) (by decide) _)]
  simp [colon, annotation]

theorem parameter?_untyped {name : String} (valid : abc.isName name) (type : String) {rest : List Char}
    (stops : Stops abc.isPart rest) :
    parameter? abc .untyped type (name.toList ++ rest) = some (name, rest) := by
  rw [parameter?, name?_append valid stops]
  rfl

theorem binding?_of_parameters {binding : String} (free : abc.isVariable binding)
    {text others rest : List Char} (solid : skipGap others = others)
    (item : parameter? abc dialect "any" text = some (binding, ',' :: ' ' :: others))
    (index : parameter? abc dialect "number" others =
      some (binding ++ "Index", ')' :: ' ' :: '=' :: '>' :: ' ' :: '(' :: rest)) :
    binding? abc dialect ('(' :: text) = some (binding, rest) := by
  have opening : after? "(" ('(' :: text) = some text := after?_append "(" text
  have comma : ∀ text, token? "," (',' :: text) = some text := fun text => after?_append "," text
  have close : ∀ text, token? ")" (')' :: text) = some text := fun text => after?_append ")" text
  have arrow : ∀ text, token? "=>" (' ' :: '=' :: '>' :: text) = some text := fun text =>
    after?_append "=>" text
  have body : ∀ text, token? "(" (' ' :: '(' :: text) = some text := fun text =>
    after?_append "(" text
  rw [binding?, opening, Option.bind_eq_bind, Option.bind_some, item]
  simp only [Option.bind_eq_bind, Option.bind_some, comma, skipGap_space, solid, index]
  simp [free, close, arrow, body]

theorem binding?_parameters {binding : String} (free : abc.isVariable binding) (rest : List Char) :
    binding? abc dialect ('(' :: ((dialect.parameters binding).toList ++
      ')' :: ' ' :: '=' :: '>' :: ' ' :: '(' :: rest)) = some (binding, rest) := by
  have valid := isName_of_isVariable free
  have indexed := isName_index valid
  cases dialect with
  | typed =>
    have spelled : (Dialect.typed.parameters binding).toList ++
        ')' :: ' ' :: '=' :: '>' :: ' ' :: '(' :: rest =
          binding.toList ++ ':' :: ' ' :: ("any".toList ++ ',' :: ' ' ::
            ((binding ++ "Index").toList ++ ':' :: ' ' :: ("number".toList ++
              ')' :: ' ' :: '=' :: '>' :: ' ' :: '(' :: rest))) := by
      simp [Dialect.parameters]
    rw [spelled]
    exact binding?_of_parameters free (skipGap_name indexed _)
      (parameter?_typed valid (fun _ => rfl) _) (parameter?_typed indexed (fun _ => rfl) _)
  | untyped =>
    have spelled : (Dialect.untyped.parameters binding).toList ++
        ')' :: ' ' :: '=' :: '>' :: ' ' :: '(' :: rest =
          binding.toList ++ ',' :: ' ' :: ((binding ++ "Index").toList ++
              ')' :: ' ' :: '=' :: '>' :: ' ' :: '(' :: rest) := by
      simp [Dialect.parameters]
    rw [spelled]
    exact binding?_of_parameters free (skipGap_name indexed _)
      (parameter?_untyped valid "any" (Alphabet.stops_part (by decide) (by decide) _))
      (parameter?_untyped indexed "number" (Alphabet.stops_part (by decide) (by decide) _))

theorem inBraces?_text {e : Expr} (readable : e.isReadable abc) (rest : List Char) :
    inBraces? abc dialect (e.script.toList ++ '\x7d' :: rest) = some (.text e, rest) := by
  have closes : Closes abc ('\x7d' :: rest) := closes_cons (by decide) rest
  have read := primary?_script e readable _ closes.word
  have noList : items? abc (e.script.toList ++ '\x7d' :: rest) = none := by
    rw [items?_of_primary? read (by simp)]
    have noMap : after? "?.map(" ('\x7d' :: rest) = none :=
      after?_eq_none (show "?.map(".toList = '?' :: _ from rfl) (by simp)
    rw [noMap, Option.map_none]
  have close : token? "\x7d" ('\x7d' :: rest) = some rest := after?_append "\x7d" rest
  rw [inBraces?, noList]
  simp only [level?_of_primary? read fun op mem => closes.quiet.token?_eq_none mem,
    Option.bind_eq_bind, Option.bind_some, question?_eq_none closes.unmarked, close]
  rfl

theorem node?_container {e : Expr} (readable : e.isReadable abc) (rest : List Char) :
    node? abc dialect (e.container.toList ++ rest) = some (.text e, rest) := by
  rw [container_text, node?, skipGap_script readable, inBraces?_text readable]

theorem inBraces?_slash (text : List Char) : inBraces? abc dialect ('/' :: text) = none := by
  have single : primary? abc ('/' :: text) = none := primary?_eq_none (by decide) text
  have noItems : items? abc ('/' :: text) = none := by
    have noRange : after? "Array.from(\x7b length: " ('/' :: text) = none :=
      after?_eq_none (show "Array.from(\x7b length: ".toList = 'A' :: _ from rfl) (by simp)
    rw [items?, if_neg (by simp), noRange, single]
    rfl
  have noText : level? abc operators ('/' :: text) = none := by
    rw [operators, level?, level?, level?, level?, single]
    rfl
  rw [inBraces?, noItems, noText]
  rfl

theorem begins_of_node? {text rest : List Char} {c : Component}
    (read : node? abc dialect text = some (c, rest)) :
    Stops isGap text ∧ ¬(text = [] ∨ text.take 2 = ['<', '/']) ∧ comment? text = none := by
  rw [node?.eq_def] at read
  split at read
  · rename_i others
    refine ⟨(stops_cons _ _ _).2 rfl, ?_, rfl⟩
    rintro (empty | closing)
    · cases empty
    · obtain ⟨tail, rfl⟩ : ∃ tail, others = '/' :: tail := by
        cases others with
        | nil => cases closing
        | cons d tail => exact ⟨tail, by simp_all⟩
      rw [name?_eq_none (by decide) (by decide)] at read
      cases read
  · rename_i others
    refine ⟨(stops_cons _ _ _).2 rfl, by simp, ?_⟩
    unfold comment?
    split
    · rename_i inside same
      cases same
      have solid : skipGap ('/' :: '*' :: inside) = '/' :: '*' :: inside := rfl
      rw [solid, inBraces?_slash] at read
      cases read
    · rfl
  · cases read

/-- Where nodes end: at a closing tag or at the end of the text. -/
def EndsNodes (text rest : List Char) : Prop :=
  nodeGap? text = some rest ∧ (rest = [] ∨ rest.take 2 = ['<', '/'])

theorem nodes?_nil {text rest : List Char} (ends : EndsNodes text rest) :
    nodes? abc dialect text = some ([], rest) := by
  rw [nodes?, ends.1, Option.bind_eq_bind, Option.bind_some, if_pos ends.2]
  rfl

theorem nodes?_cons {text solid others rest : List Char} (gap : nodeGap? text = some solid)
    {c : Component} {nodes : List Component} (first : node? abc dialect solid = some (c, others))
    (tail : nodes? abc dialect others = some (nodes, rest)) :
    nodes? abc dialect text = some (c :: nodes, rest) := by
  obtain ⟨_, goesOn, noComment⟩ := begins_of_node? first
  rw [nodes?, gap, Option.bind_eq_bind, Option.bind_some, if_neg goesOn, noComment, first]
  simp [tail]

theorem nodes?_after_comment {text solid rest : List Char} (gap : nodeGap? text = some solid)
    (comment : comment? solid = some ('\x7d' :: rest)) :
    nodes? abc dialect text = nodes? abc dialect rest := by
  have goesOn : ¬(solid = [] ∨ solid.take 2 = ['<', '/']) := by
    unfold comment? at comment
    split at comment
    · simp
    · cases comment
  have close : token? "\x7d" ('\x7d' :: rest) = some rest := after?_append "\x7d" rest
  rw [nodes?, gap, Option.bind_eq_bind, Option.bind_some, if_neg goesOn, comment]
  simp [close]

theorem nodes?_texts {texts : List Expr} (readable : ∀ e ∈ texts, e.isReadable abc)
    {rest after : List Char} (ends : EndsNodes rest after) :
    nodes? abc dialect ((String.join (texts.map Expr.container)).toList ++ rest) =
      some (texts.map .text, after) := by
  induction texts with
  | nil => simpa using nodes?_nil ends
  | cons e texts ih =>
    have first : node? abc dialect (e.container.toList ++
        ((String.join (texts.map Expr.container)).toList ++ rest)) = some (.text e, _) :=
      node?_container (readable e List.mem_cons_self) _
    have others := ih fun f mem => readable f (List.mem_cons_of_mem _ mem)
    rw [List.map_cons, String.join_cons, String.toList_append, List.append_assoc]
    exact nodes?_cons (nodeGap?_solid (begins_of_node? first).1) first others

theorem insideOf_texts (texts : List Expr) : insideOf (texts.map .text) = .line texts := by
  have all : textsOfAll? (texts.map .text) = some texts := by
    induction texts with
    | nil => rfl
    | cons e texts ih => rw [List.map_cons, textsOfAll?, ih, Option.map_some]
  rw [insideOf, all]

theorem insideOf_block {nodes : List Component} (mixed : textsOfAll? nodes = none) :
    insideOf nodes = .block nodes := by
  rw [insideOf, mixed]

theorem stops_openingSource (cast : String) (properties styles : List (String × Expr))
    {rest : List Char} (stops : Stops abc.isPart rest) :
    Stops abc.isPart ((String.join (properties.map propertySource)).toList ++
      ((styleSource cast styles).toList ++ rest)) := by
  cases properties with
  | nil =>
    have empty : (String.join (([] : List (String × Expr)).map propertySource)).toList = [] := rfl
    rw [empty, List.nil_append]
    cases styles with
    | nil => exact stops
    | cons entry entries =>
      rw [styleSource_text]
      exact Alphabet.stops_part (by decide) (by decide) _
  | cons p properties =>
    have first : ∃ text, (propertySource p).toList = ' ' :: text := by
      obtain ⟨name, e⟩ := p
      cases e <;> exact ⟨_, by simp [propertySource]; rfl⟩
    obtain ⟨text, spelled⟩ := first
    rw [List.map_cons, String.join_cons, String.toList_append, spelled]
    exact Alphabet.stops_part (by decide) (by decide) _

section

variable {tag : String} {properties styles : List (String × Expr)}

theorem node?_tag {cast : String} (casts : IsCast dialect cast) (known : isTag abc tag)
    (named : ∀ p ∈ properties, PropertyReadable abc p) (styled : ∀ s ∈ styles, EntryReadable abc s)
    {rest after final : List Char} {o : Opening} (plain : o.properties = [] ∧ o.styles = [])
    (stops : Stops abc.isPart rest) (read : opening? abc dialect rest = some (o, after))
    {inside : Inside}
    (readInside : inside? abc dialect tag o.closed o.markup after = some (inside, final)) :
    node? abc dialect ('<' :: (tag.toList ++ ((String.join (properties.map propertySource)).toList ++
      ((styleSource cast styles).toList ++ rest)))) =
        some (.element tag properties styles inside, final) := by
  rw [isTag, Bool.and_eq_true] at known
  rw [node?, name?_append known.1 (stops_openingSource cast properties styles stops)]
  simp only [Option.bind_eq_bind, Option.bind_some, known.2, guard_true,
    opening?_openingSource casts named styled plain read, readInside]
  rfl

theorem node?_element (known : isTag abc tag) (named : ∀ p ∈ properties, PropertyReadable abc p)
    (styled : ∀ s ∈ styles, EntryReadable abc s) {rest after final : List Char} {o : Opening}
    (plain : o.properties = [] ∧ o.styles = []) (stops : Stops abc.isPart rest)
    (read : opening? abc dialect rest = some (o, after)) {inside : Inside}
    (readInside : inside? abc dialect tag o.closed o.markup after = some (inside, final)) :
    node? abc dialect ((openingSource tag properties styles).toList ++ rest) =
      some (.element tag properties styles inside, final) := by
  have spelled : (openingSource tag properties styles).toList ++ rest =
      '<' :: (tag.toList ++ ((String.join (properties.map propertySource)).toList ++
        ((styleSource "" styles).toList ++ rest))) := by
    simp [openingSource]
  rw [spelled]
  exact node?_tag (.inl rfl) known named styled plain stops read readInside

end

theorem closingSource_text (tag : String) (rest : List Char) :
    (closingSource tag).toList ++ rest = '<' :: '/' :: (tag.toList ++ '>' :: rest) := by
  simp [closingSource]

theorem endsNodes_solid (rest : List Char) :
    EndsNodes ('<' :: '/' :: rest) ('<' :: '/' :: rest) :=
  ⟨nodeGap?_solid ((stops_cons _ _ _).2 rfl), .inr rfl⟩

theorem endsNodes_line (depth : Nat) (rest : List Char) :
    EndsNodes ('\n' :: (indentation depth ++ '<' :: '/' :: rest)) ('<' :: '/' :: rest) :=
  ⟨nodeGap?_line depth ((stops_cons _ _ _).2 rfl), .inr rfl⟩

theorem inside?_nodes {tag : String} {text rest : List Char} {nodes : List Component}
    (read : nodes? abc dialect text = some (nodes, (closingSource tag).toList ++ rest)) :
    inside? abc dialect tag false none text = some (insideOf nodes, rest) := by
  rw [inside?, read]
  simp only [Option.bind_eq_bind, Option.bind_some, after?_append]
  rfl

theorem opening?_end (rest : List Char) :
    opening? abc dialect ('>' :: rest) = some (⟨[], [], none, false⟩, rest) := by
  have solid : skipGap ('>' :: rest) = '>' :: rest := rfl
  rw [opening?, solid]
  rfl

theorem opening?_closed (rest : List Char) :
    opening? abc dialect (' ' :: '/' :: '>' :: rest) = some (⟨[], [], none, true⟩, rest) := by
  have solid : skipGap (' ' :: '/' :: '>' :: rest) = '/' :: '>' :: rest := rfl
  rw [opening?, solid]
  rfl

section

variable {tag : String} {properties styles : List (String × Expr)}

theorem node?_empty (known : isTag abc tag) (named : ∀ p ∈ properties, PropertyReadable abc p)
    (styled : ∀ s ∈ styles, EntryReadable abc s) (rest : List Char) :
    node? abc dialect ((openingSource tag properties styles ++ " />").toList ++ rest) =
      some (.element tag properties styles .none, rest) := by
  have read : opening? abc dialect _ = _ := opening?_closed rest
  have inside : inside? abc dialect tag true none rest = some (.none, rest) := by rw [inside?]
  rw [String.toList_append, List.append_assoc]
  exact node?_element known named styled ⟨rfl, rfl⟩
    (Alphabet.stops_part (by decide) (by decide) _) read inside

theorem node?_trusted (known : isTag abc tag) (named : ∀ p ∈ properties, PropertyReadable abc p)
    (styled : ∀ s ∈ styles, EntryReadable abc s) {e : Expr} (readable : e.isReadable abc)
    (rest : List Char) :
    node? abc dialect ((openingSource tag properties styles ++
      " dangerouslySetInnerHTML=\x7b\x7b __html: " ++ e.script ++ " \x7d\x7d />").toList ++ rest) =
        some (.element tag properties styles (.trusted e), rest) := by
  have read : opening? abc dialect _ = _ := opening?_markup readable rfl (opening?_closed rest)
  have inside : inside? abc dialect tag true (some e) rest = some (.trusted e, rest) := by rw [inside?]
  have spelled : (openingSource tag properties styles ++
      " dangerouslySetInnerHTML=\x7b\x7b __html: " ++ e.script ++ " \x7d\x7d />").toList ++ rest =
        (openingSource tag properties styles).toList ++
          ((" dangerouslySetInnerHTML=\x7b\x7b __html: " ++ e.script ++ " \x7d\x7d").toList ++
            ' ' :: '/' :: '>' :: rest) := by
    simp
  have stops : Stops abc.isPart ((" dangerouslySetInnerHTML=\x7b\x7b __html: " ++ e.script ++
      " \x7d\x7d").toList ++ ' ' :: '/' :: '>' :: rest) := by
    simp [Alphabet.part_space]
  rw [spelled]
  exact node?_element known named styled ⟨rfl, rfl⟩ stops read inside

theorem node?_nodes (known : isTag abc tag) (named : ∀ p ∈ properties, PropertyReadable abc p)
    (styled : ∀ s ∈ styles, EntryReadable abc s) {text rest : List Char} {nodes : List Component}
    (read : nodes? abc dialect text = some (nodes, (closingSource tag).toList ++ rest)) :
    node? abc dialect ((openingSource tag properties styles).toList ++ '>' :: text) =
      some (.element tag properties styles (insideOf nodes), rest) :=
  node?_element known named styled ⟨rfl, rfl⟩ (Alphabet.stops_part (by decide) (by decide) _)
    (opening?_end text) (inside?_nodes read)

theorem node?_line (known : isTag abc tag) (named : ∀ p ∈ properties, PropertyReadable abc p)
    (styled : ∀ s ∈ styles, EntryReadable abc s) {texts : List Expr}
    (readable : ∀ e ∈ texts, e.isReadable abc) (rest : List Char) :
    node? abc dialect ((openingSource tag properties styles ++ ">" ++
      String.join (texts.map Expr.container) ++ closingSource tag).toList ++ rest) =
        some (.element tag properties styles (.line texts), rest) := by
  have ends := closingSource_text tag rest ▸ endsNodes_solid (tag.toList ++ '>' :: rest)
  have spelled : (openingSource tag properties styles ++ ">" ++
      String.join (texts.map Expr.container) ++ closingSource tag).toList ++ rest =
        (openingSource tag properties styles).toList ++ '>' ::
          ((String.join (texts.map Expr.container)).toList ++
            ((closingSource tag).toList ++ rest)) := by
    simp
  rw [spelled, ← insideOf_texts]
  exact node?_nodes known named styled (nodes?_texts readable ends)

end

theorem wrapped?_eq {opening closing : String} (solid : ∀ rest, Stops isGap (opening.toList ++ rest))
    (depth : Nat) {text rest : List Char} {nodes : List Component}
    (read : nodes? abc dialect text = some (nodes, closing.toList ++ rest)) :
    wrapped? abc dialect opening closing ('\n' :: (indentation depth ++ (opening.toList ++ text))) =
      some (nodes, rest) := by
  rw [wrapped?, token?_line depth (solid text), Option.bind_eq_bind, Option.bind_some, read]
  simp [after?_append]

theorem skipGap_items {items : Items} (readable : items.Readable abc) (rest : List Char) :
    skipGap (items.script.toList ++ rest) = items.script.toList ++ rest := by
  cases items with
  | inline v =>
    obtain ⟨⟨items, rfl⟩, -⟩ := readable
    have spelled : (Items.inline (.array items)).script.toList =
        (Json.array items).compactChars := String.toList_ofList
    rw [spelled]
    exact skipGap_of_stops ((stops_cons _ '[' _).2 rfl)
  | of list =>
    have mark : (Items.of list).script = list.script ++ "?" := rfl
    rw [mark, String.toList_append, List.append_assoc, skipGap_script readable]
  | range count =>
    have call : (Items.range count).script =
        "Array.from(\x7b length: " ++ natText count ++ " \x7d, (_, i) => i)" := rfl
    rw [call]
    refine skipGap_of_stops ?_
    simp [isGap]

theorem node?_list {binding : String} (free : abc.isVariable binding) {items : Items}
    (readable : items.Readable abc) (depth : Nat) {text rest : List Char} {body : List Component}
    (read : nodes? abc dialect text = some (body, "</React.Fragment>".toList ++
      '\n' :: (indentation depth ++ ')' :: ')' :: '\x7d' :: rest))) :
    node? abc dialect (("\x7b" ++ items.script ++ ".map((" ++ dialect.parameters binding ++
      ") => (").toList ++ '\n' :: (indentation (depth + 1) ++
        (("<React.Fragment key=\x7b" ++ binding ++ "Index\x7d>").toList ++ text))) =
          some (.list binding items body, rest) := by
  have spelled : ∀ rest, ("\x7b" ++ items.script ++ ".map((" ++ dialect.parameters binding ++
      ") => (").toList ++ rest = '\x7b' :: (items.script.toList ++ '.' :: 'm' :: 'a' :: 'p' ::
        '(' :: '(' :: ((dialect.parameters binding).toList ++
          ')' :: ' ' :: '=' :: '>' :: ' ' :: '(' :: rest)) := by
    simp
  have solid : ∀ rest, Stops isGap (("<React.Fragment key=\x7b" ++ binding ++
      "Index\x7d>").toList ++ rest) := by
    simp [isGap]
  have wrapped := wrapped?_eq solid (depth + 1) read
  have second : token? ")" (')' :: '\x7d' :: rest) = some ('\x7d' :: rest) :=
    after?_append ")" ('\x7d' :: rest)
  have third : token? "\x7d" ('\x7d' :: rest) = some rest := after?_append "\x7d" rest
  rw [spelled, node?, skipGap_items readable, inBraces?, items?_script readable]
  simp only [binding?_parameters free, Option.bind_eq_bind, Option.bind_some, wrapped,
    token?_closeLine, second, third]
  rfl

theorem wrapped?_fragment (depth : Nat) {text rest : List Char} {nodes : List Component}
    (read : nodes? abc dialect text = some (nodes, '<' :: '/' :: '>' :: rest)) :
    wrapped? abc dialect "<>" "</>" ('\n' :: (indentation depth ++ '<' :: '>' :: text)) =
      some (nodes, rest) :=
  wrapped?_eq (fun _ => (stops_cons _ _ _).2 rfl) depth read

theorem otherwise?_null (rest : List Char) :
    otherwise? abc dialect (' ' :: ("null".toList ++ rest)) = some ([], rest) := by
  have word : token? "null" (' ' :: ("null".toList ++ rest)) = some rest :=
    after?_append "null" rest
  rw [otherwise?, word]

theorem otherwise?_fragment (depth : Nat) {text rest : List Char} {nodes : List Component}
    (read : nodes? abc dialect text =
      some (nodes, '<' :: '/' :: '>' :: '\n' :: (indentation depth ++ ')' :: rest))) :
    otherwise? abc dialect (' ' :: '(' :: '\n' ::
      (indentation (depth + 1) ++ '<' :: '>' :: text)) = some (nodes, rest) := by
  have word : ∀ text, token? "null" (' ' :: '(' :: text) = none := fun _ =>
    after?_eq_none (show "null".toList = ['n', 'u', 'l', 'l'] from rfl) fun first => by cases first
  have opening : ∀ text, token? "(" (' ' :: '(' :: text) = some text := fun text =>
    after?_append "(" text
  rw [otherwise?, word, opening]
  simp only [Option.bind_eq_bind, Option.bind_some, wrapped?_fragment _ read,
    token?_closeLine]
  rfl

theorem node?_choice {condition : Expr} (readable : condition.isReadable abc) (depth : Nat)
    {text others rest : List Char} {yes no : List Component}
    (readYes : nodes? abc dialect text = some (yes, '<' :: '/' :: '>' :: '\n' ::
      (indentation depth ++ ')' :: ' ' :: ':' :: others)))
    (readNo : otherwise? abc dialect others = some (no, '\x7d' :: rest)) :
    node? abc dialect (("\x7b" ++ condition.script ++ " ? (").toList ++ '\n' ::
      (indentation (depth + 1) ++ '<' :: '>' :: text)) = some (.choice condition yes no, rest) := by
  have spelled : ∀ rest, ("\x7b" ++ condition.script ++ " ? (").toList ++ rest =
      '\x7b' :: (condition.script.toList ++ ' ' :: '?' :: ' ' :: '(' :: rest) := by
    simp
  have read := fun rest => primary?_script condition readable (' ' :: '?' :: ' ' :: '(' :: rest)
    (Alphabet.ends_space _)
  have noList : ∀ rest, items? abc (condition.script.toList ++ ' ' :: '?' :: ' ' :: '(' :: rest) =
      none := by
    intro rest
    have noMap : after? "?.map(" (' ' :: '?' :: ' ' :: '(' :: rest) = none :=
      after?_eq_none (show "?.map(".toList = '?' :: _ from rfl) (by simp)
    rw [items?_of_primary? (read rest) (by simp), noMap, Option.map_none]
  have mark : ∀ rest, question? (' ' :: '?' :: ' ' :: '(' :: rest) = some (' ' :: '(' :: rest) :=
    fun _ => rfl
  have opening : ∀ text, token? "(" (' ' :: '(' :: text) = some text := fun text =>
    after?_append "(" text
  have colon : ∀ text, token? ":" (' ' :: ':' :: text) = some text := fun text =>
    after?_append ":" text
  have last : token? "\x7d" ('\x7d' :: rest) = some rest := after?_append "\x7d" rest
  rw [spelled, node?, skipGap_script readable, inBraces?, noList]
  simp only [level?_of_primary? (read _) fun op mem => (quiet_mark _).token?_eq_none mem,
    Option.bind_eq_bind, Option.bind_some, mark, opening, wrapped?_fragment _ readYes,
    token?_closeLine, colon, readNo, last]
  rfl

theorem lines_ne_nil (c : Component) (depth : Nat) : c.lines dialect depth ≠ [] := by
  cases c with
  | element tag properties styles inside => cases inside <;> simp [Component.lines, Inside.lines]
  | _ => simp [Component.lines]

theorem nodeGap?_following {lines : List Line} (filled : lines ≠ []) {rest : List Char}
    (solid : Stops isGap (flow lines ++ rest)) :
    nodeGap? (following lines ++ rest) = some (flow lines ++ rest) := by
  obtain ⟨l, lines, rfl⟩ := List.exists_cons_of_ne_nil filled
  have spelled : following (l :: lines) ++ rest =
      '\n' :: (indentation l.depth ++ (flow (l :: lines) ++ rest)) := by
    simp [following_cons, flow]
  rw [spelled, nodeGap?_line l.depth solid]

theorem flow_list (binding : String) (items : Items) (body : List Component) (depth : Nat)
    (rest : List Char) :
    flow ((Component.list binding items body).lines dialect depth) ++ rest =
      ("\x7b" ++ items.script ++ ".map((" ++ dialect.parameters binding ++ ") => (").toList ++
        '\n' :: (indentation (depth + 1) ++
          (("<React.Fragment key=\x7b" ++ binding ++ "Index\x7d>").toList ++
            (following (linesOfAll dialect (depth + 2) body) ++ '\n' :: (indentation (depth + 1) ++
              '<' :: '/' :: ("React.Fragment>".toList ++
                '\n' :: (indentation depth ++ ')' :: ')' :: '\x7d' :: rest)))))) := by
  simp [Component.lines, flow, following]

/-- A choice goes on after the colon with null, or with the nodes of its other side. -/
theorem flow_choice (condition : Expr) (yes no : List Component) (depth : Nat) (rest : List Char) :
    flow ((Component.choice condition yes no).lines dialect depth) ++ rest =
      ("\x7b" ++ condition.script ++ " ? (").toList ++ '\n' :: (indentation (depth + 1) ++
        '<' :: '>' :: (following (linesOfAll dialect (depth + 2) yes) ++ '\n' ::
          (indentation (depth + 1) ++ '<' :: '/' :: '>' :: '\n' :: (indentation depth ++
            ')' :: ' ' :: ':' :: ' ' ::
              if no.isEmpty then "null".toList ++ '\x7d' :: rest
              else '(' :: '\n' :: (indentation (depth + 1) ++ '<' :: '>' ::
                (following (linesOfAll dialect (depth + 2) no) ++ '\n' ::
                  (indentation (depth + 1) ++ '<' :: '/' :: '>' :: '\n' :: (indentation depth ++
                    ')' :: '\x7d' :: rest)))))))) := by
  cases no <;> simp [Component.lines, fragment, flow, following]

mutual

theorem node?_lines : ∀ c : Component, c.Readable abc → ∀ depth rest,
    node? abc dialect (flow (c.lines dialect depth) ++ rest) = some (c, rest)
  | .text e, readable, depth, rest => by
    rw [Component.lines, flow, following, List.flatMap_nil, List.append_nil]
    exact node?_container readable rest
  | .element tag properties styles inside, ⟨known, named, styled, readable⟩, depth, rest => by
    rw [Component.lines]
    exact node?_insideLines inside readable known named styled depth rest
  | .list binding items body, ⟨free, listed, readable⟩, depth, rest => by
    rw [flow_list]
    exact node?_list free listed depth
      (nodes?_lines body readable (depth + 2) (endsNodes_line (depth + 1) _))
  | .choice condition yes [], ⟨readable, readableYes, _⟩, depth, rest => by
    have readYes := fun rest =>
      nodes?_lines yes readableYes (depth + 2) (endsNodes_line (depth + 1) ('>' :: rest))
    rw [flow_choice]
    exact node?_choice readable depth (readYes _) (otherwise?_null _)
  | .choice condition yes (c :: no), ⟨readable, readableYes, readableNo⟩, depth, rest => by
    have readYes := fun rest =>
      nodes?_lines yes readableYes (depth + 2) (endsNodes_line (depth + 1) ('>' :: rest))
    have readNo := fun rest =>
      nodes?_lines (c :: no) readableNo (depth + 2) (endsNodes_line (depth + 1) ('>' :: rest))
    rw [flow_choice]
    exact node?_choice readable depth (readYes _) (otherwise?_fragment depth (readNo _))

theorem node?_insideLines : ∀ inside : Inside, inside.Readable abc →
    ∀ {tag : String} {properties styles : List (String × Expr)}, isTag abc tag →
    (∀ p ∈ properties, PropertyReadable abc p) → (∀ s ∈ styles, EntryReadable abc s) → ∀ depth rest,
    node? abc dialect (flow (inside.lines dialect depth tag (openingSource tag properties styles)) ++
      rest) = some (.element tag properties styles inside, rest)
  | .none, _, _, _, _, known, named, styled, depth, rest => by
    rw [Inside.lines, flow, following, List.flatMap_nil, List.append_nil]
    exact node?_empty known named styled rest
  | .trusted e, readable, _, _, _, known, named, styled, depth, rest => by
    rw [Inside.lines, flow, following, List.flatMap_nil, List.append_nil]
    exact node?_trusted known named styled readable rest
  | .line texts, readable, _, _, _, known, named, styled, depth, rest => by
    rw [Inside.lines, flow, following, List.flatMap_nil, List.append_nil]
    exact node?_line known named styled readable rest
  | .block nodes, ⟨mixed, readable⟩, tag, properties, styles, known, named, styled, depth, rest => by
    have ends := closingSource_text tag rest ▸ endsNodes_line depth (tag.toList ++ '>' :: rest)
    have read := nodes?_lines nodes readable (depth + 1) ends
    have spelled : flow ((Inside.block nodes).lines dialect depth tag
        (openingSource tag properties styles)) ++ rest =
          (openingSource tag properties styles).toList ++ '>' ::
            (following (linesOfAll dialect (depth + 1) nodes) ++
              '\n' :: (indentation depth ++ ((closingSource tag).toList ++ rest))) := by
      simp [Inside.lines, flow, following]
    rw [spelled, ← insideOf_block mixed]
    exact node?_nodes known named styled read

theorem nodes?_lines : ∀ nodes : List Component, AllReadable abc nodes → ∀ depth {ending after},
    EndsNodes ending after →
    nodes? abc dialect (following (linesOfAll dialect depth nodes) ++ ending) = some (nodes, after)
  | [], _, depth, _, _, ends => by
    rw [linesOfAll, following, List.flatMap_nil, List.nil_append]
    exact nodes?_nil ends
  | c :: nodes, ⟨readable, others⟩, depth, ending, _, ends => by
    have first := node?_lines c readable depth
      (following (linesOfAll dialect depth nodes) ++ ending)
    have tail := nodes?_lines nodes others depth ends
    rw [linesOfAll, following_append, List.append_assoc]
    exact nodes?_cons (nodeGap?_following (lines_ne_nil c depth) (begins_of_node? first).1) first tail

end

theorem nodes?_commentLine {content : String} (unnested : ¬NestsCommentEnd content.toList)
    (depth : Nat) (rest : List Char) :
    nodes? abc dialect (following ((Component.comment content).lines dialect depth) ++ rest) =
      nodes? abc dialect rest := by
  have clean : ¬HoldsCommentEnd (withoutCommentEnds content.toList) :=
    mt (holdsCommentEnd_withoutCommentEnds _).1 unnested
  have spelled : (commentSource content).toList ++ rest = '\x7b' :: '/' :: '*' ::
      (' ' :: withoutCommentEnds content.toList ++ ' ' :: '*' :: '/' :: '\x7d' :: rest) := by
    simp [commentSource]
  have comment : comment? ((commentSource content).toList ++ rest) = some ('\x7d' :: rest) := by
    rw [spelled, comment?, afterComment?_iff]
    simpa [holdsCommentEnd_cons] using clean
  have solid : Stops isGap ((commentSource content).toList ++ rest) := by
    rw [spelled]
    exact (stops_cons _ _ _).2 rfl
  have line : following ((Component.comment content).lines dialect depth) ++ rest =
      '\n' :: (indentation depth ++ ((commentSource content).toList ++ rest)) := by
    simp [Component.lines, following]
  rw [line, nodes?_after_comment (nodeGap?_line depth solid) comment]

theorem source?_lines {nodes : List Component} (readable : AllReadable abc nodes) (depth : Nat) :
    source? abc dialect (Line.write (linesOfAll dialect depth nodes)) = some nodes := by
  have ends : EndsNodes ['\n'] [] := ⟨rfl, .inl rfl⟩
  rw [source?, following_write, nodes?_lines nodes readable depth ends]
  rfl

end PageBuilder.Script
