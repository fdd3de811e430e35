import PageBuilder.Proofs.Markup.Reader

set_option autoImplicit false

namespace PageBuilder.Tags

open Reader (isNameChar isNameChar_ne isPlainName isPlainName_letters)

inductive Stage where
  | content
  /-- After a `<`; letters are gathered last first. -/
  | name (letters : List Char)
  /-- After the name, up to the `>`. -/
  | inside
  | quoted
deriving DecidableEq

/-- What was read so far. -/
structure Seen where
  /-- The open element with text inside, in which only its own closing tag is a tag. -/
  within : Option String
  /-- The names of the tags, last first; those of closing tags start with a slash. -/
  tags : List String
deriving DecidableEq

def textElements : List String := ["script", "style", "title", "textarea"]

def wordOf (letters : List Char) : String := String.ofList (letters.map Char.toLower)

namespace Seen

def accepts (seen : Seen) (word : String) : Bool :=
  seen.within.all fun element => word = "/" ++ element

def enter (seen : Seen) (word : String) : Seen :=
  if seen.accepts word then
    ⟨if textElements.contains word then some word else none, word :: seen.tags⟩
  else seen

end Seen

structure State where
  seen : Seen
  stage : Stage
deriving DecidableEq

namespace State

def step : State → Char → State
  | ⟨seen, .content⟩, c => if c = '<' then ⟨seen, .name []⟩ else ⟨seen, .content⟩
  | ⟨seen, .name letters⟩, c =>
    let word := wordOf letters.reverse
    if c = '>' then ⟨seen.enter word, .content⟩
    else if c.isWhitespace then
      ⟨seen.enter word, if seen.accepts word then .inside else .content⟩
    else if c = '<' then ⟨seen, .name []⟩
    else ⟨seen, .name (c :: letters)⟩
  | ⟨seen, .inside⟩, c =>
    if c = '"' then ⟨seen, .quoted⟩ else if c = '>' then ⟨seen, .content⟩ else ⟨seen, .inside⟩
  | ⟨seen, .quoted⟩, c => if c = '"' then ⟨seen, .inside⟩ else ⟨seen, .quoted⟩

def run (s : State) (text : List Char) : State := text.foldl step s

theorem run_append (s : State) (text rest : List Char) :
    s.run (text ++ rest) = (s.run text).run rest := List.foldl_append

theorem run_cons (s : State) (c : Char) (rest : List Char) :
    s.run (c :: rest) = (s.step c).run rest := rfl

/-- Characters that do nothing where they stand are skipped. -/
theorem run_idle {s : State} {text : List Char} (idle : ∀ c ∈ text, s.step c = s) :
    s.run text = s := by
  induction text with
  | nil => rfl
  | cons c text ih =>
    rw [run_cons, idle c List.mem_cons_self]
    exact ih fun d hd => idle d (List.mem_cons_of_mem _ hd)

variable {seen : Seen}

theorem run_calm {text : List Char} (calm : '<' ∉ text) :
    run ⟨seen, .content⟩ text = ⟨seen, .content⟩ := by
  refine run_idle fun c hc => ?_
  have other : c ≠ '<' := fun same => calm (same ▸ hc)
  simp [step, other]

theorem run_name {letters : List Char} (name : ∀ c ∈ letters, isNameChar c)
    (before rest : List Char) :
    run ⟨seen, .name before⟩ (letters ++ rest) =
      run ⟨seen, .name (letters.reverse ++ before)⟩ rest := by
  induction letters generalizing before with
  | nil => rfl
  | cons c letters ih =>
    have plain := name c List.mem_cons_self
    have white : c.isWhitespace = false := by
      simp [Char.isWhitespace, isNameChar_ne plain (show isNameChar ' ' = false by decide),
        isNameChar_ne plain (show isNameChar '\t' = false by decide),
        isNameChar_ne plain (show isNameChar '\r' = false by decide),
        isNameChar_ne plain (show isNameChar '\n' = false by decide)]
    have gathers : step ⟨seen, .name before⟩ c = ⟨seen, .name (c :: before)⟩ := by
      simp [step, white, isNameChar_ne plain (show isNameChar '>' = false by decide),
        isNameChar_ne plain (show isNameChar '<' = false by decide)]
    rw [List.cons_append, run_cons, gathers, ih fun d hd => name d (List.mem_cons_of_mem _ hd),
      List.reverse_cons, List.append_assoc]
    rfl

end State

theorem calm_escapeText (c : Char) : '<' ∉ Piece.escapeText c := by
  unfold Piece.escapeText
  split
  · decide
  · split
    · decide
    · split
      · decide
      · rename_i other _
        exact fun h => other (List.mem_singleton.1 h).symm

theorem calm_escapeValue (c : Char) : '<' ∉ Piece.escapeValue c ∧ '"' ∉ Piece.escapeValue c := by
  unfold Piece.escapeValue
  split
  · decide
  · rename_i quote
    refine ⟨calm_escapeText c, ?_⟩
    unfold Piece.escapeText
    split
    · decide
    · split
      · decide
      · split
        · decide
        · exact fun h => quote (List.mem_singleton.1 h).symm

theorem calm_value (value : String) :
    '<' ∉ value.toList.flatMap Piece.escapeValue ∧
      '"' ∉ value.toList.flatMap Piece.escapeValue := by
  constructor <;> intro h <;> obtain ⟨c, _, mem⟩ := List.mem_flatMap.1 h
  · exact (calm_escapeValue c).1 mem
  · exact (calm_escapeValue c).2 mem

theorem calm_text (content : String) : '<' ∉ content.toList.flatMap Piece.escapeText := fun h => by
  obtain ⟨c, _, mem⟩ := List.mem_flatMap.1 h
  exact calm_escapeText c mem

theorem calm_name {name : String} (plain : isPlainName name) : '<' ∉ name.toList := fun h =>
  isNameChar_ne ((isPlainName_letters plain).1 _ h) (show isNameChar '<' = false by decide) rfl

theorem calm_attribute {a : Attribute} (plain : isPlainName a.name) :
    '<' ∉ Piece.attributeChars a := by
  obtain ⟨name, value⟩ := a
  cases value with
  | none => simp [Piece.attributeChars, calm_name plain]
  | some value => simp [Piece.attributeChars, calm_name plain, (calm_value value).1]

namespace State

variable {seen : Seen}

theorem run_attribute {a : Attribute} (plain : isPlainName a.name) :
    run ⟨seen, .inside⟩ (Piece.attributeChars a) = ⟨seen, .inside⟩ := by
  obtain ⟨name, value⟩ := a
  have skips : ∀ c, c ≠ '"' → c ≠ '>' → step ⟨seen, .inside⟩ c = ⟨seen, .inside⟩ :=
    fun c quote bracket => by simp [step, quote, bracket]
  have named : run ⟨seen, .inside⟩ (' ' :: name.toList) = ⟨seen, .inside⟩ := by
    refine run_idle (List.forall_mem_cons.2 ⟨skips ' ' (by decide) (by decide), fun c hc => ?_⟩)
    have letter := (isPlainName_letters plain).1 c hc
    exact skips c (isNameChar_ne letter (by decide)) (isNameChar_ne letter (by decide))
  cases value with
  | none =>
    rw [Piece.attributeChars, List.append_nil]
    exact named
  | some value =>
    have quoted : run ⟨seen, .quoted⟩ (value.toList.flatMap Piece.escapeValue) =
        ⟨seen, .quoted⟩ := by
      refine run_idle fun c hc => ?_
      have other : c ≠ '"' := fun same => (calm_value value).2 (same ▸ hc)
      simp [step, other]
    have chars : Piece.attributeChars ⟨name, some value⟩ =
        (' ' :: name.toList) ++
          '=' :: '"' :: (value.toList.flatMap Piece.escapeValue ++ ['"']) := by
      simp [Piece.attributeChars]
    rw [chars, run_append, named, run_cons, skips '=' (by decide) (by decide), run_cons]
    change run ⟨seen, .quoted⟩ (_ ++ ['"']) = _
    rw [run_append, quoted]
    rfl

/-- Where attributes follow a name, they are skipped, be it inside a tag or in a text. -/
theorem run_attributes {stage : Stage} (settled : stage = .inside ∨ stage = .content)
    {attributes : List Attribute} (plain : ∀ a ∈ attributes, isPlainName a.name) :
    run ⟨seen, stage⟩ (attributes.flatMap Piece.attributeChars) = ⟨seen, stage⟩ := by
  induction attributes with
  | nil => rfl
  | cons a attributes ih =>
    have first : run ⟨seen, stage⟩ (Piece.attributeChars a) = ⟨seen, stage⟩ := by
      rcases settled with rfl | rfl
      · exact run_attribute (plain a List.mem_cons_self)
      · exact run_calm (calm_attribute (plain a List.mem_cons_self))
    rw [List.flatMap_cons, run_append, first]
    exact ih fun b hb => plain b (List.mem_cons_of_mem _ hb)

theorem run_opening {tag : String} (plainTag : isPlainName tag) {attributes : List Attribute}
    (plain : ∀ a ∈ attributes, isPlainName a.name) :
    run ⟨seen, .content⟩ (Piece.opening tag attributes).chars =
      ⟨seen.enter (wordOf tag.toList), .content⟩ := by
  let stage : Stage := if seen.accepts (wordOf tag.toList) then .inside else .content
  have settled : stage = .inside ∨ stage = .content := by
    by_cases accepted : seen.accepts (wordOf tag.toList) <;> simp [stage, accepted]
  have ends : step ⟨seen.enter (wordOf tag.toList), stage⟩ '>' =
      ⟨seen.enter (wordOf tag.toList), .content⟩ := by
    rcases settled with settled | settled <;> rw [settled] <;> rfl
  have named : ∀ rest, run ⟨seen, .content⟩ ('<' :: tag.toList ++ rest) =
      run ⟨seen, .name tag.toList.reverse⟩ rest := fun rest => by
    change run ⟨seen, .name []⟩ (tag.toList ++ rest) = _
    rw [run_name (isPlainName_letters plainTag).1, List.append_nil]
  rw [Piece.chars, List.append_assoc, named]
  cases attributes with
  | nil =>
    change State.mk (seen.enter (wordOf tag.toList.reverse.reverse)) .content = _
    rw [List.reverse_reverse]
  | cons a attributes =>
    -- The blank before the first attribute ends the name.
    have leaves : ∀ rest, run ⟨seen, .name tag.toList.reverse⟩ (' ' :: rest) =
        run ⟨seen.enter (wordOf tag.toList), stage⟩ (' ' :: rest) := fun rest => by
      have blank : step ⟨seen.enter (wordOf tag.toList), stage⟩ ' ' =
          ⟨seen.enter (wordOf tag.toList), stage⟩ := by
        rcases settled with settled | settled <;> rw [settled] <;> rfl
      rw [run_cons, run_cons, blank]
      change run ⟨seen.enter (wordOf tag.toList.reverse.reverse), _⟩ rest = _
      rw [List.reverse_reverse]
    have spelled : (a :: attributes).flatMap Piece.attributeChars ++ ['>'] =
        ' ' :: ((a :: attributes).flatMap Piece.attributeChars ++ ['>']).tail := rfl
    rw [spelled, leaves, ← spelled, run_append, run_attributes settled plain]
    exact ends

theorem run_closing {tag : String} (plain : isPlainName tag) :
    run ⟨seen, .content⟩ (Piece.closing tag).chars =
      ⟨seen.enter (wordOf ('/' :: tag.toList)), .content⟩ := by
  change run ⟨seen, .name ['/']⟩ (tag.toList ++ ['>']) = _
  rw [run_name (isPlainName_letters plain).1]
  change State.mk (seen.enter (wordOf (tag.toList.reverse ++ ['/']).reverse)) .content = _
  rw [List.reverse_append, List.reverse_reverse]
  rfl

end State

def read (text : String) : List String :=
  (State.run ⟨⟨none, []⟩, .content⟩ text.toList).seen.tags.reverse

/-- A text holds a `<` for each of its tags and some loose ones. Without the loose ones it is read
as these tags and nothing else. -/
structure Shows (text : List Char) (words : List String) (loose : Nat) : Prop where
  count : text.count '<' = words.length + loose
  read : loose = 0 → ∀ seen,
    State.run ⟨seen, .content⟩ text = ⟨words.foldl Seen.enter seen, .content⟩

namespace Shows

theorem append {text rest : List Char} {words others : List String} {loose more : Nat}
    (first : Shows text words loose) (second : Shows rest others more) :
    Shows (text ++ rest) (words ++ others) (loose + more) where
  count := by
    rw [List.count_append, first.count, second.count, List.length_append]
    omega
  read none seen := by
    obtain ⟨noLoose, noMore⟩ := Nat.add_eq_zero_iff.1 none
    rw [State.run_append, first.read noLoose, second.read noMore, List.foldl_append]

/-- A text that is written as it is shows no tags, but any `<` in it is loose. -/
theorem written (text : List Char) : Shows text [] (text.count '<') where
  count := (Nat.zero_add _).symm
  read none _ := State.run_calm (List.count_eq_zero.1 none)

theorem calm {text : List Char} (calm : '<' ∉ text) : Shows text [] 0 := by
  have shown := written text
  rwa [List.count_eq_zero.2 calm] at shown

theorem opening {tag : String} (plainTag : isPlainName tag) {attributes : List Attribute}
    (plain : ∀ a ∈ attributes, isPlainName a.name) :
    Shows (Piece.opening tag attributes).chars [wordOf tag.toList] 0 where
  count := by
    have attributesCalm : '<' ∉ attributes.flatMap Piece.attributeChars := fun h => by
      obtain ⟨a, ha, mem⟩ := List.mem_flatMap.1 h
      exact calm_attribute (plain a ha) mem
    rw [Piece.chars, List.cons_append, List.cons_append, List.count_cons_self, List.count_append,
      List.count_append, List.count_eq_zero.2 (calm_name plainTag),
      List.count_eq_zero.2 attributesCalm]
    rfl
  read _ _ := State.run_opening plainTag plain

theorem closing {tag : String} (plain : isPlainName tag) :
    Shows (Piece.closing tag).chars [wordOf ('/' :: tag.toList)] 0 where
  count := by
    rw [Piece.chars, List.cons_append, List.cons_append, List.count_cons_self,
      List.count_cons_of_ne (by decide), List.count_append, List.count_eq_zero.2 (calm_name plain)]
    rfl
  read _ _ := State.run_closing plain

theorem read_eq {text : String} {words : List String} (shown : Shows text.toList words 0) :
    Tags.read text = (words.foldl Seen.enter ⟨none, []⟩).tags.reverse := by
  rw [Tags.read, shown.read rfl]

end Shows
end PageBuilder.Tags
