import PageBuilder.Component.Source
import PageBuilder.Proofs.Script.Expressions

set_option autoImplicit false

namespace PageBuilder.Script

/-- A quoted text up to its end; with entities or line breaks in it, it would not stand for itself. -/
def quoted? (text : List Char) : Option (String × List Char) :=
  let letters := text.takeWhile (· != '"')
  match text.dropWhile (· != '"') with
  | [] => none
  | _ :: rest => if '&' ∈ letters ∨ '\n' ∈ letters then none else some (.ofList letters, rest)

variable (abc : Alphabet)

def braced? (text : List Char) : Option (Expr × List Char) := do
  let (e, rest) ← conditional? abc (skipGap text)
  return (e, ← token? "\x7d" rest)

def propertyValue? (text : List Char) : Option (Expr × List Char) :=
  match text with
  | '"' :: rest => (quoted? rest).map fun read => (.literal read.1, read.2)
  | '\x7b' :: rest => braced? abc rest
  | _ => none

variable {abc}

theorem braced?_script {e : Expr} (readable : e.isReadable abc) (rest : List Char) :
    braced? abc (e.script.toList ++ '\x7d' :: rest) = some (e, rest) := by
  have closes : Closes abc ('\x7d' :: rest) := closes_cons (by decide) rest
  have close : token? "\x7d" ('\x7d' :: rest) = some rest := after?_append "\x7d" rest
  rw [braced?, skipGap_script readable, conditional?_script readable closes]
  simp [close]

theorem container_text (e : Expr) (rest : List Char) :
    e.container.toList ++ rest = '\x7b' :: (e.script.toList ++ '\x7d' :: rest) := by
  simp [Expr.container]

theorem propertyValue?_container {e : Expr} (readable : e.isReadable abc) (rest : List Char) :
    propertyValue? abc (e.container.toList ++ rest) = some (e, rest) := by
  rw [container_text]
  exact braced?_script readable rest

theorem propertyValue?_attributeLiteral (value : String) (rest : List Char) :
    propertyValue? abc ((attributeLiteral value).toList ++ rest) = some (.literal value, rest) := by
  unfold attributeLiteral
  split
  · exact propertyValue?_container rfl rest
  · rename_i safe
    simp only [List.any_eq_true, not_exists, not_and, Bool.not_eq_true] at safe
    have unquoted : ∀ c ∈ value.toList, (c != '"') = true := by
      intro c mem
      rw [bne_iff_ne]
      rintro rfl
      cases safe _ mem
    have plain : ¬('&' ∈ value.toList ∨ '\n' ∈ value.toList) := by
      rintro (mem | mem) <;> cases safe _ mem
    have spelled : ("\"" ++ value ++ "\"").toList ++ rest = '"' :: (value.toList ++ '"' :: rest) := by
      simp
    have stops : Stops (· != '"') ('"' :: rest) := (stops_cons _ _ _).2 rfl
    rw [spelled, propertyValue?, quoted?, takeWhile_append unquoted stops,
      dropWhile_append unquoted stops]
    simp [plain]

variable (abc) in
def key? (text : List Char) : Option (String × List Char) := (string? text).or (name? abc text)

variable (abc) in
def entry? (text : List Char) : Option ((String × Expr) × List Char) := do
  let (key, rest) ← key? abc text
  let (e, rest) ← conditional? abc (skipGap (← token? ":" rest))
  return ((key, e), rest)

variable (abc) in
def entriesTail? (text : List Char) : Option (List (String × Expr) × List Char) :=
  letI entriesTail? : Reader (List (String × Expr)) := by apply entriesTail?
  match token? "," text with
  | none => do return ([], ← token? "\x7d" text)
  | some rest => do
    let (e, rest) ← entry? abc (skipGap rest)
    let (entries, rest) ← entriesTail? rest
    return (e :: entries, rest)
partial_fixpoint

section

variable (abc : Alphabet) (dialect : Dialect)

/-- What follows a cast, which the typed dialect may have after a value. -/
def uncast? (text : List Char) : Option (List Char) :=
  match dialect, token? "as " text with
  | .typed, some rest => do
    let (_, rest) ← name? abc rest
    let (_, rest) ← path? abc rest
    return rest
  | _, _ => some text

def objectValue? (text : List Char) : Option (List (String × Expr) × List Char) := do
  let (e, rest) ← entry? abc (skipGap (← token? "\x7b" (← after? "\x7b" text)))
  let (entries, rest) ← entriesTail? abc rest
  return (e :: entries, ← token? "\x7d" (← uncast? abc dialect rest))

end

variable {dialect : Dialect}

variable (abc) in
/-- An entry with a name for its key, and with a readable value. -/
def EntryReadable (entry : String × Expr) : Prop :=
  (isCustomProperty entry.1 ∨ abc.isName entry.1) ∧ entry.2.isReadable abc

theorem key?_styleKey {key : String} (known : isCustomProperty key ∨ abc.isName key)
    (rest : List Char) :
    key? abc ((if isCustomProperty key then Json.quote key else key).toList ++ ':' :: rest) =
      some (key, ':' :: rest) := by
  unfold key?
  split
  · have spelled : (Json.quote key).toList = Json.quoteChars key := String.toList_ofList
    rw [spelled, string?_quoteChars]
    rfl
  · rename_i plain
    have valid := known.resolve_left plain
    obtain ⟨c, letters, spelled, start, _⟩ := Alphabet.isName_letters valid
    have unquoted : string? (key.toList ++ ':' :: rest) = none := by
      rw [spelled, List.cons_append, string?]
      rintro letters same
      exact Alphabet.ne_of_part (abc.part_of_start c start) (by decide) (by decide)
        (List.cons.inj same).1
    rw [unquoted, name?_append valid (Alphabet.stops_part (by decide) (by decide) _)]
    rfl

theorem entry?_styleEntry {entry : String × Expr} (readable : EntryReadable abc entry)
    {rest : List Char} (closes : Closes abc rest) :
    entry? abc ((styleEntry entry).toList ++ rest) = some (entry, rest) := by
  have spelled : (styleEntry entry).toList ++ rest =
      (if isCustomProperty entry.1 then Json.quote entry.1 else entry.1).toList ++
        ':' :: ' ' :: (entry.2.script.toList ++ rest) := by
    simp [styleEntry]
  have colon : ∀ text, token? ":" (':' :: text) = some text := fun text => after?_append ":" text
  rw [spelled, entry?, key?_styleKey readable.1]
  simp [colon, skipGap_script readable.2, conditional?_script readable.2 closes]

def entriesText (entries : List (String × Expr)) : List Char :=
  entries.flatMap fun entry => ',' :: ' ' :: (styleEntry entry).toList

theorem closes_entriesText (entries : List (String × Expr)) (rest : List Char) :
    Closes abc (entriesText entries ++ ' ' :: '\x7d' :: rest) := by
  cases entries with
  | nil => exact closes_space (by decide) rest
  | cons entry entries => exact closes_cons (by decide) _

theorem skipGap_styleEntry {entry : String × Expr} (readable : EntryReadable abc entry)
    (rest : List Char) :
    skipGap ((styleEntry entry).toList ++ rest) = (styleEntry entry).toList ++ rest := by
  refine skipGap_of_stops ?_
  unfold styleEntry
  split
  · simp [Json.quote, Json.quoteChars, isGap]
  · rename_i plain
    rw [String.toList_append, String.toList_append, List.append_assoc, List.append_assoc]
    exact stops_name (readable.1.resolve_left plain) _

theorem entriesTail?_eq {entries : List (String × Expr)}
    (readable : ∀ entry ∈ entries, EntryReadable abc entry) (rest : List Char) :
    entriesTail? abc (entriesText entries ++ ' ' :: '\x7d' :: rest) = some (entries, rest) := by
  induction entries with
  | nil =>
    have comma : token? "," (' ' :: '\x7d' :: rest) = none :=
      after?_eq_none (show ",".toList = [','] from rfl) fun first => by cases first
    have close : token? "\x7d" (' ' :: '\x7d' :: rest) = some rest := after?_append "\x7d" rest
    rw [entriesText, List.flatMap_nil, List.nil_append, entriesTail?, comma]
    simp [close]
  | cons entry entries ih =>
    have first := readable entry List.mem_cons_self
    have others := ih fun e mem => readable e (List.mem_cons_of_mem _ mem)
    have comma : ∀ text, token? "," (',' :: text) = some text := fun text => after?_append "," text
    have spelled : entriesText (entry :: entries) ++ ' ' :: '\x7d' :: rest =
        ',' :: ' ' :: ((styleEntry entry).toList ++
          (entriesText entries ++ ' ' :: '\x7d' :: rest)) := by
      simp [entriesText]
    rw [spelled, entriesTail?, comma]
    simp only [skipGap_space, skipGap_styleEntry first,
      entry?_styleEntry first (closes_entriesText entries rest), others, Option.bind_eq_bind,
      Option.bind_some]
    rfl

/-- A cast that the dialect may have after the value of a property. -/
def IsCast (dialect : Dialect) (cast : String) : Prop := cast = "" ∨ cast = Page.styleCast dialect

theorem uncast?_cast {cast : String} (casts : IsCast dialect cast) (rest : List Char) :
    uncast? abc dialect (cast.toList ++ '\x7d' :: rest) = some ('\x7d' :: rest) := by
  have plain : token? "as " ('\x7d' :: rest) = none :=
    after?_eq_none (show "as ".toList = 'a' :: _ from rfl) fun first => by cases first
  rcases casts with rfl | rfl
  · cases dialect <;> simp [uncast?, plain]
  cases dialect with
  | untyped => simp [uncast?, Page.styleCast]
  | typed =>
    have spelled : (Page.styleCast .typed).toList ++ '\x7d' :: rest =
        ' ' :: ("as ".toList ++ ("React".toList ++
          ((["CSSProperties"].flatMap fun name => '.' :: name.toList) ++ '\x7d' :: rest))) := by
      simp [Page.styleCast]
    have word : ∀ text, token? "as " (' ' :: ("as ".toList ++ text)) = some text := fun text =>
      after?_append "as " text
    have react : abc.isName "React" := Alphabet.isName_of_latin (by decide)
    have type : ∀ name ∈ ["CSSProperties"], abc.isName name := by
      simpa using Alphabet.isName_of_latin (by decide : Alphabet.latin.isName "CSSProperties")
    have ends : abc.Ends ('\x7d' :: rest) := Alphabet.ends_cons (by decide) (by decide) rest
    rw [spelled]
    simp only [uncast?, word, name?_append react (stops_flatMap _ ends), path?_append type ends,
      Option.bind_eq_bind, Option.bind_some]
    rfl

theorem objectValue?_eq {entry : String × Expr} {entries : List (String × Expr)}
    (readable : ∀ e ∈ entry :: entries, EntryReadable abc e) {cast : String}
    (casts : IsCast dialect cast) (rest : List Char) :
    objectValue? abc dialect ('\x7b' :: '\x7b' :: ' ' :: ((styleEntry entry).toList ++
      (entriesText entries ++ ' ' :: '\x7d' :: (cast.toList ++ '\x7d' :: rest)))) =
        some (entry :: entries, rest) := by
  have first := readable entry List.mem_cons_self
  have outer : ∀ text, after? "\x7b" ('\x7b' :: text) = some text := fun text =>
    after?_append "\x7b" text
  have inner : ∀ text, token? "\x7b" ('\x7b' :: text) = some text := fun text =>
    after?_append "\x7b" text
  have close : token? "\x7d" ('\x7d' :: rest) = some rest := after?_append "\x7d" rest
  rw [objectValue?, outer]
  simp only [inner, skipGap_space, skipGap_styleEntry first, Option.bind_eq_bind, Option.bind_some,
    entry?_styleEntry first (closes_entriesText entries _),
    entriesTail?_eq (fun e mem => readable e (List.mem_cons_of_mem _ mem)), uncast?_cast casts,
    close]
  rfl

/-- What stands in an opening tag, and whether the element ends with it. -/
structure Opening where
  properties : List (String × Expr)
  styles : List (String × Expr)
  markup : Option Expr
  closed : Bool

def markup? : List (String × Expr) → Option Expr
  | [entry] => if entry.1 = "__html" then some entry.2 else none
  | _ => none

variable (abc dialect) in
def opening? (text : List Char) : Option (Opening × List Char) :=
  letI opening? : Reader Opening := by apply opening?
  match skipGap text with
  | '>' :: rest => some (⟨[], [], none, false⟩, rest)
  | '/' :: '>' :: rest => some (⟨[], [], none, true⟩, rest)
  | text => do
    let (name, rest) ← name? abc text
    let rest ← after? "=" rest
    if name = "style" then
      let (styles, rest) ← objectValue? abc dialect rest
      let (o, rest) ← opening? rest
      guard o.styles.isEmpty
      return ({ o with styles }, rest)
    else if name = "dangerouslySetInnerHTML" then
      let (entries, rest) ← objectValue? abc dialect rest
      let markup ← markup? entries
      let (o, rest) ← opening? rest
      guard o.markup.isNone
      return ({ o with markup := some markup }, rest)
    else
      let (e, rest) ← propertyValue? abc rest
      let (o, rest) ← opening? rest
      return ({ o with properties := (name, e) :: o.properties }, rest)
partial_fixpoint

variable (abc) in
/-- A property that neither sets the style nor the markup. -/
def PropertyReadable (p : String × Expr) : Prop :=
  abc.isName p.1 ∧ p.1 ≠ "style" ∧ p.1 ≠ "dangerouslySetInnerHTML" ∧ p.2.isReadable abc

theorem opening?_name {name : String} (valid : abc.isName name) (text : List Char) :
    opening? abc dialect (' ' :: (name.toList ++ '=' :: text)) =
      if name = "style" then do
        let (styles, rest) ← objectValue? abc dialect text
        let (o, rest) ← opening? abc dialect rest
        guard o.styles.isEmpty
        return ({ o with styles }, rest)
      else if name = "dangerouslySetInnerHTML" then do
        let (entries, rest) ← objectValue? abc dialect text
        let markup ← markup? entries
        let (o, rest) ← opening? abc dialect rest
        guard o.markup.isNone
        return ({ o with markup := some markup }, rest)
      else do
        let (e, rest) ← propertyValue? abc text
        let (o, rest) ← opening? abc dialect rest
        return ({ o with properties := (name, e) :: o.properties }, rest) := by
  have read := name?_append valid
    (show Stops abc.isPart ('=' :: text) from Alphabet.stops_part (by decide) (by decide) _)
  have equals : after? "=" ('=' :: text) = some text := after?_append "=" text
  obtain ⟨c, letters, spelled, start, _⟩ := Alphabet.isName_letters valid
  have other : ∀ d : Char, d.toNat < 128 → isNameChar d = false → c ≠ d := fun _ =>
    Alphabet.ne_of_part (abc.part_of_start c start)
  rw [opening?, skipGap_space, skipGap_name valid]
  split
  · rename_i same
    rw [spelled] at same
    exact absurd (List.cons.inj same).1 (other '>' (by decide) (by decide))
  · rename_i same
    rw [spelled] at same
    exact absurd (List.cons.inj same).1 (other '/' (by decide) (by decide))
  · rw [read]
    simp [equals]

theorem opening?_property {p : String × Expr} (readable : PropertyReadable abc p)
    {rest after : List Char} {o : Opening} (read : opening? abc dialect rest = some (o, after)) :
    opening? abc dialect ((propertySource p).toList ++ rest) =
      some ({ o with properties := p :: o.properties }, after) := by
  obtain ⟨name, e⟩ := p
  obtain ⟨valid, notStyle, notMarkup, known⟩ := readable
  have value : ∃ text, (propertySource (name, e)).toList ++ rest =
      ' ' :: (name.toList ++ '=' :: text) ∧ propertyValue? abc text = some (e, rest) := by
    cases e with
    | literal s =>
      exact ⟨(attributeLiteral s).toList ++ rest, by simp [propertySource],
        propertyValue?_attributeLiteral s rest⟩
    | _ => exact ⟨_, by simp [propertySource], propertyValue?_container known rest⟩
  obtain ⟨text, spelled, readValue⟩ := value
  rw [spelled, opening?_name valid, if_neg notStyle, if_neg notMarkup, readValue]
  simp [read]

theorem styleSource_text (cast : String) (entry : String × Expr) (entries : List (String × Expr))
    (rest : List Char) : (styleSource cast (entry :: entries)).toList ++ rest = ' ' ::
      ("style".toList ++ '=' :: '\x7b' :: '\x7b' :: ' ' :: ((styleEntry entry).toList ++
        (entriesText entries ++ ' ' :: '\x7d' :: (cast.toList ++ '\x7d' :: rest)))) := by
  have joined : (", ".intercalate ((entry :: entries).map styleEntry)).toList =
      (styleEntry entry).toList ++ entriesText entries := by
    rw [List.map_cons, toList_intercalate_cons, List.flatMap_map]
    rfl
  simp only [styleSource, List.isEmpty_cons, Bool.false_eq_true, if_false, String.toList_append,
    joined]
  simp

section

variable {cast : String} (casts : IsCast dialect cast)
include casts

theorem opening?_styles {styles : List (String × Expr)} (known : ∀ s ∈ styles, EntryReadable abc s)
    {rest after : List Char} {o : Opening} (plain : o.styles = [])
    (read : opening? abc dialect rest = some (o, after)) :
    opening? abc dialect ((styleSource cast styles).toList ++ rest) =
      some ({ o with styles }, after) := by
  cases styles with
  | nil =>
    obtain ⟨properties, styles, markup, closed⟩ := o
    cases plain
    exact read
  | cons entry entries =>
    rw [styleSource_text, opening?_name (Alphabet.isName_of_latin (by decide)), if_pos rfl,
      objectValue?_eq known casts]
    simp [read, plain]

theorem opening?_openingSource {properties styles : List (String × Expr)}
    (named : ∀ p ∈ properties, PropertyReadable abc p) (known : ∀ s ∈ styles, EntryReadable abc s)
    {rest after : List Char} {o : Opening} (plain : o.properties = [] ∧ o.styles = [])
    (read : opening? abc dialect rest = some (o, after)) :
    opening? abc dialect ((String.join (properties.map propertySource)).toList ++
      ((styleSource cast styles).toList ++ rest)) = some ({ o with properties, styles }, after) := by
  induction properties with
  | nil =>
    have styled := opening?_styles casts known plain.2 read
    rw [plain.1] at styled
    simpa using styled
  | cons p properties ih =>
    have others := ih fun q mem => named q (List.mem_cons_of_mem _ mem)
    rw [List.map_cons, String.join_cons, String.toList_append, List.append_assoc]
    exact opening?_property (named p List.mem_cons_self) others

end

theorem opening?_markup {e : Expr} (readable : e.isReadable abc) {rest after : List Char} {o : Opening}
    (unmarked : o.markup = none) (read : opening? abc dialect rest = some (o, after)) :
    opening? abc dialect
      ((" dangerouslySetInnerHTML=\x7b\x7b __html: " ++ e.script ++ " \x7d\x7d").toList ++ rest) =
        some ({ o with markup := some e }, after) := by
  have known : ∀ entry ∈ [("__html", e)], EntryReadable abc entry := by
    intro entry mem
    rw [List.mem_singleton.1 mem]
    exact ⟨.inr (Alphabet.isName_of_latin (show Alphabet.latin.isName "__html" by decide)), readable⟩
  have spelled : (" dangerouslySetInnerHTML=\x7b\x7b __html: " ++ e.script ++
      " \x7d\x7d").toList ++ rest = ' ' :: ("dangerouslySetInnerHTML".toList ++ '=' :: '\x7b' ::
        '\x7b' :: ' ' :: ((styleEntry ("__html", e)).toList ++
          (entriesText [] ++ ' ' :: '\x7d' :: ("".toList ++ '\x7d' :: rest)))) := by
    have plain : isCustomProperty "__html" = false := by decide
    simp [styleEntry, entriesText, plain]
  rw [spelled, opening?_name (Alphabet.isName_of_latin (by decide)), if_neg (by decide), if_pos rfl,
    objectValue?_eq known (.inl rfl)]
  simp [markup?, read, unmarked]

end PageBuilder.Script
