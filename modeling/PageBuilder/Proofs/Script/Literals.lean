import PageBuilder.Proofs.Script.Scanner

set_option autoImplicit false

namespace PageBuilder.Script

open Json (compactChars itemsTail membersTail)

def wordValue? (name : String) : Option Json :=
  if name = "null" then some .null
  else if name = "true" then some (.bool true)
  else if name = "false" then some (.bool false)
  else none

variable (abc : Alphabet)

mutual

def json? (text : List Char) : Option (Json × List Char) :=
  letI json? : Reader Json := by apply json?
  letI itemsTail? : Reader (List Json) := by apply itemsTail?
  letI member? : Reader (String × Json) := by apply member?
  letI membersTail? : Reader (List (String × Json)) := by apply membersTail?
  match text with
  | [] => none
  | c :: rest =>
    if c = '"' then (stringBody? rest).map fun read => (.string (.ofList read.1), read.2)
    else if c = '[' then
      match after? "]" rest with
      | some rest => some (.array [], rest)
      | none => do
        let (v, rest) ← json? rest
        let (items, rest) ← itemsTail? rest
        return (.array (v :: items), rest)
    else if c = '\x7b' then
      match after? "\x7d" rest with
      | some rest => some (.object [], rest)
      | none => do
        let (m, rest) ← member? rest
        let (members, rest) ← membersTail? rest
        return (.object (m :: members), rest)
    else if c = '-' || c.isDigit then
      (whole? abc (c :: rest)).map fun read => (.whole read.1, read.2)
    else do
      let (name, rest) ← name? abc (c :: rest)
      return (← wordValue? name, rest)
partial_fixpoint

def itemsTail? (text : List Char) : Option (List Json × List Char) :=
  letI json? : Reader Json := by apply json?
  letI itemsTail? : Reader (List Json) := by apply itemsTail?
  match text with
  | ']' :: rest => some ([], rest)
  | ',' :: rest => do
    let (v, rest) ← json? rest
    let (items, rest) ← itemsTail? rest
    return (v :: items, rest)
  | _ => none
partial_fixpoint

def member? (text : List Char) : Option ((String × Json) × List Char) :=
  letI json? : Reader Json := by apply json?
  do
  let (key, rest) ← string? text
  let (v, rest) ← json? (← after? ":" rest)
  return ((key, v), rest)
partial_fixpoint

def membersTail? (text : List Char) : Option (List (String × Json) × List Char) :=
  letI member? : Reader (String × Json) := by apply member?
  letI membersTail? : Reader (List (String × Json)) := by apply membersTail?
  match text with
  | '\x7d' :: rest => some ([], rest)
  | ',' :: rest => do
    let (m, rest) ← member? rest
    let (members, rest) ← membersTail? rest
    return (m :: members, rest)
  | _ => none
partial_fixpoint

end

variable {abc}

theorem ends_of_separator {c : Char} (h : c ∈ [',', ']', '\x7d']) (rest : List Char) :
    abc.Ends (c :: rest) := by
  simp only [List.mem_cons, List.not_mem_nil, or_false] at h
  rcases h with rfl | rfl | rfl <;> exact Alphabet.ends_cons (by decide) (by decide) rest

theorem ends_itemsTail (items : List Json) (rest : List Char) :
    abc.Ends (itemsTail items rest) := by
  cases items with
  | nil => exact ends_of_separator (by decide) rest
  | cons v items => exact ends_of_separator (by decide) _

theorem ends_membersTail (members : Json.Members) (rest : List Char) :
    abc.Ends (membersTail members rest) := by
  cases members with
  | nil => exact ends_of_separator (by decide) rest
  | cons m members => exact ends_of_separator (by decide) _

/-- A first character that begins neither a string, a list, an object nor a number. -/
def beginsWord (c : Char) : Bool := !(['"', '[', '\x7b', '-'].contains c || c.isDigit)

theorem json?_word {name : String} (valid : Alphabet.latin.isName name)
    (begins : name.toList.head?.all beginsWord) {v : Json} (value : wordValue? name = some v)
    {rest : List Char} (ends : abc.Ends rest) :
    json? abc (name.toList ++ rest) = some (v, rest) := by
  have read := name?_append (Alphabet.isName_of_latin valid) ends.stops_part
  obtain ⟨c, letters, spelled, _, _⟩ := Alphabet.isName_letters valid
  rw [spelled] at begins read ⊢
  have first : beginsWord c := begins
  simp only [beginsWord, List.contains_cons, List.contains_nil, Bool.or_false, Bool.not_eq_true',
    Bool.or_eq_false_iff, beq_eq_false_iff_ne] at first
  obtain ⟨⟨quote, list, object, minus⟩, digit⟩ := first
  rw [List.cons_append] at read ⊢
  rw [json?, if_neg quote, if_neg list, if_neg object, if_neg (by simp [minus, digit]), read]
  simp [value]

theorem intText_first (n : Int) :
    ∃ c letters, (intText n).toList = c :: letters ∧ (c = '-' || c.isDigit) := by
  unfold intText
  split
  · exact ⟨'-', (natText n.natAbs).toList, by simp, rfl⟩
  · obtain ⟨c, digits, spelled, digit⟩ := natText_first n.natAbs
    exact ⟨c, digits, spelled, by rw [digit, Bool.or_true]⟩

theorem json?_whole (n : Int) {rest : List Char} (ends : abc.Ends rest) :
    json? abc ((intText n).toList ++ rest) = some (.whole n, rest) := by
  have read := whole?_append n ends
  obtain ⟨c, letters, spelled, number⟩ := intText_first n
  have other : ∀ d : Char, d ≠ '-' → d.isDigit = false → c ≠ d := by
    rintro d minus digit rfl
    simp [minus, digit] at number
  rw [spelled, List.cons_append] at read ⊢
  rw [json?, if_neg (other '"' (by decide) (by decide)), if_neg (other '[' (by decide) (by decide)),
    if_neg (other '\x7b' (by decide) (by decide)), if_pos number, read]
  rfl

theorem json?_quoteChars (s : String) (rest : List Char) :
    json? abc (Json.quoteChars s ++ rest) = some (.string s, rest) := by
  have read := stringBody?_escaped s.toList rest
  have spelled : Json.quoteChars s ++ rest =
      '"' :: (s.toList.flatMap Json.escapeChar ++ '"' :: rest) := by
    simp [Json.quoteChars]
  rw [spelled, json?, if_pos rfl, read, Option.map_some, String.ofList_toList]

theorem compactChars_first : ∀ v : Json, v.Whole → ∀ rest,
    (v.compactChars ++ rest).head? ≠ some ']'
  | .null, _, _ | .bool false, _, _ | .bool true, _, _ | .string _, _, _ | .array _, _, _
  | .object _, _, _ => fun first => by cases first
  | .number (.whole n), _, rest => by
    obtain ⟨c, letters, spelled, number⟩ := intText_first n
    change ((intText n).toList ++ rest).head? ≠ some ']'
    rw [spelled]
    rintro first
    cases first
    cases number

mutual

theorem json?_compactChars : ∀ v : Json, v.Whole → ∀ rest, abc.Ends rest →
    json? abc (v.compactChars ++ rest) = some (v, rest)
  | .null, _, _, ends =>
    json?_word (show Alphabet.latin.isName "null" by decide) (by decide) rfl ends
  | .bool false, _, _, ends =>
    json?_word (show Alphabet.latin.isName "false" by decide) (by decide) rfl ends
  | .bool true, _, _, ends =>
    json?_word (show Alphabet.latin.isName "true" by decide) (by decide) rfl ends
  | .number (.whole n), _, _, ends => json?_whole n ends
  | .string s, _, rest, _ => json?_quoteChars s rest
  | .array items, whole, rest, _ => json?_array items whole rest
  | .object [], _, rest, _ => by
    have empty : after? "\x7d" ('\x7d' :: rest) = some rest := after?_append "\x7d" rest
    change json? abc ('\x7b' :: '\x7d' :: rest) = _
    rw [json?, if_neg (by decide), if_neg (by decide), if_pos rfl, empty]
  | .object ((k, v) :: members), ⟨whole, membersWhole⟩, rest, _ => by
    have some : after? "\x7d" (Json.quoteChars k ++
        ':' :: (v.compactChars ++ membersTail members rest)) = none :=
      after?_eq_none (show "\x7d".toList = ['\x7d'] from rfl) fun first => by cases first
    rw [Json.compactChars_object, json?, if_neg (by decide), if_neg (by decide), if_pos rfl, some]
    simp [member?_eq k v whole members rest, membersTail?_eq members membersWhole rest]

theorem json?_array : ∀ items : List Json, Json.ItemsWhole items → ∀ rest,
    json? abc ((Json.array items).compactChars ++ rest) = some (.array items, rest)
  | [], _, rest => by
    have empty : after? "]" (']' :: rest) = some rest := after?_append "]" rest
    change json? abc ('[' :: ']' :: rest) = _
    rw [json?, if_neg (by decide), if_pos rfl, empty]
  | v :: items, ⟨whole, itemsWhole⟩, rest => by
    have some : after? "]" (v.compactChars ++ itemsTail items rest) = none :=
      after?_eq_none (show "]".toList = [']'] from rfl) (compactChars_first v whole _)
    rw [Json.compactChars_array, json?, if_neg (by decide), if_pos rfl, some]
    simp [json?_compactChars v whole _ (ends_itemsTail items rest),
      itemsTail?_eq items itemsWhole rest]

theorem itemsTail?_eq : ∀ items : List Json, Json.ItemsWhole items → ∀ rest,
    itemsTail? abc (itemsTail items rest) = some (items, rest)
  | [], _, rest => by
    change itemsTail? abc (']' :: rest) = _
    rw [itemsTail?]
  | v :: items, ⟨whole, itemsWhole⟩, rest => by
    rw [Json.itemsTail_cons, itemsTail?,
      json?_compactChars v whole _ (ends_itemsTail items rest)]
    simp [itemsTail?_eq items itemsWhole rest]

theorem member?_eq (k : String) (v : Json) (whole : v.Whole) (members : Json.Members)
    (rest : List Char) :
    member? abc (Json.quoteChars k ++ ':' :: (v.compactChars ++ membersTail members rest)) =
      some ((k, v), membersTail members rest) := by
  have colon : after? ":" (':' :: (v.compactChars ++ membersTail members rest)) =
      some (v.compactChars ++ membersTail members rest) := after?_append ":" _
  rw [member?, string?_quoteChars]
  simp [colon, json?_compactChars v whole _ (ends_membersTail members rest)]

theorem membersTail?_eq : ∀ members : Json.Members, Json.MembersWhole members → ∀ rest,
    membersTail? abc (membersTail members rest) = some (members, rest)
  | [], _, rest => by
    change membersTail? abc ('\x7d' :: rest) = _
    rw [membersTail?]
  | (k, v) :: members, ⟨whole, membersWhole⟩, rest => by
    rw [Json.membersTail_cons, membersTail?, member?_eq k v whole members rest]
    simp [membersTail?_eq members membersWhole rest]

end

end PageBuilder.Script
