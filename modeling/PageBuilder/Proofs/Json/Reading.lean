import PageBuilder.Json.Tree
import PageBuilder.Proofs.Json.Spelling

set_option autoImplicit false

namespace PageBuilder.Json

mutual

def tree : Json → Tree
  | .null => .null
  | .bool b => .bool b
  | .number n => .number n.numeral
  | .string s => .string (lettersOf s)
  | .array items => .list (itemsTree items) none
  | .object members => .object (membersTree members) none

def itemsTree : List Json → List Tree
  | [] => []
  | v :: rest => v.tree :: itemsTree rest

def membersTree : List (String × Json) → List (List Letter × Tree)
  | [] => []
  | (k, v) :: rest => (lettersOf k, v.tree) :: membersTree rest

end

mutual

def levels : Json → Nat
  | .array items => itemsLevels items + 1
  | .object members => membersLevels members + 1
  | _ => 0

def itemsLevels : List Json → Nat
  | [] => 0
  | v :: rest => max v.levels (itemsLevels rest)

def membersLevels : List (String × Json) → Nat
  | [] => 0
  | (_, v) :: rest => max v.levels (membersLevels rest)

end

theorem itemsTree_eq (items : List Json) : itemsTree items = items.map tree := by
  induction items with
  | nil => rfl
  | cons v rest ih => rw [itemsTree, List.map_cons, ih]

theorem whole_array_iff (items : List Json) : (array items).Whole ↔ ∀ v ∈ items, v.Whole := by
  change ItemsWhole items ↔ _
  induction items with
  | nil => simp [ItemsWhole]
  | cons v rest ih => rw [ItemsWhole, ih, List.forall_mem_cons]

theorem whole_object_iff (members : Members) :
    (object members).Whole ↔ ∀ m ∈ members, m.2.Whole := by
  change MembersWhole members ↔ _
  induction members with
  | nil => simp [MembersWhole]
  | cons m rest ih => rw [MembersWhole, ih, List.forall_mem_cons]

theorem levels_array_le_iff (items : List Json) (n : Nat) :
    (array items).levels ≤ n + 1 ↔ ∀ v ∈ items, v.levels ≤ n := by
  rw [levels, Nat.add_le_add_iff_right]
  induction items with
  | nil => simp [itemsLevels]
  | cons v rest ih => rw [itemsLevels, Nat.max_le, ih, List.forall_mem_cons]

theorem levels_object_le_iff (members : Members) (n : Nat) :
    (object members).levels ≤ n + 1 ↔ ∀ m ∈ members, m.2.levels ≤ n := by
  rw [levels, Nat.add_le_add_iff_right]
  induction members with
  | nil => simp [membersLevels]
  | cons m rest ih => rw [membersLevels, Nat.max_le, ih, List.forall_mem_cons]

mutual

theorem whole_sorted : ∀ {v : Json}, v.Whole → v.sorted.Whole
  | .array _, whole => itemsWhole_sorted whole
  | .object members, whole => by
    rw [sorted, ofMembers_eq, whole_object_iff]
    have each := (whole_object_iff _).1 (membersWhole_sorted whole)
    exact fun m h => each m (mem_of_mem_arranged h)
  | .null, _ | .bool _, _ | .string _, _ => trivial
  | .number (.whole _), whole => whole

theorem itemsWhole_sorted : ∀ {items : List Json}, ItemsWhole items → ItemsWhole (sortedItems items)
  | [], _ => trivial
  | _ :: _, ⟨whole, itemsWhole⟩ => ⟨whole_sorted whole, itemsWhole_sorted itemsWhole⟩

theorem membersWhole_sorted : ∀ {members : Members},
    MembersWhole members → MembersWhole (sortedMembers members)
  | [], _ => trivial
  | (_, _) :: _, ⟨whole, membersWhole⟩ => ⟨whole_sorted whole, membersWhole_sorted membersWhole⟩

end

mutual

theorem levels_sorted : ∀ v : Json, v.sorted.levels ≤ v.levels
  | .array items => Nat.succ_le_succ (itemsLevels_sorted items)
  | .object members => by
    rw [sorted, ofMembers_eq]
    refine (levels_object_le_iff _ _).2 fun m h => ?_
    have each := (levels_object_le_iff (sortedMembers members) _).1
      (Nat.succ_le_succ (membersLevels_sorted members))
    exact each m (mem_of_mem_arranged h)
  | .null | .bool _ | .string _ | .number _ => Nat.le_refl _

theorem itemsLevels_sorted : ∀ items : List Json,
    itemsLevels (sortedItems items) ≤ itemsLevels items
  | [] => Nat.le_refl _
  | v :: items => by
    have first := levels_sorted v
    have rest := itemsLevels_sorted items
    simp only [sortedItems, itemsLevels]
    omega

theorem membersLevels_sorted : ∀ members : Members,
    membersLevels (sortedMembers members) ≤ membersLevels members
  | [] => Nat.le_refl _
  | (k, v) :: members => by
    have first := levels_sorted v
    have rest := membersLevels_sorted members
    simp only [sortedMembers, membersLevels]
    omega

end

def Expecting.Begins (e : Expecting) : Prop := e = .value ∨ e = .firstItem ∨ e = .item

open Progress (step complete)

theorem step_begin {e : Expecting} (begins : e.Begins) {t : Token} {frames : List Frame}
    {progress : Progress} (value : Progress.value? frames t = some progress) :
    step (.reading e frames) t = progress := by
  rcases begins with rfl | rfl | rfl <;> cases t <;> cases value <;> rfl

mutual

theorem foldl_spelling : ∀ (v : Json) {e : Expecting}, e.Begins → ∀ frames : List Frame,
    v.spelling.foldl step (.reading e frames) = complete v.tree frames
  | .null, _, begins, _ | .bool _, _, begins, _ | .number _, _, begins, _
  | .string _, _, begins, _ => step_begin begins rfl
  | .array [], _, begins, frames => by
    rw [spelling, List.foldl_cons, step_begin begins rfl]
    rfl
  | .array (v :: items), _, begins, frames => by
    rw [spelling, List.cons_append, List.foldl_cons, step_begin begins rfl, List.foldl_append,
      foldl_spelling v (.inr (.inl rfl))]
    exact foldl_itemsSpelling items [v.tree] frames
  | .object [], _, begins, frames => by
    rw [spelling, List.foldl_cons, step_begin begins rfl]
    rfl
  | .object ((k, v) :: members), _, begins, frames => by
    rw [spelling, List.cons_append, List.foldl_cons, step_begin begins rfl]
    change (v.spelling ++ membersSpelling members).foldl step
      (.reading .value (.member [] (lettersOf k) :: frames)) = _
    rw [List.foldl_append, foldl_spelling v (.inl rfl)]
    exact foldl_membersSpelling members [(lettersOf k, v.tree)] frames

theorem foldl_itemsSpelling : ∀ (items : List Json) (done : List Tree) (frames : List Frame),
    (itemsSpelling items).foldl step (.reading .nextItem (.list done :: frames)) =
      complete (.list (done.reverse ++ itemsTree items) none) frames
  | [], done, frames => by
    rw [itemsTree, List.append_nil]
    rfl
  | v :: items, done, frames => by
    change (v.spelling ++ itemsSpelling items).foldl step
      (.reading .item (.list done :: frames)) = _
    rw [List.foldl_append, foldl_spelling v (.inr (.inr rfl))]
    have rest := foldl_itemsSpelling items (v.tree :: done) frames
    rw [List.reverse_cons, List.append_assoc] at rest
    exact rest

theorem foldl_membersSpelling : ∀ (members : Members) (done : List (List Letter × Tree))
    (frames : List Frame),
    (membersSpelling members).foldl step (.reading .nextMember (.object done :: frames)) =
      complete (.object (done.reverse ++ membersTree members) none) frames
  | [], done, frames => by
    rw [membersTree, List.append_nil]
    rfl
  | (k, v) :: members, done, frames => by
    change (v.spelling ++ membersSpelling members).foldl step
      (.reading .value (.member done (lettersOf k) :: frames)) = _
    rw [List.foldl_append, foldl_spelling v (.inl rfl)]
    have rest := foldl_membersSpelling members ((lettersOf k, v.tree) :: done) frames
    rw [List.reverse_cons, List.append_assoc] at rest
    exact rest

end

/-- A text that is cut into the tokens of a value is read as the value's tree. -/
theorem read_of_tokens {v : Json} {text : List Char} (cut : tokens text = v.spelling) :
    Text.read text = ⟨v.tree, false⟩ := by
  rw [Text.read, cut, foldl_spelling v (.inl rfl)]
  rfl

theorem read_compactChars {v : Json} (whole : v.Whole) :
    Text.read v.compactChars = ⟨v.tree, false⟩ := by
  have cut := tokens_compactChars v whole [] trivial
  rw [List.append_nil, show Reading.nothing.tokens [] = [] from rfl, List.append_nil] at cut
  exact read_of_tokens cut

theorem read_prettyChars {v : Json} (whole : v.Whole) :
    Text.read (v.prettyChars 0) = ⟨v.tree, false⟩ := by
  have cut := tokens_prettyChars v whole 0 [] trivial
  rw [List.append_nil, show Reading.nothing.tokens [] = [] from rfl, List.append_nil] at cut
  exact read_of_tokens cut

theorem digitsValue_toDigits (n : Nat) : Numeral.digitsValue (Nat.toDigits 10 n) = n := by
  have value : Nat.ofDigitChars 10 (Nat.toDigits 10 n) 0 = n := Nat.ofDigitChars_ten_toDigits
  rw [Nat.ofDigitChars_eq_foldl] at value
  exact value

theorem toNumber_natural {n : Nat} (high : n < pow2 64) :
    Numeral.toNumber ⟨false, Nat.toDigits 10 n, [], none⟩ = .ok (.whole n) := by
  simp [Numeral.toNumber, digitsValue_toDigits, high]

theorem toNumber_negative {n : Nat} (nonzero : n ≠ 0) (low : n ≤ pow2 63) :
    Numeral.toNumber ⟨true, Nat.toDigits 10 n, [], none⟩ = .ok (.whole (-n)) := by
  simp [Numeral.toNumber, digitsValue_toDigits, nonzero, low]

theorem toNumber_numeral {n : Int} (low : -pow2 63 ≤ n) (high : n < pow2 64) :
    (Number.whole n).numeral.toNumber = .ok (.whole n) := by
  rw [Number.numeral]
  by_cases negative : n < 0
  · have value : -(n.natAbs : Int) = n := by omega
    have read := toNumber_negative (show n.natAbs ≠ 0 by omega) (by omega)
    rwa [value, ← decide_eq_true negative] at read
  · have value : (n.natAbs : Int) = n := by omega
    have read := toNumber_natural (show n.natAbs < pow2 64 by omega)
    rwa [value, ← decide_eq_false negative] at read

theorem joinLetters_unit {a : Nat} (low : a < 0xD800) (stop : Option StringStop)
    (rest : List Letter) :
    joinLetters stop (.unit a :: rest) = do return Char.ofNat a :: (← joinLetters stop rest) := by
  have plain : (decide (a < 0xD800) || decide (0xDFFF < a)) = true := by
    rw [decide_eq_true low]
    rfl
  -- The definition looks at the next letter before it knows that `a` is no surrogate.
  rcases rest with _ | ⟨_ | _, rest⟩
  · rw [joinLetters.eq_4, if_pos plain]
  · rw [joinLetters.eq_5, if_pos plain]
  · rw [joinLetters.eq_6, if_pos plain]

theorem joinLetters_map_letterOf (text : List Char) :
    joinLetters none (text.map letterOf) = .ok text := by
  induction text with
  | nil => rfl
  | cons c text ih =>
    rw [List.map_cons, letterOf]
    split
    · rename_i control
      rw [joinLetters_unit (Nat.lt_trans control.1 (by decide)), ih, Char.ofNat_toNat]
      rfl
    · rw [joinLetters, ih]
      rfl

theorem stringOf_lettersOf (s : String) : stringOf (lettersOf s) = .ok s := by
  rw [stringOf, lettersOf, joinLetters_map_letterOf]
  exact congrArg Except.ok String.ofList_toList

theorem enter_ok {depth : Nat} (room : depth + 1 < 128) : enter depth = .ok (depth + 1) :=
  if_pos room

mutual

theorem toJson_tree : ∀ v : Json, v.Whole → ∀ depth, depth + v.levels < 128 →
    v.tree.toJson depth = .ok v.sorted
  | .null, _, _, _ | .bool _, _, _, _ => rfl
  | .number (.whole n), whole, _, _ => by
    rw [tree, Tree.toJson, toNumber_numeral whole.1 whole.2]
    rfl
  | .string s, _, _, _ => by
    rw [tree, Tree.toJson, stringOf_lettersOf]
    rfl
  | .array items, whole, depth, room => by
    rw [levels] at room
    rw [tree, Tree.toJson, enter_ok (by omega)]
    change (do
      let values ← Tree.itemsToJson (depth + 1) (itemsTree items)
      endingOf none
      return Json.array values) = _
    rw [itemsToJson_itemsTree items whole (depth + 1) (by omega)]
    rfl
  | .object members, whole, depth, room => by
    rw [levels] at room
    rw [tree, Tree.toJson, enter_ok (by omega)]
    change (do
      let values ← Tree.membersToJson (depth + 1) (membersTree members)
      endingOf none
      return ofMembers values) = _
    rw [membersToJson_membersTree members whole (depth + 1) (by omega)]
    rfl

theorem itemsToJson_itemsTree : ∀ items : List Json, ItemsWhole items → ∀ depth,
    depth + itemsLevels items < 128 →
    Tree.itemsToJson depth (itemsTree items) = .ok (sortedItems items)
  | [], _, _, _ => rfl
  | v :: items, ⟨whole, itemsWhole⟩, depth, room => by
    rw [itemsLevels] at room
    rw [itemsTree, Tree.itemsToJson, toJson_tree v whole depth (by omega),
      itemsToJson_itemsTree items itemsWhole depth (by omega)]
    rfl

theorem membersToJson_membersTree : ∀ members : Members, MembersWhole members → ∀ depth,
    depth + membersLevels members < 128 →
    Tree.membersToJson depth (membersTree members) = .ok (sortedMembers members)
  | [], _, _, _ => rfl
  | (k, v) :: members, ⟨whole, membersWhole⟩, depth, room => by
    rw [membersLevels] at room
    rw [membersTree, Tree.membersToJson, stringOf_lettersOf, toJson_tree v whole depth (by omega),
      membersToJson_membersTree members membersWhole depth (by omega)]
    rfl

end

end PageBuilder.Json
