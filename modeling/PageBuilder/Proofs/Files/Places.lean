import PageBuilder.Files.Tree

set_option autoImplicit false

namespace PageBuilder

namespace Path

def IsName (segment : String) : Prop :=
  '/' ∉ segment.toList ∧ component? segment = some (.name segment)

instance (segment : String) : Decidable (IsName segment) := inferInstanceAs (Decidable (_ ∧ _))

def descend (place : Place) (segment : String) : Place :=
  match component? segment with
  | some (.name name) => place ++ [name]
  | some .up => place.dropLast
  | _ => place

def place (p : Path) : Place := p.segments.foldl descend []

theorem descend_name {segment : String} (name : IsName segment) (start : Place) :
    descend start segment = start ++ [segment] := by
  rw [descend, name.2]

theorem foldl_descend_names {names : List String} (proper : ∀ name ∈ names, IsName name)
    (start : Place) : names.foldl descend start = start ++ names := by
  induction names generalizing start with
  | nil => exact (List.append_nil start).symm
  | cons name names ih =>
    rw [List.foldl_cons, descend_name (proper name List.mem_cons_self),
      ih fun other h => proper other (List.mem_cons_of_mem _ h), List.append_assoc]
    rfl

theorem segments_of_not_mem {text : String} (slashless : '/' ∉ text.toList) :
    segments ⟨text⟩ = [text] := by
  have whole : text.toList.splitOnP (· = '/') = [text.toList] := by
    refine List.splitOnP_eq_singleton fun c hc => decide_eq_false fun slash => ?_
    exact slashless (slash ▸ hc)
  rw [segments, whole, List.map_singleton, String.ofList_toList]

theorem segments_append_slash (before after : String) :
    segments ⟨before ++ "/" ++ after⟩ = segments ⟨before⟩ ++ segments ⟨after⟩ := by
  have parts : (before ++ "/" ++ after).toList = before.toList ++ '/' :: after.toList := by simp
  rw [segments, parts, List.splitOnP_append_cons _ _ (by decide), List.map_append]
  rfl

theorem segments_ofNames {names : List String} (proper : ∀ name ∈ names, IsName name)
    (some : names ≠ []) : segments (ofNames names) = names := by
  have parts : ("/".intercalate names).toList = List.intercalate ['/'] (names.map String.toList) :=
    String.toList_intercalate
  have split : (List.intercalate ['/'] (names.map String.toList)).splitOnP (· = '/') =
      names.map String.toList :=
    List.splitOn_intercalate '/' (List.forall_mem_map.2 fun name h => (proper name h).1)
      (mt List.map_eq_nil_iff.1 some)
  rw [segments, ofNames, parts, split, List.map_map]
  exact (List.map_congr_left fun _ _ => String.ofList_toList).trans (List.map_id names)

/-- An empty path has one segment, which leads nowhere. -/
theorem foldl_descend_ofNames {names : List String} (proper : ∀ name ∈ names, IsName name)
    (start : Place) : (ofNames names).segments.foldl descend start = start ++ names := by
  cases names with
  | nil => exact (List.append_nil start).symm
  | cons name names =>
    rw [segments_ofNames proper (List.cons_ne_nil _ _), foldl_descend_names proper]

theorem isAbsolute_of_not_mem {text : String} (slashless : '/' ∉ text.toList) :
    isAbsolute ⟨text⟩ = false :=
  decide_eq_false fun first => slashless (List.mem_of_head? first)

theorem head?_segments_of_isAbsolute {p : Path} (absolute : p.isAbsolute) :
    p.segments.head? = some "" := by
  obtain ⟨rest, slash⟩ := List.head?_eq_some_iff.1 (of_decide_eq_true absolute)
  rw [segments, slash, ← List.nil_append ('/' :: rest),
    List.splitOnP_append_cons _ _ (by decide)]
  rfl

theorem isAbsolute_ofNames {names : List String} (proper : ∀ name ∈ names, IsName name) :
    (ofNames names).isAbsolute = false := by
  refine Bool.eq_false_iff.2 fun absolute => ?_
  cases names with
  | nil => cases absolute
  | cons name names =>
    have first := head?_segments_of_isAbsolute absolute
    rw [segments_ofNames proper (List.cons_ne_nil _ _)] at first
    have empty : IsName "" := Option.some.inj first ▸ proper name List.mem_cons_self
    exact absurd empty (by decide)

theorem place_join {p q : Path} (relative : q.isAbsolute = false) :
    (p.join q).place = q.segments.foldl descend p.place := by
  have slashed : ∀ before : String, place ⟨before ++ "/" ++ q.text⟩ =
      q.segments.foldl descend (place ⟨before⟩) := fun before => by
    rw [place, segments_append_slash, List.foldl_append]
    rfl
  unfold join
  rw [relative]
  split
  · next ends =>
    rcases Bool.or_eq_true_iff.1 ends with empty | slash
    · have none : p.text = "" := by simpa using empty
      simp only [none, String.empty_append, Bool.false_eq_true, if_false]
      rw [place, place, show p = ⟨""⟩ by cases p; cases none; rfl]
      rfl
    · obtain ⟨before, found⟩ := List.getLast?_eq_some_iff.1 (of_decide_eq_true slash)
      have text : p.text = String.ofList before ++ "/" ++ "" :=
        String.toList_inj.1 (by simp [found])
      have same : place p = place ⟨String.ofList before⟩ := by
        rw [place, show p = ⟨p.text⟩ from rfl, text, segments_append_slash, List.foldl_append]
        rfl
      rw [same, ← slashed, text, String.append_empty]
      rfl
  · exact slashed p.text

theorem place_join_names {names : List String} (proper : ∀ name ∈ names, IsName name) (p : Path) :
    (p.join (ofNames names)).place = p.place ++ names := by
  rw [place_join (isAbsolute_ofNames proper), foldl_descend_ofNames proper]

theorem place_join_segment {segment : String} (slashless : '/' ∉ segment.toList) (p : Path) :
    (p.join ⟨segment⟩).place = descend p.place segment := by
  rw [place_join (isAbsolute_of_not_mem slashless), segments_of_not_mem slashless]
  rfl

theorem place_join_name {name : String} (proper : IsName name) (p : Path) :
    (p.join ⟨name⟩).place = p.place ++ [name] := by
  rw [place_join_segment proper.1, descend_name proper]

end Path

namespace FileTree

theorem follow_cons (tree : FileTree) (start : Place) (segment : String) (rest : List String) :
    tree.follow start (segment :: rest) =
      if tree.isFolder start then tree.follow (Path.descend start segment) rest else none := by
  rw [follow, Path.descend]
  cases Path.component? segment with
  | none => rfl
  | some component => cases component <;> rfl

theorem place_of_follow {tree : FileTree} {segments : List String} {start place : Place}
    (found : tree.follow start segments = some place) :
    place = segments.foldl Path.descend start := by
  induction segments generalizing start with
  | nil => exact (Option.some.inj found).symm
  | cons segment rest ih =>
    rw [follow_cons] at found
    split at found
    · exact ih found
    · cases found

theorem place_of_place? {tree : FileTree} {p : Path} {place : Place}
    (found : tree.place? p = some place) : place = p.place := by
  unfold place? at found
  split at found
  · cases found
  · exact place_of_follow found

theorem lookup_cons_eq_if (first place : Place) (text : String) (files : List (Place × String)) :
    ((first, text) :: files).lookup place =
      if place = first then some text else files.lookup place := by
  rw [List.lookup_cons]
  by_cases same : place = first
  · simp [same]
  · simp [same, beq_false_of_ne same]

theorem lookup_put (target place : Place) (text : String) (files : List (Place × String)) :
    (put target text files).lookup place =
      if place = target then some text else files.lookup place := by
  induction files with
  | nil => exact lookup_cons_eq_if target place text []
  | cons file files ih =>
    obtain ⟨first, old⟩ := file
    rw [put]
    split
    · next replaced =>
      subst replaced
      rw [lookup_cons_eq_if, lookup_cons_eq_if]
      split <;> rfl
    · next kept =>
      rw [lookup_cons_eq_if, lookup_cons_eq_if, ih]
      by_cases same : place = first
      · rw [if_pos same, if_pos same, if_neg (same ▸ kept)]
      · rw [if_neg same, if_neg same]

theorem text?_of_write {tree after : FileTree} {p : Path} {text : String}
    (written : tree.write p text = some after) (place : Place) :
    after.text? place = if place = p.place then some text else tree.text? place := by
  obtain ⟨target, found, put⟩ := Option.bind_eq_some_iff.1 written
  split at put
  · cases put
  · cases put
    rw [text?, lookup_put, place_of_place? found]
    rfl

theorem text?_of_makeFoldersFrom (tree : FileTree) (segments : List String) (start place : Place) :
    (tree.makeFoldersFrom start segments).1.text? place = tree.text? place := by
  induction segments generalizing tree start with
  | nil => rfl
  | cons segment rest ih =>
    rw [makeFoldersFrom]
    split
    · dsimp only
      split
      · exact ih tree _
      · split
        · rfl
        · exact ih _ _
    · exact ih tree _
    · exact ih tree _

end FileTree
end PageBuilder
