import Mathlib.Data.List.Nodup
import PageBuilder.Json.Basic

set_option autoImplicit false

namespace PageBuilder.Json

abbrev Members := List (String × Json)

def Ascending (members : Members) : Prop := members.Pairwise fun a b => a.1 < b.1

def DistinctKeys (members : Members) : Prop := (members.map Prod.fst).Nodup

def arranged (members : Members) : Members :=
  members.foldl (fun sorted m => insertMember m.1 m.2 sorted) []

theorem ofMembers_eq (members : Members) : ofMembers members = .object (arranged members) := rfl

theorem Ascending.distinctKeys {members : Members} (h : Ascending members) :
    DistinctKeys members := by
  unfold DistinctKeys
  rw [List.Nodup, List.pairwise_map]
  exact h.imp fun lt => String.ne_of_lt lt

theorem mem_insertMember {key : String} {value : Json} {members : Members} {m : String × Json}
    (h : m ∈ insertMember key value members) : m = (key, value) ∨ m ∈ members := by
  induction members with
  | nil => exact .inl (List.mem_singleton.1 h)
  | cons first rest ih =>
    obtain ⟨k, v⟩ := first
    unfold insertMember at h
    split at h
    · exact (List.mem_cons.1 h).imp_right (List.mem_cons_of_mem _)
    · split at h
      · exact List.mem_cons.1 h
      · rcases List.mem_cons.1 h with rfl | later
        · exact .inr List.mem_cons_self
        · exact (ih later).imp_right (List.mem_cons_of_mem _)

theorem insertMember_ascending {key : String} {value : Json} {members : Members}
    (h : Ascending members) : Ascending (insertMember key value members) := by
  induction members with
  | nil => exact List.pairwise_singleton _ _
  | cons first rest ih =>
    obtain ⟨k, v⟩ := first
    obtain ⟨below, restAscending⟩ := List.pairwise_cons.1 h
    unfold insertMember
    split
    · rename_i same
      subst same
      exact List.pairwise_cons.2 ⟨below, restAscending⟩
    · rename_i other
      split
      · rename_i lt
        refine List.pairwise_cons.2 ⟨?_, h⟩
        intro m hm
        rcases List.mem_cons.1 hm with rfl | later
        · exact lt
        · exact String.lt_trans lt (below m later)
      · rename_i notLt
        refine List.pairwise_cons.2 ⟨?_, ih restAscending⟩
        intro m hm
        rcases mem_insertMember hm with rfl | later
        · exact String.not_le.1 fun le => other (String.le_antisymm (String.not_lt.1 notLt) le)
        · exact below m later

theorem insertMember_perm {key : String} {value : Json} {members : Members}
    (fresh : key ∉ members.map Prod.fst) :
    (insertMember key value members).Perm ((key, value) :: members) := by
  induction members with
  | nil => exact .refl _
  | cons first rest ih =>
    obtain ⟨k, v⟩ := first
    rw [List.map_cons, List.mem_cons, not_or] at fresh
    unfold insertMember
    rw [if_neg (Ne.symm fresh.1)]
    split
    · exact .refl _
    · exact ((ih fresh.2).cons (k, v)).trans (.swap _ _ _)

theorem insertMember_last {key : String} {value : Json} {members : Members}
    (last : ∀ m ∈ members, m.1 < key) :
    insertMember key value members = members ++ [(key, value)] := by
  induction members with
  | nil => rfl
  | cons first rest ih =>
    obtain ⟨k, v⟩ := first
    have lt : k < key := last (k, v) List.mem_cons_self
    have step := ih fun m hm => last m (List.mem_cons_of_mem _ hm)
    unfold insertMember
    rw [if_neg (String.ne_of_lt lt), if_neg (String.lt_asymm lt), step]
    rfl

theorem foldl_insertMember_ascending (members : Members) {sorted : Members}
    (h : Ascending sorted) :
    Ascending (members.foldl (fun sorted m => insertMember m.1 m.2 sorted) sorted) := by
  induction members generalizing sorted with
  | nil => exact h
  | cons m members ih => exact ih (insertMember_ascending h)

theorem arranged_ascending (members : Members) : Ascending (arranged members) :=
  foldl_insertMember_ascending members List.Pairwise.nil

theorem foldl_insertMember_perm (members sorted : Members) (h : DistinctKeys (members ++ sorted)) :
    (members.foldl (fun sorted m => insertMember m.1 m.2 sorted) sorted).Perm
      (members ++ sorted) := by
  induction members generalizing sorted with
  | nil => exact .refl _
  | cons m members ih =>
    have split : m.1 ∉ (members ++ sorted).map Prod.fst ∧ DistinctKeys (members ++ sorted) :=
      List.nodup_cons.1 h
    have fresh : m.1 ∉ sorted.map Prod.fst := by
      intro hm
      rw [List.map_append] at split
      exact split.1 (List.mem_append_right _ hm)
    have step : (insertMember m.1 m.2 sorted).Perm (m :: sorted) := insertMember_perm fresh
    have perm := (step.append_left members).trans List.perm_middle
    exact (ih _ ((perm.map Prod.fst).nodup_iff.2 h)).trans perm

theorem arranged_perm {members : Members} (h : DistinctKeys members) :
    (arranged members).Perm members := by
  have perm := foldl_insertMember_perm members [] (by rwa [List.append_nil])
  rwa [List.append_nil] at perm

theorem foldl_insertMember_of_ascending (members sorted : Members)
    (h : Ascending (sorted ++ members)) :
    members.foldl (fun sorted m => insertMember m.1 m.2 sorted) sorted = sorted ++ members := by
  induction members generalizing sorted with
  | nil => exact (List.append_nil _).symm
  | cons m members ih =>
    have last : ∀ other ∈ sorted, other.1 < m.1 := fun other hother =>
      (List.pairwise_append.1 h).2.2 other hother m List.mem_cons_self
    have shift : sorted ++ m :: members = sorted ++ [m] ++ members := by simp
    rw [List.foldl_cons, insertMember_last last, shift]
    exact ih _ (shift ▸ h)

theorem arranged_of_ascending {members : Members} (h : Ascending members) :
    arranged members = members := foldl_insertMember_of_ascending members [] h

theorem mem_foldl_insertMember {members sorted : Members} {m : String × Json}
    (h : m ∈ members.foldl (fun sorted m => insertMember m.1 m.2 sorted) sorted) :
    m ∈ members ∨ m ∈ sorted := by
  induction members generalizing sorted with
  | nil => exact .inr h
  | cons first members ih =>
    rcases ih h with later | now
    · exact .inl (List.mem_cons_of_mem _ later)
    · rcases mem_insertMember now with rfl | old
      · exact .inl List.mem_cons_self
      · exact .inr old

theorem mem_of_mem_arranged {members : Members} {m : String × Json} (h : m ∈ arranged members) :
    m ∈ members := (mem_foldl_insertMember h).resolve_right List.not_mem_nil

theorem member?_eq_some {members : Members} (h : DistinctKeys members) {key : String}
    {value : Json} (mem : (key, value) ∈ members) : member? key members = some value := by
  induction members with
  | nil => cases mem
  | cons first rest ih =>
    obtain ⟨k, v⟩ := first
    obtain ⟨fresh, restDistinct⟩ := List.nodup_cons.1 h
    unfold member?
    rcases List.mem_cons.1 mem with same | later
    · cases same
      exact if_pos rfl
    · have other : k ≠ key := by
        intro same
        exact fresh (List.mem_map.2 ⟨(key, value), later, same.symm⟩)
      rw [if_neg other]
      exact ih restDistinct later

theorem member?_eq_none {members : Members} {key : String}
    (absent : key ∉ members.map Prod.fst) : member? key members = none := by
  induction members with
  | nil => rfl
  | cons first rest ih =>
    obtain ⟨k, v⟩ := first
    rw [List.map_cons, List.mem_cons, not_or] at absent
    unfold member?
    rw [if_neg (Ne.symm absent.1)]
    exact ih absent.2

theorem mem_of_member? {members : Members} {key : String} {value : Json}
    (h : member? key members = some value) : (key, value) ∈ members := by
  induction members with
  | nil => cases h
  | cons first rest ih =>
    obtain ⟨k, v⟩ := first
    unfold member? at h
    split at h
    · rename_i same
      cases h
      exact same ▸ List.mem_cons_self
    · exact List.mem_cons_of_mem _ (ih h)

theorem member?_append (key : String) (members others : Members) :
    member? key (members ++ others) = (member? key members).or (member? key others) := by
  induction members with
  | nil => rfl
  | cons first rest ih =>
    rw [List.cons_append, member?, member?, ih]
    split <;> rfl

theorem member?_of_perm {members others : Members} (h : DistinctKeys members)
    (perm : others.Perm members) (key : String) : member? key others = member? key members := by
  have distinct : DistinctKeys others := (perm.map Prod.fst).nodup_iff.2 h
  cases found : member? key members with
  | some value => exact member?_eq_some distinct (perm.mem_iff.2 (mem_of_member? found))
  | none =>
    cases other : member? key others with
    | none => rfl
    | some value =>
      rw [member?_eq_some h (perm.mem_iff.1 (mem_of_member? other))] at found
      cases found

/-- Objects in key order are determined by what their keys lead to. -/
theorem Ascending.ext {members others : Members} (h : Ascending members) (k : Ascending others)
    (same : ∀ key, member? key members = member? key others) : members = others := by
  have mem_iff : ∀ m, m ∈ members ↔ m ∈ others := by
    rintro ⟨key, value⟩
    constructor
    · intro mem
      exact mem_of_member? ((same key).symm.trans (member?_eq_some h.distinctKeys mem))
    · intro mem
      exact mem_of_member? ((same key).trans (member?_eq_some k.distinctKeys mem))
  have perm : members.Perm others :=
    (List.perm_ext_iff_of_nodup h.distinctKeys.of_map k.distinctKeys.of_map).2 mem_iff
  exact perm.eq_of_pairwise (fun a b _ _ ab ba => absurd ab (String.lt_asymm ba)) h k

def without (keys : List String) : Json → Json
  | .object members => .object (members.filter (·.1 ∉ keys))
  | v => v

def withMembers (extra : Members) : Json → Json
  | .object members => .object (extra.foldl (fun all m => insertMember m.1 m.2 all) members)
  | v => v

theorem member?_filter (p : String → Bool) (members : Members) (key : String) :
    member? key (members.filter fun m => p m.1) = if p key then member? key members else none := by
  induction members with
  | nil => simp [member?]
  | cons m rest ih =>
    obtain ⟨k, v⟩ := m
    rw [List.filter_cons, member?]
    by_cases same : k = key
    · subst same
      cases kept : p k <;> simp [kept, ih, member?]
    · cases kept : p k <;> simp [same, ih, member?]

theorem filter_insertMember {p : String → Bool} {key : String} (out : p key = false) (value : Json)
    (members : Members) :
    (insertMember key value members).filter (fun m => p m.1) = members.filter fun m => p m.1 := by
  induction members with
  | nil => simp [insertMember, out]
  | cons m rest ih =>
    obtain ⟨k, v⟩ := m
    rw [insertMember]
    split
    · rename_i same
      subst same
      simp [out]
    · split
      · simp [out]
      · rw [List.filter_cons, List.filter_cons, ih]

theorem filter_foldl_insertMember {p : String → Bool} {extra : Members}
    (out : ∀ m ∈ extra, p m.1 = false) (members : Members) :
    (extra.foldl (fun all m => insertMember m.1 m.2 all) members).filter (fun m => p m.1) =
      members.filter fun m => p m.1 := by
  induction extra generalizing members with
  | nil => rfl
  | cons m extra ih =>
    obtain ⟨first, rest⟩ := List.forall_mem_cons.1 out
    rw [List.foldl_cons, ih rest, filter_insertMember first]

theorem sortedItems_eq (items : List Json) : sortedItems items = items.map sorted := by
  induction items with
  | nil => rfl
  | cons v rest ih => rw [sortedItems, List.map_cons, ih]

theorem sortedMembers_eq (members : Members) :
    sortedMembers members = members.map fun m => (m.1, m.2.sorted) := by
  induction members with
  | nil => rfl
  | cons m rest ih => rw [sortedMembers, List.map_cons, ih]

theorem sorted_object (members : Members) :
    (object members).sorted = .object (arranged (members.map fun m => (m.1, m.2.sorted))) := by
  rw [← sortedMembers_eq]
  rfl

theorem distinctKeys_map {members : Members} (f : Json → Json) :
    DistinctKeys (members.map fun m => (m.1, f m.2)) ↔ DistinctKeys members := by
  unfold DistinctKeys
  rw [List.map_map]
  rfl

theorem member?_map (members : Members) (f : Json → Json) (key : String) :
    member? key (members.map fun m => (m.1, f m.2)) = (member? key members).map f := by
  induction members with
  | nil => rfl
  | cons m rest ih =>
    rw [List.map_cons, member?, member?, ih]
    split <;> rfl

theorem member?_arranged_sorted {members : Members} (h : DistinctKeys members) (key : String) :
    member? key (arranged (members.map fun m => (m.1, m.2.sorted))) =
      (member? key members).map sorted := by
  have distinct := (distinctKeys_map sorted).2 h
  rw [member?_of_perm distinct (arranged_perm distinct), member?_map]

mutual

theorem sorted_sorted : ∀ v : Json, v.sorted.sorted = v.sorted
  | .array items => by
    change (array (sortedItems items)).sorted = array (sortedItems items)
    exact congrArg array (sortedItems_sortedItems items)
  | .object members => by
    change (object (arranged (sortedMembers members))).sorted = _
    have fixed : (arranged (sortedMembers members)).map (fun m => (m.1, m.2.sorted)) =
        arranged (sortedMembers members) := by
      refine (List.map_congr_left fun m hm => ?_).trans (List.map_id _)
      rw [sorted_of_mem_sortedMembers members m (mem_of_mem_arranged hm)]
      rfl
    rw [sorted_object, fixed, arranged_of_ascending (arranged_ascending _)]
    rfl
  | .null | .bool _ | .number _ | .string _ => rfl

theorem sortedItems_sortedItems : ∀ items : List Json,
    sortedItems (sortedItems items) = sortedItems items
  | [] => rfl
  | v :: rest => by
    change v.sorted.sorted :: sortedItems (sortedItems rest) = v.sorted :: sortedItems rest
    rw [sorted_sorted v, sortedItems_sortedItems rest]

theorem sorted_of_mem_sortedMembers : ∀ members : Members, ∀ m ∈ sortedMembers members,
    m.2.sorted = m.2
  | [], _, h => by cases h
  | (k, v) :: rest, m, h => by
    rcases List.mem_cons.1 h with rfl | later
    · exact sorted_sorted v
    · exact sorted_of_mem_sortedMembers rest m later

end

end PageBuilder.Json
