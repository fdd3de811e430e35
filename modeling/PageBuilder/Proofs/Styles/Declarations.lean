import Mathlib.Data.List.DropRight
import PageBuilder.Proofs.Component.Rendering

set_option autoImplicit false

/-!
# Reading declarations

A style attribute is read as a list of declarations, which end at semicolons outside of quotes and
parentheses. The declarations of an element are read back exactly if each value is contained: it
holds no such semicolon, and it closes the quotes and the parentheses that it opens.
-/

namespace PageBuilder
namespace Css

open Rendered (valued)

/-- The quote and the parentheses around a place in a style. -/
structure Nesting where
  quote : Option Char
  depth : Nat
deriving DecidableEq

namespace Nesting

def outside : Nesting := ⟨none, 0⟩

def step (n : Nesting) (c : Char) : Nesting :=
  match n.quote with
  | some q => if c = q then { n with quote := none } else n
  | none =>
    if c = '"' ∨ c = '\'' then { n with quote := some c }
    else if c = '(' then { n with depth := n.depth + 1 }
    else if c = ')' then { n with depth := n.depth - 1 }
    else n

/-- Whether a character ends a declaration. -/
def endsAt (n : Nesting) (c : Char) : Bool := c = ';' && n = outside

end Nesting

open Nesting (outside)

/-- The texts before, between and after the semicolons that end declarations. -/
def split (n : Nesting) : List Char → List (List Char)
  | [] => [[]]
  | c :: rest =>
    if n.endsAt c then [] :: split outside rest
    else (split (n.step c) rest).modifyHead (c :: ·)

def isBlank (c : Char) : Bool := [' ', '\t', '\n', '\r', '\x0c'].contains c

def trim (text : List Char) : List Char := (text.dropWhile isBlank).rdropWhile isBlank

def declaration? (part : List Char) : Option Declaration :=
  match part.dropWhile (· ≠ ':') with
  | [] => none
  | _ :: value =>
    some (String.ofList (trim (part.takeWhile (· ≠ ':'))), String.ofList (trim value))

def declarations (text : List Char) : List Declaration :=
  (split outside text).filterMap declaration?

/-- The declarations of a style; one without a value declares nothing. -/
def read (style : String) : List Declaration := valued (declarations style.toList)

def trimmed (d : Declaration) : Declaration := (d.1, String.ofList (trim d.2.toList))

def closes (n : Nesting) : List Char → Bool
  | [] => n = outside
  | c :: rest => !n.endsAt c && closes (n.step c) rest

/-- A value that keeps to its declaration. -/
def isContained (value : String) : Bool := closes outside value.toList

section

variable {n : Nesting}

theorem endsAt_iff {c : Char} : n.endsAt c ↔ c = ';' ∧ n = outside := by
  simp [Nesting.endsAt]

theorem split_ends {c : Char} (ends : n.endsAt c) (rest : List Char) :
    split n (c :: rest) = [] :: split outside rest := by
  rw [split, if_pos ends]

theorem split_goes_on {c : Char} (inside : n.endsAt c = false) (rest : List Char) :
    split n (c :: rest) = (split (n.step c) rest).modifyHead (c :: ·) := by
  rw [split, inside, if_neg Bool.false_ne_true]

theorem split_eq_cons (n : Nesting) (text : List Char) :
    ∃ first others, split n text = first :: others := by
  induction text generalizing n with
  | nil => exact ⟨[], [], rfl⟩
  | cons c text ih =>
    cases ends : n.endsAt c with
    | true => exact ⟨[], _, split_ends ends text⟩
    | false =>
      obtain ⟨first, others, parts⟩ := ih (n.step c)
      exact ⟨c :: first, others, by rw [split_goes_on ends, parts, List.modifyHead_cons]⟩

theorem split_of_closes {word : List Char} (closed : closes n word) (rest : List Char) :
    split n (word ++ ';' :: rest) = word :: split outside rest := by
  induction word generalizing n with
  | nil =>
    have out : n = outside := of_decide_eq_true closed
    exact split_ends (endsAt_iff.2 ⟨rfl, out⟩) rest
  | cons c word ih =>
    rw [closes, Bool.and_eq_true, Bool.not_eq_true'] at closed
    rw [List.cons_append, split_goes_on closed.1, ih closed.2, List.modifyHead_cons]

/-- Otherwise the first part is shorter, or it goes on after the semicolon. -/
theorem split_of_not_closes {word : List Char} (open' : closes n word = false)
    (rest : List Char) : ∃ first others, split n (word ++ ';' :: rest) = first :: others ∧
      ∃ more, word = first ++ ';' :: more ∨ first = word ++ ';' :: more := by
  induction word generalizing n with
  | nil =>
    have inside : n.endsAt ';' = false := by
      rw [← Bool.not_eq_true, endsAt_iff]
      exact fun ends => of_decide_eq_false open' ends.2
    obtain ⟨more, others, parts⟩ := split_eq_cons (n.step ';') rest
    refine ⟨';' :: more, others, ?_, more, .inr rfl⟩
    rw [List.nil_append, split_goes_on inside, parts, List.modifyHead_cons]
  | cons c word ih =>
    cases ends : n.endsAt c with
    | true =>
      obtain ⟨rfl, -⟩ := endsAt_iff.1 ends
      exact ⟨[], _, split_ends ends _, word, .inl rfl⟩
    | false =>
      rw [closes, ends, Bool.not_false, Bool.true_and] at open'
      obtain ⟨first, others, parts, more, shape⟩ := ih open'
      refine ⟨c :: first, others, ?_, more, shape.imp (congrArg (c :: ·)) (congrArg (c :: ·))⟩
      rw [List.cons_append, split_goes_on ends, parts, List.modifyHead_cons]

/-- No semicolon in the word ends a declaration. -/
def isUnbroken (n : Nesting) : List Char → Bool
  | [] => true
  | c :: rest => !n.endsAt c && isUnbroken (n.step c) rest

theorem isUnbroken_of_split {text first : List Char} {others : List (List Char)}
    (parts : split n text = first :: others) :
    isUnbroken n first ∧ ∀ part ∈ others, isUnbroken outside part := by
  induction text generalizing n first others with
  | nil =>
    cases parts
    exact ⟨rfl, nofun⟩
  | cons c text ih =>
    cases ends : n.endsAt c with
    | true =>
      rw [split_ends ends] at parts
      obtain ⟨rfl, rfl⟩ := List.cons.inj parts
      obtain ⟨next, more, same⟩ := split_eq_cons outside text
      rw [same, List.forall_mem_cons]
      exact ⟨rfl, ih same⟩
    | false =>
      obtain ⟨next, more, same⟩ := split_eq_cons (n.step c) text
      rw [split_goes_on ends, same, List.modifyHead_cons] at parts
      obtain ⟨rfl, rfl⟩ := List.cons.inj parts
      rw [isUnbroken, ends]
      exact ih same

end

def isNeutral (c : Char) : Bool := !(['"', '\'', '(', ')', ';'].contains c)

theorem step_of_isNeutral {c : Char} (neutral : isNeutral c) :
    outside.endsAt c = false ∧ outside.step c = outside := by
  simp only [isNeutral, List.contains_cons, List.contains_nil, Bool.not_or, Bool.and_eq_true,
    Bool.not_eq_true', beq_eq_false_iff_ne] at neutral
  simp [Nesting.endsAt, Nesting.step, outside, neutral]

theorem isNeutral_of_isBlank {c : Char} (blank : isBlank c) : isNeutral c := by
  simp only [isBlank, List.contains_cons, List.contains_nil, Bool.or_eq_true, beq_iff_eq,
    Bool.or_false] at blank
  rcases blank with rfl | rfl | rfl | rfl | rfl <;> decide

section

variable {word : List Char} (neutral : ∀ c ∈ word, isNeutral c)
include neutral

theorem split_neutral (rest : List Char) : split outside (word ++ rest) =
    (split outside rest).modifyHead (word ++ ·) := by
  induction word with
  | nil =>
    obtain ⟨first, others, parts⟩ := split_eq_cons outside rest
    rw [List.nil_append, parts]
    rfl
  | cons c word ih =>
    obtain ⟨first, others⟩ := List.forall_mem_cons.1 neutral
    obtain ⟨goesOn, still⟩ := step_of_isNeutral first
    rw [List.cons_append, split_goes_on goesOn, still, ih others, List.modifyHead_modifyHead]
    rfl

theorem closes_neutral : closes outside word := by
  induction word with
  | nil => rfl
  | cons c word ih =>
    obtain ⟨first, others⟩ := List.forall_mem_cons.1 neutral
    obtain ⟨goesOn, still⟩ := step_of_isNeutral first
    rw [closes, goesOn, still, ih others]
    rfl

theorem isUnbroken_neutral (rest : List Char) :
    isUnbroken outside (word ++ rest) = isUnbroken outside rest := by
  induction word with
  | nil => rfl
  | cons c word ih =>
    obtain ⟨first, others⟩ := List.forall_mem_cons.1 neutral
    obtain ⟨goesOn, still⟩ := step_of_isNeutral first
    rw [List.cons_append, isUnbroken, goesOn, still, ih others]
    rfl

end

theorem trim_eq (text : List Char) : ∃ before after, text = before ++ trim text ++ after ∧
    (∀ c ∈ before, isBlank c) ∧ ∀ c ∈ after, isBlank c := by
  refine ⟨text.takeWhile isBlank, (text.dropWhile isBlank).rtakeWhile isBlank, ?_,
    fun c => List.mem_takeWhile_imp, fun c => List.mem_rtakeWhile_imp⟩
  rw [trim, List.append_assoc, List.rdropWhile_append_rtakeWhile, List.takeWhile_append_dropWhile]

theorem trim_blank_append {before : List Char} (blank : ∀ c ∈ before, isBlank c)
    (text : List Char) : trim (before ++ text) = trim text := by
  rw [trim, List.dropWhile_append_of_pos blank, trim]

theorem trim_eq_self {text : List Char} (solid : ∀ c ∈ text, isBlank c = false) :
    trim text = text := by
  have front : text.dropWhile isBlank = text := by
    cases text with
    | nil => rfl
    | cons c text => rw [List.dropWhile_cons, solid c List.mem_cons_self]; rfl
  rw [trim, front, List.rdropWhile_eq_self_iff]
  intro nonempty
  simp [solid _ (List.getLast_mem nonempty)]

theorem count_trim (text : List Char) : (trim text).count ';' = text.count ';' := by
  obtain ⟨before, after, same, front, back⟩ := trim_eq text
  have none : ∀ {blanks : List Char}, (∀ c ∈ blanks, isBlank c) → blanks.count ';' = 0 :=
    fun blank => List.count_eq_zero.2 fun mem => Bool.false_ne_true (blank _ mem)
  conv => rhs; rw [same]
  rw [List.count_append, List.count_append, none front, none back, Nat.zero_add, Nat.add_zero]

theorem isBlank_of_trim_eq_nil {text : List Char} (empty : trim text = []) :
    ∀ c ∈ text, isBlank c := by
  obtain ⟨before, after, same, front, back⟩ := trim_eq text
  rw [same, empty, List.append_nil]
  exact List.forall_mem_append.2 ⟨front, back⟩

/-- What begins with a semicolon still does without the blanks around it. -/
theorem trim_semicolon {before : List Char} (blank : ∀ c ∈ before, isBlank c) (rest : List Char) :
    ∃ more, trim (before ++ ';' :: rest) = ';' :: more := by
  have start : trim (before ++ ';' :: rest) <+: ';' :: rest := by
    rw [trim_blank_append blank]
    exact List.rdropWhile_prefix isBlank (';' :: rest)
  have count := count_trim (before ++ ';' :: rest)
  rw [List.count_append, List.count_cons_self] at count
  cases found : trim (before ++ ';' :: rest) with
  | nil =>
    rw [found, List.count_nil] at count
    omega
  | cons c more =>
    rw [found] at start
    exact ⟨more, by rw [(List.cons_prefix_cons.1 start).1]⟩

theorem declaration?_eq_some {part : List Char} {d : Declaration}
    (found : declaration? part = some d) : ∃ before after, part = before ++ ':' :: after ∧
      trim before = d.1.toList ∧ trim after = d.2.toList := by
  rw [declaration?] at found
  split at found
  · cases found
  · rename_i colon after rest
    cases found
    have stop := List.head_dropWhile_not (fun c => decide (c ≠ ':')) (l := part)
      (by rw [rest]; exact List.cons_ne_nil colon after)
    simp only [rest, List.head_cons, decide_eq_false_iff_not, not_not] at stop
    refine ⟨part.takeWhile (· ≠ ':'), after, ?_, String.toList_ofList.symm,
      String.toList_ofList.symm⟩
    rw [← stop, ← rest, stop, List.takeWhile_append_dropWhile]

def isPlainName (name : String) : Bool :=
  name.toList.all fun c => isNeutral c && c ≠ ':' && !isBlank c

theorem isPlainName_of_mem : ∀ name ∈ styleNames, isPlainName name := by
  decide

def lead (name : String) : List Char := ' ' :: name.toList ++ [':', ' ']

def spaced (styles : List Declaration) : List Char :=
  styles.flatMap fun d => lead d.1 ++ d.2.toList ++ [';']

theorem spaced_cons (d : Declaration) (styles : List Declaration) :
    spaced (d :: styles) = lead d.1 ++ (d.2.toList ++ ';' :: spaced styles) := by
  simp [spaced]

section

variable {name : String} (plain : isPlainName name)
include plain

theorem plain_letters : ∀ c ∈ name.toList, isNeutral c ∧ c ≠ ':' ∧ isBlank c = false := by
  simpa [isPlainName, and_assoc] using plain

theorem lead_neutral : ∀ c ∈ lead name, isNeutral c := by
  have letters := fun c mem => (plain_letters plain c mem).1
  rw [lead, List.forall_mem_append, List.forall_mem_cons]
  exact ⟨⟨by decide, letters⟩, List.all_eq_true.1 (by decide)⟩

theorem declaration?_lead (value : List Char) :
    declaration? (lead name ++ value) = some (name, String.ofList (trim value)) := by
  have letters := plain_letters plain
  have front : ∀ c ∈ ' ' :: name.toList, decide (c ≠ ':') = true := by
    rw [List.forall_mem_cons]
    exact ⟨by decide, fun c mem => decide_eq_true (letters c mem).2.1⟩
  have shape : lead name ++ value = (' ' :: name.toList) ++ (':' :: ' ' :: value) := by simp [lead]
  have space : ∀ c ∈ [' '], isBlank c := List.all_eq_true.1 (by decide)
  have trimName : trim (' ' :: name.toList) = name.toList := by
    rw [← List.singleton_append, trim_blank_append space,
      trim_eq_self fun c mem => (letters c mem).2.2]
  have trimValue : trim (' ' :: value) = trim value := trim_blank_append space value
  rw [declaration?, shape, List.dropWhile_append_of_pos front, List.takeWhile_append_of_pos front]
  simp [trimName, trimValue]

theorem value_of_isUnbroken {part : List Char} (unbroken : isUnbroken outside part)
    {value : String} (found : declaration? part = some (name, value)) (more : List Char) :
    value.toList ≠ ';' :: more := by
  intro semicolon
  obtain ⟨before, after, rfl, sameName, sameValue⟩ := declaration?_eq_some found
  have beforeNeutral : ∀ c ∈ before, isNeutral c := by
    obtain ⟨front, back, same, frontBlank, backBlank⟩ := trim_eq before
    rw [same, sameName, List.forall_mem_append, List.forall_mem_append]
    exact ⟨⟨fun c mem => isNeutral_of_isBlank (frontBlank c mem),
      fun c mem => (plain_letters plain c mem).1⟩,
      fun c mem => isNeutral_of_isBlank (backBlank c mem)⟩
  obtain ⟨front, back, same, frontBlank, -⟩ := trim_eq after
  rw [sameValue, semicolon] at same
  have shape : before ++ ':' :: after = (before ++ ':' :: front) ++ ';' :: (more ++ back) := by
    rw [same]
    simp
  have neutral : ∀ c ∈ before ++ ':' :: front, isNeutral c := by
    rw [List.forall_mem_append, List.forall_mem_cons]
    exact ⟨beforeNeutral, by decide, fun c mem => isNeutral_of_isBlank (frontBlank c mem)⟩
  rw [shape, isUnbroken_neutral neutral, isUnbroken, endsAt_iff.2 ⟨rfl, rfl⟩] at unbroken
  exact Bool.false_ne_true unbroken

end

theorem valued_cons_inj {d : Declaration} {styles others : List Declaration} :
    valued (d :: styles) = valued (d :: others) ↔ valued styles = valued others := by
  rw [valued, valued, List.filter_cons, List.filter_cons]
  split
  · rw [List.cons_inj_right]
    rfl
  · rfl

theorem valued_cons_of_ne {d : Declaration} (given : d.2 ≠ "") (styles : List Declaration) :
    valued (d :: styles) = d :: valued styles := by
  simp [valued, given]

theorem valued_cons_empty (name : String) (styles : List Declaration) :
    valued ((name, "") :: styles) = valued styles := by
  simp [valued]

theorem declarations_spaced_cons {d : Declaration} (plain : isPlainName d.1)
    {styles : List Declaration} {first : List Char} {others : List (List Char)}
    (parts : split outside (d.2.toList ++ ';' :: spaced styles) = first :: others) :
    declarations (spaced (d :: styles)) =
      (d.1, String.ofList (trim first)) :: others.filterMap declaration? := by
  rw [declarations, spaced_cons, split_neutral (lead_neutral plain), parts, List.modifyHead_cons,
    List.filterMap_cons, declaration?_lead plain]

section

variable {word first more : List Char}
  (cut : word = first ++ ';' :: more ∨ first = word ++ ';' :: more)
include cut

/-- One of the two texts has a semicolon more than the other. -/
theorem trim_ne_of_cut : trim first ≠ trim word := by
  intro same
  have counts := congrArg (List.count ';') same
  rw [count_trim, count_trim] at counts
  rcases cut with cut | cut <;>
    rw [cut, List.count_append, List.count_cons_self] at counts <;> omega

/-- A blank part has no semicolon, so it is the word that goes on. -/
theorem trim_semicolon_of_cut (empty : trim first = []) : ∃ rest, trim word = ';' :: rest := by
  rcases cut with cut | cut
  · rw [cut]
    exact trim_semicolon (isBlank_of_trim_eq_nil empty) more
  · have counts := count_trim first
    rw [empty, List.count_nil, cut, List.count_append, List.count_cons_self] at counts
    omega

end

theorem isContained_of_declares {d : Declaration} (plain : isPlainName d.1)
    {styles others : List Declaration} (declares : valued (declarations (spaced (d :: styles))) =
      valued (trimmed d :: others)) : isContained d.2 := by
  by_contra notContained
  obtain ⟨first, rest, parts, more, cut⟩ :=
    split_of_not_closes (Bool.not_eq_true _ ▸ notContained) (spaced styles)
  have given : (trimmed d).2 ≠ "" := fun empty => by
    have blank : trim d.2.toList = [] := String.ofList_eq_empty_iff.1 empty
    have neutral := fun c mem => isNeutral_of_isBlank (isBlank_of_trim_eq_nil blank c mem)
    exact notContained (closes_neutral neutral)
  rw [declarations_spaced_cons plain parts, valued_cons_of_ne given] at declares
  by_cases empty : trim first = []
  · -- The declaration is read from a later part, but there no value begins as this one does.
    rw [empty, String.ofList_nil, valued_cons_empty] at declares
    have later : trimmed d ∈ rest.filterMap declaration? :=
      List.mem_of_mem_filter (declares ▸ List.mem_cons_self)
    obtain ⟨part, mem, found⟩ := List.mem_filterMap.1 later
    obtain ⟨after, start⟩ := trim_semicolon_of_cut cut empty
    have unbroken := (isUnbroken_of_split parts).2 part mem
    exact value_of_isUnbroken plain unbroken found after (String.toList_ofList.trans start)
  · rw [valued_cons_of_ne (by simpa using empty)] at declares
    have heads := Prod.mk.inj (List.cons.inj declares).1
    exact trim_ne_of_cut cut (String.ofList_injective heads.2)

/-- Declarations are read back exactly if all values are contained. -/
theorem read_spaced_iff {styles : List Declaration} (plain : ∀ d ∈ styles, isPlainName d.1) :
    valued (declarations (spaced styles)) = valued (styles.map trimmed) ↔
      ∀ d ∈ styles, isContained d.2 := by
  induction styles with
  | nil => simp [declarations, spaced, split, declaration?, valued]
  | cons d styles ih =>
    obtain ⟨plainName, plainOthers⟩ := List.forall_mem_cons.1 plain
    have cons : isContained d.2 → declarations (spaced (d :: styles)) =
        trimmed d :: declarations (spaced styles) := fun contained =>
      declarations_spaced_cons plainName (split_of_closes contained (spaced styles))
    rw [List.forall_mem_cons, ← ih plainOthers, List.map_cons]
    constructor
    · intro declares
      have contained := isContained_of_declares plainName declares
      rw [cons contained] at declares
      exact ⟨contained, valued_cons_inj.1 declares⟩
    · rintro ⟨contained, rest⟩
      rw [cons contained]
      exact valued_cons_inj.2 rest

end Css
end PageBuilder
