import PageBuilder.Json.Token
import PageBuilder.Text.Utf8

set_option autoImplicit false

namespace PageBuilder

open Json.Reading (hexValue?)

structure Address where
  place : String
  parameters : List (List UInt8 × List UInt8)
  fragment : Option String
deriving DecidableEq

namespace Address

/-- What stands before the first mark, and what stands after it if there is one. -/
def cut (mark : Char) : List Char → List Char × Option (List Char)
  | [] => ([], none)
  | c :: text =>
    if c = mark then ([], some text)
    else
      let (before, after) := cut mark text
      (c :: before, after)

/-- The bytes of a name or a value. Some readers take a plus for a space, and some for itself. -/
def decode (plus : UInt8) : List Char → List UInt8
  | '%' :: high :: low :: text =>
    match hexValue? high, hexValue? low with
    | some h, some l => UInt8.ofNat (16 * h + l) :: decode plus text
    | _, _ => String.utf8EncodeChar '%' ++ decode plus (high :: low :: text)
  | c :: text => (if c = '+' then [plus] else String.utf8EncodeChar c) ++ decode plus text
  | [] => []

def parameter (plus : UInt8) (text : List Char) : List UInt8 × List UInt8 :=
  let (name, value) := cut '=' text
  (decode plus name, decode plus (value.getD []))

def parametersOf (plus : UInt8) (query : List Char) : List (List UInt8 × List UInt8) :=
  ((query.splitOnP (· = '&')).filter (!·.isEmpty)).map (parameter plus)

def read (plus : UInt8) (text : String) : Address :=
  let (front, fragment) := cut '#' text.toList
  let (place, query) := cut '?' front
  ⟨String.ofList place, parametersOf plus (query.getD []), fragment.map String.ofList⟩

theorem cut_append {mark : Char} {before : List Char} (absent : mark ∉ before)
    (after : List Char) : cut mark (before ++ mark :: after) = (before, some after) := by
  induction before with
  | nil => exact if_pos rfl
  | cons c before ih =>
    rw [List.mem_cons, not_or] at absent
    rw [List.cons_append, cut, if_neg (Ne.symm absent.1), ih absent.2]

theorem cut_of_not_mem {mark : Char} {text : List Char} (absent : mark ∉ text) :
    cut mark text = (text, none) := by
  induction text with
  | nil => rfl
  | cons c text ih =>
    rw [List.mem_cons, not_or] at absent
    rw [cut, if_neg (Ne.symm absent.1), ih absent.2]

/-- A letter that neither ends a parameter or its name nor the query. -/
def isQueryChar (c : Char) : Bool :=
  c.isAlphanum || c = '-' || c = '_' || c = '.' || c = '~' || c = '%'

theorem not_mem_of_isQueryChar {text : List Char} (plain : ∀ c ∈ text, isQueryChar c) {mark : Char}
    (other : isQueryChar mark = false) : mark ∉ text := fun mem => by
  rw [plain mark mem] at other
  cases other

theorem holds_of_all {p : UInt8 → Bool} (all : (List.range 256).all fun n => p (UInt8.ofNat n))
    (b : UInt8) : p b := by
  have holds := List.all_eq_true.1 all b.toNat (List.mem_range.2 b.toNat_lt)
  rwa [UInt8.ofNat_toNat] at holds

theorem isQueryChar_of_mem_percentEncode {s : String} :
    ∀ c ∈ (Text.percentEncode s).toList, isQueryChar c := by
  have byte : ∀ b, (Text.percentEncodeByte b).all isQueryChar := holds_of_all (by decide +kernel)
  rw [Text.percentEncode, String.toList_ofList]
  intro c mem
  obtain ⟨b, _, mem⟩ := List.mem_flatMap.1 mem
  exact List.all_eq_true.1 (byte b) c mem

/-- A letter that does not start a percent code stands for its bytes. -/
theorem decode_cons {c : Char} (percent : c ≠ '%') (sign : c ≠ '+') (plus : UInt8)
    (text : List Char) : decode plus (c :: text) = String.utf8EncodeChar c ++ decode plus text := by
  rw [decode, if_neg sign]
  rintro high low rest rfl
  exact absurd rfl percent

/-- An unreserved letter stands for its byte, and is not read as something else. -/
theorem unreserved_char {b : UInt8} (unreserved : Text.isUnreserved b) :
    Char.ofNat b.toNat ≠ '%' ∧ Char.ofNat b.toNat ≠ '+' ∧
      String.utf8EncodeChar (Char.ofNat b.toNat) = [b] := by
  have byte : ∀ b, !Text.isUnreserved b || decide (Char.ofNat b.toNat ≠ '%' ∧
      Char.ofNat b.toNat ≠ '+' ∧ String.utf8EncodeChar (Char.ofNat b.toNat) = [b]) :=
    holds_of_all (by decide +kernel)
  have spelled := byte b
  rw [unreserved] at spelled
  exact of_decide_eq_true spelled

theorem hexValue?_upperHexDigit {n : Nat} (small : n < 16) :
    hexValue? (Text.upperHexDigit n) = some n := by
  have all : ∀ n : Fin 16, hexValue? (Text.upperHexDigit n) = some n.val := by decide
  exact all ⟨n, small⟩

theorem decode_percentEncodeByte (plus b : UInt8) (rest : List Char) :
    decode plus (Text.percentEncodeByte b ++ rest) = b :: decode plus rest := by
  rw [Text.percentEncodeByte]
  split
  · rename_i unreserved
    obtain ⟨percent, sign, encoded⟩ := unreserved_char unreserved
    rw [List.singleton_append, decode_cons percent sign, encoded]
    rfl
  · have high := hexValue?_upperHexDigit (Nat.div_lt_of_lt_mul b.toNat_lt : b.toNat / 16 < 16)
    have low := hexValue?_upperHexDigit (Nat.mod_lt b.toNat (by decide) : b.toNat % 16 < 16)
    rw [List.cons_append, List.cons_append, List.cons_append, List.nil_append, decode, high, low]
    simp only [Nat.div_add_mod, UInt8.ofNat_toNat]

theorem decode_percentEncode (plus : UInt8) (s : String) :
    decode plus (Text.percentEncode s).toList = Text.bytes s := by
  rw [Text.percentEncode, String.toList_ofList]
  induction Text.bytes s with
  | nil => rfl
  | cons b bytes ih => rw [List.flatMap_cons, decode_percentEncodeByte, ih]

theorem decode_plain (plus : UInt8) {s : String} (plain : ∀ c ∈ s.toList, c ≠ '%' ∧ c ≠ '+') :
    decode plus s.toList = Text.bytes s := by
  have bytes : Text.bytes s = s.toList.flatMap String.utf8EncodeChar := by
    rw [← String.ofList_toList (s := s), Text.bytes, String.toUTF8, String.toByteArray_ofList,
      String.toList_ofList, List.utf8Encode, List.data_toByteArray]
  rw [bytes]
  generalize s.toList = text at plain
  induction text with
  | nil => rfl
  | cons c text ih =>
    obtain ⟨⟨percent, sign⟩, others⟩ := List.forall_mem_cons.1 plain
    rw [List.flatMap_cons, decode_cons percent sign, ih others]

/-- A parameter as it is written. -/
structure Field where
  name : String
  value : String

namespace Field

def text (f : Field) : List Char := f.name.toList ++ '=' :: f.value.toList

/-- The name and the value stay within the parameter. -/
structure IsPlain (f : Field) : Prop where
  name : ∀ c ∈ f.name.toList, isQueryChar c
  value : ∀ c ∈ f.value.toList, isQueryChar c

theorem IsPlain.not_mem_text {f : Field} (plain : f.IsPlain) {mark : Char}
    (other : isQueryChar mark = false) (equals : mark ≠ '=') : mark ∉ f.text := by
  rw [text, List.mem_append, List.mem_cons]
  rintro (mem | same | mem)
  · exact not_mem_of_isQueryChar plain.name other mem
  · exact equals same
  · exact not_mem_of_isQueryChar plain.value other mem

theorem IsPlain.parameter {f : Field} (plain : f.IsPlain) (plus : UInt8) :
    parameter plus f.text = (decode plus f.name.toList, decode plus f.value.toList) := by
  have equals : '=' ∉ f.name.toList := not_mem_of_isQueryChar plain.name (by decide)
  rw [Address.parameter, text, cut_append equals]
  rfl

end Field

def write (place : String) (fields : List Field) : String :=
  String.ofList (place.toList ++ '?' :: ['&'].intercalate (fields.map Field.text))

theorem not_mem_intercalate {separator : List Char} {mark : Char} (apart : mark ∉ separator)
    {parts : List (List Char)} (each : ∀ part ∈ parts, mark ∉ part) :
    mark ∉ separator.intercalate parts := by
  induction parts with
  | nil => exact List.not_mem_nil
  | cons part parts ih =>
    obtain ⟨first, others⟩ := List.forall_mem_cons.1 each
    cases parts with
    | nil => rwa [List.intercalate_singleton]
    | cons next rest =>
      rw [List.intercalate_cons_cons, List.mem_append, List.mem_append]
      exact fun mem => mem.elim (fun before => before.elim first apart) (ih others)

theorem read_write {place : String} (query : '?' ∉ place.toList) (fragment : '#' ∉ place.toList)
    {fields : List Field} (some : fields ≠ []) (plain : ∀ f ∈ fields, f.IsPlain) (plus : UInt8) :
    read plus (write place fields) = ⟨place,
      fields.map fun f => (decode plus f.name.toList, decode plus f.value.toList), none⟩ := by
  have apart : ∀ mark, isQueryChar mark = false → mark ≠ '=' →
      ∀ part ∈ fields.map Field.text, mark ∉ part := fun mark other equals =>
    List.forall_mem_map.2 fun f mem => (plain f mem).not_mem_text other equals
  have split : (['&'].intercalate (fields.map Field.text)).splitOnP (· = '&') =
      fields.map Field.text :=
    List.splitOn_intercalate '&' (apart '&' (by decide) (by decide)) (mt List.map_eq_nil_iff.1 some)
  have filled : (fields.map Field.text).filter (!·.isEmpty) = fields.map Field.text := by
    refine List.filter_eq_self.2 (List.forall_mem_map.2 fun f _ => ?_)
    simp [Field.text]
  have whole : '#' ∉ place.toList ++ '?' :: ['&'].intercalate (fields.map Field.text) := by
    have absent := not_mem_intercalate (by decide : '#' ∉ ['&'])
      (apart '#' (by decide) (by decide))
    rw [List.mem_append, List.mem_cons]
    exact fun mem => mem.elim fragment fun mem => mem.elim (by decide) absent
  have each : (fields.map Field.text).map (parameter plus) =
      fields.map fun f => (decode plus f.name.toList, decode plus f.value.toList) := by
    rw [List.map_map]
    exact List.map_congr_left fun f mem => (plain f mem).parameter plus
  rw [read, write, String.toList_ofList, cut_of_not_mem whole]
  simp only [cut_append query, Option.getD_some, String.ofList_toList, Option.map_none,
    parametersOf, split, filled, each]

end Address
end PageBuilder
