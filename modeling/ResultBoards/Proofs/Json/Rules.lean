import Mathlib.Data.List.Nodup
import ResultBoards.Proofs.Json.Gathering

/-!
# What the members of an object say

A record that is read from members has a rule for each of its fields: the name of the member, the
type of its value, and the field that it sets (`FieldRule`).  The members say what the record is
(`Rules.Gives`) if each field has its default where no member has the name, and what the value of
the member denotes where exactly one has.  Neither the place of a member matters nor any member
that no rule names.

## Strategy

* A `ValueType` keeps apart how a value is read and what it denotes, with the proof that the two
  are the same.  So what is said about members does not mention how they are read.
* `FieldRule.IsFilled` is about the members that are still to come, some names having been seen.
  `isFilled_cons_self` and `isFilled_cons_other` are about one member.
* `Rules.gather_eq_ok_iff` is the induction over the members.
-/

namespace ResultBoards.Json

/-! ## Members with a name -/

/-- The values of the members with a name, in their order. -/
def valuesOf (name : String) (members : List (String × Value)) : List Value :=
  (members.filter fun member => member.1 = name).map Prod.snd

@[simp] theorem valuesOf_nil (name : String) : valuesOf name [] = [] := rfl

@[simp] theorem valuesOf_cons_self (name : String) (value : Value)
    (members : List (String × Value)) :
    valuesOf name ((name, value) :: members) = value :: valuesOf name members := by
  simp [valuesOf]

theorem valuesOf_cons_of_ne {name other : String} (hne : other ≠ name) (value : Value)
    (members : List (String × Value)) :
    valuesOf name ((other, value) :: members) = valuesOf name members := by
  simp [valuesOf, hne]

/-- Members with another name may be taken away. -/
theorem valuesOf_filter_ne {name other : String} (hne : name ≠ other)
    (members : List (String × Value)) :
    valuesOf name (members.filter fun member => member.1 ≠ other) = valuesOf name members := by
  unfold valuesOf
  rw [List.filter_filter]
  congr 1
  refine List.filter_congr fun member _ => ?_
  by_cases hname : member.1 = name
  · simp [hname, hne]
  · simp [hname]

/-! ## Types of values -/

/-- A type of values: how a value is read, and which values denote what. -/
structure ValueType (α : Type) where
  read : Value → Except Problem α
  Denotes : Value → α → Prop
  read_eq_ok_iff : ∀ {value : Value} {content : α}, read value = .ok content ↔ Denotes value content

namespace ValueType

/-- Strings. -/
def text : ValueType String where
  read := Value.asString
  Denotes value text := value = .string text
  read_eq_ok_iff {value text} := by cases value <;> simp [Value.asString]

/-- Truth values. -/
def flag : ValueType Bool where
  read := Value.asBool
  Denotes value flag := value = .bool flag
  read_eq_ok_iff {value flag} := by cases value <;> simp [Value.asBool]

theorem asWord_eq_ok_iff {value : Value} {word : UInt32} :
    value.asWord = .ok word ↔ value = .ofNat word.toNat := by
  constructor
  · intro hread
    unfold Value.asWord at hread
    split at hread
    · rename_i number
      split at hread
      · rename_i hrange
        obtain ⟨hlow, hhigh⟩ := hrange
        have hsmall : number.toNat < UInt32.size := by
          rw [UInt32.size]
          omega
        cases hread
        rw [Value.ofNat, UInt32.toNat_ofNat_of_lt' hsmall, Int.toNat_of_nonneg hlow]
      · contradiction
    · contradiction
  · rintro rfl
    exact asWord_ofNat word

/-- Whole numbers of 32 bits. -/
def word : ValueType UInt32 where
  read := Value.asWord
  Denotes value word := value = .ofNat word.toNat
  read_eq_ok_iff := asWord_eq_ok_iff

theorem eq_map_of_mapM_asString {values : List Value} {texts : List String}
    (hread : values.mapM Value.asString = .ok texts) : values = texts.map .string := by
  induction values generalizing texts with
  | nil =>
      cases hread
      rfl
  | cons value values ih =>
      rw [List.mapM_cons] at hread
      obtain ⟨text, htext, hread⟩ := bind_eq_ok.mp hread
      obtain ⟨others, hothers, hread⟩ := bind_eq_ok.mp hread
      cases hread
      have hvalue : value = .string text := ValueType.text.read_eq_ok_iff.mp htext
      rw [List.map_cons, ih hothers, hvalue]

/-- Lists of strings. -/
def texts : ValueType (List String) where
  read value := value.asList Value.asString
  Denotes value texts := value = .ofStrings texts
  read_eq_ok_iff {value texts} := by
    constructor
    · intro hread
      cases value with
      | array elements => exact congrArg Value.array (eq_map_of_mapM_asString hread)
      | null | bool | number | string | object => contradiction
    · rintro rfl
      exact asList_ofStrings texts

/-- `null` or a value of a type. -/
def nullable {α : Type} (type : ValueType α) : ValueType (Option α) where
  read value := value.asOptional type.read
  Denotes value content := (value = .null ∧ content = none) ∨
    value ≠ .null ∧ ∃ inner, content = some inner ∧ type.Denotes value inner
  read_eq_ok_iff {value content} := by
    by_cases hnull : value = .null
    · subst hnull
      simp [Value.asOptional, eq_comm]
    · have hother : value.asOptional type.read = (type.read value).map some := by
        cases value with
        | null => exact absurd rfl hnull
        | bool | number | string | array | object => rfl
      rw [hother]
      simp only [← type.read_eq_ok_iff]
      cases type.read value <;> simp [Except.map, hnull, eq_comm]

end ValueType

/-! ## Fields and the members that set them -/

/-- A field of a record: the name of its member, the type of the value, and how it is read from
the record and set in it. -/
structure FieldRule (σ : Type) where
  name : String
  Content : Type
  type : ValueType Content
  get : σ → Content
  put : σ → Content → σ
  get_put : ∀ gathered content, get (put gathered content) = content

namespace FieldRule

variable {σ : Type}

/-- The field as a member that is understood. -/
def member (rule : FieldRule σ) : KnownMember σ where
  name := rule.name
  read gathered value := do return rule.put gathered (← rule.type.read value)

/-- Among some members none has the name of the field, and it stays what it was, or exactly one
has, and it becomes what the value denotes. -/
def IsSet (rule : FieldRule σ) (members : List (String × Value)) (before after : σ) : Prop :=
  (valuesOf rule.name members = [] ∧ rule.get after = rule.get before) ∨
    ∃ value, valuesOf rule.name members = [value] ∧ rule.type.Denotes value (rule.get after)

/-- The same where the members with some names have been seen before. -/
def IsSetBehind (rule : FieldRule σ) (seen : List String) (members : List (String × Value))
    (before after : σ) : Prop :=
  (valuesOf rule.name members = [] ∧ rule.get after = rule.get before) ∨
    rule.name ∉ seen ∧
      ∃ value, valuesOf rule.name members = [value] ∧ rule.type.Denotes value (rule.get after)

end FieldRule

/-- The fields of a record, with what they are where no member is given.  No two have the same
name or set the same, and together they are the whole record. -/
structure Rules (σ : Type) where
  fields : List (FieldRule σ)
  start : σ
  distinct : (fields.map FieldRule.name).Nodup
  get_put_other : ∀ field ∈ fields, ∀ other ∈ fields, other.name ≠ field.name →
    ∀ gathered content, other.get (field.put gathered content) = other.get gathered
  ext : ∀ first second : σ, (∀ field ∈ fields, field.get first = field.get second) →
    first = second

namespace Rules

variable {σ : Type} (rules : Rules σ)

/-- Some members say what a record is. -/
def Gives (members : List (String × Value)) (record : σ) : Prop :=
  ∀ field ∈ rules.fields, field.IsSet members rules.start record

/-- The names of the members of a record. -/
def names : List String :=
  rules.fields.map FieldRule.name

end Rules

/-! ## One member -/

section

variable {σ : Type} {rules : Rules σ} {field other : FieldRule σ} {seen : List String}
  {gathered final : σ} {name : String} {value : Value} {members : List (String × Value)}

theorem FieldRule.isSetBehind_nil {before after : σ} :
    field.IsSetBehind [] members before after ↔ field.IsSet members before after := by
  simp [IsSetBehind, IsSet]

/-- Once the member of a field was read, no other may have its name. -/
theorem FieldRule.isSetBehind_cons_self {content : field.Content}
    (hread : field.type.read value = .ok content) (hseen : field.name ∉ seen) :
    field.IsSetBehind seen ((field.name, value) :: members) gathered final ↔
      field.IsSetBehind (field.name :: seen) members (field.put gathered content) final := by
  have hdenotes : field.type.Denotes value (field.get final) ↔ field.get final = content := by
    rw [← field.type.read_eq_ok_iff, hread, Except.ok.injEq, eq_comm]
  constructor
  · rintro (⟨hnone, _⟩ | ⟨_, first, hvalues, hfirst⟩)
    · simp at hnone
    · rw [valuesOf_cons_self] at hvalues
      obtain ⟨rfl, hnone⟩ := List.cons.inj hvalues
      exact .inl ⟨hnone, (hdenotes.mp hfirst).trans (field.get_put gathered content).symm⟩
  · rintro (⟨hnone, hkept⟩ | ⟨hunseen, _⟩)
    · have hfinal := hkept.trans (field.get_put gathered content)
      exact .inr ⟨hseen, value, by rw [valuesOf_cons_self, hnone], hdenotes.mpr hfinal⟩
    · exact absurd List.mem_cons_self hunseen

/-- A member of one field does not matter to another. -/
theorem FieldRule.isSetBehind_cons_other {next : σ} (hne : field.name ≠ name)
    (hget : field.get next = field.get gathered) :
    field.IsSetBehind seen ((name, value) :: members) gathered final ↔
      field.IsSetBehind (name :: seen) members next final := by
  simp only [IsSetBehind, valuesOf_cons_of_ne (Ne.symm hne), hget, List.mem_cons, hne, false_or]

/-- A member whose name was seen before, or whose value denotes nothing, sets no field. -/
theorem FieldRule.not_isSetBehind_cons
    (hbad : field.name ∈ seen ∨ ∀ content, field.type.read value ≠ .ok content) :
    ¬ field.IsSetBehind seen ((field.name, value) :: members) gathered final := by
  rintro (⟨hnone, _⟩ | ⟨hseen, first, hvalues, hdenotes⟩)
  · simp at hnone
  · rw [valuesOf_cons_self] at hvalues
    obtain rfl : value = first := (List.cons.inj hvalues).1
    rcases hbad with hmem | hread
    · exact hseen hmem
    · exact hread _ (field.type.read_eq_ok_iff.mpr hdenotes)

theorem Rules.find?_member (rules : Rules σ) (hfield : field ∈ rules.fields) :
    (rules.fields.map FieldRule.member).find? (fun member => member.name = field.name) =
      some field.member := by
  obtain ⟨found, hfound⟩ := Option.isSome_iff_exists.mp <|
    (List.find?_isSome (p := fun member : KnownMember σ => decide (member.name = field.name))).mpr
      ⟨field.member, List.mem_map_of_mem hfield, decide_eq_true rfl⟩
  have hname : found.name = field.name := by simpa using List.find?_some hfound
  obtain ⟨other, hother, rfl⟩ := List.mem_map.mp (List.mem_of_find?_eq_some hfound)
  obtain rfl := List.inj_on_of_nodup_map rules.distinct hother hfield hname
  exact hfound

theorem Rules.isUnknown_of_names (rules : Rules σ) (hname : name ∉ rules.names) :
    IsUnknown (rules.fields.map FieldRule.member) name := by
  intro member hmember heq
  obtain ⟨field, hfield, rfl⟩ := List.mem_map.mp hmember
  exact hname (heq ▸ List.mem_map_of_mem hfield)

/-- **One member and those behind it.**  Gathering works exactly if it sets every field. -/
theorem Rules.gather_eq_ok_iff_behind (rules : Rules σ) :
    gather (rules.fields.map FieldRule.member) seen gathered members = .ok final ↔
      ∀ field ∈ rules.fields, field.IsSetBehind seen members gathered final := by
  induction members generalizing seen gathered with
  | nil =>
      rw [gather, Except.ok.injEq]
      constructor
      · rintro rfl field _
        exact .inl ⟨rfl, rfl⟩
      · intro hset
        refine (rules.ext _ _ fun field hfield => ?_).symm
        rcases hset field hfield with ⟨_, hsame⟩ | ⟨_, _, hvalues, _⟩
        · exact hsame
        · simp at hvalues
  | cons member members ih =>
      obtain ⟨name, value⟩ := member
      by_cases hname : name ∈ rules.names
      · obtain ⟨field, hfield, rfl⟩ := List.mem_map.mp hname
        have hfind := rules.find?_member hfield
        by_cases hseen : field.name ∈ seen
        · -- the name comes twice, which is refused
          refine iff_of_false (by simp [gather, hfind, hseen]) fun hset => ?_
          exact FieldRule.not_isSetBehind_cons (.inl hseen) (hset field hfield)
        cases hread : field.type.read value with
        | error problem =>
            have hmember : field.member.read gathered value = .error problem := by
              simp only [FieldRule.member, hread]
              rfl
            refine iff_of_false (by simp [gather, hfind, hseen, hmember]) fun hset => ?_
            refine FieldRule.not_isSetBehind_cons (.inr fun content hok => ?_) (hset field hfield)
            rw [hread] at hok
            contradiction
        | ok content =>
            have hmember : field.member.read gathered value = .ok (field.put gathered content) := by
              simp only [FieldRule.member, hread]
              rfl
            rw [gather_cons_known _ _ hfind (by simpa using hseen) hmember, ih]
            refine forall₂_congr fun other hother => ?_
            by_cases hsame : other.name = field.name
            · obtain rfl := List.inj_on_of_nodup_map rules.distinct hother hfield hsame
              exact (FieldRule.isSetBehind_cons_self hread hseen).symm
            · have hget := rules.get_put_other field hfield other hother hsame gathered content
              exact (FieldRule.isSetBehind_cons_other hsame hget).symm
      · rw [gather_cons_unknown _ _ (rules.isUnknown_of_names hname), ih]
        refine forall₂_congr fun field hfield => ?_
        have hne : field.name ≠ name := fun heq => hname (heq ▸ List.mem_map_of_mem hfield)
        simp only [FieldRule.IsSetBehind, valuesOf_cons_of_ne (Ne.symm hne)]

end

/-! ## All members -/

/-- **What gathering finds.**  Some members are gathered into a record exactly if they say what
it is. -/
theorem Rules.gather_eq_ok_iff {σ : Type} (rules : Rules σ) {members : List (String × Value)}
    {record : σ} :
    gather (rules.fields.map FieldRule.member) [] rules.start members = .ok record ↔
      rules.Gives members record := by
  rw [rules.gather_eq_ok_iff_behind]
  exact forall₂_congr fun field _ => field.isSetBehind_nil

/-- Members with a name that no rule names may be taken away. -/
theorem Rules.gives_filter_ne {σ : Type} {rules : Rules σ} {name : String}
    (hname : name ∉ rules.names) {members : List (String × Value)} {record : σ} :
    rules.Gives (members.filter fun member => member.1 ≠ name) record ↔
      rules.Gives members record := by
  refine forall₂_congr fun field hfield => ?_
  have hne : field.name ≠ name := fun heq => hname (heq ▸ List.mem_map_of_mem hfield)
  rw [FieldRule.IsSet, FieldRule.IsSet, valuesOf_filter_ne hne]

/-- Two lists of members have the same values under some names, in whichever order. -/
def SameUnder (names : List String) (members others : List (String × Value)) : Prop :=
  ∀ name ∈ names, (valuesOf name members).Perm (valuesOf name others)

/-- What members say is said by all that have the same values under the names of the fields. -/
theorem Rules.Gives.congr {σ : Type} {rules : Rules σ} {members others : List (String × Value)}
    {record : σ} (hgives : rules.Gives members record)
    (hsame : SameUnder rules.names members others) : rules.Gives others record := by
  intro field hfield
  have hperm := hsame field.name (List.mem_map_of_mem hfield)
  -- no more than one value is set, and so there is no order
  rcases hgives field hfield with ⟨hnone, hkept⟩ | ⟨value, hvalue, hdenotes⟩
  · rw [hnone] at hperm
    exact .inl ⟨hperm.nil_eq.symm, hkept⟩
  · rw [hvalue] at hperm
    exact .inr ⟨value, hperm.singleton_eq.symm, hdenotes⟩

end ResultBoards.Json
