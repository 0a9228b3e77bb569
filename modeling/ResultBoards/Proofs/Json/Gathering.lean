import Mathlib.Tactic.Common
import ResultBoards.Json.Members
import ResultBoards.Proofs.Json.Decoding

/-!
# Gathering from members that were read before

`gather` goes through all members of an object once for each group of names it knows, and
the groups do not share a name.  So for one group the members of the others might as well
not be there, wherever they stand: `gather_unknown_append` and `gather_append_unknown`
take them away in front and behind.
-/

namespace ResultBoards.Json

/-! ## Values that are what was asked for -/

@[simp] theorem asString_string (text : String) : (Value.string text).asString = .ok text := rfl

@[simp] theorem asBool_bool (value : Bool) : (Value.bool value).asBool = .ok value := rfl

@[simp] theorem asWord_ofNat (value : UInt32) : (Value.ofNat value.toNat).asWord = .ok value := by
  have hlow : (0 : Int) ≤ value.toNat := Int.natCast_nonneg _
  have hhigh : (value.toNat : Int) < 0x100000000 := Int.ofNat_lt.mpr value.toNat_lt
  simp only [Value.ofNat, Value.asWord, if_pos (And.intro hlow hhigh), Int.toNat_natCast,
    UInt32.ofNat_toNat]

@[simp] theorem asList_ofStrings (texts : List String) :
    (Value.ofStrings texts).asList Value.asString = .ok texts := by
  rw [Value.ofStrings, Value.asList]
  induction texts with
  | nil => rfl
  | cons text texts ih => simp [ih, pure, Except.pure, bind, Except.bind]

@[simp] theorem asOptional_string (text : String) :
    (Value.string text).asOptional Value.asString = .ok (some text) := rfl

@[simp] theorem asOptional_ofNat (value : UInt32) :
    (Value.ofNat value.toNat).asOptional Value.asWord = .ok (some value) := by
  have hword := asWord_ofNat value
  simp only [Value.ofNat] at hword ⊢
  simp only [Value.asOptional, hword]
  rfl

/-! ## Values that fit -/

theorem fits_ofNat {depth : Nat} (value : UInt32) : Fits depth (.ofNat value.toNat) := by
  have hhigh : (value.toNat : Int) < 0x100000000 := Int.ofNat_lt.mpr value.toNat_lt
  exact .integer (by omega) (by unfold wordLimit; omega)

theorem fits_ofStrings {depth : Nat} (texts : List String) :
    Fits (depth + 1) (.ofStrings texts) := by
  refine .array fun element helement => ?_
  obtain ⟨text, _, rfl⟩ := List.mem_map.mp helement
  exact .string text

/-! ## Members of other groups -/

variable {σ : Type} {known : List (KnownMember σ)}

/-- None of the known members has the name. -/
def IsUnknown (known : List (KnownMember σ)) (name : String) : Prop :=
  ∀ member ∈ known, member.name ≠ name

instance (known : List (KnownMember σ)) (name : String) : Decidable (IsUnknown known name) :=
  inferInstanceAs (Decidable (∀ member ∈ known, member.name ≠ name))

theorem gather_cons_unknown {seen : List String} {gathered : σ} {name : String} (value : Value)
    (members : List (String × Value)) (hunknown : IsUnknown known name) :
    gather known seen gathered ((name, value) :: members) = gather known seen gathered members := by
  have hfind : known.find? (fun member => member.name = name) = none :=
    List.find?_eq_none.mpr fun member hmember => by simpa using hunknown member hmember
  rw [gather, hfind]

theorem gather_cons_known {seen : List String} {gathered : σ} (next : σ) {name : String}
    {value : Value} {member : KnownMember σ} (members : List (String × Value))
    (hfind : known.find? (fun member => member.name = name) = some member)
    (hseen : seen.contains name = false) (hread : member.read gathered value = .ok next) :
    gather known seen gathered ((name, value) :: members) =
      gather known (name :: seen) next members := by
  simp only [gather, hfind, hseen, hread, if_false, Bool.false_eq_true]

theorem gather_unknown_append {seen : List String} {gathered : σ}
    {others : List (String × Value)} (members : List (String × Value))
    (hunknown : ∀ other ∈ others, IsUnknown known other.1) :
    gather known seen gathered (others ++ members) = gather known seen gathered members := by
  induction others with
  | nil => rfl
  | cons other others ih =>
      rw [List.cons_append, gather_cons_unknown _ _ (hunknown other List.mem_cons_self)]
      exact ih fun next hnext => hunknown next (List.mem_cons_of_mem _ hnext)

theorem gather_append_unknown {seen : List String} {gathered : σ}
    {others : List (String × Value)} (members : List (String × Value))
    (hunknown : ∀ other ∈ others, IsUnknown known other.1) :
    gather known seen gathered (members ++ others) = gather known seen gathered members := by
  induction members generalizing seen gathered with
  | nil =>
      have hnone : gather known seen gathered (others ++ []) = gather known seen gathered [] :=
        gather_unknown_append [] hunknown
      rwa [List.append_nil] at hnone
  | cons member members ih =>
      rw [List.cons_append, gather, gather]
      split
      · exact ih
      · split
        · rfl
        · split
          · rfl
          · exact ih

end ResultBoards.Json
