import ResultBoards.Json.Decoder
import ResultBoards.Json.Printer

/-!
# Entries

The entries of a key-value store, each key with its value, in the order of their keys.
-/

namespace ResultBoards

/-- Sets the value of a key in a list that is sorted by its keys. -/
def setEntry (key value : String) : List (String × String) → List (String × String)
  | [] => [(key, value)]
  | (other, old) :: rest =>
      if key < other then (key, value) :: (other, old) :: rest
      else if key = other then (key, value) :: rest
      else (other, old) :: setEntry key value rest

/-- The keys of a list of entries increase. -/
def Increasing (pairs : List (String × String)) : Prop :=
  pairs.Pairwise fun first second => first.1 < second.1

theorem mem_setEntry {key value : String} {pair : String × String}
    {pairs : List (String × String)} (hmem : pair ∈ setEntry key value pairs) :
    pair = (key, value) ∨ pair ∈ pairs := by
  induction pairs with
  | nil => simpa [setEntry] using hmem
  | cons head rest ih =>
      obtain ⟨other, old⟩ := head
      rw [setEntry] at hmem
      split at hmem
      · simpa using hmem
      · split at hmem
        · rcases List.mem_cons.mp hmem with hsame | hrest
          · exact .inl hsame
          · exact .inr (List.mem_cons_of_mem _ hrest)
        · rcases List.mem_cons.mp hmem with hsame | hrest
          · exact .inr (hsame ▸ List.mem_cons_self)
          · exact (ih hrest).imp_right (List.mem_cons_of_mem _)

theorem lt_of_not_lt_of_ne {first second : String} (hnot : ¬ first < second)
    (hne : first ≠ second) : second < first := by
  have hgreater := String.not_lt.mp hnot
  exact String.not_le.mp fun hle => hne (String.le_antisymm hle hgreater)

theorem increasing_setEntry (key value : String) {pairs : List (String × String)}
    (hincreasing : Increasing pairs) : Increasing (setEntry key value pairs) := by
  induction pairs with
  | nil => exact List.pairwise_singleton _ _
  | cons head rest ih =>
      obtain ⟨other, old⟩ := head
      obtain ⟨habove, htail⟩ := List.pairwise_cons.mp hincreasing
      rw [setEntry]
      split
      · rename_i hless
        refine List.pairwise_cons.mpr ⟨fun pair hmem => ?_, hincreasing⟩
        rcases List.mem_cons.mp hmem with hsame | hrest
        · exact hsame ▸ hless
        · exact String.lt_trans hless (habove pair hrest)
      · rename_i hnot
        split
        · rename_i hsame
          subst hsame
          exact List.pairwise_cons.mpr ⟨habove, htail⟩
        · rename_i hne
          refine List.pairwise_cons.mpr ⟨fun pair hmem => ?_, ih htail⟩
          rcases mem_setEntry hmem with hsame | hrest
          · exact hsame ▸ lt_of_not_lt_of_ne hnot hne
          · exact habove pair hrest

/-- Keys with their values. -/
structure Entries where
  pairs : List (String × String)
  increasing : Increasing pairs

namespace Entries

/-- No entries. -/
def empty : Entries := ⟨[], List.Pairwise.nil⟩

/-- The value of a key. -/
def get? (entries : Entries) (key : String) : Option String :=
  entries.pairs.lookup key

/-- The entries with the value of a key set. -/
def insert (entries : Entries) (key value : String) : Entries :=
  ⟨setEntry key value entries.pairs, increasing_setEntry key value entries.increasing⟩

/-- Decodes entries from an object of strings.  Of a repeated key the last value
counts. -/
def decoder : Json.Decoder Entries :=
  .map .string insert empty

/-- The text of entries, with one on each line. -/
def toText (entries : Entries) : String :=
  String.ofList (Json.writeSpread entries.pairs)

end Entries

end ResultBoards
