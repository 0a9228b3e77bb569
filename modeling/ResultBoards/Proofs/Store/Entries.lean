import Mathlib.Data.List.Induction
import Mathlib.Data.String.Basic
import ResultBoards.Proofs.Json.Decoding
import ResultBoards.Store.Entries

/-!
# Entries and their texts

Looking up a key after one was set, and reading entries from the text in which they are
written.  The text has a member on each line, so it is not the compact form of a value,
and the members are read with the blanks between them.
-/

namespace ResultBoards

open Json

/-! ## Setting a key -/

theorem lookup_pair (name value other : String) (pairs : List (String × String)) :
    ((name, value) :: pairs).lookup other =
      if other = name then some value else pairs.lookup other := by
  rw [List.lookup_cons]
  by_cases hother : other = name
  · simp [hother]
  · rw [beq_false_of_ne hother, if_neg hother]

theorem lookup_setEntry (key value other : String) (pairs : List (String × String)) :
    (setEntry key value pairs).lookup other =
      if other = key then some value else pairs.lookup other := by
  induction pairs with
  | nil => rw [setEntry, lookup_pair]
  | cons head rest ih =>
      obtain ⟨name, old⟩ := head
      rw [setEntry]
      by_cases hless : key < name
      · rw [if_pos hless, lookup_pair]
      · by_cases hsame : key = name
        · subst hsame
          rw [if_neg hless, if_pos rfl, lookup_pair, lookup_pair]
          split <;> rfl
        · rw [if_neg hless, if_neg hsame, lookup_pair, lookup_pair, ih]
          by_cases hname : other = name
          · rw [if_pos hname, if_pos hname, if_neg fun hkey => hsame (hkey.symm.trans hname)]
          · rw [if_neg hname, if_neg hname]

/-- A key that comes after all others is set at the end. -/
theorem setEntry_of_greatest {key value : String} {pairs : List (String × String)}
    (hgreatest : ∀ pair ∈ pairs, pair.1 < key) :
    setEntry key value pairs = pairs ++ [(key, value)] := by
  induction pairs with
  | nil => rfl
  | cons head rest ih =>
      obtain ⟨name, old⟩ := head
      have hless : name < key := hgreatest (name, old) List.mem_cons_self
      rw [setEntry, if_neg (lt_asymm hless), if_neg (ne_of_gt hless),
        ih fun pair hpair => hgreatest pair (List.mem_cons_of_mem _ hpair), List.cons_append]

namespace Entries

theorem get?_insert (entries : Entries) (key value other : String) :
    (entries.insert key value).get? other =
      if other = key then some value else entries.get? other :=
  lookup_setEntry key value other entries.pairs

theorem get?_insert_self (entries : Entries) (key value : String) :
    (entries.insert key value).get? key = some value := by
  rw [get?_insert, if_pos rfl]

/-! ## Texts -/

/-- Setting pairs with increasing keys one after the other keeps them as they are. -/
theorem pairs_foldl_insert {pairs : List (String × String)} (hincreasing : Increasing pairs) :
    (pairs.foldl (fun entries pair => entries.insert pair.1 pair.2) empty).pairs = pairs := by
  induction pairs using List.reverseRecOn with
  | nil => rfl
  | append_singleton pairs pair ih =>
      obtain ⟨hbefore, _, hgreatest⟩ := List.pairwise_append.mp hincreasing
      rw [List.foldl_append, List.foldl_cons, List.foldl_nil]
      show setEntry pair.1 pair.2 (pairs.foldl _ empty).pairs = _
      rw [ih hbefore]
      exact setEntry_of_greatest fun other hother =>
        hgreatest other hother pair (List.mem_singleton.mpr rfl)

theorem foldl_insert (entries : Entries) :
    entries.pairs.foldl (fun entries pair => entries.insert pair.1 pair.2) empty = entries := by
  -- entries are determined by their pairs
  obtain ⟨pairs, hincreasing⟩ := entries
  have hpairs := pairs_foldl_insert hincreasing
  revert hpairs
  generalize pairs.foldl (fun entries pair => entries.insert pair.1 pair.2) empty = filled
  rintro rfl
  rfl

/-- Each member on a line of its own. -/
def spread : Spacing where
  indent := ['\n', ' ', ' ']
  gap := [' ']
  closing := ['\n']
  isGap_indent := by simp [IsGap, isBlank]
  isGap_gap := by simp [IsGap, isBlank]
  isGap_closing := by simp [IsGap, isBlank]

theorem writeSpreadMembers_eq (pair : String × String) (pairs : List (String × String))
    (rest : List Char) :
    '\n' :: (writeSpreadMembers (pair :: pairs) ++ '\n' :: '\x7d' :: rest) =
      spread.objectText rest ((pair :: pairs).map fun pair => (pair.1, .string pair.2)) := by
  induction pairs generalizing pair with
  | nil =>
      simp [writeSpreadMembers, Spacing.objectText, Spacing.furtherMembers, Spacing.writeMember,
        spread, Value.write]
  | cons next pairs ih =>
      have hrest := ih next
      rw [List.map_cons] at hrest
      rw [List.map_cons, Spacing.objectText, List.map_cons, Spacing.furtherMembers_cons, ← hrest]
      simp [writeSpreadMembers, Spacing.writeMember, spread, Value.write]

theorem toList_toText (entries : Entries) :
    ∃ spacing : Spacing, entries.toText.toList =
      '\x7b' :: spacing.objectText [] (entries.pairs.map fun pair => (pair.1, .string pair.2)) := by
  rw [toText, String.toList_ofList]
  cases entries.pairs with
  | nil => exact ⟨.compact, rfl⟩
  | cons pair pairs =>
      refine ⟨spread, ?_⟩
      rw [← writeSpreadMembers_eq]
      rfl

/-- The text of entries is read as it stands. -/
theorem inputOfText_toText (entries : Entries) :
    inputOfText entries.toText = entries.toText.toList := by
  refine inputOfText_of_notMem ?_
  rw [toText, String.toList_ofList]
  exact malformed_notMem_writeSpread entries.pairs

/-- **Entries survive their encoding.** -/
theorem decode_toText (entries : Entries) : decoder.decode entries.toText = .ok entries := by
  obtain ⟨spacing, htext⟩ := toList_toText entries
  have hbrace : isBlank '\x7b' = false := by decide
  simp only [Decoder.decode, inputOfText_toText, htext, decoder, Decoder.map,
    dropBlank_cons _ hbrace, Limits.forText, Decoder.nested, maxDepth, Decoder.members]
  rw [readMembers_written entries ?_ spacing (by rw [List.length_cons]; omega)]
  · rfl
  · refine (congrArg (MembersRead _ _ empty _) (foldl_insert entries)).mp ?_
    refine membersRead_all .string
      (fun before => before.foldl (fun entries pair => entries.insert pair.1 pair.2) empty) ?_
      (fun pair _ => readsAs_string pair.2 ⟨_, 126⟩) []
    refine fun pair _ before => ⟨_, rfl, fun text value rest hread => ?_⟩
    simp only [hread, Except.map, List.foldl_append, List.foldl_cons, List.foldl_nil]

end Entries

end ResultBoards
