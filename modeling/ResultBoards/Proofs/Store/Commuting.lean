import ResultBoards.Proofs.Store.Outcomes

/-!
# Calls that commute

Saving and removing are laws of a list of dashboards, in which one id may stand many times:
saving acts on the first entry with the id and removing on all of them.  Two calls that are
about different ids may change places, with one exception: where both save something new,
what is saved first stands first.  A call that is made twice does the same as once.

## Strategy

* On lists, all laws are inductions along `Collection.put`, which stops at the first entry
  with the id.  For two dashboards that are saved, such an entry is needed for at least one
  of the two (`put_put_comm`): the walk of the other then ends at a place of its own or at
  the end, and either way the two do not meet.
* A call that changes the collection leaves the text of the next ledger, whatever text it
  found (`StoreCall.IsChange.run_writes`), so what calls leave together is the text of the
  last ledger (`StoreCall.leaves_of_represents`).  Two runs leave the same text to the byte
  once their ledgers have the same entries.
-/

namespace ResultBoards

/-! ## Laws of lists -/

namespace Collection

theorem removeId_comm (collection : Collection) (id other : String) :
    (collection.removeId id).removeId other = (collection.removeId other).removeId id := by
  rw [removeId, removeId, removeId, removeId, List.filter_filter, List.filter_filter]
  refine List.filter_congr fun dashboard _ => ?_
  exact Bool.and_comm _ _

theorem removeId_removeId (collection : Collection) (id : String) :
    (collection.removeId id).removeId id = collection.removeId id := by
  rw [removeId, removeId, List.filter_filter]
  refine List.filter_congr fun dashboard _ => ?_
  exact Bool.and_self _

/-- What is removed has no entry left to count. -/
theorem countP_removeId (collection : Collection) (id : String) :
    ((collection.removeId id).countP fun dashboard => dashboard.id = id) = 0 := by
  rw [List.countP_eq_zero]
  intro dashboard hmem
  obtain ⟨_, hkept⟩ := List.mem_filter.mp hmem
  simpa using hkept

theorem put_put (dashboard : Dashboard) (collection : Collection) :
    (collection.put dashboard).put dashboard = collection.put dashboard := by
  induction collection with
  | nil => simp [put]
  | cons first rest ih =>
      by_cases hid : first.id = dashboard.id
      · simp [put, hid]
      · simp [put, hid, ih]

theorem removeId_cons (first : Dashboard) (rest : Collection) (id : String) :
    removeId (first :: rest) id =
      if first.id = id then rest.removeId id else first :: rest.removeId id := by
  by_cases hid : first.id = id <;> simp [removeId, hid]

/-- Removing other dashboards does not matter to where a dashboard is put. -/
theorem removeId_put {dashboard : Dashboard} {id : String} (hid : id ≠ dashboard.id)
    (collection : Collection) :
    (collection.put dashboard).removeId id = (collection.removeId id).put dashboard := by
  induction collection with
  | nil => simp [put, removeId, hid.symm]
  | cons first rest ih =>
      by_cases hfirst : first.id = dashboard.id
      · have hkept : first.id ≠ id := by
          rw [hfirst]
          exact hid.symm
        rw [put, if_pos hfirst, removeId_cons, removeId_cons, if_neg hid.symm, if_neg hkept, put,
          if_pos hfirst]
      · rw [put, if_neg hfirst, removeId_cons, removeId_cons, ih]
        by_cases hgone : first.id = id
        · -- the first entry is removed before or after the walk has passed it
          rw [if_pos hgone, if_pos hgone]
        · rw [if_neg hgone, if_neg hgone, put, if_neg hfirst]

/-- Two dashboards are put in their places in either order if one of them replaces
another. -/
theorem put_put_comm {first second : Dashboard} (hne : first.id ≠ second.id)
    {collection : Collection}
    (hstored : ∃ entry ∈ collection, entry.id = first.id ∨ entry.id = second.id) :
    (collection.put first).put second = (collection.put second).put first := by
  induction collection with
  | nil =>
      obtain ⟨_, hmem, _⟩ := hstored
      exact nomatch hmem
  | cons entry rest ih =>
      by_cases hfirst : entry.id = first.id
      · have hsecond : entry.id ≠ second.id := by
          rw [hfirst]
          exact hne
        simp [put, hfirst, hne]
      · by_cases hsecond : entry.id = second.id
        · simp [put, hsecond, hne.symm]
        · -- the entry stays, so the one with an id of the two is behind it
          have hrest : ∃ entry ∈ rest, entry.id = first.id ∨ entry.id = second.id := by
            obtain ⟨found, hmem, hid⟩ := hstored
            rcases List.mem_cons.mp hmem with rfl | hmem
            · exact absurd hid (not_or.mpr ⟨hfirst, hsecond⟩)
            · exact ⟨found, hmem, hid⟩
          simp [put, hfirst, hsecond, ih hrest]

/-- Two new dashboards stand at the end, the one that is put first before the other. -/
theorem put_put_of_missing {first second : Dashboard} (hne : first.id ≠ second.id)
    {collection : Collection}
    (hmissing : ∀ entry ∈ collection, entry.id ≠ first.id ∧ entry.id ≠ second.id) :
    (collection.put first).put second = collection ++ [first, second] := by
  have hfirst : first.id ∉ collection.map Dashboard.id := by
    intro hmem
    obtain ⟨entry, hentry, hid⟩ := List.mem_map.mp hmem
    exact (hmissing entry hentry).1 hid
  have hsecond : second.id ∉ (collection ++ [first]).map Dashboard.id := by
    intro hmem
    obtain ⟨entry, hentry, hid⟩ := List.mem_map.mp hmem
    rcases List.mem_append.mp hentry with hentry | hentry
    · exact (hmissing entry hentry).2 hid
    · rw [List.mem_singleton.mp hentry] at hid
      exact hne hid
  rw [put_of_missing hfirst, put_of_missing hsecond, List.append_assoc]
  rfl

/-! Saving puts the dashboard without its metadata, which has the same id. -/

theorem save_save (collection : Collection) (dashboard : Dashboard) :
    (collection.save dashboard).save dashboard = collection.save dashboard :=
  put_put dashboard.withoutMetadata collection

theorem removeId_save (collection : Collection) {dashboard : Dashboard} {id : String}
    (hid : id ≠ dashboard.id) :
    (collection.save dashboard).removeId id = (collection.removeId id).save dashboard := by
  rw [save, save]
  refine removeId_put ?_ collection
  exact hid

theorem save_save_comm {collection : Collection} {first second : Dashboard}
    (hne : first.id ≠ second.id)
    (hstored : ∃ entry ∈ collection, entry.id = first.id ∨ entry.id = second.id) :
    (collection.save first).save second = (collection.save second).save first := by
  simp only [save]
  refine put_put_comm ?_ hstored
  exact hne

theorem save_save_of_missing {collection : Collection} {first second : Dashboard}
    (hne : first.id ≠ second.id)
    (hmissing : ∀ entry ∈ collection, entry.id ≠ first.id ∧ entry.id ≠ second.id) :
    (collection.save first).save second =
      collection ++ [first.withoutMetadata, second.withoutMetadata] := by
  simp only [save]
  refine put_put_of_missing ?_ hmissing
  exact hne

end Collection

/-! ## What calls leave -/

namespace Ledger

/-- The ledger after calls that are made one after the other. -/
def after (ledger : Ledger) (calls : List StoreCall) : Ledger :=
  calls.foldl (fun ledger call => (ledger.step call).2) ledger

@[simp] theorem after_nil (ledger : Ledger) : ledger.after [] = ledger := rfl

@[simp] theorem after_save (ledger : Ledger) (dashboard : Dashboard) (calls : List StoreCall) :
    ledger.after (.save dashboard :: calls) = (ledger.save dashboard).after calls := rfl

@[simp] theorem after_deleteById (ledger : Ledger) (id : String) (calls : List StoreCall) :
    ledger.after (.deleteById id :: calls) = (ledger.remove id).after calls := rfl

@[simp] theorem entries_save (ledger : Ledger) (dashboard : Dashboard) :
    (ledger.save dashboard).entries = Collection.save ledger.entries dashboard :=
  (Collection.put_eq_placed _ _).symm

@[simp] theorem entries_remove (ledger : Ledger) (id : String) :
    (ledger.remove id).entries = Collection.removeId ledger.entries id := rfl

end Ledger

namespace StoreCall

/-- The call is to change the stored collection. -/
def IsChange : StoreCall → Prop
  | .save _ | .delete _ | .deleteById _ => True
  | .list | .getByName _ => False

/-- There are some calls, and all of them are changes. -/
inductive AreChanges : List StoreCall → Prop
  | last {call : StoreCall} (hchange : call.IsChange) : AreChanges [call]
  | cons {call : StoreCall} {calls : List StoreCall} (hchange : call.IsChange)
      (hchanges : AreChanges calls) : AreChanges (call :: calls)

theorem IsChange.isMutation {call : StoreCall} (hchange : call.IsChange) :
    call.operation.IsMutation := by
  cases call with
  | list | getByName => contradiction
  | save dashboard => exact (Operation.isMutation_save dashboard).map fun _ => StoreAnswer.done
  | delete dashboard =>
      have hdelete := (Operation.isMutation_deleteById dashboard.id).map fun _ => ()
      exact hdelete.map fun _ => StoreAnswer.done
  | deleteById id => exact (Operation.isMutation_deleteById id).map StoreAnswer.removed

variable {σ : Type} (store : KeyValueStore σ) (key : String)

/-- The state after calls that are made one after the other. -/
def after (state : σ) (calls : List StoreCall) : σ :=
  calls.foldl (fun state call => (call.operation.run store key state).state) state

/-- All of some calls work, one after the other, and in the end a text is stored. -/
structure Leaves (state : σ) (calls : List StoreCall) (text : String) : Prop where
  work : ∀ answer ∈ answers store key state calls, ∃ value, answer = .ok value
  stored : store.get (after store key state calls) key = .ok (some text)

/-- The same text is stored after either of two runs of calls, in which all calls work. -/
def LeaveTheSame (state : σ) (calls others : List StoreCall) : Prop :=
  ∃ text, Leaves store key state calls text ∧ Leaves store key state others text

variable {store key} {state : σ} {ledger : Ledger}

/-- A change whose write works leaves the text of the next ledger. -/
theorem IsChange.run_writes {call : StoreCall} (hchange : call.IsChange)
    (hkeeps : store.KeepsWrites) (hrepresents : ledger.Represents store key state)
    (hwrite : call.WriteWorks store key state) :
    store.get (call.operation.run store key state).state key =
      .ok (some (Collection.toText (ledger.step call).2.entries)) := by
  obtain ⟨stored, hget, hstored⟩ := hrepresents
  obtain ⟨plan, hplan, _, ⟨htext, _⟩ | htext⟩ := call.operation_refines hstored
  · -- a change always has a text to write
    obtain ⟨other, text, hother, hwritten⟩ := hchange.isMutation.writes hstored
    obtain rfl : plan = other := Except.ok.inj (hplan.symm.trans hother)
    rw [htext] at hwritten
    contradiction
  · obtain ⟨next, hset⟩ := hwrite stored plan _ hget hplan htext
    obtain ⟨_, hstate⟩ := Operation.run_of_write hget hplan htext hset
    rw [hstate]
    exact hkeeps hset

/-- Changes leave the text of the ledger that has made them. -/
theorem leaves_of_represents (hkeeps : store.KeepsWrites) {calls : List StoreCall}
    (hchanges : AreChanges calls) (hrepresents : ledger.Represents store key state)
    (hworks : WritesWork store key state calls) :
    Leaves store key state calls (Collection.toText (ledger.after calls).entries) := by
  refine ⟨?_, ?_⟩
  · rw [answers_eq_of_represents hkeeps hrepresents hworks]
    intro answer hanswer
    obtain ⟨value, _, rfl⟩ := List.mem_map.mp hanswer
    exact ⟨value, rfl⟩
  · induction hchanges generalizing state ledger with
    | last hchange => exact hchange.run_writes hkeeps hrepresents hworks.1
    | cons _ _ ih =>
        obtain ⟨hwrite, hlater⟩ := hworks
        obtain ⟨_, hnext⟩ := run_refines hkeeps hrepresents hwrite
        exact ih hnext hlater

/-- Two runs of changes leave the same text if their ledgers have the same entries. -/
theorem leaveTheSame_of_entries_eq (hkeeps : store.KeepsWrites) {calls others : List StoreCall}
    (hcalls : AreChanges calls) (hothers : AreChanges others)
    (hrepresents : ledger.Represents store key state)
    (hworks : ∀ calls, WritesWork store key state calls)
    (hentries : (ledger.after calls).entries = (ledger.after others).entries) :
    LeaveTheSame store key state calls others := by
  refine ⟨_, leaves_of_represents hkeeps hcalls hrepresents (hworks calls), ?_⟩
  rw [hentries]
  exact leaves_of_represents hkeeps hothers hrepresents (hworks others)

/-- Two new dashboards are left at the end, in the order in which they were saved. -/
theorem leaves_save_save_of_missing (hkeeps : store.KeepsWrites)
    (hrepresents : ledger.Represents store key state) {first second : Dashboard}
    (hworks : WritesWork store key state [.save first, .save second]) (hne : first.id ≠ second.id)
    (hmissing : ∀ entry ∈ ledger.entries, entry.id ≠ first.id ∧ entry.id ≠ second.id) :
    Leaves store key state [.save first, .save second]
      (Collection.toText (ledger.entries ++ [first.withoutMetadata, second.withoutMetadata])) := by
  have hchanges : AreChanges [.save first, .save second] := .cons trivial (.last trivial)
  have hleaves := leaves_of_represents hkeeps hchanges hrepresents hworks
  have hentries : (ledger.after [.save first, .save second]).entries =
      ledger.entries ++ [first.withoutMetadata, second.withoutMetadata] := by
    rw [Ledger.after_save, Ledger.after_save, Ledger.after_nil, Ledger.entries_save,
      Ledger.entries_save]
    exact Collection.save_save_of_missing hne hmissing
  rwa [hentries] at hleaves

/-! ## Laws of calls -/

/-- What is the same in another order, and what is the same if it is done twice. -/
structure ObeyLaws (store : KeyValueStore σ) (key : String) (state : σ)
    (collection : Collection) : Prop where
  delete_delete : ∀ id other,
    LeaveTheSame store key state [.deleteById id, .deleteById other]
      [.deleteById other, .deleteById id]
  save_delete : ∀ (dashboard : Dashboard) (id : String), id ≠ dashboard.id →
    LeaveTheSame store key state [.save dashboard, .deleteById id]
      [.deleteById id, .save dashboard]
  save_save : ∀ first second : Dashboard, first.id ≠ second.id →
    (∃ entry ∈ collection, entry.id = first.id ∨ entry.id = second.id) →
    LeaveTheSame store key state [.save first, .save second] [.save second, .save first]
  save_save_new : ∀ first second : Dashboard, first.id ≠ second.id →
    (∀ entry ∈ collection, entry.id ≠ first.id ∧ entry.id ≠ second.id) →
    Leaves store key state [.save first, .save second]
        (Collection.toText (collection ++ [first.withoutMetadata, second.withoutMetadata])) ∧
      Leaves store key state [.save second, .save first]
        (Collection.toText (collection ++ [second.withoutMetadata, first.withoutMetadata]))
  save_twice : ∀ dashboard,
    LeaveTheSame store key state [.save dashboard, .save dashboard] [.save dashboard]
  delete_twice : ∀ id,
    LeaveTheSame store key state [.deleteById id, .deleteById id] [.deleteById id] ∧
      answers store key state [.deleteById id, .deleteById id] =
        [.ok (.removed (collection.countP fun entry => entry.id = id)), .ok (.removed 0)]

/-- **Laws of the dashboard store.**  Let the stored text be absent or decode to a
collection, in which ids may come twice, and let writes work.  Removing commutes with
removing, and with saving under another id.  Saving commutes with saving under another id
if one of the two ids is stored; if neither is, the two orders leave the last two entries
in two orders.  Saving twice and removing twice leave what doing it once leaves, and
nothing is left for the second removal to remove.  All of this is about the stored text,
to the byte. -/
theorem obeyLaws_of_ofStored (hkeeps : store.KeepsWrites) {stored : Option String}
    {collection : Collection} (hget : store.get state key = .ok stored)
    (hstored : Collection.ofStored stored = .ok collection)
    (hworks : ∀ calls, WritesWork store key state calls) :
    ObeyLaws store key state collection := by
  let ledger : Ledger := ⟨collection, Collection.isStripped_of_ofStored hstored⟩
  have hrepresents : ledger.Represents store key state := ⟨stored, hget, hstored⟩
  have hsame : ∀ {calls others : List StoreCall}, AreChanges calls → AreChanges others →
      (ledger.after calls).entries = (ledger.after others).entries →
      LeaveTheSame store key state calls others := fun hcalls hothers hentries =>
    leaveTheSame_of_entries_eq hkeeps hcalls hothers hrepresents hworks hentries
  have hone : ∀ {call : StoreCall}, call.IsChange → AreChanges [call] := .last
  have htwo : ∀ {call other : StoreCall}, call.IsChange → other.IsChange →
      AreChanges [call, other] := fun hcall hother => .cons hcall (.last hother)
  constructor
  case delete_delete =>
    intro id other
    refine hsame (htwo trivial trivial) (htwo trivial trivial) ?_
    simp only [Ledger.after_deleteById, Ledger.after_nil, Ledger.entries_remove]
    exact Collection.removeId_comm collection id other
  case save_delete =>
    intro dashboard id hid
    refine hsame (htwo trivial trivial) (htwo trivial trivial) ?_
    simp only [Ledger.after_save, Ledger.after_deleteById, Ledger.after_nil, Ledger.entries_save,
      Ledger.entries_remove]
    exact Collection.removeId_save collection hid
  case save_save =>
    intro first second hne hentry
    refine hsame (htwo trivial trivial) (htwo trivial trivial) ?_
    simp only [Ledger.after_save, Ledger.after_nil, Ledger.entries_save]
    exact Collection.save_save_comm hne hentry
  case save_save_new =>
    intro first second hne hmissing
    constructor
    · exact leaves_save_save_of_missing hkeeps hrepresents (hworks _) hne hmissing
    · exact leaves_save_save_of_missing hkeeps hrepresents (hworks _) hne.symm fun entry hentry =>
        (hmissing entry hentry).symm
  case save_twice =>
    intro dashboard
    refine hsame (htwo trivial trivial) (hone trivial) ?_
    simp only [Ledger.after_save, Ledger.after_nil, Ledger.entries_save]
    exact Collection.save_save collection dashboard
  case delete_twice =>
    intro id
    constructor
    · refine hsame (htwo trivial trivial) (hone trivial) ?_
      simp only [Ledger.after_deleteById, Ledger.after_nil, Ledger.entries_remove]
      exact Collection.removeId_removeId collection id
    · have hnone : ((ledger.remove id).entries.countP fun entry => entry.id = id) = 0 :=
        Collection.countP_removeId collection id
      rw [answers_eq_of_represents hkeeps hrepresents (hworks _)]
      simp only [Ledger.answers, Ledger.step, List.map_cons, List.map_nil, hnone]
      rfl

/-- A dashboard with an id and a name. -/
def named (id name : String) : Dashboard := ⟨id, name, []⟩

/-- Of three dashboards two have one id.  The second removal finds neither, a dashboard that
replaces the first of them and a new one may change places, and two new ones may not. -/
theorem obeyLaws_on_duplicates :
    let collection : Collection := [named "1" "A", named "2" "B", named "1" "C"]
    let memory : Memory := ⟨Entries.empty.insert "dashboards" collection.toText, none⟩
    answers Memory.store "dashboards" memory [.deleteById "1", .deleteById "1"] =
        [.ok (.removed 2), .ok (.removed 0)] ∧
      LeaveTheSame Memory.store "dashboards" memory [.save (named "1" "D"), .save (named "9" "E")]
        [.save (named "9" "E"), .save (named "1" "D")] ∧
      Leaves Memory.store "dashboards" memory [.save (named "8" "D"), .save (named "9" "E")]
        (Collection.toText (collection ++ [named "8" "D", named "9" "E"])) ∧
      Leaves Memory.store "dashboards" memory [.save (named "9" "E"), .save (named "8" "D")]
        (Collection.toText (collection ++ [named "9" "E", named "8" "D"])) := by
  intro collection memory
  have hget : Memory.store.get memory "dashboards" = .ok (some collection.toText) :=
    congrArg Except.ok (Entries.get?_insert_self _ _ _)
  have hlaws : ObeyLaws Memory.store "dashboards" memory collection :=
    obeyLaws_of_ofStored Memory.keepsWrites hget (Collection.ofStored_toText collection)
      (Memory.writesWork rfl)
  obtain ⟨_, hremoved⟩ := hlaws.delete_twice "1"
  refine ⟨hremoved, hlaws.save_save _ _ (by decide) ⟨named "1" "A", by decide, by decide⟩, ?_⟩
  exact hlaws.save_save_new (named "8" "D") (named "9" "E") (by decide) (by decide)

end StoreCall

end ResultBoards
