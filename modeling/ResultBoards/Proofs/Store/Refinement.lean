import ResultBoards.Proofs.Store.Collection
import ResultBoards.Proofs.Store.Laws
import ResultBoards.Store.Operation

/-!
# The dashboard store is a list of dashboards

Every operation decodes the whole stored text and every change encodes the whole
collection again.  Seen through the answers, none of this is there: a store behaves as a
`Ledger`, a plain list of dashboards without metadata that lives in memory.

## Strategy

* A ledger `Represents` a state when the stored text decodes to its entries.  Texts are
  compared through what they decode to, since the text found at first may be formatted
  in any way.
* `StoreCall.operation_refines` is about one operation on one stored text: it answers what
  the ledger answers, and it writes either nothing or the text of the next ledger.
* `StoreCall.run_refines` adds the store, `answers_eq_ledger` is the induction over the
  calls.
-/

namespace ResultBoards

/-! ## Calls and answers -/

/-- The calls of a dashboard store. -/
inductive StoreCall
  | list
  | getByName (name : String)
  | save (dashboard : Dashboard)
  | delete (dashboard : Dashboard)
  | deleteById (id : String)

/-- The answers to the calls of a dashboard store. -/
inductive StoreAnswer
  | dashboards (collection : Collection)
  | found (dashboard : Option Dashboard)
  | done
  | removed (count : Nat)

namespace StoreCall

/-- The operation behind a call. -/
def operation : StoreCall → Operation StoreAnswer
  | list => Operation.list.map .dashboards
  | getByName name => (Operation.getByName name).map .found
  | save dashboard => (Operation.save dashboard).map fun _ => .done
  | delete dashboard => (Operation.delete dashboard).map fun _ => .done
  | deleteById id => (Operation.deleteById id).map .removed

variable {σ : Type} (store : KeyValueStore σ) (key : String)

/-- The answers to calls that are made one after the other. -/
def answers : σ → List StoreCall → List (Except StoreFailure StoreAnswer)
  | _, [] => []
  | state, call :: calls =>
      let outcome := call.operation.run store key state
      outcome.result :: answers outcome.state calls

/-- If the call gets as far as writing a text, then this works. -/
def WriteWorks (state : σ) (call : StoreCall) : Prop :=
  ∀ stored plan text, store.get state key = .ok stored → call.operation stored = .ok plan →
    plan.text = some text → ∃ next, store.set state key text = (.ok (), next)

/-- No call of those made one after the other fails to write. -/
def WritesWork : σ → List StoreCall → Prop
  | _, [] => True
  | state, call :: calls =>
      WriteWorks store key state call ∧
        WritesWork (call.operation.run store key state).state calls

end StoreCall

/-! ## The list in memory -/

/-- A list of dashboards without metadata. -/
structure Ledger where
  entries : List Dashboard
  isStripped : ∀ dashboard ∈ entries, dashboard.IsStripped

namespace Ledger

/-- The entries with a dashboard in the place of the first that has its id, or at the
end where none has it. -/
def placed (entries : List Dashboard) (dashboard : Dashboard) : List Dashboard :=
  match entries.findIdx? fun entry => entry.id = dashboard.id with
  | some position => entries.set position dashboard
  | none => entries ++ [dashboard]

theorem mem_placed {entries : List Dashboard} {dashboard entry : Dashboard}
    (hentry : entry ∈ placed entries dashboard) : entry = dashboard ∨ entry ∈ entries := by
  unfold placed at hentry
  split at hentry
  · exact (List.mem_or_eq_of_mem_set hentry).symm
  · rw [List.mem_append, List.mem_singleton] at hentry
    exact hentry.symm

/-- Saving puts the dashboard without its metadata into its place. -/
def save (ledger : Ledger) (dashboard : Dashboard) : Ledger where
  entries := placed ledger.entries dashboard.withoutMetadata
  isStripped entry hentry := by
    rcases mem_placed hentry with rfl | hentry
    · exact dashboard.isStripped_withoutMetadata
    · exact ledger.isStripped entry hentry

/-- Removing keeps the entries with other ids. -/
def remove (ledger : Ledger) (id : String) : Ledger where
  entries := ledger.entries.filter fun entry => entry.id ≠ id
  isStripped entry hentry := ledger.isStripped entry (List.mem_of_mem_filter hentry)

/-- What a ledger answers to a call, and what it is afterwards. -/
def step (ledger : Ledger) : StoreCall → StoreAnswer × Ledger
  | .list => (.dashboards ledger.entries, ledger)
  | .getByName name => (.found (ledger.entries.filter fun entry => entry.name = name).head?, ledger)
  | .save dashboard => (.done, ledger.save dashboard)
  | .delete dashboard => (.done, ledger.remove dashboard.id)
  | .deleteById id =>
      (.removed (ledger.entries.countP fun entry => entry.id = id), ledger.remove id)

/-- The answers to calls that are made one after the other. -/
def answers : Ledger → List StoreCall → List StoreAnswer
  | _, [] => []
  | ledger, call :: calls => (ledger.step call).1 :: answers (ledger.step call).2 calls

end Ledger

/-! ## One operation -/

namespace Collection

theorem put_eq_placed (dashboard : Dashboard) (collection : Collection) :
    collection.put dashboard = Ledger.placed collection dashboard := by
  induction collection with
  | nil => rfl
  | cons first rest ih =>
      rw [put, ih, Ledger.placed, Ledger.placed, List.findIdx?_cons]
      by_cases hid : first.id = dashboard.id
      · simp [hid]
      · cases List.findIdx? (fun entry => decide (entry.id = dashboard.id)) rest <;> simp [hid]

/-- As many dashboards are gone as had the id. -/
theorem length_sub_length_removeId (collection : Collection) (id : String) :
    collection.length - (collection.removeId id).length =
      collection.countP fun dashboard => dashboard.id = id := by
  have hparts := collection.length_eq_countP_add_countP fun dashboard => decide (dashboard.id = id)
  have hkept : (collection.removeId id).length =
      collection.countP fun dashboard => ¬ (decide (dashboard.id = id) = true) := by
    rw [removeId, ← List.countP_eq_length_filter]
    simp
  omega

end Collection

theorem Operation.map_eq_ok {α β : Type} (f : α → β) {operation : Operation α}
    {stored : Option String} {plan : Plan α} (hplan : operation stored = .ok plan) :
    operation.map f stored =
      .ok ⟨plan.events, plan.text, f plan.answer, plan.onSuccess⟩ := by
  rw [map, hplan]
  rfl

namespace StoreCall

/-- **One operation.**  On a text that holds the entries of a ledger an operation answers
what the ledger answers.  It leaves the text where the ledger stays the same, and
otherwise writes the text of the next ledger. -/
theorem operation_refines (call : StoreCall) {stored : Option String} {ledger : Ledger}
    (hstored : Collection.ofStored stored = .ok ledger.entries) :
    ∃ plan, call.operation stored = .ok plan ∧ plan.answer = (ledger.step call).1 ∧
      (plan.text = none ∧ (ledger.step call).2 = ledger ∨
        plan.text = some (Collection.toText (ledger.step call).2.entries)) := by
  -- all operations decode the text first and go on with the entries
  have hplan : ∀ {α : Type} (plan : Collection → Plan α),
      Operation.onCollection plan stored = .ok (plan ledger.entries) := fun plan => by
    rw [Operation.onCollection, hstored]
  cases call with
  | list => exact ⟨_, Operation.map_eq_ok _ (hplan _), rfl, .inl ⟨rfl, rfl⟩⟩
  | getByName name =>
      refine ⟨_, Operation.map_eq_ok _ (hplan _), ?_, .inl ⟨rfl, rfl⟩⟩
      rw [Ledger.step, List.head?_filter]
      rfl
  | save dashboard =>
      refine ⟨_, Operation.map_eq_ok (fun _ => StoreAnswer.done) (hplan _), rfl, .inr ?_⟩
      simp only [Collection.save, Collection.put_eq_placed]
      rfl
  | delete dashboard =>
      have hdelete := Operation.map_eq_ok (fun _ => ())
        (hplan _ : Operation.deleteById dashboard.id stored = _)
      exact ⟨_, Operation.map_eq_ok (fun _ => StoreAnswer.done) hdelete, rfl, .inr rfl⟩
  | deleteById id =>
      refine ⟨_, Operation.map_eq_ok _ (hplan _), ?_, .inr rfl⟩
      simp only [Collection.length_sub_length_removeId]
      rfl

end StoreCall

/-! ## One call and all calls -/

section

variable {σ : Type} {store : KeyValueStore σ} {key : String}

/-- The stored text decodes to the entries of a ledger. -/
def Ledger.Represents (store : KeyValueStore σ) (key : String) (ledger : Ledger) (state : σ) :
    Prop :=
  ∃ stored, store.get state key = .ok stored ∧ Collection.ofStored stored = .ok ledger.entries

theorem Operation.run_of_read {α : Type} {operation : Operation α} {state : σ}
    {stored : Option String} {plan : Plan α} (hget : store.get state key = .ok stored)
    (hplan : operation stored = .ok plan) (htext : plan.text = none) :
    (operation.run store key state).result = .ok plan.answer ∧
      (operation.run store key state).state = state := by
  simp [run, hget, hplan, htext]

theorem Operation.run_of_write {α : Type} {operation : Operation α} {state next : σ}
    {stored : Option String} {plan : Plan α} {text : String}
    (hget : store.get state key = .ok stored) (hplan : operation stored = .ok plan)
    (htext : plan.text = some text) (hset : store.set state key text = (.ok (), next)) :
    (operation.run store key state).result = .ok plan.answer ∧
      (operation.run store key state).state = next := by
  simp [run, hget, hplan, htext, hset]

/-- A call whose write works answers what the ledger answers, and the next ledger
represents the state after it. -/
theorem StoreCall.run_refines (hkeeps : store.KeepsWrites) {call : StoreCall} {state : σ}
    {ledger : Ledger} (hrepresents : ledger.Represents store key state)
    (hwrite : call.WriteWorks store key state) :
    (call.operation.run store key state).result = .ok (ledger.step call).1 ∧
      (ledger.step call).2.Represents store key (call.operation.run store key state).state := by
  obtain ⟨stored, hget, hstored⟩ := hrepresents
  obtain ⟨plan, hplan, hanswer, ⟨htext, hstays⟩ | htext⟩ := call.operation_refines hstored
  · obtain ⟨hresult, hstate⟩ := Operation.run_of_read hget hplan htext
    rw [hresult, hstate, hanswer, hstays]
    exact ⟨rfl, stored, hget, hstored⟩
  · obtain ⟨next, hset⟩ := hwrite stored plan _ hget hplan htext
    obtain ⟨hresult, hstate⟩ := Operation.run_of_write hget hplan htext hset
    rw [hresult, hstate, hanswer]
    exact ⟨rfl, _, hkeeps hset,
      Collection.IsStripped.ofStored_toText (ledger.step call).2.isStripped⟩

theorem StoreCall.answers_eq_of_represents (hkeeps : store.KeepsWrites) {calls : List StoreCall}
    {state : σ} {ledger : Ledger} (hrepresents : ledger.Represents store key state)
    (hwrites : WritesWork store key state calls) :
    answers store key state calls = (ledger.answers calls).map .ok := by
  induction calls generalizing state ledger with
  | nil => rfl
  | cons call calls ih =>
      obtain ⟨hwrite, hwrites⟩ := hwrites
      obtain ⟨hresult, hnext⟩ := run_refines hkeeps hrepresents hwrite
      rw [answers, Ledger.answers, List.map_cons, hresult, ih hnext hwrites]

theorem Memory.broken_run {α : Type} (operation : Operation α) (memory : Memory) :
    (operation.run Memory.store key memory).state.broken = memory.broken := by
  have hset : ∀ text, (Memory.store.set memory key text).2.broken = memory.broken := fun text => by
    simp only [Memory.store, Memory.set]
    split <;> rfl
  unfold Operation.run
  split
  · rfl
  · split
    · rfl
    · split
      · rfl
      · rename_i text _
        split <;> rename_i hresult <;> rw [← hset text, hresult]

/-- Writes to a memory that is not broken never fail. -/
theorem Memory.writesWork {memory : Memory} (hworking : memory.broken = none)
    (calls : List StoreCall) : StoreCall.WritesWork Memory.store key memory calls := by
  induction calls generalizing memory with
  | nil => trivial
  | cons call calls ih =>
      refine ⟨fun stored plan text _ _ _ => ?_, ih ((broken_run _ _).trans hworking)⟩
      simp [Memory.store, Memory.set, hworking]

/-- **The dashboard store refines a list.**  Where the stored text is absent or decodes to
a collection, all answers to any calls whose writes work are those of a list in memory
that starts as this collection. -/
theorem StoreCall.answers_eq_ledger (hkeeps : store.KeepsWrites) {state : σ}
    {stored : Option String} {collection : Collection} (hget : store.get state key = .ok stored)
    (hstored : Collection.ofStored stored = .ok collection) (calls : List StoreCall)
    (hwrites : WritesWork store key state calls) :
    answers store key state calls =
      (Ledger.answers ⟨collection, Collection.isStripped_of_ofStored hstored⟩ calls).map .ok :=
  answers_eq_of_represents hkeeps ⟨stored, hget, hstored⟩ hwrites

/-- Saving replaces the first of two dashboards with one id, removing takes both. -/
theorem StoreCall.answers_on_duplicates :
    answers Memory.store "dashboards"
        ⟨Entries.empty.insert "dashboards"
          (Collection.toText [⟨"1", "A", []⟩, ⟨"1", "B", []⟩]), none⟩
        [.save ⟨"1", "C", [⟨.titled "", .none, .text ⟨"", none⟩, some (.raw "old")⟩]⟩, .list,
          .getByName "B", .deleteById "1", .list] =
      [.ok .done,
        .ok (.dashboards
          [⟨"1", "C", [⟨.titled "", .none, .text ⟨"", none⟩, none⟩]⟩, ⟨"1", "B", []⟩]),
        .ok (.found (some ⟨"1", "B", []⟩)), .ok (.removed 2), .ok (.dashboards [])] :=
  (answers_eq_ledger Memory.keepsWrites (congrArg Except.ok (Entries.get?_insert_self _ _ _))
    (Collection.ofStored_toText _) _ (Memory.writesWork rfl _)).trans rfl

end

end ResultBoards
