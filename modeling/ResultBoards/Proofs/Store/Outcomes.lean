import ResultBoards.Proofs.Store.Interleaving

/-!
# How operations end

An operation reads the stored text once and writes a text at most once, so there are five
ways in which it can end (`Operation.Ends`).  In three of them nothing was written, and in a
fourth the one write that was tried has failed.  What a failed write leaves behind is up to
the store; `Unwritten` says that nothing else has happened to it.

Saving and deleting are `Operation.IsMutation`: once the stored text decodes, nothing but
the write itself can fail.
-/

namespace ResultBoards

variable {σ α β : Type}

/-! ## One reading and at most one write -/

/-- The ways in which an operation ends. -/
inductive Operation.Ends (store : KeyValueStore σ) (key : String) (operation : Operation α)
    (state : σ) : Outcome σ α → Prop
  | unreadable {failure : StoreFailure} (hget : store.get state key = .error failure) :
      Ends store key operation state ⟨.error failure, [], state⟩
  | undecodable {stored : Option String} {failure : StoreFailure}
      (hget : store.get state key = .ok stored) (hplan : operation stored = .error failure) :
      Ends store key operation state ⟨.error failure, [], state⟩
  | read {stored : Option String} {plan : Plan α} (hget : store.get state key = .ok stored)
      (hplan : operation stored = .ok plan) (htext : plan.text = none) :
      Ends store key operation state ⟨.ok plan.answer, plan.events ++ plan.onSuccess, state⟩
  | written {stored : Option String} {plan : Plan α} {text : String} {next : σ}
      (hget : store.get state key = .ok stored) (hplan : operation stored = .ok plan)
      (htext : plan.text = some text) (hset : store.set state key text = (.ok (), next)) :
      Ends store key operation state ⟨.ok plan.answer, plan.events ++ plan.onSuccess, next⟩
  | failed {stored : Option String} {plan : Plan α} {text : String} {next : σ}
      {failure : StoreFailure} (hget : store.get state key = .ok stored)
      (hplan : operation stored = .ok plan) (htext : plan.text = some text)
      (hset : store.set state key text = (.error failure, next)) :
      Ends store key operation state ⟨.error failure, plan.events, next⟩

theorem Operation.ends_run (store : KeyValueStore σ) (key : String) (operation : Operation α)
    (state : σ) : Ends store key operation state (operation.run store key state) := by
  unfold run
  split
  · rename_i hget
    exact .unreadable hget
  · rename_i hget
    split
    · rename_i hplan
      exact .undecodable hget hplan
    · rename_i hplan
      split
      · rename_i htext
        exact .read hget hplan htext
      · rename_i htext
        split
        · rename_i hset
          exact .failed hget hplan htext hset
        · rename_i hset
          exact .written hget hplan htext hset

/-- Nothing was written to a store: nothing was tried, or the one write that was tried has
failed. -/
inductive Unwritten (store : KeyValueStore σ) (key : String) (state : σ) : σ → Prop
  | untried : Unwritten store key state state
  | failed {text : String} {failure : StoreFailure} {next : σ}
      (hset : store.set state key text = (.error failure, next)) : Unwritten store key state next

section

variable {store : KeyValueStore σ} {key : String} {state next : σ}

/-- An operation that fails has written nothing. -/
theorem Operation.unwritten_of_error {operation : Operation α} {failure : StoreFailure}
    (hresult : (operation.run store key state).result = .error failure) :
    Unwritten store key state (operation.run store key state).state := by
  have hends := operation.ends_run store key state
  generalize operation.run store key state = outcome at hresult hends ⊢
  cases hends with
  | unreadable | undecodable => exact .untried
  | read | written => contradiction
  | failed _ _ _ hset => exact .failed hset

/-- An operation that never has a text to write leaves the store as it is. -/
theorem Operation.state_run_of_readOnly {operation : Operation α}
    (hreads : ∀ stored, operation.written? stored = none) :
    (operation.run store key state).state = state := by
  cases hget : store.get state key with
  | error failure => exact operation.state_run_of_error hget
  | ok stored => rw [operation.state_run hget, hreads, KeyValueStore.stateAfter]

theorem Operation.written_list (stored : Option String) : list.written? stored = none := by
  unfold written? list onCollection
  cases Collection.ofStored stored <;> rfl

theorem Operation.written_getByName (name : String) (stored : Option String) :
    (getByName name).written? stored = none := by
  unfold written? getByName onCollection
  cases Collection.ofStored stored <;> rfl

/-- The service over memory. -/
def Service.inMemory (key : String) (repository : Repository) : Service Memory :=
  ⟨Memory.store, key, repository⟩

/-- A write to memory that fails leaves everything as it was. -/
theorem Unwritten.eq_of_memory {memory next : Memory}
    (hunwritten : Unwritten Memory.store key memory next) : next = memory := by
  cases hunwritten with
  | untried => rfl
  | failed hset =>
      simp only [Memory.store, Memory.set] at hset
      split at hset
      · exact (Prod.mk.inj hset).2.symm
      · simp at hset

end

/-! ## Mutations -/

namespace Operation

/-- An operation that changes the stored collection.  It fails on a text that does not
decode, and otherwise there is a text to write. -/
structure IsMutation (operation : Operation α) : Prop where
  refuses : ∀ {stored problem}, Collection.ofStored stored = .error problem →
    operation stored = .error (.decode problem)
  writes : ∀ {stored collection}, Collection.ofStored stored = .ok collection →
    ∃ plan text, operation stored = .ok plan ∧ plan.text = some text

theorem IsMutation.exists_written {operation : Operation α} (hmutation : operation.IsMutation)
    {stored : Option String} {collection : Collection}
    (hstored : Collection.ofStored stored = .ok collection) :
    ∃ text, operation.written? stored = some text := by
  obtain ⟨plan, text, hplan, htext⟩ := hmutation.writes hstored
  exact ⟨text, by simp only [written?, hplan, htext]⟩

theorem isMutation_onCollection {plan : Collection → Plan α}
    (htext : ∀ collection, ∃ text, (plan collection).text = some text) :
    (onCollection plan).IsMutation where
  refuses hstored := by rw [onCollection, hstored]
  writes {_ collection} hstored := by
    obtain ⟨text, htext⟩ := htext collection
    exact ⟨plan collection, text, by rw [onCollection, hstored], htext⟩

theorem isMutation_save (dashboard : Dashboard) : (save dashboard).IsMutation :=
  isMutation_onCollection fun _ => ⟨_, rfl⟩

theorem isMutation_deleteById (id : String) : (deleteById id).IsMutation :=
  isMutation_onCollection fun _ => ⟨_, rfl⟩

theorem IsMutation.map {operation : Operation α} (hmutation : operation.IsMutation) (f : α → β) :
    (operation.map f).IsMutation where
  refuses hstored := by
    rw [Operation.map, hmutation.refuses hstored]
    rfl
  writes hstored := by
    obtain ⟨plan, text, hplan, htext⟩ := hmutation.writes hstored
    exact ⟨_, text, map_eq_ok f hplan, htext⟩

theorem IsMutation.reporting {operation : Operation α} (hmutation : operation.IsMutation)
    (events : List Event) : (operation.reporting events).IsMutation where
  refuses hstored := by
    rw [Operation.reporting, hmutation.refuses hstored]
    rfl
  writes hstored := by
    obtain ⟨plan, text, hplan, htext⟩ := hmutation.writes hstored
    refine ⟨{ plan with onSuccess := plan.onSuccess ++ events }, text, ?_, htext⟩
    rw [Operation.reporting, hplan]
    rfl

theorem isMutation_create (dashboard : NewDashboard) (id : String) :
    (create dashboard id).IsMutation :=
  ((isMutation_save (dashboard.withId id)).map _).reporting _

end Operation

end ResultBoards
