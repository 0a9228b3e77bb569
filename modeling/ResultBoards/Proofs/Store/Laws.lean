import ResultBoards.Proofs.Store.Entries
import ResultBoards.Store.KeyValue

/-!
# What stores promise

Whoever keeps something in a store relies on one thing: what was written under a key is
what is read under it.  A write that fails promises nothing.
-/

namespace ResultBoards

/-- A value that was written is what is read afterwards. -/
def KeyValueStore.KeepsWrites {σ : Type} (store : KeyValueStore σ) : Prop :=
  ∀ ⦃state next : σ⦄ ⦃key value : String⦄, store.set state key value = (.ok (), next) →
    store.get next key = .ok (some value)

/-- Memory keeps what is written. -/
theorem Memory.keepsWrites : Memory.store.KeepsWrites := by
  intro memory next key value hset
  simp only [store, set] at hset ⊢
  split at hset
  · simp at hset
  · cases hset
    rw [Entries.get?_insert_self]

end ResultBoards
