import ResultBoards.Store.Entries
import ResultBoards.Store.Failure

/-!
# Key-value stores

A store keeps texts under keys.  It is given by what reading and writing do with a state
of some type, and a write that fails may still have changed the state.
-/

namespace ResultBoards

/-- What reading and writing do with a state. -/
structure KeyValueStore (σ : Type) where
  get : σ → String → Except StoreFailure (Option String)
  set : σ → String → String → Except StoreFailure Unit × σ

/-! ## Memory -/

/-- Entries in memory, and the problem of every write while writing is impossible. -/
structure Memory where
  entries : Entries
  broken : Option IoProblem

namespace Memory

/-- Nothing in memory. -/
def empty : Memory := ⟨.empty, none⟩

/-- Writes an entry to memory. -/
def set (memory : Memory) (key value : String) : Except StoreFailure Unit × Memory :=
  match memory.broken with
  | some problem => (.error (.io problem), memory)
  | none => (.ok (), { memory with entries := memory.entries.insert key value })

/-- The store that keeps its entries in memory. -/
def store : KeyValueStore Memory where
  get memory key := .ok (memory.entries.get? key)
  set := set

end Memory

end ResultBoards
