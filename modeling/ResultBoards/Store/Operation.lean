import ResultBoards.Event
import ResultBoards.Store.Collection
import ResultBoards.Store.KeyValue

/-!
# Operations on stored dashboards

An operation reads the stored text once and, if it changes the collection, writes a new
text once.  Everything in between depends on the text that was read alone, so an
operation is a function of that text.
-/

namespace ResultBoards

/-- What an operation does with the text it read: what it reports, the text it writes if
it writes one, and what it answers and reports once that has worked. -/
structure Plan (α : Type) where
  events : List Event
  text : Option String
  answer : α
  onSuccess : List Event

/-- An operation on stored dashboards. -/
abbrev Operation (α : Type) := Option String → Except StoreFailure (Plan α)

/-- The outcome of an operation. -/
structure Outcome (σ α : Type) where
  result : Except StoreFailure α
  events : List Event
  state : σ

namespace Operation

/-- An operation that needs the stored collection. -/
def onCollection {α : Type} (plan : Collection → Plan α) : Operation α := fun stored =>
  match Collection.ofStored stored with
  | .ok collection => .ok (plan collection)
  | .error failure => .error (.decode failure)

/-- Reads all dashboards. -/
def list : Operation Collection :=
  onCollection fun collection => ⟨[], none, collection, []⟩

/-- Reads the first dashboard with a name. -/
def getByName (name : String) : Operation (Option Dashboard) :=
  onCollection fun collection => ⟨[], none, collection.findByName? name, []⟩

/-- Saves a dashboard. -/
def save (dashboard : Dashboard) : Operation Unit :=
  onCollection fun collection =>
    let saved := collection.save dashboard
    ⟨[⟨.debug, s!"Saving dashboard {dashboard.id} ({saved.length} stored)"⟩], some saved.toText,
      (), []⟩

/-- Removes every dashboard with an id and answers how many there were. -/
def deleteById (id : String) : Operation Nat :=
  onCollection fun collection =>
    let kept := collection.removeId id
    let count := collection.length - kept.length
    ⟨[⟨.debug, s!"Deleting dashboard {id} ({count} entries removed)"⟩], some kept.toText,
      count, []⟩

/-- Changes the answer of an operation. -/
def map {α β : Type} (f : α → β) (operation : Operation α) : Operation β := fun stored =>
  (operation stored).map fun plan => ⟨plan.events, plan.text, f plan.answer, plan.onSuccess⟩

/-- Reports something once an operation has worked. -/
def reporting {α : Type} (events : List Event) (operation : Operation α) : Operation α :=
  fun stored =>
    (operation stored).map fun plan => { plan with onSuccess := plan.onSuccess ++ events }

/-- Removes every dashboard with the id of the given one. -/
def delete (dashboard : Dashboard) : Operation Unit :=
  (deleteById dashboard.id).map fun _ => ()

/-- Saves a dashboard under a new id and answers it. -/
def create (dashboard : NewDashboard) (id : String) : Operation Dashboard :=
  let created := dashboard.withId id
  ((save created).map fun _ => created).reporting
    [⟨.info, s!"Created dashboard {created.name} ({created.id})"⟩]

/-- Carries out an operation on the text under a key of a store. -/
def run {σ α : Type} (store : KeyValueStore σ) (key : String) (operation : Operation α)
    (state : σ) : Outcome σ α :=
  match store.get state key with
  | .error failure => ⟨.error failure, [], state⟩
  | .ok stored =>
      match operation stored with
      | .error failure => ⟨.error failure, [], state⟩
      | .ok plan =>
          match plan.text with
          | none => ⟨.ok plan.answer, plan.events ++ plan.onSuccess, state⟩
          | some text =>
              match store.set state key text with
              | (.error failure, state) => ⟨.error failure, plan.events, state⟩
              | (.ok (), state) => ⟨.ok plan.answer, plan.events ++ plan.onSuccess, state⟩

end Operation

end ResultBoards
