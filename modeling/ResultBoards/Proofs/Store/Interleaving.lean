import Mathlib.Logic.Function.Basic
import Mathlib.Logic.Relation
import ResultBoards.Proofs.Store.Canonical
import ResultBoards.Proofs.Store.Refinement
import ResultBoards.Service

/-!
# Clients that share a store

An operation is not atomic.  It reads the stored text and, if it changes anything, writes
a text later on, and other clients may have written in between.  Their changes are then
lost, but nothing worse happens: the stored text is canonical at every moment.

## Strategy

The stored text alone is not enough of an invariant, since a client may write a text that
goes back to a much older one.  So `System.IsSound` also speaks about the texts that
clients are about to write.  Whatever is written was computed from a canonical text, and
`Request.isCanonical_written` says that it is canonical again, however old the text is.

That the steps are those of the service is `System.reaches_serve`: a request that is
served alone reads once and then writes at most once.
-/

namespace ResultBoards

/-! ## Requests -/

/-- What clients ask for: a call of the dashboard store, be it made by the service or
directly, or one of the two things that only the service does. -/
inductive Request
  | direct (call : StoreCall)
  | create (dashboard : NewDashboard) (id : String)
  | hydrated (name : String)

/-- The text that an operation writes after it has read a text. -/
def Operation.written? {α : Type} (operation : Operation α) (stored : Option String) :
    Option String :=
  match operation stored with
  | .error _ => none
  | .ok plan => plan.text

/-- The text that a request writes after it has read a text. -/
def Request.written? : Request → Option String → Option String
  | .direct call => call.operation.written?
  | .create dashboard id => (Operation.create dashboard id).written?
  | .hydrated name => (Operation.getByName name).written?

/-- What becomes of the store when the request is all that happens. -/
def Request.serve {σ : Type} (service : Service σ) (state : σ) : Request → σ
  | .direct call => (service.run call.operation state).state
  | .create dashboard id => (service.run (Operation.create dashboard id) state).state
  | .hydrated name => (service.getHydrated name state).state

section

variable {σ : Type} {store : KeyValueStore σ} {key : String}

/-- The state after a text was written, if there was one to write. -/
def KeyValueStore.stateAfter (store : KeyValueStore σ) (key : String) (state : σ) :
    Option String → σ
  | none => state
  | some text => (store.set state key text).2

theorem Operation.state_run_of_error {α : Type} (operation : Operation α) {state : σ}
    {failure : StoreFailure} (hget : store.get state key = .error failure) :
    (operation.run store key state).state = state := by
  simp only [run, hget]

theorem Operation.state_run {α : Type} (operation : Operation α) {state : σ}
    {stored : Option String} (hget : store.get state key = .ok stored) :
    (operation.run store key state).state =
      store.stateAfter key state (operation.written? stored) := by
  simp only [run, written?, hget]
  cases operation stored with
  | error failure => rfl
  | ok plan =>
      obtain ⟨events, text, answer, onSuccess⟩ := plan
      cases text with
      | none => rfl
      | some text =>
          simp only [KeyValueStore.stateAfter]
          split <;> rename_i hset <;> simp only [hset]

theorem Service.state_getHydrated (service : Service σ) (name : String) (state : σ) :
    (service.getHydrated name state).state =
      ((Operation.getByName name).run service.store service.key state).state := by
  unfold getHydrated
  simp only
  split <;> rfl

/-- A request is one reading, and one writing if there is anything to write. -/
theorem Request.serve_eq (service : Service σ) (request : Request) {state : σ}
    {stored : Option String} (hget : service.store.get state service.key = .ok stored) :
    request.serve service state =
      service.store.stateAfter service.key state (request.written? stored) := by
  cases request with
  | direct call => exact Operation.state_run _ hget
  | create dashboard id => exact Operation.state_run _ hget
  | hydrated name =>
      exact (service.state_getHydrated name state).trans (Operation.state_run _ hget)

end

/-! ## What is written is canonical -/

theorem Operation.written_map {α β : Type} (f : α → β) (operation : Operation α)
    (stored : Option String) : (operation.map f).written? stored = operation.written? stored := by
  unfold written? map
  cases operation stored <;> rfl

theorem Operation.written_reporting {α : Type} (events : List Event) (operation : Operation α)
    (stored : Option String) :
    (operation.reporting events).written? stored = operation.written? stored := by
  unfold written? reporting
  cases operation stored <;> rfl

theorem Operation.isCanonical_onCollection {α : Type} {plan : Collection → Plan α}
    {stored : Option String} (hstored : Collection.IsCanonical stored)
    (hplan : ∀ collection, collection.IsTidy → Collection.IsCanonical (plan collection).text) :
    Collection.IsCanonical ((onCollection plan).written? stored) := by
  obtain ⟨collection, hcollection, htidy⟩ := hstored.ofStored
  rw [written?, onCollection, hcollection]
  exact hplan collection htidy

theorem Operation.isCanonical_list {stored : Option String}
    (hstored : Collection.IsCanonical stored) : Collection.IsCanonical (list.written? stored) :=
  isCanonical_onCollection hstored fun _ _ => Collection.isCanonical_none

theorem Operation.isCanonical_getByName (name : String) {stored : Option String}
    (hstored : Collection.IsCanonical stored) :
    Collection.IsCanonical ((getByName name).written? stored) :=
  isCanonical_onCollection hstored fun _ _ => Collection.isCanonical_none

theorem Operation.isCanonical_save (dashboard : Dashboard) {stored : Option String}
    (hstored : Collection.IsCanonical stored) :
    Collection.IsCanonical ((save dashboard).written? stored) :=
  isCanonical_onCollection hstored fun _ htidy => (htidy.save dashboard).isCanonical

theorem Operation.isCanonical_deleteById (id : String) {stored : Option String}
    (hstored : Collection.IsCanonical stored) :
    Collection.IsCanonical ((deleteById id).written? stored) :=
  isCanonical_onCollection hstored fun _ htidy => (htidy.removeId id).isCanonical

theorem StoreCall.isCanonical_written (call : StoreCall) {stored : Option String}
    (hstored : Collection.IsCanonical stored) :
    Collection.IsCanonical (call.operation.written? stored) := by
  cases call with
  | list =>
      rw [operation, Operation.written_map]
      exact Operation.isCanonical_list hstored
  | getByName name =>
      rw [operation, Operation.written_map]
      exact Operation.isCanonical_getByName name hstored
  | save dashboard =>
      rw [operation, Operation.written_map]
      exact Operation.isCanonical_save dashboard hstored
  | delete dashboard =>
      rw [operation, Operation.written_map, Operation.delete, Operation.written_map]
      exact Operation.isCanonical_deleteById dashboard.id hstored
  | deleteById id =>
      rw [operation, Operation.written_map]
      exact Operation.isCanonical_deleteById id hstored

/-- A request that has read a canonical text writes a canonical text or nothing. -/
theorem Request.isCanonical_written (request : Request) {stored : Option String}
    (hstored : Collection.IsCanonical stored) :
    Collection.IsCanonical (request.written? stored) := by
  cases request with
  | direct call => exact call.isCanonical_written hstored
  | create dashboard id =>
      simp only [written?, Operation.create, Operation.written_reporting, Operation.written_map]
      exact Operation.isCanonical_save (dashboard.withId id) hstored
  | hydrated name => exact Operation.isCanonical_getByName name hstored

/-! ## Steps of all clients -/

/-- A store and what each client is about to write. -/
structure System (σ Client : Type) where
  state : σ
  pending : Client → Option String

namespace System

variable {σ Client : Type}

/-- No client is about to write. -/
def idle (state : σ) : System σ Client := ⟨state, fun _ => none⟩

variable (store : KeyValueStore σ) (key : String)

/-- One client reads for a request or writes what it is about to write.  A write that fails
leaves the text under the key as it was. -/
inductive Step [DecidableEq Client] : System σ Client → System σ Client → Prop
  | read {system : System σ Client} (client : Client) (request : Request)
      {stored : Option String} (hidle : system.pending client = none)
      (hget : store.get system.state key = .ok stored) :
      Step system
        ⟨system.state, Function.update system.pending client (request.written? stored)⟩
  | write {system : System σ Client} (client : Client) {text : String} {next : σ}
      (hpending : system.pending client = some text)
      (hset : store.set system.state key text = (.ok (), next)) :
      Step system ⟨next, Function.update system.pending client none⟩
  | failedWrite {system : System σ Client} (client : Client) {text : String} {next : σ}
      {failure : StoreFailure} (hpending : system.pending client = some text)
      (hset : store.set system.state key text = (.error failure, next))
      (hkept : store.get next key = store.get system.state key) :
      Step system ⟨next, Function.update system.pending client none⟩

/-- Steps of any clients in any order. -/
abbrev Reaches [DecidableEq Client] : System σ Client → System σ Client → Prop :=
  Relation.ReflTransGen (Step store key)

/-- The stored text is canonical, and so is every text that a client is about to write. -/
structure IsSound (system : System σ Client) : Prop where
  stored : ∃ stored, store.get system.state key = .ok stored ∧ Collection.IsCanonical stored
  pending : ∀ client, Collection.IsCanonical (system.pending client)

variable {store key}

/-- A request that is served alone is a run of one client, as far as its write works. -/
theorem reaches_serve [DecidableEq Client] (service : Service σ) (client : Client)
    (request : Request) {state : σ} {stored : Option String}
    (hget : service.store.get state service.key = .ok stored)
    (hwrite : ∀ text, request.written? stored = some text →
      ∃ next, service.store.set state service.key text = (.ok (), next)) :
    Reaches service.store service.key (idle state : System σ Client)
      (idle (request.serve service state)) := by
  -- a client without anything to write is idle again
  have hquiet : Function.update (fun _ : Client => (none : Option String)) client none =
      fun _ => none := Function.update_eq_self client _
  have hread : Step service.store service.key (idle state) ⟨state, Function.update (fun _ => none)
      client (request.written? stored)⟩ := .read client request rfl hget
  rw [request.serve_eq service hget]
  cases hwritten : request.written? stored with
  | none =>
      rw [hwritten, hquiet] at hread
      exact .single hread
  | some text =>
      obtain ⟨next, hset⟩ := hwrite text hwritten
      rw [hwritten] at hread
      have hdone : Step service.store service.key
          ⟨state, Function.update (fun _ => none) client (some text)⟩ ⟨next, _⟩ :=
        .write client (Function.update_self client (some text) fun _ => none) hset
      rw [Function.update_idem, hquiet] at hdone
      rw [KeyValueStore.stateAfter, hset]
      exact (Relation.ReflTransGen.single hread).tail hdone

theorem isSound_idle {start : σ} (habsent : store.get start key = .ok none) :
    IsSound store key (idle start : System σ Client) :=
  ⟨⟨none, habsent, Collection.isCanonical_none⟩, fun _ => Collection.isCanonical_none⟩

variable [DecidableEq Client]

theorem isCanonical_update {pending : Client → Option String}
    (hpending : ∀ client, Collection.IsCanonical (pending client)) (client : Client)
    {next : Option String} (hnext : Collection.IsCanonical next) (other : Client) :
    Collection.IsCanonical (Function.update pending client next other) := by
  rw [Function.update_apply]
  split
  · exact hnext
  · exact hpending other

/-- No step of any client makes a system unsound. -/
theorem IsSound.step (hkeeps : store.KeepsWrites) {system next : System σ Client}
    (hsound : IsSound store key system) (hstep : Step store key system next) :
    IsSound store key next := by
  obtain ⟨⟨stored, hstored, hcanonical⟩, hpendings⟩ := hsound
  cases hstep with
  | read client request hidle hget =>
      -- the text may be overwritten before the client writes, but it is canonical now
      obtain rfl := Except.ok.inj (hstored.symm.trans hget)
      exact ⟨⟨stored, hstored, hcanonical⟩,
        isCanonical_update hpendings client (request.isCanonical_written hcanonical)⟩
  | write client hpending hset =>
      exact ⟨⟨_, hkeeps hset, hpending ▸ hpendings client⟩,
        isCanonical_update hpendings client Collection.isCanonical_none⟩
  | failedWrite client hpending hset hkept =>
      exact ⟨⟨stored, hkept.trans hstored, hcanonical⟩,
        isCanonical_update hpendings client Collection.isCanonical_none⟩

theorem IsSound.reaches (hkeeps : store.KeepsWrites) {system last : System σ Client}
    (hsound : IsSound store key system) (hreaches : Reaches store key system last) :
    IsSound store key last := by
  induction hreaches with
  | refl => exact hsound
  | tail _ hstep ih => exact ih.step hkeeps hstep

/-- **Interleaved clients keep the stored text canonical.**  Where the key is absent at
first, the text under it is at every moment absent or the text of a collection with
different ids and without metadata, and listing answers this collection.  This holds for
any clients, any requests and any order of their steps. -/
theorem isCanonical_of_reaches (hkeeps : store.KeepsWrites) {start : σ}
    (habsent : store.get start key = .ok none) {system : System σ Client}
    (hreaches : Reaches store key (idle start) system) :
    ∃ stored collection, store.get system.state key = .ok stored ∧
      Collection.IsCanonical stored ∧ Collection.ofStored stored = .ok collection ∧
        (Operation.list.run store key system.state).result = .ok collection := by
  obtain ⟨⟨stored, hget, hcanonical⟩, _⟩ := (isSound_idle habsent).reaches hkeeps hreaches
  obtain ⟨collection, hcollection, _⟩ := hcanonical.ofStored
  refine ⟨stored, collection, hget, hcanonical, hcollection, ?_⟩
  simp only [Operation.run, Operation.list, Operation.onCollection, hget, hcollection]

/-- Two clients read while nothing is stored, and the one that writes last undoes what the
other has saved.  What is stored then is canonical nevertheless. -/
theorem isCanonical_after_lost_update :
    ∃ system : System Memory Bool,
      Reaches Memory.store "dashboards" (idle .empty) system ∧
        Memory.store.get system.state "dashboards" =
          .ok (some (Collection.toText [⟨"2", "B", []⟩])) ∧
        Collection.IsCanonical (some (Collection.toText [⟨"2", "B", []⟩])) := by
  have hreaches : Reaches Memory.store "dashboards" (idle .empty : System Memory Bool) _ :=
    (((Relation.ReflTransGen.refl.tail
      (.read true (.direct (.save ⟨"1", "A", []⟩)) rfl rfl)).tail
      (.read false (.create ⟨"B", []⟩ "2") rfl rfl)).tail
      (.write true rfl rfl)).tail (.write false rfl rfl)
  have hget : Memory.store.get ⟨(Entries.empty.insert "dashboards"
      (Collection.toText [⟨"1", "A", []⟩])).insert "dashboards"
        (Collection.toText [⟨"2", "B", []⟩]), none⟩ "dashboards" = .ok (some _) :=
    congrArg Except.ok (Entries.get?_insert_self _ _ _)
  obtain ⟨stored, _, hstored, hcanonical, _⟩ :=
    isCanonical_of_reaches Memory.keepsWrites rfl hreaches
  obtain rfl := Except.ok.inj (hget.symm.trans hstored)
  exact ⟨_, hreaches, hget, hcanonical⟩

end System

end ResultBoards
