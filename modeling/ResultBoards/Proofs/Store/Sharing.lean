import ResultBoards.Proofs.Store.Refinement
import ResultBoards.Proofs.Store.Twins
import ResultBoards.Proofs.Store.Writable

/-!
# Dashboard stores that share a key-value store

Several dashboard stores, each with a key of its own, keep their texts in one key-value store.  A
call reads and then writes, and between the two any other call may do the same, so a call may
decide on a text that is no longer there.  Calls under other keys are not noticed all the same:
leaving out their turns changes neither an answer nor a text under the key.

## Strategy

* `KeyValueStore.Isolates` is what this asks of a key-value store: a relation between the state
  that all keys share and the state that one key has for itself, kept by every write that works.
* In memory it is enough that both states have the same value.  A store in a file writes its
  whole file each time, so `FileStore.IsAlike` adds that a write of the key alone would work
  whenever a write of all has worked (`FileStore.isWritable_of_set`).
* `Mirrors.turn_own` and `Mirrors.turn_other` are about one turn, and `Mirrors.run` is the
  induction over the turns.
* That no file fails is asked of the shared run alone.  `Sharing.noIoFailure_of_isWritable` says
  when it is so, whatever the calls are.
-/

namespace ResultBoards

/-! ## Calls in two turns -/

/-- What a call that has read is about to write, and what it answers once that has worked. -/
structure Pending where
  text : String
  answer : StoreAnswer

/-- What a client does in its turn: it reads for a call, or it writes what it is about to write. -/
inductive Act
  | read (call : StoreCall)
  | write

/-- A turn of a client of the dashboard store with a key. -/
structure Turn (Client : Type) where
  key : String
  client : Client
  act : Act

/-- The answer to a call of a client of the dashboard store with a key. -/
structure Reply (Client : Type) where
  key : String
  client : Client
  answer : Except StoreFailure StoreAnswer

/-- A key-value store and what each client of each dashboard store is about to write. -/
structure Sharing (σ Client : Type) where
  state : σ
  pending : String × Client → Option Pending

/-- What a call answers when it has read, if it answers then. -/
def StoreCall.answerAtOnce (call : StoreCall) :
    Except StoreFailure (Option String) → Option (Except StoreFailure StoreAnswer)
  | .error failure => some (.error failure)
  | .ok stored =>
      match call.operation stored with
      | .error failure => some (.error failure)
      | .ok plan => if plan.text.isNone then some (.ok plan.answer) else none

/-- What a call that has read is about to write. -/
def StoreCall.pending (call : StoreCall) : Except StoreFailure (Option String) → Option Pending
  | .error _ => none
  | .ok stored =>
      match call.operation stored with
      | .error _ => none
      | .ok plan => plan.text.map fun text => ⟨text, plan.answer⟩

namespace Sharing

variable {σ Client : Type} [DecidableEq Client] {store : KeyValueStore σ}

/-- No client is about to write. -/
def idle (state : σ) : Sharing σ Client := ⟨state, fun _ => none⟩

/-- What a client is answered in its turn, if it is, and what is there afterwards.  A client that
is about to write does not read, and one that is not does not write. -/
def turn (store : KeyValueStore σ) (sharing : Sharing σ Client) (turn : Turn Client) :
    Option (Except StoreFailure StoreAnswer) × Sharing σ Client :=
  match turn.act, sharing.pending (turn.key, turn.client) with
  | .read call, none =>
      let stored := store.get sharing.state turn.key
      (call.answerAtOnce stored, ⟨sharing.state,
        Function.update sharing.pending (turn.key, turn.client) (call.pending stored)⟩)
  | .write, some pending =>
      let (result, next) := store.set sharing.state turn.key pending.text
      (some (result.map fun _ => pending.answer), ⟨next,
        Function.update sharing.pending (turn.key, turn.client) none⟩)
  | .read _, some _ => (none, sharing)
  | .write, none => (none, sharing)

/-- The answers in some turns, with whom they are for. -/
def replies (store : KeyValueStore σ) : Sharing σ Client → List (Turn Client) → List (Reply Client)
  | _, [] => []
  | sharing, turn :: turns =>
      let taken := sharing.turn store turn
      (taken.1.map (Reply.mk turn.key turn.client)).toList ++ taken.2.replies store turns

/-- What is there after some turns. -/
def after (store : KeyValueStore σ) (sharing : Sharing σ Client) (turns : List (Turn Client)) :
    Sharing σ Client :=
  turns.foldl (fun sharing turn => (sharing.turn store turn).2) sharing

/-- Nothing fails because of files. -/
def NoIoFailure (store : KeyValueStore σ) (sharing : Sharing σ Client)
    (turns : List (Turn Client)) : Prop :=
  ∀ reply ∈ sharing.replies store turns, ∀ problem, reply.answer ≠ .error (.io problem)

/-- A call that reads and writes in two turns without any turn between them is the operation. -/
theorem replies_alone {sharing : Sharing σ Client} {key : String} {client : Client}
    (hidle : sharing.pending (key, client) = none) (call : StoreCall) :
    let turns : List (Turn Client) := [⟨key, client, .read call⟩, ⟨key, client, .write⟩]
    let outcome := call.operation.run store key sharing.state
    sharing.replies store turns = [⟨key, client, outcome.result⟩] ∧
      (sharing.after store turns).state = outcome.state := by
  intro turns outcome
  simp only [turns, outcome, replies, after, List.foldl, turn, hidle, Operation.run,
    StoreCall.answerAtOnce, StoreCall.pending, Function.update_self]
  cases store.get sharing.state key with
  | error failure => simp
  | ok stored =>
      cases hplan : call.operation stored with
      | error failure => simp [hplan]
      | ok plan =>
          obtain ⟨events, text, answer, onSuccess⟩ := plan
          cases text with
          | none => simp [hplan]
          | some text =>
              cases hset : store.set sharing.state key text with
              | mk result next =>
                  cases result <;> simp [hplan, hset, Except.map]

end Sharing

/-! ## What is asked of the key-value store -/

/-- A relation between the state that all keys share and the state that one key has for itself.
Both have the same text under the key, and every write that works keeps this.  A write that does
not work fails because of files. -/
structure KeyValueStore.Isolates {σ : Type} (store : KeyValueStore σ) (key : String)
    (alike : σ → σ → Prop) : Prop where
  get : ∀ {shared own : σ}, alike shared own →
    ∃ stored, store.get shared key = .ok stored ∧ store.get own key = .ok stored
  set_own : ∀ {shared own next : σ} {text : String}, alike shared own →
    store.set shared key text = (.ok (), next) →
      ∃ ownNext, store.set own key text = (.ok (), ownNext) ∧ alike next ownNext
  set_other : ∀ {shared own next : σ} {other text : String}, alike shared own → other ≠ key →
    store.set shared other text = (.ok (), next) → alike next own
  fails : ∀ {shared own next : σ} {other text : String} {failure : StoreFailure},
    alike shared own → store.set shared other text = (.error failure, next) →
      ∃ problem, failure = .io problem

/-- Two memories that have the same value of a key and can be written or not alike. -/
structure Memory.IsAlike (key : String) (shared own : Memory) : Prop where
  broken : shared.broken = own.broken
  get? : shared.entries.get? key = own.entries.get? key

theorem Memory.isolates (key : String) : Memory.store.Isolates key (Memory.IsAlike key) where
  get {_ own} halike := ⟨own.entries.get? key, congrArg Except.ok halike.get?, rfl⟩
  set_own {shared own _ text} halike hset := by
    have hbroken := halike.broken
    simp only [store, set, ← hbroken] at hset ⊢
    split at hset
    · simp at hset
    · cases hset
      refine ⟨_, rfl, rfl, ?_⟩
      rw [Entries.get?_insert_self, Entries.get?_insert_self]
  set_other {_ _ _ other _} halike hother hset := by
    simp only [store, set] at hset
    split at hset
    · simp at hset
    · cases hset
      refine ⟨halike.broken, ?_⟩
      rw [Entries.get?_insert, if_neg (Ne.symm hother)]
      exact halike.get?
  fails _ hset := by
    simp only [store, set] at hset
    split at hset
    · cases hset
      exact ⟨_, rfl⟩
    · simp at hset

/-- Two directory trees whose files at a path have the same value of a key.  They are the same
tree as long as nothing was written, and then the second can be written. -/
structure FileStore.IsAlike (path : FilePath) (key : String) (shared own : FileSystem) : Prop where
  readEntries : ∃ entries others, readEntries path shared = .ok entries ∧
    readEntries path own = .ok others ∧ entries.get? key = others.get? key
  isWritable : shared = own ∨ IsWritable path own

/-- A write to the first tree that works shows that the second can be written. -/
theorem FileStore.IsAlike.isWritable_of_set {path : FilePath} {key other text : String}
    {shared own next : FileSystem} (halike : IsAlike path key shared own)
    (hset : FileStore.set path shared other text = (.ok (), next)) : IsWritable path own := by
  -- before the first write the trees are the same, and after it the second is still untouched
  rcases halike.isWritable with rfl | hwritable
  · exact (FileStore.isWritable_of_set hset).1
  · exact hwritable

theorem FileStore.isolates (path : FilePath) (key : String) :
    (store path).Isolates key (IsAlike path key) where
  get {shared own} halike := by
    obtain ⟨entries, others, hshared, hown, hsame⟩ := halike.readEntries
    refine ⟨others.get? key, ?_, ?_⟩
    · show (FileStore.readEntries path shared).map _ = _
      rw [hshared, Except.map, hsame]
    · show (FileStore.readEntries path own).map _ = _
      rw [hown, Except.map]
  set_own {shared own next text} halike hset := by
    obtain ⟨entries, others, hshared, hown, hsame⟩ := halike.readEntries
    obtain ⟨ownNext, hownSet⟩ := (halike.isWritable_of_set hset).exists_set hown key text
    refine ⟨ownNext, hownSet, ?_, .inr (isWritable_of_set hownSet).2⟩
    refine ⟨_, _, readEntries_of_set hshared hset, readEntries_of_set hown hownSet, ?_⟩
    rw [Entries.get?_insert_self, Entries.get?_insert_self]
  set_other {shared own next other text} halike hother hset := by
    obtain ⟨entries, others, hshared, hown, hsame⟩ := halike.readEntries
    have hread := readEntries_of_set hshared hset
    refine ⟨⟨_, others, hread, hown, ?_⟩, .inr (halike.isWritable_of_set hset)⟩
    rw [Entries.get?_insert, if_neg (Ne.symm hother)]
    exact hsame
  fails {shared own next other text failure} halike hset := by
    obtain ⟨entries, _, hshared, _⟩ := halike.readEntries
    have hresult : (FileStore.set path shared other text).1 = .error failure :=
      congrArg Prod.fst hset
    rcases set_eq_ok_or_io hshared other text with hok | ⟨problem, hproblem⟩
    · rw [hresult] at hok
      contradiction
    · rw [hresult] at hproblem
      exact ⟨problem, Except.error.inj hproblem⟩

/-! ## One turn, and all turns -/

variable {σ Client : Type} [DecidableEq Client] {store : KeyValueStore σ} {key : String}
  {alike : σ → σ → Prop} {shared own : Sharing σ Client}

/-- What all keys share mirrors what one key has for itself: the states are alike, and under the
key the same clients are about to write the same. -/
structure Mirrors (alike : σ → σ → Prop) (key : String) (shared own : Sharing σ Client) :
    Prop where
  state : alike shared.state own.state
  pending : ∀ client, shared.pending (key, client) = own.pending (key, client)

theorem Mirrors.update (hmirrors : Mirrors alike key shared own) {next ownNext : σ}
    (halike : alike next ownNext) (client : Client) (pending : Option Pending) :
    Mirrors alike key ⟨next, Function.update shared.pending (key, client) pending⟩
      ⟨ownNext, Function.update own.pending (key, client) pending⟩ := by
  refine ⟨halike, fun other => ?_⟩
  simp only [Function.update_apply, hmirrors.pending]

theorem Mirrors.update_other (hmirrors : Mirrors alike key shared own) {next : σ}
    (halike : alike next own.state) {other : String} (hother : other ≠ key) (client : Client)
    (pending : Option Pending) :
    Mirrors alike key ⟨next, Function.update shared.pending (other, client) pending⟩ own := by
  refine ⟨halike, fun someone => ?_⟩
  have hne : (key, someone) ≠ (other, client) := fun heq => hother (Prod.mk.inj heq).1.symm
  exact (Function.update_of_ne hne _ _).trans (hmirrors.pending someone)

theorem Sharing.turn_read {sharing : Sharing σ Client} {client : Client}
    (hidle : sharing.pending (key, client) = none) (call : StoreCall) :
    sharing.turn store ⟨key, client, .read call⟩ =
      (call.answerAtOnce (store.get sharing.state key), ⟨sharing.state, Function.update
        sharing.pending (key, client) (call.pending (store.get sharing.state key))⟩) := by
  simp only [turn, hidle]

theorem Sharing.turn_write {sharing : Sharing σ Client} {client : Client} {pending : Pending}
    (hpending : sharing.pending (key, client) = some pending) {result : Except StoreFailure Unit}
    {next : σ} (hset : store.set sharing.state key pending.text = (result, next)) :
    sharing.turn store ⟨key, client, .write⟩ = (some (result.map fun _ => pending.answer),
      ⟨next, Function.update sharing.pending (key, client) none⟩) := by
  simp only [turn, hpending, hset]

theorem Sharing.turn_read_of_pending {sharing : Sharing σ Client} {client : Client}
    {pending : Pending} (hpending : sharing.pending (key, client) = some pending)
    (call : StoreCall) : sharing.turn store ⟨key, client, .read call⟩ = (none, sharing) := by
  simp only [turn, hpending]

theorem Sharing.turn_write_of_idle {sharing : Sharing σ Client} {client : Client}
    (hidle : sharing.pending (key, client) = none) :
    sharing.turn store ⟨key, client, .write⟩ = (none, sharing) := by
  simp only [turn, hidle]

/-- A write that does not fail because of files works. -/
theorem KeyValueStore.Isolates.set_eq_ok (hisolates : store.Isolates key alike)
    {sharing : Sharing σ Client} {other : σ} (halike : alike sharing.state other) {name : String}
    {client : Client} {pending : Pending}
    (hpending : sharing.pending (name, client) = some pending)
    (hworks : ∀ problem, (sharing.turn store ⟨name, client, .write⟩).1 ≠
      some (.error (.io problem))) :
    ∃ next, store.set sharing.state name pending.text = (.ok (), next) := by
  cases hset : store.set sharing.state name pending.text with
  | mk result next =>
      cases result with
      | ok _ => exact ⟨next, rfl⟩
      | error failure =>
          obtain ⟨problem, rfl⟩ := hisolates.fails halike hset
          have hanswer := congrArg Prod.fst (Sharing.turn_write hpending hset)
          exact absurd hanswer (hworks problem)

/-- A turn under the key is answered as it is where the key is alone. -/
theorem Mirrors.turn_own (hisolates : store.Isolates key alike)
    (hmirrors : Mirrors alike key shared own) {client : Client} {act : Act}
    (hworks : ∀ problem, (shared.turn store ⟨key, client, act⟩).1 ≠
      some (.error (.io problem))) :
    (shared.turn store ⟨key, client, act⟩).1 = (own.turn store ⟨key, client, act⟩).1 ∧
      Mirrors alike key (shared.turn store ⟨key, client, act⟩).2
        (own.turn store ⟨key, client, act⟩).2 := by
  -- the same client is about to write in both, or in neither
  cases hown : own.pending (key, client) with
  | none =>
      have hshared := (hmirrors.pending client).trans hown
      cases act with
      | read call =>
          obtain ⟨stored, hget, hownGet⟩ := hisolates.get hmirrors.state
          rw [Sharing.turn_read hshared, Sharing.turn_read hown, hget, hownGet]
          exact ⟨rfl, hmirrors.update hmirrors.state client _⟩
      | write =>
          rw [Sharing.turn_write_of_idle hshared, Sharing.turn_write_of_idle hown]
          exact ⟨rfl, hmirrors⟩
  | some pending =>
      have hshared := (hmirrors.pending client).trans hown
      cases act with
      | read call =>
          rw [Sharing.turn_read_of_pending hshared, Sharing.turn_read_of_pending hown]
          exact ⟨rfl, hmirrors⟩
      | write =>
          obtain ⟨next, hset⟩ := hisolates.set_eq_ok hmirrors.state hshared hworks
          obtain ⟨ownNext, hownSet, halike⟩ := hisolates.set_own hmirrors.state hset
          rw [Sharing.turn_write hshared hset, Sharing.turn_write hown hownSet]
          exact ⟨rfl, hmirrors.update halike client none⟩

/-- A turn under another key changes nothing that the key is about. -/
theorem Mirrors.turn_other (hisolates : store.Isolates key alike)
    (hmirrors : Mirrors alike key shared own) {other : String} (hother : other ≠ key)
    {client : Client} {act : Act}
    (hworks : ∀ problem, (shared.turn store ⟨other, client, act⟩).1 ≠
      some (.error (.io problem))) :
    Mirrors alike key (shared.turn store ⟨other, client, act⟩).2 own := by
  cases hpending : shared.pending (other, client) with
  | none =>
      cases act with
      | read call =>
          rw [Sharing.turn_read hpending]
          exact hmirrors.update_other hmirrors.state hother client _
      | write =>
          rw [Sharing.turn_write_of_idle hpending]
          exact hmirrors
  | some pending =>
      cases act with
      | read call =>
          rw [Sharing.turn_read_of_pending hpending]
          exact hmirrors
      | write =>
          obtain ⟨next, hset⟩ := hisolates.set_eq_ok hmirrors.state hpending hworks
          have halike := hisolates.set_other hmirrors.state hother hset
          rw [Sharing.turn_write hpending hset]
          exact hmirrors.update_other halike hother client none

namespace Sharing

theorem after_cons (sharing : Sharing σ Client) (turn : Turn Client) (turns : List (Turn Client)) :
    sharing.after store (turn :: turns) = (sharing.turn store turn).2.after store turns :=
  rfl

theorem replies_append (sharing : Sharing σ Client) (first second : List (Turn Client)) :
    sharing.replies store (first ++ second) =
      sharing.replies store first ++ (sharing.after store first).replies store second := by
  induction first generalizing sharing with
  | nil => rfl
  | cons turn turns ih =>
      rw [List.cons_append, replies, replies, ih, after_cons, List.append_assoc]

theorem NoIoFailure.of_prefix {sharing : Sharing σ Client} {before turns : List (Turn Client)}
    (hworks : sharing.NoIoFailure store turns) (hbefore : before <+: turns) :
    sharing.NoIoFailure store before := by
  obtain ⟨rest, rfl⟩ := hbefore
  intro reply hreply
  exact hworks reply (by rw [replies_append]; exact List.mem_append_left _ hreply)

theorem NoIoFailure.head {sharing : Sharing σ Client} {turn : Turn Client}
    {turns : List (Turn Client)} (hworks : sharing.NoIoFailure store (turn :: turns)) :
    ∀ problem, (sharing.turn store turn).1 ≠ some (.error (.io problem)) := by
  intro problem hanswer
  refine hworks ⟨turn.key, turn.client, .error (.io problem)⟩ ?_ problem rfl
  simp [replies, hanswer]

theorem NoIoFailure.cons {sharing : Sharing σ Client} {turn : Turn Client}
    {turns : List (Turn Client)}
    (hanswer : ∀ problem, (sharing.turn store turn).1 ≠ some (.error (.io problem)))
    (hrest : (sharing.turn store turn).2.NoIoFailure store turns) :
    sharing.NoIoFailure store (turn :: turns) := by
  intro reply hreply problem hproblem
  rw [replies, List.mem_append, Option.mem_toList, Option.map_eq_some_iff] at hreply
  rcases hreply with ⟨answer, hturn, rfl⟩ | hreply
  · exact hanswer problem (hproblem ▸ hturn)
  · exact hrest reply hreply problem hproblem

theorem NoIoFailure.tail {sharing : Sharing σ Client} {turn : Turn Client}
    {turns : List (Turn Client)} (hworks : sharing.NoIoFailure store (turn :: turns)) :
    (sharing.turn store turn).2.NoIoFailure store turns :=
  fun reply hreply => hworks reply (List.mem_append_right _ hreply)

end Sharing

/-- **All turns.**  By induction over the turns, what one key is answered and what it has
afterwards do not depend on the turns under other keys. -/
theorem Mirrors.run (hisolates : store.Isolates key alike) (hmirrors : Mirrors alike key shared own)
    {turns : List (Turn Client)} (hworks : shared.NoIoFailure store turns) :
    (shared.replies store turns).filter (fun reply => reply.key = key) =
        own.replies store (turns.filter fun turn => turn.key = key) ∧
      Mirrors alike key (shared.after store turns)
        (own.after store (turns.filter fun turn => turn.key = key)) := by
  induction turns generalizing shared own with
  | nil => exact ⟨rfl, hmirrors⟩
  | cons turn turns ih =>
      rw [Sharing.replies, List.filter_append, Sharing.after_cons]
      by_cases hkey : turn.key = key
      · subst hkey
        obtain ⟨hanswer, hnext⟩ := hmirrors.turn_own hisolates hworks.head
        obtain ⟨hreplies, hlast⟩ := ih hnext hworks.tail
        rw [List.filter_cons_of_pos (by simp), Sharing.replies, Sharing.after_cons, hreplies,
          hanswer]
        refine ⟨congrArg (· ++ _) ?_, hlast⟩
        cases (own.turn store turn).1 <;> simp
      · obtain ⟨hreplies, hlast⟩ :=
          ih (hmirrors.turn_other hisolates hkey hworks.head) hworks.tail
        rw [List.filter_cons_of_neg (by simpa using hkey), hreplies]
        refine ⟨?_, hlast⟩
        cases (shared.turn store turn).1 <;> simp [hkey]

/-! ## Runs without failures of files -/

theorem Operation.decode_of_onCollection {α : Type} {plan : Collection → Plan α}
    {stored : Option String} {failure : StoreFailure}
    (hplan : onCollection plan stored = .error failure) : ∃ problem, failure = .decode problem := by
  unfold onCollection at hplan
  split at hplan
  · contradiction
  · cases hplan
    exact ⟨_, rfl⟩

theorem Operation.eq_error_of_map {α β : Type} {f : α → β} {operation : Operation α}
    {stored : Option String} {failure : StoreFailure}
    (hplan : operation.map f stored = .error failure) : operation stored = .error failure := by
  unfold map at hplan
  cases hstored : operation stored with
  | error problem => simpa [hstored, Except.map] using hplan
  | ok plan => simp [hstored, Except.map] at hplan

/-- What a call cannot make use of does not decode. -/
theorem StoreCall.decode_of_operation {call : StoreCall} {stored : Option String}
    {failure : StoreFailure} (hplan : call.operation stored = .error failure) :
    ∃ problem, failure = .decode problem := by
  cases call <;> rw [operation] at hplan
  case delete dashboard =>
    have hdelete := Operation.eq_error_of_map hplan
    exact Operation.decode_of_onCollection (Operation.eq_error_of_map hdelete)
  all_goals exact Operation.decode_of_onCollection (Operation.eq_error_of_map hplan)

theorem StoreCall.answerAtOnce_ne_io (call : StoreCall) (stored : Option String)
    (problem : IoProblem) : call.answerAtOnce (.ok stored) ≠ some (.error (.io problem)) := by
  intro hanswer
  simp only [answerAtOnce] at hanswer
  cases hplan : call.operation stored with
  | error failure =>
      obtain ⟨_, rfl⟩ := decode_of_operation hplan
      simp [hplan] at hanswer
  | ok plan => simp [hplan] at hanswer

/-- In a file that can be read and written nothing fails because of files, whatever the calls. -/
theorem Sharing.noIoFailure_of_isWritable {path : FilePath} {entries : Entries}
    {sharing : Sharing FileSystem Client}
    (hread : FileStore.readEntries path sharing.state = .ok entries)
    (hwritable : FileStore.IsWritable path sharing.state) (turns : List (Turn Client)) :
    sharing.NoIoFailure (FileStore.store path) turns := by
  induction turns generalizing sharing entries with
  | nil => exact fun _ hreply => absurd hreply List.not_mem_nil
  | cons turn turns ih =>
      obtain ⟨key, client, act⟩ := turn
      cases hpending : sharing.pending (key, client) with
      | none =>
          cases act with
          | read call =>
              have hget : (FileStore.store path).get sharing.state key = .ok (entries.get? key) :=
                congrArg (Except.map _) hread
              have hturn : sharing.turn (FileStore.store path) _ = _ := turn_read hpending call
              rw [hget] at hturn
              refine .cons ?_ ?_ <;> rw [hturn]
              · exact call.answerAtOnce_ne_io _
              · exact ih hread hwritable
          | write =>
              refine .cons ?_ ?_ <;> rw [turn_write_of_idle hpending]
              · simp
              · exact ih hread hwritable
      | some pending =>
          cases act with
          | read call =>
              refine .cons ?_ ?_ <;> rw [turn_read_of_pending hpending]
              · simp
              · exact ih hread hwritable
          | write =>
              obtain ⟨next, hset⟩ := hwritable.exists_set hread key pending.text
              have hturn : sharing.turn (FileStore.store path) _ = _ := turn_write hpending hset
              have hnext := FileStore.readEntries_of_set hread hset
              refine .cons ?_ ?_ <;> rw [hturn]
              · simp [Except.map]
              · exact ih hnext (FileStore.isWritable_of_set hset).2

/-! ## Both stores -/

/-- A store that can be read: any memory, or a file that is missing, blank or decodes to
entries. -/
inductive KeyValueStore.Opens : {σ : Type} → KeyValueStore σ → σ → Prop
  | memory (memory : Memory) : Opens Memory.store memory
  | file {path : FilePath} {files : FileSystem} {entries : Entries}
      (hread : FileStore.readEntries path files = .ok entries) : Opens (FileStore.store path) files

theorem KeyValueStore.Opens.exists_isolates {state : σ} (hopens : store.Opens state)
    (key : String) : ∃ alike : σ → σ → Prop, store.Isolates key alike ∧ alike state state := by
  cases hopens with
  | memory => exact ⟨_, Memory.isolates key, rfl, rfl⟩
  | file hread =>
      exact ⟨_, FileStore.isolates _ key, ⟨_, _, hread, hread, rfl⟩, .inl rfl⟩

/-- **Dashboard stores with different keys do not interfere.**  As long as nothing fails because
of files, every call of a dashboard store is answered, and its text is at every moment, as if the
turns of all the others were left out.  This holds for any clients of each, any calls and any
order of their turns. -/
theorem Sharing.replies_own {state : σ} (hopens : store.Opens state) {turns : List (Turn Client)}
    (hworks : (idle state).NoIoFailure store turns) (key : String) :
    ((idle state).replies store turns).filter (fun reply => reply.key = key) =
        (idle state).replies store (turns.filter fun turn => turn.key = key) ∧
      ∀ before, before <+: turns → ∃ stored,
        store.get ((idle state).after store before).state key = .ok stored ∧
          store.get ((idle state).after store (before.filter fun turn => turn.key = key)).state
            key = .ok stored := by
  obtain ⟨alike, hisolates, halike⟩ := hopens.exists_isolates key
  have hmirrors : Mirrors alike key (idle state : Sharing σ Client) (idle state) :=
    ⟨halike, fun _ => rfl⟩
  refine ⟨(hmirrors.run hisolates hworks).1, fun before hbefore => ?_⟩
  obtain ⟨_, hlast⟩ := hmirrors.run hisolates (hworks.of_prefix hbefore)
  exact hisolates.get hlast.state

/-- Two clients of one dashboard store and one of another, all in one file.  The second client
deletes what it has read before the first has written, and so undoes what the first has saved. -/
theorem Sharing.replies_own_of_stale :
    let store := FileStore.store ⟨["storage.json"], false⟩
    let files : FileSystem := ⟨[(["storage.json"], .file "\x7b\"b\":\"[]\"\x7d".toUTF8)]⟩
    let turns : List (Turn Bool) := [⟨"a", true, .read (.save ⟨"1", "A", []⟩)⟩,
      ⟨"b", true, .read (.save ⟨"2", "B", []⟩)⟩, ⟨"a", false, .read (.deleteById "1")⟩,
      ⟨"a", true, .write⟩, ⟨"b", true, .write⟩, ⟨"a", false, .write⟩, ⟨"b", true, .read .list⟩]
    ((idle files : Sharing FileSystem Bool).replies store turns).filter
        (fun reply => reply.key = "a") =
      [⟨"a", true, .ok .done⟩, ⟨"a", false, .ok (.removed 0)⟩] := by
  intro store files turns
  have hread : FileStore.readEntries ⟨["storage.json"], false⟩ files =
      .ok (Entries.empty.insert "b" "[]") := rfl
  have hreplaceable : files.IsReplaceable ⟨["storage.json"], false⟩ :=
    ⟨⟨_, rfl, by decide⟩, ⟨_, rfl, by decide⟩, rfl, rfl⟩
  have hworks : (idle files : Sharing FileSystem Bool).NoIoFailure store turns := by
    have hmade : files.apply (.ensureDirectories ⟨[], false⟩) = (.ok (), files) := rfl
    have hwritable := FileStore.isWritable_of_isReplaceable hmade hreplaceable
    exact noIoFailure_of_isWritable hread hwritable turns
  rw [(replies_own (.file hread) hworks "a").1]
  rfl

end ResultBoards
