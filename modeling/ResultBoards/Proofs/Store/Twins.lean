import Mathlib.Data.List.Basic
import ResultBoards.Proofs.Store.Files

/-!
# A store in a file and a store in memory

Every write to a store in a file decodes the whole file and encodes it again, and every
reading decodes it.  Seen through the answers this makes no difference: the store behaves
as one in memory that starts with the same entries.

## Strategy

* A file may be missing, blank, or hold an object in which a name comes twice
  (`FileStore.HoldsMembers`).  Whichever it is, `readEntries_of_holdsMembers` says what
  entries it stands for, namely the last value of each name.
* `FileStore.Agrees` is what one call keeps (`Agrees.call`), and the induction over the
  calls is `Agrees.answers`.  A store in a file is its path and nothing else, so opening it
  again between two calls is no call of its own.
* Once anything was written the file is the text of the entries in memory (`IsWritten`).
  Entries are sorted by their keys, so they are determined by what they answer
  (`Entries.ext_get?`), and two files that answer alike are the same bytes.
-/

namespace ResultBoards

open Json (Decoder Reader)

/-! ## Entries are what they answer -/

namespace Entries

theorem mem_pairs_iff (entries : Entries) (pair : String × String) :
    pair ∈ entries.pairs ↔ entries.get? pair.1 = some pair.2 := by
  rw [get?, List.lookup_eq_some_iff]
  constructor
  · intro hpair
    obtain ⟨front, back, hpairs⟩ := List.append_of_mem hpair
    refine ⟨front, back, hpairs, fun other hother => ?_⟩
    have hincreasing := entries.increasing
    rw [Increasing, hpairs, List.pairwise_append] at hincreasing
    have hless : other.1 < pair.1 := hincreasing.2.2 other hother pair List.mem_cons_self
    exact bne_iff_ne.mpr (ne_of_gt hless)
  · rintro ⟨front, back, hpairs, _⟩
    simp [hpairs]

theorem nodup_pairs (entries : Entries) : entries.pairs.Nodup :=
  List.Pairwise.imp (fun hless heq => ne_of_lt hless (congrArg Prod.fst heq)) entries.increasing

/-- Entries with the same answers are the same. -/
theorem ext_get? {first second : Entries} (hsame : ∀ key, first.get? key = second.get? key) :
    first = second := by
  have hperm : first.pairs.Perm second.pairs := by
    rw [List.perm_ext_iff_of_nodup first.nodup_pairs second.nodup_pairs]
    intro pair
    rw [mem_pairs_iff, mem_pairs_iff, hsame]
  have hpairs : first.pairs = second.pairs :=
    hperm.eq_of_pairwise
      (fun _ _ _ _ hless hgreater => absurd hgreater (lt_asymm hless))
      first.increasing second.increasing
  obtain ⟨_, _⟩ := first
  obtain ⟨_, _⟩ := second
  cases hpairs
  rfl

/-- The entries of some members, set one after the other. -/
def ofMembers (members : List (String × String)) : Entries :=
  members.foldl (fun entries member => entries.insert member.1 member.2) empty

theorem ofMembers_concat (members : List (String × String)) (name value : String) :
    ofMembers (members ++ [(name, value)]) = (ofMembers members).insert name value := by
  rw [ofMembers, List.foldl_append]
  rfl

/-- Of a repeated name the last value counts. -/
theorem get?_ofMembers (members : List (String × String)) (key : String) :
    (ofMembers members).get? key = members.reverse.lookup key := by
  induction members using List.reverseRecOn with
  | nil => rfl
  | append_singleton members member ih =>
      obtain ⟨name, value⟩ := member
      rw [ofMembers_concat, get?_insert, List.reverse_append, List.reverse_singleton,
        List.singleton_append, lookup_pair, ih]

end Entries

/-! ## Decoding the same members into something else -/

namespace Json

/-- What is gathered may be mapped to something else that is gathered from the same
members. -/
theorem readMembers_map {σ τ β : Type} {read : Reader β} {put : σ → String → β → σ}
    {other : τ → String → β → τ} (f : σ → τ)
    (hput : ∀ gathered name value, f (put gathered name value) = other (f gathered) name value)
    (steps : Nat) (first : Bool) (gathered : σ) (text : List Char) :
    readMembers (fun gathered name => .ok fun text =>
        (read text).map fun (value, rest) => (other gathered name value, rest))
      steps first (f gathered) text =
    (readMembers (fun gathered name => .ok fun text =>
        (read text).map fun (value, rest) => (put gathered name value, rest))
      steps first gathered text).map fun found => (f found.1, found.2) := by
  induction steps generalizing first gathered text with
  | zero => rfl
  | succ steps ih =>
      simp only [readMembers]
      split
      · rfl
      · rfl
      · split
        · rfl
        · rename_i name rest _
          cases readColon rest with
          | error problem => rfl
          | ok rest =>
              cases hread : read rest with
              | error failure => simp [hread, Except.map, atStep]
              | ok found =>
                  simp only [hread, Except.map, atStep, ← hput]
                  exact ih false _ _

namespace Decoder

variable {σ τ β : Type} {decoder : Decoder β} {put : σ → String → β → σ}
  {other : τ → String → β → τ} {empty : σ}

theorem map_map (f : σ → τ)
    (hput : ∀ gathered name value, f (put gathered name value) = other (f gathered) name value)
    (limits : Limits) (text : List Char) {gathered : σ} {rest : List Char}
    (hread : Decoder.map decoder put empty limits text = .ok (gathered, rest)) :
    Decoder.map decoder other (f empty) limits text = .ok (f gathered, rest) := by
  unfold Decoder.map at hread ⊢
  split at hread
  · unfold nested at hread ⊢
    split at hread
    · contradiction
    · simp only [members] at hread ⊢
      rw [readMembers_map f hput, hread]
      rfl
  · exact absurd trivial (ensures_mismatch _ (fun _ : σ => ¬ True) limits hread)

/-- Only a text with a brace in it holds an object. -/
theorem brace_mem_of_decode_map {gathered : σ} {text : String}
    (hdecode : (Decoder.map decoder put empty).decode text = .ok gathered) :
    '\x7b' ∈ text.toList := by
  unfold decode at hdecode
  split at hdecode
  · contradiction
  · rename_i hread
    unfold Decoder.map at hread
    split at hread
    · rename_i rest hbrace
      have hmem : '\x7b' ∈ dropBlank (inputOfText text) := hbrace ▸ List.mem_cons_self
      exact mem_of_mem_inputOfText (by decide) ((List.dropWhile_suffix _).subset hmem)
    · exact absurd trivial (ensures_mismatch _ (fun _ : σ => ¬ True) _ hread)

/-- An object decodes to what its members are gathered into. -/
theorem decode_map (f : σ → τ)
    (hput : ∀ gathered name value, f (put gathered name value) = other (f gathered) name value)
    {gathered : σ} {text : String}
    (hdecode : (Decoder.map decoder put empty).decode text = .ok gathered) :
    (Decoder.map decoder other (f empty)).decode text = .ok (f gathered) := by
  unfold decode at hdecode ⊢
  split at hdecode
  · contradiction
  · rename_i hread
    rw [map_map f hput _ _ hread]
    split at hdecode
    · rename_i hrest
      cases hdecode
      simp only [hrest]
    · contradiction

end Decoder

end Json

/-! ## Calls and answers -/

/-- The calls of a key-value store. -/
inductive KeyValueCall
  | get (key : String)
  | set (key value : String)

/-- The answers to the calls of a key-value store. -/
inductive KeyValueAnswer
  | found (value : Option String)
  | done

/-- Whether a call writes something. -/
def KeyValueCall.IsSet : KeyValueCall → Prop
  | get _ => False
  | set _ _ => True

namespace KeyValueStore

variable {σ : Type} (store : KeyValueStore σ)

/-- What a call is answered, and the state after it. -/
def call (state : σ) : KeyValueCall → Except StoreFailure KeyValueAnswer × σ
  | .get key => ((store.get state key).map .found, state)
  | .set key value =>
      ((store.set state key value).1.map fun _ => .done, (store.set state key value).2)

/-- The answers to calls that are made one after the other. -/
def answers : σ → List KeyValueCall → List (Except StoreFailure KeyValueAnswer)
  | _, [] => []
  | state, call :: calls => (store.call state call).1 :: answers (store.call state call).2 calls

/-- The state after calls that are made one after the other. -/
def after : σ → List KeyValueCall → σ
  | state, [] => state
  | state, call :: calls => after (store.call state call).2 calls

/-- No call fails because of its files. -/
def NoIoFailure (state : σ) (calls : List KeyValueCall) : Prop :=
  ∀ answer ∈ store.answers state calls, ∀ problem, answer ≠ .error (.io problem)

variable {store} in
theorem noIoFailure_of_answers {state : σ} {calls : List KeyValueCall}
    (answers : List KeyValueAnswer) (hanswers : store.answers state calls = answers.map .ok) :
    store.NoIoFailure state calls := by
  intro answer hanswer problem
  rw [hanswers] at hanswer
  obtain ⟨_, _, rfl⟩ := List.mem_map.mp hanswer
  simp

end KeyValueStore

/-! ## Both stores, call by call -/

namespace FileStore

/-- Gathers the members of an object of strings in the order of the text. -/
def membersDecoder : Decoder (List (String × String)) :=
  .map .string (fun members name value => members ++ [(name, value)]) []

/-- The members that are at a path, in the order of the text.  There are none where the
file is missing or blank. -/
inductive HoldsMembers (path : FilePath) (files : FileSystem) : List (String × String) → Prop
  | missing (hread : files.read path = .error .notFound) : HoldsMembers path files []
  | blank {text : String} (hread : files.read path = .ok text.toUTF8)
      (hblank : Text.isAllBlank text.toList) : HoldsMembers path files []
  | object {text : String} {members : List (String × String)}
      (hread : files.read path = .ok text.toUTF8)
      (hdecode : membersDecoder.decode text = .ok members) : HoldsMembers path files members

/-- The entries in a file are its members, set one after the other. -/
theorem readEntries_of_holdsMembers {path : FilePath} {files : FileSystem}
    {members : List (String × String)} (hholds : HoldsMembers path files members) :
    readEntries path files = .ok (Entries.ofMembers members) := by
  cases hholds with
  | missing hread =>
      rw [readEntries, hread]
      rfl
  | blank hread hblank =>
      simp only [readEntries, hread, entriesOfBytes, fromUTF8?_toUTF8, hblank]
      rfl
  | @object text _ hread hdecode =>
      have hblank : Text.isAllBlank text.toList = false := by
        have hbrace := Decoder.brace_mem_of_decode_map hdecode
        rw [Text.isAllBlank, List.all_eq_false]
        exact ⟨_, hbrace, by decide⟩
      have hentries : Entries.decoder.decode text = .ok (Entries.ofMembers members) :=
        Decoder.decode_map Entries.ofMembers Entries.ofMembers_concat hdecode
      simp only [readEntries, hread, entriesOfBytes, fromUTF8?_toUTF8, hblank, hentries]
      rfl

/-- The file at a path and a memory stand for the same entries. -/
structure Agrees (path : FilePath) (files : FileSystem) (memory : Memory) : Prop where
  working : memory.broken = none
  readEntries_eq : readEntries path files = .ok memory.entries

/-- The file is the text of the entries in memory. -/
def IsWritten (path : FilePath) (files : FileSystem) (memory : Memory) : Prop :=
  files.read path = .ok memory.entries.toText.toUTF8

/-- Where the file was read, a write fails because of files or not at all. -/
theorem set_eq_ok_or_io {path : FilePath} {files : FileSystem} {entries : Entries}
    (hread : readEntries path files = .ok entries) (key value : String) :
    (set path files key value).1 = .ok () ∨
      ∃ problem, (set path files key value).1 = .error (.io problem) := by
  rw [set_of_readEntries hread]
  cases (files.applyAll (steps path (entries.insert key value))).1 with
  | ok _ => exact .inl rfl
  | error problem => exact .inr ⟨problem, rfl⟩

namespace Agrees

variable {path : FilePath} {files : FileSystem} {memory : Memory}

/-- A write that works leaves the text of the entries that are then in memory. -/
theorem read_set (hagrees : Agrees path files memory) {key value : String}
    (hresult : (FileStore.set path files key value).1 = .ok ()) :
    (FileStore.set path files key value).2.read path =
      .ok (memory.entries.insert key value).toText.toUTF8 := by
  obtain ⟨entries, hentries, hwritten⟩ := set_eq_ok (Prod.ext hresult rfl)
  obtain rfl : memory.entries = entries :=
    Except.ok.inj (hagrees.readEntries_eq.symm.trans hentries)
  exact hwritten

/-- **One call.**  A call that does not fail because of files is answered alike, and
afterwards the stores still agree.  The file is the text of the entries once it was
written. -/
theorem call (hagrees : Agrees path files memory) (call : KeyValueCall)
    (hworks : ∀ problem, ((store path).call files call).1 ≠ .error (.io problem)) :
    ((store path).call files call).1 = (Memory.store.call memory call).1 ∧
      Agrees path ((store path).call files call).2 (Memory.store.call memory call).2 ∧
      (call.IsSet ∨ IsWritten path files memory →
        IsWritten path ((store path).call files call).2 (Memory.store.call memory call).2) := by
  cases call with
  | get key =>
      refine ⟨?_, hagrees, fun hwritten => hwritten.resolve_left id⟩
      show ((readEntries path files).map _).map _ = _
      rw [hagrees.readEntries_eq]
      rfl
  | set key value =>
      have hmemory : Memory.store.set memory key value =
          (.ok (), { memory with entries := memory.entries.insert key value }) := by
        simp [Memory.store, Memory.set, hagrees.working]
      -- the file was read, so nothing but its files could make the write fail
      have hresult : (set path files key value).1 = .ok () := by
        refine (set_eq_ok_or_io hagrees.readEntries_eq key value).resolve_right ?_
        rintro ⟨problem, hproblem⟩
        refine hworks problem ?_
        show (set path files key value).1.map _ = _
        rw [hproblem]
        rfl
      have hwritten := hagrees.read_set hresult
      simp only [KeyValueStore.call, hmemory]
      refine ⟨?_, ⟨hagrees.working, ?_⟩, fun _ => hwritten⟩
      · show (set path files key value).1.map _ = _
        rw [hresult]
      · show readEntries path (set path files key value).2 = _
        rw [readEntries, hwritten]
        exact entriesOfBytes_toText _

/-- **All calls.**  By induction over the calls both stores answer alike. -/
theorem answers (hagrees : Agrees path files memory) {calls : List KeyValueCall}
    (hworks : (store path).NoIoFailure files calls) :
    (store path).answers files calls = Memory.store.answers memory calls ∧
      Agrees path ((store path).after files calls) (Memory.store.after memory calls) ∧
      ((∃ call ∈ calls, call.IsSet) ∨ IsWritten path files memory →
        IsWritten path ((store path).after files calls) (Memory.store.after memory calls)) := by
  induction calls generalizing files memory with
  | nil => exact ⟨rfl, hagrees, fun hwritten => hwritten.resolve_left (by simp)⟩
  | cons call calls ih =>
      obtain ⟨hanswer, hnext, hwrites⟩ :=
        hagrees.call call fun problem => hworks _ List.mem_cons_self problem
      obtain ⟨hanswers, hlast, hwritten⟩ :=
        ih hnext fun answer hanswer => hworks answer (List.mem_cons_of_mem _ hanswer)
      refine ⟨?_, hlast, fun hset => hwritten ?_⟩
      · simp only [KeyValueStore.answers, hanswer, hanswers]
      -- either a later call writes, or the file is written by now and stays so
      · rcases hset with ⟨other, hmem, hset⟩ | hset
        · rcases List.mem_cons.mp hmem with rfl | hmem
          · exact .inr (hwrites (.inl hset))
          · exact .inl ⟨other, hmem, hset⟩
        · exact .inr (hwrites (.inr hset))

end Agrees

end FileStore

/-! ## Twins -/

/-- A store in a file and one in memory that start with the same: of a name that comes
twice in the file the memory has the last value. -/
structure Twins where
  path : FilePath
  files : FileSystem
  memory : Memory
  members : List (String × String)
  holdsMembers : FileStore.HoldsMembers path files members
  working : memory.broken = none
  preloaded : ∀ key, memory.entries.get? key = members.reverse.lookup key

namespace Twins

variable (twins : Twins)

theorem agrees : FileStore.Agrees twins.path twins.files twins.memory := by
  have hentries : Entries.ofMembers twins.members = twins.memory.entries :=
    Entries.ext_get? fun key => by rw [Entries.get?_ofMembers, twins.preloaded]
  refine ⟨twins.working, ?_⟩
  rw [FileStore.readEntries_of_holdsMembers twins.holdsMembers, hentries]

/-- The files after some calls. -/
def filesAfter (calls : List KeyValueCall) : FileSystem :=
  (FileStore.store twins.path).after twins.files calls

/-- **A store in a file is a store in memory.**  As long as no file fails, all answers are
those of the memory, whichever calls are made in whichever order.  From one call to the next
only the files go on, so each may be made through a store that was opened for it.  Any two
such runs in which something was written and which end with the same values leave the same
bytes. -/
theorem answer_alike {calls : List KeyValueCall}
    (hworks : (FileStore.store twins.path).NoIoFailure twins.files calls) :
    (FileStore.store twins.path).answers twins.files calls =
        Memory.store.answers twins.memory calls ∧
      ∀ (others : Twins) (otherCalls : List KeyValueCall),
        (FileStore.store others.path).NoIoFailure others.files otherCalls →
        (∃ call ∈ calls, call.IsSet) → (∃ call ∈ otherCalls, call.IsSet) →
        (∀ key, FileStore.get twins.path (twins.filesAfter calls) key =
          FileStore.get others.path (others.filesAfter otherCalls) key) →
        ∃ bytes, (twins.filesAfter calls).read twins.path = .ok bytes ∧
          (others.filesAfter otherCalls).read others.path = .ok bytes := by
  obtain ⟨hanswers, hagrees, hwritten⟩ := twins.agrees.answers hworks
  refine ⟨hanswers, fun others otherCalls hothers hset hotherSet hsame => ?_⟩
  obtain ⟨_, hotherAgrees, hotherWritten⟩ := others.agrees.answers hothers
  have hentries : (Memory.store.after twins.memory calls).entries =
      (Memory.store.after others.memory otherCalls).entries := by
    refine Entries.ext_get? fun key => ?_
    have hkey := hsame key
    simp only [filesAfter, FileStore.get, hagrees.readEntries_eq, hotherAgrees.readEntries_eq,
      Except.map, Except.ok.injEq] at hkey
    exact hkey
  refine ⟨_, hwritten (.inl hset), ?_⟩
  rw [hentries]
  exact hotherWritten (.inl hotherSet)

/-- A store that starts with a blank file. -/
def ofBlank : Twins where
  path := ⟨["storage.json"], false⟩
  files := ⟨[(["storage.json"], .file " \n\u3000".toUTF8)]⟩
  memory := .empty
  members := []
  holdsMembers := .blank rfl (by decide)
  working := rfl
  preloaded _ := rfl

/-- A store that starts with an object on one line in which a name comes twice. -/
def ofRepeated : Twins where
  path := ⟨["data", "storage.json"], false⟩
  files := ⟨[(["data"], .directory), (["data", "storage.json"],
    .file "\x7b\"b\":\"0\",\"a\":\"0\",\"b\":\"[]\"\x7d".toUTF8)]⟩
  memory := ⟨(Entries.empty.insert "a" "0").insert "b" "[]", none⟩
  members := [("b", "0"), ("a", "0"), ("b", "[]")]
  holdsMembers := @FileStore.HoldsMembers.object _ _
    "\x7b\"b\":\"0\",\"a\":\"0\",\"b\":\"[]\"\x7d" _ rfl rfl
  working := rfl
  preloaded key := Entries.get?_ofMembers [("b", "0"), ("a", "0"), ("b", "[]")] key

/-- Both stores end with the same values and so with the same bytes. -/
theorem ofBlank_answer_alike :
    let first : List KeyValueCall := [.set "b" "[]", .get "b", .set "a" "1"]
    let second : List KeyValueCall := [.get "b", .set "a" "1"]
    (FileStore.store ofBlank.path).answers ofBlank.files first =
        [.ok .done, .ok (.found (some "[]")), .ok .done] ∧
      ∃ bytes, (ofBlank.filesAfter first).read ofBlank.path = .ok bytes ∧
        (ofRepeated.filesAfter second).read ofRepeated.path = .ok bytes := by
  intro first second
  have hworks : (FileStore.store ofBlank.path).NoIoFailure ofBlank.files first :=
    KeyValueStore.noIoFailure_of_answers [.done, .found (some "[]"), .done] rfl
  have hworksToo : (FileStore.store ofRepeated.path).NoIoFailure ofRepeated.files second :=
    KeyValueStore.noIoFailure_of_answers [.found (some "[]"), .done] rfl
  have hsame : FileStore.readEntries ofBlank.path (ofBlank.filesAfter first) =
      FileStore.readEntries ofRepeated.path (ofRepeated.filesAfter second) := rfl
  obtain ⟨hanswers, hbytes⟩ := ofBlank.answer_alike hworks
  refine ⟨hanswers, hbytes ofRepeated second hworksToo ?_ ?_ fun key => ?_⟩
  · exact ⟨_, List.mem_cons_self, trivial⟩
  · exact ⟨.set "a" "1", by simp [second], trivial⟩
  · exact congrArg (Except.map fun entries => entries.get? key) hsame

end Twins

end ResultBoards
