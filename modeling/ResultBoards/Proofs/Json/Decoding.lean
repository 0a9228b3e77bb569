import ResultBoards.Json.Decoder
import ResultBoards.Proofs.Json.Input
import ResultBoards.Proofs.Json.Written

/-!
# Decoders of written values, and what decoders guarantee

The first half turns the loops of `Written.lean` into one lemma for each way to build a
decoder: a decoder of strings, lists or structures reads what is written of them as soon
as the decoders of its parts do.

The second half is about any text, written by this library or not.  `Decoder.Ensures`
says that whatever a decoder succeeds with has a property; lists and structures inherit
it from their parts.  A structure may come as an object or as an array of its fields, so
what holds of the fields gathered so far has to be kept by both loops.
-/

namespace ResultBoards.Json

/-! ## Decoders of written values -/

theorem readsAs_map {α β : Type} {bound : Nat} {reader : Reader α} {value : Value} {result : α}
    (hreads : ReadsAs bound reader value result) (f : α → β) :
    ReadsAs bound (fun text => (reader text).map fun read => (f read.1, read.2)) value
      (f result) :=
  ⟨hreads.starts, fun hgap hrest hbound => by simp only [hreads.reads hgap hrest hbound]; rfl⟩

theorem readsAs_checkedString {α : Type} (expected : String) {check : String → Except Problem α}
    {text : String} {result : α} (hcheck : check text = .ok result) (limits : Limits) :
    ReadsAs limits.steps (Decoder.checkedString expected check limits) (.string text) result := by
  refine ⟨startsValue_cons _ (by decide) (by decide), fun {gap rest} hgap _ hbound => ?_⟩
  have hread := readChars_writeString text rest hbound
  simp only [Value.write, writeString, List.cons_append, List.append_assoc, List.nil_append]
  rw [Decoder.checkedString, dropBlank_gap hgap, dropBlank_cons _ (by decide)]
  simp only [hread, hcheck]

theorem readsAs_string (text : String) (limits : Limits) :
    ReadsAs limits.steps (Decoder.string limits) (.string text) text :=
  readsAs_checkedString _ rfl limits

theorem readsAs_list {α : Type} {decoder : Decoder α} {values : List Value} {results : List α}
    {steps depth : Nat}
    (hreads : List.Forall₂ (ReadsAs steps (decoder ⟨steps, depth⟩)) values results) :
    ReadsAs steps (Decoder.list decoder ⟨steps, depth + 1⟩) (.array values) results := by
  refine ⟨startsValue_cons _ (by decide) (by decide), fun {gap rest} hgap _ hbound => ?_⟩
  simp only [Value.write, List.cons_append, List.append_assoc, List.nil_append] at hbound ⊢
  rw [Decoder.list, dropBlank_gap hgap, dropBlank_cons _ (by decide)]
  simp only [Decoder.nested, Decoder.elements,
    readElements_written hreads (Nat.lt_of_succ_lt hbound), closeArray_bracket]
  rfl

/-- A structure is read from an object whose members fill its fields. -/
theorem readsAs_shape {σ α : Type} {shape : Shape σ α} {members : List (String × Value)}
    (gathered : σ) {result : α} {steps depth : Nat}
    (hmembers : MembersRead steps (shape.member ⟨steps, depth⟩) shape.empty members gathered)
    (hbuild : shape.build gathered = .ok result) :
    ReadsAs steps (shape.decoder ⟨steps, depth + 1⟩) (.object members) result := by
  refine ⟨startsValue_cons _ (by decide) (by decide), fun {gap rest} hgap _ hbound => ?_⟩
  simp only [Value.write, List.cons_append, List.append_assoc, List.nil_append] at hbound ⊢
  rw [← Spacing.objectText_compact] at hbound ⊢
  rw [Shape.decoder, dropBlank_gap hgap, dropBlank_cons _ (by decide)]
  simp only [Decoder.nested, Shape.members,
    readMembers_written gathered hmembers .compact (Nat.lt_of_succ_lt hbound), hbuild]
  rfl

section

variable {α : Type} {decoder : Decoder α} {value : Value} {result : α}
  (hreads : ∀ steps, ReadsAs steps (decoder ⟨steps, maxDepth⟩) value result)
include hreads

/-- A text that is written whole is read to its end. -/
theorem read_toText :
    decoder (.forText (inputOfText value.toText)) (inputOfText value.toText) =
      .ok (result, []) := by
  have hread := (hreads (value.write.length + 1)).reads isGap_nil separate_nil
    (by rw [List.append_nil]; exact Nat.lt_succ_self _)
  simp only [List.append_nil, List.nil_append] at hread
  rw [inputOfText_toText]
  exact hread

/-- A text that is written whole decodes to what its value is read as. -/
theorem decode_toText : decoder.decode value.toText = .ok result := by
  rw [Decoder.decode, read_toText hreads]
  rfl

/-- A decoder that stops after the first value finds the same. -/
theorem decodeFirst_toText : decoder.decodeFirst value.toText.toUTF8 = .ok result := by
  rw [Decoder.decodeFirst, inputOfBytes_toUTF8, read_toText hreads]
  rfl

end

/-! ## What decoders guarantee -/

/-- Whatever a reader succeeds with has a property. -/
def Reader.Ensures {α : Type} (reader : Reader α) (property : α → Prop) : Prop :=
  ∀ ⦃text value rest⦄, reader text = .ok (value, rest) → property value

/-- Whatever a decoder succeeds with has a property. -/
def Decoder.Ensures {α : Type} (decoder : Decoder α) (property : α → Prop) : Prop :=
  ∀ limits, Reader.Ensures (decoder limits) property

theorem ensures_map {α β : Type} {reader : Reader α} {property : α → Prop} {result : β → Prop}
    {f : α → β} (hreader : reader.Ensures property)
    (hf : ∀ value, property value → result (f value)) :
    Reader.Ensures (fun text => (reader text).map fun read => (f read.1, read.2)) result := by
  intro text value rest hread
  cases hfound : reader text with
  | error failure => simp [hfound, Except.map] at hread
  | ok found =>
      simp only [hfound, Except.map, Except.ok.injEq, Prod.mk.injEq] at hread
      exact hread.1 ▸ hf _ (hreader hfound)

/-- Placing a problem or building something else from a result does not make it work. -/
theorem map_atHere_eq_ok {α β : Type} {result : Except Problem α} {f : α → β} {value : β} :
    (atHere result).map f = .ok value ↔ ∃ found, result = .ok found ∧ f found = value := by
  cases result <;> simp [atHere, Except.map]

theorem bind_eq_ok {ε α β : Type} {result : Except ε α} {next : α → Except ε β} {value : β} :
    result >>= next = .ok value ↔ ∃ found, result = .ok found ∧ next found = .ok value := by
  cases result <;> simp [bind, Except.bind]

theorem atStep_eq_ok {α : Type} {step : PathStep} {result : Except Failure α} {value : α} :
    atStep step result = .ok value ↔ result = .ok value := by
  cases result <;> simp [atStep]

theorem ensures_readElement {α : Type} {element : Reader α} {property : α → Prop}
    (helement : element.Ensures property) {position : Nat} {text rest : List Char} {value : α}
    (hread : readElement element position text = .ok (some value, rest)) : property value := by
  rw [readElement, atStep_eq_ok] at hread
  split at hread
  · contradiction
  · simp at hread
  · split at hread
    · contradiction
    · rename_i hfound
      cases hread
      exact helement hfound

theorem ensures_readElements {α : Type} {element : Reader α} {property : α → Prop}
    (helement : element.Ensures property) {steps position : Nat} {read values : List α}
    {text rest : List Char} (hbefore : ∀ value ∈ read, property value)
    (hread : readElements element steps position read text = .ok (values, rest)) :
    ∀ value ∈ values, property value := by
  induction steps generalizing position read text with
  | zero => simp [readElements] at hread
  | succ steps ih =>
      rw [readElements] at hread
      split at hread
      · contradiction
      · cases hread
        simpa using hbefore
      · rename_i value _ hfound
        refine ih (fun other hother => ?_) hread
        rcases List.mem_cons.mp hother with rfl | hother
        · exact ensures_readElement helement hfound
        · exact hbefore other hother

theorem ensures_readMembers {σ : Type} {member : σ → String → Except Problem (Reader σ)}
    {invariant : σ → Prop}
    (hmember : ∀ {gathered name read}, invariant gathered → member gathered name = .ok read →
      Reader.Ensures read invariant) {steps : Nat} {first : Bool} {gathered : σ}
    (hgathered : invariant gathered) :
    Reader.Ensures (readMembers member steps first gathered) invariant := by
  intro text final rest hread
  induction steps generalizing first gathered text with
  | zero => simp [readMembers] at hread
  | succ steps ih =>
      rw [readMembers] at hread
      split at hread
      · contradiction
      · cases hread
        exact hgathered
      · split at hread
        · contradiction
        · split at hread
          · contradiction
          · rename_i read hread'
            simp only at hread
            split at hread
            · contradiction
            · rename_i hvalue
              rw [atStep_eq_ok] at hvalue
              split at hvalue
              · contradiction
              · -- the member's own reader has kept the invariant
                exact ih (hmember hgathered hread' hvalue) hread

namespace Decoder

theorem Ensures.decode {α : Type} {decoder : Decoder α} {property : α → Prop}
    (hensures : decoder.Ensures property) {text : String} {value : α}
    (hdecode : decoder.decode text = .ok value) : property value := by
  unfold Decoder.decode at hdecode
  split at hdecode
  · contradiction
  · rename_i hread
    split at hdecode
    · cases hdecode
      exact hensures _ hread
    · contradiction

theorem Ensures.decodeFirst {α : Type} {decoder : Decoder α} {property : α → Prop}
    (hensures : decoder.Ensures property) {bytes : ByteArray} {value : α}
    (hdecode : decoder.decodeFirst bytes = .ok value) : property value := by
  unfold Decoder.decodeFirst at hdecode
  cases hread : decoder (.forText (inputOfBytes bytes)) (inputOfBytes bytes) with
  | error failure => simp [hread, Except.map] at hdecode
  | ok result =>
      rw [hread] at hdecode
      cases hdecode
      exact hensures _ hread

theorem ensures_mismatch {α : Type} (expected : String) (property : α → Prop) :
    (mismatch expected : Decoder α).Ensures property := by
  intro limits text value rest hread
  unfold mismatch at hread
  split at hread
  · contradiction
  · contradiction
  · split at hread <;> contradiction

theorem ensures_true {α : Type} (decoder : Decoder α) : decoder.Ensures fun _ => True :=
  fun _ _ _ _ _ => trivial

theorem Ensures.nested {α : Type} {decoder : Decoder α} {property : α → Prop}
    (hensures : decoder.Ensures property) : (Decoder.nested decoder).Ensures property := by
  intro limits text value rest hread
  unfold Decoder.nested at hread
  split at hread
  · contradiction
  · exact hensures _ hread

theorem Ensures.list {α : Type} {decoder : Decoder α} {property : α → Prop}
    (hensures : decoder.Ensures property) :
    (Decoder.list decoder).Ensures fun values => ∀ value ∈ values, property value := by
  have helements : (elements decoder).Ensures fun values => ∀ value ∈ values, property value := by
    intro limits text values rest hread
    unfold elements at hread
    split at hread
    · contradiction
    · rename_i hfound
      obtain ⟨_, _, hresult⟩ := map_atHere_eq_ok.mp hread
      cases hresult
      exact ensures_readElements (hensures limits) (by simp) hfound
  intro limits text values rest hread
  unfold Decoder.list at hread
  split at hread
  · exact helements.nested limits hread
  · exact ensures_mismatch _ (fun values => ∀ value ∈ values, property value) limits hread

end Decoder

theorem Field.ensures_ofSlot {σ β : Type} {name : String} {isRequired : Bool}
    {decoder : Decoder β} {property : β → Prop} {slot : σ → Option β} {fill : σ → β → σ}
    {invariant : σ → Prop} {gathered : σ} (hdecoder : decoder.Ensures property)
    (hfill : ∀ value, property value → invariant (fill gathered value)) :
    ((Field.ofSlot name isRequired decoder slot fill).read gathered).Ensures invariant :=
  fun limits => ensures_map (hdecoder limits) hfill

namespace Shape

variable {σ α : Type} {shape : Shape σ α} {invariant : σ → Prop}

/-- Reading any field of a structure keeps something true of what has been gathered. -/
def Keeps (shape : Shape σ α) (invariant : σ → Prop) : Prop :=
  ∀ field ∈ shape.fields, ∀ {gathered}, invariant gathered →
    (field.read gathered).Ensures invariant

theorem Keeps.member (hkeeps : shape.Keeps invariant) {limits : Limits} {gathered : σ}
    {name : String} {read : Reader σ} (hgathered : invariant gathered)
    (hmember : shape.member limits gathered name = .ok read) : read.Ensures invariant := by
  unfold Shape.member at hmember
  split at hmember
  · -- an unknown member is skipped and changes nothing
    cases hmember
    intro text value rest hread
    obtain ⟨_, _, hresult⟩ := map_atHere_eq_ok.mp hread
    cases hresult
    exact hgathered
  · rename_i field hfield
    split at hmember
    · contradiction
    · cases hmember
      exact hkeeps field (List.mem_of_find?_eq_some hfield) hgathered limits

theorem Keeps.readFields (hkeeps : shape.Keeps invariant) {limits : Limits}
    {fields : List (Field σ)} (hfields : fields ⊆ shape.fields) {position : Nat} {gathered : σ}
    (hgathered : invariant gathered) :
    Reader.Ensures (shape.readFields limits fields position gathered) invariant := by
  intro text final rest hread
  induction fields generalizing position gathered text with
  | nil =>
      cases hread
      exact hgathered
  | cons field fields ih =>
      have hfield : field ∈ shape.fields := hfields List.mem_cons_self
      have hothers : fields ⊆ shape.fields := fun other hother =>
        hfields (List.mem_cons_of_mem _ hother)
      rw [Shape.readFields] at hread
      split at hread
      · contradiction
      · rename_i hfound
        exact ih hothers (ensures_readElement (hkeeps field hfield hgathered limits) hfound) hread
      · -- the array ended before the field, which stays as it was
        split at hread
        · contradiction
        · exact ih hothers hgathered hread

/-- A structure has what its fields keep and what is then built from them. -/
theorem Keeps.ensures (hkeeps : shape.Keeps invariant) (hempty : invariant shape.empty)
    {property : α → Prop}
    (hbuild : ∀ {gathered value}, invariant gathered → shape.build gathered = .ok value →
      property value) : shape.decoder.Ensures property := by
  have hmembers : shape.members.Ensures property := by
    intro limits text value rest hread
    unfold Shape.members at hread
    split at hread
    · contradiction
    · rename_i hfound
      have hgathered := ensures_readMembers hkeeps.member hempty hfound
      obtain ⟨_, hbuilt, hresult⟩ := map_atHere_eq_ok.mp hread
      cases hresult
      exact hbuild hgathered hbuilt
  have helements : shape.elements.Ensures property := by
    intro limits text value rest hread
    unfold Shape.elements at hread
    split at hread
    · contradiction
    · rename_i hfound
      have hgathered := hkeeps.readFields (List.Subset.refl _) hempty hfound
      split at hread
      · contradiction
      · rename_i hbuilt
        obtain ⟨_, _, hresult⟩ := map_atHere_eq_ok.mp hread
        cases hresult
        exact hbuild hgathered hbuilt
  intro limits text value rest hread
  unfold Shape.decoder at hread
  split at hread
  · exact helements.nested limits hread
  · exact hmembers.nested limits hread
  · exact Decoder.ensures_mismatch _ _ limits hread

end Shape

end ResultBoards.Json
