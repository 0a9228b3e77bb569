import ResultBoards.Proofs.Json.Numerals
import ResultBoards.Proofs.Json.Rules
import ResultBoards.Widget.Codec

/-!
# Which objects are widgets

A widget is decoded in stages.  Its members are read one by one, the type is judged where it
stands, and the others are kept; then they are gone through once for the options and once for the
layout, and the options once for those of the kind and once for the source.  What comes out of
this is said without any stages by `Widget.IsGivenBy`: the type names the kind, every field has
the value of its one member or its default, and no other member counts.

## Strategy

* Each record has its `Rules`, and the lists of members that the decoder knows are these rules as
  they are, so `Rules.gather_eq_ok_iff` is about every pass of the decoder.
* What is read into a draft is what a fold over the members keeps (`consumes_draftMember`), and
  `foldlM_put_of_none` says that this works if and only if there is one type among them.
* `Widget.IsGivenBy.congr` is about what does not matter: the order of the members, and those that
  no field knows.
-/

namespace ResultBoards

open Json

/-! ## The fields of the records -/

/-- The fields of a source. -/
def Source.rules : Rules Source where
  fields := [
    ⟨"workflow", _, .nullable .text, Source.workflow,
      fun source workflow => { source with workflow }, fun _ _ => rfl⟩,
    ⟨"execution", _, .nullable .text, Source.execution,
      fun source execution => { source with execution }, fun _ _ => rfl⟩,
    ⟨"action", _, .nullable .text, Source.action,
      fun source action => { source with action }, fun _ _ => rfl⟩]
  start := .none
  distinct := by decide
  get_put_other := by simp
  ext := by
    rintro ⟨⟩ ⟨⟩ hsame
    simpa using hsame

/-- The fields of a layout. -/
def Layout.rules : Rules Layout where
  fields := [
    ⟨"title", _, .text, Layout.title, fun layout title => { layout with title }, fun _ _ => rfl⟩,
    ⟨"x", _, .word, Layout.x, fun layout x => { layout with x }, fun _ _ => rfl⟩,
    ⟨"y", _, .word, Layout.y, fun layout y => { layout with y }, fun _ _ => rfl⟩,
    ⟨"cols", _, .word, Layout.cols, fun layout cols => { layout with cols }, fun _ _ => rfl⟩,
    ⟨"rows", _, .word, Layout.rows, fun layout rows => { layout with rows }, fun _ _ => rfl⟩]
  start := ⟨"", 0, 0, 0, 0⟩
  distinct := by decide
  get_put_other := by simp
  ext := by
    rintro ⟨⟩ ⟨⟩ hsame
    simpa using hsame

/-- The fields of the options of charts. -/
def ChartOptions.rules : Rules ChartOptions where
  fields := [
    ⟨"x_label", _, .nullable .text, ChartOptions.xLabel,
      fun options xLabel => { options with xLabel }, fun _ _ => rfl⟩,
    ⟨"y_label", _, .nullable .text, ChartOptions.yLabel,
      fun options yLabel => { options with yLabel }, fun _ _ => rfl⟩,
    ⟨"show_legend", _, .flag, ChartOptions.showLegend,
      fun options showLegend => { options with showLegend }, fun _ _ => rfl⟩,
    ⟨"colors", _, .texts, ChartOptions.colors,
      fun options colors => { options with colors }, fun _ _ => rfl⟩]
  start := ⟨none, none, false, []⟩
  distinct := by decide
  get_put_other := by simp
  ext := by
    rintro ⟨⟩ ⟨⟩ hsame
    simpa using hsame

/-- The fields of the options of texts. -/
def TextOptions.rules : Rules TextOptions where
  fields := [
    ⟨"text", _, .text, TextOptions.text, fun options text => { options with text },
      fun _ _ => rfl⟩,
    ⟨"alignment", _, .nullable .text, TextOptions.alignment,
      fun options alignment => { options with alignment }, fun _ _ => rfl⟩]
  start := ⟨"", none⟩
  distinct := by decide
  get_put_other := by simp
  ext := by
    rintro ⟨⟩ ⟨⟩ hsame
    simpa using hsame

/-- The fields of the options of tables. -/
def TableOptions.rules : Rules TableOptions where
  fields := [
    ⟨"columns", _, .texts, TableOptions.columns,
      fun options columns => { options with columns }, fun _ _ => rfl⟩,
    ⟨"page_size", _, .nullable .word, TableOptions.pageSize,
      fun options pageSize => { options with pageSize }, fun _ _ => rfl⟩]
  start := ⟨[], none⟩
  distinct := by decide
  get_put_other := by simp
  ext := by
    rintro ⟨⟩ ⟨⟩ hsame
    simpa using hsame

/-- The fields of the options of embedded dashboards. -/
def KibanaOptions.rules : Rules KibanaOptions where
  fields := [
    ⟨"dashboard_url", _, .text, KibanaOptions.dashboardUrl,
      fun options dashboardUrl => { options with dashboardUrl }, fun _ _ => rfl⟩,
    ⟨"height", _, .nullable .word, KibanaOptions.height,
      fun options height => { options with height }, fun _ _ => rfl⟩]
  start := ⟨"", none⟩
  distinct := by decide
  get_put_other := by simp
  ext := by
    rintro ⟨⟩ ⟨⟩ hsame
    simpa using hsame

/-! ## Options -/

namespace Body

/-- Some members say what the options of a kind are. -/
def IsGivenBy (members : List (String × Value)) : Body → Prop
  | .bar options | .pie options | .line options => ChartOptions.rules.Gives members options
  | .text options => TextOptions.rules.Gives members options
  | .table options => TableOptions.rules.Gives members options
  | .kibana options => KibanaOptions.rules.Gives members options

/-- A body is made from what the rules for its options give. -/
theorem gather_wrap_eq_ok_iff {σ : Type} (rules : Rules σ) (wrap : σ → Body)
    {members : List (String × Value)} {body : Body} :
    (do return wrap (← gather (rules.fields.map FieldRule.member) [] rules.start members)) =
        .ok body ↔ ∃ options, rules.Gives members options ∧ wrap options = body := by
  simp only [bind_eq_ok, rules.gather_eq_ok_iff, pure, Except.pure, Except.ok.injEq]

theorem gatherOptions_eq_ok_iff {kind : Kind} {members : List (String × Value)} {body : Body} :
    (plain kind).gatherOptions members = .ok body ↔
      body.kind = kind ∧ body.IsGivenBy members := by
  cases kind with
  | bar =>
      refine (gather_wrap_eq_ok_iff ChartOptions.rules .bar).trans ?_
      cases body <;> simp [Body.kind, IsGivenBy]
  | pie =>
      refine (gather_wrap_eq_ok_iff ChartOptions.rules .pie).trans ?_
      cases body <;> simp [Body.kind, IsGivenBy]
  | line =>
      refine (gather_wrap_eq_ok_iff ChartOptions.rules .line).trans ?_
      cases body <;> simp [Body.kind, IsGivenBy]
  | text =>
      refine (gather_wrap_eq_ok_iff TextOptions.rules .text).trans ?_
      cases body <;> simp [Body.kind, IsGivenBy]
  | table =>
      refine (gather_wrap_eq_ok_iff TableOptions.rules .table).trans ?_
      cases body <;> simp [Body.kind, IsGivenBy]
  | kibana =>
      refine (gather_wrap_eq_ok_iff KibanaOptions.rules .kibana).trans ?_
      cases body <;> simp [Body.kind, IsGivenBy]

/-- The value of `options` for a kind: an object that says what the source and the options are. -/
def optionsType (kind : Kind) : ValueType (Source × Body) where
  read := ofOptions kind
  Denotes value given := ∃ members, value = .object members ∧ given.2.kind = kind ∧
    Source.rules.Gives members given.1 ∧ given.2.IsGivenBy members
  read_eq_ok_iff {value given} := by
    obtain ⟨source, body⟩ := given
    cases value with
    | object members =>
        have hsource : gather Source.known [] Source.none members = .ok source ↔
            Source.rules.Gives members source := Source.rules.gather_eq_ok_iff
        simp only [ofOptions, bind_eq_ok, gatherOptions_eq_ok_iff]
        constructor
        · rintro ⟨_, ⟨hkind, hbody⟩, _, hread, hresult⟩
          cases hresult
          exact ⟨members, rfl, hkind, hsource.mp hread, hbody⟩
        · rintro ⟨_, hobject, hkind, hgives, hbody⟩
          cases hobject
          exact ⟨body, ⟨hkind, hbody⟩, source, hsource.mpr hgives, rfl⟩
    | null | bool | number | string | array => simp [ofOptions]

end Body

theorem Kind.ofName?_eq_some_iff {name : String} {kind : Kind} :
    Kind.ofName? name = some kind ↔ name = kind.name := by
  constructor
  · intro hname
    simpa [eq_comm] using List.find?_some hname
  · rintro rfl
    exact kind.ofName?_name

namespace Widget

/-! ## Widgets -/

/-- The options of a widget of a kind, its one field that is an object. -/
def optionsRules (kind : Kind) : Rules (Source × Body) where
  fields := [⟨"options", _, Body.optionsType kind, id, fun _ given => given, fun _ _ => rfl⟩]
  start := (Source.none, Body.plain kind)
  distinct := by simp
  get_put_other := by simp
  ext := by simp

/-- Some members say what a widget is. -/
structure IsGivenBy (members : List (String × Value)) (widget : Widget) : Prop where
  kind : valuesOf "type" members = [.string widget.kind.name]
  layout : Layout.rules.Gives members widget.layout
  options : (optionsRules widget.kind).Gives members (widget.source, widget.body)
  metadata : widget.metadata = none

theorem kind_of_gives {kind : Kind} {members : List (String × Value)} {source : Source}
    {body : Body} (hgives : (optionsRules kind).Gives members (source, body)) :
    body.kind = kind := by
  rcases hgives _ List.mem_cons_self with ⟨_, hplain⟩ | ⟨_, _, _, _, hkind, _⟩
  · obtain rfl : body = Body.plain kind := congrArg Prod.snd hplain
    cases kind <;> rfl
  · exact hkind

theorem optionsRules_members (kind : Kind) :
    (optionsRules kind).fields.map FieldRule.member =
      [⟨"options", fun _ value => Body.ofOptions kind value⟩] := by
  simp [optionsRules, FieldRule.member, Body.optionsType]

theorem ofMembers_eq_ok_iff {kind : Kind} {members : List (String × Value)} {widget : Widget} :
    ofMembers kind members = .ok widget ↔
      Layout.rules.Gives members widget.layout ∧
        (optionsRules kind).Gives members (widget.source, widget.body) ∧
          widget.metadata = none := by
  have hoptions : ∀ given, gather [⟨"options", fun _ value => Body.ofOptions kind value⟩] []
      (Source.none, Body.plain kind) members = .ok given ↔
        (optionsRules kind).Gives members given := fun given => by
    rw [← optionsRules_members]
    exact (optionsRules kind).gather_eq_ok_iff
  have hlayout : ∀ layout, gather Layout.known [] (.titled "") members = .ok layout ↔
      Layout.rules.Gives members layout := fun layout => Layout.rules.gather_eq_ok_iff
  obtain ⟨layout, source, body, metadata⟩ := widget
  simp only [ofMembers, bind_eq_ok]
  constructor
  · rintro ⟨given, hgiven, found, hfound, hresult⟩
    cases hresult
    exact ⟨(hlayout _).mp hfound, (hoptions given).mp hgiven, rfl⟩
  · rintro ⟨hgives, hgiven, rfl⟩
    exact ⟨(source, body), (hoptions _).mpr hgiven, layout, (hlayout _).mpr hgives, rfl⟩

/-! ## What is kept of the members -/

/-- Reads a member into a draft. -/
def draftMember (limits : Limits) (draft : Draft) (name : String) :
    Except Problem (Reader Draft) :=
  if name = "type" then
    match draft.kind with
    | some _ => .error (.fieldRepeated "type")
    | none => .ok fun text =>
        (kindDecoder limits text).map fun (kind, rest) => (⟨some kind, draft.members⟩, rest)
  else .ok fun text =>
    (readValue limits.steps limits.depth text).map fun (value, rest) =>
      (⟨draft.kind, (name, value) :: draft.members⟩, rest)

/-- The kind that a value names. -/
def kindOf? : Value → Option Kind
  | .string name => Kind.ofName? name
  | _ => none

/-- Puts a member into a draft. -/
def Draft.put (draft : Draft) (member : String × Value) : Option Draft :=
  if member.1 = "type" then
    match draft.kind with
    | some _ => none
    | none => (kindOf? member.2).map fun kind => ⟨some kind, draft.members⟩
  else some ⟨draft.kind, member :: draft.members⟩

theorem kindDecoder_eq_ok_iff {limits : Limits} {text rest after : List Char} {value : Value}
    {kind : Kind} (hread : Value.decoder limits text = .ok (value, rest)) :
    kindDecoder limits text = .ok (kind, after) ↔ after = rest ∧ kindOf? value = some kind := by
  rw [kindDecoder, checkedString_eq_ok_iff hread]
  cases value with
  | string name => cases hname : Kind.ofName? name <;> simp [kindOf?, hname]
  | null | bool | number | array | object => simp [kindOf?]

theorem consumes_draftMember (limits : Limits) :
    Consumes limits (draftMember limits) Draft.put := by
  intro draft next name text rest after value hread
  by_cases htype : name = "type"
  · subst htype
    obtain ⟨kind, members⟩ := draft
    cases kind with
    | some kind => simp [draftMember, Draft.put]
    | none =>
        simp only [draftMember, Draft.put, if_true, Except.ok.injEq, exists_eq_left',
          map_eq_ok_iff, Option.map_eq_some_iff]
        constructor
        · rintro ⟨⟨kind, left⟩, hkind, hresult⟩
          cases hresult
          obtain ⟨rfl, hname⟩ := (kindDecoder_eq_ok_iff hread).mp hkind
          exact ⟨rfl, kind, hname, rfl⟩
        · rintro ⟨rfl, kind, hname, rfl⟩
          exact ⟨(kind, after), (kindDecoder_eq_ok_iff hread).mpr ⟨rfl, hname⟩, rfl⟩
  · have hvalue : readValue limits.steps limits.depth text = .ok (value, rest) := hread
    simp [draftMember, Draft.put, htype, hvalue, Except.map, and_comm, eq_comm]

theorem members_eq_ok_iff {limits : Limits} {text after : List Char} {widget : Widget} :
    Widget.members limits text = .ok (widget, after) ↔ ∃ kind kept,
      readMembers (draftMember limits) limits.steps true ⟨none, []⟩ text =
          .ok (⟨some kind, kept⟩, after) ∧ ofMembers kind kept.reverse = .ok widget := by
  unfold Widget.members
  constructor
  · intro hread
    simp only at hread
    split at hread
    · contradiction
    · contradiction
    · rename_i kind kept left hdraft
      obtain ⟨_, hwidget, hresult⟩ := map_atHere_eq_ok.mp hread
      cases hresult
      exact ⟨kind, kept, hdraft, hwidget⟩
  · rintro ⟨kind, kept, hdraft, hwidget⟩
    simp only
    split
    · rename_i hfailed
      cases hfailed.symm.trans hdraft
    · rename_i hnone
      cases hnone.symm.trans hdraft
    · rename_i hfound
      cases hfound.symm.trans hdraft
      rw [hwidget]
      rfl

theorem kindOf?_eq_some_iff {value : Value} {kind : Kind} :
    kindOf? value = some kind ↔ value = .string kind.name := by
  cases value with
  | string name => simp [kindOf?, Kind.ofName?_eq_some_iff]
  | null | bool | number | array | object => simp [kindOf?]

/-- After the type all other members are kept, and no second type may come. -/
theorem foldlM_put_of_some {members before kept : List (String × Value)} {first kind : Kind} :
    members.foldlM Draft.put ⟨some first, before⟩ = some ⟨some kind, kept⟩ ↔
      valuesOf "type" members = [] ∧ kind = first ∧
        kept = (members.filter fun member => member.1 ≠ "type").reverse ++ before := by
  induction members generalizing before with
  | nil => simp [eq_comm]
  | cons member members ih =>
      obtain ⟨name, value⟩ := member
      rw [List.foldlM_cons]
      by_cases htype : name = "type"
      · subst htype
        simp [Draft.put]
      · rw [valuesOf_cons_of_ne htype]
        simp [Draft.put, htype, ih]

theorem foldlM_put_of_none {members before kept : List (String × Value)} {kind : Kind} :
    members.foldlM Draft.put ⟨none, before⟩ = some ⟨some kind, kept⟩ ↔
      valuesOf "type" members = [.string kind.name] ∧
        kept = (members.filter fun member => member.1 ≠ "type").reverse ++ before := by
  induction members generalizing before with
  | nil => simp
  | cons member members ih =>
      obtain ⟨name, value⟩ := member
      rw [List.foldlM_cons]
      by_cases htype : name = "type"
      · subst htype
        have hkept : ((("type", value) :: members).filter fun member => member.1 ≠ "type") =
            members.filter fun member => member.1 ≠ "type" := by simp
        rw [valuesOf_cons_self, hkept, List.cons.injEq, ← kindOf?_eq_some_iff]
        simp only [Draft.put, if_true]
        cases kindOf? value with
        | none => simp
        | some first =>
            refine foldlM_put_of_some.trans ?_
            rw [Option.some.injEq, eq_comm (a := kind)]
            tauto
      · rw [valuesOf_cons_of_ne htype]
        simp [Draft.put, htype, ih]

/-- Where a text starts with an object, the decoder finds the widgets that its members give. -/
theorem decoder_eq_ok_iff {limits : Limits} {text rest after : List Char}
    {members : List (String × Value)} {widget : Widget}
    (hobject : Value.decoder limits text = .ok (.object members, rest)) :
    decoder limits text = .ok (widget, after) ↔ after = rest ∧ widget.IsGivenBy members := by
  obtain ⟨opened, depth, hopened, hdepth, hkept⟩ :=
    (valueRead_of_decoder hobject).members_of_object
  obtain ⟨others, hothers, hsame⟩ :=
    readMembers_eq_ok_iff_foldlM (consumes_draftMember ⟨limits.steps, depth⟩) hkept
  obtain rfl : members = others := by simpa using hothers
  have hdecoder : decoder limits text = Widget.members ⟨limits.steps, depth⟩ opened := by
    simp only [decoder, hopened, Decoder.nested, hdepth]
  have hlayout : "type" ∉ Layout.rules.names := by decide
  have hoptions : ∀ kind, "type" ∉ (optionsRules kind).names := fun kind => by
    simp [optionsRules, Rules.names]
  rw [hdecoder, members_eq_ok_iff]
  constructor
  · rintro ⟨kind, kept, hread, hwidget⟩
    obtain ⟨rfl, hfold⟩ := hsame.mp hread
    obtain ⟨htype, rfl⟩ := foldlM_put_of_none.mp hfold
    rw [List.append_nil, List.reverse_reverse, ofMembers_eq_ok_iff, Rules.gives_filter_ne hlayout,
      Rules.gives_filter_ne (hoptions kind)] at hwidget
    obtain ⟨hgives, hgiven, hmetadata⟩ := hwidget
    obtain rfl : widget.kind = kind := kind_of_gives hgiven
    exact ⟨rfl, htype, hgives, hgiven, hmetadata⟩
  · rintro ⟨rfl, htype, hgives, hgiven, hmetadata⟩
    refine ⟨widget.kind, _, hsame.mpr ⟨rfl, foldlM_put_of_none.mpr ⟨htype, rfl⟩⟩, ?_⟩
    rw [List.append_nil, List.reverse_reverse, ofMembers_eq_ok_iff, Rules.gives_filter_ne hlayout,
      Rules.gives_filter_ne (hoptions widget.kind)]
    exact ⟨hgives, hgiven, hmetadata⟩

/-- A text that is an object decodes to the widgets that its members give. -/
theorem decode_of_object {text : String} {members : List (String × Value)}
    (hobject : Value.decoder.decode text = .ok (.object members)) {widget : Widget} :
    decoder.decode text = .ok widget ↔ widget.IsGivenBy members := by
  obtain ⟨rest, hread, hend⟩ := Decoder.decode_eq_ok_iff.mp hobject
  rw [Decoder.decode_eq_ok_iff]
  constructor
  · rintro ⟨after, hwidget, _⟩
    exact ((decoder_eq_ok_iff hread).mp hwidget).2
  · intro hgiven
    exact ⟨rest, (decoder_eq_ok_iff hread).mpr ⟨rfl, hgiven⟩, hend⟩

end Widget

/-! ## Members that do not matter -/

/-- The names of the members that set the options of a body. -/
def Body.fieldNames : Body → List String
  | .bar _ | .pie _ | .line _ => ChartOptions.rules.names
  | .text _ => TextOptions.rules.names
  | .table _ => TableOptions.rules.names
  | .kibana _ => KibanaOptions.rules.names

theorem Body.IsGivenBy.congr {body : Body} {members others : List (String × Value)}
    (hgiven : body.IsGivenBy members) (hsame : SameUnder body.fieldNames members others) :
    body.IsGivenBy others := by
  cases body with
  | bar | pie | line | text | table | kibana => exact Rules.Gives.congr hgiven hsame

namespace Widget

/-- Two values of `options` that say the same of a body: the same value, or objects with the same
values under the names that matter. -/
def SameOptions (body : Body) (value other : Value) : Prop :=
  value = other ∨ ∃ members others, value = .object members ∧ other = .object others ∧
    SameUnder Source.rules.names members others ∧ SameUnder body.fieldNames members others

/-- Two lists of members that say the same of a widget: they may differ in their order and in the
members that no field knows, and so may their options. -/
structure SameMembers (widget : Widget) (members others : List (String × Value)) : Prop where
  kind : SameUnder ["type"] members others
  layout : SameUnder Layout.rules.names members others
  options : List.Forall₂ (SameOptions widget.body) (valuesOf "options" members)
    (valuesOf "options" others)

theorem IsGivenBy.congr {widget : Widget} {members others : List (String × Value)}
    (hgiven : widget.IsGivenBy members) (hsame : widget.SameMembers members others) :
    widget.IsGivenBy others where
  kind := by
    have hperm := hsame.kind "type" List.mem_cons_self
    rw [hgiven.kind] at hperm
    exact hperm.singleton_eq.symm
  layout := hgiven.layout.congr hsame.layout
  metadata := hgiven.metadata
  options := by
    intro field hfield
    obtain rfl := List.mem_singleton.mp hfield
    have hoptions := hsame.options
    rcases hgiven.options _ hfield with ⟨hnone, hplain⟩ | ⟨value, hvalue, hdenotes⟩
    · rw [hnone] at hoptions
      exact .inl ⟨List.forall₂_nil_left_iff.mp hoptions, hplain⟩
    · rw [hvalue] at hoptions
      obtain ⟨other, none, hother, hnone, hothers⟩ := List.forall₂_cons_left_iff.mp hoptions
      obtain rfl := List.forall₂_nil_left_iff.mp hnone
      refine .inr ⟨other, hothers, ?_⟩
      rcases hother with rfl | ⟨inner, otherInner, hinner, rfl, hsource, hbody⟩
      · exact hdenotes
      · obtain ⟨_, hobject, hkind, hgives, hoptions⟩ := hdenotes
        obtain rfl : inner = _ := Value.object.inj (hinner.symm.trans hobject)
        exact ⟨otherInner, rfl, hkind, hgives.congr hsource, hoptions.congr hbody⟩

/-! ## The decoder -/

/-- **The decoder of widgets accepts its grammar.**  A text that is an object decodes to a widget
exactly if its members give the widget.  So it decodes to the same widget wherever the members
stand and whichever others stand among them, and likewise for the members of the options.  The
whole numbers among the values are those that are written in digits and nothing else. -/
theorem decode_eq_ok_iff_isGivenBy {text : String} {members : List (String × Value)}
    (hobject : Value.decoder.decode text = .ok (.object members)) :
    (∀ widget, decoder.decode text = .ok widget ↔ widget.IsGivenBy members) ∧
      (∀ widget other others, Value.decoder.decode other = .ok (.object others) →
        widget.SameMembers members others → decoder.decode text = .ok widget →
          decoder.decode other = .ok widget) ∧
      ∀ limits valueText rest value (word : UInt32),
        Value.decoder limits valueText = .ok (value, rest) →
          (ValueType.word.Denotes value word ↔
            dropBlank valueText = Nat.toDigits 10 word.toNat ++ rest ∧ Separate rest) := by
  refine ⟨fun widget => decode_of_object hobject, ?_, ?_⟩
  · intro widget other others hother hsame hwidget
    have hgiven := (decode_of_object hobject).mp hwidget
    exact (decode_of_object hother).mpr (hgiven.congr hsame)
  · intro limits valueText rest value word hread
    have hfits : word.toNat ≤ wordLimit := by
      have hword := word.toNat_lt
      unfold wordLimit
      omega
    exact eq_ofNat_iff_digits hread hfits

/-- A pie whose members stand in an unusual order, with others among them that mean nothing to a
pie. -/
theorem decode_eq_ok_iff_isGivenBy_unordered :
    let text :=
      "\x7b\"x\":2,\"w\":0,\"options\":\x7b\"text\":0,\"colors\":[\"a\"]\x7d,\"type\":\"pie\"\x7d"
    let members := [("x", .ofNat 2), ("w", .ofNat 0),
      ("options", .object [("text", .ofNat 0), ("colors", .ofStrings ["a"])]),
      ("type", .string "pie")]
    let widget : Widget := ⟨⟨"", 2, 0, 0, 0⟩, .none, .pie ⟨none, none, false, ["a"]⟩, none⟩
    Value.decoder.decode text = .ok (.object members) ∧ decoder.decode text = .ok widget ∧
      widget.IsGivenBy members := by
  intro text members widget
  have hobject : Value.decoder.decode text = .ok (.object members) := by
    unfold text
    rfl
  have hdecode : decoder.decode text = .ok widget := by
    unfold text
    rfl
  exact ⟨hobject, hdecode, ((decode_eq_ok_iff_isGivenBy hobject).1 widget).mp hdecode⟩

end Widget

end ResultBoards
