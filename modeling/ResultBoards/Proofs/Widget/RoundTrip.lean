import ResultBoards.Proofs.Json.Gathering
import ResultBoards.Widget.Codec

/-!
# Widgets read back without their metadata

A widget is written as one flat object of objects: the layout lies beside the options,
and the source lies among the options of the kind.  The decoder takes the kind out first
and goes through the other members once for the options, once for the layout, and
through the options once for the kind and once for the source.  Each of these passes
meets the members of the others, which it does not know; `gather_layout`,
`gather_source` and `gatherOptions_toMembers` say that each finds its own again.  The
metadata belongs to no pass, so it is lost whatever it is.
-/

namespace ResultBoards

open Json

/-! ## What the members are -/

theorem mem_optionalString {name : String} {value : Option String} {member : String × Value}
    (hmember : member ∈ optionalString name value) : ∃ text, member = (name, .string text) := by
  cases value with
  | none => simp [optionalString] at hmember
  | some text => exact ⟨text, by simpa [optionalString] using hmember⟩

theorem mem_optionalWord {name : String} {value : Option UInt32} {member : String × Value}
    (hmember : member ∈ optionalWord name value) :
    ∃ word : UInt32, member = (name, .ofNat word.toNat) := by
  cases value with
  | none => simp [optionalWord] at hmember
  | some word => exact ⟨word, by simpa [optionalWord] using hmember⟩

theorem mem_optionalStrings {name : String} {values : List String} {member : String × Value}
    (hmember : member ∈ optionalStrings name values) :
    ∃ texts, member = (name, .ofStrings texts) := by
  cases values with
  | nil => simp [optionalStrings] at hmember
  | cons text texts => exact ⟨text :: texts, by simpa [optionalStrings] using hmember⟩

theorem mem_metadataMember {metadata : Option Metadata} {member : String × Value}
    (hmember : member ∈ metadataMember metadata) :
    ∃ result : Metadata, member = ("metadata", result.toValue) := by
  cases metadata with
  | none => simp [metadataMember] at hmember
  | some result => exact ⟨result, by simpa [metadataMember] using hmember⟩

/-- The names of the members of a source. -/
def Source.names : List String := ["workflow", "execution", "action"]

/-- The names of the members of the options of all kinds. -/
def Body.names : List String :=
  ["x_label", "y_label", "show_legend", "colors", "text", "alignment", "columns", "page_size",
    "dashboard_url", "height"]

/-- The names of the members of a layout. -/
def Layout.names : List String := ["title", "x", "y", "cols", "rows"]

theorem Source.mem_toMembers {source : Source} {member : String × Value}
    (hmember : member ∈ source.toMembers) (depth : Nat) :
    member.1 ∈ names ∧ Fits depth member.2 := by
  simp only [toMembers, List.mem_append] at hmember
  rcases hmember with (hmember | hmember) | hmember <;>
  · obtain ⟨text, rfl⟩ := mem_optionalString hmember
    exact ⟨by simp [names], .string text⟩

theorem Body.mem_toMembers {body : Body} {member : String × Value}
    (hmember : member ∈ body.toMembers) (depth : Nat) :
    member.1 ∈ names ∧ Fits (depth + 1) member.2 := by
  cases body with
  | bar options | pie options | line options =>
      simp only [toMembers, ChartOptions.toMembers, List.mem_append, List.mem_cons] at hmember
      rcases hmember with (hmember | hmember) | rfl | hmember
      · obtain ⟨text, rfl⟩ := mem_optionalString hmember
        exact ⟨by simp [names], .string text⟩
      · obtain ⟨text, rfl⟩ := mem_optionalString hmember
        exact ⟨by simp [names], .string text⟩
      · exact ⟨by simp [names], .bool _⟩
      · obtain ⟨texts, rfl⟩ := mem_optionalStrings hmember
        exact ⟨by simp [names], fits_ofStrings texts⟩
  | text options =>
      simp only [toMembers, TextOptions.toMembers, List.mem_cons] at hmember
      rcases hmember with rfl | hmember
      · exact ⟨by simp [names], .string _⟩
      · obtain ⟨text, rfl⟩ := mem_optionalString hmember
        exact ⟨by simp [names], .string text⟩
  | table options =>
      simp only [toMembers, TableOptions.toMembers, List.mem_append] at hmember
      rcases hmember with hmember | hmember
      · obtain ⟨texts, rfl⟩ := mem_optionalStrings hmember
        exact ⟨by simp [names], fits_ofStrings texts⟩
      · obtain ⟨word, rfl⟩ := mem_optionalWord hmember
        exact ⟨by simp [names], fits_ofNat word⟩
  | kibana options =>
      simp only [toMembers, KibanaOptions.toMembers, List.mem_cons] at hmember
      rcases hmember with rfl | hmember
      · exact ⟨by simp [names], .string _⟩
      · obtain ⟨word, rfl⟩ := mem_optionalWord hmember
        exact ⟨by simp [names], fits_ofNat word⟩

theorem Layout.mem_toMembers {layout : Layout} {member : String × Value}
    (hmember : member ∈ layout.toMembers) (depth : Nat) :
    member.1 ∈ names ∧ Fits depth member.2 := by
  simp only [toMembers, List.mem_cons, List.not_mem_nil, or_false] at hmember
  rcases hmember with rfl | rfl | rfl | rfl | rfl
  · exact ⟨by simp [names], .string _⟩
  all_goals exact ⟨by simp [names], fits_ofNat _⟩

theorem fits_metadata {depth : Nat} (metadata : Metadata) : Fits (depth + 3) metadata.toValue := by
  cases metadata with
  | raw text => exact .string text
  | table result =>
      refine .object fun member hmember => ?_
      simp only [List.mem_cons, List.not_mem_nil, or_false] at hmember
      rcases hmember with rfl | rfl | rfl
      · exact fits_ofStrings _
      · refine .array fun row hrow => ?_
        obtain ⟨texts, _, rfl⟩ := List.mem_map.mp hrow
        exact fits_ofStrings _
      · refine .array fun record hrecord => ?_
        obtain ⟨cells, _, rfl⟩ := List.mem_map.mp hrecord
        refine .object fun cell hcell => ?_
        obtain ⟨_, _, rfl⟩ := List.mem_map.mp hcell
        exact .string _

/-! ## The source and the options of the kind -/

theorem gather_source (source : Source) :
    gather Source.known [] Source.none source.toMembers = .ok source := by
  obtain ⟨workflow, execution, action⟩ := source
  cases workflow <;> cases execution <;> cases action <;> rfl

theorem gather_chartOptions (options : ChartOptions) :
    gather ChartOptions.known [] ⟨none, none, false, []⟩ options.toMembers = .ok options := by
  obtain ⟨xLabel, yLabel, showLegend, colors⟩ := options
  cases xLabel <;> cases yLabel <;> cases colors <;>
    simp [gather, ChartOptions.known, ChartOptions.toMembers, optionalString, optionalStrings,
      bind, Except.bind, pure, Except.pure]

theorem gather_textOptions (options : TextOptions) :
    gather TextOptions.known [] ⟨"", none⟩ options.toMembers = .ok options := by
  obtain ⟨text, alignment⟩ := options
  cases alignment <;> rfl

theorem gather_tableOptions (options : TableOptions) :
    gather TableOptions.known [] ⟨[], none⟩ options.toMembers = .ok options := by
  obtain ⟨columns, pageSize⟩ := options
  -- the page size is read alike with columns in front of it and without
  have hsize : ∀ (seen : List String), seen.contains "page_size" = false →
      gather TableOptions.known seen ⟨columns, none⟩ (optionalWord "page_size" pageSize) =
        .ok ⟨columns, pageSize⟩ := by
    intro seen hseen
    cases pageSize with
    | none => rfl
    | some size =>
        rw [optionalWord, gather_cons_known ⟨columns, some size⟩ _ rfl hseen
          (by simp only [asOptional_ofNat]; rfl)]
        rfl
  cases columns with
  | nil => exact hsize [] rfl
  | cons column columns =>
      rw [TableOptions.toMembers, optionalStrings, List.singleton_append,
        gather_cons_known ⟨column :: columns, none⟩ _ rfl rfl
          (by simp only [asList_ofStrings]; rfl)]
      · exact hsize ["columns"] rfl
      · simp

theorem gather_kibanaOptions (options : KibanaOptions) :
    gather KibanaOptions.known [] ⟨"", none⟩ options.toMembers = .ok options := by
  obtain ⟨dashboardUrl, height⟩ := options
  rw [KibanaOptions.toMembers, gather_cons_known ⟨dashboardUrl, none⟩ _ rfl rfl rfl]
  cases height with
  | none => rfl
  | some height =>
      rw [optionalWord, gather_cons_known ⟨dashboardUrl, some height⟩ _ rfl rfl
        (by simp only [asOptional_ofNat]; rfl)]
      rfl

/-- Members of a source in front do not matter to those who do not know them. -/
theorem gather_behind_source {σ : Type} {known : List (KnownMember σ)} {gathered options : σ}
    {members : List (String × Value)} (source : Source)
    (hnames : ∀ name ∈ Source.names, IsUnknown known name)
    (hgather : gather known [] gathered members = .ok options) :
    gather known [] gathered (source.toMembers ++ members) = .ok options := by
  rw [gather_unknown_append, hgather]
  exact fun member hmember => hnames _ (Source.mem_toMembers hmember 0).1

/-- The options of a kind are found among the members of any source. -/
theorem gatherOptions_toMembers (source : Source) (body : Body) :
    (Body.plain body.kind).gatherOptions (source.toMembers ++ body.toMembers) = .ok body := by
  cases body with
  | bar options | pie options | line options =>
      have hgather := gather_behind_source source (by decide) (gather_chartOptions options)
      simp only [Body.kind, Body.plain, Body.gatherOptions, Body.toMembers, hgather]
      rfl
  | text options =>
      have hgather := gather_behind_source source (by decide) (gather_textOptions options)
      simp only [Body.kind, Body.plain, Body.gatherOptions, Body.toMembers, hgather]
      rfl
  | table options =>
      have hgather := gather_behind_source source (by decide) (gather_tableOptions options)
      simp only [Body.kind, Body.plain, Body.gatherOptions, Body.toMembers, hgather]
      rfl
  | kibana options =>
      have hgather := gather_behind_source source (by decide) (gather_kibanaOptions options)
      simp only [Body.kind, Body.plain, Body.gatherOptions, Body.toMembers, hgather]
      rfl

/-- The options of a widget hold its source and its body. -/
theorem ofOptions_toMembers (source : Source) (body : Body) :
    Body.ofOptions body.kind (.object (source.toMembers ++ body.toMembers)) =
      .ok (source, body) := by
  have hnames : ∀ name ∈ Body.names, IsUnknown Source.known name := by decide
  have hunknown : ∀ member ∈ body.toMembers, IsUnknown Source.known member.1 :=
    fun member hmember => hnames _ (Body.mem_toMembers hmember 0).1
  simp only [Body.ofOptions, gatherOptions_toMembers, gather_append_unknown _ hunknown,
    gather_source]
  rfl

/-! ## The members of a widget -/

/-- The members of a widget behind its type. -/
def Widget.furtherMembers (widget : Widget) : List (String × Value) :=
  widget.layout.toMembers ++
    ("options", .object (widget.source.toMembers ++ widget.body.toMembers)) ::
      metadataMember widget.metadata

theorem Widget.toValue_eq (widget : Widget) :
    widget.toValue = .object (("type", .string widget.kind.name) :: widget.furtherMembers) := rfl

theorem Layout.gather_toMembers (layout : Layout) :
    gather Layout.known [] (.titled "") layout.toMembers = .ok layout := by
  obtain ⟨title, x, y, cols, rows⟩ := layout
  rw [Layout.toMembers, gather_cons_known ⟨title, 0, 0, 0, 0⟩ _ rfl rfl rfl,
    gather_cons_known ⟨title, x, 0, 0, 0⟩ _ rfl rfl (by simp only [asWord_ofNat]; rfl),
    gather_cons_known ⟨title, x, y, 0, 0⟩ _ rfl rfl (by simp only [asWord_ofNat]; rfl),
    gather_cons_known ⟨title, x, y, cols, 0⟩ _ rfl rfl
      (by simp only [asWord_ofNat]; rfl),
    gather_cons_known ⟨title, x, y, cols, rows⟩ _ rfl rfl
      (by simp only [asWord_ofNat]; rfl)]
  rfl

/-- The pass for the options finds them among the members of a widget. -/
theorem Widget.gather_options (widget : Widget) :
    gather [⟨"options", fun _ value => Body.ofOptions widget.kind value⟩] []
        (Source.none, Body.plain widget.kind) widget.furtherMembers =
      .ok (widget.source, widget.body) := by
  have hnames : ∀ {read : Source × Body → Value → Except Problem (Source × Body)},
      ∀ name ∈ "metadata" :: Layout.names, IsUnknown [⟨"options", read⟩] name := by
    simp [IsUnknown, Layout.names]
  rw [furtherMembers, gather_unknown_append _ fun member hmember =>
      hnames _ (List.mem_cons_of_mem _ (Layout.mem_toMembers hmember 0).1),
    gather_cons_known (widget.source, widget.body) _ rfl rfl (ofOptions_toMembers _ _),
    ← List.nil_append (metadataMember _), gather_append_unknown _ fun member hmember => ?_]
  · rfl
  · obtain ⟨result, rfl⟩ := mem_metadataMember hmember
    exact hnames _ List.mem_cons_self

/-- The pass for the layout finds it among the members of a widget. -/
theorem Widget.gather_layout (widget : Widget) :
    gather Layout.known [] (.titled "") widget.furtherMembers = .ok widget.layout := by
  rw [furtherMembers, gather_append_unknown, Layout.gather_toMembers]
  intro member hmember
  rcases List.mem_cons.mp hmember with rfl | hmember
  · exact (by decide : IsUnknown Layout.known "options")
  · obtain ⟨result, rfl⟩ := mem_metadataMember hmember
    exact (by decide : IsUnknown Layout.known "metadata")

/-- A widget is made again from its members, without its metadata. -/
theorem Widget.ofMembers_furtherMembers (widget : Widget) :
    Widget.ofMembers widget.kind widget.furtherMembers = .ok widget.clearMetadata := by
  simp only [ofMembers, widget.gather_options, widget.gather_layout]
  rfl

/-! ## Reading -/

/-- The members behind the type are other members, and none is nested deeper than three
levels. -/
theorem Widget.mem_furtherMembers {widget : Widget} {member : String × Value}
    (hmember : member ∈ widget.furtherMembers) (depth : Nat) :
    member.1 ≠ "type" ∧ Fits (depth + 3) member.2 := by
  rw [furtherMembers, List.mem_append, List.mem_cons] at hmember
  rcases hmember with hmember | rfl | hmember
  · obtain ⟨hname, hfits⟩ := Layout.mem_toMembers hmember (depth + 3)
    exact ⟨fun heq => absurd (heq ▸ hname) (by decide), hfits⟩
  · refine ⟨by simp, .object fun option hoption => ?_⟩
    rcases List.mem_append.mp hoption with hoption | hoption
    · exact (Source.mem_toMembers hoption _).2
    · exact (Body.mem_toMembers hoption _).2
  · obtain ⟨result, rfl⟩ := mem_metadataMember hmember
    exact ⟨by simp, fits_metadata result⟩

theorem readsAs_kind (kind : Kind) (limits : Limits) :
    ReadsAs limits.steps (Widget.kindDecoder limits) (.string kind.name) kind :=
  readsAs_checkedString _ (by simp only [Kind.ofName?_name]) limits

/-- A widget is read from its written form, without its metadata. -/
theorem readsAs_widget (widget : Widget) (steps depth : Nat) :
    ReadsAs steps (Widget.decoder ⟨steps, depth + 4⟩) widget.toValue widget.clearMetadata := by
  refine ⟨startsValue_cons _ (by decide) (by decide), fun {gap rest} hgap _ hbound => ?_⟩
  simp only [Widget.toValue_eq, Value.write, List.cons_append, List.append_assoc,
    List.nil_append] at hbound ⊢
  rw [← Spacing.objectText_compact] at hbound ⊢
  rw [Widget.decoder, dropBlank_gap hgap, dropBlank_cons _ (by decide)]
  simp only [Decoder.nested, Widget.members]
  rw [readMembers_written ⟨some widget.kind, widget.furtherMembers.reverse⟩ ?_ .compact
    (Nat.lt_of_succ_lt hbound)]
  · simp only [List.reverse_reverse, widget.ofMembers_furtherMembers]
    rfl
  · refine .cons rfl
      (readsAs_map (readsAs_kind widget.kind ⟨steps, depth + 3⟩) fun kind =>
        (⟨some kind, []⟩ : Widget.Draft)) ?_
    refine membersRead_values (fun before => (⟨some widget.kind, before.reverse⟩ : Widget.Draft))
      (fun member hmember before => ⟨_, if_neg (Widget.mem_furtherMembers hmember depth).1, ?_⟩)
      fun member hmember => readsAs_readValue (Widget.mem_furtherMembers hmember depth).2 steps
    intro text value rest hread
    simp [hread, Except.map]

end ResultBoards
