import ResultBoards.Proofs.Settings.Documents

/-!
# Settings in layers

The environment lies over the file, and both lie over the defaults.  A setting counts as
its variable says, or if that is not set as the file says, or if that says nothing as
the default; no setting depends on how another is given.

Sources are laid over each other key by key (`Setting.addSource`), and a key that leads
to a setting changes the value at its place and at no other (`valueOf_setKey_self`,
`valueOf_setKey_other`).  By induction along the environment the tree of both layers says
about each setting what counts for it (`valueOf_addSource`), and with `Setting.valueOf`
the reading of trees takes it from there.

The names of the keys enter only where paths are computed, in
`SettingName.pathOfKey_keyText` and `SettingName.keyOfVariable?_variableName`.
-/

namespace ResultBoards

namespace Setting

/-! ## Paths -/

section Paths

variable {name other : String} {rest : List KeyStep} {change : Setting → Setting}

theorem sectionEntries_update_self (tree : Setting) :
    (tree.update change (.key name :: rest)).sectionEntries name =
      (update change rest ((tree.entries.lookup name).getD nothing)).entries := by
  show ((((updateEntry name (update change rest) tree.entries).lookup name).getD nothing).entries)
    = _
  rw [lookup_updateEntry_self]
  rfl

theorem sectionEntries_update_other (tree : Setting) (hdifferent : other ≠ name) :
    (tree.update change (.key name :: rest)).sectionEntries other =
      tree.sectionEntries other := by
  show ((((updateEntry name (update change rest) tree.entries).lookup other).getD nothing).entries)
    = _
  rw [lookup_updateEntry_other hdifferent]
  rfl

end Paths

end Setting

namespace SettingName

/-! ## Keys and variables -/

/-- The key of a setting, which leads to its place. -/
def keyText (name : SettingName) : String :=
  name.sectionName ++ "." ++ name.fieldName

/-- The variable that a setting is held by. -/
def variableName : SettingName → String
  | .bind => "DASHBOARDS__SERVER__BIND"
  | .backend => "DASHBOARDS__STORE__BACKEND"
  | .path => "DASHBOARDS__STORE__PATH"
  | .key => "DASHBOARDS__STORE__KEY"
  | .baseUrl => "DASHBOARDS__EXECUTION__BASE_URL"
  | .token => "DASHBOARDS__EXECUTION__TOKEN"
  | .timeout => "DASHBOARDS__EXECUTION__TIMEOUT_SECS"

theorem pathOfKey_keyText (name : SettingName) :
    Setting.pathOfKey name.keyText = [.key name.sectionName, .key name.fieldName] := by
  cases name <;> decide

theorem keyOfVariable?_variableName (name : SettingName) :
    keyOfVariable? name.variableName = some name.keyText := by
  cases name <;> decide

/-- Settings in one section have different names. -/
theorem fieldName_ne {name other : SettingName} (hdifferent : other ≠ name)
    (htogether : other.sectionName = name.sectionName) : other.fieldName ≠ name.fieldName := by
  revert hdifferent htogether
  cases name <;> cases other <;> decide

theorem variableName_injective : Function.Injective variableName := by
  intro name other
  cases name <;> cases other <;> decide

end SettingName

namespace Setting

/-! ## One setting laid over a tree -/

variable {tree : Setting} {name other : SettingName}

theorem valueOf_setKey_self (tree : Setting) (name : SettingName) (origin : Option String)
    (value : Scalar) :
    (tree.setKey name.keyText (.scalar origin value)).valueOf name =
      some (.scalar origin value) := by
  unfold setKey valueOf
  rw [name.pathOfKey_keyText, sectionEntries_update_self]
  exact lookup_updateEntry_self _

theorem valueOf_setKey_other (tree : Setting) (hdifferent : other ≠ name) (above : Setting) :
    (tree.setKey name.keyText above).valueOf other = tree.valueOf other := by
  unfold setKey valueOf
  rw [name.pathOfKey_keyText]
  by_cases htogether : other.sectionName = name.sectionName
  · rw [htogether, sectionEntries_update_self]
    exact lookup_updateEntry_other (SettingName.fieldName_ne hdifferent htogether) _
  · rw [sectionEntries_update_other tree htogether]

theorem HasSections.setKey (hsections : tree.HasSections) (name : SettingName)
    (above : Setting) : (tree.setKey name.keyText above).HasSections := by
  intro other part hthere
  unfold Setting.setKey at hthere
  rw [name.pathOfKey_keyText] at hthere
  by_cases htogether : other.sectionName = name.sectionName
  · rw [htogether] at hthere
    replace hthere := (lookup_updateEntry_self tree.entries).symm.trans hthere
    cases hthere
    exact ⟨_, _, rfl⟩
  · exact hsections other part ((lookup_updateEntry_other htogether tree.entries).symm.trans hthere)

end Setting

/-! ## The environment -/

/-- Variables are set once each, and those that hold settings hold the settings of the
program and have exactly their names. -/
structure NamesSettings (environment : List (String × String)) : Prop where
  nodup : (environment.map Prod.fst).Nodup
  named : ∀ entry ∈ environment, (keyOfVariable? entry.1).isSome →
    ∃ name : SettingName, entry.1 = name.variableName

/-- What a variable says. -/
def Setting.ofVariable (text : String) : Setting :=
  .scalar (some "the environment") (.text text)

/-- What counts for a setting: what its variable says if it is set, and else what is
said below. -/
def effective (below : Setting) (environment : List (String × String)) (name : SettingName) :
    Option Setting :=
  match environment.lookup name.variableName with
  | some text => some (.ofVariable text)
  | none => below.valueOf name

section Environment

variable {below below' tree : Setting} {environment : List (String × String)}
variable {first text : String} {name : SettingName}

theorem effective_of_not_mem (hunset : name.variableName ∉ environment.map Prod.fst) :
    effective below environment name = below.valueOf name := by
  unfold effective
  rw [Setting.lookup_eq_none_iff_not_mem.mpr hunset]

theorem effective_cons_self :
    effective below ((name.variableName, text) :: environment) name = some (.ofVariable text) := by
  simp [effective]

theorem effective_cons_other (hdifferent : name.variableName ≠ first) :
    effective below ((first, text) :: environment) name = effective below environment name := by
  have hpassed : (name.variableName == first) = false := by simpa using hdifferent
  simp [effective, List.lookup_cons, hpassed]

theorem effective_congr (hsame : below.valueOf name = below'.valueOf name) :
    effective below environment name = effective below' environment name := by
  unfold effective
  rw [hsame]

theorem environmentSource_cons_of_none (hother : keyOfVariable? first = none) :
    environmentSource ((first, text) :: environment) = environmentSource environment := by
  simp [environmentSource, hother]

theorem environmentSource_cons_variable (name : SettingName) :
    environmentSource ((name.variableName, text) :: environment) =
      (name.keyText, .ofVariable text) :: environmentSource environment := by
  simp [environmentSource, name.keyOfVariable?_variableName, Setting.ofVariable]

namespace NamesSettings

theorem tail {entry : String × String} (hnames : NamesSettings (entry :: environment)) :
    NamesSettings environment where
  nodup := (List.nodup_cons.mp hnames.nodup).2
  named := fun entry hmember => hnames.named entry (List.mem_cons_of_mem _ hmember)

/-- A variable holds no setting, or the setting it is the variable of. -/
theorem head_cases (hnames : NamesSettings ((first, text) :: environment)) :
    keyOfVariable? first = none ∨ ∃ name : SettingName, first = name.variableName := by
  cases hheld : keyOfVariable? first with
  | none => exact .inl rfl
  | some key => exact .inr (hnames.named (first, text) List.mem_cons_self (by simp [hheld]))

/-- The environment lies over a tree: of a setting the tree then says what counts. -/
theorem valueOf_addSource (hnames : NamesSettings environment) (tree : Setting)
    (name : SettingName) :
    (tree.addSource (environmentSource environment)).valueOf name =
      effective tree environment name := by
  induction environment generalizing tree with
  | nil => rfl
  | cons entry environment ih =>
      obtain ⟨first, text⟩ := entry
      have hunset : first ∉ environment.map Prod.fst := (List.nodup_cons.mp hnames.nodup).1
      rcases hnames.head_cases with hother | ⟨held, rfl⟩
      · have hdifferent : name.variableName ≠ first := by
          intro hsame
          rw [← hsame, name.keyOfVariable?_variableName] at hother
          cases hother
        rw [environmentSource_cons_of_none hother, effective_cons_other hdifferent]
        exact ih hnames.tail tree
      · rw [environmentSource_cons_variable]
        show ((tree.setKey held.keyText (.ofVariable text)).addSource
          (environmentSource environment)).valueOf name = _
        rw [ih hnames.tail]
        by_cases hsame : name = held
        · subst hsame
          rw [effective_of_not_mem hunset, effective_cons_self]
          exact Setting.valueOf_setKey_self tree name _ _
        · have hdifferent : name.variableName ≠ held.variableName :=
            fun hequal => hsame (SettingName.variableName_injective hequal)
          rw [effective_cons_other hdifferent]
          exact effective_congr (Setting.valueOf_setKey_other tree hsame _)

/-- The environment leaves the sections tables. -/
theorem hasSections_addSource (hnames : NamesSettings environment) {tree : Setting}
    (hsections : tree.HasSections) :
    (tree.addSource (environmentSource environment)).HasSections := by
  induction environment generalizing tree with
  | nil => exact hsections
  | cons entry environment ih =>
      obtain ⟨first, text⟩ := entry
      rcases hnames.head_cases with hother | ⟨held, rfl⟩
      · rw [environmentSource_cons_of_none hother]
        exact ih hnames.tail hsections
      · rw [environmentSource_cons_variable]
        exact ih hnames.tail (hsections.setKey held _)

end NamesSettings

end Environment

/-! ## Loading -/

namespace Settings

variable {texts : String → Option String} {environment : List (String × String)}
variable {below : Setting}

/-- The environment is laid over what the file says alone. -/
theorem tree_eq_addSource (hfile : tree texts [] = .ok below) :
    tree texts environment = .ok (below.addSource (environmentSource environment)) := by
  unfold tree at hfile ⊢
  cases hfound : SettingsFile.find? texts with
  | none =>
      rw [hfound] at hfile
      cases hfile
      rfl
  | some settingsFile =>
      rw [hfound] at hfile
      simp only at hfile ⊢
      cases hread : settingsFile.source? with
      | none =>
          rw [hread] at hfile
          cases hfile
      | some source =>
          rw [hread] at hfile
          cases hfile
          rfl

theorem load_eq_ofSetting (hfile : tree texts [] = .ok below) :
    load texts environment =
      (ofSetting (below.addSource (environmentSource environment))).mapError .notUsable := by
  unfold load
  rw [tree_eq_addSource hfile]

theorem load_eq_ok_iff (hfile : tree texts [] = .ok below) (hsections : below.HasSections)
    (hnames : NamesSettings environment) {settings : Settings} :
    load texts environment = .ok settings ↔
      ∀ name : SettingName,
        name.read (effective below environment name) = .ok (name.of settings) := by
  have husable : load texts environment = .ok settings ↔
      ofSetting (below.addSource (environmentSource environment)) = .ok settings := by
    rw [load_eq_ofSetting hfile]
    cases ofSetting (below.addSource (environmentSource environment)) with
    | error failure => exact iff_of_false nofun nofun
    | ok read =>
        show Except.ok read = Except.ok settings ↔ _
        simp only [Except.ok.injEq]
  rw [husable, ofSetting_eq_ok_iff (hnames.hasSections_addSource hsections)]
  simp only [hnames.valueOf_addSource]

/-- Only what counts for the settings matters, also where loading fails. -/
theorem load_congr {texts' : String → Option String} {environment' : List (String × String)}
    {below' : Setting} (hfile : tree texts [] = .ok below) (hsections : below.HasSections)
    (hnames : NamesSettings environment) (hfile' : tree texts' [] = .ok below')
    (hsections' : below'.HasSections) (hnames' : NamesSettings environment')
    (hsame : ∀ name, effective below environment name = effective below' environment' name) :
    load texts environment = load texts' environment' := by
  rw [load_eq_ofSetting hfile, load_eq_ofSetting hfile',
    ofSetting_congr (hnames.hasSections_addSource hsections)
      (hnames'.hasSections_addSource hsections')]
  intro name
  rw [hnames.valueOf_addSource, hnames'.valueOf_addSource, hsame name]

/-- Settings are loaded exactly if everything that counts can be converted, and then each
has what counts for it, or its default; nothing else matters.  What the file says counts
as it stands in its document. -/
theorem load_eq_ok_iff_effective (hfile : tree texts [] = .ok below)
    (hsections : below.HasSections) (hnames : NamesSettings environment) :
    (∀ settings, load texts environment = .ok settings ↔
      ∀ name : SettingName,
        name.read (effective below environment name) = .ok (name.of settings)) ∧
    ((∃ settings, load texts environment = .ok settings) ↔
      ∀ name : SettingName, ∀ setting, effective below environment name = some setting →
        ∃ value, name.convert setting = .ok value) ∧
    (∀ texts' environment' below', tree texts' [] = .ok below' → below'.HasSections →
      NamesSettings environment' →
      (∀ name, effective below environment name = effective below' environment' name) →
      load texts environment = load texts' environment') ∧
    (SettingsFile.find? texts = none → ∀ name, below.valueOf name = none) ∧
    (∀ (file : SettingsFile) members, SettingsFile.find? texts = some file →
      file.format.read? (SettingsFile.unmarked file.text) = some (.object members) →
      (∀ key ∈ members.map Prod.fst, Setting.pathOfKey key = [.key key]) →
      ∀ name, below.valueOf name =
        ((Json.Value.object members).settingAt name).map (Setting.ofDocument file.path)) := by
  refine ⟨fun settings => load_eq_ok_iff hfile hsections hnames, ?_, ?_, ?_, ?_⟩
  · calc (∃ settings, load texts environment = .ok settings)
        ↔ ∃ settings : Settings, ∀ name : SettingName,
            name.read (effective below environment name) = .ok (name.of settings) :=
          exists_congr fun settings => load_eq_ok_iff hfile hsections hnames
      _ ↔ _ := SettingName.exists_settings_iff _
  · intro texts' environment' below' hfile' hsections' hnames' hsame
    exact load_congr hfile hsections hnames hfile' hsections' hnames' hsame
  · intro hmissing name
    unfold tree at hfile
    rw [hmissing] at hfile
    cases hfile
    cases name <;> rfl
  · intro file members hfound hread hplain name
    rw [tree_eq_ofDocument hfound hread hplain] at hfile
    cases hfile
    exact Setting.valueOf_ofDocument _ _ name

/-- A file in which the backend is a number. -/
def numberedBackend : SettingsFile where
  path := "config/dashboards.json"
  format := .json
  text := "\x7b\"store\": \x7b\"backend\": 3, \"key\": \"boards\"\x7d, " ++
    "\"execution\": \x7b\"timeout_secs\": 60\x7d\x7d"

/-- What the file says. -/
def numberedBackendMembers : List (String × Json.Value) :=
  [("store", .object [("backend", .number (.integer 3)), ("key", .string "boards")]),
    ("execution", .object [("timeout_secs", .number (.integer 60))])]

/-- The texts of all files where there is only this one. -/
def numberedBackendAlone (path : String) : Option String :=
  if path = numberedBackend.path then some numberedBackend.text else none

/-- The file alone cannot be used, but with a variable that names a backend it can. -/
theorem load_eq_ok_iff_effective_numberedBackend :
    load numberedBackendAlone
        [("PATH", "/usr/bin"), ("DASHBOARDS__STORE__BACKEND", "memory"),
          ("DASHBOARDS__EXECUTION__TOKEN", "secret")] =
      .ok { store := { backend := .memory, key := "boards" },
            execution := { token := some "secret", timeoutSeconds := 60 } } ∧
    ¬ ∃ settings, load numberedBackendAlone [] = .ok settings := by
  have hfile : tree numberedBackendAlone [] =
      .ok (Setting.ofDocument numberedBackend.path (.object numberedBackendMembers)) :=
    tree_eq_ofDocument (by decide) (by rfl) (by decide)
  have hsections : (Setting.ofDocument numberedBackend.path
      (.object numberedBackendMembers)).HasSections := by
    intro name part hthere
    cases name <;> cases hthere <;> exact ⟨_, _, rfl⟩
  have hnames : NamesSettings [("PATH", "/usr/bin"), ("DASHBOARDS__STORE__BACKEND", "memory"),
      ("DASHBOARDS__EXECUTION__TOKEN", "secret")] := by
    refine ⟨by decide, ?_⟩
    intro entry hmember hheld
    simp only [List.mem_cons, List.not_mem_nil, or_false] at hmember
    rcases hmember with rfl | rfl | rfl
    · exact absurd hheld (by decide)
    · exact ⟨.backend, rfl⟩
    · exact ⟨.token, rfl⟩
  constructor
  · apply ((load_eq_ok_iff_effective hfile hsections hnames).1 _).mpr
    intro name
    cases name <;> rfl
  · have hunset : NamesSettings [] := ⟨List.nodup_nil, fun _ hmember => by cases hmember⟩
    rw [(load_eq_ok_iff_effective hfile hsections hunset).2.1]
    intro hconvertible
    obtain ⟨value, hconverted⟩ := hconvertible .backend _ rfl
    cases hconverted

end Settings

end ResultBoards
