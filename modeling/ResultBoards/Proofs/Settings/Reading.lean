import Mathlib.Tactic.Choose
import ResultBoards.Settings.Basic

/-!
# Reading settings one by one

The program has seven settings in three sections.  Each is read alone: from the value at
its place in the tree if there is one, and else it keeps its default.  So a tree whose
sections are tables is read exactly if the values at the seven places can be converted,
and nothing else in it counts.

The sections are read by `readEntries`, which goes through the fields with the section
gathered so far.  `readEntries_cons` takes one field off it: the value of the field is
put in the place of its default, and the other fields are read as before.  The sections
themselves are read like fields, and `readEntries_three` serves them too.
-/

namespace ResultBoards

namespace Setting

/-! ## Fields -/

section Fields

variable {σ β : Type}

/-- What a conversion makes of a value, or the default if there is no value. -/
def orDefault (convert : Setting → Except SettingFailure β) (default : β) :
    Option Setting → Except SettingFailure β
  | none => .ok default
  | some setting => convert setting

theorem readEntries_cons_none {entries : List (String × Setting)} (field : SectionField σ)
    (hmissing : entries.lookup field.name = none) (fields : List (SectionField σ)) (gathered : σ) :
    readEntries entries (field :: fields) gathered = readEntries entries fields gathered := by
  simp only [readEntries, hmissing]

theorem readEntries_cons_some {entries : List (String × Setting)} {setting : Setting}
    (field : SectionField σ) (hthere : entries.lookup field.name = some setting)
    (fields : List (SectionField σ)) (gathered : σ) :
    readEntries entries (field :: fields) gathered =
      (atPart (.key field.name) (field.read gathered setting)).bind
        (readEntries entries fields) := by
  simp only [readEntries, hthere]
  cases atPart (.key field.name) (field.read gathered setting) <;> rfl

/-- A field that was not put yet is put first, as its default if it is missing. -/
theorem readEntries_cons (entries : List (String × Setting)) (name : String)
    (convert : Setting → Except SettingFailure β) (put : σ → β → σ)
    (fields : List (SectionField σ)) {gathered : σ} {default : β}
    (hunread : put gathered default = gathered) :
    readEntries entries (.ofConversion name convert put :: fields) gathered =
      (atPart (.key name) (orDefault convert default (entries.lookup name))).bind
        fun value => readEntries entries fields (put gathered value) := by
  cases hthere : entries.lookup name with
  | none =>
      calc readEntries entries (.ofConversion name convert put :: fields) gathered
          = readEntries entries fields gathered := readEntries_cons_none _ hthere fields gathered
        _ = readEntries entries fields (put gathered default) := by rw [hunread]
  | some setting =>
      calc readEntries entries (.ofConversion name convert put :: fields) gathered
          = (atPart (.key name) ((convert setting).map (put gathered))).bind
              (readEntries entries fields) := readEntries_cons_some _ hthere fields gathered
        _ = (atPart (.key name) (convert setting)).bind
              fun value => readEntries entries fields (put gathered value) := by
            cases convert setting <;> rfl

/-- What follows the reading of a part succeeds with the value that was read. -/
theorem atPart_bind_eq_ok_iff {step : Json.PathStep} {outcome : Except SettingFailure β}
    {next : β → Except SettingFailure σ} {result : σ} :
    (atPart step outcome).bind next = .ok result ↔
      ∃ value, outcome = .ok value ∧ next value = .ok result := by
  cases outcome <;> simp [atPart, Except.bind]

/-- Three fields that are put in different places are read one after the other. -/
theorem readEntries_three {β₁ β₂ β₃ : Type} (entries : List (String × Setting))
    (make : β₁ → β₂ → β₃ → σ) {put₁ : σ → β₁ → σ} {put₂ : σ → β₂ → σ} {put₃ : σ → β₃ → σ}
    (hput₁ : ∀ first second third value,
      put₁ (make first second third) value = make value second third)
    (hput₂ : ∀ first second third value,
      put₂ (make first second third) value = make first value third)
    (hput₃ : ∀ first second third value,
      put₃ (make first second third) value = make first second value)
    {name₁ name₂ name₃ : String} {convert₁ : Setting → Except SettingFailure β₁}
    {convert₂ : Setting → Except SettingFailure β₂}
    {convert₃ : Setting → Except SettingFailure β₃}
    {default₁ : β₁} {default₂ : β₂} {default₃ : β₃} :
    readEntries entries [.ofConversion name₁ convert₁ put₁, .ofConversion name₂ convert₂ put₂,
        .ofConversion name₃ convert₃ put₃] (make default₁ default₂ default₃) =
      (atPart (.key name₁) (orDefault convert₁ default₁ (entries.lookup name₁))).bind fun first =>
      (atPart (.key name₂) (orDefault convert₂ default₂ (entries.lookup name₂))).bind fun second =>
      (atPart (.key name₃) (orDefault convert₃ default₃ (entries.lookup name₃))).bind fun third =>
      .ok (make first second third) := by
  rw [readEntries_cons entries name₁ convert₁ put₁ _ (hput₁ _ _ _ _)]
  congr 1
  funext first
  rw [hput₁, readEntries_cons entries name₂ convert₂ put₂ _ (hput₂ _ _ _ _)]
  congr 1
  funext second
  rw [hput₂, readEntries_cons entries name₃ convert₃ put₃ _ (hput₃ _ _ _ _)]
  congr 1
  funext third
  rw [hput₃, readEntries]

/-- A section without entries keeps its defaults. -/
theorem readEntries_nil (fields : List (SectionField σ)) (default : σ) :
    readEntries [] fields default = .ok default := by
  induction fields with
  | nil => rfl
  | cons field fields ih => exact ih

/-- What is read depends only on the values of the fields. -/
theorem readEntries_congr {entries entries' : List (String × Setting)}
    {fields : List (SectionField σ)} {gathered : σ}
    (hsame : ∀ field ∈ fields, entries.lookup field.name = entries'.lookup field.name) :
    readEntries entries fields gathered = readEntries entries' fields gathered := by
  induction fields generalizing gathered with
  | nil => rfl
  | cons field fields ih =>
      obtain ⟨hfirst, hsame⟩ := List.forall_mem_cons.mp hsame
      cases hthere : entries'.lookup field.name with
      | none =>
          rw [readEntries_cons_none field (hfirst.trans hthere), readEntries_cons_none field hthere]
          exact ih hsame
      | some setting =>
          rw [readEntries_cons_some field (hfirst.trans hthere), readEntries_cons_some field hthere]
          congr 1
          funext gathered
          exact ih hsame

end Fields

/-! ## Sections -/

/-- A setting that consists of named entries. -/
def IsTable (setting : Setting) : Prop :=
  ∃ origin entries, setting = .table origin entries

/-- The entries of a section of a tree.  A section that is not there has none. -/
def sectionEntries (tree : Setting) (name : String) : List (String × Setting) :=
  ((tree.entries.lookup name).getD nothing).entries

/-- A section, if it is there, is a table. -/
def HasTableAt (tree : Setting) (name : String) : Prop :=
  ∀ part, tree.entries.lookup name = some part → part.IsTable

/-- A section that is missing or a table is read from its entries. -/
theorem orDefault_readSection {σ : Type} {tree : Setting} (name : String)
    (htable : tree.HasTableAt name) (type : String) (fields : List (SectionField σ))
    (default : σ) :
    orDefault (readSection type fields default) default (tree.entries.lookup name) =
      readEntries (tree.sectionEntries name) fields default := by
  unfold sectionEntries
  cases hthere : tree.entries.lookup name with
  | none => exact (readEntries_nil fields default).symm
  | some part =>
      obtain ⟨origin, entries, rfl⟩ := htable part hthere
      rfl

end Setting

/-! ## Names of settings -/

/-- The settings that can be given. -/
inductive SettingName
  | bind
  | backend
  | path
  | key
  | baseUrl
  | token
  | timeout
deriving DecidableEq, Repr

namespace SettingName

/-- The section that a setting belongs to. -/
def sectionName : SettingName → String
  | .bind => "server"
  | .backend | .path | .key => "store"
  | .baseUrl | .token | .timeout => "execution"

/-- The name of a setting in its section. -/
def fieldName : SettingName → String
  | .bind => "bind"
  | .backend => "backend"
  | .path => "path"
  | .key => "key"
  | .baseUrl => "base_url"
  | .token => "token"
  | .timeout => "timeout_secs"

/-- What a setting is given as. -/
def Value : SettingName → Type
  | .backend => StoreBackend
  | .token => Option String
  | .timeout => UInt64
  | .bind | .path | .key | .baseUrl => String

/-- The value of a setting among the settings of the program. -/
def of : (name : SettingName) → Settings → name.Value
  | .bind, settings => settings.server.bind
  | .backend, settings => settings.store.backend
  | .path, settings => settings.store.path
  | .key, settings => settings.store.key
  | .baseUrl, settings => settings.execution.baseUrl
  | .token, settings => settings.execution.token
  | .timeout, settings => settings.execution.timeoutSeconds

/-- How what a source says becomes the value of a setting. -/
def convert : (name : SettingName) → Setting → Except SettingFailure name.Value
  | .backend => Setting.toChoice "StoreBackend" StoreBackend.names
  | .token => Setting.toOptionalText
  | .timeout => Setting.toWord
  | .bind | .path | .key | .baseUrl => Setting.toText

/-- The value of a setting, of which sources say something or nothing. -/
def read (name : SettingName) : Option Setting → Except SettingFailure name.Value :=
  Setting.orDefault name.convert (name.of {})

/-- The settings that have given values. -/
def settingsOf (value : (name : SettingName) → name.Value) : Settings where
  server := { bind := value .bind }
  store := { backend := value .backend, path := value .path, key := value .key }
  execution :=
    { baseUrl := value .baseUrl, token := value .token, timeoutSeconds := value .timeout }

theorem of_settingsOf (name : SettingName) (value : (name : SettingName) → name.Value) :
    name.of (settingsOf value) = value name := by
  cases name <;> rfl

/-- There are settings with the values that are said, and else the defaults, exactly if
every value that is said can be converted. -/
theorem exists_settings_iff (said : SettingName → Option Setting) :
    (∃ settings : Settings, ∀ name : SettingName, name.read (said name) = .ok (name.of settings)) ↔
      ∀ name : SettingName, ∀ setting, said name = some setting →
        ∃ value, name.convert setting = .ok value := by
  constructor
  · rintro ⟨settings, hgiven⟩ name setting hsaid
    have hgiven := hgiven name
    rw [hsaid] at hgiven
    exact ⟨name.of settings, hgiven⟩
  · intro hconvertible
    have hreadable : ∀ name : SettingName, ∃ value, name.read (said name) = .ok value := by
      intro name
      cases hsaid : said name with
      | none => exact ⟨name.of {}, rfl⟩
      | some setting => exact hconvertible name setting hsaid
    choose value hgiven using hreadable
    refine ⟨settingsOf value, fun name => ?_⟩
    rw [of_settingsOf, hgiven name]

end SettingName

namespace Setting

/-- What a tree says about a setting. -/
def valueOf (tree : Setting) (name : SettingName) : Option Setting :=
  (tree.sectionEntries name.sectionName).lookup name.fieldName

/-- The sections of the program, as far as they are there, are tables. -/
def HasSections (tree : Setting) : Prop :=
  ∀ name : SettingName, tree.HasTableAt name.sectionName

end Setting

/-! ## The settings of a section -/

section Sections

open Setting (readEntries readEntries_cons readEntries_three atPart_bind_eq_ok_iff)

variable {entries : List (String × Setting)}

theorem ServerSettings.readEntries_eq_ok_iff {server : ServerSettings} :
    readEntries entries fields {} = .ok server ↔
      SettingName.bind.read (entries.lookup "bind") = .ok server.bind := by
  unfold fields
  rw [readEntries_cons entries "bind" _ _ _ rfl, atPart_bind_eq_ok_iff]
  constructor
  · rintro ⟨bind, hbind, hgathered⟩
    cases hgathered
    exact hbind
  · intro hbind
    exact ⟨_, hbind, rfl⟩

theorem StoreSettings.readEntries_eq_ok_iff {store : StoreSettings} :
    readEntries entries fields {} = .ok store ↔
      SettingName.backend.read (entries.lookup "backend") = .ok store.backend ∧
      SettingName.path.read (entries.lookup "path") = .ok store.path ∧
      SettingName.key.read (entries.lookup "key") = .ok store.key := by
  have hread : readEntries entries fields {} = _ := readEntries_three entries StoreSettings.mk
    (by intros; rfl) (by intros; rfl) (by intros; rfl)
  rw [hread]
  simp only [atPart_bind_eq_ok_iff]
  constructor
  · rintro ⟨backend, hbackend, path, hpath, key, hkey, hgathered⟩
    cases hgathered
    exact ⟨hbackend, hpath, hkey⟩
  · rintro ⟨hbackend, hpath, hkey⟩
    exact ⟨_, hbackend, _, hpath, _, hkey, rfl⟩

theorem ExecutionSettings.readEntries_eq_ok_iff {execution : ExecutionSettings} :
    readEntries entries fields {} = .ok execution ↔
      SettingName.baseUrl.read (entries.lookup "base_url") = .ok execution.baseUrl ∧
      SettingName.token.read (entries.lookup "token") = .ok execution.token ∧
      SettingName.timeout.read (entries.lookup "timeout_secs") =
        .ok execution.timeoutSeconds := by
  have hread : readEntries entries fields {} = _ :=
    readEntries_three entries ExecutionSettings.mk (by intros; rfl) (by intros; rfl)
      (by intros; rfl)
  rw [hread]
  simp only [atPart_bind_eq_ok_iff]
  constructor
  · rintro ⟨baseUrl, hbaseUrl, token, htoken, seconds, hseconds, hgathered⟩
    cases hgathered
    exact ⟨hbaseUrl, htoken, hseconds⟩
  · rintro ⟨hbaseUrl, htoken, hseconds⟩
    exact ⟨_, hbaseUrl, _, htoken, _, hseconds, rfl⟩

end Sections

/-! ## All settings -/

namespace Settings

variable {tree tree' : Setting}

/-- The sections of a tree are read one after the other from their entries. -/
theorem ofSetting_eq_bind (hsections : tree.HasSections) :
    ofSetting tree =
      (Setting.atPart (.key "server")
        (Setting.readEntries (tree.sectionEntries "server") ServerSettings.fields {})).bind
      fun server =>
      (Setting.atPart (.key "store")
        (Setting.readEntries (tree.sectionEntries "store") StoreSettings.fields {})).bind
      fun store =>
      (Setting.atPart (.key "execution")
        (Setting.readEntries (tree.sectionEntries "execution") ExecutionSettings.fields {})).bind
      fun execution => .ok { server := server, store := store, execution := execution } := by
  rw [← Setting.orDefault_readSection "server" (hsections .bind) "ServerSettings",
    ← Setting.orDefault_readSection "store" (hsections .key) "StoreSettings",
    ← Setting.orDefault_readSection "execution" (hsections .token) "ExecutionSettings"]
  exact Setting.readEntries_three tree.entries Settings.mk (by intros; rfl) (by intros; rfl)
    (by intros; rfl)

/-- The settings of a tree are the values it says, each for itself. -/
theorem ofSetting_eq_ok_iff (hsections : tree.HasSections) {settings : Settings} :
    ofSetting tree = .ok settings ↔
      ∀ name : SettingName, name.read (tree.valueOf name) = .ok (name.of settings) := by
  rw [ofSetting_eq_bind hsections]
  simp only [Setting.atPart_bind_eq_ok_iff, ServerSettings.readEntries_eq_ok_iff,
    StoreSettings.readEntries_eq_ok_iff, ExecutionSettings.readEntries_eq_ok_iff]
  constructor
  · rintro ⟨server, hbind, store, ⟨hbackend, hpath, hkey⟩, execution, ⟨hbaseUrl, htoken, htimeout⟩,
      hgathered⟩ name
    cases hgathered
    cases name <;> assumption
  · intro heach
    exact ⟨_, heach .bind, _, ⟨heach .backend, heach .path, heach .key⟩,
      _, ⟨heach .baseUrl, heach .token, heach .timeout⟩, rfl⟩

/-- Trees that say the same about every setting are read alike. -/
theorem ofSetting_congr (hsections : tree.HasSections) (hsections' : tree'.HasSections)
    (hsame : ∀ name, tree.valueOf name = tree'.valueOf name) :
    ofSetting tree = ofSetting tree' := by
  have hserver : Setting.readEntries (tree.sectionEntries "server") ServerSettings.fields {} =
      Setting.readEntries (tree'.sectionEntries "server") ServerSettings.fields {} := by
    apply Setting.readEntries_congr
    intro field hmember
    obtain rfl := List.mem_singleton.mp hmember
    exact hsame .bind
  have hstore : Setting.readEntries (tree.sectionEntries "store") StoreSettings.fields {} =
      Setting.readEntries (tree'.sectionEntries "store") StoreSettings.fields {} := by
    apply Setting.readEntries_congr
    intro field hmember
    simp only [StoreSettings.fields, List.mem_cons, List.not_mem_nil, or_false] at hmember
    rcases hmember with rfl | rfl | rfl
    · exact hsame .backend
    · exact hsame .path
    · exact hsame .key
  have hexecution :
      Setting.readEntries (tree.sectionEntries "execution") ExecutionSettings.fields {} =
        Setting.readEntries (tree'.sectionEntries "execution") ExecutionSettings.fields {} := by
    apply Setting.readEntries_congr
    intro field hmember
    simp only [ExecutionSettings.fields, List.mem_cons, List.not_mem_nil, or_false] at hmember
    rcases hmember with rfl | rfl | rfl
    · exact hsame .baseUrl
    · exact hsame .token
    · exact hsame .timeout
  rw [ofSetting_eq_bind hsections, ofSetting_eq_bind hsections', hserver, hstore, hexecution]

end Settings

end ResultBoards
