import ResultBoards.Settings.Conversion

/-!
# The settings of the program

Where it listens, where it keeps the dashboards, and where it finds the execution
service.  Every setting has a default.
-/

namespace ResultBoards

/-- Where the program listens. -/
structure ServerSettings where
  bind : String := "127.0.0.1:8080"
deriving DecidableEq, Repr

/-- What the dashboards are kept in. -/
inductive StoreBackend
  | file
  | memory
deriving DecidableEq, Repr

/-- Where the dashboards are kept. -/
structure StoreSettings where
  backend : StoreBackend := .file
  path : String := "data/local_storage.json"
  key : String := "dashboards"
deriving DecidableEq, Repr

/-- Where the execution service is, the token it asks for, and how many seconds it may
take to answer. -/
structure ExecutionSettings where
  baseUrl : String := "http://localhost:8080"
  token : Option String := none
  timeoutSeconds : UInt64 := 30
deriving DecidableEq, Repr

/-- The settings of the program. -/
structure Settings where
  server : ServerSettings := {}
  store : StoreSettings := {}
  execution : ExecutionSettings := {}
deriving DecidableEq, Repr

/-! ## Sections -/

/-- The names of the backends. -/
def StoreBackend.names : List (String × StoreBackend) :=
  [("file", .file), ("memory", .memory)]

namespace ServerSettings

/-- The fields of the section `server`. -/
def fields : List (SectionField ServerSettings) := [
  .ofConversion "bind" Setting.toText fun settings bind => { settings with bind := bind }]

/-- Reads the section `server`. -/
def ofSetting : Setting → Except SettingFailure ServerSettings :=
  Setting.readSection "ServerSettings" fields {}

end ServerSettings

namespace StoreSettings

/-- The fields of the section `store`. -/
def fields : List (SectionField StoreSettings) := [
  .ofConversion "backend" (Setting.toChoice "StoreBackend" StoreBackend.names)
    fun settings backend => { settings with backend := backend },
  .ofConversion "path" Setting.toText fun settings path => { settings with path := path },
  .ofConversion "key" Setting.toText fun settings key => { settings with key := key }]

/-- Reads the section `store`. -/
def ofSetting : Setting → Except SettingFailure StoreSettings :=
  Setting.readSection "StoreSettings" fields {}

end StoreSettings

namespace ExecutionSettings

/-- The fields of the section `execution`. -/
def fields : List (SectionField ExecutionSettings) := [
  .ofConversion "base_url" Setting.toText fun settings url => { settings with baseUrl := url },
  .ofConversion "token" Setting.toOptionalText fun settings token =>
    { settings with token := token },
  .ofConversion "timeout_secs" Setting.toWord fun settings seconds =>
    { settings with timeoutSeconds := seconds }]

/-- Reads the section `execution`. -/
def ofSetting : Setting → Except SettingFailure ExecutionSettings :=
  Setting.readSection "ExecutionSettings" fields {}

end ExecutionSettings

namespace Settings

/-- The sections. -/
def sections : List (SectionField Settings) := [
  .ofConversion "server" ServerSettings.ofSetting fun settings server =>
    { settings with server := server },
  .ofConversion "store" StoreSettings.ofSetting fun settings store =>
    { settings with store := store },
  .ofConversion "execution" ExecutionSettings.ofSetting fun settings execution =>
    { settings with execution := execution }]

/-- Reads the settings of the program from a tree.  Sections that are missing keep their
defaults, and what the program does not know is ignored. -/
def ofSetting (tree : Setting) : Except SettingFailure Settings :=
  Setting.readEntries tree.entries sections {}

end Settings

end ResultBoards
