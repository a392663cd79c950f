import LayoutAdblock.Core.RulesOverlay

namespace LayoutAdblock.Config

open Data

/-! # The settings file

`AppSettings` with the reader and the writer that serde derives, and the typed
overlay that both the settings and the layout rules are loaded with.
-/

/-- The settings file with its defaults. Only the two switches and the start with Windows
can be changed from the tray; the rest are timings for whoever edits the file. -/
structure AppSettings where
  enabled : Bool := true
  runOnStartup : Bool := false
  startMinimized : Bool := true
  pollIntervalMs : UInt32 := 50
  idlePollIntervalMs : UInt32 := 200
  idleBackoffMaxMs : UInt32 := 1000
  pidScanIntervalMs : UInt32 := 200
  lowLatencyMode : Bool := false
  cacheCleanupIntervalMs : UInt32 := 1000
  burstScanIterations : UInt32 := 3
  burstScanIntervalMs : UInt32 := 20
  aggressiveMode : Bool := true
  logLevel : String := "INFO"
deriving DecidableEq, Repr

namespace AppSettings

def boolKeys : List String :=
  ["enabled", "run_on_startup", "start_minimized", "low_latency_mode", "aggressive_mode"]

/-- The fields that hold times in milliseconds or a number of scans, which are `u32` in the
program. -/
def numberKeys : List String :=
  ["poll_interval_ms", "idle_poll_interval_ms", "idle_backoff_max_ms", "pid_scan_interval_ms",
   "cache_cleanup_interval_ms", "burst_scan_iterations", "burst_scan_interval_ms"]

/-- A number of the file, where it is an integer in the range of the field. -/
def readNumber (value : Json) : Option UInt32 :=
  (Json.readInt Json.u32 value).map fun number => UInt32.ofNat number.toNat

/-- Whether a value deserializes at the type of the field at a key. Besides the switches and
the numbers there is one field, the level of the log, which is a text. -/
def accepts (key : String) (value : Json) : Bool :=
  if key ∈ boolKeys then (Json.readBool value).isSome
  else if key ∈ numberKeys then (readNumber value).isSome
  else (Json.readString value).isSome

/-- The settings whose fields are those that deserialize, and the `missing` ones otherwise. -/
def withFields (missing : AppSettings) (lookup : String → Option Json) : AppSettings :=
  let flag := fun key own => ((lookup key).bind Json.readBool).getD own
  let number := fun key own => ((lookup key).bind readNumber).getD own
  { enabled := flag "enabled" missing.enabled
    runOnStartup := flag "run_on_startup" missing.runOnStartup
    startMinimized := flag "start_minimized" missing.startMinimized
    pollIntervalMs := number "poll_interval_ms" missing.pollIntervalMs
    idlePollIntervalMs := number "idle_poll_interval_ms" missing.idlePollIntervalMs
    idleBackoffMaxMs := number "idle_backoff_max_ms" missing.idleBackoffMaxMs
    pidScanIntervalMs := number "pid_scan_interval_ms" missing.pidScanIntervalMs
    lowLatencyMode := flag "low_latency_mode" missing.lowLatencyMode
    cacheCleanupIntervalMs := number "cache_cleanup_interval_ms" missing.cacheCleanupIntervalMs
    burstScanIterations := number "burst_scan_iterations" missing.burstScanIterations
    burstScanIntervalMs := number "burst_scan_interval_ms" missing.burstScanIntervalMs
    aggressiveMode := flag "aggressive_mode" missing.aggressiveMode
    logLevel := ((lookup "log_level").bind Json.readString).getD missing.logLevel }

def number (value : UInt32) : Json := .number value.toNat

/-- The entries of the written object, in the order of their keys. -/
def fields (settings : AppSettings) : List (String × Json) :=
  [("aggressive_mode", .bool settings.aggressiveMode),
   ("burst_scan_interval_ms", number settings.burstScanIntervalMs),
   ("burst_scan_iterations", number settings.burstScanIterations),
   ("cache_cleanup_interval_ms", number settings.cacheCleanupIntervalMs),
   ("enabled", .bool settings.enabled),
   ("idle_backoff_max_ms", number settings.idleBackoffMaxMs),
   ("idle_poll_interval_ms", number settings.idlePollIntervalMs),
   ("log_level", .string settings.logLevel),
   ("low_latency_mode", .bool settings.lowLatencyMode),
   ("pid_scan_interval_ms", number settings.pidScanIntervalMs),
   ("poll_interval_ms", number settings.pollIntervalMs),
   ("run_on_startup", .bool settings.runOnStartup),
   ("start_minimized", .bool settings.startMinimized)]

theorem readNumber_number (value : UInt32) : readNumber (number value) = some value := by
  have holds : Json.u32.Holds value.toNat := by
    have below := value.toNat_lt
    simp only [Json.IntType.Holds, Json.u32]
    omega
  simp [readNumber, number, holds]

/-- What serde derives for the settings: the keys, their order, and what each of them
accepts. -/
def type : RecordType AppSettings where
  keys := boolKeys ++ numberKeys ++ ["log_level"]
  accepts := accepts
  build := withFields {}
  fields := fields
  build_congr := by
    intro first second same
    have each : ∀ key ∈ boolKeys ++ numberKeys ++ ["log_level"], first key = second key := same
    simp [boolKeys, numberKeys] at each
    simp [withFields, each]
  build_fields := by
    intro settings
    simp [withFields, fields, Json.lookup_entry, readNumber_number]
  fields_accepted := by
    intro settings
    simp [boolKeys, numberKeys, fields, Json.lookup_entry, accepts, readNumber_number]
  fields_full := by
    intro settings
    simp [boolKeys, numberKeys, fields, Json.lookup_entry]

end AppSettings

/-- `merge_typed_settings` -/
def mergeTypedSettings (base : AppSettings) (overrides : Json) (label : String) :
    AppSettings × List String :=
  AppSettings.type.overlay (Core.fieldWarning label) base overrides

theorem mergeTypedSettings_fields (base settings : AppSettings) (label : String) :
    mergeTypedSettings base (.object settings.fields) label = (settings, []) := by
  refine RecordType.overlay_fields _ base settings ?_ ?_
  · simp [AppSettings.type, AppSettings.fields]
  · simp [AppSettings.type, AppSettings.fields, AppSettings.boolKeys, AppSettings.numberKeys]

end LayoutAdblock.Config
