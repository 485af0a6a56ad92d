import Mathlib.Algebra.Group.Int.Defs
import Wardnet.Common.Text
import Wardnet.Core.Document

/-!
# The configuration file

What the daemon accepts as its configuration.  A configuration is a TOML table
that has to fit the shape of `ApplicationConfiguration`; every section and
nearly every field of it may be left out and then has a default.

A derived deserialiser reads a struct from a table by the names of its fields,
and from an array by their positions.
-/

namespace Wardnet.Config

/-- The leaves of a TOML document; a float is given by its bits. -/
inductive Scalar
  | string (text : Text)
  | integer (value : ℤ)
  | float (bits : UInt64)
  | boolean (value : Bool)
  | datetime (text : Text)
  deriving DecidableEq

def isNan (bits : UInt64) : Bool :=
  bits &&& 0x7ff0000000000000 = 0x7ff0000000000000 ∧ bits &&& 0x000fffffffffffff ≠ 0

/-- `f64::eq`: not a number equals nothing, and the two zeros are equal. -/
def floatEq (first second : UInt64) : Bool :=
  !isNan first && !isNan second && (first = second ∨ (first ||| second) &&& 0x7fffffffffffffff = 0)

def Scalar.eq : Scalar → Scalar → Bool
  | .float first, .float second => floatEq first second
  | first, second => first = second

theorem or_and_eq_zero_iff {first second mask : UInt64} :
    (first ||| second) &&& mask = 0 ↔ first &&& mask = 0 ∧ second &&& mask = 0 := by
  simp only [← UInt64.toBitVec_inj, UInt64.toBitVec_and, UInt64.toBitVec_or, ← BitVec.toNat_inj,
    BitVec.toNat_and, BitVec.toNat_or, Nat.and_or_distrib_right]
  simp

/-- Equality of floats is not reflexive, but it is symmetric and transitive. -/
theorem Scalar.partial_eq : Document.Partial Scalar.eq := by
  rintro (_ | _ | first | _ | _) (_ | _ | second | _ | _) heq
  case float.float =>
    simp only [Scalar.eq, floatEq, or_and_eq_zero_iff] at heq ⊢
    refine ⟨by grind, ?_⟩
    rintro (_ | _ | third | _ | _) hnext
    case float => grind
    all_goals simp at hnext
  all_goals simp_all [Scalar.eq]

/-- An `i64`. -/
def Scalar.fits : Scalar → Bool
  | .integer value => -2 ^ 63 ≤ value ∧ value < 2 ^ 63
  | _ => true

abbrev Value := Document.Value Text Scalar

abbrev Table := Document.Table Text Scalar

open Document.Table (get insert)

/-! ## Shapes -/

/-- The types of configuration values.  The fields of a struct stand in the
order of their declaration; `defaulted` says that each of them may be left
out. -/
inductive Shape
  | string
  | boolean
  | integer (bound : ℕ)
  | choice (variants : List Text)
  | optional (inner : Shape)
  | listOf (inner : Shape)
  | mapOf (inner : Shape)
  | struct (defaulted : Bool) (fields : List (Text × Shape))
  | tagged (tag variant : Text) (fields : List (Text × Shape))

def Shape.isOptional : Shape → Bool
  | .optional _ => true
  | _ => false

/-- What a unit variant may carry when it is written as a table. -/
def isUnit : Value → Bool
  | .array [] | .table [] => true
  | _ => false

mutual

/-- Whether a value deserialises. -/
def Shape.accepts : Shape → Value → Bool
  | .string, .scalar (.string _) => true
  | .boolean, .scalar (.boolean _) => true
  | .integer bound, .scalar (.integer value) => 0 ≤ value ∧ value < bound
  | .choice variants, .scalar (.string text) => text ∈ variants
  | .choice variants, .table [(variant, value)] => variant ∈ variants ∧ isUnit value
  | .optional inner, value => inner.accepts value
  | .listOf inner, .array values => values.all fun value => inner.accepts value
  | .mapOf inner, .table entries => entries.all fun entry => inner.accepts entry.2
  | .mapOf inner, .scalar (.datetime text) => inner.accepts (.scalar (.string text))
  | .struct defaulted fields, .table entries =>
    (entries.all fun entry => fields.any fun field => field.1 = entry.1) &&
      acceptsFields fields defaulted entries
  | .struct defaulted fields, .array values => acceptsPositions fields defaulted values
  | .tagged tag variant fields, .table entries =>
    (match get entries tag with
      | some (.scalar (.string text)) => text = variant
      | _ => false) && acceptsFields fields false entries
  | .tagged _ variant fields, .array (.scalar (.string text) :: values) =>
    text = variant && values.length = fields.length && acceptsPositions fields false values
  | _, _ => false

/-- `visit_map`. -/
def acceptsFields : List (Text × Shape) → Bool → Table → Bool
  | [], _, _ => true
  | (name, shape) :: fields, defaulted, entries =>
    (match get entries name with
      | some value => shape.accepts value
      | none => defaulted || shape.isOptional) &&
      acceptsFields fields defaulted entries

/-- `visit_seq`, which leaves what follows the last field unread. -/
def acceptsPositions : List (Text × Shape) → Bool → List Value → Bool
  | [], _, _ => true
  | _ :: _, defaulted, [] => defaulted
  | (_, shape) :: fields, defaulted, value :: values =>
    shape.accepts value && acceptsPositions fields defaulted values

end

/-! ## Fields and their defaults -/

/-- A field; it has no default when the serialised defaults leave it out. -/
structure Field where
  name : Text
  shape : Shape
  default : Option Value

namespace Field

def string (name default : String) : Field :=
  ⟨name.toList, .string, some (.scalar (.string default.toList))⟩

def boolean (name : String) (default : Bool) : Field :=
  ⟨name.toList, .boolean, some (.scalar (.boolean default))⟩

def unsigned (width : ℕ) (name : String) (default : ℕ) : Field :=
  ⟨name.toList, .integer (2 ^ width), some (.scalar (.integer default))⟩

def choice (name : String) (variants : List String) (default : String) : Field :=
  ⟨name.toList, .choice (variants.map String.toList), some (.scalar (.string default.toList))⟩

def strings (name : String) (default : List String) : Field :=
  ⟨name.toList, .listOf .string,
    some (.array (default.map fun text => .scalar (.string text.toList)))⟩

def mapOf (name : String) (inner : Shape) : Field := ⟨name.toList, .mapOf inner, some (.table [])⟩

def optional (name : String) (inner : Shape) : Field := ⟨name.toList, .optional inner, none⟩

end Field

/-- The shape of a struct with `#[serde(default)]`. -/
def structOf (fields : List Field) : Shape :=
  .struct true (fields.map fun field => (field.name, field.shape))

def defaultTable (fields : List Field) : Table :=
  fields.foldr (fun field table =>
    match field.default with
    | some value => insert field.name value table
    | none => table) []

def Field.struct (name : String) (fields : List Field) : Field :=
  ⟨name.toList, structOf fields, some (.table (defaultTable fields))⟩

/-! ## The sections -/

open Wardnet.Config.Field

def serverConfig : List Field :=
  [string "host" "0.0.0.0", unsigned 16 "port" 7411,
    unsigned 16 "https_port" 443, unsigned 16 "http_redirect_port" 80]

def databaseConfig : List Field :=
  [choice "provider" ["sqlite"] "sqlite", string "connection_string" "/var/lib/wardnet/wardnet.db"]

def loggingConfig : List Field :=
  [choice "format" ["console", "json"] "console", string "level" "info", mapOf "filters" .string,
    string "path" "/var/log/wardnet/wardnetd.log",
    choice "rotation" ["hourly", "daily", "never"] "daily", unsigned 64 "max_log_files" 7,
    unsigned 64 "broadcast_capacity" 256,
    strings "ui_suppressed_targets" ["hickory_resolver::recursor"],
    strings "journal_suppressed_targets" ["hickory_resolver", "wardnetd::dns::pipeline"],
    strings "journal_info_targets" ["wardnetd_services::db_maintenance_runner",
        "wardnetd_services::dns::query_log_runner"],
    optional "max_recent_errors" (.integer (2 ^ 64))]

def networkConfig : List Field := [string "lan_interface" "eth0", string "default_policy" "direct"]

def authConfig : List Field :=
  [unsigned 64 "session_expiry_hours" 24, unsigned 64 "remember_me_expiry_hours" 720]

/-- Both fields are required. -/
def adminConfig : Shape :=
  .struct false [("username".toList, .string), ("password".toList, .string)]

def tunnelConfig : List Field :=
  [unsigned 64 "idle_timeout_secs" 600, unsigned 64 "health_check_interval_secs" 10,
    unsigned 64 "stats_interval_secs" 5, unsigned 64 "latency_probe_interval_secs" 60,
    string "latency_probe_target" "1.1.1.1",
    string "test_probe_url" "https://1.1.1.1/cdn-cgi/trace", string "speed_test_url"
      "https://speed.cloudflare.com/__down?bytes=50000000",
    unsigned 32 "speed_test_latency_samples" 5, unsigned 32 "speed_test_parallel_streams" 4,
    unsigned 64 "speed_test_warmup_ms" 1000, unsigned 64 "speed_test_measure_ms" 4000]

/-- The only variant; fields it does not know are ignored. -/
def secretStoreConfig : Shape :=
  .tagged "provider".toList "file_system".toList [("path".toList, .string)]

def detectionConfig : List Field :=
  [boolean "enabled" true, unsigned 64 "departure_timeout_secs" 300,
    unsigned 64 "batch_flush_interval_secs" 30, unsigned 64 "departure_scan_interval_secs" 60,
    unsigned 64 "arp_scan_interval_secs" 60]

def enabledMetrics : List Field :=
  [boolean "system_cpu_utilization" true, boolean "system_memory_usage" true,
    boolean "system_temperature" true, boolean "system_network_io" true,
    boolean "wardnet_device_count" true, boolean "wardnet_tunnel_count" true,
    boolean "wardnet_tunnel_active_count" true, boolean "wardnet_uptime_seconds" true,
    boolean "wardnet_db_size_bytes" true, boolean "wardnet_disk_free_bytes" true]

def otelConfig : List Field :=
  [boolean "enabled" false, string "endpoint" "http://localhost:4317",
    string "service_name" "wardnetd", unsigned 64 "interval_secs" 10,
    struct "traces" [boolean "enabled" true], struct "logs" [boolean "enabled" true],
    struct "metrics" [boolean "enabled" true, struct "enabled_metrics" enabledMetrics]]

def vpnProvidersConfig : List Field :=
  [mapOf "enabled" .boolean, optional "nordvpn_api_url" .string]

def anomaliesConfig : List Field :=
  [unsigned 64 "reevaluate_interval_secs" 60, unsigned 64 "detect_timeout_secs" 30,
    mapOf "enabled" .boolean]

def ddnsWardnetConfig : List Field :=
  [optional "gateway_url" .string, optional "region_gateway_url" .string,
    optional "region_health_url" .string]

def pyroscopeConfig : List Field :=
  [boolean "enabled" false, string "endpoint" "http://localhost:4040"]

def updateConfig : List Field :=
  [string "manifest_base_url" "https://releases.wardnet.network",
    unsigned 64 "check_interval_secs" (6 * 60 * 60),
    string "live_binary_path" "/usr/local/bin/wardnetd",
    string "staging_dir" "/var/lib/wardnet/updates", boolean "require_signature" true,
    unsigned 64 "http_timeout_secs" 60, boolean "allow_edge_channel" false]

def mdnsConfig : List Field := [boolean "enabled" true, optional "hostname" .string]

def healthConfig : List Field :=
  [unsigned 64 "refresh_interval_secs" 5, unsigned 32 "failure_threshold" 3,
    unsigned 64 "check_timeout_secs" 2]

def watchdogConfig : List Field :=
  [boolean "enabled" true, string "device_path" "/dev/watchdog",
    unsigned 64 "hardware_timeout_secs" 15, unsigned 64 "pet_interval_secs" 5,
    boolean "soft_enabled" true]

def testConfig : List Field := [boolean "stub_tunnel_backends" false]

def applicationConfiguration : List Field :=
  [struct "server" serverConfig, struct "database" databaseConfig, struct "logging" loggingConfig,
    struct "network" networkConfig, struct "auth" authConfig, optional "admin" adminConfig,
    struct "tunnel" tunnelConfig, struct "detection" detectionConfig, struct "otel" otelConfig,
    struct "vpn_providers" vpnProvidersConfig, struct "anomalies" anomaliesConfig,
    struct "ddns_wardnet" ddnsWardnetConfig, struct "pyroscope" pyroscopeConfig,
    struct "update" updateConfig, struct "mdns" mdnsConfig, struct "health" healthConfig,
    struct "watchdog" watchdogConfig, struct "test" testConfig,
    optional "secret_store" secretStoreConfig, string "pidfile_path" "/run/wardnetd/wardnetd.pid"]

/-- Whether `ApplicationConfiguration` deserialises from the table. -/
def loads (table : Table) : Bool := (structOf applicationConfiguration).accepts (.table table)

def defaultConfigTable : Table := defaultTable applicationConfiguration

/-- The position of a field in the struct of its section. -/
def fieldPosition (sectionName fieldName : Text) : Option ℕ := do
  let found ← applicationConfiguration.find? fun found => found.name = sectionName
  match found.shape with
  | .struct _ fields => fields.findIdx? fun candidate => candidate.1 = fieldName
  | _ => none

end Wardnet.Config
