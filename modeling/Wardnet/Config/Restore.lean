import Wardnet.Config.Schema

/-!
# Which keys a backup bundle may change

A restore writes the configuration of the bundle, with the keys that belong to
the machine taken from the configuration that is live.  A key that is left out
stands for its default, so two configurations are compared by what they resolve
to; only when they differ is the text of the bundle rewritten.

The merge looks the keys up by name.  A section that is written as an array has
its fields by position, and there the merge finds nothing.
-/

namespace Wardnet.Config

open Document

/-- Reading and writing TOML texts, and the tables the derived deserialiser of
`ApplicationConfiguration` takes; only that a written table reads back is known
of it.  The integers of a text may have any size. -/
structure Toml (Source : Type) where
  parse : Source → Option Table
  deserialises : Table → Bool
  toStringPretty : Table → Option Source
  parse_toStringPretty : ∀ {table source},
    toStringPretty table = some source → parse source = some table

inductive ConfigRestoreError
  | bundleConfig
  | liveConfig
  | mergedConfig
  | serialise
  deriving DecidableEq

structure RestoredConfig (Source : Type) where
  toml : Source
  overridden : List Text

def deployTimeOnlyKeys : List Text :=
  ["update.allow_edge_channel", "update.manifest_base_url",
    "update.check_interval_secs", "update.http_timeout_secs",
    "update.require_signature", "update.live_binary_path",
    "update.staging_dir", "database.provider", "database.connection_string",
    "logging.path", "secret_store", "pidfile_path", "network.lan_interface",
    "watchdog.enabled", "watchdog.device_path", "test.stub_tunnel_backends",
    "vpn_providers.nordvpn_api_url", "ddns_wardnet.gateway_url", "ddns_wardnet.region_gateway_url",
    "ddns_wardnet.region_health_url"].map String.toList

/-- The segments of a dotted key. -/
def keyPath (key : Text) : List Text := key.splitOn '.'

/-- The value of a key, or its default. -/
def resolve (table : Table) (key : Text) : Option Value :=
  (valueAt table (keyPath key)).or (valueAt defaultConfigTable (keyPath key))

def agrees (live bundle : Table) (key : Text) : Bool :=
  optionEq Scalar.eq (resolve live key) (resolve bundle key)

/-- One round of the loop of `preserve_deploy_time_keys`. -/
def mergeKey (live bundle : Table) (merged : Table × List Text) (key : Text) : Table × List Text :=
  if agrees live bundle key then merged
  else
    (match valueAt live (keyPath key) with
      | some value => setValue value merged.1 (keyPath key)
      | none => removeValue merged.1 (keyPath key), merged.2 ++ [key])

def mergeKeys (live bundle : Table) : Table × List Text :=
  deployTimeOnlyKeys.foldl (mergeKey live bundle) (bundle, [])

section Source

variable {Source : Type} (toml : Toml Source)

def Toml.loads (source : Source) : Bool :=
  match toml.parse source with
  | some table => toml.deserialises table
  | none => false

def checkBundleConfig (bundle : Source) : Except ConfigRestoreError Source :=
  if toml.loads bundle then .ok bundle else .error .bundleConfig

/-- `str::parse` into a `toml::Table`, whose integers are 64 bits wide. -/
def Toml.table (source : Source) : Option Table :=
  (toml.parse source).filter (entriesAll Scalar.fits)

def Toml.tableOr (error : ConfigRestoreError) (source : Source) : Except ConfigRestoreError Table :=
  match toml.table source with
  | some table => .ok table
  | none => .error error

def preserveDeployTimeKeys (live bundle : Source) :
    Except ConfigRestoreError (RestoredConfig Source) := do
  let _ ← checkBundleConfig toml bundle
  let liveTable ← toml.tableOr .liveConfig live
  let bundleTable ← toml.tableOr .bundleConfig bundle
  let (merged, overridden) := mergeKeys liveTable bundleTable
  if overridden = [] then return ⟨bundle, overridden⟩
  match toml.toStringPretty merged with
  | none => .error .serialise
  | some source =>
    if toml.loads source then return ⟨source, overridden⟩
    else .error .mergedConfig

theorem Toml.parse_of_table {toml : Toml Source} {source : Source}
    {table : Table} (htable : toml.table source = some table) : toml.parse source = some table :=
  (Option.filter_eq_some_iff.mp htable).1

end Source

/-! ## What the daemon reads -/

def isArray (table : Table) (key : Text) : Bool :=
  match Table.get table key with
  | some (.array _) => true
  | _ => false

/-- The section of the key is an array. -/
def positional (table : Table) (key : Text) : Bool :=
  match keyPath key with
  | [sectionName, _] => isArray table sectionName
  | _ => false

/-- The value the daemon has for a key once it has loaded the table: in a
section that is an array, the one at the position of the field. -/
def loaded (table : Table) (key : Text) : Option Value :=
  match keyPath key with
  | [sectionName, fieldName] =>
    match Table.get table sectionName with
    | some (.array values) =>
      ((fieldPosition sectionName fieldName).bind (values[·]?)).or
        (valueAt defaultConfigTable (keyPath key))
    | _ => resolve table key
  | _ => resolve table key

variable {key : Text}

theorem loaded_of_not_positional {table : Table}
    (hkey : positional table key = false) : loaded table key = resolve table key := by
  simp only [loaded]
  split
  next sectionName fieldName hpath =>
    split
    next values hvalues =>
      simp [positional, hpath, isArray, hvalues] at hkey
    · rfl
  · rfl

/-! ## The merge -/

variable {live bundle : Table}

theorem keyPath_ne_nil (key : Text) : keyPath key ≠ [] := by simp [keyPath]

theorem valueAt_mergeKey_of_apart (merged : Table × List Text)
    {path : List Text} (hapart : Apart (keyPath key) path) :
    valueAt (mergeKey live bundle merged key).1 path = valueAt merged.1 path := by
  simp only [mergeKey]
  split
  · rfl
  · split
    · rw [valueAt_setValue_of_apart _ _ hapart]
    · rw [valueAt_removeValue_of_apart _ hapart]

theorem valueAt_foldl_of_apart {keys : List Text} {path : List Text}
    (hapart : ∀ key ∈ keys, Apart (keyPath key) path) (merged : Table × List Text) :
    valueAt (keys.foldl (mergeKey live bundle) merged).1 path = valueAt merged.1 path := by
  refine List.foldlRecOn (motive := fun later : Table × List Text => valueAt later.1 path = _)
    keys _ rfl fun later hlater key hkey => ?_
  rw [valueAt_mergeKey_of_apart later (hapart key hkey), hlater]

theorem valueAt_foldl_of_mem {keys : List Text}
    (hkeys : keys.Pairwise fun key other => Apart (keyPath key) (keyPath other))
    {wanted : Text} (hwanted : wanted ∈ keys) (merged : Table × List Text) :
    valueAt (keys.foldl (mergeKey live bundle) merged).1 (keyPath wanted) =
      if agrees live bundle wanted then valueAt merged.1 (keyPath wanted)
      else valueAt live (keyPath wanted) := by
  induction keys generalizing merged with
  | nil => simp at hwanted
  | cons key keys ih =>
    obtain ⟨hkey, hkeys⟩ := List.pairwise_cons.mp hkeys
    rw [List.foldl_cons]
    cases List.mem_cons.mp hwanted with
    | inl heq =>
      subst heq
      have hlater : ∀ other ∈ keys, Apart (keyPath other) (keyPath wanted) :=
        fun other hother => (hkey other hother).symm
      rw [valueAt_foldl_of_apart hlater]
      simp only [mergeKey]
      split
      · rfl
      · split
        next value hvalue =>
          rw [valueAt_setValue value merged.1 (keyPath_ne_nil wanted), hvalue]
        next hnone =>
          rw [valueAt_removeValue, hnone]
    | inr hmem => rw [ih hkeys hmem, valueAt_mergeKey_of_apart merged (hkey wanted hmem)]

theorem overridden_foldl (keys : List Text) (merged : Table × List Text) :
    (keys.foldl (mergeKey live bundle) merged).2 =
      merged.2 ++ keys.filter fun key => !agrees live bundle key := by
  induction keys generalizing merged with
  | nil => simp
  | cons key keys ih =>
    rw [List.foldl_cons, ih]
    by_cases hagrees : agrees live bundle key = true <;> simp [mergeKey, hagrees]

theorem pairwise_deployTimeOnlyKeys :
    deployTimeOnlyKeys.Pairwise fun key other => Apart (keyPath key) (keyPath other) := by
  decide +kernel

/-- The merged table has the live value under every key on which the two
disagree, and the bundle's elsewhere. -/
theorem valueAt_mergeKeys (hkey : key ∈ deployTimeOnlyKeys) :
    valueAt (mergeKeys live bundle).1 (keyPath key) =
      if agrees live bundle key then valueAt bundle (keyPath key)
      else valueAt live (keyPath key) :=
  valueAt_foldl_of_mem pairwise_deployTimeOnlyKeys hkey (bundle, [])

theorem overridden_eq_nil_iff :
    (mergeKeys live bundle).2 = [] ↔ ∀ key ∈ deployTimeOnlyKeys, agrees live bundle key = true := by
  rw [mergeKeys, overridden_foldl]
  simp

end Wardnet.Config
