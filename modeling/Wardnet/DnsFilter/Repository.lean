import Mathlib.Data.List.Sort
import Wardnet.Core.Table
import Wardnet.DnsFilter.Runtime

/-!
# The filter tables

The tables behind the filter service as lists of rows in insertion order, the
queries and statements the repository runs on them, and the constraints of
the schema.  A statement that violates a constraint fails and leaves the
tables as they are.  A blocklist row holds the domains of its active
generation.
-/

namespace Wardnet.Filter

open List Table

structure DnsFilterProfile where
  id : Uuid
  name : Text
  description : Option Text
  builtin : Bool
  deriving DecidableEq

structure Blocklist where
  id : Uuid
  profileId : Uuid
  name : Text
  url : Text
  enabled : Bool
  cronSchedule : Text
  domains : List Text
  deriving DecidableEq

structure AllowlistEntry where
  id : Uuid
  profileId : Uuid
  domain : Text
  reason : Option Text
  deriving DecidableEq

structure CustomFilterRule where
  id : Uuid
  profileId : Uuid
  ruleText : Text
  enabled : Bool
  comment : Option Text
  deriving DecidableEq

structure Device where
  id : Uuid
  lastIp : Text
  deriving DecidableEq

structure DeviceDnsFilterSettings where
  deviceId : Uuid
  enabled : Bool
  profileIds : List Uuid
  deriving DecidableEq

/-- The rows of the filter tables; `deviceProfiles` holds pairs of a device
and a profile. -/
structure Tables where
  profiles : List DnsFilterProfile
  blocklists : List Blocklist
  allowlist : List AllowlistEntry
  customRules : List CustomFilterRule
  devices : List Device
  deviceSettings : HashMap Uuid Bool
  deviceProfiles : List (Uuid × Uuid)
  config : DnsFilterConfig

namespace Tables

/-! ## Queries -/

/-- `ORDER BY builtin DESC, name ASC`. -/
def listedBefore (left right : DnsFilterProfile) : Prop :=
  if left.builtin = right.builtin then left.name ≤ right.name
  else left.builtin = true

instance : DecidableRel listedBefore := fun left right =>
  inferInstanceAs (Decidable (if left.builtin = right.builtin then
    left.name ≤ right.name else left.builtin = true))

def listProfiles (tables : Tables) : List DnsFilterProfile :=
  tables.profiles.insertionSort listedBefore

def getProfile (tables : Tables) (id : Uuid) : Option DnsFilterProfile :=
  tables.profiles.find? fun profile => profile.id = id

def listBlocklists (tables : Tables) (profileId : Uuid) : List Blocklist :=
  tables.blocklists.filter fun blocklist => blocklist.profileId = profileId

def getBlocklist (tables : Tables) (id : Uuid) : Option Blocklist :=
  tables.blocklists.find? fun blocklist => blocklist.id = id

def getCustomRule (tables : Tables) (id : Uuid) : Option CustomFilterRule :=
  tables.customRules.find? fun rule => rule.id = id

/-- The allowed domains and the enabled rules of a profile. -/
def loadFilterInputsForProfile (tables : Tables) (profileId : Uuid) : List Text × List Text :=
  ((tables.allowlist.filter fun entry => entry.profileId = profileId).map AllowlistEntry.domain,
    (tables.customRules.filter fun rule =>
      rule.profileId = profileId ∧ rule.enabled).map CustomFilterRule.ruleText)

def findDevice (tables : Tables) (id : Uuid) : Option Device :=
  tables.devices.find? fun device => device.id = id

def profileIdsOf (tables : Tables) (deviceId : Uuid) : List Uuid :=
  (tables.deviceProfiles.filter fun row => row.1 = deviceId).map Prod.snd

/-- A device has settings once it has a settings row or a profile; without a
settings row it is enabled. -/
def findDeviceSettings (tables : Tables) (deviceId : Uuid) : Option DeviceDnsFilterSettings :=
  let profileIds := tables.profileIdsOf deviceId
  let enabled := tables.deviceSettings.get deviceId
  if enabled.isNone ∧ profileIds = [] then none
  else some ⟨deviceId, enabled.getD true, profileIds⟩

/-- `list_device_settings_with_ips(false)`. -/
def listDeviceSettingsWithIps (tables : Tables) : List (DeviceDnsFilterSettings × Text) :=
  tables.devices.filterMap fun device =>
    (tables.findDeviceSettings device.id).map fun settings => (settings, device.lastIp)

/-! ## Statements -/

/-- Profiles have unique identifiers and names. -/
def createProfile (tables : Tables) (id : Uuid) (name : Text)
    (description : Option Text) : Option Tables :=
  if tables.profiles.any fun profile => profile.id = id ∨ profile.name = name then none
  else some { tables with profiles := tables.profiles ++ [⟨id, name, description, false⟩] }

def updateProfileFields (tables : Tables) (id : Uuid) (name : Option Text)
    (description : Option (Option Text)) : Option Tables :=
  if tables.profiles.any fun profile => profile.id ≠ id ∧ some profile.name = name then none
  else some { tables with
    profiles := tables.profiles.map fun profile =>
      if profile.id = id then
        { profile with
          name := name.getD profile.name
          description := description.getD profile.description }
      else profile }

/-- The deletion of a profile cascades to everything that refers to it. -/
def withoutProfile (tables : Tables) (id : Uuid) : Tables :=
  { tables with
    profiles := tables.profiles.filter fun profile => profile.id ≠ id
    blocklists := tables.blocklists.filter fun blocklist => blocklist.profileId ≠ id
    allowlist := tables.allowlist.filter fun entry => entry.profileId ≠ id
    customRules := tables.customRules.filter fun rule => rule.profileId ≠ id
    deviceProfiles := tables.deviceProfiles.filter fun row => row.2 ≠ id
    config := { tables.config with
      defaultProfileIds := tables.config.defaultProfileIds.filter fun
        profileId => profileId ≠ id } }

/-- Builtin profiles are not deleted. -/
def deleteProfile (tables : Tables) (id : Uuid) : Tables × Bool :=
  if tables.profiles.any fun profile => profile.id = id ∧ profile.builtin = false then
    (tables.withoutProfile id, true)
  else (tables, false)

/-- Blocklists have unique identifiers, and unique addresses within their
profile. -/
def createBlocklist (tables : Tables) (row : Blocklist) : Option Tables :=
  if tables.blocklists.any fun blocklist => blocklist.id = row.id ∨
      blocklist.profileId = row.profileId ∧ blocklist.url = row.url then none
  else if (tables.getProfile row.profileId).isNone then none
  else some { tables with blocklists := tables.blocklists ++ [{ row with domains := [] }] }

structure BlocklistUpdate where
  name : Option Text
  url : Option Text
  enabled : Option Bool
  cronSchedule : Option Text

def BlocklistUpdate.apply (update : BlocklistUpdate) (blocklist : Blocklist) : Blocklist :=
  { blocklist with
    name := update.name.getD blocklist.name
    url := update.url.getD blocklist.url
    enabled := update.enabled.getD blocklist.enabled
    cronSchedule := update.cronSchedule.getD blocklist.cronSchedule }

def updateBlocklist (tables : Tables) (id : Uuid) (update : BlocklistUpdate) : Option Tables :=
  if tables.blocklists.any fun blocklist => blocklist.id ≠ id ∧ some blocklist.url = update.url ∧
      some blocklist.profileId = (tables.getBlocklist id).map Blocklist.profileId then none
  else some { tables with
    blocklists := tables.blocklists.map fun blocklist =>
      if blocklist.id = id then update.apply blocklist else blocklist }

def deleteBlocklist (tables : Tables) (id : Uuid) : Tables × Bool :=
  ({ tables with
    blocklists := tables.blocklists.filter fun blocklist =>
      blocklist.id ≠ id }, tables.blocklists.any fun blocklist => blocklist.id = id)

/-- Allowed domains are unique within their profile. -/
def createAllowlistEntry (tables : Tables) (row : AllowlistEntry) : Option Tables :=
  if tables.allowlist.any fun entry => entry.id = row.id ∨
      entry.profileId = row.profileId ∧ entry.domain = row.domain then none
  else if (tables.getProfile row.profileId).isNone then none
  else some { tables with allowlist := tables.allowlist ++ [row] }

def deleteAllowlistEntry (tables : Tables) (id : Uuid) : Tables × Bool :=
  ({ tables with
    allowlist := tables.allowlist.filter fun entry => entry.id ≠ id },
    tables.allowlist.any fun entry => entry.id = id)

def createCustomRule (tables : Tables) (row : CustomFilterRule) : Option Tables :=
  if tables.customRules.any fun rule => rule.id = row.id then none
  else if (tables.getProfile row.profileId).isNone then none
  else some { tables with customRules := tables.customRules ++ [row] }

structure CustomRuleUpdate where
  ruleText : Option Text
  enabled : Option Bool
  comment : Option Text

def CustomRuleUpdate.apply (update : CustomRuleUpdate)
    (rule : CustomFilterRule) : CustomFilterRule :=
  { rule with
    ruleText := update.ruleText.getD rule.ruleText
    enabled := update.enabled.getD rule.enabled
    comment := update.comment.or rule.comment }

def updateCustomRule (tables : Tables) (id : Uuid) (update : CustomRuleUpdate) : Tables :=
  { tables with
    customRules := tables.customRules.map fun rule =>
      if rule.id = id then update.apply rule else rule }

def deleteCustomRule (tables : Tables) (id : Uuid) : Tables × Bool :=
  ({ tables with
    customRules := tables.customRules.filter fun rule => rule.id ≠ id },
    tables.customRules.any fun rule => rule.id = id)

/-- Settings refer to a device. -/
def upsertDeviceSettings (tables : Tables) (deviceId : Uuid) (enabled : Bool) : Option Tables :=
  if (tables.findDevice deviceId).isSome then
    some { tables with deviceSettings := tables.deviceSettings.insert deviceId enabled }
  else none

/-- The profiles of a device are replaced in one transaction, which fails for
a profile that is listed twice or does not exist. -/
def setDeviceProfiles (tables : Tables) (deviceId : Uuid)
    (profileIds : List Uuid) : Option Tables :=
  if (tables.findDevice deviceId).isSome ∧ profileIds.Nodup ∧
      ∀ profileId ∈ profileIds, (tables.getProfile profileId).isSome then
    some { tables with
      deviceProfiles :=
        (tables.deviceProfiles.filter fun row => row.1 ≠ deviceId) ++
          profileIds.map fun profileId => (deviceId, profileId) }
  else none

/-- `update_last_seen_and_ip`, as far as the address goes. -/
def updateLastSeenAndIp (tables : Tables) (deviceId : Uuid) (ip : Text) : Tables :=
  { tables with
    devices := tables.devices.map fun device =>
      if device.id = deviceId then { device with lastIp := ip } else device }

def setDnsFilterConfig (tables : Tables) (config : DnsFilterConfig) : Option Tables :=
  if config.defaultProfileIds.Nodup ∧
      ∀ profileId ∈ config.defaultProfileIds, (tables.getProfile profileId).isSome then
    some { tables with config := config }
  else none

/-! ## Constraints -/

/-- The keys and references that the statements keep intact.  The default
profiles are stored in the order of their identifiers. -/
structure WellFormed (tables : Tables) : Prop where
  blocklistIds : (tables.blocklists.map Blocklist.id).Nodup
  customRuleIds : (tables.customRules.map CustomFilterRule.id).Nodup
  deviceIds : (tables.devices.map Device.id).Nodup
  settingsDevices : ∀ deviceId enabled, tables.deviceSettings.get deviceId = some enabled →
    (tables.findDevice deviceId).isSome
  profileDevices : ∀ row ∈ tables.deviceProfiles, (tables.findDevice row.1).isSome
  defaultIdsSorted : tables.config.defaultProfileIds.Pairwise (· ≤ ·)

section Constraints

variable {tables after : Tables}

section

variable (hwell : WellFormed tables)
include hwell

theorem WellFormed.findDevice_of_mem {device : Device} (hmem : device ∈ tables.devices) :
    tables.findDevice device.id = some device :=
  find_of_mem hwell.deviceIds hmem

/-- Devices with one identifier are one device. -/
theorem WellFormed.device_ext {left right : Device} (hleft : left ∈ tables.devices)
    (hright : right ∈ tables.devices) (hid : left.id = right.id) : left = right :=
  inj_on_of_nodup_map hwell.deviceIds hleft hright hid

variable {id : Uuid}

theorem WellFormed.createProfile {name : Text} {description : Option Text}
    (hcreate : tables.createProfile id name description = some after) : WellFormed after := by
  unfold Tables.createProfile at hcreate
  split at hcreate <;> cases hcreate
  exact { hwell with }

theorem WellFormed.updateProfileFields {name : Option Text} {description : Option (Option Text)}
    (hupdate : tables.updateProfileFields id name description = some after) : WellFormed after := by
  unfold Tables.updateProfileFields at hupdate
  split at hupdate <;> cases hupdate
  exact { hwell with }

theorem WellFormed.withoutProfile (id : Uuid) : WellFormed (tables.withoutProfile id) :=
  { hwell with
    blocklistIds := hwell.blocklistIds.sublist (filter_sublist.map _)
    customRuleIds := hwell.customRuleIds.sublist (filter_sublist.map _)
    profileDevices := fun row hrow => hwell.profileDevices row (mem_of_mem_filter hrow)
    defaultIdsSorted := hwell.defaultIdsSorted.sublist filter_sublist }

theorem WellFormed.createBlocklist {row : Blocklist}
    (hcreate : tables.createBlocklist row = some after) : WellFormed after := by
  simp only [Tables.createBlocklist, Option.ite_none_left_eq_some,
    any_eq_true, decide_eq_true_eq, not_exists, not_and, not_or] at hcreate
  obtain ⟨hunique, -, hafter⟩ := hcreate
  cases hafter
  exact { hwell with
    blocklistIds := nodup_append hwell.blocklistIds
      fun other hother => (hunique other hother).1 }

theorem WellFormed.updateBlocklist
    {update : BlocklistUpdate} (hupdate : tables.updateBlocklist id update = some after) :
    WellFormed after := by
  unfold Tables.updateBlocklist at hupdate
  split at hupdate <;> cases hupdate
  exact { hwell with blocklistIds := nodup_update (fun _ => rfl) hwell.blocklistIds }

theorem WellFormed.deleteBlocklist (id : Uuid) : WellFormed (tables.deleteBlocklist id).1 :=
  { hwell with
    blocklistIds := hwell.blocklistIds.sublist (filter_sublist.map _) }

theorem WellFormed.createAllowlistEntry {row : AllowlistEntry}
    (hcreate : tables.createAllowlistEntry row = some after) : WellFormed after := by
  simp only [Tables.createAllowlistEntry, Option.ite_none_left_eq_some] at hcreate
  cases hcreate.2.2
  exact { hwell with }

theorem WellFormed.deleteAllowlistEntry (id : Uuid) : WellFormed
    (tables.deleteAllowlistEntry id).1 :=
  { hwell with }

theorem WellFormed.createCustomRule {row : CustomFilterRule}
    (hcreate : tables.createCustomRule row = some after) : WellFormed after := by
  simp only [Tables.createCustomRule, Option.ite_none_left_eq_some,
    any_eq_true, decide_eq_true_eq, not_exists, not_and] at hcreate
  obtain ⟨hunique, -, hafter⟩ := hcreate
  cases hafter
  exact { hwell with customRuleIds := nodup_append hwell.customRuleIds hunique }

theorem WellFormed.updateCustomRule (id : Uuid)
    (update : CustomRuleUpdate) : WellFormed (tables.updateCustomRule id update) :=
  { hwell with customRuleIds := nodup_update (fun _ => rfl) hwell.customRuleIds }

theorem WellFormed.deleteCustomRule (id : Uuid) : WellFormed (tables.deleteCustomRule id).1 :=
  { hwell with
    customRuleIds := hwell.customRuleIds.sublist (filter_sublist.map _) }

end

variable {deviceId : Uuid}

theorem WellFormed.upsertDeviceSettings (hwell : WellFormed tables) {enabled : Bool}
    (hupsert : tables.upsertDeviceSettings deviceId enabled = some after) : WellFormed after := by
  simp only [Tables.upsertDeviceSettings, Option.ite_none_right_eq_some] at hupsert
  obtain ⟨hdevice, hafter⟩ := hupsert
  cases hafter
  exact { hwell with
    settingsDevices := by
      intro found stored hstored
      rcases HashMap.get_insert_eq_some.mp hstored with
        ⟨rfl, -⟩ | ⟨-, hbefore⟩
      · exact hdevice
      · exact hwell.settingsDevices found stored hbefore }

theorem WellFormed.setDeviceProfiles (hwell : WellFormed tables) {profileIds : List Uuid}
    (hset : tables.setDeviceProfiles deviceId profileIds = some after) : WellFormed after := by
  simp only [Tables.setDeviceProfiles, Option.ite_none_right_eq_some] at hset
  obtain ⟨⟨hdevice, -⟩, hafter⟩ := hset
  cases hafter
  exact { hwell with
    profileDevices := by
      intro row hrow
      rcases mem_append.mp hrow with hkept | hnew
      · exact hwell.profileDevices row (mem_of_mem_filter hkept)
      · obtain ⟨profileId, -, rfl⟩ := mem_map.mp hnew
        exact hdevice }

theorem isSome_findDevice_iff :
    (tables.findDevice deviceId).isSome ↔ deviceId ∈ tables.devices.map Device.id := by
  simp [Tables.findDevice]

/-- A device that moves keeps its identifier. -/
theorem map_id_updateLastSeenAndIp (deviceId : Uuid) (ip : Text) :
    (tables.updateLastSeenAndIp deviceId ip).devices.map Device.id = tables.devices.map Device.id :=
  map_key_update fun _ => rfl

theorem mem_updateLastSeenAndIp {ip : Text} {device : Device} :
    device ∈ (tables.updateLastSeenAndIp deviceId ip).devices ↔
      (∃ moved ∈ tables.devices, moved.id = deviceId ∧ device = { moved with lastIp := ip }) ∨
      (device.id ≠ deviceId ∧ device ∈ tables.devices) := by
  refine mem_update.trans (or_comm.trans (or_congr ?_ and_comm))
  simp only [eq_comm]

theorem WellFormed.updateLastSeenAndIp (hwell : WellFormed tables) (deviceId : Uuid) (ip : Text) :
    WellFormed (tables.updateLastSeenAndIp deviceId ip) := by
  have hfound : ∀ id, ((tables.updateLastSeenAndIp deviceId ip).findDevice id).isSome ↔
        (tables.findDevice id).isSome := by
    intro id
    rw [isSome_findDevice_iff, isSome_findDevice_iff, map_id_updateLastSeenAndIp]
  exact { hwell with
    deviceIds := by
      rw [map_id_updateLastSeenAndIp]
      exact hwell.deviceIds
    settingsDevices := fun id enabled hstored =>
      (hfound id).mpr (hwell.settingsDevices id enabled hstored)
    profileDevices := fun row hrow => (hfound row.1).mpr (hwell.profileDevices row hrow) }

end Constraints

end Tables

end Wardnet.Filter
