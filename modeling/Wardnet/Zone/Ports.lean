import Wardnet.Zone.Catalog

/-!
# The ports of zone-wide exceptions

An exception with a zone at one of its ends must not open every port.  The
check looks at the ranges one by one, while the firewall lets a packet through
that any of them covers.  Together they leave a port closed exactly when the
first port is closed, or the one after the end of some range.
-/

namespace Wardnet.Zone

/-- The firewall lets the port of the protocol through. -/
def ServiceSpec.Covers (service : ServiceSpec) (proto : Proto) (port : ℕ) : Prop :=
  ∃ spec ∈ service.resolvePorts,
    spec.proto = proto ∧ spec.fromPort.toNat ≤ port ∧ port ≤ spec.toPort.toNat
  deriving Decidable

def ServiceSpec.OpensAll (service : ServiceSpec) (proto : Proto) : Prop :=
  ∀ port : ℕ, 1 ≤ port → port ≤ 65535 → service.Covers proto port

/-- No range of the protocol holds the first port, or none holds the port after
the end of one of them. -/
def ServiceSpec.LeavesGap (service : ServiceSpec) (proto : Proto) : Prop :=
  ¬ service.Covers proto 1 ∨ ∃ spec ∈ service.resolvePorts, spec.proto = proto ∧
    spec.toPort.toNat < 65535 ∧ ¬ service.Covers proto (spec.toPort.toNat + 1)
  deriving Decidable

def Operation.exceptionId : Operation → Option Uuid
  | .createException id _ | .updateException id _ => some id
  | _ => none

/-- The service that the exception of the request is to have. -/
def Operation.service (db : Database) : Operation → Option ServiceSpec
  | .createException _ req => some req.service
  | .updateException id req => req.service.or ((db.findException id).map (·.service))
  | _ => none

variable {service : ServiceSpec} {proto : Proto} {db after : Database} {operation : Operation}
  {event : Option ZoneEvent} {exception : ZoneException}

theorem not_opensAll_iff : ¬ service.OpensAll proto ↔ service.LeavesGap proto := by
  constructor
  · contrapose!
    intro hgap port hfirst
    obtain ⟨hone, hnext⟩ := not_or.mp hgap
    induction port, hfirst using Nat.le_induction with
    | base => exact fun _ => not_not.mp hone
    | succ port hfirst ih =>
      intro hlast
      obtain ⟨spec, hspec, hproto, hfrom, hto⟩ := ih (by omega)
      by_cases hinside : port + 1 ≤ spec.toPort.toNat
      · exact ⟨spec, hspec, hproto, by omega, hinside⟩
      · have hend : spec.toPort.toNat = port := by omega
        by_contra hclosed
        exact hnext ⟨spec, hspec, hproto, by omega, hend ▸ hclosed⟩
  · rintro (hone | ⟨spec, -, -, hend, hclosed⟩) hopen
    · exact hone (hopen 1 le_rfl (by decide))
    · exact hclosed (hopen _ (by omega) (by omega))

theorem service_of_accept (haccept : accept db operation = some (after, event))
    (hid : operation.exceptionId = some exception.id) (hstored : exception ∈ after.exceptions) :
    operation.service db = some exception.service := by
  obtain ⟨hfresh, hok⟩ := accept_eq_some haccept
  cases operation with
  | createException id req =>
    cases hid
    simp only [perform, createException, bind_eq_ok, pure_eq_ok, Prod.mk.injEq] at hok
    obtain ⟨_, -, rfl, -⟩ := hok
    rcases List.mem_append.mp hstored with hold | hnew
    · exact absurd rfl (Table.find_eq_none.mp hfresh exception hold)
    · rw [List.mem_singleton.mp hnew]
      rfl
  | updateException id req =>
    cases hid
    simp only [perform, updateException, bind_eq_ok, pure_eq_ok, requireException, require_eq_ok,
      Prod.mk.injEq] at hok
    obtain ⟨old, hold, _, -, rfl, -⟩ := hok
    rcases Table.mem_update.mp hstored with ⟨-, hne⟩ | ⟨_, -, -, hnew⟩
    · exact absurd rfl hne
    · rw [Operation.service, hold, ← hnew]
      cases req.service <;> rfl
  | _ => cases hid

/-- The exception that an accepted request stores leaves a port of the protocol
closed exactly when the ranges asked for have a gap. -/
theorem zone_wide_leaves_port_closed_iff (haccept : accept db operation = some (after, event))
    (hid : operation.exceptionId = some exception.id) (hstored : exception ∈ after.exceptions)
    (hservice : operation.service db = some service) (proto : Proto) :
    ¬ exception.service.OpensAll proto ↔ service.LeavesGap proto := by
  have hsame : exception.service = service :=
    Option.some.inj ((service_of_accept haccept hid hstored).symm.trans hservice)
  rw [hsame]
  exact not_opensAll_iff

def guestException (specs : List PortSpec) : ZoneException :=
  ⟨1, .zone 0x203, .zone 0x201, .ports specs, false⟩

def GuestsAllowed (specs : List PortSpec) : Prop :=
  accept (.seeded [] none) (.createException 1 ⟨.zone 0x203, .zone 0x201, .ports specs, false⟩) =
    some ({ Database.seeded [] none with exceptions := [guestException specs] },
      some .zoneExceptionsChanged)
  deriving Decidable

/-- Two ranges that overlap. -/
def lowPorts : List PortSpec := [⟨.tcp, 1, 100⟩, ⟨.tcp, 50, 200⟩]

theorem zone_wide_leaves_port_closed_iff_lowPorts : GuestsAllowed lowPorts ∧
      ¬ (guestException lowPorts).service.OpensAll .tcp := by
  have haccept : GuestsAllowed lowPorts := by decide
  refine ⟨haccept, (zone_wide_leaves_port_closed_iff haccept rfl ?_ rfl .tcp).mpr (by decide)⟩
  exact List.mem_singleton_self _

/-- The two halves of the ports are accepted, since neither is all of them. -/
theorem zone_wide_opens_every_port : GuestsAllowed [⟨.tcp, 1, 32767⟩, ⟨.tcp, 32768, 65535⟩] ∧
      (guestException [⟨.tcp, 1, 32767⟩, ⟨.tcp, 32768, 65535⟩]).service.OpensAll .tcp := by
  refine ⟨by decide, fun port hfirst hlast => ?_⟩
  by_cases hlow : port ≤ 32767
  · exact ⟨⟨.tcp, 1, 32767⟩, by decide, rfl, hfirst, hlow⟩
  · exact ⟨⟨.tcp, 32768, 65535⟩, by decide, rfl, Nat.not_le.mp hlow, hlast⟩

end Wardnet.Zone
