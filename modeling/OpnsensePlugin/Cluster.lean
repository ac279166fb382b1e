import OpnsensePlugin.Target

/-!
# The role of a node and the master of a cluster

The role of a node is the state of its first VIP with the least VHID and skew.
VHIDs are unique for an interface only, and then the order of the rows decides
which of several such VIPs comes first.
-/

namespace OpnsensePlugin

open Effects Python

section Model

variable [Runtime]

/-- The role that `collect_carp_status` finds in an answer -/
def roleOf (reply : Reply) : Except Exn CarpRole := do
  let status ← carpStatusOf (safeFields reply)
  return status.role

/-- `master_side` on the roles of both nodes -/
def OPNsenseClusterClient.sideOf (roleA roleB : CarpRole) : Side :=
  if roleA = .master && roleB ≠ .master then .left
  else if roleB = .master && roleA ≠ .master then .right
  else .left

/-- `_ensure_probes` and `master_side`, where nothing has been cached -/
def OPNsenseClusterClient.masterSide (replyA replyB : Reply) : Except Exn Side := do
  let roleA ← roleOf replyA
  let roleB ← roleOf replyB
  return OPNsenseClusterClient.sideOf roleA roleB

end Model

section Keys

variable {vip : CarpVhid} {vips others : List CarpVhid} {key other : Int × Int}
  {keyed rest : List ((Int × Int) × CarpVhid)} {entry : (Int × Int) × CarpVhid}

/-- The key that the VIPs are sorted by -/
def vipKey (vip : CarpVhid) : Option (Int × Int) := do
  let vhid ← skewKey vip.vhid
  let skew ← skewKey vip.advskew
  return (vhid, skew)

def KeyBelow (key other : Int × Int) : Prop :=
  key.1 < other.1 ∨ (key.1 = other.1 ∧ key.2 ≤ other.2)

/-- A VIP with the least key, where all VIPs have one -/
def IsPrimary (vips : List CarpVhid) (vip : CarpVhid) : Prop :=
  vip ∈ vips ∧ ∃ key, vipKey vip = some key ∧
    ∀ other ∈ vips, ∃ above, vipKey other = some above ∧ KeyBelow key above

theorem IsPrimary.perm (perm : vips.Perm others) (primary : IsPrimary vips vip) :
    IsPrimary others vip := by
  rcases primary with ⟨member, key, readable, below⟩
  exact ⟨perm.mem_iff.mp member, key, readable, fun other listed => below other
    (perm.mem_iff.mpr listed)⟩

variable {vhids : List CarpVhid}

end Keys

/-! ## Roles -/

section Roles

variable {vhids others : List CarpVhid} {vip : CarpVhid}

end Roles

/-! ## Orders of the rows -/

section Orders

variable [Runtime] {fields : List (Str × Json)} {rows others : List Json}

end Orders

end OpnsensePlugin
