import OpnsensePlugin.Environment

/-!
# CARP role and VIP snapshot

`collect_carp_status` reads `getVipStatus` once. A failed or malformed answer
counts as an empty one. The role of the node is computed even where a caller
only looks at the VIP rows, so a row whose VHID or skew is not a number makes
the whole collection fail.
-/

namespace OpnsensePlugin

open Effects Python

structure CarpVhid where
  vhid : Str
  interface : Str
  ipaddr : Str
  status : Str
  advbase : Str
  advskew : Str
deriving DecidableEq

inductive CarpRole
  | master
  | backup
  | disabled
  | unknown
deriving DecidableEq

structure CarpStatus where
  role : CarpRole
  enabled : Bool
  maintenanceMode : Bool
  demotion : Int
  statusMsg : Str
  vhids : List CarpVhid
deriving DecidableEq

section

variable [Runtime]

/-- `str(fields.get(key, default))` -/
def fieldText (fields : List (Str × Json)) (key : Str) (default : Json := .str []) : Str :=
  (fieldD fields key default).text

/-- `_bool_truthy` -/
def boolTruthy : Json → Bool
  | .bool value => value
  | .null => false
  | value =>
      match parseInt 10 value.text with
      | some number => number = 1
      | none => Runtime.lower (strip value.text) = "true"

/-- The fields `_safe_get` returns. -/
def safeFields : Reply → List (Str × Json)
  | .ok (.obj fields) => fields
  | _ => []

/-- The row of one CARP VIP; other kinds of VIP are skipped. -/
def carpVhid : Json → Option CarpVhid
  | .obj row =>
      if Runtime.lower (fieldText row "mode" (.str "carp")) ≠ "carp" then none
      else some
        { vhid := fieldText row "vhid"
          interface := fieldText row "interface"
          ipaddr := fieldText row "ipaddr" (fieldD row "subnet" (.str []))
          status := Runtime.upper (fieldText row "status")
          advbase := fieldText row "advbase"
          advskew := fieldText row "advskew" }
  | _ => none

def carpVhids (fields : List (Str × Json)) : List CarpVhid :=
  match field fields "rows" with
  | some (.arr rows) => rows.filterMap carpVhid
  | _ => []

/-- `int(text or 9999)` -/
def skewKey (text : Str) : Option Int := if text.isEmpty then some 9999 else parseInt 10 text

def isActive (vip : CarpVhid) : Bool := !(vip.status = "DISABLED" || vip.status.isEmpty)

/-- The first VIP with the least key. -/
def leastVhid : List ((Int × Int) × CarpVhid) → Option ((Int × Int) × CarpVhid)
  | [] => none
  | head :: rest =>
      match leastVhid rest with
      | none => some head
      | some least =>
          if least.1.1 < head.1.1 || (least.1.1 = head.1.1 && least.1.2 < head.1.2)
          then some least else some head

def carpKeyError : Exn :=
  opnsenseError (.plain "CARP: invalid VHID or advskew in upstream response")

/-- `_primary_vhid` -/
def primaryVhid (vhids : List CarpVhid) : Except Exn (Option CarpVhid) :=
  let keyed := (vhids.filter isActive).mapM fun vip => do
    let vhid ← skewKey vip.vhid
    let skew ← skewKey vip.advskew
    return ((vhid, skew), vip)
  match keyed with
  | none => .error carpKeyError
  | some keyed => .ok ((leastVhid keyed).map (·.2))

/-- `_classify_role` -/
def classifyRole (enabled maintenance : Bool) (vhids : List CarpVhid) : Except Exn CarpRole := do
  if !enabled then return .disabled
  if maintenance then return .backup
  match ← primaryVhid vhids with
  | none => return .disabled
  | some primary =>
      return if primary.status = "MASTER" then .master
        else if primary.status = "BACKUP" then .backup else .unknown

/-- `int(block.get("demotion", 0))`, with 0 for what is not a number -/
def demotionOf (block : List (Str × Json)) : Except Exn Int :=
  match (fieldD block "demotion" (.int 0)).toInt with
  | .ok value => .ok value
  | .error error => if error.isValueOrType then .ok 0 else .error error

/-- The `carp` block of an answer -/
def carpBlock (fields : List (Str × Json)) : List (Str × Json) :=
  match field fields "carp" with
  | some (.obj block) => block
  | _ => []

def maintenanceOf (fields : List (Str × Json)) : Bool :=
  let block := carpBlock fields
  boolTruthy (fieldD block "maintenancemode" (fieldD block "maintenance_mode" (.bool false)))

/-- What `collect_carp_status` makes of the fields of an answer. -/
def carpStatusOf (fields : List (Str × Json)) : Except Exn CarpStatus := do
  let vhids := carpVhids fields
  let block := carpBlock fields
  let maintenance := maintenanceOf fields
  let enabled := !vhids.isEmpty
  let demotion ← demotionOf block
  let role ← classifyRole enabled maintenance vhids
  return CarpStatus.mk role enabled maintenance demotion (fieldText block "status_msg") vhids

/-- What a collected snapshot keeps of the answer. -/
theorem carpStatusOf_eq_ok {fields : List (Str × Json)} {status : CarpStatus}
    (collected : carpStatusOf fields = .ok status) :
    status.vhids = carpVhids fields ∧ status.enabled = !(carpVhids fields).isEmpty ∧
      status.maintenanceMode = maintenanceOf fields := by
  simp only [carpStatusOf, bind_eq_ok, pure_eq_ok] at collected
  rcases collected with ⟨demotion, _, role, _, rfl⟩
  exact ⟨rfl, rfl, rfl⟩

def vipStatusPath : Str := "/api/diagnostics/interface/getVipStatus"

/-- `collect_carp_status` -/
def collectCarpStatus {Node State : Type} (node : Node) : Py Node State CarpStatus := do
  let reply ← Action.ask (.get node vipStatusPath [])
  Action.ofExcept (carpStatusOf (safeFields reply))

@[simp]
theorem run_collectCarpStatus {Node State : Type} {node : Node} {before after : State}
    {trace : Trace Node} {outcome : Except Exn CarpStatus} :
    (collectCarpStatus node : Py Node State CarpStatus).Run before trace outcome after ↔
      ∃ reply : Reply, trace = [⟨.get node vipStatusPath [], reply⟩] ∧
        outcome = carpStatusOf (safeFields reply) ∧ after = before := by
  simp [collectCarpStatus, Action.run_bind, exists_and_left]

end

end OpnsensePlugin
