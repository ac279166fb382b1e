import Mathlib.Data.Finset.Dedup
import Mathlib.Data.Finset.Insert
import Mathlib.Data.List.AList
import OpnsensePlugin.Carp
import OpnsensePlugin.Management.Preserved
import OpnsensePlugin.Writers.Preflight

/-!
# The write target of a cluster

`_firewall_target` chooses the node that receives the writes of a configured
cluster. It compares what both nodes report about their CARP VIPs, after the
rows of each node have been gathered in a dictionary by VHID and address: of
several rows of one VIP only the last one is compared.
-/

namespace OpnsensePlugin

open Effects Python

/-- The first two entries of `opnsense_hosts`. -/
inductive Side
  | left
  | right
deriving DecidableEq

namespace Side

def other : Side → Side
  | left => right
  | right => left

def pick {α : Type} (first second : α) : Side → α
  | left => first
  | right => second

end Side

abbrev Config := List (Str × Json)

section Model

variable [Runtime]

/-- `cfg.get('opnsense_hosts') or []` -/
def configuredHosts (cfg : Config) : Json :=
  let hosts := fieldD cfg "opnsense_hosts" .null
  if hosts.truthy then hosts else .arr []

/-- `len(hosts)` -/
def hostCount : Json → Except Exn Nat
  | .arr items => .ok items.length
  | .obj fields => .ok fields.length
  | .str text => .ok text.length
  | _ => .error (.builtin .typeError "object has no len()")

/-- `hosts[index]`, wherever the index is in range -/
def hostAt (hosts : Json) (index : Nat) : Except Exn Json :=
  match hosts with
  | .arr items => .ok (items.getD index .null)
  | .str text => .ok (.str [text.getD index 0])
  | .obj _ => .error (.builtin .keyError (natText index))
  | _ => .error (.builtin .typeError "object is not subscriptable")

/-- `_host_from_dict` -/
def hostFromDict (h : Json) : Except Exn Host := do
  let name ← h.getD "name" (.str "opnsense")
  let url ← h.getD "url" (.str "")
  return Host.mk name.text url.text

/-- `_is_cluster_mode` -/
def isClusterMode (cfg : Config) : Except Exn Bool := do
  let count ← hostCount (configuredHosts cfg)
  if count < 2 then return false
  let mode := Runtime.lower (fieldText cfg "cluster_mode")
  if mode = "off" then return false
  if mode ∈ (["auto", "cluster", "ha"] : List Str) then return true
  return (fieldD cfg "monitor_both_nodes" (.bool false)).truthy

/-- The check of `OPNsenseClient.__init__` -/
def requireHttps (host : Host) : Except Exn Unit :=
  raiseIf (!("https://" : Str).isPrefixOf host.url)
    (.builtin .valueError "OPNsense API requires HTTPS")

abbrev VipStates := AList fun _ : Str × Str => Str

def CarpVhid.vip (row : CarpVhid) : Str × Str := (row.vhid, row.ipaddr)

/-- `vip_states`; nothing depends on the order of its entries. -/
def vipStates (rows : List CarpVhid) : VipStates :=
  rows.foldl (fun states row => states.insert row.vip row.status) ∅

/-- `set(states.values())` -/
def statusSet (states : VipStates) : Finset Str := (states.entries.map Sigma.snd).toFinset

/-- Whether `_firewall_target` refuses the pair before it looks at the roles. -/
def pairRefused (left right : CarpStatus) : Bool :=
  !left.enabled || !right.enabled || (vipStates left.vhids).keys.isEmpty ||
    decide ((vipStates left.vhids).keys.toFinset ≠ (vipStates right.vhids).keys.toFinset) ||
    left.maintenanceMode || right.maintenanceMode

/-- The node that owns the VIPs, once both have reported. -/
def masterSide (left right : CarpStatus) : Except Exn Side :=
  let leftStates := statusSet (vipStates left.vhids)
  let rightStates := statusSet (vipStates right.vhids)
  if pairRefused left right then
    .error (.builtin .valueError
      "No se puede confirmar un par HA disponible con los mismos VIPs.")
  else if leftStates = {("MASTER" : Str)} ∧ rightStates = {("BACKUP" : Str)} then .ok .left
  else if leftStates = {("BACKUP" : Str)} ∧ rightStates = {("MASTER" : Str)} then .ok .right
  else .error (.builtin .valueError
    "Estado CARP ambiguo o mixto: no se realizará ninguna escritura.")

/-- The pair that `_firewall_target` returns when `side` is the master. -/
def targetPair (a b : Host) (side : Side) : Option (Host × Option Host) :=
  some (side.pick a b, some (side.pick b a))

/-- The probes of `_firewall_target(cfg, write=True)` -/
def probePair {State : Type} (a b : Host) : Py Side State (Option (Host × Option Host)) := do
  Action.ofExcept (requireHttps a)
  let left ← collectCarpStatus Side.left
  Action.ofExcept (requireHttps b)
  let right ← collectCarpStatus Side.right
  let side ← Action.ofExcept (masterSide left right)
  return targetPair a b side

/-- `_firewall_target`, given what `_resolved_master_side` does. `hosts` is the configured value. -/
def clusterTarget {State : Type} (resolvedMasterSide : Host → Host → Py Side State Side)
    (hosts : Json) (write : Bool) : Py Side State (Option (Host × Option Host)) := do
  let count ← Action.ofExcept (hostCount hosts)
  Action.raiseIf (write && decide (count ≠ 2)) (.builtin .valueError
    "Las escrituras HA requieren exactamente dos nodos configurados.")
  let a ← Action.ofExcept (hostAt hosts 0 >>= hostFromDict)
  let b ← Action.ofExcept (hostAt hosts 1 >>= hostFromDict)
  if write then probePair a b
  else do
    let side ← resolvedMasterSide a b
    return targetPair a b side

def singleTarget {State : Type} (hosts : Json) : Py Side State (Option (Host × Option Host)) := do
  let host ← Action.ofExcept (hostAt hosts 0 >>= hostFromDict)
  return some (host, none)

/-- `_firewall_target`, given what `_resolved_master_side` does -/
def firewallTarget {State : Type} (resolvedMasterSide : Host → Host → Py Side State Side)
    (cfg : Config) (write : Bool) : Py Side State (Option (Host × Option Host)) := do
  let hosts := configuredHosts cfg
  if !hosts.truthy then return none
  let cluster ← Action.ofExcept (isClusterMode cfg)
  if cluster then clusterTarget resolvedMasterSide hosts write else singleTarget hosts

end Model

/-! ## The dictionary of VIP states -/

/-- The last row of a VIP in a report. -/
def lastRow (rows : List CarpVhid) (vip : Str × Str) : Option CarpVhid :=
  rows.reverse.find? fun row => row.vip = vip

section Rows

variable {rows : List CarpVhid} {row last : CarpVhid} {vip : Str × Str} {status : Str}

theorem lastRow_concat :
    lastRow (rows ++ [row]) vip = if row.vip = vip then some row else lastRow rows vip := by
  by_cases same : row.vip = vip <;> simp [lastRow, same]

theorem lastRow_mem (found : lastRow rows vip = some last) : last ∈ rows ∧ last.vip = vip :=
  ⟨List.mem_reverse.mp (List.mem_of_find?_eq_some found), by
    simpa using List.find?_some found⟩

theorem exists_lastRow (member : row ∈ rows) : ∃ last, lastRow rows row.vip = some last := by
  apply Option.isSome_iff_exists.mp
  exact List.find?_isSome.mpr ⟨row, List.mem_reverse.mpr member, by simp⟩

/-- The dictionary keeps the last row of every VIP. -/
theorem lookup_vipStates : (vipStates rows).lookup vip = (lastRow rows vip).map (·.status) := by
  induction rows using List.reverseRec with
  | nil => rfl
  | append_singleton rows row ih =>
      have extended : vipStates (rows ++ [row]) =
          (vipStates rows).insert row.vip row.status := by
        simp [vipStates]
      rw [extended, lastRow_concat]
      by_cases same : row.vip = vip
      · subst same
        simp
      · rw [AList.lookup_insert_ne (Ne.symm same), ih, if_neg same]

theorem mem_keys_vipStates : vip ∈ (vipStates rows).keys ↔ ∃ row ∈ rows, row.vip = vip := by
  rw [← AList.mem_keys, ← AList.lookup_isSome, lookup_vipStates, Option.isSome_map]
  constructor
  · intro found
    rcases Option.isSome_iff_exists.mp found with ⟨last, found⟩
    exact ⟨last, lastRow_mem found⟩
  · rintro ⟨row, member, rfl⟩
    exact Option.isSome_iff_exists.mpr (exists_lastRow member)

theorem mem_statusSet :
    status ∈ statusSet (vipStates rows) ↔
      ∃ last, lastRow rows last.vip = some last ∧ last.status = status := by
  have stored : status ∈ statusSet (vipStates rows) ↔
      ∃ vip, (vipStates rows).lookup vip = some status := by
    simp only [statusSet, List.mem_toFinset, List.mem_map, Sigma.exists]
    constructor
    · rintro ⟨vip, _, member, rfl⟩
      exact ⟨vip, AList.mem_lookup_iff.mpr member⟩
    · rintro ⟨vip, found⟩
      exact ⟨vip, status, AList.mem_lookup_iff.mp found, rfl⟩
  rw [stored]
  constructor
  · rintro ⟨vip, found⟩
    rw [lookup_vipStates, Option.map_eq_some_iff] at found
    rcases found with ⟨last, found, same⟩
    have vips := (lastRow_mem found).2
    exact ⟨last, by rw [vips, found], same⟩
  · rintro ⟨last, found, rfl⟩
    exact ⟨last.vip, by rw [lookup_vipStates, found, Option.map_some]⟩

/-- All that the dictionary shows of the VIPs is one status. -/
theorem statusSet_eq_singleton :
    statusSet (vipStates rows) = {status} ↔
      rows ≠ [] ∧ ∀ last, lastRow rows last.vip = some last → last.status = status := by
  rw [Finset.eq_singleton_iff_unique_mem]
  simp only [mem_statusSet]
  constructor
  · rintro ⟨⟨last, found, _⟩, unique⟩
    refine ⟨List.ne_nil_of_mem (lastRow_mem found).1, ?_⟩
    intro last found
    exact unique _ ⟨last, found, rfl⟩
  · rintro ⟨reported, uniform⟩
    rcases List.exists_mem_of_ne_nil rows reported with ⟨row, member⟩
    rcases exists_lastRow member with ⟨last, found⟩
    have vips := (lastRow_mem found).2
    have found : lastRow rows last.vip = some last := by rw [vips, found]
    refine ⟨⟨last, found, uniform last found⟩, ?_⟩
    rintro _ ⟨other, shown, rfl⟩
    exact uniform other shown

end Rows

/-! ## What the probes decide -/

abbrev Answers := Side → Reply

/-- The probes of a trace were answered as `answers` says. -/
def Answered (answers : Answers) (trace : Trace Side) : Prop :=
  ∀ (side : Side) (reply : Reply),
    (⟨.get side vipStatusPath [], reply⟩ : Exchange Side) ∈ trace → reply = answers side

section Determined

variable {State α β : Type} {answers : Answers}

/-- The answers alone decide how an action ends, and it only reads. -/
def Determined (answers : Answers) (action : Py Side State α) (result : Except Exn α) :
    Prop :=
  ∀ before trace outcome after, action.Run before trace outcome after →
    Answered answers trace → outcome = result ∧ ∀ event ∈ trace, event.request.IsGet

theorem determined_ofExcept {result : Except Exn α} :
    Determined answers (Action.ofExcept result : Py Side State α) result := by
  intro before trace outcome after run _
  rw [Action.run_ofExcept] at run
  rcases run with ⟨rfl, rfl, rfl⟩
  exact ⟨rfl, by simp⟩

theorem determined_pure {value : α} :
    Determined answers (pure value : Py Side State α) (pure value) := by
  intro before trace outcome after run _
  rw [Action.run_pure] at run
  rcases run with ⟨rfl, rfl, rfl⟩
  exact ⟨rfl, by simp⟩

theorem determined_raiseIf {condition : Bool} {error : Exn} :
    Determined answers (Action.raiseIf condition error : Py Side State Unit)
      (raiseIf condition error) := by
  intro before trace outcome after run _
  rw [Action.run_raiseIf] at run
  rcases run with ⟨rfl, rfl, rfl⟩
  exact ⟨rfl, by simp⟩

theorem determined_bind {action : Py Side State α} {next : α → Py Side State β}
    {result : Except Exn α} {rest : α → Except Exn β} (first : Determined answers action result)
    (second : ∀ value, Determined answers (next value) (rest value)) :
    Determined answers (action >>= next) (result >>= rest) := by
  intro before trace outcome after run answered
  rw [Action.run_bind] at run
  rcases run with ⟨front, value, middle, back, rfl, start, finish⟩ | ⟨error, rfl, start⟩
  · have begun := first before front _ middle start fun side reply member =>
      answered side reply (List.mem_append_left back member)
    have ended := second value middle back outcome after finish fun side reply member =>
      answered side reply (List.mem_append_right front member)
    refine ⟨by rw [← begun.1, ended.1]; rfl, ?_⟩
    intro event member
    rcases List.mem_append.mp member with member | member
    · exact begun.2 event member
    · exact ended.2 event member
  · have begun := first before trace _ after start answered
    exact ⟨by rw [← begun.1]; rfl, begun.2⟩

end Determined

section Decision

variable [Runtime] {State : Type} {resolved : Host → Host → Py Side State Side} {cfg : Config}
  {answers : Answers} {before after : State} {trace : Trace Side} {a b : Host}
  {outcome : Except Exn (Option (Host × Option Host))} {target : Option (Host × Option Host)}

def statusAt (answers : Answers) (side : Side) : Except Exn CarpStatus :=
  carpStatusOf (safeFields (answers side))

def pairOf (answers : Answers) (a b : Host) : Except Exn (Option (Host × Option Host)) := do
  requireHttps a
  let left ← statusAt answers .left
  requireHttps b
  let right ← statusAt answers .right
  let side ← masterSide left right
  return targetPair a b side

/-- What `_firewall_target` decides for a write to a cluster, the answers being known. -/
def decided (answers : Answers) (hosts : Json) : Except Exn (Option (Host × Option Host)) := do
  let count ← hostCount hosts
  raiseIf (decide (count ≠ 2)) (.builtin .valueError
    "Las escrituras HA requieren exactamente dos nodos configurados.")
  let a ← hostAt hosts 0 >>= hostFromDict
  let b ← hostAt hosts 1 >>= hostFromDict
  pairOf answers a b

theorem collectCarpStatus_determined {side : Side} :
    Determined answers (collectCarpStatus side : Py Side State CarpStatus)
      (statusAt answers side) := by
  intro before trace outcome after run answered
  rw [run_collectCarpStatus] at run
  rcases run with ⟨reply, rfl, rfl, rfl⟩
  rw [answered side reply List.mem_cons_self]
  exact ⟨rfl, by simp [Request.IsGet]⟩

theorem probePair_determined :
    Determined answers (probePair a b : Py Side State _) (pairOf answers a b) :=
  determined_bind determined_ofExcept fun _ =>
    determined_bind collectCarpStatus_determined fun _ =>
      determined_bind determined_ofExcept fun _ =>
        determined_bind collectCarpStatus_determined fun _ =>
          determined_bind determined_ofExcept fun _ => determined_pure

/-- With cluster mode on, a write has a target only if the answers decide so. -/
theorem firewallTarget_determined (cluster : isClusterMode cfg = .ok true) :
    Determined answers (firewallTarget resolved cfg true)
      (decided answers (configuredHosts cfg)) := by
  have configured : (configuredHosts cfg).truthy = true := by
    cases hosts : configuredHosts cfg with
    | arr members | obj members | str members =>
        cases members with
        | nil => simp [isClusterMode, hosts, hostCount] at cluster
        | cons head rest => rfl
    | _ => simp [isClusterMode, hosts, hostCount] at cluster
  have chosen : firewallTarget resolved cfg true =
      clusterTarget resolved (configuredHosts cfg) true := by
    simp only [firewallTarget, configured, cluster]
    rfl
  rw [chosen]
  simp only [clusterTarget, Bool.true_and, if_true]
  exact determined_bind determined_ofExcept fun _ =>
    determined_bind determined_raiseIf fun _ =>
      determined_bind determined_ofExcept fun _ =>
        determined_bind determined_ofExcept fun _ => probePair_determined

/-! ## Roles -/

/-- The CARP VIP rows of the answer of a node. -/
def reportedRows (answers : Answers) (side : Side) : List CarpVhid :=
  carpVhids (safeFields (answers side))

def InMaintenance (answers : Answers) (side : Side) : Prop :=
  maintenanceOf (safeFields (answers side)) = true

/-- A row that no later row of its VIP replaces. -/
def LastOfVip (rows : List CarpVhid) (row : CarpVhid) : Prop := lastRow rows row.vip = some row

/-- Both nodes are available and report the same VIPs. -/
structure Comparable (answers : Answers) : Prop where
  available : ∀ side, ¬ InMaintenance answers side
  reported : ∀ side, reportedRows answers side ≠ []
  sameVips : ∀ vip, (∃ row ∈ reportedRows answers .left, row.vip = vip) ↔
    ∃ row ∈ reportedRows answers .right, row.vip = vip

/-- The rows that count say that one node is the master of every VIP. -/
structure Complementary (counts : List CarpVhid → CarpVhid → Prop) (answers : Answers)
    (side : Side) : Prop extends Comparable answers where
  master : ∀ row, counts (reportedRows answers side) row → row.status = "MASTER"
  backup : ∀ row, counts (reportedRows answers side.other) row → row.status = "BACKUP"

section Roles

variable {left right : CarpStatus} {side : Side}

theorem pairRefused_eq_false (first : statusAt answers .left = .ok left)
    (second : statusAt answers .right = .ok right) :
    pairRefused left right = false ↔ Comparable answers := by
  rcases carpStatusOf_eq_ok first with ⟨leftRows, leftEnabled, leftMaintenance⟩
  rcases carpStatusOf_eq_ok second with ⟨rightRows, rightEnabled, rightMaintenance⟩
  have keys : (vipStates left.vhids).keys.toFinset = (vipStates right.vhids).keys.toFinset ↔
      ∀ vip, (∃ row ∈ reportedRows answers .left, row.vip = vip) ↔
        ∃ row ∈ reportedRows answers .right, row.vip = vip := by
    simp only [Finset.ext_iff, List.mem_toFinset, mem_keys_vipStates, leftRows, rightRows,
      reportedRows]
  have populated : (vipStates left.vhids).keys.isEmpty = false ↔
      reportedRows answers .left ≠ [] := by
    rw [List.isEmpty_eq_false_iff_exists_mem]
    simp only [mem_keys_vipStates, leftRows, reportedRows]
    constructor
    · rintro ⟨_, row, member, _⟩
      exact List.ne_nil_of_mem member
    · intro reported
      rcases List.exists_mem_of_ne_nil _ reported with ⟨row, member⟩
      exact ⟨_, row, member, rfl⟩
  have split : pairRefused left right = false ↔
      left.enabled = true ∧ right.enabled = true ∧
        (vipStates left.vhids).keys.isEmpty = false ∧
        (vipStates left.vhids).keys.toFinset = (vipStates right.vhids).keys.toFinset ∧
        left.maintenanceMode = false ∧ right.maintenanceMode = false := by
    simp [pairRefused, and_assoc]
  rw [split, keys, populated, leftEnabled, rightEnabled, leftMaintenance, rightMaintenance]
  constructor
  · rintro ⟨leftReported, rightReported, _, same, leftAvailable, rightAvailable⟩
    refine ⟨?_, ?_, same⟩
    · rintro (_ | _)
      · simpa [InMaintenance] using leftAvailable
      · simpa [InMaintenance] using rightAvailable
    · rintro (_ | _)
      · simpa [reportedRows] using leftReported
      · simpa [reportedRows] using rightReported
  · intro comparable
    have leftReported := comparable.reported .left
    have rightReported := comparable.reported .right
    have leftAvailable := comparable.available .left
    have rightAvailable := comparable.available .right
    refine ⟨?_, ?_, leftReported, comparable.sameVips, ?_, ?_⟩
    · simpa [reportedRows] using leftReported
    · simpa [reportedRows] using rightReported
    · simpa [InMaintenance] using leftAvailable
    · simpa [InMaintenance] using rightAvailable

theorem masterSide_eq_ok (first : statusAt answers .left = .ok left)
    (second : statusAt answers .right = .ok right) :
    masterSide left right = .ok side ↔ Complementary LastOfVip answers side := by
  have leftRows : left.vhids = reportedRows answers .left := (carpStatusOf_eq_ok first).1
  have rightRows : right.vhids = reportedRows answers .right := (carpStatusOf_eq_ok second).1
  by_cases refused : pairRefused left right = true
  · have incomparable : ¬ Comparable answers := by
      rw [← pairRefused_eq_false first second]
      simp [refused]
    simp only [masterSide, refused, if_true, reduceCtorEq, false_iff]
    exact fun complementary => incomparable complementary.toComparable
  · have accepted : pairRefused left right = false := by simpa using refused
    have comparable := (pairRefused_eq_false first second).mp accepted
    have roles : ∀ (node : Side) (status : Str),
        statusSet (vipStates (reportedRows answers node)) = {status} ↔
          ∀ row, LastOfVip (reportedRows answers node) row → row.status = status := by
      intro node status
      rw [statusSet_eq_singleton]
      exact and_iff_right (comparable.reported node)
    have statuses : ("MASTER" : Str) ≠ "BACKUP" := by decide
    simp only [masterSide, accepted, leftRows, rightRows, Bool.false_eq_true, if_false]
    constructor
    · intro chosen
      split_ifs at chosen with leftMaster rightMaster
      · cases chosen
        exact ⟨comparable, (roles .left _).mp leftMaster.1, (roles .right _).mp leftMaster.2⟩
      · cases chosen
        exact ⟨comparable, (roles .right _).mp rightMaster.2, (roles .left _).mp rightMaster.1⟩
    · intro complementary
      cases side with
      | left =>
          rw [if_pos ⟨(roles .left _).mpr complementary.master,
            (roles .right _).mpr complementary.backup⟩]
      | right =>
          have leftBackup := (roles .left _).mpr complementary.backup
          rw [if_neg, if_pos ⟨leftBackup, (roles .right _).mpr complementary.master⟩]
          rintro ⟨leftMaster, _⟩
          exact statuses (Finset.singleton_inj.mp (leftMaster.symm.trans leftBackup))

end Roles

/-! ## Confirmed targets -/

/-- Exactly two hosts are configured, `master` on `side` and `peer` on the other one. -/
def ConfiguredPair (hosts : Json) (side : Side) (master peer : Host) : Prop :=
  ∃ first second, hosts = .arr [first, second] ∧
    hostFromDict (side.pick first second) = .ok master ∧
    hostFromDict (side.pick second first) = .ok peer

/-- Both nodes could be asked, and their answers could be read. -/
structure Collected (hosts : Json) (answers : Answers) : Prop where
  pair : ∃ a b, ConfiguredPair hosts .left a b ∧ requireHttps a = .ok () ∧ requireHttps b = .ok ()
  statuses : ∀ side, ∃ status, statusAt answers side = .ok status

/-- What `_firewall_target` decides for two configured hosts. -/
theorem decided_eq_ok {hosts : Json} :
    decided answers hosts = .ok target ↔
      Collected hosts answers ∧ ∃ side master peer, ConfiguredPair hosts side master peer ∧
        Complementary LastOfVip answers side ∧ target = some (master, some peer) := by
  constructor
  · intro succeeded
    simp only [decided, pairOf, bind_eq_ok, raiseIf_eq_ok, pure_eq_ok] at succeeded
    rcases succeeded with ⟨count, counted, _, two, a, aFound, b, bFound, _, aSecure, left,
      leftRead, _, bSecure, right, rightRead, side, chosen, rfl⟩
    rcases aFound with ⟨first, firstFound, aFound⟩
    rcases bFound with ⟨second, secondFound, bFound⟩
    have pair : hosts = .arr [first, second] := by
      cases hosts with
      | arr items =>
          simp only [hostCount, Except.ok.injEq] at counted
          subst counted
          rcases List.length_eq_two.mp (by simpa using two) with ⟨head, next, rfl⟩
          cases firstFound
          cases secondFound
          rfl
      | str text =>
          -- the characters of a text are no host objects
          cases firstFound
          simp [hostFromDict] at aFound
      | _ => simp [hostAt] at firstFound
    refine ⟨⟨⟨a, b, ⟨first, second, pair, aFound, bFound⟩, aSecure, bSecure⟩, ?_⟩, side,
      side.pick a b, side.pick b a, ⟨first, second, pair, ?_, ?_⟩,
      (masterSide_eq_ok leftRead rightRead).mp chosen, rfl⟩
    · rintro (_ | _)
      · exact ⟨left, leftRead⟩
      · exact ⟨right, rightRead⟩
    · cases side <;> assumption
    · cases side <;> assumption
  · rintro ⟨⟨⟨a, b, ⟨first, second, pair, aFound, bFound⟩, aSecure, bSecure⟩, readable⟩, side,
      master, peer, ⟨_, _, same, masterFound, peerFound⟩, complementary, rfl⟩
    rw [pair] at same
    cases same
    rcases readable .left with ⟨left, leftRead⟩
    rcases readable .right with ⟨right, rightRead⟩
    have chosen := (masterSide_eq_ok leftRead rightRead).mpr complementary
    simp only [decided, pairOf, bind_eq_ok, raiseIf_eq_ok, pure_eq_ok]
    refine ⟨2, by rw [pair]; rfl, (), by simp, a, ⟨first, by rw [pair]; rfl, aFound⟩, b,
      ⟨second, by rw [pair]; rfl, bFound⟩, (), aSecure, left, leftRead, (), bSecure, right,
      rightRead, side, chosen, ?_⟩
    cases side with
    | left =>
        cases Except.ok.inj (masterFound.symm.trans aFound)
        cases Except.ok.inj (peerFound.symm.trans bFound)
        rfl
    | right =>
        cases Except.ok.inj (masterFound.symm.trans bFound)
        cases Except.ok.inj (peerFound.symm.trans aFound)
        rfl

/-! ## Swapped hosts -/

end Decision

def pairConfig : Config :=
  [("opnsense_hosts", .arr [.obj [("name", .str "A"), ("url", .str "https://a.test")],
      .obj [("name", .str "B"), ("url", .str "https://b.test")]]),
    ("cluster_mode", .str "auto")]

end OpnsensePlugin
