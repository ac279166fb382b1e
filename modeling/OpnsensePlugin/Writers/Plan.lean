import OpnsensePlugin.Writers.Runs

/-!
# What a plan guarantees

The conditions under which synchronization may be triggered, in the terms of the
answers of both nodes, and that `_sync_preflight` returns a plan only when its
answers meet them.
-/

namespace OpnsensePlugin

open Effects Python

section

variable [Runtime] {data : Json} {address : IpAddress} {target : Str}

/-! ## Conditions -/

/-- The selection has the section of the resource and no section outside the firewall. -/
def SelectsFirewall (resource : Resource) (hasync : List (Str × Json)) : Prop :=
  requiredSection resource ∈ selectedSections hasync ∧
    ∀ name ∈ selectedSections hasync, name ∈ allowedSections

/-- An HTTPS URL of an address and nothing but it -/
structure AddressUrl (target : Str) (address : IpAddress) (parsed : SplitResult) : Prop where
  split : urlsplit target = some parsed
  https : parsed.scheme = "https"
  anonymous : parsed.username = none ∧ parsed.password = none
  rootPath : parsed.path = [] ∨ parsed.path = "/"
  query : parsed.query = []
  fragment : parsed.fragment = []
  host : parsed.hostname.bind ipAddress = some address

/-- A literal address, or an HTTPS URL of one, that can be the address of another node -/
structure LiteralTarget (target : Str) (address : IpAddress) : Prop where
  literal : ipAddress target = some address ∨ ∃ parsed, AddressUrl target address parsed
  remote : address.isLoopback = false
  specified : address.isUnspecified = false
  unicast : address.isMulticast = false

/-- The interface has the address, and not as a CARP VIP. -/
def InterfaceHas (interface : Json) (address : IpAddress) : Prop :=
  ∃ fields family entries entry, interface = .obj fields ∧
    (family = "ipv4" ∨ family = "ipv6") ∧ fieldD fields family (.arr []) = .arr entries ∧
    Json.obj entry ∈ entries ∧ (fieldD entry "vhid" .null).truthy = false ∧
    ipAddressOf (fieldD entry "ipaddr" .null) = some address

/-- An interface of the node has the address. -/
def OwnAddress (data : Json) (address : IpAddress) : Prop :=
  ∃ config, data = .obj config ∧ ∃ entry ∈ config, InterfaceHas entry.2 address

def vipPair (vip : CarpVhid) : Str × Str := (vip.vhid, vip.ipaddr)

/-- The node is not in maintenance and has the status on all its CARP VIPs, of which it has one. -/
structure HoldsVips (status : Str) (reply : Reply) : Prop where
  active : maintenanceOf (safeFields reply) = false
  present : carpVhids (safeFields reply) ≠ []
  every : ∀ vip ∈ carpVhids (safeFields reply), vip.status = status

def SameVips (left right : Reply) : Prop :=
  ∀ pair, pair ∈ (carpVhids (safeFields left)).map vipPair ↔
    pair ∈ (carpVhids (safeFields right)).map vipPair

/-- The answers of a preflight, in the order of its requests -/
structure PreflightAnswers where
  hasync : Json
  peerHasync : Json
  peerInterfaces : Json
  interfaces : Json
  vips : Reply
  peerVips : Reply

def PreflightAnswers.trace (answers : PreflightAnswers) : Trace Role :=
  [⟨.get .client VerifiedFirewallWriter.hasyncPath [], .ok answers.hasync⟩,
    ⟨.get .peer VerifiedFirewallWriter.hasyncPath [], .ok answers.peerHasync⟩,
    ⟨.get .peer VerifiedFirewallWriter.interfacesPath [], .ok answers.peerInterfaces⟩,
    ⟨.get .client VerifiedFirewallWriter.interfacesPath [], .ok answers.interfaces⟩,
    ⟨.get .client vipStatusPath [], answers.vips⟩,
    ⟨.get .peer vipStatusPath [], answers.peerVips⟩]

/-- The conditions for synchronizing from the local node to the peer -/
structure Safe (resource : Resource) (answers : PreflightAnswers) (plan : SyncPlan) : Prop where
  selection : ∃ hasync, hasyncOf answers.hasync = .ok (.obj hasync) ∧
    SelectsFirewall resource hasync ∧
    fieldD hasync "synchronizetoip" (.str []) = .str plan.target
  oneWay : ∃ hasync, hasyncOf answers.peerHasync = .ok (.obj hasync) ∧
    field hasync "synchronizetoip" = some (.str [])
  target : ∃ address, LiteralTarget plan.target address ∧
    OwnAddress answers.peerInterfaces address ∧ ¬ OwnAddress answers.interfaces address
  master : HoldsVips "MASTER" answers.vips
  backup : HoldsVips "BACKUP" answers.peerVips
  sameVips : SameVips answers.vips answers.peerVips

/-! ## Scope and target -/

theorem urlHost_eq_some {host : Str} (accepted : urlHost target = some host)
    (literal : ipAddress host = some address) : ∃ parsed, AddressUrl target address parsed := by
  simp only [urlHost, Option.bind_eq_bind, Option.bind_eq_some_iff] at accepted
  rcases accepted with ⟨parsed, split, accepted⟩
  split at accepted
  · cases accepted
  rename_i plain
  rcases Option.bind_eq_some_iff.mp accepted with ⟨port, _, named⟩
  split at named
  · cases named
  have parts : parsed.scheme = "https" ∧ (parsed.username = none ∧ parsed.password = none) ∧
      (parsed.path = [] ∨ parsed.path = "/") ∧ parsed.query = [] ∧ parsed.fragment = [] := by
    simp only [Bool.or_eq_true, not_or, decide_eq_true_eq, not_not, Bool.not_eq_true,
      Option.isSome_eq_false_iff, Option.isNone_iff_eq_none, Bool.not_eq_false',
      List.isEmpty_iff] at plain
    rcases plain with ⟨⟨⟨⟨⟨https, username⟩, password⟩, path⟩, query⟩, fragment⟩
    exact ⟨https, ⟨username, password⟩, by simpa using path, query, fragment⟩
  rcases parts with ⟨https, anonymous, path, query, fragment⟩
  exact ⟨parsed, split, https, anonymous, path, query, fragment, by simp [named, literal]⟩

theorem literalTarget_of_host {host : Str} (literal : ipAddress host = some address)
    (written : host = target ∨ urlHost target = some host)
    (usable : (address.isLoopback || address.isUnspecified || address.isMulticast) = false) :
    LiteralTarget target address := by
  simp only [Bool.or_eq_false_iff] at usable
  refine ⟨?_, usable.1.1, usable.1.2, usable.2⟩
  rcases written with rfl | accepted
  · exact .inl literal
  · exact .inr (urlHost_eq_some accepted literal)

theorem targetAddress_eq_some {value : Json} (accepted : targetAddress value = some address) :
    ∃ target, value = .str target ∧ LiteralTarget target address := by
  cases value with
  | str target =>
      simp only [targetAddress, Option.bind_eq_bind] at accepted
      split at accepted
      all_goals
        rcases Option.bind_eq_some_iff.mp accepted with ⟨host, written, rest⟩
        rcases Option.bind_eq_some_iff.mp rest with ⟨found, literal, usable⟩
        split at usable
        · cases usable
        rename_i unused
        cases usable
        refine ⟨target, rfl, literalTarget_of_host literal ?_ (by simpa using unused)⟩
      · exact .inr written
      · cases written
        exact .inl rfl
  | _ => cases accepted

theorem checkedTarget_eq_ok {value : Json} (checked : checkedTarget value = .ok (target, address)) :
    value = .str target ∧ LiteralTarget target address := by
  unfold checkedTarget at checked
  split at checked
  · rename_i accepted
    cases checked
    rcases targetAddress_eq_some accepted with ⟨_, same, literal⟩
    cases same
    exact ⟨rfl, literal⟩
  · cases checked

theorem hasyncPair_eq_ok {localData peerData : Json} {hasync : List (Str × Json)} {reverse : Str}
    (accepted : hasyncPair localData peerData = .ok (hasync, reverse)) :
    hasyncOf localData = .ok (.obj hasync) ∧
      ∃ other, hasyncOf peerData = .ok (.obj other) ∧
        field other "synchronizetoip" = some (.str reverse) := by
  simp only [hasyncPair, bind_eq_ok, raiseIf_eq_ok] at accepted
  rcases accepted with ⟨_, _, here, localEq, there, peerEq, accepted⟩
  split at accepted
  · rename_i local_ peer
    split at accepted
    · rename_i text reverseEq
      cases accepted
      exact ⟨localEq, _, peerEq, reverseEq⟩
    · cases accepted
  · cases accepted

theorem syncScope_eq_ok {resource : Resource} {localData peerData : Json} {sections : List Str}
    (accepted : syncScope resource localData peerData = .ok (target, sections, address)) :
    (∃ hasync, hasyncOf localData = .ok (.obj hasync) ∧ SelectsFirewall resource hasync ∧
        fieldD hasync "synchronizetoip" (.str []) = .str target) ∧
      (∃ hasync, hasyncOf peerData = .ok (.obj hasync) ∧
        field hasync "synchronizetoip" = some (.str [])) ∧ LiteralTarget target address := by
  simp only [syncScope, bind_eq_ok, raiseIf_eq_ok, pure_eq_ok] at accepted
  rcases accepted with ⟨⟨hasync, reverse⟩, pair, _, scope, _, oneWay, ⟨text, found⟩, checked, same⟩
  cases same
  rcases hasyncPair_eq_ok pair with ⟨localEq, other, peerEq, reverseEq⟩
  simp only [Bool.not_eq_false', List.isEmpty_iff] at oneWay
  subst oneWay
  simp only [Bool.or_eq_false_iff, decide_eq_false_iff_not, not_not, Bool.not_eq_false',
    List.all_eq_true, decide_eq_true_eq] at scope
  rcases checkedTarget_eq_ok checked with ⟨written, literal⟩
  exact ⟨⟨hasync, localEq, scope, written⟩, ⟨other, peerEq, reverseEq⟩, literal⟩

/-! ## Interfaces -/

omit [Runtime] in
theorem mem_ownAddress {entries : List Json} :
    address ∈ entries.filterMap ownAddress ↔
      ∃ entry, Json.obj entry ∈ entries ∧ (fieldD entry "vhid" .null).truthy = false ∧
        ipAddressOf (fieldD entry "ipaddr" .null) = some address := by
  rw [List.mem_filterMap]
  constructor
  · intro found
    rcases found with ⟨entry, member, own⟩
    cases entry with
    | obj entry =>
        simp only [ownAddress] at own
        split at own
        · cases own
        rename_i single
        exact ⟨entry, member, by simpa using single, own⟩
    | _ => cases own
  · intro found
    rcases found with ⟨entry, member, single, own⟩
    exact ⟨_, member, by simp [ownAddress, single, own]⟩

omit [Runtime] in
theorem familyAddresses_eq_ok {interface : List (Str × Json)} {family : Str}
    {found : List IpAddress} (read : familyAddresses interface family = .ok found) :
    ∃ entries, fieldD interface family (.arr []) = .arr entries ∧
      found = entries.filterMap ownAddress := by
  unfold familyAddresses at read
  split at read
  · rename_i entries listed
    cases read
    exact ⟨entries, listed, rfl⟩
  · cases read

omit [Runtime] in
theorem mem_interfaceAddresses {interface : Json} {found : List IpAddress}
    (read : interfaceAddresses interface = .ok found) :
    address ∈ found ↔ InterfaceHas interface address := by
  cases interface with
  | obj fields =>
      simp only [interfaceAddresses, bind_eq_ok, pure_eq_ok] at read
      rcases read with ⟨v4, first, v6, second, rfl⟩
      rcases familyAddresses_eq_ok first with ⟨entries4, listed4, rfl⟩
      rcases familyAddresses_eq_ok second with ⟨entries6, listed6, rfl⟩
      rw [List.mem_append, mem_ownAddress, mem_ownAddress]
      constructor
      · intro has
        rcases has with ⟨entry, member, own⟩ | ⟨entry, member, own⟩
        · exact ⟨fields, _, entries4, entry, rfl, .inl rfl, listed4, member, own⟩
        · exact ⟨fields, _, entries6, entry, rfl, .inr rfl, listed6, member, own⟩
      · intro has
        rcases has with ⟨_, family, entries, entry, same, rfl | rfl, listed, member, own⟩
        all_goals cases same
        · rw [listed4] at listed
          cases listed
          exact .inl ⟨entry, member, own⟩
        · rw [listed6] at listed
          cases listed
          exact .inr ⟨entry, member, own⟩
  | _ =>
      cases read
      simp [InterfaceHas]

omit [Runtime] in
theorem mem_mapM_interfaces {config : List (Str × Json)} {found : List (List IpAddress)}
    (read : config.mapM (fun entry => interfaceAddresses entry.2) = .ok found) :
    address ∈ found.flatten ↔ ∃ entry ∈ config, InterfaceHas entry.2 address := by
  induction config generalizing found with
  | nil =>
      cases read
      simp
  | cons head rest ih =>
      rw [List.mapM_cons] at read
      simp only [bind_eq_ok, pure_eq_ok] at read
      rcases read with ⟨first, firstEq, others, othersEq, rfl⟩
      rw [List.flatten_cons, List.mem_append, mem_interfaceAddresses firstEq, ih othersEq,
        List.exists_mem_cons_iff]

omit [Runtime] in
/-- The set collected from an answer has exactly the own addresses of the node. -/
theorem mem_addressesOf {found : List IpAddress} (read : addressesOf data = .ok found) :
    address ∈ found ↔ OwnAddress data address := by
  cases data with
  | obj config =>
      simp only [addressesOf, bind_eq_ok, pure_eq_ok] at read
      rcases read with ⟨lists, mapped, rfl⟩
      rw [mem_mapM_interfaces mapped]
      constructor
      · intro has
        exact ⟨config, rfl, has⟩
      · intro own
        rcases own with ⟨_, same, has⟩
        cases same
        exact has
  | _ => cases read

/-! ## CARP -/

theorem carpIdentities_eq_ok {reply : Reply} {status : CarpStatus} {required : Str}
    {pairs : List (Str × Str)} (collected : carpStatusOf (safeFields reply) = .ok status)
    (read : carpIdentities status required = .ok pairs) :
    HoldsVips required reply ∧ pairs = (carpVhids (safeFields reply)).map vipPair := by
  rcases carpStatusOf_eq_ok collected with ⟨vhids, _, maintenance⟩
  simp only [carpIdentities, bind_eq_ok, raiseIf_eq_ok, pure_eq_ok] at read
  rcases read with ⟨_, holds, rfl⟩
  rw [vhids, maintenance] at holds
  simp only [Bool.or_eq_false_iff, List.isEmpty_eq_false_iff, List.any_eq_false,
    decide_eq_true_eq, not_not] at holds
  rcases holds with ⟨⟨⟨_, active⟩, present⟩, every⟩
  refine ⟨⟨active, present, every⟩, ?_⟩
  rw [vhids]
  rfl

omit [Runtime] in
theorem sameSet_iff {α : Type} [DecidableEq α] {left right : List α} :
    sameSet left right = true ↔ ∀ item, item ∈ left ↔ item ∈ right := by
  simp only [sameSet, Bool.and_eq_true, List.all_eq_true, decide_eq_true_eq]
  exact ⟨fun both item => ⟨both.1 item, both.2 item⟩,
    fun same => ⟨fun item => (same item).mp, fun item => (same item).mpr⟩⟩

theorem planOf_eq_ok {left right : Reply} {owned standby : CarpStatus} {sections : List Str}
    {plan : SyncPlan} (leftEq : carpStatusOf (safeFields left) = .ok owned)
    (rightEq : carpStatusOf (safeFields right) = .ok standby)
    (planned : planOf target sections owned standby = .ok plan) :
    plan.target = target ∧ HoldsVips "MASTER" left ∧ HoldsVips "BACKUP" right ∧
      SameVips left right := by
  simp only [planOf, bind_eq_ok, raiseIf_eq_ok, pure_eq_ok] at planned
  rcases planned with ⟨here, localPairs, there, peerPairs, _, same, rfl⟩
  rcases carpIdentities_eq_ok leftEq localPairs with ⟨master, rfl⟩
  rcases carpIdentities_eq_ok rightEq peerPairs with ⟨backup, rfl⟩
  exact ⟨rfl, master, backup, sameSet_iff.mp (by simpa using same)⟩

namespace VerifiedFirewallWriter

/-! ## The preflight -/

section

variable {writer : VerifiedFirewallWriter} {State : Type} {before after : State}
  {trace : Trace Role}

omit [Runtime] in
theorem addresses_ok {role : Role} {found : List IpAddress}
    (run : (addresses role : Py Role State (List IpAddress)).Run before trace (.ok found) after) :
    ∃ data, trace = [⟨.get role interfacesPath [], .ok data⟩] ∧ addressesOf data = .ok found := by
  rw [addresses, Action.run_bind_ok] at run
  rcases run with ⟨front, data, middle, back, rfl, asked, read⟩
  rw [run_clientGet] at asked
  rcases asked with ⟨reply, rfl, received, rfl⟩
  rw [Action.run_ofExcept] at read
  rcases read with ⟨rfl, read, rfl⟩
  have answer := received_eq_ok.mp received.symm
  subst answer
  exact ⟨data, rfl, read.symm⟩

omit [Runtime] in
theorem isExclusive_ok {exclusive : Bool}
    (run : (isExclusive address : Py Role State Bool).Run before trace (.ok exclusive) after)
    (success : exclusive = true) :
    ∃ peerInterfaces interfaces,
      trace = [⟨.get .peer interfacesPath [], .ok peerInterfaces⟩,
        ⟨.get .client interfacesPath [], .ok interfaces⟩] ∧
      OwnAddress peerInterfaces address ∧ ¬ OwnAddress interfaces address := by
  subst success
  rw [isExclusive, Action.run_bind_ok] at run
  rcases run with ⟨front, peer, middle, back, rfl, peerRead, run⟩
  rcases addresses_ok peerRead with ⟨peerInterfaces, rfl, peerEq⟩
  split at run
  rotate_left
  · simp at run
  rename_i found
  rw [Action.run_bind_ok] at run
  rcases run with ⟨front, own, last, back, rfl, localRead, run⟩
  rcases addresses_ok localRead with ⟨interfaces, rfl, localEq⟩
  simp only [Action.run_pure, Except.ok.injEq] at run
  rcases run with ⟨rfl, exclusive, _⟩
  have foreign : address ∉ own := by simpa using exclusive.symm
  exact ⟨peerInterfaces, interfaces, rfl, (mem_addressesOf peerEq).mp found,
    fun has => foreign ((mem_addressesOf localEq).mpr has)⟩

theorem xmlrpcPreflight_ok {plan : SyncPlan}
    (run : (writer.xmlrpcPreflight : Py Role State SyncPlan).Run before trace (.ok plan) after) :
    ∃ answers : PreflightAnswers, trace = answers.trace ∧ Safe writer.resource answers plan := by
  rw [xmlrpcPreflight, Action.run_bind_ok] at run
  rcases run with ⟨_, hasync, _, _, rfl, first, run⟩
  rw [Action.run_bind_ok] at run
  rcases run with ⟨_, peerHasync, _, _, rfl, second, run⟩
  rw [run_clientGet] at first second
  rcases first with ⟨_, rfl, received, rfl⟩
  rcases second with ⟨_, rfl, peerReceived, rfl⟩
  have answer := received_eq_ok.mp received.symm
  have peerAnswer := received_eq_ok.mp peerReceived.symm
  subst answer
  subst peerAnswer
  rw [Action.run_bind_ofExcept] at run
  rcases run with ⟨⟨target, sections, address⟩, scopeEq, run⟩ | ⟨_, _, _, impossible, _⟩
  rotate_left
  · cases impossible
  rcases syncScope_eq_ok scopeEq with ⟨⟨fields, selectedEq, scope, written⟩, oneWay, literal⟩
  rw [Action.run_bind_ok] at run
  rcases run with ⟨_, exclusive, _, _, rfl, checking, run⟩
  rw [Action.run_bind_raiseIf] at run
  rcases run with ⟨isExclusive, run⟩ | ⟨_, _, impossible, _⟩
  rotate_left
  · cases impossible
  rcases isExclusive_ok checking (by simpa using isExclusive) with
    ⟨peerInterfaces, interfaces, rfl, there, notHere⟩
  rw [Action.run_bind_ok] at run
  rcases run with ⟨_, left, _, _, rfl, leftRead, run⟩
  rw [Action.run_bind_ok] at run
  rcases run with ⟨_, right, _, _, rfl, rightRead, run⟩
  rw [run_collectCarpStatus] at leftRead rightRead
  rcases leftRead with ⟨vips, rfl, leftEq, rfl⟩
  rcases rightRead with ⟨peerVips, rfl, rightEq, rfl⟩
  rw [Action.run_ofExcept] at run
  rcases run with ⟨rfl, planned, rfl⟩
  rcases planOf_eq_ok leftEq.symm rightEq.symm planned.symm with ⟨rfl, master, backup, same⟩
  exact ⟨⟨hasync, peerHasync, peerInterfaces, interfaces, vips, peerVips⟩, rfl,
    ⟨fields, selectedEq, scope, written⟩, oneWay, ⟨address, literal, there, notHere⟩, master,
    backup, same⟩

/-- A plan is returned in `xmlrpc_pf` mode with a peer only, and only if it is safe. -/
theorem syncPreflight_some {plan : SyncPlan}
    (run : (writer.syncPreflight : Py Role State (Option SyncPlan)).Run before trace
      (.ok (some plan)) after) :
    writer.peer.isSome ∧ writer.haSyncMode = .xmlrpcPf ∧
      ∃ answers : PreflightAnswers, trace = answers.trace ∧
        Safe writer.resource answers plan := by
  unfold syncPreflight at run
  split at run
  · simp at run
  rename_i configured
  simp only [ne_eq, Bool.or_eq_true, Option.isNone_iff_eq_none, decide_not, Bool.not_eq_true',
    decide_eq_false_iff_not, not_or, not_not] at configured
  rw [Action.run_bind_ok] at run
  rcases run with ⟨front, found, middle, back, rfl, preflight, run⟩
  simp only [Action.run_pure, Except.ok.injEq, Option.some.injEq] at run
  rcases run with ⟨rfl, rfl, _⟩
  rw [List.append_nil]
  exact ⟨Option.isSome_iff_ne_none.mpr configured.1, configured.2, xmlrpcPreflight_ok preflight⟩

/-- The other direction of the mode: a configured pair gets a plan or an error. -/
theorem syncPreflight_ne_none (paired : writer.peer.isSome)
    (mode : writer.haSyncMode = .xmlrpcPf)
    (run : (writer.syncPreflight : Py Role State (Option SyncPlan)).Run before trace
      (.ok none) after) : False := by
  unfold syncPreflight at run
  split at run
  · rename_i alone
    simp [mode, Option.isSome_iff_ne_none.mp paired] at alone
  · rw [Action.run_bind_ok] at run
    rcases run with ⟨front, found, middle, back, rfl, _, run⟩
    simp at run

end

end VerifiedFirewallWriter

end

end OpnsensePlugin
