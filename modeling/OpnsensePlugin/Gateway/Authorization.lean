import OpnsensePlugin.Effects.Histories
import OpnsensePlugin.Gateway.Destinations
import OpnsensePlugin.Management.BackupHistory

/-!
# What the gate lets through

Whatever route is called with whatever request, a POST that can change a node is sent
only after the configuration has opened the plugin for writing, the host application has
granted the permission, and the target has been confirmed by what the nodes report; it
goes to that target. Nothing on the disk is touched without the permission.
-/

namespace OpnsensePlugin

open Effects Python

abbrev GateTrace := List (Event Ask Ask.Answer)

/-- Neither a POST to a node nor an operation on the disk -/
def Ask.PostsWithin (allowed : Host → Str → Prop) : Ask → Prop
  | .exchange request => request.PostsWithin allowed
  | .disk _ => False
  | _ => True

abbrev Ask.IsQuiet : Ask → Prop := Ask.PostsWithin fun _ _ => False

section Inside

variable {Node State α : Type} {hosts : Node → Host} {part : Part GatewayState State}
  {action : Py Node State α} {allowed : Node → Str → Prop} {wider : Host → Str → Prop}

theorem onHost_postsWithin {request : Request Node} (within : request.PostsWithin allowed)
    (widens : ∀ node path, allowed node path → wider (hosts node) path) :
    Ask.PostsWithin wider (.exchange (request.onHost hosts)) := by
  cases request with
  | post node path body => exact widens node path within
  | _ => exact trivial

/-- The POSTs of code on the hosts that its nodes are -/
theorem inside_posts (posts : Posts allowed action)
    (widens : ∀ node path, allowed node path → wider (hosts node) path) :
    Action.Ensures (Action.Requests (Ask.PostsWithin wider))
      (Action.inside (atHosts hosts) part action : Gate (Except Exn α)) := by
  refine Action.requests_inside posts ?_
  intro request within
  exact onHost_postsWithin within widens

theorem inside_quiet (posts : Posts (fun _ _ => False) action) :
    Action.Ensures (Action.Requests Ask.IsQuiet)
      (Action.inside (atHosts hosts) part action : Gate (Except Exn α)) :=
  inside_posts posts fun _ _ none => none

end Inside

section Runtime

variable [Runtime]

/-! ## The target -/

section Target

variable {State : Type} {resolved : Host → Host → Py Side State Side} {cfg : Config}
  {before after : State} {trace : Trace Side} {host : Host} {peer : Option Host}

/-- A write in cluster mode has a target only after both nodes have reported. -/
theorem firewallTarget_probes (cluster : isClusterMode cfg = .ok true)
    (run : (firewallTarget resolved cfg true).Run before trace (.ok (some (host, peer))) after) :
    ∃ answers : Answers, trace = [⟨.get .left vipStatusPath [], answers .left⟩,
        ⟨.get .right vipStatusPath [], answers .right⟩] ∧
      decided answers (configuredHosts cfg) = .ok (some (host, peer)) := by
  have asked : ∃ first second, trace = [⟨.get .left vipStatusPath [], first⟩,
      ⟨.get .right vipStatusPath [], second⟩] := by
    unfold firewallTarget at run
    dsimp only at run
    split at run
    · simp at run
    rw [cluster, Action.ofExcept_ok_bind] at run
    simp only [if_true, clusterTarget, Action.run_bind_ofExcept, Action.run_bind_raiseIf,
      probePair] at run
    rcases run with ⟨_, _, ⟨_, run⟩ | ⟨_, _, impossible, _⟩⟩ | ⟨_, _, _, impossible, _⟩
    rotate_left
    · cases impossible
    · cases impossible
    rcases run with ⟨_, _, ⟨_, _, run⟩ | ⟨_, _, _, impossible, _⟩⟩ | ⟨_, _, _, impossible, _⟩
    rotate_left
    · cases impossible
    · cases impossible
    rcases run with ⟨_, _, run⟩ | ⟨_, _, _, impossible, _⟩
    rotate_left
    · cases impossible
    rw [Action.run_bind_ok] at run
    rcases run with ⟨_, left, _, _, rfl, probing, run⟩
    rw [run_collectCarpStatus] at probing
    rcases probing with ⟨first, rfl, _, _⟩
    rw [Action.run_bind_ofExcept] at run
    rcases run with ⟨_, _, run⟩ | ⟨_, _, _, impossible, _⟩
    rotate_left
    · cases impossible
    rw [Action.run_bind_ok] at run
    rcases run with ⟨_, right, _, _, rfl, probing, run⟩
    rw [run_collectCarpStatus] at probing
    rcases probing with ⟨second, rfl, _, _⟩
    rw [Action.run_bind_ofExcept] at run
    rcases run with ⟨_, _, run⟩ | ⟨_, _, _, impossible, _⟩
    rotate_left
    · cases impossible
    rw [Action.run_pure] at run
    rcases run with ⟨rfl, _, _⟩
    exact ⟨first, second, rfl⟩
  rcases asked with ⟨first, second, rfl⟩
  refine ⟨fun side => side.pick first second, rfl, ?_⟩
  have answered : Answered (fun side => side.pick first second)
      [⟨.get .left vipStatusPath [], first⟩, ⟨.get .right vipStatusPath [], second⟩] := by
    intro side reply member
    simp only [List.mem_cons, List.not_mem_nil, or_false] at member
    rcases member with same | same <;> cases same <;> rfl
  exact (firewallTarget_determined cluster _ _ _ _ run answered).1.symm

theorem firewallTarget_single (single : isClusterMode cfg = .ok false) {write : Bool}
    (run : (firewallTarget resolved cfg write).Run before trace (.ok (some (host, peer))) after) :
    peer = none ∧ (hostAt (configuredHosts cfg) 0 >>= hostFromDict) = .ok host := by
  unfold firewallTarget at run
  dsimp only at run
  split at run
  · simp at run
  rw [single, Action.ofExcept_ok_bind] at run
  simp only [Bool.false_eq_true, if_false, singleTarget, Action.run_bind_ofExcept,
    Action.run_pure] at run
  rcases run with ⟨found, located, _, same, _⟩ | ⟨_, _, _, impossible, _⟩
  · cases same
    exact ⟨rfl, located⟩
  · cases impossible

end Target

/-- The target of a write, as the configuration and the reports of the nodes give it -/
inductive ConfirmedTarget (cfg : Config) (history : GateTrace) : Host → Option Host → Prop
  | single {host : Host} (single : isClusterMode cfg = .ok false)
      (found : (hostAt (configuredHosts cfg) 0 >>= hostFromDict) = .ok host) :
      ConfirmedTarget cfg history host none
  | cluster {answers : Answers} {side : Side} {master peer : Host}
      (cluster : isClusterMode cfg = .ok true)
      (reported : ∀ node : Side, (⟨.exchange (.get (configuredHost cfg node) vipStatusPath []),
        answers node⟩ : Event Ask Ask.Answer) ∈ history)
      (pair : ConfiguredPair (configuredHosts cfg) side master peer)
      (complementary : Complementary LastOfVip answers side) :
      ConfirmedTarget cfg history master (some peer)

theorem ConfirmedTarget.extend {cfg : Config} {history : GateTrace} {host : Host}
    {peer : Option Host} (confirmed : ConfirmedTarget cfg history host peer) (more : GateTrace) :
    ConfirmedTarget cfg (history ++ more) host peer := by
  cases confirmed with
  | single single found => exact .single single found
  | cluster cluster reported pair complementary =>
      exact .cluster cluster (fun node => List.mem_append_left _ (reported node)) pair complementary

theorem targetOf_confirmed {cfg : Config} {before after : GatewayState} {trace : GateTrace}
    {host : Host} {peer : Option Host}
    (run : (targetOf cfg true).Run before trace (.ok (.ok (some (host, peer)))) after) :
    ConfirmedTarget cfg trace host peer := by
  rcases Action.run_inside.mp run with ⟨own, result, last, stand, inner, same, _⟩
  cases same
  cases mode : isClusterMode cfg with
  | error error =>
      unfold firewallTarget at inner
      dsimp only at inner
      split at inner
      · simp at inner
      · simp [mode, Action.run_bind_ofExcept] at inner
  | ok cluster =>
      cases cluster with
      | false =>
          rcases firewallTarget_single mode inner with ⟨rfl, found⟩
          exact .single mode found
      | true =>
          rcases firewallTarget_probes mode inner with ⟨answers, rfl, chosen⟩
          rcases decided_eq_ok.mp chosen with ⟨_, side, master, other, pair, complementary, same⟩
          cases same
          refine .cluster mode ?_ pair complementary
          intro node
          rcases List.forall₂_cons_right_iff.mp stand with ⟨first, rest, stands, later, rfl⟩
          rcases List.forall₂_cons_right_iff.mp later with ⟨second, none, again, _, rfl⟩
          cases stands
          cases again
          cases node <;> simp [atHosts, Request.onHost]

/-! ## The gate -/

/-- What has been found before a POST that changes something -/
structure Access (form : WebRequest) (history : GateTrace) (master : Host) (peer : Option Host) :
    Prop where
  posted : form.method = ("POST" : Str)
  object : form.json.isObj = true
  opened : ∃ fields probes, history = ⟨.config, .json (.obj fields)⟩ ::
    ⟨.permission, .returned true⟩ :: probes ∧
      field fields "read_only" = some (.bool false) ∧
      ConfirmedTarget (loadConfig (.json (.obj fields))) probes master peer

section Gates

variable {form : WebRequest} {cfg : Config} {before after : GatewayState} {trace : GateTrace}
  {master : Host} {peer : Option Host} {context : Context} {history : GateTrace}

omit [Runtime] in
theorem opened_of_not_readOnly {file : ConfigFile} (opened : isReadOnly (loadConfig file) = false) :
    ∃ fields, file = .json (.obj fields) ∧ field fields "read_only" = some (.bool false) := by
  rcases file with _ | _ | value
  · cases opened
  · cases opened
  · cases value with
    | obj fields =>
        refine ⟨fields, rfl, ?_⟩
        have shown : isNotFalse (.bool (isNotFalse (fieldD fields "read_only" .null))) = false := by
          simpa [isReadOnly, loadConfig, fieldD, field_setField_self] using opened
        cases found : field fields "read_only" with
        | none => simp [fieldD, found, isNotFalse] at shown
        | some value =>
            cases value with
            | bool flag => cases flag <;> simp_all [fieldD, isNotFalse]
            | _ => simp [fieldD, found, isNotFalse] at shown
    | _ => cases opened

theorem Access.extend (access : Access form history master peer) (more : GateTrace) :
    Access form (history ++ more) master peer := by
  rcases access with ⟨posted, object, fields, probes, rfl, opened, confirmed⟩
  exact ⟨posted, object, fields, probes ++ more, rfl, opened, confirmed.extend more⟩

theorem targetOf_quiet {write : Bool} :
    Action.Ensures (Action.Requests Ask.IsQuiet) (targetOf cfg write) :=
  inside_quiet firewallTarget_posts

omit [Runtime] in
theorem ask_quiet {request : Ask} (quiet : request.IsQuiet) :
    Action.Ensures (Action.Requests Ask.IsQuiet) (Action.ask request : Gate _) := by
  apply Action.ensures_ask
  intro state answer
  simpa [Action.Requests] using quiet

omit [Runtime] in
theorem readConfig_quiet : Action.Ensures (Action.Requests Ask.IsQuiet) readConfig :=
  Action.ensures_bind (ask_quiet trivial) fun _ => Action.ensures_pure

omit [Runtime] in
theorem firewallCanWrite_quiet : Action.Ensures (Action.Requests Ask.IsQuiet) firewallCanWrite := by
  refine Action.ensures_bind (ask_quiet trivial) ?_
  intro probe
  cases probe <;> exact Action.ensures_pure

theorem contextOf_quiet {write : Bool} {target : Except Exn (Option (Host × Option Host))} :
    Action.Ensures (Action.Requests Ask.IsQuiet) (contextOf form cfg write target) := by
  rcases target with error | _ | ⟨host, peer⟩
  · simp only [contextOf]
    split
    · exact Action.ensures_pure
    · split
      · exact Action.ensures_pure
      · exact Action.ensures_raise
  · exact Action.ensures_pure
  · exact Action.ensures_pure

theorem writeContext_quiet :
    Action.Ensures (Action.Requests Ask.IsQuiet) (writeContext form cfg) := by
  refine Action.ensures_bind firewallCanWrite_quiet ?_
  intro granted
  split
  · exact Action.ensures_pure
  · split
    · exact Action.ensures_pure
    · exact Action.ensures_bind targetOf_quiet fun _ => contextOf_quiet

/-- The gate itself changes nothing. -/
theorem managementContext_quiet {mutation : Option Bool} :
    Action.Ensures (Action.Requests Ask.IsQuiet) (managementContext form mutation) := by
  refine Action.ensures_bind readConfig_quiet ?_
  intro cfg
  split
  · exact Action.ensures_pure
  · split
    · split
      · exact Action.ensures_pure
      · exact writeContext_quiet
    · exact Action.ensures_bind targetOf_quiet fun _ => contextOf_quiet

/-- The context of a call that is let through -/
def WebRequest.contextFor (form : WebRequest) (cfg : Config) (write : Bool) (host : Host)
    (peer : Option Host) : Context where
  cfg := cfg
  readOnly := isReadOnly cfg
  write := write
  host := host
  peer := peer
  actor := form.actor
  body := if write then form.json else .null

theorem contextOf_ok {write : Bool} {target : Except Exn (Option (Host × Option Host))}
    (run : (contextOf form cfg write target).Run before trace (.ok (.ok context)) after) :
    trace = [] ∧ after = before ∧ ∃ host peer, target = .ok (some (host, peer)) ∧
      context = form.contextFor cfg write host peer := by
  rcases target with error | _ | ⟨host, peer⟩
  · simp only [contextOf] at run
    split at run
    · simp at run
    · split at run <;> simp at run
  · simp [contextOf, unconfiguredResponse] at run
  · simp only [contextOf, Action.run_pure, Except.ok.injEq] at run
    rcases run with ⟨rfl, rfl, rfl⟩
    exact ⟨rfl, rfl, host, peer, rfl, rfl⟩

omit [Runtime] in
theorem run_readConfig {outcome : Except Exn Config} :
    readConfig.Run before trace outcome after ↔
      ∃ file, trace = [⟨.config, file⟩] ∧ outcome = .ok (loadConfig file) ∧ after = before := by
  constructor
  · intro run
    rw [readConfig, Action.run_bind_ask] at run
    rcases run with ⟨file, _, rfl, run⟩
    rw [Action.run_pure] at run
    rcases run with ⟨rfl, rfl, rfl⟩
    exact ⟨file, rfl, rfl, rfl⟩
  · rintro ⟨file, rfl, rfl, rfl⟩
    rw [readConfig, Action.run_bind_ask]
    exact ⟨file, [], rfl, by simp⟩

/-- The answer of the host application that counts as the permission -/
def Probe.grants : Probe → Bool
  | .returned granted => granted
  | _ => false

omit [Runtime] in
theorem run_firewallCanWrite {outcome : Except Exn Bool} :
    firewallCanWrite.Run before trace outcome after ↔
      ∃ probe : Probe, trace = [⟨.permission, probe⟩] ∧ outcome = .ok probe.grants ∧
        after = before := by
  constructor
  · intro run
    rw [firewallCanWrite, Action.run_bind_ask] at run
    rcases run with ⟨probe, _, rfl, run⟩
    cases probe <;>
    · rw [Action.run_pure] at run
      rcases run with ⟨rfl, rfl, rfl⟩
      exact ⟨_, rfl, rfl, rfl⟩
  · rintro ⟨probe, rfl, rfl, rfl⟩
    rw [firewallCanWrite, Action.run_bind_ask]
    refine ⟨probe, [], rfl, ?_⟩
    cases probe <;> simp [Probe.grants]

/-- The gate has let a call through: what it asked for, the context and the state after it -/
inductive Admitted (form : WebRequest) (mutation : Option Bool) (before : GatewayState) :
    GateTrace → Context → GatewayState → Prop
  | reading {file : ConfigFile} {probes : GateTrace} {host : Host} {peer : Option Host}
      {after : GatewayState} (reads : mutation.getD (form.method = ("POST" : Str)) = false)
      (resolved : (targetOf (loadConfig file) false).Run before probes (.ok (.ok (some (host, peer))))
        after) :
      Admitted form mutation before (⟨.config, file⟩ :: probes)
        (form.contextFor (loadConfig file) false host peer) after
  | writing {file : ConfigFile} {probes : GateTrace} {host : Host} {peer : Option Host}
      {after : GatewayState} (writes : mutation.getD (form.method = ("POST" : Str)) = true)
      (opened : isReadOnly (loadConfig file) = false) (object : form.json.isObj = true)
      (resolved : (targetOf (loadConfig file) true).Run before probes (.ok (.ok (some (host, peer))))
        after) :
      Admitted form mutation before (⟨.config, file⟩ :: ⟨.permission, .returned true⟩ :: probes)
        (form.contextFor (loadConfig file) true host peer) after

theorem managementContext_admitted {mutation : Option Bool}
    (run : (managementContext form mutation).Run before trace (.ok (.ok context)) after) :
    Admitted form mutation before trace context after := by
  rw [managementContext, Action.run_bind_ok] at run
  rcases run with ⟨_, cfg, _, rest, rfl, reading, run⟩
  rcases run_readConfig.mp reading with ⟨file, rfl, same, rfl⟩
  cases same
  split at run
  · simp [methodNotAllowed] at run
  split at run
  · rename_i writes
    split at run
    · simp [refused] at run
    rename_i opened
    rw [writeContext, Action.run_bind_ok] at run
    rcases run with ⟨_, granted, _, rest, rfl, asking, run⟩
    rcases run_firewallCanWrite.mp asking with ⟨probe, rfl, same, rfl⟩
    cases same
    split at run
    · simp [permissionRefusal, refused] at run
    rename_i grants
    split at run
    · simp [refused] at run
    rename_i object
    rw [Action.run_bind_ok] at run
    rcases run with ⟨probes, target, _, _, rfl, resolved, run⟩
    rcases contextOf_ok run with ⟨rfl, rfl, host, peer, rfl, rfl⟩
    have returned : probe = .returned true := by
      cases probe with
      | returned flag => simpa [Probe.grants] using grants
      | _ => simp [Probe.grants] at grants
    subst returned
    rw [List.append_nil]
    exact .writing writes (by simpa using opened) (by simpa using object) resolved
  · rename_i reads
    rw [Action.run_bind_ok] at run
    rcases run with ⟨probes, target, _, _, rfl, resolved, run⟩
    rcases contextOf_ok run with ⟨rfl, rfl, host, peer, rfl, rfl⟩
    rw [List.append_nil]
    exact .reading (by simpa using reads) resolved

theorem access_of_writing {file : ConfigFile} {probes : GateTrace} (posted : form.method = ("POST" : Str))
    (opened : isReadOnly (loadConfig file) = false) (object : form.json.isObj = true)
    (resolved : (targetOf (loadConfig file) true).Run before probes (.ok (.ok (some (master, peer))))
      after) :
    Access form (⟨.config, file⟩ :: ⟨.permission, .returned true⟩ :: probes) master peer := by
  rcases opened_of_not_readOnly opened with ⟨fields, rfl, opens⟩
  exact ⟨posted, object, fields, probes, rfl, opens, targetOf_confirmed resolved⟩

/-- Code behind the gate, by what it does once the gate has let a call through -/
theorem gated_justified {permitted : GateTrace → Event Ask Ask.Answer → Prop}
    {handler : Except Responded Context → Gate Responded} {mutation : Option Bool}
    {outcome : Except Exn Responded}
    (quiet : ∀ history event, event.request.IsQuiet → permitted history event)
    (denies : ∀ response, Action.Ensures (Action.Requests Ask.IsQuiet) (handler (.error response)))
    (admits : ∀ before front context middle back outcome after,
      Admitted form mutation before front context middle →
      (handler (.ok context)).Run middle back outcome after →
      Justified (fun later => permitted (front ++ later)) back)
    (run : (managementContext form mutation >>= handler).Run before trace outcome after) :
    Justified permitted trace := by
  have gate : ∀ {trace outcome after}, (managementContext form mutation).Run before trace outcome after →
      Justified permitted trace := fun run =>
    .of_all fun history event member =>
      quiet history event (managementContext_quiet _ _ _ _ run event member)
  rw [Action.run_bind] at run
  rcases run with ⟨front, result, middle, back, rfl, gating, run⟩ | ⟨error, rfl, gating⟩
  · refine (gate gating).append ?_
    rcases result with response | context
    · exact .of_all fun _ event member => quiet _ event (denies response _ _ _ _ run event member)
    · exact admits _ _ _ _ _ _ _ (managementContext_admitted gating) run
  · exact gate gating

end Gates

/-! ## The routes -/

/-- The searches that OPNsense offers as a POST -/
def searchPaths : List Str := [LegacyPage.wg.searchPath, Management.statesPath]

/-- A POST to the host changes what the call has access to. The peer is reached by the deletion of a
port forward only. -/
def Authorized (route : Route) (form : WebRequest) (history : GateTrace) (host : Host) : Prop :=
  ∃ master peer, Access form history master peer ∧ (host = master ∨
    (peer = some host ∧ route = .firewall .portForward ∧ FirewallRoute.Deletes form.json))

/-- What a call of the route may do after what came before -/
def Permitted (route : Route) (form : WebRequest) (history : GateTrace)
    (event : Event Ask Ask.Answer) : Prop :=
  match event.request with
  | .exchange (.post host path _) => path ∈ searchPaths ∨ Authorized route form history host
  | .disk _ => route = .backups ∧ (⟨.permission, .returned true⟩ : Event Ask Ask.Answer) ∈ history
  | _ => True

/-- The hosts that a call with this context may send POSTs to -/
def Context.Reaches (context : Context) (route : Route) (form : WebRequest) (host : Host)
    (_ : Str) : Prop :=
  host = context.host ∨
    (context.peer = some host ∧ route = .firewall .portForward ∧ FirewallRoute.Deletes form.json)

section Routes

variable {plugin : Plugin} {route : Route} {form : WebRequest} {history : GateTrace}
  {event : Event Ask Ask.Answer} {context : Context} {before after : GatewayState}
  {trace : GateTrace}

theorem permitted_of_quiet (quiet : event.request.IsQuiet) : Permitted route form history event := by
  rcases event with ⟨request, answer⟩
  cases request with
  | exchange request => cases request <;> simp_all [Ask.PostsWithin, Request.PostsWithin, Permitted]
  | disk operation => exact quiet.elim
  | _ => exact trivial

theorem permitted_of_search
    (searches : event.request.PostsWithin fun _ path => path ∈ searchPaths) :
    Permitted route form history event := by
  rcases event with ⟨request, answer⟩
  cases request with
  | exchange request =>
      cases request with
      | post host path body => exact .inl searches
      | _ => exact trivial
  | disk operation => exact searches.elim
  | _ => exact trivial

theorem permitted_of_access (access : Access form history context.host context.peer)
    (reaches : event.request.PostsWithin (context.Reaches route form)) :
    Permitted route form history event := by
  rcases event with ⟨request, answer⟩
  cases request with
  | exchange request =>
      cases request with
      | post host path body => exact .inr ⟨_, _, access, reaches⟩
      | _ => exact trivial
  | disk operation => exact reaches.elim
  | _ => exact trivial

theorem justified_of_quiet {α : Type} {action : Gate α} {outcome : Except Exn α}
    (quiet : Action.Ensures (Action.Requests Ask.IsQuiet) action)
    (run : action.Run before trace outcome after) : Justified (Permitted route form) trace :=
  .of_all fun _ event member => permitted_of_quiet (quiet _ _ _ _ run event member)

/-- Code behind the gate, by what it does with a context that reads and with one that writes -/
theorem gated_permitted {handler : Except Responded Context → Gate Responded}
    {mutation : Option Bool} {outcome : Except Exn Responded}
    (asked : mutation.getD (form.method = ("POST" : Str)) = true → form.method = ("POST" : Str))
    (denies : ∀ response, Action.Ensures (Action.Requests Ask.IsQuiet) (handler (.error response)))
    (reads : ∀ context : Context, context.write = false →
      context.write = mutation.getD (form.method = ("POST" : Str)) →
      Action.Ensures (Action.Requests (Ask.PostsWithin fun _ path => path ∈ searchPaths))
        (handler (.ok context)))
    (writes : ∀ context : Context, context.write = true → context.body = form.json →
      Action.Ensures (Action.Requests (Ask.PostsWithin (context.Reaches route form)))
        (handler (.ok context)))
    (run : (managementContext form mutation >>= handler).Run before trace outcome after) :
    Justified (Permitted route form) trace := by
  refine gated_justified (fun _ _ => permitted_of_quiet) denies ?_ run
  intro before front context middle back outcome after admitted run
  cases admitted with
  | reading same _ =>
      refine .of_all fun _ event member => permitted_of_search ?_
      exact reads _ rfl same.symm _ _ _ _ run event member
  | writing same opened object resolved =>
      have access := access_of_writing (asked same) opened object resolved
      refine .of_all fun later event member => ?_
      have reaches := writes _ rfl rfl _ _ _ _ run event member
      exact permitted_of_access (access.extend later) reaches

/-! ### The pages -/

omit [Runtime] in
theorem built_quiet {result : Except Exn Response} {allowed : Host → Str → Prop} :
    Action.Ensures (Action.Requests (Ask.PostsWithin allowed)) (built result) := by
  cases result with
  | ok response => exact Action.ensures_pure
  | error error => exact Action.ensures_raise

omit [Runtime] in
theorem within_of_quiet {α : Type} {action : Gate α} {allowed : Host → Str → Prop}
    (quiet : Action.Ensures (Action.Requests Ask.IsQuiet) action) :
    Action.Ensures (Action.Requests (Ask.PostsWithin allowed)) action := by
  intro before trace outcome after run event member
  have still := quiet before trace outcome after run event member
  rcases event with ⟨request, answer⟩
  cases request with
  | exchange request => cases request <;> simp_all [Ask.PostsWithin, Request.PostsWithin]
  | disk operation => exact still.elim
  | _ => exact trivial

omit [Runtime] in
theorem readsOnly_quiet : Action.Ensures (Action.Requests Ask.IsQuiet) (readsOnly context) := by
  unfold readsOnly
  split
  · exact Action.ensures_pure
  · exact Action.ensures_bind firewallCanWrite_quiet fun _ => Action.ensures_pure

omit [Runtime] in
theorem showReadOnly_quiet {response : Response} :
    Action.Ensures (Action.Requests Ask.IsQuiet) (showReadOnly context response) := by
  unfold showReadOnly
  split
  · split
    · exact Action.ensures_bind readsOnly_quiet fun _ => Action.ensures_pure
    · exact Action.ensures_pure
  · exact Action.ensures_pure

omit [Runtime] in
theorem hostOf_reaches {role : Role} {path : Str}
    (reached : role = .client ∨ (role = .peer ∧ route = .firewall .portForward ∧
      FirewallRoute.Deletes form.json)) :
    context.Reaches route form (context.hostOf role) path := by
  rcases reached with rfl | ⟨rfl, same, deletes⟩
  · exact .inl rfl
  · cases known : context.peer with
    | none => exact .inl (by simp [Context.hostOf, known])
    | some peer => exact .inr ⟨by simp [Context.hostOf, known], same, deletes⟩

/-- A page of the firewall that is read -/
theorem firewallReading_quiet {resource : Resource} :
    Action.Ensures (Action.Requests Ask.IsQuiet) (do
      let response ← built (← Context.serve context.hostOf
        (firewallReading resource form context.host))
      showReadOnly context response) := by
  refine Action.ensures_bind (inside_quiet ?_) ?_
  · unfold firewallReading
    split
    · exact FirewallRoute.detailPayload_posts
    · exact FirewallRoute.listPayload_posts
  intro result
  refine Action.ensures_bind built_quiet ?_
  intro response
  exact showReadOnly_quiet

theorem firewallManagement_permitted {resource : Resource} {outcome : Except Exn Responded}
    (run : (firewallManagement resource form).Run before trace outcome after) :
    Justified (Permitted (.firewall resource) form) trace := by
  refine gated_permitted (by simp) (fun response => Action.ensures_pure) ?_ ?_ run
  · intro context write _
    simp only [write, Bool.false_eq_true, if_false]
    exact within_of_quiet firewallReading_quiet
  · intro context write body
    simp only [write, if_true, firewallWrite]
    split
    · exact Action.ensures_pure
    · refine Action.ensures_bind (inside_posts FirewallRoute.actionPayload_posts ?_) ?_
      · intro role path reached
        apply hostOf_reaches
        rw [FirewallRoute.Reached, body] at reached
        rcases reached with client | ⟨peer, _, same, deletes⟩
        · exact .inl client
        · exact .inr ⟨peer, by rw [same], deletes⟩
      intro result
      refine Action.ensures_bind built_quiet ?_
      intro response
      exact Action.ensures_pure

theorem legacyManagement_permitted {page : LegacyPage} {outcome : Except Exn Responded}
    (run : (legacyManagement page form).Run before trace outcome after) :
    Justified (Permitted (.legacy page) form) trace := by
  refine gated_permitted (by simp) (fun response => Action.ensures_pure) ?_ ?_ run
  · intro context write _
    simp only [write, Bool.false_eq_true, if_false]
    refine Action.ensures_bind (inside_posts LegacyPage.listPayload_posts ?_) ?_
    · rintro party path rfl
      exact List.mem_cons_self
    intro result
    refine Action.ensures_bind built_quiet ?_
    intro response
    exact within_of_quiet showReadOnly_quiet
  · intro context write body
    simp only [write, if_true]
    split
    · rename_i fields _
      have everything : Posts (fun _ _ => True) (page.route.actionPayload context.host fields context.actor
          context.readOnly : Py Party Unit Response) := by
        intro before trace outcome after run event member
        cases asked : event.request <;> exact trivial
      refine Action.ensures_bind (inside_posts everything ?_) ?_
      · intro party path _
        exact .inl rfl
      intro result
      refine Action.ensures_bind built_quiet ?_
      intro response
      exact Action.ensures_pure
    · exact Action.ensures_raise

/-! ### The services -/

omit [Runtime] in
theorem hostOf_client {role : Role} {path : Str} (client : ToClient role path) :
    context.Reaches route form (context.hostOf role) path :=
  hostOf_reaches (.inl client)

theorem managedReading_posts {managed : Managed} {reading : Py Role Unit Delivered}
    (found : managedReading managed form = .ok reading) :
    Posts (fun _ _ => False) reading := by
  cases managed with
  | engine spec =>
      simp only [managedReading] at found
      split at found
      · rename_i known
        cases found
        unfold specReading at known
        split at known
        · cases known
          exact Action.ensures_bind ManagementService.detail_posts fun _ => Action.ensures_pure
        · split at known
          · cases known
            exact Action.ensures_bind ManagementService.detail_posts fun _ => Action.ensures_pure
          · split at known
            · cases known
            · split at known
              · cases known
              · cases known
                exact Action.ensures_bind ManagementService.listPage_posts fun _ =>
                  Action.ensures_pure
      · cases found
  | crl =>
      simp only [managedReading] at found
      split at found
      · cases found
      · split at found
        · rename_i known
          cases found
          unfold crlReading at known
          split at known
          · cases known
            exact Action.ensures_bind CrlService.detail_posts fun _ => Action.ensures_pure
          · split at known
            · cases known
            · cases known
              exact Action.ensures_bind CrlService.listPage_posts fun _ => Action.ensures_pure
        · cases found

theorem managedWriting_posts {managed : Managed} :
    Posts ToClient (managedWriting plugin managed context) := by
  cases managed with
  | engine spec =>
      exact Action.ensures_bind ManagementService.mutate_posts fun _ => Action.ensures_pure
  | crl => exact Action.ensures_bind CrlService.mutate_posts fun _ => Action.ensures_pure

theorem manageIn_reads {managed : Managed} (write : context.write = false) :
    Action.Ensures (Action.Requests Ask.IsQuiet) (manageIn plugin managed form context) := by
  refine Action.ensures_bind Action.ensures_ofExcept ?_
  intro _
  simp only [write, Bool.false_eq_true, if_false]
  split
  · exact Action.ensures_pure
  · rename_i reading found
    refine Action.ensures_bind (inside_quiet (managedReading_posts found)) ?_
    intro result
    cases result with
    | error error => exact Action.ensures_pure
    | ok data => exact Action.ensures_bind readsOnly_quiet fun _ => Action.ensures_pure

theorem manageIn_writes {managed : Managed} (write : context.write = true) :
    Action.Ensures (Action.Requests (Ask.PostsWithin (context.Reaches route form)))
      (manageIn plugin managed form context) := by
  refine Action.ensures_bind Action.ensures_ofExcept ?_
  intro _
  simp only [write, if_true]
  refine Action.ensures_bind (inside_posts managedWriting_posts ?_) ?_
  · intro role path client
    exact hostOf_client client
  intro result
  cases result <;> exact Action.ensures_pure

theorem hManage_permitted {outcome : Except Exn Responded}
    (run : (hManage plugin form).Run before trace outcome after) :
    Justified (Permitted .manage form) trace := by
  unfold hManage at run
  split at run
  · split at run
    · exact justified_of_quiet Action.ensures_pure run
    · refine gated_permitted (by simp) (fun response => Action.ensures_pure) ?_ ?_ run
      · intro context write _
        exact within_of_quiet (manageIn_reads write)
      · intro context write _
        exact manageIn_writes write
  · exact justified_of_quiet Action.ensures_pure run

omit [Runtime] in
theorem operations_posted : ∀ spec ∈ operations, spec.mutating = some true → spec.method = .post := by
  decide

omit [Runtime] in
/-- The operation of a request that its handler lets through -/
theorem mutation_sent {spec : OperationSpec} (sent : form.method = methodName spec.method) :
    spec.mutating.getD (form.method = ("POST" : Str)) = spec.mutation := by
  rw [OperationSpec.mutation, sent]
  cases spec.method <;> rfl

theorem operateIn_reads {operation : Str} {spec : OperationSpec}
    (found : (operations.find? fun spec => operation = spec.id) = some spec)
    (reads : spec.mutation = false) :
    Action.Ensures (Action.Requests (Ask.PostsWithin fun _ path => path ∈ searchPaths))
      (operateIn operation form context) := by
  refine Action.ensures_bind Action.ensures_ofExcept ?_
  intro _
  refine Action.ensures_bind
    (inside_posts (Management.executeOperation_observes found reads) ?_) ?_
  · rintro role path rfl
    exact List.mem_cons_of_mem _ List.mem_cons_self
  intro result
  cases result <;> exact Action.ensures_pure

theorem hOperate_permitted {outcome : Except Exn Responded}
    (run : (hOperate form).Run before trace outcome after) :
    Justified (Permitted .operate form) trace := by
  unfold hOperate at run
  split at run
  · rename_i operation named
    split at run
    · exact justified_of_quiet Action.ensures_pure run
    rename_i spec found
    split at run
    · exact justified_of_quiet Action.ensures_pure run
    rename_i method
    have sent : form.method = methodName spec.method := by simpa using method
    refine gated_permitted ?_ (fun response => Action.ensures_pure) ?_ ?_ run
    · intro asked
      rw [Option.getD_some] at asked
      cases known : spec.mutating with
      | none => simpa [known] using asked
      | some flag =>
          rw [known, Option.getD_some] at asked
          subst asked
          rw [sent, operations_posted spec (List.mem_of_find?_eq_some found) known]
          rfl
    · intro context write same
      rw [Option.getD_some, mutation_sent sent, write] at same
      exact operateIn_reads found same.symm
    · intro context write _
      refine Action.ensures_bind Action.ensures_ofExcept ?_
      intro _
      have sends : Posts ToClient (Management.executeOperation context.host context.actor
          (.str operation) (operationValues form)) :=
        Management.executeOperation_posts fun _ _ _ _ _ => rfl
      refine Action.ensures_bind (inside_posts sends ?_) ?_
      · intro role path client
        exact hostOf_client client
      intro result
      cases result <;> exact Action.ensures_pure
  · exact justified_of_quiet Action.ensures_pure run

/-! ### The backups -/

/-- A request that is no POST -/
def Ask.KeepsNodes : Ask → Prop
  | .exchange request => ¬ request.IsPost
  | _ => True

theorem storeCall_keeps {call : Backups.Call} :
    Action.Ensures (Action.Requests Ask.KeepsNodes) (storeCall plugin call) := by
  refine Action.ensures_bind ?_ ?_
  · intro before trace outcome after run event member
    rcases Action.run_inside.mp run with ⟨own, _, _, stand, _, _, _⟩
    rcases stand.mem member with ⟨mine, _, stands⟩
    cases stands
    exact trivial
  intro result
  cases result <;> exact Action.ensures_pure

omit [Runtime] in
theorem keeps_of_quiet {α : Type} {action : Gate α}
    (quiet : Action.Ensures (Action.Requests Ask.IsQuiet) action) :
    Action.Ensures (Action.Requests Ask.KeepsNodes) action := by
  intro before trace outcome after run event member
  have still := quiet before trace outcome after run event member
  rcases event with ⟨request, answer⟩
  cases request with
  | exchange request =>
      cases request <;> simp_all [Ask.PostsWithin, Request.PostsWithin, Ask.KeepsNodes, Request.IsPost]
  | disk operation => exact still.elim
  | _ => exact trivial

theorem createBackup_keeps :
    Action.Ensures (Action.Requests Ask.KeepsNodes) (createBackup plugin) := by
  refine Action.ensures_bind (keeps_of_quiet readConfig_quiet) ?_
  intro cfg
  refine Action.ensures_bind (keeps_of_quiet targetOf_quiet) ?_
  intro target
  rcases target with error | _ | ⟨host, peer⟩
  · exact Action.ensures_pure
  · exact Action.ensures_pure
  · refine Action.ensures_bind ?_ ?_
    · apply Action.ensures_ask
      intro state answer
      simp [Action.Requests, Ask.KeepsNodes]
    rintro ⟨reply, draw⟩
    exact storeCall_keeps

theorem backupAction_keeps :
    Action.Ensures (Action.Requests Ask.KeepsNodes) (backupAction plugin form) := by
  unfold backupAction
  split
  · split
    · exact storeCall_keeps
    · exact storeCall_keeps
  · split
    · split
      · exact createBackup_keeps
      · split
        · exact storeCall_keeps
        · exact Action.ensures_pure
    · exact Action.ensures_pure

theorem permitted_of_keeps (granted : (⟨.permission, .returned true⟩ : Event Ask Ask.Answer) ∈ history)
    (keeps : event.request.KeepsNodes) : Permitted .backups form history event := by
  rcases event with ⟨request, answer⟩
  cases request with
  | exchange request =>
      cases request with
      | post host path body => exact absurd trivial keeps
      | _ => exact trivial
  | disk operation => exact ⟨rfl, granted⟩
  | _ => exact trivial

theorem hBackups_permitted {outcome : Except Exn Responded}
    (run : (hBackups plugin form).Run before trace outcome after) :
    Justified (Permitted .backups form) trace := by
  unfold hBackups at run
  split at run
  · exact justified_of_quiet Action.ensures_pure run
  rw [Action.run_bind] at run
  rcases run with ⟨front, granted, middle, back, rfl, asking, run⟩ | ⟨error, rfl, asking⟩
  rotate_left
  · exact justified_of_quiet firewallCanWrite_quiet asking
  refine (justified_of_quiet firewallCanWrite_quiet asking).append ?_
  rcases run_firewallCanWrite.mp asking with ⟨probe, rfl, same, rfl⟩
  cases same
  split at run
  · rw [Action.run_pure] at run
    rcases run with ⟨rfl, _, _⟩
    exact .of_all (by simp)
  · rename_i grants
    have returned : probe = .returned true := by
      cases probe <;> simp_all [Probe.grants]
    subst returned
    refine .of_all fun later event member => permitted_of_keeps (by simp) ?_
    exact backupAction_keeps _ _ _ _ run event member

/-- Every call of every route does only what it is permitted to do after what came before. -/
theorem handle_permitted {outcome : Except Exn Responded}
    (run : (handle plugin route form).Run before trace outcome after) :
    ∀ front event back, trace = front ++ event :: back → Permitted route form front event := by
  cases route with
  | firewall resource => exact firewallManagement_permitted run
  | legacy page => exact legacyManagement_permitted run
  | manage => exact hManage_permitted run
  | operate => exact hOperate_permitted run
  | backups => exact hBackups_permitted run

end Routes

end Runtime

/-! ### A service that is restarted on the second node -/

def Ask.postTarget : Ask → Option (Host × Str)
  | .exchange (.post host path _) => some (host, path)
  | _ => none

namespace GateDemo

def second : Host := ⟨"B", "https://b.test"⟩

def restartPath : Str := "/api/monit/service/restart"

def carpReport (status : Str) : Json :=
  .obj [("rows", .arr [.obj [("vhid", .str "1"), ("interface", .str "lan"), ("status", .str status)]])]

/-- The second node is the master; every service runs. -/
def nodeAnswer : (request : Request Host) → Answer request
  | .get host path _ =>
      if path = vipStatusPath then
        .ok (carpReport (if host.name = ("B" : Str) then "MASTER" else "BACKUP"))
      else .ok (.obj [("status", .str "running")])
  | .post _ _ _ => .ok (.obj [("response", .str "ok")])
  | .append _ => .ok ()
  | .clock => ⟨[], 0⟩
  | .lockFor _ _ => 0
  | .acquireGuard _ | .releaseGuard _ | .acquire _ | .release _ => ()

/-- A pair that is open for writing, and a user with the permission -/
def openedGate : (ask : Ask) → Ask.Answer ask
  | .config => .json (.obj (("read_only", .bool false) :: pairConfig))
  | .permission => .returned true
  | .exchange request => nodeAnswer request
  | .disk _ => none
  | .supply => (.failed, Backups.labDraw)

def labPlugin : Plugin := ⟨[], fun _ => .ok (), Backups.labLibrary⟩

def restartForm : WebRequest where
  method := "POST"
  json := .obj [("operation", .str "monit_restart")]

theorem restart_posts :
    ∃ trace outcome after, (@handle Runtime.ascii labPlugin .operate restartForm).Run {} trace
      outcome after ∧ (second, restartPath) ∈ trace.filterMap fun event => event.request.postTarget := by
  rcases Program.replay_yields (fun _ => openedGate)
    (@handle Runtime.ascii labPlugin .operate restartForm {}) [] with ⟨trace, recorded, run⟩
  refine ⟨trace, _, _, run, ?_⟩
  rw [List.nil_append] at recorded
  rw [← recorded]
  decide +kernel

theorem handle_permitted_restart :
    ∃ front event back outcome after,
      (@handle Runtime.ascii labPlugin .operate restartForm).Run {} (front ++ event :: back) outcome
        after ∧
      event.request.postTarget = some (second, restartPath) ∧
      @Authorized Runtime.ascii .operate restartForm front second := by
  rcases restart_posts with ⟨trace, outcome, after, run, posted⟩
  rcases List.mem_filterMap.mp posted with ⟨event, member, target⟩
  rcases List.append_of_mem member with ⟨front, back, rfl⟩
  refine ⟨front, event, back, outcome, after, run, target, ?_⟩
  have permitted := @handle_permitted Runtime.ascii _ _ _ _ _ _ _ run front event back rfl
  rcases event with ⟨request, answer⟩
  cases request with
  | exchange request =>
      cases request with
      | post host path body =>
          simp only [Ask.postTarget, Option.some.injEq, Prod.mk.injEq] at target
          rcases target with ⟨rfl, rfl⟩
          rcases permitted with searches | authorized
          · exact absurd searches (by decide)
          · exact authorized
      | _ => simp [Ask.postTarget] at target
  | _ => simp [Ask.postTarget] at target

end GateDemo

end OpnsensePlugin
