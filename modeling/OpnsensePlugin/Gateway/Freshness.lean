import OpnsensePlugin.Gateway.Authorization

/-!
# The side that is read

In cluster mode readings go to the node that a probe has found to be the master. What a
probe has found is kept for ten seconds, whichever call made it, one of the pages
included. Over any sequence of calls the side of a reading was found by a probe of the
two nodes in the file that the probing call had read, and that probe had begun less than
ten seconds before the reading asked for the time.
-/

namespace OpnsensePlugin

open Effects Python

section Runtime

variable [Runtime]

/-- The two nodes of a configuration in cluster mode -/
structure IsPair (cfg : Config) (a b : Host) : Prop where
  cluster : isClusterMode cfg = .ok true
  first : (hostAt (configuredHosts cfg) 0 >>= hostFromDict) = .ok a
  second : (hostAt (configuredHosts cfg) 1 >>= hostFromDict) = .ok b

/-- A call has read a configuration, and its probe of the two nodes in it, which began at that time,
has found the side. -/
def Probed (history : GateTrace) (side : Side) (ts : Int) : Prop :=
  ∃ (front : GateTrace) (file : ConfigFile) (clock : Clock) (probes back : GateTrace) (a b : Host)
    (own : Trace Side) (cache : MasterCache),
    history = front ++ ⟨.config, file⟩ :: ⟨.exchange .clock, clock⟩ :: probes ++ back ∧
      clock.monotonicMs = ts ∧ IsPair (loadConfig file) a b ∧
      (atHosts fun node : Side => node.pick a b).Stand probes own ∧
      (probeSide : Py Side MasterCache Side).Run cache own (.ok side) cache

/-- What the cache holds was found by a probe of its time. -/
def Recent (history : GateTrace) (cache : MasterCache) : Prop :=
  ∀ side, cache.side = some side → Probed history side cache.ts

/-- The calls of one process, one after another. The routes that are left out answer with files. -/
inductive Session (plugin : Plugin) : GateTrace → GatewayState → Prop
  | start : Session plugin [] {}
  | call {history trace : GateTrace} {before after : GatewayState} {route : Route} {form : WebRequest}
      {outcome : Except Exn Responded} (earlier : Session plugin history before)
      (run : (handle plugin route form).Run before trace outcome after) :
      Session plugin (history ++ trace) after
  | page {history trace : GateTrace} {before after : GatewayState} {Shown : Type}
      {builders : Builders Shown} {page : Page} {outcome : Except Exn Shown}
      (earlier : Session plugin history before)
      (run : (showPage builders page).Run before trace outcome after) :
      Session plugin (history ++ trace) after
  | health {history trace : GateTrace} {before after : GatewayState} {outcome : Except Exn Health}
      (earlier : Session plugin history before) (run : hHealth.Run before trace outcome after) :
      Session plugin (history ++ trace) after
  | catalog {history trace : GateTrace} {before after : GatewayState} {form : WebRequest}
      {outcome : Except Exn (Except Responded Catalog)} (earlier : Session plugin history before)
      (run : (hCatalog plugin form).Run before trace outcome after) :
      Session plugin (history ++ trace) after

section Probes

variable {history : GateTrace} {side : Side} {ts : Int} {a b : Host} {cache last : MasterCache}
  {own : Trace Side} {now : Clock}

theorem Probed.later (probed : Probed history side ts) (more : GateTrace) :
    Probed (history ++ more) side ts := by
  rcases probed with ⟨front, file, clock, probes, back, a, b, own, cache, rfl, same, pair, stand, found⟩
  refine ⟨front, file, clock, probes, back ++ more, a, b, own, cache, ?_, same, pair, stand, found⟩
  rw [List.append_assoc _ back more]

theorem Recent.later (fresh : Recent history cache) (more : GateTrace) : Recent (history ++ more) cache :=
  fun side known => (fresh side known).later more

theorem collectCarpStatus_still {State : Type} :
    Action.Ensures (Action.Observes Request.IsGet) (collectCarpStatus side : Py Side State CarpStatus) := by
  intro before trace outcome after run
  rw [run_collectCarpStatus] at run
  rcases run with ⟨reply, rfl, _, rfl⟩
  exact ⟨rfl, by simp [Request.IsGet]⟩

/-- A probe ends with a side, whatever the nodes answer, and keeps nothing. -/
theorem probeSide_run {outcome : Except Exn Side}
    (run : (probeSide : Py Side MasterCache Side).Run cache own outcome last) :
    last = cache ∧ ∃ side, outcome = .ok side := by
  have still : Action.Ensures (Action.Observes Request.IsGet) (do
      let left ← collectCarpStatus Side.left
      let right ← collectCarpStatus Side.right
      return OPNsenseClusterClient.sideOf left.role right.role : Py Side MasterCache Side) :=
    Action.ensures_bind collectCarpStatus_still fun left =>
      Action.ensures_bind collectCarpStatus_still fun right => Action.ensures_pure
  rcases Action.run_handle.mp run with ⟨side, rfl, whole⟩ | ⟨front, error, middle, back, rfl, start, finish⟩
  · exact ⟨(still _ _ _ _ whole).1, side, rfl⟩
  · rcases Action.run_pure.mp finish with ⟨_, rfl, rfl⟩
    exact ⟨(still _ _ _ _ start).1, .left, rfl⟩

/-- A call of `_resolved_master_side`: trace, outcome and the cache after it -/
inductive Resolved (cache : MasterCache) : Trace Side → Except Exn Side → MasterCache → Prop
  | kept {now : Clock} {side : Side} (known : cache.side = some side)
      (young : now.monotonicMs - cache.ts < masterTtl) :
      Resolved cache [⟨.clock, now⟩] (.ok side) cache
  | refused {now : Clock} {error : Exn} : Resolved cache [⟨.clock, now⟩] (.error error) cache
  | probed {now : Clock} {side : Side} {probes : Trace Side}
      (found : (probeSide : Py Side MasterCache Side).Run cache probes (.ok side) cache) :
      Resolved cache (⟨.clock, now⟩ :: probes) (.ok side) ⟨some side, now.monotonicMs⟩

theorem probeAndKeep_run {outcome : Except Exn Side}
    (run : (resolvedMasterSide.probeAndKeep a b now).Run cache own outcome last) :
    Resolved cache (⟨.clock, now⟩ :: own) outcome last := by
  rw [resolvedMasterSide.probeAndKeep, Action.run_bind_ofExcept] at run
  rcases run with ⟨_, _, run⟩ | ⟨error, _, rfl, rfl, rfl⟩
  rotate_left
  · exact .refused
  rw [Action.run_bind_ofExcept] at run
  rcases run with ⟨_, _, run⟩ | ⟨error, _, rfl, rfl, rfl⟩
  rotate_left
  · exact .refused
  rw [Action.run_bind] at run
  rcases run with ⟨probes, side, middle, back, rfl, found, run⟩ | ⟨error, rfl, found⟩
  · rcases probeSide_run found with ⟨rfl, _⟩
    rw [Action.run_bind_modifyState, Action.run_pure] at run
    rcases run with ⟨rfl, rfl, rfl⟩
    rw [List.append_nil]
    exact .probed found
  · rcases (probeSide_run found).2 with ⟨side, impossible⟩
    cases impossible

theorem resolvedMasterSide_run {outcome : Except Exn Side}
    (run : (resolvedMasterSide a b).Run cache own outcome last) : Resolved cache own outcome last := by
  rw [resolvedMasterSide, readClock, Action.run_bind_ask] at run
  rcases run with ⟨now, rest, rfl, run⟩
  rw [Action.run_bind_readState] at run
  split at run
  · rename_i side known
    split at run
    · rename_i young
      rcases Action.run_pure.mp run with ⟨rfl, rfl, rfl⟩
      exact .kept known young
    · exact probeAndKeep_run run
  · exact probeAndKeep_run run

/-- The side was found by a probe that had begun less than ten seconds before. -/
def FoundBefore (history trace : GateTrace) (side : Side) : Prop :=
  ∃ (now : Clock) (ts : Int), (⟨.exchange .clock, now⟩ : Event Ask Ask.Answer) ∈ trace ∧
    Probed (history ++ trace) side ts ∧ now.monotonicMs - ts < masterTtl

theorem IsPair.configuredHost_eq {cfg : Config} (pair : IsPair cfg a b) :
    configuredHost cfg = fun node : Side => node.pick a b := by
  funext node
  cases node with
  | left =>
      have first := pair.first
      simp only [configuredHost, Side.pick, first]
      rfl
  | right =>
      have second := pair.second
      simp only [configuredHost, Side.pick, second]
      rfl

/-- Resolving the side keeps the cache fresh. -/
theorem Resolved.recent {outcome : Except Exn Side} {trace : GateTrace} {file : ConfigFile}
    (resolved : Resolved cache own outcome last) (pair : IsPair (loadConfig file) a b)
    (stand : (atHosts (configuredHost (loadConfig file))).Stand trace own)
    (fresh : Recent history cache) :
    Recent (history ++ ⟨.config, file⟩ :: trace) last ∧
      ∀ side, outcome = .ok side → FoundBefore history (⟨.config, file⟩ :: trace) side := by
  rw [pair.configuredHost_eq] at stand
  cases resolved with
  | kept known young =>
      rcases List.forall₂_cons_right_iff.mp stand with ⟨first, rest, stands, _, rfl⟩
      cases stands
      refine ⟨fresh.later _, fun side same => ?_⟩
      cases same
      exact ⟨_, cache.ts, List.mem_cons_of_mem _ List.mem_cons_self, (fresh _ known).later _, young⟩
  | refused => exact ⟨fresh.later _, fun side impossible => by cases impossible⟩
  | @probed now side probes found =>
      rcases List.forall₂_cons_right_iff.mp stand with ⟨first, rest, stands, later, rfl⟩
      cases stands with
      | intro request answer =>
          have begun : Probed (history ++ ⟨.config, file⟩ :: ⟨.exchange .clock, answer⟩ :: rest) side
              answer.monotonicMs :=
            ⟨history, file, answer, rest, [], a, b, probes, cache, (List.append_nil _).symm, rfl, pair,
              later, found⟩
          refine ⟨?_, ?_⟩
          · intro other same
            cases same
            exact begun
          · intro other same
            cases same
            refine ⟨answer, answer.monotonicMs, List.mem_cons_of_mem _ List.mem_cons_self, begun, ?_⟩
            simp [masterTtl]

end Probes

/-! ## The target of a reading -/

section Readings

variable {cfg : Config} {file : ConfigFile} {cache last : MasterCache} {own : Trace Side}
  {history trace : GateTrace}
  {result : Except Exn (Option (Host × Option Host))} {before after : GatewayState}

/-- The target of a reading is found without the cache, or by the side of a pair. -/
theorem firewallTarget_reading
    (run : (firewallTarget resolvedMasterSide cfg false).Run cache own result last) :
    (last = cache ∧ (isClusterMode cfg = .ok true → ∀ target, result ≠ .ok (some target))) ∨
    ∃ a b outcome, IsPair cfg a b ∧ Resolved cache own outcome last ∧
      ∀ target, result = .ok (some target) → ∃ side, outcome = .ok side ∧ targetPair a b side = some target := by
  unfold firewallTarget at run
  dsimp only at run
  split at run
  · rcases Action.run_pure.mp run with ⟨_, rfl, rfl⟩
    exact .inl ⟨rfl, by simp⟩
  rw [Action.run_bind_ofExcept] at run
  rcases run with ⟨cluster, mode, run⟩ | ⟨error, mode, _, rfl, rfl⟩
  rotate_left
  · exact .inl ⟨rfl, by simp⟩
  cases cluster with
  | false =>
      simp only [Bool.false_eq_true, if_false, singleTarget] at run
      rw [Action.run_bind_ofExcept] at run
      rcases run with ⟨host, _, run⟩ | ⟨error, _, _, rfl, rfl⟩
      · rcases Action.run_pure.mp run with ⟨_, rfl, rfl⟩
        exact .inl ⟨rfl, by simp [mode]⟩
      · exact .inl ⟨rfl, by simp⟩
  | true =>
      simp only [if_true, clusterTarget, Bool.false_and] at run
      rw [Action.run_bind_ofExcept] at run
      rcases run with ⟨count, _, run⟩ | ⟨error, _, _, rfl, rfl⟩
      rotate_left
      · exact .inl ⟨rfl, by simp⟩
      rw [Action.run_bind_raiseIf] at run
      rcases run with ⟨_, run⟩ | ⟨impossible, _⟩
      rotate_left
      · cases impossible
      rw [Action.run_bind_ofExcept] at run
      rcases run with ⟨a, first, run⟩ | ⟨error, _, _, rfl, rfl⟩
      rotate_left
      · exact .inl ⟨rfl, by simp⟩
      rw [Action.run_bind_ofExcept] at run
      rcases run with ⟨b, second, run⟩ | ⟨error, _, _, rfl, rfl⟩
      rotate_left
      · exact .inl ⟨rfl, by simp⟩
      simp only [Bool.false_eq_true, if_false] at run
      rw [Action.run_bind] at run
      rcases run with ⟨front, side, middle, back, rfl, resolving, run⟩ | ⟨error, rfl, resolving⟩
      · rcases Action.run_pure.mp run with ⟨rfl, rfl, rfl⟩
        rw [List.append_nil]
        refine .inr ⟨a, b, .ok side, ⟨mode, first, second⟩, resolvedMasterSide_run resolving, fun target same => ?_⟩
        exact ⟨side, rfl, Except.ok.inj same⟩
      · exact .inr ⟨a, b, .error error, ⟨mode, first, second⟩, resolvedMasterSide_run resolving, by simp⟩

/-- A reading and the sides of the pair -/
def ReadsFound (cfg : Config) (history trace : GateTrace) (host : Host) (peer : Option Host) : Prop :=
  ∃ a b side, IsPair cfg a b ∧ host = side.pick a b ∧ peer = some (side.pick b a) ∧
    FoundBefore history trace side

theorem targetOf_reading {outcome : Except Exn (Except Exn (Option (Host × Option Host)))}
    (run : (targetOf (loadConfig file) false).Run before trace outcome after)
    (fresh : Recent history before.cache) :
    Recent (history ++ ⟨.config, file⟩ :: trace) after.cache ∧
      (isClusterMode (loadConfig file) = .ok true → ∀ host peer,
        outcome = .ok (.ok (some (host, peer))) →
          ReadsFound (loadConfig file) history (⟨.config, file⟩ :: trace) host peer) := by
  rcases Action.run_inside.mp run with ⟨own, result, last, stand, inner, rfl, rfl⟩
  rcases firewallTarget_reading inner with ⟨rfl, none⟩ | ⟨a, b, outcome, pair, resolved, found⟩
  · refine ⟨fresh.later _, fun cluster host peer same => ?_⟩
    exact absurd (Except.ok.inj same) (none cluster _)
  · rcases resolved.recent pair stand fresh with ⟨renewed, recent⟩
    refine ⟨renewed, fun cluster host peer same => ?_⟩
    rcases found _ (Except.ok.inj same) with ⟨side, rfl, target⟩
    cases target
    exact ⟨a, b, side, pair, rfl, rfl, recent side rfl⟩

end Readings

/-! ## Every call keeps the cache fresh -/

/-- What was found before is fresh after it. -/
def Renews (before : GatewayState) (trace : GateTrace) (after : GatewayState) : Prop :=
  ∀ history, Recent history before.cache → Recent (history ++ trace) after.cache

instance renews_composable : Action.Composable Renews where
  refl state history fresh := by
    rw [List.append_nil]
    exact fresh
  trans := by
    intro before middle after front back first second history fresh
    rw [← List.append_assoc]
    exact second _ (first _ fresh)

/-- The same from the configuration on that the call has read -/
def RenewsFrom (file : ConfigFile) (before : GatewayState) (trace : GateTrace) (after : GatewayState) :
    Prop :=
  ∀ history, Recent history before.cache →
    Recent (history ++ ⟨.config, file⟩ :: trace) after.cache

section Calls

variable {file : ConfigFile} {plugin : Plugin} {route : Route} {form : WebRequest} {cfg : Config} {context : Context}
  {before after : GatewayState} {history trace : GateTrace}

theorem renews_of_kept (kept : after.cache = before.cache) : Renews before trace after := by
  intro history fresh
  rw [kept]
  exact fresh.later trace

theorem ask_renews {request : Ask} :
    Action.Ensures Renews (Action.ask request : Gate (Ask.Answer request)) :=
  Action.ensures_ask fun _ _ => renews_of_kept rfl

theorem Renews.onwards (renews : Renews before trace after) : RenewsFrom file before trace after := by
  intro history fresh
  have later := renews _ (fresh.later [⟨.config, file⟩])
  simpa using later

theorem onwards {α : Type} {action : Gate α} (renews : Action.Ensures Renews action) :
    Action.Ensures (RenewsFrom file) action :=
  fun before trace outcome after run => (renews before trace outcome after run).onwards

/-- A call reads the configuration first. -/
theorem readConfig_bind {α : Type} {next : Config → Gate α}
    (rest : ∀ file, Action.Ensures (RenewsFrom file) (next (loadConfig file))) :
    Action.Ensures Renews (readConfig >>= next) := by
  intro before trace outcome after run
  rw [Action.run_bind] at run
  rcases run with ⟨front, cfg, middle, back, rfl, reading, run⟩ | ⟨error, rfl, reading⟩
  · rcases run_readConfig.mp reading with ⟨file, rfl, same, rfl⟩
    cases same
    exact rest file _ _ _ _ run
  · rcases run_readConfig.mp reading with ⟨file, rfl, impossible, _⟩
    cases impossible

theorem renewsFrom_bind {α β : Type} {action : Gate α} {next : α → Gate β}
    (first : Action.Ensures (RenewsFrom file) action) (rest : ∀ value, Action.Ensures Renews (next value)) :
    Action.Ensures (RenewsFrom file) (action >>= next) := by
  intro before trace outcome after run history fresh
  rw [Action.run_bind] at run
  rcases run with ⟨front, value, middle, back, rfl, start, run⟩ | ⟨error, rfl, start⟩
  · have renewed := rest value _ _ _ _ run _ (first _ _ _ _ start history fresh)
    simpa using renewed
  · exact first _ _ _ _ start history fresh

theorem firewallCanWrite_renews : Action.Ensures Renews firewallCanWrite := by
  intro before trace outcome after run
  rcases run_firewallCanWrite.mp run with ⟨_, _, _, rfl⟩
  exact renews_of_kept rfl

theorem serve_renews {Node α : Type} {hosts : Node → Host} {code : Py Node Unit α} :
    Action.Ensures Renews (Context.serve hosts code) := by
  intro before trace outcome after run
  rcases Action.run_inside.mp run with ⟨_, _, _, _, _, _, rfl⟩
  exact renews_of_kept rfl

theorem storeCall_renews {call : Backups.Call} : Action.Ensures Renews (storeCall plugin call) := by
  refine Action.ensures_bind ?_ fun result => ?_
  · intro before trace outcome after run
    rcases Action.run_inside.mp run with ⟨_, _, _, _, _, _, rfl⟩
    exact renews_of_kept rfl
  · cases result <;> exact Action.ensures_pure

/-- A write asks the nodes itself and keeps nothing. -/
theorem firewallTarget_writing :
    Action.Ensures (Action.Observes Request.IsGet) (firewallTarget resolvedMasterSide cfg true) := by
  unfold firewallTarget
  dsimp only
  split
  · exact Action.ensures_pure
  refine Action.ensures_bind Action.ensures_ofExcept fun cluster => ?_
  split
  · refine Action.ensures_bind Action.ensures_ofExcept fun count => ?_
    refine Action.ensures_bind Action.ensures_raiseIf fun _ => ?_
    refine Action.ensures_bind Action.ensures_ofExcept fun a => ?_
    refine Action.ensures_bind Action.ensures_ofExcept fun b => ?_
    refine Action.ensures_bind Action.ensures_ofExcept fun _ => ?_
    refine Action.ensures_bind collectCarpStatus_still fun left => ?_
    refine Action.ensures_bind Action.ensures_ofExcept fun _ => ?_
    refine Action.ensures_bind collectCarpStatus_still fun right => ?_
    exact Action.ensures_bind Action.ensures_ofExcept fun side => Action.ensures_pure
  · exact Action.ensures_bind Action.ensures_ofExcept fun host => Action.ensures_pure

theorem targetOf_renews : Action.Ensures Renews (targetOf cfg true) := by
  intro before trace outcome after run
  rcases Action.run_inside.mp run with ⟨_, _, _, _, inner, _, rfl⟩
  exact renews_of_kept (firewallTarget_writing _ _ _ _ inner).1

theorem targetOf_renewsFrom : Action.Ensures (RenewsFrom file) (targetOf (loadConfig file) false) :=
  fun _ _ _ _ run _ fresh => (targetOf_reading run fresh).1

theorem contextOf_renews {write : Bool} {target : Except Exn (Option (Host × Option Host))} :
    Action.Ensures Renews (contextOf form cfg write target) := by
  rcases target with error | _ | ⟨host, peer⟩
  · simp only [contextOf]
    split
    · exact Action.ensures_pure
    · split
      · exact Action.ensures_pure
      · exact Action.ensures_raise
  · exact Action.ensures_pure
  · exact Action.ensures_pure

theorem managementContext_renews {mutation : Option Bool} :
    Action.Ensures Renews (managementContext form mutation) := by
  refine readConfig_bind fun file => ?_
  split
  · exact onwards Action.ensures_pure
  · split
    · split
      · exact onwards Action.ensures_pure
      · refine onwards (Action.ensures_bind firewallCanWrite_renews fun granted => ?_)
        split
        · exact Action.ensures_pure
        · split
          · exact Action.ensures_pure
          · exact Action.ensures_bind targetOf_renews fun _ => contextOf_renews
    · exact renewsFrom_bind targetOf_renewsFrom fun _ => contextOf_renews

theorem built_renews {result : Except Exn Response} : Action.Ensures Renews (built result) := by
  cases result with
  | ok response => exact Action.ensures_pure
  | error error => exact Action.ensures_raise

theorem readsOnly_renews : Action.Ensures Renews (readsOnly context) := by
  unfold readsOnly
  split
  · exact Action.ensures_pure
  · exact Action.ensures_bind firewallCanWrite_renews fun _ => Action.ensures_pure

theorem showReadOnly_renews {response : Response} : Action.Ensures Renews (showReadOnly context response) := by
  unfold showReadOnly
  split
  · split
    · exact Action.ensures_bind readsOnly_renews fun _ => Action.ensures_pure
    · exact Action.ensures_pure
  · exact Action.ensures_pure

theorem firewallManagement_renews {resource : Resource} :
    Action.Ensures Renews (firewallManagement resource form) := by
  refine Action.ensures_bind managementContext_renews fun result => ?_
  rcases result with denied | context
  · exact Action.ensures_pure
  dsimp only
  split
  · unfold firewallWrite
    split
    · exact Action.ensures_pure
    · exact Action.ensures_bind serve_renews fun _ =>
        Action.ensures_bind built_renews fun _ => Action.ensures_pure
  · exact Action.ensures_bind serve_renews fun _ =>
      Action.ensures_bind built_renews fun _ => showReadOnly_renews

theorem legacyManagement_renews {page : LegacyPage} :
    Action.Ensures Renews (legacyManagement page form) := by
  refine Action.ensures_bind managementContext_renews fun result => ?_
  rcases result with denied | context
  · exact Action.ensures_pure
  dsimp only
  split
  · split
    · exact Action.ensures_bind serve_renews fun _ =>
        Action.ensures_bind built_renews fun _ => Action.ensures_pure
    · exact Action.ensures_raise
  · exact Action.ensures_bind serve_renews fun _ =>
      Action.ensures_bind built_renews fun _ => showReadOnly_renews

theorem manageIn_renews {managed : Managed} :
    Action.Ensures Renews (manageIn plugin managed form context) := by
  refine Action.ensures_bind Action.ensures_ofExcept fun _ => ?_
  split
  · refine Action.ensures_bind serve_renews fun result => ?_
    cases result <;> exact Action.ensures_pure
  · split
    · exact Action.ensures_pure
    · refine Action.ensures_bind serve_renews fun result => ?_
      cases result with
      | error error => exact Action.ensures_pure
      | ok data => exact Action.ensures_bind readsOnly_renews fun _ => Action.ensures_pure

theorem hManage_renews : Action.Ensures Renews (hManage plugin form) := by
  unfold hManage
  split
  · split
    · exact Action.ensures_pure
    · refine Action.ensures_bind managementContext_renews fun result => ?_
      cases result with
      | error denied => exact Action.ensures_pure
      | ok context => exact manageIn_renews
  · exact Action.ensures_pure

theorem hOperate_renews : Action.Ensures Renews (hOperate form) := by
  unfold hOperate
  split
  · split
    · exact Action.ensures_pure
    · split
      · exact Action.ensures_pure
      · refine Action.ensures_bind managementContext_renews fun result => ?_
        cases result with
        | error denied => exact Action.ensures_pure
        | ok context =>
            refine Action.ensures_bind Action.ensures_ofExcept fun _ => ?_
            refine Action.ensures_bind serve_renews fun result => ?_
            cases result <;> exact Action.ensures_pure
  · exact Action.ensures_pure

theorem createBackup_renews : Action.Ensures Renews (createBackup plugin) := by
  refine readConfig_bind fun file => ?_
  refine renewsFrom_bind targetOf_renewsFrom fun target => ?_
  rcases target with error | _ | ⟨host, peer⟩
  · exact Action.ensures_pure
  · exact Action.ensures_pure
  · exact Action.ensures_bind ask_renews fun _ => storeCall_renews

theorem hBackups_renews : Action.Ensures Renews (hBackups plugin form) := by
  unfold hBackups
  split
  · exact Action.ensures_pure
  refine Action.ensures_bind firewallCanWrite_renews fun granted => ?_
  split
  · exact Action.ensures_pure
  unfold backupAction
  split
  · split <;> exact storeCall_renews
  · split
    · split
      · exact createBackup_renews
      · split
        · exact storeCall_renews
        · exact Action.ensures_pure
    · exact Action.ensures_pure

theorem handle_renews : Action.Ensures Renews (handle plugin route form) := by
  cases route with
  | firewall resource => exact firewallManagement_renews
  | legacy page => exact legacyManagement_renews
  | manage => exact hManage_renews
  | operate => exact hOperate_renews
  | backups => exact hBackups_renews

theorem shownOf_renews {Shown : Type} {result : Except Exn Shown} :
    Action.Ensures Renews (shownOf result) := by
  cases result with
  | ok shown => exact Action.ensures_pure
  | error error => exact Action.ensures_raise

theorem showPair_renews {Shown : Type} {builders : Builders Shown} {page : Page} :
    Action.Ensures Renews (showPair builders page cfg) := by
  refine Action.ensures_bind Action.ensures_ofExcept fun a => ?_
  refine Action.ensures_bind Action.ensures_ofExcept fun b => ?_
  exact Action.ensures_bind serve_renews fun _ => shownOf_renews

theorem firstHost_renews : Action.Ensures Renews firstHost := by
  refine readConfig_bind fun file => ?_
  split
  · exact onwards Action.ensures_pure
  intro before trace outcome after run
  rw [Action.run_bind_ofExcept] at run
  rcases run with ⟨cluster, mode, run⟩ | ⟨error, _, rfl, rfl, rfl⟩
  rotate_left
  · exact (renews_of_kept rfl).onwards
  rw [Action.run_bind_ofExcept] at run
  rcases run with ⟨a, first, run⟩ | ⟨error, _, rfl, rfl, rfl⟩
  rotate_left
  · exact (renews_of_kept rfl).onwards
  cases cluster with
  | false =>
      rcases Action.run_pure.mp run with ⟨rfl, rfl, rfl⟩
      exact (renews_of_kept rfl).onwards
  | true =>
      rw [if_neg (by decide), Action.run_bind_ofExcept] at run
      rcases run with ⟨b, second, run⟩ | ⟨error, _, rfl, rfl, rfl⟩
      rotate_left
      · exact (renews_of_kept rfl).onwards
      -- The side is resolved for the pair of the file that has just been read.
      have resolving : Action.Ensures (RenewsFrom file)
          (Action.inside (atHosts (configuredHost (loadConfig file))) GatewayState.cachePart
            (resolvedMasterSide a b) : Gate (Except Exn Side)) := by
        intro before trace outcome after run history fresh
        rcases Action.run_inside.mp run with ⟨own, result, last, stand, inner, rfl, rfl⟩
        exact ((resolvedMasterSide_run inner).recent ⟨mode, first, second⟩ stand fresh).1
      refine renewsFrom_bind resolving (fun side => ?_) _ _ _ _ run
      exact Action.ensures_bind Action.ensures_ofExcept fun _ => Action.ensures_pure

theorem showFirst_renews {Shown : Type} {builders : Builders Shown} {page : Page} :
    Action.Ensures Renews (showFirst builders page) := by
  refine Action.ensures_bind firstHost_renews fun host => ?_
  cases host with
  | none => exact Action.ensures_pure
  | some host => exact Action.ensures_bind serve_renews fun _ => shownOf_renews

theorem showPage_renews {Shown : Type} {builders : Builders Shown} {page : Page} :
    Action.Ensures Renews (showPage builders page) := by
  cases page with
  | overview =>
      refine readConfig_bind fun file => onwards ?_
      refine Action.ensures_bind Action.ensures_ofExcept fun cluster => ?_
      split
      · exact showPair_renews
      · exact showFirst_renews
  | cluster =>
      refine readConfig_bind fun file => onwards ?_
      refine Action.ensures_bind Action.ensures_ofExcept fun count => ?_
      split
      · exact Action.ensures_pure
      · exact showPair_renews
  | network | logs | vpn | metrics => exact showFirst_renews

theorem hHealth_renews : Action.Ensures Renews hHealth := by
  refine readConfig_bind fun file => onwards ?_
  dsimp only
  split
  all_goals
    refine Action.ensures_bind ?_ fun granted =>
      Action.ensures_bind Action.ensures_ofExcept fun cluster =>
        Action.ensures_bind Action.ensures_ofExcept fun count => Action.ensures_pure
  · exact Action.ensures_pure
  · exact firewallCanWrite_renews

theorem hCatalog_renews : Action.Ensures Renews (hCatalog plugin form) := by
  unfold hCatalog
  split
  · exact Action.ensures_pure
  refine readConfig_bind fun file => onwards ?_
  dsimp only
  split
  all_goals
    refine Action.ensures_bind ?_ fun granted =>
      Action.ensures_bind Action.ensures_ofExcept fun cluster =>
        Action.ensures_bind firewallCanWrite_renews fun backups => Action.ensures_pure
  · exact Action.ensures_pure
  · exact firewallCanWrite_renews

/-- After any calls the cache is fresh. -/
theorem Session.recent (session : Session plugin history before) : Recent history before.cache := by
  induction session with
  | start => exact fun side impossible => by cases impossible
  | call earlier run ih => exact handle_renews _ _ _ _ run _ ih
  | page earlier run ih => exact showPage_renews _ _ _ _ run _ ih
  | health earlier run ih => exact hHealth_renews _ _ _ _ run _ ih
  | catalog earlier run ih => exact hCatalog_renews _ _ _ _ run _ ih

/-- In cluster mode a call that reads, after any calls, goes to a side that was found by a probe which
had begun less than ten seconds before. -/
theorem readings_fresh {mutation : Option Bool} (session : Session plugin history before)
    (run : (managementContext form mutation).Run before trace (.ok (.ok context)) after)
    (reads : context.write = false) (cluster : isClusterMode context.cfg = .ok true) :
    ReadsFound context.cfg history trace context.host context.peer := by
  cases managementContext_admitted run with
  | reading _ resolved => exact (targetOf_reading resolved session.recent).2 cluster _ _ rfl
  | writing => cases reads

end Calls

end Runtime

namespace GateDemo

def readForm : WebRequest where
  method := "GET"

/-- Whether this is the context of a reading in cluster mode -/
def readsPair : Except Exn (Except Responded Context) → Bool
  | .ok (.ok context) => !context.write &&
      (@isClusterMode Runtime.ascii context.cfg).toOption = some true
  | _ => false

/-- Pages that ask one question of each of their hosts -/
def askingOnce : Builders Unit where
  refusal _ := ()
  single _ _ := do
    let _ ← Action.ask (.get () "/api/diagnostics/firewall/log" [])
  pair _ _ _ := do
    let _ ← Action.ask (.get Side.left "/api/diagnostics/interface/get_vip_status" [])
    let _ ← Action.ask (.get Side.right "/api/diagnostics/interface/get_vip_status" [])

/-- The state that the page of the logs leaves behind, which makes a probe -/
def probedState : GatewayState :=
  ((@showPage Runtime.ascii Unit askingOnce .logs {}).replay (fun _ => openedGate) []).2.2

/-- The call after it finds the side in the cache and asks for the configuration and the time only. -/
theorem readings_fresh_pair :
    ∃ history between trace context after,
      @Session Runtime.ascii labPlugin history between ∧
      (@managementContext Runtime.ascii readForm none).Run between trace (.ok (.ok context)) after ∧
      trace.length = 2 ∧
      @ReadsFound Runtime.ascii context.cfg history trace context.host context.peer := by
  rcases Program.replay_yields (fun _ => openedGate)
    (@showPage Runtime.ascii Unit askingOnce .logs {}) [] with ⟨history, _, first⟩
  rcases Program.replay_yields (fun _ => openedGate)
    (@managementContext Runtime.ascii readForm none probedState) [] with ⟨trace, recorded, run⟩
  have session : @Session Runtime.ascii labPlugin ([] ++ history) probedState :=
    @Session.page Runtime.ascii labPlugin [] history {} _ Unit askingOnce .logs _
      (@Session.start Runtime.ascii labPlugin) first
  have reads : readsPair ((@managementContext Runtime.ascii readForm none probedState).replay
      (fun _ => openedGate) []).2.1 = true ∧
      ((@managementContext Runtime.ascii readForm none probedState).replay
        (fun _ => openedGate) []).1.length = 2 := by
    decide +kernel
  rw [recorded, List.nil_append] at reads
  generalize ((@managementContext Runtime.ascii readForm none probedState).replay
    (fun _ => openedGate) []).2 = ended at run reads
  rcases ended with ⟨outcome, after⟩
  rcases outcome with error | denied | context
  · cases reads.1
  · cases reads.1
  · have paired := reads.1
    simp only [readsPair, Bool.and_eq_true, Bool.not_eq_true', decide_eq_true_eq] at paired
    rcases paired with ⟨reading, mode⟩
    have cluster : @isClusterMode Runtime.ascii context.cfg = .ok true := by
      cases known : @isClusterMode Runtime.ascii context.cfg with
      | error error =>
          rw [known] at mode
          cases mode
      | ok cluster =>
          rw [known] at mode
          exact congrArg Except.ok (Option.some.inj mode)
    exact ⟨[] ++ history, probedState, trace, context, after, session, run, reads.2,
      @readings_fresh Runtime.ascii labPlugin readForm context probedState after ([] ++ history)
        trace none session run reading cluster⟩

end GateDemo

end OpnsensePlugin
