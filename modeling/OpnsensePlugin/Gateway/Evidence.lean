import OpnsensePlugin.Gateway.Attempts

/-!
# No change without a record

On the routes of the firewall, of the administration and of the operations a POST that
can change a node comes after a record of the same call in the audit log. The record
names the user of the session, the node that the POST goes to, and what is attempted.
-/

namespace OpnsensePlugin

open Effects Python

section Runtime

variable [Runtime]

/-- What the records of a route say about what is attempted: what the call asks for -/
def Route.Names (route : Route) (form : WebRequest) (action : Str) : Prop :=
  match route with
  | .firewall resource => ∃ fields write, form.json = .obj fields ∧
      FirewallRoute.actionOf fields = some write ∧ (action = resource.name ++ "." ++ write.name ∨
        (resource = .portForward ∧ write = .delete ∧ action = "port_forward.peer_delete"))
  | .manage => ∃ id fields, named form "resource" = .str id ∧ form.json = .obj fields ∧
      ((∃ write, ManagementService.actionOf fields = some write ∧ action = id ++ "." ++ write.name) ∨
        (id = crlId ∧ ∃ write, CrlService.crlActionOf fields = some write ∧
          action = "crl." ++ write.name))
  | .operate => ∃ id, named form "operation" = .str id ∧ action = "operation." ++ id
  | .legacy _ | .backups => False

/-- A POST that is no search comes after a record of the attempt. -/
def Accounted (route : Route) (form : WebRequest) (history : GateTrace)
    (event : Event Ask Ask.Answer) : Prop :=
  ∀ host path body, event.request = .exchange (.post host path body) → path ∈ searchPaths ∨
    ∃ entry action, (⟨.exchange (.append entry), .ok ()⟩ : Event Ask Ask.Answer) ∈ history ∧
      entry.Announces form.actor host.name action ∧ route.Names form action

section Routes

variable {plugin : Plugin} {route : Route} {form : WebRequest} {history : GateTrace}
  {event : Event Ask Ask.Answer} {context : Context} {before after : GatewayState}
  {trace front back : GateTrace}

theorem Accounted.later (accounted : Accounted route form history event) (early : GateTrace) :
    Accounted route form (early ++ history) event := by
  intro host path body asked
  rcases accounted host path body asked with searches | ⟨entry, action, stored, announces, names⟩
  · exact .inl searches
  · exact .inr ⟨entry, action, List.mem_append_right _ stored, announces, names⟩

theorem accounted_append (first : Justified (Accounted route form) front)
    (second : Justified (Accounted route form) back) :
    Justified (Accounted route form) (front ++ back) :=
  first.append (second.mono fun _ _ accounted => accounted.later front)

theorem accounted_of_searches (searches : ∀ event ∈ trace,
      event.request.PostsWithin fun _ path => path ∈ searchPaths) :
    Justified (Accounted route form) trace := by
  apply Justified.of_all
  rintro history ⟨request, answer⟩ member host path body rfl
  exact .inl (searches _ member)

theorem accounted_of_still (still : event.request.IsQuiet) : Accounted route form history event := by
  rintro host path body asked
  rw [asked] at still
  exact still.elim

theorem accounted_of_quiet {α : Type} {action : Gate α} {outcome : Except Exn α}
    (quiet : Action.Ensures (Action.Requests Ask.IsQuiet) action)
    (run : action.Run before trace outcome after) : Justified (Accounted route form) trace :=
  .of_all fun _ event member => accounted_of_still (quiet _ _ _ _ run event member)

/-- Code that keeps to its records, on the hosts that its nodes are -/
theorem inside_accounted {Node α : Type} {hosts : Node → Host} {code : Py Node Unit α}
    {counts : Node → AuditEntry → Prop} {allowed : Node → Str → Prop} {outcome : Except Exn (Except Exn α)}
    (heeds : Action.Heeds (Announced counts) (fun _ _ => True) code (fun _ _ _ => True) fun _ _ _ => True)
    (posts : Posts allowed code)
    (names : ∀ node path entry, allowed node path → counts node entry → ∃ action,
      entry.Announces form.actor (hosts node).name action ∧ route.Names form action)
    (run : (Context.serve hosts code).Run before trace outcome after) :
    Justified (Accounted route form) trace := by
  rcases Action.run_inside.mp run with ⟨own, result, last, stand, inner, _, _⟩
  have announced := heeds.justified trivial inner
  intro front event back split host path body asked
  subst split
  rcases stand.split with ⟨earlier, mine, later, rfl, early, stands, _⟩
  cases stands with
  | intro request answer =>
      cases request with
      | post node target sent =>
          cases asked
          have recalls : Recalls counts node earlier := announced earlier _ later rfl
          rcases recalls with ⟨entry, stored, counted⟩
          have goes : allowed node path :=
            posts _ _ _ _ inner _ (List.mem_append_right earlier List.mem_cons_self)
          rcases names node path entry goes counted with ⟨action, announces, named⟩
          rcases early.mem_own stored with ⟨⟨wrapped, kept⟩, found, stands⟩
          generalize same : (⟨.append entry, .ok ()⟩ : Exchange Node) = record at stands
          cases stands with
          | intro request given =>
              cases same
              exact .inr ⟨entry, action, found, announces, named⟩
      | _ => cases asked

/-- Such code, and what is made of its outcome -/
theorem served_accounted {Node α β : Type} {hosts : Node → Host} {code : Py Node Unit α}
    {next : Except Exn α → Gate β} {counts : Node → AuditEntry → Prop} {allowed : Node → Str → Prop}
    {outcome : Except Exn β}
    (heeds : Action.Heeds (Announced counts) (fun _ _ => True) code (fun _ _ _ => True) fun _ _ _ => True)
    (posts : Posts allowed code)
    (names : ∀ node path entry, allowed node path → counts node entry → ∃ action,
      entry.Announces form.actor (hosts node).name action ∧ route.Names form action)
    (quiet : ∀ result, Action.Ensures (Action.Requests Ask.IsQuiet) (next result))
    (run : (Context.serve hosts code >>= next).Run before trace outcome after) :
    Justified (Accounted route form) trace := by
  rw [Action.run_bind] at run
  rcases run with ⟨front, result, middle, back, rfl, serving, run⟩ | ⟨error, rfl, serving⟩
  · exact accounted_append (inside_accounted heeds posts names serving)
      (accounted_of_quiet (quiet result) run)
  · exact inside_accounted heeds posts names serving

/-- Code behind the gate, by what it does with a context that reads and with one that writes -/
theorem gated_accounted {handler : Except Responded Context → Gate Responded}
    {mutation : Option Bool} {outcome : Except Exn Responded}
    (denies : ∀ response, Action.Ensures (Action.Requests Ask.IsQuiet) (handler (.error response)))
    (reads : ∀ context : Context, context.write = false →
      context.write = mutation.getD (form.method = ("POST" : Str)) →
      Action.Ensures (Action.Requests (Ask.PostsWithin fun _ path => path ∈ searchPaths))
        (handler (.ok context)))
    (writes : ∀ context : Context, context.write = true → context.actor = form.actor →
      context.body = form.json →
      ∀ before trace outcome after, (handler (.ok context)).Run before trace outcome after →
        Justified (Accounted route form) trace)
    (run : (managementContext form mutation >>= handler).Run before trace outcome after) :
    Justified (Accounted route form) trace := by
  refine gated_justified (fun _ _ => accounted_of_still) denies ?_ run
  intro before front context middle back outcome after admitted run
  have inner : Justified (Accounted route form) back := by
    cases admitted with
    | reading same _ => exact accounted_of_searches (reads _ rfl same.symm _ _ _ _ run)
    | writing _ _ _ _ => exact writes _ rfl rfl rfl _ _ _ _ run
  exact inner.mono fun _ _ accounted => accounted.later front

/-! ### The firewall -/

omit [Runtime] in
theorem settingsOf_ok {settings : FirewallSettings} (made : settingsOf context = .ok settings) :
    settings.host = context.host ∧ settings.peerHost = context.peer ∧ settings.actor = context.actor := by
  simp only [settingsOf, bind_eq_ok, raiseIf_eq_ok, pure_eq_ok] at made
  rcases made with ⟨_, _, _, _, _, _, rfl⟩
  exact ⟨rfl, rfl, rfl⟩

/-- What the records of the writer say -/
theorem firewall_names {resource : Resource} {settings : FirewallSettings} {role : Role} {path : Str}
    {entry : AuditEntry} (made : settingsOf context = .ok settings)
    (user : context.actor = form.actor) (body : context.body = form.json)
    (reached : FirewallRoute.Reached settings resource context.body role path)
    (counted : FirewallRoute.Counts settings resource context.body role entry) :
    ∃ action, entry.Announces form.actor (context.hostOf role).name action ∧
      (Route.firewall resource).Names form action := by
  rcases settingsOf_ok made with ⟨host, peer, actor⟩
  rw [body] at reached counted
  rcases counted with ⟨fields, write, same, named, announces⟩
  cases role with
  | client =>
      refine ⟨_, ⟨?_, ?_, rfl, announces.result⟩, fields, write, same, named, .inl announces.action⟩
      · exact announces.user.trans (actor.trans user)
      · exact announces.host.trans (congrArg Host.name host)
  | peer =>
      rcases reached with impossible | ⟨_, known, portForward, others, again, deletes⟩
      · cases impossible
      rcases Option.isSome_iff_exists.mp known with ⟨other, found⟩
      refine ⟨_, ⟨?_, ?_, rfl, announces.result⟩, others, .delete, again, deletes,
        .inr ⟨portForward, rfl, announces.action⟩⟩
      · exact announces.user.trans (actor.trans user)
      · rw [announces.host]
        simp [VerifiedFirewallWriter.peerName, FirewallRoute.writerOf, Context.hostOf, ← peer, found]

theorem firewallManagement_accounted {resource : Resource} {outcome : Except Exn Responded}
    (run : (firewallManagement resource form).Run before trace outcome after) :
    Justified (Accounted (.firewall resource) form) trace := by
  refine gated_accounted (fun response => Action.ensures_pure) ?_ ?_ run
  · intro context write _
    simp only [write, Bool.false_eq_true, if_false]
    exact within_of_quiet firewallReading_quiet
  · intro context write user body before trace outcome after run
    simp only [write, if_true, firewallWrite] at run
    split at run
    · exact accounted_of_quiet Action.ensures_pure run
    · rename_i settings made
      refine served_accounted FirewallRoute.actionPayload_heeds FirewallRoute.actionPayload_posts ?_ ?_ run
      · intro role path entry reached counted
        exact firewall_names made user body reached counted
      · intro result
        exact Action.ensures_bind built_quiet fun _ => Action.ensures_pure

/-! ### The services -/

omit [Runtime] in
theorem Plugin.resource_found {id : Str} {managed : Managed} (found : plugin.resource id = some managed) :
    match managed with
    | .engine spec => spec.id = id
    | .crl => id = crlId := by
  unfold Plugin.resource at found
  split at found
  · rename_i same
    cases found
    exact same
  · rcases Option.map_eq_some_iff.mp found with ⟨spec, known, rfl⟩
    simpa using List.find?_some known

/-- The records of a service that count for a node -/
def Managed.Counts (plugin : Plugin) (context : Context) : Managed → Role → AuditEntry → Prop
  | .engine spec => ManagementService.Counts ⟨context.host, context.peer, context.actor⟩ spec context.body
  | .crl => CrlService.Counts ⟨context.host, context.peer, context.actor, plugin.loadPem⟩ context.body

theorem managedWriting_heeds {managed : Managed} :
    Action.Heeds (Announced (managed.Counts plugin context)) (fun _ _ => True)
      (managedWriting plugin managed context) (fun _ _ _ => True) fun _ _ _ => True := by
  cases managed with
  | engine spec => exact .bind ManagementService.mutate_heeds fun _ => .pure fun _ _ _ => trivial
  | crl => exact .bind CrlService.mutate_heeds fun _ => .pure fun _ _ _ => trivial

theorem managed_names {managed : Managed} {id path : Str} {role : Role} {entry : AuditEntry}
    (asked : named form "resource" = .str id) (found : plugin.resource id = some managed)
    (user : context.actor = form.actor) (body : context.body = form.json) (client : ToClient role path)
    (counted : managed.Counts plugin context role entry) :
    ∃ action, entry.Announces form.actor (context.hostOf role).name action ∧
      Route.manage.Names form action := by
  have identified := Plugin.resource_found found
  cases client
  cases managed with
  | engine spec =>
      rcases counted with ⟨fields, write, same, named, announces⟩
      refine ⟨_, ⟨announces.user.trans user, announces.host, rfl, announces.result⟩, id, fields, asked,
        body.symm.trans same, .inl ⟨write, named, ?_⟩⟩
      rw [announces.action, identified]
  | crl =>
      rcases counted with ⟨fields, write, same, named, announces⟩
      exact ⟨_, ⟨announces.user.trans user, announces.host, rfl, announces.result⟩, id, fields, asked,
        body.symm.trans same, .inr ⟨identified, write, named, announces.action⟩⟩

theorem hManage_accounted {outcome : Except Exn Responded}
    (run : (hManage plugin form).Run before trace outcome after) :
    Justified (Accounted .manage form) trace := by
  unfold hManage at run
  split at run
  · rename_i id asked
    split at run
    · exact accounted_of_quiet Action.ensures_pure run
    · rename_i managed found
      refine gated_accounted (fun response => Action.ensures_pure) ?_ ?_ run
      · intro context write _
        exact within_of_quiet (manageIn_reads write)
      · intro context write user body before trace outcome after run
        have serving : (manageIn plugin managed form context).Run before trace outcome after := run
        rw [manageIn, Action.run_bind_ofExcept] at serving
        rcases serving with ⟨_, _, serving⟩ | ⟨_, _, rfl, _⟩
        · simp only [write, if_true] at serving
          refine served_accounted managedWriting_heeds managedWriting_posts ?_ ?_ serving
          · intro role path entry client counted
            exact managed_names asked found user body client counted
          · intro result
            cases result <;> exact Action.ensures_pure
        · exact .nil
  · exact accounted_of_quiet Action.ensures_pure run

theorem hOperate_accounted {outcome : Except Exn Responded}
    (run : (hOperate form).Run before trace outcome after) :
    Justified (Accounted .operate form) trace := by
  unfold hOperate at run
  split at run
  · rename_i operation asked
    split at run
    · exact accounted_of_quiet Action.ensures_pure run
    rename_i spec found
    split at run
    · exact accounted_of_quiet Action.ensures_pure run
    rename_i method
    refine gated_accounted (fun response => Action.ensures_pure) ?_ ?_ run
    · intro context write same
      rw [Option.getD_some, mutation_sent (by simpa using method), write] at same
      exact operateIn_reads found same.symm
    · intro context write user body before trace outcome after run
      have serving : (operateIn operation form context).Run before trace outcome after := run
      rw [operateIn, Action.run_bind_ofExcept] at serving
      rcases serving with ⟨_, _, serving⟩ | ⟨_, _, rfl, _⟩
      · have sends : Posts ToClient (Management.executeOperation context.host context.actor
            (.str operation) (operationValues form)) :=
          Management.executeOperation_posts fun _ _ _ _ _ => rfl
        refine served_accounted Management.executeOperation_heeds sends ?_ ?_ serving
        · intro role path entry client counted
          cases client
          exact ⟨_, ⟨counted.user.trans user, counted.host, rfl, counted.result⟩, operation, asked,
            counted.action⟩
        · intro result
          cases result <;> exact Action.ensures_pure
      · exact .nil
  · exact accounted_of_quiet Action.ensures_pure run

/-! ### The backups -/

theorem accounted_of_keeps (keeps : event.request.KeepsNodes) : Accounted route form history event := by
  rintro host path body asked
  rw [asked] at keeps
  exact absurd trivial keeps

theorem hBackups_accounted {outcome : Except Exn Responded}
    (run : (hBackups plugin form).Run before trace outcome after) :
    Justified (Accounted .backups form) trace := by
  have keeps : Action.Ensures (Action.Requests Ask.KeepsNodes) (hBackups plugin form) := by
    unfold hBackups
    split
    · exact Action.ensures_pure
    refine Action.ensures_bind (keeps_of_quiet firewallCanWrite_quiet) fun granted => ?_
    split
    · exact Action.ensures_pure
    · exact backupAction_keeps
  exact .of_all fun _ event member => accounted_of_keeps (keeps _ _ _ _ run event member)

/-- Except on the older pages, what can change a node comes after a record of it. -/
theorem handle_accounted {outcome : Except Exn Responded} (verified : ∀ page, route ≠ .legacy page)
    (run : (handle plugin route form).Run before trace outcome after) :
    ∀ front event back, trace = front ++ event :: back → Accounted route form front event := by
  cases route with
  | firewall resource => exact firewallManagement_accounted run
  | legacy page => exact absurd rfl (verified page)
  | manage => exact hManage_accounted run
  | operate => exact hOperate_accounted run
  | backups => exact hBackups_accounted run

end Routes

end Runtime

namespace GateDemo

/-- The restart of the service on the second node was recorded for that node. -/
theorem handle_accounted_restart :
    ∃ front event back outcome after,
      (@handle Runtime.ascii labPlugin .operate restartForm).Run {} (front ++ event :: back) outcome
        after ∧
      event.request.postTarget = some (second, restartPath) ∧
      ∃ entry, (⟨.exchange (.append entry), .ok ()⟩ : Event Ask Ask.Answer) ∈ front ∧
        entry.host = ("B" : Str) ∧ entry.action = ("operation.monit_restart" : Str) := by
  rcases restart_posts with ⟨trace, outcome, after, run, posted⟩
  rcases List.mem_filterMap.mp posted with ⟨event, member, target⟩
  rcases List.append_of_mem member with ⟨front, back, rfl⟩
  refine ⟨front, event, back, outcome, after, run, target, ?_⟩
  have accounted := @handle_accounted Runtime.ascii labPlugin .operate restartForm _ _ _ _ (by simp) run front
    event back rfl
  rcases event with ⟨request, answer⟩
  cases request with
  | exchange request =>
      cases request with
      | post host path body =>
          simp only [Ask.postTarget, Option.some.injEq, Prod.mk.injEq] at target
          rcases target with ⟨rfl, rfl⟩
          rcases accounted _ _ _ rfl with searches | ⟨entry, action, stored, announces, id, asked, rfl⟩
          · exact absurd searches (by decide)
          · cases asked
            exact ⟨entry, stored, announces.host, announces.action⟩
      | _ => simp [Ask.postTarget] at target
  | _ => simp [Ask.postTarget] at target

end GateDemo

end OpnsensePlugin
