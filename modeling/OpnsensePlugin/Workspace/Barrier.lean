import OpnsensePlugin.Workspace.Exclusion

/-!
# The barrier after an uncertain change

Nothing is sent until the operator has checked the firewall. A refused write lowers the
flag that an uncertain one raised, if both were in flight.
-/

namespace OpnsensePlugin

open Python

namespace Workspace

/-! ## Answers -/

/-- The answer says that the request succeeded. -/
def succeeds (status : Nat) (body : Json) : Bool :=
  200 ≤ status && status < 300 && isTrue (members body) "ok"

/-- The members of `data` -/
def data (body : Json) : List (Str × Json) :=
  match field (members body) "data" with
  | some value => members value
  | none => []

/-- The answer leaves open what became of a change. -/
def Fetched.Uncertain : Fetched → Prop
  | .lost | .unread _ => True
  | .read status body =>
      if succeeds status body then isTrue (data body) "verified" = false ∨ isTrue (data body) "partial" = true
      else isTrue (members body) "partial" = true ∨ isTrue (data body) "partial" = true ∨
        status ∉ refusals

def Uncertain : (task : Task) → Answer task → Prop
  | .write _ _, answer => Fetched.Uncertain answer
  | .operate _ true, answer => Fetched.Uncertain answer
  | _, _ => False

/-- `operate` does not look for `partial` in `data`, which `write` does. -/
def Noted : (task : Task) → Answer task → Prop
  | .operate _ _, .read status body =>
      if succeeds status body then isTrue (data body) "verified" = false
      else isTrue (members body) "partial" = true ∨ status ∉ refusals
  | _, _ => True

/-! ## Raising the flag -/

variable {state next last : State} {task : Task} {move : Move} {front back : List Task}

theorem isTrue_nil {key : Str} : isTrue [] key = false := rfl

theorem api_of_succeeds {sends : Bool} {status : Nat} {body : Json}
    (success : succeeds status body = true) :
    api sends (.read status body) = .ok (data body) ∨ data body = [] ∧
      api sends (.read status body) = .error ⟨some 502, [("partial", .bool sends)]⟩ := by
  simp only [succeeds, Bool.and_eq_true] at success
  rcases success with ⟨inside, ok⟩
  have marked : ¬ (!isTrue (members body) "ok") = true := by simp [ok]
  simp only [api]
  rw [if_neg (by simp [inside]), data]
  cases body with
  | null => cases ok
  | _ =>
      dsimp only
      rw [if_neg marked]
      rcases field (members _) "data" with _ | value
      · exact .inr ⟨rfl, rfl⟩
      · cases value with
        | obj _ => exact .inl rfl
        | arr _ => exact .inl rfl
        | _ => exact .inr ⟨rfl, rfl⟩

theorem api_of_fails {sends : Bool} {status : Nat} {body : Json}
    (failure : succeeds status body = false) :
    api sends (.read status body) = .error ⟨some status, members body⟩ ∨
      body = .null ∧ status ∉ refusals ∧ api sends (.read status body) = .error ⟨none, []⟩ := by
  simp only [api]
  split
  · exact .inl rfl
  · rename_i inside
    simp only [Bool.not_eq_true', Bool.not_eq_false] at inside
    have unmarked : isTrue (members body) "ok" = false := by
      simpa [succeeds, inside] using failure
    split
    · refine .inr ⟨rfl, ?_, rfl⟩
      simp only [Bool.and_eq_true, decide_eq_true_eq] at inside
      intro refused
      simp only [refusals, List.mem_cons, List.not_mem_nil, or_false] at refused
      omega
    · exact .inl (if_pos (by simp [unmarked]))

/-- What a refusal has to say to be believed -/
theorem definitelyRejected_read {status : Nat} {body : Json} :
    Thrown.definitelyRejected ⟨some status, members body⟩ = (decide (status ∈ refusals) &&
      !isTrue (members body) "partial" && !isTrue (data body) "partial") := by
  have refusal : Thrown.isRefusal ⟨some status, members body⟩ = decide (status ∈ refusals) := rfl
  simp only [Thrown.definitelyRejected, refusal, Thrown.detail, data]
  cases found : field (members body) "data" with
  | none => simp [isTrue_nil]
  | some value =>
      simp only
      split
      · rfl
      · rename_i falsy
        have empty : members value = [] := by
          cases value with
          | obj _ => exact absurd rfl falsy
          | _ => rfl
        simp [empty, isTrue_nil]

@[simp] theorem reconcile_release : (release state).reconcile = state.reconcile := rfl

@[simp] theorem pending_release : (release state).pending = state.pending := rfl

/-- `write` raises the flag whenever it should. -/
theorem finishWrite_uncertain {form : Nat} {answer : Fetched} (uncertain : answer.Uncertain) :
    ∃ thrown, finishWrite form answer state = failWrite thrown state ∧
      thrown.definitelyRejected = false := by
  cases answer with
  | lost => exact ⟨_, rfl, rfl⟩
  | unread status =>
      exact ⟨⟨some status, [("partial", .bool true)]⟩, rfl, by
        simp [Thrown.definitelyRejected, isTrue, field_cons]⟩
  | read status body =>
      cases success : succeeds status body with
      | true =>
          simp only [Fetched.Uncertain, success, if_true] at uncertain
          simp only [finishWrite]
          rcases @api_of_succeeds true _ _ success with read | ⟨_, read⟩
          · have unconfirmed : confirms (data body) = false := by
              rcases uncertain with unverified | half
              · simp [confirms, unverified]
              · simp [confirms, half]
            rw [read]
            exact ⟨⟨some 502, [("partial", .bool true)]⟩, by simp [unconfirmed], rfl⟩
          · rw [read]
            exact ⟨_, rfl, rfl⟩
      | false =>
          simp only [Fetched.Uncertain, success, Bool.false_eq_true, if_false] at uncertain
          simp only [finishWrite]
          rcases @api_of_fails true _ _ success with read | ⟨_, _, read⟩
          · rw [read]
            refine ⟨_, rfl, ?_⟩
            rw [definitelyRejected_read]
            rcases uncertain with whole | inner | unknown
            · simp [whole]
            · simp [inner]
            · simp [unknown]
          · rw [read]
            exact ⟨_, rfl, rfl⟩

/-- `operate` raises the flag for the answers that it notes. -/
theorem reconcile_finishOperate {form : Nat} {answer : Fetched} :
    (finishOperate true answer state).reconcile = true ↔
      Noted (.operate form true) answer ∨ state.reconcile = true := by
  cases answer with
  | lost => exact iff_of_true rfl (.inl trivial)
  | unread status => exact iff_of_true rfl (.inl trivial)
  | read status body =>
      cases success : succeeds status body with
      | true =>
          simp only [Noted, success, if_true, finishOperate]
          rcases @api_of_succeeds true _ _ success with read | ⟨empty, read⟩
          · rw [read]
            cases verified : isTrue (data body) "verified" with
            | true => simp [verified]
            | false => simp [verified]
          · rw [read, empty]
            exact iff_of_true rfl (.inl rfl)
      | false =>
          simp only [Noted, success, Bool.false_eq_true, if_false, finishOperate]
          rcases @api_of_fails true _ _ success with read | ⟨rfl, unknown, read⟩
          · rw [read]
            cases whole : isTrue (members body) "partial" with
            | true => simp [whole]
            | false =>
                by_cases refused : status ∈ refusals
                · simp [whole, Thrown.isRefusal, refused]
                · simp [whole, Thrown.isRefusal, refused]
          · rw [read]
            exact iff_of_true rfl (.inl (.inr unknown))

theorem pending_finishOperate {sends : Bool} {answer : Fetched} :
    (finishOperate sends answer state).pending = state.pending := by
  simp only [finishOperate]
  split
  · split
    · rfl
    · split <;> rfl
  · split <;> rfl

/-! ## Keeping it -/

/-- The flag stays up, and nothing is sent. -/
structure Quiet (state next : State) : Prop where
  reconcile : state.reconcile = true → next.reconcile = true
  inFlight : next.inFlight.Sublist state.inFlight

theorem Quiet.of_same (reconcile : next.reconcile = state.reconcile)
    (pending : next.pending = state.pending) : Quiet state next where
  reconcile := reconcile.trans
  inFlight := by
    rw [State.inFlight, pending]
    exact List.Sublist.refl _

theorem Quiet.trans (first : Quiet state next) (second : Quiet next last) : Quiet state last where
  reconcile raised := second.reconcile (first.reconcile raised)
  inFlight := second.inFlight.trans first.inFlight

/-- A request that only reads -/
theorem Quiet.await (reads : task.posts = false) (reconcile : next.reconcile = state.reconcile)
    (pending : next.pending = state.pending) : Quiet state (Workspace.await task next) where
  reconcile := reconcile.trans
  inFlight := by
    simp only [State.inFlight, Workspace.await, pending, List.filter_append]
    simp [reads]

theorem Quiet.loadList {kind : Nat → Nat → Task} {page : Nat}
    (reads : ∀ epoch ticket, (kind epoch ticket).posts = false) :
    Quiet state (Workspace.loadList kind page state) := by
  simp only [Workspace.loadList]
  split
  · exact .of_same rfl rfl
  · exact .await (reads _ _) rfl rfl

theorem Quiet.loadBackups (reads : task.posts = false) :
    Quiet state (Workspace.loadBackups task state) := by
  simp only [Workspace.loadBackups]
  split
  · exact .of_same rfl rfl
  · exact .await reads rfl rfl

theorem State.writable_of_reconcile (raised : state.reconcile = true) : state.writable = false := by
  simp [State.writable, raised]

theorem State.allowDiscard_of_reconcile {discard : Bool} (raised : state.reconcile = true) :
    state.allowDiscard discard = false := by
  simp [State.allowDiscard, raised]

theorem Quiet.handle {event : UserEvent} (raised : state.reconcile = true)
    (unconfirmed : event ≠ .reconcile true) : Quiet state (Workspace.handle event state) := by
  have shut := State.writable_of_reconcile raised
  have kept : ∀ discard, state.allowDiscard discard = false :=
    fun _ => State.allowDiscard_of_reconcile raised
  have written : ∀ {action confirmed}, Quiet state (write action confirmed state) := by
    intro action confirmed
    simp only [write, shut]
    exact .of_same rfl rfl
  cases event with
  | select _ _ =>
      simp only [Workspace.handle, selectResource, kept, Bool.not_false, Bool.or_true, if_true]
      exact .of_same rfl rfl
  | list page query =>
      exact .trans (.of_same rfl rfl : Quiet state { state with query }) (.loadList fun _ _ => rfl)
  | detail _ _ =>
      simp only [Workspace.handle, openEditor, kept]
      exact .of_same rfl rfl
  | new _ =>
      simp only [Workspace.handle, openEditor, kept]
      exact .of_same rfl rfl
  | edit _ _ => exact .of_same rfl rfl
  | submit _ =>
      simp only [Workspace.handle]
      split
      · simp only [operate]
        split
        · simp only [shut, Bool.not_false, Bool.or_true, if_true]
          exact .of_same rfl rfl
        · exact .of_same rfl rfl
      · exact written
  | delete _ => exact written
  | cancel _ =>
      simp only [Workspace.handle, cancelEdit, kept]
      exact .of_same rfl rfl
  | reconcile confirmed =>
      cases confirmed with
      | true => exact absurd rfl unconfirmed
      | false =>
          simp only [Workspace.handle, Workspace.reconcile, Bool.not_false, Bool.or_true, if_true]
          exact .of_same rfl rfl
  | listBackups => exact .loadBackups rfl
  | changeBackup _ =>
      simp only [Workspace.handle, mutateBackup]
      split
      · exact .of_same rfl rfl
      · exact .await rfl rfl rfl
  | downloadBackup =>
      simp only [Workspace.handle]
      split
      · exact .of_same rfl rfl
      · exact .await rfl rfl rfl
  | reconcileBackups _ =>
      simp only [Workspace.handle, reconcileBackups]
      split
      · exact .of_same rfl rfl
      · exact .of_same rfl rfl

theorem pending_showList {epoch ticket : Nat} {listing : Option Listing} :
    (showList epoch ticket listing state).pending = state.pending :=
  congrArg Prod.fst outline_showList

theorem reconcile_showList {epoch ticket : Nat} {listing : Option Listing} :
    (showList epoch ticket listing state).reconcile = state.reconcile := by
  simp only [showList]
  split
  · cases listing with
    | none => rfl
    | some _ => rfl
  · rfl

theorem Quiet.finishReload {epoch ticket : Nat} {listing : Option Listing} :
    Quiet state (Workspace.finishReload epoch ticket listing state) := by
  simp only [Workspace.finishReload]
  split
  · refine ⟨fun _ => rfl, ?_⟩
    rw [State.inFlight, pending_release, pending_showList]
    exact List.Sublist.refl _
  · exact .of_same reconcile_showList pending_showList

theorem Quiet.showDetail {epoch : Nat} {uuid : Str} {detail : Option Detail} :
    Quiet state (Workspace.showDetail epoch uuid detail state) := by
  simp only [Workspace.showDetail]
  split
  · exact .of_same rfl rfl
  · cases detail with
    | none => exact .of_same rfl rfl
    | some detail =>
        simp only
        split
        · exact .of_same rfl rfl
        · exact .of_same rfl rfl

theorem Quiet.finishOperate {sends : Bool} {answer : Fetched} :
    Quiet state (Workspace.finishOperate sends answer state) where
  reconcile raised := by
    simp only [Workspace.finishOperate]
    split
    · split
      · exact raised
      · split
        · exact raised
        · rfl
    · split
      · rfl
      · exact raised
  inFlight := by
    rw [State.inFlight, pending_finishOperate]
    exact List.Sublist.refl _

theorem Quiet.finishBackupChange {answer : Fetched} :
    Quiet state (Workspace.finishBackupChange answer state) := by
  simp only [Workspace.finishBackupChange]
  split
  · refine .trans ?_ (.loadBackups rfl)
    exact .of_same rfl rfl
  · split
    · exact .of_same rfl rfl
    · exact .of_same rfl rfl

/-- The answer to anything but a write -/
theorem Quiet.resume {answer : Answer task} (other : ∀ form post, task ≠ .write form post) :
    Quiet state (Workspace.resume task answer state) := by
  cases task with
  | list _ _ => exact .of_same reconcile_showList pending_showList
  | reload _ _ _ => exact .finishReload
  | detail _ _ => exact .showDetail
  | write form post => exact absurd rfl (other form post)
  | operate _ _ => exact .finishOperate
  | backupList => exact .of_same rfl rfl
  | backupChange => exact .finishBackupChange
  | backupReload => exact .of_same rfl rfl
  | backupDownload => exact .of_same rfl rfl

theorem Quiet.drop (waiting : state.pending = front ++ task :: back) :
    Quiet state { state with pending := front ++ back } where
  reconcile := id
  inFlight := by
    rw [State.inFlight, State.inFlight, waiting]
    exact (List.Sublist.append (List.Sublist.refl front) (List.sublist_cons_self task back)).filter _

/-! ## Runs -/

/-- The operator does not confirm that the firewall was checked. -/
def Unconfirmed (_ : State) (move : Move) : Prop := move ≠ .user (.reconcile true)

/-- The flag stays up, and no change is sent. -/
def Withheld (state : State) (move : Move) : Prop :=
  ∀ next, Step state move next → next.reconcile = true ∧ next.inFlight.Sublist state.inFlight

/-- The flag is up, and it stays up until the operator lowers it. -/
def State.Barred (state : State) : Prop :=
  state.reconcile = true ∧
    ∀ moves last, Run Unconfirmed state moves last → Run Withheld state moves last

/-- Every uncertain answer bars further changes. -/
def Barring (state : State) (move : Move) : Prop :=
  ∀ task answer next, move = .arrival task answer → Uncertain task answer → Step state move next →
    next.Barred

/-- An uncertain answer is noted, and no other write is in flight when it arrives. -/
def Guarded (state : State) (move : Move) : Prop :=
  ∀ task answer front back, move = .arrival task answer → Uncertain task answer →
    state.pending = front ++ task :: back →
      (Noted task answer ∨ state.reconcile = true) ∧ ∀ form post, .write form post ∉ front ++ back

/-- Without a write in flight the flag stays up. -/
theorem barred_of_reconcile (raised : state.reconcile = true)
    (none : ∀ form post, .write form post ∉ state.inFlight) : state.Barred := by
  refine ⟨raised, ?_⟩
  intro moves last run
  induction run with
  | done => exact .done
  | @step state next last move moves first unconfirmed _ ih =>
      have quiet : ∀ {next}, Step state move next → Quiet state next := by
        intro next step
        cases step with
        | user enabled =>
            exact .handle raised fun same => unconfirmed (congrArg Move.user same)
        | arrival waiting answer =>
            refine (Quiet.drop waiting).trans (.resume ?_)
            rintro form post rfl
            exact none form post (List.mem_filter.mpr ⟨by simp [waiting], rfl⟩)
      refine .step first ?_ (ih ((quiet first).reconcile raised) ?_)
      · exact fun next step => ⟨(quiet step).reconcile raised, (quiet step).inFlight⟩
      · exact fun form post mem => none form post ((quiet first).inFlight.subset mem)

/-- A refused write lowers the flag. -/
theorem no_write_of_barred (barred : state.Barred) (form : Nat) (post : ManagePost) :
    .write form post ∉ state.pending := by
  intro mem
  rcases List.append_of_mem mem with ⟨front, back, waiting⟩
  have refused : Step state (.arrival (.write form post) (.read 422 (.obj []))) _ :=
    .arrival waiting _
  have lowered := barred.2 _ _ (.step refused nofun .done)
  cases lowered with
  | step _ withheld _ => exact absurd (withheld _ refused).1 nofun

theorem barred_iff (raised : state.reconcile = true) :
    state.Barred ↔ ∀ form post, .write form post ∉ state.pending := by
  refine ⟨no_write_of_barred, fun none => barred_of_reconcile raised ?_⟩
  exact fun form post mem => none form post (List.mem_filter.mp mem).1

theorem barred_resume_iff {answer : Answer task} (uncertain : Uncertain task answer) :
    (resume task answer { state with pending := front ++ back }).Barred ↔
      (Noted task answer ∨ state.reconcile = true) ∧
        ∀ form post, .write form post ∉ front ++ back := by
  cases task with
  | write form post =>
      rcases @finishWrite_uncertain { state with pending := front ++ back } form answer uncertain with
        ⟨thrown, fails, rejected⟩
      have raised : (failWrite thrown { state with pending := front ++ back }).reconcile = true := by
        simp [failWrite, rejected]
      have noted : Noted (.write form post) answer := trivial
      simp only [resume, fails, noted, true_or, true_and]
      exact barred_iff raised
  | operate form sends =>
      cases sends with
      | false => exact absurd uncertain nofun
      | true =>
          let dropped : State := { state with pending := front ++ back }
          have raises : (finishOperate true answer dropped).reconcile = true ↔
              Noted (.operate form true) answer ∨ state.reconcile = true := reconcile_finishOperate
          have kept : (finishOperate true answer dropped).pending = front ++ back :=
            pending_finishOperate
          have barred : (finishOperate true answer dropped).Barred ↔
              (finishOperate true answer dropped).reconcile = true ∧
                ∀ form post, .write form post ∉ (finishOperate true answer dropped).pending :=
            ⟨fun barred => ⟨barred.1, no_write_of_barred barred⟩,
              fun both => (barred_iff both.1).mpr both.2⟩
          rw [raises, kept] at barred
          exact barred
  | _ => exact absurd uncertain nofun

/-- Uncertain answers bar further changes in exactly the runs in which `operate` notes them and no
other write is in flight when they arrive. -/
theorem barring_run_iff {catalogReadOnly backups : Bool} {moves : List Move} :
    Run Barring (opening catalogReadOnly backups) moves last ↔
      Run Guarded (opening catalogReadOnly backups) moves last := by
  have same : ∀ {state move}, Barring state move ↔ Guarded state move := by
    intro state move
    refine ⟨fun barring => ?_, fun guarded => ?_⟩
    · rintro task answer front back rfl uncertain waiting
      exact (barred_resume_iff uncertain).mp (barring task answer _ rfl uncertain (.arrival waiting answer))
    · rintro task answer next rfl uncertain step
      cases step with
      | arrival waiting answer =>
          exact (barred_resume_iff uncertain).mpr (guarded task answer _ _ rfl uncertain waiting)
  refine ⟨fun run => ?_, fun run => ?_⟩
  · exact run.mono fun _ _ => same.mp
  · exact run.mono fun _ _ => same.mpr

/-- While the forms of a run exclude each other, no other write is in flight. -/
theorem Settled.guarded {catalogReadOnly backups : Bool} {moves : List Move} {answer : Answer task}
    (run : Run Settled (opening catalogReadOnly backups) moves last) (noted : Noted task answer) :
    Guarded last (.arrival task answer) := by
  intro task answer front back same uncertain waiting
  cases same
  have orderly := orderly_opening.run run
  have alone : ∀ {number : Nat}, task.detailEpoch = none → task.holder = some number →
      ∀ form post, .write form post ∉ front ++ back := by
    intro number detail holder form post mem
    have free := (orderly.unlock waiting detail holder).2.holders
    have holds : form ∈ (front ++ back).filterMap Task.holder := List.mem_filterMap.mpr ⟨_, mem, rfl⟩
    have nobody : (front ++ back).filterMap Task.holder = [] := free
    rw [nobody] at holds
    cases holds
  refine ⟨.inl noted, ?_⟩
  cases task with
  | write _ _ => exact alone rfl rfl
  | operate _ _ => exact alone rfl rfl
  | _ => exact absurd uncertain nofun

/-- Two writes of one form are in flight. The first gets no answer and raises the flag, the second is
refused and lowers it, and a third is sent. -/
theorem refusal_lowers_flag : ∃ before post other next lowered last,
    Run (fun _ _ => True) (opening false false) before overlapping ∧
      Step overlapping (.arrival (.write 2 post) .lost) next ∧ Uncertain (.write 2 post) .lost ∧
      next.reconcile = true ∧
      Step next (.arrival (.write 2 other) (.read 422 (.obj [("ok", .bool false)]))) lowered ∧
      lowered.reconcile = false ∧ lowered.inFlight = [] ∧
      Step lowered (.user (.submit true)) last ∧ last.inFlight.length = 1 := by
  rcases opening_secondSent with ⟨before, reached⟩
  let post := secondForm.post .update
  let other := { post with values := some [("name", .str "a"), ("psk", .str [])] }
  have lost := @Step.arrival overlapping (.write 2 post) [] [.write 2 other] rfl .lost
  have refused := @Step.arrival (resume (.write 2 post) .lost { overlapping with pending := [.write 2 other] })
    (.write 2 other) [] [] rfl (.read 422 (.obj [("ok", .bool false)]))
  exact ⟨_, post, other, _, _, _, reached.append secondSent_overlapping, lost, trivial, rfl, refused, rfl,
    rfl, @Step.user _ (.submit true) rfl, rfl⟩

end Workspace

end OpnsensePlugin
