import OpnsensePlugin.Workspace

/-!
# One change at a time

The lock of the page is a flag that `write` gives back twice: before it reloads the
list, and in its `finally` block after it. The second time another form may hold it.
-/

namespace OpnsensePlugin

open Python

namespace Workspace

/-! ## The invariant -/

def Task.detailEpoch : Task → Option Nat
  | .detail epoch _ => some epoch
  | _ => none

/-- The form that holds the lock while the task is pending -/
def Task.holder : Task → Option Nat
  | .write form _ | .operate form _ => some form
  | _ => none

/-- The form to whose write or operation the task belongs -/
def Task.form : Task → Option Nat
  | .write form _ | .operate form _ | .reload form _ _ => some form
  | _ => none

/-- What is pending under a flag -/
def guarded : Bool → Nat → List Nat
  | true, number => [number]
  | false, _ => []

theorem guarded_free {flag : Bool} {number : Nat} (free : flag = false) : guarded flag number = [] := by
  rw [free, guarded]

theorem guarded_split {flag : Bool} {number item : Nat} {front back : List Nat}
    (same : front ++ item :: back = guarded flag number) :
    flag = true ∧ item = number ∧ front ++ back = [] := by
  cases flag with
  | false => simp [guarded] at same
  | true =>
      cases front with
      | nil => simpa [guarded] using same
      | cons first rest => simp [guarded] at same

theorem mem_of_left {task other : Task} {front back : List Task} (left : other ∈ front ++ back) :
    other ∈ front ++ task :: back := by
  rcases List.mem_append.mp left with before | after
  · exact List.mem_append_left _ before
  · exact List.mem_append_right _ (List.mem_cons_of_mem _ after)

/-- The flags say what is pending, and a list is reloaded for a form that was closed. -/
structure Orderly (state : State) : Prop where
  details : state.pending.filterMap Task.detailEpoch = guarded state.loadingDetail state.epoch
  holders : state.pending.filterMap Task.holder = guarded state.writing state.form
  alone : state.writing = true → state.loadingDetail = false
  held : state.writing = true → state.editing = true
  closed : state.editing = false → state.fields = []
  reloads : ∀ {form epoch ticket}, .reload form epoch ticket ∈ state.pending →
    form ≤ state.form ∧ (form = state.form → state.editing = false)

theorem orderly_opening {catalogReadOnly backups : Bool} :
    Orderly (opening catalogReadOnly backups) where
  details := rfl
  holders := rfl
  alone := nofun
  held := nofun
  closed _ := rfl
  reloads := nofun

variable {state next last : State} {resource : Resource} {task : Task} {move : Move}

theorem State.free_of_unlocked (free : state.locked = false) :
    state.writing = false ∧ state.loadingDetail = false := by
  simp only [State.locked, Bool.or_eq_false_iff] at free
  exact free.1

theorem State.free_of_writable (free : state.writable = true) :
    state.writing = false ∧ state.loadingDetail = false := by
  simp only [State.writable, Bool.and_eq_true, Bool.not_eq_true'] at free
  exact State.free_of_unlocked free.1.2

theorem State.free_of_discard {discard : Bool} (free : state.allowDiscard discard = true) :
    state.writing = false ∧ state.loadingDetail = false := by
  simp only [State.allowDiscard, Bool.and_eq_true, Bool.not_eq_true'] at free
  exact State.free_of_unlocked free.1.1

/-- What the invariant reads -/
def State.outline (state : State) : List Task × Bool × Bool × Nat × Nat × Bool × List Field :=
  (state.pending, state.loadingDetail, state.writing, state.epoch, state.form, state.editing,
    state.fields)

/-- A list says nothing about the form. -/
theorem outline_showList {epoch ticket : Nat} {listing : Option Listing} :
    (showList epoch ticket listing state).outline = state.outline := by
  simp only [showList]
  split
  · cases listing with
    | none => rfl
    | some _ => rfl
  · rfl

theorem values_showList {epoch ticket : Nat} {listing : Option Listing} :
    (showList epoch ticket listing state).values = state.values := by
  simp only [showList]
  split
  · cases listing with
    | none => rfl
    | some _ => rfl
  · rfl

theorem writing_showList {epoch ticket : Nat} {listing : Option Listing} :
    (showList epoch ticket listing state).writing = state.writing :=
  congrArg (fun outline => outline.2.2.1) outline_showList

theorem fields_showList {epoch ticket : Nat} {listing : Option Listing} :
    (showList epoch ticket listing state).fields = state.fields :=
  congrArg (fun outline => outline.2.2.2.2.2.2) outline_showList

namespace Orderly

theorem of_outline (orderly : Orderly state) (same : next.outline = state.outline) :
    Orderly next := by
  simp only [State.outline, Prod.mk.injEq] at same
  rcases same with ⟨pending, loading, writing, epoch, form, editing, fields⟩
  refine ⟨?_, ?_, ?_, ?_, ?_, ?_⟩
  · simpa only [pending, loading, epoch] using orderly.details
  · simpa only [pending, writing, form] using orderly.holders
  · simpa only [writing, loading] using orderly.alone
  · simpa only [writing, editing] using orderly.held
  · simpa only [editing, fields] using orderly.closed
  · intro reloaded epoch ticket waiting
    rw [pending] at waiting
    simpa only [form, editing] using orderly.reloads waiting

/-! ## Steps of the user -/

theorem closeEditor (orderly : Orderly state) (free : state.writing = false) :
    Orderly (Workspace.closeEditor state) where
  details := orderly.details
  holders := orderly.holders
  alone := orderly.alone
  held writing := absurd (writing.symm.trans free) nofun
  closed _ := rfl
  reloads waiting := ⟨(orderly.reloads waiting).1, fun _ => rfl⟩

theorem openForm (orderly : Orderly state) (free : state.writing = false)
    (same : next.outline = (state.pending, state.loadingDetail, state.writing, state.epoch,
      state.form + 1, true, next.fields)) : Orderly next := by
  simp only [State.outline, Prod.mk.injEq] at same
  rcases same with ⟨pending, loading, writing, epoch, form, editing, -⟩
  refine ⟨?_, ?_, ?_, fun _ => editing, ?_, ?_⟩
  · simpa only [pending, loading, epoch] using orderly.details
  · rw [pending, writing, guarded_free free]
    exact orderly.holders.trans (guarded_free free)
  · simpa only [writing, loading] using orderly.alone
  · exact fun shut => absurd (shut.symm.trans editing) nofun
  · intro reloaded epoch ticket waiting
    rw [pending] at waiting
    have before := (orderly.reloads waiting).1
    omega

theorem openOperation (orderly : Orderly state) (free : state.writing = false) :
    Orderly (Workspace.openOperation resource state) :=
  orderly.openForm free rfl

theorem reopen (orderly : Orderly state) (free : state.writing = false) :
    Orderly (Workspace.reopen state) := by
  simp only [Workspace.reopen]
  split
  · split
    · exact orderly.openOperation free
    · exact orderly
  · exact orderly

/-- A request that holds nothing can always be sent. -/
theorem await (orderly : Orderly state) (detail : task.detailEpoch = none) (form : task.form = none) :
    Orderly (Workspace.await task state) where
  details := by
    have sent : [task].filterMap Task.detailEpoch = [] := by simp [detail]
    simp only [Workspace.await, List.filterMap_append, sent, List.append_nil]
    exact orderly.details
  holders := by
    have idle : task.holder = none := by
      cases task <;> simp_all [Task.form, Task.holder]
    have sent : [task].filterMap Task.holder = [] := by simp [idle]
    simp only [Workspace.await, List.filterMap_append, sent, List.append_nil]
    exact orderly.holders
  alone := orderly.alone
  held := orderly.held
  closed := orderly.closed
  reloads waiting := by
    rcases List.mem_append.mp waiting with before | sent
    · exact orderly.reloads before
    · rw [← List.mem_singleton.mp sent] at form
      cases form

theorem loadList {page : Nat} (orderly : Orderly state) :
    Orderly (Workspace.loadList .list page state) := by
  simp only [Workspace.loadList]
  split
  · exact orderly
  · exact await (orderly.of_outline rfl) rfl rfl

theorem loadBackups (orderly : Orderly state) (detail : task.detailEpoch = none)
    (form : task.form = none) : Orderly (Workspace.loadBackups task state) := by
  simp only [Workspace.loadBackups]
  split
  · exact orderly
  · exact await (orderly.of_outline rfl) detail form

/-- A request that takes the lock -/
theorem lock (orderly : Orderly state) (free : state.writable = true) (editing : state.editing = true)
    (detail : task.detailEpoch = none) (holder : task.holder = some state.form)
    (kept : ∀ form epoch ticket, task ≠ .reload form epoch ticket) :
    Orderly (Workspace.await task { state with writing := true }) where
  details := by
    have sent : [task].filterMap Task.detailEpoch = [] := by simp [detail]
    simp only [Workspace.await, List.filterMap_append, sent, List.append_nil]
    exact orderly.details
  holders := by
    have sent : [task].filterMap Task.holder = [state.form] := by simp [holder]
    have before := orderly.holders
    rw [guarded_free (State.free_of_writable free).1] at before
    simp only [Workspace.await, List.filterMap_append, sent, before, List.nil_append, guarded]
  alone _ := (State.free_of_writable free).2
  held _ := editing
  closed := orderly.closed
  reloads waiting := by
    rcases List.mem_append.mp waiting with before | sent
    · exact orderly.reloads before
    · exact absurd (List.mem_singleton.mp sent).symm (kept _ _ _)

theorem operate {confirmed : Bool} (orderly : Orderly state) (editing : state.editing = true) :
    Orderly (Workspace.operate confirmed state) := by
  simp only [Workspace.operate]
  split
  · split
    · exact orderly
    · rename_i allowed
      simp only [Bool.or_eq_true, Bool.not_eq_true', not_or, Bool.not_eq_false] at allowed
      split
      · exact orderly
      · exact orderly.lock allowed.2 editing rfl rfl nofun
  · exact orderly

theorem write {action : WriteAction} {confirmed : Bool} (orderly : Orderly state) :
    Orderly (Workspace.write action confirmed state) := by
  simp only [Workspace.write]
  split
  · exact orderly
  · rename_i allowed
    simp only [Bool.or_eq_true, Bool.not_eq_true', not_or, Bool.not_eq_false] at allowed
    split
    · exact orderly
    · exact orderly.lock allowed.1.1 allowed.1.2 rfl rfl nofun

theorem openEditor {uuid : Str} {discard : Bool} (orderly : Orderly state) :
    Orderly (Workspace.openEditor uuid discard state) := by
  simp only [Workspace.openEditor]
  split
  · exact orderly
  · rename_i allowed
    simp only [Bool.or_eq_true, Bool.not_eq_true', not_or, Bool.not_eq_false] at allowed
    have free := State.free_of_discard allowed.1.1
    refine ⟨?_, ?_, ?_, orderly.held, orderly.closed, ?_⟩
    · have before := orderly.details
      rw [guarded_free free.2] at before
      simp only [Workspace.await, List.filterMap_append, before]
      rfl
    · simp only [Workspace.await, List.filterMap_append]
      exact (List.append_nil _).trans orderly.holders
    · exact fun writing => absurd (writing.symm.trans free.1) nofun
    · intro form epoch ticket waiting
      rcases List.mem_append.mp waiting with before | sent
      · exact orderly.reloads before
      · cases List.mem_singleton.mp sent

/-- The page forgets a module that nothing is pending for. -/
theorem leave (orderly : Orderly state)
    (free : state.writing = false ∧ state.loadingDetail = false) (same : next.pending = state.pending)
    (writing : next.writing = false) (loading : next.loadingDetail = false)
    (form : next.form = state.form) (editing : next.editing = state.editing)
    (fields : next.fields = state.fields) : Orderly next where
  details := by
    rw [same, guarded_free loading]
    exact orderly.details.trans (guarded_free free.2)
  holders := by
    rw [same, guarded_free writing]
    exact orderly.holders.trans (guarded_free free.1)
  alone _ := loading
  held held := absurd (held.symm.trans writing) nofun
  closed := by
    rw [editing, fields]
    exact orderly.closed
  reloads waiting := by
    rw [same] at waiting
    rw [form, editing]
    exact orderly.reloads waiting

theorem selectResource {discard : Bool} (orderly : Orderly state) :
    Orderly (Workspace.selectResource resource discard state) := by
  simp only [Workspace.selectResource]
  split
  · exact orderly
  · rename_i allowed
    simp only [Bool.or_eq_true, Bool.not_eq_true', not_or, Bool.not_eq_false] at allowed
    have free := State.free_of_discard allowed.2
    have left : Orderly { state with
        epoch := state.epoch + 1, resource := some resource, rows := [], page := 1, query := []
        loaded := false, readOnly := true } :=
      orderly.leave free rfl free.1 free.2 rfl rfl rfl
    have cleared := left.closeEditor free.1
    split
    · exact cleared.loadBackups rfl rfl
    · split
      · split
        · exact (cleared.openOperation free.1).operate rfl
        · exact cleared.openOperation free.1
      · exact cleared.loadList

theorem cancelEdit {discard : Bool} (orderly : Orderly state) :
    Orderly (Workspace.cancelEdit discard state) := by
  simp only [Workspace.cancelEdit]
  split
  · rename_i allowed
    have free := (State.free_of_discard allowed).1
    exact (orderly.closeEditor free).reopen free
  · exact orderly

theorem reconcile {confirmed : Bool} (orderly : Orderly state) :
    Orderly (Workspace.reconcile confirmed state) := by
  simp only [Workspace.reconcile]
  split
  · exact orderly
  · rename_i allowed
    simp only [Bool.or_eq_true, not_or, Bool.not_eq_true] at allowed
    have free := (State.free_of_unlocked allowed.1.1).1
    exact ((orderly.of_outline rfl : Orderly { state with reconcile := false }).closeEditor
      free).reopen free

theorem handle {event : UserEvent} (orderly : Orderly state) (enabled : state.enables event = true) :
    Orderly (Workspace.handle event state) := by
  cases event with
  | select _ _ => exact orderly.selectResource
  | list _ _ => exact loadList (orderly.of_outline rfl)
  | detail _ _ => exact orderly.openEditor
  | new _ => exact orderly.openEditor
  | edit _ _ => exact orderly.of_outline rfl
  | submit confirmed =>
      simp only [State.enables, Bool.and_eq_true] at enabled
      simp only [Workspace.handle]
      split
      · exact orderly.operate enabled.1.2
      · exact orderly.write
  | delete _ => exact orderly.write
  | cancel _ => exact orderly.cancelEdit
  | reconcile _ => exact orderly.reconcile
  | listBackups => exact orderly.loadBackups rfl rfl
  | changeBackup confirmed =>
      simp only [Workspace.handle, mutateBackup]
      split
      · exact orderly
      · exact await (orderly.of_outline rfl) rfl rfl
  | downloadBackup =>
      simp only [Workspace.handle]
      split
      · exact orderly
      · exact await (orderly.of_outline rfl) rfl rfl
  | reconcileBackups confirmed =>
      simp only [Workspace.handle, reconcileBackups]
      split
      · exact orderly.of_outline rfl
      · exact orderly

/-! ## Answers -/

theorem release (orderly : Orderly state) (free : state.writing = false) :
    Orderly (Workspace.release state) := by
  apply orderly.of_outline
  simp only [State.outline, Workspace.release, clearSecrets, free]

variable {front back : List Task}

/-- An answer to a request that holds nothing -/
theorem idle (orderly : Orderly state) (waiting : state.pending = front ++ task :: back)
    (detail : task.detailEpoch = none) (holder : task.holder = none) :
    Orderly { state with pending := front ++ back } where
  details := by
    have before := orderly.details
    simpa only [waiting, List.filterMap_append, List.filterMap_cons, detail] using before
  holders := by
    have before := orderly.holders
    simpa only [waiting, List.filterMap_append, List.filterMap_cons, holder] using before
  alone := orderly.alone
  held := orderly.held
  closed := orderly.closed
  reloads left := orderly.reloads (waiting ▸ mem_of_left left)

/-- The answer that the holder of the lock waits for -/
theorem unlock {form : Nat} (orderly : Orderly state) (waiting : state.pending = front ++ task :: back)
    (detail : task.detailEpoch = none) (holder : task.holder = some form) :
    form = state.form ∧ Orderly { state with pending := front ++ back, writing := false } := by
  have held := orderly.holders
  simp only [waiting, List.filterMap_append, List.filterMap_cons, holder] at held
  rcases guarded_split held with ⟨_, own, others⟩
  refine ⟨own, ?_, ?_, nofun, nofun, orderly.closed, ?_⟩
  · have before := orderly.details
    simpa only [waiting, List.filterMap_append, List.filterMap_cons, detail] using before
  · exact List.filterMap_append.trans others
  · exact fun left => orderly.reloads (waiting ▸ mem_of_left left)

/-- The answer that the page waits for before it shows a form -/
theorem arrived {epoch : Nat} {uuid : Str} (orderly : Orderly state)
    (waiting : state.pending = front ++ .detail epoch uuid :: back) :
    state.writing = false ∧ epoch = state.epoch ∧
      Orderly { state with pending := front ++ back, loadingDetail := false } := by
  have loading := orderly.details
  simp only [waiting, List.filterMap_append, List.filterMap_cons, Task.detailEpoch] at loading
  rcases guarded_split loading with ⟨busy, own, others⟩
  have free : state.writing = false := by
    cases writing : state.writing with
    | false => rfl
    | true => exact absurd ((orderly.alone writing).symm.trans busy) nofun
  refine ⟨free, own, ?_, ?_, fun _ => rfl, orderly.held, orderly.closed, ?_⟩
  · exact List.filterMap_append.trans others
  · have before := orderly.holders
    simpa only [waiting, List.filterMap_append, List.filterMap_cons, Task.holder] using before
  · exact fun left => orderly.reloads (waiting ▸ mem_of_left left)

theorem showList {epoch ticket : Nat} {listing : Option Listing} (orderly : Orderly state) :
    Orderly (Workspace.showList epoch ticket listing state) :=
  orderly.of_outline outline_showList

theorem finishReload {epoch ticket : Nat} {listing : Option Listing} (orderly : Orderly state)
    (free : state.writing = false) :
    Orderly (Workspace.finishReload epoch ticket listing state) := by
  have shown : Orderly (Workspace.showList epoch ticket listing state) := orderly.showList
  have unlocked : (Workspace.showList epoch ticket listing state).writing = false :=
    writing_showList.trans free
  simp only [Workspace.finishReload]
  split
  · exact release (shown.of_outline rfl) unlocked
  · exact shown.release unlocked

theorem showDetail {epoch : Nat} {uuid : Str} {detail : Option Detail} (orderly : Orderly state)
    (waiting : state.pending = front ++ .detail epoch uuid :: back) :
    Orderly (Workspace.showDetail epoch uuid detail { state with pending := front ++ back }) := by
  rcases orderly.arrived waiting with ⟨free, rfl, shut⟩
  have failed : Orderly { state with
      pending := front ++ back, loadingDetail := false, editing := false, fields := [], values := []
      uuid := [], revision := [] } :=
    (shut.closeEditor free).of_outline rfl
  simp only [Workspace.showDetail, ne_eq, not_true_eq_false, if_false]
  cases detail with
  | none => exact failed
  | some detail =>
      simp only
      split
      · exact failed
      · exact shut.openForm free rfl

/-- The list that a write reloads after it closed its form -/
theorem reload {form page : Nat} (orderly : Orderly state) (closed : state.editing = false)
    (earlier : form ≤ state.form) : Orderly (Workspace.loadList (.reload form) page state) := by
  simp only [Workspace.loadList]
  split
  · exact orderly
  · refine ⟨?_, ?_, orderly.alone, orderly.held, orderly.closed, ?_⟩
    · simp only [Workspace.await, List.filterMap_append]
      exact (List.append_nil _).trans orderly.details
    · simp only [Workspace.await, List.filterMap_append]
      exact (List.append_nil _).trans orderly.holders
    · intro reloaded epoch ticket waiting
      rcases List.mem_append.mp waiting with before | sent
      · exact orderly.reloads before
      · cases List.mem_singleton.mp sent
        exact ⟨earlier, fun _ => closed⟩

theorem finishWrite {form : Nat} {post : ManagePost} {answer : Fetched} (orderly : Orderly state)
    (waiting : state.pending = front ++ .write form post :: back) :
    Orderly (Workspace.finishWrite form answer { state with pending := front ++ back }) := by
  rcases orderly.unlock waiting rfl rfl with ⟨own, free⟩
  have closed := free.closeEditor rfl
  have failed : ∀ thrown : Thrown,
      Orderly (failWrite thrown { state with pending := front ++ back }) :=
    fun _ => free.of_outline rfl
  simp only [Workspace.finishWrite]
  split
  · split
    · split
      · exact closed.release rfl
      · exact closed.reload rfl own.le
    · exact failed _
  · exact failed _

theorem finishOperate {form : Nat} {sends : Bool} {answer : Fetched} (orderly : Orderly state)
    (waiting : state.pending = front ++ .operate form sends :: back) :
    Orderly (Workspace.finishOperate sends answer { state with pending := front ++ back }) := by
  have free := (orderly.unlock waiting rfl rfl).2
  simp only [Workspace.finishOperate]
  split
  · split
    · exact free.of_outline rfl
    · split
      · exact free.of_outline rfl
      · exact free.of_outline rfl
  · split
    · exact free.of_outline rfl
    · exact free.of_outline rfl

theorem finishBackupChange {answer : Fetched} (orderly : Orderly state) :
    Orderly (Workspace.finishBackupChange answer state) := by
  simp only [Workspace.finishBackupChange]
  split
  · exact loadBackups (orderly.of_outline rfl) rfl rfl
  · split
    · exact orderly.of_outline rfl
    · exact orderly.of_outline rfl

end Orderly

/-! ## Runs -/

/-- Every secret of the form is blank. -/
def State.Blank (state : State) : Prop :=
  ∀ item ∈ state.fields, item.secret = true → field state.values item.name = some (.str [])

/-- When the list of a write arrives after another form was opened, that form was not sent and has
no secret yet. -/
def Settled (state : State) : Move → Prop
  | .arrival (.reload form _ _) _ =>
      form < state.form → state.writing = false ∧ state.Blank
  | _ => True

/-- What a write or an operation leaves to a form that was opened after it -/
def Exclusive (state : State) (move : Move) : Prop :=
  ∀ next, Step state move next → next.inFlight.length ≤ 1 ∧
    ∀ task answer form, move = .arrival task answer → task.form = some form → form < state.form →
      next.writing = state.writing ∧ next.values = state.values

theorem Orderly.free_of_reload {form epoch ticket : Nat} {listing : Option Listing}
    (orderly : Orderly state) (waiting : .reload form epoch ticket ∈ state.pending)
    (settled : Settled state (.arrival (.reload form epoch ticket) listing)) :
    state.writing = false := by
  rcases orderly.reloads waiting with ⟨earlier, own⟩
  rcases earlier.lt_or_eq with later | same
  · exact (settled later).1
  · cases writing : state.writing with
    | false => rfl
    | true => exact absurd ((orderly.held writing).symm.trans (own same)) nofun

/-- A step keeps the flags in order. -/
theorem Orderly.step (orderly : Orderly state) (step : Step state move next)
    (settled : Settled state move) : Orderly next := by
  cases step with
  | user enabled => exact orderly.handle enabled
  | @arrival task front back waiting answer =>
      cases task with
      | list epoch ticket => exact showList (orderly.idle waiting rfl rfl)
      | reload form epoch ticket =>
          have mem : .reload form epoch ticket ∈ state.pending := by simp [waiting]
          exact finishReload (orderly.idle waiting rfl rfl) (orderly.free_of_reload mem settled)
      | detail epoch uuid => exact orderly.showDetail waiting
      | write form post => exact orderly.finishWrite waiting
      | operate form sends => exact orderly.finishOperate waiting
      | backupList => exact of_outline (orderly.idle waiting rfl rfl) rfl
      | backupChange => exact finishBackupChange (orderly.idle waiting rfl rfl)
      | backupReload => exact of_outline (orderly.idle waiting rfl rfl) rfl
      | backupDownload => exact of_outline (orderly.idle waiting rfl rfl) rfl

theorem Orderly.run {moves : List Move} (orderly : Orderly state)
    (run : Run Settled state moves last) : Orderly last := by
  induction run with
  | done => exact orderly
  | step first fit _ ih => exact ih (orderly.step first fit)

theorem Orderly.inFlight_le (orderly : Orderly state) : state.inFlight.length ≤ 1 := by
  have holders : (state.pending.filterMap Task.holder).length ≤ 1 := by
    rw [orderly.holders]
    cases state.writing <;> simp [guarded]
  rw [List.length_filterMap_eq_countP] at holders
  rw [State.inFlight, ← List.countP_eq_length_filter]
  refine (List.countP_mono_left ?_).trans holders
  intro task _ sent
  cases task with
  | write _ _ => rfl
  | operate _ _ => rfl
  | _ => cases sent

/-! ## Secrets -/

theorem setField_of_field {fields : List (Str × Json)} {key : Str} {value : Json}
    (known : field fields key = some value) : setField key value fields = fields := by
  induction fields with
  | nil => cases known
  | cons entry rest ih =>
      rcases entry with ⟨name, old⟩
      rw [field_cons] at known
      by_cases same : key = name
      · rw [if_pos same] at known
        cases known
        rw [setField, if_pos same.symm]
      · rw [if_neg same] at known
        rw [setField, if_neg (Ne.symm same), ih known]

theorem clearSecrets_of_blank (blank : state.Blank) : (clearSecrets state).values = state.values := by
  have steps : ∀ items : List Field, (∀ item ∈ items, item.secret = true →
      field state.values item.name = some (.str [])) →
      items.foldl clearSecret state.values = state.values := by
    intro items blank
    induction items with
    | nil => rfl
    | cons item rest ih =>
        have unchanged : clearSecret state.values item = state.values := by
          simp only [clearSecret]
          split
          · rename_i secret
            exact setField_of_field (blank item List.mem_cons_self secret)
          · rfl
        rw [List.foldl_cons, unchanged]
        exact ih fun item mem => blank item (List.mem_cons_of_mem _ mem)
  exact steps state.fields blank

theorem field_foldl_clearSecret {items : List Field} {values : List (Str × Json)} {name : Str}
    (blank : field values name = some (.str [])) :
    field (items.foldl clearSecret values) name = some (.str []) := by
  induction items generalizing values with
  | nil => exact blank
  | cons item rest ih =>
      apply ih
      simp only [clearSecret]
      split
      · rw [field_setField]
        split
        · rfl
        · exact blank
      · exact blank

/-- Nothing is left of the secrets of a form. -/
theorem blank_clearSecrets : (clearSecrets state).Blank := by
  have steps : ∀ (items : List Field) (values : List (Str × Json)), ∀ item ∈ items,
      item.secret = true → field (items.foldl clearSecret values) item.name = some (.str []) := by
    intro items
    induction items with
    | nil => exact fun _ _ mem => absurd mem (List.not_mem_nil)
    | cons first rest ih =>
        intro values item mem secret
        rcases List.mem_cons.mp mem with rfl | later
        · have first : field (clearSecret values item) item.name = some (.str []) := by
            simp only [clearSecret, if_pos secret, field_setField_self]
          rw [List.foldl_cons]
          exact field_foldl_clearSecret first
        · exact ih _ item later secret
  exact fun item mem secret => steps state.fields state.values item mem secret

theorem values_finishReload {epoch ticket : Nat} {listing : Option Listing} :
    (finishReload epoch ticket listing state).values = (clearSecrets state).values := by
  simp only [finishReload]
  split
  · simp only [release, clearSecrets, values_showList, fields_showList]
  · simp only [release, clearSecrets, values_showList, fields_showList]

theorem settled_of_exclusive (step : Step state move next) (exclusive : Exclusive state move) :
    Settled state move := by
  cases step with
  | user enabled => trivial
  | @arrival task front back waiting answer =>
      cases task with
      | reload form epoch ticket =>
          intro later
          rcases (exclusive _ (.arrival waiting answer)).2 _ _ _ rfl rfl later with ⟨lock, kept⟩
          refine ⟨lock.symm, ?_⟩
          have cleared : (clearSecrets { state with pending := front ++ back }).values =
              state.values := values_finishReload.symm.trans kept
          intro item mem secret
          rw [← cleared]
          exact blank_clearSecrets item mem secret
      | _ => trivial

/-- The answers to a write or an operation arrive before the next form is opened. -/
theorem Orderly.exclusive_of_settled (orderly : Orderly state) (settled : Settled state move) :
    Exclusive state move := by
  intro next step
  refine ⟨(orderly.step step settled).inFlight_le, ?_⟩
  rintro task answer form rfl own later
  cases step with
  | arrival waiting answer =>
      cases task with
      | write _ post =>
          cases own
          have same := (orderly.unlock waiting rfl rfl).1
          omega
      | operate _ sends =>
          cases own
          have same := (orderly.unlock waiting rfl rfl).1
          omega
      | reload _ epoch ticket =>
          cases own
          rcases settled later with ⟨free, blank⟩
          refine ⟨free.symm, ?_⟩
          exact values_finishReload.trans (clearSecrets_of_blank blank)
      | _ => cases own

/-- The forms of a run exclude each other as long as no list of an earlier write arrives while a
later form is sent or has a secret. -/
theorem exclusive_run_iff {catalogReadOnly backups : Bool} {moves : List Move} :
    Run Exclusive (opening catalogReadOnly backups) moves last ↔
      Run Settled (opening catalogReadOnly backups) moves last := by
  have both : ∀ {state : State}, Orderly state →
      (Run Exclusive state moves last ↔ Run Settled state moves last) := by
    intro state orderly
    refine ⟨fun run => ?_, fun run => ?_⟩
    · induction run with
      | done => exact .done
      | step first fit _ ih =>
          have settled := settled_of_exclusive first fit
          exact .step first settled (ih (orderly.step first settled))
    · induction run with
      | done => exact .done
      | step first fit _ ih =>
          exact .step first (orderly.exclusive_of_settled fit) (ih (orderly.step first fit))
  exact both orderly_opening

/-! The defect: while the list is reloaded, a second form is opened, gets a secret and is sent. -/

def peers : Resource := { id := "wireguard_clients", actions := [.create, .update, .delete] }

def peerList : Listing := { rows := [.obj [("uuid", .str "u")]], readOnly := false }

def peerDetail : Detail where
  fields := [{ name := "name", required := true }, { name := "psk", secret := true }]
  item := [("name", .str "a")]
  revision := "r"
  readOnly := false

def appliedAnswer : Fetched :=
  .read 200 (.obj [("ok", .bool true), ("data", .obj [("applied", .bool true), ("verified", .bool true)])])

/-- The first form is open. -/
def firstForm : State where
  catalogReadOnly := false
  backups := { available := false }
  resource := some peers
  rows := peerList.rows
  readOnly := false
  loaded := true
  editing := true
  fields := peerDetail.fields
  values := [("name", .str "a"), ("psk", .str [])]
  uuid := "u"
  revision := "r"
  epoch := 1
  listTicket := 1
  form := 1

/-- The second form is open, and the list of the first write has not arrived. -/
def secondForm : State :=
  { firstForm with
    listing := true, listTicket := 2, form := 2, pending := [.reload 1 1 2], dirty := true
    values := [("name", .str "a"), ("psk", .str "s")] }

/-- The second form is sent. -/
def secondSent : State :=
  { secondForm with
    writing := true, pending := [.reload 1 1 2, .write 2 (secondForm.post .update)] }

def overlapping : State :=
  { secondSent with
    listing := false, values := [("name", .str "a"), ("psk", .str [])]
    pending := [.write 2 (secondForm.post .update),
      .write 2 { secondForm.post .update with values := some [("name", .str "a"), ("psk", .str [])] }] }

theorem opening_firstForm : ∃ moves, Run (fun _ _ => True) (opening false false) moves firstForm :=
  ⟨[.user (.select peers false), .arrival (.list 1 1) (some peerList), .user (.detail "u" false),
      .arrival (.detail 1 "u") (some peerDetail)],
    .step (.user rfl) trivial (.step (@Step.arrival _ _ [] [] rfl _) trivial
      (.step (.user rfl) trivial (.step (@Step.arrival _ _ [] [] rfl _) trivial .done)))⟩

theorem firstForm_secondSent : ∃ moves, Run (fun _ _ => True) firstForm moves secondSent :=
  ⟨[.user (.submit true), .arrival (.write 1 (firstForm.post .update)) appliedAnswer,
      .user (.detail "u" false), .arrival (.detail 1 "u") (some peerDetail),
      .user (.edit "psk" (.str "s")), .user (.submit true)],
    .step (.user rfl) trivial (.step (@Step.arrival _ _ [] [] rfl _) trivial
      (.step (.user rfl) trivial (.step (@Step.arrival _ _ [.reload 1 1 2] [] rfl _) trivial
        (.step (.user rfl) trivial (.step (.user rfl) trivial .done)))))⟩

theorem opening_secondSent : ∃ moves, Run (fun _ _ => True) (opening false false) moves secondSent := by
  rcases opening_firstForm with ⟨before, first⟩
  rcases firstForm_secondSent with ⟨after, second⟩
  exact ⟨before ++ after, first.append second⟩

/-- The list of the first write has arrived, and the second form is sent again. -/
theorem secondSent_overlapping : Run (fun _ _ => True) secondSent
    [.arrival (.reload 1 1 2) (some peerList), .user (.submit true)] overlapping :=
  .step (@Step.arrival secondSent _ [] [.write 2 (secondForm.post .update)] rfl _) trivial
    (.step (.user rfl) trivial .done)

/-- The list of the first write takes the lock and the secret from the second form, which is sent
once more. -/
theorem reload_unlocks_secondSent : ∃ before next,
    Run (fun _ _ => True) (opening false false) before secondSent ∧
      Step secondSent (.arrival (.reload 1 1 2) (some peerList)) next ∧ 1 < secondSent.form ∧
      secondSent.writing = true ∧ next.writing = false ∧
      field secondSent.values "psk" = some (.str "s") ∧ field next.values "psk" = some (.str []) ∧
      Run (fun _ _ => True) secondSent
        [.arrival (.reload 1 1 2) (some peerList), .user (.submit true)] overlapping ∧
      overlapping.inFlight.length = 2 := by
  rcases opening_secondSent with ⟨before, reached⟩
  have arrival := @Step.arrival secondSent _ [] [.write 2 (secondForm.post .update)] rfl (some peerList)
  exact ⟨before, _, reached, arrival, by decide, rfl, rfl, rfl, rfl, secondSent_overlapping, rfl⟩

end Workspace

end OpnsensePlugin
