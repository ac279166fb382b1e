import OpnsensePlugin.Python.Json

/-!
# Checks in order

A loop that checks one item after the other stops at the first item that is
refused. What it makes of the items does not matter for that.
-/

namespace Python

variable {α β γ ε : Type} {check : β → Except ε γ} {update : α → β → γ → α} {items : List β}
  {start result : α} {error : ε}

/-- The loop comes to this item: those before it passed the check. -/
def Reached (check : β → Except ε γ) (items : List β) (item : β) : Prop :=
  ∃ before after, items = before ++ item :: after ∧
    ∀ earlier ∈ before, ∃ found, check earlier = .ok found

/-- One step of the loop -/
def checkedStep (check : β → Except ε γ) (update : α → β → γ → α) (kept : α) (item : β) :
    Except ε α := do
  let found ← check item
  return update kept item found

theorem reached_cons {first item : β} {rest : List β} :
    Reached check (first :: rest) item ↔
      item = first ∨ (∃ found, check first = .ok found) ∧ Reached check rest item := by
  constructor
  · rintro ⟨before, after, same, passed⟩
    cases before with
    | nil => exact .inl (List.cons.inj same).1.symm
    | cons head before =>
        rcases List.cons.inj same with ⟨rfl, rfl⟩
        exact .inr ⟨passed first List.mem_cons_self, before, after, rfl,
          fun earlier member => passed earlier (List.mem_cons_of_mem _ member)⟩
  · rintro (rfl | ⟨found, before, after, rfl, passed⟩)
    · exact ⟨[], rest, rfl, by simp⟩
    · refine ⟨first :: before, after, rfl, ?_⟩
      intro earlier member
      rcases List.mem_cons.mp member with rfl | member
      · exact found
      · exact passed earlier member

theorem Reached.mem {item : β} (reached : Reached check items item) : item ∈ items := by
  rcases reached with ⟨before, after, rfl, _⟩
  exact List.mem_append_right _ List.mem_cons_self

/-- The error of the loop is that of the first item that is refused. -/
theorem foldlM_error_iff : items.foldlM (checkedStep check update) start = .error error ↔
    ∃ item, Reached check items item ∧ check item = .error error := by
  induction items generalizing start with
  | nil =>
      constructor
      · intro failed
        cases failed
      · rintro ⟨item, reached, _⟩
        cases reached.mem
  | cons first rest ih =>
      rw [List.foldlM_cons]
      cases found : check first with
      | error raised =>
          have step : checkedStep check update start first = .error raised := by
            rw [checkedStep, found]
            rfl
          rw [step]
          constructor
          · intro failed
            cases failed
            exact ⟨first, reached_cons.mpr (.inl rfl), found⟩
          · rintro ⟨item, reached, refused⟩
            rcases reached_cons.mp reached with rfl | ⟨⟨value, passed⟩, _⟩
            · rw [found] at refused
              cases refused
              rfl
            · rw [found] at passed
              cases passed
      | ok value =>
          have step : checkedStep check update start first = .ok (update start first value) := by
            rw [checkedStep, found]
            rfl
          rw [step]
          refine Iff.trans ih ⟨?_, ?_⟩
          · rintro ⟨item, reached, refused⟩
            exact ⟨item, reached_cons.mpr (.inr ⟨⟨value, found⟩, reached⟩), refused⟩
          · rintro ⟨item, reached, refused⟩
            rcases reached_cons.mp reached with rfl | ⟨_, reached⟩
            · rw [found] at refused
              cases refused
            · exact ⟨item, reached, refused⟩

/-- Only one item that the loop comes to is refused. -/
theorem Reached.error_unique {item other : β} {raised : ε} (reached : Reached check items item)
    (refused : check item = .error error) (comes : Reached check items other)
    (failed : check other = .error raised) : error = raised := by
  have first : items.foldlM (checkedStep check fun _ _ _ => ()) () = .error error :=
    foldlM_error_iff.mpr ⟨item, reached, refused⟩
  rw [foldlM_error_iff.mpr ⟨other, comes, failed⟩] at first
  cases first
  rfl

/-- The loop ends exactly if every item passes. -/
theorem foldlM_ok_iff : (∃ result, items.foldlM (checkedStep check update) start = .ok result) ↔
    ∀ item ∈ items, ∃ found, check item = .ok found := by
  induction items generalizing start with
  | nil => exact ⟨fun _ _ member => (nomatch member), fun _ => ⟨start, rfl⟩⟩
  | cons first rest ih =>
      rw [List.foldlM_cons, List.forall_mem_cons]
      cases found : check first with
      | error raised =>
          have step : checkedStep check update start first = .error raised := by
            rw [checkedStep, found]
            rfl
          rw [step]
          constructor
          · rintro ⟨result, same⟩
            cases same
          · rintro ⟨⟨value, passed⟩, _⟩
            cases passed
      | ok value =>
          have step : checkedStep check update start first = .ok (update start first value) := by
            rw [checkedStep, found]
            rfl
          rw [step]
          exact Iff.trans ih ⟨fun passed => ⟨⟨value, rfl⟩, passed⟩, fun passed => passed.2⟩

end Python
