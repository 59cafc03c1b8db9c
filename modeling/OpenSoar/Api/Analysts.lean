/-
# `OpenSoar.Api.Analysts` — changing analysts, and the last active admin

`PATCH /auth/analysts/{analyst_id}` loads the analyst, asks with a second query whether another
active admin is left (`_assert_not_last_active_admin`), and writes and commits the columns that
have changed.  The query locks nothing, and the `UPDATE` locks the row of the analyst only, so two
requests about two admins each find the other one.

`active_admin_throughout_iff` says which interleavings leave an active admin in every committed
state: those in which the query of the guard would still find its row when the write is
committed.  `active_admin_of_undisturbed` is what is left of the sequential argument.
-/
import OpenSoar.Lib.Guarded
import OpenSoar.Api.Alerts

namespace OpenSoar

open Python

/-! ## The rows -/

/-- `analysts`, with the column that is read and written here only. -/
structure AnalystRow extends Analyst where
  email : Option (Varchar 255)

abbrev AnalystTable := Table (fun row : AnalystRow => row.id)

/-- `Analyst.role == "admin"` and `Analyst.is_active.is_(True)`. -/
def AnalystRow.isActiveAdmin (row : AnalystRow) : Bool :=
  row.role.val = "admin" && row.isActive

/-- The query of `_assert_not_last_active_admin` finds a row. -/
def otherActiveAdmin (analysts : AnalystTable) (id : Uuid) : Bool :=
  analysts.rows.any (fun row => row.isActiveAdmin && row.id ≠ id)

/-- There is an active admin. -/
def HasActiveAdmin (analysts : AnalystTable) : Prop :=
  ∃ row ∈ analysts.rows, row.isActiveAdmin = true

/-! ## The request -/

/-- `AnalystUpdate`, and `update_data`. -/
structure AnalystUpdate where
  displayName : Field String := none
  email : Field String := none
  isActive : Field Bool := none
  role : Field String := none

/-- A request, with the analyst its token belongs to. -/
structure UpdateAnalystRequest where
  analystId : String
  body : AnalystUpdate
  caller : Option Analyst

/-- `_require_admin`. -/
def requireAdmin (caller : Option Analyst) : Except Raised Analyst :=
  match caller with
  | none => .error (.httpException 401 "Authentication required")
  | some analyst =>
      if analyst.role.val ≠ "admin" then .error (.httpException 403 "Admin access required")
      else .ok analyst

/-- `VALID_ANALYST_ROLES`. -/
def validAnalystRoles : List String :=
  ["admin", "analyst", "viewer", "tenant_admin", "playbook_author"]

/-- `get_analyst_roles` of a deployment without plugins. -/
def coreAnalystRoles : List String := ["admin", "analyst", "viewer"]

/-- `_validate_role`. -/
def validateRole (role : String) : Except Raised String :=
  if role ∉ validAnalystRoles then
    .error (.httpException 422
      ("Invalid role. Must be one of: " ++ String.intercalate ", " validAnalystRoles))
  else .ok role

/-- `_validate_assignable_role`; `analystRoles` are the ids of `get_analyst_roles`. -/
def validateAssignableRole (analystRoles : List String) (role : String) :
    Except Raised String := do
  let role ← validateRole role
  if role ∉ analystRoles then
    .error (.httpException 422 s!"Role '{role}' is not available in this deployment")
  else .ok role

/-- `update_data`, after the role in it is validated; `str(None)` is `"None"`. -/
def AnalystUpdate.validated (body : AnalystUpdate) (analystRoles : List String) :
    Except Raised AnalystUpdate :=
  match body.role with
  | none => .ok body
  | some role => do
      let role ← validateAssignableRole analystRoles (role.getD "None")
      pure { body with role := some (some role) }

/-- `role_after`. -/
def AnalystUpdate.roleAfter (updateData : AnalystUpdate) (analyst : AnalystRow) : String :=
  match updateData.role with
  | none => analyst.role.val
  | some role => role.getD "None"

/-- `is_active_after`; `bool(None)` is false. -/
def AnalystUpdate.isActiveAfter (updateData : AnalystUpdate) (analyst : AnalystRow) : Bool :=
  match updateData.isActive with
  | none => analyst.isActive
  | some isActive => isActive.getD false

/-- `_assert_not_last_active_admin`. -/
def assertNotLastActiveAdmin (analysts : AnalystTable) (analyst : AnalystRow)
    (updateData : AnalystUpdate) : Except Raised Unit :=
  if analyst.role.val ≠ "admin" ∨
      (updateData.roleAfter analyst = "admin" ∧ updateData.isActiveAfter analyst = true) then
    .ok ()
  else if otherActiveAdmin analysts analyst.id then .ok ()
  else .error (.httpException 400 "Cannot remove the last active admin")

/-! ## What is written -/

/-- The `UPDATE` of a flush: its `SET` clause names the columns whose value is not the one
that was loaded. -/
structure AnalystPatch where
  id : Uuid
  displayName : Option (Varchar 255)
  email : Option (Option (Varchar 255))
  isActive : Option Bool
  role : Option (Varchar 50)

/-- The value for the `SET` clause, when it differs from the one that was loaded. -/
def changed {α : Type} [DecidableEq α] (old new : α) : Option α :=
  if new = old then none else some new

/-- `setattr` on `is_active`. -/
def Field.assignFlag (field : Field Bool) (old : Bool) : Except Raised Bool :=
  match field with
  | none => .ok old
  | some none => .error (.refusedByDatabase "null value violates not-null constraint")
  | some (some value) => .ok value

/-- The `setattr` of every field given, and the flush. -/
def AnalystUpdate.flush (updateData : AnalystUpdate) (analyst : AnalystRow) :
    Except Raised AnalystPatch := do
  let displayName ← updateData.displayName.assign analyst.displayName
  let email ← updateData.email.assignNullable analyst.email
  let isActive ← updateData.isActive.assignFlag analyst.isActive
  let role ← updateData.role.assign analyst.role
  pure
    { id := analyst.id
      displayName := changed analyst.displayName displayName
      email := changed analyst.email email
      isActive := changed analyst.isActive isActive
      role := changed analyst.role role }

/-- The row that an `UPDATE` leaves, of the row as it finds it. -/
def AnalystPatch.apply (patch : AnalystPatch) (row : AnalystRow) : AnalystRow :=
  { row with
    displayName := patch.displayName.getD row.displayName
    email := patch.email.getD row.email
    isActive := patch.isActive.getD row.isActive
    role := patch.role.getD row.role }

/-- There is a column to write; otherwise no `UPDATE` is sent. -/
def AnalystPatch.sent (patch : AnalystPatch) : Bool :=
  patch.displayName.isSome || patch.email.isSome || patch.isActive.isSome || patch.role.isSome

/-- `update_analyst`, for the requests that the sessions carry out.  No row of `analysts` is ever
deleted, so an `UPDATE` finds its row. -/
def updateAnalyst (py : PyText) (analystRoles : List String)
    (requests : Nat → UpdateAnalystRequest) :
    Guarded.Transaction Nat AnalystTable AnalystRow AnalystUpdate AnalystPatch Raised where
  load k analysts := do
    let _ ← requireAdmin (requests k).caller
    let id ← orRaise (Uuid.ofText? py (requests k).analystId)
      (.valueError "badly formed hexadecimal UUID string")
    orRaise (analysts.find? id) (.httpException 404 "Analyst not found")
  check k analyst analysts := do
    let updateData ← (requests k).body.validated analystRoles
    assertNotLastActiveAdmin analysts analyst updateData
    pure updateData
  write _ analyst updateData := updateData.flush analyst
  commit patch analysts := do
    let row ← orRaise (analysts.find? patch.id) (.runtimeError
      "UPDATE statement on table 'analysts' expected to update 1 row(s); 0 were matched.")
    pure (analysts.set (patch.apply row))
  excludes patch patch' := decide (patch.id = patch'.id) && patch.sent && patch'.sent

/-- The requests, each a session of its own, on the committed analysts. -/
def analystStep (py : PyText) (analystRoles : List String)
    (requests : Nat → UpdateAnalystRequest) :=
  Guarded.step (updateAnalyst py analystRoles requests)

/-! ## What a commit takes away -/

instance (analysts : AnalystTable) : Decidable (HasActiveAdmin analysts) :=
  inferInstanceAs (Decidable (∃ row ∈ analysts.rows, row.isActiveAdmin = true))

theorem otherActiveAdmin_iff {analysts : AnalystTable} {id : Uuid} :
    otherActiveAdmin analysts id = true ↔
      ∃ row ∈ analysts.rows, row.isActiveAdmin = true ∧ row.id ≠ id := by
  simp only [otherActiveAdmin, List.any_eq_true, Bool.and_eq_true, decide_eq_true_eq]

/-- A table has an active admin when the row under an identifier is one, or another row is. -/
theorem hasActiveAdmin_iff {analysts : AnalystTable} {id : Uuid} {row : AnalystRow}
    (h : analysts.find? id = some row) :
    HasActiveAdmin analysts ↔
      row.isActiveAdmin = true ∨ otherActiveAdmin analysts id = true := by
  rw [otherActiveAdmin_iff]
  constructor
  · rintro ⟨other, hmem, hactive⟩
    by_cases hid : other.id = id
    · have hfound : analysts.find? id = some other := hid ▸ Table.find?_of_mem hmem
      rw [h] at hfound
      cases hfound
      exact Or.inl hactive
    · exact Or.inr ⟨other, hmem, hactive, hid⟩
  · rintro (hactive | ⟨other, hmem, hactive, -⟩)
    · exact ⟨row, Table.mem_of_find? h, hactive⟩
    · exact ⟨other, hmem, hactive⟩

theorem hasActiveAdmin_set {analysts : AnalystTable} {id : Uuid} {row new : AnalystRow}
    (h : analysts.find? id = some row) (hid : new.id = id) :
    HasActiveAdmin (analysts.set new) ↔
      new.isActiveAdmin = true ∨ otherActiveAdmin analysts id = true := by
  subst hid
  rw [otherActiveAdmin_iff]
  constructor
  · rintro ⟨other, hmem, hactive⟩
    rcases (Table.mem_set h).mp hmem with rfl | ⟨hmem, hid⟩
    · exact Or.inl hactive
    · exact Or.inr ⟨other, hmem, hactive, hid⟩
  · rintro (hactive | ⟨other, hmem, hactive, hid⟩)
    · exact ⟨new, (Table.mem_set h).mpr (Or.inl rfl), hactive⟩
    · exact ⟨other, (Table.mem_set h).mpr (Or.inr ⟨hmem, hid⟩), hactive⟩

/-- The row that is an active admin in the table is none any more once the patch is written. -/
def AnalystPatch.TakesAway (patch : AnalystPatch) (analysts : AnalystTable) : Prop :=
  ∃ row, analysts.find? patch.id = some row ∧ row.isActiveAdmin = true ∧
    (patch.apply row).isActiveAdmin = false

/-- The query of the guard, asked of this table, would let the patch pass. -/
def AnalystPatch.GuardStands (patch : AnalystPatch) (analysts : AnalystTable) : Prop :=
  patch.TakesAway analysts → otherActiveAdmin analysts patch.id = true

section Updates

variable {py : PyText} {analystRoles : List String} {requests : Nat → UpdateAnalystRequest}

theorem updateAnalyst_commit {patch : AnalystPatch} {analysts analysts' : AnalystTable}
    (h : (updateAnalyst py analystRoles requests).commit patch analysts = .ok analysts') :
    ∃ row, analysts.find? patch.id = some row ∧ (patch.apply row).id = patch.id ∧
      analysts' = analysts.set (patch.apply row) := by
  obtain ⟨row, hrow, hset⟩ := bind_ok h
  cases hset
  have hfound := orRaise_ok hrow
  have hkey := Table.find?_key hfound
  exact ⟨row, hfound, hkey, rfl⟩

/-- **A commit leaves an active admin just when the guard still stands.** -/
theorem hasActiveAdmin_commit {patch : AnalystPatch} {analysts analysts' : AnalystTable}
    (hadmin : HasActiveAdmin analysts)
    (h : (updateAnalyst py analystRoles requests).commit patch analysts = .ok analysts') :
    HasActiveAdmin analysts' ↔ patch.GuardStands analysts := by
  obtain ⟨row, hfound, hid, rfl⟩ := updateAnalyst_commit h
  rw [hasActiveAdmin_set hfound hid]
  constructor
  · rintro hafter ⟨row', hfound', -, hgone⟩
    rw [hfound] at hfound'
    cases hfound'
    rw [hgone] at hafter
    exact hafter.resolve_left Bool.false_ne_true
  · intro hstands
    cases hafter : (patch.apply row).isActiveAdmin with
    | true => exact Or.inl rfl
    | false =>
        rcases (hasActiveAdmin_iff hfound).mp hadmin with hactive | hother
        · exact Or.inr (hstands ⟨row, hfound, hactive, hafter⟩)
        · exact Or.inr hother

variable (py analystRoles requests)

/-- **When there is always an active admin.**  Whatever requests run at the same time, and in
whatever order their statements come, every committed state has an active admin if and only if
every commit that takes an active admin away meets a state in which the query of its guard
still finds another. -/
theorem active_admin_throughout_iff {analysts : AnalystTable} (hadmin : HasActiveAdmin analysts)
    (events : List (Nat × Guarded.Act)) :
    (∀ n, HasActiveAdmin (run (analystStep py analystRoles requests) (.start analysts)
      (events.take n)).store) ↔
    Along (analystStep py analystRoles requests)
      (fun s event => ∀ patch analysts',
        Guarded.CommitsAs (updateAnalyst py analystRoles requests) s event patch analysts' →
        patch.GuardStands s.store)
      (.start analysts) events :=
  Guarded.store_throughout_iff
    (fun _ _ _ hadmin hcommit => hasActiveAdmin_commit hadmin hcommit) hadmin events

end Updates

/-! ## Requests that do not overlap -/

@[simp] theorem changed_getD {α : Type} [DecidableEq α] (old new : α) :
    (changed old new).getD old = new := by
  unfold changed
  split
  · rename_i hsame
    exact hsame.symm
  · rfl

/-- On the row that was loaded, a patch leaves what the guard has reckoned with. -/
theorem AnalystUpdate.flush_ok {updateData : AnalystUpdate} {analyst : AnalystRow}
    {patch : AnalystPatch} (h : updateData.flush analyst = .ok patch) :
    patch.id = analyst.id ∧ (patch.apply analyst).role.val = updateData.roleAfter analyst ∧
      (patch.apply analyst).isActive = updateData.isActiveAfter analyst := by
  obtain ⟨displayName, -, h⟩ := bind_ok h
  obtain ⟨email, -, h⟩ := bind_ok h
  obtain ⟨isActive, hactive, h⟩ := bind_ok h
  obtain ⟨role, hrole, h⟩ := bind_ok h
  cases h
  refine ⟨rfl, ?_, ?_⟩
  · show ((changed analyst.role role).getD analyst.role).val = _
    rw [changed_getD, roleAfter]
    rcases Field.assign_ok hrole with ⟨hnone, rfl⟩ | ⟨value, hvalue, hval⟩
    · rw [hnone]
    · rw [hvalue]
      exact hval
  · show (changed analyst.isActive isActive).getD analyst.isActive = _
    rw [changed_getD, isActiveAfter]
    rcases hgiven : updateData.isActive with - | - | value
    · rw [hgiven] at hactive
      cases hactive
      rfl
    · rw [hgiven] at hactive
      cases hactive
    · rw [hgiven] at hactive
      cases hactive
      rfl

/-- The guard lets an active admin be taken away only when there is another. -/
theorem otherActiveAdmin_of_guard {analysts : AnalystTable} {analyst : AnalystRow}
    {updateData : AnalystUpdate} (h : assertNotLastActiveAdmin analysts analyst updateData = .ok ())
    (hadmin : analyst.role.val = "admin")
    (hgone : ¬ (updateData.roleAfter analyst = "admin" ∧
      updateData.isActiveAfter analyst = true)) :
    otherActiveAdmin analysts analyst.id = true := by
  simp only [assertNotLastActiveAdmin, hadmin, ne_eq, not_true_eq_false, hgone, or_self,
    if_false] at h
  split at h
  · assumption
  · cases h

theorem isActiveAdmin_iff {row : AnalystRow} :
    row.isActiveAdmin = true ↔ row.role.val = "admin" ∧ row.isActive = true := by
  simp only [AnalystRow.isActiveAdmin, Bool.and_eq_true, decide_eq_true_eq]

section Updates

variable {py : PyText} {analystRoles : List String} {requests : Nat → UpdateAnalystRequest}

/-- A request that nobody interrupts leaves an active admin. -/
theorem hasActiveAdmin_serial {k : Nat} {analysts analysts' : AnalystTable}
    {analyst : AnalystRow} {updateData : AnalystUpdate} {patch : AnalystPatch}
    (hadmin : HasActiveAdmin analysts)
    (hload : (updateAnalyst py analystRoles requests).load k analysts = .ok analyst)
    (hcheck : (updateAnalyst py analystRoles requests).check k analyst analysts = .ok updateData)
    (hwrite : (updateAnalyst py analystRoles requests).write k analyst updateData = .ok patch)
    (hcommit : (updateAnalyst py analystRoles requests).commit patch analysts = .ok analysts') :
    HasActiveAdmin analysts' := by
  refine (hasActiveAdmin_commit hadmin hcommit).mpr ?_
  rintro ⟨row, hfound, hactive, hgone⟩
  obtain ⟨-, -, hload⟩ := bind_ok hload
  obtain ⟨id, -, hload⟩ := bind_ok hload
  have hloaded := orRaise_ok hload
  obtain ⟨updateData', -, hcheck⟩ := bind_ok hcheck
  obtain ⟨⟨⟩, hguard, hcheck⟩ := bind_ok hcheck
  cases hcheck
  obtain ⟨hid, hrole, hflag⟩ := AnalystUpdate.flush_ok hwrite
  -- the row that is written is the one that was loaded
  have hsame : row = analyst := by
    rw [hid, Table.find?_key hloaded, hloaded] at hfound
    cases hfound
    rfl
  subst hsame
  rw [hid]
  refine otherActiveAdmin_of_guard hguard (isActiveAdmin_iff.mp hactive).1 ?_
  rintro ⟨hadminAfter, hactiveAfter⟩
  have hstill := isActiveAdmin_iff.mpr ⟨hrole.trans hadminAfter, hflag.trans hactiveAfter⟩
  rw [hgone] at hstill
  cases hstill

variable (py analystRoles requests)

/-- There is an active admin as long as no request commits between the load and the commit of
one that takes an active admin away. -/
theorem active_admin_of_undisturbed {analysts : AnalystTable} (hadmin : HasActiveAdmin analysts)
    {events : List (Nat × Guarded.Act)}
    (h : Along (analystStep py analystRoles requests)
      (fun s event => ∀ patch analysts',
        Guarded.CommitsAs (updateAnalyst py analystRoles requests) s event patch analysts' →
        s.loadedAt event.1 = s.commits ∨ ¬ patch.TakesAway s.store)
      (.start analysts) events) :
    HasActiveAdmin (run (analystStep py analystRoles requests) (.start analysts) events).store :=
  Guarded.store_inv_of_undisturbed
    (fun (patch : AnalystPatch) (analysts : AnalystTable) => ¬ patch.TakesAway analysts)
    (fun _ _ _ _ _ _ hadmin hload hcheck hwrite hcommit =>
      hasActiveAdmin_serial hadmin hload hcheck hwrite hcommit)
    (fun _ _ _ hadmin hcommit hkept =>
      (hasActiveAdmin_commit hadmin hcommit).mpr (fun htakes => absurd htakes hkept)) hadmin h

end Updates

/-! ## Two admins at once -/

def activeAdmin (id : Uuid) : AnalystRow :=
  { id := id
    username := administrator.username
    displayName := administrator.displayName
    isActive := true
    role := administrator.role
    email := none }

def twoAdmins : AnalystTable := ⟨[activeAdmin 1, activeAdmin 2], by decide⟩

/-- Each of two admins takes the other's role away. -/
def mutualDemotion : Nat → UpdateAnalystRequest
  | 0 => ⟨Uuid.toText 2, { role := some (some "analyst") }, some (activeAdmin 1).toAnalyst⟩
  | _ => ⟨Uuid.toText 1, { role := some (some "analyst") }, some (activeAdmin 2).toAnalyst⟩

/-- Both requests ask for another admin before either has committed. -/
def bothCheckFirst : List (Nat × Guarded.Act) :=
  [(0, .load), (1, .load), (0, .check), (1, .check), (0, .write), (1, .write), (0, .commit),
    (1, .commit)]

theorem no_active_admin_left :
    ¬ ∀ py analystRoles requests analysts events, HasActiveAdmin analysts →
      HasActiveAdmin
        (run (analystStep py analystRoles requests) (.start analysts) events).store := by
  intro h
  have hlast := h .ascii coreAnalystRoles mutualDemotion twoAdmins bothCheckFirst (by decide)
  revert hlast
  decide +kernel

/-- Until the second of them commits, there is an admin left. -/
theorem active_admin_throughout_iff_two_admins :
    HasActiveAdmin twoAdmins ∧
      HasActiveAdmin (run (analystStep .ascii coreAnalystRoles mutualDemotion)
        (.start twoAdmins) (bothCheckFirst.take 7)).store ∧
      ¬ Along (analystStep .ascii coreAnalystRoles mutualDemotion)
        (fun s event => ∀ patch analysts',
          Guarded.CommitsAs (updateAnalyst .ascii coreAnalystRoles mutualDemotion) s event patch
            analysts' → patch.GuardStands s.store)
        (.start twoAdmins) bothCheckFirst := by
  have hadmin : HasActiveAdmin twoAdmins := by decide
  refine ⟨hadmin, by decide +kernel, ?_⟩
  intro h
  have hlast := (active_admin_throughout_iff .ascii coreAnalystRoles mutualDemotion hadmin
    bothCheckFirst).mpr h 8
  revert hlast
  decide +kernel

end OpenSoar
