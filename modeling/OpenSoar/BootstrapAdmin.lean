/-
# `OpenSoar.BootstrapAdmin` — the first admin

`bootstrap_local_admin` of `bootstrap_admin.py`: a script that refuses to run where an active admin
exists, and otherwise inserts one.  Any number of processes may run it at once, each with statements
of its own between those of the others.

`bootstrap_admins` says what they make of a database without an active admin.  The check does not
keep two of them apart: each that has looked before the first commit may commit.  Every one that
commits has looked before the first commit, so from then on nobody gets in; and their names differ,
since the column is unique.
-/
import OpenSoar.Api.Accounts

namespace OpenSoar

open Python

/-! ## The script -/

/-- The arguments of `bootstrap_local_admin`, with the key of the row and the salt it draws. -/
structure BootstrapArgs where
  username : String
  password : String
  displayName : Option String
  email : Option String
  newId : Uuid
  salt : Nat

section Script

variable {H : Type}

/-- The rows with the role `admin` that are active. -/
def Accounts.activeAdmins (s : Accounts H) : List (Account H) :=
  s.table.rows.filter (fun account => account.toAnalystRow.isActiveAdmin)

def adminExists : Raised :=
  .runtimeError "An active admin already exists; use the admin account-management flow instead."

/-- The row that the script adds. -/
def BootstrapArgs.account (keeper : Keeper H) (args : BootstrapArgs) :
    Except Raised (Account H) := do
  let hash ← keeper.hash args.password args.salt
  let username ← column 100 args.username
  let displayName ← column 255 ((truthy args.displayName).getD args.username)
  let email ← args.email.mapM (column 255)
  let role ← column 50 "admin"
  pure
    { id := args.newId
      username := username
      displayName := displayName
      isActive := true
      role := role
      email := email
      passwordHash := some hash }

/-- `bootstrap_local_admin` as a transaction: the two queries, the row, and its insertion, which
waits for a pending one of the same name or key. -/
def bootstrapLocalAdmin (keeper : Keeper H) {κ : Type} (args : κ → BootstrapArgs) :
    Guarded.Transaction κ (Accounts H) Unit Unit (Account H) Raised where
  load _ s := if s.activeAdmins.isEmpty then .ok () else .error adminExists
  check k _ s :=
    if (s.named? (args k).username).isSome then
      .error (.runtimeError ("Username '" ++ (args k).username ++ "' is already taken."))
    else .ok ()
  write k _ _ := (args k).account keeper
  commit account s := s.insert account
  excludes a b := decide (a.username.val = b.username.val) || decide (a.id = b.id)

end Script

/-! ## What any number of them make of the database -/

section Races

variable {H : Type} {keeper : Keeper H} {κ : Type} {args : κ → BootstrapArgs}

/-- The state of the processes that run the script. -/
abbrev BootstrapSys (H κ : Type) := Guarded.Sys κ (Accounts H) Unit Unit (Account H) Raised

/-- The first query has let the process through. -/
def LetThrough : Guarded.Phase Unit Unit (Account H) Raised → Prop
  | .waiting => False
  | .failed _ => False
  | _ => True

/-- The account is one that the process makes. -/
def MadeBy (args : κ → BootstrapArgs) (k : κ) (account : Account H) : Prop :=
  account.username.val = (args k).username ∧ account.toAnalystRow.isActiveAdmin = true

/-- The processes `ks` have committed, and have added one row each, in this order; whoever was let
through had looked before the first commit. -/
structure Bootstrapped (args : κ → BootstrapArgs) (before : Accounts H) (s : BootstrapSys H κ)
    (ks : List κ) (new : List (Account H)) : Prop where
  once : ks.Nodup
  committed : ∀ k, k ∈ ks ↔ s.phase k = .committed
  commits : s.commits = ks.length
  rows : s.store.table.rows = before.table.rows ++ new
  made : List.Forall₂ (MadeBy args) ks new
  written : ∀ k r c account, s.phase k = .written r c account → MadeBy args k account
  early : ∀ k, LetThrough (s.phase k) → s.loadedAt k = 0

theorem account_made {k : κ} {account : Account H}
    (h : (args k).account keeper = .ok account) : MadeBy args k account := by
  obtain ⟨hash, -, h⟩ := bind_ok h
  obtain ⟨username, husername, h⟩ := bind_ok h
  obtain ⟨displayName, -, h⟩ := bind_ok h
  obtain ⟨email, -, h⟩ := bind_ok h
  obtain ⟨role, hrole, h⟩ := bind_ok h
  cases h
  refine ⟨column_val husername, ?_⟩
  show (decide (role.val = "admin") && true) = true
  rw [column_val hrole]
  rfl

theorem Accounts.insert_rows {s s' : Accounts H} {account : Account H}
    (h : s.insert account = .ok s') : s'.table.rows = s.table.rows ++ [account] := by
  unfold Accounts.insert at h
  split at h
  · cases h
  · split at h
    · cases h
    · cases h
      rfl

variable {before : Accounts H} {s s' : BootstrapSys H κ} {ks : List κ} {new : List (Account H)}

/-- The admins are the rows that have been added. -/
theorem Bootstrapped.activeAdmins (h : Bootstrapped args before s ks new)
    (hnone : before.activeAdmins = []) : s.store.activeAdmins = new := by
  have hall : ∀ (ks : List κ) (new : List (Account H)), List.Forall₂ (MadeBy args) ks new →
      new.filter (fun account => account.toAnalystRow.isActiveAdmin) = new := by
    intro ks new hmade
    induction hmade with
    | nil => rfl
    | cons hfirst _ ih =>
        rw [List.filter_cons, if_pos hfirst.2, ih]
  rw [Accounts.activeAdmins, h.rows, List.filter_append, hall ks new h.made]
  show before.activeAdmins ++ new = new
  rw [hnone]
  rfl

theorem map_made {ks : List κ} {new : List (Account H)} (h : List.Forall₂ (MadeBy args) ks new) :
    new.map (fun account => account.username.val) = ks.map (fun k => (args k).username) := by
  induction h with
  | nil => rfl
  | cons hfirst _ ih => rw [List.map_cons, List.map_cons, hfirst.1, ih]

variable [DecidableEq κ]

/-- A step that commits nothing. -/
theorem Bootstrapped.of_phase {k : κ} {p : Guarded.Phase Unit Unit (Account H) Raised}
    (h : Bootstrapped args before s ks new) (hbefore : s.phase k ≠ .committed)
    (hphase : s'.phase = Function.update s.phase k p) (hstore : s'.store = s.store)
    (hcommits : s'.commits = s.commits) (hloadedAt : ∀ j, j ≠ k → s'.loadedAt j = s.loadedAt j)
    (hp : p ≠ .committed) (hwritten : ∀ r c account, p = .written r c account →
      MadeBy args k account) (hearly : LetThrough p → s'.loadedAt k = 0) :
    Bootstrapped args before s' (ks ++ if (s'.phase k).isCommitted then [k] else []) new := by
  have hks : (ks ++ if (s'.phase k).isCommitted then [k] else []) = ks := by
    rw [hphase, Function.update_self, Guarded.Phase.isCommitted_eq_false hp]
    exact List.append_nil ks
  rw [hks]
  refine ⟨h.once, ?_, hcommits.trans h.commits, by rw [hstore, h.rows], h.made, ?_, ?_⟩
  · intro j
    rw [h.committed, hphase]
    by_cases hjk : j = k
    · subst hjk
      rw [Function.update_self]
      exact iff_of_false hbefore hp
    · rw [Function.update_of_ne hjk]
  · intro j r c account hj
    rw [hphase] at hj
    by_cases hjk : j = k
    · subst hjk
      rw [Function.update_self] at hj
      exact hwritten r c account hj
    · rw [Function.update_of_ne hjk] at hj
      exact h.written j r c account hj
  · intro j hj
    rw [hphase] at hj
    by_cases hjk : j = k
    · subst hjk
      rw [Function.update_self] at hj
      exact hearly hj
    · rw [Function.update_of_ne hjk] at hj
      rw [hloadedAt j hjk]
      exact h.early j hj

/-- **One step of one process.** -/
theorem Bootstrapped.step (h : Bootstrapped args before s ks new)
    (hnone : before.activeAdmins = []) {k : κ} {act : Guarded.Act}
    (hstep : Guarded.step (bootstrapLocalAdmin keeper args) s (k, act) = .ok s') :
    ∃ new', Bootstrapped args before s' (ks ++ if (s'.phase k).isCommitted then [k] else [])
      new' := by
  have hbefore := Guarded.not_committed_of_step hstep
  cases Guarded.stepped_of_step hstep with
  | loaded r hload hphase hstore hcommits hloadedAt =>
      refine ⟨new, h.of_phase hbefore hphase hstore hcommits ?_ (by intro hp; cases hp)
        (by intro _ _ _ hp; cases hp) (fun _ => ?_)⟩
      · intro j hjk
        rw [hloadedAt, Function.update_of_ne hjk]
      · -- the query has found no admin, so nobody has committed yet
        rw [hloadedAt, Function.update_self, h.commits]
        have hempty : s.store.activeAdmins.isEmpty = true := by
          by_contra hsome
          simp only [bootstrapLocalAdmin, hsome] at hload
          cases hload
        rw [h.activeAdmins hnone, List.isEmpty_iff] at hempty
        rw [h.made.length_eq, hempty]
        rfl
  | checked r c hloaded hcheck hphase hstore hcommits hloadedAt =>
      refine ⟨new, h.of_phase hbefore hphase hstore hcommits
        (fun j _ => congrFun hloadedAt j) (by intro hp; cases hp)
        (by intro _ _ _ hp; cases hp) (fun _ => ?_)⟩
      rw [hloadedAt]
      exact h.early k (by rw [hloaded]; trivial)
  | written r c account hchecked hwrite hphase hstore hcommits hloadedAt =>
      refine ⟨new, h.of_phase hbefore hphase hstore hcommits
        (fun j _ => congrFun hloadedAt j) (by intro hp; cases hp) ?_ (fun _ => ?_)⟩
      · intro r' c' account' hp
        cases hp
        exact account_made hwrite
      · rw [hloadedAt]
        exact h.early k (by rw [hchecked]; trivial)
  | failed e hphase hstore hcommits hloadedAt =>
      exact ⟨new, h.of_phase hbefore hphase hstore hcommits
        (fun j _ => congrFun hloadedAt j) (by intro hp; cases hp)
        (by intro _ _ _ hp; cases hp) (fun hp => hp.elim)⟩
  | committed r c account hwritten hcommit hphase hcommits hloadedAt =>
      have hk : (s'.phase k).isCommitted = true := by
        rw [hphase, Function.update_self]
        rfl
      rw [if_pos hk]
      refine ⟨new ++ [account], ?_, ?_, ?_, ?_, ?_, ?_, ?_⟩
      · rw [List.nodup_append_comm]
        exact List.nodup_cons.mpr ⟨fun hk => hbefore ((h.committed k).mp hk), h.once⟩
      · intro j
        rw [List.mem_append, List.mem_singleton, h.committed, hphase]
        by_cases hjk : j = k
        · subst hjk
          rw [Function.update_self]
          exact iff_of_true (Or.inr rfl) rfl
        · rw [Function.update_of_ne hjk]
          exact or_iff_left hjk
      · rw [hcommits, h.commits, List.length_append]
        rfl
      · rw [Accounts.insert_rows hcommit, h.rows, List.append_assoc]
      · exact List.rel_append h.made (.cons (h.written k r c account hwritten) .nil)
      · intro j r' c' account' hj
        rw [hphase] at hj
        by_cases hjk : j = k
        · subst hjk
          rw [Function.update_self] at hj
          cases hj
        · rw [Function.update_of_ne hjk] at hj
          exact h.written j r' c' account' hj
      · intro j hj
        rw [hloadedAt]
        rw [hphase] at hj
        by_cases hjk : j = k
        · subst hjk
          exact h.early j (by rw [hwritten]; trivial)
        · rw [Function.update_of_ne hjk] at hj
          exact h.early j hj

/-- What the processes have made of the database, where `ks` are those that have committed: one
admin for each, in this order and under its name, and nothing else.  No name comes twice, and they
have all looked before the first of them had committed; whoever looks now is refused, once there
is one. -/
structure FirstAdmins (keeper : Keeper H) (args : κ → BootstrapArgs) (before : Accounts H)
    (s : BootstrapSys H κ) (ks : List κ) : Prop where
  once : ks.Nodup
  committed : ∀ k, k ∈ ks ↔ s.phase k = .committed
  rows : s.store.table.rows = before.table.rows ++ s.store.activeAdmins
  names : s.store.activeAdmins.map (fun account => account.username.val) =
    ks.map (fun k => (args k).username)
  distinct : (ks.map (fun k => (args k).username)).Nodup
  early : ∀ k ∈ ks, s.loadedAt k = 0
  late : ks ≠ [] → ∀ k, s.phase k = .waiting →
    (attempt (Guarded.step (bootstrapLocalAdmin keeper args)) s (k, .load)).phase k =
      .failed adminExists

/-- A process that looks while there is an admin is refused. -/
theorem load_refused {k : κ} (hwaiting : s.phase k = .waiting) (hsome : s.store.activeAdmins ≠ []) :
    (attempt (Guarded.step (bootstrapLocalAdmin keeper args)) s (k, .load)).phase k =
      .failed adminExists := by
  have hload : (bootstrapLocalAdmin keeper args).load k s.store = .error adminExists := by
    have hempty : s.store.activeAdmins.isEmpty = false := by
      rw [← Bool.not_eq_true, List.isEmpty_iff]
      exact hsome
    simp only [bootstrapLocalAdmin, hempty, Bool.false_eq_true, if_false]
  have hstep : Guarded.step (bootstrapLocalAdmin keeper args) s (k, .load) =
      .ok (s.setPhase k (.failed adminExists)) := by
    simp only [Guarded.step, hwaiting, hload]
  rw [attempt_ok _ hstep]
  exact Function.update_self ..

/-- **The first admins**, whatever the order of the processes' statements: the processes that
have committed, in the order of their commits, have each added one. -/
theorem bootstrap_admins (keeper : Keeper H) (args : κ → BootstrapArgs)
    (hnone : before.activeAdmins = []) (events : List (κ × Guarded.Act)) :
    FirstAdmins keeper args before
      (run (Guarded.step (bootstrapLocalAdmin keeper args)) (.start before) events)
      (Guarded.committers
        (trace (Guarded.step (bootstrapLocalAdmin keeper args)) (.start before) events)) := by
  let step := Guarded.step (bootstrapLocalAdmin keeper args)
  have hinv : ∃ new, Bootstrapped args before (run step (.start before) events)
      (Guarded.committers ([] ++ trace step (.start before) events)) new := by
    refine run_history step
      (I := fun past s => ∃ new, Bootstrapped args before s (Guarded.committers past) new)
      (fun past s event s' ⟨new, h⟩ hstep => ?_) events ⟨[], ?_⟩
    · obtain ⟨k, act⟩ := event
      rw [Guarded.committers_concat]
      exact h.step hnone hstep
    · refine ⟨List.nodup_nil, ?_, rfl, (List.append_nil _).symm, .nil, ?_, fun _ _ => rfl⟩
      · intro k
        exact iff_of_false List.not_mem_nil (by intro h; cases h)
      · intro k r c account h
        cases h
  rw [List.nil_append] at hinv
  obtain ⟨new, h⟩ := hinv
  show FirstAdmins keeper args before (run step (.start before) events)
    (Guarded.committers (trace step (.start before) events))
  generalize run step (.start before) events = s at h ⊢
  generalize Guarded.committers (trace step (.start before) events) = ks at h ⊢
  have hadmins := h.activeAdmins hnone
  refine ⟨h.once, h.committed, ?_, ?_, ?_, ?_, ?_⟩
  · rw [hadmins, h.rows]
  · rw [hadmins, map_made h.made]
  · have hnames := s.store.usernames
    rw [h.rows, List.map_append] at hnames
    rw [← map_made h.made]
    exact hnames.of_append_right
  · intro k hk
    exact h.early k (by rw [(h.committed k).mp hk]; trivial)
  · intro hks k hwaiting
    refine load_refused hwaiting ?_
    rw [hadmins]
    intro hnew
    have hlength := h.made.length_eq
    rw [hnew] at hlength
    exact hks (List.length_eq_zero_iff.mp hlength)

end Races

/-! ## Two at once -/

def twoBootstraps : Nat → BootstrapArgs
  | 0 => ⟨"alice", "correct horse", none, none, 1, 0⟩
  | _ => ⟨"bob", "battery staple", none, none, 2, 0⟩

/-- Both look for an admin before either has committed; the one that looked last commits first. -/
def bothLookFirst : List (Nat × Guarded.Act) :=
  [(0, .load), (1, .load), (0, .check), (1, .check), (0, .write), (1, .write), (1, .commit),
    (0, .commit)]

theorem bootstrap_admins_of_two :
    let step := Guarded.step (bootstrapLocalAdmin (bcryptKeeper hexBcrypt) twoBootstraps)
    let start : BootstrapSys (Varchar 255) Nat := .start .empty
    ((run step start bothLookFirst).store.activeAdmins.map (fun account => account.username.val) =
      ["bob", "alice"]) ∧
    Guarded.committers (trace step start bothLookFirst) = [1, 0] ∧
    FirstAdmins (bcryptKeeper hexBcrypt) twoBootstraps .empty (run step start bothLookFirst)
      (Guarded.committers (trace step start bothLookFirst)) :=
  ⟨by decide +kernel, by decide +kernel,
    bootstrap_admins (bcryptKeeper hexBcrypt) twoBootstraps rfl bothLookFirst⟩

end OpenSoar
