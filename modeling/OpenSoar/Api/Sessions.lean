/-
# `OpenSoar.Api.Sessions` — who can log in, and which tokens are accepted

Runs of the requests of `Api.Accounts`, from any accounts.  `Served` is all that a request does to
the accounts; from it, `login_iff` says whose login succeeds after any run, in terms of the last
password that a request has given to the account, or the one it had before, and
`token_accepted_iff` when a token that was handed out is accepted after any further run: nothing
but its time and the account's `is_active` counts, and a change of the password, of the role or of
the name does not.
-/
import OpenSoar.Api.Accounts

namespace OpenSoar

open Python

variable {H : Type}

section Served

variable (K : Keeper H) (env : AuthEnv)

/-- The accounts after a request. -/
def serveAccounts (s : Accounts H) (request : AccountRequest) : Except Raised (Accounts H) :=
  (accountRequest K env request s).map Prod.snd

/-- The password that a request gives to the account under an identifier. -/
def givesPassword (i : Uuid) (s : Accounts H) (request : AccountRequest) : Option String :=
  match request.op with
  | .register id _ body => if id = i then some body.password else none
  | .createAnalyst id _ body => if id = i then some body.password else none
  | .changePassword _ _ newPassword =>
      match requireAccount env request.now request.credentials s with
      | .ok account => if account.key = i then some newPassword else none
      | .error _ => none
  | .resetAnalystPassword analystId _ newPassword =>
      if Uuid.ofText? env.py analystId = some i then some newPassword else none
  | .login _ _ | .getMe | .updateAnalyst _ _ => none

/-- All that a request does to the accounts. -/
inductive Served (s : Accounts H) (request : AccountRequest) : Accounts H → Prop
  | same : (∀ i, givesPassword env i s request = none) → Served s request s
  | added {s' : Accounts H} {account : Account H} {hashed : H} {password : String} {salt : Nat} :
      K.hash password salt = .ok hashed → account.passwordHash = some hashed →
      s.insert account = .ok s' →
      (∀ i, givesPassword env i s request = if account.key = i then some password else none) →
      Served s request s'
  | rehashed {account : Account H} {hashed : H} {password : String} {salt : Nat} :
      s.table.find? account.key = some account → K.hash password salt = .ok hashed →
      (∀ i, givesPassword env i s request = if account.key = i then some password else none) →
      Served s request (s.setPassword account.key hashed)
  | patched {account : Account H} (patch : AnalystPatch) :
      s.table.find? account.key = some account → (∀ i, givesPassword env i s request = none) →
      Served s request (s.applyPatch account.key patch)

variable {K env}

theorem addAccount_ok {id : Uuid} {body : AnalystRegister} {hashed : H} {role : String}
    {s s' : Accounts H} {account : Account H}
    (h : addAccount id body hashed role s = .ok (account, s')) :
    account.key = id ∧ account.username.val = body.username ∧ account.isActive = true ∧
      account.passwordHash = some hashed ∧ s.insert account = .ok s' := by
  obtain ⟨username, husername, h⟩ := bind_ok h
  obtain ⟨displayName, -, h⟩ := bind_ok h
  obtain ⟨email, -, h⟩ := bind_ok h
  obtain ⟨role, -, h⟩ := bind_ok h
  obtain ⟨inserted, hinserted, h⟩ := bind_ok h
  cases h
  exact ⟨rfl, column_val husername, rfl, rfl, hinserted⟩

theorem requireAccount_ok {now : Timestamp} {credentials : Option String} {s : Accounts H}
    {account : Account H} (h : requireAccount env now credentials s = .ok account) :
    s.table.find? account.key = some account ∧ account.isActive = true := by
  obtain ⟨found, hfound, h⟩ := bind_ok h
  have hsome := orRaise_ok h
  subst hsome
  cases credentials with
  | none => cases hfound
  | some token =>
      obtain ⟨payload, -, hfound⟩ := bind_ok hfound
      split at hfound
      · cases hfound
      · obtain ⟨id, -, hfound⟩ := bind_ok hfound
        obtain ⟨account', haccount, hfound⟩ := bind_ok hfound
        cases hfound
        obtain ⟨hfind, hactive⟩ := Option.filter_eq_some_iff.mp (orRaise_ok haccount)
        have hkey := Table.find?_key hfind
        exact ⟨hkey ▸ hfind, hactive⟩

theorem get_ok {analystId : String} {s : Accounts H} {account : Account H}
    (h : s.get env analystId = .ok account) :
    Uuid.ofText? env.py analystId = some account.key ∧
      s.table.find? account.key = some account := by
  obtain ⟨id, hid, h⟩ := bind_ok h
  have hfind := orRaise_ok h
  have hkey := Table.find?_key hfind
  subst hkey
  exact ⟨orRaise_ok hid, hfind⟩

theorem changePassword_ok {account : Account H} {salt : Nat} {currentPassword newPassword : String}
    {s s' : Accounts H} {answer : AccountAnswer}
    (h : s.changePassword K account salt currentPassword newPassword = .ok (answer, s')) :
    ∃ hashed, K.hash newPassword salt = .ok hashed ∧ s' = s.setPassword account.key hashed := by
  obtain ⟨kept, -, h⟩ := bind_ok h
  obtain ⟨verified, -, h⟩ := bind_ok h
  split at h
  · cases h
  · obtain ⟨hashed, hhashed, h⟩ := bind_ok h
    cases h
    exact ⟨hashed, hhashed, rfl⟩

/-- **One request, seen from the accounts.** -/
theorem served {s s' : Accounts H} {request : AccountRequest} {answer : AccountAnswer}
    (h : accountRequest K env request s = .ok (answer, s')) : Served K env s request s' := by
  obtain ⟨now, credentials, op⟩ := request
  cases op with
  | register id salt body =>
      simp only [accountRequest, Accounts.register] at h
      split at h
      · cases h
      · split at h
        · cases h
        · obtain ⟨hashed, hhashed, h⟩ := bind_ok h
          obtain ⟨⟨account, s₁⟩, hadded, h⟩ := bind_ok h
          cases h
          obtain ⟨hkey, -, -, hkept, hinsert⟩ := addAccount_ok hadded
          refine .added hhashed hkept hinsert (fun i => ?_)
          rw [hkey]
          rfl
  | login username password =>
      simp only [accountRequest, Accounts.login] at h
      split at h
      · cases h
      · obtain ⟨account, -, h⟩ := bind_ok h
        split at h
        · cases h
        · cases h
          exact .same (fun _ => rfl)
  | getMe =>
      obtain ⟨account, -, h⟩ := bind_ok h
      cases h
      exact .same (fun _ => rfl)
  | changePassword salt currentPassword newPassword =>
      obtain ⟨account, hcaller, h⟩ := bind_ok h
      obtain ⟨hashed, hhashed, rfl⟩ := changePassword_ok h
      refine .rehashed (requireAccount_ok hcaller).1 hhashed (fun i => ?_)
      simp only [givesPassword, hcaller]
  | createAnalyst id salt body =>
      obtain ⟨-, -, h⟩ := bind_ok h
      simp only [Accounts.createAnalyst] at h
      split at h
      · cases h
      · obtain ⟨hashed, hhashed, h⟩ := bind_ok h
        obtain ⟨role, -, h⟩ := bind_ok h
        obtain ⟨⟨account, s₁⟩, hadded, h⟩ := bind_ok h
        cases h
        obtain ⟨hkey, -, -, hkept, hinsert⟩ := addAccount_ok hadded
        refine .added hhashed hkept hinsert (fun i => ?_)
        rw [hkey]
        rfl
  | updateAnalyst analystId body =>
      obtain ⟨-, -, h⟩ := bind_ok h
      obtain ⟨account, haccount, h⟩ := bind_ok h
      obtain ⟨updateData, -, h⟩ := bind_ok h
      obtain ⟨-, -, h⟩ := bind_ok h
      obtain ⟨patch, -, h⟩ := bind_ok h
      cases h
      exact .patched patch (get_ok haccount).2 (fun _ => rfl)
  | resetAnalystPassword analystId salt newPassword =>
      obtain ⟨-, -, h⟩ := bind_ok h
      obtain ⟨account, haccount, h⟩ := bind_ok h
      obtain ⟨kept, -, h⟩ := bind_ok h
      obtain ⟨hashed, hhashed, h⟩ := bind_ok h
      cases h
      obtain ⟨hid, hfind⟩ := get_ok haccount
      refine .rehashed hfind hhashed (fun i => ?_)
      simp only [givesPassword, hid, Option.some.injEq]

end Served

/-! ## One account -/

section Account

variable {K : Keeper H} {env : AuthEnv} {s s' : Accounts H} {i : Uuid}

theorem insert_ok {account : Account H} (h : s.insert account = .ok s') (i : Uuid) :
    s'.table.find? i = if account.key = i then some account else s.table.find? i := by
  unfold Accounts.insert at h
  split at h
  · cases h
  · split at h
    · cases h
    · rename_i hkey
      cases h
      show (s.table.rows ++ [account]).find? _ = _
      rw [List.find?_append, List.find?_singleton]
      by_cases hi : account.key = i
      · have hnone : s.table.rows.find? (fun row => decide (row.key = i)) = none :=
          Table.find?_eq_none_iff.mpr (fun row hrow hsame =>
            hkey (List.contains_iff_mem.mpr (List.mem_map.mpr ⟨row, hrow, hsame.trans hi.symm⟩)))
        rw [hnone, if_pos (decide_eq_true hi), if_pos hi]
        rfl
      · rw [if_neg (by simpa using hi), if_neg hi, Option.or_none]
        rfl

theorem find?_modify (j : Uuid) (f : Account H → Account H) (hkey hname) :
    (s.modify j f hkey hname).table.find? i =
      (s.table.find? i).map (fun account => if account.key = j then f account else account) := by
  refine (Table.find?_update _ f hkey s.table i).trans ?_
  simp only [decide_eq_true_eq]

theorem find?_setPassword (j : Uuid) (hashed : H) :
    (s.setPassword j hashed).table.find? i = (s.table.find? i).map (fun account =>
      if account.key = j then { account with passwordHash := some hashed } else account) := by
  exact find?_modify j _ _ _

theorem find?_applyPatch (j : Uuid) (patch : AnalystPatch) :
    (s.applyPatch j patch).table.find? i = (s.table.find? i).map (fun account =>
      if account.key = j then account.patched patch else account) := by
  exact find?_modify j _ _ _

/-- No request deletes an account. -/
theorem Served.persists {request : AccountRequest} (h : Served K env s request s')
    (hfind : (s.table.find? i).isSome = true) : (s'.table.find? i).isSome = true := by
  cases h with
  | same => exact hfind
  | added _ _ hinsert =>
      rw [insert_ok hinsert]
      split
      · rfl
      · exact hfind
  | rehashed => rwa [find?_setPassword, Option.isSome_map]
  | patched => rwa [find?_applyPatch, Option.isSome_map]

/-- What is kept of the password of the account under an identifier. -/
def Accounts.kept (s : Accounts H) (i : Uuid) : Option H :=
  (s.table.find? i).bind Account.passwordHash

theorem Served.kept {request : AccountRequest} (h : Served K env s request s') (i : Uuid) :
    (∀ password, givesPassword env i s request = some password →
      ∃ salt hashed, K.hash password salt = .ok hashed ∧ s'.kept i = some hashed) ∧
    (givesPassword env i s request = none → s'.kept i = s.kept i) := by
  cases h with
  | same hgives =>
      refine ⟨fun password hpassword => ?_, fun _ => rfl⟩
      rw [hgives] at hpassword
      cases hpassword
  | added hhash hkept hinsert hgives =>
      rw [hgives, Accounts.kept, insert_ok hinsert]
      split
      · refine ⟨fun password hpassword => ?_, fun hnone => by cases hnone⟩
        cases hpassword
        exact ⟨_, _, hhash, hkept⟩
      · exact ⟨fun password hpassword => (by cases hpassword), fun _ => rfl⟩
  | rehashed hfind hhash hgives =>
      rw [hgives, Accounts.kept, find?_setPassword]
      split
      · rename_i hi
        subst hi
        refine ⟨fun password hpassword => ?_, fun hnone => by cases hnone⟩
        cases hpassword
        rw [hfind, Option.map_some, if_pos rfl]
        exact ⟨_, _, hhash, rfl⟩
      · rename_i hi
        refine ⟨fun password hpassword => (by cases hpassword), fun _ => ?_⟩
        rw [Accounts.kept]
        cases hrow : s.table.find? i with
        | none => rfl
        | some row =>
            have hkey : row.key = i := Table.find?_key hrow
            rw [Option.map_some, if_neg (fun h => hi (h.symm.trans hkey))]
  | patched patch hfind hgives =>
      refine ⟨fun password hpassword => ?_, fun _ => ?_⟩
      · rw [hgives] at hpassword
        cases hpassword
      · rw [Accounts.kept, Accounts.kept, find?_applyPatch]
        cases s.table.find? i with
        | none => rfl
        | some row =>
            rw [Option.map_some, Option.bind_some, Option.bind_some]
            split <;> rfl

end Account

/-! ## After a run -/

section Runs

variable {K : Keeper H} {env : AuthEnv}

/-- The password of an account after these requests: the last one that they have given to it, or
the one that it had before. -/
def lastPassword (env : AuthEnv) (initial : Uuid → Option String)
    (requests : List (Accepted (Accounts H) AccountRequest)) (i : Uuid) : Option String :=
  ((requests.filterMap (fun accepted =>
    givesPassword env i accepted.before accepted.op)).getLast?).or (initial i)

theorem lastPassword_concat (initial : Uuid → Option String)
    (past : List (Accepted (Accounts H) AccountRequest))
    (accepted : Accepted (Accounts H) AccountRequest) (i : Uuid) :
    lastPassword env initial (past ++ [accepted]) i =
      (givesPassword env i accepted.before accepted.op).or (lastPassword env initial past i) := by
  rw [lastPassword, List.filterMap_append, List.getLast?_append, Option.or_assoc]
  cases hgives : givesPassword env i accepted.before accepted.op with
  | none =>
      simp only [List.filterMap_cons, hgives, List.filterMap_nil]
      rfl
  | some password =>
      simp only [List.filterMap_cons, hgives, List.filterMap_nil]
      rfl

/-- What is kept stands for these passwords; where there is none, nothing is kept that a password
is checked against. -/
def Accounts.Keeps (K : Keeper H) (passwords : Uuid → Option String) (s : Accounts H) : Prop :=
  ∀ i, (∀ password, passwords i = some password →
      ∃ salt hashed, K.hash password salt = .ok hashed ∧ s.kept i = some hashed) ∧
    (passwords i = none → ∀ hashed, s.kept i = some hashed → K.present hashed = false)

variable (env) in
theorem keeps_lastPassword {initial : Uuid → Option String} {start : Accounts H}
    (hstart : start.Keeps K initial) (requests : List AccountRequest) :
    (run (serveAccounts K env) start requests).Keeps K
      (lastPassword env initial (trace (serveAccounts K env) start requests)) := by
  show (run (serveAccounts K env) start requests).Keeps K
    (lastPassword env initial ([] ++ trace (serveAccounts K env) start requests))
  refine run_history (serveAccounts K env)
    (I := fun past s => s.Keeps K (lastPassword env initial past)) ?_ requests hstart
  intro past s request s' hpast hstep i
  obtain ⟨⟨answer, s₁⟩, hserved, rfl⟩ := map_ok hstep
  obtain ⟨hgiven, hkept⟩ := (served hserved).kept i
  rw [lastPassword_concat]
  cases hgives : givesPassword env i s request with
  | none =>
      rw [Option.none_or, hkept hgives]
      exact hpast i
  | some password =>
      refine ⟨fun password' hpassword => hgiven password' ?_, fun hnone => by cases hnone⟩
      rw [hgives]
      exact hpassword

end Runs

/-! ## Logins -/

section Login

theorem named?_iff {s : Accounts H} {username : String} {account : Account H} :
    s.named? username = some account ↔
      account ∈ s.table.rows ∧ account.username.val = username := by
  constructor
  · intro h
    have hname := List.find?_some h
    exact ⟨List.mem_of_find?_eq_some h, of_decide_eq_true hname⟩
  · rintro ⟨hmem, rfl⟩
    obtain ⟨found, hfound⟩ : ∃ found, s.named? account.username.val = some found :=
      Option.isSome_iff_exists.mp (List.find?_isSome.mpr ⟨account, hmem, decide_eq_true rfl⟩)
    have hname := List.find?_some hfound
    have hsame : found = account := List.inj_on_of_nodup_map s.usernames
      (List.mem_of_find?_eq_some hfound) hmem (of_decide_eq_true hname)
    rw [hfound, hsame]

theorem kept_of_mem {s : Accounts H} {account : Account H} (h : account ∈ s.table.rows) :
    s.kept account.key = account.passwordHash := by
  rw [Accounts.kept, Table.find?_of_mem h]
  rfl

theorem verifiedAccount_iff {K : Keeper H} {s : Accounts H} {username password : String}
    {account : Account H} :
    verifiedAccount K username password s = .ok account ↔
      (account ∈ s.table.rows ∧ account.username.val = username) ∧
        ∃ hashed, account.passwordHash = some hashed ∧ K.present hashed = true ∧
          K.verify password hashed = .ok true := by
  constructor
  · intro h
    obtain ⟨found, hfound, h⟩ := bind_ok h
    obtain ⟨hashed, hhashed, h⟩ := bind_ok h
    obtain ⟨verified, hverified, h⟩ := bind_ok h
    obtain ⟨hkept, hpresent⟩ := Option.filter_eq_some_iff.mp (orRaise_ok hhashed)
    split at h
    · rename_i htrue
      cases h
      exact ⟨named?_iff.mp (orRaise_ok hfound), hashed, hkept, hpresent, htrue ▸ hverified⟩
    · cases h
  · rintro ⟨hnamed, hashed, hkept, hpresent, hverified⟩
    rw [verifiedAccount, named?_iff.mpr hnamed]
    refine (bind_of_ok rfl).trans ?_
    rw [hkept, Option.filter_some_pos hpresent]
    refine (bind_of_ok rfl).trans ?_
    rw [hverified]
    rfl

theorem returns_login_iff {K : Keeper H} {env : AuthEnv} {s : Accounts H} {now : Timestamp}
    {username password : String} :
    Returns (s.login K env now username password) ↔ env.localLoginEnabled = true ∧
      ∃ account, verifiedAccount K username password s = .ok account ∧
        account.isActive = true := by
  rw [Accounts.login]
  split
  · rename_i hdisabled
    refine iff_of_false (not_returns_error _) ?_
    rintro ⟨henabled, -⟩
    rw [hdisabled] at henabled
    cases henabled
  · rename_i henabled
    rw [returns_bind]
    constructor
    · rintro ⟨account, hverified, hactive⟩
      refine ⟨Bool.not_eq_false _ ▸ henabled, account, hverified, ?_⟩
      split at hactive
      · exact absurd hactive (not_returns_error _)
      · rename_i h
        exact Bool.not_eq_false _ ▸ h
    · rintro ⟨-, account, hverified, hactive⟩
      refine ⟨account, hverified, ?_⟩
      rw [hactive, if_neg (by decide)]
      exact returns_ok _

/-- **Whose login succeeds.**  After any run of requests, a login succeeds exactly when local
logins are enabled, the name is that of an active account, and the password agrees with the last
one that a registration, an admin or a change of the password has given to that account, or with
the one that it had before the run. -/
theorem login_iff {bcrypt : Bcrypt} {rule : PasswordRule} (h : bcrypt.Follows rule) (env : AuthEnv)
    {initial : Uuid → Option String} {start : Accounts (Varchar 255)}
    (hstart : start.Keeps (bcryptKeeper bcrypt) initial) (requests : List AccountRequest)
    (now : Timestamp) (username password : String) :
    Returns ((run (serveAccounts (bcryptKeeper bcrypt) env) start requests).login
        (bcryptKeeper bcrypt) env now username password) ↔
      env.localLoginEnabled = true ∧
      ∃ account ∈ (run (serveAccounts (bcryptKeeper bcrypt) env) start requests).table.rows,
        account.username.val = username ∧ account.isActive = true ∧
        ∃ given, lastPassword env initial
            (trace (serveAccounts (bcryptKeeper bcrypt) env) start requests) account.key =
              some given ∧
          rule.refuses password = none ∧ rule.agree password given = true := by
  have hkeeps := keeps_lastPassword env hstart requests
  generalize run (serveAccounts (bcryptKeeper bcrypt) env) start requests = s at hkeeps ⊢
  generalize lastPassword env initial
    (trace (serveAccounts (bcryptKeeper bcrypt) env) start requests) = passwords at hkeeps ⊢
  rw [returns_login_iff]
  refine and_congr_right (fun _ => ?_)
  -- the hash of an account is that of the last password it was given
  have hcheck : ∀ {given salt hashed}, bcrypt.hashpw (utf8 given) salt = .ok hashed →
      (bcrypt.checkpw (utf8 password) hashed = .ok true ↔
        rule.refuses password = none ∧ rule.agree password given = true) := by
    intro given salt hashed hhashed
    rw [(h.of_hashpw hhashed).2]
    cases rule.refuses password with
    | some e => exact iff_of_false (by rintro ⟨⟩) (by rintro ⟨⟨⟩, -⟩)
    | none => exact ⟨fun h => ⟨rfl, Except.ok.inj h⟩, fun h => congrArg Except.ok h.2⟩
  constructor
  · rintro ⟨account, hverified, hactive⟩
    obtain ⟨⟨hmem, hname⟩, hashed, hkept, hpresent, hverify⟩ := verifiedAccount_iff.mp hverified
    refine ⟨account, hmem, hname, hactive, ?_⟩
    obtain ⟨hgiven, hnever⟩ := hkeeps account.key
    rw [kept_of_mem hmem, hkept] at hgiven hnever
    cases hlast : passwords account.key with
    | none => cases hpresent.symm.trans (hnever hlast hashed rfl)
    | some given =>
        obtain ⟨salt, hashed', hhashed, hsame⟩ := hgiven given hlast
        cases hsame
        exact ⟨given, rfl, (hcheck hhashed).mp hverify⟩
  · rintro ⟨account, hmem, hname, hactive, given, hlast, hagree⟩
    obtain ⟨salt, hashed, hhashed, hkept⟩ := (hkeeps account.key).1 given hlast
    rw [kept_of_mem hmem] at hkept
    exact ⟨account, verifiedAccount_iff.mpr ⟨⟨hmem, hname⟩, hashed, hkept,
      decide_eq_true (h.of_hashpw hhashed).1, (hcheck hhashed).mpr hagree⟩, hactive⟩

end Login

/-! ## Tokens -/

/-- What is relied on: a token that was encoded is read as what it says, until the second that it
names. -/
structure Jwt.Faithful (jwt : Jwt) : Prop where
  decode_encode : ∀ now payload, jwt.decode now (jwt.encode payload) =
    if payload.exp * 1000000 ≤ (now : Int) then .error .expiredSignatureError else .ok payload

/-- When the tokens of a time end. -/
def AuthEnv.expiry (env : AuthEnv) (issued : Timestamp) : Int :=
  ((issued : Int) + env.jwtExpireMinutes * 60000000) / 1000000 * 1000000

section Token

variable {K : Keeper H} {env : AuthEnv} {s s' : Accounts H}

/-- A request that hands out a token leaves the account that it is for. -/
theorem token_issued {request : AccountRequest} {token : String} {response : AnalystResponse}
    (h : accountRequest K env request s = .ok (.token token response, s')) :
    (s'.table.find? response.analyst.id).isSome = true ∧ ∃ username,
      token = createAccessToken env request.now response.analyst.id username := by
  obtain ⟨now, credentials, op⟩ := request
  cases op with
  | register id salt body =>
      simp only [accountRequest, Accounts.register] at h
      split at h
      · cases h
      · split at h
        · cases h
        · obtain ⟨hashed, -, h⟩ := bind_ok h
          obtain ⟨⟨account, s₁⟩, hadded, h⟩ := bind_ok h
          cases h
          obtain ⟨rfl, -, -, -, hinsert⟩ := addAccount_ok hadded
          refine ⟨?_, body.username, rfl⟩
          show (s₁.table.find? account.key).isSome = true
          rw [insert_ok hinsert, if_pos rfl]
          rfl
  | login username password =>
      simp only [accountRequest, Accounts.login] at h
      split at h
      · cases h
      · obtain ⟨account, hverified, h⟩ := bind_ok h
        split at h
        · cases h
        · cases h
          have hmem := (verifiedAccount_iff.mp hverified).1.1
          refine ⟨?_, account.username.val, rfl⟩
          show (s.table.find? account.key).isSome = true
          rw [Table.find?_of_mem hmem]
          rfl
  | getMe =>
      obtain ⟨account, -, h⟩ := bind_ok h
      cases h
  | changePassword salt currentPassword newPassword =>
      obtain ⟨account, -, h⟩ := bind_ok h
      obtain ⟨kept, -, h⟩ := bind_ok h
      obtain ⟨verified, -, h⟩ := bind_ok h
      split at h
      · cases h
      · obtain ⟨hashed, -, h⟩ := bind_ok h
        cases h
  | createAnalyst id salt body =>
      obtain ⟨-, -, h⟩ := bind_ok h
      simp only [Accounts.createAnalyst] at h
      split at h
      · cases h
      · obtain ⟨hashed, -, h⟩ := bind_ok h
        obtain ⟨role, -, h⟩ := bind_ok h
        obtain ⟨added, -, h⟩ := bind_ok h
        cases h
  | updateAnalyst analystId body =>
      obtain ⟨-, -, h⟩ := bind_ok h
      obtain ⟨account, -, h⟩ := bind_ok h
      obtain ⟨updateData, -, h⟩ := bind_ok h
      obtain ⟨-, -, h⟩ := bind_ok h
      obtain ⟨patch, -, h⟩ := bind_ok h
      cases h
  | resetAnalystPassword analystId salt newPassword =>
      obtain ⟨-, -, h⟩ := bind_ok h
      obtain ⟨account, -, h⟩ := bind_ok h
      obtain ⟨kept, -, h⟩ := bind_ok h
      obtain ⟨hashed, -, h⟩ := bind_ok h
      cases h

/-- The bearer of a token is the account that it names, as long as it has not ended. -/
theorem getCurrentAnalyst_issued (hjwt : env.jwt.Faithful) (hpy : env.py.OnAscii)
    {issued now : Timestamp} {i : Uuid} {username : String} {account : Account H}
    (hfind : s.table.find? i = some account) :
    getCurrentAnalyst env now (some (createAccessToken env issued i username)) s =
        .ok (some account) ↔
      (now : Int) < env.expiry issued ∧ account.isActive = true := by
  have hdecode : env.jwt.decode now (createAccessToken env issued i username) =
      if env.expiry issued ≤ now then .error .expiredSignatureError
      else .ok ⟨i.toText, username,
        ((issued : Int) + env.jwtExpireMinutes * 60000000) / 1000000⟩ :=
    hjwt.decode_encode now _
  by_cases hended : env.expiry issued ≤ now
  · rw [if_pos hended] at hdecode
    refine iff_of_false ?_ (fun h => absurd hended (not_le.mpr h.1))
    rw [getCurrentAnalyst, decodeToken, hdecode]
    rintro ⟨⟩
  · rw [if_neg hended] at hdecode
    have hbearer : getCurrentAnalyst env now (some (createAccessToken env issued i username)) s =
        (orRaise ((some account).filter (fun account => account.isActive))
          (.httpException 401 "Analyst not found or inactive")).map some := by
      rw [getCurrentAnalyst, decodeToken, hdecode]
      refine (bind_of_ok rfl).trans ?_
      rw [if_neg (Uuid.toText_ne_empty hpy i), Uuid.ofText?_toText hpy]
      refine (bind_of_ok rfl).trans ?_
      rw [hfind]
      generalize orRaise _ _ = found
      cases found <;> rfl
    rw [hbearer]
    cases hactive : account.isActive with
    | true =>
        have hkept : (some account).filter (fun account => account.isActive) = some account :=
          Option.filter_some_pos hactive
        rw [hkept]
        exact iff_of_true rfl ⟨not_le.mp hended, rfl⟩
    | false =>
        have hgone : (some account).filter (fun account => account.isActive) = none :=
          Option.filter_some_neg hactive
        rw [hgone]
        refine iff_of_false ?_ (fun h => absurd h.2 (by decide))
        rintro ⟨⟩

/-- **Which tokens are accepted.**  After any requests that follow, the token that a registration
or a login has handed out is accepted exactly until the second it names, as long as its account is
active: no change of a password or of a role ends it, and an account that is activated again has
its tokens back. -/
theorem token_accepted_iff (hjwt : env.jwt.Faithful) (hpy : env.py.OnAscii)
    {request : AccountRequest} {token : String} {response : AnalystResponse}
    (h : accountRequest K env request s = .ok (.token token response, s'))
    (requests : List AccountRequest) :
    ∃ account,
      (run (serveAccounts K env) s' requests).table.find? response.analyst.id = some account ∧
      ∀ now, getCurrentAnalyst env now (some token) (run (serveAccounts K env) s' requests) =
          .ok (some account) ↔
        (now : Int) < env.expiry request.now ∧ account.isActive = true := by
  obtain ⟨hsome, username, rfl⟩ := token_issued h
  have hpersists := run_inv_of_step (serveAccounts K env)
    (I := fun s => (s.table.find? response.analyst.id).isSome = true) ?_ requests s' hsome
  · obtain ⟨account, hfind⟩ := Option.isSome_iff_exists.mp hpersists
    exact ⟨account, hfind, fun now => getCurrentAnalyst_issued hjwt hpy hfind⟩
  · intro s request s'' hfound hstep
    obtain ⟨⟨answer, s₁⟩, hserved, rfl⟩ := map_ok hstep
    exact (served hserved).persists hfound

end Token

/-! ## Alice -/

theorem spelledJwt_faithful : spelledJwt.Faithful where
  decode_encode now payload := by
    have hexp : (if (if payload.exp < 0 then '-' else '+') = '-' then
        -(payload.exp.natAbs : Int) else payload.exp.natAbs) = payload.exp := by
      split_ifs with hsign h h
      · omega
      · exact absurd rfl h
      · exact absurd h (by decide)
      · omega
    simp only [spelledJwt, String.toList_ofList, unquoteChars_quoteChars, List.head?_cons,
      List.tail_cons, Nat.ofDigitChars_ten_toDigits, Option.some.injEq, hexp,
      String.ofList_toList]

/-- Root is an admin; Carol has been deactivated, and Dave has no local password. -/
def staff : Accounts (Varchar 255) where
  table :=
    { rows :=
        [⟨⟨⟨1, .lit "root", .lit "Root", true, .lit "admin"⟩, none⟩, some (.lit "$746f6f72")⟩,
          ⟨⟨⟨2, .lit "carol", .lit "Carol", false, .lit "analyst"⟩, none⟩,
            some (.lit "$6c6f726163")⟩,
          ⟨⟨⟨3, .lit "dave", .lit "Dave", true, .lit "analyst"⟩, none⟩, none⟩]
      nodup := by decide }
  usernames := by decide

def staffPassword (i : Uuid) : Option String :=
  if i = 1 then some "toor" else if i = 2 then some "lorac" else none

theorem staff_keeps : staff.Keeps (bcryptKeeper hexBcrypt) staffPassword := by
  intro i
  by_cases hroot : i = 1
  · subst hroot
    refine ⟨fun password hpassword => ?_, fun hnone => by cases hnone⟩
    cases (show some "toor" = some password from hpassword)
    exact ⟨0, .lit "$746f6f72", by decide +kernel, rfl⟩
  · by_cases hcarol : i = 2
    · subst hcarol
      refine ⟨fun password hpassword => ?_, fun hnone => by cases hnone⟩
      cases (show some "lorac" = some password from hpassword)
      exact ⟨0, .lit "$6c6f726163", by decide +kernel, rfl⟩
    · refine ⟨fun password hpassword => ?_, fun _ hashed hkept => ?_⟩
      · rw [staffPassword, if_neg hroot, if_neg hcarol] at hpassword
        cases hpassword
      · -- neither Dave nor anybody else has a hash
        have hnone : ∀ account ∈ staff.table.rows, account.key = 1 ∨ account.key = 2 ∨
            account.passwordHash = none := by decide
        obtain ⟨account, hfind, hhash⟩ := Option.bind_eq_some_iff.mp hkept
        obtain h | h | h := hnone account (Table.mem_of_find? hfind)
        · exact absurd (Table.find?_key hfind ▸ h) hroot
        · exact absurd (Table.find?_key hfind ▸ h) hcarol
        · cases h.symm.trans hhash

/-- Root adds Alice and gives Carol another password; Alice changes her own. -/
def staffRequests : List AccountRequest :=
  let root := createAccessToken openDeployment 0 1 "root"
  let alice := createAccessToken openDeployment 0 4 "alice"
  [⟨1, some root, .createAnalyst 4 0 ⟨⟨"alice", "Alice", none, "secret"⟩, "analyst"⟩⟩,
    ⟨2, some root, .resetAnalystPassword (Uuid.toText 2) 0 "welcome"⟩,
    ⟨3, some alice, .changePassword 0 "secret" "changed"⟩]

/-- The accounts after these requests. -/
def staffLater : Accounts (Varchar 255) :=
  run (serveAccounts (bcryptKeeper hexBcrypt) openDeployment) staff staffRequests

/-- Who an account is of, whether it is active, and the last password it has been given. -/
def staffEntry (account : Account (Varchar 255)) : String × Bool × Option String :=
  (account.username.val, account.isActive, lastPassword openDeployment staffPassword
    (trace (serveAccounts (bcryptKeeper hexBcrypt) openDeployment) staff staffRequests) account.key)

theorem staffLater_entries : staffLater.table.rows.map staffEntry =
    [("root", true, some "toor"), ("carol", false, some "welcome"), ("dave", true, none),
      ("alice", true, some "changed")] := by
  decide +kernel

/-- Alice logs in with the password that she has changed to, and not with the one that Root gave
her; Carol does not log in, though Root has given her a password; Root's is the one before. -/
theorem logins_of_staff :
    let login := fun username password => Returns
      (staffLater.login (bcryptKeeper hexBcrypt) openDeployment 4 username password)
    login "alice" "changed" ∧ ¬ login "alice" "secret" ∧ ¬ login "carol" "welcome" ∧
      login "root" "toor" := by
  have hiff := login_iff hexBcrypt_follows openDeployment staff_keeps staffRequests 4
  have hlater : run (serveAccounts (bcryptKeeper hexBcrypt) openDeployment) staff staffRequests =
      staffLater := rfl
  rw [hlater] at hiff
  have hknown : ∀ account ∈ staffLater.table.rows, staffEntry account ∈
      [("root", true, some "toor"), ("carol", false, some "welcome"), ("dave", true, none),
        ("alice", true, some "changed")] :=
    fun account hmem => staffLater_entries ▸ List.mem_map_of_mem hmem
  refine ⟨(hiff _ _).mpr ⟨rfl, ?_⟩, fun h => ?_, fun h => ?_, (hiff _ _).mpr ⟨rfl, ?_⟩⟩
  · have halice : ("alice", true, some "changed") ∈ staffLater.table.rows.map staffEntry := by
      rw [staffLater_entries]
      decide
    obtain ⟨account, hmem, hentry⟩ := List.mem_map.mp halice
    obtain ⟨hname, hactive, hgiven⟩ := by simpa only [staffEntry, Prod.mk.injEq] using hentry
    exact ⟨account, hmem, hname, hactive, "changed", hgiven, by decide +kernel, by decide +kernel⟩
  · obtain ⟨-, account, hmem, hname, -, given, hgiven, -, hagree⟩ := (hiff _ _).mp h
    have hentry := hknown account hmem
    simp only [staffEntry, hname, hgiven] at hentry
    obtain ⟨-, rfl⟩ : account.isActive = true ∧ given = "changed" := by simpa using hentry
    exact absurd hagree (by decide +kernel)
  · obtain ⟨-, account, hmem, hname, hactive, -⟩ := (hiff _ _).mp h
    have hentry := hknown account hmem
    simp [staffEntry, hname, hactive] at hentry
  · have hroot : ("root", true, some "toor") ∈ staffLater.table.rows.map staffEntry := by
      rw [staffLater_entries]
      decide
    obtain ⟨account, hmem, hentry⟩ := List.mem_map.mp hroot
    obtain ⟨hname, hactive, hgiven⟩ := by simpa only [staffEntry, Prod.mk.injEq] using hentry
    exact ⟨account, hmem, hname, hactive, "toor", hgiven, by decide +kernel, by decide +kernel⟩

/-- The token of a registration, after its bearer has changed the password. -/
theorem token_of_alice :
    ∃ token response s', accountRequest (bcryptKeeper hexBcrypt) openDeployment registration
        .empty = .ok (.token token response, s') ∧
      let later := run (serveAccounts (bcryptKeeper hexBcrypt) openDeployment) s'
        [⟨1, some token, .changePassword 0 "secret" "changed"⟩]
      (later.login (bcryptKeeper hexBcrypt) openDeployment 2 "alice" "secret").toBool = false ∧
      ∃ account, later.table.find? response.analyst.id = some account ∧
        ∀ now : Timestamp, getCurrentAnalyst openDeployment now (some token) later =
          .ok (some account) ↔ (now : Int) < 480 * 60000000 ∧ account.isActive = true := by
  refine ⟨_, _, _, rfl, ?_, ?_⟩
  · decide +kernel
  · exact token_accepted_iff spelledJwt_faithful ascii_onAscii
      (show accountRequest (bcryptKeeper hexBcrypt) openDeployment registration .empty = _ from rfl)
      _

end OpenSoar
