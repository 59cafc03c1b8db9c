/-
# `OpenSoar.Api.Accounts` — local accounts, their passwords and their tokens

The routes of `api/auth.py` that read or write an account, and the tokens of `auth/jwt.py`.  A
request carries its bearer token and the time at which it is served; requests are served one after
the other.

What is kept of a password is left to a `Keeper`; the program keeps what `bcrypt` makes of it
(`bcryptKeeper`).  `passwords_answered_alike` says that the answers tell nothing of a password but
what it agrees with.
-/
import OpenSoar.Lib.Simulation
import OpenSoar.Python.Hashlib
import OpenSoar.Python.UuidText
import OpenSoar.Api.Analysts

namespace OpenSoar

open Python Simulation

/-! ## What is kept of a password -/

/-- What is kept of a password under a salt, the check of a password against it, and
`bool(password_hash)`. -/
structure Keeper (H : Type) where
  hash : String → Nat → Except Raised H
  verify : String → H → Except Raised Bool
  present : H → Bool

/-- `bcrypt.hashpw`, with the salt that `gensalt` has drawn, and `bcrypt.checkpw`. -/
structure Bcrypt where
  hashpw : List UInt8 → Nat → Except Raised (Varchar 255)
  checkpw : List UInt8 → Varchar 255 → Except Raised Bool

/-- `_hash_password` and `_verify_password`. -/
def bcryptKeeper (bcrypt : Bcrypt) : Keeper (Varchar 255) where
  hash password salt := bcrypt.hashpw (utf8 password) salt
  verify password hashed := bcrypt.checkpw (utf8 password) hashed
  present hashed := decide (hashed.val ≠ "")

/-! ## The rows -/

/-- `analysts`, with `password_hash`. -/
structure Account (H : Type) extends AnalystRow where
  passwordHash : Option H

def Account.key {H : Type} (account : Account H) : Uuid := account.id

/-- The accounts; `username` is unique. -/
structure Accounts (H : Type) where
  table : Table (Account.key (H := H))
  usernames : (table.rows.map (fun account => account.username.val)).Nodup

namespace Accounts

variable {H : Type}

/-- `select(Analyst).where(Analyst.username == username)`. -/
def named? (s : Accounts H) (username : String) : Option (Account H) :=
  s.table.rows.find? (fun account => decide (account.username.val = username))

/-- The rows, without what is kept of the passwords. -/
def analysts (s : Accounts H) : AnalystTable :=
  s.table.map Account.toAnalystRow (fun _ => rfl)

/-- The `INSERT` of an account. -/
def insert (s : Accounts H) (account : Account H) : Except Raised (Accounts H) :=
  if hname : account.username.val ∈ s.table.rows.map (fun account => account.username.val) then
    .error (.refusedByDatabase "duplicate key value violates unique constraint analysts_username")
  else if hkey : (s.table.rows.map Account.key).contains account.key then
    .error (.refusedByDatabase "duplicate key value violates unique constraint pk_analysts")
  else .ok
    { table :=
        { rows := s.table.rows ++ [account]
          nodup := by
            rw [List.map_append, List.nodup_append_comm]
            exact List.nodup_cons.mpr
              ⟨fun hmem => hkey (List.contains_iff_mem.mpr hmem), s.table.nodup⟩ }
      usernames := by
        rw [List.map_append, List.nodup_append_comm]
        exact List.nodup_cons.mpr ⟨hname, s.usernames⟩ }

/-- The `UPDATE` of the account under an identifier, which leaves its identifier and its name. -/
def modify (s : Accounts H) (id : Uuid) (f : Account H → Account H)
    (hkey : ∀ account, (f account).key = account.key)
    (hname : ∀ account, (f account).username = account.username) : Accounts H where
  table := s.table.update (fun account => decide (account.key = id)) f hkey
  usernames := by
    have hsame : ∀ account : Account H,
        (if decide (account.key = id) then f account else account).username.val =
          account.username.val := by
      intro account
      split
      · rw [hname]
      · rfl
    show ((s.table.rows.map _).map _).Nodup
    rw [List.map_map, show (fun account : Account H => account.username.val) ∘ _ =
      fun account => account.username.val from funext hsame]
    exact s.usernames

def empty : Accounts H := ⟨.empty, List.nodup_nil⟩

end Accounts

/-! ## Tokens -/

/-- What a token says: `sub`, `username`, and `exp` in whole seconds. -/
structure TokenPayload where
  sub : String
  username : String
  exp : Int
deriving DecidableEq

inductive JwtRaised where
  | expiredSignatureError
  | invalidTokenError

/-- `jwt.encode` and `jwt.decode` with one secret; a token is decoded at a time. -/
structure Jwt where
  encode : TokenPayload → String
  decode : Timestamp → String → Except JwtRaised TokenPayload

/-- The deployment: the settings, and what plugins have registered. -/
structure AuthEnv where
  py : PyText
  jwt : Jwt
  jwtExpireMinutes : Int
  localLoginEnabled : Bool
  localRegistrationEnabled : Bool
  analystRoles : List String

variable {H : Type}

/-- `create_access_token`: `exp` is cut to the second. -/
def createAccessToken (env : AuthEnv) (now : Timestamp) (analystId : Uuid) (username : String) :
    String :=
  env.jwt.encode
    { sub := analystId.toText
      username := username
      exp := ((now : Int) + env.jwtExpireMinutes * 60000000) / 1000000 }

/-- `decode_token`. -/
def decodeToken (env : AuthEnv) (now : Timestamp) (token : String) :
    Except Raised TokenPayload :=
  (env.jwt.decode now token).mapError (fun e =>
    match e with
    | .expiredSignatureError => .httpException 401 "Token expired"
    | .invalidTokenError => .httpException 401 "Invalid token")

/-- `get_current_analyst`. -/
def getCurrentAnalyst (env : AuthEnv) (now : Timestamp) (credentials : Option String)
    (s : Accounts H) : Except Raised (Option (Account H)) :=
  match credentials with
  | none => .ok none
  | some token => do
      let payload ← decodeToken env now token
      if payload.sub = "" then .error (.httpException 401 "Invalid token")
      else
        let id ← orRaise (Uuid.ofText? env.py payload.sub)
          (.valueError "badly formed hexadecimal UUID string")
        let account ← orRaise ((s.table.find? id).filter (fun account => account.isActive))
          (.httpException 401 "Analyst not found or inactive")
        pure (some account)

/-- `require_analyst`. -/
def requireAccount (env : AuthEnv) (now : Timestamp) (credentials : Option String)
    (s : Accounts H) : Except Raised (Account H) := do
  let account ← getCurrentAnalyst env now credentials s
  orRaise account (.httpException 401 "Authentication required")

/-! ## Requests -/

/-- `AnalystRegister`. -/
structure AnalystRegister where
  username : String
  displayName : String
  email : Option String
  password : String

/-- `AnalystCreate`. -/
structure AnalystCreate extends AnalystRegister where
  role : String

/-- `AnalystResponse`. -/
structure AnalystResponse where
  analyst : AnalystRow
  hasLocalPassword : Bool

def Account.response (account : Account H) : AnalystResponse :=
  ⟨account.toAnalystRow, account.passwordHash.isSome⟩

inductive AccountAnswer where
  | token (accessToken : String) (analyst : AnalystResponse)
  | analyst (analyst : AnalystResponse)
  | detail (text : String)

/-- The routes; a request that adds a row carries its identifier, and one that hashes a password
the salt. -/
inductive AccountOp where
  | register (id : Uuid) (salt : Nat) (body : AnalystRegister)
  | login (username password : String)
  | getMe
  | changePassword (salt : Nat) (currentPassword newPassword : String)
  | createAnalyst (id : Uuid) (salt : Nat) (body : AnalystCreate)
  | updateAnalyst (analystId : String) (body : AnalystUpdate)
  | resetAnalystPassword (analystId : String) (salt : Nat) (newPassword : String)

structure AccountRequest where
  now : Timestamp
  credentials : Option String
  op : AccountOp

section Routes

variable (K : Keeper H) (env : AuthEnv)

/-- The row of a new account, and its `INSERT`. -/
def addAccount (id : Uuid) (body : AnalystRegister) (hashed : H) (role : String)
    (s : Accounts H) : Except Raised (Account H × Accounts H) := do
  let username ← column 100 body.username
  let displayName ← column 255 body.displayName
  let email ← body.email.mapM (column 255)
  let role ← column 50 role
  let account : Account H :=
    { id := id
      username := username
      displayName := displayName
      isActive := true
      role := role
      email := email
      passwordHash := some hashed }
  let s ← s.insert account
  pure (account, s)

/-- `register`. -/
def Accounts.register (now : Timestamp) (id : Uuid) (salt : Nat) (body : AnalystRegister)
    (s : Accounts H) : Except Raised (AccountAnswer × Accounts H) :=
  if env.localRegistrationEnabled = false then
    .error (.httpException 403 "Local registration is disabled")
  else if (s.named? body.username).isSome then
    .error (.httpException 409 "Username already taken")
  else do
    let hashed ← K.hash body.password salt
    let added ← addAccount id body hashed "analyst" s
    pure (.token (createAccessToken env now id body.username) added.1.response, added.2)

/-- The account of a login, if the password is its own. -/
def verifiedAccount (username password : String) (s : Accounts H) :
    Except Raised (Account H) := do
  let refused : Raised := .httpException 401 "Invalid credentials"
  let account ← orRaise (s.named? username) refused
  let hashed ← orRaise (account.passwordHash.filter K.present) refused
  let verified ← K.verify password hashed
  if verified = true then .ok account else .error refused

/-- `login`. -/
def Accounts.login (now : Timestamp) (username password : String) (s : Accounts H) :
    Except Raised (AccountAnswer × Accounts H) :=
  if env.localLoginEnabled = false then .error (.httpException 403 "Local login is disabled")
  else do
    let account ← verifiedAccount K username password s
    if account.isActive = false then .error (.httpException 403 "Account is deactivated")
    else
      pure (.token (createAccessToken env now account.id account.username.val) account.response,
        s)

/-- `_require_local_password`. -/
def requireLocalPassword (account : Account H) : Except Raised H :=
  orRaise (account.passwordHash.filter K.present)
    (.httpException 400 "Local password is not configured for this account")

/-- `analyst.password_hash = ...`, and the commit. -/
def Accounts.setPassword (s : Accounts H) (id : Uuid) (hashed : H) : Accounts H :=
  s.modify id (fun account => { account with passwordHash := some hashed }) (fun _ => rfl)
    (fun _ => rfl)

/-- `change_password`. -/
def Accounts.changePassword (account : Account H) (salt : Nat)
    (currentPassword newPassword : String) (s : Accounts H) :
    Except Raised (AccountAnswer × Accounts H) := do
  let hashed ← requireLocalPassword K account
  let verified ← K.verify currentPassword hashed
  if verified = false then .error (.httpException 401 "Current password is incorrect")
  else
    let hashed ← K.hash newPassword salt
    pure (.detail "Password updated", s.setPassword account.id hashed)

/-- `create_analyst`, called by an admin. -/
def Accounts.createAnalyst (id : Uuid) (salt : Nat) (body : AnalystCreate) (s : Accounts H) :
    Except Raised (AccountAnswer × Accounts H) :=
  if (s.named? body.username).isSome then .error (.httpException 409 "Username already taken")
  else do
    let hashed ← K.hash body.password salt
    let role ← validateAssignableRole env.analystRoles body.role
    let added ← addAccount id body.toAnalystRegister hashed role s
    pure (.analyst added.1.response, added.2)

/-- `select(Analyst).where(Analyst.id == uuid.UUID(analyst_id))`. -/
def Accounts.get (analystId : String) (s : Accounts H) : Except Raised (Account H) := do
  let id ← orRaise (Uuid.ofText? env.py analystId)
    (.valueError "badly formed hexadecimal UUID string")
  orRaise (s.table.find? id) (.httpException 404 "Analyst not found")

/-- The columns of an `UPDATE`. -/
def Account.patched (patch : AnalystPatch) (account : Account H) : Account H :=
  { account with toAnalystRow := patch.apply account.toAnalystRow }

/-- The `UPDATE` of a flush. -/
def Accounts.applyPatch (s : Accounts H) (id : Uuid) (patch : AnalystPatch) : Accounts H :=
  s.modify id (Account.patched patch) (fun _ => rfl) (fun _ => rfl)

/-- `update_analyst`, called by an admin. -/
def Accounts.updateAnalyst (analystId : String) (body : AnalystUpdate) (s : Accounts H) :
    Except Raised (AccountAnswer × Accounts H) := do
  let account ← s.get env analystId
  let updateData ← body.validated env.analystRoles
  assertNotLastActiveAdmin s.analysts account.toAnalystRow updateData
  let patch ← updateData.flush account.toAnalystRow
  pure (.analyst (account.patched patch).response, s.applyPatch account.id patch)

/-- `reset_analyst_password`, called by an admin. -/
def Accounts.resetAnalystPassword (analystId : String) (salt : Nat) (newPassword : String)
    (s : Accounts H) : Except Raised (AccountAnswer × Accounts H) := do
  let account ← s.get env analystId
  let _ ← requireLocalPassword K account
  let hashed ← K.hash newPassword salt
  pure (.detail "Password reset", s.setPassword account.id hashed)

/-- One request. -/
def accountRequest (request : AccountRequest) (s : Accounts H) :
    Except Raised (AccountAnswer × Accounts H) :=
  let caller := requireAccount env request.now request.credentials s
  let admin : Except Raised Analyst := do
    let account ← caller
    requireAdmin (some account.toAnalyst)
  match request.op with
  | .register id salt body => s.register K env request.now id salt body
  | .login username password => s.login K env request.now username password
  | .getMe => do
      let account ← caller
      pure (.analyst account.response, s)
  | .changePassword salt currentPassword newPassword => do
      let account ← caller
      s.changePassword K account salt currentPassword newPassword
  | .createAnalyst id salt body => do
      let _ ← admin
      s.createAnalyst K env id salt body
  | .updateAnalyst analystId body => do
      let _ ← admin
      s.updateAnalyst env analystId body
  | .resetAnalystPassword analystId salt newPassword => do
      let _ ← admin
      s.resetAnalystPassword K env analystId salt newPassword

/-- A request, with its answer; one that raises changes nothing. -/
def accountStep (s : Accounts H) (request : AccountRequest) :
    Except Raised AccountAnswer × Accounts H :=
  match accountRequest K env request s with
  | .ok (answer, s') => (.ok answer, s')
  | .error e => (.error e, s)

end Routes

/-! ## Requests that differ in their passwords -/

/-- One request, up to its passwords and its salt. -/
inductive AccountOp.Alike (alike : String → String → Prop) : AccountOp → AccountOp → Prop
  | register {body : AnalystRegister} {password : String} (id : Uuid) (salt salt' : Nat) :
      alike body.password password →
      Alike alike (.register id salt body)
        (.register id salt' { body with password := password })
  | login {password password' : String} (username : String) :
      alike password password' → Alike alike (.login username password) (.login username password')
  | getMe : Alike alike .getMe .getMe
  | changePassword {current current' new new' : String} (salt salt' : Nat) :
      alike current current' → alike new new' →
      Alike alike (.changePassword salt current new) (.changePassword salt' current' new')
  | createAnalyst {body : AnalystCreate} {password : String} (id : Uuid) (salt salt' : Nat) :
      alike body.password password →
      Alike alike (.createAnalyst id salt body)
        (.createAnalyst id salt' { body with password := password })
  | updateAnalyst (analystId : String) (body : AnalystUpdate) :
      Alike alike (.updateAnalyst analystId body) (.updateAnalyst analystId body)
  | resetAnalystPassword {new new' : String} (analystId : String) (salt salt' : Nat) :
      alike new new' →
      Alike alike (.resetAnalystPassword analystId salt new)
        (.resetAnalystPassword analystId salt' new')

structure AccountRequest.Alike (alike : String → String → Prop)
    (request request' : AccountRequest) : Prop where
  now : request.now = request'.now
  credentials : request.credentials = request'.credentials
  op : AccountOp.Alike alike request.op request'.op

/-- One account, up to what is kept of its password. -/
structure Account.Alike (R : H → H → Prop) (account account' : Account H) : Prop where
  row : account.toAnalystRow = account'.toAnalystRow
  kept : Option.Rel R account.passwordHash account'.passwordHash

def Accounts.Alike (R : H → H → Prop) (s s' : Accounts H) : Prop :=
  List.Forall₂ (Account.Alike R) s.table.rows s'.table.rows

/-- A keeper that does the same for passwords that are alike. -/
structure Keeper.Respects (K : Keeper H) (alike : String → String → Prop) (R : H → H → Prop) :
    Prop where
  hash : ∀ {password password'}, alike password password' → ∀ salt salt',
    Related R (K.hash password salt) (K.hash password' salt')
  verify : ∀ {password password' hashed hashed'}, alike password password' → R hashed hashed' →
    K.verify password hashed = K.verify password' hashed'
  present : ∀ {hashed hashed'}, R hashed hashed' → K.present hashed = K.present hashed'

section Rows

variable {α β : Type}

theorem find?_rel {R : α → β → Prop} {p : α → Bool} {q : β → Bool}
    (hpq : ∀ {a b}, R a b → p a = q b) {l : List α} {l' : List β} (h : List.Forall₂ R l l') :
    Option.Rel R (l.find? p) (l'.find? q) := by
  induction h with
  | nil => exact .none
  | @cons a b l l' hab _ ih =>
      rw [List.find?_cons, List.find?_cons, ← hpq hab]
      cases p a with
      | true => exact .some hab
      | false => exact ih

theorem filter_rel {R : α → β → Prop} {p : α → Bool} {q : β → Bool}
    (hpq : ∀ {a b}, R a b → p a = q b) {found : Option α} {found' : Option β}
    (h : Option.Rel R found found') : Option.Rel R (found.filter p) (found'.filter q) := by
  cases h with
  | none => exact .none
  | @some a b hab =>
      rw [Option.filter_some, Option.filter_some, ← hpq hab]
      cases p a with
      | true => exact .some hab
      | false => exact .none

theorem isSome_rel {R : α → β → Prop} {found : Option α} {found' : Option β}
    (h : Option.Rel R found found') : found.isSome = found'.isSome := by
  cases h <;> rfl

theorem orRaise_rel {R : α → β → Prop} {found : Option α} {found' : Option β}
    (h : Option.Rel R found found') (missing : Raised) :
    Related R (orRaise found missing) (orRaise found' missing) := by
  cases h with
  | none => exact .error missing
  | some hab => exact .ok hab

theorem map_eq_of_forall₂ {γ : Type} {R : α → β → Prop} {f : α → γ} {g : β → γ}
    (hfg : ∀ {a b}, R a b → f a = g b) {l : List α} {l' : List β} (h : List.Forall₂ R l l') :
    l.map f = l'.map g := by
  induction h with
  | nil => rfl
  | cons hab _ ih => rw [List.map_cons, List.map_cons, hfg hab, ih]

end Rows

section Alike

variable {K : Keeper H} {env : AuthEnv} {alike : String → String → Prop} {R : H → H → Prop}
  {s s' : Accounts H} {account account' : Account H}

theorem Account.Alike.response (h : Account.Alike R account account') :
    account.response = account'.response := by
  rw [Account.response, Account.response, h.row, isSome_rel h.kept]

theorem Account.Alike.key (h : Account.Alike R account account') : account.key = account'.key :=
  congrArg (fun row : AnalystRow => row.id) h.row

theorem Account.Alike.username (h : Account.Alike R account account') :
    account.username = account'.username :=
  congrArg (fun row : AnalystRow => row.username) h.row

theorem Account.Alike.isActive (h : Account.Alike R account account') :
    account.isActive = account'.isActive :=
  congrArg (fun row : AnalystRow => row.isActive) h.row

theorem Account.Alike.patched (patch : AnalystPatch) (h : Account.Alike R account account') :
    Account.Alike R (account.patched patch) (account'.patched patch) :=
  ⟨congrArg patch.apply h.row, h.kept⟩

theorem Account.Alike.rehashed {hashed hashed' : H} (hhashed : R hashed hashed')
    (h : Account.Alike R account account') :
    Account.Alike R { account with passwordHash := some hashed }
      { account' with passwordHash := some hashed' } :=
  ⟨h.row, .some hhashed⟩

theorem Accounts.Alike.named? (h : Accounts.Alike R s s') (username : String) :
    Option.Rel (Account.Alike R) (s.named? username) (s'.named? username) :=
  find?_rel (fun hrow => by rw [hrow.username]) h

theorem Accounts.Alike.find? (h : Accounts.Alike R s s') (id : Uuid) :
    Option.Rel (Account.Alike R) (s.table.find? id) (s'.table.find? id) :=
  find?_rel (fun hrow => by rw [hrow.key]) h

theorem Accounts.Alike.analysts (h : Accounts.Alike R s s') : s.analysts = s'.analysts :=
  Table.ext (map_eq_of_forall₂ (fun hrow => hrow.row) h)

theorem Accounts.Alike.insert (h : Accounts.Alike R s s')
    (haccount : Account.Alike R account account') :
    Related (Accounts.Alike R) (s.insert account) (s'.insert account') := by
  have hnames : s.table.rows.map (fun account => account.username.val) =
      s'.table.rows.map (fun account => account.username.val) :=
    map_eq_of_forall₂ (fun hrow => by rw [hrow.username]) h
  have hkeys : s.table.rows.map Account.key = s'.table.rows.map Account.key :=
    map_eq_of_forall₂ (fun hrow => hrow.key) h
  rw [Accounts.insert, Accounts.insert]
  by_cases hname : account.username.val ∈ s.table.rows.map (fun account => account.username.val)
  · have hname' : account'.username.val ∈
        s'.table.rows.map (fun account => account.username.val) := by
      rwa [← haccount.username, ← hnames]
    rw [dif_pos hname, dif_pos hname']
    exact .error _
  · have hname' : account'.username.val ∉
        s'.table.rows.map (fun account => account.username.val) := by
      rwa [← haccount.username, ← hnames]
    rw [dif_neg hname, dif_neg hname']
    by_cases hkey : (s.table.rows.map Account.key).contains account.key
    · have hkey' : (s'.table.rows.map Account.key).contains account'.key := by
        rwa [← haccount.key, ← hkeys]
      rw [dif_pos hkey, dif_pos hkey']
      exact .error _
    · have hkey' : ¬ (s'.table.rows.map Account.key).contains account'.key := by
        rwa [← haccount.key, ← hkeys]
      rw [dif_neg hkey, dif_neg hkey']
      exact .ok (List.rel_append h (.cons haccount .nil))

theorem Accounts.Alike.modify (h : Accounts.Alike R s s') {id : Uuid}
    {f g : Account H → Account H} {hkey hname hkey' hname'}
    (hfg : ∀ {account account'}, Account.Alike R account account' →
      Account.Alike R (f account) (g account')) :
    Accounts.Alike R (s.modify id f hkey hname) (s'.modify id g hkey' hname') := by
  refine List.rel_map (fun account account' haccount => ?_) h
  show Account.Alike R (if decide (account.key = id) then _ else _)
    (if decide (account'.key = id) then _ else _)
  rw [haccount.key]
  split
  · exact hfg haccount
  · exact haccount

theorem Accounts.Alike.setPassword (h : Accounts.Alike R s s') (id : Uuid) {hashed hashed' : H}
    (hhashed : R hashed hashed') :
    Accounts.Alike R (s.setPassword id hashed) (s'.setPassword id hashed') :=
  h.modify (fun haccount => haccount.rehashed hhashed)

theorem Accounts.Alike.applyPatch (h : Accounts.Alike R s s') (id : Uuid) (patch : AnalystPatch) :
    Accounts.Alike R (s.applyPatch id patch) (s'.applyPatch id patch) :=
  h.modify (fun haccount => haccount.patched patch)

/-! ## The routes -/

theorem getCurrentAnalyst_alike (h : Accounts.Alike R s s') (now : Timestamp)
    (credentials : Option String) :
    Related (Option.Rel (Account.Alike R)) (getCurrentAnalyst env now credentials s)
      (getCurrentAnalyst env now credentials s') := by
  cases credentials with
  | none => exact .ok .none
  | some token =>
      refine .bind_same (fun payload => ?_)
      by_cases hsub : payload.sub = ""
      · rw [if_pos hsub, if_pos hsub]
        exact .error _
      · rw [if_neg hsub, if_neg hsub]
        refine .bind_same (fun id => ?_)
        have hactive := filter_rel (p := fun account => account.isActive)
          (q := fun account => account.isActive) (fun hrow => hrow.isActive) (h.find? id)
        exact .bind (orRaise_rel hactive _) (fun _ _ haccount => .ok (.some haccount))

theorem requireAccount_alike (h : Accounts.Alike R s s') (now : Timestamp)
    (credentials : Option String) :
    Related (Account.Alike R) (requireAccount env now credentials s)
      (requireAccount env now credentials s') :=
  .bind (getCurrentAnalyst_alike h now credentials) (fun _ _ hfound => orRaise_rel hfound _)

theorem addAccount_alike (h : Accounts.Alike R s s') (id : Uuid) (body : AnalystRegister)
    (password : String) {hashed hashed' : H} (hhashed : R hashed hashed') (role : String) :
    Related (fun added added' => Account.Alike R added.1 added'.1 ∧
        Accounts.Alike R added.2 added'.2)
      (addAccount id body hashed role s)
      (addAccount id { body with password := password } hashed' role s') := by
  refine .bind_same (fun username => .bind_same (fun displayName => .bind_same (fun email =>
    .bind_same (fun role => ?_))))
  have haccount := Account.Alike.rehashed hhashed
    (⟨rfl, .none⟩ : Account.Alike R
      { id := id
        username := username
        displayName := displayName
        isActive := true
        role := role
        email := email
        passwordHash := none } _)
  exact .bind (h.insert haccount) (fun _ _ hs => .ok ⟨haccount, hs⟩)

theorem get_alike (h : Accounts.Alike R s s') (analystId : String) :
    Related (Account.Alike R) (s.get env analystId) (s'.get env analystId) :=
  .bind_same (fun id => orRaise_rel (h.find? id) _)

/-- One answer, and accounts that are alike. -/
def AnswersAlike (R : H → H → Prop) (served served' : AccountAnswer × Accounts H) : Prop :=
  served.1 = served'.1 ∧ Accounts.Alike R served.2 served'.2

theorem updateAnalyst_alike (h : Accounts.Alike R s s') (analystId : String)
    (body : AnalystUpdate) :
    Related (AnswersAlike R) (s.updateAnalyst env analystId body)
      (s'.updateAnalyst env analystId body) := by
  refine .bind (get_alike h analystId) (fun account account' haccount =>
    .bind_same (fun updateData => ?_))
  rw [h.analysts, haccount.row]
  refine .bind_same (fun _ => .bind_same (fun patch => .ok ⟨?_, ?_⟩))
  · exact congrArg AccountAnswer.analyst (haccount.patched patch).response
  · have happlied := h.applyPatch account.id patch
    rwa [show account'.id = account.id from haccount.key.symm]

section Requests

variable (hK : K.Respects alike R)
include hK

theorem requireLocalPassword_alike (haccount : Account.Alike R account account') :
    Related R (requireLocalPassword K account) (requireLocalPassword K account') :=
  orRaise_rel (filter_rel (fun hhashed => hK.present hhashed) haccount.kept) _

theorem verifiedAccount_alike (h : Accounts.Alike R s s') (username : String)
    {password password' : String} (hpassword : alike password password') :
    Related (Account.Alike R) (verifiedAccount K username password s)
      (verifiedAccount K username password' s') := by
  refine .bind (orRaise_rel (h.named? username) _) (fun account account' haccount => ?_)
  refine .bind (orRaise_rel (filter_rel (fun hhashed => hK.present hhashed) haccount.kept) _)
    (fun hashed hashed' hhashed => ?_)
  rw [hK.verify hpassword hhashed]
  refine .bind_same (fun verified => ?_)
  split
  · exact .ok haccount
  · exact .error _

theorem register_alike (h : Accounts.Alike R s s') (now : Timestamp) (id : Uuid)
    (salt salt' : Nat) {body : AnalystRegister} {password : String}
    (hpassword : alike body.password password) :
    Related (AnswersAlike R) (s.register K env now id salt body)
      (s'.register K env now id salt' { body with password := password }) := by
  rw [Accounts.register, Accounts.register, isSome_rel (h.named? body.username)]
  split
  · exact .error _
  · split
    · exact .error _
    · refine .bind (hK.hash hpassword salt salt') (fun hashed hashed' hhashed => ?_)
      refine .bind (addAccount_alike h id body password hhashed "analyst") ?_
      rintro added added' ⟨haccount, hs⟩
      exact .ok ⟨by rw [haccount.response], hs⟩

theorem login_alike (h : Accounts.Alike R s s') (now : Timestamp) (username : String)
    {password password' : String} (hpassword : alike password password') :
    Related (AnswersAlike R) (s.login K env now username password)
      (s'.login K env now username password') := by
  rw [Accounts.login, Accounts.login]
  split
  · exact .error _
  · refine .bind (verifiedAccount_alike hK h username hpassword)
      (fun account account' haccount => ?_)
    rw [haccount.isActive, haccount.response, haccount.username,
      show account.id = account'.id from haccount.key]
    split
    · exact .error _
    · exact .ok ⟨rfl, h⟩

theorem changePassword_alike (h : Accounts.Alike R s s')
    (haccount : Account.Alike R account account') (salt salt' : Nat)
    {current current' new new' : String} (hcurrent : alike current current')
    (hnew : alike new new') :
    Related (AnswersAlike R) (s.changePassword K account salt current new)
      (s'.changePassword K account' salt' current' new') := by
  refine .bind (requireLocalPassword_alike hK haccount) (fun kept kept' hkept => ?_)
  rw [hK.verify hcurrent hkept]
  refine .bind_same (fun verified => ?_)
  split
  · exact .error _
  · refine .bind (hK.hash hnew salt salt') (fun hashed hashed' hhashed => ?_)
    rw [show account.id = account'.id from haccount.key]
    exact .ok ⟨rfl, h.setPassword account'.id hhashed⟩

theorem createAnalyst_alike (h : Accounts.Alike R s s') (id : Uuid) (salt salt' : Nat)
    {body : AnalystCreate} {password : String} (hpassword : alike body.password password) :
    Related (AnswersAlike R) (s.createAnalyst K env id salt body)
      (s'.createAnalyst K env id salt' { body with password := password }) := by
  rw [Accounts.createAnalyst, Accounts.createAnalyst, isSome_rel (h.named? body.username)]
  split
  · exact .error _
  · refine .bind (hK.hash hpassword salt salt') (fun hashed hashed' hhashed =>
      .bind_same (fun role => ?_))
    refine .bind (addAccount_alike h id body.toAnalystRegister password hhashed role) ?_
    rintro added added' ⟨haccount, hs⟩
    exact .ok ⟨by rw [haccount.response], hs⟩

theorem resetAnalystPassword_alike (h : Accounts.Alike R s s') (analystId : String)
    (salt salt' : Nat) {new new' : String} (hnew : alike new new') :
    Related (AnswersAlike R) (s.resetAnalystPassword K env analystId salt new)
      (s'.resetAnalystPassword K env analystId salt' new') := by
  refine .bind (get_alike h analystId) (fun account account' haccount => ?_)
  refine .bind (requireLocalPassword_alike hK haccount) (fun _ _ _ => ?_)
  refine .bind (hK.hash hnew salt salt') (fun hashed hashed' hhashed => ?_)
  rw [show account.id = account'.id from haccount.key]
  exact .ok ⟨rfl, h.setPassword account'.id hhashed⟩

theorem accountRequest_alike (h : Accounts.Alike R s s') {request request' : AccountRequest}
    (hrequest : AccountRequest.Alike alike request request') :
    Related (AnswersAlike R) (accountRequest K env request s)
      (accountRequest K env request' s') := by
  obtain ⟨now, credentials, op⟩ := request
  obtain ⟨now', credentials', op'⟩ := request'
  obtain ⟨rfl, rfl, hop⟩ := hrequest
  have hcaller : Related (Account.Alike R) (requireAccount env now credentials s)
      (requireAccount env now credentials s') := requireAccount_alike h now credentials
  have hadmin : Related (fun _ _ => True)
      (do
        let account ← requireAccount env now credentials s
        requireAdmin (some account.toAnalyst))
      (do
        let account ← requireAccount env now credentials s'
        requireAdmin (some account.toAnalyst)) := by
    refine .bind hcaller (fun account account' haccount => ?_)
    rw [show account.toAnalyst = account'.toAnalyst from congrArg AnalystRow.toAnalyst haccount.row]
    cases requireAdmin (some account'.toAnalyst) with
    | error e => exact .error e
    | ok analyst => exact .ok trivial
  cases hop with
  | register id salt salt' hpassword => exact register_alike hK h now id salt salt' hpassword
  | login username hpassword => exact login_alike hK h now username hpassword
  | getMe =>
      refine .bind hcaller (fun account account' haccount => .ok ⟨?_, h⟩)
      exact congrArg AccountAnswer.analyst haccount.response
  | changePassword salt salt' hcurrent hnew =>
      exact .bind hcaller (fun account account' haccount =>
        changePassword_alike hK h haccount salt salt' hcurrent hnew)
  | createAnalyst id salt salt' hpassword =>
      exact .bind hadmin (fun _ _ _ => createAnalyst_alike hK h id salt salt' hpassword)
  | updateAnalyst analystId body =>
      exact .bind hadmin (fun _ _ _ => updateAnalyst_alike h analystId body)
  | resetAnalystPassword analystId salt salt' hnew =>
      exact .bind hadmin (fun _ _ _ => resetAnalystPassword_alike hK h analystId salt salt' hnew)

theorem accountStep_alike (h : Accounts.Alike R s s') {request request' : AccountRequest}
    (hrequest : AccountRequest.Alike alike request request') :
    (accountStep K env s request).1 = (accountStep K env s' request').1 ∧
      Accounts.Alike R (accountStep K env s request).2 (accountStep K env s' request').2 := by
  have hanswers : Related (AnswersAlike R) (accountRequest K env request s)
      (accountRequest K env request' s') := accountRequest_alike hK h hrequest
  rw [accountStep, accountStep]
  generalize accountRequest K env request s = answered at hanswers ⊢
  generalize accountRequest K env request' s' = answered' at hanswers ⊢
  cases hanswers with
  | error e => exact ⟨rfl, h⟩
  | ok hanswers => exact ⟨congrArg Except.ok hanswers.1, hanswers.2⟩

end Requests

end Alike

/-! ## Hashes -/

/-- Which passwords are refused, and which agree with one that was set. -/
structure PasswordRule where
  refuses : String → Option Raised
  agree : String → String → Bool

/-- What is relied on: both functions raise for the same passwords (those of more than 72 bytes),
a hash is not empty, and a check against it depends on the password that was hashed, and not on
the salt. -/
structure Bcrypt.Follows (bcrypt : Bcrypt) (rule : PasswordRule) : Prop where
  refused : ∀ {password e}, rule.refuses password = some e →
    ∀ salt, bcrypt.hashpw (utf8 password) salt = .error e
  hashed : ∀ {password}, rule.refuses password = none → ∀ salt,
    ∃ hashed, bcrypt.hashpw (utf8 password) salt = .ok hashed ∧ hashed.val ≠ "" ∧
      ∀ given, bcrypt.checkpw (utf8 given) hashed =
        match rule.refuses given with
        | some e => .error e
        | none => .ok (rule.agree given password)

/-- A hash, from the password that it was made of. -/
theorem Bcrypt.Follows.of_hashpw {bcrypt : Bcrypt} {rule : PasswordRule} (h : bcrypt.Follows rule)
    {password : String} {salt : Nat} {hashed : Varchar 255}
    (hhashed : bcrypt.hashpw (utf8 password) salt = .ok hashed) :
    hashed.val ≠ "" ∧ ∀ given, bcrypt.checkpw (utf8 given) hashed =
      match rule.refuses given with
      | some e => .error e
      | none => .ok (rule.agree given password) := by
  cases hrefuses : rule.refuses password with
  | some e => cases (h.refused hrefuses salt).symm.trans hhashed
  | none =>
      obtain ⟨hashed', hhashed', hne, hcheck⟩ := h.hashed hrefuses salt
      cases hhashed.symm.trans hhashed'
      exact ⟨hne, hcheck⟩

/-- The passwords of two runs: those of the one are refused, and agree with each other, as those
of the other do. -/
structure PasswordRule.Respects (rule : PasswordRule) (alike : String → String → Prop) : Prop where
  refuses : ∀ {password password'}, alike password password' →
    rule.refuses password = rule.refuses password'
  agree : ∀ {given given' password password'}, alike given given' → alike password password' →
    rule.agree given password = rule.agree given' password'

/-- Hashes of passwords that are alike, under any salts. -/
def Bcrypt.HashesAlike (bcrypt : Bcrypt) (alike : String → String → Prop)
    (hashed hashed' : Varchar 255) : Prop :=
  ∃ password password' salt salt', alike password password' ∧
    bcrypt.hashpw (utf8 password) salt = .ok hashed ∧
    bcrypt.hashpw (utf8 password') salt' = .ok hashed'

theorem Bcrypt.Follows.respects {bcrypt : Bcrypt} {rule : PasswordRule} (h : bcrypt.Follows rule)
    {alike : String → String → Prop} (halike : rule.Respects alike) :
    (bcryptKeeper bcrypt).Respects alike (bcrypt.HashesAlike alike) where
  hash {password password'} hpassword salt salt' := by
    show Related _ (bcrypt.hashpw (utf8 password) salt) (bcrypt.hashpw (utf8 password') salt')
    have hrefuses := halike.refuses hpassword
    cases hpassword' : rule.refuses password' with
    | some e =>
        rw [h.refused (hrefuses.trans hpassword') salt, h.refused hpassword' salt']
        exact .error e
    | none =>
        obtain ⟨hashed, hhashed, -⟩ := h.hashed (hrefuses.trans hpassword') salt
        obtain ⟨hashed', hhashed', -⟩ := h.hashed hpassword' salt'
        rw [hhashed, hhashed']
        exact .ok ⟨password, password', salt, salt', hpassword, hhashed, hhashed'⟩
  verify {given given' hashed hashed'} hgiven := by
    rintro ⟨password, password', salt, salt', hpassword, hhashed, hhashed'⟩
    show bcrypt.checkpw (utf8 given) hashed = bcrypt.checkpw (utf8 given') hashed'
    rw [(h.of_hashpw hhashed).2, (h.of_hashpw hhashed').2, halike.refuses hgiven,
      halike.agree hgiven hpassword]
  present {hashed hashed'} := by
    rintro ⟨password, password', salt, salt', -, hhashed, hhashed'⟩
    exact (decide_eq_true (h.of_hashpw hhashed).1).trans
      (decide_eq_true (h.of_hashpw hhashed').1).symm

/-- **A password counts only by what it agrees with.**  Two runs of requests that differ in
nothing but their passwords and salts are answered alike, request by request and token by token,
when the passwords of the one run are refused and agree with each other as those of the other do. -/
theorem passwords_answered_alike {bcrypt : Bcrypt} {rule : PasswordRule} (h : bcrypt.Follows rule)
    {alike : String → String → Prop} (halike : rule.Respects alike) (env : AuthEnv)
    {s s' : Accounts (Varchar 255)} (hs : Accounts.Alike (bcrypt.HashesAlike alike) s s')
    {requests requests' : List AccountRequest}
    (hrequests : List.Forall₂ (AccountRequest.Alike alike) requests requests') :
    outputs (accountStep (bcryptKeeper bcrypt) env) s requests =
      outputs (accountStep (bcryptKeeper bcrypt) env) s' requests' := by
  refine outputs_alike (C := fun _ _ => True) ?_ hrequests s s' hs
    (Meets.of_forall (fun _ _ => trivial) requests s)
  intro s s' request request' hs _ hrequest
  exact accountStep_alike (h.respects halike) hs hrequest

/-! ## Passwords in hexadecimal -/

/-- Hashes that spell the bytes of the password out. -/
def hexBcrypt : Bcrypt where
  hashpw bytes _ :=
    if 72 < bytes.length then .error (.valueError "password cannot be longer than 72 bytes")
    else column 255 ("$" ++ String.ofList (bytes.flatMap (fun byte => hexDigits 2 byte.toNat)))
  checkpw bytes hashed :=
    if 72 < bytes.length then .error (.valueError "password cannot be longer than 72 bytes")
    else (column 255 ("$" ++
      String.ofList (bytes.flatMap (fun byte => hexDigits 2 byte.toNat)))).map (fun given =>
        decide (given = hashed))

def hexRule : PasswordRule where
  refuses password :=
    match hexBcrypt.hashpw (utf8 password) 0 with
    | .error e => some e
    | .ok _ => none
  agree given password :=
    decide ((hexBcrypt.hashpw (utf8 given) 0).toOption =
      (hexBcrypt.hashpw (utf8 password) 0).toOption)

theorem hexBcrypt_checkpw (bytes : List UInt8) (hashed : Varchar 255) :
    hexBcrypt.checkpw bytes hashed =
      (hexBcrypt.hashpw bytes 0).map (fun given => decide (given = hashed)) := by
  simp only [hexBcrypt]
  split <;> rfl

theorem hexBcrypt_follows : hexBcrypt.Follows hexRule where
  refused {password e} hrefused salt := by
    have hhash : hexBcrypt.hashpw (utf8 password) salt = hexBcrypt.hashpw (utf8 password) 0 := rfl
    rw [hhash]
    simp only [hexRule] at hrefused
    split at hrefused
    · rename_i e' he'
      rw [he', Option.some.inj hrefused]
    · cases hrefused
  hashed {password} haccepted salt := by
    have hhash : hexBcrypt.hashpw (utf8 password) salt = hexBcrypt.hashpw (utf8 password) 0 := rfl
    rw [hhash]
    simp only [hexRule] at haccepted
    split at haccepted
    · cases haccepted
    · rename_i hashed hhashed
      refine ⟨hashed, hhashed, ?_, fun given => ?_⟩
      · have hval := hhashed
        simp only [hexBcrypt] at hval
        split at hval
        · cases hval
        · rw [column_val hval]
          intro hempty
          have hlength := congrArg String.length hempty
          rw [String.length_append] at hlength
          exact absurd hlength (by simp)
      · rw [hexBcrypt_checkpw]
        simp only [hexRule, hhashed]
        cases hexBcrypt.hashpw (utf8 given) 0 with
        | error e => rfl
        | ok text =>
            refine congrArg Except.ok (decide_eq_decide.mpr ?_)
            exact ⟨fun h => congrArg some h, fun h => Option.some.inj h⟩

/-- A token that is spelled out. -/
def quoteChars : List Char → List Char
  | [] => ['.']
  | c :: cs => '-' :: c :: quoteChars cs

def unquoteChars : List Char → List Char × List Char
  | '-' :: c :: cs => (c :: (unquoteChars cs).1, (unquoteChars cs).2)
  | _ :: cs => ([], cs)
  | [] => ([], [])

theorem unquoteChars_quoteChars (cs rest : List Char) :
    unquoteChars (quoteChars cs ++ rest) = (cs, rest) := by
  induction cs with
  | nil => rfl
  | cons c cs ih =>
      show (c :: (unquoteChars (quoteChars cs ++ rest)).1,
        (unquoteChars (quoteChars cs ++ rest)).2) = _
      rw [ih]

/-- Tokens without a signature. -/
def spelledJwt : Jwt where
  encode payload := String.ofList (quoteChars payload.sub.toList ++
    (quoteChars payload.username.toList ++
      ((if payload.exp < 0 then '-' else '+') :: Nat.toDigits 10 payload.exp.natAbs)))
  decode now token :=
    let sub := unquoteChars token.toList
    let username := unquoteChars sub.2
    let size : Int := Nat.ofDigitChars 10 username.2.tail 0
    let exp := if username.2.head? = some '-' then -size else size
    if exp * 1000000 ≤ (now : Int) then .error .expiredSignatureError
    else .ok ⟨String.ofList sub.1, String.ofList username.1, exp⟩

/-- A deployment where everyone may register. -/
def openDeployment : AuthEnv where
  py := .ascii
  jwt := spelledJwt
  jwtExpireMinutes := 480
  localLoginEnabled := true
  localRegistrationEnabled := true
  analystRoles := coreAnalystRoles

/-- Alice registers. -/
def registration : AccountRequest :=
  ⟨0, none, .register 1 0 ⟨"alice", "Alice", none, "secret"⟩⟩

/-- The passwords of one client, and those of another. -/
def otherPassword (password password' : String) : Prop :=
  (password, password') ∈ [("secret", "hidden"), ("guess", "hint")]

theorem hexRule_respects : hexRule.Respects otherPassword where
  refuses {password password'} h := by
    simp only [otherPassword, List.mem_cons, Prod.mk.injEq, List.not_mem_nil, or_false] at h
    obtain ⟨rfl, rfl⟩ | ⟨rfl, rfl⟩ := h <;> decide +kernel
  agree {given given' password password'} h h' := by
    simp only [otherPassword, List.mem_cons, Prod.mk.injEq, List.not_mem_nil, or_false] at h h'
    obtain ⟨rfl, rfl⟩ | ⟨rfl, rfl⟩ := h <;> obtain ⟨rfl, rfl⟩ | ⟨rfl, rfl⟩ := h' <;>
      decide +kernel

/-- Alice registers, and logs in with a wrong and with the right password; so does she with other
passwords under another salt. -/
theorem passwords_of_alice_answered_alike :
    let requests := [registration, ⟨1, none, .login "alice" "guess"⟩,
      ⟨2, none, .login "alice" "secret"⟩]
    let requests' := [⟨0, none, .register 1 7 ⟨"alice", "Alice", none, "hidden"⟩⟩,
      ⟨1, none, .login "alice" "hint"⟩, ⟨2, none, .login "alice" "hidden"⟩]
    let step := accountStep (bcryptKeeper hexBcrypt) openDeployment
    outputs step .empty requests = outputs step .empty requests' ∧
      (outputs step .empty requests).map Except.toBool = [true, false, true] := by
  have hsecret : otherPassword "secret" "hidden" := .head _
  have hguess : otherPassword "guess" "hint" := .tail _ (.head _)
  have hempty : Accounts.Alike (hexBcrypt.HashesAlike otherPassword) .empty .empty := .nil
  refine ⟨passwords_answered_alike hexBcrypt_follows hexRule_respects openDeployment hempty ?_,
    by decide +kernel⟩
  exact .cons ⟨rfl, rfl, .register 1 0 7 hsecret⟩
    (.cons ⟨rfl, rfl, .login "alice" hguess⟩
      (.cons ⟨rfl, rfl, .login "alice" hsecret⟩ .nil))

end OpenSoar
