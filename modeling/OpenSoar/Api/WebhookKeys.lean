/-
# `OpenSoar.Api.WebhookKeys` — which webhook requests are let in

`_validate_webhook_key` in front of the webhook endpoints, and the creation and the revocation of
the keys it looks up.  A request without a key is let in while no key is active (open mode),
one with a key when the key is an active one that has not expired, and its signature, if it sends
one, is the HMAC of the body under the key.

What the decision should be is `Authorised`: open mode is for a table without keys, and every
other request gets a 401.  `webhook_decision_iff` says for which tables and requests the code
decides so, and `reopens_iff` which revocations let a rejected request in.
-/
import OpenSoar.Models
import OpenSoar.Python.Hmac

namespace OpenSoar

open Python

/-- `api_keys`. -/
structure ApiKey where
  id : Uuid
  name : Varchar 255
  keyHash : Varchar 64
  keyPrefix : String
  isActive : Bool
  lastUsedAt : Option Timestamp
  expiresAt : Option Timestamp

abbrev ApiKeys := Table ApiKey.id

/-- `hash_api_key`. -/
def hashApiKey (key : String) : Varchar 64 where
  val := String.ofList (sha256 key)
  fits := by simp [length_sha256]

/-- A request to a webhook endpoint: the two headers and the body. -/
structure KeyedRequest where
  apiKeyHeader : Option String
  signature : Option String
  body : List UInt8

/-- The key that `APIKeyHeader` finds: an empty header is none. -/
def KeyedRequest.apiKey (request : KeyedRequest) : Option String := truthy request.apiKeyHeader

/-- How the dependency ends. -/
inductive KeyOutcome where
  | accepted
  | unauthorized (detail : String)
  | typeError (message : String)
  | multipleResultsFound
deriving DecidableEq

/-- `_verify_hmac_signature`; `none` is the `TypeError` of `compare_digest`. -/
def verifyHmacSignature (body : List UInt8) (secret signature : String) : Option Bool :=
  if "sha256=".toList.isPrefixOf signature.toList then
    compareDigest (Hmac.sha256Hex (utf8 secret) body) (signature.toList.drop 7)
  else some false

def ApiKey.expired (row : ApiKey) (now : Timestamp) : Bool :=
  match row.expiresAt with
  | none => false
  | some expiresAt => expiresAt < now

/-- The active rows of a key. -/
def activeRows (keys : ApiKeys) (key : String) : List ApiKey :=
  keys.rows.filter (fun row => row.keyHash = hashApiKey key ∧ row.isActive)

/-- `_validate_webhook_key`, with validators that accept; and the keys after it. -/
def validateWebhookKey (keys : ApiKeys) (now : Timestamp) (request : KeyedRequest) :
    KeyOutcome × ApiKeys :=
  match request.apiKey with
  | none =>
      if keys.rows.any (·.isActive) then (.unauthorized "API key required", keys)
      else (.accepted, keys)
  | some key =>
      match activeRows keys key with
      | [] => (.unauthorized "Invalid or revoked API key", keys)
      | [row] =>
          if row.expired now then (.unauthorized "API key expired", keys)
          else
            let used := keys.set { row with lastUsedAt := some now }
            match request.signature with
            | none => (.accepted, used)
            | some signature =>
                match verifyHmacSignature request.body key signature with
                | some true => (.accepted, used)
                | some false => (.unauthorized "Invalid webhook signature", keys)
                | none =>
                    (.typeError "comparing strings with non-ASCII characters is not supported",
                      keys)
      | _ => (.multipleResultsFound, keys)

/-- `generate_api_key`. -/
def generateApiKey (token : String) : String := "soar_" ++ token

/-- What happens to the keys: an admin creates or revokes one, a request is checked.  No endpoint
sets a time of expiry. -/
inductive KeyEvent where
  | created (id : Uuid) (name token : String) (expiresAt : Option Timestamp)
  | revoked (id : Uuid)
  | requested (now : Timestamp) (request : KeyedRequest)

def keyStep (keys : ApiKeys) : KeyEvent → Except Raised ApiKeys
  | .created id name token expiresAt => do
      let name ← column 255 name
      let key := generateApiKey token
      orRaise (keys.insert? ⟨id, name, hashApiKey key, String.ofList (key.toList.take 12), true,
        none, expiresAt⟩) (.refusedByDatabase "duplicate key value violates pk_api_keys")
  | .revoked id => do
      let row ← orRaise (keys.find? id) (.httpException 404 "API key not found")
      .ok (keys.set { row with isActive := false })
  | .requested now request => .ok (validateWebhookKey keys now request).2

/-! ## What the decision should be -/

/-- No key is sent and there is none; or the key sent is an active, unexpired one and the
signature, if sent, is the body's under it. -/
def Authorised (keys : ApiKeys) (now : Timestamp) (request : KeyedRequest) : Prop :=
  match request.apiKey with
  | none => keys.rows = []
  | some key =>
      (∃ row ∈ keys.rows, row.keyHash = hashApiKey key ∧ row.isActive = true ∧
        row.expired now = false) ∧
      ∀ signature, request.signature = some signature →
        signature.toList = "sha256=".toList ++ Hmac.sha256Hex (utf8 key) request.body

/-- Authorised requests are accepted, and all others are answered 401. -/
def DecidedRight (keys : ApiKeys) (now : Timestamp) (request : KeyedRequest) : Prop :=
  (Authorised keys now request → (validateWebhookKey keys now request).1 = .accepted) ∧
  (¬ Authorised keys now request →
    ∃ detail, (validateWebhookKey keys now request).1 = .unauthorized detail)

/-- Without a key: there is no row, or an active one.  With a key: one active row at most has its
hash, and if that has not expired, what the signature has after `sha256=` is ASCII. -/
def PlainCase (keys : ApiKeys) (now : Timestamp) (request : KeyedRequest) : Prop :=
  match request.apiKey with
  | none => keys.rows = [] ∨ ∃ row ∈ keys.rows, row.isActive = true
  | some key =>
      (activeRows keys key).length ≤ 1 ∧
      ((∃ row ∈ activeRows keys key, row.expired now = false) →
        ∀ signature, request.signature = some signature →
          "sha256=".toList.isPrefixOf signature.toList = true →
          isAscii (signature.toList.drop 7) = true)

section Decision

variable {keys : ApiKeys} {now : Timestamp} {request : KeyedRequest} {key : String}

/-- The signature is the body's, written in full. -/
theorem verifyHmacSignature_true {body : List UInt8} {secret signature : String} :
    verifyHmacSignature body secret signature = some true ↔
      signature.toList = "sha256=".toList ++ Hmac.sha256Hex (utf8 secret) body := by
  unfold verifyHmacSignature
  constructor
  · intro h
    split at h
    next hstart =>
      obtain ⟨rest, hrest⟩ := List.isPrefixOf_iff_prefix.mp hstart
      rw [compareDigest_eq (isAscii_sha256Hex _ _)] at h
      split at h
      · have heq := beq_iff_eq.mp (Option.some.inj h)
        rw [← hrest] at heq ⊢
        rw [heq]
        rfl
      · cases h
    next => cases h
  · intro h
    have hstart : "sha256=".toList.isPrefixOf signature.toList = true := by
      rw [h]
      exact List.isPrefixOf_iff_prefix.mpr (List.prefix_append _ _)
    rw [if_pos hstart, h]
    have hdrop : ("sha256=".toList ++ Hmac.sha256Hex (utf8 secret) body).drop 7 =
        Hmac.sha256Hex (utf8 secret) body := rfl
    rw [hdrop]
    simp [compareDigest, isAscii_sha256Hex]

/-- The comparison raises on what is not ASCII after the start it checks. -/
theorem verifyHmacSignature_none {body : List UInt8} {secret signature : String} :
    verifyHmacSignature body secret signature = none ↔
      "sha256=".toList.isPrefixOf signature.toList = true ∧
        isAscii (signature.toList.drop 7) = false := by
  unfold verifyHmacSignature
  split
  next hstart =>
    rw [compareDigest_eq (isAscii_sha256Hex _ _)]
    cases isAscii (signature.toList.drop 7) with
    | true => exact iff_of_false (Option.some_ne_none _) (fun h => Bool.noConfusion h.2)
    | false => exact iff_of_true rfl ⟨hstart, rfl⟩
  next hstart => exact iff_of_false (Option.some_ne_none _) (fun h => hstart h.1)

theorem mem_activeRows {row : ApiKey} :
    row ∈ activeRows keys key ↔
      row ∈ keys.rows ∧ row.keyHash = hashApiKey key ∧ row.isActive = true := by
  simp [activeRows]

/-- A decision that is right accepts exactly the authorised requests. -/
theorem decidedRight_of_accepted (h : (validateWebhookKey keys now request).1 = .accepted)
    (hauthorised : Authorised keys now request) : DecidedRight keys now request :=
  ⟨fun _ => h, fun hnot => absurd hauthorised hnot⟩

theorem decidedRight_of_refused {detail : String}
    (h : (validateWebhookKey keys now request).1 = .unauthorized detail)
    (hnot : ¬ Authorised keys now request) : DecidedRight keys now request :=
  ⟨fun hauthorised => absurd hauthorised hnot, fun _ => ⟨detail, h⟩⟩

/-- Any other error is wrong, whether the request is authorised or not. -/
theorem not_decidedRight {outcome : KeyOutcome}
    (h : (validateWebhookKey keys now request).1 = outcome) (haccepted : outcome ≠ .accepted)
    (hrefused : ∀ detail, outcome ≠ .unauthorized detail) : ¬ DecidedRight keys now request := by
  rintro ⟨hyes, hno⟩
  by_cases hauthorised : Authorised keys now request
  · exact haccepted (h.symm.trans (hyes hauthorised))
  · obtain ⟨detail, hdetail⟩ := hno hauthorised
    exact hrefused detail (h.symm.trans hdetail)

/-- **Without a key.** -/
theorem decidedRight_open (hkey : request.apiKey = none) :
    DecidedRight keys now request ↔ keys.rows = [] ∨ ∃ row ∈ keys.rows, row.isActive = true := by
  have hauthorised : Authorised keys now request ↔ keys.rows = [] := by
    unfold Authorised
    rw [hkey]
  by_cases hactive : keys.rows.any (·.isActive) = true
  · have houtcome : (validateWebhookKey keys now request).1 = .unauthorized "API key required" := by
      simp only [validateWebhookKey, hkey, hactive, if_true]
    obtain ⟨row, hrow, hrowActive⟩ := List.any_eq_true.mp hactive
    refine iff_of_true (decidedRight_of_refused houtcome ?_) (Or.inr ⟨row, hrow, hrowActive⟩)
    intro h
    rw [hauthorised.mp h] at hrow
    cases hrow
  · have houtcome : (validateWebhookKey keys now request).1 = .accepted := by
      simp only [validateWebhookKey, hkey, if_neg hactive]
    have hnone : ¬ ∃ row ∈ keys.rows, row.isActive = true := fun ⟨row, hrow, h⟩ =>
      hactive (List.any_eq_true.mpr ⟨row, hrow, h⟩)
    rw [or_iff_left hnone]
    constructor
    · intro h
      by_contra hrows
      obtain ⟨detail, hdetail⟩ := h.2 (mt hauthorised.mp hrows)
      rw [houtcome] at hdetail
      cases hdetail
    · intro h
      exact decidedRight_of_accepted houtcome (hauthorised.mpr h)

/-- With a key: one of its active rows is unexpired, and the signature is right if there is one. -/
theorem authorised_key_iff (hkey : request.apiKey = some key) :
    Authorised keys now request ↔ (∃ row ∈ activeRows keys key, row.expired now = false) ∧
      ∀ signature, request.signature = some signature →
        signature.toList = "sha256=".toList ++ Hmac.sha256Hex (utf8 key) request.body := by
  unfold Authorised
  rw [hkey]
  refine and_congr_left (fun _ => ?_)
  constructor
  · rintro ⟨row, hmem, hhash, hactive, hexpired⟩
    exact ⟨row, mem_activeRows.mpr ⟨hmem, hhash, hactive⟩, hexpired⟩
  · rintro ⟨row, hrow, hexpired⟩
    obtain ⟨hmem, hhash, hactive⟩ := mem_activeRows.mp hrow
    exact ⟨row, hmem, hhash, hactive, hexpired⟩

/-- **With a signature.** The comparison decides, and raises on text that is not ASCII. -/
theorem decidedRight_signed {signature : String} (hsignature : request.signature = some signature)
    (hauthorised : Authorised keys now request ↔
      signature.toList = "sha256=".toList ++ Hmac.sha256Hex (utf8 key) request.body)
    (houtcome : (validateWebhookKey keys now request).1 =
      match verifyHmacSignature request.body key signature with
      | some true => .accepted
      | some false => .unauthorized "Invalid webhook signature"
      | none => .typeError "comparing strings with non-ASCII characters is not supported") :
    DecidedRight keys now request ↔
      ∀ signature', request.signature = some signature' →
        "sha256=".toList.isPrefixOf signature'.toList = true →
        isAscii (signature'.toList.drop 7) = true := by
  have hascii : (∀ signature', request.signature = some signature' →
      "sha256=".toList.isPrefixOf signature'.toList = true →
      isAscii (signature'.toList.drop 7) = true) ↔
      verifyHmacSignature request.body key signature ≠ none := by
    rw [hsignature, Ne, verifyHmacSignature_none, not_and, Bool.not_eq_false]
    exact ⟨fun h => h signature rfl, fun h _ heq => by cases heq; exact h⟩
  rw [hascii]
  cases hverify : verifyHmacSignature request.body key signature with
  | none =>
      rw [hverify] at houtcome
      exact iff_of_false
        (not_decidedRight houtcome (fun h => nomatch h) (fun _ h => nomatch h))
        (fun h => h rfl)
  | some valid =>
      rw [hverify] at houtcome
      refine iff_of_true ?_ (Option.some_ne_none valid)
      cases valid with
      | true =>
          exact decidedRight_of_accepted houtcome
            (hauthorised.mpr (verifyHmacSignature_true.mp hverify))
      | false =>
          refine decidedRight_of_refused houtcome ?_
          intro h
          have htrue := verifyHmacSignature_true.mpr (hauthorised.mp h)
          rw [hverify] at htrue
          cases htrue

/-- **With a key of one active row.** -/
theorem decidedRight_row {row : ApiKey} (hkey : request.apiKey = some key)
    (hrows : activeRows keys key = [row]) :
    DecidedRight keys now request ↔
      (row.expired now = false → ∀ signature, request.signature = some signature →
        "sha256=".toList.isPrefixOf signature.toList = true →
        isAscii (signature.toList.drop 7) = true) := by
  have hauthorised : Authorised keys now request ↔ row.expired now = false ∧
      ∀ signature, request.signature = some signature →
        signature.toList = "sha256=".toList ++ Hmac.sha256Hex (utf8 key) request.body := by
    rw [authorised_key_iff hkey, hrows]
    simp only [List.mem_singleton, exists_eq_left]
  cases hexpired : row.expired now with
  | true =>
      have houtcome :
        (validateWebhookKey keys now request).1 = .unauthorized "API key expired" := by
        simp only [validateWebhookKey, hkey, hrows, hexpired, if_true]
      rw [hexpired] at hauthorised
      exact iff_of_true
        (decidedRight_of_refused houtcome (fun h => Bool.noConfusion (hauthorised.mp h).1))
        (fun h => Bool.noConfusion h)
  | false =>
      rw [hexpired, and_iff_right rfl] at hauthorised
      rw [forall_prop_of_true rfl]
      cases hsignature : request.signature with
      | none =>
          have houtcome : (validateWebhookKey keys now request).1 = .accepted := by
            simp only [validateWebhookKey, hkey, hrows, hexpired, hsignature, if_false,
              Bool.false_eq_true]
          rw [hsignature] at hauthorised
          exact iff_of_true
            (decidedRight_of_accepted houtcome
              (hauthorised.mpr (fun _ h => (Option.some_ne_none _ h.symm).elim)))
            (fun _ h => (Option.some_ne_none _ h.symm).elim)
      | some signature =>
          have houtcome : (validateWebhookKey keys now request).1 =
              match verifyHmacSignature request.body key signature with
              | some true => .accepted
              | some false => .unauthorized "Invalid webhook signature"
              | none =>
                  .typeError "comparing strings with non-ASCII characters is not supported" := by
            simp only [validateWebhookKey, hkey, hrows, hexpired, hsignature, if_false,
              Bool.false_eq_true]
            split <;> simp_all
          have hsigned : Authorised keys now request ↔
              signature.toList = "sha256=".toList ++ Hmac.sha256Hex (utf8 key) request.body := by
            rw [hauthorised, hsignature]
            exact ⟨fun h => h signature rfl, fun h _ heq => by cases heq; exact h⟩
          rw [← hsignature]
          exact decidedRight_signed hsignature hsigned houtcome

/-- **Every table and every request.** -/
theorem decidedRight_iff (keys : ApiKeys) (now : Timestamp) (request : KeyedRequest) :
    DecidedRight keys now request ↔ PlainCase keys now request := by
  unfold PlainCase
  cases hkey : request.apiKey with
  | none => exact decidedRight_open hkey
  | some key =>
      dsimp only
      cases hrows : activeRows keys key with
      | nil =>
          have houtcome : (validateWebhookKey keys now request).1 =
              .unauthorized "Invalid or revoked API key" := by
            simp only [validateWebhookKey, hkey, hrows]
          refine iff_of_true (decidedRight_of_refused houtcome ?_) ⟨Nat.zero_le _, ?_⟩
          · rw [authorised_key_iff hkey, hrows]
            rintro ⟨⟨row, hrow, -⟩, -⟩
            cases hrow
          · rintro ⟨row, hrow, -⟩
            cases hrow
      | cons row rows =>
          cases rows with
          | nil =>
              rw [decidedRight_row hkey hrows]
              constructor
              · intro h
                refine ⟨Nat.le_refl _, ?_⟩
                rintro ⟨row', hrow', hexpired⟩
                rw [List.mem_singleton.mp hrow'] at hexpired
                exact h hexpired
              · intro h hexpired
                exact h.2 ⟨row, List.mem_singleton_self row, hexpired⟩
          | cons row' rows =>
              have houtcome : (validateWebhookKey keys now request).1 = .multipleResultsFound := by
                simp only [validateWebhookKey, hkey, hrows]
              refine iff_of_false
                (not_decidedRight houtcome (fun h => nomatch h) (fun _ h => nomatch h)) ?_
              rintro ⟨hlength, -⟩
              exact absurd hlength (by simp)

/-! ## Revocations -/

/-- A key lets a request in as the one active row of its hash, unexpired, with a signature that is
right if there is one. -/
theorem accepted_iff_row (hkey : request.apiKey = some key) :
    (validateWebhookKey keys now request).1 = .accepted ↔
      ∃ row, activeRows keys key = [row] ∧ row.expired now = false ∧
        ∀ signature, request.signature = some signature →
          verifyHmacSignature request.body key signature = some true := by
  unfold validateWebhookKey
  rw [hkey]
  dsimp only
  cases hrows : activeRows keys key with
  | nil => exact iff_of_false (fun h => nomatch h) (fun ⟨_, h, _⟩ => nomatch h)
  | cons row rows =>
      cases rows with
      | cons row' rows => exact iff_of_false (fun h => nomatch h) (fun ⟨_, h, _⟩ => nomatch h)
      | nil =>
          dsimp only
          cases hexpired : row.expired now with
          | true =>
              refine iff_of_false (fun h => nomatch h) ?_
              rintro ⟨row', hrow, hlive, -⟩
              cases hrow
              rw [hexpired] at hlive
              cases hlive
          | false =>
              rw [if_neg Bool.false_ne_true]
              cases hsignature : request.signature with
              | none => exact iff_of_true rfl ⟨row, rfl, hexpired, fun _ h => nomatch h⟩
              | some signature =>
                  dsimp only
                  constructor
                  · intro h
                    refine ⟨row, rfl, hexpired, fun signature' heq => ?_⟩
                    cases heq
                    split at h
                    next htrue => exact htrue
                    next => cases h
                    next => cases h
                  · rintro ⟨-, -, -, h⟩
                    rw [h signature rfl]

/-- The keys after a revocation: the active rows but the revoked one. -/
theorem activeRows_revoked (id : Uuid) :
    activeRows (attempt keyStep keys (.revoked id)) key =
      (activeRows keys key).filter (fun row => row.id ≠ id) := by
  cases hfind : keys.find? id with
  | none =>
      have hsame : attempt keyStep keys (.revoked id) = keys := by
        simp [attempt, keyStep, orRaise, hfind, bind, Except.bind]
      rw [hsame, List.filter_eq_self.mpr]
      intro row hrow
      exact decide_eq_true (Table.find?_eq_none_iff.mp hfind row (mem_activeRows.mp hrow).1)
  | some revoked =>
      have hid : revoked.id = id := Table.find?_key hfind
      have hnext :
        attempt keyStep keys (.revoked id) = keys.set { revoked with isActive := false } := by
        simp [attempt, keyStep, orRaise, hfind, bind, Except.bind]
      rw [hnext]
      unfold activeRows
      rw [Table.rows_set, List.filter_map, List.filter_filter]
      have hkept : ∀ row ∈ keys.rows.filter ((fun row : ApiKey =>
          decide (row.keyHash = hashApiKey key ∧ row.isActive = true)) ∘
            fun b => if b.id = revoked.id then { revoked with isActive := false } else b),
          (if row.id = revoked.id then { revoked with isActive := false } else row) = row := by
        intro row hrow
        have hpasses := (List.mem_filter.mp hrow).2
        simp only [Function.comp] at hpasses
        split at hpasses
        next => simp at hpasses
        next hne => exact if_neg hne
      rw [List.map_congr_left hkept, List.map_id']
      refine List.filter_congr (fun row _ => ?_)
      by_cases hrow : row.id = id
      · simp [hrow, hid]
      · simp [hrow, hid]

theorem expired_earlier {row : ApiKey} {later : Timestamp} (hlater : now ≤ later)
    (h : row.expired later = false) : row.expired now = false := by
  unfold ApiKey.expired at h ⊢
  split at h
  next => rfl
  next expiresAt _ =>
    exact decide_eq_false (fun hlt => of_decide_eq_false h (Nat.lt_of_lt_of_le hlt hlater))

/-- **Which revocations let a rejected request in.**  Time alone lets none in, and a revocation one
without a key, when it revokes the last active key. -/
theorem reopens_iff (id : Uuid) {later : Timestamp} (hlater : now ≤ later) :
    ((∃ detail, (validateWebhookKey keys now request).1 = .unauthorized detail) ∧
      (validateWebhookKey (attempt keyStep keys (.revoked id)) later request).1 = .accepted) ↔
    request.apiKey = none ∧ keys.rows.any (·.isActive) = true ∧
      (attempt keyStep keys (.revoked id)).rows.any (·.isActive) = false := by
  cases hkey : request.apiKey with
  | none =>
      unfold validateWebhookKey
      rw [hkey]
      dsimp only
      cases hactive : keys.rows.any (·.isActive) with
      | false => simp
      | true =>
          cases hafter : (attempt keyStep keys (.revoked id)).rows.any (·.isActive) with
          | false => simp
          | true => simp
  | some key =>
      refine iff_of_false ?_ (fun h => nomatch h.1)
      rintro ⟨⟨detail, hrejected⟩, haccepted⟩
      obtain ⟨row, hrow, hlive, hsignature⟩ := (accepted_iff_row hkey).mp haccepted
      rw [activeRows_revoked] at hrow
      have hone : activeRows keys key = [row] := by
        cases hrows : activeRows keys key with
        | nil =>
            rw [hrows] at hrow
            cases hrow
        | cons first rows =>
            cases rows with
            | nil =>
                have hmem : row ∈ (activeRows keys key).filter (fun row => row.id ≠ id) := by
                  rw [hrow]
                  exact List.mem_singleton_self row
                have hfirst := (List.mem_filter.mp hmem).1
                rw [hrows] at hfirst
                rw [List.mem_singleton.mp hfirst]
            | cons second rows =>
                simp only [validateWebhookKey, hkey, hrows] at hrejected
                cases hrejected
      have hbefore := (accepted_iff_row hkey).mpr
        ⟨row, hone, expired_earlier hlater hlive, hsignature⟩
      rw [hrejected] at hbefore
      cases hbefore

/-- **When the webhook decision is right.**  After any history of keys, a request is decided right
exactly in the plain case, and a revocation and the passing of time let a rejected request in
exactly when it sends no key and the last active key is revoked. -/
theorem webhook_decision_iff (history : List KeyEvent) (now : Timestamp) (request : KeyedRequest) :
    let keys := run keyStep .empty history
    (DecidedRight keys now request ↔ PlainCase keys now request) ∧
    ∀ id later, now ≤ later →
      (((∃ detail, (validateWebhookKey keys now request).1 = .unauthorized detail) ∧
          (validateWebhookKey (attempt keyStep keys (.revoked id)) later request).1 = .accepted) ↔
        request.apiKey = none ∧ keys.rows.any (·.isActive) = true ∧
          (attempt keyStep keys (.revoked id)).rows.any (·.isActive) = false) :=
  ⟨decidedRight_iff _ now request, fun id _ hlater => reopens_iff id hlater⟩

end Decision

/-- A request without a key or a signature. -/
def keyless : KeyedRequest := ⟨none, none, []⟩

/-- One key is created and revoked. -/
def oneKeyRevoked : List KeyEvent := [.created 1 "collector" "token" none, .revoked 1]

/-- There is a key, and a request without one is accepted. -/
theorem webhook_open_after_revocation :
    ¬ ∀ (history : List KeyEvent) (now : Timestamp) (request : KeyedRequest),
      DecidedRight (run keyStep .empty history) now request := by
  intro h
  obtain ⟨-, hrefused⟩ := h oneKeyRevoked 0 keyless
  have hrows : (run keyStep .empty oneKeyRevoked).rows ≠ [] := by
    intro hrows
    have hlength : (run keyStep .empty oneKeyRevoked).rows.length = 1 := by decide +kernel
    rw [hrows] at hlength
    cases hlength
  obtain ⟨detail, hdetail⟩ := hrefused hrows
  have haccepted : (validateWebhookKey (run keyStep .empty oneKeyRevoked) 0 keyless).1 =
      .accepted := by decide +kernel
  rw [haccepted] at hdetail
  cases hdetail

/-- The request was rejected before the revocation. -/
theorem webhook_decision_iff_last_key :
    (∃ detail, (validateWebhookKey (run keyStep .empty [.created 1 "collector" "token" none]) 0
        keyless).1 = .unauthorized detail) ∧
      (validateWebhookKey (attempt keyStep (run keyStep .empty
        [.created 1 "collector" "token" none]) (.revoked 1)) 1 keyless).1 = .accepted :=
  ((webhook_decision_iff [.created 1 "collector" "token" none] 0 keyless).2 1 1 (by decide)).mpr
    ⟨rfl, by decide +kernel, by decide +kernel⟩

end OpenSoar
