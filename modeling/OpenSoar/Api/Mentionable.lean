/-
# `OpenSoar.Api.Mentionable` — the analysts that the mention dropdown offers

`list_mentionable_analysts` of `api/auth.py`.  The handler selects at most four times `limit` rows
("Fetch a small over-size, filter through the tenant hook, then truncate"), by a pattern into
which `q` is spliced as it is, and then asks the validators about one row after another.

What it should answer with (`mentionable`) it does answer with unless one of two things happens:
a character of `q` that `LIKE` treats specially lets somebody else in, or an analyst who should be
offered is not among the rows that are fetched.  `mentionable_complete_iff` says so by ranks, and
`mentionable_literal_iff` what is left of it when `q` has no such character.
-/
import Mathlib.Data.List.Sort
import OpenSoar.Api.Activities
import OpenSoar.Comments.Reach
import OpenSoar.Lib.Leading
import OpenSoar.Lib.Like

namespace OpenSoar

open Python Leading

deriving instance DecidableEq for Analyst

section Handler

variable (text : MentionText) (collation : String → String → Bool) (app : App)

/-- `ORDER BY username`, in the collation of the database. -/
def byUsername (analysts : List Analyst) : List Analyst :=
  analysts.insertionSort (fun a b => collation a.username.val b.username.val = true)

/-- The names of an analyst that `q` is compared with, lowered by the database. -/
def Analyst.loweredNames (analyst : Analyst) : List (List Char) :=
  [text.sqlLower analyst.username.val.toList, text.sqlLower analyst.displayName.val.toList]

/-- `lower(username) LIKE pattern OR lower(display_name) LIKE pattern`, where the pattern is
`f"{q.lower()}%"`; without a `q` there is no such condition. -/
def matchesPattern (q : Option String) (analyst : Analyst) : Bool :=
  match truthy q with
  | none => true
  | some q => (analyst.loweredNames text).any (Like.like (text.lower q.toList ++ ['%']))

/-- The rows that the query fetches. -/
def fetchedAnalysts (q : Option String) (limit : Nat) (analysts : List Analyst) : List Analyst :=
  ((byUsername collation analysts).filter
    (fun analyst => analyst.isActive && matchesPattern text q analyst)).take (limit * 4)

/-- The loop over the rows; it stops at the limit. -/
def collectVisible (limit : Nat) (caller : Analyst) :
    (visible rows : List Analyst) → Except Raised (List Analyst)
  | visible, [] => .ok visible
  | visible, candidate :: rows =>
      match enforceTenantAccess app (.analyst candidate) "mention" (some caller) with
      | .ok () =>
          if limit ≤ (visible ++ [candidate]).length then .ok (visible ++ [candidate])
          else collectVisible limit caller (visible ++ [candidate]) rows
      | .error (.httpException _ _) => collectVisible limit caller visible rows
      | .error e => .error e

/-- `list_mentionable_analysts`. -/
def listMentionableAnalysts (q : Option String) (limit : Nat) (caller : Option Analyst)
    (analysts : List Analyst) : Except Raised (List Analyst) := do
  let analyst ← requireAnalyst caller
  collectVisible app limit analyst [] (fetchedAnalysts text collation q limit analysts)

/-! ## What it should answer with -/

/-- A name of the analyst begins with `q`, both lowered. -/
def beginsWith (q : Option String) (analyst : Analyst) : Bool :=
  match truthy q with
  | none => true
  | some q => (analyst.loweredNames text).any (text.lower q.toList).isPrefixOf

/-- The validators let the caller mention the analyst. -/
def mayMention (caller analyst : Analyst) : Bool :=
  (enforceTenantAccess app (.analyst analyst) "mention" (some caller)).isOk

/-- The first active analysts, by username, whom the caller may mention and of whom a name begins
with `q`. -/
def mentionable (q : Option String) (limit : Nat) (caller : Analyst) (analysts : List Analyst) :
    List Analyst :=
  ((byUsername collation analysts).filter (fun analyst =>
    (analyst.isActive && beginsWith text q analyst) && mayMention app caller analyst)).take limit

end Handler

section Complete

variable {text : MentionText} {collation : String → String → Bool} {app : App}

/-- The loop answers with the first visible rows. -/
theorem collectVisible_eq (hrefuses : RefusesByAnswer app) {limit : Nat} (caller : Analyst)
    (rows visible : List Analyst) (hroom : visible.length < limit) :
    collectVisible app limit caller visible rows
      = .ok (visible ++ (rows.filter (mayMention app caller)).take (limit - visible.length)) := by
  induction rows generalizing visible with
  | nil =>
      rw [collectVisible, List.filter_nil, List.take_nil, List.append_nil]
  | cons candidate rows ih =>
      rw [collectVisible]
      cases hcheck : enforceTenantAccess app (.analyst candidate) "mention" (some caller) with
      | ok done =>
          have hmay : mayMention app caller candidate = true := by
            rw [mayMention, hcheck]
            rfl
          have hlength : (visible ++ [candidate]).length = visible.length + 1 := by
            rw [List.length_append, List.length_singleton]
          have hsplit : limit - visible.length
              = (limit - (visible ++ [candidate]).length) + 1 := by
            omega
          dsimp only
          rw [List.filter_cons_of_pos hmay, hsplit, List.take_succ_cons]
          split
          · rename_i hfull
            have hnone : limit - (visible ++ [candidate]).length = 0 := by omega
            rw [hnone, List.take_zero]
          · rename_i hmore
            rw [ih _ (Nat.lt_of_not_le hmore), List.append_assoc]
            rfl
      | error e =>
          obtain ⟨statusCode, detail, rfl⟩ := hrefuses candidate (some caller) e hcheck
          have hmay : ¬ mayMention app caller candidate = true := by
            rw [mayMention, hcheck]
            exact Bool.false_ne_true
          dsimp only
          rw [List.filter_cons_of_neg hmay, ih _ hroom]

/-- The answer, without the loop. -/
theorem listMentionableAnalysts_eq (hrefuses : RefusesByAnswer app) (q : Option String)
    (limit : Nat) (caller : Analyst) (analysts : List Analyst) :
    listMentionableAnalysts text collation app q limit (some caller) analysts
      = .ok (((fetchedAnalysts text collation q limit analysts).filter
          (mayMention app caller)).take limit) := by
  show collectVisible app limit caller [] _ = _
  cases limit with
  | zero =>
      rw [fetchedAnalysts, Nat.zero_mul, List.take_zero]
      rfl
  | succ limit =>
      rw [collectVisible_eq hrefuses caller _ [] (Nat.succ_pos limit)]
      rfl

theorem nodup_byUsername (analysts : Table Analyst.id) :
    (byUsername collation analysts.rows).Nodup :=
  (List.perm_insertionSort _ _).nodup_iff.mpr analysts.nodup.of_map

theorem mem_byUsername {analysts : List Analyst} {x : Analyst} :
    x ∈ byUsername collation analysts ↔ x ∈ analysts :=
  List.mem_insertionSort _

end Complete

/-! ## When the answer is complete -/

section Conditions

variable (text : MentionText) (collation : String → String → Bool) (app : App)
  (q : Option String) (limit : Nat) (caller : Analyst) (analysts : List Analyst)

/-- The conditions of the query, and those on an analyst who should be offered. -/
def isMatching (analyst : Analyst) : Bool := analyst.isActive && matchesPattern text q analyst

def isBeginning (analyst : Analyst) : Bool := analyst.isActive && beginsWith text q analyst

/-- Nobody whose names only match the pattern comes among the first: fewer than `limit * 4` active
analysts before them match it, and fewer than `limit` of these may be mentioned. -/
def NobodyByWildcard : Prop :=
  ∀ x ∈ analysts, isMatching text q x = true → mayMention app caller x = true →
    rank (byUsername collation analysts) (isMatching text q) x < limit * 4 →
    rank (byUsername collation analysts)
      (fun y => isMatching text q y && mayMention app caller y) x < limit →
    beginsWith text q x = true

/-- Everybody who should be offered matches the pattern, and fewer than `limit * 4` active analysts
before them do. -/
def EverybodyFetched : Prop :=
  ∀ x ∈ analysts, isBeginning text q x = true → mayMention app caller x = true →
    rank (byUsername collation analysts)
      (fun y => isBeginning text q y && mayMention app caller y) x < limit →
    matchesPattern text q x = true ∧
      rank (byUsername collation analysts) (isMatching text q) x < limit * 4

end Conditions

section Complete

variable {text : MentionText} {collation : String → String → Bool} {app : App}
  {q : Option String} {limit : Nat} {caller : Analyst} {analysts : Table Analyst.id}
  {x : Analyst}

theorem mem_fetchedAnalysts : x ∈ fetchedAnalysts text collation q limit analysts.rows ↔
    x ∈ analysts.rows ∧ isMatching text q x = true ∧
      rank (byUsername collation analysts.rows) (isMatching text q) x < limit * 4 :=
  (mem_take_filter (nodup_byUsername analysts)).trans (and_congr_left' mem_byUsername)

theorem mem_mentionable : x ∈ mentionable text collation app q limit caller analysts.rows ↔
    x ∈ analysts.rows ∧ (isBeginning text q x && mayMention app caller x) = true ∧
      rank (byUsername collation analysts.rows)
        (fun y => isBeginning text q y && mayMention app caller y) x < limit :=
  (mem_take_filter (nodup_byUsername analysts)).trans (and_congr_left' mem_byUsername)

/-- The rows that are answered with. -/
theorem mem_answered :
    x ∈ ((fetchedAnalysts text collation q limit analysts.rows).filter
        (mayMention app caller)).take limit ↔
      x ∈ analysts.rows ∧
        (isMatching text q x = true ∧
          rank (byUsername collation analysts.rows) (isMatching text q) x < limit * 4) ∧
        mayMention app caller x = true ∧
        rank (byUsername collation analysts.rows)
          (fun y => isMatching text q y && mayMention app caller y) x < limit :=
  (mem_take_filter_take (nodup_byUsername analysts)).trans (and_congr_left' mem_byUsername)

/-- The rows that are answered with are those that should be. -/
theorem answered_eq_iff :
    ((fetchedAnalysts text collation q limit analysts.rows).filter (mayMention app caller)).take
        limit = mentionable text collation app q limit caller analysts.rows ↔
      NobodyByWildcard text collation app q limit caller analysts.rows ∧
        EverybodyFetched text collation app q limit caller analysts.rows := by
  refine (take_eq_take_iff (@nodup_byUsername collation analysts)
    (List.filter_sublist.trans ((List.take_sublist _ _).trans List.filter_sublist))
    List.filter_sublist limit).trans (and_congr ?_ ?_)
  · constructor
    · intro h x hx hmatch hmay hpage hfirst
      have hmem := h x (mem_answered.mpr ⟨hx, ⟨hmatch, hpage⟩, hmay, hfirst⟩)
      have hboth := (Bool.and_eq_true _ _).mp (List.mem_filter.mp hmem).2
      exact ((Bool.and_eq_true _ _).mp hboth.1).2
    · intro h x hx
      obtain ⟨hstored, ⟨hmatch, hpage⟩, hmay, hfirst⟩ := mem_answered.mp hx
      have hbegins := h x hstored hmatch hmay hpage hfirst
      have hactive := ((Bool.and_eq_true _ _).mp hmatch).1
      refine List.mem_filter.mpr ⟨mem_byUsername.mpr hstored, ?_⟩
      rw [hactive, hbegins, hmay]
      rfl
  · constructor
    · intro h x hx hbegins hmay hfirst
      have hboth : (isBeginning text q x && mayMention app caller x) = true := by
        rw [hbegins, hmay]
        rfl
      have hmem := h x (mem_mentionable.mpr ⟨hx, hboth, hfirst⟩)
      obtain ⟨-, hmatch, hpage⟩ := mem_fetchedAnalysts.mp (List.mem_filter.mp hmem).1
      exact ⟨((Bool.and_eq_true _ _).mp hmatch).2, hpage⟩
    · intro h x hx
      obtain ⟨hstored, hboth, hfirst⟩ := mem_mentionable.mp hx
      obtain ⟨hbegins, hmay⟩ := (Bool.and_eq_true _ _).mp hboth
      obtain ⟨hpattern, hpage⟩ := h x hstored hbegins hmay hfirst
      have hactive := ((Bool.and_eq_true _ _).mp hbegins).1
      have hmatch : isMatching text q x = true := by
        rw [isMatching, hactive, hpattern]
        rfl
      exact List.mem_filter.mpr ⟨mem_fetchedAnalysts.mpr ⟨hstored, hmatch, hpage⟩, hmay⟩

/-- A `q` without the characters that `LIKE` treats specially. -/
def LiteralQuery (text : MentionText) (q : Option String) : Prop :=
  ∀ s, truthy q = some s → ∀ c ∈ text.lower s.toList, Like.Literal c

/-- Its pattern matches what begins with it. -/
theorem matchesPattern_literal (hq : LiteralQuery text q) :
    matchesPattern text q = beginsWith text q := by
  funext analyst
  rw [matchesPattern, beginsWith]
  cases hs : truthy q with
  | none => rfl
  | some s =>
      dsimp only
      congr 1
      funext name
      exact Like.like_literal (hq s hs) name

variable (text collation) (q limit caller analysts)

/-- **When mention autocomplete is complete.**  Whatever the analysts, the validators, `q` and the
limit, the answer is the first analysts by username who may be mentioned and of whom a name begins
with `q`, if and only if nobody comes in by a wildcard and everybody is fetched. -/
theorem mentionable_complete_iff (hrefuses : RefusesByAnswer app) :
    listMentionableAnalysts text collation app q limit (some caller) analysts.rows
        = .ok (mentionable text collation app q limit caller analysts.rows) ↔
      NobodyByWildcard text collation app q limit caller analysts.rows ∧
        EverybodyFetched text collation app q limit caller analysts.rows := by
  rw [listMentionableAnalysts_eq hrefuses, Except.ok.injEq]
  exact answered_eq_iff

/-- For a literal `q` it is a matter of how many analysts of other tenants come first. -/
theorem mentionable_literal_iff (hrefuses : RefusesByAnswer app) (hq : LiteralQuery text q) :
    listMentionableAnalysts text collation app q limit (some caller) analysts.rows
        = .ok (mentionable text collation app q limit caller analysts.rows) ↔
      ∀ x ∈ analysts.rows, isBeginning text q x = true → mayMention app caller x = true →
        rank (byUsername collation analysts.rows)
          (fun y => isBeginning text q y && mayMention app caller y) x < limit →
        rank (byUsername collation analysts.rows) (isBeginning text q) x < limit * 4 := by
  have hsame : isMatching text q = isBeginning text q := by
    funext analyst
    rw [isMatching, isBeginning, matchesPattern_literal hq]
  rw [listMentionableAnalysts_eq hrefuses, Except.ok.injEq, answered_eq_iff, NobodyByWildcard,
    EverybodyFetched, hsame, matchesPattern_literal hq]
  constructor
  · rintro ⟨-, hfetched⟩ x hx hbegins hmay hfirst
    exact (hfetched x hx hbegins hmay hfirst).2
  · intro hpage
    refine ⟨?_, ?_⟩
    · intro x hx hbegins _ _ _
      exact ((Bool.and_eq_true _ _).mp hbegins).2
    · intro x hx hbegins hmay hfirst
      exact ⟨((Bool.and_eq_true _ _).mp hbegins).2, hpage x hx hbegins hmay hfirst⟩

end Complete

/-! ## Five analysts, one, and four -/

/-- A tenant plugin that hides the analysts with these ids. -/
def hides (ids : List Uuid) : App :=
  ⟨[{ check := fun resource _ _ =>
        match resource with
        | .analyst target =>
            if ids.contains target.id then .error (.httpException 404 "Analyst not found")
            else .ok ()
        | _ => .ok ()
      keeps := fun _ _ _ => true }]⟩

theorem letter_fits (c : Char) : (String.ofList [c]).length ≤ 100 := by
  rw [String.length_ofList, List.length_singleton]
  decide

/-- An analyst with a username of one letter. -/
def analystLettered (id : Uuid) (c : Char) : Analyst :=
  analystCalled id ⟨String.ofList [c], letter_fits c⟩

def fiveLetters : List Analyst :=
  [analystLettered 1 'a', analystLettered 2 'b', analystLettered 3 'c', analystLettered 4 'd',
    analystLettered 5 'e']

theorem fiveLetters_nodup : (fiveLetters.map Analyst.id).Nodup := by decide

def fiveAnalysts : Table Analyst.id := ⟨fiveLetters, fiveLetters_nodup⟩

/-- The order of the code points. -/
def codePointOrder (a b : String) : Bool := decide (a ≤ b)

/-- The fifth analyst, who may mention nobody else, is not fetched; and `_` offers an analyst of
whom no name begins with it. -/
theorem mentionable_incomplete :
    listMentionableAnalysts .ascii codePointOrder (hides [1, 2, 3, 4]) none 1
        (some (analystLettered 5 'e')) fiveAnalysts.rows
        ≠ .ok (mentionable .ascii codePointOrder (hides [1, 2, 3, 4]) none 1
          (analystLettered 5 'e') fiveAnalysts.rows) ∧
      listMentionableAnalysts .ascii codePointOrder .core (some "_") 10 (some bo)
        (onlyAnalyst bo).rows
        ≠ .ok (mentionable .ascii codePointOrder .core (some "_") 10 bo (onlyAnalyst bo).rows) := by
  constructor
  · intro h
    have hids := congrArg (fun answer => answer.toOption.map List.length) h
    revert hids
    decide +kernel
  · intro h
    have hids := congrArg (fun answer => answer.toOption.map List.length) h
    revert hids
    decide +kernel

theorem refusesByAnswer_hides (ids : List Uuid) : RefusesByAnswer (hides ids) := by
  intro target caller e h
  change ((if ids.contains target.id then .error (.httpException 404 "Analyst not found")
    else .ok () : Except Raised Unit) >>= fun u => pure u) = _ at h
  by_cases hid : ids.contains target.id = true
  · rw [if_pos hid] at h
    cases h
    exact ⟨404, "Analyst not found", rfl⟩
  · rw [if_neg hid] at h
    cases h

/-- Four analysts, three of whom have names that begin alike. -/
def fourAnalysts : Table Analyst.id where
  rows := [analystCalled 1 (.lit "ana"), bo, analystCalled 3 (.lit "anton"),
    analystCalled 4 (.lit "andy")]
  nodup := by decide

/-- The first of them is hidden from the caller, and the next one is offered. -/
theorem mentionable_complete_andy :
    listMentionableAnalysts .ascii codePointOrder (hides [1]) (some "AN") 1 (some bo)
        fourAnalysts.rows =
        .ok (mentionable .ascii codePointOrder (hides [1]) (some "AN") 1 bo fourAnalysts.rows) ∧
      (mentionable .ascii codePointOrder (hides [1]) (some "AN") 1 bo fourAnalysts.rows).map
        (·.username.val) = ["andy"] := by
  refine ⟨(mentionable_complete_iff .ascii codePointOrder (some "AN") 1 bo fourAnalysts
    (refusesByAnswer_hides [1])).mpr ⟨?_, ?_⟩, by decide +kernel⟩
  · unfold NobodyByWildcard
    decide +kernel
  · unfold EverybodyFetched
    decide +kernel

end OpenSoar
