/-
# `OpenSoar.Comments.Reach` — the analyst whom a mention reaches

`resolve_mentions` looks up the tokens that `parse_mention_tokens` returns.  When the validators
refuse with an `HTTPException`, as the resolver expects of them, it answers with the analyst found
for each token, tokens in their order (`resolveMentions_eq`).

Composed, the two give back the analyst whose username follows an `@` only for usernames that the
pattern takes whole: at most 64 characters, of which the first is no `.` or `-` and the last no
punctuation; and only if no other active analyst has the username up to case, for the dict
`found` holds one analyst under a lowered username (`mention_reaches_iff`).
-/
import OpenSoar.Comments.Tokens

namespace OpenSoar

open Python

/-! ## What a mention should reach -/

/-- The tables, as documented: the database lowers ASCII text as Python does, and white space is
no word character. -/
structure MentionText.Documented (text : MentionText) : Prop where
  onAscii : text.toPyText.OnAscii
  sqlLower : ∀ s, IsAscii s → text.sqlLower s = PyText.ascii.lower s
  spaces : ∀ c, text.isSpace c = true → text.isWord c = false

/-- A validator that hides an analyst raises an `HTTPException`. -/
def RefusesByAnswer (app : App) : Prop :=
  ∀ target caller e, enforceTenantAccess app (.analyst target) "mention" caller = .error e →
    ∃ statusCode detail, e = .httpException statusCode detail

/-- `@` and the username, between white space or the ends of the text. -/
def MentionOccurs (text : MentionText) (comment : String) (username : List Char) : Prop :=
  ∃ before after, comment.toList = before ++ '@' :: (username ++ after) ∧
    (∀ c, before.getLast? = some c → text.isSpace c = true) ∧
    (∀ c, after.head? = some c → text.isSpace c = true)

/-- The ids that the request resolves to under the username. -/
def mentionedIds (text : MentionText) (app : App) (analysts : List Analyst)
    (caller : Option Analyst) (comment : String) (u : Analyst) : Except Raised (List Uuid) :=
  (resolveMentions text app analysts (parseMentionTokens text comment) caller).map
    (fun resolved => (resolved.filter (fun m => m.username = u.lowered text)).map (·.analystId))

/-- The usernames that the pattern takes whole. -/
structure TakenWhole (username : List Char) : Prop where
  start : ∃ c, username.head? = some c ∧ startsUsername c = true
  atMost : username.length ≤ 64
  last : ∀ c, username.getLast? = some c → isTail c = false

/-- No other active analyst has the username up to case. -/
def AloneUpToCase (text : MentionText) (analysts : List Analyst) (u : Analyst) : Prop :=
  ∀ v ∈ analysts, v.isActive = true → v.lowered text = u.lowered text → v = u

/-! ## What `resolve_mentions` returns -/

section Resolve

variable (text : MentionText) (app : App)

/-- The entry for a token, if there is one. -/
def mentionFor (candidates : List Analyst) (caller : Option Analyst) (token : String) :
    Option ResolvedMention :=
  match (candidates.filter (fun analyst => analyst.lowered text = token)).getLast? with
  | none => none
  | some target =>
      match enforceTenantAccess app (.analyst target) "mention" caller with
      | .ok () => some ⟨target.lowered text, target.id⟩
      | .error _ => none

variable {text app}

theorem mentionFor_username {candidates : List Analyst} {caller : Option Analyst}
    {token : String} {m : ResolvedMention}
    (h : mentionFor text app candidates caller token = some m) : m.username = token := by
  rw [mentionFor] at h
  split at h
  · cases h
  · rename_i target htarget
    have hmem := List.mem_of_getLast? htarget
    split at h
    · cases h
      exact of_decide_eq_true (List.mem_filter.mp hmem).2
    · cases h

theorem resolveMention_eq (hrefuses : RefusesByAnswer app) (candidates : List Analyst)
    (caller : Option Analyst) (resolved : List ResolvedMention) (token : String) :
    resolveMention text app candidates caller resolved token
      = .ok (resolved ++ (mentionFor text app candidates caller token).toList) := by
  rw [resolveMention, mentionFor]
  cases (candidates.filter (fun analyst => analyst.lowered text = token)).getLast? with
  | none => exact congrArg Except.ok (List.append_nil resolved).symm
  | some target =>
      dsimp only
      cases hcheck : enforceTenantAccess app (.analyst target) "mention" caller with
      | ok done => rfl
      | error e =>
          obtain ⟨statusCode, detail, rfl⟩ := hrefuses target caller e hcheck
          exact congrArg Except.ok (List.append_nil resolved).symm

theorem foldlM_resolveMention (hrefuses : RefusesByAnswer app) (candidates : List Analyst)
    (caller : Option Analyst) (tokens : List String) (resolved : List ResolvedMention) :
    tokens.foldlM (resolveMention text app candidates caller) resolved
      = .ok (resolved ++ tokens.filterMap (mentionFor text app candidates caller)) := by
  induction tokens generalizing resolved with
  | nil => exact congrArg Except.ok (List.append_nil resolved).symm
  | cons token tokens ih =>
      rw [List.foldlM_cons, resolveMention_eq hrefuses]
      show tokens.foldlM _ _ = _
      rw [ih, List.append_assoc]
      cases hentry : mentionFor text app candidates caller token with
      | none => rw [List.filterMap_cons_none hentry]; rfl
      | some m => rw [List.filterMap_cons_some hentry]; rfl

/-- The entries under one token. -/
theorem filter_filterMap_mentionFor {candidates : List Analyst} {caller : Option Analyst}
    {tokens : List String} (hnodup : tokens.Nodup) (token : String) :
    (tokens.filterMap (mentionFor text app candidates caller)).filter
        (fun m => m.username = token)
      = if token ∈ tokens then (mentionFor text app candidates caller token).toList else [] := by
  induction tokens with
  | nil => rfl
  | cons first tokens ih =>
      obtain ⟨hfirst, hrest⟩ := List.nodup_cons.mp hnodup
      rw [List.filterMap_cons]
      by_cases hsame : first = token
      · subst hsame
        rw [if_pos List.mem_cons_self]
        have hnone := ih hrest
        rw [if_neg hfirst] at hnone
        cases hentry : mentionFor text app candidates caller first with
        | none => exact hnone
        | some m =>
            dsimp only
            rw [List.filter_cons_of_pos (by simpa using mentionFor_username hentry), hnone]
            rfl
      · have hmem : token ∈ first :: tokens ↔ token ∈ tokens := by
          rw [List.mem_cons]
          exact ⟨fun h => h.resolve_left (Ne.symm hsame), Or.inr⟩
        rw [← ih hrest |>.trans (if_congr hmem rfl rfl).symm]
        cases hentry : mentionFor text app candidates caller first with
        | none => rfl
        | some m =>
            dsimp only
            rw [List.filter_cons_of_neg]
            rw [mentionFor_username hentry]
            simpa using hsame

end Resolve

/-! ## Tokens and usernames -/

section Usernames

variable {text : MentionText}

theorem inUsername_of_inToken {c : Char} (h : inToken c = true) : inUsername c = true := by
  have halphanum : c.isAlphanum = ((c.isUpper || c.isLower) || c.isDigit) := rfl
  simp only [inToken, startsToken, Bool.or_eq_true] at h
  simp only [inUsername, startsUsername, halphanum, Bool.or_eq_true]
  tauto

theorem lowerAscii_of_inToken {c : Char} (h : inToken c = true) : lowerAscii c = c :=
  (lowerAscii_ascii (inUsername_of_inToken h)).2.2.2.1 h

/-- Lowering a token again changes nothing. -/
theorem lower_token (hpy : text.toPyText.OnAscii) {token : String}
    (h : WellFormedToken token.toList) : String.ofList (text.lower token.toList) = token := by
  rw [lower_of_inUsername hpy (fun c hc => inUsername_of_inToken (h.chars c hc)),
    (List.map_congr_left (fun c hc => lowerAscii_of_inToken (h.chars c hc))).trans
      (List.map_id _), String.ofList_toList]

/-- `resolve_mentions` of the tokens of a text. -/
theorem resolveMentions_eq {app : App} (hpy : text.toPyText.OnAscii)
    (hrefuses : RefusesByAnswer app) (analysts : List Analyst) (comment : String)
    (caller : Option Analyst) :
    resolveMentions text app analysts (parseMentionTokens text comment) caller
      = .ok ((parseMentionTokens text comment).filterMap (mentionFor text app
          (mentionCandidates text analysts (parseMentionTokens text comment)) caller)) := by
  have hlowered : (parseMentionTokens text comment).map
      (fun token => String.ofList (text.lower token.toList)) = parseMentionTokens text comment :=
    (List.map_congr_left (fun token htoken =>
      lower_token hpy (wellFormed_of_mem hpy htoken))).trans (List.map_id _)
  have hnodup := nodup_parseMentionTokens text comment
  rw [resolveMentions, hlowered, distinctOn_of_nodup id (by rwa [List.map_id]),
    foldlM_resolveMention hrefuses, List.nil_append]

/-- What is mentioned under the username of an analyst. -/
theorem mentionedIds_eq {app : App} (hpy : text.toPyText.OnAscii)
    (hrefuses : RefusesByAnswer app) (analysts : List Analyst) (comment : String)
    (caller : Option Analyst) (u : Analyst) :
    mentionedIds text app analysts caller comment u
      = .ok (if u.lowered text ∈ parseMentionTokens text comment then
          ((mentionFor text app (mentionCandidates text analysts
            (parseMentionTokens text comment)) caller (u.lowered text)).toList).map (·.analystId)
        else []) := by
  rw [mentionedIds, resolveMentions_eq hpy hrefuses]
  refine congrArg Except.ok ?_
  dsimp only
  rw [filter_filterMap_mentionFor (nodup_parseMentionTokens text comment)]
  split
  · rfl
  · rfl

/-- The analyst that `found` holds under a lowered username that nobody else has. -/
theorem mentionFor_alone {app : App} {analysts : Table Analyst.id} {u : Analyst}
    {tokens : List String} {caller : Option Analyst} (hu : u ∈ analysts.rows)
    (hactive : u.isActive = true)
    (hsql : String.ofList (text.sqlLower u.username.val.toList) ∈ tokens)
    (halone : AloneUpToCase text analysts.rows u)
    (hvisible : enforceTenantAccess app (.analyst u) "mention" caller = .ok ()) :
    mentionFor text app (mentionCandidates text analysts.rows tokens) caller (u.lowered text)
      = some ⟨u.lowered text, u.id⟩ := by
  have hmem : u ∈ (mentionCandidates text analysts.rows tokens).filter
      (fun analyst => analyst.lowered text = u.lowered text) := by
    refine List.mem_filter.mpr ⟨List.mem_filter.mpr ⟨hu, ?_⟩, decide_eq_true rfl⟩
    rw [hactive, decide_eq_true hsql]
    rfl
  have hlast : ((mentionCandidates text analysts.rows tokens).filter
      (fun analyst => analyst.lowered text = u.lowered text)).getLast? = some u := by
    rw [List.getLast?_eq_some_getLast (List.ne_nil_of_mem hmem)]
    refine congrArg some ?_
    have hlastMem := List.getLast_mem (List.ne_nil_of_mem hmem)
    obtain ⟨hcandidate, hname⟩ := List.mem_filter.mp hlastMem
    obtain ⟨hstored, hrest⟩ := List.mem_filter.mp hcandidate
    exact halone _ hstored ((Bool.and_eq_true _ _).mp hrest).2 (of_decide_eq_true hname)
  rw [mentionFor, hlast]
  dsimp only
  rw [hvisible]

end Usernames

/-! ## Which mentions reach their analyst -/

section Reach

variable {text : MentionText} (htext : text.Documented)
include htext

theorem not_inUsername_of_isSpace {c : Char} (h : text.isSpace c = true) :
    inUsername c = false := by
  rw [Bool.eq_false_iff]
  intro hin
  rw [htext.onAscii.isSpace c (toNat_of_inUsername hin), not_isSpace_of_inUsername hin] at h
  cases h

/-- White space before an `@` is nothing that it could be glued to. -/
theorem unglued_of_spaces {before : List Char}
    (h : ∀ c, before.getLast? = some c → text.isSpace c = true) : Unglued text before := by
  intro c hc
  have hspace := h c hc
  refine ⟨htext.spaces c hspace, ?_, ?_⟩
  · rintro rfl
    rw [htext.onAscii.isSpace '@' (by decide)] at hspace
    revert hspace
    decide
  · rintro rfl
    have hdot := not_inUsername_of_isSpace htext hspace
    revert hdot
    decide

/-- **A username that is taken whole is a token.** -/
theorem lowered_mem_tokens {comment : String} {u : Analyst}
    (halphabet : ∀ c ∈ u.username.val.toList, inUsername c = true)
    (hwhole : TakenWhole u.username.val.toList)
    (hoccurs : MentionOccurs text comment u.username.val.toList) :
    u.lowered text ∈ parseMentionTokens text comment := by
  obtain ⟨before, after, hcomment, hbefore, hafter⟩ := hoccurs
  have hgroup : IsGroup u.username.val.toList after :=
    ⟨hwhole.start, halphabet, hwhole.atMost,
      Or.inr (fun c hc => not_inUsername_of_isSpace htext (hafter c hc))⟩
  have hstripped : stripTail u.username.val.toList = u.username.val.toList :=
    stripTail_eq_self hwhole.last
  have hne : stripTail u.username.val.toList ≠ [] := by
    rw [hstripped]
    obtain ⟨c, hc, -⟩ := hwhole.start
    intro hnil
    rw [hnil] at hc
    cases hc
  have hmention := MentionedAt.intro hcomment (unglued_of_spaces htext hbefore) hgroup hne
  rw [hstripped] at hmention
  exact mem_parseMentionTokens.mpr ⟨before.length, hmention⟩

/-- **A token is taken whole**, and so is a username that lowers to it. -/
theorem takenWhole_of_mem_tokens {comment : String} {u : Analyst}
    (halphabet : ∀ c ∈ u.username.val.toList, inUsername c = true)
    (h : u.lowered text ∈ parseMentionTokens text comment) :
    TakenWhole u.username.val.toList := by
  have htoken := wellFormed_of_mem htext.onAscii h
  have hatMost := length_of_mem htext.onAscii h
  rw [Analyst.lowered, String.toList_ofList, lower_of_inUsername htext.onAscii halphabet]
    at htoken hatMost
  refine ⟨?_, ?_, ?_⟩
  · obtain ⟨c, hc, hstarts⟩ := htoken.start
    rw [List.head?_map] at hc
    obtain ⟨d, hd, rfl⟩ := Option.map_eq_some_iff.mp hc
    exact ⟨d, hd, startsUsername_of_lowerAscii (halphabet d (List.mem_of_head? hd)) hstarts⟩
  · rwa [List.length_map] at hatMost
  · intro c hc
    have hlast := htoken.last (lowerAscii c) (by rw [List.getLast?_map, hc]; rfl)
    rw [← isTail_lowerAscii (halphabet c (List.mem_of_getLast? hc))]
    exact isTail_eq_false.mpr hlast

end Reach

/-- **When a mention reaches the analyst it names.**  Of an active analyst whom the caller may see,
whose username is over the alphabet of the pattern and whose username no other active analyst has
up to case: wherever `@` and the username stand in a comment between white space or the ends of
the text, the mention resolves to exactly that analyst if and only if the username is taken
whole. -/
theorem mention_reaches_iff {text : MentionText} (htext : text.Documented) {app : App}
    (hrefuses : RefusesByAnswer app) (analysts : Table Analyst.id) {caller : Option Analyst}
    {u : Analyst} (hu : u ∈ analysts.rows) (hactive : u.isActive = true)
    (hvisible : enforceTenantAccess app (.analyst u) "mention" caller = .ok ())
    (halphabet : ∀ c ∈ u.username.val.toList, inUsername c = true)
    (halone : AloneUpToCase text analysts.rows u) {comment : String}
    (hoccurs : MentionOccurs text comment u.username.val.toList) :
    mentionedIds text app analysts.rows caller comment u = .ok [u.id] ↔
      TakenWhole u.username.val.toList := by
  rw [mentionedIds_eq htext.onAscii hrefuses]
  constructor
  · intro hreached
    by_cases hmem : u.lowered text ∈ parseMentionTokens text comment
    · exact takenWhole_of_mem_tokens htext halphabet hmem
    · rw [if_neg hmem] at hreached
      cases hreached
  · intro hwhole
    have hmem := lowered_mem_tokens htext halphabet hwhole hoccurs
    have hsql : String.ofList (text.sqlLower u.username.val.toList)
        ∈ parseMentionTokens text comment := by
      rw [htext.sqlLower _ (isAscii_of_inUsername halphabet)]
      rwa [Analyst.lowered, htext.onAscii.lower _ (isAscii_of_inUsername halphabet)] at hmem
    rw [if_pos hmem, mentionFor_alone hu hactive hsql halone hvisible]
    rfl

/-! ## Mentions that do not reach their analyst -/

theorem documented_ascii : MentionText.ascii.Documented where
  onAscii := ascii_onAscii
  sqlLower _ _ := rfl
  spaces := by
    intro c hspace
    rw [Bool.eq_false_iff]
    intro hword
    have hspace : PyText.ascii.isSpace c = true := hspace
    rw [not_isSpace_of_inUsername (inUsername_of_starts hword)] at hspace
    cases hspace

theorem refusesByAnswer_core : RefusesByAnswer .core := by
  intro target caller e h
  cases h

/-- An active analyst. -/
def analystCalled (id : Uuid) (username : Varchar 100) : Analyst where
  id := id
  username := username
  displayName := .lit ""
  isActive := true
  role := .lit "analyst"

/-- The table of one analyst. -/
def onlyAnalyst (u : Analyst) : Table Analyst.id := ⟨[u], List.nodup_singleton u.id⟩

/-- A comment that mentions the active analyst, and is not resolved to exactly that one. -/
structure Missed (analysts : Table Analyst.id) (u : Analyst) (comment : String) : Prop where
  stored : u ∈ analysts.rows
  active : u.isActive = true
  alphabet : u.username.val.toList.all inUsername = true
  occurs : MentionOccurs .ascii comment u.username.val.toList
  missed : mentionedIds .ascii .core analysts.rows none comment u ≠ .ok [u.id]

/-- A comment that is nothing but `@` and the username. -/
theorem missed_of_toOption {analysts : Table Analyst.id} {u : Analyst} {comment : String}
    (hu : u ∈ analysts.rows) (hactive : u.isActive = true)
    (halphabet : u.username.val.toList.all inUsername = true)
    (hcomment : comment.toList = '@' :: u.username.val.toList)
    (hids : (mentionedIds .ascii .core analysts.rows none comment u).toOption ≠ some [u.id]) :
    Missed analysts u comment := by
  refine ⟨hu, hactive, halphabet, ⟨[], [], ?_, ?_, ?_⟩, ?_⟩
  · rw [hcomment, List.append_nil]
    rfl
  · intro c hc
    cases hc
  · intro c hc
    cases hc
  · intro hreached
    exact hids (congrArg Except.toOption hreached)

/-- A username of sixty-five characters. -/
def longNamed : Analyst :=
  analystCalled 1 (.lit "aaaaaaaaaaaaaaaaaaaaaaaaaaaaaaaaaaaaaaaaaaaaaaaaaaaaaaaaaaaaaaaaa")

def upperBo : Analyst := analystCalled 1 (.lit "Bo")

def bo : Analyst := analystCalled 2 (.lit "bo")

theorem bothBos_nodup : ([upperBo, bo].map Analyst.id).Nodup := by decide

/-- Two analysts whose usernames differ in case. -/
def bothBos : Table Analyst.id := ⟨[upperBo, bo], bothBos_nodup⟩

/-- Punctuation at the end of a username is stripped, a hyphen or a dot at its beginning is not
matched, the sixty-fifth character is cut off; and of two analysts with one lowered username the
later row is notified for both. -/
theorem mentions_missed :
    Missed (onlyAnalyst (analystCalled 1 (.lit "bo_")))
        (analystCalled 1 (.lit "bo_")) "@bo_" ∧
      Missed (onlyAnalyst (analystCalled 1 (.lit "-bo")))
        (analystCalled 1 (.lit "-bo")) "@-bo" ∧
      Missed (onlyAnalyst (analystCalled 1 (.lit ".bo")))
        (analystCalled 1 (.lit ".bo")) "@.bo" ∧
      Missed (onlyAnalyst longNamed) longNamed
        "@aaaaaaaaaaaaaaaaaaaaaaaaaaaaaaaaaaaaaaaaaaaaaaaaaaaaaaaaaaaaaaaaa" ∧
      Missed bothBos upperBo "@Bo" := by
  refine ⟨?_, ?_, ?_, ?_, ?_⟩
  · exact missed_of_toOption List.mem_cons_self rfl (by decide +kernel) (by decide +kernel)
      (by decide +kernel)
  · exact missed_of_toOption List.mem_cons_self rfl (by decide +kernel) (by decide +kernel)
      (by decide +kernel)
  · exact missed_of_toOption List.mem_cons_self rfl (by decide +kernel) (by decide +kernel)
      (by decide +kernel)
  · exact missed_of_toOption List.mem_cons_self rfl (by decide +kernel) (by decide +kernel)
      (by decide +kernel)
  · exact missed_of_toOption List.mem_cons_self rfl (by decide +kernel) (by decide +kernel)
      (by decide +kernel)

theorem mention_reaches_iff_bo :
    mentionedIds .ascii .core (onlyAnalyst bo).rows none "ask @bo first" bo = .ok [bo.id] := by
  refine (mention_reaches_iff documented_ascii refusesByAnswer_core (onlyAnalyst bo)
    List.mem_cons_self rfl rfl ?_ ?_ ?_).mpr ?_
  · exact List.all_eq_true.mp (by decide +kernel)
  · intro v hv _ _
    exact List.mem_singleton.mp hv
  · refine ⟨"ask ".toList, " first".toList, by decide +kernel, ?_, ?_⟩
    · intro c hc
      cases hc
      decide
    · intro c hc
      cases hc
      decide
  · refine ⟨⟨'b', by decide +kernel, by decide +kernel⟩, by decide +kernel, ?_⟩
    intro c hc
    have hlast : bo.username.val.toList.getLast? = some 'o' := by decide +kernel
    rw [hlast] at hc
    cases hc
    decide +kernel

end OpenSoar
