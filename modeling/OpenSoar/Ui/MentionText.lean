/-
# `OpenSoar.Ui.MentionText` — the mentions that a reader sees

`ui/src/components/mentions/MentionText.tsx` shows a comment with its mentions as pills.  It finds
them with the server's pattern, in which the browser takes `\w` for the ASCII word characters, and
makes pills of those that are among the usernames that the server has stored with the comment.

What is shown is the text (`shown_mentionText`), and the pills stand at the mentions of the
resolved usernames as the browser finds them (`mem_pillSites`).  The browser finds every
mention that the server does, and besides only those behind a word character that is not ASCII
(`mentionedAt_browser_iff`).  So in every run of requests each username stored with a comment is
shown as a pill where the server found it (`stored_mentions_are_shown`).
-/
import OpenSoar.Api.Suggestions
import OpenSoar.Comments.Notifications
import OpenSoar.Comments.Reach

namespace OpenSoar

open Python Scan

/-! ## The component -/

/-- The tables of a browser: `\w` is `[A-Za-z0-9_]`, and `toLowerCase` on ASCII text. -/
structure MentionText.IsBrowser (browser : MentionText) : Prop where
  word : ∀ c, browser.isWord c = startsUsername c
  lower : ∀ s, IsAscii s → browser.lower s = PyText.ascii.lower s

/-- A child of the rendered `span`: text, or a link to an analyst. -/
inductive MentionPart where
  | text (shown : List Char)
  | pill (username : List Char) (link : String)
deriving DecidableEq

def MentionPart.shown : MentionPart → List Char
  | .text shown => shown
  | .pill username _ => '@' :: username

/-- `text.matchAll(MENTION_PATTERN)`, with the index of each match. -/
def matchAll (browser : MentionText) (comment : List Char) : List (Nat × List Char) :=
  scanSites (mentionAt browser) List.length none 0 0 comment

/-- `/settings/analysts/${lower}`. -/
def analystLink (lower : String) : String := "/settings/analysts/" ++ lower

/-- The loop over the matches; the number is `lastIndex`. -/
def renderMatches (browser : MentionText) (resolved : List String) (comment : List Char) :
    Nat → List (Nat × List Char) → List MentionPart
  | lastIndex, [] =>
      if lastIndex < comment.length then [.text (comment.drop lastIndex)] else []
  | lastIndex, (index, group) :: found =>
      let username := stripTail group
      if username = [] then renderMatches browser resolved comment lastIndex found
      else
        let lower := String.ofList (browser.lower username)
        let before : List MentionPart :=
          if lastIndex < index then [.text ((comment.take index).drop lastIndex)] else []
        let mention : MentionPart :=
          if resolved.contains lower then .pill username (analystLink lower)
          else .text ('@' :: username)
        -- the punctuation that was stripped from the username is text
        let trailing := group.drop username.length
        let after : List MentionPart := if trailing = [] then [] else [.text trailing]
        before ++ mention :: (after ++
          renderMatches browser resolved comment (index + (1 + group.length)) found)

/-- `new Set(mentions.map((m) => m.toLowerCase()))`. -/
def loweredMentions (browser : MentionText) (mentions : List String) : List String :=
  mentions.map (fun m => String.ofList (browser.lower m.toList))

/-- `MentionText`. -/
def mentionText (browser : MentionText) (comment : String) (mentions : List String) :
    List MentionPart :=
  renderMatches browser (loweredMentions browser mentions) comment.toList 0
    (matchAll browser comment.toList)

/-- The pills, each with the number of characters shown before it, from `n` on. -/
def pillSites : Nat → List MentionPart → List (Nat × String)
  | _, [] => []
  | n, .text shown :: parts => pillSites (n + shown.length) parts
  | n, .pill username link :: parts =>
      (n, link) :: pillSites (n + (username.length + 1)) parts

/-! ## What is shown -/

section Render

variable {browser : MentionText} {comment : List Char}

/-- The matches are those of all mentions. -/
theorem matchAll_eq (browser : MentionText) (comment : String) :
    matchAll browser comment.toList = mentionSites browser comment := by
  refine @scanSites_eq_sites _ _ (mentionAt browser) List.length (fun c => c = '@') ?_ ?_ _ _ _ _
    (fun y hy => absurd hy List.not_mem_nil)
  · intro before x xs group hmatch
    obtain ⟨after, hshape, -, -⟩ := mentionAt_eq_some_iff.mp hmatch
    cases hshape
    rfl
  · intro before x xs group hmatch y hy
    obtain ⟨after, hshape, -, hgroup⟩ := mentionAt_eq_some_iff.mp hmatch
    cases hshape
    rw [List.take_left] at hy
    exact not_at_of_inUsername (hgroup.chars y hy)

/-- Matches that stand in the text one after another, none before `n`. -/
inductive MatchesInOrder (comment : List Char) : Nat → List (Nat × List Char) → Prop
  | nil {n : Nat} : n ≤ comment.length → MatchesInOrder comment n []
  | cons {n : Nat} {before group after : List Char} {found : List (Nat × List Char)} :
      comment = before ++ '@' :: (group ++ after) → n ≤ before.length →
      MatchesInOrder comment (before.length + (1 + group.length)) found →
      MatchesInOrder comment n ((before.length, group) :: found)

/-- The text of a group that leaves a username, with the punctuation behind it. -/
theorem stripTail_drop (group : List Char) :
    stripTail group ++ group.drop (stripTail group).length = group := by
  obtain ⟨tail, hgroup, -⟩ := stripTail_append group
  conv_lhs => rw [hgroup]
  conv_rhs => rw [hgroup]
  have hself : stripTail (stripTail group ++ tail) = stripTail group := by rw [← hgroup]
  rw [hself, List.drop_left]

theorem shown_text (shown : List Char) :
    (if shown = [] then [] else [MentionPart.text shown]).flatMap MentionPart.shown = shown := by
  split
  · rename_i h
    exact h.symm
  · exact List.append_nil _

/-- A slice, where the component leaves out an empty one. -/
theorem shown_slice (before rest : List Char) (m : Nat) :
    (if m < before.length then
      [MentionPart.text (((before ++ rest).take before.length).drop m)]
      else []).flatMap MentionPart.shown = before.drop m := by
  rw [List.take_left]
  split
  · exact List.append_nil _
  · rename_i hge
    rw [List.drop_of_length_le (Nat.le_of_not_lt hge)]
    rfl

/-- What is shown from an index on is the text from there on. -/
theorem shown_renderMatches (resolved : List String) {n : Nat} {found : List (Nat × List Char)}
    (h : MatchesInOrder comment n found) {m : Nat} (hm : m ≤ n) :
    (renderMatches browser resolved comment m found).flatMap MentionPart.shown =
      comment.drop m := by
  induction h generalizing m with
  | @nil n hn =>
      rw [renderMatches]
      split
      · exact List.append_nil _
      · rename_i hge
        rw [List.drop_of_length_le (Nat.le_of_not_lt hge)]
        rfl
  | @cons n before group after found hcomment hn hrest ih =>
      rw [renderMatches]
      by_cases hempty : stripTail group = []
      · -- a group of punctuation only: its text is shown with what follows
        simp only [hempty, if_true]
        exact ih (by omega)
      · have hrest := ih le_rfl
        have hmention : ∀ link, (if resolved.contains (String.ofList (browser.lower
            (stripTail group))) then MentionPart.pill (stripTail group) link
            else .text ('@' :: stripTail group)).shown = '@' :: stripTail group := by
          intro link
          split <;> rfl
        simp only [hempty, if_false, List.flatMap_append, List.flatMap_cons, hmention, shown_text]
        rw [hrest, hcomment, shown_slice, List.drop_append_of_le_length
          (hm.trans hn)]
        have hbehind : (before ++ '@' :: (group ++ after)).drop
            (before.length + (1 + group.length)) = after := by
          rw [← List.drop_drop, List.drop_left, Nat.add_comm 1, List.drop_succ_cons,
            List.drop_left]
        rw [hbehind, List.cons_append, ← List.append_assoc (stripTail group), stripTail_drop]

/-! ## Where the pills stand -/

theorem pillSites_append (parts parts' : List MentionPart) (n : Nat) :
    pillSites n (parts ++ parts') =
      pillSites n parts ++ pillSites (n + (parts.flatMap MentionPart.shown).length) parts' := by
  induction parts generalizing n with
  | nil => rfl
  | cons part parts ih =>
      rw [List.flatMap_cons, List.length_append, ← Nat.add_assoc]
      cases part with
      | text shown => exact ih (n + shown.length)
      | pill username link =>
          exact congrArg (List.cons (n, link)) (ih (n + (username.length + 1)))

/-- Text has no pills. -/
theorem pillSites_text {p : Prop} [Decidable p] (n : Nat) (shown : List Char) :
    pillSites n (if p then [.text shown] else []) = [] ∧
      pillSites n (if p then [] else [.text shown]) = [] := by
  split <;> exact ⟨rfl, rfl⟩

/-- The pill of a match, if the server has resolved its username. -/
def sitePill (browser : MentionText) (resolved : List String) (site : Nat × List Char) :
    Option (Nat × String) :=
  ((siteToken browser site).filter (fun mention => resolved.contains mention.2)).map
    (fun mention => (mention.1, analystLink mention.2))

theorem sitePill_some {resolved : List String} {site : Nat × List Char}
    (h : stripTail site.2 ≠ []) : sitePill browser resolved site =
      if resolved.contains (String.ofList (browser.lower (stripTail site.2))) then
        some (site.1, analystLink (String.ofList (browser.lower (stripTail site.2))))
      else none := by
  rw [sitePill, siteToken_some h, Option.filter_some]
  split <;> rfl

/-- The pills stand at the matches. -/
theorem pillSites_renderMatches (resolved : List String) {n : Nat}
    {found : List (Nat × List Char)} (h : MatchesInOrder comment n found) {m : Nat} (hm : m ≤ n) :
    pillSites m (renderMatches browser resolved comment m found) =
      found.filterMap (sitePill browser resolved) := by
  induction h generalizing m with
  | @nil n hn =>
      rw [renderMatches, List.filterMap_nil]
      split <;> rfl
  | @cons n before group after found hcomment hn hrest ih =>
      rw [renderMatches]
      by_cases hempty : stripTail group = []
      · have hnone : sitePill browser resolved (before.length, group) = none := by
          rw [sitePill, siteToken_nil hempty]
          rfl
        simp only [hempty, if_true]
        rw [List.filterMap_cons_none hnone]
        exact ih (by omega)
      · have hlength : (stripTail group).length + (group.drop (stripTail group).length).length =
            group.length := by
          rw [← List.length_append, stripTail_drop]
        have hslice := congrArg List.length (shown_slice before ('@' :: (group ++ after)) m)
        rw [List.length_drop, ← hcomment] at hslice
        have hbehind : ∀ k, k = before.length + ((stripTail group).length + 1) →
            pillSites k ((if group.drop (stripTail group).length = [] then [] else
                [.text (group.drop (stripTail group).length)]) ++
              renderMatches browser resolved comment (before.length + (1 + group.length)) found) =
            found.filterMap (sitePill browser resolved) := by
          intro k hk
          rw [pillSites_append, (pillSites_text k _).2, List.nil_append, shown_text]
          have hnext : k + (group.drop (stripTail group).length).length =
              before.length + (1 + group.length) := by omega
          rw [hnext]
          exact ih le_rfl
        have hindex : m + (before.length - m) = before.length := by omega
        simp only [hempty, if_false]
        rw [pillSites_append, hslice, hindex, (pillSites_text m _).1, List.nil_append]
        cases hresolved : resolved.contains (String.ofList (browser.lower (stripTail group))) with
        | true =>
            have hpill : sitePill browser resolved (before.length, group) = some (before.length,
                analystLink (String.ofList (browser.lower (stripTail group)))) :=
              (sitePill_some hempty).trans (if_pos hresolved)
            rw [List.filterMap_cons_some hpill]
            exact congrArg (List.cons _) (hbehind _ rfl)
        | false =>
            have hnone : sitePill browser resolved (before.length, group) = none :=
              (sitePill_some hempty).trans (if_neg (by rw [hresolved]; decide))
            rw [List.filterMap_cons_none hnone]
            exact hbehind _ rfl

/-! ## The matches of a text -/

/-- No match begins within another: a group has no `@` in it. -/
theorem group_passed {before group after before' after' : List Char}
    (hcomment : comment = before ++ '@' :: (group ++ after))
    (hcomment' : comment = before' ++ '@' :: after') (hlt : before.length < before'.length)
    (hgroup : '@' ∉ group) : before.length + (1 + group.length) ≤ before'.length := by
  by_contra hinside
  have hat : comment[before'.length]? = some '@' := by
    rw [hcomment', List.getElem?_append_right le_rfl, Nat.sub_self]
    rfl
  obtain ⟨k, hk⟩ : ∃ k, before'.length = before.length + (k + 1) := ⟨_, (by omega : _ =
    before.length + ((before'.length - before.length - 1) + 1))⟩
  rw [hcomment, hk, List.getElem?_append_right (by omega), Nat.add_sub_cancel_left,
    List.getElem?_cons_succ, List.getElem?_append_left (by omega)] at hat
  exact hgroup (List.mem_of_getElem? hat)

theorem matchesInOrder_of_ascending {found : List (Nat × List Char)} {n : Nat}
    (hn : n ≤ comment.length) (hfrom : ∀ site ∈ found, n ≤ site.1)
    (hshape : ∀ site ∈ found, ∃ before after, comment = before ++ '@' :: (site.2 ++ after) ∧
      site.1 = before.length ∧ '@' ∉ site.2)
    (hascend : found.Pairwise (fun a b => a.1 < b.1)) : MatchesInOrder comment n found := by
  induction found generalizing n with
  | nil => exact .nil hn
  | cons site found ih =>
      obtain ⟨before, after, hcomment, hi, hgroup⟩ := hshape site List.mem_cons_self
      obtain ⟨hlater, hrest⟩ := List.pairwise_cons.mp hascend
      obtain ⟨i, group⟩ := site
      obtain rfl : i = before.length := hi
      have hcomment : comment = before ++ '@' :: (group ++ after) := hcomment
      refine .cons hcomment (hfrom _ List.mem_cons_self) (ih ?_ ?_ ?_ hrest)
      · rw [hcomment, List.length_append, List.length_cons, List.length_append]
        omega
      · intro site hsite
        obtain ⟨before', after', hcomment', hi', -⟩ := hshape site (List.mem_cons_of_mem _ hsite)
        rw [hi']
        exact group_passed hcomment hcomment' (hi' ▸ hlater site hsite) hgroup
      · exact fun site hsite => hshape site (List.mem_cons_of_mem _ hsite)

theorem matchesInOrder_matchAll (browser : MentionText) (comment : String) :
    MatchesInOrder comment.toList 0 (matchAll browser comment.toList) := by
  rw [matchAll_eq]
  refine matchesInOrder_of_ascending (Nat.zero_le _) (fun _ _ => Nat.zero_le _) ?_
    (sites_ascend comment.toList none 0)
  rintro ⟨i, group⟩ hsite
  obtain ⟨before, after, hcomment, hi, -, hgroup⟩ := mem_mentionSites.mp hsite
  exact ⟨before, after, hcomment, hi, fun hat => not_at_of_inUsername (hgroup.chars '@' hat) rfl⟩

/-- **What is shown is the text.** -/
theorem shown_mentionText (browser : MentionText) (comment : String) (mentions : List String) :
    (mentionText browser comment mentions).flatMap MentionPart.shown = comment.toList :=
  (shown_renderMatches _ (matchesInOrder_matchAll browser comment) le_rfl).trans List.drop_zero

/-- **The pills** stand at the mentions, as the browser finds them, of the usernames. -/
theorem mem_pillSites {comment : String} {mentions : List String} {i : Nat} {link : String} :
    (i, link) ∈ pillSites 0 (mentionText browser comment mentions) ↔
      ∃ token ∈ loweredMentions browser mentions, MentionedAt browser comment i token ∧
        link = analystLink token := by
  rw [mentionText, pillSites_renderMatches _ (matchesInOrder_matchAll browser comment) le_rfl,
    matchAll_eq, List.mem_filterMap]
  constructor
  · rintro ⟨site, hsite, hpill⟩
    obtain ⟨mention, hmention, hlink⟩ := Option.map_eq_some_iff.mp hpill
    obtain ⟨htoken, hresolved⟩ := Option.filter_eq_some_iff.mp hmention
    cases hlink
    exact ⟨mention.2, List.contains_iff_mem.mp hresolved,
      mem_mentionTokens.mp (List.mem_filterMap.mpr ⟨site, hsite, htoken⟩), rfl⟩
  · rintro ⟨token, hresolved, hmention, rfl⟩
    obtain ⟨site, hsite, htoken⟩ := List.mem_filterMap.mp (mem_mentionTokens.mpr hmention)
    refine ⟨site, hsite, ?_⟩
    rw [sitePill, htoken, Option.filter_some, if_pos (List.contains_iff_mem.mpr hresolved)]
    rfl

end Render

/-! ## The browser's mentions and the server's -/

section Agree

variable {text browser : MentionText}

/-- The text before an `@` ends in a word character that is not an ASCII one. -/
def ForeignWordBefore (text : MentionText) (comment : String) (i : Nat) : Prop :=
  ∃ c, (comment.toList.take i).getLast? = some c ∧ text.isWord c = true ∧ 128 ≤ c.toNat

/-- What Python's `\w` is on ASCII text. -/
def MentionText.WordOnAscii (text : MentionText) : Prop :=
  ∀ c : Char, c.toNat < 128 → text.isWord c = startsUsername c

/-- **The browser finds every mention that the server does**, and those behind a word character
that is not ASCII besides. -/
theorem mentionedAt_browser_iff (hpy : text.toPyText.OnAscii) (hword : text.WordOnAscii)
    (hbrowser : browser.IsBrowser) {comment : String} {i : Nat} {token : String} :
    MentionedAt text comment i token ↔
      MentionedAt browser comment i token ∧ ¬ ForeignWordBefore text comment i := by
  have hlower : ∀ {group after : List Char}, IsGroup group after →
      browser.lower (stripTail group) = text.lower (stripTail group) := by
    intro group after hgroup
    have hascii := isAscii_of_inUsername (inUsername_of_stripTail hgroup.chars)
    rw [hbrowser.lower _ hascii, hpy.lower _ hascii]
  have hbefore : ∀ {before back : List Char}, comment.toList = before ++ back →
      comment.toList.take before.length = before := by
    intro before back hcomment
    rw [hcomment, List.take_left]
  constructor
  · intro h
    cases h with
    | @intro before group after hcomment hunglued hgroup hne =>
        refine ⟨?_, ?_⟩
        · rw [← hlower hgroup]
          refine .intro hcomment ?_ hgroup hne
          intro c hc
          obtain ⟨hnot, hat, hdot⟩ := hunglued c hc
          refine ⟨?_, hat, hdot⟩
          rw [hbrowser.word]
          cases hstarts : startsUsername c with
          | false => rfl
          | true =>
              rw [hword c (toNat_of_inUsername (inUsername_of_starts hstarts)), hstarts] at hnot
              cases hnot
        · rintro ⟨c, hc, hwordC, -⟩
          rw [hbefore hcomment] at hc
          rw [(hunglued c hc).1] at hwordC
          cases hwordC
  · rintro ⟨h, hforeign⟩
    cases h with
    | @intro before group after hcomment hunglued hgroup hne =>
        rw [hlower hgroup]
        refine .intro hcomment ?_ hgroup hne
        intro c hc
        obtain ⟨hnot, hat, hdot⟩ := hunglued c hc
        refine ⟨?_, hat, hdot⟩
        rw [hbrowser.word] at hnot
        by_cases hascii : c.toNat < 128
        · rw [hword c hascii, hnot]
        · cases hisWord : text.isWord c with
          | false => rfl
          | true =>
              exact absurd ⟨c, by rw [hbefore hcomment]; exact hc, hisWord,
                Nat.le_of_not_lt hascii⟩ hforeign

end Agree

/-! ## Over whole runs -/

section Runs

variable {text : MentionText} {app : App} {s s' : Server}

/-- The usernames stored with a comment are tokens of its text. -/
def ActivityEntry.MentionsTokens (text : MentionText) (row : ActivityEntry) : Prop :=
  ∀ names, row.mentions = some names → ∃ comment, row.detail = some comment ∧
    ∀ name ∈ names, name ∈ parseMentionTokens text comment

/-- Rows that were there, rows without mentions, and comments whose mentions were resolved. -/
def RowsFrom (text : MentionText) (app : App) (s s' : Server) : Prop :=
  ∀ row ∈ s'.activities.rows, row ∈ s.activities.rows ∨ row.mentions = none ∨
    ∃ analysts comment caller resolved,
      resolveCommentMentions text app analysts comment caller = .ok resolved ∧
      row.detail = some comment ∧ row.mentions = some (resolved.map ResolvedMention.username)

theorem rowsFrom_of_eq (h : s'.activities = s.activities) : RowsFrom text app s s' := by
  intro row hrow
  rw [h] at hrow
  exact Or.inl hrow

theorem rowsFrom_of_added {added : List ActivityEntry}
    (h : s'.activities.rows = s.activities.rows ++ added)
    (hadded : ∀ row ∈ added, row.mentions = none) : RowsFrom text app s s' := by
  intro row hrow
  rw [h] at hrow
  exact (List.mem_append.mp hrow).imp id (fun hnew => Or.inl (hadded row hnew))

theorem absorb_rowsFrom {newId : Nat → Uuid} {store : Store}
    (h : s.absorb newId store = .ok s') : RowsFrom text app s s' := by
  obtain ⟨activities, hfold, h⟩ := bind_ok h
  cases h
  refine rowsFrom_of_added (foldlM_addActivity hfold) (fun row hrow => ?_)
  obtain ⟨numbered, -, rfl⟩ := List.mem_map.mp hrow
  rfl

theorem onDb_rowsFrom {α : Type} {request : ApiRequest} {handler : Db → Except Raised (Db × α)}
    (h : (s.onDb request handler).mapError RetentionRaised.request = .ok s') :
    RowsFrom text app s s' := by
  obtain ⟨answer, -, h⟩ := bind_ok (mapError_ok h)
  exact absorb_rowsFrom h

theorem onStore_rowsFrom {α : Type} {request : ApiRequest}
    {handler : Store → Except Raised (Store × α)}
    (h : (s.onStore request handler).mapError RetentionRaised.request = .ok s') :
    RowsFrom text app s s' := by
  obtain ⟨answer, -, h⟩ := bind_ok (mapError_ok h)
  exact absorb_rowsFrom h

theorem link_rowsFrom {py : PyText} {now : Timestamp} {newId : Nat → Uuid} {call : LinkCall}
    (h : (s.link py app now newId call).mapError RetentionRaised.request = .ok s') :
    RowsFrom text app s s' := by
  obtain ⟨found, -, h⟩ := bind_ok (mapError_ok h)
  obtain ⟨db, -, h⟩ := bind_ok h
  obtain ⟨after, hafter, h⟩ := bind_ok h
  cases h
  have hrows : RowsFrom text app s after := absorb_rowsFrom hafter
  exact hrows

theorem comment_rowsFrom {now : Timestamp} {commentId : Uuid} {alertId incidentId : Option Uuid}
    {comment : String} {analyst : Analyst}
    (h : s.comment text app now commentId alertId incidentId comment analyst = .ok s') :
    RowsFrom text app s s' := by
  obtain ⟨resolved, hresolved, h⟩ := bind_ok h
  obtain ⟨activities, hadd, h⟩ := bind_ok h
  cases h
  intro row hrow
  have hrow : row ∈ activities.rows := hrow
  rw [(Table.insert?_some (orRaise_ok hadd)).2] at hrow
  rcases List.mem_append.mp hrow with hold | hnew
  · exact Or.inl hold
  · refine Or.inr (Or.inr ⟨_, comment, _, resolved, hresolved, ?_, ?_⟩)
    all_goals
      rw [List.mem_singleton.mp hnew]
      rfl

theorem editComment_rowsFrom {now : Timestamp} {commentId : Uuid} {isOn : ActivityEntry → Bool}
    {comment : String} {analyst : Analyst}
    (h : s.editComment text app now commentId isOn comment analyst = .ok s') :
    RowsFrom text app s s' := by
  obtain ⟨activity, history, resolved, hfound, -, -, hresolved, rfl⟩ := editComment_found h
  have hkey : activity.key = commentId := Table.find?_key hfound
  intro row hrow
  rcases (Table.mem_set (a := activity.edited now (history ++ [activity.edit]) comment
    (resolved.map (·.username))) (hkey.symm ▸ hfound)).mp hrow with rfl | ⟨hold, -⟩
  · exact Or.inr (Or.inr ⟨_, comment, _, resolved, hresolved, rfl, rfl⟩)
  · exact Or.inl hold

theorem executeAction_rowsFrom {py : PyText} {now : Timestamp} {activityId : Uuid}
    {body : ActionExecuteRequest} {ran : Except String Dict} {caller : Option Analyst}
    {answer : Server × ActionExecuteResponse}
    (h : executeAction py app now activityId body ran caller s = .ok answer) :
    RowsFrom text app s answer.1 := by
  obtain ⟨analyst, -, h⟩ := bind_ok h
  split at h
  · cases h
    exact rowsFrom_of_eq rfl
  · split at h
    · cases h
      exact rowsFrom_of_eq rfl
    · obtain ⟨alertId, -, h⟩ := bind_ok h
      obtain ⟨activities, hadd, h⟩ := bind_ok h
      cases h
      refine rowsFrom_of_added (Table.insert?_some (orRaise_ok hadd)).2 (fun row hrow => ?_)
      rw [List.mem_singleton.mp hrow]
      rfl

/-- **Where the rows come from** that a request leaves. -/
theorem apiStep_rowsFrom {caller : Option Analyst} {request : ApiRequest}
    (h : apiStep text app caller s request = .ok s') : RowsFrom text app s s' := by
  obtain ⟨now, rowId, newId, op⟩ := request
  cases op with
  | read endpoint =>
      cases h
      exact rowsFrom_of_eq rfl
  | updateAlert alertId update => exact onDb_rowsFrom h
  | claimAlert alertId => exact onDb_rowsFrom h
  | bulkUpdateAlerts body => exact onDb_rowsFrom h
  | deleteAlert alertId =>
      obtain ⟨store, -, h⟩ := bind_ok h
      cases h
      exact fun row hrow => Or.inl (List.mem_of_mem_filter hrow)
  | createOrLinkIncidentForAlert alertId data => exact link_rowsFrom h
  | addComment alertId comment =>
      obtain ⟨analyst, -, h⟩ := bind_ok (mapError_ok h)
      obtain ⟨-, -, h⟩ := bind_ok h
      exact comment_rowsFrom h
  | editComment alertId edited comment =>
      obtain ⟨analyst, -, h⟩ := bind_ok (mapError_ok h)
      obtain ⟨-, -, h⟩ := bind_ok h
      exact editComment_rowsFrom h
  | createIncident data =>
      obtain ⟨answer, -, h⟩ := bind_ok (mapError_ok h)
      obtain ⟨after, hafter, h⟩ := bind_ok h
      cases h
      have hrows : RowsFrom text app s after := absorb_rowsFrom hafter
      exact hrows
  | updateIncident incidentId update => exact onStore_rowsFrom h
  | linkAlert incidentId alertId => exact link_rowsFrom h
  | unlinkAlert incidentId alertId => exact link_rowsFrom h
  | createIncidentObservable incidentId data => exact onStore_rowsFrom h
  | addIncidentComment incidentId comment =>
      obtain ⟨analyst, -, h⟩ := bind_ok (mapError_ok h)
      obtain ⟨-, -, h⟩ := bind_ok h
      exact comment_rowsFrom h
  | editIncidentComment incidentId edited comment =>
      obtain ⟨analyst, -, h⟩ := bind_ok (mapError_ok h)
      obtain ⟨-, -, h⟩ := bind_ok h
      exact editComment_rowsFrom h
  | createObservable data => exact onStore_rowsFrom h
  | addEnrichment observableId data =>
      obtain ⟨obs, -, h⟩ := bind_ok (mapError_ok h)
      cases h
      exact rowsFrom_of_eq rfl
  | invalidateObservableEnrichment observableId source =>
      obtain ⟨answer, -, h⟩ := bind_ok (mapError_ok h)
      cases h
      exact rowsFrom_of_eq rfl
  | reloadPlaybooks newId declared =>
      obtain ⟨⟨registry, db⟩, -, h⟩ := bind_ok (mapError_ok h)
      cases db with
      | ok db => cases h; exact rowsFrom_of_eq rfl
      | error e => cases h; exact rowsFrom_of_eq rfl
  | updatePlaybook playbookId update =>
      obtain ⟨db, -, h⟩ := bind_ok (mapError_ok h)
      cases h
      exact rowsFrom_of_eq rfl
  | runPlaybook playbookId runRequest =>
      obtain ⟨task, -, h⟩ := bind_ok (mapError_ok h)
      cases h
      exact rowsFrom_of_eq rfl
  | executeAction body ran =>
      obtain ⟨answer, hanswer, rfl⟩ := map_ok (mapError_ok h)
      exact executeAction_rowsFrom hanswer

/-- Whoever is resolved was mentioned. -/
theorem resolved_mem_tokens (hpy : text.toPyText.OnAscii) {analysts : List Analyst}
    {comment : String} {caller : Option Analyst} {resolved : List ResolvedMention}
    (h : resolveCommentMentions text app analysts comment caller = .ok resolved) {name : String}
    (hname : name ∈ resolved.map ResolvedMention.username) :
    name ∈ parseMentionTokens text comment := by
  obtain ⟨kept, hkept, hnames⟩ := foldlM_resolveMention_usernames h
  rw [hnames] at hname
  have hmem := mem_distinctOn_id.mp (hkept.mem hname)
  obtain ⟨token, htoken, rfl⟩ := List.mem_map.mp hmem
  rwa [lower_token hpy (wellFormed_of_mem hpy htoken)]

/-- In every run the stored usernames are tokens of the stored text. -/
theorem run_mentionsTokens (hpy : text.toPyText.OnAscii)
    (hs : ∀ row ∈ s.activities.rows, row.mentions = none)
    (calls : List (Option Analyst × ApiRequest)) :
    ∀ row ∈ (run (callStep text app) s calls).activities.rows, row.MentionsTokens text := by
  refine run_inv_of_step (callStep text app)
    (I := fun s => ∀ row ∈ s.activities.rows, row.MentionsTokens text) ?_ calls s ?_
  · intro s call s' hrows hstep row hrow names hnames
    rcases apiStep_rowsFrom hstep row hrow with hold | hnone |
      ⟨analysts, comment, caller, resolved, hresolved, hdetail, hmentions⟩
    · exact hrows row hold names hnames
    · cases hnone.symm.trans hnames
    · cases hmentions.symm.trans hnames
      exact ⟨comment, hdetail, fun name hname => resolved_mem_tokens hpy hresolved hname⟩
  · intro row hrow names hnames
    cases (hs row hrow).symm.trans hnames

variable {browser : MentionText}

/-- Stored usernames are in lower case already. -/
theorem loweredMentions_tokens (hpy : text.toPyText.OnAscii) (hbrowser : browser.IsBrowser)
    {comment : String} {names : List String}
    (h : ∀ name ∈ names, name ∈ parseMentionTokens text comment) :
    loweredMentions browser names = names := by
  refine (List.map_congr_left (fun name hname => ?_)).trans (List.map_id _)
  have htoken := wellFormed_of_mem hpy (h name hname)
  have hascii : IsAscii name.toList := isAscii_of_inUsername (fun c hc =>
    inUsername_of_inToken (htoken.chars c hc))
  rw [hbrowser.lower _ hascii]
  exact @lower_token .ascii ascii_onAscii name htoken

/-- **Stored mentions are shown.**  In every run of requests from a server without comments,
whatever comment is there at the end: the page shows its text, with a pill for a stored username
wherever the server finds it mentioned, and where an `@` stands behind a word character that is not
ASCII; and no stored username is without a pill. -/
theorem stored_mentions_are_shown (htext : text.Documented) (hword : text.WordOnAscii)
    (hbrowser : browser.IsBrowser) (app : App)
    (hs : ∀ row ∈ s.activities.rows, row.mentions = none)
    (calls : List (Option Analyst × ApiRequest)) {row : ActivityEntry} {names : List String}
    (hrow : row ∈ (run (callStep text app) s calls).activities.rows)
    (hnames : row.mentions = some names) :
    ∃ comment, row.detail = some comment ∧
      (mentionText browser comment names).flatMap MentionPart.shown = comment.toList ∧
      (∀ i link, (i, link) ∈ pillSites 0 (mentionText browser comment names) ↔
        ∃ name ∈ names, link = analystLink name ∧
          (MentionedAt text comment i name ∨
            MentionedAt browser comment i name ∧ ForeignWordBefore text comment i)) ∧
      ∀ name ∈ names, ∃ i, MentionedAt text comment i name ∧
        (i, analystLink name) ∈ pillSites 0 (mentionText browser comment names) := by
  obtain ⟨comment, hdetail, htokens⟩ := run_mentionsTokens htext.onAscii hs calls row hrow names
    hnames
  have hlowered := loweredMentions_tokens htext.onAscii hbrowser htokens
  have hiff : ∀ {i : Nat} {name : String}, MentionedAt text comment i name ↔
      MentionedAt browser comment i name ∧ ¬ ForeignWordBefore text comment i :=
    mentionedAt_browser_iff htext.onAscii hword hbrowser
  refine ⟨comment, hdetail, shown_mentionText browser comment names, ?_, ?_⟩
  · intro i link
    rw [mem_pillSites, hlowered]
    refine exists_congr fun name => and_congr_right fun _ => ?_
    rw [and_comm]
    refine and_congr_right fun _ => ?_
    rw [hiff]
    tauto
  · intro name hname
    obtain ⟨i, hmention⟩ := mem_parseMentionTokens.mp (htokens name hname)
    refine ⟨i, hmention, mem_pillSites.mpr ⟨name, by rwa [hlowered], (hiff.mp hmention).1, rfl⟩⟩

end Runs

/-! ## One comment -/

theorem isBrowser_ascii : MentionText.ascii.IsBrowser := ⟨fun _ => rfl, fun _ _ => rfl⟩

/-- The viewer mentions herself. -/
def veraMentioned : Server :=
  run (callStep .ascii .core) beaconServer
    [(some viewer, requestOf (.addComment 1 "see @Vera."))]

theorem veraMentioned_row : ∃ row ∈ veraMentioned.activities.rows,
    row.detail = some "see @Vera." ∧ row.mentions = some ["vera"] := by
  have hrow : (veraMentioned.activities.rows.map (fun row => (row.detail, row.mentions))) =
      [(some "see @Vera.", some ["vera"])] := by decide +kernel
  have hmem : (some "see @Vera.", some ["vera"]) ∈
      veraMentioned.activities.rows.map (fun row => (row.detail, row.mentions)) :=
    hrow ▸ List.mem_cons_self
  obtain ⟨row, hin, hcolumns⟩ := List.mem_map.mp hmem
  exact ⟨row, hin, congrArg Prod.fst hcolumns, congrArg Prod.snd hcolumns⟩

theorem vera_is_shown : ∃ i, MentionedAt .ascii "see @Vera." i "vera" ∧
    (i, analystLink "vera") ∈ pillSites 0 (mentionText .ascii "see @Vera." ["vera"]) := by
  obtain ⟨row, hrow, hdetail, hmentions⟩ := veraMentioned_row
  obtain ⟨comment, hcomment, -, -, hshown⟩ := stored_mentions_are_shown documented_ascii
    (fun _ _ => rfl) isBrowser_ascii .core (fun _ h => absurd h List.not_mem_nil) _ hrow hmentions
  cases hdetail.symm.trans hcomment
  exact hshown "vera" List.mem_cons_self

example : mentionText .ascii "ask @Bo. or @ana" ["bo"] =
    [.text "ask ".toList, .pill "Bo".toList "/settings/analysts/bo", .text ".".toList,
      .text " or ".toList, .text "@ana".toList] := by
  decide +kernel

end OpenSoar
