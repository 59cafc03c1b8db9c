/-
# `OpenSoar.Comments.Tokens` — the mentions of a text, and their tokens

What `parse_mention_tokens` returns, said without a scan.  A mention stands at a position of the
text (`MentionedAt`): an `@` that is not glued to a word, a longest group of at most 64
characters behind it, and the token is the group without the punctuation at its end, in lower
case.  No group contains an `@`, so the scanner passes over no mention (`findMentions_eq`), and the
tokens are those of all mentions, each at its first one (`mention_tokens_wellFormed`).
-/
import Mathlib.Data.List.TakeWhile
import OpenSoar.Comments.Mentions
import OpenSoar.Lib.Scan
import OpenSoar.Python.Ascii

namespace OpenSoar

open Python Scan

/-! ## Mentions -/

/-- The text before an `@` ends in no word character, `@` or `.`. -/
def Unglued (text : MentionText) (before : List Char) : Prop :=
  ∀ c, before.getLast? = some c → text.isWord c = false ∧ c ≠ '@' ∧ c ≠ '.'

/-- The longest text behind an `@` that the group of the pattern matches. -/
structure IsGroup (group after : List Char) : Prop where
  start : ∃ c, group.head? = some c ∧ startsUsername c = true
  chars : ∀ c ∈ group, inUsername c = true
  atMost : group.length ≤ 64
  longest : group.length = 64 ∨ ∀ c, after.head? = some c → inUsername c = false

/-- A mention of the token, by the `@` at this position. -/
inductive MentionedAt (text : MentionText) (comment : String) : Nat → String → Prop
  | intro {before group after : List Char} :
      comment.toList = before ++ '@' :: (group ++ after) → Unglued text before →
      IsGroup group after → stripTail group ≠ [] →
      MentionedAt text comment before.length (String.ofList (text.lower (stripTail group)))

/-- `[a-z0-9_]`. -/
def startsToken (c : Char) : Bool := c.isLower || c.isDigit || c == '_'

/-- `[a-z0-9_.-]`. -/
def inToken (c : Char) : Bool := startsToken c || c == '.' || c == '-'

/-- A token that can be looked up without further processing. -/
structure WellFormedToken (token : List Char) : Prop where
  chars : ∀ c ∈ token, inToken c = true
  start : ∃ c, token.head? = some c ∧ startsToken c = true
  last : ∀ c, token.getLast? = some c → c ≠ '.' ∧ c ≠ '-' ∧ c ≠ '_'

/-- The tokens are well formed and distinct, in the order of their first mentions, and those of the
mentions in the text. -/
structure TokensOf (text : MentionText) (comment : String) (tokens : List String) : Prop where
  distinct : tokens.Nodup
  wellFormed : ∀ token ∈ tokens, WellFormedToken token.toList
  ordered : tokens.Pairwise (fun token token' => ∃ i j,
    IsLeast {i | MentionedAt text comment i token} i ∧
      IsLeast {j | MentionedAt text comment j token'} j ∧ i < j)
  mentioned : ∀ token ∈ tokens, ∃ i, MentionedAt text comment i token
  contributes : ∀ before c after, comment.toList = before ++ '@' :: c :: after →
    Unglued text before → c.isAlphanum = true →
    ∃ token ∈ tokens, MentionedAt text comment before.length token

/-! ## The group behind an `@` -/

/-- A longest group is what the pattern takes. -/
theorem take_takeWhile {p : Char → Bool} {n : Nat} {group after : List Char}
    (hchars : ∀ c ∈ group, p c = true) (hatMost : group.length ≤ n)
    (hlongest : group.length = n ∨ ∀ c, after.head? = some c → p c = false) :
    ((group ++ after).takeWhile p).take n = group := by
  rw [List.takeWhile_append_of_pos hchars]
  rcases hlongest with hfull | hend
  · rw [← hfull, List.take_left]
  · have hnone : after.takeWhile p = [] := by
      cases after with
      | nil => rfl
      | cons c after => exact List.takeWhile_cons_of_neg (by rw [hend c rfl]; decide)
    rw [hnone, List.append_nil, List.take_of_length_le hatMost]

/-- And what the pattern takes is a longest group. -/
theorem take_takeWhile_longest {p : Char → Bool} (n : Nat) (cs : List Char) :
    ∃ after, cs = (cs.takeWhile p).take n ++ after ∧
      (((cs.takeWhile p).take n).length = n ∨ ∀ c, after.head? = some c → p c = false) := by
  refine ⟨(cs.takeWhile p).drop n ++ cs.dropWhile p, ?_, ?_⟩
  · rw [← List.append_assoc, List.take_append_drop, List.takeWhile_append_dropWhile]
  · by_cases hlong : n ≤ (cs.takeWhile p).length
    · exact Or.inl (List.length_take_of_le hlong)
    · refine Or.inr ?_
      rw [List.drop_of_length_le (by omega), List.nil_append]
      intro c hc
      have hnot := List.head?_dropWhile_not p cs
      rw [hc] at hnot
      exact hnot

theorem inUsername_of_starts {c : Char} (h : startsUsername c = true) : inUsername c = true := by
  rw [inUsername, h]
  rfl

theorem not_at_of_inUsername {c : Char} (h : inUsername c = true) : c ≠ '@' := by
  rintro rfl
  revert h
  decide

/-- The look-behind, by the text before. -/
theorem mayPrecede_iff {text : MentionText} {before : List Char} :
    mayPrecede text before.getLast? = true ↔ Unglued text before := by
  rw [mayPrecede, Option.all_eq_true]
  constructor
  · intro h c hc
    have hbefore := h c hc
    simp only [Bool.not_eq_true', Bool.or_eq_false_iff, beq_eq_false_iff_ne] at hbefore
    exact ⟨hbefore.1.1, hbefore.1.2, hbefore.2⟩
  · intro h c hc
    obtain ⟨hword, hat, hdot⟩ := h c hc
    simp only [Bool.not_eq_true', Bool.or_eq_false_iff, beq_eq_false_iff_ne]
    exact ⟨⟨hword, hat⟩, hdot⟩

/-- **What the pattern matches at a position.** -/
theorem mentionAt_eq_some_iff {text : MentionText} {before : Option Char}
    {back group : List Char} :
    mentionAt text before back = some group ↔ ∃ after, back = '@' :: (group ++ after) ∧
      mayPrecede text before = true ∧ IsGroup group after := by
  constructor
  · intro h
    unfold mentionAt at h
    split at h
    · rename_i c cs
      split at h
      · rename_i hstart
        obtain ⟨hprecede, hstarts⟩ := (Bool.and_eq_true _ _).mp hstart
        cases h
        obtain ⟨after, hcs, hlongest⟩ := take_takeWhile_longest (p := inUsername) 63 cs
        refine ⟨after, ?_, hprecede, ?_⟩
        · rw [List.cons_append, ← hcs]
        · refine ⟨⟨c, rfl, hstarts⟩, ?_, ?_, ?_⟩
          · intro d hd
            rcases List.mem_cons.mp hd with rfl | hd
            · exact inUsername_of_starts hstarts
            · exact List.mem_takeWhile_imp (List.mem_of_mem_take hd)
          · rw [List.length_cons, List.length_take]
            omega
          · refine hlongest.imp_left (fun hfull => ?_)
            rw [List.length_cons, hfull]
      · cases h
    · cases h
  · rintro ⟨after, rfl, hprecede, hgroup⟩
    obtain ⟨c, hc, hstarts⟩ := hgroup.start
    cases group with
    | nil => cases hc
    | cons d rest =>
        obtain rfl : d = c := Option.some.inj hc
        have hchars : ∀ e ∈ rest, inUsername e = true :=
          fun e he => hgroup.chars e (List.mem_cons_of_mem d he)
        have hatMost : rest.length ≤ 63 := Nat.le_of_succ_le_succ hgroup.atMost
        have hlongest : rest.length = 63 ∨ ∀ e, after.head? = some e → inUsername e = false :=
          hgroup.longest.imp_left (fun hfull => Nat.succ.inj hfull)
        show (if mayPrecede text before && startsUsername d then
          some (d :: ((rest ++ after).takeWhile inUsername).take 63) else none) = _
        rw [hprecede, hstarts, take_takeWhile hchars hatMost hlongest]
        rfl

/-! ## The scanner finds all mentions -/

theorem findMentions_eq_scan (text : MentionText) (cs : List Char) (before : Option Char)
    (k : Nat) : findMentions text before k cs = scan (mentionAt text) List.length before k cs := by
  induction cs generalizing before k with
  | nil => rfl
  | cons c cs ih =>
      cases k with
      | succ k => exact ih (some c) k
      | zero =>
          rw [findMentions, scan]
          cases mentionAt text before (c :: cs) with
          | none => exact ih (some c) 0
          | some group => exact congrArg (List.cons group) (ih (some c) group.length)

/-- The groups, with their positions. -/
def mentionSites (text : MentionText) (comment : String) : List (Nat × List Char) :=
  sites (mentionAt text) none 0 comment.toList

/-- No group has an `@` in it, so that no mention is passed over. -/
theorem findMentions_eq (text : MentionText) (comment : String) :
    findMentions text none 0 comment.toList = (mentionSites text comment).map Prod.snd := by
  rw [findMentions_eq_scan]
  refine @scan_eq_sites _ _ (mentionAt text) List.length (fun c => c = '@') ?_ ?_ _ _ _ _
    (fun y hy => absurd hy List.not_mem_nil)
  · intro before x xs group hmatch
    obtain ⟨after, hshape, -, -⟩ := mentionAt_eq_some_iff.mp hmatch
    cases hshape
    rfl
  · intro before x xs group hmatch y hy
    obtain ⟨after, hshape, -, hgroup⟩ := mentionAt_eq_some_iff.mp hmatch
    cases hshape
    rw [List.take_left] at hy
    exact not_at_of_inUsername (hgroup.chars y hy)

theorem mem_mentionSites {text : MentionText} {comment : String} {i : Nat} {group : List Char} :
    (i, group) ∈ mentionSites text comment ↔ ∃ before after,
      comment.toList = before ++ '@' :: (group ++ after) ∧ i = before.length ∧
      Unglued text before ∧ IsGroup group after := by
  rw [mentionSites, mem_sites]
  constructor
  · rintro ⟨before, x, back, hcomment, hi, hmatch⟩
    rw [Option.or_none] at hmatch
    obtain ⟨after, hshape, hprecede, hgroup⟩ := mentionAt_eq_some_iff.mp hmatch
    exact ⟨before, after, hshape ▸ hcomment, hi.trans (Nat.zero_add _),
      mayPrecede_iff.mp hprecede, hgroup⟩
  · rintro ⟨before, after, hcomment, hi, hunglued, hgroup⟩
    refine ⟨before, '@', group ++ after, hcomment, hi.trans (Nat.zero_add _).symm, ?_⟩
    rw [Option.or_none]
    exact mentionAt_eq_some_iff.mpr ⟨after, rfl, mayPrecede_iff.mpr hunglued, hgroup⟩

/-! ## The form of a token -/

/-- `lower` of one ASCII character. -/
def lowerAscii (c : Char) : Char := if 'A' ≤ c ∧ c ≤ 'Z' then Char.ofNat (c.toNat + 32) else c

/-- A check of the ASCII characters one by one. -/
theorem forall_ascii {p : Char → Bool} (h : (List.range 128).all (fun n => p (Char.ofNat n)) = true)
    {c : Char} (hc : c.toNat < 128) : p c = true := by
  have hmem := List.all_eq_true.mp h c.toNat (List.mem_range.mpr hc)
  rwa [Char.ofNat_toNat] at hmem

theorem toNat_of_isAlphanum {c : Char} (h : c.isAlphanum = true) : c.toNat < 128 := by
  change ((decide (c.val ≥ 65 ∧ c.val ≤ 90) ||
    (decide (c.val ≥ 97) && decide (c.val ≤ 122))) ||
    (decide (c.val ≥ 48) && decide (c.val ≤ 57))) = true at h
  simp only [Bool.or_eq_true, Bool.and_eq_true, decide_eq_true_eq, ge_iff_le,
    UInt32.le_iff_toNat_le] at h
  change ((65 ≤ c.toNat ∧ c.toNat ≤ 90) ∨ (97 ≤ c.toNat ∧ c.toNat ≤ 122)) ∨
    (48 ≤ c.toNat ∧ c.toNat ≤ 57) at h
  omega

theorem toNat_of_inUsername {c : Char} (h : inUsername c = true) : c.toNat < 128 := by
  simp only [inUsername, startsUsername, Bool.or_eq_true, beq_iff_eq] at h
  rcases h with ((halphanum | rfl) | rfl) | rfl
  · exact toNat_of_isAlphanum halphanum
  · decide
  · decide
  · decide

theorem isAscii_of_inUsername {group : List Char} (h : ∀ c ∈ group, inUsername c = true) :
    IsAscii group :=
  fun c hc => toNat_of_inUsername (h c hc)

/-- The punctuation that is stripped from the end of a group. -/
def isTail (c : Char) : Bool := c == '.' || c == '-' || c == '_'

/-- What lowering does to the characters of usernames, which are no white space. -/
theorem lowerAscii_ascii {c : Char} (h : inUsername c = true) :
    inToken (lowerAscii c) = true ∧
      (startsToken (lowerAscii c) = true ↔ startsUsername c = true) ∧
      isTail (lowerAscii c) = isTail c ∧ (inToken c = true → lowerAscii c = c) ∧
      PyText.ascii.isSpace c = false := by
  have hall := @forall_ascii (fun c => decide (inUsername c = true → inToken (lowerAscii c) = true ∧
    (startsToken (lowerAscii c) = true ↔ startsUsername c = true) ∧
    isTail (lowerAscii c) = isTail c ∧ (inToken c = true → lowerAscii c = c) ∧
    PyText.ascii.isSpace c = false)) (by decide +kernel) c (toNat_of_inUsername h)
  exact of_decide_eq_true hall h

theorem inToken_lowerAscii {c : Char} (h : inUsername c = true) :
    inToken (lowerAscii c) = true := (lowerAscii_ascii h).1

theorem startsToken_lowerAscii {c : Char} (h : startsUsername c = true) :
    startsToken (lowerAscii c) = true :=
  (lowerAscii_ascii (inUsername_of_starts h)).2.1.mpr h

theorem startsUsername_of_lowerAscii {c : Char} (h : inUsername c = true)
    (hstarts : startsToken (lowerAscii c) = true) : startsUsername c = true :=
  (lowerAscii_ascii h).2.1.mp hstarts

theorem isTail_lowerAscii {c : Char} (h : inUsername c = true) :
    isTail (lowerAscii c) = isTail c := (lowerAscii_ascii h).2.2.1

theorem not_isSpace_of_inUsername {c : Char} (h : inUsername c = true) :
    PyText.ascii.isSpace c = false := (lowerAscii_ascii h).2.2.2.2

theorem isTail_eq_false {c : Char} : isTail c = false ↔ c ≠ '.' ∧ c ≠ '-' ∧ c ≠ '_' := by
  simp only [isTail, Bool.or_eq_false_iff, beq_eq_false_iff_ne, and_assoc]

/-! ### Stripping the end -/

/-- The group is what is left and the punctuation behind it. -/
theorem stripTail_append (group : List Char) :
    ∃ tail, group = stripTail group ++ tail ∧ ∀ c ∈ tail, isTail c = true := by
  refine ⟨(group.reverse.takeWhile isTail).reverse, ?_, ?_⟩
  · have hsplit := List.takeWhile_append_dropWhile (p := isTail) (l := group.reverse)
    have hreversed := congrArg List.reverse hsplit
    rw [List.reverse_append, List.reverse_reverse] at hreversed
    exact hreversed.symm
  · intro c hc
    exact List.mem_takeWhile_imp (List.mem_reverse.mp hc)

theorem inUsername_of_stripTail {group : List Char} (h : ∀ c ∈ group, inUsername c = true) :
    ∀ c ∈ stripTail group, inUsername c = true := by
  obtain ⟨tail, happend, -⟩ := stripTail_append group
  intro c hc
  refine h c ?_
  rw [happend]
  exact List.mem_append_left tail hc

theorem getLast?_stripTail {group : List Char} {c : Char}
    (h : (stripTail group).getLast? = some c) : isTail c = false := by
  have hhead := List.head?_dropWhile_not isTail group.reverse
  rw [stripTail, List.getLast?_reverse] at h
  have h : (group.reverse.dropWhile isTail).head? = some c := h
  rw [h] at hhead
  exact hhead

/-- What does not end in punctuation is left as it is. -/
theorem stripTail_eq_self {group : List Char}
    (h : ∀ c, group.getLast? = some c → isTail c = false) : stripTail group = group := by
  obtain ⟨tail, hgroup, htail⟩ := stripTail_append group
  cases tail using List.reverseRecOn with
  | nil => rw [List.append_nil] at hgroup; exact hgroup.symm
  | append_singleton tail c =>
      have hlast : group.getLast? = some c := by
        rw [hgroup, ← List.append_assoc, List.getLast?_concat]
      have hboth := (htail c (List.mem_append_right _ (List.mem_singleton_self c))).symm.trans
        (h c hlast)
      cases hboth

theorem head?_stripTail {group : List Char} (h : stripTail group ≠ []) :
    (stripTail group).head? = group.head? := by
  obtain ⟨tail, hgroup, -⟩ := stripTail_append group
  conv_rhs => rw [hgroup]
  cases hstripped : stripTail group with
  | nil => exact absurd hstripped h
  | cons c rest => rfl

/-- A group that begins with a letter or a digit leaves a token. -/
theorem stripTail_ne_nil {group : List Char} {c : Char} (hc : group.head? = some c)
    (hstart : isTail c = false) : stripTail group ≠ [] := by
  intro hnil
  obtain ⟨tail, hgroup, htail⟩ := stripTail_append group
  rw [hnil, List.nil_append] at hgroup
  have hmem : c ∈ group := List.mem_of_head? hc
  rw [htail c (hgroup ▸ hmem)] at hstart
  cases hstart

/-! ### Lowering what is left -/

section Lower

variable {text : MentionText} (hpy : text.toPyText.OnAscii)
include hpy

theorem lower_of_inUsername {group : List Char} (h : ∀ c ∈ group, inUsername c = true) :
    text.lower group = group.map lowerAscii :=
  hpy.lower group (isAscii_of_inUsername h)

/-- **A token is well formed.** -/
theorem wellFormed_of_group {group after : List Char} (hgroup : IsGroup group after)
    (hne : stripTail group ≠ []) : WellFormedToken (text.lower (stripTail group)) := by
  have hchars := inUsername_of_stripTail hgroup.chars
  rw [lower_of_inUsername hpy hchars]
  refine ⟨?_, ?_, ?_⟩
  · intro c hc
    obtain ⟨d, hd, rfl⟩ := List.mem_map.mp hc
    exact inToken_lowerAscii (hchars d hd)
  · obtain ⟨c, hc, hstarts⟩ := hgroup.start
    refine ⟨lowerAscii c, ?_, startsToken_lowerAscii hstarts⟩
    rw [List.head?_map, head?_stripTail hne, hc]
    rfl
  · intro c hc
    rw [List.getLast?_map] at hc
    obtain ⟨d, hd, rfl⟩ := Option.map_eq_some_iff.mp hc
    refine isTail_eq_false.mp ?_
    rw [isTail_lowerAscii (hchars d (List.mem_of_getLast? hd))]
    exact getLast?_stripTail hd

end Lower

/-! ## The tokens of a text are those of its mentions -/

/-- The token of a group, if it leaves one. -/
def siteToken (text : MentionText) (site : Nat × List Char) : Option (Nat × String) :=
  if stripTail site.2 = [] then none
  else some (site.1, String.ofList (text.lower (stripTail site.2)))

theorem siteToken_nil {text : MentionText} {site : Nat × List Char} (h : stripTail site.2 = []) :
    siteToken text site = none := if_pos h

theorem siteToken_some {text : MentionText} {site : Nat × List Char} (h : stripTail site.2 ≠ []) :
    siteToken text site = some (site.1, String.ofList (text.lower (stripTail site.2))) := if_neg h

/-- The mentions of a text, with their tokens. -/
def mentionTokens (text : MentionText) (comment : String) : List (Nat × String) :=
  (mentionSites text comment).filterMap (siteToken text)

theorem mem_mentionTokens {text : MentionText} {comment : String} {i : Nat} {token : String} :
    (i, token) ∈ mentionTokens text comment ↔ MentionedAt text comment i token := by
  rw [mentionTokens, List.mem_filterMap]
  constructor
  · rintro ⟨⟨j, group⟩, hsite, htoken⟩
    obtain ⟨before, after, hcomment, rfl, hunglued, hgroup⟩ := mem_mentionSites.mp hsite
    by_cases hne : stripTail group = []
    · rw [siteToken_nil hne] at htoken
      cases htoken
    · rw [siteToken_some hne] at htoken
      cases htoken
      exact .intro hcomment hunglued hgroup hne
  · intro h
    cases h with
    | @intro before group after hcomment hunglued hgroup hne =>
        refine ⟨(before.length, group), ?_, siteToken_some hne⟩
        exact mem_mentionSites.mpr ⟨before, after, hcomment, rfl, hunglued, hgroup⟩

theorem mentionTokens_ascend (text : MentionText) (comment : String) :
    (mentionTokens text comment).Pairwise (fun a b => a.1 < b.1) := by
  rw [mentionTokens, List.pairwise_filterMap]
  refine (sites_ascend comment.toList none 0).imp ?_
  intro site site' hlt a ha b hb
  have hposition {site : Nat × List Char} {a : Nat × String} (h : siteToken text site = some a) :
      a.1 = site.1 := by
    by_cases hne : stripTail site.2 = []
    · rw [siteToken_nil hne] at h
      cases h
    · rw [siteToken_some hne] at h
      cases h
      rfl
  rw [hposition ha, hposition hb]
  exact hlt

/-- `parse_mention_tokens` keeps the first of each. -/
theorem parseMentionTokens_eq (text : MentionText) (comment : String) :
    parseMentionTokens text comment
      = distinctOn id ((mentionTokens text comment).map Prod.snd) := by
  have htokens (sites : List (Nat × List Char)) :
      (((sites.map Prod.snd).map stripTail).filter (· ≠ [])).map
        (fun raw => String.ofList (text.lower raw))
        = (sites.filterMap (siteToken text)).map Prod.snd := by
    induction sites with
    | nil => rfl
    | cons site sites ih =>
        by_cases hempty : stripTail site.2 = []
        · rw [List.filterMap_cons_none (siteToken_nil hempty), ← ih, List.map_cons, List.map_cons,
            List.filter_cons_of_neg (by rw [hempty]; decide)]
        · have hkept : decide (stripTail site.2 ≠ []) = true := decide_eq_true hempty
          rw [List.filterMap_cons_some (siteToken_some hempty), List.map_cons, List.map_cons,
            List.map_cons, List.filter_cons_of_pos (by exact hkept), List.map_cons, ih]
  rw [parseMentionTokens, findMentions_eq, mentionTokens]
  exact congrArg (distinctOn id) (htokens (mentionSites text comment))

theorem mem_parseMentionTokens {text : MentionText} {comment token : String} :
    token ∈ parseMentionTokens text comment ↔ ∃ i, MentionedAt text comment i token := by
  rw [parseMentionTokens_eq, mem_distinctOn_id, List.mem_map]
  constructor
  · rintro ⟨⟨i, token⟩, hmem, rfl⟩
    exact ⟨i, mem_mentionTokens.mp hmem⟩
  · rintro ⟨i, h⟩
    exact ⟨(i, token), mem_mentionTokens.mpr h, rfl⟩

/-- An `@` before a letter or a digit begins a mention. -/
theorem exists_mentionedAt {text : MentionText} {comment : String} {before after : List Char}
    {c : Char} (hcomment : comment.toList = before ++ '@' :: c :: after)
    (hunglued : Unglued text before) (hc : c.isAlphanum = true) :
    ∃ token, MentionedAt text comment before.length token := by
  have hstart : startsUsername c = true := by
    rw [startsUsername, hc]
    rfl
  have htail : isTail c = false := by
    have hall := @forall_ascii (fun c => !c.isAlphanum || !isTail c) (by decide +kernel) c
      (toNat_of_isAlphanum hc)
    rwa [hc, Bool.not_true, Bool.false_or, Bool.not_eq_true'] at hall
  have hmatch : mentionAt text before.getLast? ('@' :: c :: after)
      = some (c :: (after.takeWhile inUsername).take 63) := by
    rw [mentionAt, mayPrecede_iff.mpr hunglued, hstart]
    rfl
  obtain ⟨rest, hshape, -, hgroup⟩ := mentionAt_eq_some_iff.mp hmatch
  exact ⟨_, .intro (hshape ▸ hcomment) hunglued hgroup (stripTail_ne_nil rfl htail)⟩

theorem nodup_parseMentionTokens (text : MentionText) (comment : String) :
    (parseMentionTokens text comment).Nodup := by
  have hnodup := nodup_distinctOn id ((mentionTokens text comment).map Prod.snd)
  rwa [List.map_id, ← parseMentionTokens_eq] at hnodup

theorem wellFormed_of_mem {text : MentionText} (hpy : text.toPyText.OnAscii)
    {comment token : String} (h : token ∈ parseMentionTokens text comment) :
    WellFormedToken token.toList := by
  obtain ⟨i, hmention⟩ := mem_parseMentionTokens.mp h
  cases hmention with
  | intro hcomment hunglued hgroup hne =>
      rw [String.toList_ofList]
      exact wellFormed_of_group hpy hgroup hne

theorem length_of_mem {text : MentionText} (hpy : text.toPyText.OnAscii)
    {comment token : String} (h : token ∈ parseMentionTokens text comment) :
    token.toList.length ≤ 64 := by
  obtain ⟨i, hmention⟩ := mem_parseMentionTokens.mp h
  cases hmention with
  | @intro before group after hcomment hunglued hgroup hne =>
      obtain ⟨tail, happend, -⟩ := stripTail_append group
      have hatMost := hgroup.atMost
      rw [happend, List.length_append] at hatMost
      rw [String.toList_ofList, lower_of_inUsername hpy (inUsername_of_stripTail hgroup.chars),
        List.length_map]
      omega

/-- **Mention tokens are well formed.**  Whatever the text, the tokens of a comment are distinct
and well formed, in the order of their first mentions; each is mentioned in the text, and every
`@` that begins a mention has its token among them. -/
theorem mention_tokens_wellFormed (text : MentionText) (hpy : text.toPyText.OnAscii)
    (comment : String) : TokensOf text comment (parseMentionTokens text comment) where
  distinct := nodup_parseMentionTokens text comment
  wellFormed := by
    intro token htoken
    exact wellFormed_of_mem hpy htoken
  ordered := by
    rw [parseMentionTokens_eq, pairwise_distinctOn_iff]
    intro token htoken token' htoken' hlt
    obtain ⟨i, j, hi, hj, hij⟩ :=
      first_lt_of_idxOf_lt (mentionTokens_ascend text comment) htoken htoken' hlt
    simp only [mem_mentionTokens] at hi hj
    exact ⟨i, j, hi, hj, hij⟩
  mentioned := by
    intro token htoken
    exact mem_parseMentionTokens.mp htoken
  contributes := by
    intro before c after hcomment hunglued hc
    obtain ⟨token, hmention⟩ := exists_mentionedAt hcomment hunglued hc
    exact ⟨token, mem_parseMentionTokens.mpr ⟨_, hmention⟩, hmention⟩

theorem mention_tokens_wellFormed_three :
    TokensOf .ascii "@Bo, see a@b.com and @@ana: @bo."
      (parseMentionTokens .ascii "@Bo, see a@b.com and @@ana: @bo.") :=
  mention_tokens_wellFormed .ascii ascii_onAscii _

end OpenSoar
