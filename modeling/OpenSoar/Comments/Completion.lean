/-
# `OpenSoar.Comments.Completion` — a username written into a comment

What it does to the mentions of a comment that `@`, a username and a blank are written between two
parts of it.  The mentions in the two parts are those that the parts have by themselves, and the
username is mentioned: exactly when it is made of the characters of the pattern and taken whole and
the `@` is not glued to the text before (`mentionsOnly_iff`).  Blanks at the ends of a comment are
of no consequence to its tokens (`parseMentionTokens_stripBy`).
-/
import OpenSoar.Comments.Reach

namespace OpenSoar

open Python Scan

/-- The text behind a group of the pattern ends it. -/
def EndsGroup (after : List Char) : Prop := ∀ c, after.head? = some c → inUsername c = false

/-- `@`, the username and a blank between two parts of a comment. -/
def completed (front username back : List Char) : List Char :=
  front ++ '@' :: (username ++ ' ' :: back)

/-- The mentions are those of the two parts and, between them, that of the username. -/
def MentionsOnly (text : MentionText) (front username back : List Char) : Prop :=
  mentionTokens text (String.ofList (completed front username back)) =
    mentionTokens text (String.ofList front) ++
      (front.length, String.ofList (text.lower username)) ::
        (mentionTokens text (String.ofList back)).map
          (fun mention => (mention.1 + (front.length + (username.length + 2)), mention.2))

section Sites

variable {text : MentionText}

/-- A match does not look behind the end of its group. -/
theorem mentionAt_append {after : List Char} (hends : EndsGroup after) (before : Option Char)
    (c : Char) (cs : List Char) :
    mentionAt text before (c :: (cs ++ after)) = mentionAt text before (c :: cs) := by
  refine Option.ext fun group => ?_
  rw [mentionAt_eq_some_iff, mentionAt_eq_some_iff]
  constructor
  · rintro ⟨rest, hshape, hprecede, hgroup⟩
    obtain ⟨rfl, hrest⟩ := List.cons.inj hshape
    -- the group stops where the text behind begins
    rcases List.append_eq_append_iff.mp hrest with ⟨overlap, hgroupEq, hafter⟩ |
      ⟨behind, hcs, hrest⟩
    · have hnone : overlap = [] := by
        cases overlap with
        | nil => rfl
        | cons d overlap =>
            have hin := hgroup.chars d (hgroupEq ▸ List.mem_append_right cs List.mem_cons_self)
            rw [hends d (by rw [hafter]; rfl)] at hin
            cases hin
      rw [hnone, List.append_nil] at hgroupEq
      refine ⟨[], by rw [hgroupEq, List.append_nil], hprecede, hgroup.start, hgroup.chars,
        hgroup.atMost, Or.inr (fun d hd => by cases hd)⟩
    · refine ⟨behind, by rw [hcs], hprecede, hgroup.start, hgroup.chars, hgroup.atMost,
        hgroup.longest.imp_right (fun hstop d hd => hstop d ?_)⟩
      rw [hrest, List.head?_append, hd]
      rfl
  · rintro ⟨rest, hshape, hprecede, hgroup⟩
    obtain ⟨rfl, hrest⟩ := List.cons.inj hshape
    refine ⟨rest ++ after, by rw [hrest, List.append_assoc], hprecede, hgroup.start, hgroup.chars,
      hgroup.atMost, hgroup.longest.imp_right (fun hstop d hd => ?_)⟩
    cases rest with
    | nil => exact hends d hd
    | cons e rest => exact hstop d hd

/-- Where there is no `@`, no mention begins. -/
theorem mentionAt_of_ne {c : Char} (hc : c ≠ '@') (before : Option Char) (back : List Char) :
    mentionAt text before (c :: back) = none := by
  rw [Option.eq_none_iff_forall_ne_some]
  intro group hmatch
  obtain ⟨after, hshape, -, -⟩ := mentionAt_eq_some_iff.mp hmatch
  exact hc (List.cons.inj hshape).1

/-- A character that no mention is glued to is as good as the beginning of the text. -/
theorem mentionAt_of_mayPrecede {before : Option Char} (h : mayPrecede text before = true)
    (cs : List Char) : mentionAt text before cs = mentionAt text none cs := by
  refine Option.ext fun group => ?_
  rw [mentionAt_eq_some_iff, mentionAt_eq_some_iff, h]
  exact Iff.rfl

end Sites

/-! ## The mentions of the parts -/

section Parts

variable {text : MentionText}

/-- The tokens of sites that are counted from another number. -/
theorem filterMap_siteToken_add (found : List (Nat × List Char)) (k : Nat) :
    (found.map (fun site => (site.1 + k, site.2))).filterMap (siteToken text) =
      (found.filterMap (siteToken text)).map (fun mention => (mention.1 + k, mention.2)) := by
  induction found with
  | nil => rfl
  | cons site found ih =>
      rw [List.map_cons]
      by_cases hempty : stripTail site.2 = []
      · rw [List.filterMap_cons_none (siteToken_nil hempty),
          List.filterMap_cons_none (@siteToken_nil text (site.1 + k, site.2) hempty), ih]
      · rw [List.filterMap_cons_some (siteToken_some hempty),
          List.filterMap_cons_some (@siteToken_some text (site.1 + k, site.2) hempty), ih,
          List.map_cons]

/-- The sites of a text behind a character that no mention is glued to. -/
theorem sites_behind {before : Option Char} (h : mayPrecede text before = true) (n : Nat)
    (cs : List Char) : (sites (mentionAt text) before n cs).filterMap (siteToken text) =
      (mentionTokens text (String.ofList cs)).map (fun mention => (mention.1 + n, mention.2)) := by
  rw [sites_congr_before (mentionAt_of_mayPrecede h cs), ← Nat.zero_add n, sites_add,
    filterMap_siteToken_add, mentionTokens, mentionSites, String.toList_ofList, Nat.zero_add]

/-- The username itself, with the blank behind it, has no mentions in it. -/
theorem sites_username {username : List Char} (hchars : ∀ c ∈ username, inUsername c = true)
    (back : List Char) (before : Option Char) (n : Nat) :
    sites (mentionAt text) before n (username ++ ' ' :: back) =
      sites (mentionAt text) (some ' ') (n + (username.length + 1)) back := by
  have hnone : ∀ before, ∀ c ∈ username ++ [' '], ∀ behind,
      mentionAt text before (c :: behind) = none := by
    intro before c hc behind
    refine mentionAt_of_ne ?_ before behind
    rcases List.mem_append.mp hc with hc | hc
    · exact not_at_of_inUsername (hchars c hc)
    · rw [List.mem_singleton.mp hc]
      decide
  have hskip := sites_skip hnone back before n
  rwa [List.append_assoc, List.getLast?_concat, List.length_append] at hskip

/-- **A username that is taken whole** is mentioned, and nothing else changes. -/
theorem mentionsOnly_of_whole (htext : text.Documented) {front username : List Char}
    (hunglued : Unglued text front) (hchars : ∀ c ∈ username, inUsername c = true)
    (hwhole : TakenWhole username) (back : List Char) :
    MentionsOnly text front username back := by
  have hspace : mayPrecede text (some ' ') = true := (@mayPrecede_iff text [' ']).mpr
    (unglued_of_spaces htext (fun c hc => by
      cases hc
      exact (htext.onAscii.isSpace ' ' (by decide)).trans (by decide)))
  have hends : EndsGroup ('@' :: (username ++ ' ' :: back)) := by
    intro c hc
    cases hc
    decide
  have hmatch : mentionAt text front.getLast? ('@' :: (username ++ ' ' :: back)) =
      some username := by
    refine mentionAt_eq_some_iff.mpr ⟨' ' :: back, rfl, mayPrecede_iff.mpr hunglued, hwhole.start,
      hchars, hwhole.atMost, Or.inr (fun c hc => ?_)⟩
    cases hc
    decide
  have hstripped : stripTail username = username := stripTail_eq_self hwhole.last
  have hne : stripTail username ≠ [] := by
    obtain ⟨c, hc, -⟩ := hwhole.start
    rw [hstripped]
    rintro rfl
    cases hc
  have htoken : siteToken text (front.length, username) =
      some (front.length, String.ofList (text.lower username)) := by
    rw [siteToken_some hne, hstripped]
  have hsites : mentionSites text (String.ofList (completed front username back)) =
      mentionSites text (String.ofList front) ++ (front.length, username) ::
        sites (mentionAt text) (some ' ') (front.length + (username.length + 2)) back := by
    rw [mentionSites, mentionSites, String.toList_ofList, String.toList_ofList, completed,
      sites_append (mentionAt_append hends), Nat.zero_add, Option.or_none, sites, hmatch,
      sites_username hchars, Nat.add_assoc, Nat.add_left_comm 1]
    rfl
  rw [MentionsOnly, mentionTokens, hsites, List.filterMap_append,
    List.filterMap_cons_some htoken, sites_behind hspace]
  rfl

/-- And a username that is mentioned is taken whole, by an `@` that is not glued to anything; no
text gets shorter in lower case. -/
theorem whole_of_mentionsOnly (hpy : text.toPyText.OnAscii)
    (hlower : ∀ cs, cs.length ≤ (text.lower cs).length) {front username back : List Char}
    (h : MentionsOnly text front username back) :
    Unglued text front ∧ (∀ c ∈ username, inUsername c = true) ∧ TakenWhole username := by
  have hmem : (front.length, String.ofList (text.lower username)) ∈
      mentionTokens text (String.ofList (completed front username back)) := by
    rw [h]
    exact List.mem_append_right _ List.mem_cons_self
  generalize hi : front.length = i, htoken : String.ofList (text.lower username) = token at hmem
  cases mem_mentionTokens.mp hmem with
  | @intro before group after hcomment hunglued hgroup hne =>
      rw [String.toList_ofList, completed] at hcomment
      obtain ⟨rfl, hbehind⟩ := List.append_inj hcomment hi
      have hbehind := (List.cons.inj hbehind).2
      -- the group stops at the blank
      obtain ⟨rest, husername⟩ : ∃ rest, username = group ++ rest := by
        rcases List.append_eq_append_iff.mp hbehind with ⟨rest, hrest, hafter⟩ | ⟨rest, hrest, -⟩
        · cases rest with
          | nil => exact ⟨[], by rw [hrest, List.append_nil, List.append_nil]⟩
          | cons c rest =>
              obtain ⟨rfl, -⟩ := List.cons.inj hafter
              have hblank := hgroup.chars ' ' (hrest ▸ List.mem_append_right _ List.mem_cons_self)
              exact absurd hblank (by decide)
        · exact ⟨rest, hrest⟩
      -- and its token is no longer than the part of it that is left
      have hlength : (text.lower username).length = (stripTail group).length := by
        have htokens := congrArg (fun s => s.toList.length) htoken
        simp only [String.toList_ofList] at htokens
        rwa [lower_of_inUsername hpy (inUsername_of_stripTail hgroup.chars), List.length_map]
          at htokens
      have hle := hlower username
      obtain ⟨tail, hstripped, -⟩ := stripTail_append group
      have hgroupLength := congrArg List.length hstripped
      have husernameLength := congrArg List.length husername
      rw [List.length_append] at hgroupLength husernameLength
      have htail : tail = [] := List.length_eq_zero_iff.mp (by omega)
      have hrest : rest = [] := List.length_eq_zero_iff.mp (by omega)
      rw [htail, List.append_nil] at hstripped
      rw [hrest, List.append_nil] at husername
      refine ⟨hunglued, ?_⟩
      rw [husername]
      refine ⟨hgroup.chars, hgroup.start, hgroup.atMost,
        fun c hc => @getLast?_stripTail group c ?_⟩
      rwa [← hstripped]

/-- **When a completed username is mentioned**, and the rest of the comment keeps its mentions. -/
theorem mentionsOnly_iff (htext : text.Documented)
    (hlower : ∀ cs, cs.length ≤ (text.lower cs).length) {front username back : List Char} :
    MentionsOnly text front username back ↔
      Unglued text front ∧ (∀ c ∈ username, inUsername c = true) ∧ TakenWhole username :=
  ⟨whole_of_mentionsOnly htext.onAscii hlower,
    fun h => mentionsOnly_of_whole htext h.1 h.2.1 h.2.2 back⟩

end Parts

/-! ## Blanks at the ends -/

section Blanks

variable {text : MentionText} {blank : Char → Bool}

/-- Characters that neither are in a mention nor are glued to one. -/
structure Blanks (text : MentionText) (blank : Char → Bool) : Prop where
  notAt : ∀ c, blank c = true → c ≠ '@'
  notWord : ∀ c, blank c = true → text.isWord c = false
  notInUsername : ∀ c, blank c = true → inUsername c = false

/-- A text that ends in blanks, if in anything, is not glued to what follows. -/
theorem Blanks.unglued (h : Blanks text blank) {front : List Char}
    (hfront : ∀ c, front.getLast? = some c → blank c = true) : Unglued text front := by
  intro c hc
  have hblank := hfront c hc
  refine ⟨h.notWord c hblank, h.notAt c hblank, ?_⟩
  rintro rfl
  have hdot := h.notInUsername '.' hblank
  revert hdot
  decide

theorem stripBy_append (p : Char → Bool) (cs : List Char) :
    ∃ front back, cs = front ++ (stripBy p cs ++ back) ∧ (∀ c ∈ front, p c = true) ∧
      ∀ c ∈ back, p c = true := by
  refine ⟨cs.takeWhile p, ((cs.dropWhile p).reverse.takeWhile p).reverse, ?_, ?_, ?_⟩
  · rw [stripBy, ← List.reverse_append, List.takeWhile_append_dropWhile, List.reverse_reverse,
      List.takeWhile_append_dropWhile]
  · exact fun c hc => List.mem_takeWhile_imp hc
  · exact fun c hc => List.mem_takeWhile_imp (List.mem_reverse.mp hc)

/-- **Stripping a comment** leaves it the tokens that it has. -/
theorem parseMentionTokens_stripBy (h : Blanks text blank) (cs : List Char) :
    parseMentionTokens text (String.ofList (stripBy blank cs)) =
      parseMentionTokens text (String.ofList cs) := by
  obtain ⟨front, back, hcs, hfront, hback⟩ := stripBy_append blank cs
  have hnone : ∀ {part : List Char}, (∀ c ∈ part, blank c = true) → ∀ before, ∀ c ∈ part,
      ∀ behind, mentionAt text before (c :: behind) = none :=
    fun hpart before c hc behind => mentionAt_of_ne (h.notAt c (hpart c hc)) before behind
  have hends : EndsGroup back := fun c hc =>
    h.notInUsername c (hback c (List.mem_of_head? hc))
  -- the blanks behind have no mentions in them
  have hwithout : mentionTokens text (String.ofList (stripBy blank cs ++ back)) =
      mentionTokens text (String.ofList (stripBy blank cs)) := by
    have hskip := sites_skip (hnone hback) [] (stripBy blank cs).getLast?
      (0 + (stripBy blank cs).length)
    rw [List.append_nil] at hskip
    rw [mentionTokens, mentionTokens, mentionSites, mentionSites, String.toList_ofList,
      String.toList_ofList, sites_append (mentionAt_append hends), Option.or_none, hskip, sites,
      List.append_nil]
  -- and those before only move the others
  have hmoved : mentionTokens text (String.ofList cs) =
      (mentionTokens text (String.ofList (stripBy blank cs))).map
        (fun mention => (mention.1 + (0 + front.length), mention.2)) := by
    have hprecede : mayPrecede text front.getLast? = true := mayPrecede_iff.mpr
      (h.unglued (fun c hc => hfront c (List.mem_of_getLast? hc)))
    rw [← hwithout, ← sites_behind hprecede, mentionTokens, mentionSites, String.toList_ofList]
    conv_lhs => rw [hcs]
    rw [sites_skip (hnone hfront), Option.or_none]
  rw [parseMentionTokens_eq, parseMentionTokens_eq, hmoved, List.map_map]
  rfl

end Blanks

end OpenSoar
