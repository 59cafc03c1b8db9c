/-
# `OpenSoar.Comments.Mentions` — the analysts that a comment names

`parse_mention_tokens` of `comments/mentions.py` and `resolve_mentions` of
`comments/resolver.py`.  The pattern `(?<![\w@.])@([A-Za-z0-9_][A-Za-z0-9_.\-]{0,63})` is a scan
from left to right that carries the character before the position it is at, for the
look-behind, and the number of characters of a match that are still to be passed.
-/
import OpenSoar.Auth
import OpenSoar.Lib.Distinct

namespace OpenSoar

open Python

/-- The interpreter's tables with `\w` of the module `re`, and `lower` of the database. -/
structure MentionText extends PyText where
  isWord : Char → Bool
  sqlLower : List Char → List Char

/-! ## The tokens of a text -/

/-- `[A-Za-z0-9_]`. -/
def startsUsername (c : Char) : Bool := c.isAlphanum || c == '_'

/-- `[A-Za-z0-9_.\-]`. -/
def inUsername (c : Char) : Bool := startsUsername c || c == '.' || c == '-'

/-- `(?<![\w@.])`, by the character before. -/
def mayPrecede (text : MentionText) (before : Option Char) : Bool :=
  before.all (fun c => !(text.isWord c || c == '@' || c == '.'))

/-- The group of a match that begins here. -/
def mentionAt (text : MentionText) (before : Option Char) : List Char → Option (List Char)
  | '@' :: c :: cs =>
      if mayPrecede text before && startsUsername c then
        some (c :: (cs.takeWhile inUsername).take 63)
      else none
  | _ => none

/-- The groups of `_MENTION_RE.finditer`; the number counts the characters of a match still to be
passed. -/
def findMentions (text : MentionText) : Option Char → Nat → List Char → List (List Char)
  | _, _, [] => []
  | _, k + 1, c :: cs => findMentions text (some c) k cs
  | before, 0, c :: cs =>
      match mentionAt text before (c :: cs) with
      | some group => group :: findMentions text (some c) group.length cs
      | none => findMentions text (some c) 0 cs

/-- `rstrip(".-_")`. -/
def stripTail (group : List Char) : List Char :=
  (group.reverse.dropWhile (fun c => c == '.' || c == '-' || c == '_')).reverse

/-- `parse_mention_tokens`. -/
def parseMentionTokens (text : MentionText) (comment : String) : List String :=
  let groups := (findMentions text none 0 comment.toList).map stripTail
  let tokens := (groups.filter (· ≠ [])).map (fun raw => String.ofList (text.lower raw))
  distinctOn id tokens

/-! ## The analysts behind the tokens -/

structure ResolvedMention where
  username : String
  analystId : Uuid

/-- `username.lower()`. -/
def Analyst.lowered (text : MentionText) (analyst : Analyst) : String :=
  String.ofList (text.lower analyst.username.val.toList)

/-- The active analysts whose username, lowered by the database, is one of these. -/
def mentionCandidates (text : MentionText) (analysts : List Analyst) (lowered : List String) :
    List Analyst :=
  analysts.filter (fun analyst =>
    decide (String.ofList (text.sqlLower analyst.username.val.toList) ∈ lowered) &&
      analyst.isActive)

/-- One turn of the loop over the tokens: an analyst whom the caller may not see is dropped, any
other exception of a validator leaves the request. -/
def resolveMention (text : MentionText) (app : App) (candidates : List Analyst)
    (caller : Option Analyst) (resolved : List ResolvedMention) (token : String) :
    Except Raised (List ResolvedMention) :=
  -- `found` is a dict: of two candidates with one lowered username it holds the last
  match (candidates.filter (fun analyst => analyst.lowered text = token)).getLast? with
  | none => .ok resolved
  | some target =>
      match enforceTenantAccess app (.analyst target) "mention" caller with
      | .ok () => .ok (resolved ++ [⟨target.lowered text, target.id⟩])
      | .error (.httpException _ _) => .ok resolved
      | .error e => .error e

/-- `resolve_mentions`, of the analysts in the order in which the query returns them. -/
def resolveMentions (text : MentionText) (app : App) (analysts : List Analyst)
    (usernames : List String) (caller : Option Analyst) : Except Raised (List ResolvedMention) :=
  let lowered := usernames.map (fun u => String.ofList (text.lower u.toList))
  (distinctOn id lowered).foldlM
    (resolveMention text app (mentionCandidates text analysts lowered) caller) []

/-- `_resolve_comment_mentions`. -/
def resolveCommentMentions (text : MentionText) (app : App) (analysts : List Analyst)
    (comment : String) (caller : Option Analyst) : Except Raised (List ResolvedMention) :=
  resolveMentions text app analysts (parseMentionTokens text comment) caller

/-- The tables on ASCII text. -/
def MentionText.ascii : MentionText :=
  { PyText.ascii with
    isWord := startsUsername
    sqlLower := PyText.ascii.lower }

example : parseMentionTokens .ascii "cc @Ana.Lee, @bo-- and bo@example.com @ana.lee @_."
    = ["ana.lee", "bo"] := by decide +kernel

end OpenSoar
