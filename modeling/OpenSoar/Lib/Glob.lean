/-
# `OpenSoar.Lib.Glob` — glob patterns over bytes

The patterns of Redis: `*` stands for any bytes, `?` for any one of them, `[...]` for one out of
a class, with ranges and with `^` for its complement, and a backslash takes the next byte as
it is.  A class that is not closed goes on to the end of the pattern.

A pattern is read into tokens, and the tokens are matched one after another.  A text without
the four bytes that open a token, followed by a `*`, matches what begins with it
(`globMatch_plain`).
-/
import Mathlib.Data.List.Infix

namespace OpenSoar.Glob

/-- Any bytes, or one byte that is accepted. -/
inductive Token where
  | any
  | one (accepts : UInt8 → Bool)

/-- `lo-hi`, in whichever order the two are written. -/
def inRange (lo hi c : UInt8) : Bool := (lo ≤ c && c ≤ hi) || (hi ≤ c && c ≤ lo)

mutual
/-- The tokens of a pattern. -/
def tokens : List UInt8 → List Token
  | [] => []
  | c :: p =>
      if c = 42 then .any :: tokens p -- '*'
      else if c = 63 then .one (fun _ => true) :: tokens p -- '?'
      else if c = 91 then -- '['
        match p with
        | [] => classTokens false (fun _ => false) []
        | d :: q =>
            if d = 94 then classTokens true (fun _ => false) q -- '^'
            else classTokens false (fun _ => false) (d :: q)
      else if c = 92 then -- a backslash
        match p with
        | [] => [.one (· == 92)]
        | d :: q => .one (· == d) :: tokens q
      else .one (· == c) :: tokens p

/-- The tokens from inside a class, given the members so far. -/
def classTokens (negated : Bool) (members : UInt8 → Bool) : List UInt8 → List Token
  | [] => [.one (fun x => members x != negated)]
  | [c] =>
      if c = 93 then [.one (fun x => members x != negated)] -- ']'
      else [.one (fun x => (members x || x == c) != negated)]
  | c :: d :: p =>
      if c = 92 then classTokens negated (fun x => members x || x == d) p
      else if c = 93 then .one (fun x => members x != negated) :: tokens (d :: p)
      else if d = 45 then -- '-'
        match p with
        | [] => classTokens negated (fun x => members x || x == c) [d]
        | hi :: q => classTokens negated (fun x => members x || inRange c hi x) q
      else classTokens negated (fun x => members x || x == c) (d :: p)
end

def matchTokens : List Token → List UInt8 → Bool
  | [], text => text.isEmpty
  | .any :: ts, text => text.tails.any (matchTokens ts)
  | .one _ :: _, [] => false
  | .one accepts :: ts, c :: text => accepts c && matchTokens ts text

/-- The text matches the pattern. -/
def globMatch (pattern text : List UInt8) : Bool := matchTokens (tokens pattern) text

/-- The byte stands for itself. -/
def Plain (c : UInt8) : Prop := c ≠ 42 ∧ c ≠ 63 ∧ c ≠ 91 ∧ c ≠ 92

instance (c : UInt8) : Decidable (Plain c) := inferInstanceAs (Decidable (_ ∧ _))

theorem tokens_plain {p : List UInt8} (hp : ∀ c ∈ p, Plain c) (rest : List UInt8) :
    tokens (p ++ rest) = p.map (fun c => .one (· == c)) ++ tokens rest := by
  induction p with
  | nil => rfl
  | cons c p ih =>
      obtain ⟨hstar, hone, hclass, hslash⟩ := hp c List.mem_cons_self
      rw [List.cons_append, tokens.eq_def]
      simp only [if_neg hstar, if_neg hone, if_neg hclass, if_neg hslash]
      rw [ih (fun d hd => hp d (List.mem_cons_of_mem c hd))]
      rfl

theorem matchTokens_plain (p text : List UInt8) (rest : List Token) :
    matchTokens (p.map (fun c => .one (· == c)) ++ rest) text = true ↔
      ∃ tail, text = p ++ tail ∧ matchTokens rest tail = true := by
  induction p generalizing text with
  | nil => simp
  | cons c p ih =>
      cases text with
      | nil => simp [matchTokens]
      | cons d text =>
          simp only [List.map_cons, List.cons_append, matchTokens, Bool.and_eq_true, beq_iff_eq,
            ih]
          constructor
          · rintro ⟨rfl, tail, rfl, h⟩
            exact ⟨tail, rfl, h⟩
          · rintro ⟨tail, hsplit, h⟩
            obtain ⟨rfl, rfl⟩ := List.cons.inj hsplit
            exact ⟨rfl, tail, rfl, h⟩

theorem matchTokens_any (text : List UInt8) : matchTokens [.any] text = true := by
  simp only [matchTokens, List.any_eq_true, List.mem_tails]
  exact ⟨[], List.nil_suffix, rfl⟩

/-- A plain text before a `*`: what begins with the text. -/
theorem globMatch_plain {p : List UInt8} (hp : ∀ c ∈ p, Plain c) (text : List UInt8) :
    globMatch (p ++ [42]) text = true ↔ p <+: text := by
  have hstar : tokens [42] = [.any] := by simp [tokens]
  rw [globMatch, tokens_plain hp, hstar, matchTokens_plain]
  constructor
  · rintro ⟨tail, rfl, -⟩
    exact List.prefix_append p tail
  · rintro ⟨tail, rfl⟩
    exact ⟨tail, rfl, matchTokens_any tail⟩

end OpenSoar.Glob
