/-
# `OpenSoar.Lib.Like` — the patterns of SQL's `LIKE`

`%` stands for any text, `_` for any one character, and a backslash takes the next character as
it is.  A text without these three, followed by a `%`, matches what begins with it
(`like_literal`).
-/
import Mathlib.Data.List.Infix

namespace OpenSoar.Like

/-- `text LIKE pattern`.  A backslash at the end of a pattern takes nothing, and matches nothing. -/
def like : (pattern text : List Char) → Bool
  | [], text => text.isEmpty
  | '%' :: pattern, text => text.tails.any (like pattern)
  | '_' :: pattern, text =>
      match text with
      | [] => false
      | _ :: text => like pattern text
  | ['\\'], _ => false
  | '\\' :: c :: pattern, text =>
      match text with
      | [] => false
      | d :: text => c == d && like pattern text
  | c :: pattern, text =>
      match text with
      | [] => false
      | d :: text => c == d && like pattern text

/-- The character stands for itself. -/
def Literal (c : Char) : Prop := c ≠ '%' ∧ c ≠ '_' ∧ c ≠ '\\'

instance (c : Char) : Decidable (Literal c) := inferInstanceAs (Decidable (_ ∧ _))

theorem like_any (pattern text : List Char) :
    like ('%' :: pattern) text = text.tails.any (like pattern) := by
  rw [like]

theorem like_all (text : List Char) : like ['%'] text = true := by
  rw [like_any, List.any_eq_true]
  exact ⟨[], (List.mem_tails [] text).mpr (List.nil_suffix), by rw [like]; rfl⟩

theorem like_cons {c : Char} (hc : Literal c) (pattern : List Char) (d : Char)
    (text : List Char) : like (c :: pattern) (d :: text) = (c == d && like pattern text) := by
  obtain ⟨hany, hone, hslash⟩ := hc
  rw [like]
  · exact hany
  · exact hone
  · intro hc _
    exact hslash hc
  · intro c' pattern' hc _
    exact hslash hc

theorem like_cons_nil {c : Char} (hc : Literal c) (pattern : List Char) :
    like (c :: pattern) [] = false := by
  obtain ⟨hany, hone, hslash⟩ := hc
  rw [like]
  · exact hany
  · exact hone
  · intro hc _
    exact hslash hc
  · intro c' pattern' hc _
    exact hslash hc

/-- A literal text before a `%`: what begins with the text. -/
theorem like_literal {p : List Char} (hp : ∀ c ∈ p, Literal c) (text : List Char) :
    like (p ++ ['%']) text = p.isPrefixOf text := by
  induction p generalizing text with
  | nil => rw [List.nil_append, like_all]; rfl
  | cons c p ih =>
      obtain ⟨hc, hrest⟩ := List.forall_mem_cons.mp hp
      cases text with
      | nil => exact like_cons_nil hc _
      | cons d text =>
          rw [List.cons_append, like_cons hc, ih hrest]
          rfl

end OpenSoar.Like
