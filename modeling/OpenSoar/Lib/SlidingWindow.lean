/-
# `OpenSoar.Lib.SlidingWindow` — admission by what was admitted lately

A limiter keeps the times at which it admitted something.  At each request it drops the times
that have left the window and admits the request when fewer than `limit` are left.  Where the
window of a time begins is a function `cutoff` of it, of which only monotonicity is used: a
difference that is rounded is as good as an exact one.

`Tracks` is the invariant: from some time on, the times that are kept and all the times of
admission have the same part in every window.  It survives the dropping, so each decision
is the one that counts the whole past (`Tracks.grant_iff`), and no window ever holds more
than `limit` admissions (`AtMost.grant`).
-/
import Mathlib.Data.List.Sort
import Mathlib.Data.List.MinMax
import Mathlib.Algebra.Order.Group.Defs
import Mathlib.Algebra.Order.Sub.Basic

namespace OpenSoar.SlidingWindow

universe u

variable {τ : Type u} [LinearOrder τ]

/-- The times after the cutoff. -/
def live (cut : τ) (times : List τ) : List τ := times.filter (fun t => cut < t)

/-- The times in `(cut, now]`. -/
def window (cut now : τ) (times : List τ) : List τ :=
  times.filter (fun t => cut < t ∧ t ≤ now)

/-- One request: whether it is admitted, and the times kept after it. -/
def grant (limit : Nat) (cut now : τ) (times : List τ) : Bool × List τ :=
  if limit ≤ (live cut times).length then (false, live cut times)
  else (true, live cut times ++ [now])

theorem grant_fst {limit : Nat} {cut now : τ} {times : List τ} :
    (grant limit cut now times).1 = true ↔ (live cut times).length < limit := by
  unfold grant
  split
  next h => exact iff_of_false Bool.false_ne_true (Nat.not_lt.mpr h)
  next h => exact iff_of_true rfl (Nat.not_le.mp h)

theorem grant_snd (limit : Nat) (cut now : τ) (times : List τ) :
    (grant limit cut now times).2 =
      live cut times ++ (if (grant limit cut now times).1 then [now] else []) := by
  unfold grant
  split
  · exact (List.append_nil _).symm
  · rfl

theorem live_append (cut : τ) (times times' : List τ) :
    live cut (times ++ times') = live cut times ++ live cut times' := List.filter_append _ _

/-- What is dropped at a cutoff is dropped at every later one. -/
theorem live_live {cut later : τ} (h : cut ≤ later) (times : List τ) :
    live later (live cut times) = live later times := by
  unfold live
  rw [List.filter_filter]
  refine List.filter_congr (fun t _ => ?_)
  have hlater : later < t → cut < t := fun ht => lt_of_le_of_lt h ht
  by_cases ht : later < t
  · simp [ht, hlater ht]
  · simp [ht]

/-- Of times that have come, the window holds those after the cutoff. -/
theorem window_eq_live {cut now : τ} {times : List τ} (h : ∀ t ∈ times, t ≤ now) :
    window cut now times = live cut times := by
  refine List.filter_congr (fun t ht => ?_)
  simp [h t ht]

variable (cutoff : τ → τ)

/-- From `last` on, the kept times are as good as all the times of admission, none of which
is later. -/
structure Tracks (last : τ) (times admitted : List τ) : Prop where
  past : ∀ t ∈ admitted, t ≤ last
  same : ∀ now, last ≤ now → live (cutoff now) times = live (cutoff now) admitted

/-- No window holds more than `limit` of the times. -/
def AtMost (limit : Nat) (times : List τ) : Prop :=
  ∀ now, (window (cutoff now) now times).length ≤ limit

variable {cutoff} {limit : Nat} {last now : τ} {times admitted : List τ}

theorem Tracks.later (h : Tracks cutoff last times admitted) (hle : last ≤ now) :
    Tracks cutoff now times admitted where
  past t ht := le_trans (h.past t ht) hle
  same later hlater := h.same later (le_trans hle hlater)

/-- **The decision.**  A request is admitted if and only if its window has room. -/
theorem Tracks.grant_iff (h : Tracks cutoff last times admitted) (hle : last ≤ now) :
    (grant limit (cutoff now) now times).1 = true ↔
      (window (cutoff now) now admitted).length < limit := by
  rw [grant_fst, h.same now hle, window_eq_live (h.later hle).past]

/-- **One step.**  The kept times track the admissions, with the request among them when it
is admitted. -/
theorem Tracks.grant (hmono : Monotone cutoff) (h : Tracks cutoff last times admitted)
    (hle : last ≤ now) :
    Tracks cutoff now (grant limit (cutoff now) now times).2
      (admitted ++ if (SlidingWindow.grant limit (cutoff now) now times).1 then [now] else []) where
  past := by
    intro t ht
    rcases List.mem_append.mp ht with ht | ht
    · exact (h.later hle).past t ht
    · split at ht
      · exact le_of_eq (List.mem_singleton.mp ht)
      · cases ht
  same later hlater := by
    rw [grant_snd, live_append, live_live (hmono hlater), live_append,
      h.same later (le_trans hle hlater)]

theorem atMost_nil : AtMost cutoff limit ([] : List τ) := fun _ => Nat.zero_le _

/-- An admission overfills no window: a window it falls into reaches back less far than its own. -/
theorem AtMost.grant (hmono : Monotone cutoff) (h : AtMost cutoff limit admitted)
    (hpast : ∀ t ∈ admitted, t ≤ now) (hroom : (window (cutoff now) now admitted).length < limit) :
    AtMost cutoff limit (admitted ++ [now]) := by
  intro later
  unfold window
  rw [List.filter_append, List.length_append]
  by_cases hin : cutoff later < now ∧ now ≤ later
  · have hsub : (window (cutoff later) later admitted).length ≤
        (live (cutoff now) admitted).length := by
      refine (List.monotone_filter_right admitted ?_).length_le
      intro t ht
      have hlater := of_decide_eq_true ht
      exact decide_eq_true (lt_of_le_of_lt (hmono hin.2) hlater.1)
    rw [window_eq_live hpast] at hroom
    have hone : ([now].filter (fun t => cutoff later < t ∧ t ≤ later)).length = 1 := by
      simp [hin]
    rw [hone]
    exact Nat.succ_le_of_lt (Nat.lt_of_le_of_lt hsub hroom)
  · have hnone : ([now].filter (fun t => cutoff later < t ∧ t ≤ later)).length = 0 := by
      simpa using hin
    rw [hnone]
    exact h later

/-! ## Windows of one width -/

section Width

variable {G : Type u} [AddCommGroup G] [LinearOrder G] [IsOrderedAddMonoid G] {width : G}
  {times : List G}

theorem monotone_sub_width (width : G) : Monotone (fun now => now - width) :=
  fun _ _ h => sub_le_sub_right h width

omit [IsOrderedAddMonoid G] in
/-- An interval open at its start is the window of its end. -/
theorem AtMost.openClosed (h : AtMost (fun now => now - width) limit times) (start : G) :
    (times.filter (fun t => start < t ∧ t ≤ start + width)).length ≤ limit := by
  have hend := h (start + width)
  simp only [window, add_sub_cancel_right] at hend
  exact hend

/-- An interval open at its end is part of the window of the last time in it. -/
theorem AtMost.closedOpen (h : AtMost (fun now => now - width) limit times) (start : G) :
    (times.filter (fun t => start ≤ t ∧ t < start + width)).length ≤ limit := by
  have hmax := List.maximum_eq_bot (l := times.filter (fun t => start ≤ t ∧ t < start + width))
  cases hlast : (times.filter (fun t => start ≤ t ∧ t < start + width)).maximum with
  | bot =>
      rw [hmax.mp hlast]
      exact Nat.zero_le _
  | coe final =>
      obtain ⟨hfinal, hle⟩ := List.maximum_eq_coe_iff.mp hlast
      have hend : final < start + width := (of_decide_eq_true (List.mem_filter.mp hfinal).2).2
      refine le_trans (List.Sublist.length_le ?_) (h final)
      have hsub : times.filter (fun t => start ≤ t ∧ t < start + width) =
          (window (final - width) final times).filter (fun t => start ≤ t ∧ t < start + width) := by
        unfold window
        rw [List.filter_filter]
        refine List.filter_congr (fun t ht => ?_)
        by_cases hin : start ≤ t ∧ t < start + width
        · have hlater : t ≤ final := hle t (List.mem_filter.mpr ⟨ht, decide_eq_true hin⟩)
          have hcut : final - width < t := lt_of_lt_of_le (sub_lt_iff_lt_add.mpr hend) hin.1
          simp [hin, hlater, hcut]
        · simp [hin]
      rw [hsub]
      exact List.filter_sublist

end Width

end OpenSoar.SlidingWindow
