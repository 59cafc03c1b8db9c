/-
# `OpenSoar.Ui.MentionComposer` — the input in which comments are written

`ui/src/components/mentions/MentionComposer.tsx`: a text input that offers analysts while an
`@token` is typed.  The state is that of the component together with the text and the caret of its
input; the events are those of the browser, the answers of the server, and the page emptying the
text when a comment has been posted.  Positions count characters.

No row of the menu is ever looked up that is not there (`composer_returns`).  A suggestion that is
accepted takes the place of the text between the last `@` and the caret.  The server's parser then
finds it mentioned, besides what the text before and behind mentions by itself, exactly when the
username is made of the characters of the pattern and taken whole and the `@` is not glued to the
text before it; and as long as the caret moves only with the text, it is not glued
(`accepted_is_mentioned`).
-/
import OpenSoar.Comments.Completion
import OpenSoar.Lib.Run

namespace OpenSoar

open Python

/-! ## The component -/

/-- `\s` in a pattern of JavaScript.  `trim` strips the same characters. -/
def jsSpace (c : Char) : Bool :=
  [0x09, 0x0A, 0x0B, 0x0C, 0x0D, 0x20, 0xA0, 0x1680, 0x2028, 0x2029, 0x202F, 0x205F, 0x3000,
    0xFEFF].contains c.toNat || (0x2000 ≤ c.toNat && c.toNat ≤ 0x200A)

/-- `lastIndexOf`, of one character. -/
def lastIndexOf (c : Char) : List Char → Option Nat
  | [] => none
  | d :: cs => ((lastIndexOf c cs).map (· + 1)).or (if d = c then some 0 else none)

/-- `detectQuery`. -/
def detectQuery (next : List Char) (caret : Nat) : Option (List Char) :=
  let before := next.take caret
  match lastIndexOf '@' before with
  | none => none
  | some i =>
      let prev := if i = 0 then ' ' else before.getD (i - 1) ' '
      if jsSpace prev then
        let token := before.drop (i + 1)
        if token.any jsSpace then none else some token
      else none

structure Composer where
  /-- The text, which the page holds. -/
  value : List Char
  /-- `input.selectionStart`. -/
  caret : Nat
  query : Option (List Char)
  /-- The usernames of the rows. -/
  suggestions : List (List Char)
  activeIndex : Nat
  /-- What the runs of the effect called `mentionable` with, the empty text for none. -/
  asked : List (List Char)
  /-- The call that is neither answered nor cancelled. -/
  awaited : Option Nat
  /-- `newCaret`, until the next animation frame. -/
  restoring : Option Nat
  /-- What the page was told to post. -/
  submitted : List (List Char)

/-- As the page renders it. -/
structure Composer.Mounted (c : Composer) : Prop where
  query : c.query = none
  suggestions : c.suggestions = []

/-- `e.key`, as far as the composer looks at it. -/
inductive Key where
  | arrowDown | arrowUp | enter | tab | escape | other
deriving DecidableEq

inductive ComposerEvent where
  /-- The user changes the text, which leaves the caret somewhere. -/
  | change (next : List Char) (caret : Nat)
  | moveCaret (caret : Nat)
  | keyDown (key : Key)
  | mouseEnter (index : Nat)
  | mouseDown (index : Nat)
  /-- The timer that a blur has set. -/
  | blurred
  | animationFrame
  | answered (call : Nat) (rows : List (List Char))
  | failed (call : Nat)
  /-- `setCommentText('')`, when the comment has been posted. -/
  | cleared

/-- Reading a property of `undefined`. -/
inductive TypeError where
  | undefined

namespace Composer

def showMenu (c : Composer) : Bool := c.query.isSome && !c.suggestions.isEmpty

/-- `setQuery`, with the effect that depends on the query: a new one cancels the call under way. -/
def setQuery (c : Composer) (query : Option (List Char)) : Composer :=
  if query = c.query then c
  else
    match query with
    | none => { c with query := none, awaited := none }
    | some token =>
        { c with query := some token, asked := c.asked ++ [token], awaited := some c.asked.length }

/-- `onChange`; a text that is set moves the caret to its end. -/
def onChange (c : Composer) (next : List Char) : Composer :=
  if next = c.value then c else { c with value := next, caret := next.length }

/-- `applyMention`. -/
def applyMention (c : Composer) (username : List Char) : Composer :=
  match lastIndexOf '@' (c.value.take c.caret) with
  | none => c
  | some i =>
      let next := c.value.take i ++ '@' :: (username ++ ' ' :: c.value.drop c.caret)
      { (c.onChange next).setQuery none with
        suggestions := []
        restoring := some (i + username.length + 2) }

/-- `handleKeyDown`. -/
def handleKeyDown (c : Composer) (key : Key) : Except TypeError Composer :=
  if c.showMenu then
    match key with
    | .arrowDown => .ok { c with activeIndex := (c.activeIndex + 1) % c.suggestions.length }
    | .arrowUp =>
        .ok { c with activeIndex :=
                (c.activeIndex + (c.suggestions.length - 1)) % c.suggestions.length }
    | .enter | .tab =>
        match c.suggestions[c.activeIndex]? with
        | some username => .ok (c.applyMention username)
        | none => .error .undefined
    | .escape => .ok (c.setQuery none)
    | .other => .ok c
  else if key = .enter ∧ stripBy jsSpace c.value ≠ [] then
    .ok { c with submitted := c.submitted ++ [stripBy jsSpace c.value] }
  else .ok c

/-- `handleChange`. -/
def handleChange (c : Composer) (next : List Char) (caret : Nat) : Composer :=
  { c with value := next, caret := caret }.setQuery (detectQuery next caret)

/-- The row at an index, if the menu is shown. -/
def row? (c : Composer) (index : Nat) : Option (List Char) :=
  if c.showMenu then c.suggestions[index]? else none

/-- The username that an event accepts. -/
def chosen (c : Composer) : ComposerEvent → Option (List Char)
  | .keyDown .enter | .keyDown .tab => c.row? c.activeIndex
  | .mouseDown index => c.row? index
  | _ => none

end Composer

def composerStep (c : Composer) : ComposerEvent → Except TypeError Composer
  | .change next caret => .ok (c.handleChange next caret)
  | .moveCaret caret => .ok { c with caret := caret }
  | .keyDown key => c.handleKeyDown key
  | .mouseEnter index =>
      .ok (if (c.row? index).isSome then { c with activeIndex := index } else c)
  | .mouseDown index => .ok ((c.row? index).elim c c.applyMention)
  | .blurred => .ok (c.setQuery none)
  | .animationFrame =>
      .ok (match c.restoring with
        | none => c
        | some caret => { c with caret := min caret c.value.length, restoring := none })
  | .answered call rows =>
      .ok (if c.awaited = some call then
        { c with suggestions := rows, activeIndex := 0, awaited := none } else c)
  | .failed call =>
      .ok (if c.awaited = some call then { c with suggestions := [], awaited := none } else c)
  | .cleared => .ok (c.onChange [])

/-! ## The token at the caret -/

theorem lastIndexOf_eq_none {c : Char} {cs : List Char} (h : lastIndexOf c cs = none) :
    c ∉ cs := by
  induction cs with
  | nil => exact List.not_mem_nil
  | cons d cs ih =>
      rw [lastIndexOf, Option.or_eq_none_iff, Option.map_eq_none_iff] at h
      obtain ⟨hrest, hhead⟩ := h
      rw [List.mem_cons, not_or]
      refine ⟨?_, ih hrest⟩
      rintro rfl
      rw [if_pos rfl] at hhead
      cases hhead

theorem lastIndexOf_eq_some {c : Char} {cs : List Char} {i : Nat} (h : lastIndexOf c cs = some i) :
    ∃ front back, cs = front ++ c :: back ∧ front.length = i ∧ c ∉ back := by
  induction cs generalizing i with
  | nil => cases h
  | cons d cs ih =>
      rw [lastIndexOf] at h
      cases hrest : lastIndexOf c cs with
      | some j =>
          obtain ⟨front, back, hcs, hlength, hlast⟩ := ih hrest
          rw [hrest] at h
          cases h
          exact ⟨d :: front, back, by rw [hcs, List.cons_append], by rw [List.length_cons, hlength],
            hlast⟩
      | none =>
          rw [hrest] at h
          by_cases hd : d = c
          · rw [if_pos hd] at h
            cases h
            exact ⟨[], cs, by rw [hd, List.nil_append], rfl, lastIndexOf_eq_none hrest⟩
          · rw [if_neg hd] at h
            cases h

/-- The text before the caret ends in `@` and the token, with nothing but white space right before
them. -/
structure TypedAt (before token front : List Char) : Prop where
  split : before = front ++ '@' :: token
  last : '@' ∉ token
  space : ∀ c, front.getLast? = some c → jsSpace c = true

theorem detectQuery_eq_some {next token : List Char} {caret : Nat}
    (h : detectQuery next caret = some token) : ∃ front, TypedAt (next.take caret) token front := by
  rw [detectQuery] at h
  cases hindex : lastIndexOf '@' (next.take caret) with
  | none =>
      rw [hindex] at h
      cases h
  | some i =>
      obtain ⟨front, back, hsplit, hlength, hlast⟩ := lastIndexOf_eq_some hindex
      rw [hindex] at h
      simp only [hsplit] at h
      generalize hprev : (if i = 0 then ' ' else (front ++ '@' :: back).getD (i - 1) ' ') = prev
        at h
      split at h
      · rename_i hspace
        split at h
        · cases h
        · have htoken : (front ++ '@' :: back).drop (i + 1) = back := by
            rw [← hlength, ← List.drop_drop, List.drop_left]
            rfl
          rw [htoken] at h
          cases h
          refine ⟨front, hsplit, hlast, fun c hc => ?_⟩
          cases front using List.reverseRecOn with
          | nil => cases hc
          | append_singleton front d =>
              rw [List.getLast?_concat] at hc
              cases hc
              rw [List.length_append, List.length_singleton] at hlength
              rw [if_neg (by omega), ← hlength, Nat.add_sub_cancel, List.append_assoc,
                List.getD_eq_getElem?_getD, List.getElem?_append_right le_rfl,
                Nat.sub_self] at hprev
              obtain rfl : c = prev := hprev
              exact hspace
      · cases h

/-! ## What the operations leave alone -/

namespace Composer

variable {c : Composer}

/-- Setting the query is of consequence to the calls only. -/
theorem setQuery_eq (query : Option (List Char)) : ∃ asked awaited,
    c.setQuery query = { c with query := query, asked := asked, awaited := awaited } := by
  unfold setQuery
  split
  · rename_i h
    exact ⟨c.asked, c.awaited, by rw [h]⟩
  · cases query with
    | none => exact ⟨c.asked, none, rfl⟩
    | some token => exact ⟨c.asked ++ [token], some c.asked.length, rfl⟩

/-- What setting the query leaves as it is. -/
theorem setQuery_rest (query : Option (List Char)) :
    (c.setQuery query).query = query ∧ (c.setQuery query).value = c.value ∧
      (c.setQuery query).caret = c.caret ∧ (c.setQuery query).suggestions = c.suggestions ∧
      (c.setQuery query).activeIndex = c.activeIndex ∧
      (c.setQuery query).restoring = c.restoring := by
  obtain ⟨asked, awaited, hquery⟩ := @setQuery_eq c query
  rw [hquery]
  exact ⟨rfl, rfl, rfl, rfl, rfl, rfl⟩

/-- What setting the text leaves as it is. -/
theorem onChange_rest (next : List Char) :
    (c.onChange next).value = next ∧ (c.onChange next).query = c.query ∧
      (c.onChange next).suggestions = c.suggestions ∧
      (c.onChange next).activeIndex = c.activeIndex ∧
      (c.onChange next).restoring = c.restoring := by
  unfold onChange
  split
  · rename_i h
    exact ⟨h.symm, rfl, rfl, rfl, rfl⟩
  · exact ⟨rfl, rfl, rfl, rfl, rfl⟩

theorem showMenu_iff :
    c.showMenu = true ↔ (∃ token, c.query = some token) ∧ c.suggestions ≠ [] := by
  rw [showMenu, Bool.and_eq_true, Option.isSome_iff_exists, Bool.not_eq_true',
    List.isEmpty_eq_false_iff]

theorem row?_eq_some {index : Nat} {username : List Char} (h : c.row? index = some username) :
    c.showMenu = true ∧ c.suggestions[index]? = some username := by
  rw [row?] at h
  split at h
  · exact ⟨‹_›, h⟩
  · cases h

/-- Without an `@` before the caret nothing happens. -/
theorem applyMention_none (h : lastIndexOf '@' (c.value.take c.caret) = none)
    (username : List Char) : c.applyMention username = c := by
  rw [applyMention, h]

/-- What `applyMention` leaves. -/
theorem applyMention_some {i : Nat} (h : lastIndexOf '@' (c.value.take c.caret) = some i)
    (username : List Char) :
    (c.applyMention username).value =
        c.value.take i ++ '@' :: (username ++ ' ' :: c.value.drop c.caret) ∧
      (c.applyMention username).query = none ∧ (c.applyMention username).suggestions = [] ∧
      (c.applyMention username).restoring = some (i + username.length + 2) := by
  rw [applyMention, h]
  dsimp only
  exact ⟨(setQuery_rest none).2.1.trans (onChange_rest _).1, (setQuery_rest none).1, rfl, rfl⟩

end Composer

/-! ## What a key does -/

/-- What a key press may leave of the composer. -/
inductive KeyEffect (c : Composer) : Composer → Prop
  | moved (i : Nat) : i < c.suggestions.length → KeyEffect c { c with activeIndex := i }
  | accepted (username : List Char) : KeyEffect c (c.applyMention username)
  | dismissed : KeyEffect c (c.setQuery none)
  | submitted (texts : List (List Char)) : KeyEffect c { c with submitted := texts }
  | idle : KeyEffect c c

theorem keyEffect_of_ok {c c' : Composer} {key : Key} (h : c.handleKeyDown key = .ok c') :
    KeyEffect c c' := by
  unfold Composer.handleKeyDown at h
  split at h
  · rename_i hmenu
    have hpos : 0 < c.suggestions.length :=
      List.length_pos_iff.mpr (Composer.showMenu_iff.mp hmenu).2
    have haccept : ∀ {c' : Composer}, (match c.suggestions[c.activeIndex]? with
        | some username => .ok (c.applyMention username)
        | none => .error TypeError.undefined) = Except.ok c' → KeyEffect c c' := by
      intro c' h
      split at h
      · cases h
        exact .accepted _
      · cases h
    cases key with
    | arrowDown => cases h; exact .moved _ (Nat.mod_lt _ hpos)
    | arrowUp => cases h; exact .moved _ (Nat.mod_lt _ hpos)
    | enter => exact haccept h
    | tab => exact haccept h
    | escape => cases h; exact .dismissed
    | other => cases h; exact .idle
  · split at h
    · cases h
      exact .submitted _
    · cases h
      exact .idle

/-! ## The rows of the menu -/

/-- The active row is one of those that are there. -/
def Composer.InRange (c : Composer) : Prop :=
  c.suggestions = [] ∨ c.activeIndex < c.suggestions.length

/-- The menu of the later composer has the rows of the earlier, none, or those of an answer. -/
inductive RowsAfter (c : Composer) (event : ComposerEvent) (c' : Composer) : Prop
  | kept : c'.suggestions = c.suggestions →
      (c'.activeIndex = c.activeIndex ∨ c'.activeIndex < c.suggestions.length) →
      RowsAfter c event c'
  | emptied : c'.suggestions = [] → RowsAfter c event c'
  | answered (call : Nat) : event = .answered call c'.suggestions → c'.activeIndex = 0 →
      RowsAfter c event c'

theorem rowsAfter_of_eq {c c' : Composer} {event : ComposerEvent}
    (hrows : c'.suggestions = c.suggestions) (hindex : c'.activeIndex = c.activeIndex) :
    RowsAfter c event c' := .kept hrows (Or.inl hindex)

theorem rowsAfter_setQuery {c : Composer} {event : ComposerEvent} (query : Option (List Char)) :
    RowsAfter c event (c.setQuery query) := by
  obtain ⟨-, -, -, hrows, hindex, -⟩ := Composer.setQuery_rest (c := c) query
  exact rowsAfter_of_eq hrows hindex

theorem rowsAfter_applyMention {c : Composer} {event : ComposerEvent} (username : List Char) :
    RowsAfter c event (c.applyMention username) := by
  cases hindex : lastIndexOf '@' (c.value.take c.caret) with
  | none =>
      rw [Composer.applyMention_none hindex]
      exact rowsAfter_of_eq rfl rfl
  | some i => exact .emptied (Composer.applyMention_some hindex username).2.2.1

theorem rowsAfter_handleKeyDown {c c' : Composer} {event : ComposerEvent} {key : Key}
    (h : c.handleKeyDown key = .ok c') : RowsAfter c event c' := by
  cases keyEffect_of_ok h with
  | moved i hlt => exact .kept rfl (Or.inr hlt)
  | accepted username => exact rowsAfter_applyMention username
  | dismissed => exact rowsAfter_setQuery none
  | submitted texts => exact rowsAfter_of_eq rfl rfl
  | idle => exact rowsAfter_of_eq rfl rfl

/-- **What an event does to the menu.** -/
theorem rowsAfter_composerStep {c c' : Composer} {event : ComposerEvent}
    (h : composerStep c event = .ok c') : RowsAfter c event c' := by
  cases event with
  | change next caret =>
      cases h
      obtain ⟨-, -, -, hrows, hindex, -⟩ := Composer.setQuery_rest
        (c := { c with value := next, caret := caret }) (detectQuery next caret)
      exact rowsAfter_of_eq hrows hindex
  | moveCaret caret =>
      cases h
      exact rowsAfter_of_eq rfl rfl
  | keyDown key => exact rowsAfter_handleKeyDown h
  | mouseEnter index =>
      cases h
      cases hrow : c.row? index with
      | none => exact rowsAfter_of_eq rfl rfl
      | some username =>
          obtain ⟨hindex, -⟩ := List.getElem?_eq_some_iff.mp (Composer.row?_eq_some hrow).2
          exact .kept rfl (Or.inr hindex)
  | mouseDown index =>
      cases h
      cases c.row? index with
      | none => exact rowsAfter_of_eq rfl rfl
      | some username => exact rowsAfter_applyMention username
  | blurred =>
      cases h
      exact rowsAfter_setQuery none
  | animationFrame =>
      cases h
      cases c.restoring with
      | none => exact rowsAfter_of_eq rfl rfl
      | some caret => exact rowsAfter_of_eq rfl rfl
  | answered call rows =>
      cases h
      split
      · exact .answered call rfl rfl
      · exact rowsAfter_of_eq rfl rfl
  | failed call =>
      cases h
      split
      · exact .emptied rfl
      · exact rowsAfter_of_eq rfl rfl
  | cleared =>
      cases h
      obtain ⟨-, -, hrows, hindex, -⟩ := Composer.onChange_rest (c := c) []
      exact rowsAfter_of_eq hrows hindex

theorem inRange_composerStep {c c' : Composer} {event : ComposerEvent} (hc : c.InRange)
    (h : composerStep c event = .ok c') : c'.InRange := by
  cases rowsAfter_composerStep h with
  | kept hrows hindex =>
      rw [Composer.InRange, hrows]
      rcases hindex with hsame | hlt
      · rwa [hsame]
      · exact Or.inr hlt
  | emptied hrows => exact Or.inl hrows
  | answered call hevent hindex =>
      rw [Composer.InRange, hindex]
      exact (em (c'.suggestions = [])).imp_right List.length_pos_iff.mpr

/-- **No event raises**, in whatever state a run has led to. -/
theorem composer_returns {c : Composer} (hmounted : c.Mounted) (events : List ComposerEvent)
    (event : ComposerEvent) : Returns (composerStep (run composerStep c events) event) := by
  have hrange : (run composerStep c events).InRange := by
    refine run_inv_of_step composerStep ?_ events c (Or.inl hmounted.suggestions)
    intro c event c' hc h
    exact inRange_composerStep hc h
  generalize run composerStep c events = s at hrange
  cases event with
  | keyDown key =>
      show Returns (s.handleKeyDown key)
      unfold Composer.handleKeyDown
      split
      · rename_i hmenu
        have hlt : s.activeIndex < s.suggestions.length :=
          hrange.resolve_left (Composer.showMenu_iff.mp hmenu).2
        have hrow : s.suggestions[s.activeIndex]? = some s.suggestions[s.activeIndex] :=
          List.getElem?_eq_getElem hlt
        rw [hrow]
        cases key <;> exact returns_ok _
      · split <;> exact returns_ok _
  | change next caret => exact returns_ok _
  | moveCaret caret => exact returns_ok _
  | mouseEnter index => exact returns_ok _
  | mouseDown index => exact returns_ok _
  | blurred => exact returns_ok _
  | animationFrame => exact returns_ok _
  | answered call rows => exact returns_ok _
  | failed call => exact returns_ok _
  | cleared => exact returns_ok _

/-- The rows of the menu came in answers. -/
theorem suggestions_answered {c : Composer} (hmounted : c.Mounted) (events : List ComposerEvent) :
    ∀ username ∈ (run composerStep c events).suggestions,
      ∃ call rows, .answered call rows ∈ events ∧ username ∈ rows := by
  refine run_inv composerStep (C := fun _ event => event ∈ events)
    (I := fun c => ∀ username ∈ c.suggestions,
      ∃ call rows, .answered call rows ∈ events ∧ username ∈ rows) ?_ events c ?_
    (along_of_forall composerStep (fun event hevent _ => hevent) c)
  · intro c event c' hc hevent h username husername
    cases rowsAfter_composerStep h with
    | kept hrows _ => exact hc username (hrows ▸ husername)
    | emptied hrows =>
        rw [hrows] at husername
        cases husername
    | answered call heq _ => exact ⟨call, c'.suggestions, heq ▸ hevent, husername⟩
  · intro username husername
    rw [hmounted.suggestions] at husername
    cases husername

/-! ## The caret -/

/-- Events that leave the caret to the text: only typing moves it, and not before it is back behind
a username that has been written. -/
def Steady (c : Composer) : ComposerEvent → Prop
  | .moveCaret _ => False
  | .change _ _ => c.restoring = none
  | _ => True

/-- The caret stands behind the token that is asked about, if the page has not emptied the text
since. -/
def Composer.AtToken (c : Composer) : Prop :=
  ∀ token, c.query = some token → c.restoring = none ∧
    (c.value = [] ∨ ∃ front, TypedAt (c.value.take c.caret) token front)

theorem atToken_of_query_none {c : Composer} (h : c.query = none) : c.AtToken := by
  intro token htoken
  rw [h] at htoken
  cases htoken

/-- What the operations leave that change neither the query nor the text. -/
theorem Composer.AtToken.same {c c' : Composer} (hc : c.AtToken) (hquery : c'.query = c.query)
    (hvalue : c'.value = c.value) (hcaret : c'.caret = c.caret)
    (hrestoring : c'.restoring = c.restoring) : c'.AtToken := by
  rwa [Composer.AtToken, hquery, hvalue, hcaret, hrestoring]

theorem atToken_applyMention {c : Composer} (hc : c.AtToken) (username : List Char) :
    (c.applyMention username).AtToken := by
  cases hindex : lastIndexOf '@' (c.value.take c.caret) with
  | none => rwa [Composer.applyMention_none hindex]
  | some i => exact atToken_of_query_none (Composer.applyMention_some hindex username).2.1

theorem atToken_handleKeyDown {c c' : Composer} {key : Key} (hc : c.AtToken)
    (h : c.handleKeyDown key = .ok c') : c'.AtToken := by
  cases keyEffect_of_ok h with
  | moved i _ => exact hc.same rfl rfl rfl rfl
  | accepted username => exact atToken_applyMention hc username
  | dismissed => exact atToken_of_query_none (Composer.setQuery_rest none).1
  | submitted texts => exact hc.same rfl rfl rfl rfl
  | idle => exact hc

/-- **Steady events** leave the caret behind the token. -/
theorem atToken_composerStep {c c' : Composer} {event : ComposerEvent} (hc : c.AtToken)
    (hsteady : Steady c event) (h : composerStep c event = .ok c') : c'.AtToken := by
  cases event with
  | change next caret =>
      cases h
      intro token htoken
      obtain ⟨hquery, hvalue, hcaret, -, -, hrestoring⟩ := Composer.setQuery_rest
        (c := { c with value := next, caret := caret }) (detectQuery next caret)
      refine ⟨hrestoring.trans hsteady, Or.inr ?_⟩
      rw [Composer.handleChange, hvalue, hcaret]
      exact detectQuery_eq_some (hquery.symm.trans htoken)
  | moveCaret caret => cases hsteady
  | keyDown key => exact atToken_handleKeyDown hc h
  | mouseEnter index =>
      cases h
      split
      · exact hc.same rfl rfl rfl rfl
      · exact hc
  | mouseDown index =>
      cases h
      cases c.row? index with
      | none => exact hc
      | some username => exact atToken_applyMention hc username
  | blurred =>
      cases h
      exact atToken_of_query_none (Composer.setQuery_rest none).1
  | animationFrame =>
      cases h
      cases hrestoring : c.restoring with
      | none => exact hc
      | some caret =>
          refine atToken_of_query_none ?_
          -- a caret is put back only when nothing is asked about
          rw [Option.eq_none_iff_forall_ne_some]
          intro token htoken
          rw [(hc token htoken).1] at hrestoring
          cases hrestoring
  | answered call rows =>
      cases h
      split
      · exact hc.same rfl rfl rfl rfl
      · exact hc
  | failed call =>
      cases h
      split
      · exact hc.same rfl rfl rfl rfl
      · exact hc
  | cleared =>
      cases h
      obtain ⟨hvalue, hquery, -, -, hrestoring⟩ := Composer.onChange_rest (c := c) []
      intro token htoken
      exact ⟨hrestoring.trans (hc token (hquery.symm.trans htoken)).1, Or.inl hvalue⟩

/-! ## The mention of an accepted suggestion -/

theorem not_inUsername_of_jsSpace {c : Char} (hspace : jsSpace c = true) :
    inUsername c = false := by
  rw [Bool.eq_false_iff]
  intro hin
  have hall := @forall_ascii (fun c => !(jsSpace c && inUsername c)) (by decide +kernel) c
    (toNat_of_inUsername hin)
  rw [hspace, hin] at hall
  cases hall

/-- White space of JavaScript neither is in a mention nor is one glued to it, if it is no word
character of Python. -/
theorem blanks_jsSpace {text : MentionText}
    (hword : ∀ c, jsSpace c = true → text.isWord c = false) : Blanks text jsSpace := by
  refine ⟨?_, hword, fun c => not_inUsername_of_jsSpace⟩
  rintro c hspace rfl
  revert hspace
  decide

/-- An accepted username is written over the token, and the next Enter posts the comment with it. -/
structure WritesMention (text : MentionText) (c c' : Composer)
    (username front token : List Char) : Prop where
  typed : c.value.take c.caret = front ++ '@' :: token
  last : '@' ∉ token
  written : c'.value = completed front username (c.value.drop c.caret)
  behind : c'.restoring = some (front.length + username.length + 2)
  closed : c'.showMenu = false
  mentioned : MentionsOnly text front username (c.value.drop c.caret) ↔
    Unglued text front ∧ (∀ d ∈ username, inUsername d = true) ∧ TakenWhole username
  posted : composerStep c' (.keyDown .enter) =
    .ok { c' with submitted := c'.submitted ++ [stripBy jsSpace c'.value] }
  tokens : parseMentionTokens text (String.ofList (stripBy jsSpace c'.value)) =
    parseMentionTokens text (String.ofList c'.value)

/-- A text is split in one way at its last `@`. -/
theorem last_split {front front' token token' : List Char} (hlast : '@' ∉ token)
    (hlast' : '@' ∉ token') (h : front ++ '@' :: token = front' ++ '@' :: token') :
    front = front' ∧ token = token' := by
  rcases List.append_eq_append_iff.mp h with ⟨between, hfront, hrest⟩ | ⟨between, hfront, hrest⟩
  · cases between with
    | nil => exact ⟨(hfront.trans (List.append_nil front)).symm, (List.cons.inj hrest).2⟩
    | cons d between =>
        obtain ⟨-, rfl⟩ := List.cons.inj hrest
        exact absurd (List.mem_append_right between List.mem_cons_self) hlast
  · cases between with
    | nil => exact ⟨hfront.trans (List.append_nil front'), (List.cons.inj hrest).2.symm⟩
    | cons d between =>
        obtain ⟨-, rfl⟩ := List.cons.inj hrest
        exact absurd (List.mem_append_right between List.mem_cons_self) hlast'

theorem step_of_chosen {c : Composer} {event : ComposerEvent} {username : List Char}
    (h : c.chosen event = some username) :
    composerStep c event = .ok (c.applyMention username) ∧ c.showMenu = true ∧
      username ∈ c.suggestions := by
  have haccept : ∀ {key : Key}, key = .enter ∨ key = .tab →
      c.row? c.activeIndex = some username →
      c.handleKeyDown key = .ok (c.applyMention username) := by
    intro key hkey hrow
    obtain ⟨hmenu, hindex⟩ := Composer.row?_eq_some hrow
    unfold Composer.handleKeyDown
    rw [if_pos hmenu, hindex]
    rcases hkey with rfl | rfl <;> rfl
  have hmem : ∀ {index : Nat}, c.row? index = some username →
      c.showMenu = true ∧ username ∈ c.suggestions :=
    fun hrow => (Composer.row?_eq_some hrow).imp_right List.mem_of_getElem?
  cases event with
  | keyDown key =>
      cases key with
      | enter => exact ⟨haccept (Or.inl rfl) h, hmem h⟩
      | tab => exact ⟨haccept (Or.inr rfl) h, hmem h⟩
      | arrowDown => cases h
      | arrowUp => cases h
      | escape => cases h
      | other => cases h
  | mouseDown index =>
      have hrow : c.row? index = some username := h
      refine ⟨?_, hmem hrow⟩
      rw [composerStep, hrow]
      rfl
  | change next caret => cases h
  | moveCaret caret => cases h
  | mouseEnter index => cases h
  | blurred => cases h
  | animationFrame => cases h
  | answered call rows => cases h
  | failed call => cases h
  | cleared => cases h

/-- The text before the `@` is what `applyMention` keeps of the text before the caret. -/
theorem take_of_typed {value front token : List Char} {caret : Nat}
    (h : value.take caret = front ++ '@' :: token) : value.take front.length = front := by
  have hle : front.length ≤ caret := by
    have hlength := congrArg List.length h
    rw [List.length_take, List.length_append, List.length_cons] at hlength
    omega
  have htake := congrArg (List.take front.length) h
  rwa [List.take_left, List.take_take, Nat.min_eq_left hle] at htake

/-- An `@` before the caret is all that a username needs to be written. -/
theorem writesMention_applyMention {text : MentionText} (htext : text.Documented)
    (hlower : ∀ cs, cs.length ≤ (text.lower cs).length)
    (hblanks : Blanks text jsSpace) {c : Composer} {i : Nat}
    (hindex : lastIndexOf '@' (c.value.take c.caret) = some i) (username : List Char) :
    ∃ front token, WritesMention text c (c.applyMention username) username front token := by
  obtain ⟨front, token, htyped, rfl, hlast⟩ := lastIndexOf_eq_some hindex
  obtain ⟨hvalue, hquery, -, hrestoring⟩ := Composer.applyMention_some hindex username
  rw [take_of_typed htyped] at hvalue
  have hclosed : (c.applyMention username).showMenu = false := by
    rw [Composer.showMenu, hquery]
    rfl
  have hkept : '@' ∈ stripBy jsSpace (c.applyMention username).value := by
    refine mem_stripBy (by decide) ?_
    rw [hvalue]
    exact List.mem_append_right _ List.mem_cons_self
  refine ⟨front, token, htyped, hlast, hvalue, hrestoring, hclosed,
    mentionsOnly_iff htext hlower, ?_, parseMentionTokens_stripBy hblanks _⟩
  show (c.applyMention username).handleKeyDown .enter = _
  unfold Composer.handleKeyDown
  rw [if_neg (by rw [hclosed]; exact Bool.false_ne_true),
    if_pos ⟨rfl, List.ne_nil_of_mem hkept⟩]

/-- **An accepted suggestion is mentioned.**  After any events, no event raises; a suggestion that
is accepted came in an answer and takes the place of what stands between the last `@` and the
caret, if there is one.  The server's parser then finds the mentions of the text before and of the
text behind, and the username, exactly when the username is made of the characters of its pattern
and taken whole, and the `@` is not glued to the text before.  Where the caret has moved only with
the text, it is not glued, and what the username is written over is the token asked about. -/
theorem accepted_is_mentioned {text : MentionText} (htext : text.Documented)
    (hlower : ∀ cs, cs.length ≤ (text.lower cs).length)
    (hword : ∀ d, jsSpace d = true → text.isWord d = false) {c : Composer} (hmounted : c.Mounted)
    (events : List ComposerEvent) :
    (∀ event, Returns (composerStep (run composerStep c events) event)) ∧
      ∀ event username, (run composerStep c events).chosen event = some username →
        (∃ call rows, .answered call rows ∈ events ∧ username ∈ rows) ∧
        ∃ c', composerStep (run composerStep c events) event = .ok c' ∧
          (('@' ∉ (run composerStep c events).value.take (run composerStep c events).caret ∧
              c' = run composerStep c events ∧
              (Along composerStep Steady c events → (run composerStep c events).value = [])) ∨
            ∃ front token,
              WritesMention text (run composerStep c events) c' username front token ∧
              (Along composerStep Steady c events →
                ((run composerStep c events).query = some token ∧ Unglued text front))) := by
  refine ⟨composer_returns hmounted events, fun event username hchosen => ?_⟩
  have hblanks := blanks_jsSpace hword
  have hcaret : Along composerStep Steady c events → (run composerStep c events).AtToken :=
    fun hsteady => run_inv composerStep (fun _ _ _ => atToken_composerStep) events c
      (atToken_of_query_none hmounted.query) hsteady
  have hoffered := suggestions_answered hmounted events
  generalize run composerStep c events = s at hcaret hoffered hchosen ⊢
  obtain ⟨hstep, hmenu, hmem⟩ := step_of_chosen hchosen
  obtain ⟨token, hquery⟩ := (Composer.showMenu_iff.mp hmenu).1
  refine ⟨hoffered username hmem, s.applyMention username, hstep, ?_⟩
  cases hindex : lastIndexOf '@' (s.value.take s.caret) with
  | none =>
      have hnone := lastIndexOf_eq_none hindex
      refine Or.inl ⟨hnone, Composer.applyMention_none hindex username, fun hsteady => ?_⟩
      rcases (hcaret hsteady token hquery).2 with hempty | ⟨front, hfront⟩
      · exact hempty
      · rw [hfront.split] at hnone
        exact absurd (List.mem_append_right _ List.mem_cons_self) hnone
  | some i =>
      obtain ⟨front, typed, hwrites⟩ := writesMention_applyMention htext hlower hblanks hindex
        username
      refine Or.inr ⟨front, typed, hwrites, fun hsteady => ?_⟩
      rcases (hcaret hsteady token hquery).2 with hempty | ⟨front', hfront'⟩
      · have hnil := hwrites.typed
        rw [hempty, List.take_nil] at hnil
        exact absurd hnil.symm (List.append_ne_nil_of_right_ne_nil _ (List.cons_ne_nil _ _))
      · -- both split the text at its last `@`
        have hsame := hwrites.typed.symm.trans hfront'.split
        obtain ⟨rfl, rfl⟩ := last_split hwrites.last hfront'.last hsame
        exact ⟨hquery, hblanks.unglued hfront'.space⟩

/-! ## One comment -/

/-- An empty input. -/
def emptyComposer : Composer := ⟨[], 0, none, [], 0, [], none, none, []⟩

/-- `@v` is typed, and one analyst is offered. -/
def veraOffered : List ComposerEvent :=
  [.change "ask @v".toList 6, .answered 0 ["vera".toList]]

theorem vera_is_mentioned : ∃ c', composerStep (run composerStep emptyComposer veraOffered)
    (.keyDown .enter) = .ok c' ∧ c'.value = "ask @vera ".toList ∧
      MentionsOnly .ascii "ask ".toList "vera".toList [] := by
  have hsteady : Along composerStep Steady emptyComposer veraOffered := ⟨rfl, trivial, trivial⟩
  have hword : ∀ d, jsSpace d = true → MentionText.ascii.isWord d = false := by
    intro d hspace
    rw [Bool.eq_false_iff]
    intro hstarts
    have hnot := not_inUsername_of_jsSpace hspace
    rw [inUsername_of_starts hstarts] at hnot
    cases hnot
  have hsplit : (run composerStep emptyComposer veraOffered).value.take
      (run composerStep emptyComposer veraOffered).caret = "ask ".toList ++ '@' :: "v".toList := by
    decide +kernel
  have hback : (run composerStep emptyComposer veraOffered).value.drop
      (run composerStep emptyComposer veraOffered).caret = [] := by decide +kernel
  have hvera : TakenWhole "vera".toList := by
    refine ⟨⟨'v', by decide, by decide⟩, by decide, fun c hc => ?_⟩
    cases hc
    decide
  have hchars : ∀ d ∈ "vera".toList, inUsername d = true := List.all_eq_true.mp (by decide)
  have hlower : ∀ cs, cs.length ≤ (MentionText.ascii.lower cs).length :=
    fun cs => Nat.le_of_eq (List.length_map _).symm
  obtain ⟨-, hchosen⟩ := accepted_is_mentioned documented_ascii hlower hword (c := emptyComposer)
    ⟨rfl, rfl⟩ veraOffered
  obtain ⟨-, c', hstep, ⟨hnone, -⟩ | ⟨front, token, hwrites, htyped⟩⟩ :=
    hchosen (.keyDown .enter) "vera".toList (by decide +kernel)
  · rw [hsplit] at hnone
    exact absurd (List.mem_append_right _ List.mem_cons_self) hnone
  · obtain ⟨rfl, rfl⟩ := last_split hwrites.last (by decide) (hwrites.typed.symm.trans hsplit)
    have hwritten := hwrites.written
    have hmentioned := hwrites.mentioned
    rw [hback] at hwritten hmentioned
    exact ⟨c', hstep, hwritten, hmentioned.mpr ⟨(htyped hsteady).2, hchars, hvera⟩⟩

end OpenSoar
