import CandleRelay.Proofs.Bus.Patterns
import Mathlib.Logic.Function.Iterate

/-!
# Where the walk goes

Going back to the last star moves both cursors of the walk backwards, so neither of them tells how
far the walk has come. What never goes backwards is the part of the topic that the last star has
taken: each return adds a byte to it, and between two returns the pattern's cursor only goes
forward. So the walk ends, and the fuel that it is run with is enough.

Nor does it leave pattern and topic on its way. The bytes that a step looks at are there because it
asks for the ends first; that the rest of the pattern can be cut off at the pattern's cursor, when
the topic is over, is not asked for. It holds because the star that is gone back to is behind the
cursor (`Inside`). To say so, a step is written in which a place outside the bytes is an error.

What is proved:
  1. `walk_eq_some_iff`: the walk with fuel is the bare repetition of its step.
  2. `step?_eq`: no step looks outside while the pattern's cursor is inside.
  3. `inside_after`: where the cursors are after any number of steps, by induction on these.
  4. `ends_within_bounds`: the walk ends, and is inside until then.
-/

namespace CandleRelay.Glob

variable {p t : Array UInt8} {c : Cursor}

/-! ## Steps without fuel -/

/-- A walk that is on takes a step. One that has ended stays ended. -/
def Walk.next (p t : Array UInt8) : Walk → Walk
  | .on c => c.step p t
  | .answer m => .answer m

/-- The walk after `n` steps. -/
def after (p t : Array UInt8) (n : Nat) : Walk := (Walk.next p t)^[n] (.on ⟨0, 0, none⟩)

theorem after_succ (p t : Array UInt8) (n : Nat) : after p t (n + 1) = (after p t n).next p t :=
  Function.iterate_succ_apply' ..

theorem walk_eq_some_iff {fuel : Nat} {m : Bool} :
    walk p t fuel c = some m ↔ (Walk.next p t)^[fuel] (.on c) = .answer m := by
  induction fuel generalizing c with
  | zero => simp [walk]
  | succ fuel ih =>
    rw [walk, Function.iterate_succ_apply]
    show _ ↔ (Walk.next p t)^[fuel] (c.step p t) = _
    cases c.step p t with
    | on c' => exact ih
    | answer m' =>
      rw [Function.iterate_fixed rfl]
      simp

theorem after_of_le {n k : Nat} {m : Bool} (h : after p t n = .answer m) (hk : n ≤ k) :
    after p t k = .answer m := by
  induction hk with
  | refl => exact h
  | step _ ih =>
    rw [after_succ, ih]
    rfl

/-! ## Steps that look where there is nothing -/

/-- What is left of a pattern from a place on, which must not be beyond its end. -/
def rest? (p : Array UInt8) (i : Nat) : Option (List UInt8) :=
  if i ≤ p.size then some (p.toList.drop i) else none

/-- Whether the pattern goes on with a byte that stands for the topic's. -/
def Cursor.passes? (p t : Array UInt8) (c : Cursor) : Option Bool :=
  if c.pattern < p.size then do
    let a ← p[c.pattern]?
    if a == anyByte then return true
    let b ← t[c.topic]?
    return a == b
  else some false

/-- Whether the pattern goes on with a star. -/
def Cursor.remembers? (p : Array UInt8) (c : Cursor) : Option Bool :=
  if c.pattern < p.size then do
    let a ← p[c.pattern]?
    return a == star
  else some false

/-- One step of the walk, or `none` if it looks where there is no byte. -/
def Cursor.step? (p t : Array UInt8) (c : Cursor) : Option Walk :=
  if c.topic < t.size then do
    if ← c.passes? p t then return .on ⟨c.pattern + 1, c.topic + 1, c.back⟩
    if ← c.remembers? p then return .on ⟨c.pattern + 1, c.topic, some (c.pattern, c.topic)⟩
    match c.back with
    | some (place, taken) => return .on ⟨place + 1, taken + 1, some (place, taken + 1)⟩
    | none => return .answer false
  else do
    let rest ← rest? p c.pattern
    return .answer (rest.all (· == star))

theorem passes?_eq {b : UInt8} (ht : t[c.topic]? = some b) :
    c.passes? p t = some (decide (p[c.pattern]? = some anyByte ∨ p[c.pattern]? = some b)) := by
  unfold Cursor.passes?
  split
  · next h =>
    rw [Array.getElem?_eq_getElem h, ht]
    by_cases hany : p[c.pattern] = anyByte
    · simp [hany]
    · simp [hany, beq_eq_decide]
  · next h => simp [Array.getElem?_eq_none (Nat.le_of_not_lt h)]

theorem remembers?_eq (p : Array UInt8) (c : Cursor) :
    c.remembers? p = some (decide (p[c.pattern]? = some star)) := by
  unfold Cursor.remembers?
  split
  · next h => simp [Array.getElem?_eq_getElem h, beq_eq_decide]
  · next h => simp [Array.getElem?_eq_none (Nat.le_of_not_lt h)]

theorem step?_eq (h : c.pattern ≤ p.size) : c.step? p t = some (c.step p t) := by
  unfold Cursor.step? Cursor.step
  split
  · next hlt =>
    have ht : t[c.topic]? = some t[c.topic] := Array.getElem?_eq_getElem hlt
    rw [passes?_eq ht, remembers?_eq, ht]
    dsimp only
    by_cases hpass : p[c.pattern]? = some anyByte ∨ p[c.pattern]? = some t[c.topic]
    · rw [decide_eq_true hpass, if_pos hpass]
      rfl
    rw [decide_eq_false hpass, if_neg hpass]
    by_cases hstar : p[c.pattern]? = some star
    · rw [decide_eq_true hstar, if_pos hstar]
      rfl
    rw [decide_eq_false hstar, if_neg hstar]
    cases c.back with
    | none => rfl
    | some last => rfl
  · next hge =>
    rw [Array.getElem?_eq_none (Nat.le_of_not_lt hge), rest?, if_pos h]
    rfl

/-- A cursor that has left the pattern is found out. -/
example : Cursor.step? #[star] #[] ⟨2, 0, none⟩ = none := by decide

/-! ## The whole way -/

theorem inside_after {n : Nat} (h : after p t n = .on c) : Inside p t c := by
  induction n generalizing c with
  | zero =>
    cases h
    exact inside_start
  | succ n ih =>
    rw [after_succ] at h
    cases hbefore : after p t n with
    | answer m => rw [hbefore] at h; cases h
    | on c' =>
      rw [hbefore] at h
      exact (ih hbefore).on (moves_of_step h)

theorem after_enough (p t : Array UInt8) : after p t (enough p t) = .answer (isMatch p t) :=
  walk_eq_some_iff.1 (walk_enough p t)

/-- **The way of a walk.** It has ended after `(t.size + 2) * (p.size + 1)` steps, and no more fuel
is needed to learn its answer. Until then the cursors are inside pattern and topic, the star that is
remembered is one and behind them, and no step looks where there is no byte. -/
theorem ends_within_bounds (p t : Array UInt8) :
    (∀ n, (t.size + 2) * (p.size + 1) ≤ n →
      after p t n = .answer (isMatch p t) ∧
        walk p t n ⟨0, 0, none⟩ = some (isMatch p t)) ∧
    ∀ n c, after p t n = .on c →
      n < (t.size + 2) * (p.size + 1) ∧
      c.pattern ≤ p.size ∧ c.topic ≤ t.size ∧
      (∀ place taken, c.back = some (place, taken) →
        place < c.pattern ∧ p[place]? = some star ∧ taken ≤ c.topic) ∧
      c.step? p t = some (c.step p t) := by
  have hends (n : Nat) (hn : (t.size + 2) * (p.size + 1) ≤ n) :
      after p t n = .answer (isMatch p t) := after_of_le (after_enough p t) hn
  refine ⟨fun n hn => ⟨hends n hn, walk_eq_some_iff.2 (hends n hn)⟩, fun n c hc => ?_⟩
  have hinside := inside_after hc
  have hbefore : n < (t.size + 2) * (p.size + 1) := by
    refine Nat.lt_of_not_le fun hn => ?_
    rw [hends n hn] at hc
    cases hc
  exact ⟨hbefore, hinside.pattern, hinside.topic, hinside.back, step?_eq hinside.pattern⟩

/-- The pattern `*aab` on the topic `aaab`: the fourth step takes both cursors back. -/
theorem goes_back_within_bounds :
    let p : Array UInt8 := #[0x2A, 0x61, 0x61, 0x62]
    let t : Array UInt8 := #[0x61, 0x61, 0x61, 0x62]
    (after p t 3 = .on ⟨3, 2, some (0, 0)⟩ ∧
      Cursor.step? p t ⟨3, 2, some (0, 0)⟩ = some (.on ⟨1, 1, some (0, 1)⟩)) ∧
    30 = (t.size + 2) * (p.size + 1) ∧ after p t 30 = .answer true := by
  intro p t
  have hthird : after p t 3 = .on ⟨3, 2, some (0, 0)⟩ := by decide
  have hmatch : isMatch p t = true := by decide +kernel
  obtain ⟨hends, hway⟩ := ends_within_bounds p t
  obtain ⟨-, -, -, -, hstep⟩ := hway 3 _ hthird
  refine ⟨⟨hthird, hstep.trans (by decide)⟩, rfl, ?_⟩
  rw [(hends 30 (by decide)).1, hmatch]

end CandleRelay.Glob
