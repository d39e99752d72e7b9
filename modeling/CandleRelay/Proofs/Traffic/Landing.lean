import CandleRelay.Proofs.Traffic.Effects

/-!
# Every dispatch lands

A delivery is over after three moves, however its write and its close run: one that would go on for
ever is ended by its timeout, and that is a move like any other. So the dispatch under way is over
as soon as each of its deliveries has had three moves, whatever else happens in the gateway between
them, and the listener is free to take the next message.

What is proved:
  1. `Delivery.movesLeft_move`: each move takes one from what `Stage.movesLeft` allows a delivery.
  2. `Dispatched.Advanced d n d'`: in `d'` each delivery of `d` is nearer to its end by as many
     moves as `n` says. Nothing that happens in between takes a move back (`advanced_run`).
  3. `Traffic.flies`: all that an act can do to the dispatches.
  4. `landed_of_moves`: three moves of each delivery land the dispatch under way.
-/

namespace CandleRelay.Gateway

/-- How many moves there are at most before a delivery is over. -/
def Stage.movesLeft : Stage → Nat
  | .waiting => 3
  | .writing _ _ => 2
  | .closing _ _ => 1
  | .ended _ _ => 0

theorem Stage.movesLeft_le (st : Stage) : st.movesLeft ≤ 3 := by
  cases st <;> simp [movesLeft]

namespace Delivery

variable (settings : Settings) (payload : Bytes) {g : Gateway} {v : Delivery}

theorem isOver_iff : v.isOver = true ↔ v.stage.movesLeft = 0 := by
  cases hs : v.stage <;> simp [isOver, due?, hs, Stage.movesLeft]

theorem movesLeft_fail (now : Nat) (pace : Pace) :
    (v.fail settings now pace g).2.stage.movesLeft ≤ 1 := by
  rcases fail_cases settings (g := g) (d := v) rfl now pace with
    ⟨-, hfail⟩ | ⟨-, -, -, hfail⟩
  · simp [hfail, Stage.movesLeft]
  · simp [hfail, Stage.movesLeft]

/-- Each move brings a delivery nearer to its end. -/
theorem movesLeft_move :
    (v.move settings payload g).2.stage.movesLeft ≤ v.stage.movesLeft - 1 := by
  cases hs : v.stage with
  | waiting =>
    simp only [move, hs, start]
    split <;> simp [Stage.movesLeft]
  | writing due ending =>
    simp only [move, hs, settle]
    split
    · exact Nat.zero_le 1
    · split
      · exact Nat.zero_le 1
      · exact movesLeft_fail settings due _
  | closing due ending => cases ending <;> simp [move, hs, finishClose, Stage.movesLeft]
  | ended time o => simp [move, hs, Stage.movesLeft]

end Delivery

namespace Dispatched

variable {d d' d'' : Dispatched} {n n' : Nat → Nat} {g : Gateway} {k : Nat} {old : Delivery}

/-- What a dispatch has become when its `k`-th delivery has made `n k` moves, or all it had left. -/
structure Advanced (d : Dispatched) (n : Nat → Nat) (d' : Dispatched) : Prop where
  message : d'.message = d.message
  snapshot : d'.snapshot = d.snapshot
  left : ∀ k v', d'.flight.deliveries[k]? = some v' →
    ∃ v, d.flight.deliveries[k]? = some v ∧ v'.stage.movesLeft ≤ v.stage.movesLeft - n k

theorem Advanced.refl (d : Dispatched) : d.Advanced (fun _ => 0) d :=
  ⟨rfl, rfl, fun _ v hv => ⟨v, hv, Nat.le_refl _⟩⟩

theorem Advanced.trans (h : d.Advanced n d') (h' : d'.Advanced n' d'') :
    d.Advanced (fun k => n k + n' k) d'' := by
  refine ⟨h'.message.trans h.message, h'.snapshot.trans h.snapshot, ?_⟩
  intro k v'' hv''
  obtain ⟨v', hv', hleft'⟩ := h'.left k v'' hv''
  obtain ⟨v, hv, hleft⟩ := h.left k v' hv'
  exact ⟨v, hv, by omega⟩

theorem Advanced.of_landed (hl : d.landed = true) (n : Nat → Nat) : d.Advanced n d := by
  refine ⟨rfl, rfl, ?_⟩
  intro k v hv
  have hover := Delivery.isOver_iff.1 (List.all_eq_true.1 hl v (List.mem_of_getElem? hv))
  exact ⟨v, hv, by omega⟩

theorem advanced_moved (hk : d.flight.deliveries[k]? = some old) :
    d.Advanced (fun j => [Act.move k].count (.move j))
      (d.moved g k old (old.move d.flight.settings d.flight.payload g).2) := by
  refine ⟨rfl, rfl, ?_⟩
  intro j v hv
  have hv : (d.flight.deliveries.set k (old.move d.flight.settings d.flight.payload g).2)[j]? =
      some v := hv
  by_cases hj : k = j
  · subst hj
    rw [List.getElem?_set_self (List.getElem?_eq_some_iff.1 hk).1] at hv
    obtain rfl := Option.some.inj hv
    rw [List.count_singleton_self]
    exact ⟨old, hk, Delivery.movesLeft_move d.flight.settings d.flight.payload⟩
  · rw [List.getElem?_set_ne hj] at hv
    have hne : Act.move k ≠ .move j := by simp [hj]
    rw [List.count_cons_of_ne hne, List.count_nil]
    exact ⟨v, hv, Nat.le_refl _⟩

theorem Advanced.landed (h : d.Advanced n d')
    (hthree : ∀ k < d.flight.deliveries.length, 3 ≤ n k) : d'.landed = true := by
  refine List.all_eq_true.2 ?_
  intro v' hmem
  obtain ⟨k, hk⟩ := List.mem_iff_getElem?.1 hmem
  obtain ⟨v, hv, hleft⟩ := h.left k v' hk
  have hmoves := hthree k (List.getElem?_eq_some_iff.1 hv).1
  have hbound := v.stage.movesLeft_le
  exact Delivery.isOver_iff.2 (by omega)

end Dispatched

namespace Traffic

variable {s : Traffic} {d : Dispatched} {a : Act} {acts : List Act}

/-- What an act does to the dispatches. -/
inductive Flies (s : Traffic) (a : Act) : Prop where
  /-- Nothing. If it is a move, there is no such delivery. -/
  | stays (hpast : (s.step a).past = s.past) (hcurrent : (s.step a).current = s.current)
      (hnone : ∀ k d, a = .move k → s.current = some d → d.flight.deliveries[k]? = none)
  /-- The listener takes a message. -/
  | takes (m : Message) (rest : List Message) (ha : a = .take) (hlanded : s.landed = true)
      (hstep : s.step a = s.afterTake m rest)
  /-- A delivery moves. -/
  | moves (d : Dispatched) (k : Nat) (old : Delivery) (ha : a = .move k)
      (hcurrent : s.current = some d) (hk : d.flight.deliveries[k]? = some old)
      (hstep : s.step a = s.afterMove d k old)

theorem Flies.of_same (hpast : (s.step a).past = s.past) (hcurrent : (s.step a).current = s.current)
    (hmove : ∀ k, a ≠ .move k) : Flies s a :=
  .stays hpast hcurrent fun k _ ha => absurd ha (hmove k)

theorem flies (s : Traffic) (a : Act) : Flies s a := by
  cases a with
  | move k =>
    cases hcurrent : s.current with
    | none =>
      have hsame : s.step (.move k) = s := by simp only [step, moveDelivery, hcurrent]
      refine .stays (congrArg past hsame) (congrArg current hsame) ?_
      intro _ d _ hd
      rw [hcurrent] at hd
      simp at hd
    | some d =>
      cases hk : d.flight.deliveries[k]? with
      | none =>
        have hsame : s.step (.move k) = s := by simp only [step, moveDelivery, hcurrent, hk]
        refine .stays (congrArg past hsame) (congrArg current hsame) ?_
        intro k' d' hmove hd
        rw [hcurrent] at hd
        rwa [← Option.some.inj hd, ← Act.move.inj hmove]
      | some old => exact .moves d k old rfl hcurrent hk (moveDelivery_of_getElem? hcurrent hk)
  | take =>
    rcases takeNext_cases s with hsame | ⟨m, rest, -, hlanded, htake⟩
    · exact .of_same (congrArg past hsame) (congrArg current hsame) (by simp)
    · exact .takes m rest rfl hlanded htake
  | enroll id manner =>
    refine .of_same ?_ ?_ (by simp)
    · simp only [step]
      split <;> rfl
    · simp only [step]
      split <;> rfl
  | _ => exact .of_same rfl rfl (by simp)

/-- An act leaves the dispatch under way where it is, or moves it on, or, when it is over, lets the
next one follow. -/
theorem advanced_step (hcurrent : s.current = some d) (a : Act) :
    (∃ d', (s.step a).past = s.past ∧ (s.step a).current = some d' ∧
      d.Advanced (fun k => [a].count (.move k)) d') ∨
    (d.landed = true ∧ (s.step a).past = s.past ++ [d]) := by
  cases flies s a with
  | stays hpast hsame hnone =>
    refine Or.inl ⟨d, hpast, hsame.trans hcurrent, rfl, rfl, ?_⟩
    intro k v hv
    have hne : a ≠ .move k := by
      intro ha
      rw [hnone k d ha hcurrent] at hv
      simp at hv
    rw [List.count_cons_of_ne hne, List.count_nil]
    exact ⟨v, hv, Nat.le_refl _⟩
  | takes m rest ha hlanded hstep =>
    refine Or.inr ⟨?_, ?_⟩
    · rwa [landed, hcurrent] at hlanded
    · rw [hstep, afterTake, dispatches, hcurrent]
      rfl
  | moves d' k old ha hcurrent' hk hstep =>
    obtain rfl : d' = d := Option.some.inj (hcurrent'.symm.trans hcurrent)
    rw [hstep, ha]
    exact Or.inl ⟨_, rfl, rfl, Dispatched.advanced_moved hk⟩

theorem past_step (s : Traffic) (a : Act) :
    (s.step a).past = s.past ∨ a = .take ∧ (s.step a).past = s.dispatches := by
  cases flies s a with
  | stays hpast hsame hnone => exact Or.inl hpast
  | takes m rest ha hlanded hstep => exact Or.inr ⟨ha, by rw [hstep]; rfl⟩
  | moves d k old ha hcurrent hk hstep => exact Or.inl (by rw [hstep]; rfl)

theorem past_run (s : Traffic) (acts : List Act) : s.past <+: (s.run acts).past := by
  induction acts generalizing s with
  | nil => exact List.prefix_refl _
  | cons a acts ih =>
    have hfirst : s.past <+: (s.step a).past := by
      rcases past_step s a with hsame | ⟨-, hpast⟩
      · exact ⟨[], by rw [List.append_nil, hsame]⟩
      · rw [hpast, dispatches]
        exact List.prefix_append _ _
    exact hfirst.trans (ih (s.step a))

theorem past_run_of_no_take (s : Traffic) (htake : .take ∉ acts) :
    (s.run acts).past = s.past := by
  induction acts generalizing s with
  | nil => rfl
  | cons a acts ih =>
    refine (ih (s.step a) (fun hmem => htake (List.mem_cons_of_mem a hmem))).trans ?_
    rcases past_step s a with hsame | ⟨rfl, -⟩
    · exact hsame
    · exact absurd List.mem_cons_self htake

theorem getElem?_dispatches (hcurrent : s.current = some d) :
    s.dispatches[s.past.length]? = some d := by
  rw [dispatches, hcurrent, List.getElem?_append_right (Nat.le_refl _), Nat.sub_self]
  rfl

/-- Whatever happens, no move of a dispatch under way is lost. -/
theorem advanced_run (hcurrent : s.current = some d) (acts : List Act) :
    ∃ d', (s.run acts).dispatches[s.past.length]? = some d' ∧
      d.Advanced (fun k => acts.count (.move k)) d' := by
  -- The induction is on the acts from the first; the dispatch may be over before they are.
  induction acts generalizing s d with
  | nil => exact ⟨d, getElem?_dispatches hcurrent, .refl d⟩
  | cons a acts ih =>
    rcases advanced_step hcurrent a with ⟨d', hpast, hcurrent', hadvanced⟩ | ⟨hlanded, hpast⟩
    · obtain ⟨d'', hget, hadvanced'⟩ := ih hcurrent'
      rw [hpast] at hget
      refine ⟨d'', hget, ?_⟩
      have hcount : (fun k => (a :: acts).count (.move k)) =
          fun k => [a].count (.move k) + acts.count (.move k) := by
        funext k
        rw [← List.singleton_append, List.count_append]
      rw [hcount]
      exact hadvanced.trans hadvanced'
    · refine ⟨d, ?_, .of_landed hlanded _⟩
      obtain ⟨rest, hrest⟩ := past_run (s.step a) acts
      show ((s.step a).run acts).dispatches[s.past.length]? = some d
      rw [dispatches, ← hrest, hpast]
      simp

/-- Three moves of each delivery land the dispatch under way. -/
theorem landed_of_moves (hcurrent : s.current = some d)
    (hmoves : ∀ k < d.flight.deliveries.length, 3 ≤ acts.count (.move k)) :
    ∃ d', (s.run acts).dispatches[s.past.length]? = some d' ∧ d'.message = d.message ∧
      d'.snapshot = d.snapshot ∧ d'.landed = true := by
  obtain ⟨d', hget, hadvanced⟩ := advanced_run hcurrent acts
  exact ⟨d', hget, hadvanced.message, hadvanced.snapshot, hadvanced.landed hmoves⟩

end Traffic

end CandleRelay.Gateway
