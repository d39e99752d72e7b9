import CandleRelay.Proofs.Bus.Following

/-!
# The readers of a bus

What is proved of a bus and all its readers, whatever is done with them and in whatever order:

1. `befalls_step`: what an act can mean to one reader. Nothing, one more message, its arrival, one
   of its readings, or its departure.
2. `sound_run`: every reader follows the log from where it was when the reader came.
3. `Mirrors.run`: the readings of a reader are those it would have made had there been no other.
4. `readers_follow_alone` puts the two together.
-/

namespace CandleRelay.BusUsage

variable {u v : BusUsage} {i n : Nat} {capacity : Nat}

theorem run_concat (u : BusUsage) (acts : List Act) (a : Act) :
    u.run (acts ++ [a]) = (u.run acts).step a := by
  rw [run, List.foldl_append]
  rfl

theorem readings_concat (u : BusUsage) (bus : MemoryBus) (i j : Nat) (n : Note) :
    readings { u with bus, notes := u.notes ++ [(j, n)] } i =
      u.readings i ++ if j = i then [n] else [] := by
  by_cases h : j = i <;> simp [readings, List.filterMap_append, h]

theorem getElem?_setIfInBounds_same {α : Type} (xs : Array α) (i : Nat) (a : α) :
    (xs.setIfInBounds i a)[i]? = xs[i]?.map fun _ => a := by
  by_cases h : i < xs.size
  · rw [Array.getElem?_setIfInBounds_self_of_lt h, Array.getElem?_eq_getElem h]
    rfl
  · rw [Array.getElem?_eq_none (by simpa using h), Array.getElem?_eq_none (by omega)]
    rfl

/-! ## One act -/

theorem readOn_of_present {s : Subscriber} (hs : u.bus.subscribers[i]? = some (some s)) :
    u.readOn i =
      { u with
        bus := { u.bus with
          subscribers := u.bus.subscribers.setIfInBounds i (some (u.bus.readAs s).2) }
        notes := u.notes ++ [(i, u.bus.noteOf s)] } := by
  simp [readOn, MemoryBus.read, hs]

theorem readOn_of_absent (hs : ∀ s, u.bus.subscribers[i]? ≠ some (some s)) : u.readOn i = u := by
  unfold readOn
  split
  · next s h => exact absurd h (hs s)
  · rfl

/-- What an act can mean to reader `i`. -/
inductive Befalls (i : Nat) (u v : BusUsage) : Prop where
  | nothing (log : v.bus.log = u.bus.log) (came : v.arrivals[i]? = u.arrivals[i]?)
      (stands : v.bus.subscribers[i]? = u.bus.subscribers[i]?)
      (readings : v.readings i = u.readings i)
  | publication (m : Message) (log : v.bus.log = u.bus.log.push m)
      (came : v.arrivals[i]? = u.arrivals[i]?)
      (stands : v.bus.subscribers[i]? = u.bus.subscribers[i]?)
      (readings : v.readings i = u.readings i)
  | arrival (pattern : String) (log : v.bus.log = u.bus.log) (new : u.arrivals.length = i)
      (came : v.arrivals[i]? = some (pattern, u.bus.log.size))
      (stands : v.bus.subscribers[i]? = some (some ⟨pattern, u.bus.log.size⟩))
      (readings : v.readings i = u.readings i)
  | reading (s : Subscriber) (log : v.bus.log = u.bus.log) (came : v.arrivals[i]? = u.arrivals[i]?)
      (stood : u.bus.subscribers[i]? = some (some s))
      (stands : v.bus.subscribers[i]? = some (some (u.bus.readAs s).2))
      (readings : v.readings i = u.readings i ++ [u.bus.noteOf s])
  | departure (log : v.bus.log = u.bus.log) (came : v.arrivals[i]? = u.arrivals[i]?)
      (gone : ∀ s, v.bus.subscribers[i]? ≠ some (some s)) (readings : v.readings i = u.readings i)

theorem befalls_readOn (u : BusUsage) (i j : Nat) : Befalls i u (u.readOn j) := by
  by_cases hthere : ∃ s, u.bus.subscribers[j]? = some (some s)
  swap
  · rw [readOn_of_absent fun s hs => hthere ⟨s, hs⟩]
    exact .nothing rfl rfl rfl rfl
  obtain ⟨s, hs⟩ := hthere
  rw [readOn_of_present hs]
  by_cases hj : j = i
  · subst hj
    refine .reading s rfl rfl hs ?_ ?_
    · rw [getElem?_setIfInBounds_same, hs]
      rfl
    · rw [readings_concat, if_pos rfl]
  · refine .nothing rfl rfl (Array.getElem?_setIfInBounds_ne hj) ?_
    rw [readings_concat, if_neg hj, List.append_nil]

theorem befalls_subscribe (harrivals : u.arrivals.length = u.bus.subscribers.size)
    (pattern : String) (i : Nat) :
    Befalls i u
      { u with
        bus := u.bus.subscribe pattern
        arrivals := u.arrivals ++ [(pattern, u.bus.log.size)] } := by
  by_cases hi : u.arrivals.length = i
  · refine .arrival pattern rfl hi ?_ ?_ rfl
    · rw [← hi, List.getElem?_append_right (Nat.le_refl _), Nat.sub_self]
      rfl
    · rw [MemoryBus.subscribe, Array.getElem?_push, if_pos (by omega)]
  · refine .nothing rfl ?_ ?_ rfl
    · rw [List.getElem?_append]
      split
      · rfl
      · rw [List.getElem?_eq_none (by simp; omega), List.getElem?_eq_none (by omega)]
    · rw [MemoryBus.subscribe, Array.getElem?_push, if_neg (by omega)]

theorem befalls_step (harrivals : u.arrivals.length = u.bus.subscribers.size) (a : Act) (i : Nat) :
    Befalls i u (u.step a) := by
  cases a with
  | publish m =>
    simp only [step]
    split
    · exact .nothing rfl rfl rfl rfl
    · exact .publication m rfl rfl rfl rfl
  | subscribe pattern =>
    simp only [step]
    split
    · exact .nothing rfl rfl rfl rfl
    · exact befalls_subscribe harrivals pattern i
  | read j => exact befalls_readOn u i j
  | unsubscribe j =>
    by_cases hj : j = i
    · subst hj
      refine .departure rfl rfl (fun s hs => ?_) rfl
      simp only [step, MemoryBus.unsubscribe, getElem?_setIfInBounds_same] at hs
      cases h : u.bus.subscribers[j]? <;> simp [h] at hs
    · exact .nothing rfl rfl (Array.getElem?_setIfInBounds_ne hj) rfl
  | clone =>
    simp only [step]
    split <;> exact .nothing rfl rfl rfl rfl
  | drop => exact .nothing rfl rfl rfl rfl

/-! ## A run -/

/-- `Tracks` holds of every reader that came, and those that are still there stand where it says. -/
structure Sound (capacity : Nat) (u : BusUsage) : Prop where
  window : u.bus.window = MemoryBus.powerAbove capacity
  arrivals : u.arrivals.length = u.bus.subscribers.size
  noted : ∀ i, u.arrivals[i]? = none → u.readings i = []
  tracks : ∀ i pattern since, u.arrivals[i]? = some (pattern, since) →
    ∃ next, Tracks (MemoryBus.powerAbove capacity) u.bus.log pattern since next (u.readings i) ∧
      ∀ s, u.bus.subscribers[i]? = some (some s) → s = ⟨pattern, next⟩

theorem sound_start (capacity : Nat) : Sound capacity (start capacity) :=
  ⟨rfl, rfl, fun _ _ => rfl, by simp [start]⟩

theorem readOn_frame (u : BusUsage) (i : Nat) :
    (u.readOn i).bus.window = u.bus.window ∧ (u.readOn i).arrivals = u.arrivals ∧
      (u.readOn i).bus.subscribers.size = u.bus.subscribers.size := by
  unfold readOn
  split
  · next s hs => simp [MemoryBus.read, hs]
  · exact ⟨rfl, rfl, rfl⟩

theorem step_window (u : BusUsage) (a : Act) : (u.step a).bus.window = u.bus.window := by
  cases a with
  | read i => exact (readOn_frame u i).1
  | unsubscribe => rfl
  | drop => rfl
  | publish | subscribe | clone =>
    simp only [step]
    split <;> rfl

theorem step_arrivals (h : u.arrivals.length = u.bus.subscribers.size) (a : Act) :
    (u.step a).arrivals.length = (u.step a).bus.subscribers.size := by
  cases a with
  | read i =>
    obtain ⟨-, harrivals, hsize⟩ := readOn_frame u i
    simp only [step, harrivals, hsize, h]
  | unsubscribe => simp [step, MemoryBus.unsubscribe, h]
  | drop => exact h
  | publish | subscribe | clone =>
    simp only [step]
    split <;> simp [MemoryBus.publish, MemoryBus.subscribe, MemoryBus.clone, h]

theorem Sound.noted_step (h : Sound capacity u) (a : Act) (hi : (u.step a).arrivals[i]? = none) :
    (u.step a).readings i = [] := by
  have hnone : u.arrivals[i]? = none → u.readings i = [] := h.noted i
  cases befalls_step h.arrivals a i with
  | nothing log came stands readings => rw [readings, hnone (came.symm.trans hi)]
  | publication m log came stands readings => rw [readings, hnone (came.symm.trans hi)]
  | arrival pattern log new came => simp [came] at hi
  | reading s log came stood =>
    -- Whoever stands somewhere has come.
    have hsize := (Array.getElem?_eq_some_iff.1 stood).1
    have hlength := List.getElem?_eq_none_iff.1 (came.symm.trans hi)
    have harrivals := h.arrivals
    omega
  | departure log came gone readings => rw [readings, hnone (came.symm.trans hi)]

theorem Sound.step (h : Sound capacity u) (a : Act) : Sound capacity (u.step a) := by
  refine ⟨(step_window u a).trans h.window, step_arrivals h.arrivals a,
    fun i hi => h.noted_step a hi, fun i pattern since hi => ?_⟩
  cases befalls_step h.arrivals a i with
  | nothing log came stands readings =>
    rw [log, readings, stands]
    exact h.tracks i pattern since (came.symm.trans hi)
  | publication m log came stands readings =>
    obtain ⟨next, htracks, hstands⟩ := h.tracks i pattern since (came.symm.trans hi)
    rw [log, readings, stands]
    exact ⟨next, htracks.push m, hstands⟩
  | arrival pattern' log new came stands readings =>
    obtain ⟨rfl, rfl⟩ : pattern' = pattern ∧ u.bus.log.size = since := by simpa [came] using hi
    rw [log, readings, h.noted i (List.getElem?_eq_none (Nat.le_of_eq new)), stands]
    refine ⟨_, tracks_nil .., fun s hs => ?_⟩
    exact (Option.some.inj (Option.some.inj hs)).symm
  | reading s log came stood stands readings =>
    obtain ⟨next, htracks, hstands⟩ := h.tracks i pattern since (came.symm.trans hi)
    obtain rfl := hstands s stood
    have hmoves := MemoryBus.moves_readAs (s := ⟨pattern, next⟩) htracks.inside
    rw [h.window] at hmoves
    rw [log, readings, stands]
    refine ⟨_, htracks.read hmoves, fun s' hs' => ?_⟩
    rw [← Option.some.inj (Option.some.inj hs')]
    exact congrArg (Subscriber.mk · _) (MemoryBus.readAs_pattern _ _)
  | departure log came gone readings =>
    obtain ⟨next, htracks, -⟩ := h.tracks i pattern since (came.symm.trans hi)
    rw [log, readings]
    exact ⟨next, htracks, fun s hs => absurd hs (gone s)⟩

theorem sound_run (capacity : Nat) (acts : List Act) :
    Sound capacity ((start capacity).run acts) := by
  induction acts using List.reverseRecOn with
  | nil => exact sound_start capacity
  | append_singleton acts a ih =>
    rw [run_concat]
    exact ih.step a

/-! ## One reader among others -/

/-- How many readers an act brings. -/
def Act.arrivals : Act → Nat
  | .subscribe _ => 1
  | _ => 0

/-- What is left of an act without the other readers. Reader `i` is then the only one; `n` readers
have asked to come before. -/
def Act.alone (i n : Nat) : Act → Option Act
  | .subscribe pattern => if n = i then some (.subscribe pattern) else none
  | .read j => if j = i then some (.read 0) else none
  | .unsubscribe j => if j = i then some (.unsubscribe 0) else none
  | a => some a

/-- The acts without the patterns, readings, arrivals and departures of the other readers. -/
def alone (i : Nat) : (n : Nat) → List Act → List Act
  | _, [] => []
  | n, a :: acts => (a.alone i n).toList ++ alone i (n + a.arrivals) acts

/-- The only reader of `v` is what reader `i` is in `u`. -/
structure Mirrors (i n : Nat) (u v : BusUsage) : Prop where
  window : v.bus.window = u.bus.window
  log : v.bus.log = u.bus.log
  handles : v.bus.handles = u.bus.handles
  reader : v.bus.subscribers[0]? = u.bus.subscribers[i]?
  readings : v.readings 0 = u.readings i
  count_le : u.bus.subscribers.size ≤ n
  count : u.bus.handles ≠ 0 → u.bus.subscribers.size = n

theorem Mirrors.readAs (h : Mirrors i n u v) (s : Subscriber) :
    v.bus.readAs s = u.bus.readAs s := by
  simp only [MemoryBus.readAs, MemoryBus.oldest, h.window, h.log, h.handles]

theorem Mirrors.noteOf (h : Mirrors i n u v) (s : Subscriber) :
    v.bus.noteOf s = u.bus.noteOf s := by
  rw [MemoryBus.noteOf, MemoryBus.noteOf, h.readAs, h.log, h.handles]

theorem Mirrors.readOn (h : Mirrors i n u v) : Mirrors i n (u.readOn i) (v.readOn 0) := by
  by_cases hthere : ∃ s, u.bus.subscribers[i]? = some (some s)
  · obtain ⟨s, hs⟩ := hthere
    have hs' : v.bus.subscribers[0]? = some (some s) := h.reader.trans hs
    rw [readOn_of_present hs, readOn_of_present hs', h.readAs, h.noteOf]
    refine ⟨h.window, h.log, h.handles, ?_, ?_, by simpa using h.count_le, by simpa using h.count⟩
    · rw [getElem?_setIfInBounds_same, getElem?_setIfInBounds_same, hs, hs']
    · rw [readings_concat, readings_concat, if_pos rfl, if_pos rfl, h.readings]
  · have habsent : ∀ s, u.bus.subscribers[i]? ≠ some (some s) := fun s hs => hthere ⟨s, hs⟩
    rw [readOn_of_absent habsent, readOn_of_absent (h.reader ▸ habsent)]
    exact h

theorem Mirrors.readOn_other (h : Mirrors i n u v) {j : Nat} (hj : j ≠ i) :
    Mirrors i n (u.readOn j) v := by
  by_cases hthere : ∃ s, u.bus.subscribers[j]? = some (some s)
  · obtain ⟨s, hs⟩ := hthere
    rw [readOn_of_present hs]
    refine ⟨h.window, h.log, h.handles, ?_, ?_, by simpa using h.count_le, by simpa using h.count⟩
    · rw [Array.getElem?_setIfInBounds_ne hj, h.reader]
    · rw [readings_concat, if_neg hj, List.append_nil, h.readings]
  · rwa [readOn_of_absent fun s hs => hthere ⟨s, hs⟩]

theorem Mirrors.subscribe (h : Mirrors i n u v) (pattern : String) :
    Mirrors i (n + 1) (u.step (.subscribe pattern))
      (if n = i then v.step (.subscribe pattern) else v) := by
  have hle := h.count_le
  by_cases hzero : u.bus.handles = 0
  · -- Without a handle nobody comes any more, here or there.
    have hzero' : v.bus.handles = 0 := h.handles.trans hzero
    simp only [BusUsage.step, hzero, hzero', ite_true, ite_self]
    exact ⟨h.window, h.log, h.handles, h.reader, h.readings, by omega, fun hpos =>
      absurd hzero hpos⟩
  have hcount := h.count hzero
  have hzero' : ¬ v.bus.handles = 0 := fun h' => hzero (h.handles.symm.trans h')
  simp only [BusUsage.step, if_neg hzero, if_neg hzero']
  have hsize : (u.bus.subscribe pattern).subscribers.size = n + 1 := by
    simp [MemoryBus.subscribe, hcount]
  by_cases hn : n = i
  · rw [if_pos hn]
    -- It is the first reader in `v`, since it would be the next one in `u`.
    have hfirst : v.bus.subscribers.size = 0 := by
      have hnone : v.bus.subscribers[0]? = none :=
        h.reader.trans (Array.getElem?_eq_none (by omega))
      simpa using hnone
    refine ⟨h.window, h.log, h.handles, ?_, h.readings, Nat.le_of_eq hsize, fun _ => hsize⟩
    simp only [MemoryBus.subscribe, Array.getElem?_push, hfirst, hcount, hn, h.log, ite_true]
  · rw [if_neg hn]
    refine ⟨h.window, h.log, h.handles, ?_, h.readings, Nat.le_of_eq hsize, fun _ => hsize⟩
    simp only [MemoryBus.subscribe, Array.getElem?_push, hcount, if_neg (Ne.symm hn), h.reader]

theorem Mirrors.unsubscribe (h : Mirrors i n u v) (j : Nat) :
    Mirrors i n (u.step (.unsubscribe j)) (if j = i then v.step (.unsubscribe 0) else v) := by
  have hsize : (u.bus.unsubscribe j).subscribers.size = u.bus.subscribers.size := by
    simp [MemoryBus.unsubscribe]
  have hle : (u.bus.unsubscribe j).subscribers.size ≤ n := by
    rw [hsize]
    exact h.count_le
  have hcount := fun hpos => hsize.trans (h.count hpos)
  by_cases hj : j = i
  · subst hj
    rw [if_pos rfl]
    refine ⟨h.window, h.log, h.handles, ?_, h.readings, hle, hcount⟩
    simp only [BusUsage.step, MemoryBus.unsubscribe, getElem?_setIfInBounds_same, h.reader]
  · rw [if_neg hj]
    refine ⟨h.window, h.log, h.handles, ?_, h.readings, hle, hcount⟩
    simp only [BusUsage.step, MemoryBus.unsubscribe, Array.getElem?_setIfInBounds_ne hj, h.reader]

theorem Mirrors.step (h : Mirrors i n u v) (a : Act) :
    Mirrors i (n + a.arrivals) (u.step a) (v.run (a.alone i n).toList) := by
  cases a with
  | publish m =>
    show Mirrors i n (u.step (.publish m)) (v.step (.publish m))
    simp only [BusUsage.step, h.handles]
    split
    · exact h
    · refine ⟨h.window, ?_, h.handles, h.reader, h.readings, h.count_le, h.count⟩
      show v.bus.log.push m = u.bus.log.push m
      rw [h.log]
  | subscribe pattern =>
    have hsame := h.subscribe pattern
    simp only [Act.alone]
    split at hsame
    · next hn => rwa [if_pos hn]
    · next hn => rwa [if_neg hn]
  | read j =>
    by_cases hj : j = i
    · subst hj
      simp only [Act.alone, ite_true]
      exact h.readOn
    · simp only [Act.alone, if_neg hj]
      exact h.readOn_other hj
  | unsubscribe j =>
    have hsame := h.unsubscribe j
    simp only [Act.alone]
    split at hsame
    · next hj => rwa [if_pos hj]
    · next hj => rwa [if_neg hj]
  | clone =>
    show Mirrors i n (u.step .clone) (v.step .clone)
    simp only [BusUsage.step, h.handles]
    split
    · exact h
    · next hpos =>
      refine ⟨h.window, h.log, ?_, h.reader, h.readings, h.count_le, fun _ => h.count hpos⟩
      show v.bus.handles + 1 = u.bus.handles + 1
      rw [h.handles]
  | drop =>
    show Mirrors i n (u.step .drop) (v.step .drop)
    refine ⟨h.window, h.log, ?_, h.reader, h.readings, h.count_le, fun hpos => h.count ?_⟩
    · show v.bus.handles - 1 = u.bus.handles - 1
      rw [h.handles]
    · intro hzero
      exact hpos (by show u.bus.handles - 1 = 0; omega)

/-- The readings of a reader among others are those it would have made alone. -/
theorem Mirrors.run (h : Mirrors i n u v) (acts : List Act) :
    (v.run (alone i n acts)).readings 0 = (u.run acts).readings i := by
  induction acts generalizing n u v with
  | nil => exact h.readings
  | cons a acts ih =>
    rw [alone, run, List.foldl_append]
    exact ih (h.step a)

theorem mirrors_start (capacity i : Nat) : Mirrors i 0 (start capacity) (start capacity) :=
  ⟨rfl, rfl, rfl, rfl, rfl, Nat.le_refl _, fun _ => rfl⟩

end CandleRelay.BusUsage
