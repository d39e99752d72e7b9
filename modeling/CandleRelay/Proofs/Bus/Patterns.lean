import CandleRelay.Bus.Glob
import Mathlib.Data.List.Forall2

/-!
# What patterns describe

A pattern describes a topic if the topic can be cut into runs, one for each byte of the pattern: a
`*` stands for any run, a `?` for any one byte, and every other byte for itself. The walk does not
look for such a cutting; it goes back to the last star only, and lets that take one byte more.

That is right, and enough. What the walk accepts is described, for at every place it has a cutting
of what it has passed (`Passed`). And on a topic without a `*` of its own no star before the last
one needs to be gone back to: the walk came to the last star as early in the topic as any cutting
can, so what an earlier star could give up the last one can take (`Hopeful`). A `*` in the topic is
another matter: it may be taken for the pattern's own, which is then not there to go back to.

What is proved:
  1. `moves_step`: what one step of the walk does, and when.
  2. `isSome_walk`: the walk ends, after no more steps than `enough`.
  3. `describes_of_isMatch`, `isMatch_of_describes`: the two directions, byte by byte.
  4. `accepts_what_is_described`: both of them for texts.
-/

namespace CandleRelay.Glob

/-- A run of bytes that a byte of a pattern stands for. -/
inductive Stands : UInt8 → List UInt8 → Prop
  | run (run : List UInt8) : Stands star run
  | any (b : UInt8) : Stands anyByte [b]
  | self {b : UInt8} (notStar : b ≠ star) (notAny : b ≠ anyByte) : Stands b [b]

/-- The language of a pattern: the topics that can be cut into runs for which its bytes stand. -/
def Describes (pattern topic : List UInt8) : Prop :=
  ∃ runs, List.Forall₂ Stands pattern runs ∧ topic = runs.flatten

/-! ## The language -/

section

variable {a b : UInt8} {p q t u run : List UInt8}

theorem stands_one (h : a = anyByte ∨ a = b) : Stands a [b] := by
  by_cases hstar : a = star
  · exact hstar ▸ .run [b]
  by_cases hany : a = anyByte
  · exact hany ▸ .any b
  · obtain rfl := h.resolve_left hany
    exact .self hstar hany

theorem Stands.one (h : Stands a run) (ha : a ≠ star) : ∃ b, run = [b] ∧ (a = anyByte ∨ a = b) := by
  cases h with
  | run => exact absurd rfl ha
  | any b => exact ⟨b, rfl, Or.inl rfl⟩
  | self => exact ⟨a, rfl, Or.inr rfl⟩

theorem describes_nil_iff : Describes [] t ↔ t = [] := by
  simp [Describes]

theorem describes_cons_iff :
    Describes (a :: p) t ↔ ∃ run rest, Stands a run ∧ Describes p rest ∧ t = run ++ rest := by
  constructor
  · rintro ⟨runs, hruns, rfl⟩
    cases hruns with
    | cons ha hp => exact ⟨_, _, ha, ⟨_, hp, rfl⟩, List.flatten_cons⟩
  · rintro ⟨run, rest, ha, ⟨runs, hp, rfl⟩, rfl⟩
    exact ⟨run :: runs, .cons ha hp, List.flatten_cons.symm⟩

theorem describes_singleton (h : Stands a run) : Describes [a] run :=
  ⟨[run], .cons h .nil, by simp⟩

theorem Describes.append (h : Describes p t) (h' : Describes q u) :
    Describes (p ++ q) (t ++ u) := by
  obtain ⟨runs, hp, rfl⟩ := h
  obtain ⟨more, hq, rfl⟩ := h'
  exact ⟨runs ++ more, List.rel_append hp hq, List.flatten_append.symm⟩

theorem Describes.tail (h : Describes (a :: p) t) (ha : a ≠ star) :
    ∃ b rest, t = b :: rest ∧ (a = anyByte ∨ a = b) ∧ Describes p rest := by
  obtain ⟨run, rest, hstands, hrest, rfl⟩ := describes_cons_iff.1 h
  obtain ⟨b, rfl, hb⟩ := hstands.one ha
  exact ⟨b, rest, rfl, hb, hrest⟩

theorem describes_empty_iff : Describes p [] ↔ p.all (· == star) = true := by
  induction p with
  | nil => simp [describes_nil_iff]
  | cons a p ih =>
    rw [List.all_cons, Bool.and_eq_true, ← ih, describes_cons_iff]
    constructor
    · rintro ⟨run, rest, ha, hp, hempty⟩
      obtain ⟨rfl, rfl⟩ := List.append_eq_nil_iff.1 hempty.symm
      refine ⟨?_, hp⟩
      cases ha
      rfl
    · rintro ⟨ha, hp⟩
      exact ⟨[], [], beq_iff_eq.1 ha ▸ .run [], hp, rfl⟩

end

/-! ## One step -/

variable {p t : Array UInt8} {c c' : Cursor}

/-- The byte of the pattern, if there is one, is no star and not the byte of the topic. -/
def Mismatch (p : Array UInt8) (i : Nat) (b : UInt8) : Prop :=
  ∀ a, p[i]? = some a → a ≠ star ∧ a ≠ anyByte ∧ a ≠ b

/-- What one step may do, and when. -/
inductive Moves (p t : Array UInt8) (c : Cursor) : Walk → Prop
  /-- The topic has been passed. -/
  | finish (ht : t[c.topic]? = none) :
      Moves p t c (.answer ((p.toList.drop c.pattern).all (· == star)))
  /-- A byte of the pattern stands for one byte of the topic. -/
  | pass {a b : UInt8} (ht : t[c.topic]? = some b) (hp : p[c.pattern]? = some a)
      (hab : a = anyByte ∨ a = b) : Moves p t c (.on ⟨c.pattern + 1, c.topic + 1, c.back⟩)
  /-- A star is remembered. -/
  | remember (hp : p[c.pattern]? = some star) :
      Moves p t c (.on ⟨c.pattern + 1, c.topic, some (c.pattern, c.topic)⟩)
  /-- The last star takes one byte more. -/
  | goBack {b : UInt8} {place taken : Nat} (ht : t[c.topic]? = some b)
      (hp : Mismatch p c.pattern b) (hback : c.back = some (place, taken)) :
      Moves p t c (.on ⟨place + 1, taken + 1, some (place, taken + 1)⟩)
  /-- There is no star to go back to. -/
  | giveUp {b : UInt8} (ht : t[c.topic]? = some b) (hp : Mismatch p c.pattern b)
      (hback : c.back = none) : Moves p t c (.answer false)

theorem moves_step (p t : Array UInt8) (c : Cursor) : Moves p t c (c.step p t) := by
  unfold Cursor.step
  split
  · next ht => exact .finish ht
  next b ht =>
  dsimp only
  split
  · next hp =>
    rcases hp with hp | hp
    · exact .pass ht hp (Or.inl rfl)
    · exact .pass ht hp (Or.inr rfl)
  next hbyte =>
  split
  · next hp => exact .remember hp
  next hstar =>
  have hp : Mismatch p c.pattern b := by
    intro a ha
    rw [ha] at hbyte hstar
    simp only [Option.some.injEq, not_or] at hbyte hstar
    exact ⟨hstar, hbyte⟩
  split
  · next hback => exact .goBack ht hp hback
  · next hback => exact .giveUp ht hp hback

theorem moves_of_step {w : Walk} (h : c.step p t = w) : Moves p t c w := h ▸ moves_step p t c

/-! ## The whole walk -/

/-- What holds along the walk, and of its answer. -/
theorem walk_induction {motive : Cursor → Prop} {P : Bool → Prop}
    (on : ∀ c c', motive c → Moves p t c (.on c') → motive c')
    (answer : ∀ c m, motive c → Moves p t c (.answer m) → P m) {fuel : Nat} {m : Bool}
    (hc : motive c) (h : walk p t fuel c = some m) : P m := by
  induction fuel generalizing c with
  | zero => cases h
  | succ fuel ih =>
    rw [walk] at h
    split at h
    · next hstep =>
      cases h
      exact answer c m hc (moves_of_step hstep)
    · next c' hstep => exact ih (on c c' hc (moves_of_step hstep)) h

/-- The cursor is inside pattern and topic, and the star that it remembers is behind it. -/
structure Inside (p t : Array UInt8) (c : Cursor) : Prop where
  pattern : c.pattern ≤ p.size
  topic : c.topic ≤ t.size
  back : ∀ place taken, c.back = some (place, taken) →
    place < c.pattern ∧ p[place]? = some star ∧ taken ≤ c.topic

theorem inside_start : Inside p t ⟨0, 0, none⟩ :=
  ⟨Nat.zero_le _, Nat.zero_le _, fun _ _ h => by cases h⟩

theorem lt_size {α : Type} {xs : Array α} {i : Nat} {x : α} (h : xs[i]? = some x) : i < xs.size :=
  (Array.getElem?_eq_some_iff.1 h).1

theorem Inside.on (h : Inside p t c) (hmoves : Moves p t c (.on c')) : Inside p t c' := by
  cases hmoves with
  | pass ht hp =>
    refine ⟨lt_size hp, lt_size ht, ?_⟩
    intro place taken hback
    obtain ⟨hplace, hstar, htaken⟩ := h.back place taken hback
    exact ⟨Nat.lt_succ_of_lt hplace, hstar, Nat.le_succ_of_le htaken⟩
  | remember hp =>
    refine ⟨lt_size hp, h.topic, ?_⟩
    rintro place taken ⟨⟩
    exact ⟨Nat.lt_succ_self _, hp, Nat.le_refl _⟩
  | @goBack b place taken ht hp hback =>
    obtain ⟨hplace, hstar, htaken⟩ := h.back place taken hback
    refine ⟨lt_size hstar, Nat.lt_of_le_of_lt htaken (lt_size ht), ?_⟩
    rintro place taken ⟨⟩
    exact ⟨Nat.lt_succ_self _, hstar, Nat.le_refl _⟩

/-- How much of the topic the last star has taken, or passed before it was seen. -/
def Cursor.taken (c : Cursor) : Nat := (c.back.map (·.2)).getD 0

/-- How many steps there can be still: what the last star has not taken can send the walk back, and
between two such returns the walk goes forward in the pattern. -/
def Cursor.left (p t : Array UInt8) (c : Cursor) : Nat :=
  (t.size - c.taken) * (p.size + 1) + (p.size - c.pattern)

theorem Inside.taken_le (h : Inside p t c) : c.taken ≤ c.topic := by
  unfold Cursor.taken
  cases hback : c.back with
  | none => exact Nat.zero_le _
  | some last => exact (h.back last.1 last.2 hback).2.2

theorem Inside.left_lt (h : Inside p t c) (hmoves : Moves p t c (.on c')) :
    c'.left p t < c.left p t := by
  cases hmoves with
  | pass ht hp =>
    have hlt := lt_size hp
    exact Nat.add_lt_add_left (Nat.sub_succ_lt_self _ _ hlt) _
  | remember hp =>
    have hlt := lt_size hp
    have hless : (t.size - c.topic) * (p.size + 1) ≤ (t.size - c.taken) * (p.size + 1) :=
      Nat.mul_le_mul_right _ (Nat.sub_le_sub_left h.taken_le _)
    exact Nat.add_lt_add_of_le_of_lt hless (Nat.sub_succ_lt_self _ _ hlt)
  | @goBack b place taken ht hp hback =>
    -- One byte more is taken, which pays for a whole pattern.
    have htaken : c.taken = taken := by simp [Cursor.taken, hback]
    have hlt : taken < t.size := Nat.lt_of_le_of_lt (h.back place taken hback).2.2 (lt_size ht)
    have hbytes : (t.size - taken) * (p.size + 1) =
        (t.size - (taken + 1)) * (p.size + 1) + (p.size + 1) := by
      rw [← Nat.succ_mul]
      congr 1
      omega
    show (t.size - (taken + 1)) * (p.size + 1) + (p.size - (place + 1)) < _
    rw [Cursor.left, htaken, hbytes]
    omega

theorem isSome_walk {fuel : Nat} (h : Inside p t c) (hfuel : c.left p t < fuel) :
    (walk p t fuel c).isSome = true := by
  induction fuel generalizing c with
  | zero => omega
  | succ fuel ih =>
    rw [walk]
    split
    · rfl
    · next c' hstep =>
      have hmoves := moves_of_step hstep
      have hless := h.left_lt hmoves
      exact ih (h.on hmoves) (by omega)

theorem left_start_lt : (Cursor.mk 0 0 none).left p t < enough p t := by
  have hsum : enough p t = t.size * (p.size + 1) + (p.size + 1) + (p.size + 1) := by
    rw [enough, Nat.add_mul, Nat.two_mul]
    exact (Nat.add_assoc ..).symm
  have hleft : (Cursor.mk 0 0 none).left p t = t.size * (p.size + 1) + p.size := rfl
  omega

/-- Whether there is a match is what the walk answers. -/
theorem walk_enough (p t : Array UInt8) :
    walk p t (enough p t) ⟨0, 0, none⟩ = some (isMatch p t) := by
  have hsome := isSome_walk inside_start (left_start_lt (p := p) (t := t))
  obtain ⟨m, hm⟩ := Option.isSome_iff_exists.1 hsome
  rw [isMatch, hm]
  rfl

/-! ## What is accepted is described -/

section

variable {l : List UInt8} {i j : Nat} {a : UInt8}

theorem take_succ_of (h : p[i]? = some a) : p.toList.take (i + 1) = p.toList.take i ++ [a] := by
  rw [List.take_add_one, Array.getElem?_toList, h]
  rfl

theorem drop_of (h : p[i]? = some a) : p.toList.drop i = a :: p.toList.drop (i + 1) := by
  obtain ⟨hlt, rfl⟩ := Array.getElem?_eq_some_iff.1 h
  rw [List.drop_eq_getElem_cons (by simpa using hlt)]
  simp

theorem Describes.append_star (h : Describes l (t.toList.take j)) (hij : j ≤ i) :
    Describes (l ++ [star]) (t.toList.take i) := by
  have hsplit : t.toList.take i = t.toList.take j ++ (t.toList.take i).drop j := by
    rw [← Nat.min_eq_left hij, ← List.take_take, Nat.min_eq_left hij, List.take_append_drop]
  rw [hsplit]
  exact h.append (describes_singleton (.run _))

end

/-- What has been passed of the pattern describes what has been passed of the topic, and so it was
when the last star was seen. -/
structure Passed (p t : Array UInt8) (c : Cursor) : Prop where
  here : Describes (p.toList.take c.pattern) (t.toList.take c.topic)
  back : ∀ place taken, c.back = some (place, taken) → p[place]? = some star ∧
    ∃ seen ≤ taken, Describes (p.toList.take place) (t.toList.take seen)

theorem Passed.on (h : Passed p t c) (hmoves : Moves p t c (.on c')) : Passed p t c' := by
  cases hmoves with
  | pass ht hp hab =>
    refine ⟨?_, h.back⟩
    rw [take_succ_of hp, take_succ_of ht]
    exact h.here.append (describes_singleton (stands_one hab))
  | remember hp =>
    refine ⟨?_, ?_⟩
    · rw [take_succ_of hp]
      exact h.here.append_star (Nat.le_refl _)
    · rintro place taken ⟨⟩
      exact ⟨hp, c.topic, Nat.le_refl _, h.here⟩
  | @goBack b place taken ht hp hback =>
    obtain ⟨hstar, seen, hseen, hdescribes⟩ := h.back place taken hback
    refine ⟨?_, ?_⟩
    · rw [take_succ_of hstar]
      exact hdescribes.append_star (Nat.le_succ_of_le hseen)
    · rintro place taken ⟨⟩
      exact ⟨hstar, seen, Nat.le_succ_of_le hseen, hdescribes⟩

theorem Passed.answer {m : Bool} (h : Passed p t c) (hmoves : Moves p t c (.answer m))
    (hm : m = true) : Describes p.toList t.toList := by
  cases hmoves with
  | finish ht =>
    -- Only stars are left, and they describe the nothing that is left of the topic.
    have hall : t.toList.take c.topic = t.toList :=
      List.take_of_length_le (by simpa using Array.getElem?_eq_none_iff.1 ht)
    have hwhole := h.here.append (describes_empty_iff.2 hm)
    rwa [List.take_append_drop, List.append_nil, hall] at hwhole
  | giveUp => cases hm

/-- Every topic that a pattern matches is in its language. -/
theorem describes_of_isMatch (h : isMatch p t = true) : Describes p.toList t.toList := by
  have hstart : Passed p t ⟨0, 0, none⟩ := by
    refine ⟨?_, fun _ _ h => by cases h⟩
    exact describes_nil_iff.2 rfl
  exact walk_induction (P := fun m => m = true → Describes p.toList t.toList)
    (fun _ _ hc hmoves => hc.on hmoves) (fun _ _ hc hmoves => hc.answer hmoves) hstart
    (walk_enough p t) h

/-! ## What is described is accepted -/

/-- What is still to be matched can be: without a star to go back to, from here on; with one, if it
takes no less than it has taken. Since then no star has been passed. -/
inductive Hopeful (p t : Array UInt8) : Cursor → Prop
  | fresh {i j : Nat} (hj : j ≤ t.size) (rest : Describes (p.toList.drop i) (t.toList.drop j)) :
      Hopeful p t ⟨i, j, none⟩
  | starred {place taken k u : Nat} (hu : taken ≤ u) (hsize : u ≤ t.size)
      (rest : Describes (p.toList.drop (place + 1)) (t.toList.drop u))
      (plain : ∀ m < k, ∃ a, p[place + 1 + m]? = some a ∧ a ≠ star) :
      Hopeful p t ⟨place + 1 + k, taken + k, some (place, taken)⟩

section

variable {i j : Nat} {a b : UInt8}

theorem Describes.drop_plain {k : Nat} (h : Describes (p.toList.drop i) (t.toList.drop j))
    (hj : j ≤ t.size) (plain : ∀ m < k, ∃ a, p[i + m]? = some a ∧ a ≠ star) :
    j + k ≤ t.size ∧ Describes (p.toList.drop (i + k)) (t.toList.drop (j + k)) := by
  induction k with
  | zero => exact ⟨hj, h⟩
  | succ k ih =>
    obtain ⟨hle, hrest⟩ := ih fun m hm => plain m (Nat.lt_succ_of_lt hm)
    obtain ⟨a, hp, ha⟩ := plain k (Nat.lt_succ_self k)
    rw [drop_of hp] at hrest
    obtain ⟨b, rest, hb, -, htail⟩ := hrest.tail ha
    have hlength := congrArg List.length hb
    simp only [List.length_drop, Array.length_toList, List.length_cons] at hlength
    refine ⟨by omega, ?_⟩
    have hrest : t.toList.drop (j + k + 1) = rest := by
      rw [← List.drop_drop, hb]
      rfl
    rwa [← Nat.add_assoc, ← Nat.add_assoc, hrest]

theorem not_describes_of_mismatch (ht : t[j]? = some b) (hp : Mismatch p i b) :
    ¬ Describes (p.toList.drop i) (t.toList.drop j) := by
  intro h
  rw [drop_of ht] at h
  cases hi : p[i]? with
  | none =>
    rw [List.drop_eq_nil_of_le (by simpa using Array.getElem?_eq_none_iff.1 hi)] at h
    exact List.cons_ne_nil _ _ (describes_nil_iff.1 h)
  | some a =>
    obtain ⟨hstar, hany, hbyte⟩ := hp a hi
    rw [drop_of hi] at h
    obtain ⟨b', rest, hb, hab, -⟩ := h.tail hstar
    obtain rfl := (List.cons.inj hb).1
    exact hab.elim hany hbyte

end

theorem Hopeful.ahead (h : Hopeful p t c) : ∃ v, c.topic ≤ v ∧ v ≤ t.size ∧
    Describes (p.toList.drop c.pattern) (t.toList.drop v) := by
  cases h with
  | fresh hj rest => exact ⟨_, Nat.le_refl _, hj, rest⟩
  | starred hu hsize rest plain =>
    obtain ⟨hle, hrest⟩ := rest.drop_plain hsize plain
    exact ⟨_, Nat.add_le_add_right hu _, hle, hrest⟩

theorem Hopeful.pass (h : Hopeful p t c) {a b : UInt8} (ht : t[c.topic]? = some b)
    (hp : p[c.pattern]? = some a) (ha : a ≠ star) :
    Hopeful p t ⟨c.pattern + 1, c.topic + 1, c.back⟩ := by
  have hone : ∀ {k}, p[k]? = some a → ∀ m < 1, ∃ a, p[k + m]? = some a ∧ a ≠ star := by
    intro k hk m hm
    obtain rfl : m = 0 := by omega
    exact ⟨a, hk, ha⟩
  cases h with
  | fresh hj rest =>
    obtain ⟨hle, hrest⟩ := rest.drop_plain hj (hone hp)
    exact .fresh hle hrest
  | @starred place taken k u hu hsize rest plain =>
    refine .starred (k := k + 1) hu hsize rest ?_
    intro m hm
    rcases Nat.lt_succ_iff_lt_or_eq.1 hm with hlt | rfl
    · exact plain m hlt
    · exact ⟨a, hp, ha⟩

theorem Hopeful.remember (h : Hopeful p t c) (hp : p[c.pattern]? = some star) :
    Hopeful p t ⟨c.pattern + 1, c.topic, some (c.pattern, c.topic)⟩ := by
  obtain ⟨v, hle, hsize, hrest⟩ := h.ahead
  rw [drop_of hp] at hrest
  obtain ⟨run, rest, -, hdescribes, hsplit⟩ := describes_cons_iff.1 hrest
  -- What the star leaves begins where its run ends.
  have hdrop : t.toList.drop (v + run.length) = rest := by
    rw [← List.drop_drop, hsplit, List.drop_left]
  have hlength := congrArg List.length hsplit
  simp only [List.length_drop, Array.length_toList, List.length_append] at hlength
  refine .starred (k := 0) (Nat.le_trans hle (Nat.le_add_right v run.length)) (by omega) ?_ ?_
  · rwa [hdrop]
  · intro m hm
    exact absurd hm (Nat.not_lt_zero m)

theorem Hopeful.goBack {b : UInt8} {place taken : Nat} (h : Hopeful p t c)
    (ht : t[c.topic]? = some b) (hp : Mismatch p c.pattern b)
    (hback : c.back = some (place, taken)) :
    Hopeful p t ⟨place + 1, taken + 1, some (place, taken + 1)⟩ := by
  cases h with
  | fresh => cases hback
  | @starred place taken k u hu hsize rest plain =>
    cases hback
    -- Had the star taken no more than this, the bytes here would match.
    have hmore : taken ≠ u := by
      rintro rfl
      exact not_describes_of_mismatch ht hp (rest.drop_plain hsize plain).2
    exact .starred (k := 0) (by omega) hsize rest fun m hm => by omega

theorem Hopeful.on (h : Hopeful p t c) (hstars : star ∉ t.toList)
    (hmoves : Moves p t c (.on c')) : Hopeful p t c' := by
  cases hmoves with
  | @pass a b ht hp hab =>
    refine h.pass ht hp ?_
    rintro rfl
    rcases hab with hab | rfl
    · cases hab
    · exact hstars (List.mem_of_getElem? (Array.getElem?_toList.trans ht))
  | remember hp => exact h.remember hp
  | goBack ht hp hback => exact h.goBack ht hp hback

theorem Hopeful.answer {m : Bool} (h : Hopeful p t c) (hmoves : Moves p t c (.answer m)) :
    m = true := by
  cases hmoves with
  | finish ht =>
    obtain ⟨v, hle, hsize, hrest⟩ := h.ahead
    have hend : t.size ≤ c.topic := Array.getElem?_eq_none_iff.1 ht
    have hnone : t.toList.drop v = [] :=
      List.drop_eq_nil_of_le (by simpa using Nat.le_trans hend hle)
    rw [hnone] at hrest
    exact describes_empty_iff.1 hrest
  | giveUp ht hp hback =>
    cases h with
    | fresh hj rest => exact absurd rest (not_describes_of_mismatch ht hp)
    | starred => cases hback

/-- A topic without stars that is in the language of a pattern is matched by it. -/
theorem isMatch_of_describes (hstars : star ∉ t.toList) (h : Describes p.toList t.toList) :
    isMatch p t = true := by
  have hstart : Hopeful p t ⟨0, 0, none⟩ := .fresh (Nat.zero_le _) h
  exact walk_induction (P := (· = true)) (fun _ _ hc hmoves => hc.on hstars hmoves)
    (fun _ _ hc hmoves => hc.answer hmoves) hstart (walk_enough p t)

/-! ## Texts -/

/-- **What a pattern accepts.** Every topic that it accepts is in its language, and every topic of
its language that has no `*` is accepted. -/
theorem accepts_what_is_described (pattern topic : String) :
    (accepts pattern topic = true →
      Describes (Text.Utf8.encode pattern) (Text.Utf8.encode topic)) ∧
    (star ∉ Text.Utf8.encode topic →
      Describes (Text.Utf8.encode pattern) (Text.Utf8.encode topic) →
      accepts pattern topic = true) := by
  constructor
  · intro h
    exact describes_of_isMatch h
  · intro hstars h
    exact isMatch_of_describes hstars h

/-- The last letter is found after going back to the second star. A star in the topic is matched by
a star of the pattern like any other byte. -/
theorem accepts_with_stars :
    ((star ∉ Text.Utf8.encode "BUSXTUSDT" ∧
      Describes (Text.Utf8.encode "*U?*T") (Text.Utf8.encode "BUSXTUSDT")) ∧
        accepts "*U?*T" "BUSXTUSDT" = true) ∧
    accepts "B?C*" "BTC*" = true ∧
      Describes (Text.Utf8.encode "B?C*") (Text.Utf8.encode "BTC*") := by
  have hstars : star ∉ Text.Utf8.encode "BUSXTUSDT" := by decide +kernel
  have hdescribes : Describes (Text.Utf8.encode "*U?*T") (Text.Utf8.encode "BUSXTUSDT") := by
    refine ⟨[[0x42], [0x55], [0x53], [0x58, 0x54, 0x55, 0x53, 0x44], [0x54]], ?_, by decide +kernel⟩
    exact .cons (.run _) (.cons (.self (by decide) (by decide)) (.cons (.any _) (.cons (.run _)
      (.cons (.self (by decide) (by decide)) .nil))))
  have haccepts : accepts "B?C*" "BTC*" = true := by decide +kernel
  exact ⟨⟨⟨hstars, hdescribes⟩, (accepts_what_is_described _ _).2 hstars hdescribes⟩, haccepts,
    (accepts_what_is_described _ _).1 haccepts⟩

end CandleRelay.Glob
