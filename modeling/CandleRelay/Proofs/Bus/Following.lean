import CandleRelay.Bus.Usage
import CandleRelay.Proofs.Bus
import Mathlib.Data.List.Induction

/-!
# Following the bus

The bus keeps its newest messages only. What is proved of one reader and its readings:

1. `powerAbove_spec`: how many messages a bus keeps.
2. `seek_spec`, `readAs_cases`: a reading finds the first message that the pattern accepts, from
   where the reader stands or from the oldest message kept, and otherwise there is none.
3. `Follows` says what holds of all readings of a reader. It is carried along by `Tracks`, which
   also says where the reader stands: it holds of a reader that has just come (`tracks_nil`), and
   remains when more is published (`Tracks.push`) and when the reader reads (`Tracks.read`).
-/

namespace CandleRelay

/-- Whether a pattern accepts a message. -/
def Message.fits (pattern : String) (m : Message) : Bool := Glob.accepts pattern m.topic.name

/-- There is a message at this place of the log, and the pattern accepts it. -/
def FitsAt (log : Array Message) (pattern : String) (p : Nat) : Prop :=
  ∃ m, log[p]? = some m ∧ m.fits pattern = true

theorem FitsAt.lt {log : Array Message} {pattern : String} {p : Nat} (h : FitsAt log pattern p) :
    p < log.size := by
  obtain ⟨m, hm, -⟩ := h
  exact (Array.getElem?_eq_some_iff.1 hm).1

theorem fitsAt_push {log : Array Message} {pattern : String} {p : Nat} (m : Message)
    (hp : p < log.size) : FitsAt (log.push m) pattern p ↔ FitsAt log pattern p := by
  have hget : (log.push m)[p]? = log[p]? := by
    rw [Array.getElem?_push, if_neg (Nat.ne_of_lt hp)]
  rw [FitsAt, FitsAt, hget]

namespace MemoryBus

theorem seek_spec {log : Array Message} (pattern : String) {left place : Nat}
    (hsight : place + left = log.size) :
    match seek log pattern left place with
    | some (p, m) => place ≤ p ∧ log[p]? = some m ∧ m.fits pattern = true ∧
        ∀ q, place ≤ q → q < p → ¬ FitsAt log pattern q
    | none => ∀ q, place ≤ q → ¬ FitsAt log pattern q := by
  induction left generalizing place with
  | zero =>
    intro q hq hfits
    have hlt := hfits.lt
    omega
  | succ left ih =>
    have hlt : place < log.size := by omega
    rw [seek, Array.getElem?_eq_getElem hlt]
    by_cases hfits : (log[place]).fits pattern = true
    · have haccepts : Glob.accepts pattern log[place].topic.name = true := hfits
      simp only [haccepts, ite_true]
      refine ⟨Nat.le_refl _, Array.getElem?_eq_getElem hlt, hfits, fun q hq hq' => ?_⟩
      omega
    · have haccepts : ¬ Glob.accepts pattern log[place].topic.name = true := hfits
      have hhere : ¬ FitsAt log pattern place := by
        rintro ⟨m, hm, hm'⟩
        rw [Array.getElem?_eq_getElem hlt] at hm
        exact hfits (Option.some.inj hm ▸ hm')
      simp only [haccepts]
      have hrest := @ih (place + 1) (by omega)
      -- What holds from the next place on holds from here, as there is nothing here.
      cases hseek : seek log pattern left (place + 1) with
      | none =>
        rw [hseek] at hrest
        intro q hq
        rcases Nat.eq_or_lt_of_le hq with rfl | hq
        · exact hhere
        · exact hrest q hq
      | some found =>
        rw [hseek] at hrest
        obtain ⟨hle, hm, hfits', hbefore⟩ := hrest
        refine ⟨Nat.le_of_succ_le hle, hm, hfits', fun q hq hq' => ?_⟩
        rcases Nat.eq_or_lt_of_le hq with rfl | hq
        · exact hhere
        · exact hbefore q hq hq'

/-- What a reading finds: the first message from where the reader stands, or from the oldest message
kept if that is later; or nothing, and then the whole log has been seen. -/
theorem readAs_cases {b : MemoryBus} {s : Subscriber} (hs : s.next ≤ b.log.size) :
    (∃ p m, b.readAs s = (.message m, { s with next := p + 1 }) ∧ max s.next b.oldest ≤ p ∧
      b.log[p]? = some m ∧ m.fits s.pattern = true ∧
      ∀ q, max s.next b.oldest ≤ q → q < p → ¬ FitsAt b.log s.pattern q) ∨
    (b.readAs s = (if b.handles = 0 then .ended else .pending, { s with next := b.log.size }) ∧
      ∀ q, max s.next b.oldest ≤ q → ¬ FitsAt b.log s.pattern q) := by
  have hseek := seek_spec s.pattern (Nat.add_sub_of_le (max_oldest_le hs))
  simp only [readAs]
  cases h : seek b.log s.pattern (b.log.size - max s.next b.oldest) (max s.next b.oldest) with
  | none =>
    rw [h] at hseek
    exact Or.inr ⟨rfl, hseek⟩
  | some found =>
    obtain ⟨p, m⟩ := found
    rw [h] at hseek
    exact Or.inl ⟨p, m, rfl, hseek⟩

end MemoryBus

@[simp] theorem MemoryBus.readAs_pattern (b : MemoryBus) (s : Subscriber) :
    (b.readAs s).2.pattern = s.pattern := by
  simp only [readAs]
  split <;> rfl

/-! ## What a reader sees -/

/-- The places of the messages that some readings found. -/
def placesOf (notes : List Note) : List Nat := notes.filterMap Note.place?

/-- What holds of the readings of one reader. It finds messages of the log that its pattern accepts,
each later in the log than the one before and none from before it came (`increasing`, `late`,
`genuine`), among the newest `window` ones at the time (`kept`). A reading passes over an accepted
message only if `window` more had been published by then (`skipped`). It finds nothing only if no
accepted message that is still kept is unread (`idle`), and the end only if no handle is left
(`ended`). -/
structure Follows (window : Nat) (log : Array Message) (pattern : String) (since : Nat)
    (notes : List Note) : Prop where
  increasing : (placesOf notes).Pairwise (· < ·)
  late : ∀ p ∈ placesOf notes, since ≤ p
  genuine : ∀ n ∈ notes, ∀ m, n.found = .message m →
    ∃ p, n.place? = some p ∧ log[p]? = some m ∧ m.fits pattern = true
  kept : ∀ n ∈ notes, ∀ p, n.place? = some p → n.published ≤ p + window
  skipped : ∀ earlier n later, notes = earlier ++ n :: later →
    ∀ p, FitsAt log pattern p → since ≤ p → (∀ e ∈ earlier, e.next ≤ p) → p < n.next →
      n.place? = some p ∨ p + 1 + window ≤ n.published
  idle : ∀ earlier n later, notes = earlier ++ n :: later → n.place? = none →
    n.next = n.published ∧
      ∀ p, FitsAt log pattern p → since ≤ p → p < n.published → n.published ≤ p + window →
        p ∈ placesOf earlier
  ended : ∀ n ∈ notes, (n.found = .pending → n.handles ≠ 0) ∧ (n.found = .ended → n.handles = 0)

/-- What holds of a reader that stands at `next`, besides: it has passed everything before. -/
structure Tracks (window : Nat) (log : Array Message) (pattern : String) (since next : Nat)
    (notes : List Note) : Prop extends Follows window log pattern since notes where
  since_le : since ≤ next
  inside : next ≤ log.size
  notes_le : ∀ n ∈ notes, n.next ≤ next ∧ n.published ≤ log.size
  places_lt : ∀ p ∈ placesOf notes, p < next
  least : ∀ p, since ≤ p → (∀ n ∈ notes, n.next ≤ p) → next ≤ p
  passed : ∀ p, FitsAt log pattern p → since ≤ p → p < next →
    p ∈ placesOf notes ∨ p + 1 + window ≤ log.size

theorem placesOf_append (notes more : List Note) :
    placesOf (notes ++ more) = placesOf notes ++ placesOf more :=
  List.filterMap_append

theorem placesOf_singleton (n : Note) : placesOf [n] = n.place?.toList := by
  cases h : n.place? <;> simp [placesOf, h]

theorem concat_eq_append_cons {α : Type} {l before after : List α} {a x : α}
    (h : l ++ [a] = before ++ x :: after) :
    (before = l ∧ x = a) ∨ ∃ rest, l = before ++ x :: rest := by
  cases after using List.reverseRecOn with
  | nil =>
    obtain ⟨rfl, hx⟩ := List.append_inj' h rfl
    exact Or.inl ⟨rfl, (List.head_eq_of_cons_eq hx).symm⟩
  | append_singleton rest b =>
    have h : l ++ [a] = (before ++ x :: rest) ++ [b] := by rw [h]; simp
    exact Or.inr ⟨rest, (List.append_inj' h rfl).1⟩

variable {window : Nat} {log : Array Message} {pattern : String} {since next : Nat}
  {notes : List Note}

theorem tracks_nil (window : Nat) (log : Array Message) (pattern : String) :
    Tracks window log pattern log.size log.size [] where
  increasing := List.Pairwise.nil
  late := by simp [placesOf]
  genuine := by simp
  kept := by simp
  skipped := by simp
  idle := by simp
  ended := by simp
  since_le := Nat.le_refl _
  inside := Nat.le_refl _
  notes_le := by simp
  places_lt := by simp [placesOf]
  least p hp _ := hp
  passed p _ hp hp' := by omega

theorem Tracks.push (h : Tracks window log pattern since next notes) (m : Message) :
    Tracks window (log.push m) pattern since next notes where
  increasing := h.increasing
  late := h.late
  genuine n hn m' hm' := by
    obtain ⟨p, hp, hget, hfits⟩ := h.genuine n hn m' hm'
    have hlt := (Array.getElem?_eq_some_iff.1 hget).1
    refine ⟨p, hp, ?_, hfits⟩
    rw [Array.getElem?_push, if_neg (Nat.ne_of_lt hlt), hget]
  kept := h.kept
  -- All readings so far lie within the old log, where the new message is not.
  skipped earlier n later hnotes p hfits hp hearlier hlt := by
    have hn := (h.notes_le n (by rw [hnotes]; simp)).1
    have hinside := h.inside
    exact h.skipped earlier n later hnotes p ((fitsAt_push m (by omega)).1 hfits) hp hearlier hlt
  idle earlier n later hnotes hnone := by
    obtain ⟨hnext, hplaces⟩ := h.idle earlier n later hnotes hnone
    have hn := (h.notes_le n (by rw [hnotes]; simp)).2
    refine ⟨hnext, fun p hfits hp hlt hkept => ?_⟩
    exact hplaces p ((fitsAt_push m (by omega)).1 hfits) hp hlt hkept
  ended := h.ended
  since_le := h.since_le
  inside := by
    have hinside := h.inside
    rw [Array.size_push]
    omega
  notes_le n hn := by
    obtain ⟨hnext, hpublished⟩ := h.notes_le n hn
    rw [Array.size_push]
    exact ⟨hnext, by omega⟩
  places_lt := h.places_lt
  least := h.least
  passed p hfits hp hlt := by
    have hinside := h.inside
    rw [Array.size_push]
    rcases h.passed p ((fitsAt_push m (by omega)).1 hfits) hp hlt with hmem | hold
    · exact Or.inl hmem
    · exact Or.inr (by omega)

/-- What one reading does to a reader that stands at `next`. -/
structure Moves (window : Nat) (log : Array Message) (pattern : String) (next : Nat) (n : Note) :
    Prop where
  published : n.published = log.size
  le : next ≤ n.next
  inside : n.next ≤ log.size
  place : ∀ p, n.place? = some p → next ≤ p ∧ p + 1 = n.next
  genuine : ∀ m, n.found = .message m →
    ∃ p, n.place? = some p ∧ log[p]? = some m ∧ m.fits pattern = true
  kept : ∀ p, n.place? = some p → n.published ≤ p + window
  skips : ∀ p, FitsAt log pattern p → next ≤ p → p < n.next →
    n.place? = some p ∨ p + 1 + window ≤ log.size
  idle : n.place? = none → n.next = log.size
  ended : (n.found = .pending → n.handles ≠ 0) ∧ (n.found = .ended → n.handles = 0)

namespace MemoryBus

variable {b : MemoryBus} {s : Subscriber}

/-- A reading that finds a message passes over what is lost and what the pattern refuses. -/
theorem moves_of_found {p : Nat} {m : Message}
    (hread : b.readAs s = (.message m, { s with next := p + 1 })) (hle : max s.next b.oldest ≤ p)
    (hm : b.log[p]? = some m) (hfits : m.fits s.pattern = true)
    (hbefore : ∀ q, max s.next b.oldest ≤ q → q < p → ¬ FitsAt b.log s.pattern q) :
    Moves b.window b.log s.pattern s.next (b.noteOf s) := by
  have hold : b.oldest = b.log.size - b.window := rfl
  have hlt := (Array.getElem?_eq_some_iff.1 hm).1
  have hfound : (b.noteOf s).found = .message m := by rw [noteOf, hread]
  have hnext : (b.noteOf s).next = p + 1 := by rw [noteOf, hread]
  have hpublished : (b.noteOf s).published = b.log.size := rfl
  have hplace : (b.noteOf s).place? = some p := by simp [Note.place?, hfound, hnext]
  constructor
  case published => exact hpublished
  case le => omega
  case inside => omega
  case place =>
    intro q hq
    obtain rfl := Option.some.inj (hplace.symm.trans hq)
    omega
  case genuine =>
    intro m' hm'
    obtain rfl := Reading.message.inj (hfound.symm.trans hm')
    exact ⟨p, hplace, hm, hfits⟩
  case kept =>
    intro q hq
    obtain rfl := Option.some.inj (hplace.symm.trans hq)
    omega
  case skips =>
    intro q hq hsq hqn
    rcases Nat.lt_or_ge q (max s.next b.oldest) with hlost | hseen
    · exact Or.inr (by omega)
    · rcases Nat.eq_or_lt_of_le (show q ≤ p by omega) with rfl | hqp
      · exact Or.inl hplace
      · exact absurd hq (hbefore q hseen hqp)
  case idle => simp [hplace]
  case ended => simp [hfound]

theorem moves_of_none (hs : s.next ≤ b.log.size)
    (hread : b.readAs s = (if b.handles = 0 then .ended else .pending,
      { s with next := b.log.size }))
    (hnone : ∀ q, max s.next b.oldest ≤ q → ¬ FitsAt b.log s.pattern q) :
    Moves b.window b.log s.pattern s.next (b.noteOf s) := by
  have hold : b.oldest = b.log.size - b.window := rfl
  have hfound : (b.noteOf s).found = if b.handles = 0 then .ended else .pending := by
    rw [noteOf, hread]
  have hnext : (b.noteOf s).next = b.log.size := by rw [noteOf, hread]
  have hpublished : (b.noteOf s).published = b.log.size := rfl
  have hhandles : (b.noteOf s).handles = b.handles := rfl
  have hplace : (b.noteOf s).place? = none := by
    by_cases h : b.handles = 0 <;> simp [Note.place?, hfound, h]
  constructor
  case published => exact hpublished
  case le => omega
  case inside => omega
  case place => simp [hplace]
  case genuine => by_cases h : b.handles = 0 <;> simp [hfound, h]
  case kept => simp [hplace]
  case skips =>
    intro q hq hsq hqn
    rcases Nat.lt_or_ge q (max s.next b.oldest) with hlost | hseen
    · exact Or.inr (by omega)
    · exact absurd hq (hnone q hseen)
  case idle => exact fun _ => hnext
  case ended => by_cases h : b.handles = 0 <;> simp [hfound, hhandles, h]

theorem moves_readAs (hs : s.next ≤ b.log.size) :
    Moves b.window b.log s.pattern s.next (b.noteOf s) := by
  rcases readAs_cases hs with ⟨p, m, hread, hle, hm, hfits, hbefore⟩ | ⟨hread, hnone⟩
  · exact moves_of_found hread hle hm hfits hbefore
  · exact moves_of_none hs hread hnone

end MemoryBus

theorem Tracks.read {n : Note} (h : Tracks window log pattern since next notes)
    (hn : Moves window log pattern next n) :
    Tracks window log pattern since n.next (notes ++ [n]) where
  increasing := by
    rw [placesOf_append, placesOf_singleton]
    refine List.pairwise_append.2 ⟨h.increasing, by cases n.place? <;> simp, ?_⟩
    intro p hp q hq
    exact Nat.lt_of_lt_of_le (h.places_lt p hp) (hn.place q (Option.mem_toList.1 hq)).1
  late p hp := by
    rw [placesOf_append, placesOf_singleton] at hp
    rcases List.mem_append.1 hp with hp | hp
    · exact h.late p hp
    · exact Nat.le_trans h.since_le (hn.place p (Option.mem_toList.1 hp)).1
  genuine x hx m hm := by
    rcases List.mem_append.1 hx with hx | hx
    · exact h.genuine x hx m hm
    · obtain rfl := List.mem_singleton.1 hx
      exact hn.genuine m hm
  kept x hx := by
    rcases List.mem_append.1 hx with hx | hx
    · exact h.kept x hx
    · obtain rfl := List.mem_singleton.1 hx
      exact hn.kept
  -- If no earlier reading went past `p`, the reader has not, so it is the last one that does.
  skipped earlier x later hnotes p hfits hp hearlier hlt := by
    rcases concat_eq_append_cons hnotes with ⟨rfl, rfl⟩ | ⟨rest, hrest⟩
    · rw [hn.published]
      exact hn.skips p hfits (h.least p hp hearlier) hlt
    · exact h.skipped earlier x rest hrest p hfits hp hearlier hlt
  idle earlier x later hnotes hnone := by
    rcases concat_eq_append_cons hnotes with ⟨rfl, rfl⟩ | ⟨rest, hrest⟩
    · rw [hn.published]
      refine ⟨hn.idle hnone, fun p hfits hp hlt hkept => ?_⟩
      -- Behind the reader all that is kept was found; ahead of it there is nothing.
      rcases Nat.lt_or_ge p next with hpassed | hahead
      · rcases h.passed p hfits hp hpassed with hmem | hold
        · exact hmem
        · omega
      · rcases hn.skips p hfits hahead (by rw [hn.idle hnone]; exact hlt) with hfound | hold
        · rw [hnone] at hfound
          simp at hfound
        · omega
    · exact h.idle earlier x rest hrest hnone
  ended x hx := by
    rcases List.mem_append.1 hx with hx | hx
    · exact h.ended x hx
    · obtain rfl := List.mem_singleton.1 hx
      exact hn.ended
  since_le := Nat.le_trans h.since_le hn.le
  inside := hn.inside
  notes_le x hx := by
    rcases List.mem_append.1 hx with hx | hx
    · obtain ⟨hnext, hpublished⟩ := h.notes_le x hx
      exact ⟨Nat.le_trans hnext hn.le, hpublished⟩
    · obtain rfl := List.mem_singleton.1 hx
      exact ⟨Nat.le_refl _, Nat.le_of_eq hn.published⟩
  places_lt p hp := by
    rw [placesOf_append, placesOf_singleton] at hp
    rcases List.mem_append.1 hp with hp | hp
    · exact Nat.lt_of_lt_of_le (h.places_lt p hp) hn.le
    · have hplace := (hn.place p (Option.mem_toList.1 hp)).2
      omega
  least p _ hall := hall n (by simp)
  passed p hfits hp hlt := by
    rw [placesOf_append, placesOf_singleton]
    rcases Nat.lt_or_ge p next with hpassed | hahead
    · exact (h.passed p hfits hp hpassed).imp_left (List.mem_append_left _)
    · refine (hn.skips p hfits hahead hlt).imp_left fun hfound => ?_
      exact List.mem_append_right _ (Option.mem_toList.2 hfound)

end CandleRelay
