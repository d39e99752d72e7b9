import CandleRelay.Bus.Memory

/-!
# Reading the bus

A reading is made of looks at one message each (`readAs_eq_look`), and as long as a reader is not
further behind than the bus keeps, a look is at the message where it stands (`look_of_le`).
-/

namespace CandleRelay.MemoryBus

theorem foldl_publish (ms : List Message) (b : MemoryBus) :
    ms.foldl publish b = { b with log := b.log ++ ms.toArray } := by
  induction ms generalizing b with
  | nil => simp
  | cons m ms ih =>
    rw [List.foldl_cons, ih, publish]
    simp

theorem max_oldest_le {b : MemoryBus} {place : Nat} (h : place ≤ b.log.size) :
    max place b.oldest ≤ b.log.size := by
  unfold oldest
  omega

theorem max_oldest_of_kept {b : MemoryBus} {place : Nat} (h : b.log.size - place ≤ b.window) :
    max place b.oldest = place := by
  unfold oldest
  omega

theorem look_of_le {b : MemoryBus} {s : Subscriber} (hlag : b.log.size - s.next ≤ b.window) :
    b.look s =
      match b.log[s.next]? with
      | some m =>
        (if Glob.accepts s.pattern m.topic.name then some m else none,
          { s with next := s.next + 1 })
      | none => (none, s) := by
  have hstart := max_oldest_of_kept hlag
  cases hm : b.log[s.next]? with
  | none => simp [look, hstart, hm]
  | some m => simp [look, hstart, hm]

theorem look_spec {b : MemoryBus} {s : Subscriber} (hs : s.next ≤ b.log.size) :
    (b.look s).2.pattern = s.pattern ∧ (b.look s).2.next ≤ b.log.size ∧
      ∀ m, (b.look s).1 = some m → m ∈ b.log.toList := by
  have hle := max_oldest_le hs
  simp only [look]
  cases hm : b.log[max s.next b.oldest]? with
  | none => exact ⟨rfl, hle, fun m hm => absurd hm (by simp)⟩
  | some m =>
    obtain ⟨hlt, -⟩ := Array.getElem?_eq_some_iff.1 hm
    refine ⟨rfl, hlt, ?_⟩
    intro m' hm'
    have hmem : m ∈ b.log.toList := Array.mem_toList_iff.2 (Array.mem_of_getElem? hm)
    dsimp only at hm'
    split at hm'
    · rwa [← Option.some.inj hm']
    · simp at hm'

/-- A reading is a look, and if nothing was found and more is in sight, the next reading. -/
theorem readAs_eq_look {b : MemoryBus} {s : Subscriber} (hs : s.next ≤ b.log.size) :
    b.readAs s =
      match b.look s with
      | (some m, s') => (.message m, s')
      | (none, s') =>
        if s'.next < b.log.size then b.readAs s'
        else (if b.handles = 0 then .ended else .pending, s') := by
  have hle := max_oldest_le hs
  have hold : b.oldest ≤ max s.next b.oldest := Nat.le_max_right ..
  simp only [look, readAs]
  generalize max s.next b.oldest = start at hle hold
  rcases Nat.lt_or_ge start b.log.size with hlt | hge
  · -- The message where the reader stands is in sight.
    have hleft : b.log.size - start = (b.log.size - (start + 1)) + 1 := by omega
    have hnext : max (start + 1) b.oldest = start + 1 := by omega
    rw [Array.getElem?_eq_getElem hlt, hleft, seek, Array.getElem?_eq_getElem hlt]
    by_cases haccepts : Glob.accepts s.pattern b.log[start].topic.name = true
    · simp [haccepts]
    · simp only [haccepts, Bool.false_eq_true, ite_false, hnext]
      by_cases hmore : start + 1 < b.log.size
      · rw [if_pos hmore]
      · have hend : start + 1 = b.log.size := by omega
        rw [if_neg hmore, hend, Nat.sub_self, seek]
  · obtain rfl : start = b.log.size := by omega
    rw [Array.getElem?_eq_none (Nat.le_refl _), Nat.sub_self, seek]
    simp

end CandleRelay.MemoryBus
