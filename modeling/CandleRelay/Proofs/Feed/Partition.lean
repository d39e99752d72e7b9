import CandleRelay.Proofs.Feed.Pacing

/-!
# A plan is a partition

A plan cuts the symbols of an interval into batches. Nothing of the list is lost, repeated or
moved, and only the last batch may be short. Ids and indices count the batches, so as long as the
ids do not reach the end of their range, a batch's place in the plan says everything about it: the
conditions leave no choice.

What is proved:
  1. `cuts_inGroups` and `eq_inGroups`: the groups of a list are full but for the last (`Cuts`), and
     no other groups that join to the list are.
  2. `plan_partitions`: a plan is the one list of batches that partitions the symbols
     (`Partition`).
-/

namespace CandleRelay.Feed

variable {α : Type} {size : Nat} {groups : List (List α)}

/-! ## Groups that are full but for the last -/

/-- Every group but the last holds exactly `size` elements, and the last at least one and at most
`size`. -/
structure Cuts (size : Nat) (groups : List (List α)) : Prop where
  full : ∀ i group, i + 1 < groups.length → groups[i]? = some group → group.length = size
  last : ∀ group, groups.getLast? = some group → 1 ≤ group.length ∧ group.length ≤ size

theorem cuts_inGroups (hsize : size ≠ 0) (l : List α) : Cuts size (inGroups size l) := by
  refine ⟨fun i group hi hgroup => ?_, fun group hgroup => ?_⟩
  · rw [length_inGroups hsize, lt_batchCount_iff hsize, Nat.succ_mul] at hi
    rw [getElem?_inGroups hsize, if_pos (by omega)] at hgroup
    obtain rfl := Option.some.inj hgroup
    rw [List.length_take, List.length_drop]
    omega
  · rw [List.getLast?_eq_getElem?, getElem?_inGroups hsize] at hgroup
    split at hgroup
    · obtain rfl := Option.some.inj hgroup
      rw [List.length_take, List.length_drop]
      omega
    · simp at hgroup

theorem Cuts.tail {group : List α} (h : Cuts size (group :: groups)) : Cuts size groups := by
  refine ⟨fun i other hi hother => h.full (i + 1) other (Nat.succ_lt_succ hi) hother,
    fun other hother => h.last other ?_⟩
  rw [List.getLast?_cons, hother, Option.getD_some]

theorem inGroups_append (hsize : size ≠ 0) {group : List α} (hfull : group.length = size)
    (l : List α) : inGroups size (group ++ l) = group :: inGroups size l := by
  cases group with
  | nil => exact absurd hfull.symm hsize
  | cons a rest =>
    have hrest : rest.length = size - 1 := by rw [← hfull, List.length_cons, Nat.add_sub_cancel]
    rw [List.cons_append, inGroups, List.take_left' hrest, List.drop_left' hrest]

theorem inGroups_of_length_le {l : List α} (hsome : 1 ≤ l.length) (hfits : l.length ≤ size) :
    inGroups size l = [l] := by
  cases l with
  | nil => simp at hsome
  | cons a rest =>
    have hrest : rest.length ≤ size - 1 := Nat.le_sub_one_of_lt hfits
    rw [inGroups, List.take_of_length_le hrest, List.drop_of_length_le hrest, inGroups]

theorem Cuts.eq_inGroups (hsize : size ≠ 0) (h : Cuts size groups) :
    groups = inGroups size groups.flatten := by
  induction groups with
  | nil => simp [inGroups]
  | cons group rest ih =>
    rw [List.flatten_cons]
    rcases Nat.eq_zero_or_pos rest.length with hnone | hmore
    · obtain rfl := List.length_eq_zero_iff.1 hnone
      obtain ⟨hsome, hfits⟩ := h.last group rfl
      rw [List.flatten_nil, List.append_nil, inGroups_of_length_le hsome hfits]
    · have hfull : group.length = size := h.full 0 group (Nat.succ_lt_succ hmore) rfl
      rw [inGroups_append hsize hfull, ← ih h.tail]

/-! ## Batches -/

/-- Batches of `size` symbols each but the last, for all of the symbols in order, numbered from zero
and with ids from `firstId` on. -/
structure Partition (symbols : List Symbol) (interval : Interval) (size : Nat) (firstId : UInt64)
    (batches : List Batch) : Prop where
  count : batches.length = (symbols.length + size - 1) / size
  covers : batches.flatMap (·.symbols) = symbols
  cuts : Cuts size (batches.map (·.symbols))
  numbered : ∀ i b, batches[i]? = some b →
    b.index = i ∧ b.id.toNat = firstId.toNat + i ∧ b.interval = interval

variable {symbols : List Symbol} {interval : Interval} {firstId : UInt64} {batches : List Batch}

theorem partition_batchesOf (hsize : size ≠ 0)
    (hfits : firstId.toNat + (symbols.length + size - 1) / size ≤ UInt64.size) :
    Partition symbols interval size firstId (batchesOf symbols interval size firstId) := by
  refine ⟨length_batchesOf hsize symbols interval firstId,
    symbols_batchesOf symbols interval size firstId, ?_, fun i b hb => ?_⟩
  · rw [groups_batchesOf]
    exact cuts_inGroups hsize symbols
  · have hi : i < batchCount symbols.length size :=
      length_batchesOf hsize symbols interval firstId ▸ (List.getElem?_eq_some_iff.1 hb).1
    rw [getElem?_batchesOf hsize symbols interval firstId hi] at hb
    obtain rfl := Option.some.inj hb
    exact ⟨Nat.mod_eq_of_lt hi, toNat_add_index hi hfits, rfl⟩

/-- The conditions leave no choice: the groups are those of the list, and the rest is counted. -/
theorem Partition.unique (hsize : size ≠ 0) {other : List Batch}
    (h : Partition symbols interval size firstId batches)
    (hother : Partition symbols interval size firstId other) : other = batches := by
  have hgroups : other.map (·.symbols) = batches.map (·.symbols) := by
    rw [hother.cuts.eq_inGroups hsize, h.cuts.eq_inGroups hsize, ← List.flatMap_def,
      ← List.flatMap_def, hother.covers, h.covers]
  refine List.ext_getElem (hother.count.trans h.count.symm) fun i hi hi' => ?_
  obtain ⟨hindex, hid, hinterval⟩ := hother.numbered i _ (List.getElem?_eq_getElem hi)
  obtain ⟨hindex', hid', hinterval'⟩ := h.numbered i _ (List.getElem?_eq_getElem hi')
  have hsymbols : other[i].symbols = batches[i].symbols := by
    have hplace := congrArg (·[i]?) hgroups
    simpa [hi, hi'] using hplace
  rw [Batch.mk.injEq]
  exact ⟨UInt64.toNat_inj.1 (hid.trans hid'.symm), hindex.trans hindex'.symm,
    hinterval.trans hinterval'.symm, hsymbols⟩

/-- **A plan is an exact partition.** As long as the ids stay in their range, planning gives the
batches that hold the symbols in order, all of them full but for the last, with indices from zero
and ids from the first one on; and there is no other list of batches like this. -/
theorem plan_partitions (symbols : List Symbol) (interval : Interval) (size : Nat)
    (firstId : UInt64) (hsize : 1 ≤ size)
    (hfits : firstId.toNat + (symbols.length + size - 1) / size ≤ 2 ^ 64) :
    ∃ batches, plan symbols interval size firstId = .ok batches ∧
      Partition symbols interval size firstId batches ∧
      ∀ other, Partition symbols interval size firstId other → other = batches := by
  have hpositive : size ≠ 0 := Nat.one_le_iff_ne_zero.1 hsize
  have hpartition : Partition symbols interval size firstId _ :=
    partition_batchesOf hpositive hfits
  exact ⟨_, plan_eq hpositive symbols interval firstId, hpartition,
    fun other hother => hpartition.unique hpositive hother⟩

/-- Five symbols in batches of two: the third and last batch takes the last id there is. -/
theorem plan_partitions_to_last_id :
    let symbols := ["AUSDT", "BUSDT", "CUSDT", "DUSDT", "EUSDT"].filterMap Symbol.ofString?
    let firstId : UInt64 := 18446744073709551613
    (1 ≤ 2 ∧ firstId.toNat + (symbols.length + 2 - 1) / 2 ≤ 2 ^ 64) ∧
      ∃ batches, plan symbols .min1 2 firstId = .ok batches ∧
        Partition symbols .min1 2 firstId batches ∧
        (∀ other, Partition symbols .min1 2 firstId other → other = batches) ∧
        batches.map (fun b => (b.index, b.id.toNat, b.symbols.length)) =
          [(0, 2 ^ 64 - 3, 2), (1, 2 ^ 64 - 2, 2), (2, 2 ^ 64 - 1, 1)] := by
  intro symbols firstId
  have hfits : firstId.toNat + (symbols.length + 2 - 1) / 2 ≤ 2 ^ 64 := by decide +kernel
  obtain ⟨batches, hplan, hpartition, honly⟩ :=
    plan_partitions symbols .min1 2 firstId (by decide) hfits
  refine ⟨⟨by decide, hfits⟩, batches, hplan, hpartition, honly, ?_⟩
  rw [plan_eq (by decide)] at hplan
  obtain rfl := Except.ok.inj hplan
  decide +kernel

end CandleRelay.Feed
