import CandleRelay.Proofs.Feed.Requests
import CandleRelay.Proofs.Feed.Acknowledgement
import Mathlib.Data.List.Dedup
import Mathlib.Data.List.DropRight

/-!
# The ledger and its history

The ledger keeps one entry for each id; this module says what it answers in terms of the calls that
were made on it. An id may be recorded again and again, and answers may come twice, in any order,
and for ids that nobody recorded. What counts for an id are its last record and the answers behind
it: the record says which batch stands, and the last of the answers what has become of it.

What is proved:
  1. `kept?_concat` and `find?_apply`: one more call does the same to the entry that the history
     gives an id as to the one in the ledger (`Call.revise`).
  2. `agrees_afterCalls`: after any calls the ledger holds each id just as its history says
     (`Agrees`), so that its entries are those of the ids that were recorded
     (`Agrees.perm_standing`).
  3. `ledger_answers_from_calls`: what the ledger answers, read off the calls (`AnswersFrom`).
-/

namespace CandleRelay.Feed.Ledger

/-- A call on the ledger that may change it. -/
inductive Call where
  | record (b : Batch)
  | confirm (id : UInt64)
  | reject (id : UInt64)
  deriving DecidableEq

namespace Call

/-- The id that the call is about. -/
def id : Call → UInt64
  | record b => b.id
  | confirm id => id
  | reject id => id

/-- The status that the call sets. -/
def status : Call → BatchStatus
  | record _ => .pending
  | confirm _ => .active
  | reject _ => .failed

/-- The batch that the call records. -/
def batch? : Call → Option Batch
  | record b => some b
  | _ => none

/-- What the call does. -/
def apply (l : Ledger) : Call → Ledger
  | record b => l.record b
  | confirm id => (l.confirm id).2
  | reject id => (l.reject id).2

/-- What the call makes of the entry of its id. -/
def revise (e? : Option LedgerEntry) : Call → Option LedgerEntry
  | record b => some ⟨b, .pending⟩
  | confirm _ => e?.map fun e => { e with status := .active }
  | reject _ => e?.map fun e => { e with status := .failed }

end Call

/-- A new ledger after some calls. -/
def afterCalls (calls : List Call) : Ledger := calls.foldl Call.apply {}

/-- The batch that was last recorded with an id. -/
def lastRecorded? (id : UInt64) (calls : List Call) : Option Batch :=
  ((calls.filter (·.id == id)).filterMap Call.batch?).getLast?

/-- The answers to an id behind its last record. -/
def answersSince (id : UInt64) (calls : List Call) : List Call :=
  (calls.filter (·.id == id)).rtakeWhile (·.batch?.isNone)

/-- A record waits for an answer, and then the last answer counts. -/
def verdict (id : UInt64) (calls : List Call) : BatchStatus :=
  ((answersSince id calls).map Call.status).getLast?.getD .pending

/-- What has become of an id, if it was recorded. -/
def standing? (id : UInt64) (calls : List Call) : Option BatchStatus :=
  (lastRecorded? id calls).map fun _ => verdict id calls

/-- The entry that the calls leave behind for an id. -/
def kept? (id : UInt64) (calls : List Call) : Option LedgerEntry :=
  (lastRecorded? id calls).map fun b => ⟨b, verdict id calls⟩

/-- The ids that were recorded, each of them once. -/
def recordedIds (calls : List Call) : List UInt64 :=
  ((calls.filterMap Call.batch?).map (·.id)).dedup

variable {l : Ledger} {id : UInt64} {calls : List Call} {q : Call} {b : Batch}

/-! ## One more call -/

theorem kept?_concat :
    kept? id (calls ++ [q]) = if q.id = id then q.revise (kept? id calls) else kept? id calls := by
  by_cases hid : q.id = id
  · have hown : (calls ++ [q]).filter (·.id == id) = calls.filter (·.id == id) ++ [q] := by
      simp [List.filter_append, hid]
    simp only [kept?, lastRecorded?, verdict, answersSince, hown, if_pos hid,
      List.filterMap_append, List.rtakeWhile_concat]
    cases q <;> simp [Call.batch?, Call.revise, Call.status, Function.comp_def]
  · simp [kept?, lastRecorded?, verdict, answersSince, List.filter_append, hid]

theorem find?_record (l : Ledger) (b : Batch) (id : UInt64) :
    (l.record b).find? id = if b.id = id then some ⟨b, .pending⟩ else l.find? id := by
  rw [find?, record, List.find?_cons]
  by_cases hid : b.id = id
  · rw [if_pos hid, beq_iff_eq.2 hid]
  · rw [if_neg hid, beq_eq_false_iff_ne.2 hid, List.find?_filter, find?]
    -- What is found under another id has not given way to the record.
    refine congrArg (List.find? · l.entries) (funext fun e => ?_)
    by_cases he : e.batch.id = id
    · simp [he, Ne.symm hid]
    · simp [he]

theorem find?_apply :
    (q.apply l).find? id = if q.id = id then q.revise (l.find? id) else l.find? id := by
  cases q with
  | record b => exact find?_record l b id
  | confirm key => exact find?_settle l id key .active
  | reject key => exact find?_settle l id key .failed

/-! ## The state and the history -/

/-- The ledger is what the calls say: one entry for each id that was recorded. -/
structure Agrees (l : Ledger) (calls : List Call) : Prop where
  distinct : (l.batches.map (·.id)).Nodup
  found : ∀ id, l.find? id = kept? id calls

theorem nodup_record (hdistinct : (l.batches.map (·.id)).Nodup) (b : Batch) :
    ((l.record b).batches.map (·.id)).Nodup := by
  have hkept : (l.entries.filter (·.batch.id != b.id)).Sublist l.entries := List.filter_sublist
  rw [batches, record, List.map_cons, List.map_cons, List.nodup_cons]
  refine ⟨?_, hdistinct.sublist ((hkept.map (·.batch)).map (·.id))⟩
  simp

/-- One call keeps ledger and history in agreement. -/
theorem Agrees.apply (ha : Agrees l calls) (q : Call) : Agrees (q.apply l) (calls ++ [q]) := by
  refine ⟨?_, fun id => by rw [find?_apply, kept?_concat, ha.found id]⟩
  cases q with
  | record b => exact nodup_record ha.distinct b
  | confirm id => exact (batches_settle l id .active).symm ▸ ha.distinct
  | reject id => exact (batches_settle l id .failed).symm ▸ ha.distinct

theorem agrees_afterCalls (calls : List Call) : Agrees (afterCalls calls) calls := by
  induction calls using List.reverseRecOn with
  | nil => exact ⟨List.nodup_nil, fun _ => rfl⟩
  | append_singleton calls q ih =>
    rw [afterCalls, List.foldl_append]
    exact ih.apply q

/-! ## What the ledger holds -/

theorem mem_recordedIds : id ∈ recordedIds calls ↔ ∃ b, .record b ∈ calls ∧ b.id = id := by
  simp only [recordedIds, List.mem_dedup, List.mem_map, List.mem_filterMap]
  constructor
  · rintro ⟨b, ⟨q, hq, hb⟩, hid⟩
    cases q with
    | record b' => exact ⟨b', hq, by rw [Option.some.inj hb, hid]⟩
    | _ => simp [Call.batch?] at hb
  · rintro ⟨b, hb, hid⟩
    exact ⟨b, ⟨.record b, hb, rfl⟩, hid⟩

theorem nodup_recordedIds : (recordedIds calls).Nodup := List.nodup_dedup _

theorem record_mem_of_lastRecorded? (h : lastRecorded? id calls = some b) :
    .record b ∈ calls ∧ b.id = id := by
  obtain ⟨q, hq, hb⟩ := List.mem_filterMap.1 (List.mem_of_getLast? h)
  obtain ⟨hq, hid⟩ := List.mem_filter.1 hq
  cases q with
  | record b' =>
    obtain rfl : b' = b := Option.some.inj hb
    exact ⟨hq, beq_iff_eq.1 hid⟩
  | _ => simp [Call.batch?] at hb

theorem lastRecorded?_eq_none_iff : lastRecorded? id calls = none ↔ id ∉ recordedIds calls := by
  rw [mem_recordedIds, not_exists]
  constructor
  · intro hnone b ⟨hb, hid⟩
    have hrecords := List.getLast?_eq_none_iff.1 hnone
    have hmem : b ∈ (calls.filter (·.id == id)).filterMap Call.batch? :=
      List.mem_filterMap.2 ⟨.record b, List.mem_filter.2 ⟨hb, beq_iff_eq.2 hid⟩, rfl⟩
    rw [hrecords] at hmem
    simp at hmem
  · intro hnever
    rw [Option.eq_none_iff_forall_ne_some]
    intro b hb
    exact hnever b (record_mem_of_lastRecorded? hb)

namespace Agrees

/-- An entry of the ledger is what the calls leave behind for its id. -/
theorem entry (ha : Agrees l calls) {e : LedgerEntry} (he : e ∈ l.entries) :
    lastRecorded? e.batch.id calls = some e.batch ∧
      standing? e.batch.id calls = some e.status := by
  have hentry := (ha.found _).symm.trans (find?_of_mem ha.distinct he)
  obtain ⟨b, hb, hbatch⟩ := Option.map_eq_some_iff.1 hentry
  have hsame : b = e.batch := congrArg LedgerEntry.batch hbatch
  have hstatus : verdict e.batch.id calls = e.status := congrArg LedgerEntry.status hbatch
  exact ⟨hsame ▸ hb, by rw [standing?, hb, Option.map_some, hstatus]⟩

theorem map_batch_find? (ha : Agrees l calls) (id : UInt64) :
    (l.find? id).map (·.batch) = lastRecorded? id calls := by
  rw [ha.found, kept?, Option.map_map]
  exact Option.map_id' ..

theorem status?_eq (ha : Agrees l calls) (id : UInt64) : l.status? id = standing? id calls := by
  rw [status?, ha.found, kept?, Option.map_map]
  rfl

theorem perm_recordedIds (ha : Agrees l calls) :
    (l.entries.map (·.batch.id)).Perm (recordedIds calls) := by
  have hdistinct : (l.entries.map (·.batch.id)).Nodup := by
    have hdistinct := ha.distinct
    rwa [batches, List.map_map] at hdistinct
  refine (List.perm_ext_iff_of_nodup hdistinct nodup_recordedIds).2 fun id => ?_
  have hfound : id ∈ l.entries.map (·.batch.id) ↔ l.find? id ≠ none := by
    rw [find?, ne_eq, List.find?_eq_none]
    simp
  have hrecorded : id ∈ recordedIds calls ↔ lastRecorded? id calls ≠ none := by
    rw [ne_eq, lastRecorded?_eq_none_iff, not_not]
  rw [hfound, hrecorded, ← ha.map_batch_find?, ne_eq, ne_eq, Option.map_eq_none_iff]

theorem perm_standing (ha : Agrees l calls) (s : BatchStatus) :
    ((l.entries.filter (·.status == s)).map (·.batch.id)).Perm
      ((recordedIds calls).filter (standing? · calls == some s)) := by
  have hfilter : l.entries.filter (·.status == s) =
      l.entries.filter (standing? ·.batch.id calls == some s) := by
    refine List.filter_congr fun e he => ?_
    rw [(ha.entry he).2]
    rfl
  rw [hfilter]
  have hperm := ha.perm_recordedIds.filter (standing? · calls == some s)
  rwa [List.filter_map] at hperm

theorem count_eq (ha : Agrees l calls) (s : BatchStatus) :
    l.count s = ((recordedIds calls).filter (standing? · calls == some s)).length := by
  rw [← (ha.perm_standing s).length_eq, List.length_map, count]

theorem activeStreams_eq (ha : Agrees l calls) :
    l.activeStreams =
      ((((recordedIds calls).filter (standing? · calls == some .active)).filterMap
        (lastRecorded? · calls)).map (·.symbols.length)).sum := by
  have hbatches : (l.entries.filter (·.status == .active)).map (·.batch) =
      ((l.entries.filter (·.status == .active)).map (·.batch.id)).filterMap
        (lastRecorded? · calls) := by
    rw [List.filterMap_map, ← List.filterMap_eq_map]
    refine List.filterMap_congr fun e he => ?_
    exact (ha.entry (List.mem_of_mem_filter he)).1.symm
  have hsum : l.activeStreams =
      (((l.entries.filter (·.status == .active)).map (·.batch)).map (·.symbols.length)).sum := by
    rw [activeStreams, ← List.sum_eq_foldl, List.map_map]
    rfl
  rw [hsum, hbatches]
  exact (((ha.perm_standing .active).filterMap _).map _).sum_nat

end Agrees

theorem count_add_count_add_count (l : Ledger) :
    l.count .pending + l.count .active + l.count .failed = l.size := by
  simp only [count, size]
  induction l.entries with
  | nil => rfl
  | cons e rest ih =>
    cases hstatus : e.status <;> simp [hstatus] <;> omega

theorem settle_of_find?_eq_none (h : l.find? id = none) (status : BatchStatus) :
    l.settle id status = (none, l) := by
  have hother : ∀ e ∈ l.entries, (e.batch.id == id) = false := by
    intro e he
    simpa using List.find?_eq_none.1 h e he
  have hsame : (l.entries.map fun e => if e.batch.id == id then { e with status } else e) =
      l.entries := by
    conv_rhs => rw [← List.map_id l.entries]
    refine List.map_congr_left fun e he => ?_
    rw [hother e he]
    rfl
  rw [settle, h, hsame]
  rfl

/-! ## What the ledger answers -/

/-- Everything that the ledger answers, read off the calls. -/
structure AnswersFrom (l : Ledger) (calls : List Call) : Prop where
  /-- An id that was recorded is pending, or what the last answer since says; others are unknown. -/
  status : ∀ id, l.status? id = standing? id calls
  unknown : ∀ id, l.status? id = none ↔ ∀ b, .record b ∈ calls → b.id ≠ id
  /-- An answer gives the batch that was last recorded. -/
  confirm : ∀ id, (l.confirm id).1 = lastRecorded? id calls
  reject : ∀ id, (l.reject id).1 = lastRecorded? id calls
  /-- An answer to an id that was never recorded gives none, and changes nothing. -/
  unchanged : ∀ id, (∀ b, .record b ∈ calls → b.id ≠ id) →
    l.confirm id = (none, l) ∧ l.reject id = (none, l)
  /-- The ids that were recorded are counted, each once and under its status. -/
  total : l.size = (recordedIds calls).length
  sum : l.count .pending + l.count .active + l.count .failed = l.size
  count : ∀ s, l.count s = ((recordedIds calls).filter (standing? · calls == some s)).length
  /-- The symbols of just the batches that are active are counted. -/
  activeStreams : l.activeStreams =
    ((((recordedIds calls).filter (standing? · calls == some .active)).filterMap
      (lastRecorded? · calls)).map (·.symbols.length)).sum

theorem Agrees.answersFrom (ha : Agrees l calls) : AnswersFrom l calls := by
  have hnever : ∀ id, lastRecorded? id calls = none ↔ ∀ b, .record b ∈ calls → b.id ≠ id := by
    intro id
    rw [lastRecorded?_eq_none_iff, mem_recordedIds]
    simp
  have hunknown : ∀ id, (∀ b, .record b ∈ calls → b.id ≠ id) → l.find? id = none := by
    intro id h
    rw [ha.found, kept?, (hnever id).2 h, Option.map_none]
  refine ⟨ha.status?_eq, ?_, ha.map_batch_find?, ha.map_batch_find?, ?_, ?_,
    count_add_count_add_count l, ha.count_eq, ha.activeStreams_eq⟩
  · intro id
    rw [ha.status?_eq, standing?, Option.map_eq_none_iff, hnever]
  · intro id h
    exact ⟨settle_of_find?_eq_none (hunknown id h) _, settle_of_find?_eq_none (hunknown id h) _⟩
  · rw [← ha.perm_recordedIds.length_eq, List.length_map, size]

/-- **The ledger answers from the history of its calls.** After any records, confirmations and
rejections, of whatever ids, the status of an id is unknown if it was never recorded, and otherwise
what the last call since its last record has set; an answer gives the batch of that record; and the
counts are those of the distinct ids that were recorded. -/
theorem ledger_answers_from_calls (calls : List Call) : AnswersFrom (afterCalls calls) calls :=
  (agrees_afterCalls calls).answersFrom

/-- A request that was accepted and then sent again waits once more, for the new streams. -/
example :
    let symbols := ["AUSDT", "BUSDT"].filterMap Symbol.ofString?
    let l := afterCalls [.record ⟨7, 0, .min1, symbols⟩, .confirm 7, .confirm 8,
      .record ⟨7, 0, .min1, symbols.take 1⟩]
    l.status? 7 = some .pending ∧ l.status? 8 = none ∧ l.size = 1 ∧ l.activeStreams = 0 ∧
      (l.confirm 7).2.activeStreams = 1 := by
  decide +kernel

end CandleRelay.Feed.Ledger
