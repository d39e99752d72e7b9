import CandleRelay.Proofs.Feed.Intervals
import Mathlib.Order.Basic

/-!
# The timeline of a subscription

A client that asks for every interval sends its requests one delay apart, within an interval and
from one interval to the next. So the number of an attempt says everything about it: when it is
made, with which id, for which interval and for which symbols; and the first that fails is the last.

What is proved:
  1. `getElem?_plans`: the batch that stands at a place among all plans.
  2. `paced_subscribeAll`: the attempts are one delay apart, from the first on (`Paced`).
  3. `keeps_timeline`: the two together, for a new client, with the answer it gives.
-/

namespace CandleRelay.Feed

/-! ## The batch at a place -/

/-- How many batches of a size some symbols take. -/
def batchCount (symbols size : Nat) : Nat := (symbols + size - 1) / size

theorem lt_batchCount_iff {n size j : Nat} (hsize : size ≠ 0) :
    j < batchCount n size ↔ j * size < n := by
  rw [batchCount, Nat.lt_iff_add_one_le, Nat.le_div_iff_mul_le (Nat.pos_of_ne_zero hsize),
    Nat.succ_mul]
  omega

theorem batchCount_pos {n size : Nat} (hsize : size ≠ 0) (hn : n ≠ 0) : 0 < batchCount n size := by
  rw [lt_batchCount_iff hsize, Nat.zero_mul]
  exact Nat.pos_of_ne_zero hn

/-- The groups of a list are its parts of one size, the last one perhaps shorter. -/
theorem getElem?_inGroups {α : Type} {size : Nat} (hsize : size ≠ 0) (l : List α) (j : Nat) :
    (inGroups size l)[j]? =
      if j * size < l.length then some ((l.drop (j * size)).take size) else none := by
  obtain ⟨k, rfl⟩ := Nat.exists_eq_succ_of_ne_zero hsize
  fun_induction inGroups (k + 1) l generalizing j with
  | case1 => simp
  | case2 a rest ih =>
    cases j with
    | zero => simp
    | succ j =>
      have hiff : j * (k + 1) < (rest.drop k).length ↔ (j + 1) * (k + 1) < (a :: rest).length := by
        rw [List.length_drop, List.length_cons, Nat.succ_mul]
        omega
      have hdrop : (rest.drop k).drop (j * (k + 1)) = (a :: rest).drop ((j + 1) * (k + 1)) := by
        rw [List.drop_drop, Nat.succ_mul, ← Nat.add_assoc, List.drop_succ_cons, Nat.add_comm]
      rw [List.getElem?_cons_succ]
      refine (ih j).trans ?_
      simp only [Nat.add_sub_cancel, hiff, hdrop]

theorem length_inGroups {α : Type} {size : Nat} (hsize : size ≠ 0) (l : List α) :
    (inGroups size l).length = batchCount l.length size := by
  refine eq_of_forall_lt_iff fun j => ?_
  have hnone : (inGroups size l)[j]? = none ↔ ¬ j * size < l.length := by
    rw [getElem?_inGroups hsize]
    split <;> simp_all
  rw [List.getElem?_eq_none_iff, ← Nat.not_lt, not_iff_not] at hnone
  rw [hnone, lt_batchCount_iff hsize]

/-- The batch at place `j` among the plans of all intervals, if it is one for `i`. -/
def batchAt (symbols : List Symbol) (size : Nat) (firstId : UInt64) (j : Nat) (i : Interval) :
    Batch :=
  let place := j % batchCount symbols.length size
  ⟨firstId + j.toUInt64, place, i, (symbols.drop (place * size)).take size⟩

theorem length_batchesOf {size : Nat} (hsize : size ≠ 0) (symbols : List Symbol) (i : Interval)
    (firstId : UInt64) :
    (batchesOf symbols i size firstId).length = batchCount symbols.length size := by
  rw [batchesOf, List.length_mapIdx, length_inGroups hsize]

theorem getElem?_batchesOf {size : Nat} (hsize : size ≠ 0) (symbols : List Symbol) (i : Interval)
    (firstId : UInt64) {j : Nat} (hj : j < batchCount symbols.length size) :
    (batchesOf symbols i size firstId)[j]? = some (batchAt symbols size firstId j i) := by
  rw [batchesOf, List.getElem?_mapIdx, getElem?_inGroups hsize,
    if_pos ((lt_batchCount_iff hsize).1 hj), Option.map_some, batchAt, Nat.mod_eq_of_lt hj]

theorem getElem?_plans {symbols : List Symbol} {size : Nat} (hsize : size ≠ 0)
    (hsome : symbols ≠ []) (firstId : UInt64) (intervals : List Interval) (j : Nat) :
    (plans symbols size firstId intervals).flatten[j]? =
      (intervals[j / batchCount symbols.length size]?).map (batchAt symbols size firstId j) := by
  have hpos : 0 < batchCount symbols.length size :=
    batchCount_pos hsize (mt List.length_eq_zero_iff.1 hsome)
  induction intervals generalizing firstId j with
  | nil => rfl
  | cons i rest ih =>
    have hlength := length_batchesOf hsize symbols i firstId
    rw [plans, List.flatten_cons]
    rcases Nat.lt_or_ge j (batchCount symbols.length size) with hj | hj
    · rw [List.getElem?_append_left (hlength ▸ hj), getElem?_batchesOf hsize _ _ _ hj,
        Nat.div_eq_of_lt hj]
      rfl
    · -- The batch stands in the plan of a later interval.
      obtain ⟨k, rfl⟩ := Nat.exists_eq_add_of_le hj
      have hlater : batchAt symbols size (firstId + (batchCount symbols.length size).toUInt64) k =
          batchAt symbols size firstId (batchCount symbols.length size + k) := by
        funext i
        have hid : firstId + (batchCount symbols.length size).toUInt64 + k.toUInt64 =
            firstId + (batchCount symbols.length size + k).toUInt64 := by
          rw [UInt64.add_assoc]
          exact congrArg (firstId + ·) (UInt64.ofNat_add _ _).symm
        rw [batchAt, batchAt, hid, Nat.add_mod_left]
      rw [List.getElem?_append_right (hlength ▸ hj), hlength, Nat.add_sub_cancel_left, ih,
        Nat.add_div_left k hpos, List.getElem?_cons_succ, hlater]

theorem length_plans {size : Nat} (hsize : size ≠ 0) (symbols : List Symbol) (firstId : UInt64)
    (intervals : List Interval) :
    (plans symbols size firstId intervals).flatten.length =
      intervals.length * batchCount symbols.length size := by
  induction intervals generalizing firstId with
  | nil => simp [plans]
  | cons i rest ih =>
    rw [plans, List.flatten_cons, List.length_append, length_batchesOf hsize, ih, List.length_cons,
      Nat.succ_mul, Nat.add_comm]

theorem batch_of_getElem?_plans {symbols : List Symbol} {size : Nat} (hsize : size ≠ 0)
    {intervals : List Interval} {j : Nat} {b : Batch}
    (hb : (plans symbols size 1 intervals).flatten[j]? = some b) :
    let m := batchCount symbols.length size
    j % m * size < symbols.length ∧ ∃ i, intervals[j / m]? = some i ∧
      b = ⟨(j + 1).toUInt64, j % m, i,
        (symbols.take (min ((j % m + 1) * size) symbols.length)).drop (j % m * size)⟩ := by
  intro m
  have hsome : symbols ≠ [] := by
    rintro rfl
    rw [plans_nil] at hb
    simp at hb
  rw [getElem?_plans hsize hsome] at hb
  obtain ⟨i, hi, rfl⟩ := Option.map_eq_some_iff.1 hb
  have hpos : 0 < m := batchCount_pos hsize (mt List.length_eq_zero_iff.1 hsome)
  refine ⟨(lt_batchCount_iff hsize).1 (Nat.mod_lt j hpos), i, hi, ?_⟩
  have hid : (1 : UInt64) + j.toUInt64 = (j + 1).toUInt64 := by
    rw [Nat.add_comm j]
    exact (UInt64.ofNat_add 1 j).symm
  have hgroup : (symbols.drop (j % m * size)).take size =
      (symbols.take (min ((j % m + 1) * size) symbols.length)).drop (j % m * size) := by
    rw [← List.take_eq_take_min, List.drop_take, Nat.succ_mul, Nat.add_sub_cancel_left]
  rw [batchAt, hid, ← hgroup]

theorem firstName_group {b : Batch} {l : List Symbol} {p q : Nat}
    (hb : b.symbols = (l.take (min q l.length)).drop p) (hp : p < l.length) (hq : p < q) :
    b.firstName = l[p].name := by
  have htaken : p < (l.take (min q l.length)).length := by
    rw [← List.take_eq_take_min, List.length_take]
    exact Nat.lt_min.2 ⟨hq, hp⟩
  rw [Batch.firstName, hb, List.drop_eq_getElem_cons htaken, List.getElem_take]

/-! ## One delay apart -/

/-- From `c` to `c'` some attempts are made, one delay apart, the first of them at a given time; an
attempt that the line gives no error for goes out. -/
structure Paced (c c' : Client) (start delay n : Nat) : Prop where
  sendError : c'.line.sendError = c.line.sendError
  attempts : ∃ new, c'.line.attempts = c.line.attempts ++ new ∧
    new.map (fun a => (a.time, a.ok)) = (List.range n).map fun j =>
      (start + j * delay, (c.line.sendError (c.line.attempts.length + j)).isNone)

variable {c c' c'' : Client} {start delay n n' : Nat}

theorem Paced.refl (c : Client) (start delay : Nat) : Paced c c start delay 0 :=
  ⟨rfl, [], (List.append_nil _).symm, rfl⟩

theorem Paced.trans (h : Paced c c' start delay n)
    (h' : Paced c' c'' (start + n * delay) delay n') : Paced c c'' start delay (n + n') := by
  obtain ⟨new, hnew, hpairs⟩ := h.attempts
  obtain ⟨new', hnew', hpairs'⟩ := h'.attempts
  have hlength : new.length = n := by simpa using congrArg List.length hpairs
  refine ⟨h'.sendError.trans h.sendError, new ++ new', ?_, ?_⟩
  · rw [hnew', hnew, List.append_assoc]
  · rw [List.map_append, hpairs, hpairs', List.range_add, List.map_append, List.map_map]
    congr 1
    refine List.map_congr_left fun j _ => ?_
    simp only [Function.comp_apply, h.sendError, hnew, List.length_append, hlength, Nat.add_mul,
      Nat.add_assoc]

theorem Paced.wait {ms : Nat} (h : Paced { c with line := c.line.wait ms } c' start delay n) :
    Paced c c' start delay n :=
  ⟨h.sendError, h.attempts⟩

namespace Client

/-- When the client makes its next attempt, if it has sent so many batches of a plan. -/
def due (c : Client) (delay sent : Nat) : Nat := c.line.now + if sent > 0 then delay else 0

theorem now_paced (c : Client) (delay : Nat) (report : Report) :
    (c.paced delay report).line.now = c.due delay report.batches := by
  unfold paced due
  split <;> simp [Line.wait]

theorem paced_sendBatch (c : Client) (delay : Nat) (b : Batch) :
    Paced c (c.sendBatch b).2 c.line.now delay 1 ∧ (c.sendBatch b).2.line.now = c.line.now := by
  cases h : c.line.sendError c.line.attempts.length with
  | some e =>
    simp only [sendBatch, Line.send, h]
    exact ⟨⟨rfl, [⟨c.line.now, b.request, false⟩], rfl, by simp [h]⟩, trivial⟩
  | none =>
    simp only [sendBatch, Line.send, h]
    exact ⟨⟨rfl, [⟨c.line.now, b.request, true⟩], rfl, by simp [h]⟩, trivial⟩

/-- The batches of a plan are sent one delay apart, and after the last of them another delay would
have to pass. -/
theorem paced_sendAll (delay : Nat) (batches : List Batch) (c : Client) (report : Report) :
    ∃ n, Paced c (c.sendAll delay report batches).2 (c.due delay report.batches) delay n ∧
      ∀ r, (c.sendAll delay report batches).1 = .ok r → n = batches.length ∧
        (c.sendAll delay report batches).2.due delay (report.batches + batches.length) =
          c.due delay report.batches + n * delay := by
  induction batches generalizing c report with
  | nil => exact ⟨0, Paced.refl c _ delay, fun _ _ => ⟨rfl, by simp [sendAll]⟩⟩
  | cons b rest ih =>
    obtain ⟨hone, hnow⟩ := (c.paced delay report).paced_sendBatch delay b
    obtain ⟨hattempts, herror, -⟩ := c.paced_same delay report
    rw [now_paced] at hone hnow
    have hone :
        Paced c ((c.paced delay report).sendBatch b).2 (c.due delay report.batches) delay 1 :=
      ⟨hone.sendError.trans herror, by rw [← hattempts, ← herror]; exact hone.attempts⟩
    rw [sendAll_cons]
    cases hsend : (c.paced delay report).sendBatch b with
    | mk answer c' =>
      rw [hsend] at hone hnow
      cases answer with
      | error e => exact ⟨1, hone, fun _ h => absurd h (by simp)⟩
      | ok u =>
        -- The next batch is due a delay later.
        have hdue : c'.due delay (report.batches + 1) = c.due delay report.batches + 1 * delay := by
          rw [due, if_pos (Nat.succ_pos _), hnow, Nat.one_mul]
        obtain ⟨n, hrest, hlast⟩ := ih c' ⟨report.batches + 1, report.streams + b.symbols.length⟩
        simp only [hdue] at hrest hlast
        refine ⟨1 + n, hone.trans hrest, ?_⟩
        intro r hr
        obtain ⟨hn, hafter⟩ := hlast r hr
        refine ⟨by rw [hn, List.length_cons, Nat.add_comm], ?_⟩
        rw [List.length_cons, ← Nat.add_assoc, Nat.add_right_comm, hafter, Nat.add_mul]
        omega

variable {symbols : List Symbol} {size : Nat}

theorem paced_subscribe (c : Client) (hsome : symbols ≠ []) (i : Interval) (hdelay : delay ≠ 0)
    (hsize : size ≠ 0) :
    ∃ n, Paced c (c.subscribe symbols i size delay).2 c.line.now delay n ∧
      ∀ r, (c.subscribe symbols i size delay).1 = .ok r →
        (c.subscribe symbols i size delay).2.line.now + delay = c.line.now + n * delay := by
  have hsubscribe : c.subscribe symbols i size delay =
      { c with nextId := c.nextId + (batchesOf symbols i size c.nextId).length.toUInt64 }.sendAll
        delay {} (batchesOf symbols i size c.nextId) := by
    rw [subscribe, if_neg hdelay, plan_eq hsize]
  have hpos : 0 < (batchesOf symbols i size c.nextId).length :=
    List.length_pos_iff.2 (mt batchesOf_eq_nil_iff.1 hsome)
  obtain ⟨n, hpaced, hlast⟩ := paced_sendAll delay (batchesOf symbols i size c.nextId)
    { c with nextId := c.nextId + (batchesOf symbols i size c.nextId).length.toUInt64 } {}
  rw [hsubscribe]
  refine ⟨n, ⟨hpaced.sendError, hpaced.attempts⟩, ?_⟩
  intro r hr
  have hdue := (hlast r hr).2
  rwa [due, if_pos (by omega)] at hdue

theorem paced_subscribeRest (hsome : symbols ≠ []) (hdelay : delay ≠ 0) (hsize : size ≠ 0)
    (intervals : List Interval) (c : Client) (report : Report) :
    ∃ n, Paced c (c.subscribeRest symbols size delay report intervals).2 (c.line.now + delay)
      delay n := by
  induction intervals generalizing c report with
  | nil => exact ⟨0, Paced.refl c _ delay⟩
  | cons i rest ih =>
    obtain ⟨n, hfirst, hnext⟩ := paced_subscribe { c with line := c.line.wait delay } hsome i hdelay
      hsize
    rw [subscribeRest]
    cases hresult : { c with line := c.line.wait delay }.subscribe symbols i size delay with
    | mk answer c' =>
      rw [hresult] at hfirst hnext
      cases answer with
      | error e => exact ⟨n, hfirst.wait⟩
      | ok r =>
        obtain ⟨n', hrest⟩ := ih c' (report.add r)
        rw [hnext r rfl] at hrest
        exact ⟨n + n', hfirst.wait.trans hrest⟩

theorem paced_subscribe_nil (c : Client) (start : Nat) (i : Interval) (hdelay : delay ≠ 0)
    (hsize : size ≠ 0) : ∃ c', c.subscribe [] i size delay = (.ok {}, c') ∧
      Paced c c' start delay 0 := by
  refine ⟨{ c with nextId := c.nextId + Nat.toUInt64 0 }, ?_, rfl, [], ?_, rfl⟩
  · simp [subscribe, hdelay, plan_eq hsize, batchesOf_eq_nil_iff.2, sendAll]
  · exact (List.append_nil _).symm

theorem paced_subscribeRest_nil (start : Nat) (hdelay : delay ≠ 0) (hsize : size ≠ 0)
    (intervals : List Interval) (c : Client) (report : Report) :
    Paced c (c.subscribeRest [] size delay report intervals).2 start delay 0 := by
  induction intervals generalizing c report with
  | nil => exact Paced.refl c _ delay
  | cons i rest ih =>
    obtain ⟨c', hsubscribe, hnone⟩ :=
      paced_subscribe_nil { c with line := c.line.wait delay } start i hdelay hsize
    rw [subscribeRest, hsubscribe]
    have hrest := ih c' (report.add {})
    exact hnone.wait.trans (by rwa [Nat.zero_mul])

/-- Asking for all intervals makes its attempts one delay apart, the first of them at once. -/
theorem paced_subscribeAll (c : Client) (symbols : List Symbol) (hdelay : delay ≠ 0)
    (hsize : size ≠ 0) (intervals : List Interval) :
    ∃ n, Paced c (c.subscribeAll symbols size delay intervals).2 c.line.now delay n := by
  cases intervals with
  | nil => exact ⟨0, Paced.refl c _ delay⟩
  | cons i rest =>
    by_cases hsome : symbols = []
    · subst hsome
      obtain ⟨c', hsubscribe, hnone⟩ := paced_subscribe_nil c c.line.now i hdelay hsize
      rw [subscribeAll, hsubscribe]
      have hrest := paced_subscribeRest_nil c.line.now hdelay hsize rest c' {}
      exact ⟨0, hnone.trans (by rwa [Nat.zero_mul])⟩
    obtain ⟨n, hfirst, hnext⟩ := c.paced_subscribe hsome i hdelay hsize
    rw [subscribeAll]
    cases hresult : c.subscribe symbols i size delay with
    | mk answer c' =>
      rw [hresult] at hfirst hnext
      cases answer with
      | error e => exact ⟨n, hfirst⟩
      | ok r =>
        obtain ⟨n', hrest⟩ := paced_subscribeRest hsome hdelay hsize rest c' r
        rw [hnext r rfl] at hrest
        exact ⟨n + n', hfirst.trans hrest⟩

end Client

/-! ## The whole timeline -/

theorem Paced.length (h : Paced c c' start delay n) :
    (c'.line.attemptsSince c.line).length = n := by
  obtain ⟨new, hnew, hpairs⟩ := h.attempts
  rw [Line.attemptsSince, hnew, List.drop_left]
  simpa using congrArg List.length hpairs

theorem Paced.getElem? (h : Paced c c' start delay n) {j : Nat} (hj : j < n) :
    ∃ a, (c'.line.attemptsSince c.line)[j]? = some a ∧ a.time = start + j * delay ∧
      a.ok = (c.line.sendError (c.line.attempts.length + j)).isNone := by
  obtain ⟨new, hnew, hpairs⟩ := h.attempts
  have hat : (new.map fun a => (a.time, a.ok))[j]? =
      some (start + j * delay, (c.line.sendError (c.line.attempts.length + j)).isNone) := by
    rw [hpairs, List.getElem?_map, List.getElem?_range hj, Option.map_some]
  rw [List.getElem?_map] at hat
  obtain ⟨a, ha, hpair⟩ := Option.map_eq_some_iff.1 hat
  obtain ⟨htime, hok⟩ := Prod.mk.inj hpair
  refine ⟨a, ?_, htime, hok⟩
  rw [Line.attemptsSince, hnew, List.drop_left]
  exact ha

namespace SentAll

variable {sent rest : List Batch} {report : Report}
  {r : Except SubscriptionError Report × Client}

theorem attempts_made (h : SentAll c sent rest report r) (hp : Paced c r.2 start delay n) :
    n = sent.length + rest.head?.toList.length := by
  have hlength := congrArg List.length h.handed.outcomes
  simpa [hp.length] using hlength

theorem sendError_of_lt (h : SentAll c sent rest report r) (hp : Paced c r.2 start delay n)
    {j : Nat} (hj : j < sent.length) :
    c.line.sendError (c.line.attempts.length + j) = none := by
  have hlength := h.attempts_made hp
  obtain ⟨a, ha, -, hok⟩ := hp.getElem? (j := j) (by omega)
  have hout : ((r.2.line.attemptsSince c.line).map Attempt.outcome)[j]? =
      some (sent[j].request, true) := by
    rw [h.handed.outcomes, List.map_append, List.getElem?_append_left (by simpa using hj)]
    simp [Sending.outcome, hj]
  rw [List.getElem?_map, ha] at hout
  have htrue : a.ok = true := congrArg Prod.snd (Option.some.inj hout)
  rw [htrue] at hok
  exact Option.isNone_iff_eq_none.1 hok.symm

/-- Each attempt is for the batch at its place. -/
theorem attempt_at (h : SentAll c sent rest report r) (hp : Paced c r.2 start delay n) {j : Nat}
    (hj : j < n) : ∃ b, (sent ++ rest)[j]? = some b ∧ (r.2.line.attemptsSince c.line)[j]? =
      some ⟨start + j * delay, b.request,
        (c.line.sendError (c.line.attempts.length + j)).isNone⟩ := by
  obtain ⟨a, ha, htime, hok⟩ := hp.getElem? hj
  have htext : ((r.2.line.attemptsSince c.line).map (·.text))[j]? = some a.text := by
    rw [List.getElem?_map, ha, Option.map_some]
  rw [h.texts, hp.length, List.getElem?_map, List.getElem?_take_of_lt hj] at htext
  obtain ⟨b, hb, hrequest⟩ := Option.map_eq_some_iff.1 htext
  exact ⟨b, hb, by rw [ha, hrequest, ← htime, ← hok]⟩

theorem sendError_of_cons {b : Batch} {later : List Batch}
    (h : SentAll c sent (b :: later) report r) :
    ∃ e, c.line.sendError (c.line.attempts.length + sent.length) = some e ∧
      r.1 = .error (.ofBatch b e.message) := h.answer

theorem eq_nil_of_no_error (h : SentAll c sent rest report r)
    (hnone : ∀ j < (sent ++ rest).length,
      c.line.sendError (c.line.attempts.length + j) = none) : rest = [] := by
  cases rest with
  | nil => rfl
  | cons b later =>
    obtain ⟨e, he, -⟩ := h.sendError_of_cons
    rw [hnone sent.length (by simp)] at he
    simp at he

/-- If there is a first batch that the line gives an error for, those before it have been sent, and
the error is the answer. -/
theorem first_error (h : SentAll c sent rest report r) (hp : Paced c r.2 start delay n) {f : Nat}
    {e : LineError} (hf : f < (sent ++ rest).length)
    (hbefore : ∀ j < f, c.line.sendError (c.line.attempts.length + j) = none)
    (hfail : c.line.sendError (c.line.attempts.length + f) = some e) :
    n = f + 1 ∧ ∃ b, (sent ++ rest)[f]? = some b ∧ r.1 = .error (.ofBatch b e.message) := by
  have hle : sent.length ≤ f := by
    by_contra hlt
    rw [h.sendError_of_lt hp (Nat.lt_of_not_le hlt)] at hfail
    simp at hfail
  cases rest with
  | nil =>
    rw [List.append_nil] at hf
    exact absurd hle (Nat.not_le_of_lt hf)
  | cons b later =>
    obtain ⟨e', he', hanswer⟩ := h.sendError_of_cons
    obtain rfl : sent.length = f := by
      refine Nat.le_antisymm hle (Nat.le_of_not_lt fun hlt => ?_)
      rw [hbefore _ hlt] at he'
      simp at he'
    obtain rfl : e' = e := Option.some.inj (he'.symm.trans hfail)
    exact ⟨h.attempts_made hp, b, by simp, hanswer⟩

end SentAll

/-- What asking for all intervals does on a line, attempt by attempt. With `m` batches for the
symbols, attempt `j` is for interval `j / m` and for group `j % m` of the symbols. -/
structure KeepsTimeline (symbols : List Symbol) (intervals : List Interval) (size delay m : Nat)
    (line : Line) (r : Except SubscriptionError Report × Client) : Prop where
  /-- An attempt is made one delay after the last, and its number says what is asked for. -/
  attempts : ∀ j < (r.2.line.attemptsSince line).length, ∃ i, intervals[j / m]? = some i ∧
    (r.2.line.attemptsSince line)[j]? = some
      { time := line.now + j * delay
        text := Batch.request ⟨(j + 1).toUInt64, j % m, i,
          (symbols.take (min ((j % m + 1) * size) symbols.length)).drop (j % m * size)⟩
        ok := (line.sendError (line.attempts.length + j)).isNone }
  /-- Without a failure everything is asked for. -/
  complete : (∀ j < intervals.length * m, line.sendError (line.attempts.length + j) = none) →
    (r.2.line.attemptsSince line).length = intervals.length * m ∧
      r.1 = .ok ⟨intervals.length * m, intervals.length * symbols.length⟩
  /-- The first attempt that fails is the last, and is reported. -/
  broken : ∀ f e, f < intervals.length * m →
    (∀ j < f, line.sendError (line.attempts.length + j) = none) →
    line.sendError (line.attempts.length + f) = some e →
    (r.2.line.attemptsSince line).length = f + 1 ∧
      ∃ i s, intervals[f / m]? = some i ∧ symbols[f % m * size]? = some s ∧
        r.1 = .error (.sendFailed (f % m) (f + 1).toUInt64 i s.name e.message)
  nothing : symbols = [] → r.2.line.attemptsSince line = []

/-- A new client that asks for all intervals keeps its timeline, whichever attempts fail. -/
theorem keeps_timeline (o : Outbox) (line : Line) (symbols : List Symbol)
    (intervals : List Interval) {size delay : Nat} (hsize : size ≠ 0) (hdelay : delay ≠ 0) :
    KeepsTimeline symbols intervals size delay ((symbols.length + size - 1) / size) line
      ((Client.fresh o line).subscribeAll symbols size delay intervals) := by
  obtain ⟨n, hpaced⟩ := (Client.fresh o line).paced_subscribeAll symbols hdelay hsize intervals
  obtain ⟨sent, rest, hplans, hsent⟩ :=
    (Client.fresh o line).sentAll_subscribeAll symbols hdelay hsize intervals
  have hplans : (plans symbols size 1 intervals).flatten = sent ++ rest := hplans
  have hlength : (sent ++ rest).length =
      intervals.length * ((symbols.length + size - 1) / size) :=
    hplans ▸ length_plans hsize symbols 1 intervals
  refine ⟨?_, ?_, ?_, ?_⟩
  · intro j hj
    obtain ⟨b, hb, hat⟩ := hsent.attempt_at hpaced (hpaced.length ▸ hj)
    obtain ⟨-, i, hi, rfl⟩ := batch_of_getElem?_plans hsize (hplans ▸ hb)
    exact ⟨i, hi, hat⟩
  · intro hnone
    obtain rfl := hsent.eq_nil_of_no_error (hlength ▸ hnone)
    have hanswer : _ = Except.ok _ := hsent.answer
    have hstreams : (sent.map (·.symbols.length)).sum = intervals.length * symbols.length := by
      rw [← List.append_nil sent, ← hplans, symbols_plans, Nat.mul_comm]
    rw [List.append_nil] at hlength
    refine ⟨hpaced.length.trans ((hsent.attempts_made hpaced).trans hlength), ?_⟩
    rw [hanswer, hstreams, ← hlength]
    simp
  · intro f e hf hbefore hfail
    obtain ⟨hn, b, hb, hanswer⟩ := hsent.first_error hpaced (hlength ▸ hf) hbefore hfail
    obtain ⟨hplace, i, hi, rfl⟩ := batch_of_getElem?_plans hsize (hplans ▸ hb)
    have hgroup : f % batchCount symbols.length size * size <
        (f % batchCount symbols.length size + 1) * size :=
      Nat.mul_lt_mul_of_pos_right (Nat.lt_succ_self _) (Nat.pos_of_ne_zero hsize)
    refine ⟨hpaced.length.trans hn, i, _, hi, List.getElem?_eq_getElem hplace, ?_⟩
    rw [hanswer, SubscriptionError.ofBatch, firstName_group rfl hplace hgroup]
    rfl
  · rintro rfl
    rw [plans_nil] at hplans
    obtain ⟨rfl, rfl⟩ := List.append_eq_nil_iff.1 hplans.symm
    exact List.length_eq_zero_iff.1 (hpaced.length.trans (hsent.attempts_made hpaced))

/-- Three symbols in batches of two, on two intervals: of four requests the third fails, the first
of the second interval, and the fourth is not sent. -/
theorem keeps_timeline_to_third :
    let symbols := ["AUSDT", "BUSDT", "CUSDT"].filterMap Symbol.ofString?
    let line : Line :=
      { now := 7, sendError := fun n => if n = 2 then some .timeout else none }
    let r := (Client.fresh {} line).subscribeAll symbols 2 300 [.sec1, .min1]
    (2 ≠ 0 ∧ 300 ≠ 0) ∧ KeepsTimeline symbols [.sec1, .min1] 2 300 2 line r ∧
      (r.2.line.attemptsSince line).map (·.time) = [7, 307, 607] ∧
      r.1 = .error (.sendFailed 0 3 .min1 "AUSDT" "Timeout") := by
  intro symbols line r
  have hsize : 2 ≠ 0 := by decide
  have hdelay : 300 ≠ 0 := by decide
  have hcount : (symbols.length + 2 - 1) / 2 = 2 := by decide +kernel
  have hline := keeps_timeline {} line symbols [.sec1, .min1] hsize hdelay
  rw [hcount] at hline
  exact ⟨⟨hsize, hdelay⟩, hline, by decide +kernel, by decide +kernel⟩

end CandleRelay.Feed
