import CandleRelay.Proofs.Feed.Requests
import CandleRelay.Worker
import Mathlib.Algebra.Order.BigOperators.Group.List
import Mathlib.Algebra.Order.Group.Nat

/-!
# One interval after another

A client that asks for every interval sends one plan after the other, and the failure of one batch
is the end of all of them. So what goes out is a first part of all the plans together, and these
hold every symbol once for each interval: keeping few enough symbols beforehand keeps everything
afterwards within the limit of streams.

What is proved:
  1. `sentAll_subscribeAll`: the plans of all intervals are sent in order, up to and with the first
     batch that fails (`SentAll`).
  2. `named_plans`: together they name each symbol once for each interval, and the requests that
     are handed to the line are the first of theirs (`texts_subscribeAll`).
  3. `stays_within_limit`: the longest beginning of the symbols that fits is kept, the requests name
     no more streams than the limit, and no answers of the exchange make more of them active.
-/

namespace CandleRelay.Feed

/-! ## Groups -/

theorem flatten_inGroups {α : Type} (size : Nat) (l : List α) : (inGroups size l).flatten = l := by
  fun_induction inGroups size l with
  | case1 => rfl
  | case2 a rest ih =>
    rw [List.flatten_cons, ih, List.cons_append, List.take_append_drop]

theorem inGroups_eq_nil_iff {α : Type} {size : Nat} {l : List α} :
    inGroups size l = [] ↔ l = [] := by
  cases l <;> simp [inGroups]

/-! ## The plans of all intervals -/

/-- The batches of a plan. -/
def batchesOf (symbols : List Symbol) (interval : Interval) (size : Nat) (firstId : UInt64) :
    List Batch :=
  (inGroups size symbols).mapIdx fun index group =>
    ⟨firstId + index.toUInt64, index, interval, group⟩

theorem plan_eq {size : Nat} (hsize : size ≠ 0) (symbols : List Symbol) (interval : Interval)
    (firstId : UInt64) :
    plan symbols interval size firstId = .ok (batchesOf symbols interval size firstId) := by
  rw [plan, if_neg hsize, batchesOf]

theorem groups_batchesOf (symbols : List Symbol) (interval : Interval) (size : Nat)
    (firstId : UInt64) :
    (batchesOf symbols interval size firstId).map (·.symbols) = inGroups size symbols := by
  refine List.ext_getElem? fun i => ?_
  simp [batchesOf, Function.comp_def]

theorem symbols_batchesOf (symbols : List Symbol) (interval : Interval) (size : Nat)
    (firstId : UInt64) :
    (batchesOf symbols interval size firstId).flatMap (·.symbols) = symbols := by
  rw [List.flatMap_def, groups_batchesOf, flatten_inGroups]

theorem interval_of_mem_batchesOf {symbols : List Symbol} {interval : Interval} {size : Nat}
    {firstId : UInt64} {b : Batch} (hb : b ∈ batchesOf symbols interval size firstId) :
    b.interval = interval := by
  obtain ⟨i, hi, rfl⟩ := List.mem_mapIdx.1 hb
  rfl

theorem batchesOf_eq_nil_iff {symbols : List Symbol} {interval : Interval} {size : Nat}
    {firstId : UInt64} : batchesOf symbols interval size firstId = [] ↔ symbols = [] := by
  rw [batchesOf, List.mapIdx_eq_nil_iff, inGroups_eq_nil_iff]

/-- The plans for some intervals, with request ids from `firstId` on. -/
def plans (symbols : List Symbol) (size : Nat) : (firstId : UInt64) → List Interval →
    List (List Batch)
  | _, [] => []
  | firstId, i :: rest =>
    batchesOf symbols i size firstId ::
      plans symbols size (firstId + (batchesOf symbols i size firstId).length.toUInt64) rest

/-- Together the plans hold every symbol once for each interval. -/
theorem symbols_plans (symbols : List Symbol) (size : Nat) (firstId : UInt64)
    (intervals : List Interval) :
    ((plans symbols size firstId intervals).flatten.map (·.symbols.length)).sum =
      symbols.length * intervals.length := by
  induction intervals generalizing firstId with
  | nil => rfl
  | cons i rest ih =>
    have hfirst : ((batchesOf symbols i size firstId).map (·.symbols.length)).sum =
        symbols.length := by
      rw [← List.length_flatMap, symbols_batchesOf]
    rw [plans, List.flatten_cons, List.map_append, List.sum_append, hfirst, ih, List.length_cons,
      Nat.mul_succ, Nat.add_comm]

theorem plans_nil (size : Nat) (firstId : UInt64) (intervals : List Interval) :
    (plans [] size firstId intervals).flatten = [] := by
  induction intervals generalizing firstId with
  | nil => rfl
  | cons i rest ih =>
    rw [plans, List.flatten_cons, batchesOf_eq_nil_iff.2 rfl]
    exact ih _

/-! ## What is sent -/

/-- How sending answers: with a report if nothing is left, and otherwise with the batch that failed.
-/
def answerOf (c : Client) (sent : List Batch) (report : Report) :
    List Batch → Except SubscriptionError Report → Prop
  | [], answer => answer = .ok ⟨report.batches + sent.length,
      report.streams + (sent.map (·.symbols.length)).sum⟩
  | b :: _, answer => ∃ e, c.line.sendError (c.line.attempts.length + sent.length) = some e ∧
      answer = .error (.ofBatch b e.message)

/-- Some batches are sent in order. Those in `sent` went out and are in the ledger; of `rest` only
the first was tried, failed, and is reported. `report` counts what was sent before. -/
structure SentAll (c : Client) (sent rest : List Batch) (report : Report)
    (r : Except SubscriptionError Report × Client) : Prop where
  handed : Handed (sent.map (⟨·, true⟩) ++ rest.head?.toList.map (⟨·, false⟩)) c r.2
  ledger : r.2.ledger = sent.foldl Ledger.record c.ledger
  answer : answerOf c sent report rest r.1

theorem SentUpTo.sentAll {c : Client} {id : UInt64} {sent rest : List Batch} {report : Report}
    {r : Except SubscriptionError Report × Client}
    (h : SentUpTo { c with nextId := id } sent rest report r) : SentAll c sent rest report r := by
  refine ⟨⟨h.handed.attempts, h.handed.sendError, h.handed.counted⟩, h.ledger, ?_⟩
  have hanswer := h.answer
  cases rest <;> exact hanswer

theorem Handed.length_attempts {ss : List Sending} {c c' : Client} (h : Handed ss c c') :
    c'.line.attempts.length = c.line.attempts.length + ss.length := by
  have hlength := congrArg List.length h.attempts
  simpa using hlength

namespace SentAll

variable {c c' c'' : Client} {sent more rest : List Batch} {report report' : Report}
  {r : Except SubscriptionError Report × Client}

theorem nil (c : Client) (report : Report) : SentAll c [] [] report (.ok report, c) :=
  ⟨Handed.refl c, rfl, rfl⟩

theorem of_ok {r : Report} (h : SentAll c sent rest {} (.ok r, c')) (report : Report) :
    rest = [] ∧ SentAll c sent [] report (.ok (report.add r), c') := by
  have hanswer := h.answer
  cases rest with
  | nil =>
    have hr := Except.ok.inj hanswer
    exact ⟨rfl, h.handed, h.ledger, by simp [answerOf, Report.add, hr]⟩
  | cons b later =>
    obtain ⟨e, -, hanswer⟩ := hanswer
    simp at hanswer

/-- After an error something is left, whatever would have come later, and what was reported of
earlier batches does not matter. -/
theorem of_error {e : SubscriptionError} (h : SentAll c sent rest {} (.error e, c'))
    (report : Report) (later : List Batch) :
    SentAll c sent (rest ++ later) report (.error e, c') := by
  have hanswer := h.answer
  cases rest with
  | nil => simp [answerOf] at hanswer
  | cons b more => exact ⟨h.handed, h.ledger, hanswer⟩

theorem append (h : SentAll c sent [] report (.ok report', c'))
    (h' : SentAll c' more rest report' r) : SentAll c (sent ++ more) rest report r := by
  have hhanded : Handed (sent.map (⟨·, true⟩)) c c' := by simpa using h.handed
  refine ⟨?_, ?_, ?_⟩
  · rw [List.map_append, List.append_assoc]
    exact hhanded.trans h'.handed
  · rw [h'.ledger, h.ledger, List.foldl_append]
  · have hreport : report' = ⟨report.batches + sent.length,
        report.streams + (sent.map (·.symbols.length)).sum⟩ := Except.ok.inj h.answer
    have hanswer := h'.answer
    cases rest with
    | nil =>
      simp only [answerOf, hreport] at hanswer ⊢
      rw [hanswer, List.length_append, List.map_append, List.sum_append, Nat.add_assoc,
        Nat.add_assoc]
    | cons b later =>
      obtain ⟨e, he, hanswer⟩ := hanswer
      refine ⟨e, ?_, hanswer⟩
      rw [hhanded.sendError, hhanded.length_attempts, List.length_map, Nat.add_assoc] at he
      rwa [List.length_append]

theorem wait {delay : Nat} (h : SentAll { c with line := c.line.wait delay } sent rest report r) :
    SentAll c sent rest report r := by
  refine ⟨⟨h.handed.attempts, h.handed.sendError, h.handed.counted⟩, h.ledger, ?_⟩
  have hanswer := h.answer
  cases rest <;> exact hanswer

end SentAll

namespace Client

variable {symbols : List Symbol} {size delay : Nat}

theorem sentAll_subscribe (c : Client) (symbols : List Symbol) (i : Interval) (hdelay : delay ≠ 0)
    (hsize : size ≠ 0) :
    ∃ sent rest, batchesOf symbols i size c.nextId = sent ++ rest ∧
      (c.subscribe symbols i size delay).2.nextId =
        c.nextId + (batchesOf symbols i size c.nextId).length.toUInt64 ∧
      SentAll c sent rest {} (c.subscribe symbols i size delay) := by
  obtain ⟨sent, rest, hplan, -, hsent⟩ := c.sentUpTo_subscribe symbols i size delay hdelay hsize
  rw [plan_eq hsize] at hplan
  have hplan := Except.ok.inj hplan
  exact ⟨sent, rest, hplan, by rw [hsent.nextId, hplan], hsent.sentAll⟩

theorem sentAll_cons (c : Client) (symbols : List Symbol) (i : Interval) (rest : List Interval)
    (hdelay : delay ≠ 0) (hsize : size ≠ 0) (report : Report)
    (ih : ∀ (c : Client) (report : Report), ∃ sent unsent,
      (plans symbols size c.nextId rest).flatten = sent ++ unsent ∧
        SentAll c sent unsent report (c.subscribeRest symbols size delay report rest)) :
    ∃ sent unsent, (plans symbols size c.nextId (i :: rest)).flatten = sent ++ unsent ∧
      SentAll c sent unsent report
        (match c.subscribe symbols i size delay with
          | (.error e, c) => (.error e, c)
          | (.ok r, c) => c.subscribeRest symbols size delay (report.add r) rest) := by
  obtain ⟨sent, unsent, hplan, hnext, hfirst⟩ := c.sentAll_subscribe symbols i hdelay hsize
  rw [plans, List.flatten_cons, ← hnext, hplan]
  cases hresult : c.subscribe symbols i size delay with
  | mk answer c' =>
    rw [hresult] at hfirst
    cases answer with
    | ok r =>
      obtain ⟨rfl, hall⟩ := hfirst.of_ok report
      obtain ⟨more, unsent, hplans, hmore⟩ := ih c' (report.add r)
      refine ⟨sent ++ more, unsent, ?_, hall.append hmore⟩
      rw [hplans, List.append_nil, List.append_assoc]
    | error e => exact ⟨sent, _, List.append_assoc .., hfirst.of_error report _⟩

theorem sentAll_subscribeRest (hdelay : delay ≠ 0) (hsize : size ≠ 0) (intervals : List Interval)
    (c : Client) (report : Report) :
    ∃ sent unsent, (plans symbols size c.nextId intervals).flatten = sent ++ unsent ∧
      SentAll c sent unsent report (c.subscribeRest symbols size delay report intervals) := by
  induction intervals generalizing c report with
  | nil => exact ⟨[], [], rfl, SentAll.nil c report⟩
  | cons i rest ih =>
    obtain ⟨sent, unsent, hplans, hsent⟩ := sentAll_cons { c with line := c.line.wait delay }
      symbols i rest hdelay hsize report ih
    exact ⟨sent, unsent, hplans, hsent.wait⟩

/-- Asking for all intervals sends their plans in order, up to the first batch that fails. -/
theorem sentAll_subscribeAll (symbols : List Symbol) (hdelay : delay ≠ 0) (hsize : size ≠ 0)
    (intervals : List Interval) (c : Client) :
    ∃ sent unsent, (plans symbols size c.nextId intervals).flatten = sent ++ unsent ∧
      SentAll c sent unsent {} (c.subscribeAll symbols size delay intervals) := by
  cases intervals with
  | nil => exact ⟨[], [], rfl, SentAll.nil c {}⟩
  | cons i rest =>
    have hcons := c.sentAll_cons symbols i rest hdelay hsize {}
      (sentAll_subscribeRest hdelay hsize rest)
    have hadd : ∀ r : Report, ({} : Report).add r = r := fun r => by simp [Report.add]
    simp only [hadd] at hcons
    exact hcons

end Client

/-! ## What is asked for -/

/-- The attempts of a line since it was another one. -/
def Line.attemptsSince (l before : Line) : List Attempt := l.attempts.drop before.attempts.length

theorem Handed.outcomes {ss : List Sending} {c c' : Client} (h : Handed ss c c') :
    (c'.line.attemptsSince c.line).map Attempt.outcome = ss.map Sending.outcome := by
  rw [Line.attemptsSince, List.map_drop, h.attempts]
  exact List.drop_left' (List.length_map _)

theorem Handed.texts {ss : List Sending} {c c' : Client} (h : Handed ss c c') :
    (c'.line.attemptsSince c.line).map (·.text) = ss.map (·.batch.request) := by
  have htexts := congrArg (List.map Prod.fst) h.outcomes
  simpa [Function.comp_def, Attempt.outcome, Sending.outcome] using htexts

/-- How many streams some batches name. -/
def named (bs : List Batch) : Nat := (bs.map (·.params.length)).sum

theorem named_eq (bs : List Batch) : named bs = (bs.map (·.symbols.length)).sum := by
  simp [named, Batch.params]

theorem named_le_of_prefix {bs more : List Batch} (h : bs <+: more) : named bs ≤ named more := by
  obtain ⟨later, rfl⟩ := h
  rw [named, named, List.map_append, List.sum_append]
  exact Nat.le_add_right ..

theorem named_plans (symbols : List Symbol) (size : Nat) (firstId : UInt64)
    (intervals : List Interval) :
    named (plans symbols size firstId intervals).flatten = symbols.length * intervals.length := by
  rw [named_eq, symbols_plans]

namespace SentAll

variable {c : Client} {sent rest : List Batch} {report : Report}
  {r : Except SubscriptionError Report × Client}

theorem texts (h : SentAll c sent rest report r) :
    (r.2.line.attemptsSince c.line).map (·.text) =
      ((sent ++ rest).take (r.2.line.attemptsSince c.line).length).map (·.request) := by
  have htexts := h.handed.texts
  have hlength := congrArg List.length htexts
  simp only [List.length_map, List.length_append] at hlength
  rw [htexts, hlength]
  cases rest with
  | nil => simp [Function.comp_def]
  | cons b later =>
    rw [List.take_append, Nat.add_sub_cancel_left, List.take_of_length_le (Nat.le_add_right ..)]
    simp [Function.comp_def]

end SentAll

theorem Client.subscribeAll_refused (c : Client) (symbols : List Symbol) {size delay : Nat}
    (h : delay = 0 ∨ size = 0) (intervals : List Interval) :
    (c.subscribeAll symbols size delay intervals).2 = c := by
  cases intervals with
  | nil => rfl
  | cons i rest =>
    by_cases hdelay : delay = 0
    · simp [subscribeAll, subscribe, hdelay]
    · have hsize : size = 0 := h.resolve_left hdelay
      simp [subscribeAll, subscribe, plan, hdelay, hsize]

/-- What asking for all intervals hands to the line are the first batches of their plans. -/
theorem texts_subscribeAll (c : Client) (symbols : List Symbol) (size delay : Nat)
    (intervals : List Interval) :
    ((c.subscribeAll symbols size delay intervals).2.line.attemptsSince c.line).map (·.text) =
      ((plans symbols size c.nextId intervals).flatten.take
        ((c.subscribeAll symbols size delay intervals).2.line.attemptsSince c.line).length).map
          (·.request) := by
  by_cases hok : delay = 0 ∨ size = 0
  · rw [c.subscribeAll_refused symbols hok, Line.attemptsSince, List.drop_length]
    rfl
  · rw [not_or] at hok
    obtain ⟨sent, rest, hplans, hsent⟩ :=
      Client.sentAll_subscribeAll symbols hok.1 hok.2 intervals c
    rw [hplans]
    exact hsent.texts

/-! ## The ledger -/

namespace Ledger

theorem named_record (l : Ledger) (b : Batch) :
    named (l.record b).batches ≤ named l.batches + named [b] := by
  have hkept : ((l.entries.filter (·.batch.id != b.id)).map (·.batch)).Sublist l.batches :=
    List.filter_sublist.map _
  have hle := (hkept.map (·.params.length)).sum_le_sum (fun _ _ => Nat.zero_le _)
  simp only [named, record, batches, List.map_cons, List.sum_cons, List.map_nil, List.sum_nil]
    at hle ⊢
  omega

theorem named_foldl_record (bs : List Batch) (l : Ledger) :
    named (bs.foldl record l).batches ≤ named l.batches + named bs := by
  induction bs generalizing l with
  | nil => exact Nat.le_refl _
  | cons b bs ih =>
    have hrest := ih (l.record b)
    have hfirst := l.named_record b
    have hcons : named (b :: bs) = named [b] + named bs := by simp [named]
    rw [List.foldl_cons, hcons]
    omega

theorem activeStreams_le (l : Ledger) : l.activeStreams ≤ named l.batches := by
  have hactive : ((l.entries.filter (·.status == .active)).map (·.batch.symbols.length)).Sublist
      (l.entries.map (·.batch.symbols.length)) := List.filter_sublist.map _
  have hle := hactive.sum_le_sum fun _ _ => Nat.zero_le _
  rw [activeStreams, ← List.sum_eq_foldl, named_eq, batches, List.map_map]
  exact hle

end Ledger

/-- What is in the ledger has been asked for. -/
theorem named_subscribeAll (c : Client) (symbols : List Symbol) (size delay : Nat)
    (intervals : List Interval) :
    named (c.subscribeAll symbols size delay intervals).2.ledger.batches ≤
      named c.ledger.batches + symbols.length * intervals.length := by
  by_cases hok : delay = 0 ∨ size = 0
  · rw [c.subscribeAll_refused symbols hok]
    exact Nat.le_add_right ..
  · rw [not_or] at hok
    obtain ⟨sent, rest, hplans, hsent⟩ :=
      Client.sentAll_subscribeAll symbols hok.1 hok.2 intervals c
    rw [hsent.ledger, ← named_plans symbols size c.nextId intervals, hplans]
    refine Nat.le_trans (Ledger.named_foldl_record sent c.ledger) (Nat.add_le_add_left ?_ _)
    exact named_le_of_prefix (List.prefix_append sent rest)

/-! ## Within the limit -/

/-- The symbols that are kept are the longest beginning that fits the limit. -/
theorem fitStreams_longest (symbols : List Symbol) {intervals : Nat} (maxStreams : Nat)
    (hsome : intervals ≠ 0) :
    fitStreams symbols intervals maxStreams <+: symbols ∧
      (fitStreams symbols intervals maxStreams).length * intervals ≤ maxStreams ∧
      ∀ p, p <+: symbols → p.length * intervals ≤ maxStreams →
        p <+: fitStreams symbols intervals maxStreams := by
  have hmax : max intervals 1 = intervals := Nat.max_eq_left (Nat.pos_of_ne_zero hsome)
  rw [fitStreams, hmax]
  refine ⟨List.take_prefix _ _, ?_, ?_⟩
  · calc (symbols.take (maxStreams / intervals)).length * intervals
        ≤ maxStreams / intervals * intervals := Nat.mul_le_mul_right _ (List.length_take_le _ _)
      _ ≤ maxStreams := Nat.div_mul_le_self _ _
  · intro p hp hfits
    have hle : p.length ≤ maxStreams / intervals :=
      (Nat.le_div_iff_mul_le (Nat.pos_of_ne_zero hsome)).2 hfits
    rw [List.prefix_iff_eq_take.1 hp]
    exact List.take_prefix_take_left hle

/-- A client that has read some scripts. -/
def Client.afterReading (c : Client) (scripts : List (Bool × List Turn)) : Client :=
  scripts.foldl (fun c t => (c.read t.1 t.2).2.1) c

theorem batches_afterReading (scripts : List (Bool × List Turn)) (c : Client) :
    (c.afterReading scripts).ledger.batches = c.ledger.batches := by
  induction scripts generalizing c with
  | nil => rfl
  | cons t scripts ih => exact (ih _).trans (unasked_read c t.1 t.2).batches

/-- A new client that asks for the longest beginning of the symbols that fits stays within the limit
of streams: whichever sends fail, its requests name no more than that many streams, and whatever
the exchange answers afterwards, no more of them are active. -/
theorem stays_within_limit (o : Outbox) (line : Line) (symbols : List Symbol)
    (intervals : List Interval) (size delay maxStreams : Nat) (hsome : intervals ≠ []) :
    let fit := fitStreams symbols intervals.length maxStreams
    let c := ((Client.fresh o line).subscribeAll fit size delay intervals).2
    let asked := (plans fit size 1 intervals).flatten.take (c.line.attemptsSince line).length
    (fit <+: symbols ∧ fit.length * intervals.length ≤ maxStreams ∧
      ∀ p, p <+: symbols → p.length * intervals.length ≤ maxStreams → p <+: fit) ∧
    ((c.line.attemptsSince line).map (·.text) = asked.map (·.request) ∧
      (asked.map (·.params.length)).sum ≤ maxStreams) ∧
    ∀ scripts, (c.afterReading scripts).ledger.activeStreams ≤ maxStreams := by
  intro fit c asked
  have hfit := fitStreams_longest symbols maxStreams (mt List.length_eq_zero_iff.1 hsome)
  refine ⟨hfit, ⟨texts_subscribeAll (Client.fresh o line) fit size delay intervals, ?_⟩, ?_⟩
  · calc named asked ≤ named (plans fit size 1 intervals).flatten :=
          named_le_of_prefix (List.take_prefix _ _)
      _ = fit.length * intervals.length := named_plans fit size 1 intervals
      _ ≤ maxStreams := hfit.2.1
  · intro scripts
    calc (c.afterReading scripts).ledger.activeStreams
        ≤ named (c.afterReading scripts).ledger.batches := Ledger.activeStreams_le _
      _ = named c.ledger.batches := by rw [batches_afterReading]
      _ ≤ named ({} : Ledger).batches + fit.length * intervals.length :=
          named_subscribeAll (Client.fresh o line) fit size delay intervals
      _ = fit.length * intervals.length := Nat.zero_add _
      _ ≤ maxStreams := hfit.2.1

/-- Of three symbols two fit five streams on two intervals. The third of four requests fails, and
an answer makes the streams of the first active. -/
theorem two_of_three_symbols_fit :
    let symbols := ["BTCUSDT", "ETHUSDT", "BNBUSDT"].filterMap Symbol.ofString?
    let line : Line := { sendError := fun n => if n = 2 then some .timeout else none }
    let ack := Text.Utf8.encode "\x7b\"result\":null,\"id\":1\x7d"
    let fit := fitStreams symbols 2 5
    let c := ((Client.fresh {} line).subscribeAll fit 1 5 [.sec1, .min1]).2
    let asked := (plans fit 1 1 [.sec1, .min1]).flatten.take 3
    let answered := c.afterReading [(false, [⟨false, .text ack, true⟩])]
    [Interval.sec1, .min1] ≠ [] ∧ fit = symbols.take 2 ∧ fit.length * 2 ≤ 5 ∧
      c.line.attempts.map (·.ok) = [true, true, false] ∧
      (c.line.attemptsSince line).map (·.text) = asked.map (·.request) ∧
      (asked.map (·.params.length)).sum ≤ 5 ∧
      answered.ledger.activeStreams = 1 ∧ answered.ledger.activeStreams ≤ 5 := by
  intro symbols line ack fit c asked answered
  have hsome : [Interval.sec1, .min1] ≠ [] := by decide
  have hfit : fit = symbols.take 2 := rfl
  have hattempts : c.line.attempts.map (·.ok) = [true, true, false] := by decide +kernel
  have hactive : answered.ledger.activeStreams = 1 := by decide +kernel
  have hsince : (c.line.attemptsSince line).length = 3 := by decide +kernel
  obtain ⟨⟨-, hfits, -⟩, ⟨htexts, hnamed⟩, hlater⟩ :=
    stays_within_limit {} line symbols [.sec1, .min1] 1 5 5 hsome
  change (c.line.attemptsSince line).map (·.text) = ((plans fit 1 1 [.sec1, .min1]).flatten.take
    (c.line.attemptsSince line).length).map (·.request) at htexts
  change ((((plans fit 1 1 [.sec1, .min1]).flatten.take (c.line.attemptsSince line).length).map
    (·.params.length)).sum ≤ 5) at hnamed
  rw [hsince] at htexts hnamed
  exact ⟨hsome, hfit, hfits, hattempts, htexts, hnamed, hactive, hlater _⟩

end CandleRelay.Feed
