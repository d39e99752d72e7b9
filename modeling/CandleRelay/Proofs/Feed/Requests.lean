import CandleRelay.Proofs.Feed.Reading
import Mathlib.Algebra.GroupWithZero.Nat
import Mathlib.Data.List.Nodup

/-!
# Request ids and the ledger

A client takes the ids of its requests from one counter and moves the counter past a whole plan
before it sends anything, so an id is spent even if its batch never goes out. The ledger keeps its
entries by id and lets a later one take the place of an earlier one. That this never happens is
what the ids are for: as long as the counter does not wrap, ids only grow (`Numbered`), whatever
comes between the plans and whichever sends fail.

What is proved:
  1. `sentUpTo_subscribe`: one subscription sends its plan in order up to the first failure
     (`SentUpTo`), and one that is refused does nothing (`subscribe_refused`).
  2. `Numbered.apply`: every call keeps the ids growing and the ledger in step with what was sent;
     `Numbered.after` says so of any calls.
  3. `ids_never_reused`: what that means for the line, the ledger and the counter of batches.
-/

namespace CandleRelay.Feed

/-! ## The number in a request -/

/-- The number that ends a request, before the closing brace. -/
def requestNumber (text : String) : Nat :=
  Nat.ofDigitChars 10 (text.toList.reverse.tail.takeWhile Char.isDigit).reverse 0

theorem requestNumber_append (front before after : String) (n : Nat)
    (hbefore : before.toList = [',', '"', 'i', 'd', '"', ':']) (hafter : after.toList = ['\x7d']) :
    requestNumber (front ++ before ++ toString n ++ after) = n := by
  have hn : (toString n).toList = Nat.toDigits 10 n := String.toList_ofList
  have hdigits : ∀ ch ∈ (Nat.toDigits 10 n).reverse, ch.isDigit = true := by
    intro ch hch
    exact Nat.isDigit_of_mem_toDigits (by decide) (by decide) (List.mem_reverse.1 hch)
  simp only [requestNumber, String.toList_append, List.reverse_append, hbefore, hn, hafter,
    List.reverse_cons, List.reverse_nil, List.nil_append, List.cons_append, List.tail_cons]
  rw [List.takeWhile_append_of_pos hdigits, List.takeWhile_cons_of_neg (by decide),
    List.append_nil, List.reverse_reverse, Nat.ofDigitChars_toDigits (by decide) (by decide)]

theorem requestNumber_request (b : Batch) : requestNumber b.request = b.id.toNat :=
  requestNumber_append _ _ _ _ (by decide) (by decide)

/-! ## What a call hands to the line -/

/-- A batch that was handed to the line, and whether it went out. -/
structure Sending where
  batch : Batch
  ok : Bool
  deriving DecidableEq

/-- The text that was handed over, and whether it went out. -/
def Sending.outcome (s : Sending) : String × Bool := (s.batch.request, s.ok)

/-- The text of an attempt, and whether it went out. -/
def Attempt.outcome (a : Attempt) : String × Bool := (a.text, a.ok)

/-- The batches that went out. -/
def went (ss : List Sending) : List Batch := (ss.filter (·.ok)).map (·.batch)

/-- What becomes of a plan when `n` attempts have been made: it is handed over in order, up to and
with the first batch that fails. -/
def sendings (fails : Nat → Option LineError) (n : Nat) : List Batch → List Sending
  | [] => []
  | b :: rest =>
    match fails n with
    | some _ => [⟨b, false⟩]
    | none => ⟨b, true⟩ :: sendings fails (n + 1) rest

/-- A call on a client. -/
inductive Call where
  | subscribe (symbols : List Symbol) (interval : Interval) (size delay : Nat)
  | read (stopAtEnd : Bool) (script : List Turn)
  | close

namespace Call

/-- What the call does. -/
def apply (c : Client) : Call → Client
  | subscribe symbols interval size delay => (c.subscribe symbols interval size delay).2
  | read stopAtEnd script => (c.read stopAtEnd script).2.1
  | close => c.close.2

/-- How many batches the call plans, whether they go out or not. -/
def planned : Call → Nat
  | subscribe symbols _ size delay =>
    if delay = 0 ∨ size = 0 then 0 else (inGroups size symbols).length
  | _ => 0

/-- What the call hands to the line. -/
def hands (c : Client) : Call → List Sending
  | subscribe symbols interval size delay =>
    if delay = 0 then []
    else
      match plan symbols interval size c.nextId with
      | .ok batches => sendings c.line.sendError c.line.attempts.length batches
      | .error _ => []
  | _ => []

end Call

namespace Client

/-- A client that has done nothing yet. -/
def fresh (o : Outbox) (line : Line) : Client := { toOutbox := o, line := line }

/-- The client after some calls. -/
def after (c : Client) (calls : List Call) : Client := calls.foldl Call.apply c

/-- What some calls hand to the line. -/
def hands (c : Client) : List Call → List Sending
  | [] => []
  | q :: rest => q.hands c ++ (q.apply c).hands rest

end Client

/-- The batches in the ledger. -/
def Ledger.batches (l : Ledger) : List Batch := l.entries.map (·.batch)

theorem went_append (ss more : List Sending) : went (ss ++ more) = went ss ++ went more := by
  simp [went]

/-! ## One subscription -/

/-- What sending shows from outside: the attempts of the line and the count of batches sent. -/
structure Handed (ss : List Sending) (c c' : Client) : Prop where
  attempts : c'.line.attempts.map Attempt.outcome =
    c.line.attempts.map Attempt.outcome ++ ss.map Sending.outcome
  sendError : c'.line.sendError = c.line.sendError
  counted : c'.metrics.batchesSent = c.metrics.batchesSent + (went ss).length

theorem Handed.refl (c : Client) : Handed [] c c :=
  ⟨by simp, rfl, rfl⟩

theorem Handed.trans {ss more : List Sending} {c c' c'' : Client} (h : Handed ss c c')
    (h' : Handed more c' c'') : Handed (ss ++ more) c c'' where
  attempts := by rw [h'.attempts, h.attempts, List.map_append, List.append_assoc]
  sendError := h'.sendError.trans h.sendError
  counted := by rw [h'.counted, h.counted, went_append, List.length_append, Nat.add_assoc]

theorem length_sent (l : Line) :
    l.sent.length = ((l.attempts.map Attempt.outcome).filter (·.2)).length := by
  rw [List.filter_map, List.length_map]
  rfl

theorem Handed.length_sent {ss : List Sending} {c c' : Client} (h : Handed ss c c') :
    c'.line.sent.length = c.line.sent.length + (went ss).length := by
  have hwent : (went ss).length = ((ss.map Sending.outcome).filter (·.2)).length := by
    rw [went, List.filter_map, List.length_map, List.length_map]
    rfl
  calc c'.line.sent.length
      = ((c'.line.attempts.map Attempt.outcome).filter (·.2)).length := Feed.length_sent _
    _ = ((c.line.attempts.map Attempt.outcome).filter (·.2)).length +
          ((ss.map Sending.outcome).filter (·.2)).length := by
        rw [h.attempts, List.filter_append, List.length_append]
    _ = c.line.sent.length + (went ss).length := by rw [← Feed.length_sent, hwent]

theorem Handed.numbers {ss : List Sending} {c c' : Client} (h : Handed ss c c') :
    ((c'.line.attempts.drop c.line.attempts.length).map fun a => requestNumber a.text) =
      ss.map (·.batch.id.toNat) := by
  have hnew : (c'.line.attempts.drop c.line.attempts.length).map Attempt.outcome =
      ss.map Sending.outcome := by
    rw [List.map_drop, h.attempts]
    exact List.drop_left' (List.length_map _)
  have hnumbers := congrArg (List.map fun o : String × Bool => requestNumber o.1) hnew
  simpa [Function.comp_def, Attempt.outcome, Sending.outcome, requestNumber_request]
    using hnumbers

/-- What becomes of a plan `sent ++ rest`: `sent` went out and is in the ledger; of `rest` only the
first batch was tried, failed, and is reported. -/
structure SentUpTo (c : Client) (sent rest : List Batch) (report : Report)
    (r : Except SubscriptionError Report × Client) : Prop where
  handed : Handed (sent.map (⟨·, true⟩) ++ rest.head?.toList.map (⟨·, false⟩)) c r.2
  ledger : r.2.ledger = sent.foldl Ledger.record c.ledger
  nextId : r.2.nextId = c.nextId
  answer : match rest with
    | [] => r.1 = .ok ⟨report.batches + sent.length,
        report.streams + (sent.map (·.symbols.length)).sum⟩
    | b :: _ => ∃ e, c.line.sendError (c.line.attempts.length + sent.length) = some e ∧
        r.1 = .error (.ofBatch b e.message)

namespace Client

variable {c : Client} {b : Batch}

theorem sendBatch_of_some {e : LineError} (h : c.line.sendError c.line.attempts.length = some e) :
    ∃ c', c.sendBatch b = (.error (.ofBatch b e.message), c') ∧ Handed [⟨b, false⟩] c c' ∧
      c'.ledger = c.ledger ∧ c'.nextId = c.nextId := by
  refine ⟨{ c with line := (c.line.send b.request).2 }, ?_, ?_, rfl, rfl⟩
  · simp [sendBatch, Line.send, h]
  · constructor <;> simp [Line.send, h, Attempt.outcome, Sending.outcome, went]

theorem sendBatch_of_none (h : c.line.sendError c.line.attempts.length = none) :
    ∃ c', c.sendBatch b = (.ok (), c') ∧ Handed [⟨b, true⟩] c c' ∧
      c'.ledger = c.ledger.record b ∧ c'.nextId = c.nextId ∧
      c'.line.attempts.length = c.line.attempts.length + 1 := by
  refine ⟨{ c with
    line := (c.line.send b.request).2
    ledger := c.ledger.record b
    metrics := c.metrics.bump .batchesSent }, ?_, ?_, rfl, rfl, ?_⟩
  · simp [sendBatch, Line.send, h]
  · constructor <;>
      simp [Line.send, h, Attempt.outcome, Sending.outcome, went, Metrics.bump]
  · simp [Line.send, h]

/-- The client when the delay before a batch is over; the first batch is not waited for. -/
def paced (c : Client) (delay : Nat) (report : Report) : Client :=
  if report.batches > 0 then { c with line := c.line.wait delay } else c

theorem paced_same (c : Client) (delay : Nat) (report : Report) :
    (c.paced delay report).line.attempts = c.line.attempts ∧
      (c.paced delay report).line.sendError = c.line.sendError ∧
      (c.paced delay report).ledger = c.ledger ∧
      (c.paced delay report).nextId = c.nextId ∧
      (c.paced delay report).metrics = c.metrics := by
  unfold paced
  split <;> exact ⟨rfl, rfl, rfl, rfl, rfl⟩

theorem sendAll_cons (c : Client) (delay : Nat) (report : Report) (b : Batch) (rest : List Batch) :
    c.sendAll delay report (b :: rest) =
      match (c.paced delay report).sendBatch b with
      | (.error e, c') => (.error e, c')
      | (.ok _, c') =>
        c'.sendAll delay ⟨report.batches + 1, report.streams + b.symbols.length⟩ rest :=
  rfl

/-- Sending goes on up to the first batch that fails. -/
theorem sentUpTo_sendAll (delay : Nat) (batches : List Batch) (c : Client) (report : Report) :
    ∃ sent rest, batches = sent ++ rest ∧
      sendings c.line.sendError c.line.attempts.length batches =
        sent.map (⟨·, true⟩) ++ rest.head?.toList.map (⟨·, false⟩) ∧
      SentUpTo c sent rest report (c.sendAll delay report batches) := by
  induction batches generalizing c report with
  | nil => exact ⟨[], [], rfl, rfl, Handed.refl c, rfl, rfl, rfl⟩
  | cons b batches ih =>
    obtain ⟨hattempts, herror, hledger, hnext, hmetrics⟩ := c.paced_same delay report
    have hpaced : Handed [] c (c.paced delay report) :=
      ⟨by rw [hattempts]; simp, herror, by rw [hmetrics]; rfl⟩
    cases h : c.line.sendError c.line.attempts.length with
    | some e =>
      obtain ⟨c', hsend, hhanded, hledger', hnext'⟩ :=
        (c.paced delay report).sendBatch_of_some (b := b) (by rw [herror, hattempts]; exact h)
      refine ⟨[], b :: batches, rfl, by simp [sendings, h], ?_⟩
      rw [sendAll_cons, hsend]
      exact ⟨hpaced.trans hhanded, hledger'.trans hledger, hnext'.trans hnext, e, h, rfl⟩
    | none =>
      obtain ⟨c', hsend, hhanded, hledger', hnext', hlength⟩ :=
        (c.paced delay report).sendBatch_of_none (b := b) (by rw [herror, hattempts]; exact h)
      have hstep := hpaced.trans hhanded
      rw [hattempts] at hlength
      obtain ⟨sent, rest, hsplit, hsendings, hsent⟩ :=
        ih c' ⟨report.batches + 1, report.streams + b.symbols.length⟩
      rw [hstep.sendError, hlength] at hsendings
      refine ⟨b :: sent, rest, by rw [hsplit]; rfl, by simp [sendings, h, hsendings], ?_⟩
      rw [sendAll_cons, hsend]
      refine ⟨hstep.trans hsent.handed, ?_, ?_, ?_⟩
      · rw [hsent.ledger, hledger', hledger]
        rfl
      · rw [hsent.nextId, hnext', hnext]
      · have hanswer := hsent.answer
        cases rest with
        | nil =>
          simp only [List.length_cons, List.map_cons, List.sum_cons] at hanswer ⊢
          rw [hanswer, Nat.add_assoc, Nat.add_comm 1, Nat.add_assoc]
        | cons b' later =>
          obtain ⟨e, he, hresult⟩ := hanswer
          rw [hstep.sendError, hlength, Nat.add_assoc, Nat.add_comm 1] at he
          exact ⟨e, he, hresult⟩

end Client

theorem went_upTo (sent rest : List Batch) :
    went (sent.map (⟨·, true⟩) ++ rest.head?.toList.map (⟨·, false⟩)) = sent := by
  cases rest <;> simp [went, List.filter_map, Function.comp_def]

theorem toNat_add_index {firstId : UInt64} {i count : Nat} (hi : i < count)
    (hfits : firstId.toNat + count ≤ UInt64.size) :
    (firstId + i.toUInt64).toNat = firstId.toNat + i := by
  have hsmall : i < UInt64.size := by omega
  have hindex : i.toUInt64.toNat = i := UInt64.toNat_ofNat_of_lt' hsmall
  rw [UInt64.toNat_add, hindex, Nat.mod_eq_of_lt]
  exact Nat.lt_of_lt_of_le (Nat.add_lt_add_left hi _) hfits

theorem ids_plan (symbols : List Symbol) (interval : Interval) {size : Nat} {firstId : UInt64}
    (hsize : size ≠ 0) (hfits : firstId.toNat + (inGroups size symbols).length ≤ UInt64.size) :
    ∃ batches, plan symbols interval size firstId = .ok batches ∧
      batches.length = (inGroups size symbols).length ∧
      (batches.map (·.id.toNat)).Pairwise (· < ·) ∧
      ∀ b ∈ batches, firstId.toNat ≤ b.id.toNat ∧ b.id.toNat < firstId.toNat + batches.length := by
  obtain ⟨batches, hplan, hlength, hids⟩ :
      ∃ batches, plan symbols interval size firstId = .ok batches ∧
        batches.length = (inGroups size symbols).length ∧
        batches.map (·.id.toNat) = (List.range batches.length).map (firstId.toNat + ·) := by
    refine ⟨_, by rw [plan, if_neg hsize], by simp, ?_⟩
    refine List.ext_getElem (by simp) fun i hi _ => ?_
    have hi : i < (inGroups size symbols).length := by simpa using hi
    simp [toNat_add_index hi hfits]
  refine ⟨batches, hplan, hlength, ?_, fun b hb => ?_⟩
  · rw [hids]
    refine List.pairwise_map.2 (List.pairwise_lt_range.imp fun h => ?_)
    exact Nat.add_lt_add_left h _
  · have hmem : b.id.toNat ∈ batches.map (·.id.toNat) := List.mem_map_of_mem hb
    rw [hids] at hmem
    obtain ⟨i, hi, hid⟩ := List.mem_map.1 hmem
    have hi := List.mem_range.1 hi
    omega

namespace Client

variable (c : Client) (symbols : List Symbol) (interval : Interval) (size delay : Nat)

/-- A subscription that is not refused sends its plan, with the counter moved past all of it. -/
theorem sentUpTo_subscribe (hdelay : delay ≠ 0) (hsize : size ≠ 0) :
    ∃ sent rest, plan symbols interval size c.nextId = .ok (sent ++ rest) ∧
      (Call.subscribe symbols interval size delay).hands c =
        sent.map (⟨·, true⟩) ++ rest.head?.toList.map (⟨·, false⟩) ∧
      SentUpTo { c with nextId := c.nextId + (sent ++ rest).length.toUInt64 } sent rest {}
        (c.subscribe symbols interval size delay) := by
  obtain ⟨batches, hplan⟩ : ∃ batches, plan symbols interval size c.nextId = .ok batches :=
    ⟨_, by rw [plan, if_neg hsize]⟩
  obtain ⟨sent, rest, hsplit, hsendings, hsent⟩ := sentUpTo_sendAll delay batches
    { c with nextId := c.nextId + batches.length.toUInt64 } {}
  refine ⟨sent, rest, by rw [hplan, hsplit], ?_, ?_⟩
  · simp only [Call.hands, if_neg hdelay, hplan]
    exact hsendings
  · rw [← hsplit]
    simp only [subscribe, if_neg hdelay, hplan]
    exact hsent

theorem subscribe_refused
    (h : (c.subscribe symbols interval size delay).1 = .error .invalidDelay ∨
      (c.subscribe symbols interval size delay).1 = .error .invalidBatchSize) :
    (c.subscribe symbols interval size delay).2 = c := by
  by_cases hdelay : delay = 0
  · rw [subscribe, if_pos hdelay]
  · by_cases hsize : size = 0
    · rw [subscribe, if_neg hdelay, plan, if_pos hsize]
    · obtain ⟨sent, rest, -, -, hsent⟩ :=
        c.sentUpTo_subscribe symbols interval size delay hdelay hsize
      have hanswer := hsent.answer
      -- What is not refused ends with a report or with the batch that failed.
      cases rest with
      | nil =>
        simp only at hanswer
        simp [hanswer] at h
      | cons b later =>
        obtain ⟨e, -, hanswer⟩ := hanswer
        simp [hanswer, SubscriptionError.ofBatch] at h

end Client

/-! ## The ledger -/

namespace Ledger

variable {l : Ledger} {b : Batch}

theorem batches_settle (l : Ledger) (id : UInt64) (status : BatchStatus) :
    (l.settle id status).2.batches = l.batches := by
  simp only [batches, settle, List.map_map]
  refine List.map_congr_left fun e _ => ?_
  show (if e.batch.id == id then { e with status } else e).batch = e.batch
  split <;> rfl

theorem batches_answered (answers : List (UInt64 × BatchStatus)) (l : Ledger) :
    (answers.foldl answered l).batches = l.batches := by
  induction answers generalizing l with
  | nil => rfl
  | cons a answers ih => rw [List.foldl_cons, ih, answered, batches_settle]

theorem batches_record (h : ∀ x ∈ l.batches, x.id ≠ b.id) :
    (l.record b).batches = b :: l.batches := by
  have hkept : l.entries.filter (·.batch.id != b.id) = l.entries := by
    refine List.filter_eq_self.2 fun e he => ?_
    simpa using h e.batch (List.mem_map_of_mem he)
  simp [batches, record, hkept]

theorem perm_batches_record {bs : List Batch} (hnew : ∀ b ∈ bs, ∀ x ∈ l.batches, x.id ≠ b.id)
    (hdistinct : (bs.map (·.id)).Nodup) :
    (bs.foldl record l).batches.Perm (l.batches ++ bs) := by
  induction bs generalizing l with
  | nil => simp
  | cons b bs ih =>
    obtain ⟨hfirst, hrest⟩ := List.nodup_cons.1 hdistinct
    have hrecord := batches_record (hnew b List.mem_cons_self)
    have hlater : ∀ b' ∈ bs, ∀ x ∈ (l.record b).batches, x.id ≠ b'.id := by
      intro b' hb' x hx
      rw [hrecord] at hx
      rcases List.mem_cons.1 hx with rfl | hx
      · intro hid
        exact hfirst (List.mem_map.2 ⟨b', hb', hid.symm⟩)
      · exact hnew b' (List.mem_cons_of_mem b hb') x hx
    have hperm := ih hlater hrest
    rw [hrecord, List.cons_append] at hperm
    exact hperm.trans List.perm_middle.symm

theorem find?_of_mem (hdistinct : (l.batches.map (·.id)).Nodup) {e : LedgerEntry}
    (he : e ∈ l.entries) : l.find? e.batch.id = some e := by
  obtain ⟨found, hfound⟩ : ∃ found, l.find? e.batch.id = some found :=
    Option.isSome_iff_exists.1 (List.find?_isSome.2 ⟨e, he, by simp⟩)
  have hid : found.batch.id = e.batch.id := by simpa using List.find?_some hfound
  rw [batches, List.map_map] at hdistinct
  rw [hfound, List.inj_on_of_nodup_map hdistinct (List.mem_of_find?_eq_some hfound) he hid]

end Ledger

/-! ## Any calls -/

/-- A call that asks nothing of the exchange. -/
structure Unasked (c c' : Client) : Prop where
  attempts : c'.line.attempts = c.line.attempts
  sendError : c'.line.sendError = c.line.sendError
  counted : c'.metrics.batchesSent = c.metrics.batchesSent
  batches : c'.ledger.batches = c.ledger.batches
  nextId : c'.nextId = c.nextId

theorem unasked_read (c : Client) (stopAtEnd : Bool) (script : List Turn) :
    Unasked c (c.read stopAtEnd script).2.1 := by
  obtain ⟨c', rest, hhandled, hread⟩ := c.read_cases stopAtEnd script
  have hcounted := hhandled.counted .batchesSent
  have hzero : (framesOf script).countP (Heard.counts .batchesSent) = 0 :=
    List.countP_eq_zero.2 fun _ _ => Bool.false_ne_true
  rw [hzero] at hcounted
  have hbatches : c'.ledger.batches = c.ledger.batches := by
    rw [hhandled.ledger, Ledger.batches_answered]
  have hattempts : c'.line.attempts = c.line.attempts := by rw [hhandled.line]
  have herror : c'.line.sendError = c.line.sendError := by rw [hhandled.line]
  rw [hread]
  -- Ending may close the line, which is no attempt.
  cases endingOf stopAtEnd script <;>
    exact ⟨hattempts, herror, hcounted, hbatches, hhandled.nextId⟩

theorem Call.cases_planned (q : Call) (c : Client) :
    (q.hands c = [] ∧ q.planned = 0 ∧ Unasked c (q.apply c)) ∨
      ∃ symbols interval size delay, q = .subscribe symbols interval size delay ∧
        delay ≠ 0 ∧ size ≠ 0 := by
  cases q with
  | subscribe symbols interval size delay =>
    by_cases hdelay : delay = 0
    · refine Or.inl ⟨by simp [hands, hdelay], by simp [planned, hdelay], ?_⟩
      rw [apply, Client.subscribe, if_pos hdelay]
      exact ⟨rfl, rfl, rfl, rfl, rfl⟩
    by_cases hsize : size = 0
    · have hplan : plan symbols interval size c.nextId = .error .invalidBatchSize := by
        rw [plan, if_pos hsize]
      refine Or.inl ⟨by simp only [hands, if_neg hdelay, hplan], by simp [planned, hsize], ?_⟩
      rw [apply, Client.subscribe, if_neg hdelay, hplan]
      exact ⟨rfl, rfl, rfl, rfl, rfl⟩
    exact Or.inr ⟨symbols, interval, size, delay, rfl, hdelay, hsize⟩
  | read stopAtEnd script => exact Or.inl ⟨rfl, rfl, unasked_read c stopAtEnd script⟩
  | close => exact Or.inl ⟨rfl, rfl, rfl, rfl, rfl, rfl, rfl⟩

/-- What every call keeps: ids have only grown and are all spent, and what went out is in the
ledger. -/
structure Numbered (ss : List Sending) (c : Client) : Prop where
  increasing : (ss.map (·.batch.id.toNat)).Pairwise (· < ·)
  spent : ∀ s ∈ ss, s.batch.id.toNat < c.nextId.toNat
  ledger : c.ledger.batches.Perm (went ss)

namespace Numbered

variable {ss : List Sending} {c : Client}

/-- The ids of the batches that went out are distinct. -/
theorem nodup (h : Numbered ss c) : (c.ledger.batches.map (·.id)).Nodup := by
  have hsublist : ((went ss).map (·.id.toNat)).Sublist (ss.map (·.batch.id.toNat)) := by
    rw [went, List.map_map]
    exact List.filter_sublist.map _
  have hnat : ((went ss).map (·.id.toNat)).Nodup :=
    (h.increasing.sublist hsublist).imp Nat.ne_of_lt
  have hids : ((went ss).map (·.id)).Nodup := by
    refine List.Nodup.of_map UInt64.toNat ?_
    rwa [List.map_map]
  exact ((h.ledger.map _).nodup_iff).2 hids

theorem unasked {c' : Client} (h : Numbered ss c) (hc : Unasked c c') : Numbered ss c' :=
  ⟨h.increasing, by rw [hc.nextId]; exact h.spent, by rw [hc.batches]; exact h.ledger⟩

theorem subscribe {symbols : List Symbol} {interval : Interval} {size delay : Nat}
    (h : Numbered ss c) (hdelay : delay ≠ 0) (hsize : size ≠ 0)
    (hfits : c.nextId.toNat + (inGroups size symbols).length < UInt64.size) :
    Numbered (ss ++ (Call.subscribe symbols interval size delay).hands c)
        (c.subscribe symbols interval size delay).2 ∧
      (c.subscribe symbols interval size delay).2.nextId.toNat =
        c.nextId.toNat + (inGroups size symbols).length := by
  obtain ⟨batches, hplan, hlength, hplanned, hbounds⟩ :=
    ids_plan symbols interval hsize (Nat.le_of_lt hfits)
  obtain ⟨sent, rest, hplan', hhands, hsent⟩ :=
    c.sentUpTo_subscribe symbols interval size delay hdelay hsize
  obtain rfl : batches = sent ++ rest := Except.ok.inj (hplan.symm.trans hplan')
  rw [← hlength] at hfits ⊢
  have hnext : (c.subscribe symbols interval size delay).2.nextId.toNat =
      c.nextId.toNat + (sent ++ rest).length := by
    rw [hsent.nextId]
    simp [UInt64.toNat_add, UInt64.size] at hfits ⊢
    omega
  -- The batches that are handed over are the first ones of the plan.
  have hfirst : (((Call.subscribe symbols interval size delay).hands c).map
      (·.batch)).Sublist (sent ++ rest) := by
    rw [hhands]
    cases rest <;> simp [Function.comp_def]
  have hnew : ∀ s ∈ (Call.subscribe symbols interval size delay).hands c,
      c.nextId.toNat ≤ s.batch.id.toNat ∧
        s.batch.id.toNat < c.nextId.toNat + (sent ++ rest).length :=
    fun s hs => hbounds _ (hfirst.subset (List.mem_map_of_mem hs))
  have hold : ∀ x ∈ c.ledger.batches, x.id.toNat < c.nextId.toNat := by
    intro x hx
    obtain ⟨s, hs, rfl⟩ := List.mem_map.1 (h.ledger.subset hx)
    exact h.spent s (List.mem_of_mem_filter hs)
  refine ⟨⟨?_, ?_, ?_⟩, hnext⟩
  · rw [List.map_append]
    have hids := hfirst.map (·.id.toNat)
    rw [List.map_map] at hids
    refine List.pairwise_append.2 ⟨h.increasing, hplanned.sublist hids, ?_⟩
    intro a ha b hb
    obtain ⟨s, hs, rfl⟩ := List.mem_map.1 ha
    obtain ⟨t, ht, rfl⟩ := List.mem_map.1 hb
    exact Nat.lt_of_lt_of_le (h.spent s hs) (hnew t ht).1
  · intro s hs
    rw [hnext]
    rcases List.mem_append.1 hs with hs | hs
    · exact Nat.lt_of_lt_of_le (h.spent s hs) (Nat.le_add_right ..)
    · exact (hnew s hs).2
  · rw [hsent.ledger, went_append, hhands, went_upTo]
    refine (Ledger.perm_batches_record ?_ ?_).trans (h.ledger.append_right sent)
    · intro b hb x hx hid
      have hlt := hold x hx
      have hle := (hbounds b (List.mem_append_left rest hb)).1
      rw [hid] at hlt
      omega
    · refine List.Nodup.of_map UInt64.toNat ?_
      rw [List.map_map]
      exact (hplanned.sublist ((List.sublist_append_left sent rest).map _)).imp Nat.ne_of_lt

/-- Every call keeps it, and moves the counter past what it plans. -/
theorem apply (h : Numbered ss c) (q : Call) (hfits : c.nextId.toNat + q.planned < UInt64.size) :
    Numbered (ss ++ q.hands c) (q.apply c) ∧
      (q.apply c).nextId.toNat = c.nextId.toNat + q.planned := by
  rcases q.cases_planned c with ⟨hhands, hplanned, hc⟩ |
    ⟨symbols, interval, size, delay, rfl, hdelay, hsize⟩
  · rw [hhands, hplanned, List.append_nil, hc.nextId]
    exact ⟨h.unasked hc, rfl⟩
  · have hplanned : (Call.subscribe symbols interval size delay).planned =
        (inGroups size symbols).length := by simp [Call.planned, hdelay, hsize]
    rw [hplanned] at hfits ⊢
    exact h.subscribe hdelay hsize hfits

/-- Any calls keep it, as long as the counter has ids for all that they plan. -/
theorem after {calls : List Call} (h : Numbered ss c)
    (hfits : c.nextId.toNat + (calls.map Call.planned).sum < UInt64.size) :
    Numbered (ss ++ c.hands calls) (c.after calls) := by
  induction calls generalizing ss c with
  | nil => simpa [Client.hands, Client.after] using h
  | cons q calls ih =>
    rw [List.map_cons, List.sum_cons] at hfits
    obtain ⟨hq, hnext⟩ := h.apply q (by omega)
    have hrest := ih hq (by omega)
    rwa [List.append_assoc] at hrest

end Numbered

namespace Client

theorem handed_apply (q : Call) (c : Client) : Handed (q.hands c) c (q.apply c) := by
  rcases q.cases_planned c with ⟨hhands, -, hc⟩ |
    ⟨symbols, interval, size, delay, rfl, hdelay, hsize⟩
  · rw [hhands]
    exact ⟨by rw [hc.attempts]; simp, hc.sendError, hc.counted⟩
  · obtain ⟨sent, rest, -, hhands, hsent⟩ :=
      c.sentUpTo_subscribe symbols interval size delay hdelay hsize
    rw [hhands]
    exact ⟨hsent.handed.attempts, hsent.handed.sendError, hsent.handed.counted⟩

theorem handed_after (calls : List Call) (c : Client) :
    Handed (c.hands calls) c (c.after calls) := by
  induction calls generalizing c with
  | nil => exact Handed.refl c
  | cons q calls ih => exact (handed_apply q c).trans (ih (q.apply c))

theorem hands_append (calls more : List Call) (c : Client) :
    c.hands (calls ++ more) = c.hands calls ++ (c.after calls).hands more := by
  induction calls generalizing c with
  | nil => rfl
  | cons q calls ih =>
    rw [List.cons_append, hands, ih, hands, List.append_assoc]
    rfl

end Client

/-- What one subscription does: it is refused and nothing happens, or its plan is sent in order up
to the first failure. -/
structure OneByOne (c : Client) (symbols : List Symbol) (interval : Interval) (size delay : Nat) :
    Prop where
  noDelay : delay = 0 → c.subscribe symbols interval size delay = (.error .invalidDelay, c)
  noSize : delay ≠ 0 → size = 0 →
    c.subscribe symbols interval size delay = (.error .invalidBatchSize, c)
  sends : delay ≠ 0 → size ≠ 0 → ∃ sent rest,
    plan symbols interval size c.nextId = .ok (sent ++ rest) ∧
      SentUpTo { c with nextId := c.nextId + (sent ++ rest).length.toUInt64 } sent rest {}
        (c.subscribe symbols interval size delay)
  refused : (c.subscribe symbols interval size delay).1 = .error .invalidDelay ∨
      (c.subscribe symbols interval size delay).1 = .error .invalidBatchSize →
    (c.subscribe symbols interval size delay).2 = c

theorem oneByOne (c : Client) (symbols : List Symbol) (interval : Interval) (size delay : Nat) :
    OneByOne c symbols interval size delay where
  noDelay hdelay := by rw [Client.subscribe, if_pos hdelay]
  noSize hdelay hsize := by rw [Client.subscribe, if_neg hdelay, plan, if_pos hsize]
  sends hdelay hsize := by
    obtain ⟨sent, rest, hplan, -, hsent⟩ :=
      c.sentUpTo_subscribe symbols interval size delay hdelay hsize
    exact ⟨sent, rest, hplan, hsent⟩
  refused := c.subscribe_refused symbols interval size delay

/-- As long as a new client plans fewer batches than there are ids, the ids of its requests only
grow, and the ledger holds just the batches that went out, each under its own id and for good. -/
theorem ids_never_reused (o : Outbox) (line : Line) (calls : List Call)
    (hfew : (calls.map Call.planned).sum < UInt64.size - 1) :
    let first := Client.fresh o line
    let c := first.after calls
    let ss := first.hands calls
    (c.line.attempts.map Attempt.outcome =
        line.attempts.map Attempt.outcome ++ ss.map Sending.outcome ∧
      ((c.line.attempts.drop line.attempts.length).map fun a => requestNumber a.text).Pairwise
        (· < ·)) ∧
    (c.ledger.batches.Perm (went ss) ∧
      (∀ b ∈ went ss, ∃ status, c.ledger.find? b.id = some ⟨b, status⟩) ∧
      c.line.sent.length = line.sent.length + c.ledger.size ∧
      c.metrics.batchesSent = o.metrics.batchesSent + c.ledger.size) ∧
    (∀ before later, calls = before ++ later →
      ∀ id e, (first.after before).ledger.find? id = some e →
        ∃ status, c.ledger.find? id = some ⟨e.batch, status⟩) ∧
    ∀ (c : Client) symbols interval size delay, OneByOne c symbols interval size delay := by
  intro first c ss
  have hstart : Numbered [] first := ⟨List.Pairwise.nil, by simp, List.Perm.refl _⟩
  have hnext : first.nextId.toNat = 1 := rfl
  have hc : Numbered ss c := hstart.after (by omega)
  have hhanded : Handed ss first c := Client.handed_after calls first
  have hsize : c.ledger.size = (went ss).length := by
    have hlength := hc.ledger.length_eq
    rwa [Ledger.batches, List.length_map] at hlength
  -- What went out is in the ledger, and can be found there.
  have hfound : ∀ b ∈ went ss, ∃ status, c.ledger.find? b.id = some ⟨b, status⟩ := by
    intro b hb
    obtain ⟨e, he, rfl⟩ := List.mem_map.1 (hc.ledger.symm.subset hb)
    exact ⟨e.status, Ledger.find?_of_mem hc.nodup he⟩
  refine ⟨⟨hhanded.attempts, ?_⟩, ⟨hc.ledger, hfound, ?_, ?_⟩, ?_, oneByOne⟩
  · have hnumbers := hhanded.numbers
    exact hnumbers ▸ hc.increasing
  · rw [hsize]
    exact hhanded.length_sent
  · rw [hsize]
    exact hhanded.counted
  · rintro before later rfl id e he
    have hbefore : Numbered (first.hands before) (first.after before) := by
      refine hstart.after ?_
      rw [List.map_append, List.sum_append] at hfew
      omega
    have hmem : e.batch ∈ went (first.hands before) :=
      hbefore.ledger.subset (List.mem_map_of_mem (List.mem_of_find?_eq_some he))
    have hid : e.batch.id = id := by simpa using List.find?_some he
    rw [← hid]
    refine hfound e.batch ?_
    show e.batch ∈ went (first.hands (before ++ later))
    rw [Client.hands_append, went_append]
    exact List.mem_append_left _ hmem

/-- The second of three batches fails, so its id and that of the third are spent for nothing. -/
theorem ids_skip_unsent_batches :
    let symbols := ["BTCUSDT", "ETHUSDT", "BNBUSDT"].filterMap Symbol.ofString?
    let line : Line := { sendError := fun n => if n = 1 then some .timeout else none }
    let ack := Text.Utf8.encode "\x7b\"result\":null,\"id\":1\x7d"
    let calls : List Call := [.subscribe symbols .sec1 1 5, .read false [⟨false, .text ack, true⟩],
      .subscribe symbols .min1 0 5, .subscribe symbols .min1 2 5]
    let c := (Client.fresh {} line).after calls
    (calls.map Call.planned).sum < UInt64.size - 1 ∧
      c.line.attempts.map (fun a => requestNumber a.text) = [1, 2, 4, 5] ∧
      [1, 2, 4, 5].Pairwise (· < ·) ∧
      c.ledger.batches.Perm (went ((Client.fresh {} line).hands calls)) ∧
      c.line.sent.length = c.ledger.size ∧ c.metrics.batchesSent = c.ledger.size ∧
      c.ledger.size = 3 ∧ c.ledger.status? 1 = some .active ∧ c.ledger.status? 2 = none := by
  intro symbols line ack calls c
  have hfew : (calls.map Call.planned).sum < UInt64.size - 1 := by decide +kernel
  have hnumbers : c.line.attempts.map (fun a => requestNumber a.text) = [1, 2, 4, 5] := by
    decide +kernel
  have hledger : c.ledger.size = 3 ∧ c.ledger.status? 1 = some .active ∧
      c.ledger.status? 2 = none := by
    decide +kernel
  obtain ⟨⟨-, hgrow⟩, ⟨hperm, -, hsent, hcounted⟩, -⟩ := ids_never_reused {} line calls hfew
  refine ⟨hfew, hnumbers, hnumbers ▸ hgrow, hperm, ?_, ?_, hledger⟩
  · exact hsent.trans (Nat.zero_add _)
  · exact hcounted.trans (Nat.zero_add _)

end CandleRelay.Feed
