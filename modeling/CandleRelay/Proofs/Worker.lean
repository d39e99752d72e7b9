import CandleRelay.Config.Load
import CandleRelay.Proofs.Feed.Intervals
import CandleRelay.Wiring

/-!
# What accepted settings lead to

The checks of the settings look at one field each: some room in a batch, some delay, some interval,
some stream. That keeps the client from refusing to subscribe. Whether it subscribes anything is a
matter of two fields, since the limit of streams is divided by the number of intervals: with more
intervals than streams no symbol fits, and the worker goes on to read without having asked for
anything.

What is proved:
  1. `validate_eq_ok`: what the checks say of the settings of the exchange.
  2. `fitStreams_ne_nil_iff`: some symbol fits just when the limit is not below the number of
     intervals.
  3. `subscribes_iff_limit_allows`: with accepted settings every interval is asked for, or none.
  4. `accepted_and_unsubscribed`: settings that are accepted and ask for none.
-/

namespace CandleRelay

namespace Config

theorem require_eq_ok_iff {holds : Bool} {reason : String} :
    require holds reason = .ok () ↔ holds = true := by
  cases holds <;> simp [require]

/-- What has been checked of the settings of the exchange. -/
structure Subscribable (x : ExchangeConfig) : Prop where
  batchSize : x.batchSize ≠ 0
  batchDelay : x.batchDelayMs ≠ 0
  intervals : x.intervals ≠ []
  maxStreams : x.maxStreams ≠ 0

theorem seq_eq_ok {α : Type} {x : Except ConfigError Unit} {y : Except ConfigError α} {a : α}
    (h : (do x; y) = .ok a) : x = .ok () ∧ y = .ok a := by
  cases x with
  | ok u => exact ⟨rfl, h⟩
  | error e => simp [bind, Except.bind] at h

theorem validate_eq_ok {c : Config} (h : validate c = .ok ()) : Subscribable c.exchange := by
  obtain ⟨-, h⟩ := seq_eq_ok h
  obtain ⟨-, h⟩ := seq_eq_ok h
  obtain ⟨hsize, h⟩ := seq_eq_ok h
  obtain ⟨hdelay, h⟩ := seq_eq_ok h
  obtain ⟨hintervals, h⟩ := seq_eq_ok h
  obtain ⟨hstreams, -⟩ := seq_eq_ok h
  rw [require_eq_ok_iff] at hsize hdelay hintervals hstreams
  refine ⟨?_, ?_, ?_, ?_⟩
  · exact Nat.ne_of_gt (of_decide_eq_true hsize)
  · exact Nat.ne_of_gt (of_decide_eq_true hdelay)
  · simpa using hintervals
  · exact Nat.ne_of_gt (of_decide_eq_true hstreams)

end Config

theorem fitStreams_ne_nil_iff {symbols : List Symbol} (hsome : symbols ≠ []) {intervals : Nat}
    (hintervals : intervals ≠ 0) (maxStreams : Nat) :
    fitStreams symbols intervals maxStreams ≠ [] ↔ intervals ≤ maxStreams := by
  have hpos : 0 < intervals := Nat.pos_of_ne_zero hintervals
  rw [fitStreams, Nat.max_eq_left hpos, ne_eq, List.take_eq_nil_iff, or_iff_left hsome,
    Nat.div_eq_zero_iff, or_iff_right hintervals, Nat.not_lt]

namespace Feed

variable {symbols : List Symbol} {size delay : Nat}

theorem forall₂_plans (hsome : symbols ≠ []) (size : Nat) (firstId : UInt64)
    (intervals : List Interval) :
    List.Forall₂ (fun i bs => bs ≠ [] ∧ ∀ b ∈ bs, b.interval = i) intervals
      (plans symbols size firstId intervals) := by
  induction intervals generalizing firstId with
  | nil => exact List.Forall₂.nil
  | cons i rest ih =>
    refine List.Forall₂.cons ⟨?_, fun b hb => interval_of_mem_batchesOf hb⟩ (ih _)
    exact mt batchesOf_eq_nil_iff.1 hsome

theorem subscribeAll_not_refused (c : Client) (hdelay : delay ≠ 0) (hsize : size ≠ 0)
    (intervals : List Interval) :
    (c.subscribeAll symbols size delay intervals).1 ≠ .error .invalidBatchSize ∧
      (c.subscribeAll symbols size delay intervals).1 ≠ .error .invalidDelay := by
  obtain ⟨sent, rest, -, hsent⟩ :=
    c.sentAll_subscribeAll symbols hdelay hsize intervals
  cases rest with
  | nil =>
    have hok : (c.subscribeAll symbols size delay intervals).1 = .ok _ := hsent.answer
    simp [hok]
  | cons b later =>
    obtain ⟨e, -, hfailed⟩ := hsent.answer
    simp [hfailed, SubscriptionError.ofBatch]

theorem subscribeAll_of_no_failure {c : Client} (symbols : List Symbol)
    (hsend : ∀ n, c.line.sendError n = none)
    (hdelay : delay ≠ 0) (hsize : size ≠ 0) (intervals : List Interval) :
    let all := (plans symbols size c.nextId intervals).flatten
    let r := c.subscribeAll symbols size delay intervals
    r.1 = .ok ⟨all.length, (all.map (·.symbols.length)).sum⟩ ∧
      (r.2.line.attemptsSince c.line).map Attempt.outcome =
        all.map fun b => (b.request, true) := by
  intro all r
  obtain ⟨sent, rest, hplans, hsent⟩ :=
    c.sentAll_subscribeAll symbols hdelay hsize intervals
  have hanswer := hsent.answer
  cases rest with
  | nil =>
    have hall : all = sent := hplans.trans (List.append_nil sent)
    rw [hall]
    refine ⟨?_, ?_⟩
    · exact hanswer.trans (by simp)
    · rw [hsent.handed.outcomes]
      simp [Function.comp_def, Sending.outcome]
  | cons b later =>
    obtain ⟨e, he, -⟩ := hanswer
    rw [hsend] at he
    simp at he

theorem subscribeAll_nil (c : Client) (hdelay : delay ≠ 0) (hsize : size ≠ 0)
    (intervals : List Interval) :
    (c.subscribeAll [] size delay intervals).1 = .ok {} ∧
      (c.subscribeAll [] size delay intervals).2.line.attemptsSince c.line = [] ∧
      (c.subscribeAll [] size delay intervals).2.ledger = c.ledger := by
  obtain ⟨sent, rest, hplans, hsent⟩ := c.sentAll_subscribeAll [] hdelay hsize intervals
  rw [plans_nil] at hplans
  obtain ⟨rfl, rfl⟩ := List.append_eq_nil_iff.1 hplans.symm
  exact ⟨hsent.answer, List.map_eq_nil_iff.1 hsent.handed.outcomes, hsent.ledger⟩

end Feed

theorem Worker.run_of_subscribed {p : Worker.Plan} {w : Worker.World} {discovered : List Symbol}
    {line : Feed.Line} (hfound : (Discovery.discover p.retry p.filter w.respond).result =
      .ok discovered) (hline : w.connect = .ok line) {report : Feed.Report}
    (hreport : ((Feed.Client.fresh {} line).subscribeAll
      (fitStreams discovered p.intervals.length p.maxStreams) p.batchSize p.batchDelay
        p.intervals).1 = .ok report) :
    (Worker.run p w).2 = some (((Feed.Client.fresh {} line).subscribeAll
      (fitStreams discovered p.intervals.length p.maxStreams) p.batchSize p.batchDelay
        p.intervals).2.read w.stopAtEnd w.turns).2.1 := by
  cases hresult : (Feed.Client.fresh {} line).subscribeAll
      (fitStreams discovered p.intervals.length p.maxStreams) p.batchSize p.batchDelay
        p.intervals with
  | mk answer c =>
    rw [hresult] at hreport
    obtain rfl := hreport
    have hsame : ({ line := line } : Feed.Client) = Feed.Client.fresh {} line := rfl
    simp only [run, hfound, hline, hsame, hresult]
    rcases c.read w.stopAtEnd w.turns with ⟨_ | _, c', left⟩ <;> rfl

/-- Under accepted settings some symbol fits just when the limit of streams is not below the number
of intervals, and the size of batches and the delay are never refused. If no send fails the worker
comes to read, and by then all plans have been sent: some batch for each interval if a symbol fits,
and nothing whatever otherwise. -/
theorem subscribes_iff_limit_allows {cfg : Config} (hvalid : cfg.validate = .ok ())
    {discovered : List Symbol} (hsome : discovered ≠ []) (line : Feed.Line) :
    let x := cfg.exchange
    let fit := fitStreams discovered x.intervals.length x.maxStreams
    let all := Feed.plans fit x.batchSize 1 x.intervals
    let r := fun o => (Feed.Client.fresh o line).subscribeAll fit x.batchSize x.batchDelayMs
      x.intervals
    (fit ≠ [] ↔ x.intervals.length ≤ x.maxStreams) ∧
    (∀ o, (r o).1 ≠ .error .invalidBatchSize ∧ (r o).1 ≠ .error .invalidDelay) ∧
    ((∀ n, line.sendError n = none) →
      (∀ o, (r o).1 = .ok ⟨all.flatten.length, fit.length * x.intervals.length⟩ ∧
        ((r o).2.line.attemptsSince line).map Feed.Attempt.outcome =
          all.flatten.map fun b => (b.request, true)) ∧
      ∀ w : Worker.World,
        (Discovery.discover cfg.plan.retry cfg.plan.filter w.respond).result = .ok discovered →
        w.connect = .ok line →
        (Worker.run cfg.plan w).2 = some ((r {}).2.read w.stopAtEnd w.turns).2.1) ∧
    (x.intervals.length ≤ x.maxStreams →
      List.Forall₂ (fun i bs => bs ≠ [] ∧ ∀ b ∈ bs, b.interval = i) x.intervals all) ∧
    (x.maxStreams < x.intervals.length →
      ∀ o, (r o).1 = .ok {} ∧ (r o).2.line.attemptsSince line = [] ∧ (r o).2.ledger = {}) := by
  intro x fit all r
  have hx : Config.Subscribable x := Config.validate_eq_ok hvalid
  have hfit : fit ≠ [] ↔ x.intervals.length ≤ x.maxStreams :=
    fitStreams_ne_nil_iff hsome (mt List.length_eq_zero_iff.1 hx.intervals) x.maxStreams
  refine ⟨hfit, ?_, ?_, ?_, ?_⟩
  · exact fun o => Feed.subscribeAll_not_refused _ hx.batchDelay hx.batchSize x.intervals
  · intro hsend
    have hsent : ∀ o, (r o).1 = .ok ⟨all.flatten.length, fit.length * x.intervals.length⟩ ∧
        ((r o).2.line.attemptsSince line).map Feed.Attempt.outcome =
          all.flatten.map fun b => (b.request, true) := by
      intro o
      obtain ⟨hreport, houtcomes⟩ := Feed.subscribeAll_of_no_failure (c := .fresh o line)
        fit hsend hx.batchDelay hx.batchSize x.intervals
      rw [Feed.symbols_plans] at hreport
      exact ⟨hreport, houtcomes⟩
    exact ⟨hsent, fun w hfound hline => Worker.run_of_subscribed hfound hline (hsent {}).1⟩
  · exact fun hallowed => Feed.forall₂_plans (hfit.2 hallowed) x.batchSize 1 x.intervals
  · intro hover o
    have hnone : fit = [] := by
      by_contra hne
      exact Nat.not_le_of_lt hover (hfit.1 hne)
    simp only [r, hnone]
    exact Feed.subscribeAll_nil _ hx.batchDelay hx.batchSize x.intervals

/-- Two symbols on two intervals of which one fits three streams: it is asked for on both. -/
theorem subscribes_one_of_two_symbols :
    let x : Config.ExchangeConfig := { intervals := [.sec1, .min1], maxStreams := 3 }
    let cfg : Config := { exchange := x }
    let discovered := ["AUSDT", "BUSDT"].filterMap Symbol.ofString?
    let fit := fitStreams discovered 2 3
    let all := Feed.plans fit 100 1 [.sec1, .min1]
    let r := (Feed.Client.fresh {} {}).subscribeAll fit 100 300 [.sec1, .min1]
    cfg.validate = .ok () ∧ discovered ≠ [] ∧ fit ≠ [] ∧ r.1 = .ok ⟨2, 2⟩ ∧
      r.1 ≠ .error .invalidBatchSize ∧
      (r.2.line.attemptsSince {}).map Feed.Attempt.outcome =
        all.flatten.map (fun b => (b.request, true)) ∧
      List.Forall₂ (fun i bs => bs ≠ [] ∧ ∀ b ∈ bs, b.interval = i) [.sec1, .min1] all := by
  intro x cfg discovered fit all r
  have hvalid : cfg.validate = .ok () := by decide +kernel
  have hsome : discovered ≠ [] := by decide
  obtain ⟨hfit, hrefused, hsent, hallowed, -⟩ := subscribes_iff_limit_allows hvalid hsome {}
  obtain ⟨hreport, houtcomes⟩ := (hsent fun _ => rfl).1 {}
  have hlimit : cfg.exchange.intervals.length ≤ cfg.exchange.maxStreams := by decide
  have htwo : all.flatten.length = 2 := by decide +kernel
  change r.1 = .ok ⟨all.flatten.length, fit.length * 2⟩ at hreport
  rw [htwo] at hreport
  exact ⟨hvalid, hsome, hfit.2 hlimit, hreport, (hrefused {}).1, houtcomes, hallowed hlimit⟩

/-- One stream for two intervals passes the checks, one field at a time. No symbol fits, and the
worker reads to the end without having asked for anything. -/
theorem accepted_and_unsubscribed :
    let cfg : Config := { exchange := { intervals := [.sec1, .min1], maxStreams := 1 } }
    let discovered := ["AUSDT"].filterMap Symbol.ofString?
    let catalog := Text.Utf8.encode "\x7b\"symbols\":[\x7b\"symbol\":\"AUSDT\"\x7d]\x7d"
    let w : Worker.World :=
      { respond := fun _ => .answer 200 (some catalog)
        connect := .ok {}
        turns := []
        stopAtEnd := false }
    let fit := fitStreams discovered cfg.exchange.intervals.length cfg.exchange.maxStreams
    cfg.validate = .ok () ∧ discovered ≠ [] ∧ ¬ fit ≠ [] ∧
      (Discovery.discover cfg.plan.retry cfg.plan.filter w.respond).result = .ok discovered ∧
      (Worker.run cfg.plan w).1 = .ok .closed ∧
      (Worker.run cfg.plan w).2.map (·.line.attempts) = some [] := by
  intro cfg discovered catalog w fit
  refine ⟨?_, ?_, ?_, ?_, ?_, ?_⟩ <;> decide +kernel

end CandleRelay
