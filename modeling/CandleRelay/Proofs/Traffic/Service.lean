import CandleRelay.Gateway.Service
import CandleRelay.Proofs.Traffic.Listening
import CandleRelay.Proofs.Traffic.Reports

/-!
# The listener accounts for every delivery

The listener's loop, amid everything else that goes on in a gateway, until it returns and after.

What is proved:
  1. `Turn`: what the loop does when it looks what there is to do, in four cases, and `Occurs`: what
     an event does to the messages. Nothing but a turn takes a message, and no turn takes one once
     the listener has been asked to stop.
  2. `traffic_run`: all that happens in the gateway is a run of acts, so that what holds of all runs
     of a gateway holds of it, the balance of its counters among the rest.
  3. `result_run`: the loop returns at the first turn that finds a reason to, and says which.
  4. `ends_run`: the dispatch under way comes to its end, and then the loop can look again;
     `looks_turn`: when it does it reads the next message, waits for it, or returns.
  5. `accounts_for_every_delivery`: all of it together, for every list of events.
  6. `listening_is_service`: the listener alone, keeping to the clock, is one of these runs.
-/

namespace CandleRelay.Gateway.Service

variable {s : Service} {settings : Settings} {e : Event} {es : List Event}

theorem run_append (s : Service) (before after : List Event) :
    s.run (before ++ after) = (s.run before).run after := List.foldl_append

theorem run_concat : s.run (es ++ [e]) = (s.run es).step e := by
  rw [run, List.foldl_append]
  rfl

/-! ## Requests, the subscription and its messages -/

/-- The listener has been asked to stop, or nobody is left who could ask. -/
def Asked (es : List Event) : Prop := .request ∈ es ∨ .disown ∈ es

instance (es : List Event) : Decidable (Asked es) := inferInstanceAs (Decidable (_ ∨ _))

theorem Asked.append (h : Asked es) (after : List Event) : Asked (es ++ after) :=
  h.imp (List.mem_append_left _) (List.mem_append_left _)

/-- The messages that come with an event. -/
def Event.messages : Event → List Message
  | .act (.publish m) => [m]
  | _ => []

/-- The messages of the subscription, up to its end. -/
def streamed : List Event → List Message
  | [] => []
  | .endStream :: _ => []
  | e :: es => e.messages ++ streamed es

theorem streamed_cons (h : e ≠ .endStream) : streamed (e :: es) = e.messages ++ streamed es := by
  cases e <;> first | rfl | exact absurd rfl h

theorem streamed_concat : streamed (es ++ [e]) =
    streamed es ++ if .endStream ∈ es then [] else e.messages := by
  induction es with
  | nil => cases e <;> simp [streamed, Event.messages]
  | cons e' es ih =>
    by_cases h : e' = .endStream
    · subst h
      simp [streamed]
    · rw [List.cons_append, streamed_cons h, streamed_cons h, ih, List.append_assoc]
      simp [Ne.symm h]

/-! ## One event -/

/-- What the loop does when it looks what there is to do. -/
inductive Turn (s : Service) : Service → Prop where
  /-- It has returned, or a dispatch is under way. -/
  | elsewhere (h : s.isReady = false) : Turn s s
  | stops (h : s.isReady = true) (hasked : s.shutdown.isVisible = true) :
      Turn s { s with result := some (.ok ()) }
  | closes (h : s.isReady = true) (hasked : s.shutdown.isVisible = false) (hended : s.ended = true)
      (hwaiting : s.traffic.waiting = []) : Turn s { s with result := some (.error .closed) }
  | goesOn (h : s.isReady = true) (hasked : s.shutdown.isVisible = false)
      (hmore : s.ended = false ∨ s.traffic.waiting ≠ []) :
      Turn s { s with traffic := s.traffic.takeNext }

theorem turn_spec (s : Service) : Turn s s.turn := by
  cases hready : s.isReady with
  | false =>
    simp only [turn, hready]
    exact .elsewhere hready
  | true =>
    cases hasked : s.shutdown.isVisible with
    | true =>
      simp only [turn, hready, hasked]
      exact .stops hready hasked
    | false =>
      by_cases hmore : s.ended = true ∧ s.traffic.waiting = []
      · have hnone : (s.ended && s.traffic.waiting.isEmpty) = true := by simpa using hmore
        simp only [turn, hready, hasked, hnone]
        exact .closes hready hasked hmore.1 hmore.2
      · have hnot : (s.ended && s.traffic.waiting.isEmpty) = false := by
          simpa [← Bool.not_eq_true] using hmore
        simp only [turn, hready, hasked, hnot]
        refine .goesOn hready hasked ?_
        cases hended : s.ended with
        | false => exact Or.inl rfl
        | true => exact Or.inr fun hwaiting => hmore ⟨hended, hwaiting⟩

theorem isReady_iff : s.isReady = true ↔ s.result = none ∧ s.traffic.landed = true := by
  simp [isReady]

theorem act_spec (s : Service) (a : Act) :
    (s.act a = s ∧ (a = .take ∨ ∃ m, a = .publish m ∧ s.ended = true)) ∨
      (s.act a = { s with traffic := s.traffic.step a } ∧ a ≠ .take ∧
        ((∃ m, a = .publish m) → s.ended = false)) := by
  cases a with
  | take => exact Or.inl ⟨rfl, Or.inl rfl⟩
  | publish m =>
    simp only [act]
    cases hended : s.ended with
    | true => exact Or.inl ⟨rfl, Or.inr ⟨m, rfl, rfl⟩⟩
    | false => exact Or.inr ⟨rfl, by simp, fun _ => rfl⟩
  | _ => exact Or.inr ⟨rfl, by simp, by simp⟩

/-- The messages dispatched so far, each with the registry that its dispatch goes by. -/
def log (s : Service) : List (Message × Registry) :=
  s.traffic.dispatches.map fun d => (d.message, d.snapshot)

/-- What an event does to the messages. -/
inductive Occurs (s : Service) (e : Event) : Prop where
  /-- A message goes from those that wait to the dispatches. -/
  | taken (m : Message) (rest : List Message) (hturn : e = .turn) (hready : s.isReady = true)
      (hasked : s.shutdown.isVisible = false) (hwaiting : s.traffic.waiting = m :: rest)
      (hrest : (s.step e).traffic.waiting = rest)
      (hlog : (s.step e).log = s.log ++ [(m, s.traffic.gateway.registry)])
  /-- None does, and one may come. -/
  | kept (hlog : (s.step e).log = s.log)
      (hwaiting : (s.step e).traffic.waiting = s.traffic.waiting ++
        if s.ended then [] else e.messages)

theorem Occurs.of_same (hlog : (s.step e).log = s.log)
    (hwaiting : (s.step e).traffic.waiting = s.traffic.waiting)
    (hmessages : e.messages = [] ∨ s.ended = true) : Occurs s e := by
  refine .kept hlog ?_
  rw [hwaiting]
  rcases hmessages with hmessages | hended
  · simp [hmessages]
  · simp [hended]

theorem occurs_turn (s : Service) : Occurs s .turn := by
  have hturn := turn_spec s
  have hstep : s.step .turn = s.turn := rfl
  generalize hnext : s.turn = next at hturn
  cases hturn with
  | elsewhere h => exact .of_same (by rw [hstep, hnext]) (by rw [hstep, hnext]) (Or.inl rfl)
  | stops h hasked =>
    exact .of_same (by rw [hstep, hnext]; rfl) (by rw [hstep, hnext]) (Or.inl rfl)
  | closes h hasked hended hwaiting =>
    exact .of_same (by rw [hstep, hnext]; rfl) (by rw [hstep, hnext]) (Or.inl rfl)
  | goesOn h hasked hmore =>
    rcases Traffic.dispatches_takeNext s.traffic with
      ⟨hds, hw⟩ | ⟨d, m, rest, hwaiting, hw, hds, rfl, hsnapshot⟩
    · refine .of_same ?_ (by rw [hstep, hnext]; exact hw) (Or.inl rfl)
      rw [hstep, hnext]
      exact congrArg (List.map _) hds
    · refine .taken d.message rest rfl h hasked hwaiting (by rw [hstep, hnext]; exact hw) ?_
      rw [hstep, hnext, log, log, ← hsnapshot]
      show List.map _ s.traffic.takeNext.dispatches = _
      rw [hds, List.map_append]
      rfl

theorem occurs_act (s : Service) (a : Act) : Occurs s (.act a) := by
  have hstep : s.step (.act a) = s.act a := rfl
  rcases act_spec s a with ⟨hsame, hwhy⟩ | ⟨hact, htake, hpublish⟩
  · refine .of_same (by rw [hstep, hsame]) (by rw [hstep, hsame]) ?_
    rcases hwhy with rfl | ⟨m, rfl, hended⟩
    · exact Or.inl rfl
    · exact Or.inr hended
  · rcases Traffic.dispatches_step s.traffic a with rfl | ⟨k, rfl⟩ | ⟨hds, hw⟩
    · exact absurd rfl htake
    · obtain ⟨hds, hw⟩ := Traffic.dispatches_moveDelivery s.traffic k
      refine .of_same ?_ ?_ (Or.inl rfl)
      · rw [hstep, hact]
        exact hds
      · rw [hstep, hact]
        exact hw
    · refine .kept ?_ ?_
      · rw [hstep, hact]
        exact congrArg (List.map _) hds
      · rw [hstep, hact]
        refine hw.trans ?_
        cases a with
        | publish m => simp [hpublish ⟨m, rfl⟩, Traffic.published, Event.messages]
        | _ => simp [Traffic.published, Event.messages]

theorem occurs (s : Service) (e : Event) : Occurs s e := by
  cases e with
  | act a => exact occurs_act s a
  | turn => exact occurs_turn s
  | request | disown | endStream => exact .of_same rfl rfl (Or.inl rfl)

/-! ## What the loop returns -/

/-- What there is to return for, with each result. -/
def Reason (s : Service) : Except BusError Unit → Prop
  | .ok _ => s.shutdown.isVisible = true
  | .error e => e = .closed ∧ s.shutdown.isVisible = false ∧ s.ended = true ∧ s.traffic.waiting = []

theorem result_turn (s : Service) (r : Except BusError Unit) :
    s.turn.result = some r ↔ s.result = some r ∨ s.isReady = true ∧ s.Reason r := by
  have hturn := turn_spec s
  generalize s.turn = next at hturn
  cases hturn with
  | elsewhere h => simp [h]
  | stops h hasked =>
    have hnone := (isReady_iff.1 h).1
    cases r <;> simp [h, hnone, Reason, hasked]
  | closes h hasked hended hwaiting =>
    have hnone := (isReady_iff.1 h).1
    cases r with
    | ok u => simp [hnone, Reason, hasked]
    | error e => simp [h, hnone, Reason, hasked, hended, hwaiting, eq_comm]
  | goesOn h hasked hmore =>
    have hnone := (isReady_iff.1 h).1
    cases r with
    | ok u => simp [hnone, Reason, hasked]
    | error e =>
      rcases hmore with hended | hwaiting
      · simp [hnone, Reason, hended]
      · simp [hnone, Reason, hwaiting]

/-- Nothing but a turn makes the loop return, and nothing changes what it has returned. -/
theorem result_step (s : Service) (e : Event) (r : Except BusError Unit) :
    (s.step e).result = some r ↔
      s.result = some r ∨ e = .turn ∧ s.isReady = true ∧ s.Reason r := by
  cases e with
  | turn => simpa [step] using result_turn s r
  | act a =>
    have hsame : (s.act a).result = s.result := by
      rcases act_spec s a with ⟨hact, -⟩ | ⟨hact, -⟩ <;> rw [hact]
    simp [step, hsame]
  | request | disown | endStream => simp [step]

theorem result_run (settings : Settings) (es : List Event) (r : Except BusError Unit) :
    ((start settings).run es).result = some r ↔
      ∃ before after, es = before ++ .turn :: after ∧
        ((start settings).run before).isReady = true ∧ ((start settings).run before).Reason r := by
  induction es using List.reverseRecOn with
  | nil => simp [run, start]
  | append_singleton es e ih =>
    rw [run_concat, result_step, ih, Traffic.exists_split_concat]

theorem result_step_of_ne_turn (s : Service) (hturn : e ≠ .turn) :
    (s.step e).result = s.result := by
  refine Option.ext fun r => ?_
  rw [result_step]
  simp [hturn]

theorem result_run_of_no_turn (s : Service) (hturn : .turn ∉ es) :
    (s.run es).result = s.result := by
  induction es generalizing s with
  | nil => rfl
  | cons e es ih =>
    rw [List.mem_cons, not_or] at hturn
    exact (ih (s.step e) hturn.2).trans (result_step_of_ne_turn s (Ne.symm hturn.1))

/-! ## Requests and the end of the subscription -/

theorem shutdown_step (s : Service) (e : Event) :
    (s.step e).shutdown.isVisible = true ↔
      s.shutdown.isVisible = true ∨ e = .request ∨ e = .disown := by
  cases e with
  | turn =>
    have hturn := turn_spec s
    simp only [step]
    generalize s.turn = next at hturn
    cases hturn <;> simp
  | act a =>
    have hsame : (s.act a).shutdown = s.shutdown := by
      rcases act_spec s a with ⟨hact, -⟩ | ⟨hact, -⟩ <;> rw [hact]
    simp [step, hsame]
  | request => simp [step, Shutdown.request, Shutdown.isVisible]
  | disown => simp [step, Shutdown.disown, Shutdown.isVisible]
  | endStream => simp [step]

theorem ended_step (s : Service) (e : Event) :
    (s.step e).ended = true ↔ s.ended = true ∨ e = .endStream := by
  cases e with
  | turn =>
    have hturn := turn_spec s
    simp only [step]
    generalize s.turn = next at hturn
    cases hturn <;> simp
  | act a =>
    have hsame : (s.act a).ended = s.ended := by
      rcases act_spec s a with ⟨hact, -⟩ | ⟨hact, -⟩ <;> rw [hact]
    simp [step, hsame]
  | request | disown | endStream => simp [step]

theorem asked_run (settings : Settings) (es : List Event) :
    ((start settings).run es).shutdown.isVisible = true ↔ Asked es := by
  induction es using List.reverseRecOn with
  | nil => simp [run, start, Asked, Shutdown.isVisible]
  | append_singleton es e ih =>
    rw [run_concat, shutdown_step, ih]
    simp only [Asked, List.mem_append, List.mem_singleton]
    tauto

theorem ended_run (settings : Settings) (es : List Event) :
    ((start settings).run es).ended = true ↔ .endStream ∈ es := by
  induction es using List.reverseRecOn with
  | nil => simp [run, start]
  | append_singleton es e ih =>
    rw [run_concat, ended_step, ih]
    simp [eq_comm]

/-! ## The gateway -/

/-- What an event does in the gateway are acts, with the same moves; and only a turn takes a
message. -/
theorem traffic_step (s : Service) (e : Event) :
    ∃ acts, (s.step e).traffic = s.traffic.run acts ∧
      (∀ k, acts.count (.move k) = [e].count (.act (.move k))) ∧ (e ≠ .turn → .take ∉ acts) := by
  have hnone : ∀ e : Event, (∀ k, e ≠ .act (.move k)) →
      ∀ k, ([] : List Act).count (.move k) = [e].count (.act (.move k)) := by
    intro e hmove k
    rw [List.count_cons_of_ne (hmove k)]
    rfl
  cases e with
  | turn =>
    have hturn := turn_spec s
    simp only [step]
    generalize s.turn = next at hturn
    cases hturn with
    | goesOn => exact ⟨[.take], rfl, by simp, by simp⟩
    | _ => exact ⟨[], rfl, hnone .turn (by simp), by simp⟩
  | act a =>
    rcases act_spec s a with ⟨hact, hwhy⟩ | ⟨hact, htake, -⟩
    · refine ⟨[], by rw [step, hact]; rfl, hnone (.act a) ?_, by simp⟩
      rcases hwhy with rfl | ⟨m, rfl, -⟩ <;> simp
    · refine ⟨[a], by rw [step, hact]; rfl, ?_, by simpa using htake.symm⟩
      intro k
      simp [List.count_singleton]
  | request | disown | endStream => exact ⟨[], rfl, hnone _ (by simp), by simp⟩

theorem traffic_run_from (s : Service) (es : List Event) :
    ∃ acts, (s.run es).traffic = s.traffic.run acts ∧
      (∀ k, acts.count (.move k) = es.count (.act (.move k))) ∧ (.turn ∉ es → .take ∉ acts) := by
  induction es generalizing s with
  | nil => exact ⟨[], rfl, fun _ => rfl, fun _ => List.not_mem_nil⟩
  | cons e es ih =>
    obtain ⟨acts, hacts, hcount, htake⟩ := traffic_step s e
    obtain ⟨more, hmore, hcount', htake'⟩ := ih (s.step e)
    refine ⟨acts ++ more, ?_, ?_, ?_⟩
    · rw [Traffic.run_append, ← hacts]
      exact hmore
    · intro k
      rw [List.count_append, hcount, hcount', ← List.count_append, List.singleton_append]
    · intro hturn hmem
      rw [List.mem_cons, not_or] at hturn
      rcases List.mem_append.1 hmem with hmem | hmem
      · exact htake (Ne.symm hturn.1) hmem
      · exact htake' hturn.2 hmem

theorem traffic_run (settings : Settings) (es : List Event) :
    ∃ acts, ((start settings).run es).traffic = (Traffic.start settings).run acts := by
  obtain ⟨acts, hacts, -, -⟩ := traffic_run_from (start settings) es
  exact ⟨acts, hacts⟩

theorem landed_of_result (settings : Settings) (es : List Event)
    (hr : ((start settings).run es).result ≠ none) :
    ((start settings).run es).traffic.landed = true := by
  induction es using List.reverseRecOn with
  | nil => exact absurd rfl hr
  | append_singleton es e ih =>
    obtain ⟨r, hr⟩ := Option.ne_none_iff_exists'.1 hr
    rw [run_concat] at hr ⊢
    cases e with
    | turn =>
      have hturn := turn_spec ((start settings).run es)
      have hr : ((start settings).run es).turn.result = some r := hr
      show ((start settings).run es).turn.traffic.landed = true
      generalize ((start settings).run es).turn = next at hturn hr
      cases hturn with
      | elsewhere h => exact ih (by rw [hr]; simp)
      | stops h | closes h => exact (isReady_iff.1 h).2
      | goesOn h =>
        have hnone := (isReady_iff.1 h).1
        have hr : ((start settings).run es).result = some r := hr
        rw [hnone] at hr
        simp at hr
    | act a =>
      have hbefore : ((start settings).run es).result ≠ none := by
        rcases (result_step _ _ r).1 hr with h | ⟨hturn, -⟩
        · rw [h]
          simp
        · simp at hturn
      show (((start settings).run es).act a).traffic.landed = true
      rcases act_spec ((start settings).run es) a with ⟨hact, -⟩ | ⟨hact, htake, -⟩
      · rw [hact]
        exact ih hbefore
      · rw [hact]
        exact Traffic.landed_step (ih hbefore) htake
    | request | disown | endStream =>
      exact ih (by rw [show ((start settings).run es).result = some r from hr]; simp)

/-! ## Messages -/

theorem log_fst (s : Service) : s.log.map Prod.fst = s.traffic.dispatches.map (·.message) := by
  simp [log, Function.comp_def]

/-- No message of the subscription is lost, doubled or overtaken on the way to its dispatch. -/
theorem messages_run (settings : Settings) (es : List Event) :
    ((start settings).run es).log.map Prod.fst ++ ((start settings).run es).traffic.waiting =
      streamed es := by
  induction es using List.reverseRecOn with
  | nil => rfl
  | append_singleton es e ih =>
    rw [run_concat, streamed_concat, ← ih]
    have hended := ended_run settings es
    cases occurs ((start settings).run es) e with
    | taken m rest hturn hready hasked hwaiting hrest hlog =>
      subst hturn
      rw [hlog, hrest, hwaiting]
      simp [Event.messages]
    | kept hlog hwaiting =>
      rw [hlog, hwaiting, List.append_assoc]
      simp only [hended]

/-- Whether no further message is taken: the loop has returned, or is going to when it looks. -/
def Barred (s : Service) : Prop := s.shutdown.isVisible = true ∨ s.result ≠ none

theorem Barred.step (h : s.Barred) (e : Event) : (s.step e).Barred ∧ (s.step e).log = s.log := by
  constructor
  · rcases h with hasked | hresult
    · exact Or.inl ((shutdown_step s e).2 (Or.inl hasked))
    · obtain ⟨r, hr⟩ := Option.ne_none_iff_exists'.1 hresult
      refine Or.inr ?_
      rw [(result_step s e r).2 (Or.inl hr)]
      simp
  · cases occurs s e with
    | taken m rest hturn hready hasked hwaiting hrest hlog =>
      rcases h with hvisible | hresult
      · rw [hasked] at hvisible
        simp at hvisible
      · exact absurd (isReady_iff.1 hready).1 hresult
    | kept hlog hwaiting => exact hlog

theorem Barred.run (h : s.Barred) (es : List Event) : (s.run es).log = s.log := by
  induction es generalizing s with
  | nil => rfl
  | cons e es ih =>
    obtain ⟨hbarred, hlog⟩ := h.step e
    exact (ih hbarred).trans hlog

/-- A dispatch goes by the registry as it was when the loop looked and took the message. -/
theorem taken_run (settings : Settings) (es : List Event) {p : Message × Registry}
    (hp : p ∈ ((start settings).run es).log) :
    ∃ before after, es = before ++ .turn :: after ∧ ¬ ((start settings).run before).Barred ∧
      ((start settings).run before).traffic.waiting.head? = some p.1 ∧
      p.2 = ((start settings).run before).traffic.gateway.registry := by
  induction es using List.reverseRecOn with
  | nil => exact absurd hp List.not_mem_nil
  | append_singleton es e ih =>
    rw [Traffic.exists_split_concat]
    rw [run_concat] at hp
    cases occurs ((start settings).run es) e with
    | taken m rest hturn hready hasked hwaiting hrest hlog =>
      rw [hlog] at hp
      rcases List.mem_append.1 hp with hp | hp
      · exact Or.inl (ih hp)
      · obtain rfl := List.mem_singleton.1 hp
        refine Or.inr ⟨hturn, ?_, by rw [hwaiting]; rfl, rfl⟩
        rintro (hvisible | hresult)
        · rw [hasked] at hvisible
          simp at hvisible
        · exact hresult (isReady_iff.1 hready).1
    | kept hlog hwaiting => exact Or.inl (ih (hlog ▸ hp))

/-! ## A dispatch and the look after it -/

/-- The dispatch under way lands, and then the loop can look again. -/
theorem ends_run {d : Dispatched} (hb : s.traffic.Booked) (hcurrent : s.traffic.current = some d)
    (hmoves : ∀ k < (d.snapshot.matching d.message.topic).length,
      3 ≤ es.count (.act (.move k))) :
    ∃ d', (s.run es).traffic.dispatches[s.traffic.past.length]? = some d' ∧
      d'.message = d.message ∧ d'.snapshot = d.snapshot ∧ d'.landed = true ∧
      (s.result = none → .turn ∉ es → (s.run es).isReady = true) := by
  obtain ⟨acts, hacts, hcount, htake⟩ := traffic_run_from s es
  have hmoves' : ∀ k < (d.snapshot.matching d.message.topic).length,
      3 ≤ acts.count (.move k) := by
    intro k hk
    rw [hcount]
    exact hmoves k hk
  obtain ⟨d', hget, hmessage, hsnapshot, hlanded, -⟩ := hb.ends hcurrent hmoves'
  rw [hacts]
  refine ⟨d', hget, hmessage, hsnapshot, hlanded, ?_⟩
  intro hresult hturn
  refine isReady_iff.2 ⟨(result_run_of_no_turn s hturn).trans hresult, ?_⟩
  -- No message has been taken, so that the dispatch is still the latest.
  have hpast := Traffic.past_run_of_no_take s.traffic (htake hturn)
  rw [Traffic.dispatches, hpast, List.getElem?_append_right (Nat.le_refl _), Nat.sub_self] at hget
  rw [hacts, Traffic.landed]
  cases hnow : (s.traffic.run acts).current with
  | none => rfl
  | some e =>
    rw [hnow] at hget
    obtain rfl := Option.some.inj hget
    exact hlanded

/-- What comes of a look, after the events `es`, when no dispatch is under way. -/
inductive Looks (es : List Event) (s s' : Service) : Prop where
  /-- The listener has been asked to stop, and its loop returns. -/
  | stops (hasked : Asked es) (hresult : s'.result = some (.ok ()))
  /-- The loop reads the next message, for those who want it now. -/
  | reads (d : Dispatched) (hasked : ¬ Asked es)
      (hwaiting : s.traffic.waiting = d.message :: s'.traffic.waiting)
      (hsnapshot : d.snapshot = s.traffic.gateway.registry)
      (hdispatches : s'.traffic.dispatches = s.traffic.dispatches ++ [d])
      (hcurrent : s'.traffic.current = some d) (hresult : s'.result = none)
  /-- The subscription has ended and none is left, and the loop returns. -/
  | closes (hasked : ¬ Asked es) (hended : .endStream ∈ es) (hwaiting : s.traffic.waiting = [])
      (hresult : s'.result = some (.error .closed))
  /-- None is left, and the loop waits for the next. -/
  | waits (hasked : ¬ Asked es) (hended : .endStream ∉ es) (hwaiting : s.traffic.waiting = [])
      (hsame : s' = s)

theorem looks_turn (settings : Settings) (es : List Event)
    (hready : ((start settings).run es).isReady = true) :
    Looks es ((start settings).run es) (((start settings).run es).step .turn) := by
  have hasked := asked_run settings es
  have hended := ended_run settings es
  obtain ⟨hresult, hlanded⟩ := isReady_iff.1 hready
  show Looks es ((start settings).run es) ((start settings).run es).turn
  generalize (start settings).run es = s at *
  have hturn := turn_spec s
  generalize s.turn = next at hturn
  cases hturn with
  | elsewhere h =>
    rw [hready] at h
    simp at h
  | stops h hvisible => exact .stops (hasked.1 hvisible) rfl
  | closes h hvisible hover hwaiting =>
    have hfree : ¬ Asked es := by simp [← hasked, hvisible]
    exact .closes hfree (hended.1 hover) hwaiting rfl
  | goesOn h hvisible hmore =>
    have hfree : ¬ Asked es := by simp [← hasked, hvisible]
    cases hwaiting : s.traffic.waiting with
    | nil =>
      have hopen : .endStream ∉ es := by
        rw [← hended]
        rcases hmore with hopen | hsome
        · simp [hopen]
        · exact absurd hwaiting hsome
      refine .waits hfree hopen hwaiting ?_
      have hsame : s.traffic.takeNext = s.traffic := by simp only [Traffic.takeNext, hwaiting]
      rw [hsame]
    | cons m rest =>
      rw [Traffic.takeNext_of_landed hlanded hwaiting]
      exact .reads _ hfree hwaiting rfl rfl rfl hresult

/-! ## The accounts -/

/-- The listener accounts for the messages it was sent and for the deliveries they made, and says
why it stopped. -/
structure Accounts (settings : Settings) (es : List Event) (s : Service) : Prop where
  /-- The messages are dispatched in the order of the subscription, each once. -/
  messages : s.traffic.dispatches.map (·.message) ++ s.traffic.waiting = streamed es
  /-- A dispatch goes by the registry as it was when the loop looked, saw no request to stop, and
  took the message. -/
  snapshots : ∀ d ∈ s.traffic.dispatches, ∃ before after, es = before ++ .turn :: after ∧
    ¬ Asked before ∧ ((start settings).run before).result = none ∧
    ((start settings).run before).traffic.waiting.head? = some d.message ∧
    d.snapshot = ((start settings).run before).traffic.gateway.registry
  /-- All dispatches but the one in flight are over, -/
  landed : ∀ d ∈ s.traffic.past, d.landed = true
  /-- and when a dispatch is over its report adds up, to the size of its snapshot. -/
  reports : ∀ d ∈ s.traffic.dispatches, d.landed = true →
    d.report.Adds ∧ d.report.matched = (d.snapshot.matching d.message.topic).length
  /-- The dispatch under way is over when each of those it is for has had its three moves, whatever
  else happens, and though its write or its close would go on for ever. Then the loop can look, -/
  ends : ∀ d, s.traffic.current = some d → ∀ more : List Event,
    (∀ k < (d.snapshot.matching d.message.topic).length, 3 ≤ more.count (.act (.move k))) →
    ∃ d', (s.run more).traffic.dispatches[s.traffic.past.length]? = some d' ∧
      d'.message = d.message ∧ d'.snapshot = d.snapshot ∧ d'.landed = true ∧
      (s.result = none → .turn ∉ more → (s.run more).isReady = true)
  /-- and when it does it reads the next message, waits for it, or returns. -/
  looks : s.isReady = true → Looks es s (s.step .turn)
  /-- With no message in flight the counters are the sums of the reports, -/
  balanced : s.traffic.landed = true → s.traffic.Balanced
  /-- and none is when the loop has returned. -/
  returned : s.result ≠ none → s.traffic.landed = true
  /-- The loop returns without an error just when it looked after a request to stop. -/
  stopped : s.result = some (.ok ()) ↔ ∃ before after, es = before ++ .turn :: after ∧
    ((start settings).run before).isReady = true ∧ Asked before
  /-- It returns with an error just when it looked before any, and the subscription had ended and
  all its messages had been taken. -/
  broke : ∀ e, s.result = some (.error e) ↔ e = .closed ∧ ∃ before after,
    es = before ++ .turn :: after ∧ ((start settings).run before).isReady = true ∧
    ¬ Asked before ∧ .endStream ∈ before ∧ ((start settings).run before).traffic.waiting = []
  /-- After a request to stop no message is dispatched, nor after the loop has returned. -/
  silent : ∀ before after, es = before ++ after →
    Asked before ∨ ((start settings).run before).result ≠ none →
    s.log = ((start settings).run before).log

/-- **Accounts.** Whatever happens, and in whatever order. -/
theorem accounts_for_every_delivery (settings : Settings) (es : List Event) :
    Accounts settings es ((start settings).run es) := by
  obtain ⟨acts, hacts⟩ := traffic_run settings es
  have hb : ((start settings).run es).traffic.Booked := hacts ▸ Traffic.booked_run settings acts
  have ht : ((start settings).run es).traffic.Tallied := hacts ▸ Traffic.tallied_run settings acts
  have hbarred : ∀ before, ((start settings).run before).Barred ↔
      Asked before ∨ ((start settings).run before).result ≠ none := by
    intro before
    rw [Barred, asked_run]
  refine ⟨?_, ?_, hb.landed, ?_, fun d hcurrent more hmoves => ends_run hb hcurrent hmoves,
    looks_turn settings es, ht.balanced hb, landed_of_result settings es, ?_, ?_, ?_⟩
  · rw [← messages_run settings es, log_fst]
  · intro d hd
    obtain ⟨before, after, hes, hfree, hhead, hsnapshot⟩ :=
      taken_run settings es (List.mem_map_of_mem hd)
    rw [hbarred, not_or, not_not] at hfree
    exact ⟨before, after, hes, hfree.1, hfree.2, hhead, hsnapshot⟩
  · intro d hd hl
    exact ⟨Dispatched.adds_of_landed hl, (hb.exact d hd).matched_eq⟩
  · rw [result_run]
    simp only [Reason, asked_run]
  · intro e
    rw [result_run]
    simp only [Reason, ended_run, ← Bool.not_eq_true, asked_run]
    constructor
    · rintro ⟨before, after, hes, hready, he, hrest⟩
      exact ⟨he, before, after, hes, hready, hrest⟩
    · rintro ⟨he, before, after, hes, hready, hrest⟩
      exact ⟨before, after, hes, hready, he, hrest⟩
  · rintro before after rfl hstop
    rw [run_append]
    exact ((hbarred before).2 hstop).run after

/-- Of three clients one takes the message, one breaks down and is evicted, and one never takes it,
whose session is closed meanwhile, so that there is nobody left to evict. When they have had their
moves the loop reads the second message, unless it has been asked to stop, and then returns. -/
theorem accounts_for_three_deliveries :
    let btc := Topic.ofString "BTCUSDT"
    let first : Message := ⟨btc, [1]⟩
    let second : Message := ⟨btc, [2]⟩
    let es : List Event := [.reserve, .enroll 1 {}, .reserve, .enroll 2 { writing := .breaks 3 },
      .reserve, .enroll 3 { writing := .never }, .subscribe 1 [btc], .subscribe 2 [btc],
      .subscribe 3 [btc], .publish first, .publish second].map Event.act ++ [.turn]
    let more : List Event := [.move 0, .move 1, .move 2, .close 2, .move 2, .move 1, .move 0,
      .move 1, .move 0, .move 2].map Event.act ++ [.endStream]
    let s := (start {}).run es
    let s' := (start {}).run (es ++ more)
    Accounts {} es s ∧ Accounts {} (es ++ more) s' ∧
      (∃ d, s.traffic.current = some d ∧ d.snapshot.matching d.message.topic = [0, 1, 2]) ∧
      (∃ d, s'.traffic.dispatches[0]? = some d ∧ d.message = first ∧ d.landed = true ∧
        d.report = ⟨3, 1, 2, 1⟩) ∧
      s'.traffic.Balanced ∧ s'.traffic.gateway.metrics.deliveryFailures = 2 ∧
      (∃ d, (s'.step .turn).traffic.current = some d ∧ d.message = second) ∧
      ((s'.step .request).step .turn).result = some (.ok ()) := by
  intro btc first second es more s s'
  have haccounts : Accounts {} es s := accounts_for_every_delivery {} es
  have haccounts' : Accounts {} (es ++ more) s' := accounts_for_every_delivery {} (es ++ more)
  have hbegun : s.traffic.current.map (fun d =>
      (d.message, d.snapshot.matching d.message.topic)) = some (first, [0, 1, 2]) := by
    decide +kernel
  obtain ⟨d, hcurrent, hd⟩ := Option.map_eq_some_iff.1 hbegun
  obtain ⟨hfirst, hmatching⟩ := Prod.mk.inj hd
  have hmoves : ∀ k < (d.snapshot.matching d.message.topic).length,
      3 ≤ more.count (.act (.move k)) := by
    rw [hmatching]
    decide
  obtain ⟨d', hget, hmessage, -, hlanded, hready⟩ := haccounts.ends d hcurrent more hmoves
  have hrun : s.run more = s' := (run_append _ _ _).symm
  have hpast : s.traffic.past.length = 0 := by decide +kernel
  rw [hrun, hpast] at hget
  have hreports : s'.traffic.dispatches.map (·.report) = [⟨3, 1, 2, 1⟩] := by decide +kernel
  have hreport : d'.report = ⟨3, 1, 2, 1⟩ := by
    have hmem := List.mem_map_of_mem (f := (·.report)) (List.mem_of_getElem? hget)
    rw [hreports] at hmem
    exact List.mem_singleton.1 hmem
  have hready : s'.isReady = true := hrun ▸ hready (by decide +kernel) (by decide)
  have hbalanced := haccounts'.balanced (isReady_iff.1 hready).2
  have hwaiting : s'.traffic.waiting = [second] := by decide +kernel
  have hreads : ∃ d, (s'.step .turn).traffic.current = some d ∧ d.message = second := by
    cases haccounts'.looks hready with
    | stops hasked => exact absurd hasked (by decide)
    | reads e hasked hhead hsnapshot hdispatches hnow =>
      rw [hwaiting] at hhead
      exact ⟨e, hnow, (List.cons.inj hhead).1.symm⟩
    | closes hasked hended hnone | waits hasked hended hnone => simp [hwaiting] at hnone
  -- The request comes before the loop has looked again.
  have hasked : ((s'.step .request).step .turn).result = some (.ok ()) := by
    have hlast := accounts_for_every_delivery {} (es ++ more ++ [.request])
    rw [run_concat] at hlast
    have hsame : ∀ u : Service, (u.step .request).isReady = u.isReady := fun _ => rfl
    cases hlast.looks ((hsame s').trans hready) with
    | stops _ hresult => exact hresult
    | reads _ hfree | closes hfree | waits hfree => exact absurd (Or.inl (by simp)) hfree
  exact ⟨haccounts, haccounts', ⟨d, hcurrent, hmatching⟩,
    ⟨d', hget, hmessage.trans hfirst, hlanded, hreport⟩, hbalanced, by decide +kernel, hreads,
    hasked⟩

/-! ## The listener alone -/

/-- A service whose listener has nothing to do, and no reason to return. -/
structure Quiet (settings : Settings) (s : Service) : Prop where
  idle : s.traffic.Idle settings
  result : s.result = none
  asked : s.shutdown.isVisible = false
  ended : s.ended = false

theorem run_moves (s : Service) (ks : List Nat) :
    s.run (ks.map fun k => .act (.move k)) =
      { s with traffic := s.traffic.run (ks.map .move) } := by
  induction ks generalizing s with
  | nil => rfl
  | cons k ks ih => exact ih _

theorem Quiet.returns (hs : s.Quiet settings) (stop : Bool) :
    (s.run [if stop then .request else .endStream, .turn]).result =
        some (if stop then .ok () else .error .closed) ∧
      (s.run [if stop then .request else .endStream, .turn]).traffic = s.traffic := by
  obtain ⟨⟨-, hwaiting, hlanded⟩, hresult, hasked, hended⟩ := hs
  cases stop with
  | true =>
    simp [run, step, turn, isReady, hresult, hlanded, Shutdown.request, Shutdown.isVisible]
  | false => simp [run, step, turn, isReady, hresult, hlanded, hasked, hwaiting]

theorem Quiet.dispatch (hs : s.Quiet settings) (m : Message) :
    ∃ es, (s.run es).Quiet settings ∧
      (s.run es).traffic.gateway =
        (dispatch settings (s.traffic.gateway.count .busMessages) m).2.2 ∧
      (s.run es).traffic.dispatches.map (·.report) = s.traffic.dispatches.map (·.report) ++
        [(dispatch settings (s.traffic.gateway.count .busMessages) m).1] := by
  obtain ⟨ks, hidle, hgateway, hpast, hreport⟩ := hs.idle.dispatch_moves m
  obtain ⟨⟨-, hwaiting, hlanded⟩, hresult, hasked, hended⟩ := hs
  have hlanded' : (s.traffic.step (.publish m)).landed = true := hlanded
  have hfirst : s.run [.act (.publish m), .turn] =
      { s with traffic := s.traffic.run [.publish m, .take] } := by
    simp [run, step, act, turn, isReady, hended, hresult, hasked, hlanded', Traffic.run]
  have hrun : s.run ([.act (.publish m), .turn] ++ ks.map fun k => .act (.move k)) =
      { s with traffic := s.traffic.run ([.publish m, .take] ++ ks.map .move) } := by
    rw [run_append, hfirst, run_moves, Traffic.run_append]
  refine ⟨[.act (.publish m), .turn] ++ ks.map fun k => .act (.move k), ?_, ?_, ?_⟩
  · rw [hrun]
    exact ⟨hidle, hresult, hasked, hended⟩
  · rw [hrun]
    exact hgateway
  · rw [hrun]
    obtain ⟨d, hcurrent, hd⟩ := Option.map_eq_some_iff.1 hreport
    rw [← hd, Traffic.dispatches, hcurrent, hpast, List.map_append]
    rfl

/-- Whatever the listener does alone, keeping to the clock, is what its loop does amid events that
stop it where it stops: it returns the same, and leaves the same gateway and the same reports. -/
theorem listening_is_service (hs : s.Quiet settings) (stopAtEnd : Bool)
    (messages : List (Bool × Message)) (l : Listening) (hl : l.gateway = s.traffic.gateway)
    (hreports : l.reports = s.traffic.dispatches.map (·.report)) :
    ∃ es, (s.run es).result = some (l.run settings stopAtEnd messages).1 ∧
      (s.run es).traffic.gateway = (l.run settings stopAtEnd messages).2.gateway ∧
      (s.run es).traffic.dispatches.map (·.report) =
        (l.run settings stopAtEnd messages).2.reports := by
  induction messages generalizing s l with
  | nil =>
    obtain ⟨hresult, htraffic⟩ := hs.returns stopAtEnd
    exact ⟨_, hresult, by rw [htraffic]; exact hl.symm, by rw [htraffic]; exact hreports.symm⟩
  | cons p messages ih =>
    obtain ⟨stopped, m⟩ := p
    cases stopped with
    | true =>
      obtain ⟨hresult, htraffic⟩ := hs.returns true
      exact ⟨_, hresult, by rw [htraffic]; exact hl.symm, by rw [htraffic]; exact hreports.symm⟩
    | false =>
      obtain ⟨first, hquiet, hgateway, hreports'⟩ := hs.dispatch m
      have htake : (l.take settings m).gateway = (s.run first).traffic.gateway := by
        rw [hgateway, ← hl]
        rfl
      have htaken : (l.take settings m).reports =
          (s.run first).traffic.dispatches.map (·.report) := by
        rw [hreports', ← hreports, ← hl]
        rfl
      obtain ⟨rest, hresult, hgateway', hreports''⟩ := ih hquiet (l.take settings m) htake htaken
      exact ⟨first ++ rest, by rw [run_append, hresult]; rfl, by rw [run_append, hgateway']; rfl,
        by rw [run_append, hreports'']; rfl⟩

end CandleRelay.Gateway.Service
