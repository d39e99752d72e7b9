import CandleRelay.Gateway.Traffic
import CandleRelay.Proofs.Registry.Soundness

/-!
# What an act does to the registry and to the write sides

Everything that happens in a gateway touches the registry and the write sides in few ways, and the
lemmas here say which, one for each operation. Later proofs cite them and do not open the operations
again.

  1. `Registry.Ends r m r'`: from `r` to `r'` the only change to who is registered is the request
     `m`, if there is one, and its answer is the handle that was registered.
  2. `Gateway.log?`: what has happened to a write side. Only the move of a delivery adds to it
     (`log?_move`), and what it adds is `Delivery.effect`: a write begun, a payload written, or a
     close begun.
-/

namespace CandleRelay.Gateway

/-! ## The registry -/

namespace Registry

/-- The handle under which a connection is registered. -/
def handle? (r : Registry) (c : ConnectionId) : Option HandleId := (r.find? c).map (·.handle)

/-- The handle under which a connection is registered is that connection's. -/
theorem Sound.id_of_handle? {r : Registry} {c : ConnectionId} {h : HandleId} {x : Handle}
    (hr : r.Sound) (hc : r.handle? c = some h) (hx : r.handles[h]? = some x) : x.id = c := by
  obtain ⟨e, he, rfl⟩ := Option.map_eq_some_iff.1 hc
  obtain ⟨y, hy, hid, -⟩ := hr.handle_of_find? he
  rw [hx] at hy
  rw [Option.some.inj hy, hid]

/-- From `r` to `r'` nothing changes but topics, streaks, and the end of one registration at most,
which the request `m` asked for. -/
structure Ends (r : Registry) (m : Option Removal) (r' : Registry) : Prop where
  keeps : Keeps r r'
  sound : r.Sound → r'.Sound
  nextId : r'.nextId = r.nextId
  holds : ∀ c, r'.handle? c = if m.any (·.id == c) then none else r.handle? c
  got : ∀ q, m = some q → q.got = r.handle? q.id

variable {r r' r'' : Registry} {id c : ConnectionId} {h : HandleId} {m : Option Removal}

theorem Ends.refl (r : Registry) : Ends r none r :=
  ⟨Keeps.refl r, fun hr => hr, rfl, fun _ => rfl, fun _ hq => absurd hq (by simp)⟩

theorem Ends.after (h₁ : Ends r none r') (h₂ : Ends r' m r'') : Ends r m r'' := by
  have hholds : ∀ c, r'.handle? c = r.handle? c := fun c => by simp [h₁.holds c]
  refine ⟨h₁.keeps.trans h₂.keeps, fun hr => h₂.sound (h₁.sound hr),
    h₂.nextId.trans h₁.nextId, ?_, ?_⟩
  · intro c
    rw [h₂.holds c, hholds c]
  · intro q hq
    rw [h₂.got q hq, hholds q.id]

theorem Ends.held (hends : Ends r m r') (hc : r'.handle? c = some h) : r.handle? c = some h := by
  rw [hends.holds] at hc
  split at hc
  · simp at hc
  · exact hc

theorem ends_update {f : Registration → Registration} (hid : ∀ e, (f e).id = e.id)
    (hh : ∀ e, (f e).handle = e.handle) (hs : r.Sound → (r.update id f).2.Sound) :
    Ends r none (r.update id f).2 := by
  refine ⟨keeps_update f, hs, rfl, ?_, fun _ hq => absurd hq (by simp)⟩
  intro c
  rw [handle?, handle?, find?_update f hid]
  split
  · simp [Option.map_map, Function.comp_def, hh]
  · simp

theorem ends_subscribe (ts : List Topic) : Ends r none (r.subscribe id ts).2 :=
  ends_update (fun _ => rfl) (fun _ => rfl) fun hr => hr.subscribe ts

theorem ends_unsubscribe (ts : List Topic) : Ends r none (r.unsubscribe id ts).2 :=
  ends_update (fun _ => rfl) (fun _ => rfl) fun hr => hr.unsubscribe ts

theorem ends_recordFailure : Ends r none (r.recordFailure h).2 :=
  ⟨keeps_recordFailure, fun hr => hr.recordFailure, rfl, fun _ => rfl,
    fun _ hq => absurd hq (by simp)⟩

theorem ends_recordSuccess : Ends r none (r.recordSuccess h) :=
  ⟨keeps_recordSuccess, fun hr => hr.recordSuccess, rfl, fun _ => rfl,
    fun _ hq => absurd hq (by simp)⟩

theorem nextId_unregister : (r.unregister id).2.nextId = r.nextId := by
  cases he : r.find? id with
  | some e => rw [unregister_of_some he]
  | none => rw [unregister_of_none he]

theorem ends_unregister (who : Remover) :
    Ends r (some ⟨who, id, (r.unregister id).1⟩) (r.unregister id).2 := by
  refine ⟨keeps_unregister, fun hr => hr.unregister, nextId_unregister, ?_, ?_⟩
  · intro c
    rw [handle?, handle?, find?_unregister]
    by_cases hc : c = id
    · simp [hc]
    · have hne : ¬ id = c := fun h => hc h.symm
      simp [hc, hne]
  · -- The answer is the handle that was registered when the request was made.
    intro q hq
    obtain rfl := Option.some.inj hq
    exact fst_unregister

end Registry

/-! ## The write sides -/

/-- What has happened to a write side. -/
structure Log where
  received : List Bytes := []
  attempts : Nat := 0
  closeCalls : Nat := 0

/-- What happened, and then what happened next. -/
def Log.add (l next : Log) : Log :=
  ⟨l.received ++ next.received, l.attempts + next.attempts, l.closeCalls + next.closeCalls⟩

@[simp] theorem Log.add_empty (l : Log) : l.add {} = l := by simp [Log.add]

/-- What has happened to it. -/
def Sink.log (s : Sink) : Log := ⟨s.received, s.attempts, s.closeCalls⟩

/-- What happened to it. -/
def log? (g : Gateway) (k : SinkId) : Option Log := (g.sinks[k]?).map Sink.log

variable {g : Gateway} {d : Delivery} {settings : Settings} {payload : Bytes} {i : Nat}
  {k k' : SinkId}

theorem log?_modify (f : Sink → Sink) (next : Log) (hf : ∀ s, (f s).log = s.log.add next) :
    ({ g with sinks := g.sinks.modify k f } : Gateway).log? k' =
      if k' = k then (g.log? k').map (·.add next) else g.log? k' := by
  simp only [log?, List.getElem?_modify]
  by_cases hk : k' = k
  · subst hk
    cases g.sinks[k']? <;> simp [hf]
  · have hne : ¬ k = k' := fun h => hk h.symm
    simp [hk, hne]

theorem log?_set {s s' : Sink} {next : Log} (hs : g.sinks[k]? = some s)
    (hlog : s'.log = s.log.add next) :
    ({ g with sinks := g.sinks.set k s' } : Gateway).log? k' =
      if k' = k then (g.log? k').map (·.add next) else g.log? k' := by
  simp only [log?, List.getElem?_set]
  by_cases hk : k' = k
  · subst hk
    have hlt := (List.getElem?_eq_some_iff.1 hs).1
    simp only [hlt, ite_true, hs, Option.map_some, hlog]
  · have hne : ¬ k = k' := fun h => hk h.symm
    simp [hk, hne]

theorem log?_retune (f : Manner → Manner) : (g.retune k f).log? k' = g.log? k' := by
  refine (log?_modify (fun s => { s with toManner := f s.toManner }) {} ?_).trans ?_
  · exact fun s => s.log.add_empty.symm
  · simp

theorem log?_append (m : Manner) :
    ({ g with sinks := g.sinks ++ [{ toManner := m }] } : Gateway).log? k =
      if k = g.sinks.length then some {} else g.log? k := by
  simp only [log?]
  by_cases hk : k = g.sinks.length
  · subst hk
    simp [Sink.log]
  · rw [if_neg hk, List.getElem?_append]
    split
    · rfl
    · next hlt =>
      have hlt : g.sinks.length < k := Nat.lt_of_le_of_ne (Nat.le_of_not_lt hlt) (Ne.symm hk)
      rw [List.getElem?_eq_none (by simp; omega), List.getElem?_eq_none (Nat.le_of_lt hlt)]

theorem log?_length : g.log? g.sinks.length = none := by simp [log?]

/-! ## Sessions -/

theorem ends_carryOut {r r' : Registry} {id : ConnectionId} {f : ControlFrame} {b : Bool}
    (h : carryOut? r id f = some (b, r')) : r.Ends none r' := by
  unfold carryOut? at h
  split at h
  · obtain rfl := (Prod.mk.inj (Option.some.inj h)).2
    exact Registry.ends_subscribe _
  · obtain rfl := (Prod.mk.inj (Option.some.inj h)).2
    exact Registry.ends_unsubscribe _
  · simp at h

/-- A frame changes topics at most, and no write side. -/
theorem ends_receive (i : Nat) (data : Bytes) :
    g.registry.Ends none (g.receive i data).2.registry ∧
      (g.receive i data).2.sinks = g.sinks := by
  have hrefl := Registry.Ends.refl g.registry
  unfold receive
  split
  · exact ⟨hrefl, rfl⟩
  split
  · exact ⟨hrefl, rfl⟩
  split
  · exact ⟨hrefl, rfl⟩
  split
  · exact ⟨hrefl, rfl⟩
  · next hf => exact ⟨ends_carryOut hf, rfl⟩
  · exact ⟨hrefl, rfl⟩

/-- Closing a session asks for the end of its registration, the first time only. -/
theorem ends_closeSession (i : Nat) :
    g.registry.Ends (Traffic.closing? g i) (g.closeSession i).registry ∧
      (g.closeSession i).sinks = g.sinks := by
  have hrefl := Registry.Ends.refl g.registry
  unfold closeSession Traffic.closing?
  cases g.sessions[i]? with
  | none => exact ⟨hrefl, rfl⟩
  | some x =>
    cases hx : x.finished
    · simp only [hx, Bool.false_eq_true, ite_false]
      exact ⟨Registry.ends_unregister _, trivial⟩
    · simp only [hx, ite_true]
      exact ⟨hrefl, rfl⟩

/-! ## Deliveries -/

/-- What the next move does to the write side. -/
def Delivery.effect (settings : Settings) (payload : Bytes) (g : Gateway) (d : Delivery) : Log where
  received := match d.answer? payload g with
    | some (.ok _) => [payload]
    | _ => []
  attempts := match d.call? g with
    | some _ => 1
    | none => 0
  closeCalls := match d.removal? settings payload g with
    | some ⟨.eviction _, _, some _⟩ => 1
    | _ => 0

theorem log_writeResult (payload : Bytes) (ending : Ending) (s : Sink) :
    (Delivery.writeResult payload ending s).2.log = s.log.add
      { received := match (Delivery.writeResult payload ending s).1 with
          | .ok _ => [payload]
          | .error _ => [] } := by
  cases ending with
  | inTime =>
    simp only [Delivery.writeResult, Sink.finish]
    split <;> simp [Sink.log, Log.add]
  | timedOut => simp [Delivery.writeResult]
  | broken => simp [Delivery.writeResult]

namespace Delivery

/-- A failed delivery is below the limit, or comes too late to evict, or evicts. -/
theorem fail_cases (settings : Settings) {streak : Nat} {r : Registry}
    (hf : g.registry.recordFailure d.handle = (streak, r)) (now : Nat) (pace : Pace) :
    ((streak < settings.maxFailures ∨ (r.unregister d.id).1 = none) ∧
      d.fail settings now pace g =
        ({ g.count .deliveryFailures with registry := r },
          { d with stage := .ended now .failed })) ∨
    (¬ streak < settings.maxFailures ∧ ∃ h, (r.unregister d.id).1 = some h ∧
      d.fail settings now pace g =
        ({ g.count .deliveryFailures with
            registry := (r.unregister d.id).2
            sinks := g.sinks.modify d.sink Sink.beginClose },
          { d with
            stage := .closing (now + (pace.within settings.timeout).1)
              (pace.within settings.timeout).2 })) := by
  have hcount : (g.count .deliveryFailures).registry = g.registry := rfl
  simp only [fail, hcount, hf]
  split
  · next hlt => exact Or.inl ⟨Or.inl hlt, rfl⟩
  · next hlt =>
    split
    · next hnone => exact Or.inl ⟨Or.inr (by rw [hnone]), rfl⟩
    · next h r' hsome => exact Or.inr ⟨hlt, h, by rw [hsome], by rw [hsome]; rfl⟩

/-- All that the next move of a delivery does outside the delivery itself. -/
structure MoveSpec (settings : Settings) (payload : Bytes) (g : Gateway) (d : Delivery)
    (g' : Gateway) : Prop where
  ends : g.registry.Ends (d.removal? settings payload g) g'.registry
  logs : ∀ k, g'.log? k =
    if k = d.sink then (g.log? k).map (·.add (d.effect settings payload g)) else g.log? k

theorem log?_of_sinks {g' : Gateway} (h : g'.sinks = g.sinks) : g'.log? k = g.log? k := by
  rw [log?, log?, h]

theorem moveSpec_idle {g' : Gateway} (hr : g'.registry = g.registry) (hs : g'.sinks = g.sinks)
    (hcall : d.call? g = none) (hanswer : d.answer? payload g = none)
    (hremoval : d.removal? settings payload g = none) : MoveSpec settings payload g d g' := by
  refine ⟨by rw [hremoval, hr]; exact Registry.Ends.refl _, ?_⟩
  intro k
  have heffect : d.effect settings payload g = {} := by simp [effect, hcall, hanswer, hremoval]
  simp [heffect, log?_of_sinks hs]

theorem moveSpec_start (hstage : d.stage = .waiting) :
    MoveSpec settings payload g d (d.start settings g).1 := by
  cases hs : g.sinks[d.sink]? with
  | none =>
    have hstart : d.start settings g = (g, { d with stage := .ended 0 .failed }) := by
      simp [start, hs]
    rw [hstart]
    refine moveSpec_idle rfl rfl ?_ ?_ ?_ <;> simp [call?, answer?, removal?, hstage, hs]
  | some s =>
    have heffect : d.effect settings payload g = { attempts := 1 } := by
      cases hl : s.leaves <;> simp [effect, call?, answer?, removal?, hstage, hs, hl]
    have hlogs : ∀ k, ({ g with sinks := g.sinks.modify d.sink Sink.attempt } : Gateway).log? k =
        if k = d.sink then (g.log? k).map (·.add { attempts := 1 }) else g.log? k :=
      fun k => log?_modify Sink.attempt _ fun s => by simp [Sink.log, Sink.attempt, Log.add]
    cases hl : s.leaves with
    | true =>
      refine ⟨?_, ?_⟩
      · simp only [removal?, start, hstage, hs, hl, ite_true]
        exact Registry.ends_unregister _
      · intro k
        rw [heffect]
        simp only [start, hs, hl, ite_true]
        exact hlogs k
    | false =>
      refine ⟨?_, ?_⟩
      · simp only [removal?, start, hstage, hs, hl, Bool.false_eq_true, ite_false]
        exact Registry.Ends.refl _
      · intro k
        rw [heffect]
        simp only [start, hs, hl, Bool.false_eq_true, ite_false]
        exact hlogs k

/-- A failure adds to the write side a close at most, and that if it evicts. -/
theorem spec_fail (settings : Settings) {streak : Nat} {r : Registry}
    (hf : g.registry.recordFailure d.handle = (streak, r)) (now : Nat) (pace : Pace) :
    g.registry.Ends
        (if streak < settings.maxFailures then none
          else some ⟨.eviction d.handle, d.id, (r.unregister d.id).1⟩)
        (d.fail settings now pace g).1.registry ∧
      ∀ k, (d.fail settings now pace g).1.log? k =
        if k = d.sink ∧ ¬ streak < settings.maxFailures ∧ (r.unregister d.id).1.isSome
        then (g.log? k).map (·.add { closeCalls := 1 }) else g.log? k := by
  have hends : g.registry.Ends none r := by
    have := Registry.ends_recordFailure (r := g.registry) (h := d.handle)
    rwa [hf] at this
  rcases fail_cases settings hf now pace with ⟨hno, heq⟩ | ⟨hlt, h, hgot, heq⟩
  · rw [heq]
    refine ⟨?_, ?_⟩
    · split
      · exact hends
      · next hlt =>
        -- The request comes too late: there is no registration to end, and none is ended.
        have hnone : (r.unregister d.id).1 = none := hno.resolve_left hlt
        have hsame : (r.unregister d.id).2 = r := by
          rw [Registry.fst_unregister, Option.map_eq_none_iff] at hnone
          rw [Registry.unregister_of_none hnone]
        have hun : r.Ends (some ⟨.eviction d.handle, d.id, (r.unregister d.id).1⟩)
            (r.unregister d.id).2 := Registry.ends_unregister _
        rw [hsame] at hun
        exact hends.after hun
    · intro k
      rw [if_neg]
      · rfl
      · rintro ⟨-, hlt, hsome⟩
        rw [hno.resolve_left hlt] at hsome
        simp at hsome
  · rw [heq]
    refine ⟨?_, ?_⟩
    · rw [if_neg hlt]
      exact hends.after (Registry.ends_unregister _)
    · intro k
      simp only [hlt, hgot, not_false_eq_true, Option.isSome_some, and_true]
      exact log?_modify Sink.beginClose { closeCalls := 1 }
        fun s => by simp [Sink.log, Sink.beginClose, Log.add]

theorem moveSpec_settle_ok {due : Nat} {ending : Ending} {x x' : Sink} {u : Unit}
    (hstage : d.stage = .writing due ending) (hs : g.sinks[d.sink]? = some x)
    (hw : writeResult payload ending x = (.ok u, x')) :
    MoveSpec settings payload g d (d.settle settings payload due ending g).1 := by
  have hcall : d.call? g = none := by simp [call?, hstage]
  have hanswer : d.answer? payload g = some (.ok u) := by simp [answer?, hstage, hs, hw]
  have hremoval : d.removal? settings payload g = none := by simp [removal?, hstage, hs, hw]
  have hlog := log_writeResult payload ending x
  rw [hw] at hlog
  refine ⟨?_, ?_⟩
  · rw [hremoval]
    simp only [settle, hs, hw]
    exact Registry.ends_recordSuccess
  · intro k
    simp only [settle, hs, hw, effect, hcall, hanswer, hremoval]
    exact log?_set hs hlog

theorem moveSpec_settle_error {due : Nat} {ending : Ending} {x x' : Sink} {e : DeliveryError}
    (hstage : d.stage = .writing due ending) (hs : g.sinks[d.sink]? = some x)
    (hw : writeResult payload ending x = (.error e, x')) :
    MoveSpec settings payload g d (d.settle settings payload due ending g).1 := by
  have hcall : d.call? g = none := by simp [call?, hstage]
  have hanswer : d.answer? payload g = some (.error e) := by simp [answer?, hstage, hs, hw]
  have hlog := log_writeResult payload ending x
  rw [hw] at hlog
  -- The write side has used up a failure, which is no part of its log.
  have hset : ∀ k, ({ g with sinks := g.sinks.set d.sink x' } : Gateway).log? k = g.log? k := by
    intro k
    rw [log?_set hs hlog]
    simp
  cases hf : g.registry.recordFailure d.handle with
  | mk streak r =>
    have hremoval : d.removal? settings payload g =
        if streak < settings.maxFailures then none
        else some ⟨.eviction d.handle, d.id, (r.unregister d.id).1⟩ := by
      simp [removal?, hstage, hs, hw, hf]
    obtain ⟨hends, hlogs⟩ := spec_fail settings
      (g := { g with sinks := g.sinks.set d.sink x' }) hf due x'.closing
    refine ⟨?_, ?_⟩
    · rw [hremoval]
      simp only [settle, hs, hw]
      exact hends
    · intro k
      simp only [settle, hs, hw]
      rw [hlogs k, hset k]
      by_cases hk : k = d.sink
      · by_cases hlt : streak < settings.maxFailures
        · simp [effect, hcall, hanswer, hremoval, hlt]
        · cases hgot : (r.unregister d.id).1 <;>
            simp [effect, hcall, hanswer, hremoval, hlt, hgot, hk]
      · simp [hk]

theorem moveSpec_settle {due : Nat} {ending : Ending} (hstage : d.stage = .writing due ending) :
    MoveSpec settings payload g d (d.settle settings payload due ending g).1 := by
  cases hs : g.sinks[d.sink]? with
  | none =>
    have hsettle : d.settle settings payload due ending g =
        (g, { d with stage := .ended due .failed }) := by
      simp [settle, hs]
    rw [hsettle]
    refine moveSpec_idle rfl rfl ?_ ?_ ?_ <;> simp [call?, answer?, removal?, hstage, hs]
  | some x =>
    cases hw : writeResult payload ending x with
    | mk result x' =>
      cases result with
      | ok u => exact moveSpec_settle_ok hstage hs hw
      | error e => exact moveSpec_settle_error hstage hs hw

theorem moveSpec_finishClose {due : Nat} {ending : Ending}
    (hstage : d.stage = .closing due ending) :
    MoveSpec settings payload g d (d.finishClose due ending g).1 := by
  have hcall : d.call? g = none := by simp [call?, hstage]
  have hanswer : d.answer? payload g = none := by simp [answer?, hstage]
  have hremoval : d.removal? settings payload g = none := by simp [removal?, hstage]
  cases ending with
  | inTime =>
    have heffect : d.effect settings payload g = {} := by simp [effect, hcall, hanswer, hremoval]
    refine ⟨by rw [hremoval]; exact Registry.Ends.refl _, ?_⟩
    intro k
    rw [heffect]
    exact log?_modify (fun s => { s with closed := true }) {} fun s => s.log.add_empty.symm
  | timedOut => exact moveSpec_idle rfl rfl hcall hanswer hremoval
  | broken => exact moveSpec_idle rfl rfl hcall hanswer hremoval

/-- What a move does to the registry and to the write sides. -/
theorem moveSpec (settings : Settings) (payload : Bytes) (g : Gateway) (d : Delivery) :
    MoveSpec settings payload g d (d.move settings payload g).1 := by
  unfold move
  split
  · next hstage => exact moveSpec_start hstage
  · next hstage => exact moveSpec_settle hstage
  · next hstage => exact moveSpec_finishClose hstage
  · next hstage =>
    refine moveSpec_idle rfl rfl ?_ ?_ ?_ <;> simp [call?, answer?, removal?, hstage]

end Delivery

/-! ## Visits -/

/-- The sessions, and how many clients are counted to have come and to have gone. -/
def visits (g : Gateway) : List Session × Nat × Nat :=
  (g.sessions, g.metrics.connectionsOpened, g.metrics.connectionsClosed)

namespace Delivery

theorem visits_fail (now : Nat) (pace : Pace) :
    (d.fail settings now pace g).1.visits = g.visits := by
  obtain ⟨streak, r, hf⟩ : ∃ streak r, g.registry.recordFailure d.handle = (streak, r) :=
    ⟨_, _, rfl⟩
  rcases fail_cases settings hf now pace with ⟨-, hfail⟩ | ⟨-, h, -, hfail⟩
  · rw [hfail]
    rfl
  · rw [hfail]
    rfl

/-- No delivery has anything to do with the coming and going of clients. -/
theorem visits_move : (d.move settings payload g).1.visits = g.visits := by
  cases hstage : d.stage with
  | waiting =>
    simp only [move, hstage, start]
    split
    · rfl
    · split <;> rfl
  | writing due ending =>
    simp only [move, hstage, settle]
    split
    · rfl
    · split
      · rfl
      · exact visits_fail due _
  | closing due ending => cases ending <;> simp only [move, hstage] <;> rfl
  | ended time o => simp only [move, hstage]

end Delivery

/-! ## Evictions -/

/-- Whether the next move of a delivery evicts its connection. -/
def Delivery.evicts (settings : Settings) (payload : Bytes) (g : Gateway) (d : Delivery) : Bool :=
  match d.removal? settings payload g with
  | some ⟨.eviction _, _, some _⟩ => true
  | _ => false

/-- A delivery evicts when it goes on from a write to a close. -/
theorem evicts_eq {s : Sink} (hs : g.sinks[d.sink]? = some s) :
    d.evicts settings payload g =
      match d.stage with
      | .writing due ending =>
        match (d.settle settings payload due ending g).2.stage with
        | .closing _ _ => true
        | _ => false
      | _ => false := by
  cases hstage : d.stage with
  | waiting =>
    simp only [Delivery.evicts, Delivery.removal?, hstage, hs]
    split <;> simp_all
  | writing due ending =>
    simp only [Delivery.evicts, Delivery.removal?, hstage, hs, Delivery.settle]
    cases hw : Delivery.writeResult payload ending s with
    | mk result s' =>
      cases result with
      | ok u => rfl
      | error e =>
        obtain ⟨streak, r, hf⟩ : ∃ streak r, g.registry.recordFailure d.handle = (streak, r) :=
          ⟨_, _, rfl⟩
        rcases Delivery.fail_cases (g := { g with sinks := g.sinks.set d.sink s' }) settings hf due
          s'.closing with ⟨hno, hfail⟩ | ⟨hlimit, h, hgot, hfail⟩
        · simp only [hfail, hf]
          rcases hno with hlt | hnone
          · simp [hlt]
          · by_cases hlt : streak < settings.maxFailures <;> simp [hlt, hnone]
        · simp only [hfail, hf, if_neg hlimit, hgot]
  | closing due ending => simp [Delivery.evicts, Delivery.removal?, hstage]
  | ended time o => simp [Delivery.evicts, Delivery.removal?, hstage]

/-! ## Stages -/

/-- Whether the write has begun. -/
def Stage.begun : Stage → Bool
  | .waiting => false
  | _ => true

/-- Whether it is known what came of the write. -/
def Stage.answered : Stage → Bool
  | .waiting => false
  | .writing _ _ => false
  | _ => true

namespace Delivery

theorem begun_of_answered {st : Stage} (h : st.answered = true) : st.begun = true := by
  cases st <;> first | rfl | exact absurd h (by simp [Stage.answered])

theorem answered_of_isOver (h : d.isOver = true) : d.stage.answered = true := by
  simp only [isOver, due?] at h
  cases hst : d.stage <;> simp [hst, Stage.answered] at h ⊢

theorem stage_fail (now : Nat) (pace : Pace) :
    ∃ st : Stage, (d.fail settings now pace g).2 = { d with stage := st } ∧ st.answered = true := by
  cases hf : g.registry.recordFailure d.handle with
  | mk streak r =>
    rcases fail_cases settings hf now pace with ⟨-, heq⟩ | ⟨-, h, -, heq⟩
    · exact ⟨_, by rw [heq], rfl⟩
    · exact ⟨_, by rw [heq], rfl⟩

theorem stage_settle (settings : Settings) (payload : Bytes) (g : Gateway) (d : Delivery)
    (now : Nat) (ending : Ending) :
    ∃ st : Stage, (d.settle settings payload now ending g).2 = { d with stage := st } ∧
      st.answered = true := by
  cases hs : g.sinks[d.sink]? with
  | none => exact ⟨_, by simp only [settle, hs]; rfl, rfl⟩
  | some s =>
    cases hw : writeResult payload ending s with
    | mk result s' =>
      cases result with
      | ok u => exact ⟨_, by simp only [settle, hs, hw]; rfl, rfl⟩
      | error e =>
        simp only [settle, hs, hw]
        exact stage_fail now s'.closing

/-- A move changes the stage only: the first begins the write, and the next knows what came of
it. -/
theorem stage_move (settings : Settings) (payload : Bytes) {s : Sink}
    (hs : g.sinks[d.sink]? = some s) :
    ∃ st : Stage, (d.move settings payload g).2 = { d with stage := st } ∧
      st.begun = true ∧ st.answered = d.stage.begun := by
  cases hst : d.stage with
  | waiting => exact ⟨_, by simp only [move, hst, start, hs]; rfl, rfl, rfl⟩
  | writing due ending =>
    obtain ⟨st, heq, hanswered⟩ := stage_settle settings payload g d due ending
    exact ⟨st, by simp only [move, hst, heq], begun_of_answered hanswered, hanswered⟩
  | closing due ending =>
    cases ending <;> exact ⟨_, by simp only [move, hst, finishClose]; rfl, rfl, rfl⟩
  | ended time o =>
    refine ⟨.ended time o, ?_, rfl, rfl⟩
    simp only [move, hst]
    rw [← hst]

theorem call?_eq {s : Sink} (hs : g.sinks[d.sink]? = some s) :
    d.call? g = if d.stage.begun then none else some d.handle := by
  cases hst : d.stage <;> simp [call?, hst, hs, Stage.begun]

theorem answer?_of_evicts {q : Removal} {h : HandleId}
    (hq : d.removal? settings payload g = some q) (hwho : q.who = .eviction h) :
    h = d.handle ∧ q.id = d.id ∧ ∃ e, d.answer? payload g = some (.error e) := by
  unfold removal? at hq
  split at hq
  · split at hq
    · obtain rfl := Option.some.inj hq
      simp at hwho
    · simp at hq
  · next due ending s hstage hs =>
    split at hq
    · simp at hq
    · next e hw =>
      simp only at hq
      split at hq
      · simp at hq
      · obtain rfl := Option.some.inj hq
        exact ⟨(Remover.eviction.inj hwho).symm, rfl, e, by simp [answer?, hstage, hs, hw]⟩
  · simp at hq

theorem isSome_answer? (payload : Bytes) {s : Sink} (hs : g.sinks[d.sink]? = some s) :
    (d.answer? payload g).isSome = (d.stage.begun && !d.stage.answered) := by
  cases hst : d.stage <;> simp [answer?, hst, hs, Stage.begun, Stage.answered]

theorem writeResult_eq_ok_iff {ending : Ending} {e : Sink} :
    (writeResult payload ending e).1 = .ok () ↔ ending = .inTime ∧ e.failures.any = false := by
  cases ending with
  | inTime => cases hf : e.failures.any <;> simp [writeResult, Sink.finish, hf]
  | timedOut => simp [writeResult]
  | broken => simp [writeResult]

theorem answer?_cases {r : Except DeliveryError Unit} (hr : d.answer? payload g = some r) :
    ∃ due ending e, d.stage = .writing due ending ∧ g.sinks[d.sink]? = some e ∧
      (writeResult payload ending e).1 = r := by
  unfold answer? at hr
  split at hr
  · next due ending e hstage he => exact ⟨due, ending, e, hstage, he, Option.some.inj hr⟩
  · simp at hr

/-- A write that is under way after a move has begun with it. -/
theorem writing_move {due : Nat} {ending : Ending}
    (h : (d.move settings payload g).2.stage = .writing due ending) :
    ∃ b, g.sinks[d.sink]? = some b ∧ (b.writing.within settings.timeout).2 = ending := by
  cases hstage : d.stage with
  | waiting =>
    simp only [move, hstage, start] at h
    split at h
    · simp at h
    · next b hb => exact ⟨b, hb, (Stage.writing.inj h).2⟩
  | writing due' ending' =>
    obtain ⟨st, hst, hanswered⟩ := stage_settle settings payload g d due' ending'
    simp only [move, hstage, hst] at h
    rw [h] at hanswered
    simp [Stage.answered] at hanswered
  | closing due' ending' => cases ending' <;> simp [move, hstage, finishClose] at h
  | ended time o => simp [move, hstage] at h

end Delivery

namespace Traffic

/-- The traffic after a message has been taken from those that wait. -/
def afterTake (s : Traffic) (m : Message) (rest : List Message) : Traffic :=
  { s with
    gateway := s.gateway.count .busMessages
    waiting := rest
    past := s.dispatches
    current := some (Dispatched.launch s.settings (s.gateway.count .busMessages) m) }

/-- Either the listener cannot go on, or it takes the next message. -/
theorem takeNext_cases (s : Traffic) :
    s.takeNext = s ∨ ∃ m rest, s.waiting = m :: rest ∧ s.landed = true ∧
      s.takeNext = s.afterTake m rest := by
  unfold takeNext
  split
  · exact Or.inl rfl
  split
  · next m rest hwaiting hlanded => exact Or.inr ⟨m, rest, hwaiting, hlanded, rfl⟩
  · exact Or.inl rfl

theorem takeNext_of_landed {s : Traffic} {m : Message} {rest : List Message}
    (hl : s.landed = true) (hw : s.waiting = m :: rest) : s.takeNext = s.afterTake m rest := by
  simp only [takeNext, hw, hl, ite_true]
  rfl

theorem take_published {s : Traffic} (hw : s.waiting = []) (hl : s.landed = true) (m : Message) :
    (s.step (.publish m)).step .take = (s.step (.publish m)).afterTake m [] := by
  have hwaiting : (s.step (.publish m)).waiting = [m] := by
    show s.waiting ++ [m] = [m]
    rw [hw, List.nil_append]
  exact takeNext_of_landed (s := s.step (.publish m)) hl hwaiting

/-- The traffic after the `k`-th delivery of a dispatch has made its move. -/
def afterMove (s : Traffic) (d : Dispatched) (k : Nat) (old : Delivery) : Traffic :=
  { s with
    gateway := (old.move d.flight.settings d.flight.payload s.gateway).1
    current := some (d.moved s.gateway k old
      (old.move d.flight.settings d.flight.payload s.gateway).2)
    removals := s.removals ++
      (old.removal? d.flight.settings d.flight.payload s.gateway).toList }

theorem moveDelivery_of_getElem? {s : Traffic} {d : Dispatched} {k : Nat} {old : Delivery}
    (hcurrent : s.current = some d) (hk : d.flight.deliveries[k]? = some old) :
    s.moveDelivery k = s.afterMove d k old := by
  simp only [moveDelivery, hcurrent, hk]
  rfl

theorem moveDelivery_cases (s : Traffic) (k : Nat) :
    s.moveDelivery k = s ∨ ∃ d old, s.current = some d ∧ d.flight.deliveries[k]? = some old ∧
      s.moveDelivery k = s.afterMove d k old := by
  unfold moveDelivery
  split
  · exact Or.inl rfl
  next d hcurrent =>
  split
  · exact Or.inl rfl
  next old hk => exact Or.inr ⟨d, old, hcurrent, hk, rfl⟩

end Traffic

end CandleRelay.Gateway
