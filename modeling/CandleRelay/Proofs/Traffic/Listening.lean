import CandleRelay.Gateway.Listener
import CandleRelay.Proofs.Traffic.Delivery

/-!
# The listener alone

A gateway with nothing going on but the listener, which keeps to the clock, is one of the runs of a
gateway with everything going on at once. What a dispatch does up to a time are moves of its
deliveries (`inFlight_advance`); without a limit it goes on until all of them are over
(`isOver_advance`); so whatever the listener does with its messages is a run of acts
(`listening_is_run`), and what holds of all runs holds of it.
-/

namespace CandleRelay.Gateway

namespace Delivery

variable (settings : Settings) (payload : Bytes)

theorem moveBefore_none (gd : Gateway × Delivery) :
    (moveBefore settings payload none gd).2.stage.movesLeft ≤ gd.2.stage.movesLeft - 1 := by
  unfold moveBefore
  split
  · next h => simp at h
  · exact movesLeft_move settings payload
  · next h =>
    have hover : gd.2.stage.movesLeft = 0 := isOver_iff.1 (by rw [isOver, h]; rfl)
    omega

/-- Without a limit a delivery goes on until it is over. -/
theorem isOver_advance (gd : Gateway × Delivery) :
    (advance settings payload none gd).2.isOver = true := by
  let next := moveBefore settings payload none
  have hthree := gd.2.stage.movesLeft_le
  have hfirst : (next gd).2.stage.movesLeft ≤ gd.2.stage.movesLeft - 1 :=
    moveBefore_none settings payload gd
  have hsecond : (next (next gd)).2.stage.movesLeft ≤ (next gd).2.stage.movesLeft - 1 :=
    moveBefore_none settings payload (next gd)
  have hthird : (next (next (next gd))).2.stage.movesLeft ≤
      (next (next gd)).2.stage.movesLeft - 1 := moveBefore_none settings payload (next (next gd))
  have hnone : (next (next (next gd))).2.stage.movesLeft = 0 := by omega
  exact isOver_iff.2 hnone

end Delivery

theorem Flight.landed_advance (f : Flight) (g : Gateway) :
    ((f.advance g none).2.deliveries.all Delivery.isOver) = true := by
  show (advanceAll f.settings f.payload none g f.deliveries).2.all Delivery.isOver = true
  generalize f.deliveries = vs
  induction vs generalizing g with
  | nil => rfl
  | cons v vs ih =>
    show (Delivery.isOver _ && (advanceAll f.settings f.payload none _ vs).2.all _) = true
    rw [ih, Bool.and_true]
    exact Delivery.isOver_advance f.settings f.payload (g, v)

/-- The dispatch with another delivery in the place of its `k`-th. -/
def Flight.put (f : Flight) (k : Nat) (v : Delivery) : Flight :=
  { f with deliveries := f.deliveries.set k v }

namespace Traffic

variable {s : Traffic} {g : Gateway} {f : Flight} {k : Nat} {v : Delivery}

/-- Moves of deliveries alone bring the gateway and the dispatch in it so far. -/
def Reaches (s : Traffic) (g : Gateway) (f : Flight) : Prop :=
  ∃ ks : List Nat, (s.run (ks.map .move)).gateway = g ∧
    (s.run (ks.map .move)).current.map (·.flight) = some f

theorem Reaches.move (h : s.Reaches g f) (hk : f.deliveries[k]? = some v) :
    s.Reaches (v.move f.settings f.payload g).1 (f.put k (v.move f.settings f.payload g).2) := by
  obtain ⟨ks, rfl, hf⟩ := h
  obtain ⟨d, hcurrent, rfl⟩ := Option.map_eq_some_iff.1 hf
  refine ⟨ks ++ [k], ?_⟩
  rw [List.map_append, List.map_singleton, run_concat]
  have hmove : (s.run (ks.map .move)).step (.move k) = (s.run (ks.map .move)).afterMove d k v :=
    moveDelivery_of_getElem? hcurrent hk
  rw [hmove]
  exact ⟨rfl, rfl⟩

theorem Reaches.moveBefore {gv : Gateway × Delivery} (h : s.Reaches gv.1 (f.put k gv.2))
    (hk : k < f.deliveries.length) (limit : Option Nat) :
    s.Reaches (Delivery.moveBefore f.settings f.payload limit gv).1
      (f.put k (Delivery.moveBefore f.settings f.payload limit gv).2) := by
  have hget : (f.put k gv.2).deliveries[k]? = some gv.2 := by
    rw [Flight.put, List.getElem?_set_self hk]
  have hmove := h.move hget
  have hput : (f.put k gv.2).put k (gv.2.move f.settings f.payload gv.1).2 =
      f.put k (gv.2.move f.settings f.payload gv.1).2 := by
    simp only [Flight.put, List.set_set]
  have hmove : s.Reaches (gv.2.move f.settings f.payload gv.1).1
      (f.put k (gv.2.move f.settings f.payload gv.1).2) := hput ▸ hmove
  unfold Delivery.moveBefore
  split
  · split
    · exact hmove
    · exact h
  · exact hmove
  · exact h

theorem Reaches.advance {gv : Gateway × Delivery} (h : s.Reaches gv.1 (f.put k gv.2))
    (hk : k < f.deliveries.length) (limit : Option Nat) :
    s.Reaches (Delivery.advance f.settings f.payload limit gv).1
      (f.put k (Delivery.advance f.settings f.payload limit gv).2) :=
  ((h.moveBefore hk limit).moveBefore hk limit).moveBefore hk limit

theorem Reaches.advanceAll (limit : Option Nat) (done vs : List Delivery)
    (h : s.Reaches g { f with deliveries := done ++ vs }) :
    s.Reaches (Flight.advanceAll f.settings f.payload limit g vs).1
      { f with deliveries := done ++ (Flight.advanceAll f.settings f.payload limit g vs).2 } := by
  induction vs generalizing done g with
  | nil => exact h
  | cons v vs ih =>
    have hk : done.length < (done ++ v :: vs).length := by simp
    have hput : ∀ w, ({ f with deliveries := done ++ v :: vs } : Flight).put done.length w =
        { f with deliveries := (done ++ [w]) ++ vs } := by
      intro w
      simp [Flight.put]
    have hstart : s.Reaches g
        (({ f with deliveries := done ++ v :: vs } : Flight).put done.length v) := by
      rw [hput, List.append_assoc]
      exact h
    have hadvance := @Reaches.advance s _ done.length (g, v) hstart hk limit
    rw [hput] at hadvance
    have hrest := ih (done ++ [_]) hadvance
    rw [List.append_assoc] at hrest
    exact hrest

/-- What a dispatch does up to a time are moves of its deliveries. -/
theorem Reaches.flight_advance (h : s.Reaches g f) (limit : Option Nat) :
    s.Reaches (f.advance g limit).1 (f.advance g limit).2 :=
  Reaches.advanceAll (f := f) limit [] f.deliveries h

theorem published_append (before after : List Act) :
    published (before ++ after) = published before ++ published after := List.filterMap_append

theorem published_moves (ks : List Nat) : published (ks.map .move) = [] := by
  induction ks with
  | nil => rfl
  | cons k ks ih => exact ih

theorem idle_moves (ks : List Nat) :
    (s.run (ks.map .move)).waiting = s.waiting ∧ (s.run (ks.map .move)).settings = s.settings ∧
      (s.run (ks.map .move)).past = s.past := by
  induction ks generalizing s with
  | nil => exact ⟨rfl, rfl, rfl⟩
  | cons k ks ih =>
    obtain ⟨hwaiting, hsettings, hpast⟩ := ih (s := s.step (.move k))
    have hstep : (s.moveDelivery k).waiting = s.waiting ∧
        (s.moveDelivery k).settings = s.settings ∧ (s.moveDelivery k).past = s.past := by
      rcases moveDelivery_cases s k with hsame | ⟨d, old, -, -, hmove⟩
      · rw [hsame]
        exact ⟨rfl, rfl, rfl⟩
      · rw [hmove]
        exact ⟨rfl, rfl, rfl⟩
    exact ⟨hwaiting.trans hstep.1, hsettings.trans hstep.2.1, hpast.trans hstep.2.2⟩

theorem landed_step (hl : s.landed = true) {a : Act} (ha : a ≠ .take) :
    (s.step a).landed = true := by
  cases flies s a with
  | stays hpast hcurrent hnone => rwa [landed, hcurrent]
  | takes m rest htake hlanded hstep => exact absurd htake ha
  | moves d k old hmove hcurrent hk hstep =>
    rw [hstep]
    rw [landed, hcurrent] at hl
    have hold := Delivery.isOver_iff.1 (List.all_eq_true.1 hl old (List.mem_of_getElem? hk))
    refine List.all_eq_true.2 fun v hv => ?_
    rcases List.mem_or_eq_of_mem_set hv with hv | rfl
    · exact List.all_eq_true.1 hl v hv
    · have hmove := Delivery.movesLeft_move d.flight.settings d.flight.payload
        (g := s.gateway) (v := old)
      exact Delivery.isOver_iff.2 (by omega)

/-- A gateway where the listener has nothing to do. -/
structure Idle (settings : Settings) (s : Traffic) : Prop where
  settings : s.settings = settings
  waiting : s.waiting = []
  landed : s.landed = true

/-- The dispatch of one message, from beginning to end, are moves of its deliveries. -/
theorem dispatch_moves (s : Traffic) (m : Message) (rest : List Message) :
    ∃ (ks : List Nat) (d : Dispatched),
      ((s.afterTake m rest).run (ks.map .move)).current = some d ∧ d.landed = true ∧
      dispatch s.settings (s.gateway.count .busMessages) m =
        (d.flight.report, d.flight.duration,
          ((s.afterTake m rest).run (ks.map .move)).gateway) := by
  have hreaches : (s.afterTake m rest).Reaches (s.gateway.count .busMessages)
      (Flight.launch s.settings (s.gateway.count .busMessages) m) := ⟨[], rfl, rfl⟩
  obtain ⟨ks, hgateway, hflight⟩ := hreaches.flight_advance none
  obtain ⟨d, hcurrent, hd⟩ := Option.map_eq_some_iff.1 hflight
  refine ⟨ks, d, hcurrent, ?_, ?_⟩
  · show d.flight.deliveries.all Delivery.isOver = true
    rw [hd]
    exact Flight.landed_advance _ _
  · rw [hgateway, hd]
    rfl

theorem Idle.dispatch_moves {settings : Settings} (hs : s.Idle settings) (m : Message) :
    ∃ ks : List Nat, (s.run ([.publish m, .take] ++ ks.map .move)).Idle settings ∧
      (s.run ([.publish m, .take] ++ ks.map .move)).gateway =
        (dispatch settings (s.gateway.count .busMessages) m).2.2 ∧
      (s.run ([.publish m, .take] ++ ks.map .move)).past = s.dispatches ∧
      (s.run ([.publish m, .take] ++ ks.map .move)).current.map (·.flight.report) =
        some (dispatch settings (s.gateway.count .busMessages) m).1 := by
  obtain ⟨rfl, hwaiting, hlanded⟩ := hs
  have hnext : s.run [.publish m, .take] = (s.step (.publish m)).afterTake m [] :=
    take_published hwaiting hlanded m
  obtain ⟨ks, d, hcurrent, hover, hdispatch⟩ := Traffic.dispatch_moves (s.step (.publish m)) m []
  obtain ⟨hw, hsettings, hpast⟩ := idle_moves (s := (s.step (.publish m)).afterTake m []) ks
  have hrun : s.run ([.publish m, .take] ++ ks.map .move) =
      ((s.step (.publish m)).afterTake m []).run (ks.map .move) := by rw [run_append, hnext]
  have hdispatch : dispatch s.settings (s.gateway.count .busMessages) m = _ := hdispatch
  refine ⟨ks, ?_⟩
  rw [hrun]
  refine ⟨⟨hsettings, hw, ?_⟩, ?_, hpast, ?_⟩
  · rw [Traffic.landed, hcurrent]
    exact hover
  · rw [hdispatch]
  · rw [hcurrent, hdispatch]
    rfl

theorem Idle.dispatch {settings : Settings} (hs : s.Idle settings) (m : Message) :
    ∃ acts, published acts = [m] ∧ (s.run acts).Idle settings ∧
      (s.run acts).gateway = (dispatch settings (s.gateway.count .busMessages) m).2.2 := by
  obtain ⟨ks, hidle, hgateway, -, -⟩ := hs.dispatch_moves m
  refine ⟨_, ?_, hidle, hgateway⟩
  rw [published_append, published_moves]
  rfl

/-- Whatever the listener does with its messages is a run, in which just the messages come to it
that it has dispatched. -/
theorem listening_is_run {settings : Settings} (hs : s.Idle settings) (stopAtEnd : Bool)
    (messages : List (Bool × Message)) (l : Listening) (hl : l.gateway = s.gateway) :
    ∃ acts, published acts = (messages.takeWhile fun m => !m.1).map (·.2) ∧
      (s.run acts).Idle settings ∧
      (s.run acts).gateway = (l.run settings stopAtEnd messages).2.gateway := by
  induction messages generalizing s l with
  | nil => exact ⟨[], rfl, hs, hl.symm⟩
  | cons m messages ih =>
    obtain ⟨stopped, m⟩ := m
    cases stopped with
    | true => exact ⟨[], rfl, hs, hl.symm⟩
    | false =>
      obtain ⟨first, hfirst, hs', hgateway⟩ := hs.dispatch m
      have htake : (l.take settings m).gateway = (s.run first).gateway := by
        rw [hgateway, ← hl]
        rfl
      obtain ⟨rest, hrest, hs'', hgateway'⟩ := ih hs' (l.take settings m) htake
      refine ⟨first ++ rest, ?_, ?_, ?_⟩
      · rw [published_append, hfirst, hrest]
        rfl
      · rw [run_append]
        exact hs''
      · rw [run_append, hgateway']
        rfl

end Traffic

end CandleRelay.Gateway
