import CandleRelay.Proofs.Traffic.Delivery

/-!
# The life of a connection

A session that is closed, a delivery that fails and anybody else may ask for the end of the same
registration, at the same time and by its id alone. As long as connections are registered only when
a client comes, each with an id of its own, just one of the requests ends it.

What is proved:
  1. `Traffic.Lived`: no id is given out twice; and each handle is `Live`, its connection being
     registered with it and nobody having been given it, or `Gone`, its connection being registered
     no more and one request having been given it. A close is begun just when a delivery won, and it
     was the delivery's own. One act keeps this (`Lived.step`), and so does a run (`lived_run`).
  2. `lives_once`: what follows for every run in which fewer clients come than there are ids.
-/

namespace CandleRelay.Gateway.Traffic

variable {s s' : Traffic} {c id : ConnectionId} {h : HandleId} {x : Handle} {a : Act}

/-- The requests that were given the handle of a connection. -/
def wins (s : Traffic) (c : ConnectionId) : List Removal :=
  s.removals.filter fun m => m.id == c && m.got.isSome

/-- Whether a write to the sink of a handle has failed. -/
def Failed (s : Traffic) (h : HandleId) : Prop := ∃ d ∈ s.dispatches, ∃ e, .error e ∈ d.answersOf h

/-- How many closes of the sink of a handle were begun. -/
def closes (s : Traffic) (x : Handle) : Option Nat := (s.gateway.log? x.sink).map (·.closeCalls)

/-- The connection of the handle is registered, and nobody has ended that. -/
structure Live (s : Traffic) (h : HandleId) (x : Handle) : Prop where
  held : s.gateway.registry.handle? x.id = some h
  wins : s.wins x.id = []
  closes : s.closes x = some 0

/-- The registration is over: one request has ended it, and if that was a failed delivery's, it was
of the same handle, and has closed the sink. -/
structure Gone (s : Traffic) (h : HandleId) (x : Handle) : Prop where
  unheld : s.gateway.registry.handle? x.id = none
  winner : ∃ m, s.wins x.id = [m] ∧ m.got = some h ∧ s.closes x = some m.who.evicts.toNat ∧
    ∀ h', m.who = .eviction h' → h' = h ∧ s.Failed h

/-- Each handle has lived once at most. `n` ids were given out, all of them different. -/
structure Lived (n : Nat) (s : Traffic) : Prop where
  booked : s.Booked
  nextId : s.gateway.registry.nextId = (1 + n) % Registry.idCount
  drawn : ∀ c ∈ s.reserved ++ s.gateway.registry.handles.map (·.id),
    ∃ i < n, c = (1 + i) % Registry.idCount
  nodup : (s.reserved ++ s.gateway.registry.handles.map (·.id)).Nodup
  fate : ∀ (h : HandleId) (x : Handle), s.gateway.registry.handles[h]? = some x →
    s.Live h x ∨ s.Gone h x
  strays : ∀ m ∈ s.removals, m.got.isSome → m.id ∈ s.gateway.registry.handles.map (·.id)

theorem Lived.eq_of_id {n : Nat} (hl : s.Lived n) {h' : HandleId} {x' : Handle}
    (hx : s.gateway.registry.handles[h]? = some x)
    (hx' : s.gateway.registry.handles[h']? = some x') (hid : x.id = x'.id) : h = h' := by
  have hnodup := (List.nodup_append'.1 hl.nodup).2.1
  have hlt : h < (s.gateway.registry.handles.map (·.id)).length := by
    simpa using (List.getElem?_eq_some_iff.1 hx).1
  refine (List.getElem?_inj hlt hnodup).1 ?_
  simp [hx, hx', hid]

theorem mem_wins {m : Removal} : m ∈ s.wins c ↔ m ∈ s.removals ∧ m.id = c ∧ m.got.isSome := by
  simp [wins]

theorem wins_append {m : Option Removal} (h : s'.removals = s.removals ++ m.toList) :
    s'.wins c = s.wins c ++ (m.filter fun q => q.id == c && q.got.isSome).toList := by
  rw [wins, wins, h, List.filter_append]
  cases m with
  | none => rfl
  | some q => cases hq : (q.id == c && q.got.isSome) <;> simp [hq, Option.filter]

/-- An act that makes no handle: there is one request for the end of a registration at most, and
what closes is the sink of a delivery that evicted. -/
structure Passes (s : Traffic) (m : Option Removal) (s' : Traffic) : Prop where
  booked : s'.Booked
  ends : s.gateway.registry.Ends m s'.gateway.registry
  reserved : s'.reserved = s.reserved
  removals : s'.removals = s.removals ++ m.toList
  closes : ∀ (h : HandleId) (x : Handle), s.gateway.registry.handles[h]? = some x →
    s'.closes x = (s.closes x).map (· + (m.any fun q => q.got == some h && q.who.evicts).toNat)
  failed : ∀ h, s.Failed h → s'.Failed h
  who : ∀ q h h', m = some q → q.got = some h → q.who = .eviction h' → h' = h ∧ s'.Failed h

section Passes

variable {m : Option Removal} {x' : Handle}

theorem Passes.id_of_got (hp : s.Passes m s') (hb : s.Booked)
    (hx : s.gateway.registry.handles[h]? = some x) {q : Removal} (hq : m = some q)
    (hgot : q.got = some h) : q.id = x.id := by
  have hheld := (hp.ends.got q hq).symm.trans hgot
  exact (hb.sound.id_of_handle? hheld hx).symm

theorem Passes.closes_eq_of_not_got (hp : s.Passes m s')
    (hx : s.gateway.registry.handles[h]? = some x) (hno : ∀ q, m = some q → q.got ≠ some h) :
    s'.closes x = s.closes x := by
  have hnone : (m.any fun q => q.got == some h && q.who.evicts) = false := by
    cases m with
    | none => rfl
    | some q => simp [hno q rfl]
  rw [hp.closes h x hx, hnone]
  cases s.closes x <;> rfl

/-- A connection that is registered stays so, or the request was for it. -/
theorem Live.passes (hv : s.Live h x) (hp : s.Passes m s') (hb : s.Booked)
    (hx : s.gateway.registry.handles[h]? = some x) : s'.Live h x ∨ s'.Gone h x := by
  by_cases hany : m.any (·.id == x.id) = true
  · -- The request was for this connection, and is its winner.
    right
    obtain ⟨q, rfl, hid⟩ : ∃ q, m = some q ∧ q.id = x.id := by
      cases m with
      | none => simp at hany
      | some q => exact ⟨q, rfl, by simpa using hany⟩
    have hgot : q.got = some h := by rw [hp.ends.got q rfl, hid, hv.held]
    refine ⟨by rw [hp.ends.holds, if_pos hany], q, ?_, hgot, ?_, ?_⟩
    · rw [wins_append hp.removals, hv.wins]
      simp [hid, hgot]
    · rw [hp.closes h x hx, hv.closes]
      simp [hgot]
    · exact fun h' hwho => hp.who q h h' rfl hgot hwho
  · -- The request, if there was one, was for another connection.
    left
    have hno : ∀ q, m = some q → q.got ≠ some h := by
      rintro q rfl hgot
      exact hany (by simpa using hp.id_of_got hb hx rfl hgot)
    refine ⟨by rw [hp.ends.holds, if_neg hany, hv.held], ?_, ?_⟩
    · rw [wins_append hp.removals, hv.wins]
      cases m with
      | none => rfl
      | some q =>
        have hne : ¬ q.id = x.id := by simpa using hany
        simp [hne]
    · rw [hp.closes_eq_of_not_got hx hno, hv.closes]

/-- A connection that is registered no more stays so: no request gets anything. -/
theorem Gone.passes (hg : s.Gone h x) (hp : s.Passes m s') (hb : s.Booked)
    (hx : s.gateway.registry.handles[h]? = some x) : s'.Gone h x := by
  obtain ⟨w, hwins, hgot, hcloses, hwho⟩ := hg.winner
  have hnothing : ∀ q, m = some q → q.id = x.id → q.got = none := by
    intro q hq hid
    rw [hp.ends.got q hq, hid, hg.unheld]
  have hno : ∀ q, m = some q → q.got ≠ some h := by
    intro q hq hgot
    rw [hnothing q hq (hp.id_of_got hb hx hq hgot)] at hgot
    simp at hgot
  refine ⟨?_, w, ?_, hgot, ?_, fun h' hw => ⟨(hwho h' hw).1, hp.failed h (hwho h' hw).2⟩⟩
  · rw [hp.ends.holds, hg.unheld, ite_self]
  · rw [wins_append hp.removals, hwins]
    cases m with
    | none => rfl
    | some q =>
      by_cases hid : q.id = x.id
      · simp [hnothing q rfl hid]
      · simp [hid]
  · rw [hp.closes_eq_of_not_got hx hno, hcloses]

theorem Lived.passes {n : Nat} (hl : s.Lived n) (hp : s.Passes m s') : s'.Lived n := by
  have hids := hp.ends.keeps.map_id
  refine ⟨hp.booked, hp.ends.nextId.trans hl.nextId, ?_, ?_, ?_, ?_⟩
  · rw [hp.reserved, hids]
    exact hl.drawn
  · rw [hp.reserved, hids]
    exact hl.nodup
  · intro h x' hx'
    obtain ⟨x, hx, hid, hsink⟩ := hp.ends.keeps.back hx'
    have hfate : s'.Live h x ∨ s'.Gone h x := by
      rcases hl.fate h x hx with hv | hg
      · exact hv.passes hp hl.booked hx
      · exact Or.inr (hg.passes hp hl.booked hx)
    have hcloses : s'.closes x' = s'.closes x := by rw [closes, hsink, closes]
    rcases hfate with ⟨hheld, hwins, hclose⟩ | ⟨hunheld, hwinner⟩
    · exact Or.inl ⟨by rw [hid, hheld], by rw [hid, hwins], hcloses.trans hclose⟩
    · exact Or.inr ⟨by rw [hid, hunheld], by rw [hid, hcloses]; exact hwinner⟩
  · rw [hids, hp.removals]
    intro q hq hgot
    rcases List.mem_append.1 hq with hq | hq
    · exact hl.strays q hq hgot
    · -- Who is given a handle has named a connection that was registered.
      rw [hp.ends.got q (Option.mem_toList.1 hq)] at hgot
      obtain ⟨h, hheld⟩ := Option.isSome_iff_exists.1 hgot
      obtain ⟨e, he, rfl⟩ := Option.map_eq_some_iff.1 hheld
      obtain ⟨y, hy, hyid, -⟩ := hl.booked.sound.handle_of_find? he
      exact List.mem_map.2 ⟨y, List.mem_of_getElem? hy, hyid⟩

end Passes

/-! ## Acts that make no handle -/

theorem passes_of_sinks {m : Option Removal} (hb : s'.Booked)
    (hends : s.gateway.registry.Ends m s'.gateway.registry)
    (hlog : ∀ k, s'.gateway.log? k = s.gateway.log? k) (hreserved : s'.reserved = s.reserved)
    (hremovals : s'.removals = s.removals ++ m.toList)
    (hds : ∀ d ∈ s.dispatches, d ∈ s'.dispatches)
    (hwho : ∀ q, m = some q → q.who.evicts = false) : s.Passes m s' := by
  refine ⟨hb, hends, hreserved, hremovals, ?_, ?_, ?_⟩
  · intro h x hx
    have hnone : (m.any fun q => q.got == some h && q.who.evicts) = false := by
      cases m with
      | none => rfl
      | some q => simp [hwho q rfl]
    rw [hnone, closes, closes, hlog]
    cases s.gateway.log? x.sink <;> rfl
  · rintro h ⟨d, hd, e, he⟩
    exact ⟨d, hds d hd, e, he⟩
  · intro q h h' hq hgot hevicts
    have := hwho q hq
    rw [hevicts] at this
    simp [Remover.evicts] at this

/-- An act that asks for the end of no registration. -/
theorem Lived.quiet {n : Nat} (hl : s.Lived n) (hb : s'.Booked)
    (hends : s.gateway.registry.Ends none s'.gateway.registry)
    (hlog : ∀ k, s'.gateway.log? k = s.gateway.log? k) (hreserved : s'.reserved = s.reserved)
    (hremovals : s'.removals = s.removals) (hds : ∀ d ∈ s.dispatches, d ∈ s'.dispatches) :
    s'.Lived n :=
  hl.passes (passes_of_sinks hb hends hlog hreserved
    (hremovals.trans (List.append_nil _).symm) hds (fun _ hq => absurd hq (by simp)))

theorem Lived.got_of_evicts {n : Nat} (hl : s.Lived n) {d : Dispatched} {v : Delivery}
    (hd : d ∈ s.dispatches) (hv : v ∈ d.flight.deliveries) {q : Removal}
    (hq : v.removal? d.flight.settings d.flight.payload s.gateway = some q)
    (hwho : q.who.evicts = true) (hgot : q.got = some h) : h = v.handle := by
  obtain ⟨h', hwho⟩ : ∃ h', q.who = .eviction h' := by
    cases hw : q.who with
    | eviction h' => exact ⟨h', rfl⟩
    | session i => simp [hw, Remover.evicts] at hwho
    | outside => simp [hw, Remover.evicts] at hwho
  have hid := (Delivery.answer?_of_evicts hq hwho).2.1
  have hends := (Delivery.moveSpec d.flight.settings d.flight.payload s.gateway v).ends
  have hheld := (hends.got q hq).symm.trans hgot
  obtain ⟨x, hx, -, hxid⟩ := hl.booked.aimed d hd v hv
  obtain ⟨e, he, rfl⟩ := Option.map_eq_some_iff.1 hheld
  obtain ⟨y, hy, hyid, -⟩ := hl.booked.sound.handle_of_find? he
  exact hl.eq_of_id hy hx (hyid.trans (hid.trans hxid.symm))

theorem closeCalls_effect {settings : Settings} {payload : Bytes} {g : Gateway} {v : Delivery} :
    (v.effect settings payload g).closeCalls =
      ((v.removal? settings payload g).any fun q => q.got.isSome && q.who.evicts).toNat := by
  simp only [Delivery.effect]
  cases v.removal? settings payload g with
  | none => rfl
  | some q =>
    obtain ⟨who, id, got⟩ := q
    cases who <;> cases got <;> rfl

/-- A move closes the sink of its own delivery, and only if it has evicted. -/
theorem Lived.closes_afterMove {n : Nat} (hl : s.Lived n) {d : Dispatched} {k : Nat}
    {old : Delivery} (hd : d ∈ s.dispatches) (hold : old ∈ d.flight.deliveries)
    (hx : s.gateway.registry.handles[h]? = some x) :
    (s.afterMove d k old).closes x = (s.closes x).map
      (· + ((old.removal? d.flight.settings d.flight.payload s.gateway).any
        fun q => q.got == some h && q.who.evicts).toNat) := by
  have hspec := Delivery.moveSpec d.flight.settings d.flight.payload s.gateway old
  obtain ⟨y, hy, hysink, -⟩ := hl.booked.aimed d hd old hold
  -- An eviction that is given a handle at all is given that of the delivery.
  have hown : ∀ q, old.removal? d.flight.settings d.flight.payload s.gateway = some q →
      q.who.evicts = true → q.got.isSome → q.got = some old.handle := by
    intro q hq hwho hsome
    obtain ⟨h', hgot⟩ := Option.isSome_iff_exists.1 hsome
    rw [hgot, hl.got_of_evicts hd hold hq hwho hgot]
  have hany : ((old.removal? d.flight.settings d.flight.payload s.gateway).any
      fun q => q.got == some h && q.who.evicts) =
      (((old.removal? d.flight.settings d.flight.payload s.gateway).any
        fun q => q.got.isSome && q.who.evicts) && decide (h = old.handle)) := by
    cases hq : old.removal? d.flight.settings d.flight.payload s.gateway with
    | none => rfl
    | some q =>
      have hown := hown q hq
      cases hwho : q.who.evicts with
      | false => simp [hwho]
      | true =>
        cases hgot : q.got with
        | none => simp [hgot]
        | some h' =>
          rw [hgot] at hown
          obtain rfl := Option.some.inj (hown hwho rfl)
          by_cases hh : h = old.handle
          · simp [hgot, hwho, hh]
          · simp [hgot, hwho, hh, Ne.symm hh]
  show (log? (old.move d.flight.settings d.flight.payload s.gateway).1 x.sink).map _ = _
  rw [hspec.logs, closes]
  by_cases hh : h = old.handle
  · have hsink : x.sink = old.sink := by
      rw [hh, hy] at hx
      rw [← Option.some.inj hx, hysink]
    rw [if_pos hsink, hany, decide_eq_true hh, Bool.and_true, ← closeCalls_effect, Option.map_map,
      Option.map_map]
    rfl
  · have hsink : x.sink ≠ old.sink := fun heq =>
      hh (hl.booked.unshared h old.handle x y hx hy (heq.trans hysink.symm))
    rw [if_neg hsink, hany, decide_eq_false hh, Bool.and_false]
    cases s.gateway.log? x.sink <;> rfl

theorem Failed.afterMove {d : Dispatched} {k : Nat} {old : Delivery} (hcurrent : s.current = some d)
    (hf : s.Failed h) : (s.afterMove d k old).Failed h := by
  obtain ⟨d', hd', e, he⟩ := hf
  rcases List.mem_append.1 hd' with hd' | hd'
  · exact ⟨d', List.mem_append_left _ hd', e, he⟩
  · rw [hcurrent] at hd'
    obtain rfl : d' = d := by simpa using hd'
    refine ⟨_, List.mem_append_right _ (List.mem_singleton.2 rfl), e, ?_⟩
    rw [Dispatched.answersOf_moved]
    exact List.mem_append_left _ he

theorem Lived.passes_afterMove {n : Nat} (hl : s.Lived n) {d : Dispatched} {k : Nat}
    {old : Delivery} (hcurrent : s.current = some d) (hk : d.flight.deliveries[k]? = some old) :
    s.Passes (old.removal? d.flight.settings d.flight.payload s.gateway) (s.afterMove d k old) := by
  have hd : d ∈ s.dispatches := mem_dispatches hcurrent
  have hold : old ∈ d.flight.deliveries := List.mem_of_getElem? hk
  have hspec := Delivery.moveSpec d.flight.settings d.flight.payload s.gateway old
  refine ⟨hl.booked.afterMove hcurrent hk, hspec.ends, rfl, rfl, ?_, ?_, ?_⟩
  · exact fun h x hx => hl.closes_afterMove hd hold hx
  · exact fun h hf => hf.afterMove hcurrent
  · intro q h h' hq hgot hwho
    obtain ⟨hh', -, e, he⟩ := Delivery.answer?_of_evicts hq hwho
    have hh : h = old.handle :=
      hl.got_of_evicts hd hold hq (by rw [hwho]; rfl) hgot
    refine ⟨hh'.trans hh.symm, _, List.mem_append_right _ (List.mem_singleton.2 rfl), e, ?_⟩
    rw [Dispatched.answersOf_moved, if_pos hh, he]
    exact List.mem_append_right _ (List.mem_singleton.2 rfl)

theorem evicts_closing {g : Gateway} {i : Nat} {q : Removal} (hq : closing? g i = some q) :
    q.who.evicts = false := by
  unfold closing? at hq
  split at hq
  · split at hq
    · simp at hq
    · obtain rfl := Option.some.inj hq
      rfl
  · simp at hq

theorem Lived.moveDelivery {n : Nat} (hl : s.Lived n) (k : Nat) : (s.moveDelivery k).Lived n := by
  rcases moveDelivery_cases s k with hsame | ⟨d, old, hcurrent, hk, hmove⟩
  · rwa [hsame]
  · rw [hmove]
    exact hl.passes (hl.passes_afterMove hcurrent hk)

theorem Lived.takeNext {n : Nat} (hl : s.Lived n) : s.takeNext.Lived n := by
  rcases takeNext_cases s with hsame | ⟨m, rest, -, hlanded, htake⟩
  · rwa [hsame]
  · rw [htake]
    exact hl.quiet (hl.booked.afterTake hlanded m rest) (Registry.Ends.refl _) (fun _ => rfl) rfl
      rfl (fun _ hd => List.mem_append_left _ hd)

/-! ## A client comes -/

theorem id_ne {i n : Nat} (hi : i < n) (hn : n < Registry.idCount) :
    (1 + i) % Registry.idCount ≠ (1 + n) % Registry.idCount := by
  have hcount : Registry.idCount = 18446744073709551616 := rfl
  rw [hcount] at hn ⊢
  omega

theorem fate_of_same (hheld : s'.gateway.registry.handle? x.id = s.gateway.registry.handle? x.id)
    (hwins : s'.wins x.id = s.wins x.id) (hcloses : s'.closes x = s.closes x)
    (hds : s'.dispatches = s.dispatches) (hfate : s.Live h x ∨ s.Gone h x) :
    s'.Live h x ∨ s'.Gone h x := by
  rcases hfate with ⟨hv, hw, hc⟩ | ⟨hu, m, hw, hgot, hc, hwho⟩
  · exact Or.inl ⟨hheld.trans hv, hwins.trans hw, hcloses.trans hc⟩
  · refine Or.inr ⟨hheld.trans hu, m, hwins.trans hw, hgot, hcloses.trans hc, ?_⟩
    intro h' hm
    obtain ⟨heq, d, hd, he⟩ := hwho h' hm
    exact ⟨heq, d, hds ▸ hd, he⟩

theorem Lived.reserve {n : Nat} (hl : s.Lived n) (hn : n < Registry.idCount) :
    (s.step .reserve).Lived (n + 1) := by
  have hreserved : (s.step .reserve).reserved = s.reserved ++ [s.gateway.registry.nextId] := rfl
  have hperm : ((s.step .reserve).reserved ++
      (s.step .reserve).gateway.registry.handles.map (·.id)).Perm
      (s.gateway.registry.nextId :: (s.reserved ++ s.gateway.registry.handles.map (·.id))) := by
    rw [hreserved, List.append_assoc]
    exact List.perm_middle
  refine ⟨hl.booked.step .reserve, ?_, ?_, ?_, ?_, hl.strays⟩
  · show (s.gateway.registry.nextId + 1) % Registry.idCount = _
    rw [hl.nextId, Nat.mod_add_mod, Nat.add_assoc]
  · intro c hc
    rcases List.mem_cons.1 (hperm.mem_iff.1 hc) with rfl | hc
    · exact ⟨n, Nat.lt_succ_self n, hl.nextId⟩
    · obtain ⟨i, hi, hci⟩ := hl.drawn c hc
      exact ⟨i, Nat.lt_succ_of_lt hi, hci⟩
  · refine hperm.nodup_iff.2 (List.nodup_cons.2 ⟨?_, hl.nodup⟩)
    -- An id given out before was given out less than a whole round ago.
    intro hmem
    obtain ⟨i, hi, hci⟩ := hl.drawn _ hmem
    exact id_ne hi hn (hci.symm.trans hl.nextId)
  · exact fun h x hx => fate_of_same (s := s) rfl rfl rfl rfl (hl.fate h x hx)

theorem Lived.fresh {n : Nat} (hl : s.Lived n) (hmem : id ∈ s.reserved) :
    id ∉ s.gateway.registry.handles.map (·.id) ∧ s.gateway.registry.find? id = none := by
  have hnew : id ∉ s.gateway.registry.handles.map (·.id) :=
    fun hold => (List.nodup_append'.1 hl.nodup).2.2 hmem hold
  refine ⟨hnew, ?_⟩
  by_contra hsome
  obtain ⟨e, he⟩ := Option.ne_none_iff_exists'.1 hsome
  obtain ⟨y, hy, hyid, -⟩ := hl.booked.sound.handle_of_find? he
  exact hnew (List.mem_map.2 ⟨y, List.mem_of_getElem? hy, hyid⟩)

/-- What a registration of a client does to the gateway. -/
structure Enrolled (id : ConnectionId) (s s' : Traffic) : Prop where
  registry : s'.gateway.registry =
    (s.gateway.registry.register id s.gateway.sinks.length).2
  log : ∀ k, s'.gateway.log? k =
    if k = s.gateway.sinks.length then some {} else s.gateway.log? k
  reserved : s'.reserved = s.reserved.erase id
  removals : s'.removals = s.removals
  dispatches : s'.dispatches = s.dispatches

theorem enrolled_step (manner : Manner) (hmem : id ∈ s.reserved) :
    Enrolled id s (s.step (.enroll id manner)) := by
  have hstep : s.step (.enroll id manner) =
      { s with
        gateway := (s.gateway.enroll id { toManner := manner }).2
        reserved := s.reserved.erase id } := by
    simp only [Traffic.step, hmem, ite_true]
  rw [hstep]
  refine ⟨rfl, ?_, rfl, rfl, rfl⟩
  intro k
  rw [← log?_append manner]
  exact Delivery.log?_of_sinks rfl

theorem Lived.fate_enrolled {n : Nat} (hl : s.Lived n) (he : Enrolled id s s')
    (hmem : id ∈ s.reserved) (hx : s.gateway.registry.handles[h]? = some x) :
    s'.Live h x ∨ s'.Gone h x := by
  have hne : x.id ≠ id := fun heq =>
    (hl.fresh hmem).1 (List.mem_map.2 ⟨x, List.mem_of_getElem? hx, heq⟩)
  have hsink : x.sink ≠ s.gateway.sinks.length := by
    intro heq
    obtain ⟨l, hl', -, -⟩ := hl.booked.log h x hx
    rw [heq, log?_length] at hl'
    simp at hl'
  refine fate_of_same ?_ ?_ ?_ he.dispatches (hl.fate h x hx)
  · rw [he.registry, Registry.handle?, Registry.find?_register, if_neg hne, Registry.handle?]
  · rw [wins, he.removals, wins]
  · rw [closes, he.log, if_neg hsink, closes]

theorem Lived.live_enrolled {n : Nat} (hl : s.Lived n) (he : Enrolled id s s')
    (hmem : id ∈ s.reserved) :
    s'.Live s.gateway.registry.handles.length ⟨id, s.gateway.sinks.length, 0, false⟩ := by
  obtain ⟨hnew, hnone⟩ := hl.fresh hmem
  refine ⟨?_, ?_, ?_⟩
  · rw [he.registry, Registry.handle?, Registry.find?_register, if_pos rfl, hnone]
    rfl
  · rw [wins, he.removals, List.filter_eq_nil_iff]
    intro m hm hwin
    have hwin : m.id = id ∧ m.got.isSome := by simpa using hwin
    exact hnew (hwin.1 ▸ hl.strays m hm hwin.2)
  · rw [closes, he.log, if_pos rfl]
    rfl

theorem Lived.enroll {n : Nat} (hl : s.Lived n) (manner : Manner) (hmem : id ∈ s.reserved) :
    (s.step (.enroll id manner)).Lived n := by
  have he := enrolled_step manner hmem
  have hbooked := hl.booked.step (.enroll id manner)
  generalize s.step (.enroll id manner) = s' at he hbooked
  have hnone := (hl.fresh hmem).2
  have hhandles : s'.gateway.registry.handles =
      s.gateway.registry.handles ++ [⟨id, s.gateway.sinks.length, 0, false⟩] := by
    rw [he.registry, Registry.register_of_none hnone]
  -- The id goes over from those given out to those registered.
  have hperm : (s'.reserved ++ s'.gateway.registry.handles.map (·.id)).Perm
      (s.reserved ++ s.gateway.registry.handles.map (·.id)) := by
    rw [he.reserved, hhandles, List.map_append, ← List.append_assoc]
    refine List.perm_append_comm.trans ?_
    exact (List.perm_cons_erase hmem).symm.append_right _
  refine ⟨hbooked, ?_, ?_, ?_, ?_, ?_⟩
  · rw [he.registry, Registry.register_of_none hnone]
    exact hl.nextId
  · intro c hc
    exact hl.drawn c (hperm.mem_iff.1 hc)
  · exact hperm.nodup_iff.2 hl.nodup
  · intro h x hx'
    rw [he.registry] at hx'
    rcases Registry.handle_register_back _ hx' with hx | ⟨-, rfl, rfl⟩
    · exact hl.fate_enrolled he hmem hx
    · exact Or.inl (hl.live_enrolled he hmem)
  · rw [he.removals, hhandles, List.map_append]
    intro m hm hgot
    exact List.mem_append_left _ (hl.strays m hm hgot)

/-! ## Every act -/

/-- How many clients have come. -/
def opens (acts : List Act) : Nat := acts.count .reserve

/-- One act of those that register nobody on their own account. -/
theorem Lived.step {n : Nat} (hl : s.Lived n) (ha : ∀ id m, a ≠ .register id m)
    (hn : n + opens [a] ≤ Registry.idCount) : (s.step a).Lived (n + opens [a]) := by
  cases a with
  | reserve => exact hl.reserve hn
  | enroll id manner =>
    by_cases hmem : id ∈ s.reserved
    · exact hl.enroll manner hmem
    · have hstep : s.step (.enroll id manner) = s := by
        simp only [Traffic.step, hmem, ite_false]
      rw [hstep]
      exact hl
  | register id manner => exact absurd rfl (ha id manner)
  | take => exact hl.takeNext
  | move k => exact hl.moveDelivery k
  | receive i data =>
    obtain ⟨hends, hsinks⟩ := ends_receive (g := s.gateway) i data
    exact hl.quiet (hl.booked.step _) hends (fun _ => Delivery.log?_of_sinks hsinks) rfl rfl
      (fun _ hd => hd)
  | close i =>
    obtain ⟨hends, hsinks⟩ := ends_closeSession (g := s.gateway) i
    refine hl.passes (passes_of_sinks (hl.booked.step _) hends
      (fun _ => Delivery.log?_of_sinks hsinks) rfl rfl (fun _ hd => hd) ?_)
    intro q hq
    exact evicts_closing hq
  | subscribe id topics =>
    exact hl.quiet (hl.booked.step _) (Registry.ends_subscribe topics) (fun _ => rfl) rfl rfl
      (fun _ hd => hd)
  | unsubscribe id topics =>
    exact hl.quiet (hl.booked.step _) (Registry.ends_unsubscribe topics) (fun _ => rfl) rfl rfl
      (fun _ hd => hd)
  | unregister id =>
    refine hl.passes (passes_of_sinks (hl.booked.step _) (Registry.ends_unregister .outside)
      (fun _ => rfl) rfl rfl (fun _ hd => hd) ?_)
    intro q hq
    obtain rfl := Option.some.inj hq
    rfl
  | retune k manner =>
    exact hl.quiet (hl.booked.step _) (Registry.Ends.refl _) (fun _ => log?_retune _) rfl rfl
      (fun _ hd => hd)
  | publish m =>
    exact hl.quiet (hl.booked.step _) (Registry.Ends.refl _) (fun _ => rfl) rfl rfl
      (fun _ hd => hd)

theorem lived_start (settings : Settings) : (start settings).Lived 0 := by
  refine ⟨booked_start settings, rfl, ?_, List.nodup_nil, ?_, ?_⟩
  · exact fun c hc => absurd hc List.not_mem_nil
  · intro h x hx
    have hx : (none : Option Handle) = some x := hx
    simp at hx
  · exact fun m hm => absurd hm List.not_mem_nil

theorem lived_run (settings : Settings) (acts : List Act)
    (hregister : ∀ id m, Act.register id m ∉ acts) (hopens : opens acts ≤ Registry.idCount) :
    ((start settings).run acts).Lived (opens acts) := by
  induction acts using List.reverseRecOn with
  | nil => exact lived_start settings
  | append_singleton acts a ih =>
    have hcount : opens (acts ++ [a]) = opens acts + opens [a] := List.count_append
    rw [hcount] at hopens ⊢
    rw [run_concat]
    refine (ih ?_ (Nat.le_trans (Nat.le_add_right _ _) hopens)).step ?_ hopens
    · exact fun id m hmem => hregister id m (List.mem_append_left _ hmem)
    · rintro id m rfl
      exact hregister id m (by simp)

/-! ## What follows -/

theorem mem_removals_step {m : Removal} (hm : m ∈ s.removals) (a : Act) :
    m ∈ (s.step a).removals := by
  cases a with
  | take =>
    show m ∈ s.takeNext.removals
    rcases takeNext_cases s with hsame | ⟨m', rest, -, -, htake⟩
    · rwa [hsame]
    · rw [htake]
      exact hm
  | move k =>
    show m ∈ (s.moveDelivery k).removals
    rcases moveDelivery_cases s k with hsame | ⟨d, old, -, -, hmove⟩
    · rwa [hsame]
    · rw [hmove]
      exact List.mem_append_left _ hm
  | enroll id manner =>
    simp only [Traffic.step]
    split <;> exact hm
  | close i => exact List.mem_append_left _ hm
  | unregister id => exact List.mem_append_left _ hm
  | _ => exact hm

theorem mem_removals_run {m : Removal} (hm : m ∈ s.removals) (acts : List Act) :
    m ∈ (s.run acts).removals := by
  induction acts using List.reverseRecOn with
  | nil => exact hm
  | append_singleton acts a ih =>
    rw [run_concat]
    exact mem_removals_step ih a

/-- Whoever is given a handle has ended the registration of its connection, alone. -/
theorem Lived.gone_of_got {n : Nat} (hl : s.Lived n) {m : Removal} (hm : m ∈ s.removals)
    (hgot : m.got = some h) :
    ∃ x, s.gateway.registry.handles[h]? = some x ∧ x.id = m.id ∧ s.Gone h x ∧
      s.wins x.id = [m] := by
  have hsome : m.got.isSome := by
    rw [hgot]
    rfl
  obtain ⟨x, hmem, hid⟩ := List.mem_map.1 (hl.strays m hm hsome)
  obtain ⟨h', hx⟩ := List.mem_iff_getElem?.1 hmem
  have hwin : m ∈ s.wins x.id := mem_wins.2 ⟨hm, hid.symm, hsome⟩
  rcases hl.fate h' x hx with hv | hg
  · rw [hv.wins] at hwin
    exact absurd hwin List.not_mem_nil
  · obtain ⟨w, hwins, hwgot, -⟩ := hg.winner
    rw [hwins] at hwin
    obtain rfl := List.mem_singleton.1 hwin
    rw [hgot] at hwgot
    obtain rfl := Option.some.inj hwgot
    exact ⟨x, hx, hid, hg, hwins⟩

theorem Lived.removed_iff {n : Nat} (hl : s.Lived n)
    (hx : s.gateway.registry.handles[h]? = some x) :
    x.removed = false ↔ s.gateway.registry.handle? x.id = some h := by
  rw [hl.booked.sound.removed_eq_false_iff hx, Registry.handle?, Option.map_eq_some_iff]

theorem Lived.winner_of_removed {n : Nat} (hl : s.Lived n)
    (hx : s.gateway.registry.handles[h]? = some x) (hr : x.removed = true) : s.Gone h x := by
  rcases hl.fate h x hx with hv | hg
  · have := (hl.removed_iff hx).2 hv.held
    rw [hr] at this
    simp at this
  · exact hg

/-- A sink closes as often as an eviction has ended the registration. -/
theorem Lived.closeCalls_eq {n : Nat} (hl : s.Lived n)
    (hx : s.gateway.registry.handles[h]? = some x) :
    ∃ k : Sink, s.gateway.sinks[x.sink]? = some k ∧
      k.closeCalls = ((s.wins x.id).filter (·.who.evicts)).length ∧ k.closeCalls ≤ 1 := by
  obtain ⟨l, hlog, -, -⟩ := hl.booked.log h x hx
  obtain ⟨k, hk, rfl⟩ := Option.map_eq_some_iff.1 hlog
  have hcloses : s.closes x = some k.closeCalls := by
    rw [closes, hlog]
    rfl
  refine ⟨k, hk, ?_⟩
  rcases hl.fate h x hx with hv | hg
  · have hcount : k.closeCalls = 0 := Option.some.inj (hcloses.symm.trans hv.closes)
    rw [hv.wins, hcount]
    exact ⟨rfl, Nat.zero_le 1⟩
  · obtain ⟨m, hwins, -, hclose, -⟩ := hg.winner
    have hcount : k.closeCalls = m.who.evicts.toNat := Option.some.inj (hcloses.symm.trans hclose)
    rw [hwins, hcount]
    cases hw : m.who.evicts <;> simp [hw]

theorem Lived.own_of_got {n : Nat} (hl : s.Lived n) {m : Removal} (hm : m ∈ s.removals)
    {h' : HandleId} (hwho : m.who = .eviction h) (hgot : m.got = some h') :
    h = h' ∧ s.Failed h := by
  obtain ⟨x, hx, hid, hg, hwins⟩ := hl.gone_of_got hm hgot
  obtain ⟨w, hwins', -, -, hown⟩ := hg.winner
  rw [hwins] at hwins'
  obtain rfl := List.singleton_inj.1 hwins'
  obtain ⟨rfl, hf⟩ := hown h hwho
  exact ⟨rfl, hf⟩

/-- What is removed at some time is registered at no later time: its winner stays its winner. -/
theorem Lived.find?_of_removed {n n' : Nat} (hl : s.Lived n) {acts : List Act}
    (hl' : (s.run acts).Lived n') (hx : s.gateway.registry.handles[h]? = some x)
    (hr : x.removed = true) : (s.run acts).gateway.registry.find? x.id = none := by
  obtain ⟨m, hwins, hgot, -⟩ := (hl.winner_of_removed hx hr).winner
  obtain ⟨hm, hid, -⟩ : m ∈ s.removals ∧ m.id = x.id ∧ m.got.isSome :=
    mem_wins.1 (by rw [hwins]; exact List.mem_singleton.2 rfl)
  obtain ⟨y, -, hyid, hg, -⟩ := hl'.gone_of_got (mem_removals_run hm acts) hgot
  rw [← hid, ← hyid]
  exact Option.map_eq_none_iff.1 hg.unheld

/-- The life of every connection of a gateway. -/
structure LivedOnce (settings : Settings) (acts : List Act) (s : Traffic) : Prop where
  /-- No id is given out twice. -/
  ids : (s.reserved ++ s.gateway.registry.handles.map (·.id)).Nodup
  /-- A handle is removed, or its connection is registered with that very handle. -/
  either : ∀ (h : HandleId) (x : Handle), s.gateway.registry.handles[h]? = some x →
    Xor (s.gateway.registry.handle? x.id = some h) (x.removed = true)
  /-- Of all requests for the end of a connection just one was given the handle. -/
  winner : ∀ (h : HandleId) (x : Handle), s.gateway.registry.handles[h]? = some x →
    x.removed = true → ∃ m, s.wins x.id = [m] ∧ m.got = some h
  /-- Nobody was given a handle that is not removed. -/
  nobody : ∀ m ∈ s.removals, ∀ h, m.got = some h →
    ∃ x, s.gateway.registry.handles[h]? = some x ∧ x.id = m.id ∧ x.removed = true
  /-- A connection that was removed at any time is not registered. -/
  forever : ∀ before after, acts = before ++ after → ∀ (h : HandleId) (x : Handle),
    ((start settings).run before).gateway.registry.handles[h]? = some x → x.removed = true →
    s.gateway.registry.find? x.id = none
  /-- A sink closes as often as an eviction has ended the registration: once or never. -/
  closes : ∀ (h : HandleId) (x : Handle), s.gateway.registry.handles[h]? = some x →
    ∃ k : Sink, s.gateway.sinks[x.sink]? = some k ∧
      k.closeCalls = ((s.wins x.id).filter (·.who.evicts)).length ∧ k.closeCalls ≤ 1
  unshared : s.gateway.registry.Unshared
  /-- An eviction ends the registration of the handle whose own write failed. -/
  own : ∀ m ∈ s.removals, ∀ h h', m.who = .eviction h → m.got = some h' → h = h' ∧ s.Failed h

/-- Whoever comes and goes, each connection lives once and is ended once. -/
theorem lives_once (settings : Settings) (acts : List Act)
    (hregister : ∀ id m, Act.register id m ∉ acts) (hopens : opens acts ≤ Registry.idCount) :
    LivedOnce settings acts ((start settings).run acts) := by
  have hl := lived_run settings acts hregister hopens
  refine ⟨hl.nodup, ?_, ?_, ?_, ?_, ?_, hl.booked.unshared, ?_⟩
  · intro h x hx
    have hiff := hl.removed_iff hx
    cases hr : x.removed with
    | false => exact Or.inl ⟨hiff.1 hr, by simp⟩
    | true => exact Or.inr ⟨rfl, fun hheld => by simp [hr] at hiff; exact hiff hheld⟩
  · intro h x hx hr
    obtain ⟨m, hwins, hgot, -⟩ := (hl.winner_of_removed hx hr).winner
    exact ⟨m, hwins, hgot⟩
  · intro m hm h hgot
    obtain ⟨x, hx, hid, hg, -⟩ := hl.gone_of_got hm hgot
    refine ⟨x, hx, hid, ?_⟩
    by_contra hr
    rw [Bool.not_eq_true, hl.removed_iff hx, hg.unheld] at hr
    simp at hr
  · rintro before after rfl h x hx hr
    have hcount : opens before ≤ opens (before ++ after) := by
      rw [opens, opens, List.count_append]
      exact Nat.le_add_right _ _
    have hbefore := lived_run settings before
      (fun id m hmem => hregister id m (List.mem_append_left _ hmem)) (Nat.le_trans hcount hopens)
    rw [run_append] at hl ⊢
    exact hbefore.find?_of_removed hl hx hr
  · exact fun h x hx => hl.closeCalls_eq hx
  · exact fun m hm h h' hwho hgot => hl.own_of_got hm hwho hgot

theorem eviction_wins_once :
    let btc := Topic.ofString "BTCUSDT"
    let acts : List Act := [.reserve, .enroll 1 { failures := .always }, .subscribe 1 [btc],
      .publish ⟨btc, []⟩, .take, .move 0, .move 0, .close 0, .unregister 1]
    ((∀ id m, Act.register id m ∉ acts) ∧ opens acts ≤ Registry.idCount) ∧
      LivedOnce {} acts ((start {}).run acts) ∧
      ((start {}).run acts).removals =
        [⟨.eviction 0, 1, some 0⟩, ⟨.session 0, 1, none⟩, ⟨.outside, 1, none⟩] := by
  intro btc acts
  have hregister : ∀ id m, Act.register id m ∉ acts := by simp [acts]
  have hopens : opens acts ≤ Registry.idCount := by
    have hone : opens acts = 1 := rfl
    rw [hone]
    decide
  exact ⟨⟨hregister, hopens⟩, lives_once {} acts hregister hopens, by decide⟩

end CandleRelay.Gateway.Traffic
