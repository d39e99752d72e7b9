import CandleRelay.Gateway.Tasks
import CandleRelay.Proofs.Traffic.Listening

/-!
# Dispatch is confluent

The tasks of a dispatch share the registry, the counters and the report, and may come between any
two steps of each other. It does not show. A task sees its own client only, no two tasks have a
client in common, and what several of them do change, they change in ways that commute. So only
how many steps each has made counts, and when all are over that no longer counts either.

What is proved:
  1. `Running.step_comm`: the steps of two tasks commute, so that schedules with the same turns do
     the same (`Running.run_perm`).
  2. `Running.run_eq_of_over`: two schedules that bring all tasks to their end end alike, since each
     may be followed by the other without effect.
  3. `Running.over_of_count`: twelve turns for each task bring all of them to their end.
  4. `Running.goes_move`: a move of a delivery is some steps of its task, so that serving the
     connections one after the other is one of the schedules (`exists_schedule_of_perm`).
  5. `Running.Alike.run`: the order of the registrations does not matter.
  6. `dispatch_confluent`: every order of the registrations and of the steps comes to what serving
     the connections in the order of their ids does.
-/

namespace CandleRelay

theorem Metrics.bump_comm (m : Metrics) (c d : Counter) :
    (m.bump c).bump d = (m.bump d).bump c := by
  cases c <;> cases d <;> rfl

namespace Gateway

namespace Registry

variable {r : Registry} {id c : ConnectionId}

theorem find?_takeOut (hne : id ≠ c) : (r.takeOut id).2.find? c = r.find? c := by
  simp only [takeOut, find?, List.find?_filter]
  congr 1
  funext e
  by_cases h : e.id = c <;> simp [h, hne.symm]

theorem unregister_eq :
    r.unregister id =
      match r.takeOut id with
      | (some h, r') => (some h, r'.tell h)
      | (none, r') => (none, r') := by
  cases he : r.find? id with
  | some e => simp [unregister, takeOut, tell, he]
  | none =>
    have hall : r.entries.filter (·.id != id) = r.entries :=
      List.filter_eq_self.2 fun e hmem => by simpa using find?_eq_none_iff.1 he e hmem
    simp [unregister, takeOut, he, hall]

end Registry

/-! ## Tasks of different connections -/

/-- Two tasks have nothing in common. -/
structure Target.Apart (t t' : Target) : Prop where
  handle : t.handle ≠ t'.handle
  sink : t.sink ≠ t'.sink
  id : t.id ≠ t'.id

/-- Any two of these tasks have nothing in common. -/
def Separate (ts : List Target) : Prop := ∀ t ∈ ts, ∀ t' ∈ ts, t ≠ t' → t.Apart t'

theorem Target.Apart.symm {t t' : Target} (h : t.Apart t') : t'.Apart t :=
  ⟨h.handle.symm, h.sink.symm, h.id.symm⟩

theorem DispatchReport.take_comm (r : DispatchReport) (o o' : Outcome) :
    (r.take o).take o' = (r.take o').take o := by
  cases o <;> cases o' <;> rfl

theorem modify_comm {xs : List Handle} {i j : HandleId} {f f' : Handle → Handle}
    (h : i ≠ j ∨ ∀ x, f' (f x) = f (f' x)) :
    (xs.modify i f).modify j f' = (xs.modify j f').modify i f := by
  by_cases hij : i = j
  · subst hij
    have hf : f' ∘ f = f ∘ f' := funext (h.resolve_left fun hne => hne rfl)
    rw [List.modify_modify_eq, List.modify_modify_eq, hf]
  · exact List.modify_modify_ne f f' xs hij

namespace Running

variable {s : Running} {t t' : Target} {settings : Settings} {payload : Bytes}

/-- What a task changes no other task sees. -/
theorem view_change (h : t.Apart t') (c : Change) :
    (s.change t c).gateway.view t' = s.gateway.view t' := by
  cases c with
  | nothing | count c | take o => rfl
  | sink x => simp only [view, change, List.getElem?_set_ne h.sink]
  | success =>
    simp only [view, change, setRegistry, Registry.recordSuccess,
      List.getElem?_modify_ne _ _ h.handle]
    rfl
  | failure =>
    simp only [view, change, setRegistry, Registry.recordFailure,
      List.getElem?_modify_ne _ _ h.handle]
    rfl
  | takeOut =>
    simp only [view, change, setRegistry, Registry.find?_takeOut h.id]
    rfl
  | tell x =>
    have hstreak : ((s.gateway.registry.tell x).handles[t'.handle]?).map (·.streak) =
        (s.gateway.registry.handles[t'.handle]?).map (·.streak) := by
      simp only [Registry.tell, List.getElem?_modify, Option.map_eq_map, Option.map_map]
      congr 1
      funext y
      simp only [Function.comp]
      split <;> rfl
    simp only [view, change, setRegistry, hstreak]
    rfl

theorem change_comm (h : t.Apart t') (c c' : Change) :
    (s.change t c).change t' c' = (s.change t' c').change t c := by
  cases c <;> cases c' <;> try rfl
  case sink.sink x y => simp only [change, List.set_comm x y h.sink]
  case count.count c c' => simp only [change, count, Metrics.bump_comm _ c c']
  case take.take o o' => simp only [change, DispatchReport.take_comm _ o o']
  case takeOut.takeOut =>
    refine congrArg (fun es => s.setRegistry { s.gateway.registry with entries := es }) ?_
    exact List.filter_comm _ _ _
  case tell.tell | success.tell | failure.tell | tell.success | tell.failure =>
    refine congrArg (fun xs => s.setRegistry { s.gateway.registry with handles := xs }) ?_
    exact modify_comm (.inr fun x => rfl)
  case success.success | success.failure | failure.success | failure.failure =>
    refine congrArg (fun xs => s.setRegistry { s.gateway.registry with handles := xs }) ?_
    exact modify_comm (.inl h.handle)

theorem change_points (s : Running) (t : Target) (c : Change) :
    (s.change t c).points = s.points := by
  cases c <;> rfl

theorem change_moveTo (s : Running) (t t' : Target) (c : Change) (p : Point) :
    (s.moveTo t p).change t' c = (s.change t' c).moveTo t p := by
  cases c <;> rfl

theorem moveTo_comm (s : Running) (h : t.handle ≠ t'.handle) (p p' : Point) :
    (s.moveTo t p).moveTo t' p' = (s.moveTo t' p').moveTo t p := by
  simp only [moveTo, Running.mk.injEq, true_and]
  funext x
  by_cases hx : x = t.handle
  · simp [hx, h]
  · simp [hx]

theorem points_moveTo_self (s : Running) (t : Target) (p : Point) :
    (s.moveTo t p).points t.handle = p := if_pos rfl

theorem points_moveTo_other {h : HandleId} (hne : h ≠ t.handle) {p : Point} :
    (s.moveTo t p).points h = s.points h := if_neg hne

theorem step_eq (s : Running) (t : Target) :
    s.step settings payload t =
      (s.change t ((s.points t.handle).next settings payload (s.gateway.view t)).1).moveTo t
        ((s.points t.handle).next settings payload (s.gateway.view t)).2 := rfl

theorem points_step_self (s : Running) (t : Target) :
    (s.step settings payload t).points t.handle =
      ((s.points t.handle).next settings payload (s.gateway.view t)).2 :=
  points_moveTo_self _ _ _

theorem points_step_other (h : t.handle ≠ t'.handle) (s : Running) :
    (s.step settings payload t).points t'.handle = s.points t'.handle := by
  rw [step_eq, points_moveTo_other h.symm, change_points]

/-- The steps of two tasks that have nothing in common commute. -/
theorem step_comm (h : t.Apart t') :
    (s.step settings payload t).step settings payload t' =
      (s.step settings payload t').step settings payload t := by
  have hunseen : ∀ {t t' : Target}, t.Apart t' →
      ((s.step settings payload t).points t'.handle).next settings payload
          ((s.step settings payload t).gateway.view t') =
        (s.points t'.handle).next settings payload (s.gateway.view t') := by
    intro t t' h
    have hview : (s.step settings payload t).gateway.view t' = s.gateway.view t' :=
      view_change h _
    rw [points_step_other h.handle, hview]
  rw [step_eq (s.step settings payload t), hunseen h, step_eq (s.step settings payload t'),
    hunseen h.symm, step_eq s, step_eq s, change_moveTo, change_moveTo, change_comm h,
    moveTo_comm _ h.handle]

/-! ## Schedules -/

/-- How often each task makes a step is all that counts. -/
theorem run_perm {ts l l' : List Target} (hts : Separate ts) (hl : ∀ t ∈ l, t ∈ ts)
    (hperm : l.Perm l') (s : Running) : s.run settings payload l = s.run settings payload l' := by
  refine hperm.foldl_eq' ?_ s
  intro t ht t' ht' s
  by_cases heq : t = t'
  · rw [heq]
  · exact step_comm (hts t (hl t ht) t' (hl t' ht') heq)

theorem run_append (s : Running) (l l' : List Target) :
    s.run settings payload (l ++ l') = (s.run settings payload l).run settings payload l' :=
  List.foldl_append

theorem step_joined (settings : Settings) (payload : Bytes) (h : s.points t.handle = .joined) :
    s.step settings payload t = s := by
  rw [step_eq, h]
  simp only [Point.next, change, moveTo]
  congr 1
  funext x
  split
  · next hx => rw [hx, h]
  · rfl

theorem run_of_over {ts l : List Target} (hover : s.Over ts) (hl : ∀ t ∈ l, t ∈ ts) :
    s.run settings payload l = s := by
  induction l with
  | nil => rfl
  | cons t l ih =>
    have hstep := step_joined settings payload
      (hover t (hl t List.mem_cons_self))
    show (s.step settings payload t).run settings payload l = s
    rw [hstep]
    exact ih fun t' ht' => hl t' (List.mem_cons_of_mem t ht')

/-- Two schedules that bring all tasks to their end end alike. -/
theorem run_eq_of_over {ts l l' : List Target} (hts : Separate ts) (hl : ∀ t ∈ l, t ∈ ts)
    (hl' : ∀ t ∈ l', t ∈ ts) (hover : (s.run settings payload l).Over ts)
    (hover' : (s.run settings payload l').Over ts) :
    s.run settings payload l = s.run settings payload l' := by
  have hboth : ∀ t ∈ l ++ l', t ∈ ts := fun t ht => (List.mem_append.1 ht).elim (hl t) (hl' t)
  calc s.run settings payload l
      = (s.run settings payload l).run settings payload l' := (run_of_over hover hl').symm
    _ = s.run settings payload (l ++ l') := (run_append s l l').symm
    _ = s.run settings payload (l' ++ l) := run_perm hts hboth List.perm_append_comm s
    _ = (s.run settings payload l').run settings payload l := run_append s l' l
    _ = s.run settings payload l' := run_of_over hover' hl

end Running

/-! ## The way to the end -/

/-- How many steps there are at most before a task's outcome has been taken. -/
def Point.stepsLeft : Point → Nat
  | .begins => 12
  | .leaves _ => 11
  | .left _ _ => 10
  | .writes _ => 9
  | .fails => 8
  | .blames => 7
  | .evicts => 6
  | .evicted _ => 5
  | .closes => 4
  | .closing _ => 3
  | .succeeds => 3
  | .counts _ _ => 2
  | .over _ => 1
  | .joined => 0

theorem Point.joined_of_stepsLeft {p : Point} (h : p.stepsLeft = 0) : p = .joined := by
  cases p <;> simp [stepsLeft] at h ⊢

/-- Each step brings a task nearer to its end. -/
theorem Point.stepsLeft_next (settings : Settings) (payload : Bytes) (v : View) (p : Point) :
    (p.next settings payload v).2.stepsLeft ≤ p.stepsLeft - 1 := by
  cases p with
  | begins | leaves ending | writes ending | blames | evicts | closes =>
    simp only [next]
    repeat' split
    all_goals simp [stepsLeft]
  | closing ending =>
    cases ending with
    | inTime =>
      simp only [next]
      split <;> simp [stepsLeft]
    | timedOut | broken => simp [next, stepsLeft]
  | _ => simp [next, stepsLeft]

namespace Running

variable {s : Running} {t : Target} {settings : Settings} {payload : Bytes}

theorem stepsLeft_run (settings : Settings) (payload : Bytes) {ts l : List Target}
    (hts : Separate ts) (hl : ∀ t ∈ l, t ∈ ts) (ht : t ∈ ts) (s : Running) :
    ((s.run settings payload l).points t.handle).stepsLeft ≤
      (s.points t.handle).stepsLeft - l.count t := by
  induction l generalizing s with
  | nil => exact Nat.le_refl _
  | cons t' l ih =>
    have hrest := ih (fun t ht => hl t (List.mem_cons_of_mem t' ht)) (s.step settings payload t')
    refine Nat.le_trans hrest ?_
    by_cases heq : t' = t
    · subst heq
      have hstep := Point.stepsLeft_next settings payload (s.gateway.view t') (s.points t'.handle)
      rw [points_step_self, List.count_cons_self]
      omega
    · have hapart := hts t' (hl t' List.mem_cons_self) t ht heq
      exact Nat.le_of_eq (by rw [points_step_other hapart.handle, List.count_cons_of_ne heq])

/-- A schedule in which each task has its turn often enough brings all of them to their end. -/
theorem over_of_count {ts l : List Target} (hts : Separate ts) (hl : ∀ t ∈ l, t ∈ ts)
    (hcount : ∀ t ∈ ts, (s.points t.handle).stepsLeft ≤ l.count t) :
    (s.run settings payload l).Over ts := by
  intro t ht
  have hleft := stepsLeft_run settings payload hts hl ht s
  have henough := hcount t ht
  exact Point.joined_of_stepsLeft (by omega)

end Running

/-! ## One task after the other -/

/-- Where a task is whose delivery is at this stage. -/
def Stage.point : Stage → Point
  | .waiting => .begins
  | .writing _ ending => .writes ending
  | .closing _ ending => .closing ending
  | .ended _ o => .over o

/-- Whom a delivery serves. -/
def Delivery.target (d : Delivery) : Target := ⟨d.handle, d.sink, d.id⟩

namespace Running

variable {s : Running} {g : Gateway} {t : Target} {settings : Settings} {payload : Bytes}
  {d : Delivery}

/-- The same dispatch with another gateway, and one task at some point. -/
def place (s : Running) (g : Gateway) (t : Target) (p : Point) : Running :=
  { s with gateway := g }.moveTo t p

/-- One dispatch becomes another by steps of one task. -/
def Goes (settings : Settings) (payload : Bytes) (t : Target) (s s' : Running) : Prop :=
  ∃ k, s.run settings payload (List.replicate k t) = s'

theorem Goes.refl (s : Running) : Goes settings payload t s s := ⟨0, rfl⟩

theorem Goes.trans {s' s'' : Running} (h : Goes settings payload t s s')
    (h' : Goes settings payload t s' s'') : Goes settings payload t s s'' := by
  obtain ⟨k, rfl⟩ := h
  obtain ⟨k', rfl⟩ := h'
  exact ⟨k + k', by rw [List.replicate_add, run_append]⟩

theorem moveTo_moveTo (s : Running) (t : Target) (p p' : Point) :
    (s.moveTo t p).moveTo t p' = s.moveTo t p' := by
  simp only [moveTo, Running.mk.injEq, true_and]
  funext x
  split <;> rfl

theorem goes_step {p p' : Point} {c : Change}
    (hnext : p.next settings payload (g.view t) = (c, p')) :
    Goes settings payload t (s.place g t p) (({ s with gateway := g }.change t c).moveTo t p') := by
  refine ⟨1, ?_⟩
  have hpoint : (s.place g t p).points t.handle = p := points_moveTo_self _ _ _
  have hview : (s.place g t p).gateway.view t = g.view t := rfl
  show (s.place g t p).step settings payload t = _
  rw [step_eq, hpoint, hview, hnext, place, change_moveTo, moveTo_moveTo]

theorem takeOut_cases (g : Gateway) (t : Target) :
    ((g.view t).entry = none ∧ g.registry.unregister t.id = (none, (g.registry.takeOut t.id).2)) ∨
    ∃ h, (g.view t).entry = some h ∧
      g.registry.unregister t.id = (some h, (g.registry.takeOut t.id).2.tell h) := by
  have hentry : (g.view t).entry = (g.registry.takeOut t.id).1 := rfl
  rw [Registry.unregister_eq, hentry]
  cases g.registry.takeOut t.id with
  | mk o r =>
    cases o with
    | none => exact Or.inl ⟨rfl, rfl⟩
    | some h => exact Or.inr ⟨h, rfl, rfl⟩

theorem goes_leaves (ending : Ending) :
    Goes settings payload t (s.place g t (.leaves ending))
      (s.place { g with registry := (g.registry.unregister t.id).2 } t (.writes ending)) := by
  rcases takeOut_cases g t with ⟨hentry, hun⟩ | ⟨h, hentry, hun⟩
  · rw [hun]
    exact goes_step (c := .takeOut) (by simp [Point.next, hentry])
  · rw [hun]
    have hout : Goes settings payload t (s.place g t (.leaves ending))
        (s.place { g with registry := (g.registry.takeOut t.id).2 } t (.left h ending)) :=
      goes_step (c := .takeOut) (by simp [Point.next, hentry])
    exact hout.trans (goes_step (c := .tell h) rfl)

theorem goes_start (hd : d.target = t) :
    Goes settings payload t (s.place g t .begins)
      (s.place (d.start settings g).1 t (d.start settings g).2.stage.point) := by
  have hsink : (g.view t).sink = g.sinks[d.sink]? := by rw [← hd]; rfl
  have hid : t.id = d.id := by rw [← hd]; rfl
  cases hs : g.sinks[d.sink]? with
  | none =>
    have hstart : d.start settings g = (g, { d with stage := .ended 0 .failed }) := by
      simp [Delivery.start, hs]
    rw [hstart]
    exact goes_step (c := .nothing) (by simp [Point.next, hsink, hs, Stage.point])
  | some x =>
    have hset : g.sinks.modify d.sink Sink.attempt = g.sinks.set t.sink x.attempt := by
      rw [List.modify_eq_set_getElem?, hs, ← hd]
      rfl
    cases hleaves : x.leaves with
    | false =>
      simp only [Delivery.start, hs, hleaves, Bool.false_eq_true, if_false, hset, Stage.point]
      exact goes_step (c := .sink x.attempt) (by simp [Point.next, hsink, hs, hleaves])
    | true =>
      simp only [Delivery.start, hs, hleaves, if_true, hset, Stage.point, ← hid]
      have hattempt : Goes settings payload t (s.place g t .begins)
          (s.place { g with sinks := g.sinks.set t.sink x.attempt } t
            (.leaves (x.writing.within settings.timeout).2)) :=
        goes_step (c := .sink x.attempt) (by simp [Point.next, hsink, hs, hleaves])
      exact hattempt.trans (goes_leaves _)

theorem goes_evicts (settings : Settings) (payload : Bytes) (hd : d.target = t) {x : Sink}
    (hs : g.sinks[d.sink]? = some x) :
    ((g.registry.unregister d.id).1 = none →
      Goes settings payload t (s.place g t .evicts) (s.place g t (.over .failed))) ∧
    ((g.registry.unregister d.id).1.isSome →
      Goes settings payload t (s.place g t .evicts)
        (s.place { g with
            registry := (g.registry.unregister d.id).2
            sinks := g.sinks.modify d.sink Sink.beginClose } t
          (.closing (x.closing.within settings.timeout).2))) := by
  subst hd
  have hid : d.target.id = d.id := rfl
  rcases takeOut_cases g d.target with ⟨hentry, hun⟩ | ⟨h, hentry, hun⟩
  · rw [hid] at hun
    refine ⟨fun hnone => ?_, fun hsome => by simp [hun] at hsome⟩
    have hsame : (g.registry.takeOut d.id).2 = g.registry := by
      rw [Registry.fst_unregister, Option.map_eq_none_iff] at hnone
      rw [Registry.unregister_of_none hnone] at hun
      exact (congrArg Prod.snd hun).symm
    have hout : Goes settings payload d.target (s.place g d.target .evicts)
        (s.place { g with registry := (g.registry.takeOut d.id).2 } d.target (.over .failed)) :=
      goes_step (c := .takeOut) (by simp [Point.next, hentry])
    rwa [hsame] at hout
  · rw [hid] at hun
    refine ⟨fun hnone => by simp [hun] at hnone, fun _ => ?_⟩
    rw [hun, List.modify_eq_set_getElem?, hs]
    have hout : Goes settings payload d.target (s.place g d.target .evicts)
        (s.place { g with registry := (g.registry.takeOut d.id).2 } d.target (.evicted h)) :=
      goes_step (c := .takeOut) (by simp [Point.next, hentry])
    have htell : Goes settings payload d.target
        (s.place { g with registry := (g.registry.takeOut d.id).2 } d.target (.evicted h))
        (s.place { g with registry := (g.registry.takeOut d.id).2.tell h } d.target .closes) :=
      goes_step (c := .tell h) rfl
    refine (hout.trans htell).trans (goes_step (c := .sink x.beginClose) ?_)
    have hsink : (view { g with registry := (g.registry.takeOut d.id).2.tell h } d.target).sink =
        some x := hs
    simp only [Point.next, hsink]

theorem goes_fail (hd : d.target = t) {x : Sink} (hs : g.sinks[d.sink]? = some x) (now : Nat) :
    Goes settings payload t (s.place g t .fails)
      (s.place (d.fail settings now x.closing g).1 t
        (d.fail settings now x.closing g).2.stage.point) := by
  subst hd
  obtain ⟨streak, r, hf⟩ : ∃ streak r, g.registry.recordFailure d.handle = (streak, r) :=
    ⟨_, _, rfl⟩
  let g₁ : Gateway := g.count .deliveryFailures
  let g₂ : Gateway := { g₁ with registry := r }
  have hcount : Goes settings payload d.target (s.place g d.target .fails)
      (s.place g₁ d.target .blames) := goes_step (c := .count .deliveryFailures) rfl
  have hstreak : (((g₁.view d.target).streak.map (· + 1)).getD 0) = streak := by
    have hgrown : (g.registry.recordFailure d.handle).1 = streak := congrArg Prod.fst hf
    simp only [Registry.recordFailure, List.getElem?_modify_eq, Option.map_eq_map,
      Option.map_map] at hgrown
    simp only [view, Option.map_map]
    exact hgrown
  have hblame : Goes settings payload d.target (s.place g₁ d.target .blames)
      (s.place g₂ d.target (if streak < settings.maxFailures then .over .failed else .evicts)) := by
    have hr : g₂ = { g₁ with registry := (g.registry.recordFailure d.handle).2 } := by rw [hf]
    rw [hr]
    exact goes_step (c := .failure) (by simp only [Point.next, hstreak])
  have hsofar := hcount.trans hblame
  obtain ⟨hlate, hevicts⟩ := goes_evicts (s := s) (g := g₂) (d := d) settings payload
    rfl hs
  rcases Delivery.fail_cases settings hf now x.closing with
    ⟨hno, hfail⟩ | ⟨hlimit, h, hgot, hfail⟩
  · rw [hfail]
    by_cases hlt : streak < settings.maxFailures
    · rwa [if_pos hlt] at hsofar
    · rw [if_neg hlt] at hsofar
      exact hsofar.trans (hlate (hno.resolve_left hlt))
  · rw [hfail]
    rw [if_neg hlimit] at hsofar
    exact hsofar.trans (hevicts (by rw [hgot]; rfl))

theorem goes_settle (hd : d.target = t) (now : Nat) (ending : Ending) :
    Goes settings payload t (s.place g t (.writes ending))
      (s.place (d.settle settings payload now ending g).1 t
        (d.settle settings payload now ending g).2.stage.point) := by
  have hsink : (g.view t).sink = g.sinks[d.sink]? := by rw [← hd]; rfl
  have hset : ∀ x : Sink, g.sinks.set t.sink x = g.sinks.set d.sink x := by
    intro x
    rw [← hd]
    rfl
  have hhandle : t.handle = d.handle := by rw [← hd]; rfl
  cases hs : g.sinks[d.sink]? with
  | none =>
    have hsettle : d.settle settings payload now ending g =
        (g, { d with stage := .ended now .failed }) := by
      simp [Delivery.settle, hs]
    rw [hsettle]
    exact goes_step (c := .nothing) (by simp [Point.next, hsink, hs, Stage.point])
  | some x =>
    cases hw : Delivery.writeResult payload ending x with
    | mk result x' =>
      have hwrite : ∀ p : Point,
          (Point.writes ending).next settings payload (g.view t) = (.sink x', p) →
          Goes settings payload t (s.place g t (.writes ending))
            (s.place { g with sinks := g.sinks.set d.sink x' } t p) := by
        intro p hnext
        rw [← hset]
        exact goes_step (c := .sink x') hnext
      cases result with
      | ok u =>
        have hwritten := hwrite .succeeds (by simp [Point.next, hsink, hs, hw])
        have hsuccess : Goes settings payload t
            (s.place { g with sinks := g.sinks.set d.sink x' } t .succeeds)
            (s.place { g with
                sinks := g.sinks.set d.sink x'
                registry := g.registry.recordSuccess t.handle } t
              (.counts .deliveries .delivered)) := goes_step (c := .success) rfl
        simp only [Delivery.settle, hs, hw, ← hhandle]
        exact (hwritten.trans hsuccess).trans (goes_step (c := .count .deliveries) rfl)
      | error e =>
        have hx' : (g.sinks.set d.sink x')[d.sink]? = some x' := by
          rw [List.getElem?_set_self (List.getElem?_eq_some_iff.1 hs).1]
        have hwritten := hwrite .fails (by simp [Point.next, hsink, hs, hw])
        simp only [Delivery.settle, hs, hw]
        exact hwritten.trans (goes_fail hd hx' now)

theorem goes_finishClose (hd : d.target = t) (now : Nat) (ending : Ending) :
    Goes settings payload t (s.place g t (.closing ending))
      (s.place (d.finishClose now ending g).1 t (d.finishClose now ending g).2.stage.point) := by
  have hsink : (g.view t).sink = g.sinks[d.sink]? := by rw [← hd]; rfl
  cases ending with
  | broken => exact goes_step (c := .nothing) rfl
  | timedOut =>
    have hclose : Goes settings payload t (s.place g t (.closing .timedOut))
        (s.place g t (.counts .evictions .evicted)) := goes_step (c := .nothing) rfl
    exact hclose.trans (goes_step (c := .count .evictions) rfl)
  | inTime =>
    have hclose : Goes settings payload t (s.place g t (.closing .inTime))
        (s.place { g with sinks := g.sinks.modify d.sink fun x => { x with closed := true } } t
          (.counts .evictions .evicted)) := by
      rw [List.modify_eq_set_getElem?]
      cases hs : g.sinks[d.sink]? with
      | none => exact goes_step (c := .nothing) (by simp [Point.next, hsink, hs])
      | some x =>
        rw [← hd] at hsink ⊢
        exact goes_step (c := .sink { x with closed := true }) (by simp [Point.next, hsink, hs])
    exact hclose.trans (goes_step (c := .count .evictions) rfl)

/-- A move of a delivery is some steps of its task. -/
theorem goes_move (hd : d.target = t) :
    Goes settings payload t (s.place g t d.stage.point)
      (s.place (d.move settings payload g).1 t (d.move settings payload g).2.stage.point) := by
  cases hstage : d.stage with
  | waiting =>
    simp only [Delivery.move, hstage]
    exact goes_start hd
  | writing due ending =>
    simp only [Delivery.move, hstage]
    exact goes_settle hd due ending
  | closing due ending =>
    simp only [Delivery.move, hstage]
    exact goes_finishClose hd due ending
  | ended time o =>
    simp only [Delivery.move, hstage]
    exact Goes.refl _

theorem target_move (settings : Settings) (payload : Bytes) (g : Gateway) (d : Delivery) :
    (d.move settings payload g).2.target = d.target := by
  cases hs : g.sinks[d.sink]? with
  | some x =>
    obtain ⟨st, hmove, -⟩ := Delivery.stage_move settings payload hs
    rw [hmove]
    rfl
  | none =>
    cases hstage : d.stage with
    | waiting => simp only [Delivery.move, hstage, Delivery.start, hs]; rfl
    | writing due ending => simp only [Delivery.move, hstage, Delivery.settle, hs]; rfl
    | closing due ending => cases ending <;> simp only [Delivery.move, hstage] <;> rfl
    | ended time o => simp only [Delivery.move, hstage]

theorem goes_moveBefore (settings : Settings) (payload : Bytes) (hd : d.target = t) :
    (Delivery.moveBefore settings payload none (g, d)).2.target = t ∧
      Goes settings payload t (s.place g t d.stage.point)
        (s.place (Delivery.moveBefore settings payload none (g, d)).1 t
          (Delivery.moveBefore settings payload none (g, d)).2.stage.point) := by
  cases hdue : d.due? with
  | none => simpa only [Delivery.moveBefore, hdue] using ⟨hd, Goes.refl _⟩
  | some due =>
    simp only [Delivery.moveBefore, hdue]
    exact ⟨(target_move settings payload g d).trans hd, goes_move hd⟩

/-- A delivery that goes on to its end is a task that goes on until its outcome is there. -/
theorem goes_advance (settings : Settings) (payload : Bytes) (hd : d.target = t) :
    (Delivery.advance settings payload none (g, d)).2.target = t ∧
      Goes settings payload t (s.place g t d.stage.point)
        (s.place (Delivery.advance settings payload none (g, d)).1 t
          (Delivery.advance settings payload none (g, d)).2.stage.point) := by
  obtain ⟨hfirst, hgoes⟩ := goes_moveBefore (s := s) (g := g) settings payload hd
  obtain ⟨hsecond, hgoes'⟩ := goes_moveBefore (s := s) settings payload
    (g := (Delivery.moveBefore settings payload none (g, d)).1) hfirst
  obtain ⟨hthird, hgoes''⟩ := goes_moveBefore (s := s) settings payload
    (g := (Delivery.moveBefore settings payload none
      (Delivery.moveBefore settings payload none (g, d))).1) hsecond
  exact ⟨hthird, (hgoes.trans hgoes').trans hgoes''⟩

end Running

/-- The outcome of a delivery that is over. -/
def Stage.outcome? : Stage → Option Outcome
  | .ended _ o => some o
  | _ => none

/-- The outcomes of the deliveries that are over. -/
def Flight.outcomes (f : Flight) : List Outcome := f.deliveries.filterMap (·.stage.outcome?)

theorem Flight.countEnded_eq (f : Flight) (o : Outcome) : f.countEnded o = f.outcomes.count o := by
  rw [countEnded, outcomes, ← List.countP_eq_length_filter, List.count, List.countP_filterMap]
  congr 1
  funext d
  cases d.stage <;> rfl

theorem DispatchReport.foldl_take (os : List Outcome) (r : DispatchReport) :
    os.foldl take r =
      { matched := r.matched
        delivered := r.delivered + os.count .delivered
        failed := r.failed + (os.count .failed + os.count .evicted)
        evicted := r.evicted + os.count .evicted } := by
  induction os generalizing r with
  | nil => rfl
  | cons o os ih =>
    rw [List.foldl_cons, ih]
    cases o <;> simp [take] <;> omega

theorem Flight.report_eq (f : Flight) :
    f.report = f.outcomes.foldl DispatchReport.take { matched := f.deliveries.length } := by
  simp [DispatchReport.foldl_take, report, countEnded_eq]

namespace Running

variable {s : Running} {settings : Settings} {payload : Bytes}

theorem place_self (s : Running) (t : Target) : s.place s.gateway t (s.points t.handle) = s := by
  simp only [place, moveTo]
  congr 1
  funext h
  split
  · next hh => rw [hh]
  · rfl

theorem exists_turns (settings : Settings) (payload : Bytes) (d : Delivery) (s : Running)
    (hplace : s.points d.handle = d.stage.point) :
    ∃ (k : Nat) (time : Nat) (o : Outcome),
      (Delivery.advance settings payload none (s.gateway, d)).2.stage = .ended time o ∧
      s.run settings payload (List.replicate k d.target) =
        { s with
            gateway := (Delivery.advance settings payload none (s.gateway, d)).1
            report := s.report.take o }.moveTo d.target .joined := by
  have hself : s.place s.gateway d.target d.stage.point = s := by
    rw [← hplace]
    exact place_self s d.target
  obtain ⟨time, o, hended⟩ : ∃ time o,
      (Delivery.advance settings payload none (s.gateway, d)).2.stage = .ended time o := by
    have hover := Delivery.isOver_iff.1 (Delivery.isOver_advance settings payload (s.gateway, d))
    generalize (Delivery.advance settings payload none (s.gateway, d)).2.stage = stage at hover
    cases stage with
    | ended time o => exact ⟨time, o, rfl⟩
    | waiting | writing due ending | closing due ending => simp [Stage.movesLeft] at hover
  have hgoes := (goes_advance (s := s) (g := s.gateway) (d := d) settings payload rfl).2
  rw [hself, hended] at hgoes
  obtain ⟨k, hk⟩ := hgoes.trans (goes_step (c := .take o) rfl)
  exact ⟨k, time, o, hended, hk⟩

/-- Deliveries that go on to their ends one after the other are tasks under one schedule. -/
theorem exists_schedule (settings : Settings) (payload : Bytes) (ds : List Delivery)
    (hnodup : (ds.map (·.handle)).Nodup) (s : Running)
    (hplace : ∀ d ∈ ds, s.points d.handle = d.stage.point) :
    ∃ l, (∀ t ∈ l, t ∈ ds.map Delivery.target) ∧
      (s.run settings payload l).gateway =
        (Flight.advanceAll settings payload none s.gateway ds).1 ∧
      (s.run settings payload l).report =
        ((Flight.advanceAll settings payload none s.gateway ds).2.filterMap
          (·.stage.outcome?)).foldl DispatchReport.take s.report ∧
      (s.run settings payload l).Over (ds.map Delivery.target) ∧
      ∀ h, (∀ d ∈ ds, d.handle ≠ h) → (s.run settings payload l).points h = s.points h := by
  induction ds generalizing s with
  | nil => exact ⟨[], by simp, rfl, rfl, by simp [Over], fun _ _ => rfl⟩
  | cons d ds ih =>
    rw [List.map_cons, List.nodup_cons] at hnodup
    have hother : ∀ d' ∈ ds, d'.handle ≠ d.handle :=
      fun d' hd' heq => hnodup.1 (heq ▸ List.mem_map_of_mem hd')
    obtain ⟨k, time, o, hended, hfirst⟩ := exists_turns settings payload d s
      (hplace d List.mem_cons_self)
    obtain ⟨l, hl, hgateway, hreport, hover, hkept⟩ := ih hnodup.2
      (s.run settings payload (List.replicate k d.target)) (by
        intro d' hd'
        rw [hfirst, points_moveTo_other (hother d' hd')]
        exact hplace d' (List.mem_cons_of_mem d hd'))
    refine ⟨List.replicate k d.target ++ l, ?_, ?_, ?_, ?_, ?_⟩
    · intro t ht
      rcases List.mem_append.1 ht with ht | ht
      · rw [List.eq_of_mem_replicate ht]
        exact List.mem_cons_self
      · exact List.mem_cons_of_mem _ (hl t ht)
    · rw [run_append, hgateway, hfirst]
      rfl
    · rw [run_append, hreport, hfirst]
      simp only [Flight.advanceAll, List.filterMap_cons, hended, Stage.outcome?, List.foldl_cons]
      rfl
    · intro t ht
      rw [run_append]
      rcases List.mem_cons.1 ht with rfl | ht
      · have hjoined := hkept d.handle hother
        rw [hfirst] at hjoined ⊢
        exact hjoined.trans (points_moveTo_self _ _ _)
      · exact hover t ht
    · intro h hne
      rw [run_append, hkept h fun d' hd' => hne d' (List.mem_cons_of_mem d hd'), hfirst]
      exact points_moveTo_other (hne d List.mem_cons_self).symm

end Running

/-! ## The order of the registrations -/

/-- Two gateways that differ at most in the order of their registrations. -/
structure Alike (g g' : Gateway) : Prop where
  entries : g.registry.entries.Perm g'.registry.entries
  nextId : g.registry.nextId = g'.registry.nextId
  handles : g.registry.handles = g'.registry.handles
  sinks : g.sinks = g'.sinks
  sessions : g.sessions = g'.sessions
  metrics : g.metrics = g'.metrics

namespace Registry

variable {r r' : Registry}

theorem find?_perm (hperm : r.entries.Perm r'.entries) (hids : (r.entries.map (·.id)).Nodup)
    (c : ConnectionId) : r.find? c = r'.find? c := by
  cases he' : r'.find? c with
  | none => exact find?_eq_none_iff.2 fun e he => find?_eq_none_iff.1 he' e (hperm.subset he)
  | some e' =>
    have hmem : e' ∈ r.entries := hperm.symm.subset (mem_of_find? he')
    cases he : r.find? c with
    | none => exact absurd (id_of_find? he') (find?_eq_none_iff.1 he e' hmem)
    | some e =>
      have hid : e.id = e'.id := (id_of_find? he).trans (id_of_find? he').symm
      rw [List.inj_on_of_nodup_map hids (mem_of_find? he) hmem hid]

theorem Sound.of_perm (hr : r.Sound) {es : List Registration} (hperm : es.Perm r.entries) :
    Sound { r with entries := es } where
  ids := (hperm.map (·.id)).nodup_iff.2 hr.ids
  live e he := hr.live e (hperm.subset he)
  listed h x hx hrem := by
    obtain ⟨e, he, hh⟩ := hr.listed h x hx hrem
    exact ⟨e, hperm.symm.subset he, hh⟩
  topics e he := hr.topics e (hperm.subset he)

end Registry

namespace Running

variable {s s' : Running} {t : Target} {settings : Settings} {payload : Bytes}

/-- Two dispatches that differ at most in the order of the registrations. -/
structure Alike (s s' : Running) : Prop where
  gateway : s.gateway.Alike s'.gateway
  report : s.report = s'.report
  points : s.points = s'.points
  ids : (s.gateway.registry.entries.map (·.id)).Nodup

theorem Alike.view (h : s.Alike s') (t : Target) : s.gateway.view t = s'.gateway.view t := by
  simp only [Gateway.view, h.gateway.sinks, h.gateway.handles,
    Registry.find?_perm h.gateway.entries h.ids]

theorem Alike.change (h : s.Alike s') (t : Target) (c : Change) :
    (s.change t c).Alike (s'.change t c) := by
  have hsame := h
  obtain ⟨⟨hentries, hnext, hhandles, hsinks, hsessions, hmetrics⟩, hreport, hpoints, hids⟩ := h
  have hmodify : ∀ k f, s.gateway.registry.handles.modify k f =
      s'.gateway.registry.handles.modify k f := fun k f => by rw [hhandles]
  cases c with
  | nothing => exact hsame
  | sink x =>
    exact ⟨⟨hentries, hnext, hhandles, congrArg (·.set t.sink x) hsinks, hsessions, hmetrics⟩,
      hreport, hpoints, hids⟩
  | success | failure | tell x =>
    exact ⟨⟨hentries, hnext, hmodify _ _, hsinks, hsessions, hmetrics⟩, hreport, hpoints, hids⟩
  | takeOut =>
    exact ⟨⟨hentries.filter _, hnext, hhandles, hsinks, hsessions, hmetrics⟩, hreport, hpoints,
      hids.sublist (List.filter_sublist.map _)⟩
  | count c =>
    exact ⟨⟨hentries, hnext, hhandles, hsinks, hsessions, congrArg (·.bump c) hmetrics⟩,
      hreport, hpoints, hids⟩
  | take o =>
    exact ⟨⟨hentries, hnext, hhandles, hsinks, hsessions, hmetrics⟩, congrArg (·.take o) hreport,
      hpoints, hids⟩

theorem Alike.step (h : s.Alike s') (t : Target) :
    (s.step settings payload t).Alike (s'.step settings payload t) := by
  rw [step_eq, step_eq, h.points, h.view t]
  have hchange := h.change t ((s'.points t.handle).next settings payload (s'.gateway.view t)).1
  exact ⟨hchange.gateway, hchange.report, by simp only [moveTo, hchange.points], hchange.ids⟩

theorem Alike.run (settings : Settings) (payload : Bytes) (h : s.Alike s') (l : List Target) :
    (s.run settings payload l).Alike (s'.run settings payload l) := by
  induction l generalizing s s' with
  | nil => exact h
  | cons t l ih => exact ih (h.step t)

end Running

/-! ## Every order -/

variable {g : Gateway} {m : Message} {settings : Settings}

theorem target_of_mem_launch {d : Delivery} (hd : d ∈ (Flight.launch settings g m).deliveries) :
    d.stage = .waiting ∧ d.target ∈ g.targets m.topic := by
  obtain ⟨h, hmem, hsome⟩ := List.mem_filterMap.1 hd
  obtain ⟨x, hx, rfl⟩ := Option.map_eq_some_iff.1 hsome
  refine ⟨rfl, List.mem_filterMap.2 ⟨h, hmem, ?_⟩⟩
  rw [hx]
  rfl

theorem targets_eq (settings : Settings) (g : Gateway) (m : Message) :
    (Flight.launch settings g m).deliveries.map Delivery.target = g.targets m.topic := by
  simp only [Flight.launch, targets, List.map_filterMap, Option.map_map]
  rfl

theorem registration_of_target (hsound : g.registry.Sound) {topic : Topic} {t : Target}
    (ht : t ∈ g.targets topic) : ∃ x e, g.registry.handles[t.handle]? = some x ∧
      x.sink = t.sink ∧ x.id = t.id ∧ e ∈ g.registry.entries ∧ e.handle = t.handle ∧
        e.id = t.id ∧ e.topics.contains topic = true := by
  obtain ⟨h, hmem, hsome⟩ := List.mem_filterMap.1 ht
  obtain ⟨x, hx, rfl⟩ := Option.map_eq_some_iff.1 hsome
  obtain ⟨e, he, rfl⟩ := List.mem_map.1 hmem
  obtain ⟨he, htopic⟩ := List.mem_filter.1 he
  obtain ⟨y, hy, hid, -⟩ := hsound.live e he
  rw [hx] at hy
  obtain rfl := Option.some.inj hy
  exact ⟨x, e, hx, rfl, rfl, he, rfl, hid.symm, htopic⟩

/-- The connections that a message goes to have different handles, write sides and ids. -/
theorem separate_targets (hsound : g.registry.Sound) (hunshared : g.registry.Unshared)
    (topic : Topic) : Separate (g.targets topic) := by
  intro t ht t' ht' hne
  obtain ⟨x, e, hx, hsink, hid, he, hh, heid, -⟩ := registration_of_target hsound ht
  obtain ⟨x', e', hx', hsink', hid', he', hh', heid', -⟩ := registration_of_target hsound ht'
  have hhandle : t.handle ≠ t'.handle := by
    intro heq
    rw [heq, hx'] at hx
    obtain rfl := Option.some.inj hx
    exact hne (by cases t; cases t'; simp_all)
  refine ⟨hhandle, fun heq => hhandle ?_, fun heq => hhandle ?_⟩
  · exact hunshared _ _ x x' hx hx' (hsink.trans (heq.trans hsink'.symm))
  · have hsame : e = e' :=
      List.inj_on_of_nodup_map hsound.ids he he' (heid.trans (heq.trans heid'.symm))
    rw [← hh, hsame, hh']

theorem Flight.length_advanceAll (payload : Bytes) (limit : Option Nat) (g : Gateway)
    (ds : List Delivery) : (advanceAll settings payload limit g ds).2.length = ds.length := by
  induction ds generalizing g with
  | nil => rfl
  | cons d ds ih =>
    simp only [advanceAll, List.length_cons, ih]

/-- Serving the connections one after the other, in whatever order, is one of the schedules. -/
theorem exists_schedule_of_perm (settings : Settings) (m : Message) (hsound : g.registry.Sound)
    {ds : List Delivery}
    (hds : ds.Perm (Flight.launch settings g m).deliveries) :
    let once := ({ Flight.launch settings g m with deliveries := ds } : Flight).advance g none
    ∃ l, (∀ t ∈ l, t ∈ g.targets m.topic) ∧
      ((Running.launch g m).run settings m.payload l).Over (g.targets m.topic) ∧
      ((Running.launch g m).run settings m.payload l).gateway = once.1 ∧
      ((Running.launch g m).run settings m.payload l).report = once.2.report := by
  intro once
  have hexact : (Dispatched.launch settings g m).Exact := Dispatched.exact_launch hsound
  have hnodup : (ds.map (·.handle)).Nodup := by
    rw [(hds.map (·.handle)).nodup_iff]
    exact hexact.handles ▸ hexact.snapshot.nodup_matching
  have htargets : ∀ t, t ∈ ds.map Delivery.target ↔ t ∈ g.targets m.topic := by
    intro t
    rw [← targets_eq settings g m]
    exact (hds.map Delivery.target).mem_iff
  have hplace : ∀ d ∈ ds, (Running.launch g m).points d.handle = d.stage.point := by
    intro d hd
    rw [(target_of_mem_launch (hds.subset hd)).1]
    rfl
  obtain ⟨l, hl, hgateway, hreport, hover, -⟩ := Running.exists_schedule settings m.payload
    ds hnodup (Running.launch g m) hplace
  refine ⟨l, fun t ht => (htargets t).1 (hl t ht), fun t ht => hover t ((htargets t).2 ht),
    hgateway, ?_⟩
  have hmatched : (g.targets m.topic).length = once.2.deliveries.length := by
    rw [← targets_eq settings g m, List.length_map, ← hds.length_eq]
    exact (Flight.length_advanceAll m.payload none g ds).symm
  rw [hreport, Flight.report_eq, ← hmatched]
  rfl

/-- Tasks that are all over have come to what serving the connections one after the other does. -/
theorem run_eq_dispatch (settings : Settings) (m : Message) (hsound : g.registry.Sound)
    (hunshared : g.registry.Unshared) {schedule : List Target}
    (hmem : ∀ t ∈ schedule, t ∈ g.targets m.topic)
    (hover : ((Running.launch g m).run settings m.payload schedule).Over (g.targets m.topic)) :
    ((Running.launch g m).run settings m.payload schedule).report = (dispatch settings g m).1 ∧
      ((Running.launch g m).run settings m.payload schedule).gateway =
        (dispatch settings g m).2.2 := by
  obtain ⟨l, hl, hover', hgateway, hreport⟩ := exists_schedule_of_perm settings m hsound
    (List.Perm.refl _)
  rw [Running.run_eq_of_over (separate_targets hsound hunshared m.topic) hmem hl hover hover']
  exact ⟨hreport, hgateway⟩

/-- Dispatches a message to one connection after the other, in the order of their ids. -/
def dispatchInOrder (settings : Settings) (g : Gateway) (m : Message) : DispatchReport × Gateway :=
  let f := Flight.launch settings g m
  let sorted := { f with deliveries := f.deliveries.mergeSort fun d d' => d.id ≤ d'.id }
  let (g, f) := sorted.advance g none
  (f.report, g)

/-- Whatever order the registrations are in, and whatever order the tasks of a dispatch make their
steps in and have their outcomes taken in: when all are over, the report and the gateway are those
of serving the connections one after the other in the order of their ids. All are over once each has
had its turn twelve times, and `dispatch` is no exception. -/
theorem dispatch_confluent (settings : Settings) (m : Message) (hsound : g.registry.Sound)
    (hunshared : g.registry.Unshared) {es : List Registration}
    (hperm : es.Perm g.registry.entries) :
    let g' : Gateway := { g with registry := { g.registry with entries := es } }
    let ts := g'.targets m.topic
    let once := dispatchInOrder settings g m
    (∀ schedule, (∀ t ∈ schedule, t ∈ ts) →
      let s := (Running.launch g' m).run settings m.payload schedule
      ((∀ t ∈ ts, 12 ≤ schedule.count t) → s.Over ts) ∧
      (s.Over ts → s.report = once.1 ∧ s.gateway.Alike once.2)) ∧
    (dispatch settings g' m).1 = once.1 ∧ (dispatch settings g' m).2.2.Alike once.2 := by
  intro g' ts once
  have hsound' : g'.registry.Sound := hsound.of_perm hperm
  have hseparate : Separate (g.targets m.topic) := separate_targets hsound hunshared m.topic
  have htargets : ts.Perm (g.targets m.topic) := ((hperm.filter _).map _).filterMap _
  have hlaunch : (Running.launch g' m).Alike (Running.launch g m) := by
    refine ⟨⟨hperm, rfl, rfl, rfl, rfl, rfl⟩, ?_, rfl, hsound'.ids⟩
    exact congrArg (fun n => ({ matched := n } : DispatchReport)) htargets.length_eq
  have hevery : ∀ schedule, (∀ t ∈ schedule, t ∈ ts) →
      ((Running.launch g' m).run settings m.payload schedule).Over ts →
      ((Running.launch g' m).run settings m.payload schedule).report = once.1 ∧
        ((Running.launch g' m).run settings m.payload schedule).gateway.Alike once.2 := by
    intro schedule hmem hover
    obtain ⟨l, hl, hover', hgateway, hreport⟩ := exists_schedule_of_perm settings m hsound
      (List.mergeSort_perm _ fun d d' => d.id ≤ d'.id)
    have halike := hlaunch.run settings m.payload schedule
    have hsame : (Running.launch g m).run settings m.payload schedule =
        (Running.launch g m).run settings m.payload l := by
      refine Running.run_eq_of_over hseparate (fun t ht => htargets.subset (hmem t ht)) hl ?_ hover'
      intro t ht
      rw [← halike.points]
      exact hover t (htargets.symm.subset ht)
    rw [hsame] at halike
    have hgateway' : ((Running.launch g m).run settings m.payload l).gateway = once.2 := hgateway
    exact ⟨halike.report.trans hreport, hgateway' ▸ halike.gateway⟩
  refine ⟨fun schedule hmem => ⟨fun hturns => ?_, hevery schedule hmem⟩, ?_⟩
  · exact Running.over_of_count (fun t ht t' ht' => hseparate t (htargets.subset ht) t'
      (htargets.subset ht')) hmem hturns
  · obtain ⟨l, hl, hover, hgateway, hreport⟩ := exists_schedule_of_perm settings m hsound'
      (List.Perm.refl _)
    obtain ⟨hreport', halike⟩ := hevery l hl hover
    have hgateway' : ((Running.launch g' m).run settings m.payload l).gateway =
        (dispatch settings g' m).2.2 := hgateway
    exact ⟨hreport.symm.trans hreport', hgateway' ▸ halike⟩

/-- Of three clients one takes the message, one refuses it and is evicted, and one neither ends a
write nor survives a close. The latest goes first, and they take turns step by step. -/
theorem three_clients_in_turns :
    let btc := Topic.ofString "BTCUSDT"
    let m : Message := ⟨btc, [1]⟩
    let acts : List Act := [.reserve, .reserve, .reserve, .enroll 1 {},
      .enroll 2 { failures := .always }, .enroll 3 { writing := .never, closing := .breaks 0 },
      .subscribe 1 [btc], .subscribe 2 [btc], .subscribe 3 [btc]]
    let g := ((Traffic.start {}).run acts).gateway
    let es := g.registry.entries.reverse
    let g' : Gateway := { g with registry := { g.registry with entries := es } }
    let ts := g'.targets btc
    let s := (Running.launch g' m).run {} [1] (List.replicate 12 ts).flatten
    (g.registry.Sound ∧ g.registry.Unshared ∧ es.Perm g.registry.entries) ∧
      ts.map (·.id) = [3, 2, 1] ∧ s.Over ts ∧
      s.report = (dispatchInOrder {} g m).1 ∧ s.gateway.Alike (dispatchInOrder {} g m).2 ∧
      s.report = ⟨3, 1, 2, 1⟩ ∧ s.gateway.registry.entries.map (·.id) = [1] ∧
      s.gateway.sinks.map (·.closed) = [false, true, false] := by
  intro btc m acts g es g' ts s
  have hbooked := Traffic.booked_run {} acts
  have hperm : es.Perm g.registry.entries := List.reverse_perm _
  have hts : ts.map (·.id) = [3, 2, 1] := by decide
  have hmem : ∀ t ∈ (List.replicate 12 ts).flatten, t ∈ ts := by decide
  have hturns : ∀ t ∈ ts, 12 ≤ (List.replicate 12 ts).flatten.count t := by decide
  obtain ⟨hevery, -⟩ := dispatch_confluent {} m hbooked.sound hbooked.unshared hperm
  obtain ⟨hends, halike⟩ := hevery _ hmem
  obtain ⟨hreport, hgateway⟩ := halike (hends hturns)
  refine ⟨⟨hbooked.sound, hbooked.unshared, hperm⟩, hts, hends hturns, hreport, hgateway, ?_⟩
  decide

end Gateway

end CandleRelay
