import CandleRelay.Proofs.Traffic.Delivery

/-!
# Where a client stands

All clients share one registry, and whatever is done to one of them is done to the lists that hold
all of them. So a connection is looked at by itself: its handles are counted among its own, the
earliest first, and each has a `Life`, which says what has become of the write side, the streak, the
removal and the topics. The ids of connections, handles and write sides do not occur there.

What is proved:
  1. `lives_streak`, `lives_sink`, `lives_unregister`, `lives_update`, `lives_register`: what is
     done to a handle, a write side or a registration changes the lives of one connection, in a way
     that can be told from these lives, and those of no other.
  2. `contains_eq_any`: a connection is registered if one of its lives has topics.
  3. `tells_move`: a move of a delivery, whatever comes of the write, changes the lives of the
     delivery's connection only, and both the change and the next stage of the delivery can be told
     from these lives.
-/

namespace CandleRelay.Gateway

/-! ## Picking -/

/-- Those values of the first `n` that are there, in order. -/
def pick {β : Type} (n : Nat) (p : Nat → Option β) : List β := (List.range n).filterMap p

section Pick

variable {β : Type} {n i : Nat} {p p' : Nat → Option β} {f : β → β} {b : β}

theorem pick_succ : pick (n + 1) p = pick n p ++ (p n).toList := by
  rw [pick, List.range_succ, List.filterMap_append, pick]
  cases h : p n <;> simp [h]

theorem pick_congr (h : ∀ j < n, p' j = p j) : pick n p' = pick n p :=
  List.filterMap_congr fun j hj => h j (List.mem_range.1 hj)

theorem pick_map (h : ∀ j < n, p' j = (p j).map f) : pick n p' = (pick n p).map f := by
  rw [pick_congr h, pick, pick, List.map_filterMap]

theorem getElem?_pick (hi : i < n) (hb : p i = some b) :
    (pick n p)[(pick i p).length]? = some b := by
  induction n with
  | zero => exact absurd hi (Nat.not_lt_zero i)
  | succ n ih =>
    rw [pick_succ]
    rcases Nat.lt_or_eq_of_le (Nat.le_of_lt_succ hi) with hlt | rfl
    · have hget := ih hlt
      rwa [List.getElem?_append_left (List.getElem?_eq_some_iff.1 hget).1]
    · rw [List.getElem?_append_right (Nat.le_refl _), Nat.sub_self, hb]
      rfl

theorem findIdx?_pick {q : β → Bool} (hi : i < n) (hb : p i = some b) (hq : q b = true)
    (hbefore : ∀ j < i, ∀ b', p j = some b' → q b' = false) :
    (pick n p).findIdx? q = some (pick i p).length := by
  induction n with
  | zero => exact absurd hi (Nat.not_lt_zero i)
  | succ n ih =>
    rw [pick_succ, List.findIdx?_append]
    rcases Nat.lt_or_eq_of_le (Nat.le_of_lt_succ hi) with hlt | rfl
    · rw [ih hlt, Option.some_or]
    · have hnone : (pick i p).findIdx? q = none := by
        rw [List.findIdx?_eq_none_iff]
        intro b' hb'
        obtain ⟨j, hj, hsome⟩ := List.mem_filterMap.1 hb'
        exact hbefore j (List.mem_range.1 hj) b' hsome
      rw [hnone, hb, Option.none_or]
      simp [hq]

theorem pick_getElem? {α : Type} (l : List α) (f : α → Option β) :
    pick l.length (fun k => (l[k]?).bind f) = l.filterMap f := by
  induction l using List.reverseRecOn with
  | nil => rfl
  | append_singleton l a ih =>
    have hold : pick l.length (fun k => ((l ++ [a])[k]?).bind f) =
        pick l.length fun k => (l[k]?).bind f :=
      pick_congr fun k hk => by rw [List.getElem?_append_left hk]
    rw [List.length_append, List.length_singleton, pick_succ, hold, ih, List.filterMap_append]
    cases h : f a <;> simp [h]

theorem modify_append_left {l l' : List β} (hi : i < l.length) :
    (l ++ l').modify i f = l.modify i f ++ l' := by
  induction l generalizing i with
  | nil => exact absurd hi (Nat.not_lt_zero i)
  | cons a l ih =>
    cases i with
    | zero => rfl
    | succ i => simp [ih (Nat.lt_of_succ_lt_succ hi)]

theorem modify_append_length (l : List β) : (l ++ [b]).modify l.length f = l ++ [f b] := by
  induction l with
  | nil => rfl
  | cons a l ih => simp [ih]

theorem pick_modify (hi : i < n) (hb : p i = some b)
    (h : ∀ j < n, p' j = if j = i then (p j).map f else p j) :
    pick n p' = (pick n p).modify (pick i p).length f := by
  induction n with
  | zero => exact absurd hi (Nat.not_lt_zero i)
  | succ n ih =>
    rw [pick_succ, pick_succ]
    rcases Nat.lt_or_eq_of_le (Nat.le_of_lt_succ hi) with hlt | rfl
    · have hlast : p' n = p n := by
        rw [h n (Nat.lt_succ_self n), if_neg (Nat.ne_of_gt hlt)]
      have hfirst := ih hlt fun j hj => h j (Nat.lt_succ_of_lt hj)
      rw [hlast, hfirst, modify_append_left]
      exact (List.getElem?_eq_some_iff.1 (getElem?_pick hlt hb)).1
    · have hfirst : pick i p' = pick i p :=
        pick_congr fun j hj => by rw [h j (Nat.lt_succ_of_lt hj), if_neg (Nat.ne_of_lt hj)]
      rw [hfirst, h i (Nat.lt_succ_self i), if_pos rfl, hb]
      exact (modify_append_length _).symm

end Pick

/-! ## One handle -/

/-- What has become of one of a connection's handles. -/
structure Life where
  sink : Sink
  /-- Deliveries that failed since the last one that did not. -/
  streak : Nat
  removed : Bool
  /-- The topics, while the connection is registered with this handle. -/
  topics : Option (List Topic)
  deriving DecidableEq

/-- The topics of a connection that is registered with a handle. -/
def Registry.topicsWith? (r : Registry) (c : ConnectionId) (h : HandleId) : Option (List Topic) :=
  ((r.find? c).filter (·.handle == h)).map (·.topics)

/-- What has become of a handle, if it is one of the connection's. -/
def life? (g : Gateway) (c : ConnectionId) (h : HandleId) : Option Life :=
  (g.registry.handles[h]?).bind fun x =>
    if x.id = c then
      some
        { sink := (g.sinks[x.sink]?).getD {}
          streak := x.streak
          removed := x.removed
          topics := g.registry.topicsWith? c h }
    else none

/-- What has become of the connection's handles, the earliest first. -/
def lives (g : Gateway) (c : ConnectionId) : List Life :=
  pick g.registry.handles.length (g.life? c)

/-- How many of the connection's handles come before a handle. -/
def Registry.rank (r : Registry) (c : ConnectionId) (h : HandleId) : Nat :=
  ((r.handles.map (·.id)).take h).count c

namespace Life

/-- Life after the registration has ended. -/
def ends (l : Life) : Life :=
  match l.topics with
  | some _ => { l with removed := true, topics := none }
  | none => l

def onSink (f : Sink → Sink) (l : Life) : Life := { l with sink := f l.sink }

def onStreak (f : Nat → Nat) (l : Life) : Life := { l with streak := f l.streak }

def onTopics (f : List Topic → List Topic) (l : Life) : Life := { l with topics := l.topics.map f }

end Life

/-- A gateway in which no two handles have one sink, and every handle has one. -/
structure Fit (g : Gateway) : Prop where
  sound : g.registry.Sound
  unshared : g.registry.Unshared
  held : ∀ (h : HandleId) (x : Handle), g.registry.handles[h]? = some x →
    ∃ k, g.sinks[x.sink]? = some k

variable {g g' : Gateway} {c id : ConnectionId} {h : HandleId} {x : Handle}

theorem life?_own (hx : g.registry.handles[h]? = some x) (hid : x.id = c) :
    g.life? c h = some
      { sink := (g.sinks[x.sink]?).getD {}
        streak := x.streak
        removed := x.removed
        topics := g.registry.topicsWith? c h } := by
  rw [life?, hx, Option.bind_some, if_pos hid]

theorem life?_other (hx : g.registry.handles[h]? = some x) (hid : x.id ≠ c) :
    g.life? c h = none := by
  rw [life?, hx, Option.bind_some, if_neg hid]

theorem topics_of_life? {l : Life} (hl : g.life? c h = some l) :
    l.topics = g.registry.topicsWith? c h := by
  obtain ⟨x, hx, hsome⟩ := Option.bind_eq_some_iff.1 hl
  split at hsome
  · rw [← Option.some.inj hsome]
  · simp at hsome

theorem Registry.rank_of_keeps {r r' : Registry} (hk : r.Keeps r') (c : ConnectionId)
    (h : HandleId) : r'.rank c h = r.rank c h := by
  rw [rank, hk.map_id, rank]

/-- The rank of a handle is its place among the lives. -/
theorem length_pick_life? (hh : h ≤ g.registry.handles.length) :
    (pick h (g.life? c)).length = g.registry.rank c h := by
  induction h with
  | zero => rfl
  | succ h ih =>
    have hlt : h < g.registry.handles.length := hh
    have hx : g.registry.handles[h]? = some g.registry.handles[h] := List.getElem?_eq_getElem hlt
    have htake : (g.registry.handles.map (·.id)).take (h + 1) =
        (g.registry.handles.map (·.id)).take h ++ [g.registry.handles[h].id] := by
      rw [List.take_add_one, List.getElem?_map, hx]
      rfl
    rw [pick_succ, List.length_append, ih (Nat.le_of_lt hlt), Registry.rank, Registry.rank, htake,
      List.count_append]
    by_cases hid : g.registry.handles[h].id = c
    · rw [life?_own hx hid]
      simp [hid]
    · rw [life?_other hx hid]
      simp [hid]

/-- A handle of the connection is the life of its rank. -/
theorem getElem?_lives (hx : g.registry.handles[h]? = some x) (hid : x.id = c) :
    (g.lives c)[g.registry.rank c h]? = some
      { sink := (g.sinks[x.sink]?).getD {}
        streak := x.streak
        removed := x.removed
        topics := g.registry.topicsWith? c h } := by
  have hlt := (List.getElem?_eq_some_iff.1 hx).1
  rw [← length_pick_life? (Nat.le_of_lt hlt)]
  exact getElem?_pick hlt (life?_own hx hid)

/-! ## What becomes of the lives -/

theorem lives_congr (hlength : g'.registry.handles.length = g.registry.handles.length)
    (h : ∀ j, g'.life? c j = g.life? c j) : g'.lives c = g.lives c := by
  rw [lives, hlength]
  exact pick_congr fun j _ => h j

theorem lives_of_eq (hregistry : g'.registry = g.registry) (hsinks : g'.sinks = g.sinks) :
    g'.lives c = g.lives c :=
  lives_congr (by rw [hregistry]) fun j => by simp only [life?, hregistry, hsinks]

theorem lives_map {f : Life → Life}
    (hlength : g'.registry.handles.length = g.registry.handles.length)
    (h : ∀ j, g'.life? c j = (g.life? c j).map f) : g'.lives c = (g.lives c).map f := by
  rw [lives, hlength]
  exact pick_map fun j _ => h j

theorem lives_modify {f : Life → Life} (hx : g.registry.handles[h]? = some x)
    (hlength : g'.registry.handles.length = g.registry.handles.length)
    (hlife : ∀ j, g'.life? c j = if j = h then (g.life? c j).map f else g.life? c j) :
    g'.lives c =
      if x.id = c then (g.lives c).modify (g.registry.rank c h) f else g.lives c := by
  have hlt := (List.getElem?_eq_some_iff.1 hx).1
  split
  · next hid =>
    rw [lives, hlength, ← length_pick_life? (Nat.le_of_lt hlt)]
    exact pick_modify hlt (life?_own hx hid) fun j _ => hlife j
  · next hid =>
    refine lives_congr hlength fun j => ?_
    rw [hlife j]
    split
    · next hj =>
      subst hj
      rw [life?_other hx hid]
      rfl
    · rfl

theorem lives_streak (hx : g.registry.handles[h]? = some x) (f : Nat → Nat) :
    lives { g with registry := { g.registry with
        handles := g.registry.handles.modify h fun x => { x with streak := f x.streak } } } c =
      if x.id = c then (g.lives c).modify (g.registry.rank c h) (Life.onStreak f)
      else g.lives c := by
  refine lives_modify hx (List.length_modify ..) fun j => ?_
  by_cases hj : h = j
  · subst hj
    rw [if_pos rfl]
    simp only [life?, List.getElem?_modify_eq, hx]
    by_cases hid : x.id = c <;> simp [hid, Life.onStreak, Registry.topicsWith?, Registry.find?]
  · rw [if_neg (Ne.symm hj)]
    simp only [life?, List.getElem?_modify_ne _ _ hj]
    rfl

theorem lives_sink (hg : g.Fit) (hx : g.registry.handles[h]? = some x) (f : Sink → Sink) :
    lives { g with sinks := g.sinks.modify x.sink f } c =
      if x.id = c then (g.lives c).modify (g.registry.rank c h) (Life.onSink f)
      else g.lives c := by
  refine lives_modify hx rfl fun j => ?_
  by_cases hj : j = h
  · subst hj
    obtain ⟨k, hk⟩ := hg.held j x hx
    simp only [life?, hx, Option.bind_some, List.getElem?_modify_eq, hk, if_true]
    by_cases hid : x.id = c <;> simp [hid, Life.onSink]
  · rw [if_neg hj]
    cases hy : g.registry.handles[j]? with
    | none => simp [life?, hy]
    | some y =>
      have hsink : x.sink ≠ y.sink := fun heq => hj (hg.unshared j h y x hy hx heq.symm)
      simp only [life?, hy, Option.bind_some, List.getElem?_modify_ne _ _ hsink]

theorem topicsWith?_unregister (r : Registry) (j : HandleId) :
    (r.unregister id).2.topicsWith? c j = if id = c then none else r.topicsWith? c j := by
  rw [Registry.topicsWith?, Registry.find?_unregister]
  by_cases hid : id = c
  · simp [hid]
  · rw [if_neg (Ne.symm hid), if_neg hid, Registry.topicsWith?]

/-- A registration ends. -/
theorem lives_unregister (hr : g.registry.Sound) (id : ConnectionId) :
    lives { g with registry := (g.registry.unregister id).2 } c =
      if id = c then (g.lives c).map Life.ends else g.lives c := by
  have hlength : (g.registry.unregister id).2.handles.length = g.registry.handles.length :=
    Registry.keeps_unregister.length
  have hlife : ∀ j, life? { g with registry := (g.registry.unregister id).2 } c j =
      if id = c then (g.life? c j).map Life.ends else g.life? c j := by
    intro j
    simp only [life?, topicsWith?_unregister]
    cases he : g.registry.find? id with
    | none =>
      rw [Registry.unregister_of_none he]
      split
      · next hid =>
        subst hid
        have hnone : g.registry.topicsWith? id j = none := by simp [Registry.topicsWith?, he]
        cases hx : g.registry.handles[j]? with
        | none => rfl
        | some x => by_cases hid : x.id = id <;> simp [hid, hnone, Life.ends]
      · rfl
    | some e =>
      obtain ⟨x, hx, hxid, -⟩ := hr.handle_of_find? he
      rw [Registry.unregister_of_some he]
      by_cases hj : e.handle = j
      · -- The handle that the connection is registered with.
        subst hj
        simp only [List.getElem?_modify_eq, hx, Option.map_eq_map, Option.map_some,
          Option.bind_some, hxid]
        split
        · next hid =>
          subst hid
          simp [Registry.topicsWith?, he, Life.ends, Option.filter_some]
        · rfl
      · simp only [List.getElem?_modify_ne _ _ hj]
        split
        · next hid =>
          subst hid
          have hnone : g.registry.topicsWith? id j = none := by
            simp [Registry.topicsWith?, he, hj]
          cases hy : g.registry.handles[j]? with
          | none => rfl
          | some y => by_cases hid : y.id = id <;> simp [hid, hnone, Life.ends]
        · rfl
  split
  · next hid => exact lives_map hlength fun j => by rw [hlife j, if_pos hid]
  · next hid => exact lives_congr hlength fun j => by rw [hlife j, if_neg hid]

theorem lives_update {f : Registration → Registration} {f' : List Topic → List Topic}
    (hid : ∀ e, (f e).id = e.id) (hhandle : ∀ e, (f e).handle = e.handle)
    (htopics : ∀ e, (f e).topics = f' e.topics) :
    lives { g with registry := (g.registry.update id f).2 } c =
      if id = c then (g.lives c).map (Life.onTopics f') else g.lives c := by
  have hwith : ∀ j, (g.registry.update id f).2.topicsWith? c j =
      if id = c then (g.registry.topicsWith? c j).map f' else g.registry.topicsWith? c j := by
    intro j
    rw [Registry.topicsWith?, Registry.find?_update f hid]
    by_cases heq : id = c
    · subst heq
      rw [if_pos rfl, if_pos rfl, Registry.topicsWith?]
      cases he : g.registry.find? id with
      | none => rfl
      | some e =>
        simp only [Option.map_some, Option.filter_some, hhandle]
        split <;> simp [htopics]
    · rw [if_neg (Ne.symm heq), if_neg heq, Registry.topicsWith?]
  split
  · next heq =>
    refine lives_map rfl fun j => ?_
    simp only [life?, hwith, if_pos heq]
    show (g.registry.handles[j]?).bind _ = _
    cases g.registry.handles[j]? with
    | none => rfl
    | some x => by_cases hxid : x.id = c <;> simp [hxid, Life.onTopics]
  · next hne =>
    refine lives_congr rfl fun j => ?_
    simp only [life?, hwith, if_neg hne]
    rfl

/-- Whether the connection is registered can be told from its lives. -/
theorem contains_eq_any (hr : g.registry.Sound) :
    g.registry.contains c = (g.lives c).any (·.topics.isSome) := by
  rw [Bool.eq_iff_iff, List.any_eq_true]
  constructor
  · intro hc
    obtain ⟨e, he⟩ := Option.isSome_iff_exists.1 hc
    obtain ⟨x, hx, hid, -⟩ := hr.handle_of_find? he
    have hget := getElem?_lives hx hid
    refine ⟨_, List.mem_of_getElem? hget, ?_⟩
    simp [Registry.topicsWith?, he]
  · rintro ⟨l, hl, htopics⟩
    obtain ⟨j, -, hlife⟩ := List.mem_filterMap.1 hl
    rw [topics_of_life? hlife] at htopics
    rw [Registry.contains]
    cases he : g.registry.find? c with
    | none => simp [Registry.topicsWith?, he] at htopics
    | some e => rfl

/-- A connection is registered, unless it is already; a write side comes with it either way. -/
theorem lives_register (hg : g.Fit) (m : Manner) :
    lives { g with
        registry := (g.registry.register id g.sinks.length).2
        sinks := g.sinks ++ [{ toManner := m }] } c =
      if id = c ∧ g.registry.contains c = false then
        g.lives c ++ [⟨{ toManner := m }, 0, false, some []⟩]
      else g.lives c := by
  have hsinks : ∀ {j : HandleId} {x : Handle}, g.registry.handles[j]? = some x →
      (g.sinks ++ [({ toManner := m } : Sink)])[x.sink]? = g.sinks[x.sink]? := by
    intro j x hx
    obtain ⟨k, hk⟩ := hg.held j x hx
    exact List.getElem?_append_left (List.getElem?_eq_some_iff.1 hk).1
  cases he : g.registry.find? id with
  | some e =>
    rw [Registry.register_of_some he, if_neg]
    · refine lives_congr rfl fun j => ?_
      cases hx : g.registry.handles[j]? with
      | none => simp [life?, hx]
      | some x => simp only [life?, hx, Option.bind_some, hsinks hx]
    · rintro ⟨rfl, hno⟩
      simp [Registry.contains, he] at hno
  | none =>
    have hold : ∀ j < g.registry.handles.length,
        life? { g with
          registry := (g.registry.register id g.sinks.length).2
          sinks := g.sinks ++ [{ toManner := m }] } c j = g.life? c j := by
      intro j hj
      have hx := List.getElem?_eq_getElem hj
      have htopics : (g.registry.register id g.sinks.length).2.topicsWith? c j =
          g.registry.topicsWith? c j := by
        rw [Registry.topicsWith?, Registry.find?_register, he, Registry.topicsWith?]
        by_cases hid : c = id
        · have hne : ¬ g.registry.handles.length = j := Nat.ne_of_gt hj
          simp [hid, he, Option.filter_some, hne]
        · rw [if_neg hid]
      simp only [life?, Registry.handle_register _ hx, hx, Option.bind_some, hsinks hx, htopics]
    rw [Registry.register_of_none he] at hold ⊢
    rw [lives, List.length_append, List.length_singleton, pick_succ, pick_congr hold]
    by_cases hid : id = c
    · subst hid
      have hno : g.registry.contains id = false := by simp [Registry.contains, he]
      rw [if_pos ⟨rfl, hno⟩]
      have hnew : life? { g with
          registry := { g.registry with
            handles := g.registry.handles ++ [⟨id, g.sinks.length, 0, false⟩]
            entries := g.registry.entries ++ [⟨id, g.registry.handles.length, []⟩] }
          sinks := g.sinks ++ [{ toManner := m }] } id g.registry.handles.length =
          some ⟨{ toManner := m }, 0, false, some []⟩ := by
        have hfind : (g.registry.register id g.sinks.length).2.find? id = _ :=
          Registry.find?_register g.sinks.length
        rw [Registry.register_of_none he, if_pos rfl, he] at hfind
        rw [life?_own (x := ⟨id, g.sinks.length, 0, false⟩) (by simp) rfl, Registry.topicsWith?,
          hfind]
        simp [Option.filter_some]
      rw [hnew]
      rfl
    · rw [if_neg fun h => hid h.1]
      rw [life?_other (x := ⟨id, g.sinks.length, 0, false⟩) (by simp) hid]
      exact List.append_nil _

/-! ## Deliveries -/

namespace Fit

theorem of_keeps (hg : g.Fit) {r : Registry} (hr : r.Sound) (hk : g.registry.Keeps r) :
    Fit { g with registry := r } := by
  refine ⟨hr, hg.unshared.of_keeps hk, fun j x hx => ?_⟩
  obtain ⟨y, hy, -, hsink⟩ := hk.back hx
  rw [hsink]
  exact hg.held j y hy

theorem modify (hg : g.Fit) (k : SinkId) (f : Sink → Sink) :
    Fit { g with sinks := g.sinks.modify k f } := by
  refine ⟨hg.sound, hg.unshared, fun j x hx => ?_⟩
  obtain ⟨y, hy⟩ := hg.held j x hx
  exact ⟨_, by rw [List.getElem?_modify, hy]; rfl⟩

theorem unregister (hg : g.Fit) (id : ConnectionId) :
    Fit { g with registry := (g.registry.unregister id).2 } :=
  hg.of_keeps hg.sound.unregister Registry.keeps_unregister

end Fit

/-- What a connection makes of a delivery of its own, told by its lives alone: the delivery goes
through the `j`-th handle. -/
structure Fate where
  lives : List Life
  stage : Stage
  deriving DecidableEq

namespace Fate

/-- Whether a connection with these lives is registered. -/
def registered (ls : List Life) : Bool := ls.any (·.topics.isSome)

/-! The moves of `Delivery`, one by one, with the lives in the place of the gateway. -/

def start (settings : Settings) (j : Nat) (ls : List Life) : Fate :=
  match ls[j]? with
  | none => ⟨ls, .ended 0 .failed⟩
  | some l =>
    let (ms, ending) := l.sink.writing.within settings.timeout
    let ls := ls.modify j (Life.onSink Sink.attempt)
    ⟨if l.sink.leaves then ls.map Life.ends else ls, .writing ms ending⟩

def fail (settings : Settings) (now : Nat) (pace : Pace) (streak j : Nat) (ls : List Life) : Fate :=
  let ls := ls.modify j (Life.onStreak (· + 1))
  if streak < settings.maxFailures ∨ registered ls = false then ⟨ls, .ended now .failed⟩
  else
    let (ms, ending) := pace.within settings.timeout
    ⟨(ls.map Life.ends).modify j (Life.onSink Sink.beginClose), .closing (now + ms) ending⟩

def settle (settings : Settings) (payload : Bytes) (now : Nat) (ending : Ending) (j : Nat)
    (ls : List Life) : Fate :=
  match ls[j]? with
  | none => ⟨ls, .ended now .failed⟩
  | some l =>
    match Delivery.writeResult payload ending l.sink with
    | (.ok _, s) =>
      ⟨(ls.modify j (Life.onSink fun _ => s)).modify j (Life.onStreak fun _ => 0),
        .ended now .delivered⟩
    | (.error _, s) =>
      fail settings now s.closing (l.streak + 1) j (ls.modify j (Life.onSink fun _ => s))

def finishClose (now : Nat) (ending : Ending) (j : Nat) (ls : List Life) : Fate :=
  match ending with
  | .inTime => ⟨ls.modify j (Life.onSink fun s => { s with closed := true }), .ended now .evicted⟩
  | .timedOut => ⟨ls, .ended now .evicted⟩
  | .broken => ⟨ls, .ended now .failed⟩

def move (settings : Settings) (payload : Bytes) (j : Nat) (ls : List Life) : Stage → Fate
  | .waiting => start settings j ls
  | .writing due ending => settle settings payload due ending j ls
  | .closing due ending => finishClose due ending j ls
  | .ended time o => ⟨ls, .ended time o⟩

end Fate

section Deliveries

variable (settings : Settings) (payload : Bytes) {d : Delivery}

/-- What a delivery makes of a connection: nothing if it is for another one, and otherwise what can
be told from the connection's lives. -/
structure Tells (c : ConnectionId) (g : Gateway) (d : Delivery) (fate : Fate)
    (r : Gateway × Delivery) : Prop where
  own : d.id = c → r.1.lives c = fate.lives ∧ r.2.stage = fate.stage
  other : d.id ≠ c → r.1.lives c = g.lives c

theorem tells_start (hg : g.Fit) (ha : d.Aimed g.registry) :
    Tells c g d (Fate.start settings (g.registry.rank c d.handle) (g.lives c))
      (d.start settings g) := by
  obtain ⟨x, hx, hsink, hid⟩ := ha
  obtain ⟨s, hs⟩ := hg.held _ x hx
  have hs' : g.sinks[d.sink]? = some s := hsink ▸ hs
  have hattempt := lives_sink (c := c) hg hx Sink.attempt
  rw [hsink, hid] at hattempt
  have hleave := lives_unregister (c := c) (hg.modify d.sink Sink.attempt).sound d.id
  refine ⟨fun hown => ?_, fun hother => ?_⟩
  · have hlife := getElem?_lives hx (hid.trans hown)
    rw [hs] at hlife
    rw [if_pos hown] at hattempt hleave
    rw [hattempt] at hleave
    simp only [Delivery.start, hs', Fate.start, hlife, Option.getD_some]
    cases s.leaves with
    | true => exact ⟨hleave, trivial⟩
    | false => exact ⟨hattempt, trivial⟩
  · rw [if_neg hother] at hattempt hleave
    rw [hattempt] at hleave
    simp only [Delivery.start, hs']
    cases s.leaves with
    | true => exact hleave
    | false => exact hattempt

theorem registered_eq (hr : g.registry.Sound) :
    Fate.registered (g.lives c) = (g.registry.unregister c).1.isSome := by
  rw [Fate.registered, ← contains_eq_any hr, Registry.fst_unregister, Option.isSome_map]
  rfl

theorem tells_fail (hg : g.Fit) (hx : g.registry.handles[d.handle]? = some x)
    (hsink : x.sink = d.sink) (hid : x.id = d.id) (now : Nat) (pace : Pace) :
    Tells c g d
      (Fate.fail settings now pace (x.streak + 1) (g.registry.rank c d.handle) (g.lives c))
      (d.fail settings now pace g) := by
  obtain ⟨streak, r, hf⟩ : ∃ streak r, g.registry.recordFailure d.handle = (streak, r) :=
    ⟨_, _, rfl⟩
  have hstreak : streak = x.streak + 1 := by
    have hfst : (g.registry.recordFailure d.handle).1 = streak := congrArg Prod.fst hf
    rw [← hfst]
    simp [Registry.recordFailure, hx]
  have hr : (g.registry.recordFailure d.handle).2 = r := congrArg Prod.snd hf
  -- After the failure has been reckoned, and after the registration has been ended besides.
  let g₁ : Gateway := { g with registry := r }
  let g₂ : Gateway := { g with registry := (r.unregister d.id).2 }
  have hkeeps : g.registry.Keeps r := hr ▸ Registry.keeps_recordFailure
  have hfit : g₁.Fit := hg.of_keeps (hr ▸ hg.sound.recordFailure) hkeeps
  have hgrown : g₁.lives c =
      if x.id = c then (g.lives c).modify (g.registry.rank c d.handle) (Life.onStreak (· + 1))
      else g.lives c := by
    have hlives := lives_streak (c := c) hx (· + 1)
    subst hr
    exact hlives
  have hended := lives_unregister (c := c) hfit.sound d.id
  obtain ⟨y, hy, hyid, hysink, -⟩ := (hkeeps.trans Registry.keeps_unregister).handle _ x hx
  have hclosed := lives_sink (c := c) (hfit.unregister d.id) (h := d.handle) hy Sink.beginClose
  have hrank : (r.unregister d.id).2.rank c d.handle = g.registry.rank c d.handle :=
    Registry.rank_of_keeps (hkeeps.trans Registry.keeps_unregister) c d.handle
  simp only [hysink, hyid, hsink, hid] at hclosed hgrown
  rcases Delivery.fail_cases settings hf now pace with ⟨hno, hfail⟩ | ⟨hlimit, h, hgot, hfail⟩
  · rw [hfail]
    refine ⟨fun hown => ?_, fun hother => ?_⟩
    · rw [if_pos hown] at hgrown
      have hnot : x.streak + 1 < settings.maxFailures ∨ Fate.registered ((g.lives c).modify
          (g.registry.rank c d.handle) (Life.onStreak (· + 1))) = false := by
        refine hno.imp (fun hlt => hstreak ▸ hlt) fun hnone => ?_
        rw [← hgrown, registered_eq hfit.sound, ← hown]
        exact Option.isSome_eq_false_iff.2 (by rw [hnone]; rfl)
      simp only [Fate.fail, if_pos hnot]
      exact ⟨hgrown, trivial⟩
    · rw [if_neg hother] at hgrown
      exact hgrown
  · rw [hfail]
    refine ⟨fun hown => ?_, fun hother => ?_⟩
    · rw [if_pos hown] at hgrown hended hclosed
      have hnot : ¬ (x.streak + 1 < settings.maxFailures ∨ Fate.registered ((g.lives c).modify
          (g.registry.rank c d.handle) (Life.onStreak (· + 1))) = false) := by
        rintro (hlt | hnone)
        · exact hlimit (hstreak ▸ hlt)
        · rw [← hgrown, registered_eq hfit.sound, ← hown] at hnone
          have hsome : (r.unregister d.id).1.isSome = true := by rw [hgot]; rfl
          exact absurd hnone (by rw [hsome]; simp)
      simp only [Fate.fail, if_neg hnot]
      refine ⟨hclosed.trans ?_, trivial⟩
      rw [hended, hgrown]
      exact congrArg (fun j => List.modify _ j _) hrank
    · rw [if_neg hother] at hgrown hended hclosed
      exact hclosed.trans (hended.trans hgrown)

theorem tells_settle (hg : g.Fit) (ha : d.Aimed g.registry) (now : Nat) (ending : Ending) :
    Tells c g d (Fate.settle settings payload now ending (g.registry.rank c d.handle) (g.lives c))
      (d.settle settings payload now ending g) := by
  obtain ⟨x, hx, hsink, hid⟩ := ha
  obtain ⟨s, hs⟩ := hg.held _ x hx
  have hs' : g.sinks[d.sink]? = some s := hsink ▸ hs
  cases hw : Delivery.writeResult payload ending s with
  | mk result s' =>
    let g₁ : Gateway := { g with sinks := g.sinks.set d.sink s' }
    have hset : g.sinks.modify x.sink (fun _ => s') = g.sinks.set d.sink s' := by
      rw [List.modify_eq_set_getElem?, hs, ← hsink]
      rfl
    have hfit : g₁.Fit := by
      have hmodify := hg.modify x.sink fun _ => s'
      rwa [hset] at hmodify
    have hwritten := lives_sink (c := c) hg hx fun _ => s'
    rw [hset, hid] at hwritten
    have hlife : d.id = c → (g.lives c)[g.registry.rank c d.handle]? = some
        ⟨s, x.streak, x.removed, g.registry.topicsWith? c d.handle⟩ := by
      intro hown
      have hget := getElem?_lives hx (hid.trans hown)
      rwa [hs] at hget
    cases result with
    | ok u =>
      have hcleared := lives_streak (g := g₁) (c := c) hx fun _ => 0
      rw [hid] at hcleared
      simp only [Delivery.settle, hs', hw]
      refine ⟨fun hown => ?_, fun hother => ?_⟩
      · rw [if_pos hown] at hwritten hcleared
        simp only [Fate.settle, hlife hown, hw]
        exact ⟨hcleared.trans (congrArg (fun ls => List.modify ls _ _) hwritten), trivial⟩
      · rw [if_neg hother] at hwritten hcleared
        exact hcleared.trans hwritten
    | error e =>
      have hfail := tells_fail (c := c) settings hfit hx hsink hid now s'.closing
      simp only [Delivery.settle, hs', hw]
      refine ⟨fun hown => ?_, fun hother => ?_⟩
      · rw [if_pos hown] at hwritten
        simp only [Fate.settle, hlife hown, hw]
        rw [← hwritten]
        exact hfail.own hown
      · rw [if_neg hother] at hwritten
        exact (hfail.other hother).trans hwritten

theorem tells_finishClose (hg : g.Fit) (ha : d.Aimed g.registry) (now : Nat) (ending : Ending) :
    Tells c g d (Fate.finishClose now ending (g.registry.rank c d.handle) (g.lives c))
      (d.finishClose now ending g) := by
  obtain ⟨x, hx, hsink, hid⟩ := ha
  cases ending with
  | inTime =>
    have hclosed := lives_sink (c := c) hg hx fun s => { s with closed := true }
    rw [hsink, hid] at hclosed
    refine ⟨fun hown => ⟨?_, rfl⟩, fun hother => ?_⟩
    · rw [if_pos hown] at hclosed
      exact hclosed
    · rw [if_neg hother] at hclosed
      exact hclosed
  | timedOut | broken => exact ⟨fun _ => ⟨rfl, rfl⟩, fun _ => rfl⟩

/-- A move of a delivery is nothing to other connections, and its own connection can tell it from
its lives. -/
theorem tells_move (hg : g.Fit) (ha : d.Aimed g.registry) :
    Tells c g d (Fate.move settings payload (g.registry.rank c d.handle) (g.lives c) d.stage)
      (d.move settings payload g) := by
  cases hstage : d.stage with
  | waiting =>
    simp only [Delivery.move, hstage, Fate.move]
    exact tells_start settings hg ha
  | writing due ending =>
    simp only [Delivery.move, hstage, Fate.move]
    exact tells_settle settings payload hg ha due ending
  | closing due ending =>
    simp only [Delivery.move, hstage, Fate.move]
    exact tells_finishClose hg ha due ending
  | ended time o =>
    simp only [Delivery.move, hstage, Fate.move]
    exact ⟨fun _ => ⟨rfl, hstage⟩, fun _ => rfl⟩

end Deliveries

end CandleRelay.Gateway
