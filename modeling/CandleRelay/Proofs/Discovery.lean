import CandleRelay.Discovery.Search
import Mathlib.Data.ENat.Lattice
import Mathlib.Order.ConditionallyCompleteLattice.Basic

/-!
# How often discovery asks

A search asks once, and goes on asking as long as the outcome is one that may pass and there is an
attempt left. So the number of its requests is the place of the first outcome that is final, or the
number of attempts allowed, whichever is less; its result is what the last request brought; and it
waits once between any two requests, and at no other time.

What is proved:
  1. `searchFrom_final`, `searchFrom_passing`: what one round of the search comes to.
  2. `searchFrom_spec`: where a search ends that is at some attempt, and what it has done by then.
     The induction is on the attempts that are left.
  3. `asks_until_final`: the whole search, for every sequence of outcomes and every policy.
-/

namespace CandleRelay.Discovery

/-! ## Outcomes -/

/-- The outcomes of a request that may pass: no answer, an answer that the server failed, an answer
that there were too many requests. -/
def Passing : Except DiscoveryError (List Symbol) → Prop
  | .error (.network _) => True
  | .error (.http status) => status = 429 ∨ 500 ≤ status
  | _ => False

theorem isRetryable_iff (e : DiscoveryError) : e.isRetryable = true ↔ Passing (.error e) := by
  cases e with
  | http status => simp [DiscoveryError.isRetryable, Passing, or_comm]
  | network reason | parse reason | noSymbols => simp [DiscoveryError.isRetryable, Passing]

/-- What the outcome of the last request is to a search: a list without symbols is none. -/
def verdict : Except DiscoveryError (List Symbol) → Except DiscoveryError (List Symbol)
  | .ok [] => .error .noSymbols
  | outcome => outcome

/-- The place of the first outcome that is final, counted from one. There may be none. -/
noncomputable def firstFinal (reply : Nat → Except DiscoveryError (List Symbol)) : ℕ∞ :=
  ⨅ (j : ℕ) (_ : 1 ≤ j ∧ ¬ Passing (reply j)), (j : ℕ∞)

theorem eq_min_firstFinal {reply : Nat → Except DiscoveryError (List Symbol)} {n m : Nat}
    (hone : 1 ≤ n) (hm : n ≤ m) (hpassing : ∀ i, 1 ≤ i → i < n → Passing (reply i))
    (hlast : n = m ∨ ¬ Passing (reply n)) : (n : ℕ∞) = min (firstFinal reply) m := by
  refine le_antisymm (le_min ?_ (Nat.cast_le.2 hm)) ?_
  · refine le_iInf₂ fun j hj => Nat.cast_le.2 (Nat.le_of_not_lt fun hlt => ?_)
    exact hj.2 (hpassing j hj.1 hlt)
  · rcases hlast with rfl | hfinal
    · exact min_le_right _ _
    · exact (min_le_left _ _).trans (iInf₂_le n ⟨hone, hfinal⟩)

/-! ## Deeds -/

/-- What a search does from attempt `k` to attempt `n`, after which it ends: before it ends, a wait
follows each request. -/
def RetryPolicy.course (p : RetryPolicy) (k n : Nat) : List Deed :=
  ((List.range' k (n - k)).flatMap fun i => [.ask i, .wait (p.backoff i)]) ++ [.ask n]

namespace RetryPolicy

variable {p : RetryPolicy} {k n : Nat}

theorem course_self (p : RetryPolicy) (n : Nat) : p.course n n = [.ask n] := by
  simp [course]

theorem course_of_lt (h : k < n) :
    p.course k n = .ask k :: .wait (p.backoff k) :: p.course (k + 1) n := by
  obtain ⟨d, hd⟩ : ∃ d, n - k = d + 1 := ⟨n - k - 1, by omega⟩
  have hd' : n - (k + 1) = d := by omega
  simp [course, hd, hd', List.range'_succ]

theorem mem_course {j : Nat} (h : k ≤ n) (hj : Deed.ask j ∈ p.course k n) : j ≤ n := by
  rcases List.mem_append.1 hj with hj | hj
  · obtain ⟨i, hi, hj⟩ := List.mem_flatMap.1 hj
    have hi := List.mem_range'_1.1 hi
    have hji : j = i := by simpa using hj
    omega
  · have hjn : j = n := by simpa using hj
    exact Nat.le_of_eq hjn

theorem requests_course (result : Except DiscoveryError (List Symbol)) (h : k ≤ n) :
    (Search.mk result (p.course k n)).requests = n + 1 - k := by
  obtain ⟨d, rfl⟩ : ∃ d, n = k + d := ⟨n - k, by omega⟩
  induction d generalizing k with
  | zero => simp [course_self, Search.requests]
  | succ d ih =>
    have hrest := ih (k := k + 1) (by omega)
    rw [Nat.add_right_comm, Nat.add_assoc] at hrest
    rw [course_of_lt (by omega)]
    simp only [Search.requests, List.filter_cons] at hrest ⊢
    simp only [ite_true, Bool.false_eq_true, ite_false, List.length_cons, hrest]
    omega

end RetryPolicy

/-! ## The search -/

variable {p : RetryPolicy} {reply : Nat → Except DiscoveryError (List Symbol)} {left k : Nat}
  {deeds : List Deed}

theorem searchFrom_final (h : left = 0 ∨ ¬ Passing (reply k)) :
    searchFrom p reply left k deeds = ⟨verdict (reply k), deeds.reverse ++ p.course k k⟩ := by
  rw [RetryPolicy.course_self, ← List.reverse_cons]
  cases hreply : reply k with
  | ok symbols => cases symbols <;> (unfold searchFrom; simp [hreply, verdict])
  | error e =>
    cases left with
    | zero => unfold searchFrom; simp [hreply, verdict]
    | succ left =>
      have hfinal : e.isRetryable = false := by
        rw [hreply, ← isRetryable_iff] at h
        simpa using h
      unfold searchFrom
      simp [hreply, verdict, hfinal]

theorem searchFrom_passing (h : Passing (reply k)) :
    searchFrom p reply (left + 1) k deeds =
      searchFrom p reply left (k + 1) (.wait (p.backoff k) :: .ask k :: deeds) := by
  cases hreply : reply k with
  | ok symbols => rw [hreply] at h; exact h.elim
  | error e =>
    have hretry : e.isRetryable = true := (isRetryable_iff e).2 (hreply ▸ h)
    rw [searchFrom]
    simp [hreply, hretry]

/-- Whether attempt `n` is the last for who is at attempt `k` with `left` further attempts: all
outcomes before it may pass, and its own is final or no attempt is left. -/
structure LastFrom (reply : Nat → Except DiscoveryError (List Symbol)) (left k n : Nat) :
    Prop where
  le : k ≤ n
  le_add : n ≤ k + left
  passing : ∀ i, k ≤ i → i < n → Passing (reply i)
  last : n = k + left ∨ ¬ Passing (reply n)

theorem LastFrom.here (h : left = 0 ∨ ¬ Passing (reply k)) : LastFrom reply left k k where
  le := Nat.le_refl k
  le_add := Nat.le_add_right k left
  passing _ hi hlt := absurd hi (Nat.not_le_of_lt hlt)
  last := h.imp_left fun hleft => by rw [hleft, Nat.add_zero]

theorem LastFrom.further {n : Nat} (h : Passing (reply k)) (hn : LastFrom reply left (k + 1) n) :
    LastFrom reply (left + 1) k n where
  le := Nat.le_of_succ_le hn.le
  le_add := hn.le_add.trans (by omega)
  passing i hi hlt := by
    rcases Nat.eq_or_lt_of_le hi with rfl | hi
    · exact h
    · exact hn.passing i hi hlt
  last := hn.last.imp_left fun h => by omega

/-- Where a search ends that is at attempt `k`, and what it has done by then. -/
theorem searchFrom_spec (p : RetryPolicy) (reply : Nat → Except DiscoveryError (List Symbol))
    (left k : Nat) (deeds : List Deed) :
    ∃ n, LastFrom reply left k n ∧
      searchFrom p reply left k deeds = ⟨verdict (reply n), deeds.reverse ++ p.course k n⟩ := by
  induction left generalizing k deeds with
  | zero => exact ⟨k, .here (.inl rfl), searchFrom_final (.inl rfl)⟩
  | succ left ih =>
    by_cases h : Passing (reply k)
    · obtain ⟨n, hn, heq⟩ := ih (k + 1) (.wait (p.backoff k) :: .ask k :: deeds)
      refine ⟨n, hn.further h, ?_⟩
      rw [searchFrom_passing h, heq, RetryPolicy.course_of_lt hn.le]
      simp
    · exact ⟨k, .here (.inr h), searchFrom_final (.inr h)⟩

/-- **A search for symbols.** It makes as many requests as there are up to the first final outcome,
but no more than are allowed, which is one at least; it waits between two requests, as long as the
policy says for the first of the two, and at no other time; and its result is what the last request
brought, where a list without symbols is none. No attempt has a number beyond 32 bits. -/
theorem asks_until_final (attempts : UInt32) (initial : Nat)
    (reply : Nat → Except DiscoveryError (List Symbol)) :
    let p := RetryPolicy.ofLimits attempts.toNat initial
    let s := search p reply
    (s.requests : ℕ∞) = min (firstFinal reply) (max 1 attempts.toNat : ℕ) ∧
    s.deeds = p.course 1 s.requests ∧
    s.result = verdict (reply s.requests) ∧
    ∀ k, Deed.ask k ∈ s.deeds → k < UInt32.size := by
  intro p s
  have hattempts : 1 + (p.attempts - 1) = max 1 attempts.toNat := by
    show 1 + (max attempts.toNat 1 - 1) = _
    omega
  obtain ⟨n, ⟨hone, hn, hpassing, hlast⟩, heq⟩ := searchFrom_spec p reply (p.attempts - 1) 1 []
  rw [hattempts] at hn hlast
  have hs : s = ⟨verdict (reply n), p.course 1 n⟩ := heq
  have hrequests : s.requests = n := by
    rw [hs, RetryPolicy.requests_course _ hone]
    omega
  rw [hrequests, hs]
  refine ⟨eq_min_firstFinal hone hn hpassing hlast, rfl, rfl, fun k hk => ?_⟩
  have hk := RetryPolicy.mem_course hone hk
  have hsize : max 1 attempts.toNat < UInt32.size :=
    Nat.max_lt.2 ⟨by decide, attempts.toNat_lt_size⟩
  omega

example : (search (.ofLimits 3 500) fun
    | 1 => .error (.http 503)
    | 2 => .error (.network "reset")
    | _ => .ok []).deeds = [.ask 1, .wait 500, .ask 2, .wait 1000, .ask 3] := by
  decide

end CandleRelay.Discovery
