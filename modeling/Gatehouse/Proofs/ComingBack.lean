import Gatehouse.Proofs.RouteBound

/-!
# When a client that was turned away may come back

A request that is turned away is counted all the same, in a window that is open and full, and
counting it does not put off the end of the window. So if its client keeps away from the path
for a while, what becomes of the next request there is settled by the clock alone: it is turned
away again just until the window has lapsed (`Limit.tally_count_exceeded_iff`).

The client is told to wait for a minute, whatever the limit is. That is long enough where
windows are open for a minute at most. A longer window may have more than that to run, and a
client that comes back as it was told finds it open still.
-/

namespace Gatehouse

open Http

/-- Behind a request that was turned away another one is, just while its window is open. -/
theorem Http.RateLimit.Limit.tally_count_exceeded_iff {l : Limit} {w : List Moment}
    {m m' : Moment} (hamount : 0 < l.amount) (h : l.tally w m = .exceeded) :
    l.tally (l.count w m) m' = .exceeded ↔ m'.now < l.openedAt w m + l.period := by
  obtain ⟨hfull, hopen⟩ := tally_eq_exceeded_iff.mp h
  rw [tally_eq_exceeded_iff, count_of_open hopen, openedAt]
  cases hwindow : l.openAt m.now w with
  | nil =>
      rw [hwindow, List.length_nil] at hfull
      omega
  | cons opening inside =>
      rw [hwindow] at hfull
      rw [List.cons_append, openAt, List.headD_cons]
      split
      · next hlate =>
          refine iff_of_true ⟨?_, Or.inl (List.cons_ne_nil _ _)⟩ hlate
          rw [List.length_cons, List.length_append]
          rw [List.length_cons] at hfull
          omega
      · next hlapsed =>
          refine iff_of_false (fun hexceeded => ?_) hlapsed
          have hnone := hexceeded.1
          rw [List.length_nil] at hnone
          omega

namespace Pool

variable {app : Application} {l : RateLimit.Limit} {st : Standing} {rs : List Request}
  {client path : String} {before between : List (Nat × Moment)} {i j : Nat} {m m' : Moment}
  {r r' : Request}

/-- Whether no request of a client for a path arrives in the turns `between`, which come behind
those in `before`. -/
def KeepsAway (rs : List Request) (client path : String) (before between : List (Nat × Moment)) :
    Prop :=
  ∀ s ∈ between, s.1 ∉ before.map (·.1) → ∀ r, rs[s.1]? = some r → isFor client path r = false

theorem counted_of_keepsAway (app : Application) (h : KeepsAway rs client path before between) :
    counted app rs (isFor client path) (before ++ between) =
      counted app rs (isFor client path) before := by
  induction between using List.reverseRecOn with
  | nil => rw [List.append_nil]
  | append_singleton between s ih =>
      have hbetween : KeepsAway rs client path before between :=
        fun s' hs' => h s' (List.mem_append_left _ hs')
      rw [← List.append_assoc, counted_concat, if_neg, ih hbetween]
      rintro ⟨hfirst, hcounts⟩
      rw [List.map_append, List.mem_append, not_or] at hfirst
      cases hr : rs[s.1]? with
      | none => rw [countsAs_of_none hr] at hcounts; cases hcounts
      | some r =>
          have hother := h s (List.mem_append_right _ List.mem_cons_self) hfirst.1 r hr
          rw [((countsAs_iff hr).mp hcounts).1] at hother
          cases hother

section NoSlashes

variable (hlimited : app.LimitedTo l) (hfresh : st.windows = [])
  (hclients : ∀ r ∈ rs, '/' ∉ (RateLimit.clientOf r).toList)

include hlimited hfresh hclients

/-- Clients without slashes in their names are counted apart. -/
theorem refused_iff_tally (hr : rs[i]? = some r) (hkind : isFor client path r = true)
    (hfirst : i ∉ before.map (·.1)) (m : Moment) :
    Refused ((ofRequests st rs).runTimed app (before ++ [(i, m)])) i ↔
      r.hasAddress = true ∧ app.counts m r = true ∧
        l.tally (l.latest (counted app rs (isFor client path) before)) m = .exceeded := by
  obtain ⟨rfl, rfl⟩ := isFor_iff.mp hkind
  rw [refused_iff_counts hlimited hr hfirst, hitOn_eq_tally hlimited hfresh]
  exact fun r' hr' => RateLimit.eq_of_windowKey (hclients r' hr')
    (hclients r (List.mem_of_getElem? hr))

/-- A client that was turned away from a path is told to wait for a minute. If it keeps away
from the path until its next request there, it is turned away again just while the window is
open in which it was turned away: after the minute, it is not where windows are open for no
longer than that, and it is where the window has longer to run. -/
theorem refused_until_lapsed (hamount : 0 < l.amount)
    (hordered : ∀ s ∈ before, s.2.now ≤ m.now) (hr : rs[i]? = some r)
    (hkind : isFor client path r = true) (hfirst : i ∉ before.map (·.1))
    (hrefused : Refused ((ofRequests st rs).runTimed app (before ++ [(i, m)])) i)
    (haway : KeepsAway rs client path (before ++ [(i, m)]) between) (hr' : rs[j]? = some r')
    (hkind' : isFor client path r' = true)
    (hfirst' : j ∉ (before ++ [(i, m)] ++ between).map (·.1)) (m' : Moment) :
    let lapses := openedAt app l rs client path before m + l.period
    let p := (ofRequests st rs).runTimed app (before ++ [(i, m)] ++ between ++ [(j, m')])
    (∀ more, i ∈ more.map (·.1) → ∃ x,
        ((ofRequests st rs).runTimed app (before ++ (i, m) :: more)).exchanges[i]? = some x ∧
          x.response? = some RateLimit.refusal) ∧
      RateLimit.refusal.headers.first? "retry-after" = some "60" ∧
      (Refused p j ↔ r'.hasAddress = true ∧ app.counts m' r' = true ∧ m'.now < lapses) ∧
      (l.seconds ≤ 60 → m.now + 60 * RateLimit.perSecond ≤ m'.now → ¬ Refused p j) := by
  intro lapses p
  obtain ⟨-, hcounts, hfull⟩ :=
    (refused_iff_tally hlimited hfresh hclients hr hkind hfirst m).mp hrefused
  have hcounted : l.latest (counted app rs (isFor client path) (before ++ [(i, m)] ++ between)) =
      l.count (l.latest (counted app rs (isFor client path) before)) m := by
    rw [counted_of_keepsAway app haway, counted_concat,
      if_pos ⟨hfirst, (countsAs_iff hr).mpr ⟨hkind, hcounts⟩⟩, RateLimit.Limit.latest_concat]
  have hagain : Refused p j ↔ r'.hasAddress = true ∧ app.counts m' r' = true ∧
      m'.now < lapses := by
    rw [refused_iff_tally hlimited hfresh hclients hr' hkind' hfirst', hcounted,
      RateLimit.Limit.tally_count_exceeded_iff hamount hfull]
    rfl
  refine ⟨fun more hmore => ?_, by rfl, hagain, fun hshort hminute hrefused' => ?_⟩
  · obtain ⟨x, hx, -, -, hstage⟩ := getElem?_of_refused hlimited hr hfirst hrefused more
    rw [if_pos hmore] at hstage
    exact ⟨x, hx, by rw [Exchange.response?, hstage]⟩
  have hopen : m'.now < openedAt app l rs client path before m + l.period :=
    (hagain.mp hrefused').2.2
  have hopened : openedAt app l rs client path before m ≤ m.now :=
    openedAt_le l client path hordered
  have hperiod : l.period ≤ 60 * RateLimit.perSecond :=
    Int.mul_le_mul_of_nonneg_right (Int.ofNat_le.mpr hshort) (Int.natCast_nonneg _)
  omega

end NoSlashes

/-! ## Back after a minute

A client that asks for the same thing three times: twice at once, and again after a minute. -/

def insisting : List Request := List.replicate 3 (visiting "a" "/api/v1/x")

def afterMinute : Moment := { start with now := 60000000 }

theorem insisting_no_slash : ∀ r ∈ insisting, '/' ∉ (RateLimit.clientOf r).toList := by
  decide

/-- Where one request a minute is allowed, the client was told the truth. -/
theorem minute_over :
    0 < (⟨1, 1, .minute⟩ : RateLimit.Limit).amount ∧
      (∀ s ∈ [(0, start)], s.2.now ≤ start.now) ∧
      Refused ((ofRequests default insisting).runTimed (metered "1/minute" front)
        [(0, start), (1, start)]) 1 ∧
      KeepsAway insisting "a" "/api/v1/x" [(0, start), (1, start)] [(1, start)] ∧
      ¬ Refused ((ofRequests default insisting).runTimed (metered "1/minute" front)
        [(0, start), (1, start), (1, start), (2, afterMinute)]) 2 := by
  have hsecond : 1 ∉ [(0, start)].map (·.1) := by decide
  have hrefused : Refused ((ofRequests default insisting).runTimed (metered "1/minute" front)
      [(0, start), (1, start)]) 1 :=
    (refused_iff_exceeded (r := visiting "a" "/api/v1/x") (metered_limitedTo front) rfl
      (front_answers _) hsecond start).mpr
        ⟨by rfl, ⟨front_readable _ _, rfl⟩, by decide +kernel⟩
  have haway : KeepsAway insisting "a" "/api/v1/x" [(0, start), (1, start)] [(1, start)] := by
    intro s hs hfirst
    rw [List.mem_singleton.mp hs] at hfirst
    exact absurd (by decide) hfirst
  have hordered : ∀ s ∈ [(0, start)], s.2.now ≤ start.now := by decide
  refine ⟨by decide, hordered, hrefused, haway, ?_⟩
  obtain ⟨-, -, -, hminute⟩ := refused_until_lapsed (metered_limitedTo front) rfl
    insisting_no_slash (by decide) hordered rfl (by rfl) hsecond hrefused haway
    (j := 2) rfl (by rfl) (by decide) afterMinute
  exact hminute (by decide) (by decide)

/-- Where one request an hour is allowed it is told to come back after a minute, and turned
away when it does. -/
theorem hour_not_over :
    (metered "1/hour" front).LimitedTo ⟨1, 1, .hour⟩ ∧
      Refused ((ofRequests default insisting).runTimed (metered "1/hour" front)
        [(0, start), (1, start)]) 1 ∧
      RateLimit.refusal.headers.first? "retry-after" = some "60" ∧
      start.now + 60 * RateLimit.perSecond ≤ afterMinute.now ∧
      Refused ((ofRequests default insisting).runTimed (metered "1/hour" front)
        [(0, start), (1, start), (2, afterMinute)]) 2 := by
  have hlimited : (metered "1/hour" front).LimitedTo ⟨1, 1, .hour⟩ := ⟨rfl, by rfl⟩
  have hsecond : 1 ∉ [(0, start)].map (·.1) := by decide
  have hthird : 2 ∉ [(0, start), (1, start)].map (·.1) := by decide
  refine ⟨hlimited, ?_, by rfl, by decide, ?_⟩
  · exact (refused_iff_exceeded (r := visiting "a" "/api/v1/x") hlimited rfl (front_answers _)
      hsecond start).mpr
        ⟨by rfl, ⟨front_readable _ _, rfl⟩, by decide +kernel⟩
  · exact (refused_iff_exceeded (r := visiting "a" "/api/v1/x") hlimited rfl (front_answers _)
      hthird afterMinute).mpr
        ⟨by rfl, ⟨front_readable _ _, rfl⟩, by decide +kernel⟩

end Pool

end Gatehouse
