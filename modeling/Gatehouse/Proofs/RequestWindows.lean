import Gatehouse.Application
import Mathlib.Data.List.Induction

/-!
# The windows of a limit

What is kept of a window is a count and the time at which it lapses. What a window is can be
said without either: it is the requests that were counted in it, the first of which has
opened it, and it is open for the span of the limit from then on. `Limit.latest` goes
through the requests of one key in these terms, and `hit_of_kept` says that what is kept
keeps up with it.

Keys are kept apart as far as they are different texts. A key joins the client, the path and
the limit with slashes, so paths of one client always have keys of their own, and so have two
clients without slashes in their names. A slash in the name of a client may be taken for the
one in front of the path.
-/

namespace Gatehouse.Http.RateLimit

namespace Limit

/-- Microseconds for which a window is open. -/
def period (l : Limit) : Int := l.seconds * perSecond

/-- The requests of a window while it is open; it has none any more once it has lapsed. -/
def openAt (l : Limit) (now : Int) : List Moment → List Moment
  | [] => []
  | opening :: inside => if now < opening.now + l.period then opening :: inside else []

/-- The latest window once one more request is counted, which is not if a window would have
to be opened for it that has no end. -/
def count (l : Limit) (w : List Moment) (m : Moment) : List Moment :=
  match l.openAt m.now w with
  | [] => if canEnd m.fine l then [m] else w
  | opening :: inside => opening :: inside ++ [m]

/-- The latest window after some requests. -/
def latest (l : Limit) (ms : List Moment) : List Moment := ms.foldl l.count []

theorem latest_concat (l : Limit) (ms : List Moment) (m : Moment) :
    l.latest (ms ++ [m]) = l.count (l.latest ms) m := by
  rw [latest, List.foldl_append]
  rfl

theorem period_nonneg (l : Limit) : 0 ≤ l.period := by
  rw [period, ← Int.natCast_mul]
  exact Int.natCast_nonneg _

theorem count_of_open {l : Limit} {w : List Moment} {m : Moment}
    (h : l.openAt m.now w ≠ [] ∨ canEnd m.fine l = true) :
    l.count w m = l.openAt m.now w ++ [m] := by
  rw [count]
  cases hopen : l.openAt m.now w with
  | nil => rw [if_pos (h.resolve_left fun hne => hne hopen), List.nil_append]
  | cons opening inside => rfl

theorem openAt_sublist (l : Limit) (now : Int) (w : List Moment) :
    (l.openAt now w).Sublist w := by
  cases w with
  | nil => exact List.Sublist.slnil
  | cons opening inside =>
      rw [openAt]
      split
      · exact List.Sublist.refl _
      · exact List.nil_sublist _

theorem mem_count {l : Limit} {w : List Moment} {m m' : Moment} (h : m' ∈ l.count w m) :
    m' ∈ w ∨ m' = m := by
  rw [count] at h
  split at h
  · split at h
    · exact Or.inr (List.mem_singleton.mp h)
    · exact Or.inl h
  · next hopen =>
      rw [← List.mem_singleton, ← List.mem_append]
      rw [← hopen] at h
      exact ((l.openAt_sublist m.now w).append (List.Sublist.refl [m])).mem h

theorem mem_of_mem_latest {l : Limit} {ms : List Moment} {m : Moment} (h : m ∈ l.latest ms) :
    m ∈ ms := by
  induction ms using List.reverseRecOn with
  | nil => cases h
  | append_singleton ms m' ih =>
      rw [latest_concat] at h
      rw [List.mem_append, List.mem_singleton]
      exact (mem_count h).imp_left ih

/-- While requests are counted the latest window grows, or gives way to one that is opened no
sooner than it has lapsed. -/
theorem latest_append {l : Limit} {ms inside : List Moment} {opening : Moment}
    (h : l.latest ms = opening :: inside) (more : List Moment) :
    ∃ opening' inside', l.latest (ms ++ more) = opening' :: inside' ∧
      (opening :: inside <+: opening' :: inside' ∨ opening.now + l.period ≤ opening'.now) := by
  induction more using List.reverseRecOn with
  | nil => exact ⟨opening, inside, by rw [List.append_nil, h], Or.inl (List.prefix_refl _)⟩
  | append_singleton more m ih =>
      obtain ⟨opening', inside', hlatest, hafter⟩ := ih
      -- the latest window so far was not opened before the first one in either case
      have hlate : opening.now ≤ opening'.now := by
        rcases hafter with hgrown | hlapsed
        · exact Int.le_of_eq (congrArg Moment.now (List.cons_prefix_cons.mp hgrown).1)
        · have hperiod := l.period_nonneg
          omega
      rw [← List.append_assoc, latest_concat, hlatest, count, openAt]
      split
      · next hopen =>
          split at hopen
          · cases hopen
          · split
            · exact ⟨m, [], rfl, Or.inr (by omega)⟩
            · exact ⟨opening', inside', rfl, hafter⟩
      · next hopen =>
          split at hopen
          · injection hopen with hhead htail
            subst hhead htail
            exact ⟨opening', inside' ++ [m], rfl,
              hafter.imp_left fun hgrown => hgrown.trans (List.prefix_append _ _)⟩
          · cases hopen

/-- The time at which the window was opened that a request is counted in. -/
def openedAt (l : Limit) (w : List Moment) (m : Moment) : Int :=
  ((l.openAt m.now w).headD m).now

/-- Of two requests that are let in or turned away the later one finds a longer window, or one
that was opened after that of the earlier one has lapsed. -/
theorem length_lt_or_lapsed {l : Limit} {ms : List Moment} {m : Moment}
    (h : l.openAt m.now (l.latest ms) ≠ [] ∨ canEnd m.fine l = true) (more : List Moment)
    (m' : Moment) :
    (l.openAt m.now (l.latest ms)).length <
        (l.openAt m'.now (l.latest (ms ++ [m] ++ more))).length ∨
      l.openedAt (l.latest ms) m + l.period ≤ l.openedAt (l.latest (ms ++ [m] ++ more)) m' := by
  have hcount := (l.latest_concat ms m).trans (count_of_open h)
  have hhead : ∃ inside opening, l.latest (ms ++ [m]) = opening :: inside ∧
      opening.now = l.openedAt (l.latest ms) m := by
    rw [hcount, openedAt]
    cases l.openAt m.now (l.latest ms) with
    | nil => exact ⟨_, _, rfl, rfl⟩
    | cons opening inside => exact ⟨_, _, rfl, rfl⟩
  obtain ⟨inside, opening, hlatest, hopening⟩ := hhead
  obtain ⟨opening', inside', hlatest', hafter⟩ := latest_append hlatest more
  have hlength : (l.openAt m.now (l.latest ms)).length + 1 = (opening :: inside).length := by
    rw [← hlatest, hcount, List.length_append, List.length_singleton]
  rw [← hopening, openedAt, hlatest', openAt]
  split
  · rcases hafter with hgrown | hlapsed
    · have hlonger := hgrown.length_le
      exact Or.inl (by omega)
    · exact Or.inr hlapsed
  · refine Or.inr ?_
    show opening.now + l.period ≤ m'.now
    rcases hafter with hgrown | hlapsed
    · rw [(List.cons_prefix_cons.mp hgrown).1]
      omega
    · have hperiod := l.period_nonneg
      omega

/-- A window has not lapsed for a request that is counted in it. -/
theorem lt_openedAt {l : Limit} (hperiod : 0 < l.period) (w : List Moment) (m : Moment) :
    m.now < l.openedAt w m + l.period := by
  rw [openedAt]
  cases w with
  | nil => exact Int.lt_add_of_pos_right _ hperiod
  | cons opening inside =>
      rw [openAt]
      split
      · next hopen => exact hopen
      · exact Int.lt_add_of_pos_right _ hperiod

theorem openedAt_mem {l : Limit} (w : List Moment) (m : Moment) :
    (∃ opening ∈ w, l.openedAt w m = opening.now) ∨ l.openedAt w m = m.now := by
  rw [openedAt]
  cases hopen : l.openAt m.now w with
  | nil => exact Or.inr rfl
  | cons opening inside =>
      refine Or.inl ⟨opening, (l.openAt_sublist m.now w).mem ?_, rfl⟩
      rw [hopen]
      exact List.mem_cons_self

/-- What comes of one more request. -/
def tally (l : Limit) (w : List Moment) (m : Moment) : Tally :=
  if (l.openAt m.now w).isEmpty && !canEnd m.fine l then .broken
  else if (l.openAt m.now w).length < l.amount then .within
  else .exceeded

theorem tally_eq_within_iff {l : Limit} {w : List Moment} {m : Moment} :
    l.tally w m = .within ↔
      (l.openAt m.now w).length < l.amount ∧ (l.openAt m.now w ≠ [] ∨ canEnd m.fine l = true) := by
  rw [tally, ← List.isEmpty_eq_false_iff]
  cases (l.openAt m.now w).isEmpty <;> cases canEnd m.fine l <;> simp

theorem tally_eq_exceeded_iff {l : Limit} {w : List Moment} {m : Moment} :
    l.tally w m = .exceeded ↔
      l.amount ≤ (l.openAt m.now w).length ∧ (l.openAt m.now w ≠ [] ∨ canEnd m.fine l = true) := by
  rw [tally, ← List.isEmpty_eq_false_iff]
  cases (l.openAt m.now w).isEmpty <;> cases canEnd m.fine l <;> simp

/-- What is kept of a window. -/
def kept (l : Limit) : List Moment → Option Window
  | [] => none
  | opening :: inside => some ⟨inside.length + 1, opening.now + l.period⟩

theorem kept_openAt (l : Limit) (now : Int) (w : List Moment) :
    ((l.kept w).filter fun k => decide (now < k.expires)) = l.kept (l.openAt now w) := by
  cases w with
  | nil => rfl
  | cons opening inside =>
      rw [kept, openAt, Option.filter_some]
      split
      · next h => rw [if_pos (of_decide_eq_true h), kept]
      · next h => rw [if_neg (fun hlt => h (decide_eq_true hlt)), kept]

end Limit

variable {l : Limit} {w : List Moment} {key : String} {ws : Windows}

/-- What is kept under a key keeps up with the requests that are counted under it. -/
theorem hit_of_kept (h : Assoc.get? key ws = l.kept w) (m : Moment) :
    (hit m.fine m.now key l ws).1 = l.tally w m ∧
      Assoc.get? key (hit m.fine m.now key l ws).2 = l.kept (l.count w m) := by
  have hopen : open? m.now key ws = l.kept (l.openAt m.now w) := by
    rw [open?, h, Limit.kept_openAt]
  rw [hit, counted?, hopen, Limit.tally, Limit.count]
  cases l.openAt m.now w with
  | nil =>
      cases canEnd m.fine l with
      | false => exact ⟨rfl, h⟩
      | true => exact ⟨rfl, (Assoc.get?_put key key _ ws).trans (if_pos rfl)⟩
  | cons opening inside =>
      refine ⟨rfl, (Assoc.get?_put key key _ ws).trans ?_⟩
      show _ = some (Window.mk ((inside ++ [m]).length + 1) (opening.now + l.period))
      rw [if_pos rfl, List.length_append, List.length_singleton]

theorem get?_hit_of_ne {key' : String} (hne : key ≠ key') (fine : Bool) (now : Int) (l : Limit)
    (ws : Windows) : Assoc.get? key' (hit fine now key l ws).2 = Assoc.get? key' ws := by
  rw [hit]
  split
  · rfl
  · exact (Assoc.get?_put key key' _ ws).trans (if_neg hne)

/-! ## Keys -/

/-- What a key says of the limit. -/
def keyTail (l : Limit) : List Char :=
  '/' :: ((toString l.amount).toList ++ '/' :: ((toString l.multiples).toList ++
    '/' :: l.span.name.toList))

theorem windowKey_toList (client path : String) (l : Limit) :
    (windowKey client path l).toList =
      client.toList ++ '/' :: (path.toList ++ keyTail l) := by
  rw [windowKey, String.toList_intercalate]
  simp [keyTail, List.intercalate]

theorem path_eq_of_windowKey {client path path' : String}
    (h : windowKey client path l = windowKey client path' l) : path = path' := by
  rw [← String.toList_inj, windowKey_toList, windowKey_toList, List.append_cancel_left_eq,
    List.cons_inj_right, List.append_cancel_right_eq, String.toList_inj] at h
  exact h

theorem takeWhile_slash {cs : List Char} (h : '/' ∉ cs) (rest : List Char) :
    (cs ++ '/' :: rest).takeWhile (· ≠ '/') = cs := by
  rw [List.takeWhile_append_of_pos, List.takeWhile_cons_of_neg (by simp), List.append_nil]
  intro c hc
  rw [decide_eq_true_eq]
  rintro rfl
  exact h hc

theorem eq_of_windowKey {client client' path path' : String} (hclient : '/' ∉ client.toList)
    (hclient' : '/' ∉ client'.toList)
    (h : windowKey client path l = windowKey client' path' l) :
    client = client' ∧ path = path' := by
  have hclients : client.toList = client'.toList := by
    rw [← takeWhile_slash hclient (path.toList ++ keyTail l), ← windowKey_toList, h,
      windowKey_toList, takeWhile_slash hclient']
  have hsame : client = client' := String.toList_inj.mp hclients
  subst hsame
  exact ⟨rfl, path_eq_of_windowKey h⟩

end Gatehouse.Http.RateLimit
