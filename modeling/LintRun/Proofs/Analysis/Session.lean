import Mathlib
import LintRun.Proofs.Analysis.Demand

/-!
# Proofs — Analysis — Sessions

What holds between the requests to a runner with one job, whatever was asked for before.

* `Session.IsSound`: the invariant. No task is at work, and one job works at every series.
* `Session.Passes`: what one request does. `Session.IsSound.serve` is that of every request.
* `Session.IsSound.attemptsOf_inOrder`: starts are attempted for a series in the order of its files.
* `Session.Mirrors.repliesOf_eq`: a series gives what it would give alone, while the flag is down.
* `session_keeps_discipline`: all of it, after every list of requests.
-/

namespace LintRun.Runner

open Analysis

variable {r : Runner}

/-- One job works at every series. -/
theorem series_sequential (hone : r.jobs ≤ 1) (database : Path) (checks : String)
    (files : List Path) :
    (r.series database checks files).parallel = false := by
  simp [series, Nat.not_lt.2 hone]

/-- A demand on a series as if it were the only one is a demand on the first one. -/
theorem Request.wish_of_alone? {k : Nat} {q q' : Request} (h : q.alone? k = some q') :
    ∃ d, q'.wish = .demand 0 d := by
  unfold alone? at h
  split at h
  · rename_i d _
    split at h
    · exact ⟨d, by rw [← Option.some.inj h]⟩
    · cases h
  · cases h

namespace Session

variable {x y z : Session} {q : Request} {k : Nat} {s : Series} {requests : List Request}

/-- No task is at work, and one job works at every series. -/
structure IsSound (x : Session) : Prop where
  atRest : x.crew.IsAtRest
  sequential : ∀ s ∈ x.opened, s.parallel = false

/-! ### One request -/

theorem serve_begins {l : Launcher} {database : Path} {checks : String} {files : List Path} :
    x.serve r ⟨l, .begins database checks files⟩ =
      (.done, { x with opened := x.opened ++ [r.series database checks files] }) := rfl

theorem serve_cancel {l : Launcher} :
    x.serve r ⟨l, .cancel⟩ = (.done, { x with crew := x.crew.cancel }) := rfl

/-- A demand of a series that was never opened is done without an answer. -/
theorem serve_demand_none {l : Launcher} {d : Demand} (h : x.opened[k]? = none) :
    x.serve r ⟨l, .demand k d⟩ = (.done, x) := by
  simp [serve, h]

theorem serve_demand {l : Launcher} {d : Demand} (h : x.opened[k]? = some s) :
    x.serve r ⟨l, .demand k d⟩ =
      let met := d.meet { r with launcher := l } x.crew s
      (met.1, { crew := met.2.1, opened := x.opened.set k met.2.2 }) := by
  simp [serve, h]

/-- What one request does. It leaves effects behind, and no more of them are starts than sections
were asked for. They are starts for the series that the demand is on. Under the raised flag, which
stays up, there are none. -/
structure Passes (x : Session) (q : Request) (reply : Reply) (effects : List Effect)
    (y : Session) : Prop where
  sound : y.IsSound
  history : y.crew.history = x.crew.history ++ effects
  asked : (attempts effects).length ≤ reply.asked
  cancelled : x.crew.cancelled = true → y.crew.cancelled = true ∧ attempts effects = []
  follows : ∀ (k : Nat) (s : Series), x.opened[k]? = some s →
    ∃ s', y.opened[k]? = some s' ∧
      s.Follows (if q.target? = some k then attempts effects else []) s'

/-- **What one request does.** -/
theorem IsSound.serve (h : x.IsSound) (hone : r.jobs ≤ 1) (q : Request) :
    ∃ effects, x.Passes q (x.serve r q).1 effects (x.serve r q).2 := by
  obtain ⟨l, ⟨database, checks, files⟩ | ⟨k, d⟩ | _⟩ := q
  · refine ⟨[], ⟨h.atRest, fun s hs => ?_⟩, by simp [serve_begins], Nat.zero_le _,
      fun hc => ⟨hc, rfl⟩, fun k s hk => ?_⟩
    · rcases List.mem_append.1 hs with hs | hs
      · exact h.sequential s hs
      · rw [List.mem_singleton.1 hs]
        exact series_sequential hone database checks files
    · have hlt := (List.getElem?_eq_some_iff.1 hk).1
      exact ⟨s, by simpa [serve_begins, List.getElem?_append_left hlt] using hk, .refl s⟩
  · cases hs : x.opened[k]? with
    | none =>
      rw [serve_demand_none hs]
      refine ⟨[], h, by simp, Nat.zero_le _, fun hc => ⟨hc, rfl⟩, fun j s hj => ⟨s, hj, ?_⟩⟩
      simpa using Series.Follows.refl s
    | some s =>
      have hmem := List.mem_of_getElem? hs
      have hlt := (List.getElem?_eq_some_iff.1 hs).1
      have hmeets := Demand.meet_meets (r := { r with launcher := l })
        h.atRest (h.sequential s hmem) d
      obtain ⟨effects, hhistory, hfollows, hasked, hnone⟩ := hmeets.effects
      rw [serve_demand hs]
      refine ⟨effects, ⟨hmeets.atRest, fun s' hs' => ?_⟩, hhistory, hasked,
        fun hc => ⟨hmeets.cancelled hc, hnone hc⟩, fun j s' hj => ?_⟩
      · rcases List.mem_or_eq_of_mem_set hs' with hs' | rfl
        · exact h.sequential s' hs'
        · exact hmeets.parallel.trans (h.sequential s hmem)
      · by_cases hjk : k = j
        · subst hjk
          obtain rfl := Option.some.inj (hs.symm.trans hj)
          exact ⟨_, List.getElem?_set_self hlt, by simpa [Request.target?] using hfollows⟩
        · refine ⟨s', by simpa [List.getElem?_set_ne hjk] using hj, ?_⟩
          simpa [Request.target?, hjk] using .refl s'
  · rw [serve_cancel]
    refine ⟨[], ⟨h.atRest.cancel, h.sequential⟩, by simp [h.atRest.cancel_eq],
      Nat.zero_le _, fun _ => ⟨?_, rfl⟩, fun k s hk => ⟨s, hk, .refl s⟩⟩
    rw [h.atRest.cancel_eq]
    exact Crew.cancelled_of_mem (q := .killing []) (by simp) rfl

/-- A request leaves a session sound. -/
theorem IsSound.after (h : x.IsSound) (hone : r.jobs ≤ 1) (q : Request) :
    (x.serve r q).2.IsSound := by
  obtain ⟨effects, hpasses⟩ := h.serve hone q
  exact hpasses.sound

/-- Only whoever asks for sections is answered anything. -/
theorem serve_of_not_asks (h : q.asks = false) : (x.serve r q).1 = .done := by
  obtain ⟨l, ⟨database, checks, files⟩ | ⟨k, _ | _ | _⟩ | _⟩ := q
  · rfl
  · cases h
  · cases h
  · cases hs : x.opened[k]? with
    | none => rw [serve_demand_none hs]
    | some s => rw [serve_demand hs, Demand.meet]
  · rfl

/-- A request that asks for nothing attempts no start. -/
theorem Passes.attempts_of_not_asks {effects : List Effect}
    (h : x.Passes q (x.serve r q).1 effects y) (hq : q.asks = false) : attempts effects = [] := by
  have hasked := h.asked
  rw [serve_of_not_asks hq] at hasked
  exact List.length_eq_zero_iff.1 (Nat.le_zero.1 hasked)

/-! ### Requests one after the other -/

theorem run_cons : x.run r (q :: requests) = (x.serve r q).2.run r requests := rfl

theorem record_cons (q : Request) (requests : List Request) (hx : x.IsSound) (hone : r.jobs ≤ 1) :
    ∃ effects, x.Passes q (x.serve r q).1 effects (x.serve r q).2 ∧
      x.record r (q :: requests) =
        ⟨q, (x.serve r q).1, effects⟩ :: (x.serve r q).2.record r requests := by
  obtain ⟨effects, h⟩ := hx.serve hone q
  exact ⟨effects, h, by simp only [record, h.history, List.drop_left]⟩

/-- Requests leave a session sound. -/
theorem IsSound.run (h : x.IsSound) (hone : r.jobs ≤ 1) (requests : List Request) :
    (x.run r requests).IsSound := by
  induction requests generalizing x with
  | nil => exact h
  | cons q rest ih => exact ih (h.after hone q)

/-- What is left behind is what the requests leave behind, and no request attempts more starts than
it asks for sections. One that asks for none attempts none. -/
theorem IsSound.record (h : x.IsSound) (hone : r.jobs ≤ 1) (requests : List Request) :
    (x.run r requests).crew.history = x.crew.history ++
      (x.record r requests).flatMap Served.effects ∧
      ∀ e ∈ x.record r requests,
        (attempts e.effects).length ≤ e.reply.asked ∧
        (e.request.asks = false → attempts e.effects = []) := by
  induction requests generalizing x with
  | nil => simp [Session.record, Session.run]
  | cons q rest ih =>
    obtain ⟨effects, hq, hrecord⟩ := record_cons q rest h hone
    obtain ⟨hhistory, hasked⟩ := ih hq.sound
    rw [hrecord, run_cons]
    refine ⟨?_, List.forall_mem_cons.2 ⟨⟨hq.asked, hq.attempts_of_not_asks⟩, hasked⟩⟩
    rw [hhistory, hq.history, List.append_assoc, List.flatMap_cons]

/-- The flag stays up, and no start is attempted under it. -/
theorem IsSound.run_of_cancelled (h : x.IsSound) (hone : r.jobs ≤ 1) (hc : x.crew.cancelled = true)
    (requests : List Request) :
    (x.run r requests).crew.cancelled = true ∧ ∀ e ∈ x.record r requests,
      attempts e.effects = [] := by
  induction requests generalizing x with
  | nil => exact ⟨hc, by simp [Session.record]⟩
  | cons q rest ih =>
    obtain ⟨effects, hq, hrecord⟩ := record_cons q rest h hone
    obtain ⟨hflag, hnone⟩ := hq.cancelled hc
    obtain ⟨hflag', hrest⟩ := ih hq.sound hflag
    rw [hrecord, run_cons]
    exact ⟨hflag', List.forall_mem_cons.2 ⟨hnone, hrest⟩⟩

/-- The flag was down before if it is down now. -/
theorem IsSound.not_cancelled_of_run (h : x.IsSound) (hone : r.jobs ≤ 1)
    (hflag : (x.run r requests).crew.cancelled = false) : x.crew.cancelled = false := by
  by_contra hup
  rw [(h.run_of_cancelled hone (by simpa using hup) requests).1] at hflag
  cases hflag

theorem set_opened (h : x.opened[k]? = some s) : { x with opened := x.opened.set k s } = x := by
  obtain ⟨hlt, rfl⟩ := List.getElem?_eq_some_iff.1 h
  rw [List.set_getElem_self]

/-- Whoever asks for so many sections at once asks for the next one again and again. -/
theorem exists_run_allFrom (l : Launcher) (n : Nat) (hk : x.opened[k]? = some s) :
    let given := ({ r with launcher := l } : Runner).allFrom n x.crew s
    ∃ m, { crew := given.2.2.1, opened := x.opened.set k given.2.2.2 } =
      x.run r (List.replicate m ⟨l, .demand k .next⟩) := by
  induction n generalizing x s with
  | zero => exact ⟨0, set_opened hk⟩
  | succ n ih =>
    have hserve := serve_demand (r := r) (l := l) (d := .next) hk
    have hlt := (List.getElem?_eq_some_iff.1 hk).1
    rcases hanswer : ({ r with launcher := l } : Runner).next x.crew s with ⟨f | (_ | given), c, s'⟩
    · refine ⟨1, ?_⟩
      simp [Runner.allFrom, hanswer, run, hserve, Demand.meet]
    · refine ⟨1, ?_⟩
      simp [Runner.allFrom, hanswer, run, hserve, Demand.meet]
    · have hnext : (x.serve r ⟨l, .demand k .next⟩).2 = ⟨c, x.opened.set k s'⟩ := by
        simp [hserve, Demand.meet, hanswer]
      obtain ⟨m, hm⟩ := ih (x := ⟨c, x.opened.set k s'⟩) (s := s') (List.getElem?_set_self hlt)
      refine ⟨m + 1, ?_⟩
      rw [List.replicate_succ, run_cons, hnext, ← hm]
      simp [Runner.allFrom, hanswer]

/-- **Whoever asks for all sections asks for them one by one.** -/
theorem exists_run_all (r : Runner) (x : Session) (l : Launcher) (k : Nat) :
    ∃ m, (x.serve r ⟨l, .demand k .all⟩).2 = x.run r (List.replicate m ⟨l, .demand k .next⟩) := by
  cases hk : x.opened[k]? with
  | none => exact ⟨0, by rw [serve_demand_none hk]; rfl⟩
  | some s =>
    rw [serve_demand hk]
    exact exists_run_allFrom l (s.files.length + 1) hk

/-- **Starts are attempted for a series in the order of its files.** -/
theorem IsSound.attemptsOf_inOrder (h : x.IsSound) (hone : r.jobs ≤ 1) (hk : x.opened[k]? = some s)
    (requests : List Request) : x.attemptsOf r k requests <+: s.files := by
  induction requests generalizing x s with
  | nil => exact List.nil_prefix
  | cons q rest ih =>
    obtain ⟨effects, hq, hrecord⟩ := record_cons q rest h hone
    obtain ⟨s', hs', hfollows⟩ := hq.follows k s hk
    have hrest := hfollows.append_prefix (ih hq.sound hs')
    -- the starts of this request come before those of the others
    have hcons : x.attemptsOf r k (q :: rest) =
        (if q.target? = some k then attempts effects else []) ++
          (x.serve r q).2.attemptsOf r k rest := by
      rw [attemptsOf, recordOf, hrecord, List.filter_cons]
      split <;> simp_all [attemptsOf, recordOf]
    rwa [hcons]

/-! ### A series as if it were the only one -/

/-- Two sessions under lowered flags, in which the same is left of a series: series `k` of one, and
the first of the other one. -/
structure Mirrors (k : Nat) (x z : Session) : Prop where
  left : x.IsSound
  right : z.IsSound
  flag : x.crew.cancelled = false
  flag' : z.crew.cancelled = false
  series : ∃ s, x.opened[k]? = some s ∧ z.opened[0]? = some s

theorem repliesOf_nil (r : Runner) (x : Session) (k : Nat) : x.repliesOf r k [] = [] := rfl

theorem repliesOf_cons (r : Runner) (x : Session) (k : Nat) (q : Request)
    (requests : List Request) :
    x.repliesOf r k (q :: requests) =
      (if q.target? = some k then [(x.serve r q).1] else []) ++
        (x.serve r q).2.repliesOf r k requests := by
  rw [repliesOf, recordOf, record, List.filter_cons]
  split <;> simp_all [repliesOf, recordOf]

/-- The replies to later requests come behind those to the first ones. -/
theorem repliesOf_append (r : Runner) (x : Session) (k : Nat) (requests more : List Request) :
    x.repliesOf r k (requests ++ more) =
      x.repliesOf r k requests ++ (x.run r requests).repliesOf r k more := by
  induction requests generalizing x with
  | nil => rfl
  | cons q rest ih =>
    rw [List.cons_append, repliesOf_cons, ih, repliesOf_cons, List.append_assoc, run_cons]

theorem run_append (r : Runner) (x : Session) (requests more : List Request) :
    x.run r (requests ++ more) = (x.run r requests).run r more :=
  List.foldl_append

namespace Mirrors

/-- **A demand on a series is met as if the series were the only one.** -/
theorem serve_demand (h : Mirrors k x z) (hone : r.jobs ≤ 1) (l : Launcher) (d : Demand) :
    let x' := x.serve r ⟨l, .demand k d⟩
    let z' := z.serve r ⟨l, .demand 0 d⟩
    x'.1 = z'.1 ∧ (x'.2.crew.cancelled = false → Mirrors k x'.2 z'.2) := by
  obtain ⟨s, hs, hs'⟩ := h.series
  have hseq := h.left.sequential s (List.mem_of_getElem? hs)
  have hx := Session.serve_demand (r := r) (l := l) (d := d) hs
  have hz := Session.serve_demand (r := r) (l := l) (d := d) hs'
  rw [d.meet_beside h.left.atRest h.flag hseq] at hx
  rw [d.meet_beside h.right.atRest h.flag' hseq] at hz
  intro x' z'
  refine ⟨by rw [show x' = _ from hx, show z' = _ from hz], fun hflag =>
    ⟨h.left.after hone _, h.right.after hone _, hflag, ?_, ?_⟩⟩
  -- both demands lead to the same crew, beside what was there before
  · simpa [x', z', hx, hz, h.flag, h.flag'] using hflag
  · have hlt := (List.getElem?_eq_some_iff.1 hs).1
    have hlt' := (List.getElem?_eq_some_iff.1 hs').1
    simp only [hx, hz, x', z']
    exact ⟨_, List.getElem?_set_self hlt, List.getElem?_set_self hlt'⟩

/-- Whatever else is asked for leaves a series alone. -/
theorem serve_other (h : Mirrors k x z) (hone : r.jobs ≤ 1) {q : Request} (hq : q.target? ≠ some k)
    (hflag : (x.serve r q).2.crew.cancelled = false) : Mirrors k (x.serve r q).2 z := by
  obtain ⟨s, hs, hs'⟩ := h.series
  refine ⟨h.left.after hone q, h.right, hflag, h.flag', s, ?_, hs'⟩
  have hlt := (List.getElem?_eq_some_iff.1 hs).1
  obtain ⟨l, ⟨database, checks, files⟩ | ⟨j, d⟩ | _⟩ := q
  · simpa [serve_begins, List.getElem?_append_left hlt] using hs
  · have hjk : j ≠ k := by simpa [Request.target?] using hq
    cases hj : x.opened[j]? with
    | none => rwa [serve_demand_none hj]
    | some s' =>
      rw [Session.serve_demand hj]
      simpa [List.getElem?_set_ne hjk] using hs
  · simpa [serve_cancel] using hs

/-- One request, and what it is for the series alone. -/
theorem serve (h : Mirrors k x z) (hone : r.jobs ≤ 1) (q : Request) :
    x.repliesOf r k [q] = z.repliesOf r 0 (q.alone? k).toList ∧
      ((x.serve r q).2.crew.cancelled = false →
        Mirrors k (x.serve r q).2 (z.run r (q.alone? k).toList)) := by
  by_cases hq : q.target? = some k
  · obtain ⟨l, _ | ⟨j, d⟩ | _⟩ := q
    · cases hq
    · obtain rfl : j = k := by simpa [Request.target?] using hq
      obtain ⟨hreply, hmirrors⟩ := h.serve_demand hone l d
      have halone : Request.alone? j ⟨l, .demand j d⟩ = some ⟨l, .demand 0 d⟩ := if_pos rfl
      rw [halone]
      exact ⟨by simpa [repliesOf_cons, repliesOf_nil, Request.target?] using hreply, hmirrors⟩
    · cases hq
  · have halone : q.alone? k = none := by
      obtain ⟨l, _ | ⟨j, d⟩ | _⟩ := q
      · rfl
      · exact if_neg (by simpa [Request.target?] using hq)
      · rfl
    refine ⟨by rw [halone, repliesOf_cons, if_neg hq]; rfl, fun hflag => ?_⟩
    rw [halone]
    exact h.serve_other hone hq hflag

/-- **A series gives what it would give alone**, as long as the flag is down. -/
theorem repliesOf_eq (h : Mirrors k x z) (hone : r.jobs ≤ 1)
    (hflag : (x.run r requests).crew.cancelled = false) :
    x.repliesOf r k requests = z.repliesOf r 0 (requests.filterMap (Request.alone? k)) ∧
      Mirrors k (x.run r requests) (z.run r (requests.filterMap (Request.alone? k))) := by
  induction requests generalizing x z with
  | nil => exact ⟨rfl, h⟩
  | cons q rest ih =>
    have hdown : (x.serve r q).2.crew.cancelled = false :=
      (h.left.after hone q).not_cancelled_of_run hone hflag
    obtain ⟨hreply, hmirrors⟩ := h.serve hone q
    obtain ⟨hreplies, hrest⟩ := ih (hmirrors hdown) hflag
    have halone : (q :: rest).filterMap (Request.alone? k) =
        (q.alone? k).toList ++ rest.filterMap (Request.alone? k) := by
      cases hq : q.alone? k <;> simp [hq]
    rw [halone, run_append, repliesOf_append, ← hreply, ← hreplies]
    exact ⟨repliesOf_append r x k [q] rest, hrest⟩

end Mirrors

/-- What is answered to demands on the first series of a session depends on how the processes for
its own files behave, and not on how other ones do. -/
theorem IsSound.repliesOf_resembling (h : x.IsSound) (hone : r.jobs ≤ 1)
    (hs : x.opened[0]? = some s) {alone alone' : List Request}
    (hall : ∀ q ∈ alone, ∃ d, q.wish = .demand 0 d)
    (hsame : List.Forall₂ (Request.Resembles r s) alone alone') :
    x.repliesOf r 0 alone = x.repliesOf r 0 alone' := by
  induction alone generalizing x s alone' with
  | nil =>
    cases hsame
    rfl
  | cons q rest ih =>
    obtain ⟨q', rest', hq, hrest, rfl⟩ := List.forall₂_cons_left_iff.1 hsame
    obtain ⟨l, wish⟩ := q
    obtain ⟨l', wish'⟩ := q'
    obtain ⟨rfl, hl⟩ := hq
    obtain ⟨⟨d, rfl⟩, hdemands⟩ := List.forall_mem_cons.1 hall
    have hserve : x.serve r ⟨l, .demand 0 d⟩ = x.serve r ⟨l', .demand 0 d⟩ := by
      rw [serve_demand hs, serve_demand hs,
        Demand.meet_launcher (r := { r with launcher := l' }) hl h.atRest
          (h.sequential s (List.mem_of_getElem? hs))]
    obtain ⟨effects, hpasses⟩ := h.serve hone ⟨l', .demand 0 d⟩
    obtain ⟨s', hs', hfollows⟩ := hpasses.follows 0 s hs
    rw [repliesOf_cons, repliesOf_cons, hserve]
    exact congrArg _ (ih hpasses.sound hs' hdemands
      (hrest.imp fun _ _ hq => ⟨hq.1, hfollows.treatedAlike hq.2⟩))

theorem isSound_empty : IsSound {} := ⟨by simp [Crew.IsAtRest], by simp⟩

/-- **A series that is begun gives what it would give alone**, whatever happened before, as long as
the flag was down before the last request. -/
theorem IsSound.repliesOf_begun (h : x.IsSound) (hone : r.jobs ≤ 1) {l : Launcher} {database : Path}
    {checks : String} {files : List Path} {after alone : List Request} {last : Request}
    (hflag : ((x.serve r ⟨l, .begins database checks files⟩).2.run r after).crew.cancelled = false)
    (halone : List.Forall₂ (Request.Resembles r (r.series database checks files))
      ((after ++ [last]).filterMap (Request.alone? x.opened.length)) alone) :
    (x.serve r ⟨l, .begins database checks files⟩).2.repliesOf r x.opened.length (after ++ [last]) =
      (Session.serve r {} ⟨l, .begins database checks files⟩).2.repliesOf r 0 alone := by
  set s := r.series database checks files
  set y := (x.serve r ⟨l, .begins database checks files⟩).2 with hy
  set z := (Session.serve r {} ⟨l, .begins database checks files⟩).2 with hz
  have hy' : y.IsSound := h.after hone _
  have hz' : z.IsSound := isSound_empty.after hone _
  have hlast : y.opened[x.opened.length]? = some s := by simp [hy, serve_begins, s]
  have hfirst : z.opened[0]? = some s := by simp [hz, serve_begins, s]
  have hmirrors : Mirrors x.opened.length y z :=
    ⟨hy', hz', hy'.not_cancelled_of_run hone hflag, rfl, s, hlast, hfirst⟩
  obtain ⟨hreplies, hmirrors'⟩ := hmirrors.repliesOf_eq hone hflag
  -- the flag may go up while the last request is served, which is then still answered as it is
  -- alone
  have hends : (after ++ [last]).filterMap (Request.alone? x.opened.length) =
      after.filterMap (Request.alone? x.opened.length) ++ (last.alone? x.opened.length).toList := by
    rw [List.filterMap_append]
    cases hlast : last.alone? x.opened.length <;> simp [hlast]
  have hall : ∀ q ∈ (after ++ [last]).filterMap (Request.alone? x.opened.length), ∃ d,
      q.wish = .demand 0 d := by
    intro q hq
    obtain ⟨q', -, hq'⟩ := List.mem_filterMap.1 hq
    exact Request.wish_of_alone? hq'
  rw [← hmirrors.right.repliesOf_resembling hone hfirst hall halone, hends, repliesOf_append,
    repliesOf_append, hreplies, (hmirrors'.serve hone last).1]

end Session

/-- **A runner with one job keeps its discipline, whatever was asked for before.** Between requests
no process is tracked. What the requests left behind is all there is, no request attempts more
starts than it asks for sections, and those that ask for none attempt none. Once the flag is up it
stays up, and no start is attempted any more, also not by whoever asks for all sections, which is to
ask for them one by one. For a series that is begun then, starts are attempted in the order of its
files, one for each. As long as the flag is down, what it gives depends on how the processes for its
own files behave, as if the series were the only one. -/
theorem session_keeps_discipline (r : Runner) (hone : r.jobs ≤ 1) (before : List Request) :
    let x := Session.run r {} before
    let served := Session.record r {} before
    x.crew.tracked = [] ∧
    (x.crew.history = served.flatMap Served.effects ∧ ∀ e ∈ served,
      (attempts e.effects).length ≤ e.reply.asked ∧
      (e.request.asks = false → attempts e.effects = [])) ∧
    (x.crew.cancelled = true → ∀ after,
      (x.run r after).crew.cancelled = true ∧ ∀ e ∈ x.record r after, attempts e.effects = []) ∧
    (∀ launcher k, ∃ n,
      (x.serve r ⟨launcher, .demand k .all⟩).2 =
        x.run r (List.replicate n ⟨launcher, .demand k .next⟩)) ∧
    ∀ launcher database checks files after,
      let begun := (x.serve r ⟨launcher, .begins database checks files⟩).2
      let alone := (Session.serve r {} ⟨launcher, .begins database checks files⟩).2
      let k := x.opened.length
      begun.attemptsOf r k after <+: files ∧
      ((begun.run r after).crew.cancelled = false → ∀ last requests,
        List.Forall₂ (Request.Resembles r (r.series database checks files))
          ((after ++ [last]).filterMap (Request.alone? k)) requests →
        begun.repliesOf r k (after ++ [last]) = alone.repliesOf r 0 requests) := by
  intro x served
  have hx : x.IsSound := Session.isSound_empty.run hone before
  refine ⟨hx.atRest.tracked, ?_, hx.run_of_cancelled hone, x.exists_run_all r,
    fun launcher database checks files after => ?_⟩
  · simpa using Session.isSound_empty.record hone before
  · intro begun alone k
    have hlast : begun.opened[k]? = some (r.series database checks files) := by
      simp [begun, k, Session.serve_begins]
    exact ⟨(hx.after hone _).attemptsOf_inOrder hone hlast after,
      fun hflag last requests halone => hx.repliesOf_begun hone hflag halone⟩

/-- One series was left half way, and another one ended with a failure. A third one gives two
sections, as it does alone under a launcher that refuses the processes for all other files. -/
theorem session_keeps_discipline_after_failure :
    let dies : Launcher := fun _ _ _ => .process { code := -11 }
    let ends : Launcher := fun _ _ _ => .process {}
    let own : Launcher := fun _ command _ =>
      if command.getLast? ∈ [some "d", some "e"] then .process {} else .impossible .embeddedNul
    let file (name : String) : Path := ⟨.relative, [name]⟩
    let r : Runner := { failFast := true, launcher := ends }
    let files := [file "d", file "e"]
    let before : List Request := [⟨ends, .begins .here "" [file "a", file "b"]⟩,
      ⟨ends, .demand 0 .next⟩, ⟨dies, .begins .here "" [file "c"]⟩, ⟨dies, .demand 1 .next⟩]
    let after : List Request := [⟨ends, .demand 2 .next⟩, ⟨dies, .demand 0 .all⟩]
    let x := Session.run r {} before
    let begun := (x.serve r ⟨ends, .begins .here "" files⟩).2
    let alone := (Session.serve r {} ⟨ends, .begins .here "" files⟩).2
    let demands (l : Launcher) (k : Nat) : List Request :=
      [⟨l, .demand k .next⟩, ⟨l, .demand k .next⟩]
    r.jobs ≤ 1 ∧ attempts x.crew.history = [file "a", file "c"] ∧ x.crew.tracked = [] ∧
      (begun.run r after).crew.cancelled = false ∧
      (alone.repliesOf r 0 (demands own 0)).length = 2 ∧
      begun.repliesOf r 2 (after ++ [⟨ends, .demand 2 .next⟩]) =
        alone.repliesOf r 0 (demands own 0) := by
  intro dies ends own file r files before after x begun alone demands
  have hone : r.jobs ≤ 1 := by decide
  have hattempts : attempts x.crew.history = [file "a", file "c"] := by decide +kernel
  have hflag : (begun.run r after).crew.cancelled = false := by decide +kernel
  have hopened : x.opened.length = 2 := by decide +kernel
  have hlength : (alone.repliesOf r 0 (demands own 0)).length = 2 := by decide +kernel
  have hdemands : List.filterMap (Request.alone? 2) (after ++ [⟨ends, .demand 2 .next⟩]) =
      demands ends 0 := rfl
  have hsame : Series.TreatedAlike r (r.series .here "" files) ends own := by
    intro name hname
    fin_cases hname <;> rfl
  have hsame' : List.Forall₂ (Request.Resembles r (r.series .here "" files))
      (demands ends 0) (demands own 0) :=
    .cons ⟨rfl, hsame⟩ (.cons ⟨rfl, hsame⟩ .nil)
  -- nothing is left to compute
  clear_value r files before after
  obtain ⟨htracked, -, -, -, hbegun⟩ := session_keeps_discipline r hone before
  have hreplies := (hbegun ends .here "" files after).2 hflag
    (⟨ends, .demand 2 .next⟩ : Request) (demands own 0)
  rw [show (Session.run r {} before).opened.length = 2 from hopened] at hreplies
  exact ⟨hone, hattempts, htracked, hflag, hlength, hreplies (hdemands ▸ hsame')⟩

end LintRun.Runner
