import MessageFlow.Proofs.Pumps.Lives
import MessageFlow.Proofs.Sample

/-!
# The life of a runner

Runners of one flow are started and stopped in any order, and time passes in between. What each call
does to whether runners are running, and whether they were stopped, is known (`lives_start`,
`lives_stop`), so `Abides` holds after every call: a runner is running if it was started and not
stopped since, and whoever was started once cannot be started again (`life_cycle`).

The runners share the source of their flow. A publisher gives its stream to one of them only.
-/

namespace MessageFlow

section

variable [PayloadTypes]

/-- A call that starts or stops a runner, or lets time pass. -/
inductive LifeCall where
  | start (r : Runner)
  | stop (r : Runner)
  | wait (ms : Nat)

namespace LifeCall

/-- Makes the call. -/
def perform (runners : List Runner) : LifeCall → Run Unit
  | start r => r.start
  | stop r => Runner.stop runners r
  | wait ms => elapse runners ms

/-- The call is to one of the runners. -/
def IsTo (runners : List Runner) : LifeCall → Prop
  | start r | stop r => r ∈ runners
  | wait _ => True

end LifeCall

/-- Calls that were made, with what they ended with, the latest one last. -/
abbrev Calls := List (LifeCall × Except Failure Unit)

/-- What was done with some runners, from one world to another. -/
inductive History (runners : List Runner) (w : World) : Calls → World → Prop where
  | nothing : History runners w [] w
  | call (past : Calls) (call : LifeCall) (result : Except Failure Unit) (u v : World) :
      History runners w past u → call.IsTo runners →
      (call.perform runners).exec u = some (result, v) →
      History runners w (past ++ [(call, result)]) v

namespace Calls

/-- A start of the runner succeeded, and no stop of it has since. -/
def LeaveRunning (past : Calls) (r : Runner) : Prop :=
  ∃ before after, past = before ++ (.start r, .ok ()) :: after ∧ (.stop r, .ok ()) ∉ after

variable {past : Calls} {r : Runner} {entry : LifeCall × Except Failure Unit}

theorem leaveRunning_start (past : Calls) (r : Runner) :
    LeaveRunning (past ++ [(.start r, .ok ())]) r :=
  ⟨past, [], rfl, by simp⟩

/-- Where a call stands among calls that were made and one that comes last. -/
theorem concat_eq_append_cons {before after : Calls} {other : LifeCall × Except Failure Unit}
    (h : past ++ [entry] = before ++ other :: after) :
    other = entry ∨ ∃ later, after = later ++ [entry] ∧ past = before ++ other :: later := by
  rcases List.eq_nil_or_concat after with rfl | ⟨later, last, rfl⟩
  · have hlast := (List.append_inj' h rfl).2
    exact .inl (List.singleton_inj.1 hlast).symm
  · have hassoc : past ++ [entry] = (before ++ other :: later) ++ [last] := by simpa using h
    obtain ⟨hpast, hlast⟩ := List.append_inj' hassoc rfl
    cases List.singleton_inj.1 hlast
    exact .inr ⟨later, by simp, hpast⟩

theorem leaveRunning_concat (h : entry ≠ (.start r, .ok ())) :
    LeaveRunning (past ++ [entry]) r ↔ LeaveRunning past r ∧ entry ≠ (.stop r, .ok ()) := by
  refine ⟨?_, ?_⟩
  · rintro ⟨before, after, heq, hstop⟩
    rcases concat_eq_append_cons heq with hentry | ⟨later, rfl, hpast⟩
    · exact absurd hentry.symm h
    · refine ⟨⟨before, later, hpast, fun hmem => hstop (List.mem_append_left _ hmem)⟩, ?_⟩
      rintro rfl
      exact hstop (List.mem_append_right _ (List.mem_singleton.2 rfl))
  · rintro ⟨⟨before, after, rfl, hstop⟩, hentry⟩
    refine ⟨before, after ++ [entry], by simp, fun hmem => ?_⟩
    rcases List.mem_append.1 hmem with hmem | hmem
    · exact hstop hmem
    · exact hentry (List.mem_singleton.1 hmem).symm

end Calls

/-! ## Calls -/

section Calls

variable {r : Runner} {w v : World} {result : Except Failure Unit}

/-- Only a runner that is not running and was not stopped is started, and then it is running. A
start that fails changes no runner. -/
theorem lives_start (hcode : r.flow.Considerate) {state : RunnerState}
    (hstate : w.runners[r.slot]? = some state) (h : r.start.exec w = some (result, v)) :
    (result = .ok () → state.running = false ∧ state.stopped = false ∧
      v.lives = w.lives.modify r.slot fun life => (true, life.2)) ∧
    ∀ failure, result = .error failure → v.runners = w.runners := by
  have hget : w.runners.getD r.slot .new = state := by simp [hstate]
  rw [Runner.exec_start, hget] at h
  cases hstopped : state.stopped with
  | true =>
    rw [hstopped, if_pos rfl] at h
    cases h
    exact ⟨nofun, fun _ _ => rfl⟩
  | false =>
    cases hrunning : state.running with
    | true =>
      rw [hstopped, if_neg Bool.false_ne_true, hrunning, if_pos rfl] at h
      cases h
      exact ⟨nofun, fun _ _ => rfl⟩
    | false =>
      rw [hstopped, if_neg Bool.false_ne_true, hrunning, if_neg Bool.false_ne_true] at h
      cases hdraw : r.flow.draw.exec w with
      | none =>
        rw [hdraw] at h
        cases h
      | some answered =>
        obtain ⟨answer, u⟩ := answered
        have hrunners : u.runners = w.runners := Runner.runners_draw hcode hdraw
        rw [hdraw] at h
        cases answer with
        | error failure =>
          cases h
          exact ⟨nofun, fun _ _ => hrunners⟩
        | ok work =>
          cases h
          refine ⟨fun _ => ⟨rfl, rfl, ?_⟩, nofun⟩
          have hlives : u.lives = w.lives := congrArg (List.map _) hrunners
          rw [← hlives]
          exact lives_modify (fun _ => rfl) u.runners r.slot

/-- The stream of a publisher is given to the first who starts, and only to him. -/
theorem stream_start {counter n : Nat} {feed : Feed}
    (hsource : r.flow.source = .publisher counter feed) (hcounter : w.counters[counter]? = some n)
    (h : r.start.exec w = some (result, v)) :
    ∃ k, v.counters[counter]? = some k ∧ n ≤ k ∧ (result = .ok () → n = 0 ∧ 0 < k) := by
  have hn : w.counters.getD counter 0 = n := by simp [hcounter]
  have hset : (w.counters.set counter (n + 1))[counter]? = some (n + 1) := by
    rw [List.getElem?_set_self (List.getElem?_eq_some_iff.1 hcounter).1]
  rw [Runner.exec_start, Runner.exec_draw_publisher hsource, hn] at h
  split at h
  · cases h
    exact ⟨n, hcounter, Nat.le_refl n, nofun⟩
  · split at h
    · cases h
      exact ⟨n, hcounter, Nat.le_refl n, nofun⟩
    · cases n with
      | zero =>
        cases h
        exact ⟨1, hset, Nat.zero_le 1, fun _ => ⟨rfl, Nat.one_pos⟩⟩
      | succ n =>
        cases h
        exact ⟨n + 2, hset, Nat.le_succ _, nofun⟩

/-- After a stop a runner is stopped for good, and it is not running unless the stop was broken
off. -/
theorem lives_stop {runners : List Runner} {flow : Flow} (hflow : ∀ r ∈ runners, r.flow = flow)
    (hcode : flow.Considerate) (hr : r ∈ runners)
    (h : (Runner.stop runners r).exec w = some (result, v)) :
    (v.lives = w.lives.modify r.slot fun life => (life.1 && !result.isOk, true)) ∧
      ∀ counter feed, flow.source = .publisher counter feed →
        v.counters[counter]? = w.counters[counter]? := by
  rw [Runner.exec_stop] at h
  have hstopping : (r.stopping w).lives = w.lives.modify r.slot fun life => (life.1, true) :=
    lives_modify (fun _ => rfl) w.runners r.slot
  cases hwind : (r.windUp runners (w.runners.getD r.slot .new).pump).exec (r.stopping w) with
  | none =>
    rw [hwind] at h
    cases h
  | some wound =>
    obtain ⟨answer, u⟩ := wound
    obtain ⟨hlives, hstream⟩ := (unswitched_windUp hflow hcode hr _ _ _ _ hwind).1
    rw [hwind] at h
    cases answer with
    | error failure =>
      cases h
      refine ⟨?_, hstream⟩
      rw [hlives, hstopping]
      simp [Except.isOk, Except.toBool]
    | ok =>
      cases h
      refine ⟨?_, hstream⟩
      have hstopped : (r.stopped u).lives = u.lives.modify r.slot fun life => (false, life.2) :=
        lives_modify (fun _ => rfl) u.runners r.slot
      rw [hstopped, hlives, hstopping, List.modify_modify_eq]
      simp [Except.isOk, Except.toBool, Function.comp_def]

end Calls

/-! ## Histories -/

namespace Calls

/-- What calls that were made say of a runner: whether it is running, and whether it was stopped. -/
structure Tell (past : Calls) (r : Runner) (life : Bool × Bool) : Prop where
  running : life.1 = true ↔ past.LeaveRunning r
  stopped : life.2 = true ↔ ∃ result, (.stop r, result) ∈ past
  /-- Who was started once is running, or was stopped later. -/
  started : (.start r, .ok ()) ∈ past → life.1 = true ∨ life.2 = true
  once : past.Pairwise fun a b => ¬ (a = (.start r, .ok ()) ∧ b = (.start r, .ok ()))

variable {past : Calls} {r : Runner} {life : Bool × Bool} {entry : LifeCall × Except Failure Unit}

theorem tell_nil (r : Runner) : Tell [] r (false, false) := by
  refine ⟨⟨nofun, ?_⟩, ⟨nofun, ?_⟩, nofun, .nil⟩
  · rintro ⟨before, after, heq, -⟩
    simp at heq
  · rintro ⟨result, hmem⟩
    cases hmem

/-- A runner is started that is not running and was not stopped. -/
theorem tell_start (h : Tell past r (false, false)) :
    Tell (past ++ [(.start r, .ok ())]) r (true, false) := by
  have hnever : (.start r, .ok ()) ∉ past := by
    intro hmem
    rcases h.started hmem with hlife | hlife <;> cases hlife
  refine ⟨⟨fun _ => leaveRunning_start past r, fun _ => rfl⟩, ⟨nofun, ?_⟩, fun _ => .inl rfl, ?_⟩
  · rintro ⟨result, hmem⟩
    rcases List.mem_append.1 hmem with hmem | hmem
    · exact h.stopped.2 ⟨result, hmem⟩
    · cases List.mem_singleton.1 hmem
  · refine List.pairwise_append.2 ⟨h.once, List.pairwise_singleton _ _, ?_⟩
    rintro a ha b hb ⟨rfl, rfl⟩
    exact hnever ha

/-- Any other call. -/
theorem tell_concat (h : Tell past r life) (hstart : entry ≠ (.start r, .ok ())) {running : Bool}
    (hrunning : running = true ↔ life.1 = true ∧ entry ≠ (.stop r, .ok ()))
    {stopped : Bool}
    (hstopped : stopped = true ↔ life.2 = true ∨ ∃ result, entry = (.stop r, result)) :
    Tell (past ++ [entry]) r (running, stopped) := by
  refine ⟨?_, ?_, ?_, ?_⟩
  · rw [leaveRunning_concat hstart, ← h.running]
    exact hrunning
  · refine hstopped.trans ?_
    rw [h.stopped, ← exists_or]
    refine exists_congr fun result => ?_
    rw [List.mem_append, List.mem_singleton, eq_comm (a := entry)]
  · intro hmem
    rcases List.mem_append.1 hmem with hmem | hmem
    · by_cases hstop : entry = (.stop r, .ok ())
      · exact .inr (hstopped.2 (.inr ⟨_, hstop⟩))
      · exact (h.started hmem).imp (fun hlife => hrunning.2 ⟨hlife, hstop⟩)
          fun hlife => hstopped.2 (.inl hlife)
    · exact absurd (List.mem_singleton.1 hmem).symm hstart
  · refine List.pairwise_append.2 ⟨h.once, List.pairwise_singleton _ _, ?_⟩
    rintro a ha b hb ⟨-, rfl⟩
    exact hstart (List.mem_singleton.1 hb).symm

/-- A call that neither started nor stopped the runner. -/
theorem tell_other (h : Tell past r life) (hstart : entry ≠ (.start r, .ok ()))
    (hstop : ∀ result, entry ≠ (.stop r, result)) : Tell (past ++ [entry]) r life :=
  tell_concat h hstart ⟨fun hlife => ⟨hlife, hstop _⟩, And.left⟩
    ⟨.inl, fun hlife => hlife.resolve_right fun ⟨result, hentry⟩ => hstop result hentry⟩

end Calls

/-- A start of some runner that succeeded. -/
def Starts (entry : LifeCall × Except Failure Unit) : Prop :=
  ∃ r, entry = (.start r, .ok ())

/-- What is so after certain calls: each runner is as the calls tell, and the stream of a publisher
is gone if any runner was started. -/
structure Abides (flow : Flow) (runners : List Runner) (past : Calls) (v : World) : Prop where
  lives : ∀ r ∈ runners, ∃ life, v.lives[r.slot]? = some life ∧ past.Tell r life
  stream : ∀ counter feed, flow.source = .publisher counter feed →
    ∃ n, v.counters[counter]? = some n ∧ ((∃ entry ∈ past, Starts entry) → 0 < n) ∧
      past.Pairwise fun a b => ¬ (Starts a ∧ Starts b)

section Histories

variable {flow : Flow} {runners : List Runner} {past : Calls} {u v w : World}

theorem getElem?_lives {slot : Nat} {life : Bool × Bool} (h : v.lives[slot]? = some life) :
    ∃ state, v.runners[slot]? = some state ∧ life = (state.running, state.stopped) := by
  rw [World.lives, List.getElem?_map, Option.map_eq_some_iff] at h
  obtain ⟨state, hstate, rfl⟩ := h
  exact ⟨state, hstate, rfl⟩

/-- Calls that start nobody leave the stream of a publisher where it was. -/
theorem stream_concat {counter n k : Nat} {entry : LifeCall × Except Failure Unit}
    (hgone : (∃ entry ∈ past, Starts entry) → 0 < n)
    (honce : past.Pairwise fun a b => ¬ (Starts a ∧ Starts b))
    (hk : v.counters[counter]? = some k) (hle : n ≤ k) (hstarts : Starts entry → n = 0 ∧ 0 < k) :
    ∃ k, v.counters[counter]? = some k ∧ ((∃ e ∈ past ++ [entry], Starts e) → 0 < k) ∧
      (past ++ [entry]).Pairwise fun a b => ¬ (Starts a ∧ Starts b) := by
  refine ⟨k, hk, ?_, ?_⟩
  · rintro ⟨e, hmem, he⟩
    rcases List.mem_append.1 hmem with hmem | hmem
    · exact Nat.lt_of_lt_of_le (hgone ⟨e, hmem, he⟩) hle
    · exact (hstarts (List.mem_singleton.1 hmem ▸ he)).2
  · refine List.pairwise_append.2 ⟨honce, List.pairwise_singleton _ _, ?_⟩
    rintro a ha b hb ⟨hstarted, hentry⟩
    have hzero := (hstarts (List.mem_singleton.1 hb ▸ hentry)).1
    exact absurd (hgone ⟨a, ha, hstarted⟩) (by omega)

/-- A call that started nobody, and left the stream of a publisher where it was. -/
theorem stream_of_same (h : Abides flow runners past u) {entry : LifeCall × Except Failure Unit}
    (hentry : ¬ Starts entry)
    (hstream : ∀ counter feed, flow.source = .publisher counter feed →
      v.counters[counter]? = u.counters[counter]?) :
    ∀ counter feed, flow.source = .publisher counter feed →
      ∃ n, v.counters[counter]? = some n ∧ ((∃ e ∈ past ++ [entry], Starts e) → 0 < n) ∧
        (past ++ [entry]).Pairwise fun a b => ¬ (Starts a ∧ Starts b) := by
  intro counter feed hsource
  obtain ⟨n, hn, hgone, honce⟩ := h.stream counter feed hsource
  exact stream_concat hgone honce ((hstream counter feed hsource).trans hn) (Nat.le_refl n)
    fun hstarts => absurd hstarts hentry

/-- A call that neither started nor stopped anybody. -/
theorem lives_of_same (h : Abides flow runners past u) {entry : LifeCall × Except Failure Unit}
    (hlives : v.lives = u.lives)
    (hother : ∀ r, entry ≠ (.start r, .ok ()) ∧ ∀ result, entry ≠ (.stop r, result)) :
    ∀ r ∈ runners, ∃ life, v.lives[r.slot]? = some life ∧ (past ++ [entry]).Tell r life := by
  intro r hr
  obtain ⟨life, hlife, htell⟩ := h.lives r hr
  exact ⟨life, hlives ▸ hlife, Calls.tell_other htell (hother r).1 (hother r).2⟩

variable (hdistinct : ∀ r ∈ runners, ∀ s ∈ runners, r.slot = s.slot → r = s)

include hdistinct

/-- One runner was called: the others are as they were. -/
theorem lives_of_modify {s : Runner} (hs : s ∈ runners) {entry : LifeCall × Except Failure Unit}
    {change : Bool × Bool → Bool × Bool} (h : Abides flow runners past u)
    (hlives : v.lives = u.lives.modify s.slot change)
    (hother : ∀ r, r ≠ s → entry ≠ (.start r, .ok ()) ∧ ∀ result, entry ≠ (.stop r, result))
    (hcalled : ∀ life, past.Tell s life → u.lives[s.slot]? = some life →
      (past ++ [entry]).Tell s (change life)) :
    ∀ r ∈ runners, ∃ life, v.lives[r.slot]? = some life ∧ (past ++ [entry]).Tell r life := by
  intro r hr
  obtain ⟨life, hlife, htell⟩ := h.lives r hr
  rw [hlives, List.getElem?_modify, hlife]
  by_cases hslot : s.slot = r.slot
  · obtain rfl := hdistinct s hs r hr hslot
    exact ⟨change life, by simp, hcalled life htell hlife⟩
  · refine ⟨life, by simp [hslot], ?_⟩
    have hne : r ≠ s := fun heq => hslot (congrArg Runner.slot heq.symm)
    exact Calls.tell_other htell (hother r hne).1 (hother r hne).2

variable (hflow : ∀ r ∈ runners, r.flow = flow) (hcode : flow.Considerate)

include hflow hcode

theorem abides_start {s : Runner} (hs : s ∈ runners) (h : Abides flow runners past u)
    {result : Except Failure Unit} (hexec : s.start.exec u = some (result, v)) :
    Abides flow runners (past ++ [(.start s, result)]) v := by
  have hsflow : s.flow = flow := hflow s hs
  obtain ⟨life, hlife, -⟩ := h.lives s hs
  obtain ⟨state, hstate, -⟩ := getElem?_lives hlife
  obtain ⟨hok, herror⟩ := lives_start (hsflow.symm ▸ hcode) hstate hexec
  refine ⟨?_, ?_⟩
  · cases result with
    | ok =>
      obtain ⟨hrunning, hstopped, hlives⟩ := hok rfl
      refine lives_of_modify hdistinct hs h hlives ?_ ?_
      · intro r hr
        refine ⟨fun heq => hr ?_, fun result heq => nomatch heq⟩
        cases heq
        rfl
      · intro life htell hlife
        obtain ⟨state', hstate', rfl⟩ := getElem?_lives hlife
        rw [hstate] at hstate'
        cases hstate'
        rw [hrunning, hstopped] at htell ⊢
        exact Calls.tell_start htell
    | error failure =>
      have hlives : v.lives = u.lives := congrArg (List.map _) (herror failure rfl)
      exact lives_of_same h hlives fun r => ⟨nofun, nofun⟩
  · intro counter feed hsource
    obtain ⟨n, hn, hgone, honce⟩ := h.stream counter feed hsource
    obtain ⟨k, hk, hle, hstarted⟩ := stream_start (hsflow.symm ▸ hsource) hn hexec
    refine stream_concat hgone honce hk hle ?_
    rintro ⟨r, heq⟩
    cases heq
    exact hstarted rfl

theorem abides_stop {s : Runner} (hs : s ∈ runners) (h : Abides flow runners past u)
    {result : Except Failure Unit} (hexec : (Runner.stop runners s).exec u = some (result, v)) :
    Abides flow runners (past ++ [(.stop s, result)]) v := by
  obtain ⟨hlives, hstream⟩ := lives_stop hflow hcode hs hexec
  refine ⟨?_, ?_⟩
  · refine lives_of_modify hdistinct hs h hlives ?_ ?_
    · intro r hr
      refine ⟨nofun, fun result heq => hr ?_⟩
      cases heq
      rfl
    · intro life htell _
      have hentry : (LifeCall.stop s, result) ≠ (.start s, .ok ()) := nofun
      refine Calls.tell_concat htell hentry ?_ ⟨fun _ => .inr ⟨result, rfl⟩, fun _ => rfl⟩
      cases result with
      | ok => simp [Except.isOk, Except.toBool]
      | error failure => simp [Except.isOk, Except.toBool]
  · refine stream_of_same h ?_ hstream
    rintro ⟨r, ⟨⟩⟩

omit hdistinct in
theorem abides_wait {ms : Nat} (h : Abides flow runners past u) {result : Except Failure Unit}
    (hexec : (elapse runners ms).exec u = some (result, v)) :
    Abides flow runners (past ++ [(.wait ms, result)]) v := by
  obtain ⟨hlives, hstream⟩ := (unswitched_elapse hflow hcode ms u _ v hexec).1
  have hstart : ¬ Starts (.wait ms, result) := by
    rintro ⟨r, ⟨⟩⟩
  exact ⟨lives_of_same h hlives fun r => ⟨nofun, nofun⟩, stream_of_same h hstart hstream⟩

/-- Whatever was called, each runner is as the calls tell. -/
theorem abides_of_history (hnew : ∀ r ∈ runners, w.runners[r.slot]? = some .new)
    (hpublisher : ∀ counter feed, flow.source = .publisher counter feed →
      counter < w.counters.length) (h : History runners w past v) :
    Abides flow runners past v := by
  induction h with
  | nothing =>
    refine ⟨fun r hr => ⟨(false, false), ?_, Calls.tell_nil r⟩, fun counter feed hsource => ?_⟩
    · rw [World.lives, List.getElem?_map, hnew r hr]
      rfl
    · refine ⟨_, List.getElem?_eq_getElem (hpublisher counter feed hsource), ?_, .nil⟩
      rintro ⟨entry, hmem, -⟩
      cases hmem
  | call past call result u v _ hcall hexec ih =>
    cases call with
    | start s => exact abides_start hdistinct hflow hcode hcall ih hexec
    | stop s => exact abides_stop hdistinct hflow hcode hcall ih hexec
    | wait ms => exact abides_wait hflow hcode ih hexec

end Histories

/-- The life cycle of runners that share a flow, whatever its source is, after any calls that start
and stop them while time passes. At most one start of each runner succeeded. Who was stopped cannot
be started again: the start fails, and nothing is done by it, least of all to the source. A runner
is running if a start of it succeeded and no stop of it has since, and in no other case. A start
that fails leaves all runners and their pumps as they were. If the source is a publisher at most one
start of all the runners succeeded. -/
theorem life_cycle {flow : Flow} {runners : List Runner} {w v : World} {past : Calls}
    (hflow : ∀ r ∈ runners, r.flow = flow)
    (hdistinct : ∀ r ∈ runners, ∀ s ∈ runners, r.slot = s.slot → r = s)
    (hnew : ∀ r ∈ runners, w.runners[r.slot]? = some .new)
    (hpublisher : ∀ counter feed, flow.source = .publisher counter feed →
      counter < w.counters.length)
    (hcode : flow.Considerate) (h : History runners w past v) :
    (∀ r ∈ runners,
      (past.Pairwise fun a b => ¬ (a = (.start r, .ok ()) ∧ b = (.start r, .ok ()))) ∧
      ((∃ result, (.stop r, result) ∈ past) →
        r.start.exec v = some (.error (.lifecycle (.stopped flow.id)), v)) ∧
      (∃ running, r.isRunning.exec v = some (.ok running, v) ∧
        (running = true ↔ past.LeaveRunning r)) ∧
      ∀ failure u, r.start.exec v = some (.error failure, u) → u.runners = v.runners) ∧
    ∀ counter feed, flow.source = .publisher counter feed →
      past.Pairwise fun a b => ¬ (Starts a ∧ Starts b) := by
  have habides := abides_of_history hdistinct hflow hcode hnew hpublisher h
  refine ⟨fun r hr => ?_, fun counter feed hsource => ?_⟩
  · obtain ⟨life, hlife, htell⟩ := habides.lives r hr
    obtain ⟨state, hstate, rfl⟩ := getElem?_lives hlife
    have hget : v.runners.getD r.slot .new = state := by simp [hstate]
    refine ⟨htell.once, ?_, ⟨state.running, ?_, htell.running⟩, ?_⟩
    · intro hstop
      rw [Runner.exec_start, hget, if_pos (htell.stopped.2 hstop), hflow r hr]
    · rw [Runner.isRunning, Runner.state, Run.exec_bind, Run.exec_look, hget]
      rfl
    · intro failure u hexec
      exact (lives_start ((hflow r hr).symm ▸ hcode) hstate hexec).2 failure rfl
  · obtain ⟨n, -, -, honce⟩ := habides.stream counter feed hsource
    exact honce

end

open Sample

/-- A stream of one message, and a bridge to a channel. -/
def streamed : FlowDefinition :=
  (FlowDefinition.start "f" (.publisher 0 (.spaced 0 [⟨.fresh 0, .of .number 1, .at 0⟩]))
    .standard).afterAll [.stage (.bridge .standard), .channel (.named "out")]

/-- Two runners want the stream. The first one has it and is running, the second one is not. Then
the first one is stopped, and cannot be started again. -/
theorem life_cycle_streamed :
    ∃ (flow : Flow) (first second : Runner) (u v : World) (failure : Failure),
      (Composer.finish.exec streamed).1 = .ok flow ∧
      History [first, second] { World.new 2 with runners := [.new, .new], counters := [0] }
        [(.start first, .ok ()), (.start second, .error failure)] u ∧
      first.isRunning.exec u = some (.ok true, u) ∧
      second.isRunning.exec u = some (.ok false, u) ∧
      (Runner.stop [first, second] first).exec u = some (.ok (), v) ∧
      first.start.exec v = some (.error (.lifecycle (.stopped flow.id)), v) := by
  have hfinish : ∃ flow, (Composer.finish.exec streamed).1 = .ok flow := ⟨_, rfl⟩
  obtain ⟨flow, hflow⟩ := hfinish
  let first : Runner := ⟨0, flow, .empty, none⟩
  let second : Runner := ⟨1, flow, .empty, none⟩
  let runners : List Runner := [first, second]
  let w : World := { World.new 2 with runners := [.new, .new], counters := [0] }
  let failure : Failure := .lifecycle (.publisherConsumed flow.id)
  have hcode : flow.Considerate := by
    have hframe := frame_undisturbed flow.source
    cases hflow
    refine ⟨?_, nofun, nofun⟩
    intro stage hstage m
    cases List.mem_singleton.1 hstage
    exact keeps_pure hframe trivial
  have hsame : ∀ r ∈ runners, r.flow = flow := by
    simp [runners, first, second]
  have hdistinct : ∀ r ∈ runners, ∀ s ∈ runners, r.slot = s.slot → r = s := by
    simp [runners, first, second]
  have hnew : ∀ r ∈ runners, w.runners[r.slot]? = some .new := by
    simp [runners, first, second, w]
  have hpublisher : ∀ counter feed, flow.source = .publisher counter feed →
      counter < w.counters.length := by
    cases hflow
    intro counter feed hsource
    cases hsource
    exact Nat.one_pos
  let past : Calls := [(.start first, .ok ()), (.start second, .error failure)]
  have hcalls : ∃ u v, History runners w past u ∧
      (Runner.stop runners first).exec u = some (.ok (), v) := by
    cases hflow
    refine ⟨_, _, .call [_] (.start second) _ _ _
      (.call [] (.start first) _ _ _ .nothing (by simp [LifeCall.IsTo, runners]) rfl)
      (by simp [LifeCall.IsTo, runners]) rfl, rfl⟩
  obtain ⟨u, v, hu, hstop⟩ := hcalls
  have hv := History.call _ (.stop first) _ u v hu List.mem_cons_self hstop
  obtain ⟨hlives, -⟩ := life_cycle hsame hdistinct hnew hpublisher hcode hu
  obtain ⟨hlives', -⟩ := life_cycle hsame hdistinct hnew hpublisher hcode hv
  obtain ⟨-, -, ⟨running, hrunning, hfirst⟩, -⟩ := hlives first (by simp [runners])
  obtain ⟨-, -, ⟨running', hrunning', hsecond⟩, -⟩ := hlives second (by simp [runners])
  obtain ⟨-, hrefused, -⟩ := hlives' first (by simp [runners])
  have htrue : running = true := hfirst.2 ⟨[], _, rfl, by simp⟩
  have hfalse : running' = false := by
    rw [Bool.eq_false_iff, Ne, hsecond]
    rintro ⟨before, after, heq, -⟩
    have hmem : (.start second, .ok ()) ∈ past := heq ▸ List.mem_append_right before (by simp)
    simp [past, first, second] at hmem
  rw [htrue] at hrunning
  rw [hfalse] at hrunning'
  exact ⟨flow, first, second, u, v, failure, hflow, hu, hrunning, hrunning', hstop,
    hrefused ⟨.ok (), by simp⟩⟩

end MessageFlow
