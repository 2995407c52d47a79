import MessageFlow.Proofs.Sample
import MessageFlow.Strategy

/-!
# Retries inside of retries

A strategy that tries again counts its retries for itself, and begins to count anew with each
message that comes in. One that is inside of another is begun anew with every attempt of the outer
one, so the numbers of attempts multiply (`retries_multiply`).

What is counted are the calls of the handler. `Handler.Recorded` says that the world has a record of
them, of whatever form; `Tried` says of a run which calls it comes to. One attempt after the other
(`tries_loop`), and one strategy around the other (`tries_chain`), the handler is called until it
succeeds or the attempts are used up.
-/

namespace MessageFlow

section

variable [PayloadTypes]

/-- A call of a handler: the message that it got, and how the call ended. -/
abbrev HandlerCall := Message × Except Failure Outcome

/-- What the library logs does not keep a handler from work, and is no part of a record. -/
def Unlogged (working : World → Prop) (record : World → List HandlerCall) : Prop :=
  ∀ event w, working w → working { w with journal := w.journal.push (.logged event) } ∧
    record { w with journal := w.journal.push (.logged event) } = record w

/-- A handler whose calls are on record. `record` reads the calls so far off a world in which the
handler is at work. -/
structure Handler.Recorded (handler : Handler) (stage : StageInfo) (working : World → Prop)
    (record : World → List HandlerCall) : Prop where
  call : ∀ m w, working w → ∃ result v, (handler stage m).exec w = some (result, v) ∧
    working v ∧ record v = record w ++ [(m, result)]
  log : Unlogged working record

/-- A handler on record whose first calls fail, a number of them, and whose later calls succeed. -/
structure Handler.Falters (handler : Handler) (stage : StageInfo) (working : World → Prop)
    (record : World → List HandlerCall) (failures : Nat) : Prop
    extends handler.Recorded stage working record where
  falters : ∀ m w result v, working w → (handler stage m).exec w = some (result, v) →
    (result.isOk = true ↔ failures ≤ (record w).length)

section Tries

variable {handler : Handler} {stage : StageInfo} {working : World → Prop}
  {record : World → List HandlerCall} {failures limit most : Nat} {m : Message}
  {proceed : Message → Run Outcome} {w v : World}

/-- What a run comes to that calls a handler with a message until it succeeds, and no more often
than `most` times. `left` of its calls are still to fail. -/
structure Tried (record : World → List HandlerCall) (m : Message) (left most : Nat) (w v : World)
    (result : Except Failure Outcome) (calls : List HandlerCall) : Prop where
  recorded : record v = record w ++ calls
  count : calls.length = min (left + 1) most
  /-- Each call is with the message as it came in. -/
  same : ∀ call ∈ calls, call.1 = m
  last : calls.getLast? = some (m, result)
  succeeds : result.isOk = true ↔ left < most

/-- A run that calls a handler until it succeeds, and no more often than `most` times. -/
def Tries (working : World → Prop) (record : World → List HandlerCall) (failures : Nat)
    (m : Message) (most : Nat) (run : Run Outcome) : Prop :=
  ∀ w, working w → ∃ result v calls, run.exec w = some (result, v) ∧ working v ∧
    Tried record m (failures - (record w).length) most w v result calls

theorem tries_handler (h : handler.Falters stage working record failures) (m : Message) :
    Tries working record failures m 1 (handler stage m) := by
  intro w hw
  obtain ⟨result, v, hexec, hv, hrecord⟩ := h.call m w hw
  have hends := h.falters m w result v hw hexec
  refine ⟨result, v, [(m, result)], hexec, hv, hrecord, ?_, ?_, rfl, ?_⟩
  · simp
  · simp
  · rw [hends]
    omega

/-- A retry is one attempt, and then the rest of the loop if that failed and may be tried again. -/
theorem exec_retry (limit retries : Nat) :
    (Run.loop ((ErrorStrategy.retry limit).attempt stage m proceed) retries).exec w =
      match (proceed m).exec w with
      | some (.ok outcome, v) => some (.ok outcome, v)
      | some (.error failure, v) =>
        if retries < limit then
          (Run.loop ((ErrorStrategy.retry limit).attempt stage m proceed) (retries + 1)).exec
            { v with journal := v.journal.push (.logged (.retrying stage (retries + 1) failure)) }
        else some (.error failure, v)
      | none => none := by
  rw [Run.exec_loop, ErrorStrategy.attempt]
  simp only [Run.exec_bind, Run.exec_attempt]
  rcases (proceed m).exec w with _ | ⟨failure | outcome, v⟩
  · rfl
  · by_cases hretries : retries < limit
    · simp [ErrorStrategy.decide, hretries, Except.map]
    · simp [ErrorStrategy.decide, hretries]
  · rfl

/-- A first attempt that succeeds is all that there is to it, however many more there could be. -/
theorem Tried.of_success {left further : Nat} {outcome : Outcome} {calls : List HandlerCall}
    (h : Tried record m left most w v (.ok outcome) calls) :
    Tried record m left (most + further) w v (.ok outcome) calls := by
  have hsuccess : left < most := h.succeeds.1 rfl
  refine ⟨h.recorded, ?_, h.same, h.last, ?_⟩
  · rw [h.count]
    omega
  · simp only [Except.isOk, Except.toBool, true_iff]
    omega

/-- A first attempt that fails has used up all of its calls. -/
theorem Tried.of_failure {left : Nat} {failure : Failure} {calls : List HandlerCall}
    (h : Tried record m left most w v (.error failure) calls) :
    most ≤ left ∧ calls.length = most := by
  have hnot : ¬left < most := fun hlt => by cases h.succeeds.2 hlt
  rw [h.count]
  omega

/-- After a first attempt that fails the rest is tried. -/
theorem Tried.after_failure {left further : Nat} {failure : Failure} {u v' : World}
    {result : Except Failure Outcome} {calls calls' : List HandlerCall}
    (h : Tried record m left most w v (.error failure) calls) (hrecord : record u = record v)
    (h' : Tried record m (left - most) further u v' result calls') :
    Tried record m left (most + further) w v' result (calls ++ calls') := by
  obtain ⟨hfails, hcount⟩ := h.of_failure
  refine ⟨?_, ?_, ?_, ?_, ?_⟩
  · rw [h'.recorded, hrecord, h.recorded, List.append_assoc]
  · rw [List.length_append, hcount, h'.count]
    omega
  · intro call hcall
    exact (List.mem_append.1 hcall).elim (h.same call) (h'.same call)
  · rw [List.getLast?_append, h'.last]
    rfl
  · rw [h'.succeeds]
    omega

/-- Attempts that fail are made up for by the ones that are left. -/
theorem tries_loop (hlog : Unlogged working record)
    (hproceed : Tries working record failures m most (proceed m)) {left retries : Nat}
    (hretries : retries + left = limit) :
    Tries working record failures m ((left + 1) * most)
      (Run.loop ((ErrorStrategy.retry limit).attempt stage m proceed) retries) := by
  induction left generalizing retries with
  | zero =>
    intro w hw
    obtain ⟨result, v, calls, hexec, hv, htried⟩ := hproceed w hw
    have hlast : ¬retries < limit := by omega
    refine ⟨result, v, calls, ?_, hv, by simpa using htried⟩
    rw [exec_retry, hexec]
    cases result with
    | ok outcome => rfl
    | error failure => exact if_neg hlast
  | succ left ih =>
    intro w hw
    obtain ⟨result, v, calls, hexec, hv, htried⟩ := hproceed w hw
    have hmost : (left + 1 + 1) * most = most + (left + 1) * most := by
      rw [Nat.succ_mul, Nat.add_comm]
    rw [hmost]
    cases result with
    | ok outcome =>
      -- The first attempt succeeds, so nothing is tried again.
      exact ⟨.ok outcome, v, calls, by rw [exec_retry, hexec], hv, htried.of_success⟩
    | error failure =>
      -- The log line in between changes neither the record nor what is still to fail.
      obtain ⟨hu, hrecord⟩ := hlog (.retrying stage (retries + 1) failure) v hv
      have hnext : retries + 1 + left = limit := by omega
      obtain ⟨result', v', calls', hexec', hv', htried'⟩ := ih hnext _ hu
      have hleft : failures - (record v).length = failures - (record w).length - most := by
        rw [htried.recorded, List.length_append, htried.of_failure.2, Nat.sub_sub]
      rw [hrecord, hleft] at htried'
      refine ⟨result', v', calls ++ calls', ?_, hv', htried.after_failure hrecord htried'⟩
      have hmore : retries < limit := by omega
      rw [exec_retry, hexec]
      simpa [hmore] using hexec'

/-- The chain of the strategies that try again so many times each, the outermost first. -/
def retryChain (limits : List Nat) : List Advice :=
  limits.map fun limit => (ErrorStrategy.retry limit).advice

/-- How many attempts such a chain has in all: the numbers of attempts, multiplied. -/
def attempts (limits : List Nat) : Nat :=
  (limits.map (· + 1)).foldr (· * ·) 1

theorem tries_chain (h : handler.Falters stage working record failures) (m : Message)
    (limits : List Nat) :
    Tries working record failures m (attempts limits)
      (handler.advised (retryChain limits) stage m) := by
  induction limits with
  | nil => exact tries_handler h m
  | cons limit limits ih =>
    exact tries_loop h.log ih (Nat.zero_add limit)

end Tries

/-- Retries multiply. A handler that fails so many times and then succeeds is called, under
strategies that try again one inside the other, until it succeeds or has been called as many times
as the product of their numbers of attempts, always with the message that came in. What comes of it
is what came of the last call: a success exactly if the product is greater than the number of
failures. -/
theorem retries_multiply {handler : Handler} {stage : StageInfo} {working : World → Prop}
    {record : World → List HandlerCall} {failures : Nat}
    (h : handler.Falters stage working record failures) (limits : List Nat) (m : Message)
    {w : World} (hw : working w) (hnew : record w = []) :
    ∃ result v, (handler.advised (retryChain limits) stage m).exec w = some (result, v) ∧
      (record v).length = min (failures + 1) (attempts limits) ∧
      (∀ call ∈ record v, call.1 = m) ∧
      (record v).getLast? = some (m, result) ∧
      (result.isOk = true ↔ failures < attempts limits) := by
  obtain ⟨result, v, calls, hexec, -, htried⟩ := tries_chain h m limits w hw
  have hcalls : record v = calls := by rw [htried.recorded, hnew, List.nil_append]
  have hleft : failures - (record w).length = failures := by simp [hnew]
  rw [hleft] at htried
  exact ⟨result, v, hexec, hcalls ▸ htried.count, hcalls ▸ htried.same, hcalls ▸ htried.last,
    htried.succeeds⟩

/-! ## A handler that falters -/

end

open Sample

/-- The messages in the first channel. -/
def World.received (w : World) : List Message :=
  (w.channels[0]?.map (·.box.queued)).getD []

/-- Passes messages on, but for its first three calls. It keeps what it gets in the first channel.
-/
def faltering : Handler := fun stage m => do
  let received ← Run.look World.received
  Run.withMailbox ⟨0, "received"⟩ fun box => ((), box.post m)
  if received.length < 3 then throw (.handler stage (.text "not yet")) else return .reply m

/-- What became of the messages that `faltering` got. -/
def falteringRecord (stage : StageInfo) (w : World) : List HandlerCall :=
  w.received.mapIdx fun i m =>
    (m, if i < 3 then .error (.handler stage (.text "not yet")) else .ok (.reply m))

theorem falters_faltering (stage : StageInfo) :
    faltering.Falters stage (fun w => w.channels ≠ []) (falteringRecord stage) 3 := by
  have hcall : ∀ m w, w.channels ≠ [] → ∃ v, v.channels ≠ [] ∧ v.received = w.received ++ [m] ∧
      (faltering stage m).exec w = some
        (if w.received.length < 3 then .error (.handler stage (.text "not yet"))
          else .ok (.reply m), v) := by
    intro m w hw
    obtain ⟨live, rest, hchannels⟩ := List.exists_cons_of_ne_nil hw
    refine ⟨{ w with channels := { live with box := live.box.post m } :: rest }, by simp, ?_, ?_⟩
    · simp [World.received, hchannels, Mailbox.post]
    · simp only [faltering, Run.exec_bind, Run.exec_look, Run.withMailbox, Run.exec_get,
        hchannels]
      by_cases hcount : w.received.length < 3 <;> simp [hcount]
  refine ⟨⟨?_, fun event w hw => ⟨hw, rfl⟩⟩, ?_⟩
  · intro m w hw
    obtain ⟨v, hv, hreceived, hexec⟩ := hcall m w hw
    refine ⟨_, v, hexec, hv, ?_⟩
    simp [falteringRecord, hreceived, List.mapIdx_append]
  · intro m w result v hw hexec
    obtain ⟨v', -, -, hexec'⟩ := hcall m w hw
    rw [hexec] at hexec'
    cases hexec'
    by_cases hcount : w.received.length < 3
    · simp [falteringRecord, hcount, Except.isOk, Except.toBool]
    · simp [falteringRecord, hcount, Except.isOk, Except.toBool, Nat.le_of_not_lt hcount]

/-- Two attempts with two attempts each are one more than the three that fail. -/
theorem retries_multiply_faltering :
    let stage : StageInfo := ⟨"f.transform#0", .transform⟩
    let m : Message := ⟨.fresh 0, .of .number 1, .at 0⟩
    let w : World := { World.new 0 with channels := [.queue "received"] }
    ∃ result v, (faltering.advised (retryChain [1, 1]) stage m).exec w = some (result, v) ∧
      (falteringRecord stage v).length = 4 ∧
      (∀ call ∈ falteringRecord stage v, call.1 = m) ∧
      (falteringRecord stage v).getLast? = some (m, result) ∧ result.isOk = true := by
  intro stage m w
  obtain ⟨result, v, hexec, hcount, hsame, hlast, hok⟩ :=
    retries_multiply (falters_faltering stage) [1, 1] m (w := w) (by simp [w]) rfl
  exact ⟨result, v, hexec, hcount, hsame, hlast, hok.2 (by decide)⟩

end MessageFlow
