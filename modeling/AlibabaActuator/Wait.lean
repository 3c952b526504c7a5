import AlibabaActuator.Cloud
import Mathlib.Tactic.Ring
import Mathlib.Tactic.Linarith

/-!
`WaitForResult` of `utils.go`, the one polling primitive of the actuator, and
`waitForInstancesStatus`, which polls `DescribeInstances` through it.

Main results:

* `waitLoop_succ_of_ok` — what one pass of the `for` loop does;
* `waitLoop_ne_outOfFuel` — while `endTime < clock + (fuel + 1) * delaySecond`
  the loop finishes within `fuel + 1` passes: each pass sleeps at least
  `delaySecond`, and the clock never goes back;
* `waitLoop_add_fuel` — a run that finishes is the same with any more fuel;
* `waitLoop_ends` — a run returns `(r, nil)` only after a last predicate call
  that stopped with `r`, a predicate error only if `returnWhenError` is set and
  the last call returned it, and otherwise the timeout error;
* `WaitForResult_polls_bounded` — for `delay > 0` that fits a `time.Duration`
  and every `timeout ≥ 0` the predicate runs at most `timeout / delay + 1`
  times; `waitForInstancesStatus`
  makes at most that many `DescribeInstances` calls, 181 by default;
* `waitForInstancesStatus_ends` — it returns `nil, nil` after an empty answer
  and otherwise one pointer per id, each reading the last instance of its last
  answer; its only error is the timeout.

Design notes: the Go loop has no bound of its own, so `waitLoop` takes a fuel
and ends in `outOfFuel` when it is spent; that outcome is not a Go behaviour,
and the theorems show which fuel is enough and that more changes nothing.
`delay` and `timeout` are seconds and the clock counts nanoseconds, as an
unbounded integer. `time.Duration(x) * time.Second` is an `int64` of
nanoseconds, so it wraps (`durationOfSeconds`): a delay above
`maxDurationSeconds` seconds (about 292 years) sleeps for another length, and
may not sleep at all, so the bound on the polls assumes the delay fits; a
timeout above it wraps to an earlier end time, which only ends the loop
sooner. A predicate
error with `returnWhenError` is returned as the Go error alone: the one caller
drops the result that comes with it.
-/

namespace AlibabaActuator

open CloudM

variable {R : Type}

/-- The `for` loop of `WaitForResult`, for at most `fuel` passes. -/
def waitLoop (name : String) (predicate : CloudM (Bool × Option R × Option GoError))
    (returnWhenError : Bool) (timeout endTime delaySecond : Int) : Nat → CloudM (Option R)
  | 0 => fun _ w => (.outOfFuel, w)
  | fuel + 1 => do
    let (satisfied, result, err) ← predicate
    match err.filter fun _ => returnWhenError with
    | some e => fail e
    | none =>
      if satisfied then pure result
      else do
        sleep delaySecond
        let t ← now
        if 0 ≤ timeout ∧ endTime < t then fail (.plain ("wait for " ++ name ++ " timeout"))
        else waitLoop name predicate returnWhenError timeout endTime delaySecond fuel

/-- `time.Duration(seconds) * time.Second`: the nanoseconds, as the `int64`
product wraps them onto `[-2^63, 2^63)`. -/
def durationOfSeconds (seconds : Int) : Int :=
  (seconds * 1000000000 + 9223372036854775808) % 18446744073709551616 - 9223372036854775808

/-- The most seconds a `time.Duration` holds. -/
def maxDurationSeconds : Int := 9223372036

theorem durationOfSeconds_eq {seconds : Int} (h0 : 0 ≤ seconds)
    (fits : seconds ≤ maxDurationSeconds) : durationOfSeconds seconds = seconds * 1000000000 := by
  unfold durationOfSeconds
  unfold maxDurationSeconds at fits
  omega

theorem durationOfSeconds_le {seconds : Int} (h0 : 0 ≤ seconds) :
    durationOfSeconds seconds ≤ seconds * 1000000000 := by
  unfold durationOfSeconds
  omega

/-- `WaitForResult(name, predicate, returnWhenError, delay, timeout)`. -/
def WaitForResult (name : String) (predicate : CloudM (Bool × Option R × Option GoError))
    (returnWhenError : Bool) (delay timeout : Int) (fuel : Nat) : CloudM (Option R) := do
  let start ← now
  waitLoop name predicate returnWhenError timeout (start + durationOfSeconds timeout)
    (durationOfSeconds delay) fuel

/-- How `WaitForResult` may end, with the world it ends in: `(r, nil)` right
after a predicate call that stopped with `r` and no error to return, a
predicate error right after the call that returned it when `returnWhenError`
is set, or the timeout error. -/
def WaitEnds (name : String) (predicate : CloudM (Bool × Option R × Option GoError))
    (returnWhenError : Bool) (c : Cloud) : Outcome (Option R) × World → Prop
  | (.ok r, w') => ∃ w₀ err, predicate c w₀ = (.ok (true, r, err), w') ∧
      (err = none ∨ returnWhenError = false)
  | (.error e, w') =>
      (returnWhenError = true ∧
        ∃ w₀ satisfied result, predicate c w₀ = (.ok (satisfied, result, some e), w')) ∨
      e = .plain ("wait for " ++ name ++ " timeout")
  | (.outOfFuel, _) => True

theorem filter_const_eq_some {err : Option GoError} {b : Bool} {e : GoError} :
    err.filter (fun _ => b) = some e ↔ err = some e ∧ b = true := by
  cases err <;> cases b <;> simp

theorem filter_const_eq_none {err : Option GoError} {b : Bool} :
    err.filter (fun _ => b) = none ↔ err = none ∨ b = false := by
  cases err <;> cases b <;> simp

/-! ### One pass -/

section Loop

variable {name : String} {predicate : CloudM (Bool × Option R × Option GoError)}
  {returnWhenError : Bool} {timeout endTime delaySecond : Int}

theorem waitLoop_succ_of_ok {fuel : Nat} {c : Cloud} {w w₁ : World} {satisfied : Bool}
    {result : Option R} {err : Option GoError}
    (h : predicate c w = (.ok (satisfied, result, err), w₁)) :
    waitLoop name predicate returnWhenError timeout endTime delaySecond (fuel + 1) c w =
      match err.filter fun _ => returnWhenError with
      | some e => (.error e, w₁)
      | none =>
        if satisfied then (.ok result, w₁)
        else
          let w₂ : World := { w₁ with clock := w₁.clock + max delaySecond 0 + c.oversleep w₁ }
          if 0 ≤ timeout ∧ endTime < w₂.clock then
            (.error (.plain ("wait for " ++ name ++ " timeout")), w₂)
          else waitLoop name predicate returnWhenError timeout endTime delaySecond fuel c w₂ := by
  rw [waitLoop, bind_ok h]
  dsimp only
  cases err.filter fun _ => returnWhenError with
  | some e => rfl
  | none =>
    dsimp only
    split_ifs with hsat htime
    · rfl
    · rw [bind_ok (sleep_run _ c w₁), bind_ok (now_run _ _)]
      dsimp only
      rw [if_pos htime]
      rfl
    · rw [bind_ok (sleep_run _ c w₁), bind_ok (now_run _ _)]
      dsimp only
      rw [if_neg htime]

/-! ### Enough fuel, and more changes nothing -/

variable (total : Total predicate)
include total

theorem waitLoop_add_fuel (fuel k : Nat) (c : Cloud) (w : World)
    (h : (waitLoop name predicate returnWhenError timeout endTime delaySecond fuel c w).1 ≠
      .outOfFuel) :
    waitLoop name predicate returnWhenError timeout endTime delaySecond (fuel + k) c w =
      waitLoop name predicate returnWhenError timeout endTime delaySecond fuel c w := by
  induction fuel generalizing w with
  | zero => exact absurd rfl h
  | succ fuel ih =>
    obtain ⟨⟨satisfied, result, err⟩, w₁, hp⟩ := total c w
    rw [Nat.add_right_comm, waitLoop_succ_of_ok hp, waitLoop_succ_of_ok hp] at *
    split at *
    · rfl
    · dsimp only at *
      split_ifs at * with hsat htime
      · rfl
      · rfl
      · exact ih _ h

theorem waitLoop_ends (fuel : Nat) (c : Cloud) (w : World) :
    WaitEnds name predicate returnWhenError c
      (waitLoop name predicate returnWhenError timeout endTime delaySecond fuel c w) := by
  induction fuel generalizing w with
  | zero => trivial
  | succ fuel ih =>
    obtain ⟨⟨satisfied, result, err⟩, w₁, hp⟩ := total c w
    rw [waitLoop_succ_of_ok hp]
    split
    · next e hfilter =>
      obtain ⟨rfl, hreturn⟩ := filter_const_eq_some.mp hfilter
      exact .inl ⟨hreturn, w, satisfied, result, hp⟩
    · next hfilter =>
      dsimp only
      split_ifs with hsat htime
      · exact ⟨w, err, hsat ▸ hp, filter_const_eq_none.mp hfilter⟩
      · exact .inr rfl
      · exact ih _

variable (monotone : Issues (fun _ => True) predicate) (htimeout : 0 ≤ timeout)
  (hdelay : 0 ≤ delaySecond)
include monotone htimeout hdelay

/-- One pass either ends the loop or sleeps and goes on, at least
`delaySecond` later and not yet past `endTime`. -/
theorem waitLoop_continues (fuel : Nat) (c : Cloud) (w : World) :
    (waitLoop name predicate returnWhenError timeout endTime delaySecond (fuel + 1) c w).1 ≠
        .outOfFuel ∨
      ∃ w₂ : World, w.clock + delaySecond ≤ w₂.clock ∧ w₂.clock ≤ endTime ∧
        waitLoop name predicate returnWhenError timeout endTime delaySecond (fuel + 1) c w =
          waitLoop name predicate returnWhenError timeout endTime delaySecond fuel c w₂ := by
  obtain ⟨⟨satisfied, result, err⟩, w₁, hp⟩ := total c w
  obtain ⟨-, -, -, hclock⟩ := monotone c w
  simp only [hp] at hclock
  rw [waitLoop_succ_of_ok hp]
  split
  · exact .inl nofun
  · dsimp only
    split_ifs with hsat htime
    · exact .inl nofun
    · exact .inl nofun
    · have := c.oversleep w₁
      exact .inr ⟨_, by dsimp only; omega, by dsimp only; omega, rfl⟩

theorem waitLoop_ne_outOfFuel (fuel : Nat) (c : Cloud) (w : World)
    (h : endTime < w.clock + ((fuel : Int) + 1) * delaySecond) :
    (waitLoop name predicate returnWhenError timeout endTime delaySecond (fuel + 1) c w).1 ≠
      .outOfFuel := by
  induction fuel generalizing w with
  | zero =>
    rcases waitLoop_continues total monotone htimeout hdelay 0 c w with done | ⟨w₂, later, before, -⟩
    · exact done
    · simp only [Nat.cast_zero, zero_add, one_mul] at h
      omega
  | succ fuel ih =>
    rcases waitLoop_continues total monotone htimeout hdelay (fuel + 1) c w with
      done | ⟨w₂, later, before, next⟩
    · exact done
    · rw [next]
      refine ih w₂ ?_
      have split_fuel : ((↑(fuel + 1) : Int) + 1) * delaySecond =
          ((fuel : Int) + 1) * delaySecond + delaySecond := by push_cast; ring
      omega

end Loop

theorem waitLoop_calls {name : String} {predicate : CloudM (Bool × Option R × Option GoError)}
    {returnWhenError : Bool} {timeout endTime delaySecond : Int} {Q : Call → Bool}
    (once : CallsAtMost Q 1 predicate) (fuel : Nat) :
    CallsAtMost Q fuel (waitLoop name predicate returnWhenError timeout endTime delaySecond fuel) := by
  induction fuel with
  | zero => exact .outOfFuel
  | succ fuel ih =>
    rw [waitLoop, Nat.add_comm fuel 1]
    refine .bind once fun ⟨satisfied, result, err⟩ => ?_
    dsimp only
    split
    · exact .fail _
    · split_ifs
      · exact .pure _
      · have rest : ∀ t : Int, CallsAtMost Q fuel (if 0 ≤ timeout ∧ endTime < t then
            fail (.plain ("wait for " ++ name ++ " timeout"))
          else waitLoop name predicate returnWhenError timeout endTime delaySecond fuel) := fun t => by
          split_ifs
          exacts [.fail _, ih]
        have sleeps : CallsAtMost Q 0 (sleep delaySecond) := .sleep _
        have reads : CallsAtMost Q 0 now := .now
        exact (CallsAtMost.bind sleeps fun _ => .bind reads rest).mono (by omega)

theorem Closed.waitLoop {P : (α : Type) → CloudM α → Prop} (h : Closed P) {name : String}
    {predicate : CloudM (Bool × Option R × Option GoError)} {returnWhenError : Bool}
    {timeout endTime delaySecond : Int} (hp : P _ predicate) (fuel : Nat) :
    P _ (AlibabaActuator.waitLoop name predicate returnWhenError timeout endTime delaySecond fuel) := by
  induction fuel with
  | zero => exact h.outOfFuel
  | succ fuel ih =>
    refine h.bind hp fun ⟨satisfied, result, err⟩ => ?_
    dsimp only
    split
    · exact h.fail _
    · split_ifs
      · exact h.pure _
      · exact h.bind (h.sleep _) fun _ => h.bind h.now fun _ => by
          split_ifs
          exacts [h.fail _, ih]

/-! ### `WaitForResult` -/

section WaitForResult

variable {name : String} {predicate : CloudM (Bool × Option R × Option GoError)}
  {returnWhenError : Bool} {delay timeout : Int}

/-- The number of passes `WaitForResult` can make. -/
def polls (delay timeout : Int) : Nat := (timeout / delay).toNat + 1

theorem WaitForResult_run (fuel : Nat) (c : Cloud) (w : World) :
    WaitForResult name predicate returnWhenError delay timeout fuel c w =
      waitLoop name predicate returnWhenError timeout (w.clock + durationOfSeconds timeout)
        (durationOfSeconds delay) fuel c w := rfl

variable (total : Total predicate)
include total

theorem WaitForResult_ends (fuel : Nat) (c : Cloud) (w : World) :
    WaitEnds name predicate returnWhenError c
      (WaitForResult name predicate returnWhenError delay timeout fuel c w) :=
  waitLoop_ends total fuel c w

variable (monotone : Issues (fun _ => True) predicate) (hdelay : 0 < delay)
  (fits : delay ≤ maxDurationSeconds) (htimeout : 0 ≤ timeout)
include monotone hdelay fits htimeout

theorem WaitForResult_ne_outOfFuel (c : Cloud) (w : World) :
    (WaitForResult name predicate returnWhenError delay timeout (polls delay timeout) c w).1 ≠
      .outOfFuel := by
  have sleeps := durationOfSeconds_eq hdelay.le fits
  refine waitLoop_ne_outOfFuel total monotone htimeout (by omega) _ c w ?_
  have quotient : (((timeout / delay).toNat : Nat) : Int) = timeout / delay :=
    Int.toNat_of_nonneg (Int.ediv_nonneg htimeout hdelay.le)
  have enough := Int.lt_ediv_add_one_mul_self timeout hdelay
  have ends := durationOfSeconds_le htimeout
  rw [quotient, sleeps]
  nlinarith

theorem WaitForResult_add_fuel (fuel : Nat) (hfuel : polls delay timeout ≤ fuel) :
    WaitForResult name predicate returnWhenError delay timeout fuel =
      WaitForResult name predicate returnWhenError delay timeout (polls delay timeout) := by
  funext c w
  obtain ⟨k, rfl⟩ := Nat.exists_eq_add_of_le hfuel
  exact waitLoop_add_fuel total _ k c w
    (WaitForResult_ne_outOfFuel total monotone hdelay fits htimeout c w)

end WaitForResult

/-! ### `waitForInstancesStatus` -/

/-- `InstanceDefaultTimeout`, in seconds. -/
def InstanceDefaultTimeout : Int := 900

/-- `DefaultWaitForInterval`, in seconds. -/
def DefaultWaitForInterval : Int := 5

/-- The predicate `waitForInstancesStatus` hands to `WaitForResult`. The
instances it collects are `&instance` of the range variable. -/
def instancesStatusPredicate (regionID : String) (instanceIds : List String)
    (instanceStatus : String) : CloudM (Bool × Option (List Instance) × Option GoError) := do
  match ← attempt (DescribeInstances ⟨regionID, some instanceIds, []⟩) with
  | .error err => pure (false, none, some err)
  | .ok response =>
    if response.length ≤ 0 then
      pure (true, none, some (.plain ("the instances " ++ goStrings instanceIds ++ " not found. ")))
    else
      let instances := rangeAppendAddr response fun i => i.status == instanceStatus
      if instances.length = instanceIds.length then pure (true, some instances, none)
      else pure (false, none, some (.plain ("the instances  " ++ goStrings instanceIds ++
        " state are not  the expected state  " ++ instanceStatus ++ " ")))

/-- `waitForInstancesStatus`: `none` is the `nil, nil` it returns when the
predicate stopped without instances. -/
def waitForInstancesStatus (regionID : String) (instanceIds : List String) (instanceStatus : String)
    (timeout : Int) (fuel : Nat) : CloudM (Option (List Instance)) :=
  WaitForResult ("Wait for the instances " ++ goStrings instanceIds ++ " state to change to " ++
      instanceStatus ++ " ")
    (instancesStatusPredicate regionID instanceIds instanceStatus) false DefaultWaitForInterval
    (if timeout ≤ 0 then InstanceDefaultTimeout else timeout) fuel

section Predicate

variable (regionID : String) (instanceIds : List String) (instanceStatus : String)

theorem instancesStatusPredicate_total :
    Total (instancesStatusPredicate regionID instanceIds instanceStatus) := by
  refine .bind (.attempt_clientCall _ _) fun response => ?_
  rcases response with err | response
  · exact .pure _
  · dsimp only
    split_ifs <;> exact .pure _

theorem instancesStatusPredicate_issues :
    Issues (fun call => call.isDescribeInstances) (instancesStatusPredicate regionID instanceIds instanceStatus) := by
  refine .bind (.attempt (.clientCall (by rfl) _)) fun response => ?_
  rcases response with err | response
  · exact .pure _
  · dsimp only
    split_ifs <;> exact .pure _

theorem instancesStatusPredicate_calls :
    CallsAtMost Call.isDescribeInstances 1 (instancesStatusPredicate regionID instanceIds instanceStatus) := by
  refine (CallsAtMost.bind (m := 0) (.attempt_clientCall _ _) fun response => ?_)
  rcases response with err | response
  · exact .pure _
  · dsimp only
    split_ifs <;> exact .pure _

/-- A predicate call that stops: its `DescribeInstances` call is the last call
of the world it leaves, and the answer is either empty (no instances) or has
as many instances in the state as there are ids, all read through the one
range variable, so each is the answer's last instance. -/
theorem instancesStatusPredicate_stops {c : Cloud} {w w' : World} {r : Option (List Instance)}
    {err : Option GoError}
    (h : instancesStatusPredicate regionID instanceIds instanceStatus c w = (.ok (true, r, err), w')) :
    w'.trace = w.trace ++ [.describeInstances ⟨regionID, some instanceIds, []⟩] ∧
      ∃ response, c.describeInstances w ⟨regionID, some instanceIds, []⟩ = .ok response ∧
        (response = [] ∧ r = none ∨
          ∃ last, response.getLast? = some last ∧
            (response.filter fun i => i.status == instanceStatus).length = instanceIds.length ∧
            r = some (List.replicate instanceIds.length last)) := by
  obtain ⟨a, w₁, ha, hf⟩ := bind_eq_ok h
  rw [DescribeInstances, attempt_clientCall_run, Prod.mk.injEq, Outcome.ok.injEq] at ha
  obtain ⟨rfl, rfl⟩ := ha
  rcases answer : c.describeInstances w ⟨regionID, some instanceIds, []⟩ with message | response
  · simp [answer, Except.mapError] at hf
  · simp only [answer, Except.mapError] at hf
    split_ifs at hf with empty counted <;>
      simp only [pure_run, Prod.mk.injEq, Outcome.ok.injEq, true_and, Bool.false_eq_true,
        false_and] at hf
    · obtain ⟨⟨rfl, -⟩, rfl⟩ := hf
      exact ⟨rfl, response, rfl, .inl ⟨List.length_eq_zero.mp (Nat.le_zero.mp empty), rfl⟩⟩
    · obtain ⟨⟨rfl, -⟩, rfl⟩ := hf
      have last := List.getLast?_eq_getLast response (List.ne_nil_of_length_pos (by omega))
      rw [rangeAppendAddr_eq_replicate last] at counted ⊢
      rw [List.length_replicate] at counted
      exact ⟨rfl, response, rfl, .inr ⟨_, last, counted, by rw [counted]⟩⟩

theorem Issues.waitForInstancesStatus (timeout : Int) (fuel : Nat) :
    Issues (fun call => call.isDescribeInstances)
      (AlibabaActuator.waitForInstancesStatus regionID instanceIds instanceStatus timeout fuel) :=
  .bind .now fun _ =>
    (Issues.closed _).waitLoop (instancesStatusPredicate_issues regionID instanceIds instanceStatus) fuel

theorem RecordsOnFailure.waitForInstancesStatus (timeout : Int) (fuel : Nat) :
    RecordsOnFailure (fun _ => False)
      (AlibabaActuator.waitForInstancesStatus regionID instanceIds instanceStatus timeout fuel) := by
  refine .bind .now fun _ =>
    (RecordsOnFailure.closed _).waitLoop (.bind (.attempt (.clientCall _ _)) fun response => ?_) fuel
  rcases response with err | response
  · exact .pure _
  · dsimp only
    split_ifs <;> exact .pure _

end Predicate

theorem waitForInstancesStatus_eq_ok {regionID : String} {instanceIds : List String}
    {instanceStatus : String} {timeout : Int} {fuel : Nat} {c : Cloud} {w w' : World}
    {result : Option (List Instance)}
    (h : waitForInstancesStatus regionID instanceIds instanceStatus timeout fuel c w = (.ok result, w')) :
    ∃ w₀ response,
      w'.trace = w₀.trace ++ [.describeInstances ⟨regionID, some instanceIds, []⟩] ∧
      c.describeInstances w₀ ⟨regionID, some instanceIds, []⟩ = .ok response ∧
      (response = [] ∧ result = none ∨
        ∃ last, response.getLast? = some last ∧
          (response.filter fun i => i.status == instanceStatus).length = instanceIds.length ∧
          result = some (List.replicate instanceIds.length last)) := by
  have ends : WaitEnds _ _ false c (waitForInstancesStatus regionID instanceIds instanceStatus timeout fuel c w) :=
    WaitForResult_ends (instancesStatusPredicate_total regionID instanceIds instanceStatus) fuel c w
  rw [h] at ends
  obtain ⟨w₀, err, stopped, -⟩ := ends
  obtain ⟨trace, response, answer, cases⟩ :=
    instancesStatusPredicate_stops regionID instanceIds instanceStatus stopped
  exact ⟨w₀, response, trace, answer, cases⟩

/-- How `waitForInstancesStatus` returns, read off the answer to its last call,
a `DescribeInstances` of the ids: `nil, nil` when the answer is empty (the
"not found" error is dropped, since `returnWhenError` is false), and
otherwise, when as many instances of the answer as ids are in the state, one
pointer per id, each reading the answer's last instance. Its only error is the
timeout. -/
theorem waitForInstancesStatus_ends (regionID : String) (instanceIds : List String)
    (instanceStatus : String) (timeout : Int) (fuel : Nat) (c : Cloud) (w : World) :
    match waitForInstancesStatus regionID instanceIds instanceStatus timeout fuel c w with
    | (.ok result, w') => ∃ w₀ response,
        w'.trace = w₀.trace ++ [.describeInstances ⟨regionID, some instanceIds, []⟩] ∧
        c.describeInstances w₀ ⟨regionID, some instanceIds, []⟩ = .ok response ∧
        (response = [] ∧ result = none ∨
          ∃ last, response.getLast? = some last ∧
            (response.filter fun i => i.status == instanceStatus).length = instanceIds.length ∧
            result = some (List.replicate instanceIds.length last))
    | (.error e, _) => e = .plain ("wait for " ++ ("Wait for the instances " ++
        goStrings instanceIds ++ " state to change to " ++ instanceStatus ++ " ") ++ " timeout")
    | (.outOfFuel, _) => True := by
  have ends : WaitEnds _ _ false c (waitForInstancesStatus regionID instanceIds instanceStatus timeout fuel c w) :=
    WaitForResult_ends (instancesStatusPredicate_total regionID instanceIds instanceStatus) fuel c w
  rcases run : waitForInstancesStatus regionID instanceIds instanceStatus timeout fuel c w with
    ⟨result | e | _, w'⟩
  · exact waitForInstancesStatus_eq_ok run
  · rw [run] at ends
    rcases ends with ⟨⟨⟩, -⟩ | rfl
    rfl
  · trivial

/-- The bound on one `WaitForResult` call: `polls delay timeout` passes are
enough and more fuel changes nothing; the call ends as `WaitEnds` says; and a
kind of cloud call the predicate makes at most once per call is made at most
`polls delay timeout` times. -/
def PollsBounded (name : String) (predicate : CloudM (Bool × Option R × Option GoError))
    (returnWhenError : Bool) (delay timeout : Int) : Prop :=
  (∀ c w, (WaitForResult name predicate returnWhenError delay timeout (polls delay timeout) c w).1 ≠
      .outOfFuel ∧
    WaitEnds name predicate returnWhenError c
      (WaitForResult name predicate returnWhenError delay timeout (polls delay timeout) c w)) ∧
  (∀ fuel, polls delay timeout ≤ fuel →
    WaitForResult name predicate returnWhenError delay timeout fuel =
      WaitForResult name predicate returnWhenError delay timeout (polls delay timeout)) ∧
  (∀ Q, CallsAtMost Q 1 predicate →
    CallsAtMost Q (polls delay timeout)
      (WaitForResult name predicate returnWhenError delay timeout (polls delay timeout)))

/-- The bound on `waitForInstancesStatus`: its `WaitForResult` call is
`PollsBounded`, it makes at most `timeout / 5 + 1` `DescribeInstances` calls,
and 181 with the default timeout. -/
def InstancesStatusPollsBounded : Prop :=
  ∀ regionID instanceIds instanceStatus (timeout : Int),
    let timeout' := if timeout ≤ 0 then InstanceDefaultTimeout else timeout
    PollsBounded ("Wait for the instances " ++ goStrings instanceIds ++ " state to change to " ++
        instanceStatus ++ " ")
      (instancesStatusPredicate regionID instanceIds instanceStatus) false DefaultWaitForInterval
      timeout' ∧
    CallsAtMost Call.isDescribeInstances (polls DefaultWaitForInterval timeout')
      (waitForInstancesStatus regionID instanceIds instanceStatus timeout
        (polls DefaultWaitForInterval timeout')) ∧
    (timeout ≤ 0 ∨ timeout = InstanceDefaultTimeout → polls DefaultWaitForInterval timeout' = 181)

theorem pollsBounded_of_total {name : String} {predicate : CloudM (Bool × Option R × Option GoError)}
    {returnWhenError : Bool} {delay timeout : Int} (hdelay : 0 < delay)
    (fits : delay ≤ maxDurationSeconds) (htimeout : 0 ≤ timeout)
    (monotone : Issues (fun _ => True) predicate) (total : Total predicate) :
    PollsBounded name predicate returnWhenError delay timeout :=
  ⟨fun c w => ⟨WaitForResult_ne_outOfFuel total monotone hdelay fits htimeout c w,
      WaitForResult_ends total _ c w⟩,
    WaitForResult_add_fuel total monotone hdelay fits htimeout,
    fun _ once c w => waitLoop_calls once _ c w⟩

theorem WaitForResult_polls_bounded (name : String)
    (predicate : CloudM (Bool × Option R × Option GoError)) (returnWhenError : Bool)
    (delay timeout : Int) (hdelay : 0 < delay) (fits : delay ≤ maxDurationSeconds)
    (htimeout : 0 ≤ timeout) (monotone : Issues (fun _ => True) predicate) (total : Total predicate) :
    PollsBounded name predicate returnWhenError delay timeout ∧ InstancesStatusPollsBounded := by
  refine ⟨pollsBounded_of_total hdelay fits htimeout monotone total,
    fun regionID instanceIds instanceStatus timeout => ?_⟩
  have timeout_nonneg : (0 : Int) ≤ if timeout ≤ 0 then InstanceDefaultTimeout else timeout := by
    split_ifs <;> first | decide | omega
  have pmono := (instancesStatusPredicate_issues regionID instanceIds instanceStatus).mono
    fun _ _ => trivial
  refine ⟨pollsBounded_of_total (by decide) (by decide) timeout_nonneg pmono
      (instancesStatusPredicate_total regionID instanceIds instanceStatus),
    fun c w => waitLoop_calls (instancesStatusPredicate_calls regionID instanceIds instanceStatus) _ c w,
    ?_⟩
  rintro (h | rfl)
  · simp only [h, if_true]
    rfl
  · rfl

theorem WaitForResult_polls_bounded_at_once :
    (0 : Int) < 1 ∧ (1 : Int) ≤ maxDurationSeconds ∧ (0 : Int) ≤ 0 ∧
      Issues (fun _ => True) (pure (true, some (), none) : CloudM (Bool × Option Unit × Option GoError)) ∧
      Total (pure (true, some (), none) : CloudM (Bool × Option Unit × Option GoError)) ∧
      PollsBounded "instance" (pure (true, some (), none)) false 1 0 ∧ InstancesStatusPollsBounded :=
  ⟨by decide, by decide, le_refl _, Issues.pure _, Total.pure _,
    WaitForResult_polls_bounded "instance" (pure (true, some (), none)) false 1 0 (by decide)
      (by decide) (le_refl _) (Issues.pure _) (Total.pure _)⟩

end AlibabaActuator
