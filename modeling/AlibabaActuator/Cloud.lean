import AlibabaActuator.Types

/-!
The cloud the actuator talks to through `alibabacloudClient.Client`, and the
monad the Go code of `instances.go` is written in here.

* `Call` — a request the client receives, with its payload. `World.trace` is
  the log of calls in the order they were issued; `World.clock` is the
  monotonic clock in nanoseconds; `World.failedInstanceCreates` is what
  `metrics.RegisterFailedInstanceCreate` recorded.
* `Cloud` — the cloud's answer to each API as a function of the world before
  the call, so of every call issued before it: any sequence of answers and
  errors is one `Cloud`. It also says how long each call takes and how much
  longer than asked each sleep lasts.
* `CloudM` — a computation of the actuator: from the cloud and the world, an
  `Outcome` (a value, a Go error, or `outOfFuel` when the bound of a modelled
  loop runs out, which is not a Go behaviour) and the new world. A Go error
  keeps the world the failing code left, calls and metrics included.
* `Issues P x` — `x` only appends calls satisfying `P` and never turns the
  clock back; it holds of every primitive and is closed under `bind`.
* `RecordsOnFailure L x` — `x` records no failed create when it returns a
  value, and at most one, labelled as `L` allows, when it does not.
* `Closed P` — `P` holds of the primitives and `bind` keeps it; `Issues` and
  `RecordsOnFailure` are such properties, so the loops and lookups are shown
  to keep both with one proof each.
-/

namespace AlibabaActuator

/-! ### Requests and responses -/

/-- `ecs.DescribeImagesRequest`, with the fields `getImageID` sets. -/
structure DescribeImagesRequest where
  imageId : String
  regionId : String
  showExpired : Bool
deriving DecidableEq, Repr

/-- `ecs.Image`. -/
structure Image where
  imageId : String
  status : String
deriving DecidableEq, Repr

/-- `ecs.DescribeSecurityGroupsRequest`. -/
structure DescribeSecurityGroupsRequest where
  vpcId : String
  regionId : String
  tag : List Tag
deriving DecidableEq, Repr

/-- `ecs.SecurityGroup`. -/
structure SecurityGroup where
  securityGroupId : String
deriving DecidableEq, Repr

/-- `vpc.DescribeVSwitchesRequest`. -/
structure DescribeVSwitchesRequest where
  regionId : String
  vpcId : String
  tag : List Tag
deriving DecidableEq, Repr

/-- `vpc.VSwitch`. -/
structure VSwitch where
  vSwitchId : String
deriving DecidableEq, Repr

/-- `resourcemanager.ListResourceGroupsRequest`. -/
structure ListResourceGroupsRequest where
  name : String
  regionId : String
deriving DecidableEq, Repr

/-- `resourcemanager.ResourceGroup`. -/
structure ResourceGroup where
  id : String
deriving DecidableEq, Repr

/-- `ecs.RunInstancesDataDisk`; an unset field is the empty string. -/
structure RunInstancesDataDisk where
  size : String
  category : String
  encrypted : String
  diskName : String
  snapshotId : String
  performanceLevel : String
  kmsKeyId : String
  deleteWithInstance : String
deriving DecidableEq, Repr

/-- `ecs.RunInstancesRequest`, with the fields `runInstances` sets; an unset
string is empty, an unset integer `none`. -/
structure RunInstancesRequest where
  regionId : String
  resourceGroupId : String
  securityGroupIds : List String
  tag : List Tag
  imageId : String
  instanceType : String
  instanceName : String
  hostName : String
  amount : Int
  minAmount : Int
  ramRoleName : String
  internetMaxBandwidthOut : Option Int
  internetMaxBandwidthIn : Option Int
  vSwitchId : String
  systemDiskCategory : String
  systemDiskSize : String
  systemDiskDiskName : String
  systemDiskPerformanceLevel : String
  dataDisk : Option (List RunInstancesDataDisk)
  userData : String
  tenancy : String
deriving DecidableEq, Repr

/-- `ecs.DescribeInstancesRequest`: `InstanceIds` is the JSON array of the ids,
`none` when unset. -/
structure DescribeInstancesRequest where
  regionId : String
  instanceIds : Option (List String)
  tag : List Tag
deriving DecidableEq, Repr

/-- `ecs.TagResourcesRequest`. -/
structure TagResourcesRequest where
  regionId : String
  tag : List Tag
  resourceId : List String
  resourceType : String
deriving DecidableEq, Repr

/-- `ecs.StopInstancesRequest`. -/
structure StopInstancesRequest where
  regionId : String
  instanceId : List String
deriving DecidableEq, Repr

/-- `ecs.InstanceResponse`, one entry of a `StopInstances` response. -/
structure InstanceResponse where
  instanceId : String
  code : String
  message : String
  previousStatus : String
  currentStatus : String
deriving DecidableEq, Repr

/-- A request the client receives. -/
inductive Call where
  | describeImages (request : DescribeImagesRequest)
  | describeSecurityGroups (request : DescribeSecurityGroupsRequest)
  | describeVSwitches (request : DescribeVSwitchesRequest)
  | listResourceGroups (request : ListResourceGroupsRequest)
  | runInstances (request : RunInstancesRequest)
  | describeInstances (request : DescribeInstancesRequest)
  | tagResources (request : TagResourcesRequest)
  | stopInstances (request : StopInstancesRequest)
deriving DecidableEq, Repr

/-- The call creates an instance. -/
def Call.isRunInstances : Call → Bool
  | .runInstances _ => true
  | _ => false

/-- The call reads instances. -/
def Call.isDescribeInstances : Call → Bool
  | .describeInstances _ => true
  | _ => false

/-- The call is one of the read-only lookups `runInstances` makes first. -/
def Call.isLookup : Call → Bool
  | .describeImages _ | .describeSecurityGroups _ | .describeVSwitches _ | .listResourceGroups _ => true
  | _ => false

theorem Call.isRunInstances_of_isLookup {call : Call} (h : call.isLookup) :
    call.isRunInstances = false := by
  cases call <;> first | rfl | cases h

theorem Call.isRunInstances_of_isDescribeInstances {call : Call} (h : call.isDescribeInstances) :
    call.isRunInstances = false := by
  cases call <;> first | rfl | cases h

/-- The call writes tags. -/
def Call.isTagResources : Call → Bool
  | .tagResources _ => true
  | _ => false

/-! ### The world and the cloud -/

/-- `metrics.MachineLabels`. -/
structure MachineLabels where
  name : String
  «namespace» : String
  reason : String
deriving DecidableEq, Repr

/-- What the actuator's calls change. -/
structure World where
  trace : List Call
  clock : Int
  failedInstanceCreates : List MachineLabels
deriving DecidableEq, Repr

/-- The cloud's answers; a client error is its message. -/
structure Cloud where
  describeImages : World → DescribeImagesRequest → Except String (List Image)
  describeSecurityGroups : World → DescribeSecurityGroupsRequest → Except String (List SecurityGroup)
  describeVSwitches : World → DescribeVSwitchesRequest → Except String (List VSwitch)
  listResourceGroups : World → ListResourceGroupsRequest → Except String (List ResourceGroup)
  runInstances : World → RunInstancesRequest → Except String (Option (List String))
  describeInstances : World → DescribeInstancesRequest → Except String (List Instance)
  tagResources : World → TagResourcesRequest → Except String Unit
  stopInstances : World → StopInstancesRequest → Except String (Option (List InstanceResponse))
  latency : World → Nat
  oversleep : World → Nat

/-- How a computation ends. -/
inductive Outcome (α : Type) where
  | ok (value : α)
  | error (err : GoError)
  | outOfFuel
deriving DecidableEq, Repr

/-! ### The monad -/

/-- A computation of the actuator against a cloud. -/
def CloudM (α : Type) : Type := Cloud → World → Outcome α × World

namespace CloudM

variable {α β : Type}

instance : Monad CloudM where
  pure a := fun _ w => (.ok a, w)
  bind x f := fun c w =>
    match x c w with
    | (.ok a, w') => f a c w'
    | (.error e, w') => (.error e, w')
    | (.outOfFuel, w') => (.outOfFuel, w')

/-- `return nil, err`. -/
def fail (err : GoError) : CloudM α := fun _ w => (.error err, w)

/-- `if err != nil { ... }` after a call: `handler` runs on a Go error. -/
def catchGo (x : CloudM α) (handler : GoError → CloudM α) : CloudM α := fun c w =>
  match x c w with
  | (.error e, w') => handler e c w'
  | r => r

@[simp] theorem pure_run (a : α) (c : Cloud) (w : World) : (pure a : CloudM α) c w = (.ok a, w) :=
  rfl

@[simp] theorem fail_run (err : GoError) (c : Cloud) (w : World) :
    (fail err : CloudM α) c w = (.error err, w) := rfl

theorem bind_run (x : CloudM α) (f : α → CloudM β) (c : Cloud) (w : World) :
    (x >>= f) c w =
      match x c w with
      | (.ok a, w') => f a c w'
      | (.error e, w') => (.error e, w')
      | (.outOfFuel, w') => (.outOfFuel, w') := rfl

theorem bind_ok {x : CloudM α} {c : Cloud} {w w' : World} {a : α} (h : x c w = (.ok a, w'))
    (f : α → CloudM β) : (x >>= f) c w = f a c w' := by
  rw [bind_run, h]

theorem bind_error {x : CloudM α} {c : Cloud} {w w' : World} {e : GoError}
    (h : x c w = (.error e, w')) (f : α → CloudM β) : (x >>= f) c w = (.error e, w') := by
  rw [bind_run, h]

theorem catchGo_ok {x : CloudM α} {c : Cloud} {w w' : World} {a : α} (h : x c w = (.ok a, w'))
    (handler : GoError → CloudM α) : (x.catchGo handler) c w = (.ok a, w') := by
  simp [catchGo, h]

theorem catchGo_error {x : CloudM α} {c : Cloud} {w w' : World} {e : GoError}
    (h : x c w = (.error e, w')) (handler : GoError → CloudM α) :
    (x.catchGo handler) c w = handler e c w' := by
  simp [catchGo, h]

theorem bind_eq_ok {x : CloudM α} {f : α → CloudM β} {c : Cloud} {w w' : World} {b : β}
    (h : (x >>= f) c w = (.ok b, w')) : ∃ a w₁, x c w = (.ok a, w₁) ∧ f a c w₁ = (.ok b, w') := by
  rw [bind_run] at h
  rcases e : x c w with ⟨_ | _ | _, w₁⟩ <;> rw [e] at h
  · exact ⟨_, _, rfl, h⟩
  all_goals cases h

theorem catchGo_fail_eq_ok {x : CloudM α} {g : GoError → GoError} {c : Cloud} {w w' : World} {a : α}
    (h : (x.catchGo fun e => fail (g e)) c w = (.ok a, w')) : x c w = (.ok a, w') := by
  unfold catchGo at h
  split at h
  · cases h
  · exact h

theorem bind_pure_world (x : CloudM α) (f : α → β) (c : Cloud) (w : World) :
    ((x >>= fun a => pure (f a)) c w).2 = (x c w).2 := by
  rw [bind_run]
  rcases x c w with ⟨_ | _ | _, w'⟩ <;> rfl

theorem catchGo_fail_world (x : CloudM α) (g : GoError → GoError) (c : Cloud) (w : World) :
    ((x.catchGo fun e => fail (g e)) c w).2 = (x c w).2 := by
  unfold catchGo
  rcases x c w with ⟨_ | _ | _, w'⟩ <;> rfl

theorem catchGo_eq_ok_of_fails {x : CloudM α} {handler : GoError → CloudM α} {c : Cloud}
    {w w' : World} {a : α} (fails : ∀ e c w b w', handler e c w ≠ (.ok b, w'))
    (h : (x.catchGo handler) c w = (.ok a, w')) : x c w = (.ok a, w') := by
  unfold catchGo at h
  split at h
  · exact (fails _ _ _ _ _ h).elim
  · exact h

@[simp] theorem fail_bind (err : GoError) (f : α → CloudM β) : fail err >>= f = fail err := rfl

@[simp] theorem map_fail (err : GoError) (f : α → β) : f <$> fail err = fail err := rfl

/-- `v, err := f()` when the caller inspects `err` itself: a Go error becomes a
value. -/
def attempt (x : CloudM α) : CloudM (Except GoError α) := fun c w =>
  match x c w with
  | (.ok a, w') => (.ok (.ok a), w')
  | (.error e, w') => (.ok (.error e), w')
  | (.outOfFuel, w') => (.outOfFuel, w')

theorem bind_bind (x : CloudM α) (f : α → CloudM β) {γ : Type} (g : β → CloudM γ) :
    x >>= f >>= g = x >>= fun a => f a >>= g := by
  funext c w
  simp only [bind_run]
  rcases x c w with ⟨_ | _ | _, w'⟩ <;> rfl

instance : LawfulMonad CloudM :=
  LawfulMonad.mk' CloudM
    (fun x => by
      funext c w
      show (x >>= fun a => pure a) c w = x c w
      rw [bind_run]
      rcases x c w with ⟨_ | _ | _, w'⟩ <;> rfl)
    (fun _ _ => rfl) (fun x f g => bind_bind x f g)

end CloudM

open CloudM

/-! ### Primitives -/

/-- One client call: it is logged and takes the cloud's latency, and the cloud
answers as it does in the world before the call. -/
def clientCall {α : Type} (record : Call) (answer : Cloud → World → Except String α) : CloudM α :=
  fun c w =>
    let w' := { w with trace := w.trace ++ [record], clock := w.clock + c.latency w }
    match answer c w with
    | .ok a => (.ok a, w')
    | .error message => (.error (.plain message), w')

/-- `client.DescribeImages`. -/
def DescribeImages (request : DescribeImagesRequest) : CloudM (List Image) :=
  clientCall (.describeImages request) fun c w => c.describeImages w request

/-- `client.DescribeSecurityGroups`. -/
def DescribeSecurityGroups (request : DescribeSecurityGroupsRequest) : CloudM (List SecurityGroup) :=
  clientCall (.describeSecurityGroups request) fun c w => c.describeSecurityGroups w request

/-- `client.DescribeVSwitches`. -/
def DescribeVSwitches (request : DescribeVSwitchesRequest) : CloudM (List VSwitch) :=
  clientCall (.describeVSwitches request) fun c w => c.describeVSwitches w request

/-- `client.ListResourceGroups`. -/
def ListResourceGroups (request : ListResourceGroupsRequest) : CloudM (List ResourceGroup) :=
  clientCall (.listResourceGroups request) fun c w => c.listResourceGroups w request

/-- `client.RunInstances`; `none` is a nil response. -/
def RunInstances (request : RunInstancesRequest) : CloudM (Option (List String)) :=
  clientCall (.runInstances request) fun c w => c.runInstances w request

/-- `client.DescribeInstances`. -/
def DescribeInstances (request : DescribeInstancesRequest) : CloudM (List Instance) :=
  clientCall (.describeInstances request) fun c w => c.describeInstances w request

/-- `client.TagResources`. -/
def TagResources (request : TagResourcesRequest) : CloudM Unit :=
  clientCall (.tagResources request) fun c w => c.tagResources w request

/-- `client.StopInstances`; `none` is a nil response. -/
def StopInstances (request : StopInstancesRequest) : CloudM (Option (List InstanceResponse)) :=
  clientCall (.stopInstances request) fun c w => c.stopInstances w request

/-- `time.Now()`. -/
def now : CloudM Int := fun _ w => (.ok w.clock, w)

/-- `time.Sleep(d)`: at least `d` nanoseconds pass, none when `d` is not
positive. -/
def sleep (d : Int) : CloudM Unit := fun c w =>
  (.ok (), { w with clock := w.clock + max d 0 + c.oversleep w })

/-- `metrics.RegisterFailedInstanceCreate`. -/
def registerFailedInstanceCreate (labels : MachineLabels) : CloudM Unit := fun _ w =>
  (.ok (), { w with failedInstanceCreates := w.failedInstanceCreates ++ [labels] })

@[simp] theorem now_run (c : Cloud) (w : World) : now c w = (.ok w.clock, w) := rfl

@[simp] theorem sleep_run (d : Int) (c : Cloud) (w : World) :
    sleep d c w = (.ok (), { w with clock := w.clock + max d 0 + c.oversleep w }) := rfl

theorem clientCall_run {α : Type} (record : Call) (answer : Cloud → World → Except String α)
    (c : Cloud) (w : World) :
    clientCall record answer c w =
      ((match answer c w with
        | .ok a => .ok a
        | .error message => .error (.plain message)),
        { w with trace := w.trace ++ [record], clock := w.clock + c.latency w }) := by
  unfold clientCall
  split <;> rfl

theorem attempt_clientCall_run {α : Type} (record : Call) (answer : Cloud → World → Except String α)
    (c : Cloud) (w : World) :
    CloudM.attempt (clientCall record answer) c w =
      (.ok ((answer c w).mapError GoError.plain),
        { w with trace := w.trace ++ [record], clock := w.clock + c.latency w }) := by
  unfold CloudM.attempt
  rw [clientCall_run]
  cases answer c w <;> rfl

/-! ### What a computation may call -/

/-- `w'` extends `w` by calls satisfying `P`, the clock not turned back. -/
def Extends (P : Call → Prop) (w w' : World) : Prop :=
  ∃ calls, w'.trace = w.trace ++ calls ∧ (∀ call ∈ calls, P call) ∧ w.clock ≤ w'.clock

theorem Extends.refl {P : Call → Prop} (w : World) : Extends P w w :=
  ⟨[], by simp, by simp, Int.le_refl _⟩

theorem Extends.trans {P : Call → Prop} {w₁ w₂ w₃ : World} (h₁ : Extends P w₁ w₂)
    (h₂ : Extends P w₂ w₃) : Extends P w₁ w₃ := by
  obtain ⟨calls, trace, mem, clock⟩ := h₁
  obtain ⟨calls', trace', mem', clock'⟩ := h₂
  refine ⟨calls ++ calls', by simp [trace', trace], fun call hc => ?_, Int.le_trans clock clock'⟩
  rcases List.mem_append.mp hc with hc | hc
  exacts [mem call hc, mem' call hc]

theorem Extends.mono {P Q : Call → Prop} {w w' : World} (h : Extends P w w')
    (hPQ : ∀ call, P call → Q call) : Extends Q w w' := by
  obtain ⟨calls, trace, mem, clock⟩ := h
  exact ⟨calls, trace, fun call hc => hPQ call (mem call hc), clock⟩

/-- `x` only appends calls satisfying `P` and never turns the clock back. -/
def Issues {α : Type} (P : Call → Prop) (x : CloudM α) : Prop :=
  ∀ c w, Extends P w (x c w).2

namespace Issues

variable {α β : Type} {P : Call → Prop}

theorem pure (a : α) : Issues P (Pure.pure a : CloudM α) := fun _ w => .refl w

theorem fail (err : GoError) : Issues P (CloudM.fail err : CloudM α) := fun _ w => .refl w

theorem bind {x : CloudM α} {f : α → CloudM β} (hx : Issues P x) (hf : ∀ a, Issues P (f a)) :
    Issues P (x >>= f) := fun c w => by
  have first := hx c w
  rw [bind_run]
  rcases e : x c w with ⟨_ | _ | _, w'⟩ <;> rw [e] at first
  exacts [first.trans (hf _ c w'), first, first]

theorem catchGo {x : CloudM α} {handler : GoError → CloudM α} (hx : Issues P x)
    (hh : ∀ e, Issues P (handler e)) : Issues P (x.catchGo handler) := fun c w => by
  have first := hx c w
  unfold CloudM.catchGo
  rcases e : x c w with ⟨_ | _ | _, w'⟩ <;> rw [e] at first
  exacts [first, first.trans (hh _ c w'), first]

theorem clientCall {record : Call} (h : P record) (answer : Cloud → World → Except String α) :
    Issues P (AlibabaActuator.clientCall record answer) := fun c w =>
  ⟨[record], by simp [clientCall_run], by simpa using h, by simp only [clientCall_run]; omega⟩

theorem now : Issues P AlibabaActuator.now := fun _ w => .refl w

theorem sleep (d : Int) : Issues P (AlibabaActuator.sleep d) := fun c w =>
  ⟨[], by simp, by simp, by simp only [sleep_run]; omega⟩

theorem registerFailedInstanceCreate (labels : MachineLabels) :
    Issues P (AlibabaActuator.registerFailedInstanceCreate labels) := fun _ w =>
  ⟨[], by simp [AlibabaActuator.registerFailedInstanceCreate], by simp, Int.le_refl _⟩

theorem attempt {x : CloudM α} (hx : Issues P x) : Issues P (CloudM.attempt x) := fun c w => by
  have first := hx c w
  unfold CloudM.attempt
  rcases e : x c w with ⟨_ | _ | _, w'⟩ <;> rw [e] at first <;> exact first

theorem mono {Q : Call → Prop} {x : CloudM α} (h : Issues P x) (hPQ : ∀ call, P call → Q call) :
    Issues Q x := fun c w => (h c w).mono hPQ

end Issues

/-! ### What a computation may return -/

/-- Every value `x` returns satisfies `Q`. -/
def Returns {α : Type} (Q : α → Prop) (x : CloudM α) : Prop :=
  ∀ c w a w', x c w = (.ok a, w') → Q a

namespace Returns

variable {α β : Type} {Q : α → Prop} {R : β → Prop}

theorem pure {a : α} (h : Q a) : Returns Q (Pure.pure a : CloudM α) := by
  rintro c w a' w' ⟨⟩
  exact h

theorem fail (err : GoError) : Returns Q (CloudM.fail err : CloudM α) := by
  rintro c w a w' ⟨⟩

theorem true (x : CloudM α) : Returns (fun _ => True) x := fun _ _ _ _ _ => trivial

theorem bind {x : CloudM α} {f : α → CloudM β} (hx : Returns Q x) (hf : ∀ a, Q a → Returns R (f a)) :
    Returns R (x >>= f) := fun c w b w' h => by
  rw [bind_run] at h
  rcases e : x c w with ⟨_ | _ | _, w₁⟩ <;> rw [e] at h
  · exact hf _ (hx c w _ _ e) c w₁ b w' h
  all_goals cases h

end Returns

/-- `x` always returns a value: Go code without an error return. -/
def Total {α : Type} (x : CloudM α) : Prop := ∀ c w, ∃ a w', x c w = (.ok a, w')

namespace Total

variable {α β : Type}

theorem pure (a : α) : Total (Pure.pure a : CloudM α) := fun _ w => ⟨a, w, rfl⟩

theorem bind {x : CloudM α} {f : α → CloudM β} (hx : Total x) (hf : ∀ a, Total (f a)) :
    Total (x >>= f) := fun c w => by
  obtain ⟨a, w', h⟩ := hx c w
  rw [bind_ok h]
  exact hf a c w'

theorem attempt_clientCall (record : Call) (answer : Cloud → World → Except String α) :
    Total (CloudM.attempt (clientCall record answer)) := fun c w => by
  unfold CloudM.attempt
  rw [clientCall_run]
  cases answer c w <;> exact ⟨_, _, rfl⟩

end Total

/-! ### How many calls of a kind -/

/-- `x` appends at most `n` calls satisfying `Q`. -/
def CallsAtMost {α : Type} (Q : Call → Bool) (n : Nat) (x : CloudM α) : Prop :=
  ∀ c w, ∃ calls, (x c w).2.trace = w.trace ++ calls ∧ calls.countP Q ≤ n

namespace CallsAtMost

variable {α β : Type} {Q : Call → Bool} {n m : Nat}

theorem mono {x : CloudM α} (h : CallsAtMost Q n x) (hnm : n ≤ m) : CallsAtMost Q m x :=
  fun c w => (h c w).imp fun _ ⟨trace, count⟩ => ⟨trace, count.trans hnm⟩

theorem pure (a : α) : CallsAtMost Q n (Pure.pure a : CloudM α) := fun _ w =>
  ⟨[], by simp, by simp⟩

theorem fail (err : GoError) : CallsAtMost Q n (CloudM.fail err : CloudM α) := fun _ w =>
  ⟨[], by simp, by simp⟩

theorem outOfFuel : CallsAtMost Q n (fun _ w => (.outOfFuel, w) : CloudM α) := fun _ w =>
  ⟨[], by simp, by simp⟩

theorem now : CallsAtMost Q n AlibabaActuator.now := fun _ w => ⟨[], by simp, by simp⟩

theorem sleep (d : Int) : CallsAtMost Q n (AlibabaActuator.sleep d) := fun _ w =>
  ⟨[], by simp, by simp⟩

theorem bind {x : CloudM α} {f : α → CloudM β} (hx : CallsAtMost Q n x)
    (hf : ∀ a, CallsAtMost Q m (f a)) : CallsAtMost Q (n + m) (x >>= f) := fun c w => by
  obtain ⟨calls, trace, count⟩ := hx c w
  rw [bind_run]
  rcases e : x c w with ⟨_ | _ | _, w'⟩ <;> rw [e] at trace
  · obtain ⟨calls', trace', count'⟩ := hf _ c w'
    exact ⟨calls ++ calls', by rw [trace', trace, List.append_assoc], by
      rw [List.countP_append]; omega⟩
  all_goals exact ⟨calls, trace, by omega⟩

theorem attempt_clientCall (record : Call) (answer : Cloud → World → Except String α) :
    CallsAtMost Q 1 (CloudM.attempt (clientCall record answer)) := fun c w => by
  refine ⟨[record], ?_, by simp [List.countP_cons]; split <;> simp⟩
  unfold CloudM.attempt
  rw [clientCall_run]
  cases answer c w <;> rfl

end CallsAtMost

/-- Continuations that agree on every value `x` returns give the same program. -/
theorem bind_congr_of_returns {α β : Type} {Q : α → Prop} {x : CloudM α} {f g : α → CloudM β}
    (hx : Returns Q x) (hfg : ∀ a, Q a → f a = g a) : x >>= f = x >>= g := by
  funext c w
  simp only [bind_run]
  rcases e : x c w with ⟨_ | _ | _, w'⟩
  · exact congrFun (congrFun (hfg _ (hx c w _ _ e)) c) w'
  all_goals rfl

/-! ### Failed-create metrics -/

/-- `x` adds nothing to `failedInstanceCreates` when it returns a value, and at
most one entry, satisfying `L`, when it does not. With `L` false, `x` never
records. -/
def RecordsOnFailure {α : Type} (L : MachineLabels → Prop) (x : CloudM α) : Prop :=
  ∀ c w, match x c w with
    | (.ok _, w') => w'.failedInstanceCreates = w.failedInstanceCreates
    | (_, w') => w'.failedInstanceCreates = w.failedInstanceCreates ∨
        ∃ l, L l ∧ w'.failedInstanceCreates = w.failedInstanceCreates ++ [l]

namespace RecordsOnFailure

variable {α β : Type} {L : MachineLabels → Prop}

theorem pure (a : α) : RecordsOnFailure L (Pure.pure a : CloudM α) := fun _ _ => rfl

theorem fail (err : GoError) : RecordsOnFailure L (CloudM.fail err : CloudM α) :=
  fun _ _ => Or.inl rfl

theorem now : RecordsOnFailure L AlibabaActuator.now := fun _ _ => rfl

theorem sleep (d : Int) : RecordsOnFailure L (AlibabaActuator.sleep d) := fun _ _ => rfl

theorem clientCall (record : Call) (answer : Cloud → World → Except String α) :
    RecordsOnFailure L (AlibabaActuator.clientCall record answer) := fun c w => by
  rw [clientCall_run]
  cases answer c w
  exacts [Or.inl rfl, rfl]

/-- `registerFailedInstanceCreate` followed by a failure records once. -/
theorem registerFailedInstanceCreate_fail {labels : MachineLabels} (h : L labels) (err : GoError) :
    RecordsOnFailure L
      (AlibabaActuator.registerFailedInstanceCreate labels >>= fun _ => CloudM.fail err : CloudM α) :=
  fun _ _ => Or.inr ⟨labels, h, rfl⟩

theorem bind {x : CloudM α} {f : α → CloudM β} (hx : RecordsOnFailure L x)
    (hf : ∀ a, RecordsOnFailure L (f a)) : RecordsOnFailure L (x >>= f) := fun c w => by
  have hx := hx c w
  rw [bind_run]
  generalize x c w = r at hx ⊢
  rcases r with ⟨a | _ | _, w₁⟩
  · have hf := hf a c w₁
    dsimp only at hx ⊢
    generalize f a c w₁ = r at hf ⊢
    rcases r with ⟨_ | _ | _, w₂⟩ <;> (dsimp only at hf ⊢; rw [hx] at hf; exact hf)
  all_goals exact hx

/-- A handler that may record, after a computation that never does. -/
theorem catchGo_silent {x : CloudM α} {handler : GoError → CloudM α}
    (hx : RecordsOnFailure (fun _ => False) x) (hh : ∀ e, RecordsOnFailure L (handler e)) :
    RecordsOnFailure L (x.catchGo handler) := fun c w => by
  have hx := hx c w
  unfold CloudM.catchGo
  generalize x c w = r at hx ⊢
  rcases r with ⟨_ | err | _, w₁⟩
  · exact hx
  · have keep : w₁.failedInstanceCreates = w.failedInstanceCreates := by simpa using hx
    have hh := hh err c w₁
    dsimp only
    generalize handler err c w₁ = r at hh ⊢
    rcases r with ⟨_ | _ | _, w₂⟩ <;> (dsimp only at hh ⊢; rw [keep] at hh; exact hh)
  · exact Or.inl (by simpa using hx)

/-- A handler that only fails. -/
theorem catchGo_fail {x : CloudM α} (hx : RecordsOnFailure L x) (g : GoError → GoError) :
    RecordsOnFailure L (x.catchGo fun e => CloudM.fail (g e)) := fun c w => by
  have hx := hx c w
  unfold CloudM.catchGo
  generalize x c w = r at hx ⊢
  rcases r with ⟨_ | _ | _, w₁⟩ <;> exact hx

theorem attempt {x : CloudM α} (hx : RecordsOnFailure (fun _ => False) x) :
    RecordsOnFailure L (CloudM.attempt x) := fun c w => by
  have hx := hx c w
  unfold CloudM.attempt
  generalize x c w = r at hx ⊢
  rcases r with ⟨_ | _ | _, w₁⟩
  exacts [hx, by simpa using hx, Or.inl (by simpa using hx)]

end RecordsOnFailure

/-! ### Properties every step keeps -/

/-- A property of computations that holds of `pure`, `fail`, `now`, `sleep`
and of a loop out of fuel, and that `bind` keeps. What the loops and the
lookups keep is proved once for every such property. -/
structure Closed (P : (α : Type) → CloudM α → Prop) : Prop where
  pure : ∀ {α : Type} (a : α), P α (Pure.pure a)
  fail : ∀ {α : Type} (err : GoError), P α (CloudM.fail err)
  outOfFuel : ∀ {α : Type}, P α fun _ w => (.outOfFuel, w)
  now : P Int now
  sleep : ∀ d, P Unit (sleep d)
  bind : ∀ {α β : Type} {x : CloudM α} {f : α → CloudM β}, P α x → (∀ a, P β (f a)) →
    P β (x >>= f)

theorem Issues.closed (P : Call → Prop) : Closed fun _ => Issues P :=
  ⟨Issues.pure, Issues.fail, fun _ w => .refl w, Issues.now, Issues.sleep, Issues.bind⟩

theorem RecordsOnFailure.closed (L : MachineLabels → Prop) : Closed fun _ => RecordsOnFailure L :=
  ⟨.pure, .fail, fun _ _ => Or.inl rfl, .now, .sleep, .bind⟩

end AlibabaActuator
