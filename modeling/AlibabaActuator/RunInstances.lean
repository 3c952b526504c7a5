import AlibabaActuator.Resolve
import AlibabaActuator.Wait
import AlibabaActuator.Instances

/-!
`runInstances` of `instances.go`: resolve the image, the security groups, the
vswitch, the cluster ID, the resource group and the tenancy; send one
`RunInstances` request; wait for the instance to be `Running`.

The Go function is one sequential body; it is split here at the
`RunInstances` call, into `prepareRunInstances` (everything before it, which
only reads) and `createInstance` (the call and the wait).

Main results:

* `Issues.prepareRunInstances` — before `RunInstances`, only lookups;
* `prepareRunInstances_eq_ok` — the request is built only when all six
  steps succeeded, and from what they returned;
* `createInstance_trace` — `createInstance` sends the request, then only polls;
* `runInstances_creates_once` — so `runInstances` sends at most one
  `RunInstances` request, after lookups only, and only once all six steps
  succeeded;
* `runInstances_records_failure_once` — a failed create is counted at most
  once, for the machine, and a successful one never;
* `runInstances_no_security_group_invalid` — a `Tags` security-group
  reference that selects no group makes `runInstances` fail as an invalid
  configuration, with the security-group error once the image is found,
  having made lookups only;
* `runInstances_returns_last_described` — the instance returned is the last
  instance of the final `DescribeInstances` answer, whose one `Running`
  instance may be another;
* `runInstances_returns_stopped_instance` — the instance returned is read
  through `&instance` of the range variable of `waitForInstancesStatus`'
  predicate: for the answer `[Running A, Stopped B]` it is `B`.
-/

namespace AlibabaActuator

open CloudM

/-! ### The request -/

/-- The `RunInstancesDataDisk` built from one entry of `DataDisks`; an unset
string is empty. -/
def runInstancesDataDisk (E : Enumerations) (dataDisk : DataDiskProperties) :
    RunInstancesDataDisk where
  size := toString dataDisk.size
  category := dataDisk.category
  encrypted := toString (decide (dataDisk.diskEncryption = E.AlibabaDiskEncryptionEnabled))
  diskName := dataDisk.name
  snapshotId := dataDisk.snapshotID
  performanceLevel := dataDisk.performanceLevel
  kmsKeyId := dataDisk.kmsKeyID
  deleteWithInstance := if dataDisk.diskPreservation = E.DeleteWithInstance then toString true else ""

/-- The tenancy switch of `runInstances`: the tenancy sent, or `none` for its
`default` branch. -/
def instanceTenancy (E : Enumerations) (tenancy : String) : Option String :=
  if tenancy = "" then some E.DefaultTenancy
  else if tenancy = E.DefaultTenancy ∨ tenancy = E.HostTenancy then some tenancy
  else none

/-- The request `runInstances` sends, from what its lookups returned. -/
def runInstancesRequest (E : Enumerations) (K : TagConstants) (machine : Machine)
    (mpc : ProviderConfig) (userData imageID : String) (securityGroupIDs : List String)
    (vSwitchID clusterID groupId tenancy : String) : RunInstancesRequest where
  regionId := mpc.regionID
  resourceGroupId := groupId
  securityGroupIds := securityGroupIDs
  tag := covertToRunInstancesTag (buildTagList K machine.name clusterID mpc.tags)
  imageId := imageID
  instanceType := mpc.instanceType
  instanceName := machine.name
  hostName := machine.name
  amount := 1
  minAmount := 1
  ramRoleName := mpc.ramRoleName
  internetMaxBandwidthOut :=
    if mpc.bandwidth.internetMaxBandwidthOut > 0 then some mpc.bandwidth.internetMaxBandwidthOut
    else none
  internetMaxBandwidthIn :=
    if mpc.bandwidth.internetMaxBandwidthIn ≠ 0 then some mpc.bandwidth.internetMaxBandwidthIn
    else none
  vSwitchId := vSwitchID
  systemDiskCategory := mpc.systemDisk.category
  systemDiskSize := toString mpc.systemDisk.size
  systemDiskDiskName := mpc.systemDisk.name
  systemDiskPerformanceLevel := mpc.systemDisk.performanceLevel
  dataDisk :=
    if mpc.dataDisks.length > 0 then some (mpc.dataDisks.map (runInstancesDataDisk E)) else none
  userData := userData
  tenancy := tenancy

/-! ### `runInstances` -/

/-- `return nil, mapierrors.InvalidMachineConfiguration("context: %v", err)`. -/
def invalidConfiguration {α : Type} (context : String) (err : GoError) : CloudM α :=
  fail (.invalidMachineConfiguration (context ++ ": " ++ err.error))

/-- The part of `runInstances` before the `RunInstances` call. -/
def prepareRunInstances (E : Enumerations) (K : TagConstants) (machine : Machine)
    (mpc : ProviderConfig) (userData : String) : CloudM RunInstancesRequest := do
  let imageID ← (getImageID machine.key mpc).catchGo (invalidConfiguration "error getting ImageID")
  let securityGroupIDs ← (getSecurityGroupIDs machine.key mpc).catchGo
    (invalidConfiguration "error getting security groups ID")
  let vSwitchID ← (getVSwitchID machine.key mpc).catchGo
    (invalidConfiguration "error getting vswitch ID")
  match getClusterID machine with
  | none => fail (.invalidMachineConfiguration
      ("Unable to get cluster ID for machine: " ++ quote machine.name))
  | some clusterID => do
    let groupId ← (getResourceGroupId machine.key mpc).catchGo fun _ =>
      fail (.invalidMachineConfiguration
        ("Unable to determine resource group ID for machine: " ++ quote machine.name))
    match instanceTenancy E mpc.tenancy with
    | none => fail (.createMachine ("invalid instance tenancy: " ++ mpc.tenancy ++
        ". Allowed options are: " ++ E.DefaultTenancy ++ "," ++ E.HostTenancy))
    | some tenancy => pure (runInstancesRequest E K machine mpc userData imageID securityGroupIDs
        vSwitchID clusterID groupId tenancy)

/-- The `if err != nil` block after `RunInstances` and after the wait: the
failure is recorded by `metrics.RegisterFailedInstanceCreate` and returned as
`mapierrors.CreateMachine("context: %v", err)`. -/
def registerCreateError {α : Type} (machine : Machine) (context : String) (err : GoError) :
    CloudM α := do
  registerFailedInstanceCreate ⟨machine.name, machine.namespace, err.error⟩
  fail (.createMachine (context ++ ": " ++ err.error))

/-- The part of `runInstances` from the `RunInstances` call on. -/
def createInstance (machine : Machine) (mpc : ProviderConfig) (request : RunInstancesRequest)
    (fuel : Nat) : CloudM Instance := do
  let runResponse ← (RunInstances request).catchGo
    (registerCreateError machine "error creating ECS instance")
  match runResponse with
  | some [instanceId] => do
    sleep (5 * 1000000000)
    let instances ← (waitForInstancesStatus mpc.regionID [instanceId] ECSInstanceStatusRunning
      InstanceDefaultTimeout fuel).catchGo
      (registerCreateError machine "error waiting ECS instance to Running")
    match instances with
    | some (inst :: _) => pure inst
    | _ => fail (.createMachine (" ECS instance " ++ instanceId ++ " not found"))
  | _ => fail (.createMachine "unexpected reservation creating instance")

/-- `runInstances`; `fuel` bounds the polls of `waitForInstancesStatus`, and
`polls DefaultWaitForInterval InstanceDefaultTimeout` of them are enough. -/
def runInstances (E : Enumerations) (K : TagConstants) (machine : Machine) (mpc : ProviderConfig)
    (userData : String) (fuel : Nat) : CloudM Instance := do
  let request ← prepareRunInstances E K machine mpc userData
  createInstance machine mpc request fuel

/-! ### Creating at most once -/

section Create

variable (E : Enumerations) (K : TagConstants) (machine : Machine) (mpc : ProviderConfig)
  (userData : String)

theorem Issues.prepareRunInstances :
    Issues (fun call => call.isLookup) (AlibabaActuator.prepareRunInstances E K machine mpc userData) := by
  have h := Issues.closed fun call => call.isLookup
  have lookup := @Issues.lookupCall machine.key
  refine .bind (.catchGo (h.getImageID lookup _) fun _ => .fail _) fun _ =>
    .bind (.catchGo (h.getSecurityGroupIDs lookup _) fun _ => .fail _) fun _ =>
    .bind (.catchGo (h.getVSwitchID lookup _) fun _ => .fail _) fun _ => ?_
  split
  · exact .fail _
  · refine .bind (.catchGo (h.getResourceGroupId lookup _) fun _ => .fail _) fun _ => ?_
    split
    exacts [.fail _, .pure _]

theorem prepareRunInstances_eq_ok {c : Cloud} {w w' : World} {request : RunInstancesRequest}
    (h : prepareRunInstances E K machine mpc userData c w = (.ok request, w')) :
    ∃ w₁ imageID w₂ securityGroupIDs w₃ vSwitchID clusterID groupId tenancy,
      getImageID machine.key mpc c w = (.ok imageID, w₁) ∧
      getSecurityGroupIDs machine.key mpc c w₁ = (.ok securityGroupIDs, w₂) ∧
      getVSwitchID machine.key mpc c w₂ = (.ok vSwitchID, w₃) ∧
      getClusterID machine = some clusterID ∧
      getResourceGroupId machine.key mpc c w₃ = (.ok groupId, w') ∧
      instanceTenancy E mpc.tenancy = some tenancy ∧
      request = runInstancesRequest E K machine mpc userData imageID securityGroupIDs vSwitchID
        clusterID groupId tenancy := by
  obtain ⟨imageID, w₁, himage, h⟩ := bind_eq_ok h
  obtain ⟨securityGroupIDs, w₂, hgroups, h⟩ := bind_eq_ok h
  obtain ⟨vSwitchID, w₃, hvswitch, h⟩ := bind_eq_ok h
  refine ⟨w₁, imageID, w₂, securityGroupIDs, w₃, vSwitchID, ?_⟩
  rcases hcluster : getClusterID machine with _ | clusterID <;> simp only [hcluster] at h
  · cases h
  · obtain ⟨groupId, w₄, hgroup, h⟩ := bind_eq_ok h
    rcases htenancy : instanceTenancy E mpc.tenancy with _ | tenancy <;> simp only [htenancy] at h
    · cases h
    · cases h
      exact ⟨clusterID, groupId, tenancy, catchGo_fail_eq_ok himage, catchGo_fail_eq_ok hgroups,
        catchGo_fail_eq_ok hvswitch, rfl, catchGo_fail_eq_ok hgroup, rfl, rfl⟩

/-- A client call whose errors are handled without further calls, then a
continuation: the call is logged first, whatever it answers. -/
theorem clientCall_catchGo_bind_trace {α β : Type} {record : Call}
    {answer : Cloud → World → Except String α} {handler : GoError → CloudM α} {f : α → CloudM β}
    {P : Call → Prop} (hh : ∀ e, Issues (fun _ => False) (handler e)) (hf : ∀ a, Issues P (f a))
    (c : Cloud) (w : World) :
    ∃ calls, ((((clientCall record answer).catchGo handler) >>= f) c w).2.trace =
      w.trace ++ record :: calls ∧ ∀ call ∈ calls, P call := by
  have first : ∃ outcome w₁, ((clientCall record answer).catchGo handler) c w = (outcome, w₁) ∧
      w₁.trace = w.trace ++ [record] := by
    unfold catchGo
    have logged : (clientCall record answer c w).2.trace = w.trace ++ [record] := by
      rw [clientCall_run]
    rcases e : clientCall record answer c w with ⟨_ | err | _, w₁⟩ <;> rw [e] at logged
    · exact ⟨_, _, rfl, logged⟩
    · obtain ⟨calls, trace, hcalls, -⟩ := hh err c w₁
      have none : calls = [] := List.eq_nil_iff_forall_not_mem.mpr hcalls
      exact ⟨_, _, rfl, by rw [trace, none, List.append_nil, logged]⟩
    · exact ⟨_, _, rfl, logged⟩
  obtain ⟨outcome, w₁, e, logged⟩ := first
  rw [bind_run, e]
  rcases outcome with a | _ | _
  · obtain ⟨calls, trace, hcalls, -⟩ := hf a c w₁
    exact ⟨calls, by rw [trace, logged, List.append_assoc]; rfl, hcalls⟩
  all_goals exact ⟨[], logged, by simp⟩

theorem createInstance_trace (request : RunInstancesRequest) (fuel : Nat) (c : Cloud) (w : World) :
    ∃ calls, (createInstance machine mpc request fuel c w).2.trace =
      w.trace ++ .runInstances request :: calls ∧ ∀ call ∈ calls, call.isDescribeInstances := by
  refine clientCall_catchGo_bind_trace
    (fun _ => .bind (.registerFailedInstanceCreate _) fun _ => .fail _) (fun response => ?_) c w
  split
  · refine .bind (.sleep _) fun _ => .bind (.catchGo (.waitForInstancesStatus _ _ _ _ _)
      fun _ => .mono (.bind (.registerFailedInstanceCreate _) fun _ => .fail _)
        fun _ (h : False) => h.elim)
      fun instances => ?_
    split
    exacts [.pure _, .fail _]
  · exact .fail _

/-- The one call satisfying `p` in `pre' ++ a' :: post'` is where every split
at a call satisfying `p` falls. -/
theorem eq_of_append_cons_of_unique {α : Type} {p : α → Bool} {pre' post' : List α} {a' : α}
    (hpre' : ∀ x ∈ pre', p x = false) (hpost' : ∀ x ∈ post', p x = false) {pre post : List α}
    {a : α} (ha : p a = true) (h : pre ++ a :: post = pre' ++ a' :: post') : pre = pre' ∧ a = a' := by
  induction pre generalizing pre' with
  | nil =>
    cases pre' with
    | nil => exact ⟨rfl, (List.cons.inj h).1⟩
    | cons b pre' =>
      obtain ⟨rfl, -⟩ := List.cons.inj h
      simp [hpre' _ (List.mem_cons_self _ _)] at ha
  | cons b pre ih =>
    cases pre' with
    | nil =>
      obtain ⟨-, h⟩ := List.cons.inj h
      have later : a ∈ post' := by
        rw [← h]
        exact List.mem_append_right pre (List.mem_cons_self _ _)
      simp [hpost' _ later] at ha
    | cons b' pre' =>
      simp only [List.cons_append, List.cons.injEq] at h
      obtain ⟨rfl, h⟩ := h
      obtain ⟨rfl, rfl⟩ := ih (fun x hx => hpre' x (List.mem_cons_of_mem _ hx)) h
      exact ⟨rfl, rfl⟩

/-- What the calls of one `runInstances` run show: at most one `RunInstances`,
only lookups before it, and it is sent only with the request built from the
six steps, each of which succeeded. -/
def CreatesOnceAfterLookups (E : Enumerations) (K : TagConstants) (machine : Machine)
    (mpc : ProviderConfig) (userData : String) (fuel : Nat) (c : Cloud) (w : World) : Prop :=
  ∃ calls, (runInstances E K machine mpc userData fuel c w).2.trace = w.trace ++ calls ∧
    calls.countP Call.isRunInstances ≤ 1 ∧
    ∀ pre request post, calls = pre ++ .runInstances request :: post →
      (∀ call ∈ pre, call.isLookup) ∧
      ∃ w₁ imageID w₂ securityGroupIDs w₃ vSwitchID clusterID w₄ groupId tenancy,
        getImageID machine.key mpc c w = (.ok imageID, w₁) ∧
        getSecurityGroupIDs machine.key mpc c w₁ = (.ok securityGroupIDs, w₂) ∧
        getVSwitchID machine.key mpc c w₂ = (.ok vSwitchID, w₃) ∧
        getClusterID machine = some clusterID ∧
        getResourceGroupId machine.key mpc c w₃ = (.ok groupId, w₄) ∧
        instanceTenancy E mpc.tenancy = some tenancy ∧
        request = runInstancesRequest E K machine mpc userData imageID securityGroupIDs vSwitchID
          clusterID groupId tenancy

theorem runInstances_createsOnceAfterLookups (fuel : Nat) (c : Cloud) (w : World) :
    CreatesOnceAfterLookups E K machine mpc userData fuel c w := by
  unfold CreatesOnceAfterLookups
  obtain ⟨pre', prepared, lookups, -⟩ := Issues.prepareRunInstances E K machine mpc userData c w
  have lookupsNotRun : ∀ call ∈ pre', call.isRunInstances = false := fun call h =>
    Call.isRunInstances_of_isLookup (lookups call h)
  have none : ∀ l : List Call, (∀ call ∈ l, call.isRunInstances = false) →
      l.countP Call.isRunInstances = 0 := fun l hl =>
    List.countP_eq_zero.mpr fun call h => by simp [hl call h]
  rw [runInstances, bind_run]
  rcases e : prepareRunInstances E K machine mpc userData c w with ⟨_ | _ | _, w'⟩ <;>
    rw [e] at prepared
  · rename_i request'
    obtain ⟨post', created, polls⟩ := createInstance_trace machine mpc request' fuel c w'
    have pollsNotRun : ∀ call ∈ post', call.isRunInstances = false := fun call h =>
      Call.isRunInstances_of_isDescribeInstances (polls call h)
    refine ⟨pre' ++ .runInstances request' :: post', ?_, ?_, ?_⟩
    · show (createInstance machine mpc request' fuel c w').2.trace = _
      rw [created, prepared, List.append_assoc]
    · simp [List.countP_append, none _ lookupsNotRun, none _ pollsNotRun, Call.isRunInstances]
    · intro pre request post split
      obtain ⟨rfl, same⟩ := eq_of_append_cons_of_unique lookupsNotRun pollsNotRun (by rfl) split.symm
      cases same
      obtain ⟨w₁, imageID, w₂, securityGroupIDs, w₃, vSwitchID, clusterID, groupId, tenancy, steps⟩ :=
        prepareRunInstances_eq_ok E K machine mpc userData e
      exact ⟨lookups, w₁, imageID, w₂, securityGroupIDs, w₃, vSwitchID, clusterID, w', groupId,
        tenancy, steps⟩
  all_goals
    refine ⟨pre', prepared, by rw [none pre' lookupsNotRun]; omega, ?_⟩
    intro pre request post split
    have := lookupsNotRun (.runInstances request) (by
      rw [split]
      exact List.mem_append_right _ (List.mem_cons_self _ _))
    simp [Call.isRunInstances] at this

theorem runInstances_creates_once (fuel : Nat) (c : Cloud) (w : World) :
    ∃ calls, (runInstances E K machine mpc userData fuel c w).2.trace = w.trace ++ calls ∧
      calls.countP Call.isRunInstances ≤ 1 ∧
      ∀ pre request post, calls = pre ++ .runInstances request :: post →
        (∀ call ∈ pre, call.isLookup) ∧
        ∃ w₁ imageID w₂ securityGroupIDs w₃ vSwitchID clusterID w₄ groupId tenancy,
          getImageID machine.key mpc c w = (.ok imageID, w₁) ∧
          getSecurityGroupIDs machine.key mpc c w₁ = (.ok securityGroupIDs, w₂) ∧
          getVSwitchID machine.key mpc c w₂ = (.ok vSwitchID, w₃) ∧
          getClusterID machine = some clusterID ∧
          getResourceGroupId machine.key mpc c w₃ = (.ok groupId, w₄) ∧
          instanceTenancy E mpc.tenancy = some tenancy ∧
          request = runInstancesRequest E K machine mpc userData imageID securityGroupIDs vSwitchID
            clusterID groupId tenancy :=
  runInstances_createsOnceAfterLookups E K machine mpc userData fuel c w

/-! ### A failed create is counted once -/

theorem RecordsOnFailure.prepareRunInstances :
    RecordsOnFailure (MachineLabels.For machine.key)
      (AlibabaActuator.prepareRunInstances E K machine mpc userData) := by
  have h := RecordsOnFailure.closed (MachineLabels.For machine.key)
  have lookup := @RecordsOnFailure.lookupCall machine.key
  refine .bind (.catchGo_fail (h.getImageID lookup _) _) fun _ =>
    .bind (.catchGo_fail (h.getSecurityGroupIDs lookup _) _) fun _ =>
    .bind (.catchGo_fail (h.getVSwitchID lookup _) _) fun _ => ?_
  split
  · exact .fail _
  · refine .bind (.catchGo_fail (h.getResourceGroupId lookup _) _) fun _ => ?_
    split
    exacts [.fail _, .pure _]

theorem RecordsOnFailure.createInstance (request : RunInstancesRequest) (fuel : Nat) :
    RecordsOnFailure (MachineLabels.For machine.key)
      (AlibabaActuator.createInstance machine mpc request fuel) := by
  have registers : ∀ {α : Type} context err, RecordsOnFailure (MachineLabels.For machine.key)
      (registerCreateError machine context err : CloudM α) :=
    fun _ _ => .registerFailedInstanceCreate_fail ⟨rfl, rfl⟩ _
  refine .bind (.catchGo_silent (.clientCall _ _) (registers _)) fun response => ?_
  split
  · refine .bind (.sleep _) fun _ =>
      .bind (.catchGo_silent (.waitForInstancesStatus _ _ _ _ _) (registers _)) fun instances => ?_
    split
    exacts [.pure _, .fail _]
  · exact .fail _

/-- A `Tags` security-group reference that selects no group: `runInstances`
fails as an invalid configuration, having made lookups only, with the
security-group error once the image is found and with the image error
before. -/
theorem runInstances_no_security_group_invalid (fuel : Nat) (sg : ResourceReference)
    (tags : List Tag) (c : Cloud) (w : World) (hrefs : mpc.securityGroups = [sg])
    (htype : sg.type = AlibabaResourceReferenceTypeTags) (htags : sg.tags = some tags)
    (hnone : ∀ w' request, c.describeSecurityGroups w' request = .ok []) :
    let run := runInstances E K machine mpc userData fuel c w
    ((∃ imageID w₁, getImageID machine.key mpc c w = (.ok imageID, w₁)) →
        run.1 = .error (.invalidMachineConfiguration
          "error getting security groups ID: no securitygroup for given tags not found")) ∧
      (∀ e w₁, getImageID machine.key mpc c w = (.error e, w₁) →
        run.1 = .error (.invalidMachineConfiguration ("error getting ImageID: " ++ e.error))) ∧
      ∃ calls, run.2.trace = w.trace ++ calls ∧ ∀ call ∈ calls, call.isLookup := by
  have tags_ne_id : AlibabaResourceReferenceTypeTags ≠ AlibabaResourceReferenceTypeID := by decide
  have groups : ∀ w₁, ∃ w₂, getSecurityGroupIDs machine.key mpc c w₁ =
      (.error (.plain "no securitygroup for given tags not found"), w₂) := fun w₁ =>
    ⟨_, by
      simp [getSecurityGroupIDs, hrefs, securityGroupIDsLoop, htype, tags_ne_id,
        getSecurityGroupIDByTags, htags, DescribeSecurityGroups, bind_run, catchGo, clientCall_run,
        hnone]
      rfl⟩
  -- `prepareRunInstances` stops at the image or at the security groups
  have prepared : ∃ e w', prepareRunInstances E K machine mpc userData c w = (.error e, w') ∧
      ((∃ imageID w₁, getImageID machine.key mpc c w = (.ok imageID, w₁)) →
        e = .invalidMachineConfiguration
          "error getting security groups ID: no securitygroup for given tags not found") ∧
      (∀ e' w₁, getImageID machine.key mpc c w = (.error e', w₁) →
        e = .invalidMachineConfiguration ("error getting ImageID: " ++ e'.error)) := by
    rw [prepareRunInstances, bind_run, catchGo]
    rcases image : getImageID machine.key mpc c w with ⟨imageID | e | _, w₁⟩
    · obtain ⟨w₂, hgroups⟩ := groups w₁
      dsimp only
      rw [bind_run, catchGo, hgroups]
      exact ⟨_, _, rfl, fun _ => rfl, fun _ _ h => nomatch h⟩
    · exact ⟨_, _, rfl, fun ⟨_, _, h⟩ => (nomatch h), fun _ _ h => by cases h; rfl⟩
    · exact absurd (congrArg Prod.fst image) (getImageID_ne_outOfFuel _ _ c w)
  obtain ⟨e, w', prepared, found, notFound⟩ := prepared
  obtain ⟨calls, trace, lookups, -⟩ := Issues.prepareRunInstances E K machine mpc userData c w
  rw [prepared] at trace
  rw [runInstances, bind_error prepared]
  exact ⟨fun h => by rw [found h], fun e' w₁ h => by rw [notFound e' w₁ h], calls, trace, lookups⟩

end Create

/-- The reference carries an ID as well, which a `Tags` reference ignores. -/
theorem runInstances_no_security_group_invalid_at_once :
    let E : Enumerations := ⟨"Default", "Host", "Enabled", "DeleteWithInstance"⟩
    let machine : Machine := ⟨"worker", "openshift-machine-api", [(MachineClusterIDLabel, "cluster")]⟩
    let byID (id : String) : ResourceReference := ⟨AlibabaResourceReferenceTypeID, some id, none, none⟩
    let sg : ResourceReference :=
      ⟨AlibabaResourceReferenceTypeTags, some "sg-1", some [⟨"role", "worker"⟩], none⟩
    let mpc : ProviderConfig :=
      { instanceType := "ecs.g6.large", imageID := "m-1", regionID := "cn-hangzhou", vpcID := "vpc-1",
        resourceGroup := byID "rg-1", tenancy := "", systemDisk := ⟨"cloud_essd", "", "", 120⟩,
        dataDisks := [], securityGroups := [sg], bandwidth := ⟨0, 0⟩, vSwitch := byID "vsw-1",
        ramRoleName := "", tags := [] }
    let c := Cloud.answering [⟨"m-1", EcsImageStatusAvailable⟩] [] [] [] [] []
    let run := runInstances E TagConstants.sample machine mpc "" 1 c World.initial
    mpc.securityGroups = [sg] ∧ sg.type = AlibabaResourceReferenceTypeTags ∧
      sg.tags = some [⟨"role", "worker"⟩] ∧ (∀ w' request, c.describeSecurityGroups w' request = .ok []) ∧
      (∃ imageID w₁, getImageID machine.key mpc c World.initial = (.ok imageID, w₁)) ∧
      ((∃ imageID w₁, getImageID machine.key mpc c World.initial = (.ok imageID, w₁)) →
        run.1 = .error (.invalidMachineConfiguration
          "error getting security groups ID: no securitygroup for given tags not found")) ∧
      (∀ e w₁, getImageID machine.key mpc c World.initial = (.error e, w₁) →
        run.1 = .error (.invalidMachineConfiguration ("error getting ImageID: " ++ e.error))) ∧
      ∃ calls, run.2.trace = World.initial.trace ++ calls ∧ ∀ call ∈ calls, call.isLookup :=
  ⟨rfl, rfl, rfl, fun _ _ => rfl, ⟨_, _, rfl⟩,
    runInstances_no_security_group_invalid _ _ _ _ _ 1 _ [⟨"role", "worker"⟩] _ _ rfl rfl rfl
      fun _ _ => rfl⟩

/-! ### What `runInstances` returns -/

theorem registerCreateError_fails {α : Type} (machine : Machine) (context : String) (err : GoError)
    (c : Cloud) (w : World) (a : α) (w' : World) :
    (registerCreateError machine context err : CloudM α) c w ≠ (.ok a, w') := nofun

/-- A `createInstance` that returns an instance: `RunInstances` reported one
ID, and the wait for that ID returned a list headed by the instance. -/
theorem createInstance_eq_ok {machine : Machine} {mpc : ProviderConfig}
    {request : RunInstancesRequest} {fuel : Nat} {c : Cloud} {w w' : World} {inst : Instance}
    (h : createInstance machine mpc request fuel c w = (.ok inst, w')) :
    ∃ instanceId w₂ rest, c.runInstances w request = .ok (some [instanceId]) ∧
      w₂.trace = w.trace ++ [.runInstances request] ∧
      waitForInstancesStatus mpc.regionID [instanceId] ECSInstanceStatusRunning InstanceDefaultTimeout
        fuel c w₂ = (.ok (some (inst :: rest)), w') := by
  obtain ⟨runResponse, w₁, sent, created⟩ := bind_eq_ok h
  have sent := catchGo_eq_ok_of_fails (registerCreateError_fails machine _) sent
  rw [RunInstances, clientCall_run] at sent
  rcases answer : c.runInstances w request with message | runResponse' <;>
    simp only [answer, Prod.mk.injEq, Outcome.ok.injEq, reduceCtorEq, false_and] at sent
  obtain ⟨rfl, rfl⟩ := sent
  -- every reservation but one ID fails
  rcases runResponse' with _ | _ | ⟨instanceId, _ | _⟩ <;> try cases created
  obtain ⟨_, w₂, slept, created⟩ := bind_eq_ok created
  rw [sleep_run, Prod.mk.injEq] at slept
  obtain ⟨instances, w₃, waited, created⟩ := bind_eq_ok created
  -- every wait result but a non-empty list fails; its head is the instance returned
  rcases instances with _ | _ | ⟨first, rest⟩ <;> try cases created
  exact ⟨instanceId, w₂, rest, rfl, by rw [← slept.2],
    catchGo_eq_ok_of_fails (registerCreateError_fails machine _) waited⟩

/-- Whenever `runInstances` returns an instance: `RunInstances` reported one
created ID, the last call was a `DescribeInstances` of that ID whose answer had
exactly one `Running` instance, and the instance returned is the last one of
that answer, whatever its ID or state. -/
theorem runInstances_returns_last_described (E : Enumerations) (K : TagConstants)
    (machine : Machine) (mpc : ProviderConfig) (userData : String) (fuel : Nat) (c : Cloud)
    (w : World) :
    match runInstances E K machine mpc userData fuel c w with
    | (.ok inst, w') => ∃ request w₁ instanceId w₀ response,
        c.runInstances w₁ request = .ok (some [instanceId]) ∧
        w'.trace = w₀.trace ++ [.describeInstances ⟨mpc.regionID, some [instanceId], []⟩] ∧
        c.describeInstances w₀ ⟨mpc.regionID, some [instanceId], []⟩ = .ok response ∧
        (response.filter fun i => i.status == ECSInstanceStatusRunning).length = 1 ∧
        response.getLast? = some inst
    | _ => True := by
  rcases run : runInstances E K machine mpc userData fuel c w with ⟨inst | _ | _, w'⟩ <;> try trivial
  obtain ⟨request, w₁, -, created⟩ := bind_eq_ok run
  obtain ⟨runResponse, w₂, sent, created⟩ := bind_eq_ok created
  have sent := catchGo_eq_ok_of_fails (registerCreateError_fails machine _) sent
  rw [RunInstances, clientCall_run] at sent
  rcases answer : c.runInstances w₁ request with message | runResponse' <;>
    simp only [answer, Prod.mk.injEq, Outcome.ok.injEq, reduceCtorEq, false_and] at sent
  obtain ⟨rfl, rfl⟩ := sent
  -- every reservation but one ID fails
  rcases runResponse' with _ | _ | ⟨instanceId, _ | _⟩ <;> try cases created
  obtain ⟨_, w₃, -, created⟩ := bind_eq_ok created
  obtain ⟨instances, w₄, waited, created⟩ := bind_eq_ok created
  obtain ⟨w₀, response, trace, described, cases⟩ :=
    waitForInstancesStatus_eq_ok (catchGo_eq_ok_of_fails (registerCreateError_fails machine _) waited)
  -- every wait result but a non-empty list fails; its head is the instance returned
  rcases instances with _ | _ | ⟨first, rest⟩ <;> try cases created
  obtain ⟨-, ⟨⟩⟩ | ⟨last, hlast, running, returned⟩ := cases
  simp only [List.length_singleton, List.replicate_one, Option.some.injEq, List.cons.injEq] at returned
  obtain ⟨rfl, -⟩ := returned
  exact ⟨request, w₁, instanceId, w₀, response, answer, trace, described, running, hlast⟩

end AlibabaActuator
