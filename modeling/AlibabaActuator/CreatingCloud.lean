import AlibabaActuator.HonestCloud

/-!
# Creating an instance and finding it again

The machine controller creates an instance for a machine with `runInstances`
and later asks whether the machine has one with `getExistingInstances`, which
looks instances up by the machine's cluster and `Name` tags. A lookup that
missed an instance just created would make the controller create another.
Here the cloud is a store of instances to which every `RunInstances` of the
trace adds one, `Running` and carrying the request's tags; the call at
position `k` of the trace creates `i-k` (`Cloud.creating`). Against that cloud
the lookup right after a `runInstances` that returns finds the instance
created: every entry it returns is that instance, read through the one range
variable.

Main results:

* `liveStore_append_run`, `liveStore_append_of_not_run` — what one more call
  does to the cloud's instances;
* `runInstancesRequest_tagged` — the request carries both tags of the lookup's
  filter;
* `runInstances_creating_eq_ok` — a `runInstances` that returns created the
  instance it returns, and it is the cloud's last;
* `getExistingInstances_creating_last` — the lookup returns the cloud's last
  instance when it carries the filter tags;
* `runInstances_then_getExistingInstances` — create, then find.
-/

namespace AlibabaActuator

open CloudM

/-! ### A cloud that creates -/

/-- The instance a `RunInstances` of `request` at position `k` of the trace
creates: `Running`, with the request's tags. -/
def createdInstance (k : Nat) (request : RunInstancesRequest) : Instance :=
  ⟨"i-" ++ toString k, ECSInstanceStatusRunning, "", request.tag.map toEcsTag⟩

/-- What the call at position `k` of the trace creates. -/
def createdBy (k : Nat) : Call → List Instance
  | .runInstances request => [createdInstance k request]
  | _ => []

/-- The instances the calls of `trace` create, its first call being at
position `k`. -/
def createdFrom (k : Nat) : List Call → List Instance
  | [] => []
  | call :: trace => createdBy k call ++ createdFrom (k + 1) trace

/-- The cloud's instances after `trace`: those of `store`, then those created,
oldest first. -/
def liveStore (store : List Instance) (trace : List Call) : List Instance :=
  store ++ createdFrom 0 trace

theorem createdFrom_append (k : Nat) (trace more : List Call) :
    createdFrom k (trace ++ more) = createdFrom k trace ++ createdFrom (k + trace.length) more := by
  induction trace generalizing k with
  | nil => simp [createdFrom]
  | cons call trace ih => simp [createdFrom, ih, Nat.add_assoc, Nat.add_comm 1]

theorem createdFrom_of_not_run {k : Nat} {calls : List Call}
    (h : ∀ call ∈ calls, call.isRunInstances = false) : createdFrom k calls = [] := by
  induction calls generalizing k with
  | nil => rfl
  | cons call calls ih =>
    rw [List.forall_mem_cons] at h
    have none : createdBy k call = [] := by
      cases call with
      | runInstances request => cases h.1
      | _ => rfl
    simp [createdFrom, none, ih h.2]

theorem liveStore_append_of_not_run (store : List Instance) (trace : List Call) {calls : List Call}
    (h : ∀ call ∈ calls, call.isRunInstances = false) :
    liveStore store (trace ++ calls) = liveStore store trace := by
  simp [liveStore, createdFrom_append, createdFrom_of_not_run h]

theorem liveStore_append_run (store : List Instance) (trace : List Call)
    (request : RunInstancesRequest) :
    liveStore store (trace ++ [.runInstances request]) =
      liveStore store trace ++ [createdInstance trace.length request] := by
  simp [liveStore, createdFrom_append, createdFrom, createdBy]

/-- A cloud whose `RunInstances` adds an instance named by the call's position
in the trace, and whose `DescribeInstances` answers from the instances so
far; its lookups answer as those of `Cloud.answering`. -/
def Cloud.creating (images : List Image) (groups : List SecurityGroup) (vSwitches : List VSwitch)
    (resourceGroups : List ResourceGroup) (store : List Instance) : Cloud :=
  { Cloud.answering images groups vSwitches resourceGroups [] [] with
    runInstances := fun w _ => .ok (some ["i-" ++ toString w.trace.length])
    describeInstances := fun w request => .ok (storeAnswer (liveStore store w.trace) request) }

theorem storeAnswer_append (xs ys : List Instance) (request : DescribeInstancesRequest) :
    storeAnswer (xs ++ ys) request = storeAnswer xs request ++ storeAnswer ys request :=
  List.filter_append _ _

/-! ### Create, then find -/

/-- When the last element is kept, the range loop's pointers all read it, and
there is at least one. -/
theorem rangeAppendAddr_append_kept {α : Type} (xs : List α) (keep : α → Bool) (x : α)
    (kept : keep x = true) : ∃ n, 0 < n ∧ rangeAppendAddr (xs ++ [x]) keep = List.replicate n x :=
  ⟨_, List.length_pos_of_mem (List.mem_filter.mpr ⟨List.mem_append_right _ (List.mem_singleton_self _),
    kept⟩), rangeAppendAddr_eq_replicate (List.getLast?_concat xs) keep⟩

/-- The tags `runInstances` sends include both tags `getInstances` filters by. -/
theorem runInstancesRequest_tagged (E : Enumerations) (K : TagConstants) (machine : Machine)
    (mpc : ProviderConfig) (userData imageID : String) (securityGroupIDs : List String)
    (vSwitchID clusterID groupId tenancy : String) :
    ∀ tag ∈ describeInstancesTags clusterID machine.name, toEcsTag tag ∈
      (runInstancesRequest E K machine mpc userData imageID securityGroupIDs vSwitchID clusterID
        groupId tenancy).tag.map toEcsTag := by
  obtain ⟨distinct, cluster, name, -⟩ := buildTagList_cluster_tags K machine.name clusterID mpc.tags
  simp only [describeInstancesTags, List.mem_cons, List.mem_singleton, List.not_mem_nil, or_false]
  rintro tag (rfl | rfl) <;> refine List.mem_map_of_mem _ ?_ <;>
    simp only [runInstancesRequest, covertToRunInstancesTag, copyTags_eq]
  exacts [(mem_iff_valueOf distinct _ _).mpr cluster, (mem_iff_valueOf distinct _ _).mpr name]

theorem createdInstance_supported (k : Nat) (request : RunInstancesRequest) :
    instanceHasSupportedState (createdInstance k request) supportedInstanceStates = none := by
  have named : "i-" ++ toString k ≠ "" := fun h => by
    have long := congrArg String.length h
    simp only [String.length_append, String.length_empty, Nat.add_eq_zero] at long
    exact absurd long.1 (by decide)
  exact (instanceHasSupportedState_eq_none _ _).mpr ⟨named,
    show ECSInstanceStatusRunning ≠ "" by decide,
    .inr (show ECSInstanceStatusRunning ∈ supportedInstanceStates by decide)⟩

section Creating

variable (images : List Image) (groups : List SecurityGroup) (vSwitches : List VSwitch)
  (resourceGroups : List ResourceGroup) (store : List Instance)

/-- What a `runInstances` that returns did against this cloud: its one
`RunInstances` created the instance it returns, with both tags of the
machine's lookup filter, and no instance was created after it. -/
theorem runInstances_creating_eq_ok {E : Enumerations} {K : TagConstants} {machine : Machine}
    {mpc : ProviderConfig} {userData : String} {fuel : Nat} {w w₁ : World} {inst : Instance}
    (run : runInstances E K machine mpc userData fuel
      (Cloud.creating images groups vSwitches resourceGroups store) w = (.ok inst, w₁)) :
    ∃ clusterID k request, getClusterID machine = some clusterID ∧
      (∀ tag ∈ describeInstancesTags clusterID machine.name, toEcsTag tag ∈ request.tag.map toEcsTag) ∧
      inst = createdInstance k request ∧ ∃ older, liveStore store w₁.trace = older ++ [inst] := by
  obtain ⟨request, wp, prepared, created⟩ := bind_eq_ok run
  obtain ⟨_, imageID, _, securityGroupIDs, _, vSwitchID, clusterID, groupId, tenancy, -, -, -,
    cluster, -, -, hrequest⟩ := prepareRunInstances_eq_ok E K machine mpc userData prepared
  obtain ⟨instanceId, w₂, _, reported, called, waited⟩ := createInstance_eq_ok created
  obtain ⟨rfl, -⟩ := List.cons.inj (Option.some.inj (Except.ok.inj reported))
  -- from the call on, the instance created is the cloud's last: only describes follow
  obtain ⟨calls, after, describes, -⟩ :=
    Issues.waitForInstancesStatus mpc.regionID _ ECSInstanceStatusRunning InstanceDefaultTimeout
      fuel _ w₂
  rw [waited] at after
  have live : liveStore store w₁.trace =
      liveStore store wp.trace ++ [createdInstance wp.trace.length request] := by
    rw [after, liveStore_append_of_not_run _ _ fun call mem =>
      Call.isRunInstances_of_isDescribeInstances (describes call mem), called, liveStore_append_run]
  -- so the wait's last answer ends with it, and the wait returns it
  obtain ⟨w₀, response, polled, answer, ⟨-, ⟨⟩⟩ | ⟨last, hlast, -, returned⟩⟩ :=
    waitForInstancesStatus_eq_ok waited
  have live₀ : liveStore store w₀.trace = liveStore store w₁.trace := by
    rw [polled, liveStore_append_of_not_run _ _ (by simp [Call.isRunInstances])]
  rw [show (Cloud.creating images groups vSwitches resourceGroups store).describeInstances w₀ _ =
      .ok (storeAnswer (liveStore store w₀.trace) _) from rfl, live₀, live, storeAnswer_append,
    Except.ok.injEq] at answer
  simp [← answer, storeAnswer, createdInstance, List.getLast?_append] at hlast
  obtain ⟨rfl, -⟩ := List.cons.inj (Option.some.inj returned)
  subst hlast
  exact ⟨clusterID, _, _, cluster, hrequest ▸ runInstancesRequest_tagged E K machine mpc userData
    imageID securityGroupIDs vSwitchID clusterID groupId tenancy, rfl, _, live⟩

/-- When the cloud's last instance carries the machine's two filter tags and is
in a supported state, `getExistingInstances` returns it, one or more times,
and nothing else. -/
theorem getExistingInstances_creating_last {machine : Machine} {clusterID : String}
    (cluster : getClusterID machine = some clusterID) (regionID : String) {w : World}
    {older : List Instance} {inst : Instance} (live : liveStore store w.trace = older ++ [inst])
    (tagged : ∀ tag ∈ describeInstancesTags clusterID machine.name, toEcsTag tag ∈ inst.tags)
    (supported : instanceHasSupportedState inst supportedInstanceStates = none) :
    ∃ n, 0 < n ∧ (getExistingInstances machine regionID
      (Cloud.creating images groups vSwitches resourceGroups store) w).1 = .ok (List.replicate n inst) := by
  have passes : storeAnswer [inst] ⟨regionID, none, describeInstancesTags clusterID machine.name⟩ =
      [inst] := by
    simpa [storeAnswer] using tagged
  obtain ⟨n, pos, copies⟩ := rangeAppendAddr_append_kept (storeAnswer older _)
    (fun inst => (instanceHasSupportedState inst supportedInstanceStates).isNone) inst
    (by simp only [supported, Option.isNone_none])
  refine ⟨n, pos, ?_⟩
  rw [getExistingInstances, getInstances_eq cluster, bind_run, DescribeInstances, clientCall_run]
  show Outcome.ok (rangeAppendAddr (storeAnswer (liveStore store w.trace) _) _) = _
  rw [live, storeAnswer_append, passes, copies]

/-- Right after a `runInstances` that returns an instance, `getExistingInstances`
of the machine returns that instance, one or more times, and nothing else. -/
theorem runInstances_then_getExistingInstances (E : Enumerations) (K : TagConstants)
    (machine : Machine) (mpc : ProviderConfig) (userData : String) (fuel : Nat) (w : World) :
    match runInstances E K machine mpc userData fuel
      (Cloud.creating images groups vSwitches resourceGroups store) w with
    | (.ok inst, w₁) => ∃ n, 0 < n ∧
        (getExistingInstances machine mpc.regionID
          (Cloud.creating images groups vSwitches resourceGroups store) w₁).1 =
          .ok (List.replicate n inst)
    | _ => True := by
  rcases run : runInstances E K machine mpc userData fuel
    (Cloud.creating images groups vSwitches resourceGroups store) w with
    ⟨inst | _ | _, w₁⟩ <;> try trivial
  obtain ⟨clusterID, k, request, cluster, tagged, rfl, older, live⟩ :=
    runInstances_creating_eq_ok images groups vSwitches resourceGroups store run
  exact getExistingInstances_creating_last images groups vSwitches resourceGroups store cluster _ live
    tagged (createdInstance_supported k request)

end Creating

/-- Against a cloud with no instance yet, the run creates `i-1` (its one lookup,
`DescribeImages`, comes first), and the lookup right after it finds it once. -/
theorem runInstances_then_getExistingInstances_from_empty :
    let E : Enumerations := ⟨"Default", "Host", "Enabled", "DeleteWithInstance"⟩
    let machine : Machine := ⟨"worker", "openshift-machine-api", [(MachineClusterIDLabel, "cluster")]⟩
    let byID (id : String) : ResourceReference := ⟨AlibabaResourceReferenceTypeID, some id, none, none⟩
    let mpc : ProviderConfig :=
      { instanceType := "ecs.g6.large", imageID := "m-1", regionID := "cn-hangzhou", vpcID := "vpc-1",
        resourceGroup := byID "rg-1", tenancy := "", systemDisk := ⟨"cloud_essd", "", "", 120⟩,
        dataDisks := [], securityGroups := [byID "sg-1"], bandwidth := ⟨0, 0⟩,
        vSwitch := byID "vsw-1", ramRoleName := "", tags := [] }
    let c := Cloud.creating [⟨"m-1", EcsImageStatusAvailable⟩] [] [] [] []
    (match runInstances E TagConstants.sample machine mpc "" 1 c World.initial with
      | (.ok inst, w₁) => decide (inst.instanceId = "i-1" ∧
          (getExistingInstances machine mpc.regionID c w₁).1 = .ok [inst])
      | _ => false) = true ∧
      match runInstances E TagConstants.sample machine mpc "" 1 c World.initial with
      | (.ok inst, w₁) => ∃ n, 0 < n ∧
          (getExistingInstances machine mpc.regionID c w₁).1 = .ok (List.replicate n inst)
      | _ => True :=
  ⟨by decide, runInstances_then_getExistingInstances _ _ _ _ _ _ _ _ _ _ 1 World.initial⟩

end AlibabaActuator
