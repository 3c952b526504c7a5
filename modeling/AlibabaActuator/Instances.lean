import AlibabaActuator.Cloud
import AlibabaActuator.Tags

/-!
The instance lookups and repairs of `instances.go`: `instanceHasSupportedState`,
`describeInstances`, `getInstanceByID`, `getInstances`, `stopInstances`,
`getRunningFromInstances` and `correctExistingTags`.

Main results:

* `getInstanceByID_eq_ok` — a lookup by ID that returns an instance had it as
  the one instance of its `DescribeInstances` answer;
* `getInstances_eq` — `getInstances` is one `DescribeInstances` call filtered
  by the two cluster tags, and what it returns is read through `&instance` of
  the range variable;
* `getExistingInstances_returns_last_instance` — so for the answer
  `[Running A, Released B]` it returns `[B]`, a released instance;
* `stopInstances_eq_ok` — a `stopInstances` that returns made one
  `DescribeInstances` of the instances' ids and one `StopInstances` of the ids
  of the `Running` instances in the answer;
* `tagChecks_eq` — the loop of `correctExistingTags` computes three `any`s;
* `correctExistingTags_trace` — `correctExistingTags` writes tags once, on the
  instance, exactly when it has an ID, the machine has a cluster ID and one of
  the three tags is missing or wrong (`HasClusterTags` fails), and never
  otherwise;
* `buildTagList_lookup_and_drift` — the tags `runInstances` sends carry both
  tags of `getInstances`' filter, and `correctExistingTags` on an instance
  with exactly those tags issues `TagResources` exactly when the user's tags
  override the owned tag with another value.

Design notes: `tagResourceTags` of `filter.go` is not among the sources, so
`correctExistingTags` takes it as a parameter. The tags `DescribeInstances`
reports on an instance created with tags `T` are `T.map toEcsTag`.
-/

namespace AlibabaActuator

open CloudM

/-! ### Instance states -/

/-- `instanceHasSupportedState`: `none` is a nil error. -/
def instanceHasSupportedState (inst : Instance) (instanceStates : List String) : Option GoError :=
  if inst.instanceId = "" then some (.plain "instance has nil ID")
  else if inst.status = "" then some (.plain ("instance " ++ inst.instanceId ++ " has nil state"))
  else if instanceStates.length = 0 then none
  else if instanceStates.contains inst.status then none
  else some (.plain ("instance " ++ inst.instanceId ++ " state " ++ quote inst.status ++
    " is not in " ++ ", ".intercalate instanceStates))

theorem instanceHasSupportedState_eq_none (inst : Instance) (instanceStates : List String) :
    instanceHasSupportedState inst instanceStates = none ↔
      inst.instanceId ≠ "" ∧ inst.status ≠ "" ∧
        (instanceStates = [] ∨ inst.status ∈ instanceStates) := by
  unfold instanceHasSupportedState
  split_ifs <;> simp_all [List.length_eq_zero]

/-! ### Lookups by ID -/

/-- `describeInstances`. -/
def describeInstances (instanceIds : List String) (regionID : String) : CloudM (List Instance) :=
  if instanceIds.length < 1 then fail (.plain "instance-ids not specified")
  else DescribeInstances ⟨regionID, some instanceIds, []⟩

/-- `getInstanceByID`: the instance is returned with the state check's error,
as the Go code returns both. -/
def getInstanceByID (instanceID regionID : String) (instanceStates : List String) :
    CloudM (Instance × Option GoError) := do
  if instanceID = "" then fail (.plain "instance-id not specified")
  else
    let instances ← describeInstances [instanceID] regionID
    match instances with
    | [inst] => pure (inst, instanceHasSupportedState inst instanceStates)
    | _ => fail (.plain ("found " ++ toString instances.length ++ " instances for instance-id " ++
      instanceID))

def getExistingInstanceByID (instanceID regionID : String) : CloudM (Instance × Option GoError) :=
  getInstanceByID instanceID regionID supportedInstanceStates

/-- A lookup whose `DescribeInstances` answers one instance returns it. -/
theorem getInstanceByID_of_answer {instanceID regionID : String} {instanceStates : List String}
    {c : Cloud} {w : World} {inst : Instance} (hid : instanceID ≠ "")
    (answer : c.describeInstances w ⟨regionID, some [instanceID], []⟩ = .ok [inst]) :
    getInstanceByID instanceID regionID instanceStates c w =
      (.ok (inst, instanceHasSupportedState inst instanceStates),
        { w with
          trace := w.trace ++ [.describeInstances ⟨regionID, some [instanceID], []⟩]
          clock := w.clock + c.latency w }) := by
  have named : ¬[instanceID].length < 1 := by simp
  rw [getInstanceByID, if_neg hid, bind_run, describeInstances, if_neg named, DescribeInstances,
    clientCall_run, answer]
  rfl

/-- A lookup that returns an instance had it as the one instance of the answer. -/
theorem getInstanceByID_eq_ok {instanceID regionID : String} {instanceStates : List String}
    {c : Cloud} {w w' : World} {inst : Instance} {err : Option GoError}
    (h : getInstanceByID instanceID regionID instanceStates c w = (.ok (inst, err), w')) :
    c.describeInstances w ⟨regionID, some [instanceID], []⟩ = .ok [inst] := by
  by_cases hid : instanceID = ""
  · simp [getInstanceByID, hid] at h
  have named : ¬[instanceID].length < 1 := by simp
  rw [getInstanceByID, if_neg hid, bind_run, describeInstances, if_neg named, DescribeInstances,
    clientCall_run] at h
  rcases answer : c.describeInstances w ⟨regionID, some [instanceID], []⟩ with message | response <;>
    simp only [answer] at h
  · cases h
  -- every answer but one instance fails
  rcases response with _ | ⟨first, _ | ⟨_, _⟩⟩ <;> simp at h
  rw [h.1.1]

/-! ### Lookups by cluster tags -/

/-- The `DescribeInstancesTag` filter of `getInstances`: the cluster tag and the
machine's `Name` tag. -/
def describeInstancesTags (clusterID machineName : String) : List Tag :=
  [⟨clusterFilterKeyPrefix ++ clusterID, clusterFilterValue⟩, ⟨clusterFilterName, machineName⟩]

/-- `getInstances`: the instances with the machine's cluster and `Name` tags
whose state passes `instanceHasSupportedState`; each is appended as `&instance`
of the range variable. -/
def getInstances (machine : Machine) (regionID : String) (instanceStates : List String) :
    CloudM (List Instance) :=
  match getClusterID machine with
  | none => fail (.plain ("unable to get cluster ID for machine: " ++ quote machine.name))
  | some clusterID => do
    let result ← DescribeInstances ⟨regionID, none, describeInstancesTags clusterID machine.name⟩
    pure (rangeAppendAddr result fun inst => (instanceHasSupportedState inst instanceStates).isNone)

/-- `getExistingInstances`. -/
def getExistingInstances (machine : Machine) (regionID : String) : CloudM (List Instance) :=
  getInstances machine regionID supportedInstanceStates

theorem getInstances_eq {machine : Machine} {clusterID : String}
    (h : getClusterID machine = some clusterID) (regionID : String) (instanceStates : List String) :
    getInstances machine regionID instanceStates =
      (do
        let result ← DescribeInstances ⟨regionID, none, describeInstancesTags clusterID machine.name⟩
        pure (rangeAppendAddr result fun inst =>
          (instanceHasSupportedState inst instanceStates).isNone)) := by
  rw [getInstances, h]

/-- A cloud whose every lookup answers with the given lists and whose
`RunInstances` creates the given ids; calls take no time. -/
def Cloud.answering (images : List Image) (groups : List SecurityGroup) (vSwitches : List VSwitch)
    (resourceGroups : List ResourceGroup) (created : List String) (instances : List Instance) :
    Cloud where
  describeImages _ _ := .ok images
  describeSecurityGroups _ _ := .ok groups
  describeVSwitches _ _ := .ok vSwitches
  listResourceGroups _ _ := .ok resourceGroups
  runInstances _ _ := .ok (some created)
  describeInstances _ _ := .ok instances
  tagResources _ _ := .ok ()
  stopInstances _ _ := .ok none
  latency _ := 0
  oversleep _ := 0

/-- The world before any call. -/
def World.initial : World := ⟨[], 0, []⟩

theorem getExistingInstances_returns_last_instance :
    let running : Instance := ⟨"i-a", ECSInstanceStatusRunning, "", []⟩
    let released : Instance := ⟨"i-b", "Released", "", []⟩
    let machine : Machine := ⟨"worker", "openshift-machine-api", [(MachineClusterIDLabel, "cluster")]⟩
    (getExistingInstances machine "cn-hangzhou"
        (Cloud.answering [] [] [] [] [] [running, released]) World.initial).1 = .ok [released] ∧
      released.status ∉ supportedInstanceStates := by
  decide

/-! ### Stopping -/

/-- `stopInstances`: the instances `DescribeInstances` reports `Running` are
stopped with one request; a nil response is an empty list. -/
def stopInstances (regionID : String) (instances : List Instance) : CloudM (List InstanceResponse) := do
  let instanceIDs := instances.map Instance.instanceId
  let existingInstances ← describeInstances instanceIDs regionID
  if existingInstances.length < 1 then
    fail (.plain ("instances " ++ goStrings instanceIDs ++ " not exist"))
  else
    let needStoppedInstanceIDs := (existingInstances.filter fun inst =>
      inst.status == ECSInstanceStatusRunning).map Instance.instanceId
    let response ← (StopInstances ⟨regionID, needStoppedInstanceIDs⟩).catchGo fun err =>
      fail (.plain ("error stopping instances: " ++ err.error))
    pure (response.getD [])

/-- `getRunningFromInstances`. -/
def getRunningFromInstances (instances : List Instance) : List Instance :=
  instances.filter fun inst => inst.status == ECSInstanceStatusRunning

/-- What a `stopInstances` that returns did: the `DescribeInstances` of the
instances' IDs answered some instances, and it then sent one `StopInstances`
of the IDs of those `Running`. -/
theorem stopInstances_eq_ok {regionID : String} {instances : List Instance} {c : Cloud}
    {w w' : World} {response : List InstanceResponse}
    (h : stopInstances regionID instances c w = (.ok response, w')) :
    ∃ existing, existing ≠ [] ∧
      c.describeInstances w ⟨regionID, some (instances.map Instance.instanceId), []⟩ = .ok existing ∧
      w'.trace = w.trace ++ [.describeInstances ⟨regionID, some (instances.map Instance.instanceId), []⟩,
        .stopInstances ⟨regionID, (existing.filter fun inst =>
          inst.status == ECSInstanceStatusRunning).map Instance.instanceId⟩] := by
  obtain ⟨existing, w₁, described, rest⟩ := bind_eq_ok h
  by_cases named : (instances.map Instance.instanceId).length < 1
  · rw [describeInstances, if_pos named] at described
    simp at described
  rw [describeInstances, if_neg named, DescribeInstances, clientCall_run] at described
  rcases answer : c.describeInstances w ⟨regionID, some (instances.map Instance.instanceId), []⟩
    with message | existing' <;>
    simp only [answer, Prod.mk.injEq, Outcome.ok.injEq, reduceCtorEq, false_and] at described
  obtain ⟨rfl, rfl⟩ := described
  by_cases empty : existing'.length < 1
  · simp [empty] at rest
  rw [if_neg empty] at rest
  refine ⟨existing', fun h => empty (by simp [h]), rfl, ?_⟩
  have world := congrArg Prod.snd rest
  rw [bind_pure_world, catchGo_fail_world, StopInstances, clientCall_run] at world
  split at world <;> (simp only at world; simp [← world])

/-! ### Tag drift -/

/-- `ECSTagResourceTypeInstance`. -/
def ECSTagResourceTypeInstance : String := "instance"

/-- A tag as `DescribeInstances` reports it on the instance it was set on. -/
def toEcsTag (tag : Tag) : EcsTag := ⟨tag.key, tag.value⟩

/-- One check of `correctExistingTags`: a tag with non-empty key and value equal
to `key` and `value`. -/
def EcsTag.matches (tag : EcsTag) (key value : String) : Bool :=
  (tag.tagKey != "" && tag.tagValue != "") && (tag.tagKey == key && tag.tagValue == value)

/-- The loop of `correctExistingTags`: `nameTagOk`, `clusterTagOk` and
`ownedTagOk` after the instance's tags. -/
def tagChecks (K : TagConstants) (clusterID machineName : String) (tags : List EcsTag) :
    Bool × Bool × Bool :=
  tags.foldl (fun (nameTagOk, clusterTagOk, ownedTagOk) tag =>
      if tag.tagKey != "" && tag.tagValue != "" then
        (nameTagOk || (tag.tagKey == clusterFilterName && tag.tagValue == machineName),
          clusterTagOk || (tag.tagKey == clusterFilterKeyPrefix ++ clusterID &&
            tag.tagValue == clusterFilterValue),
          ownedTagOk || (tag.tagKey == K.clusterOwnedKey && tag.tagValue == K.clusterOwnedValue))
      else (nameTagOk, clusterTagOk, ownedTagOk))
    (false, false, false)

/-- `correctExistingTags`: if one of the three checks fails, one
`TagResources` call sets `tagResourceTags` on the instance and its error is
returned. -/
def correctExistingTags (K : TagConstants) (tagResourceTags : String → String → List Tag)
    (machine : Machine) (regionID : String) (inst : Instance) : CloudM Unit :=
  if inst.instanceId = "" then fail (.plain "unexpected nil found in instance")
  else match getClusterID machine with
    | none => fail (.plain ("unable to get cluster ID for machine: " ++ quote machine.name))
    | some clusterID =>
      let (nameTagOk, clusterTagOk, ownedTagOk) := tagChecks K clusterID machine.name inst.tags
      if !nameTagOk || !clusterTagOk || !ownedTagOk then
        TagResources ⟨regionID, tagResourceTags clusterID machine.name, [inst.instanceId],
          ECSTagResourceTypeInstance⟩
      else pure ()

section Drift

variable (K : TagConstants) (clusterID machineName : String)

theorem tagChecks_foldl (tags : List EcsTag) (a b d : Bool) :
    tags.foldl (fun (nameTagOk, clusterTagOk, ownedTagOk) (tag : EcsTag) =>
        if tag.tagKey != "" && tag.tagValue != "" then
          (nameTagOk || (tag.tagKey == clusterFilterName && tag.tagValue == machineName),
            clusterTagOk || (tag.tagKey == clusterFilterKeyPrefix ++ clusterID &&
              tag.tagValue == clusterFilterValue),
            ownedTagOk || (tag.tagKey == K.clusterOwnedKey && tag.tagValue == K.clusterOwnedValue))
        else (nameTagOk, clusterTagOk, ownedTagOk)) (a, b, d) =
      (a || tags.any (·.matches clusterFilterName machineName),
        b || tags.any (·.matches (clusterFilterKeyPrefix ++ clusterID) clusterFilterValue),
        d || tags.any (·.matches K.clusterOwnedKey K.clusterOwnedValue)) := by
  induction tags generalizing a b d with
  | nil => simp
  | cons tag tags ih =>
    rw [List.foldl_cons]
    cases h : (tag.tagKey != "" && tag.tagValue != "") <;>
      simp only [h, ih, List.any_cons, EcsTag.matches, Bool.true_and, Bool.false_and,
        Bool.false_or, Bool.or_assoc, if_true, Bool.false_eq_true, if_false]

theorem tagChecks_eq (tags : List EcsTag) :
    tagChecks K clusterID machineName tags =
      (tags.any (·.matches clusterFilterName machineName),
        tags.any (·.matches (clusterFilterKeyPrefix ++ clusterID) clusterFilterValue),
        tags.any (·.matches K.clusterOwnedKey K.clusterOwnedValue)) := by
  simp only [tagChecks, tagChecks_foldl, Bool.false_or]

/-- With distinct keys, a tag with key `k` is present iff `valueOf` reads it. -/
theorem mem_iff_valueOf {tags : List Tag} (distinct : (tags.map Tag.key).Nodup) (k v : String) :
    ⟨k, v⟩ ∈ tags ↔ valueOf tags k = some v := by
  induction tags with
  | nil => simp [valueOf]
  | cons t ts ih =>
    obtain ⟨k', v'⟩ := t
    simp only [List.map_cons, List.nodup_cons, List.mem_map] at distinct
    by_cases e : k' = k
    · subst e
      have absent : (⟨k', v⟩ : Tag) ∉ ts := fun hv => distinct.1 ⟨_, hv, rfl⟩
      simp [valueOf, absent, eq_comm]
    · have skip : (⟨k', v'⟩ :: ts).find? (·.key == k) = ts.find? (·.key == k) :=
        List.find?_cons_of_neg _ (by simpa using e)
      have ne : (⟨k, v⟩ : Tag) ≠ ⟨k', v'⟩ := fun h => e (congrArg Tag.key h).symm
      simp only [List.mem_cons, ne, false_or, valueOf, skip]
      exact ih distinct.2

theorem any_matches_iff {tags : List Tag} (distinct : (tags.map Tag.key).Nodup) {k v : String}
    (hk : k ≠ "") (hv : v ≠ "") :
    (tags.map toEcsTag).any (·.matches k v) = true ↔ valueOf tags k = some v := by
  rw [← mem_iff_valueOf distinct, List.any_eq_true]
  constructor
  · rintro ⟨_, hmem, hm⟩
    obtain ⟨⟨k', v'⟩, ht, rfl⟩ := List.mem_map.mp hmem
    simp only [EcsTag.matches, toEcsTag, Bool.and_eq_true, beq_iff_eq] at hm
    obtain ⟨-, rfl, rfl⟩ := hm
    exact ht
  · intro ht
    exact ⟨_, List.mem_map_of_mem _ ht, by simp [EcsTag.matches, toEcsTag, hk, hv]⟩

/-- The instance carries, each with a non-empty key and value, the machine's
`Name` tag, the cluster tag and the owned tag: the three checks of
`correctExistingTags`. -/
def HasClusterTags (tags : List EcsTag) : Prop :=
  (∃ tag ∈ tags, tag.matches clusterFilterName machineName) ∧
    (∃ tag ∈ tags, tag.matches (clusterFilterKeyPrefix ++ clusterID) clusterFilterValue) ∧
    (∃ tag ∈ tags, tag.matches K.clusterOwnedKey K.clusterOwnedValue)

instance (tags : List EcsTag) : Decidable (HasClusterTags K clusterID machineName tags) :=
  inferInstanceAs (Decidable (_ ∧ _ ∧ _))

end Drift

/-- The calls `correctExistingTags` makes: one `TagResources` that sets
`tagResourceTags` on the instance when it has an ID, the machine has a cluster
ID and one of the three tags is missing or wrong, and none otherwise. -/
theorem correctExistingTags_trace (K : TagConstants) (tagResourceTags : String → String → List Tag)
    (machine : Machine) (regionID : String) (inst : Instance) (c : Cloud) (w : World) :
    (correctExistingTags K tagResourceTags machine regionID inst c w).2.trace = w.trace ++
      match getClusterID machine with
      | some clusterID =>
        if inst.instanceId ≠ "" ∧ ¬HasClusterTags K clusterID machine.name inst.tags then
          [.tagResources ⟨regionID, tagResourceTags clusterID machine.name, [inst.instanceId],
            ECSTagResourceTypeInstance⟩]
        else []
      | none => [] := by
  unfold correctExistingTags
  by_cases hid : inst.instanceId = ""
  · rw [if_pos hid]
    cases getClusterID machine <;> simp [hid]
  · rw [if_neg hid]
    rcases getClusterID machine with _ | clusterID
    · simp
    · have missing : ∀ a b d : Bool, ((!a || !b) || !d) = true ↔ ¬(a = true ∧ b = true ∧ d = true) :=
        by decide
      simp only [tagChecks_eq, HasClusterTags, ← List.any_eq_true, missing, ne_eq, hid,
        not_false_eq_true, true_and]
      split_ifs <;> simp [TagResources, clientCall_run]

/-- What a `correctExistingTags` that returns did: the instance has an ID, the
machine a cluster ID, and either the three tags were there and nothing was
called, or its one `TagResources` call was accepted. -/
theorem correctExistingTags_eq_ok {K : TagConstants} {tagResourceTags : String → String → List Tag}
    {machine : Machine} {regionID : String} {inst : Instance} {c : Cloud} {w w' : World}
    (h : correctExistingTags K tagResourceTags machine regionID inst c w = (.ok (), w')) :
    ∃ clusterID, getClusterID machine = some clusterID ∧ inst.instanceId ≠ "" ∧
      (HasClusterTags K clusterID machine.name inst.tags ∧ w' = w ∨
        c.tagResources w ⟨regionID, tagResourceTags clusterID machine.name, [inst.instanceId],
            ECSTagResourceTypeInstance⟩ = .ok () ∧
          w' = { w with
            trace := w.trace ++ [.tagResources ⟨regionID, tagResourceTags clusterID machine.name,
              [inst.instanceId], ECSTagResourceTypeInstance⟩]
            clock := w.clock + c.latency w }) := by
  unfold correctExistingTags at h
  by_cases hid : inst.instanceId = ""
  · simp [hid] at h
  rcases cluster : getClusterID machine with _ | clusterID
  · simp [hid, cluster] at h
  have missing : ∀ a b d : Bool, ((!a || !b) || !d) = true ↔ ¬(a = true ∧ b = true ∧ d = true) :=
    by decide
  simp only [hid, cluster, if_false, tagChecks_eq, missing] at h
  refine ⟨clusterID, rfl, hid, ?_⟩
  simp only [HasClusterTags, ← List.any_eq_true]
  split_ifs at h with tagged
  · exact .inl ⟨tagged, (Prod.mk.inj h).2.symm⟩
  · right
    simp only [TagResources, clientCall_run] at h
    rcases answer : c.tagResources w ⟨regionID, tagResourceTags clusterID machine.name,
      [inst.instanceId], ECSTagResourceTypeInstance⟩ with message | _ <;>
      simp only [answer, Prod.mk.injEq, reduceCtorEq, false_and] at h
    exact ⟨rfl, h.2.symm⟩

/-- On an instance with an ID and the three tags, `correctExistingTags` makes
no call and returns a nil error. -/
theorem correctExistingTags_of_hasClusterTags (K : TagConstants)
    (tagResourceTags : String → String → List Tag) {machine : Machine} {clusterID : String}
    (cluster : getClusterID machine = some clusterID) (regionID : String) {inst : Instance}
    (hid : inst.instanceId ≠ "") (tagged : HasClusterTags K clusterID machine.name inst.tags)
    (c : Cloud) (w : World) :
    correctExistingTags K tagResourceTags machine regionID inst c w = (.ok (), w) := by
  have missing : ∀ a b d : Bool, ((!a || !b) || !d) = true ↔ ¬(a = true ∧ b = true ∧ d = true) :=
    by decide
  simp only [HasClusterTags, ← List.any_eq_true] at tagged
  simp only [correctExistingTags, hid, cluster, if_false, tagChecks_eq, missing, tagged,
    not_true_eq_false]
  rfl

theorem buildTagList_lookup_and_drift (K : TagConstants) (tagResourceTags : String → String → List Tag)
    (machine : Machine) (clusterID regionID : String) (userTags : List Tag) (inst : Instance)
    (hcluster : getClusterID machine = some clusterID) (hname : machine.name ≠ "")
    (hid : inst.instanceId ≠ "")
    (htags : inst.tags =
      (covertToRunInstancesTag (buildTagList K machine.name clusterID userTags)).map toEcsTag) :
    let tags := covertToRunInstancesTag (buildTagList K machine.name clusterID userTags)
    ((tags.map Tag.key).Nodup ∧
      valueOf tags (clusterFilterKeyPrefix ++ clusterID) = some clusterFilterValue ∧
      valueOf tags clusterFilterName = some machine.name ∧
      valueOf tags K.clusterOwnedKey =
        some ((valueOf userTags K.clusterOwnedKey).getD K.clusterOwnedValue) ∧
      valueOf tags K.machineTagKeyFrom =
        some ((valueOf userTags K.machineTagKeyFrom).getD K.machineTagValueFrom) ∧
      valueOf tags K.machineIsvIntegrationTagKey =
        some ((valueOf userTags K.machineIsvIntegrationTagKey).getD K.machineTagValueFrom)) ∧
    (∀ t ∈ describeInstancesTags clusterID machine.name, t ∈ tags) ∧
    correctExistingTags K tagResourceTags machine regionID inst =
      if (valueOf userTags K.clusterOwnedKey).getD K.clusterOwnedValue = K.clusterOwnedValue then
        pure ()
      else TagResources ⟨regionID, tagResourceTags clusterID machine.name, [inst.instanceId],
        ECSTagResourceTypeInstance⟩ := by
  simp only [covertToRunInstancesTag, copyTags_eq] at htags ⊢
  obtain ⟨distinct, cluster, name, owned, rest⟩ :=
    buildTagList_cluster_tags K machine.name clusterID userTags
  refine ⟨⟨distinct, cluster, name, owned, rest⟩, ?_, ?_⟩
  · simp only [describeInstancesTags, List.mem_cons, List.mem_singleton, List.not_mem_nil, or_false]
    rintro t (rfl | rfl)
    exacts [(mem_iff_valueOf distinct _ _).mpr cluster, (mem_iff_valueOf distinct _ _).mpr name]
  · have clusterKey : clusterFilterKeyPrefix ++ clusterID ≠ "" := fun h => by
      have long : clusterFilterKeyPrefix.length ≤ (clusterFilterKeyPrefix ++ clusterID).length := by
        simp [String.length_append]
      rw [h] at long
      exact absurd long (by decide)
    have nameOk := any_matches_iff distinct (show clusterFilterName ≠ "" by decide) hname
    have clusterOk := any_matches_iff distinct clusterKey (show clusterFilterValue ≠ "" by decide)
    have ownedOk := any_matches_iff distinct K.owned_key_ne_empty K.owned_value_ne_empty
    rw [name, eq_self_iff_true, iff_true] at nameOk
    rw [cluster, eq_self_iff_true, iff_true] at clusterOk
    rw [owned, Option.some.injEq] at ownedOk
    simp only [correctExistingTags, hid, if_false, hcluster, tagChecks_eq, htags, nameOk, clusterOk]
    by_cases same : (valueOf userTags K.clusterOwnedKey).getD K.clusterOwnedValue = K.clusterOwnedValue
    · simp [same, ownedOk.mpr same]
    · simp [same, Bool.eq_false_iff.mpr (mt ownedOk.mp same)]

/-- Tag constants that meet the requirements of `TagConstants`; the values of
`filter.go` are not among the sources. -/
def TagConstants.sample : TagConstants where
  clusterOwnedKey := "owner"
  clusterOwnedValue := "cluster-api"
  machineTagKeyFrom := "created-by"
  machineTagValueFrom := "openshift"
  machineIsvIntegrationTagKey := "integration"
  owned_unreserved := by decide
  from_unreserved := by decide
  isv_unreserved := by decide
  owned_ne_from := by decide
  owned_ne_isv := by decide
  from_ne_isv := by decide
  owned_key_ne_empty := by decide
  owned_value_ne_empty := by decide

theorem buildTagList_lookup_and_drift_sample :
    let K := TagConstants.sample
    let machine : Machine := ⟨"worker", "openshift-machine-api", [(MachineClusterIDLabel, "cluster")]⟩
    let tags := covertToRunInstancesTag (buildTagList K machine.name "cluster" [])
    let inst : Instance := ⟨"i-a", ECSInstanceStatusRunning, "", tags.map toEcsTag⟩
    getClusterID machine = some "cluster" ∧ machine.name ≠ "" ∧ inst.instanceId ≠ "" ∧
      inst.tags = tags.map toEcsTag ∧
      (((tags.map Tag.key).Nodup ∧
          valueOf tags (clusterFilterKeyPrefix ++ "cluster") = some clusterFilterValue ∧
          valueOf tags clusterFilterName = some machine.name ∧
          valueOf tags K.clusterOwnedKey = some ((valueOf [] K.clusterOwnedKey).getD K.clusterOwnedValue) ∧
          valueOf tags K.machineTagKeyFrom =
            some ((valueOf [] K.machineTagKeyFrom).getD K.machineTagValueFrom) ∧
          valueOf tags K.machineIsvIntegrationTagKey =
            some ((valueOf [] K.machineIsvIntegrationTagKey).getD K.machineTagValueFrom)) ∧
        (∀ t ∈ describeInstancesTags "cluster" machine.name, t ∈ tags) ∧
        correctExistingTags K (fun _ _ => []) machine "cn-hangzhou" inst =
          if (valueOf [] K.clusterOwnedKey).getD K.clusterOwnedValue = K.clusterOwnedValue then pure ()
          else TagResources ⟨"cn-hangzhou", [], [inst.instanceId], ECSTagResourceTypeInstance⟩) :=
  ⟨rfl, by decide, by decide, rfl,
    buildTagList_lookup_and_drift TagConstants.sample (fun _ _ => [])
      ⟨"worker", "openshift-machine-api", [(MachineClusterIDLabel, "cluster")]⟩ "cluster" "cn-hangzhou" []
      _ rfl (by decide) (by decide) rfl⟩

end AlibabaActuator
