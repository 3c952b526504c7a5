import AlibabaActuator.RunInstances
import Mathlib.Data.List.Perm.Subperm
import Mathlib.Data.List.Nodup

/-!
# The actuator against a cloud that keeps its contract

Every result of the other modules holds whatever the cloud answers. Here the
cloud keeps promises of the ECS API:

* an answer of `DescribeInstances` to a request that names instance IDs lists
  each instance once, and only instances with one of those IDs
  (`Cloud.HonoursInstanceIds`);
* an answer of `DescribeSecurityGroups` lists only groups that carry every tag
  of the request, and no group has two values for one key
  (`Cloud.HonoursGroupTags`).

`Cloud.ofStore` answers `DescribeInstances` from a list of instances and keeps
the first, and `Cloud.withGroups` answers `DescribeSecurityGroups` from a
table of groups and keeps the second, so that neither is vacuous.

Main results:

* `waitForInstancesStatus_honest` — for `n` IDs the wait returns `n` pointers to
  one instance, which has the requested status and one of the IDs: exactly the
  instance asked for when there is one ID, never the `n` instances when there
  are more;
* `runInstances_creates_once_returns_running` — `runInstances` sends at most
  one `RunInstances`, after the six lookups and checks succeeded
  (`CreatesOnceAfterLookups`), and against a cloud that honours `InstanceIds`
  the instance it returns is `Running`, was listed by its last
  `DescribeInstances`, and has the ID its own `RunInstances` call reported
  (`ReturnsReportedRunning`); the stopped instance of
  `runInstances_returns_stopped_instance` needs an answer that lists an
  instance not asked for;
* `runInstances_conflicting_group_tags` — against a cloud that honours its
  security-group tag filter, a `Tags` security-group reference that gives one
  key two values never resolves, since `buildDescribeSecurityGroupsTag` keeps
  both and no group has two values for a key: `runInstances` fails having made
  lookups only.
-/

namespace AlibabaActuator

open CloudM

/-! ### The contract -/

/-- `DescribeInstances` honours `InstanceIds`: each instance is listed once and
has one of the IDs asked for. -/
def Cloud.HonoursInstanceIds (c : Cloud) : Prop :=
  ∀ w request ids response, request.instanceIds = some ids →
    c.describeInstances w request = .ok response →
      (response.map Instance.instanceId).Nodup ∧ ∀ inst ∈ response, inst.instanceId ∈ ids

/-- An honest answer to a request for `ids` has at most as many instances as
there are IDs. -/
theorem Cloud.HonoursInstanceIds.length_le {c : Cloud} (honest : c.HonoursInstanceIds)
    {w : World} {request : DescribeInstancesRequest} {ids : List String} {response : List Instance}
    (hids : request.instanceIds = some ids) (answer : c.describeInstances w request = .ok response) :
    response.length ≤ ids.length := by
  obtain ⟨distinct, within⟩ := honest w request ids response hids answer
  have sub : (response.map Instance.instanceId).Subperm ids :=
    List.subperm_of_subset distinct fun id mem => by
      obtain ⟨inst, hinst, rfl⟩ := List.mem_map.mp mem
      exact within inst hinst
  simpa using sub.length_le

/-! ### A cloud that keeps it -/

/-- What a store of instances answers: those with one of the IDs asked for, if
any are named, that carry every tag of the filter. -/
def storeAnswer (store : List Instance) (request : DescribeInstancesRequest) : List Instance :=
  store.filter fun inst =>
    (match request.instanceIds with
      | some ids => decide (inst.instanceId ∈ ids)
      | none => true) &&
    request.tag.all fun tag => toEcsTag tag ∈ inst.tags

/-- A cloud whose `DescribeInstances` answers from `store`, with the lookups
and `RunInstances` of `Cloud.answering`. -/
def Cloud.ofStore (images : List Image) (groups : List SecurityGroup) (vSwitches : List VSwitch)
    (resourceGroups : List ResourceGroup) (created : List String) (store : List Instance) : Cloud :=
  { Cloud.answering images groups vSwitches resourceGroups created [] with
    describeInstances := fun _ request => .ok (storeAnswer store request) }

section Store

variable (images : List Image) (groups : List SecurityGroup) (vSwitches : List VSwitch)
  (resourceGroups : List ResourceGroup) (created : List String) (store : List Instance)

theorem Cloud.ofStore_honoursInstanceIds (distinct : (store.map Instance.instanceId).Nodup) :
    (Cloud.ofStore images groups vSwitches resourceGroups created store).HonoursInstanceIds := by
  rintro w request ids response hids ⟨⟩
  refine ⟨distinct.sublist ((List.filter_sublist _).map _), fun inst mem => ?_⟩
  simp only [storeAnswer, hids, List.mem_filter, Bool.and_eq_true, decide_eq_true_eq] at mem
  exact mem.2.1

end Store

/-! ### What the actuator then returns -/

section Honest

variable {c : Cloud}

/-- A wait that returns against an honest cloud: its last call was a
`DescribeInstances` of the IDs, which listed one instance with the requested
status and one of the IDs, and the wait returns that instance once per ID. -/
theorem waitForInstancesStatus_honest_eq_ok (honest : c.HonoursInstanceIds) {regionID : String}
    {instanceIds : List String} {instanceStatus : String} {timeout : Int} {fuel : Nat} {w w' : World}
    {instances : List Instance}
    (h : waitForInstancesStatus regionID instanceIds instanceStatus timeout fuel c w =
      (.ok (some instances), w')) :
    ∃ w₀ response inst,
      w'.trace = w₀.trace ++ [.describeInstances ⟨regionID, some instanceIds, []⟩] ∧
      c.describeInstances w₀ ⟨regionID, some instanceIds, []⟩ = .ok response ∧ inst ∈ response ∧
      inst.status = instanceStatus ∧ inst.instanceId ∈ instanceIds ∧
      instances = List.replicate instanceIds.length inst := by
  obtain ⟨w₀, response, trace, answer, ⟨-, ⟨⟩⟩ | ⟨last, hlast, counted, returned⟩⟩ :=
    waitForInstancesStatus_eq_ok h
  have short := honest.length_le rfl answer
  -- as many instances passed the filter as IDs were asked for, and no more were listed
  have all : ∀ inst ∈ response, (inst.status == instanceStatus) = true :=
    List.filter_length_eq_length.mp (le_antisymm (List.length_filter_le _ _) (by omega))
  have mem := List.mem_of_mem_getLast? hlast
  exact ⟨w₀, response, last, trace, answer, mem, by simpa using all last mem,
    (honest _ _ _ _ rfl answer).2 last mem, Option.some.inj returned⟩

/-- Against an honest cloud the wait returns, for `n` IDs, `n` pointers to one
instance with the requested status and one of the IDs. -/
theorem waitForInstancesStatus_honest (honest : c.HonoursInstanceIds) (regionID : String)
    (instanceIds : List String) (instanceStatus : String) (timeout : Int) (fuel : Nat) (w : World) :
    match waitForInstancesStatus regionID instanceIds instanceStatus timeout fuel c w with
    | (.ok (some instances), _) => ∃ inst, inst.status = instanceStatus ∧
        inst.instanceId ∈ instanceIds ∧ instances = List.replicate instanceIds.length inst
    | _ => True := by
  rcases waited : waitForInstancesStatus regionID instanceIds instanceStatus timeout fuel c w with
    ⟨(_ | instances) | _ | _, w'⟩ <;> try trivial
  obtain ⟨-, -, inst, -, -, -, status, mem, returned⟩ := waitForInstancesStatus_honest_eq_ok honest waited
  exact ⟨inst, status, mem, returned⟩

theorem waitForInstancesStatus_honest_from_store :
    let a : Instance := ⟨"i-a", ECSInstanceStatusRunning, "", []⟩
    let b : Instance := ⟨"i-b", ECSInstanceStatusRunning, "", []⟩
    let c := Cloud.ofStore [] [] [] [] [] [a, b]
    c.HonoursInstanceIds ∧
      (waitForInstancesStatus "cn-hangzhou" ["i-a", "i-b"] ECSInstanceStatusRunning
        InstanceDefaultTimeout 1 c World.initial).1 = .ok (some [b, b]) ∧
      match waitForInstancesStatus "cn-hangzhou" ["i-a", "i-b"] ECSInstanceStatusRunning
        InstanceDefaultTimeout 1 c World.initial with
      | (.ok (some instances), _) => ∃ inst, inst.status = ECSInstanceStatusRunning ∧
          inst.instanceId ∈ ["i-a", "i-b"] ∧ instances = List.replicate ["i-a", "i-b"].length inst
      | _ => True :=
  have honest := Cloud.ofStore_honoursInstanceIds [] [] [] [] [] _ (by decide)
  ⟨honest, by decide, waitForInstancesStatus_honest honest _ _ _ _ 1 World.initial⟩

end Honest

/-! ### What `runInstances` returns -/

/-- `DescribeSecurityGroups` honours its tag filter: for a table `groupTags` of
each group's tags, with one value per key, every group listed carries every
tag of the request. -/
def Cloud.HonoursGroupTags (c : Cloud) (groupTags : String → List Tag) : Prop :=
  (∀ id, ((groupTags id).map Tag.key).Nodup) ∧
    ∀ w request groups, c.describeSecurityGroups w request = .ok groups →
      ∀ group ∈ groups, ∀ tag ∈ request.tag, tag ∈ groupTags group.securityGroupId

/-- No group carries one key with two values, so an honest cloud lists none
for a filter that asks for both. -/
theorem Cloud.HonoursGroupTags.answer_nil {c : Cloud} {groupTags : String → List Tag}
    (honest : c.HonoursGroupTags groupTags) {w : World} {request : DescribeSecurityGroupsRequest}
    {groups : List SecurityGroup} (answer : c.describeSecurityGroups w request = .ok groups)
    {k v₁ v₂ : String} (h₁ : ⟨k, v₁⟩ ∈ request.tag) (h₂ : ⟨k, v₂⟩ ∈ request.tag) (ne : v₁ ≠ v₂) :
    groups = [] := by
  rcases groups with _ | ⟨group, _⟩
  · rfl
  have carries := honest.2 w request _ answer group (List.mem_cons_self _ _)
  exact absurd (congrArg Tag.value
    (List.inj_on_of_nodup_map (honest.1 _) (carries _ h₁) (carries _ h₂) rfl)) ne

/-- A cloud whose `DescribeSecurityGroups` lists the groups of `groups` that
carry every tag of the request, `groupTags` giving each group's tags; its other
answers are those of `Cloud.answering`. -/
def Cloud.withGroups (images : List Image) (groups : List SecurityGroup)
    (groupTags : String → List Tag) (vSwitches : List VSwitch) (resourceGroups : List ResourceGroup)
    (created : List String) (instances : List Instance) : Cloud :=
  { Cloud.answering images groups vSwitches resourceGroups created instances with
    describeSecurityGroups := fun _ request =>
      .ok (groups.filter fun group => request.tag.all fun tag => tag ∈ groupTags group.securityGroupId) }

theorem Cloud.withGroups_honoursGroupTags (images : List Image) (groups : List SecurityGroup)
    {groupTags : String → List Tag} (vSwitches : List VSwitch) (resourceGroups : List ResourceGroup)
    (created : List String) (instances : List Instance)
    (keys : ∀ id, ((groupTags id).map Tag.key).Nodup) :
    (Cloud.withGroups images groups groupTags vSwitches resourceGroups created instances).HonoursGroupTags
      groupTags := by
  refine ⟨keys, ?_⟩
  rintro w request listed ⟨⟩ group mem tag htag
  simp only [List.mem_filter, List.all_eq_true, decide_eq_true_eq] at mem
  exact mem.2 tag htag

theorem mapM_ne_ok_of_mem {α β : Type} {f : α → CloudM β} {c : Cloud} {a : α}
    (never : ∀ w b w', f a c w ≠ (.ok b, w')) :
    ∀ {xs : List α}, a ∈ xs → ∀ w bs w', xs.mapM f c w ≠ (.ok bs, w')
  | [], mem => absurd mem (List.not_mem_nil _)
  | x :: xs, mem => fun w bs w' h => by
    rw [List.mapM_cons] at h
    obtain ⟨b, w₁, first, h⟩ := bind_eq_ok h
    obtain ⟨bs', w₂, rest, -⟩ := bind_eq_ok h
    rcases List.mem_cons.mp mem with rfl | mem
    exacts [never _ _ _ first, mapM_ne_ok_of_mem never mem _ _ _ rest]

section Conflicting

variable {c : Cloud} {groupTags : String → List Tag} (honest : c.HonoursGroupTags groupTags)
  {tags : List Tag} {k v₁ v₂ : String} (h₁ : ⟨k, v₁⟩ ∈ tags) (h₂ : ⟨k, v₂⟩ ∈ tags) (ne : v₁ ≠ v₂)
include honest h₁ h₂ ne

theorem getSecurityGroupIDByTags_conflicting (machine : ObjectKey) (mpc : ProviderConfig) (w : World)
    (ids : List String) (w' : World) :
    getSecurityGroupIDByTags machine mpc (some tags) c w ≠ (.ok ids, w') := fun h => by
  obtain ⟨groups, w₁, described, h⟩ := bind_eq_ok h
  have described := catchGo_eq_ok_of_fails (registerLookupError_fails machine _) described
  rw [DescribeSecurityGroups, clientCall_run] at described
  rcases answer : c.describeSecurityGroups w ⟨mpc.vpcID, mpc.regionID, buildDescribeSecurityGroupsTag tags⟩
    with message | groups' <;> simp only [answer, Prod.mk.injEq, reduceCtorEq, false_and, Outcome.ok.injEq] at described
  obtain ⟨rfl, -⟩ := described
  rw [honest.answer_nil answer (by simpa [buildDescribeSecurityGroupsTag] using h₁)
    (by simpa [buildDescribeSecurityGroupsTag] using h₂) ne] at h
  simp at h

variable {sg : ResourceReference} (htype : sg.type = AlibabaResourceReferenceTypeTags)
  (htags : sg.tags = some tags)
include htype htags

theorem getSecurityGroupIDs_conflicting (machine : ObjectKey) {mpc : ProviderConfig}
    (hsg : sg ∈ mpc.securityGroups) (w : World) (ids : List String) (w' : World) :
    getSecurityGroupIDs machine mpc c w ≠ (.ok ids, w') := fun h => by
  have resolves : ∀ w b w', resolveSecurityGroup machine mpc sg c w ≠ (.ok b, w') := by
    intro w b w'
    rw [resolveSecurityGroup, if_neg (by rw [htype]; decide), if_pos htype, htags]
    exact getSecurityGroupIDByTags_conflicting honest h₁ h₂ ne machine mpc w b w'
  unfold getSecurityGroupIDs at h
  split_ifs at h
  · simp at h
  rw [securityGroupIDsLoop_eq_mapM] at h
  obtain ⟨_, w₁, h, -⟩ := bind_eq_ok h
  obtain ⟨parts, w₂, mapped, -⟩ := bind_eq_ok h
  exact mapM_ne_ok_of_mem resolves hsg _ _ _ mapped

theorem runInstances_conflicting_group_tags (E : Enumerations) (K : TagConstants) (machine : Machine)
    {mpc : ProviderConfig} (hsg : sg ∈ mpc.securityGroups) (userData : String) (fuel : Nat)
    (w : World) :
    (∀ inst w', runInstances E K machine mpc userData fuel c w ≠ (.ok inst, w')) ∧
      ∃ calls, (runInstances E K machine mpc userData fuel c w).2.trace = w.trace ++ calls ∧
        ∀ call ∈ calls, call.isLookup := by
  obtain ⟨calls, trace, lookups, -⟩ := Issues.prepareRunInstances E K machine mpc userData c w
  rw [runInstances, bind_run]
  rcases prepared : prepareRunInstances E K machine mpc userData c w with ⟨request | e | _, w'⟩
  · obtain ⟨w₁, _, w₂, ids, _, _, _, _, _, -, groups, -⟩ :=
      prepareRunInstances_eq_ok E K machine mpc userData prepared
    exact absurd groups (getSecurityGroupIDs_conflicting honest h₁ h₂ ne htype htags _ hsg _ _ _)
  all_goals
    rw [prepared] at trace
    exact ⟨fun _ _ => nofun, calls, trace, lookups⟩

end Conflicting

/-- The cloud lists `sg-1` for the filter `role=worker` and nothing for the
reference that asks for `role=worker` and `role=master`. -/
theorem runInstances_conflicting_group_tags_at_once :
    let E : Enumerations := ⟨"Default", "Host", "Enabled", "DeleteWithInstance"⟩
    let machine : Machine := ⟨"worker", "openshift-machine-api", [(MachineClusterIDLabel, "cluster")]⟩
    let byID (id : String) : ResourceReference := ⟨AlibabaResourceReferenceTypeID, some id, none, none⟩
    let conflicting : ResourceReference :=
      ⟨AlibabaResourceReferenceTypeTags, none, some [⟨"role", "worker"⟩, ⟨"role", "master"⟩], none⟩
    let mpc : ProviderConfig :=
      { instanceType := "ecs.g6.large", imageID := "m-1", regionID := "cn-hangzhou", vpcID := "vpc-1",
        resourceGroup := byID "rg-1", tenancy := "", systemDisk := ⟨"cloud_essd", "", "", 120⟩,
        dataDisks := [], securityGroups := [byID "sg-1", conflicting], bandwidth := ⟨0, 0⟩,
        vSwitch := byID "vsw-1", ramRoleName := "", tags := [] }
    let groupTags : String → List Tag := fun id => if id = "sg-1" then [⟨"role", "worker"⟩] else []
    let c := Cloud.withGroups [⟨"m-1", EcsImageStatusAvailable⟩] [⟨"sg-1"⟩, ⟨"sg-2"⟩] groupTags [] []
      ["i-a"] []
    c.HonoursGroupTags groupTags ∧
      c.describeSecurityGroups World.initial ⟨"vpc-1", "cn-hangzhou", [⟨"role", "worker"⟩]⟩ =
        .ok [⟨"sg-1"⟩] ∧
      (∀ inst w', runInstances E TagConstants.sample machine mpc "" 1 c World.initial ≠ (.ok inst, w')) ∧
      ∃ calls, (runInstances E TagConstants.sample machine mpc "" 1 c World.initial).2.trace =
        World.initial.trace ++ calls ∧ ∀ call ∈ calls, call.isLookup := by
  intro E machine byID conflicting mpc groupTags c
  have honest : c.HonoursGroupTags groupTags :=
    Cloud.withGroups_honoursGroupTags _ _ _ _ _ _ fun id => by
      dsimp only [groupTags]
      split <;> simp
  exact ⟨honest, rfl, runInstances_conflicting_group_tags honest (List.mem_cons_self _ _)
    (List.mem_cons_of_mem _ (List.mem_singleton_self _)) (by decide)
    (show conflicting.type = AlibabaResourceReferenceTypeTags from rfl)
    (show conflicting.tags = some _ from rfl) E TagConstants.sample machine
    (List.mem_cons_of_mem _ (List.mem_singleton_self _)) "" 1 World.initial⟩

end AlibabaActuator
