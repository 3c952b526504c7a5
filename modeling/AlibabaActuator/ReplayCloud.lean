import AlibabaActuator.HonestCloud

/-!
# Repairs against a cloud that replays its writes

Here the cloud is a store of instances on which every write of the trace has
been applied, in order (`Cloud.replaying`): as ECS does, a `TagResources` tag
replaces the instance's tag with the same key, or is added (`tagInstance`),
and a `StopInstances` leaves the instances it names `Stopped`.

Against that cloud one tag repair is enough: after a pass of
`correctExistingTags` that returns, a lookup by ID finds the instance, and a
second pass on what it finds makes no call. The repair needs the tags it sets
to have distinct keys and to carry the three tags its checks look for;
`tagResourceTags` of `filter.go` is not among the sources, so this is a
hypothesis. And a `stopInstances` that returns leaves none of the instances it
was given running, whatever state the caller's copies of them were in, since
it stops what a fresh `DescribeInstances` reports.

Main results:

* `tagInstance_mem` — with distinct keys sent, every tag sent is on the
  instance afterwards;
* `replayStore_append` — a call appended to the trace acts on each instance of
  the store;
* `correctExistingTags_settles` — one pass of the repair is enough;
* `stopInstances_stops_all` — no instance given is running afterwards.
-/

namespace AlibabaActuator

open CloudM

/-! ### The cloud's tags -/

/-- ECS `TagResources` on one resource: each tag sent replaces the resource's
tag with the same key, or is added. -/
def tagInstance (tags : List EcsTag) (sent : List Tag) : List EcsTag :=
  sent.foldl (fun tags tag => tags.filter (·.tagKey != tag.key) ++ [toEcsTag tag]) tags

/-- A tag whose key is sent no more stays. -/
theorem tagInstance_keeps {tags : List EcsTag} {sent : List Tag} {e : EcsTag} (he : e ∈ tags)
    (other : ∀ tag ∈ sent, tag.key ≠ e.tagKey) : e ∈ tagInstance tags sent := by
  induction sent generalizing tags with
  | nil => exact he
  | cons tag sent ih =>
    rw [List.forall_mem_cons] at other
    exact ih (List.mem_append_left _ (List.mem_filter.mpr ⟨he, bne_iff_ne.mpr other.1.symm⟩))
      other.2

theorem tagInstance_mem {tags : List EcsTag} {sent : List Tag} (distinct : (sent.map Tag.key).Nodup)
    {tag : Tag} (mem : tag ∈ sent) : toEcsTag tag ∈ tagInstance tags sent := by
  induction sent generalizing tags with
  | nil => cases mem
  | cons first sent ih =>
    rw [List.map_cons, List.nodup_cons] at distinct
    rcases List.mem_cons.mp mem with rfl | mem
    · -- no later tag has its key, so the tag just added stays
      simp only [tagInstance, List.foldl_cons]
      exact tagInstance_keeps (List.mem_append_right _ (List.mem_singleton_self _))
        fun other hother same => distinct.1 (List.mem_map.mpr ⟨other, hother, same⟩)
    · exact ih distinct.2 mem

/-- An instance after one call: a `TagResources` that names its ID sets its
tags, a `StopInstances` that names it stops it. -/
def Instance.applyCall (inst : Instance) : Call → Instance
  | .tagResources request =>
    if inst.instanceId ∈ request.resourceId then { inst with tags := tagInstance inst.tags request.tag }
    else inst
  | .stopInstances request =>
    if inst.instanceId ∈ request.instanceId then { inst with status := ECSInstanceStatusStopped }
    else inst
  | _ => inst

@[simp] theorem Instance.applyCall_instanceId (inst : Instance) (call : Call) :
    (inst.applyCall call).instanceId = inst.instanceId := by
  cases call <;> simp only [Instance.applyCall] <;> split_ifs <;> rfl

/-- The store after the calls of `trace`, in order. -/
def replayStore (store : List Instance) (trace : List Call) : List Instance :=
  store.map fun inst => trace.foldl Instance.applyCall inst

theorem replayStore_append (store : List Instance) (trace : List Call) (call : Call) :
    replayStore store (trace ++ [call]) = (replayStore store trace).map (·.applyCall call) := by
  simp [replayStore, List.foldl_append, Function.comp_def]

theorem replayStore_ids (store : List Instance) (trace : List Call) :
    (replayStore store trace).map Instance.instanceId = store.map Instance.instanceId := by
  induction trace using List.reverseRecOn with
  | nil => simp [replayStore]
  | append_singleton trace call ih => simpa [replayStore_append, Function.comp_def] using ih

/-- A cloud whose instances are `store` with every write of the trace applied,
with the other answers of `Cloud.ofStore`. -/
def Cloud.replaying (store : List Instance) : Cloud :=
  { Cloud.ofStore [] [] [] [] [] [] with
    describeInstances := fun w request => .ok (storeAnswer (replayStore store w.trace) request) }

/-- With distinct IDs, a store answers a request for one instance's ID with
that instance. -/
theorem storeAnswer_one {store : List Instance} (distinct : (store.map Instance.instanceId).Nodup)
    {inst : Instance} (mem : inst ∈ store) (regionID : String) :
    storeAnswer store ⟨regionID, some [inst.instanceId], []⟩ = [inst] := by
  induction store with
  | nil => cases mem
  | cons first store ih =>
    rw [List.map_cons, List.nodup_cons] at distinct
    rcases List.mem_cons.mp mem with rfl | mem
    · have others : ∀ x ∈ store, x.instanceId ≠ inst.instanceId :=
        fun x hx same => distinct.1 (same ▸ List.mem_map_of_mem _ hx)
      simpa [storeAnswer, List.filter_eq_nil_iff] using others
    · have ne : first.instanceId ≠ inst.instanceId :=
        fun same => distinct.1 (same ▸ List.mem_map_of_mem _ mem)
      simpa [storeAnswer, ne] using ih distinct.2 mem

/-! ### One pass is enough -/

/-- After a `correctExistingTags` that returns, a lookup of the instance by ID
finds it, and a second pass on what it finds makes no call. -/
theorem correctExistingTags_settles (store : List Instance)
    (distinct : (store.map Instance.instanceId).Nodup) (K : TagConstants)
    (tagResourceTags : String → String → List Tag) (machine : Machine) (regionID : String)
    (covers : ∀ clusterID, getClusterID machine = some clusterID →
      ((tagResourceTags clusterID machine.name).map Tag.key).Nodup ∧
        HasClusterTags K clusterID machine.name ((tagResourceTags clusterID machine.name).map toEcsTag))
    (inst : Instance) (w : World) (current : inst ∈ replayStore store w.trace) :
    match correctExistingTags K tagResourceTags machine regionID inst (Cloud.replaying store) w with
    | (.ok (), w₁) => ∃ found err w₂,
        getExistingInstanceByID inst.instanceId regionID (Cloud.replaying store) w₁ =
          (.ok (found, err), w₂) ∧
        correctExistingTags K tagResourceTags machine regionID found (Cloud.replaying store) w₂ =
          (.ok (), w₂)
    | _ => True := by
  rcases pass : correctExistingTags K tagResourceTags machine regionID inst (Cloud.replaying store) w
    with ⟨⟨⟩ | _ | _, w₁⟩ <;> try trivial
  obtain ⟨clusterID, cluster, hid, outcome⟩ := correctExistingTags_eq_ok pass
  -- the instance as the cloud has it after the pass: as it was, or repaired
  obtain ⟨found, present, sameId, tagged⟩ : ∃ found, found ∈ replayStore store w₁.trace ∧
      found.instanceId = inst.instanceId ∧ HasClusterTags K clusterID machine.name found.tags := by
    rcases outcome with ⟨tagged, rfl⟩ | ⟨-, rfl⟩
    · exact ⟨inst, current, rfl, tagged⟩
    obtain ⟨keys, sent⟩ := covers clusterID cluster
    refine ⟨inst.applyCall (.tagResources ⟨regionID, tagResourceTags clusterID machine.name,
      [inst.instanceId], ECSTagResourceTypeInstance⟩), ?_, by simp, ?_⟩
    · rw [replayStore_append]
      exact List.mem_map_of_mem _ current
    · simp only [Instance.applyCall, List.mem_singleton, if_true]
      obtain ⟨⟨a, ha, ma⟩, ⟨b, hb, mb⟩, ⟨d, hd, md⟩⟩ := sent
      have kept : ∀ e ∈ (tagResourceTags clusterID machine.name).map toEcsTag,
          e ∈ tagInstance inst.tags (tagResourceTags clusterID machine.name) := fun e he => by
        obtain ⟨t, ht, rfl⟩ := List.mem_map.mp he
        exact tagInstance_mem keys ht
      exact ⟨⟨a, kept a ha, ma⟩, ⟨b, kept b hb, mb⟩, ⟨d, kept d hd, md⟩⟩
  have answer := storeAnswer_one (by rw [replayStore_ids]; exact distinct) present regionID
  rw [sameId] at answer
  exact ⟨found, _, _, getInstanceByID_of_answer hid (congrArg Except.ok answer),
    correctExistingTags_of_hasClusterTags K tagResourceTags cluster regionID (sameId ▸ hid) tagged _ _⟩

theorem correctExistingTags_settles_from_untagged :
    let K := TagConstants.sample
    let machine : Machine := ⟨"worker", "openshift-machine-api", [(MachineClusterIDLabel, "cluster")]⟩
    let tagResourceTags (clusterID machineName : String) : List Tag :=
      [⟨clusterFilterName, machineName⟩, ⟨clusterFilterKeyPrefix ++ clusterID, clusterFilterValue⟩,
        ⟨K.clusterOwnedKey, K.clusterOwnedValue⟩]
    let inst : Instance := ⟨"i-a", ECSInstanceStatusRunning, "", []⟩
    let store := [inst, ⟨"i-b", ECSInstanceStatusRunning, "", []⟩]
    (store.map Instance.instanceId).Nodup ∧
      (∀ clusterID, getClusterID machine = some clusterID →
        ((tagResourceTags clusterID machine.name).map Tag.key).Nodup ∧
          HasClusterTags K clusterID machine.name ((tagResourceTags clusterID machine.name).map toEcsTag)) ∧
      inst ∈ replayStore store World.initial.trace ∧
      (correctExistingTags K tagResourceTags machine "cn-hangzhou" inst (Cloud.replaying store)
        World.initial).2.trace.length = 1 ∧
      match correctExistingTags K tagResourceTags machine "cn-hangzhou" inst (Cloud.replaying store)
        World.initial with
      | (.ok (), w₁) => ∃ found err w₂,
          getExistingInstanceByID inst.instanceId "cn-hangzhou" (Cloud.replaying store) w₁ =
            (.ok (found, err), w₂) ∧
          correctExistingTags K tagResourceTags machine "cn-hangzhou" found (Cloud.replaying store) w₂ =
            (.ok (), w₂)
      | _ => True := by
  intro K machine tagResourceTags inst store
  have distinct : (store.map Instance.instanceId).Nodup := by decide
  have covers : ∀ clusterID, getClusterID machine = some clusterID →
      ((tagResourceTags clusterID machine.name).map Tag.key).Nodup ∧
        HasClusterTags K clusterID machine.name ((tagResourceTags clusterID machine.name).map toEcsTag) := by
    rintro clusterID ⟨⟩
    decide
  have current : inst ∈ replayStore store World.initial.trace := by decide
  exact ⟨distinct, covers, current, by decide,
    correctExistingTags_settles store distinct K tagResourceTags machine _ covers inst World.initial
      current⟩

/-! ### Stopping -/

/-- A `stopInstances` that returns leaves no instance with one of the IDs it
was given running: it stops every one the cloud reports `Running`, whatever
the state of the caller's copies. -/
theorem stopInstances_stops_all (store : List Instance) (regionID : String)
    (instances : List Instance) (w : World) :
    match stopInstances regionID instances (Cloud.replaying store) w with
    | (.ok _, w₁) => ∀ inst ∈ replayStore store w₁.trace,
        inst.instanceId ∈ instances.map Instance.instanceId → inst.status ≠ ECSInstanceStatusRunning
    | _ => True := by
  rcases run : stopInstances regionID instances (Cloud.replaying store) w with
    ⟨_ | _ | _, w₁⟩ <;> try trivial
  obtain ⟨existing, -, answer, trace⟩ := stopInstances_eq_ok run
  have described : storeAnswer (replayStore store w.trace)
      ⟨regionID, some (instances.map Instance.instanceId), []⟩ = existing := Except.ok.inj answer
  rintro _ mem hid
  rw [trace, ← List.singleton_append, ← List.append_assoc, replayStore_append, replayStore_append,
    List.map_map, List.mem_map] at mem
  obtain ⟨inst, current, rfl⟩ := mem
  simp only [Function.comp_apply, Instance.applyCall_instanceId] at hid
  simp only [Function.comp_apply, Instance.applyCall]
  split_ifs with stopped
  · exact show ECSInstanceStatusStopped ≠ ECSInstanceStatusRunning by decide
  · -- a running instance is in the answer, so its ID was sent
    refine fun running => stopped (List.mem_map_of_mem _ (List.mem_filter.mpr ⟨?_, by simp [running]⟩))
    rw [← described]
    simpa [storeAnswer] using ⟨current, List.mem_map.mp hid⟩

/-- The caller's copy says `Stopped`, the cloud's instance is `Running`: the
stop goes through and leaves it `Stopped`, and the instance not given keeps
running. -/
theorem stopInstances_stops_all_from_stale_copy :
    let running : Instance := ⟨"i-a", ECSInstanceStatusRunning, "", []⟩
    let store := [running, ⟨"i-b", ECSInstanceStatusRunning, "", []⟩]
    let given := [{ running with status := ECSInstanceStatusStopped }]
    let stopped := stopInstances "cn-hangzhou" given (Cloud.replaying store) World.initial
    stopped.1 = .ok [] ∧ (replayStore store stopped.2.trace).map Instance.status =
      [ECSInstanceStatusStopped, ECSInstanceStatusRunning] ∧
      match stopped with
      | (.ok _, w₁) => ∀ inst ∈ replayStore store w₁.trace,
          inst.instanceId ∈ given.map Instance.instanceId → inst.status ≠ ECSInstanceStatusRunning
      | _ => True :=
  ⟨by decide, by decide, stopInstances_stops_all _ _ _ World.initial⟩

end AlibabaActuator
