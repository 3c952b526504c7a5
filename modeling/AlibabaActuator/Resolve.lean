import AlibabaActuator.Cloud
import AlibabaActuator.Tags

/-!
The lookups `runInstances` makes before it creates an instance: `getImageID`,
`getSecurityGroupIDs` (with `getSecurityGroupIDByTags`), `getVSwitchID` (with
`getVSwitchIDFromTags`) and `getResourceGroupId` (with
`getResourceGroupIdFromName`).

Main results:

* `securityGroupIDsLoop_eq_mapM` — the `for` loop of `getSecurityGroupIDs`,
  with its accumulator, is the concatenation in reference order of what each
  reference resolves to (`resolveSecurityGroup`);
* `getSecurityGroupIDs_eq_concat` — hence `getSecurityGroupIDs` is that
  concatenation, and its final `len(securityGroupIDs) == 0` branch is dead code;
* `getSecurityGroupIDs_empty_tags_unfiltered` — a `Tags` reference whose list
  is `&[]Tag{}` passes the `tags == nil` check and resolves through a describe
  request with no tag filter, for security groups and for vswitches alike;
* `Closed.getImageID`, `Closed.getSecurityGroupIDs`, `Closed.getVSwitchID`,
  `Closed.getResourceGroupId` — every property that `Closed` step by step and
  holds of one lookup call holds of the lookups: they only issue lookup calls
  (`Issues.lookupCall`), and a failed one is counted once (`RecordsOnFailure.lookupCall`).

Design notes: a reference whose `ID` (or `Name`) is `nil` or `""` is read with
`Option.filter`, the `p != nil && *p != ""` test of the source. `klog` lines
are left out; the `Scheme = "https"` of each request is not part of `Call`.
-/

namespace AlibabaActuator

open CloudM

/-- `EcsImageStatusAvailable`. -/
def EcsImageStatusAvailable : String := "Available"

/-- The `if err != nil` block after the client call of `getImageID`,
`getSecurityGroupIDByTags`, `getVSwitchIDFromTags` and
`getResourceGroupIdFromName`: the failure is recorded by
`metrics.RegisterFailedInstanceCreate` and returned as `context: err`. -/
def registerLookupError {α : Type} (machine : ObjectKey) (context : String) (err : GoError) :
    CloudM α := do
  registerFailedInstanceCreate ⟨machine.name, machine.namespace, err.error⟩
  fail (.plain (context ++ ": " ++ err.error))

theorem registerLookupError_fails {α : Type} (machine : ObjectKey) (context : String) (err : GoError)
    (c : Cloud) (w : World) (a : α) (w' : World) :
    (registerLookupError machine context err : CloudM α) c w ≠ (.ok a, w') := nofun

/-- Labels of a failed create of `machine`, with any reason. -/
def MachineLabels.For (machine : ObjectKey) (labels : MachineLabels) : Prop :=
  labels.name = machine.name ∧ labels.namespace = machine.namespace

/-! ### The lookups -/

/-- `getImageID`: the first image `DescribeImages` returns must be available. -/
def getImageID (machine : ObjectKey) (mpc : ProviderConfig) : CloudM String := do
  let images ← (DescribeImages ⟨mpc.imageID, mpc.regionID, true⟩).catchGo
    (registerLookupError machine "error describing Images")
  match images with
  | [] => fail (.plain "no image for given filters not found")
  | image :: _ =>
    if image.status ≠ EcsImageStatusAvailable then
      fail (.plain (mpc.imageID ++ " invalid image status: " ++ image.status))
    else pure image.imageId

/-- `getSecurityGroupIDByTags`: every group `DescribeSecurityGroups` returns
for the tags. -/
def getSecurityGroupIDByTags (machine : ObjectKey) (mpc : ProviderConfig) :
    Option (List Tag) → CloudM (List String)
  | none => fail (.invalidMachineConfiguration
      ("No tags provided for security group ID search for machine: " ++ quote machine.name))
  | some tags => do
    let groups ← (DescribeSecurityGroups ⟨mpc.vpcID, mpc.regionID,
      buildDescribeSecurityGroupsTag tags⟩).catchGo
      (registerLookupError machine "error describing securitygroup")
    if groups.length < 1 then fail (.plain "no securitygroup for given tags not found")
    else pure (groups.map SecurityGroup.securityGroupId)

/-- The `for _, sg := range SecurityGroups` loop of `getSecurityGroupIDs`,
appending to `securityGroupIDs`. -/
def securityGroupIDsLoop (machine : ObjectKey) (mpc : ProviderConfig) :
    List ResourceReference → List String → CloudM (List String)
  | [], securityGroupIDs => pure securityGroupIDs
  | sg :: rest, securityGroupIDs =>
    if sg.type = AlibabaResourceReferenceTypeID then
      match sg.id.filter (· != "") with
      | some id => securityGroupIDsLoop machine mpc rest (securityGroupIDs ++ [id])
      | none => fail (.invalidMachineConfiguration "No security group ID provided")
    else if sg.type = AlibabaResourceReferenceTypeTags then do
      let ids ← getSecurityGroupIDByTags machine mpc sg.tags
      securityGroupIDsLoop machine mpc rest (securityGroupIDs ++ ids)
    else fail (.invalidMachineConfiguration
      ("Unknown security group resource reference type: " ++ sg.type))

/-- `getSecurityGroupIDs`. -/
def getSecurityGroupIDs (machine : ObjectKey) (mpc : ProviderConfig) : CloudM (List String) :=
  if mpc.securityGroups.length = 0 then fail (.plain "no security configuration provided")
  else do
    let securityGroupIDs ← securityGroupIDsLoop machine mpc mpc.securityGroups []
    if securityGroupIDs.length = 0 then
      fail (.plain "no securitygroup IDs found from configuration")
    else pure securityGroupIDs

/-- `getVSwitchIDFromTags`: the first vswitch `DescribeVSwitches` returns. -/
def getVSwitchIDFromTags (machine : ObjectKey) (mpc : ProviderConfig) : CloudM String :=
  match mpc.vSwitch.tags with
  | none => fail (.invalidMachineConfiguration
      ("No tags provided for VSwitch ID search for machine: " ++ quote machine.name))
  | some tags => do
    let vSwitches ← (DescribeVSwitches ⟨mpc.regionID, mpc.vpcID,
      buildDescribeVSwitchesTag tags⟩).catchGo
      (registerLookupError machine "error describing vswitches")
    match vSwitches with
    | [] => fail (.plain "no vswitches found for given tags, vpcid, and regionid")
    | vSwitch :: _ => pure vSwitch.vSwitchId

/-- `getVSwitchID`. -/
def getVSwitchID (machine : ObjectKey) (mpc : ProviderConfig) : CloudM String :=
  if mpc.vSwitch.type = AlibabaResourceReferenceTypeID then
    match mpc.vSwitch.id.filter (· != "") with
    | some id => pure id
    | none => fail (.invalidMachineConfiguration "No vswitch resource id provided")
  else if mpc.vSwitch.type = AlibabaResourceReferenceTypeTags then getVSwitchIDFromTags machine mpc
  else fail (.invalidMachineConfiguration
    ("Unknown vswitch resource reference type: " ++ mpc.vSwitch.type))

/-- `getResourceGroupIdFromName`: the first group `ListResourceGroups` returns
for the name. -/
def getResourceGroupIdFromName (machine : ObjectKey) (mpc : ProviderConfig) : CloudM String :=
  match mpc.resourceGroup.name.filter (· != "") with
  | none => fail (.invalidMachineConfiguration
      ("No name provided for resource Group ID search for machine: " ++ quote machine.name))
  | some name => do
    let groups ← (ListResourceGroups ⟨name, mpc.regionID⟩).catchGo
      (registerLookupError machine "error list resourcegroups")
    match groups with
    | [] => fail (.plain "no resourcegroups for given name  found")
    | group :: _ => pure group.id

/-- `getResourceGroupId`. -/
def getResourceGroupId (machine : ObjectKey) (mpc : ProviderConfig) : CloudM String :=
  if mpc.resourceGroup.type = AlibabaResourceReferenceTypeID then
    match mpc.resourceGroup.id.filter (· != "") with
    | some id => pure id
    | none => fail (.invalidMachineConfiguration "No resource group ID provided")
  else if mpc.resourceGroup.type = AlibabaResourceReferenceTypeName then
    getResourceGroupIdFromName machine mpc
  else fail (.invalidMachineConfiguration
    ("unknown resource group reference type: " ++ mpc.resourceGroup.type))

/-! ### The security-group loop is a concatenation -/

section SecurityGroups

variable (machine : ObjectKey) (mpc : ProviderConfig)

/-- What one entry of `SecurityGroups` resolves to: its literal ID, or every
group its tags select. -/
def resolveSecurityGroup (sg : ResourceReference) : CloudM (List String) :=
  if sg.type = AlibabaResourceReferenceTypeID then
    match sg.id.filter (· != "") with
    | some id => pure [id]
    | none => fail (.invalidMachineConfiguration "No security group ID provided")
  else if sg.type = AlibabaResourceReferenceTypeTags then getSecurityGroupIDByTags machine mpc sg.tags
  else fail (.invalidMachineConfiguration
    ("Unknown security group resource reference type: " ++ sg.type))

theorem securityGroupIDsLoop_eq_mapM (refs : List ResourceReference) (acc : List String) :
    securityGroupIDsLoop machine mpc refs acc =
      (do let parts ← refs.mapM (resolveSecurityGroup machine mpc); pure (acc ++ parts.flatten)) := by
  induction refs generalizing acc with
  | nil => simp only [securityGroupIDsLoop, List.mapM_nil, pure_bind, List.flatten_nil, List.append_nil]
  | cons sg rest ih =>
    simp only [securityGroupIDsLoop, resolveSecurityGroup, List.mapM_cons]
    split_ifs
    · split <;> simp [ih]
    · simp [ih]
    · simp

theorem getSecurityGroupIDByTags_nonempty (tags : Option (List Tag)) :
    Returns (· ≠ []) (getSecurityGroupIDByTags machine mpc tags) := by
  cases tags with
  | none => exact Returns.fail _
  | some tags =>
    refine Returns.bind (Returns.true _) fun groups _ => ?_
    split_ifs with h
    · exact Returns.fail _
    · exact Returns.pure (by simpa [← List.length_pos] using h)

theorem resolveSecurityGroup_nonempty (sg : ResourceReference) :
    Returns (· ≠ []) (resolveSecurityGroup machine mpc sg) := by
  unfold resolveSecurityGroup
  split_ifs
  · split
    · exact Returns.pure (List.cons_ne_nil _ _)
    · exact Returns.fail _
  · exact getSecurityGroupIDByTags_nonempty machine mpc _
  · exact Returns.fail _

/-- Every part `mapM` collects is non-empty, and there is one per reference. -/
theorem mapM_resolveSecurityGroup_returns (refs : List ResourceReference) :
    Returns (fun parts => parts.length = refs.length ∧ ∀ part ∈ parts, part ≠ [])
      (refs.mapM (resolveSecurityGroup machine mpc)) := by
  induction refs with
  | nil => exact Returns.pure (by simp)
  | cons sg rest ih =>
    rw [List.mapM_cons]
    refine Returns.bind (resolveSecurityGroup_nonempty machine mpc sg) fun part hpart =>
      Returns.bind ih fun parts ⟨hlen, hparts⟩ => Returns.pure ?_
    simp only [List.length_cons, hlen, List.mem_cons, forall_eq_or_imp, true_and]
    exact ⟨hpart, hparts⟩

theorem getSecurityGroupIDs_eq_concat :
    getSecurityGroupIDs machine mpc =
      if mpc.securityGroups.length = 0 then fail (.plain "no security configuration provided")
      else (do
        let parts ← mpc.securityGroups.mapM (resolveSecurityGroup machine mpc)
        pure parts.flatten) := by
  unfold getSecurityGroupIDs
  split_ifs with hempty
  · rfl
  · rw [securityGroupIDsLoop_eq_mapM, bind_assoc]
    refine bind_congr_of_returns (mapM_resolveSecurityGroup_returns machine mpc _) ?_
    rintro parts ⟨hlen, hparts⟩
    obtain ⟨part, rest, rfl⟩ := List.exists_cons_of_length_pos (by omega : 0 < parts.length)
    have hpart := hparts part (List.mem_cons_self _ _)
    simp [List.length_eq_zero, hpart]

/-! ### A `Tags` reference with an empty list -/

/-- A `Tags` reference whose tag list is `&[]Tag{}`. -/
def emptyTagsReference : ResourceReference := ⟨AlibabaResourceReferenceTypeTags, none, some [], none⟩

theorem getSecurityGroupIDs_empty_tags_unfiltered :
    getSecurityGroupIDs machine { mpc with securityGroups := [emptyTagsReference] } =
      (do
        let groups ← (DescribeSecurityGroups ⟨mpc.vpcID, mpc.regionID, []⟩).catchGo
          (registerLookupError machine "error describing securitygroup")
        if groups.length < 1 then fail (.plain "no securitygroup for given tags not found")
        else pure (groups.map SecurityGroup.securityGroupId)) ∧
    getVSwitchID machine { mpc with vSwitch := emptyTagsReference } =
      (do
        let vSwitches ← (DescribeVSwitches ⟨mpc.regionID, mpc.vpcID, []⟩).catchGo
          (registerLookupError machine "error describing vswitches")
        match vSwitches with
        | [] => fail (.plain "no vswitches found for given tags, vpcid, and regionid")
        | vSwitch :: _ => pure vSwitch.vSwitchId) := by
  constructor
  · have tags_ne_id : AlibabaResourceReferenceTypeTags ≠ AlibabaResourceReferenceTypeID := by decide
    let mpc' := { mpc with securityGroups := [emptyTagsReference] }
    have loop : securityGroupIDsLoop machine mpc' [emptyTagsReference] [] =
        getSecurityGroupIDByTags machine mpc' (some []) := by
      simp [securityGroupIDsLoop, emptyTagsReference, tags_ne_id]
    have unchecked : (getSecurityGroupIDByTags machine mpc' (some []) >>= fun ids =>
          if ids.length = 0 then fail (.plain "no securitygroup IDs found from configuration")
          else pure ids) = getSecurityGroupIDByTags machine mpc' (some []) := by
      conv_rhs => rw [← bind_pure (getSecurityGroupIDByTags machine mpc' (some []))]
      exact bind_congr_of_returns (getSecurityGroupIDByTags_nonempty machine mpc' (some []))
        fun ids hids => by simp [hids]
    simp only [getSecurityGroupIDs, List.length_singleton, Nat.one_ne_zero, if_false]
    rw [loop, unchecked]
    simp [mpc', getSecurityGroupIDByTags, buildDescribeSecurityGroupsTag]
  · simp [getVSwitchID, emptyTagsReference, AlibabaResourceReferenceTypeTags,
      AlibabaResourceReferenceTypeID, getVSwitchIDFromTags, buildDescribeVSwitchesTag, copyTags]

end SecurityGroups

/-- `getImageID` ends in a value or a Go error. -/
theorem getImageID_ne_outOfFuel (machine : ObjectKey) (mpc : ProviderConfig) (c : Cloud) (w : World) :
    (getImageID machine mpc c w).1 ≠ .outOfFuel := by
  rw [getImageID, bind_run, CloudM.catchGo, DescribeImages, clientCall_run]
  rcases c.describeImages w ⟨mpc.imageID, mpc.regionID, true⟩ with message | _ | ⟨image, _⟩
  · nofun
  · nofun
  · dsimp only
    split_ifs <;> nofun

/-! ### What every lookup keeps -/

section Lookups

variable {P : (α : Type) → CloudM α → Prop} (h : Closed P) {machine : ObjectKey}
  (lookup : ∀ {α : Type} (record : Call) (answer : Cloud → World → Except String α)
    (context : String), record.isLookup →
      P α ((clientCall record answer).catchGo (registerLookupError machine context)))
  (mpc : ProviderConfig)
include h lookup

theorem Closed.getImageID : P _ (AlibabaActuator.getImageID machine mpc) := by
  refine h.bind (lookup _ _ _ rfl) fun images => ?_
  rcases images with _ | ⟨image, _⟩
  · exact h.fail _
  · dsimp only
    split_ifs
    exacts [h.fail _, h.pure _]

theorem Closed.getSecurityGroupIDByTags (tags : Option (List Tag)) :
    P _ (AlibabaActuator.getSecurityGroupIDByTags machine mpc tags) := by
  cases tags with
  | none => exact h.fail _
  | some tags =>
    refine h.bind (lookup _ _ _ rfl) fun groups => ?_
    split_ifs
    exacts [h.fail _, h.pure _]

theorem Closed.securityGroupIDsLoop (refs : List ResourceReference) (acc : List String) :
    P _ (AlibabaActuator.securityGroupIDsLoop machine mpc refs acc) := by
  induction refs generalizing acc with
  | nil => exact h.pure _
  | cons sg rest ih =>
    unfold AlibabaActuator.securityGroupIDsLoop
    split_ifs
    · split
      exacts [ih _, h.fail _]
    · exact h.bind (h.getSecurityGroupIDByTags lookup mpc _) fun _ => ih _
    · exact h.fail _

theorem Closed.getSecurityGroupIDs : P _ (AlibabaActuator.getSecurityGroupIDs machine mpc) := by
  unfold AlibabaActuator.getSecurityGroupIDs
  split_ifs
  · exact h.fail _
  · refine h.bind (h.securityGroupIDsLoop lookup mpc _ _) fun _ => ?_
    split_ifs
    exacts [h.fail _, h.pure _]

theorem Closed.getVSwitchID : P _ (AlibabaActuator.getVSwitchID machine mpc) := by
  unfold AlibabaActuator.getVSwitchID AlibabaActuator.getVSwitchIDFromTags
  split_ifs
  · split
    exacts [h.pure _, h.fail _]
  · split
    · exact h.fail _
    · refine h.bind (lookup _ _ _ rfl) fun vSwitches => ?_
      rcases vSwitches with _ | ⟨vSwitch, _⟩
      exacts [h.fail _, h.pure _]
  · exact h.fail _

theorem Closed.getResourceGroupId : P _ (AlibabaActuator.getResourceGroupId machine mpc) := by
  unfold AlibabaActuator.getResourceGroupId AlibabaActuator.getResourceGroupIdFromName
  split_ifs
  · split
    exacts [h.pure _, h.fail _]
  · split
    · exact h.fail _
    · refine h.bind (lookup _ _ _ rfl) fun groups => ?_
      rcases groups with _ | ⟨group, _⟩
      exacts [h.fail _, h.pure _]
  · exact h.fail _

end Lookups

/-- A lookup call issues one lookup, and its error handler none. -/
theorem Issues.lookupCall (machine : ObjectKey) {α : Type} (record : Call)
    (answer : Cloud → World → Except String α) (context : String) (h : record.isLookup) :
    Issues (fun call => call.isLookup)
      ((AlibabaActuator.clientCall record answer).catchGo (registerLookupError machine context)) :=
  .catchGo (.clientCall h _) fun _ => .bind (.registerFailedInstanceCreate _) fun _ => .fail _

/-- A failed lookup call is counted once, for `machine`. -/
theorem RecordsOnFailure.lookupCall (machine : ObjectKey) {α : Type} (record : Call)
    (answer : Cloud → World → Except String α) (context : String) (_ : record.isLookup) :
    RecordsOnFailure (MachineLabels.For machine)
      ((AlibabaActuator.clientCall record answer).catchGo (registerLookupError machine context)) :=
  .catchGo_silent (.clientCall _ _) fun _ => .registerFailedInstanceCreate_fail ⟨rfl, rfl⟩ _

end AlibabaActuator
