import Mathlib.Data.List.Basic

/-!
The data the machine actuator of `pkg/actuators/machine` reads and writes:
tags, ECS instances, resource references, the provider config and the Go
errors it returns.

Design notes (faithful to `instances.go` and `utils.go`):

* Every key/value tag type of the SDK requests (`RunInstancesTag`,
  `DescribeSecurityGroupsTag`, `DescribeVSwitchesTag`, `DescribeInstancesTag`,
  `TagResourcesTag`) has exactly the fields of `machinev1.Tag`, so all of them
  are `Tag`. The tags `DescribeInstances` reports on an instance are `EcsTag`,
  read through `TagKey` and `TagValue` as `correctExistingTags` does.
* A Go nil pointer is `none`; a Go map is an association list read with
  `List.lookup`.
* `filter.go` declares the tag constants and is not among the sources. The
  cluster filter constants are the ones the spec and `TestClusterTagFilter`
  give; the owned and provenance tags are the parameter `TagConstants`, whose
  fields state what the code and its tests require of them.

Main result: `validateMachine_cluster_id` — a machine that passes
`validateMachine` has a non-empty cluster label, which `getClusterID` returns; not
every machine with a cluster ID passes.
-/

namespace AlibabaActuator

/-! ### Tags -/

/-- `machinev1.Tag`, and every key/value tag type of the ECS and VPC requests. -/
structure Tag where
  key : String
  value : String
deriving DecidableEq, Repr

/-- `ecs.Tag` as `DescribeInstances` reports it on an instance. -/
structure EcsTag where
  tagKey : String
  tagValue : String
deriving DecidableEq, Repr

/-- The value of the first tag of `tags` with key `key`. -/
def valueOf (tags : List Tag) (key : String) : Option String :=
  (tags.find? (·.key == key)).map Tag.value

/-- Go `strings.HasPrefix(s, pre)`. -/
def hasPrefix (s pre : String) : Bool := pre.toList.isPrefixOf s.toList

/-- Modelled from the spec: `clusterFilterKeyPrefix` of `filter.go`, not among
the sources; the spec's ownership tag is `kubernetes.io/cluster/<clusterID>=owned`. -/
def clusterFilterKeyPrefix : String := "kubernetes.io/cluster/"

/-- Modelled from the spec: `clusterFilterValue` of `filter.go`, the value of the
ownership tag. -/
def clusterFilterValue : String := "owned"

/-- Modelled from the spec: `clusterFilterName` of `filter.go`, the key of the
`Name=<machineName>` tag. -/
def clusterFilterName : String := "Name"

/-- A key `buildTagList` keeps in the user's tags: neither under the cluster
prefix nor `Name`. -/
def Unreserved (key : String) : Prop :=
  hasPrefix key clusterFilterKeyPrefix = false ∧ key ≠ clusterFilterName

instance (key : String) : Decidable (Unreserved key) := inferInstanceAs (Decidable (_ ∧ _))

/-- The owned and provenance tag constants of `filter.go`. Their fields record
what the code relies on: the three keys are distinct and none is a key
`buildTagList` reserves (so the five fixed tags have five keys for every
cluster ID, as `TestBuildTagList` expects for one), and the owned tag is a
non-empty key and value (`TestCorrectExistingTags` expects it to pass the
owned-tag check). -/
structure TagConstants where
  clusterOwnedKey : String
  clusterOwnedValue : String
  machineTagKeyFrom : String
  machineTagValueFrom : String
  machineIsvIntegrationTagKey : String
  owned_unreserved : Unreserved clusterOwnedKey
  from_unreserved : Unreserved machineTagKeyFrom
  isv_unreserved : Unreserved machineIsvIntegrationTagKey
  owned_ne_from : clusterOwnedKey ≠ machineTagKeyFrom
  owned_ne_isv : clusterOwnedKey ≠ machineIsvIntegrationTagKey
  from_ne_isv : machineTagKeyFrom ≠ machineIsvIntegrationTagKey
  owned_key_ne_empty : clusterOwnedKey ≠ ""
  owned_value_ne_empty : clusterOwnedValue ≠ ""

/-! ### Instances -/

/-- `ecs.Instance`, with the fields the actuator reads. -/
structure Instance where
  instanceId : String
  status : String
  startTime : String
  tags : List EcsTag
deriving DecidableEq, Repr

/-- `ECSInstanceStatusPending` and the other statuses of `instances.go`. -/
def ECSInstanceStatusPending : String := "Pending"
def ECSInstanceStatusStarting : String := "Starting"
def ECSInstanceStatusRunning : String := "Running"
def ECSInstanceStatusStopping : String := "Stopping"
def ECSInstanceStatusStopped : String := "Stopped"

/-- `supportedInstanceStates`: the states of an instance that is not terminated. -/
def supportedInstanceStates : List String :=
  [ECSInstanceStatusPending, ECSInstanceStatusStarting, ECSInstanceStatusRunning,
    ECSInstanceStatusStopping, ECSInstanceStatusStopped]

/-! ### Machines -/

/-- `runtimeclient.ObjectKey` of a machine. -/
structure ObjectKey where
  name : String
  «namespace» : String
deriving DecidableEq, Repr

/-- `machinev1beta1.Machine`: its name, namespace and labels. -/
structure Machine where
  name : String
  «namespace» : String
  labels : List (String × String)
deriving DecidableEq, Repr

/-- The key `runInstances` builds from a machine. -/
def Machine.key (machine : Machine) : ObjectKey := ⟨machine.name, machine.«namespace»⟩

/-- `machinev1beta1.MachineClusterIDLabel`, the label `getClusterID` reads first
(`machine.openshift.io/cluster-api-cluster`, as its comment says). -/
def MachineClusterIDLabel : String := "machine.openshift.io/cluster-api-cluster"

/-- `upstreamMachineClusterIDLabel`. -/
def upstreamMachineClusterIDLabel : String := "sigs.k8s.io/cluster-api-cluster"

/-- `getClusterID`: the cluster label, or else the upstream one; `none` is Go's
`ok == false`. -/
def getClusterID (machine : Machine) : Option String :=
  match machine.labels.lookup MachineClusterIDLabel with
  | some clusterID => some clusterID
  | none => machine.labels.lookup upstreamMachineClusterIDLabel

/-! ### Provider config -/

/-- `machinev1.AlibabaResourceReference`: `Type` selects which of `ID`, `Tags`
and `Name` is read. -/
structure ResourceReference where
  type : String
  id : Option String
  tags : Option (List Tag)
  name : Option String
deriving DecidableEq, Repr

/-- Modelled from the spec: `machinev1.AlibabaResourceReferenceTypeID`, the
`{Type: ID, value}` reference. -/
def AlibabaResourceReferenceTypeID : String := "ID"

/-- Modelled from the spec: `machinev1.AlibabaResourceReferenceTypeTags`, the
`{Type: Tags, predicate}` reference. -/
def AlibabaResourceReferenceTypeTags : String := "Tags"

/-- Modelled from the spec: `machinev1.AlibabaResourceReferenceTypeName`, the
`{Type: Name, value}` reference. -/
def AlibabaResourceReferenceTypeName : String := "Name"

/-- `machinev1.SystemDiskProperties`. -/
structure SystemDiskProperties where
  category : String
  performanceLevel : String
  name : String
  size : Int
deriving DecidableEq, Repr

/-- `machinev1.DataDiskProperties`. -/
structure DataDiskProperties where
  name : String
  snapshotID : String
  size : Int
  diskEncryption : String
  performanceLevel : String
  category : String
  kmsKeyID : String
  diskPreservation : String
deriving DecidableEq, Repr

/-- `machinev1.BandwidthProperties`. -/
structure BandwidthProperties where
  internetMaxBandwidthIn : Int
  internetMaxBandwidthOut : Int
deriving DecidableEq, Repr

/-- `machinev1.AlibabaCloudMachineProviderConfig`, with the fields `runInstances`
and the resolvers read. -/
structure ProviderConfig where
  instanceType : String
  imageID : String
  regionID : String
  vpcID : String
  resourceGroup : ResourceReference
  tenancy : String
  systemDisk : SystemDiskProperties
  dataDisks : List DataDiskProperties
  securityGroups : List ResourceReference
  bandwidth : BandwidthProperties
  vSwitch : ResourceReference
  ramRoleName : String
  tags : List Tag
deriving DecidableEq, Repr

/-- The `machinev1` enumeration values `runInstances` compares with. The API
package is not among the sources and the spec does not give them. -/
structure Enumerations where
  DefaultTenancy : String
  HostTenancy : String
  AlibabaDiskEncryptionEnabled : String
  DeleteWithInstance : String

/-! ### Errors -/

/-- A Go `error` the actuator returns: a plain `errors.New` or `fmt.Errorf`
value, or a `MachineError` built by `InvalidMachineConfiguration` or
`CreateMachine` of machine-api-operator. A client error is `plain`. -/
inductive GoError where
  | plain (message : String)
  | invalidMachineConfiguration (message : String)
  | createMachine (message : String)
deriving DecidableEq, Repr

/-- `err.Error()`, what `%v` prints. -/
def GoError.error : GoError → String
  | .plain message => message
  | .invalidMachineConfiguration message => message
  | .createMachine message => message

/-- `%q` of a machine name (a DNS subdomain, which `strconv.Quote` leaves as it is). -/
def quote (s : String) : String := "\"" ++ s ++ "\""

/-- `%v` of a `[]string`. -/
def goStrings (ids : List String) : String := "[" ++ " ".intercalate ids ++ "]"

/-! ### Machine validation -/

/-- `for _, x := range xs { if keep(x) { out = append(out, &x) } }` under the
loop semantics of Go before 1.22: one variable `x` serves every iteration, so
every `&x` appended is the same pointer, and once the loop is over it reads the
last element of `xs`. The result is what the appended pointers read. -/
def rangeAppendAddr {α : Type} (xs : List α) (keep : α → Bool) : List α :=
  match xs.getLast? with
  | none => []
  | some last => (xs.filter keep).map fun _ => last

/-- Every pointer the loop appended reads the last element. -/
theorem rangeAppendAddr_eq_replicate {α : Type} {xs : List α} {last : α}
    (h : xs.getLast? = some last) (keep : α → Bool) :
    rangeAppendAddr xs keep = List.replicate (xs.filter keep).length last := by
  simp only [rangeAppendAddr, h, List.map_const']

/-- What the appended pointers read is an element of the ranged list. -/
theorem mem_of_mem_rangeAppendAddr {α : Type} {xs : List α} {keep : α → Bool} {x : α}
    (h : x ∈ rangeAppendAddr xs keep) : x ∈ xs := by
  cases last : xs.getLast? with
  | none => simp [rangeAppendAddr, last] at h
  | some last' =>
    rw [rangeAppendAddr_eq_replicate last, List.mem_replicate] at h
    exact h.2 ▸ List.mem_of_mem_getLast? last

end AlibabaActuator
