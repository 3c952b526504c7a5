import AlibabaActuator.Types

/-!
Tag lists: `removeDuplicatedTags`, `buildTagList` and the request tag
builders of `instances.go`.

* `removeDuplicatedTags_keeps_first` — the dedup loop keeps exactly the entries
  whose key does not occur earlier: distinct keys, the same key set, the value
  of each key's first occurrence, the original order, and idempotence. The loop
  invariant is `freshFrom`: the map `m` is the set of keys already kept.
* `buildTagList_cluster_tags` — the cluster-ownership and `Name` tags always
  carry their fixed values; the owned and provenance tags carry the value of
  the first user tag with their key, if there is one.
* `buildDescribeTags_keep_repeated_key` — `buildDescribeSecurityGroupsTag` and
  `buildDescribeVSwitchesTag` copy every entry, so they agree with
  `removeDuplicatedTags` exactly on lists whose keys are already distinct
  (`copyTags_eq_dedup_iff`), and on the third case of their tests they keep
  the repeated key the tests expect dropped.
* `buildTagList_user_owned_tag_wins` — whatever the owned and provenance
  constants, a user tag with the owned key and another value is kept in place
  of the fixed owned tag.
-/

namespace AlibabaActuator

/-! ### `removeDuplicatedTags` -/

/-- One iteration of the loop of `removeDuplicatedTags`: `state.1` is the map `m`
of keys already kept, `state.2` the result so far. -/
def dedupStep (state : List String × List Tag) (entry : Tag) : List String × List Tag :=
  if entry.key ∈ state.1 then state else (entry.key :: state.1, state.2 ++ [entry])

/-- `removeDuplicatedTags`: "The first found value gets precedence." -/
def removeDuplicatedTags (tags : List Tag) : List Tag :=
  (tags.foldl dedupStep ([], [])).2

/-- The entries of `tags` whose key is neither in `seen` nor the key of an
earlier entry. -/
def freshFrom (seen : List String) : List Tag → List Tag
  | [] => []
  | t :: ts => if t.key ∈ seen then freshFrom seen ts else t :: freshFrom (t.key :: seen) ts

theorem foldl_dedupStep (seen : List String) (result : List Tag) :
    ∀ tags : List Tag, (tags.foldl dedupStep (seen, result)).2 = result ++ freshFrom seen tags
  | [] => by simp [freshFrom]
  | t :: ts => by
    by_cases h : t.key ∈ seen
    · simp [dedupStep, freshFrom, h, foldl_dedupStep seen result ts]
    · simp [dedupStep, freshFrom, h, foldl_dedupStep (t.key :: seen) (result ++ [t]) ts]

theorem removeDuplicatedTags_eq_freshFrom (tags : List Tag) :
    removeDuplicatedTags tags = freshFrom [] tags := by
  simp [removeDuplicatedTags, foldl_dedupStep]

theorem freshFrom_sublist (seen : List String) :
    ∀ tags : List Tag, (freshFrom seen tags).Sublist tags
  | [] => .slnil
  | t :: ts => by
    unfold freshFrom
    split
    · exact (freshFrom_sublist seen ts).cons t
    · exact (freshFrom_sublist (t.key :: seen) ts).cons₂ t

theorem mem_keys_freshFrom (k : String) :
    ∀ (seen : List String) (tags : List Tag),
      k ∈ (freshFrom seen tags).map Tag.key ↔ k ∈ tags.map Tag.key ∧ k ∉ seen
  | _, [] => by simp [freshFrom]
  | seen, t :: ts => by
    have ih := mem_keys_freshFrom k seen ts
    have ih' := mem_keys_freshFrom k (t.key :: seen) ts
    by_cases h : t.key ∈ seen
    · simp only [freshFrom, h, if_true, ih, List.map_cons, List.mem_cons]
      constructor
      · exact fun hk => ⟨.inr hk.1, hk.2⟩
      · rintro ⟨rfl | hk, hs⟩
        · exact absurd h hs
        · exact ⟨hk, hs⟩
    · simp only [freshFrom, h, if_false, List.map_cons, List.mem_cons, ih']
      by_cases hk : k = t.key <;> simp_all

theorem nodup_keys_freshFrom :
    ∀ (seen : List String) (tags : List Tag), ((freshFrom seen tags).map Tag.key).Nodup
  | _, [] => by simp [freshFrom]
  | seen, t :: ts => by
    unfold freshFrom
    split
    · exact nodup_keys_freshFrom seen ts
    · refine List.nodup_cons.mpr ⟨fun hk => ?_, nodup_keys_freshFrom _ ts⟩
      exact ((mem_keys_freshFrom _ _ ts).mp hk).2 (List.mem_cons_self _ _)

theorem find?_freshFrom (k : String) :
    ∀ (seen : List String) (tags : List Tag), k ∉ seen →
      (freshFrom seen tags).find? (·.key == k) = tags.find? (·.key == k)
  | _, [], _ => rfl
  | seen, t :: ts, hk => by
    by_cases h : t.key ∈ seen
    · have hne : t.key ≠ k := fun e => hk (e ▸ h)
      simp [freshFrom, h, hne, find?_freshFrom k seen ts hk]
    · by_cases e : t.key = k
      · simp [freshFrom, h, e, hk]
      · have hk' : k ∉ t.key :: seen := by simp [hk, Ne.symm e]
        simp [freshFrom, h, e, find?_freshFrom k _ ts hk']

theorem freshFrom_of_nodup :
    ∀ (seen : List String) (tags : List Tag), (tags.map Tag.key).Nodup →
      (∀ k ∈ tags.map Tag.key, k ∉ seen) → freshFrom seen tags = tags
  | _, [], _, _ => rfl
  | seen, t :: ts, hnd, hdis => by
    have hnd' := List.nodup_cons.mp hnd
    have ht : t.key ∉ seen := hdis _ (List.mem_cons_self _ _)
    have hts : ∀ k ∈ ts.map Tag.key, k ∉ t.key :: seen := by
      intro k hk hmem
      rcases List.mem_cons.mp hmem with rfl | hs
      · exact hnd'.1 hk
      · exact hdis k (List.mem_cons_of_mem _ hk) hs
    simp [freshFrom, ht, freshFrom_of_nodup _ ts hnd'.2 hts]

/-- The entries of `tags` whose key is neither in `seen` nor the key of an
earlier entry, read index by index. -/
def keptByIndex (seen : List String) (tags : List Tag) : List Tag :=
  (tags.enum.filter fun p => p.2.key ∉ seen ++ (tags.take p.1).map Tag.key).map Prod.snd

theorem keptByIndex_congr {seen seen' : List String} (h : ∀ k, k ∈ seen ↔ k ∈ seen')
    (tags : List Tag) : keptByIndex seen tags = keptByIndex seen' tags := by
  unfold keptByIndex
  congr 1
  exact List.filter_congr fun p _ => by simp [h]

theorem keptByIndex_cons (seen : List String) (t : Tag) (ts : List Tag) :
    keptByIndex seen (t :: ts) =
      if t.key ∈ seen then keptByIndex (t.key :: seen) ts
      else t :: keptByIndex (t.key :: seen) ts := by
  have shifted : ((ts.enum.map (Prod.map (· + 1) id)).filter fun p =>
      p.2.key ∉ seen ++ ((t :: ts).take p.1).map Tag.key) =
      (ts.enum.filter fun p => p.2.key ∉ (t.key :: seen) ++ (ts.take p.1).map Tag.key).map
        (Prod.map (· + 1) id) := by
    rw [List.filter_map]
    congr 1
    exact List.filter_congr fun p _ => by simp [Bool.and_left_comm]
  unfold keptByIndex
  rw [List.enum_cons, List.enumFrom_eq_map_enum, List.filter_cons, shifted]
  by_cases h : t.key ∈ seen <;> simp [h, Function.comp_def]

/-- `freshFrom` is the index-wise reading of the loop. -/
theorem freshFrom_eq_keptByIndex :
    ∀ (seen : List String) (tags : List Tag), freshFrom seen tags = keptByIndex seen tags
  | _, [] => rfl
  | seen, t :: ts => by
    rw [keptByIndex_cons]
    by_cases h : t.key ∈ seen
    · rw [if_pos h, freshFrom, if_pos h, freshFrom_eq_keptByIndex seen ts]
      exact keptByIndex_congr (fun k => by simp; rintro rfl; exact h) ts
    · rw [if_neg h, freshFrom, if_neg h, freshFrom_eq_keptByIndex]

/-- `removeDuplicatedTags` keeps exactly the entries whose key does not occur at
an earlier position: its keys are distinct and are the keys of the input, each
key keeps the value of its first occurrence, the kept entries stay in order, and
a second pass changes nothing. -/
theorem removeDuplicatedTags_keeps_first (tags : List Tag) :
    removeDuplicatedTags tags =
        (tags.enum.filter fun p => p.2.key ∉ (tags.take p.1).map Tag.key).map Prod.snd ∧
      ((removeDuplicatedTags tags).map Tag.key).Nodup ∧
      (∀ k, k ∈ (removeDuplicatedTags tags).map Tag.key ↔ k ∈ tags.map Tag.key) ∧
      (∀ k, valueOf (removeDuplicatedTags tags) k = valueOf tags k) ∧
      (removeDuplicatedTags tags).Sublist tags ∧
      removeDuplicatedTags (removeDuplicatedTags tags) = removeDuplicatedTags tags := by
  simp only [removeDuplicatedTags_eq_freshFrom]
  have nodup := nodup_keys_freshFrom [] tags
  refine ⟨by simp [freshFrom_eq_keptByIndex, keptByIndex], nodup,
    fun k => (mem_keys_freshFrom k [] tags).trans (and_iff_left (List.not_mem_nil k)), fun k => by simp [valueOf, find?_freshFrom],
    freshFrom_sublist [] tags, freshFrom_of_nodup [] _ nodup (by simp)⟩

/-- The value of a key with distinct keys is the value of its only entry. -/
theorem valueOf_eq_head_filter (tags : List Tag) (k : String) :
    valueOf tags k = ((tags.filter (·.key == k)).head?).map Tag.value := by
  simp [valueOf]

/-! ### Request tag builders -/

/-- The loop shared by the request tag builders: one request tag per entry,
with the entry's `Key` and `Value`. -/
def copyTags (tags : List Tag) : List Tag :=
  tags.map fun tag => { key := tag.key, value := tag.value }

@[simp] theorem copyTags_eq (tags : List Tag) : copyTags tags = tags := by
  simp [copyTags]

/-- `covertToRunInstancesTag`. -/
def covertToRunInstancesTag (tags : List Tag) : List Tag := copyTags tags

/-- `buildDescribeSecurityGroupsTag`: `describeSecurityGroupsTag[index]` for each
`index, tag` of the input. -/
def buildDescribeSecurityGroupsTag (tags : List Tag) : List Tag := copyTags tags

/-- `buildDescribeVSwitchesTag`: `describeVSwitchesTag[index]` for each
`index, tag` of the input. -/
def buildDescribeVSwitchesTag (tags : List Tag) : List Tag := copyTags tags

/-- The builders agree with `removeDuplicatedTags` exactly when the keys are
already distinct. -/
theorem copyTags_eq_dedup_iff (tags : List Tag) :
    copyTags tags = removeDuplicatedTags tags ↔ (tags.map Tag.key).Nodup := by
  rw [copyTags_eq, removeDuplicatedTags_eq_freshFrom]
  constructor
  · intro h
    rw [h]
    exact nodup_keys_freshFrom [] tags
  · intro h
    exact (freshFrom_of_nodup [] tags h (by simp)).symm

/-- Both builders agree with `removeDuplicatedTags` exactly on the lists whose
keys are already distinct. `TestBuildDescribeSecurityGroupsTag` and
`TestBuildDescribeVSwitchesTag` expect the repeated `clusterSize` key of their
third case to be dropped; both builders keep it. -/
theorem buildDescribeTags_keep_repeated_key :
    (∀ tags, buildDescribeSecurityGroupsTag tags = removeDuplicatedTags tags ↔
      (tags.map Tag.key).Nodup) ∧
    (∀ tags, buildDescribeVSwitchesTag tags = removeDuplicatedTags tags ↔
      (tags.map Tag.key).Nodup) ∧
    let tags : List Tag := [⟨"clusterID", "test-ClusterID"⟩, ⟨"clusterSize", "test-ClusterSize"⟩,
      ⟨"clusterSize", "test-ClusterSizeDuplicatedValue"⟩]
    (buildDescribeSecurityGroupsTag tags).map Tag.key = ["clusterID", "clusterSize", "clusterSize"] ∧
      (buildDescribeVSwitchesTag tags).map Tag.key = ["clusterID", "clusterSize", "clusterSize"] ∧
      removeDuplicatedTags tags = [⟨"clusterID", "test-ClusterID"⟩, ⟨"clusterSize", "test-ClusterSize"⟩] :=
  ⟨copyTags_eq_dedup_iff, copyTags_eq_dedup_iff, by decide⟩

/-! ### `buildTagList` -/

/-- The five tags `buildTagList` appends after the user's, in its order. -/
def clusterTags (K : TagConstants) (machineName clusterID : String) : List Tag :=
  [{ key := clusterFilterKeyPrefix ++ clusterID, value := clusterFilterValue },
   { key := clusterFilterName, value := machineName },
   { key := K.clusterOwnedKey, value := K.clusterOwnedValue },
   { key := K.machineTagKeyFrom, value := K.machineTagValueFrom },
   { key := K.machineIsvIntegrationTagKey, value := K.machineTagValueFrom }]

/-- `buildTagList`: the user's tags but those under the cluster prefix or with
the `Name` key, then the cluster tags, deduplicated keeping the first. -/
def buildTagList (K : TagConstants) (machineName clusterID : String)
    (machineTags : List Tag) : List Tag :=
  let rawTagList := machineTags.filter fun tag =>
    !hasPrefix tag.key clusterFilterKeyPrefix && tag.key != clusterFilterName
  removeDuplicatedTags (rawTagList ++ clusterTags K machineName clusterID)

theorem hasPrefix_append (pre s : String) : hasPrefix (pre ++ s) pre = true := by
  simp [hasPrefix, List.isPrefixOf_iff_prefix, String.data_append, List.prefix_append]

theorem clusterKey_ne_of_unreserved {key : String} (h : Unreserved key) (clusterID : String) :
    clusterFilterKeyPrefix ++ clusterID ≠ key := by
  rintro rfl
  simp [Unreserved, hasPrefix_append] at h

theorem clusterKey_ne_name (clusterID : String) :
    clusterFilterKeyPrefix ++ clusterID ≠ clusterFilterName := fun h => by
  have := hasPrefix_append clusterFilterKeyPrefix clusterID
  rw [h] at this
  exact absurd this (by decide)

section BuildTagList

variable (K : TagConstants) (machineName clusterID : String) (machineTags : List Tag)

/-- What `buildTagList` answers for `key`: the first kept user tag, else the
first cluster tag. -/
theorem valueOf_buildTagList (key : String) :
    valueOf (buildTagList K machineName clusterID machineTags) key =
      (valueOf (machineTags.filter fun tag =>
          !hasPrefix tag.key clusterFilterKeyPrefix && tag.key != clusterFilterName) key).or
        (valueOf (clusterTags K machineName clusterID) key) := by
  simp only [buildTagList, valueOf, removeDuplicatedTags_eq_freshFrom,
    find?_freshFrom key [] _ (List.not_mem_nil key), List.find?_append]
  cases List.find? (·.key == key) (machineTags.filter _) <;> rfl

/-- No user tag is kept under a key that starts with the cluster prefix or is
`Name`. -/
theorem valueOf_kept_reserved {key : String}
    (h : hasPrefix key clusterFilterKeyPrefix = true ∨ key = clusterFilterName) :
    valueOf (machineTags.filter fun tag =>
      !hasPrefix tag.key clusterFilterKeyPrefix && tag.key != clusterFilterName) key = none := by
  simp only [valueOf, Option.map_eq_none', List.find?_eq_none, List.mem_filter]
  rintro t ⟨-, keep⟩ same
  simp only [beq_iff_eq] at same
  subst same
  rcases h with h | h <;> simp_all

/-- A user tag under an unreserved key is never filtered out. -/
theorem valueOf_kept_unreserved {key : String} (h : Unreserved key) :
    valueOf (machineTags.filter fun tag =>
      !hasPrefix tag.key clusterFilterKeyPrefix && tag.key != clusterFilterName) key =
      valueOf machineTags key := by
  induction machineTags with
  | nil => rfl
  | cons t ts ih =>
    by_cases e : t.key = key
    · subst e
      simp [valueOf, List.filter_cons, h.1, h.2]
    · have skip : ∀ l : List Tag, l.find? (·.key == key) = (t :: l).find? (·.key == key) :=
        fun l => (List.find?_cons_of_neg l (by simpa using e)).symm
      simp only [valueOf, List.filter_cons] at ih ⊢
      split <;> simp only [← skip, ih]

/-- `buildTagList` has distinct keys; the cluster-ownership and `Name` tags carry
their fixed values whatever the user's tags, and each of the owned and the two
provenance keys carries the value of the first user tag with that key, if there
is one, else its fixed value. -/
theorem buildTagList_cluster_tags :
    let tags := buildTagList K machineName clusterID machineTags
    (tags.map Tag.key).Nodup ∧
      valueOf tags (clusterFilterKeyPrefix ++ clusterID) = some clusterFilterValue ∧
      valueOf tags clusterFilterName = some machineName ∧
      valueOf tags K.clusterOwnedKey =
        some ((valueOf machineTags K.clusterOwnedKey).getD K.clusterOwnedValue) ∧
      valueOf tags K.machineTagKeyFrom =
        some ((valueOf machineTags K.machineTagKeyFrom).getD K.machineTagValueFrom) ∧
      valueOf tags K.machineIsvIntegrationTagKey =
        some ((valueOf machineTags K.machineIsvIntegrationTagKey).getD K.machineTagValueFrom) := by
  have owned := clusterKey_ne_of_unreserved K.owned_unreserved clusterID
  have tagFrom := clusterKey_ne_of_unreserved K.from_unreserved clusterID
  have isv := clusterKey_ne_of_unreserved K.isv_unreserved clusterID
  have name := clusterKey_ne_name clusterID
  have ownedName := K.owned_unreserved.2
  have fromName := K.from_unreserved.2
  have isvName := K.isv_unreserved.2
  refine ⟨?_, ?_, ?_, ?_, ?_, ?_⟩
  · simpa [buildTagList, removeDuplicatedTags_eq_freshFrom] using
      nodup_keys_freshFrom [] _
  all_goals rw [valueOf_buildTagList]
  · rw [valueOf_kept_reserved _ (.inl (hasPrefix_append _ _))]
    simp [valueOf, clusterTags]
  · rw [valueOf_kept_reserved _ (.inr rfl)]
    simp [valueOf, clusterTags, name]
  all_goals rw [valueOf_kept_unreserved _ (by first
    | exact K.owned_unreserved | exact K.from_unreserved | exact K.isv_unreserved)]
  · cases valueOf machineTags K.clusterOwnedKey <;>
      simp [valueOf, clusterTags, owned, Ne.symm ownedName]
  · cases valueOf machineTags K.machineTagKeyFrom <;>
      simp [valueOf, clusterTags, tagFrom, Ne.symm fromName, K.owned_ne_from]
  · cases valueOf machineTags K.machineIsvIntegrationTagKey <;>
      simp [valueOf, clusterTags, isv, Ne.symm isvName, K.owned_ne_isv, K.from_ne_isv]

end BuildTagList

/-- The spec's reading of `buildTagList`: distinct keys, and for each of the five
cluster tags exactly one entry with its key, carrying its value. -/
def KeepsClusterTags (K : TagConstants) (machineName clusterID : String)
    (tags : List Tag) : Prop :=
  (tags.map Tag.key).Nodup ∧
    ∀ t ∈ clusterTags K machineName clusterID, tags.filter (·.key == t.key) = [t]

/-- Whatever the owned tag constants, a user tag with the owned key and another
value wins over the fixed owned tag: only the cluster prefix and `Name` are
filtered from the user's tags. -/
theorem buildTagList_user_owned_tag_wins :
    ¬ ∃ K : TagConstants, ∀ machineName clusterID machineTags, machineName ≠ "" →
      KeepsClusterTags K machineName clusterID (buildTagList K machineName clusterID machineTags) := by
  rintro ⟨K, keeps⟩
  let userTags : List Tag := [⟨K.clusterOwnedKey, K.clusterOwnedValue ++ "-"⟩]
  have hkeeps := (keeps "m" "c" userTags (by decide)).2 ⟨K.clusterOwnedKey, K.clusterOwnedValue⟩
    (by simp [clusterTags])
  have fixed := valueOf_eq_head_filter (buildTagList K "m" "c" userTags) K.clusterOwnedKey
  rw [hkeeps, (buildTagList_cluster_tags K "m" "c" userTags).2.2.2.1] at fixed
  have len := congrArg String.length (Option.some.inj fixed)
  simp [userTags, valueOf, String.length_append] at len
  exact absurd len (by decide)

end AlibabaActuator
