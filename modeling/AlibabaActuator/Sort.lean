import AlibabaActuator.StartTime

/-!
Ordering instances by launch time: `instanceList.Less` and `sortInstances`.

`sort.Sort` runs Go's `insertionSort` on a slice of at most twelve elements
from Go 1.19 on (pdqsort), and on at most six before it (the quicksort of Go
1.18 and earlier first makes one pass with gap 6 on seven to twelve elements).
Longer slices are partitioned by pdqsort, or by quicksort with a heapsort
fallback before Go 1.19. The model of `sort.Sort` here is the insertion sort
loop, as `sink` (the inner loop) and `insertionSort`, on every length: it is
Go's order on short slices. On a longer slice whose start times all parse,
`Less` is a strict weak order and every correct sort leaves the order the
theorems below state, up to the order of equal start times; with an
unparseable start time the order Go leaves on a long slice is not modelled.

* `insertionSort_perm` — the loop permutes its input;
* `foldl_sink_pairwise` — a relation that one pass of `sink` keeps holds of
  the whole run; from it, `insertionSort_sorted` (when `less` is asymmetric
  and its negation transitive, no element ends up after one it is `less`
  than) and `insertionSort_classes` (when `less` moves an element of the first
  class past every other one and never moves another one past the first
  class, the first class comes first).
* `sortInstances_newest_first` — `Less` is irreflexive and transitive; for
  every list `sortInstances` returns a permutation with the empty start times
  first, using only the rows of `Less` that compare an empty start time with a
  non-empty one; when every non-empty start time parses, incomparability is
  transitive and the result is newest first in calendar order.
* `sortInstances_unparseable_leaves_older_first` — an unparseable start time
  is incomparable with the parseable ones on either side of it, and sorting
  `[2020, unparseable, 2022]` leaves the 2020 instance first, against the
  comment of `sortInstances` ("from the newest to the oldest").
-/

namespace AlibabaActuator

/-! ### `instanceList.Less` -/

/-- `instanceList.Less(i, j)` on the instances at `i` and `j`. -/
def instanceList.Less (a b : Instance) : Bool :=
  if a.startTime == "" && b.startTime == "" then false
  else if a.startTime != "" && b.startTime == "" then false
  else if a.startTime == "" && b.startTime != "" then true
  else
    match parseStartTime a.startTime with
    | none => false
    | some iStartTime =>
      match parseStartTime b.startTime with
      | none => false
      | some jStartTime => iStartTime.after jStartTime

/-- Neither instance is `Less` than the other. -/
def instanceList.Incomparable (a b : Instance) : Prop :=
  instanceList.Less a b = false ∧ instanceList.Less b a = false

instance (a b : Instance) : Decidable (instanceList.Incomparable a b) :=
  inferInstanceAs (Decidable (_ ∧ _))

namespace instanceList

theorem Less_eq_true_iff (a b : Instance) :
    Less a b = true ↔ (a.startTime = "" ∧ b.startTime ≠ "") ∨
      ∃ ta tb, parseStartTime a.startTime = some ta ∧ parseStartTime b.startTime = some tb ∧
        tb.ordinal < ta.ordinal := by
  unfold Less
  by_cases ha : a.startTime = "" <;> by_cases hb : b.startTime = "" <;>
    simp only [ha, hb, parseStartTime_empty, beq_self_eq_true, bne_self_eq_false] <;>
    simp [ha, hb]
  split <;> simp_all
  split <;> simp_all [WallClock.after]

theorem Less_irrefl (a : Instance) : Less a a = false := by
  rw [Bool.eq_false_iff, Ne, Less_eq_true_iff]
  rintro (⟨h, h'⟩ | ⟨ta, tb, ha, hb, lt⟩)
  · exact h' h
  · rw [ha, Option.some.injEq] at hb
    subst hb
    exact lt_irrefl _ lt

theorem Less_trans {a b c : Instance} (hab : Less a b = true) (hbc : Less b c = true) :
    Less a c = true := by
  rw [Less_eq_true_iff] at *
  rcases hab with ⟨ha, hb⟩ | ⟨ta, tb, pa, pb, lab⟩ <;>
    rcases hbc with ⟨hb', hc⟩ | ⟨tb', tc, pb', pc, lbc⟩
  · exact absurd hb' hb
  · exact .inl ⟨ha, fun hc => by simp [hc] at pc⟩
  · exact absurd pb (by simp [hb'])
  · rw [pb, Option.some.injEq] at pb'
    subst pb'
    exact .inr ⟨ta, tc, pa, pc, lbc.trans lab⟩

/-- Where an instance goes in the order `Less` means to give: `none` (first) for
an empty start time, else its start time. -/
def startRank (i : Instance) : Option Nat :=
  if i.startTime = "" then none else (parseStartTime i.startTime).map WallClock.ordinal

/-- The order of ranks: empty first, then the later start time first. -/
def rankLess : Option Nat → Option Nat → Bool
  | none, some _ => true
  | some x, some y => y < x
  | _, _ => false

/-- A start time that is empty or parses. -/
def StartTimeParses (i : Instance) : Prop :=
  i.startTime ≠ "" → (parseStartTime i.startTime).isSome

instance (i : Instance) : Decidable (StartTimeParses i) := inferInstanceAs (Decidable (_ → _))

theorem Less_eq_rankLess {a b : Instance} (ha : StartTimeParses a) (hb : StartTimeParses b) :
    Less a b = rankLess (startRank a) (startRank b) := by
  apply Bool.eq_iff_iff.mpr
  rw [Less_eq_true_iff]
  unfold startRank
  by_cases ea : a.startTime = "" <;> by_cases eb : b.startTime = ""
  · simp [ea, eb, rankLess]
  · obtain ⟨tb, pb⟩ := Option.isSome_iff_exists.mp (hb eb)
    simp [ea, eb, pb, rankLess]
  · simp [ea, eb, rankLess]
  · obtain ⟨ta, pa⟩ := Option.isSome_iff_exists.mp (ha ea)
    obtain ⟨tb, pb⟩ := Option.isSome_iff_exists.mp (hb eb)
    simp [ea, eb, pa, pb, rankLess]

theorem rankLess_neg_trans {x y z : Option Nat} (hxy : rankLess x y = false)
    (hyz : rankLess y z = false) : rankLess x z = false := by
  cases x <;> cases y <;> cases z <;> simp_all [rankLess]
  omega

theorem rankLess_asymm {x y : Option Nat} (h : rankLess x y = true) : rankLess y x = false := by
  cases x <;> cases y <;> simp_all [rankLess]
  omega

end instanceList

/-! ### `sort.Sort` on short slices -/

section InsertionSort

variable {α : Type} (less : α → α → Bool)

/-- The inner loop of Go's `insertionSort`, on the sorted prefix held last
element first: the new element is swapped left past every element it is `Less`
than. -/
def sink (x : α) : List α → List α
  | [] => [x]
  | y :: ys => if less x y then y :: sink x ys else x :: y :: ys

/-- Go's `insertionSort(data, 0, len(data))`. -/
def insertionSort (data : List α) : List α :=
  (data.foldl (fun sorted x => sink less x sorted) []).reverse

theorem sink_perm (x : α) : ∀ ys : List α, (sink less x ys).Perm (x :: ys)
  | [] => .refl _
  | y :: ys => by
    unfold sink
    split
    · exact ((sink_perm x ys).cons y).trans (.swap x y ys)
    · exact .refl _

theorem foldl_sink_perm : ∀ (data sorted : List α),
    (data.foldl (fun sorted x => sink less x sorted) sorted).Perm (sorted ++ data)
  | [], sorted => by simp
  | x :: xs, sorted => by
    refine (foldl_sink_perm xs _).trans ?_
    exact ((sink_perm less x sorted).append_right xs).trans List.perm_middle.symm

theorem insertionSort_perm (data : List α) : (insertionSort less data).Perm data :=
  (List.reverse_perm _).trans (by simpa using foldl_sink_perm less data [])

variable {less}

/-- A relation that one `sink` pass keeps on elements of `S` holds of the
stack the whole `foldl` builds. -/
theorem foldl_sink_pairwise {R : α → α → Prop} {S : α → Prop}
    (step : ∀ x ys, S x → (∀ y ∈ ys, S y) → ys.Pairwise R → (sink less x ys).Pairwise R) :
    ∀ {data sorted : List α}, (∀ x ∈ data, S x) → (∀ y ∈ sorted, S y) → sorted.Pairwise R →
      (data.foldl (fun sorted x => sink less x sorted) sorted).Pairwise R
  | [], _, _, _, h => h
  | x :: xs, sorted, hdata, hsorted, h => by
    have hx := hdata x (List.mem_cons_self _ _)
    rw [List.foldl_cons]
    refine foldl_sink_pairwise step (fun z hz => hdata z (List.mem_cons_of_mem _ hz))
      (fun z hz => ?_) (step x sorted hx hsorted h)
    rcases List.mem_cons.mp ((sink_perm less x sorted).mem_iff.mp hz) with rfl | hz
    exacts [hx, hsorted z hz]

/-- The sorted slice is the stack reversed. -/
theorem insertionSort_pairwise {R : α → α → Prop} {S : α → Prop}
    (step : ∀ x ys, S x → (∀ y ∈ ys, S y) → ys.Pairwise R → (sink less x ys).Pairwise R)
    {data : List α} (hdata : ∀ x ∈ data, S x) :
    (insertionSort less data).Pairwise (fun a b => R b a) :=
  List.pairwise_reverse.mpr (foldl_sink_pairwise step hdata (by simp) List.Pairwise.nil)

section Sorted

variable {S : α → Prop}
  (asymm : ∀ a b, S a → S b → less a b = true → less b a = false)
  (negTrans : ∀ a b c, S a → S b → S c → less a b = false → less b c = false → less a c = false)
include asymm negTrans

theorem sink_pairwise {x : α} (hx : S x) :
    ∀ {ys : List α}, (∀ y ∈ ys, S y) → ys.Pairwise (fun a b => less a b = false) →
      (sink less x ys).Pairwise (fun a b => less a b = false)
  | [], _, _ => List.pairwise_singleton _ _
  | y :: ys, hys, sorted => by
    have hy := hys y (List.mem_cons_self _ _)
    have hys' := fun z hz => hys z (List.mem_cons_of_mem _ hz)
    obtain ⟨head, tail⟩ := List.pairwise_cons.mp sorted
    unfold sink
    split
    · rename_i lt
      refine List.pairwise_cons.mpr ⟨fun z hz => ?_, sink_pairwise hx hys' tail⟩
      rcases List.mem_cons.mp ((sink_perm less x ys).mem_iff.mp hz) with rfl | hz
      · exact asymm _ _ hx hy lt
      · exact head z hz
    · rename_i nlt
      refine List.pairwise_cons.mpr ⟨fun z hz => ?_, sorted⟩
      rcases List.mem_cons.mp hz with rfl | hz
      · simpa using nlt
      · exact negTrans _ _ _ hx hy (hys' z hz) (by simpa using nlt) (head z hz)

/-- No element of the result comes after one it is `less` than. -/
theorem insertionSort_sorted {data : List α} (hdata : ∀ x ∈ data, S x) :
    (insertionSort less data).Pairwise (fun a b => less b a = false) :=
  insertionSort_pairwise (fun _ _ hx hys => sink_pairwise asymm negTrans hx hys) hdata

end Sorted

section Classes

variable {first : α → Prop}
  (moves : ∀ x y, less x y = true → ¬first x → ¬first y)
  (stops : ∀ x y, less x y = false → first x → first y)
include moves stops

/-- On the stack, held last element first, no element of the first class lies
above one of the other class. -/
theorem sink_pairwise_classes (x : α) :
    ∀ {ys : List α}, ys.Pairwise (fun a b => first b ∨ ¬first a) →
      (sink less x ys).Pairwise (fun a b => first b ∨ ¬first a)
  | [], _ => List.pairwise_singleton _ _
  | y :: ys, sorted => by
    obtain ⟨head, tail⟩ := List.pairwise_cons.mp sorted
    unfold sink
    split
    · rename_i lt
      refine List.pairwise_cons.mpr ⟨fun z hz => ?_, sink_pairwise_classes x tail⟩
      rcases List.mem_cons.mp ((sink_perm less x ys).mem_iff.mp hz) with rfl | hz
      · by_cases hz : first z
        exacts [.inl hz, .inr (moves _ _ lt hz)]
      · exact head z hz
    · rename_i nlt
      refine List.pairwise_cons.mpr ⟨fun z hz => ?_, sorted⟩
      by_cases hx : first x
      · have hy := stops _ _ (by simpa using nlt) hx
        rcases List.mem_cons.mp hz with rfl | hz
        exacts [.inl hy, .inl ((head z hz).resolve_right (not_not.mpr hy))]
      · exact .inr hx

/-- The first class comes first, whatever `less` answers within a class. -/
theorem insertionSort_classes (data : List α) :
    (insertionSort less data).Pairwise (fun a b => first a ∨ ¬first b) :=
  insertionSort_pairwise (S := fun _ => True)
    (fun x _ _ _ sorted => sink_pairwise_classes moves stops x sorted) (fun _ _ => trivial)

end Classes

end InsertionSort

/-! ### `sortInstances` -/

/-- `sortInstances`: `sort.Sort(instanceList(instances))`. -/
def sortInstances (instances : List Instance) : List Instance :=
  insertionSort instanceList.Less instances

open instanceList in
/-- `Less` is irreflexive and transitive on all instances. For every list,
`sortInstances` returns a permutation in which no instance with a non-empty
start time precedes one with an empty start time. When every non-empty start
time parses, incomparability is transitive on the list, and no instance comes
after one whose start time is earlier in calendar order. -/
theorem sortInstances_newest_first (instances : List Instance) :
    (∀ a, Less a a = false) ∧
      (∀ a b c, Less a b = true → Less b c = true → Less a c = true) ∧
      (sortInstances instances).Perm instances ∧
      (sortInstances instances).Pairwise (fun a b => a.startTime = "" ∨ b.startTime ≠ "") ∧
      ((∀ i ∈ instances, StartTimeParses i) →
        (∀ a ∈ instances, ∀ b ∈ instances, ∀ c ∈ instances,
          Incomparable a b → Incomparable b c → Incomparable a c) ∧
        (sortInstances instances).Pairwise (fun a b =>
          ∀ ta tb, parseStartTime a.startTime = some ta → parseStartTime b.startTime = some tb →
            lexLt ta.fields tb.fields = false)) := by
  -- the rows of `Less` across the two classes
  have moves : ∀ a b, Less a b = true → ¬a.startTime = "" → ¬b.startTime = "" := by
    intro a b lt ha hb
    rcases (Less_eq_true_iff a b).mp lt with ⟨ha', -⟩ | ⟨ta, tb, -, pb, -⟩
    · exact ha ha'
    · simp [hb] at pb
  have stops : ∀ a b, Less a b = false → a.startTime = "" → b.startTime = "" := by
    intro a b nlt ha
    by_contra hb
    simp [(Less_eq_true_iff a b).mpr (.inl ⟨ha, hb⟩)] at nlt
  refine ⟨Less_irrefl, fun _ _ _ => Less_trans, insertionSort_perm _ _,
    insertionSort_classes moves stops _, fun parses => ?_⟩
  have asymm : ∀ a b, StartTimeParses a → StartTimeParses b →
      Less a b = true → Less b a = false := fun a b ha hb lt => by
    rw [Less_eq_rankLess hb ha]
    exact rankLess_asymm (by rwa [← Less_eq_rankLess ha hb])
  have negTrans : ∀ a b c, StartTimeParses a → StartTimeParses b → StartTimeParses c →
      Less a b = false → Less b c = false → Less a c = false := fun a b c ha hb hc hab hbc => by
    rw [Less_eq_rankLess ha hb] at hab
    rw [Less_eq_rankLess hb hc] at hbc
    rw [Less_eq_rankLess ha hc]
    exact rankLess_neg_trans hab hbc
  refine ⟨fun a ha b hb c hc ⟨hab, hba⟩ ⟨hbc, hcb⟩ =>
    ⟨negTrans a b c (parses a ha) (parses b hb) (parses c hc) hab hbc,
      negTrans c b a (parses c hc) (parses b hb) (parses a ha) hcb hba⟩, ?_⟩
  refine (insertionSort_sorted asymm negTrans parses).imp fun {a b} notLess ta tb pa pb => ?_
  -- the calendar order of valid wall clocks is the order `After` reads
  rw [← WallClock.after_eq_lexLt (parseStartTime_valid pb) (parseStartTime_valid pa)]
  by_contra h
  have := (Less_eq_true_iff b a).mpr (.inr ⟨tb, ta, pb, pa, by simpa [WallClock.after] using h⟩)
  simp_all

/-- The instances of `TestSortInstances`. -/
theorem sortInstances_newest_first_test :
    let instances : List Instance :=
      [⟨"i-abc", "", "2020-01-02T15:04:05Z", []⟩, ⟨"i-abd", "", "2022-05-02T15:04:05Z", []⟩,
        ⟨"i-abe", "", "2024-05-02T17:04:05Z", []⟩, ⟨"i-abf", "", "", []⟩]
    (∀ i ∈ instances, instanceList.StartTimeParses i) ∧
      (sortInstances instances).map Instance.instanceId = ["i-abf", "i-abe", "i-abd", "i-abc"] ∧
      (sortInstances instances).Pairwise (fun a b =>
        ∀ ta tb, parseStartTime a.startTime = some ta → parseStartTime b.startTime = some tb →
          lexLt ta.fields tb.fields = false) :=
  ⟨by decide, by decide, ((sortInstances_newest_first _).2.2.2.2 (by decide)).2⟩

/-- A start time without seconds does not parse, so it is incomparable with the
start times on either side of it, which are not incomparable with each other;
sorting the three leaves the 2020 instance before the newer 2022 one. -/
theorem sortInstances_unparseable_leaves_older_first :
    let older : Instance := ⟨"i-abc", "", "2020-01-02T15:04:05Z", []⟩
    let minutes : Instance := ⟨"i-abd", "", "2024-05-02T17:04Z", []⟩
    let newer : Instance := ⟨"i-abe", "", "2022-05-02T15:04:05Z", []⟩
    instanceList.Incomparable older minutes ∧ instanceList.Incomparable minutes newer ∧
      instanceList.Less newer older = true ∧
      sortInstances [older, minutes, newer] = [older, minutes, newer] := by
  decide

end AlibabaActuator
