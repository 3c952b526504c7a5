import AlibabaActuator.Types
import Mathlib.Data.List.Nodup

/-!
Provider conditions: `setMachineProviderCondition` of `utils.go`.

* `setMachineProviderCondition_cons` — the spec lemma every result below is
  proved from: the call walks the list to the first condition of its type.
* `setMachineProviderCondition_step` — one call adds at most one condition,
  only when none of its type exists, at the end; a condition of another type
  keeps its value and its position.
* `setMachineProviderCondition_run` — from a list with distinct types, every
  run of calls keeps the types distinct, and each call of the run is a step.
* `setMachineProviderCondition_first` — with no condition of its type the call
  appends its condition, stamped; otherwise the first condition of the call's
  type takes the call's status, reason and message when the reason or the message
  differs, with a new transition time exactly when the status changes; when
  both are equal the list is returned as it was, even if the status differs
  (`shouldUpdateCondition` compares reason and message only).
* `setMachineProviderCondition_idempotent` — a second call with the same
  condition, at any time, returns the list unchanged.
-/

namespace AlibabaActuator

/-- `metav1.Condition`. `LastTransitionTime` is the clock reading `metav1.Now()`
returned. -/
structure Condition where
  type : String
  status : String
  observedGeneration : Int
  lastTransitionTime : Int
  reason : String
  message : String
deriving DecidableEq, Repr

/-- `findProviderCondition`: the index of the first condition of the type, the
element the Go code returns a pointer to. -/
def findProviderCondition (conditions : List Condition) (conditionType : String) : Option Nat :=
  conditions.findIdx? (·.type == conditionType)

/-- `shouldUpdateCondition`. -/
def shouldUpdateCondition (newCondition existingCondition : Condition) : Bool :=
  newCondition.reason != existingCondition.reason || newCondition.message != existingCondition.message

/-- `updateExistingCondition`: the existing condition after the update, `now`
being what `metav1.Now()` returns. -/
def updateExistingCondition (now : Int) (newCondition existingCondition : Condition) : Condition :=
  if !shouldUpdateCondition newCondition existingCondition then existingCondition
  else
    { existingCondition with
      lastTransitionTime := if existingCondition.status != newCondition.status then now
        else existingCondition.lastTransitionTime
      status := newCondition.status
      reason := newCondition.reason
      message := newCondition.message }

/-- `setMachineProviderCondition`, `now` being what `metav1.Now()` returns. -/
def setMachineProviderCondition (now : Int) (condition : Condition)
    (conditions : List Condition) : List Condition :=
  match findProviderCondition conditions condition.type with
  | none => conditions ++ [{ condition with lastTransitionTime := now }]
  | some i => conditions.modify (updateExistingCondition now condition) i

@[simp] theorem updateExistingCondition_type (now : Int) (newCondition existingCondition : Condition) :
    (updateExistingCondition now newCondition existingCondition).type = existingCondition.type := by
  unfold updateExistingCondition
  split <;> rfl

@[simp] theorem setMachineProviderCondition_nil (now : Int) (condition : Condition) :
    setMachineProviderCondition now condition [] = [{ condition with lastTransitionTime := now }] :=
  rfl

theorem setMachineProviderCondition_cons (now : Int) (condition c : Condition)
    (cs : List Condition) :
    setMachineProviderCondition now condition (c :: cs) =
      if c.type = condition.type then updateExistingCondition now condition c :: cs
      else c :: setMachineProviderCondition now condition cs := by
  unfold setMachineProviderCondition findProviderCondition
  rw [List.findIdx?_cons]
  by_cases h : c.type = condition.type
  · simp [h, List.modify_zero_cons]
  · simp only [h, beq_iff_eq, if_false, List.findIdx?_succ, Bool.false_eq_true]
    cases List.findIdx? (·.type == condition.type) cs <;> simp [List.modify_succ_cons]

/-! ### One call -/

/-- What one call may do to a list of conditions: add at most one condition,
only when no condition of its type exists, at the end; and keep every condition
of another type at its index. -/
def ConditionStep (now : Int) (condition : Condition) (before after : List Condition) : Prop :=
  (after.length = before.length ∨
      condition.type ∉ before.map Condition.type ∧
        after = before ++ [{ condition with lastTransitionTime := now }]) ∧
    ∀ (i : Nat) (c : Condition), before[i]? = some c → c.type ≠ condition.type →
      after[i]? = some c

/-- The spec lemma of one call's effect on the list: the types stay as they are,
or the call's condition is appended because its type was absent. -/
theorem setMachineProviderCondition_shape (now : Int) (condition : Condition) :
    ∀ cs : List Condition,
      (setMachineProviderCondition now condition cs).map Condition.type = cs.map Condition.type ∨
        condition.type ∉ cs.map Condition.type ∧
          setMachineProviderCondition now condition cs =
            cs ++ [{ condition with lastTransitionTime := now }]
  | [] => .inr ⟨List.not_mem_nil _, rfl⟩
  | c :: cs => by
    rw [setMachineProviderCondition_cons]
    by_cases h : c.type = condition.type
    · simp [h]
    · rcases setMachineProviderCondition_shape now condition cs with same | ⟨fresh, added⟩
      · simp [h, same]
      · exact .inr ⟨by simp [fresh, Ne.symm h], by simp [h, added]⟩

theorem setMachineProviderCondition_frame (now : Int) (condition : Condition) :
    ∀ (cs : List Condition) (i : Nat) (c : Condition), cs[i]? = some c →
      c.type ≠ condition.type → (setMachineProviderCondition now condition cs)[i]? = some c
  | [], _, _, h, _ => by simp at h
  | d :: ds, i, c, hi, hc => by
    rw [setMachineProviderCondition_cons]
    cases i with
    | zero =>
      simp only [List.getElem?_cons_zero, Option.some.injEq] at hi
      subst hi
      simp [hc]
    | succ i =>
      simp only [List.getElem?_cons_succ] at hi
      split <;> simp [hi, setMachineProviderCondition_frame now condition ds i c hi hc]

theorem setMachineProviderCondition_step (now : Int) (condition : Condition) (cs : List Condition) :
    ConditionStep now condition cs (setMachineProviderCondition now condition cs) := by
  refine ⟨?_, setMachineProviderCondition_frame now condition cs⟩
  rcases setMachineProviderCondition_shape now condition cs with same | added
  · exact .inl (by simpa using congrArg List.length same)
  · exact .inr added

theorem setMachineProviderCondition_nodup (now : Int) (condition : Condition) {cs : List Condition}
    (h : (cs.map Condition.type).Nodup) :
    ((setMachineProviderCondition now condition cs).map Condition.type).Nodup := by
  rcases setMachineProviderCondition_shape now condition cs with same | ⟨fresh, added⟩
  · rwa [same]
  · rw [added, List.map_append, List.nodup_append]
    exact ⟨h, List.nodup_singleton _, by simpa using fresh⟩

/-! ### Runs of calls -/

/-- The conditions after a sequence of calls, each with its own `metav1.Now()`. -/
def applyConditions (conditions : List Condition) (calls : List (Int × Condition)) :
    List Condition :=
  calls.foldl (fun cs call => setMachineProviderCondition call.1 call.2 cs) conditions

theorem applyConditions_take_succ (conditions : List Condition) (calls : List (Int × Condition))
    (k : Nat) (call : Int × Condition) (h : calls[k]? = some call) :
    applyConditions conditions (calls.take (k + 1)) =
      setMachineProviderCondition call.1 call.2 (applyConditions conditions (calls.take k)) := by
  simp [applyConditions, List.take_succ, h, List.foldl_append]

theorem applyConditions_nodup {conditions : List Condition}
    (h : (conditions.map Condition.type).Nodup) :
    ∀ calls : List (Int × Condition), ((applyConditions conditions calls).map Condition.type).Nodup := by
  intro calls
  induction calls using List.reverseRecOn with
  | nil => exact h
  | append_singleton calls call ih =>
    simpa [applyConditions, List.foldl_append] using
      setMachineProviderCondition_nodup call.1 call.2 ih

/-- From a list with distinct types, every prefix of every run of calls leaves
the types distinct, and each call of the run is a `ConditionStep`. -/
theorem setMachineProviderCondition_run (conditions : List Condition)
    (distinct : (conditions.map Condition.type).Nodup) (calls : List (Int × Condition)) (k : Nat) :
    ((applyConditions conditions (calls.take k)).map Condition.type).Nodup ∧
      ∀ call, calls[k]? = some call →
        ConditionStep call.1 call.2 (applyConditions conditions (calls.take k))
          (applyConditions conditions (calls.take (k + 1))) := by
  refine ⟨applyConditions_nodup distinct _, fun call h => ?_⟩
  rw [applyConditions_take_succ conditions calls k call h]
  exact setMachineProviderCondition_step _ _ _

/-- A failed-creation condition followed by a success call. -/
theorem setMachineProviderCondition_run_creation :
    let conditions : List Condition := [⟨"MachineCreation", "False", 0, 0, "MachineCreationFailed", ""⟩]
    let calls : List (Int × Condition) :=
      [(5, ⟨"MachineCreation", "True", 0, 0, "MachineCreationSucceeded", "Machine successfully created"⟩)]
    (conditions.map Condition.type).Nodup ∧
      (((applyConditions conditions (calls.take 0)).map Condition.type).Nodup ∧
        ∀ call, calls[0]? = some call →
          ConditionStep call.1 call.2 (applyConditions conditions (calls.take 0))
            (applyConditions conditions (calls.take (0 + 1)))) :=
  ⟨by decide, setMachineProviderCondition_run _ (by decide) _ 0⟩

/-! ### The first condition of the call's type -/

theorem find?_setMachineProviderCondition (now : Int) (condition : Condition) :
    ∀ cs : List Condition,
      (setMachineProviderCondition now condition cs).find? (·.type == condition.type) =
        match cs.find? (·.type == condition.type) with
        | none => some { condition with lastTransitionTime := now }
        | some existing => some (updateExistingCondition now condition existing)
  | [] => by simp
  | c :: cs => by
    rw [setMachineProviderCondition_cons]
    by_cases h : c.type = condition.type
    · simp [h]
    · simp [h, find?_setMachineProviderCondition now condition cs]

/-- With no condition of its type, the call appends its condition, stamped. -/
theorem setMachineProviderCondition_of_find?_eq_none (now : Int) (condition : Condition) :
    ∀ cs : List Condition, cs.find? (·.type == condition.type) = none →
      setMachineProviderCondition now condition cs = cs ++ [{ condition with lastTransitionTime := now }]
  | [], _ => rfl
  | c :: cs, h => by
    have absent := List.find?_eq_none.mp h
    have hc : c.type ≠ condition.type := by simpa using absent c (List.mem_cons_self _ _)
    rw [setMachineProviderCondition_cons, if_neg hc, List.cons_append,
      setMachineProviderCondition_of_find?_eq_none now condition cs
        (List.find?_eq_none.mpr fun x hx => absent x (List.mem_cons_of_mem _ hx))]

theorem setMachineProviderCondition_unchanged (now : Int) (condition : Condition) :
    ∀ (cs : List Condition) (existing : Condition),
      cs.find? (·.type == condition.type) = some existing →
      shouldUpdateCondition condition existing = false →
      setMachineProviderCondition now condition cs = cs
  | [], _, h, _ => by simp at h
  | c :: cs, existing, h, same => by
    rw [setMachineProviderCondition_cons]
    by_cases e : c.type = condition.type
    · simp only [List.find?_cons, e, beq_self_eq_true, Option.some.injEq] at h
      subst h
      simp [e, updateExistingCondition, same]
    · rw [List.find?_cons_of_neg _ (by simpa using e)] at h
      simp [e, setMachineProviderCondition_unchanged now condition cs existing h same]

/-- After an update, the condition agrees with the call on reason and message. -/
theorem shouldUpdateCondition_updateExistingCondition (now : Int) (condition existing : Condition) :
    shouldUpdateCondition condition (updateExistingCondition now condition existing) = false := by
  unfold updateExistingCondition
  split <;> simp_all [shouldUpdateCondition]

/-- Setting a condition again changes nothing, whatever the clock reads: after
the first call the first condition of its type carries the call's reason and
message, so the second call finds nothing to update, and no transition time
moves. -/
theorem setMachineProviderCondition_idempotent (now now' : Int) (condition : Condition)
    (conditions : List Condition) :
    setMachineProviderCondition now' condition (setMachineProviderCondition now condition conditions) =
      setMachineProviderCondition now condition conditions := by
  have first := find?_setMachineProviderCondition now condition conditions
  cases found : conditions.find? (·.type == condition.type) with
  | none =>
    rw [found] at first
    exact setMachineProviderCondition_unchanged now' condition _ _ first
      (by simp [shouldUpdateCondition])
  | some existing =>
    rw [found] at first
    exact setMachineProviderCondition_unchanged now' condition _ _ first
      (shouldUpdateCondition_updateExistingCondition now condition existing)

/-- The first condition of the call's type after the call: when there was none,
the call's condition, stamped `now`, appended to the list as it was; else the
first existing one, which takes the call's status, reason and message when the
reason or the message differs (its transition time becomes `now` exactly when
the status changes), and which stays as it was, with the whole list, when both
are equal. -/
theorem setMachineProviderCondition_first (now : Int) (condition : Condition)
    (conditions : List Condition) :
    let after := setMachineProviderCondition now condition conditions
    (conditions.find? (·.type == condition.type) = none →
        after = conditions ++ [{ condition with lastTransitionTime := now }] ∧
        after.find? (·.type == condition.type) = some { condition with lastTransitionTime := now }) ∧
      ∀ existing, conditions.find? (·.type == condition.type) = some existing →
        ((condition.reason ≠ existing.reason ∨ condition.message ≠ existing.message) →
            after.find? (·.type == condition.type) =
              some { existing with
                status := condition.status
                reason := condition.reason
                message := condition.message
                lastTransitionTime := if existing.status = condition.status
                  then existing.lastTransitionTime else now }) ∧
          (condition.reason = existing.reason → condition.message = existing.message →
            after = conditions) := by
  refine ⟨fun h => ⟨setMachineProviderCondition_of_find?_eq_none now condition conditions h,
      by simp [find?_setMachineProviderCondition, h]⟩, fun existing h => ⟨?_, ?_⟩⟩
  · intro differs
    have update : shouldUpdateCondition condition existing = true := by
      rcases differs with d | d <;> simp [shouldUpdateCondition, d]
    rw [find?_setMachineProviderCondition, h]
    by_cases s : existing.status = condition.status <;>
      simp [updateExistingCondition, update, s]
  · intro reason message
    exact setMachineProviderCondition_unchanged now condition conditions existing h
      (by simp [shouldUpdateCondition, reason, message])

/-- A call that changes only the status leaves the condition's status as it was. -/
theorem setMachineProviderCondition_ignores_status :
    let existing : Condition := ⟨"MachineCreation", "False", 0, 0, "MachineCreationFailed", ""⟩
    let condition : Condition := { existing with status := "True" }
    (setMachineProviderCondition 1 condition [existing]).find? (·.type == condition.type) =
        some existing ∧ existing.status ≠ condition.status := by
  decide

end AlibabaActuator
