import Mathlib.Data.List.Nodup
import Klarity.Renderer.Domains.ApiError

set_option autoImplicit false

/-! # The message of a chain

A chain should pick its first clause that qualifies. A call of `set()` that finds the clause before it
fulfilled only ends that clause, so the clause it opens is lost, and the call after it may replace what was
picked. A call of `inc()` checks nothing when the error has a message of its own or lacks the field. -/

namespace Klarity.ApiError

variable (d : Dictionary) (error : Fields)

/-! ## What a chain should pick -/

def Condition.Holds : Condition → Bool
  | .whereIs type declaration => (error type).any (Value.isString declaration)
  | .inc type declaration => (get d error type).any (Value.includes declaration)

/-- Whether a clause may replace the message of the error. -/
def Clause.eligible (clause : Clause) : Bool :=
  clause.force || (localizableError d error).isNone

def Clause.holds (clause : Clause) : Bool :=
  clause.conditions.all (Condition.Holds d error)

def Clause.qualifies (clause : Clause) : Bool :=
  clause.eligible d error && clause.holds d error

/-- The message where no clause qualifies. -/
def otherwise (fallbackError : String) : Option Message :=
  match localizableError d error with
  | some message => some message
  | none => if fallbackError = "" then some genericApiError else d.messages fallbackError

def messageOf (fallbackError : String) : Option Clause → Option Message
  | some clause => d.messages clause.predefinedError
  | none => otherwise d error fallbackError

def expected (chain : List Clause) (fallbackError : String) : Option Message :=
  messageOf d error fallbackError (chain.find? (Clause.qualifies d error))

/-- The clause proposes a message that exists. -/
def Clause.Known (clause : Clause) : Prop :=
  clause.predefinedError ≠ "" ∧ (d.messages clause.predefinedError).isSome

/-! ## When it does -/

/-- The condition is one that the calls look at: not an `inc()` where the error has a message of its own or
the field is missing or empty. -/
def Condition.isChecked : Condition → Bool
  | .whereIs _ _ => true
  | .inc type _ => (localizableError d error).isNone && (get d error type).any Value.truthy

/-- One of the conditions that are looked at does not hold. -/
def Clause.isRefuted (clause : Clause) : Bool :=
  clause.conditions.any fun condition => condition.isChecked d error && !condition.Holds d error

/-- After a clause that holds no clause is eligible, the next one apart. A clause that does not hold is seen
not to; or the clause after it does not qualify, and a later one is eligible. -/
def Applies : List Clause → Prop
  | [] => True
  | clause :: rest =>
      if clause.eligible d error && !clause.isRefuted d error then
        if clause.holds d error then ∀ later ∈ rest.drop 1, ¬ later.eligible d error
        else
          match rest with
          | [] => False
          | next :: rest =>
              ¬ next.qualifies d error ∧ (∃ later ∈ rest, later.eligible d error) ∧ Applies rest
      else Applies rest

/-! ## What the calls keep -/

/-- The clause whose message is kept, and whether it was opened by the last `set()`. -/
structure Standing where
  isOpen : Bool
  pick : Option Clause

def Standing.initial : Standing := ⟨false, none⟩

def Standing.next (standing : Standing) (clause : Clause) : Standing :=
  if !standing.isOpen && clause.eligible d error then
    if clause.isRefuted d error then initial else ⟨true, some clause⟩
  else { standing with isOpen := false }

/-- The fields of the state, by the standing. -/
structure Standing.Describes (standing : Standing) (s : State) : Prop where
  clause : s.clause = standing.isOpen
  tempError : s.tempError = standing.pick.elim "" Clause.predefinedError
  forceSet : s.isFinalError = true → s.forceSet = standing.pick.isSome
  isFinalError : s.isFinalError = (localizableError d error).isSome
  message : (localizableError d error).all (s.message = ·) = true
  values : s.values = error
  additionalValues : s.additionalValues = []

theorem describes_initial : Standing.initial.Describes d error (new d error) := by
  unfold new
  cases h : localizableError d error with
  | none => constructor <;> simp [Standing.initial, h]
  | some message => constructor <;> simp [Standing.initial, h]

variable {d error}

/-- A `set()` that may not open its clause. -/
theorem describes_set_skipped {standing : Standing} {s : State} {clause : Clause}
    (h : standing.Describes d error s) (hskip : (!standing.isOpen && clause.eligible d error) = false) :
    ({ standing with isOpen := false } : Standing).Describes d error
      (set d s clause.predefinedError clause.force none) := by
  have hset : set d s clause.predefinedError clause.force none = { s with clause := false } := by
    unfold set
    rw [if_neg]
    intro hcond
    simp only [h.clause, h.isFinalError, Bool.and_eq_true] at hcond
    simp only [Clause.eligible] at hskip
    cases hm : localizableError d error <;> simp_all
  rw [hset]
  exact { h with clause := rfl }

/-- A `set()` that opens its clause. -/
theorem describes_set_opened {standing : Standing} {s : State} {clause : Clause}
    (h : standing.Describes d error s) (hknown : clause.Known d) (hopen : standing.isOpen = false)
    (heligible : clause.eligible d error = true) :
    (⟨true, some clause⟩ : Standing).Describes d error
      (set d s clause.predefinedError clause.force none) := by
  have hset : set d s clause.predefinedError clause.force none =
      { s with tempError := clause.predefinedError, clause := true, forceSet := clause.force } := by
    unfold set
    rw [if_pos]
    simp only [Clause.eligible] at heligible
    simp only [h.clause, h.isFinalError, hopen]
    cases hm : localizableError d error <;> simp_all [Clause.Known]
  rw [hset]
  refine { h with clause := rfl, tempError := rfl, forceSet := ?_ }
  intro hfinal
  have hfinal' : s.isFinalError = true := hfinal
  rw [h.isFinalError] at hfinal'
  simp only [Clause.eligible] at heligible
  cases hm : localizableError d error <;> simp_all

/-- Once a clause is closed its conditions are not looked at. -/
theorem foldl_condition_of_closed (conditions : List Condition) {s : State} (h : s.clause = false) :
    conditions.foldl (Condition.run d) s = s := by
  induction conditions with
  | nil => rfl
  | cons condition conditions ih =>
    have hrun : Condition.run d s condition = s := by
      cases condition <;> simp [Condition.run, ApiError.whereIs, ApiError.inc, h]
    rw [List.foldl_cons, hrun]
    exact ih

/-- A condition that is looked at and does not hold drops the clause. -/
theorem describes_condition_refuted {clause : Clause} {s : State} {condition : Condition}
    (h : (⟨true, some clause⟩ : Standing).Describes d error s)
    (hrefuted : (condition.isChecked d error && !condition.Holds d error) = true) :
    Standing.initial.Describes d error (Condition.run d s condition) := by
  obtain ⟨hchecked, hfails⟩ : condition.isChecked d error = true ∧ condition.Holds d error = false := by
    simpa using hrefuted
  have hclause : s.clause = true := h.clause
  cases condition with
  | whereIs type declaration =>
    have hlooks : (s.clause && (!s.isFinalError || (s.isFinalError && s.forceSet))) = true := by
      have hforce := h.forceSet
      cases hfinal : s.isFinalError <;> simp_all
    have hvalue : (s.values type).any (Value.isString declaration) = false := by
      rw [h.values]
      exact hfails
    simp only [Condition.run, ApiError.whereIs, hlooks, hvalue, if_true, Bool.false_eq_true, if_false]
    exact { h with
      clause := rfl, tempError := rfl, forceSet := fun _ => rfl
      values := by simp [h.additionalValues, h.values] }
  | inc type declaration =>
    simp only [Condition.isChecked, Bool.and_eq_true] at hchecked
    obtain ⟨hown, htruthy⟩ := hchecked
    have hfinal : s.isFinalError = false := by
      rw [h.isFinalError]
      cases hm : localizableError d error <;> simp_all
    simp only [Condition.Holds] at hfails
    cases hfield : get d error type with
    | none => simp [hfield] at htruthy
    | some value =>
      rw [hfield] at htruthy hfails
      have hrun : Condition.run d s (.inc type declaration) = { s with clause := false, tempError := "" } := by
        simp_all [Condition.run, ApiError.inc, h.values]
      rw [hrun]
      refine { h with clause := rfl, tempError := rfl, forceSet := ?_ }
      intro hfinal'
      exact absurd hfinal' (by simp [hfinal])

/-- Any other condition leaves the clause as it is. -/
theorem condition_run_of_not_refuted {clause : Clause} {s : State} {condition : Condition}
    (h : (⟨true, some clause⟩ : Standing).Describes d error s)
    (hkeeps : (condition.isChecked d error && !condition.Holds d error) = false) :
    Condition.run d s condition = s := by
  cases condition with
  | whereIs type declaration =>
    have hvalue : (s.values type).any (Value.isString declaration) = true := by
      rw [h.values]
      simpa [Condition.isChecked, Condition.Holds] using hkeeps
    simp [Condition.run, ApiError.whereIs, hvalue]
  | inc type declaration =>
    simp only [Condition.isChecked, Condition.Holds] at hkeeps
    simp only [Condition.run, ApiError.inc, h.values, h.isFinalError]
    cases hfield : get d error type with
    | none => simp [Value.truthy]
    | some value =>
      cases hm : localizableError d error <;> simp_all

theorem describes_conditions {clause : Clause} (conditions : List Condition) {s : State}
    (h : (⟨true, some clause⟩ : Standing).Describes d error s) :
    (if conditions.any (fun c => c.isChecked d error && !c.Holds d error) then Standing.initial
      else ⟨true, some clause⟩ : Standing).Describes d error (conditions.foldl (Condition.run d) s) := by
  induction conditions with
  | nil => exact h
  | cons condition conditions ih =>
    rw [List.foldl_cons]
    by_cases hrefuted : (condition.isChecked d error && !condition.Holds d error) = true
    · have hdropped := describes_condition_refuted h hrefuted
      rw [foldl_condition_of_closed conditions hdropped.clause]
      simpa [hrefuted] using hdropped
    · rw [Bool.not_eq_true] at hrefuted
      rw [condition_run_of_not_refuted h hrefuted]
      simpa [hrefuted] using ih

theorem describes_clause_run {standing : Standing} {s : State} {clause : Clause}
    (h : standing.Describes d error s) (hknown : clause.Known d) :
    (standing.next d error clause).Describes d error (clause.run d s) := by
  unfold Standing.next Clause.run
  by_cases hopens : (!standing.isOpen && clause.eligible d error) = true
  · rw [if_pos hopens]
    obtain ⟨hopen, heligible⟩ : standing.isOpen = false ∧ clause.eligible d error = true := by
      simpa using hopens
    exact describes_conditions clause.conditions (describes_set_opened h hknown hopen heligible)
  · rw [if_neg hopens]
    have hskipped := describes_set_skipped h (by simpa using hopens)
    rw [foldl_condition_of_closed clause.conditions hskipped.clause]
    exact hskipped

/-- What is picked is a clause of the chain. -/
def picked (d : Dictionary) (error : Fields) (standing : Standing) (chain : List Clause) : Option Clause :=
  (chain.foldl (Standing.next d error) standing).pick

theorem describes_foldl (chain : List Clause) {standing : Standing} {s : State}
    (h : standing.Describes d error s) (hknown : ∀ clause ∈ chain, clause.Known d) :
    (chain.foldl (Standing.next d error) standing).Describes d error (chain.foldl (Clause.run d) s) := by
  induction chain generalizing standing s with
  | nil => exact h
  | cons clause chain ih =>
    exact ih (describes_clause_run h (hknown clause (by simp)))
      (fun later hlater => hknown later (by simp [hlater]))

theorem result_message {standing : Standing} {s : State} (h : standing.Describes d error s)
    (hknown : ∀ clause ∈ standing.pick, clause.Known d) (fallbackError : String) :
    (result d s fallbackError).map (·.message) = messageOf d error fallbackError standing.pick := by
  have hfinal := h.isFinalError
  have htemp := h.tempError
  have hforce := h.forceSet
  have hmessage := h.message
  cases hpick : standing.pick with
  | none =>
    rw [hpick] at htemp hforce
    cases hm : localizableError d error with
    | some message => simp_all [result, messageOf, otherwise]
    | none =>
      by_cases hfallback : fallbackError = ""
      · simp_all [result, messageOf, otherwise]
      · simp_all [result, messageOf, otherwise, Function.comp_def]
  | some clause =>
    rw [hpick] at htemp hforce
    obtain ⟨hne, hsome⟩ := hknown clause (by simp [hpick])
    obtain ⟨message, hclause⟩ := Option.isSome_iff_exists.mp hsome
    have hkept : (s.isFinalError && !s.forceSet) = false := by
      cases hf : s.isFinalError <;> simp_all
    simp [result, hkept, htemp, hne, hclause, messageOf]

/-! ## What is picked -/

theorem picked_mem (chain : List Clause) (standing : Standing) {clause : Clause}
    (h : clause ∈ picked d error standing chain) :
    clause ∈ standing.pick ∨ clause ∈ chain := by
  induction chain generalizing standing with
  | nil => exact Or.inl h
  | cons first chain ih =>
    rcases ih (standing.next d error first) h with hpick | hmem
    · unfold Standing.next at hpick
      split at hpick
      · split at hpick
        · simp [Standing.initial] at hpick
        · exact Or.inr (by simp_all)
      · exact Or.inl hpick
    · exact Or.inr (by simp [hmem])

theorem throws_message (chain : List Clause) (hknown : ∀ clause ∈ chain, clause.Known d)
    (fallbackError : String) :
    (throws d error chain fallbackError).map (·.message) =
      messageOf d error fallbackError (picked d error .initial chain) := by
  refine result_message (describes_foldl chain (describes_initial d error) hknown) ?_ fallbackError
  intro clause hpick
  rcases picked_mem chain Standing.initial hpick with hnone | hmem
  · simp [Standing.initial] at hnone
  · exact hknown clause hmem

/-- Where no clause is eligible, what was picked stays. -/
theorem picked_of_none_eligible (chain : List Clause) (standing : Standing)
    (h : ∀ clause ∈ chain, ¬ clause.eligible d error) :
    picked d error standing chain = standing.pick := by
  induction chain generalizing standing with
  | nil => rfl
  | cons clause chain ih =>
    have hnext : standing.next d error clause = { standing with isOpen := false } := by
      have hclause : clause.eligible d error = false := by simpa using h clause (by simp)
      simp [Standing.next, hclause]
    show picked d error (standing.next d error clause) chain = _
    rw [hnext]
    exact ih _ (fun later hlater => h later (by simp [hlater]))

/-- The first eligible clause replaces what was picked before. -/
theorem picked_of_eligible (chain : List Clause) (pick : Option Clause)
    (h : ∃ clause ∈ chain, clause.eligible d error) :
    picked d error ⟨false, pick⟩ chain = picked d error .initial chain := by
  induction chain with
  | nil => simp at h
  | cons clause chain ih =>
    show picked d error (Standing.next d error ⟨false, pick⟩ clause) chain =
      picked d error (Standing.next d error .initial clause) chain
    by_cases heligible : clause.eligible d error = true
    · simp [Standing.next, heligible, Standing.initial]
    · have hlater : ∃ later ∈ chain, later.eligible d error := by
        obtain ⟨later, hmem, hlater⟩ := h
        rcases List.mem_cons.mp hmem with rfl | hmem
        · exact absurd hlater heligible
        · exact ⟨later, hmem, hlater⟩
      simpa [Standing.next, heligible, Standing.initial] using ih hlater

/-- A clause is refuted only where it does not hold. -/
theorem not_holds_of_isRefuted {clause : Clause} (h : clause.isRefuted d error = true) :
    clause.holds d error = false := by
  obtain ⟨condition, hmem, hcondition⟩ := List.any_eq_true.mp h
  rw [Clause.holds, List.all_eq_false]
  refine ⟨condition, hmem, ?_⟩
  simp_all

/-! ## When the right clause is picked -/

theorem picked_cons (clause : Clause) (rest : List Clause) :
    picked d error .initial (clause :: rest) =
      if clause.eligible d error && !clause.isRefuted d error then
        picked d error ⟨true, some clause⟩ rest
      else picked d error .initial rest := by
  show picked d error (Standing.next d error .initial clause) rest = _
  cases heligible : clause.eligible d error <;>
    cases hrefuted : clause.isRefuted d error <;>
    simp [Standing.next, Standing.initial, heligible, hrefuted]

/-- The call after a kept clause opens nothing. -/
theorem picked_of_open (clause next : Clause) (rest : List Clause) :
    picked d error ⟨true, some clause⟩ (next :: rest) = picked d error ⟨false, some clause⟩ rest := by
  show picked d error (Standing.next d error ⟨true, some clause⟩ next) rest = _
  simp [Standing.next]

/-- A kept clause stays picked where no clause but the next is eligible. -/
theorem picked_kept (clause : Clause) (rest : List Clause)
    (h : ∀ later ∈ rest.drop 1, ¬ later.eligible d error) :
    picked d error ⟨true, some clause⟩ rest = some clause := by
  cases rest with
  | nil => rfl
  | cons next rest =>
    rw [picked_of_open]
    exact picked_of_none_eligible rest _ h

theorem picked_initial_mem {chain : List Clause} {clause : Clause}
    (h : picked d error .initial chain = some clause) : clause ∈ chain := by
  rcases picked_mem chain Standing.initial h with hnone | hmem
  · simp [Standing.initial] at hnone
  · exact hmem

theorem find?_cons_of_not_kept {clause : Clause} (rest : List Clause)
    (h : (clause.eligible d error && !clause.isRefuted d error) = false) :
    (clause :: rest).find? (Clause.qualifies d error) = rest.find? (Clause.qualifies d error) := by
  refine List.find?_cons_of_neg ?_
  intro hqualifies
  obtain ⟨heligible, hholds⟩ : clause.eligible d error = true ∧ clause.holds d error = true := by
    simpa [Clause.qualifies] using hqualifies
  have hrefuted : clause.isRefuted d error = true := by simpa [heligible] using h
  rw [not_holds_of_isRefuted hrefuted] at hholds
  exact Bool.false_ne_true hholds

theorem find?_cons_of_kept {clause : Clause} (rest : List Clause)
    (hkept : (clause.eligible d error && !clause.isRefuted d error) = true)
    (hholds : clause.holds d error = true) :
    (clause :: rest).find? (Clause.qualifies d error) = some clause := by
  refine List.find?_cons_of_pos ?_
  simp_all [Clause.qualifies]

theorem find?_cons_of_not_holds {clause : Clause} (rest : List Clause) (h : ¬ clause.holds d error = true) :
    (clause :: rest).find? (Clause.qualifies d error) = rest.find? (Clause.qualifies d error) := by
  refine List.find?_cons_of_neg ?_
  simp [Clause.qualifies, h]

theorem applies_cons_of_holds {clause : Clause} (rest : List Clause)
    (hkept : (clause.eligible d error && !clause.isRefuted d error) = true)
    (hholds : clause.holds d error = true) :
    Applies d error (clause :: rest) ↔ ∀ later ∈ rest.drop 1, ¬ later.eligible d error := by
  rw [Applies.eq_def]
  simp only [hkept, hholds, if_true]

theorem applies_cons_of_not_kept {clause : Clause} (rest : List Clause)
    (h : ¬ (clause.eligible d error && !clause.isRefuted d error) = true) :
    Applies d error (clause :: rest) ↔ Applies d error rest := by
  rw [Applies.eq_def]
  simp only [h, Bool.false_eq_true, if_false]

theorem picked_eq_find?_of_applies (chain : List Clause) (h : Applies d error chain) :
    picked d error .initial chain = chain.find? (Clause.qualifies d error) := by
  induction chain using Applies.induct d error with
  | case1 => rfl
  | case2 clause rest hkept hholds =>
    rw [applies_cons_of_holds rest hkept hholds] at h
    rw [picked_cons, if_pos hkept, picked_kept clause rest h, find?_cons_of_kept rest hkept hholds]
  | case3 clause hkept hholds =>
    rw [Applies, if_pos hkept, if_neg hholds] at h
    exact h.elim
  | case4 clause hkept hholds next rest ih =>
    rw [Applies, if_pos hkept, if_neg hholds] at h
    obtain ⟨hnext, hlater, happlies⟩ := h
    rw [picked_cons, if_pos hkept, picked_of_open, picked_of_eligible rest _ hlater, ih happlies,
      find?_cons_of_not_holds _ hholds, List.find?_cons_of_neg hnext]
  | case5 clause rest hkept ih =>
    rw [applies_cons_of_not_kept rest hkept] at h
    rw [picked_cons, if_neg hkept, ih h, find?_cons_of_not_kept rest (by simpa using hkept)]

/-- In a chain of different clauses the right one is picked for no other reason. -/
theorem applies_of_picked_eq_find? (chain : List Clause) (hnodup : chain.Nodup)
    (h : picked d error .initial chain = chain.find? (Clause.qualifies d error)) :
    Applies d error chain := by
  induction chain using Applies.induct d error with
  | case1 => trivial
  | case2 clause rest hkept hholds =>
    rw [applies_cons_of_holds rest hkept hholds]
    rw [picked_cons, if_pos hkept, find?_cons_of_kept rest hkept hholds] at h
    have hnot : clause ∉ rest := (List.nodup_cons.mp hnodup).1
    cases rest with
    | nil => simp
    | cons next rest =>
      rw [picked_of_open] at h
      by_contra hsome
      have hlater : ∃ later ∈ rest, later.eligible d error := by simpa using hsome
      rw [picked_of_eligible rest _ hlater] at h
      exact hnot (List.mem_cons_of_mem next (picked_initial_mem h))
  | case3 clause hkept hholds =>
    rw [picked_cons, if_pos hkept, find?_cons_of_not_holds _ hholds] at h
    simp [picked] at h
  | case4 clause hkept hholds next rest ih =>
    rw [Applies, if_pos hkept, if_neg hholds]
    rw [picked_cons, if_pos hkept, picked_of_open, find?_cons_of_not_holds _ hholds] at h
    obtain ⟨hclause, hrest⟩ := List.nodup_cons.mp hnodup
    obtain ⟨hnext, hrest⟩ := List.nodup_cons.mp hrest
    -- otherwise the clause itself would be picked, which does not qualify
    have hlater : ∃ later ∈ rest, later.eligible d error := by
      by_contra hnone
      rw [picked_of_none_eligible rest _ (by simpa using hnone)] at h
      exact hclause (List.mem_of_find?_eq_some h.symm)
    rw [picked_of_eligible rest _ hlater] at h
    have hqualifies : ¬ next.qualifies d error := by
      intro hqualifies
      rw [List.find?_cons_of_pos hqualifies] at h
      exact hnext (picked_initial_mem h)
    rw [List.find?_cons_of_neg hqualifies] at h
    exact ⟨hqualifies, hlater, ih hrest h⟩
  | case5 clause rest hkept ih =>
    rw [applies_cons_of_not_kept rest hkept]
    rw [picked_cons, if_neg hkept, find?_cons_of_not_kept rest (by simpa using hkept)] at h
    exact ih (List.nodup_cons.mp hnodup).2 h

/-- No two clauses have the same message, and none has the message of the case that no clause qualifies. -/
def Distinct (d : Dictionary) (error : Fields) (chain : List Clause) (fallbackError : String) : Prop :=
  (otherwise d error fallbackError :: chain.map fun clause => d.messages clause.predefinedError).Nodup

theorem messageOf_injOn {chain : List Clause} {fallbackError : String} {first second : Option Clause}
    (hdistinct : Distinct d error chain fallbackError) (hfirst : ∀ clause ∈ first, clause ∈ chain)
    (hsecond : ∀ clause ∈ second, clause ∈ chain)
    (h : messageOf d error fallbackError first = messageOf d error fallbackError second) :
    first = second := by
  obtain ⟨hother, hnodup⟩ := List.nodup_cons.mp hdistinct
  have hmem : ∀ clause ∈ chain,
      d.messages clause.predefinedError ∈ chain.map fun clause => d.messages clause.predefinedError :=
    fun clause hclause => List.mem_map_of_mem hclause
  cases first with
  | none =>
    cases second with
    | none => rfl
    | some second =>
      have hsame : otherwise d error fallbackError = d.messages second.predefinedError := h
      exact absurd (hsame ▸ hmem second (hsecond second rfl)) hother
  | some first =>
    cases second with
    | none =>
      have hsame : d.messages first.predefinedError = otherwise d error fallbackError := h
      exact absurd (hsame ▸ hmem first (hfirst first rfl)) hother
    | some second =>
      exact congrArg some
        (List.inj_on_of_nodup_map hnodup (hfirst first rfl) (hsecond second rfl) h)

/-- A chain throws the message of its first clause that qualifies where `Applies` says so; and only there,
unless two of the messages are the same. -/
theorem throws_expected_iff_applies (chain : List Clause) (hknown : ∀ clause ∈ chain, clause.Known d)
    (fallbackError : String) :
    (Applies d error chain →
      (throws d error chain fallbackError).map (·.message) = expected d error chain fallbackError) ∧
    (Distinct d error chain fallbackError →
      (throws d error chain fallbackError).map (·.message) = expected d error chain fallbackError →
      Applies d error chain) := by
  rw [throws_message chain hknown fallbackError]
  constructor
  · intro happlies
    rw [picked_eq_find?_of_applies chain happlies]
    rfl
  · intro hdistinct hmessage
    have hpicked : picked d error .initial chain = chain.find? (Clause.qualifies d error) :=
      messageOf_injOn hdistinct (fun clause hclause => picked_initial_mem hclause)
        (fun clause hclause => List.mem_of_find?_eq_some hclause) hmessage
    have hnodup : chain.Nodup := List.Nodup.of_map _ (List.nodup_cons.mp hdistinct).2
    exact applies_of_picked_eq_find? chain hnodup hpicked

/-! ## On inputs -/

/-- The messages of a transaction that is sent. -/
def transactionMessages : Dictionary where
  messages
    | "wrongEncryptionPassphrase" =>
        some ⟨"api.errors.IncorrectPasswordError", "!!!Incorrect wallet password."⟩
    | "transactionIsTooBig" =>
        some ⟨"api.errors.TooBigTransactionError", "!!!Transaction too big due to too many inputs."⟩
    | "invalidAddress" => some ⟨"api.errors.invalidAddress", "!!!Please enter a valid address."⟩
    | _ => none
  camelCase
    | "bad_request" => "badRequest"
    | "transaction_is_too_big" => "transactionIsTooBig"
    | code => code
  snakeCase := id
  stringToPath type := [type]

def badRequest (message : Option String) : Fields
  | "code" => some (.string "bad_request")
  | "message" => message.map .string
  | _ => none

def wrongPassphrase : Clause :=
  ⟨"wrongEncryptionPassphrase", false,
    [.whereIs "code" "bad_request", .inc "message" "passphrase is too short"]⟩

def tooBig : Clause :=
  ⟨"transactionIsTooBig", true, [.whereIs "code" "transaction_is_too_big"]⟩

def wrongAddress : Clause :=
  ⟨"invalidAddress", false, [.whereIs "code" "bad_request", .inc "message" "Unable to decode Address"]⟩

/-- A request refused without a message is shown as a wrong password; and a short password, found by the
first of three clauses, is not shown. -/
theorem throws_not_expected :
    ((throws transactionMessages (badRequest none) [wrongPassphrase, tooBig] "").map (·.message.id) =
        some "api.errors.IncorrectPasswordError" ∧
      (expected transactionMessages (badRequest none) [wrongPassphrase, tooBig] "").map (·.id) =
        some "api.errors.GenericApiError") ∧
    ((throws transactionMessages (badRequest (some "passphrase is too short"))
          [wrongPassphrase, tooBig, wrongAddress] "").map (·.message.id) =
        some "api.errors.GenericApiError" ∧
      (expected transactionMessages (badRequest (some "passphrase is too short"))
          [wrongPassphrase, tooBig, wrongAddress] "").map (·.id) =
        some "api.errors.IncorrectPasswordError") := by
  decide +kernel

theorem throws_expected_wrongPassphrase :
    (throws transactionMessages (badRequest (some "passphrase is too short")) [wrongPassphrase, tooBig]
        "").map (·.message) =
      expected transactionMessages (badRequest (some "passphrase is too short")) [wrongPassphrase, tooBig]
        "" := by
  have hknown : ∀ clause ∈ [wrongPassphrase, tooBig], clause.Known transactionMessages := by
    intro clause hclause
    simp only [List.mem_cons, List.not_mem_nil, or_false] at hclause
    rcases hclause with rfl | rfl
    · exact ⟨by decide, rfl⟩
    · exact ⟨by decide, rfl⟩
  have hkept : (wrongPassphrase.eligible transactionMessages (badRequest (some "passphrase is too short")) &&
      !wrongPassphrase.isRefuted transactionMessages (badRequest (some "passphrase is too short"))) = true := by
    decide +kernel
  have hholds : wrongPassphrase.holds transactionMessages
      (badRequest (some "passphrase is too short")) = true := by
    decide +kernel
  exact (throws_expected_iff_applies [wrongPassphrase, tooBig] hknown "").1
    ((applies_cons_of_holds [tooBig] hkept hholds).mpr (by simp))

end Klarity.ApiError
