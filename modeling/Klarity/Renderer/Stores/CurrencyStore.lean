import Klarity.Library.Lists
import Klarity.Library.Machine

set_option autoImplicit false

/-! # The currency rate

A rate is asked for when a currency is selected, and once a minute. Requests overlap freely, and each of them
writes the one field `rate` when it is answered, whatever is selected by then. A request that fails keeps the
rate that is there, and ends the fetching if there is one. -/

namespace Klarity.CurrencyStore

/-! ## The model -/

/-- Every currency that can be selected has a code. -/
structure Currency where
  code : String
  code_ne : code ≠ ""
  deriving DecidableEq

variable {Rate : Type}

/-- A request for a rate. It is answered with `none` when it fails, or when the rate is missing or zero, which
throws as well. -/
structure RateRequest (Rate : Type) where
  currency : Currency
  answer : Option (Option Rate) := none
  deriving DecidableEq

/-- `listRequests` is the number of requests for the list that are open. -/
structure State (Rate : Type) where
  list : List Currency := []
  listRequests : ℕ := 0
  selected : Option Currency := none
  rate : Option Rate := none
  isFetchingRate : Bool := false
  lastFetched : Option ℕ := none
  rateRequests : List (RateRequest Rate) := []

inductive Event (Rate : Type)
  | setCurrencySelected (code : String)
  | interval
  | listAnswered (list : Option (List Currency))
  | rateAnswered (i : ℕ) (rate : Option Rate) (now : ℕ)

def getCurrencyList (s : State Rate) : State Rate :=
  { s with listRequests := s.listRequests + 1 }

/-- `getCurrencyRate()` up to its await. -/
def getCurrencyRate (s : State Rate) : State Rate :=
  -- In case the list was not fetched when loading, it tries again
  let s := if s.list.isEmpty then getCurrencyList s else s
  match s.selected with
  | none => s
  | some localizedCurrency =>
      { s with isFetchingRate := true, rateRequests := s.rateRequests ++ [⟨localizedCurrency, none⟩] }

/-- The store when the local storage has been read. -/
def setupCurrency (selected : Option Currency) : State Rate :=
  getCurrencyRate (getCurrencyList { selected := selected })

def setCurrencySelected (s : State Rate) (code : String) : State Rate :=
  match s.list.find? (·.code = code) with
  | none => s
  | some selected => getCurrencyRate { s with selected := some selected }

/-- `getCurrencyRate()` goes on. -/
def rateAnswered (s : State Rate) (rate : Option Rate) (now : ℕ) : State Rate :=
  match rate with
  | some rate => { s with lastFetched := some now, rate := some rate, isFetchingRate := false }
  | none => if s.rate.isSome then { s with isFetchingRate := false } else s

def answerRequest (rate : Option Rate) (request : RateRequest Rate) : RateRequest Rate :=
  { request with answer := some rate }

def step (s : State Rate) : Event Rate → Option (State Rate)
  | .setCurrencySelected code => some (setCurrencySelected s code)
  | .interval => some (getCurrencyRate s)
  | .listAnswered list =>
      if 0 < s.listRequests then
        some { s with list := list.getD s.list, listRequests := s.listRequests - 1 }
      else none
  | .rateAnswered i rate now => do
      let request ← s.rateRequests[i]?
      if request.answer.isNone then
        some (rateAnswered { s with rateRequests := s.rateRequests.modify i (answerRequest rate) } rate now)
      else none

/-- The store from its setup on, with the currency that is stored. -/
def machine (Rate : Type) (selected : Option Currency) : Machine (State Rate) (Event Rate) :=
  ⟨setupCurrency selected, step⟩

/-! ## What is promised -/

variable {s s' : State Rate}

/-- A rate that is there has been fetched for the selected currency. -/
def OfSelected (s : State Rate) : Prop :=
  ∀ rate, s.rate = some rate →
    ∃ request ∈ s.rateRequests, s.selected = some request.currency ∧ request.answer = some (some rate)

/-- The request is in flight, for the selected currency. -/
def FetchesSelected (s : State Rate) (i : ℕ) : Prop :=
  ∃ request, s.rateRequests[i]? = some request ∧ s.selected = some request.currency ∧ request.answer = none

def Coherent (s : State Rate) : Prop :=
  (∀ request ∈ s.rateRequests, request.answer ≠ none) → s.isFetchingRate = false → OfSelected s

/-- While no other request for the selected currency is in flight, a rate is not answered for another currency,
and no request for the selected one fails that is to replace the rate of another. -/
def InOrder (s : State Rate) : Event Rate → Prop
  | .rateAnswered i rate _ => ∀ request, s.rateRequests[i]? = some request →
      (∃ j ≠ i, FetchesSelected s j) ∨
        match rate with
        | some _ => s.selected = some request.currency
        | none => s.selected = some request.currency → OfSelected s
  | _ => True

/-! ## Steps -/

/-- Unless the rate is that of the selected currency, a request for one is in flight. -/
def Invariant (s : State Rate) : Prop :=
  OfSelected s ∨ ∃ i, FetchesSelected s i

theorem Invariant.coherent (h : Invariant s) : Coherent s := by
  intro hanswered _
  rcases h with hrate | ⟨i, request, hrequest, _, hopen⟩
  · exact hrate
  · exact absurd hopen (hanswered request (List.mem_of_getElem? hrequest))

/-- A rate is asked for whenever a currency is selected. -/
theorem invariant_getCurrencyRate (h : s.selected = none → s.rate = none) : Invariant (getCurrencyRate s) := by
  unfold getCurrencyRate
  dsimp only
  generalize hlist : (if s.list.isEmpty then getCurrencyList s else s) = t
  have hselected : t.selected = s.selected := by
    rw [← hlist]
    split
    · rfl
    · rfl
  have hrate : t.rate = s.rate := by
    rw [← hlist]
    split
    · rfl
    · rfl
  cases hcurrency : t.selected with
  | none =>
    left
    intro rate hsome
    rw [hrate, h (hselected.symm.trans hcurrency)] at hsome
    cases hsome
  | some localizedCurrency =>
    right
    exact ⟨t.rateRequests.length, _, List.getElem?_concat_length, rfl, rfl⟩

/-- Another request goes on being in flight when one is answered. -/
theorem FetchesSelected.modify {i j : ℕ} {f : RateRequest Rate → RateRequest Rate} (h : FetchesSelected s j)
    (hne : j ≠ i) (hrequests : s'.rateRequests = s.rateRequests.modify i f)
    (hselected : s'.selected = s.selected) : FetchesSelected s' j := by
  obtain ⟨request, hrequest, hcurrency, hopen⟩ := h
  refine ⟨request, ?_, hselected.trans hcurrency, hopen⟩
  rw [hrequests]
  exact List.getElem?_modify_eq_some.mpr (.inr ⟨hne.symm, hrequest⟩)

/-- What has been answered stays so. -/
theorem OfSelected.modify {i : ℕ} {request : RateRequest Rate} {rate : Option Rate} (h : OfSelected s)
    (hi : s.rateRequests[i]? = some request) (hopen : request.answer = none)
    (hrequests : s'.rateRequests = s.rateRequests.modify i (answerRequest rate))
    (hselected : s'.selected = s.selected) (hrate : s'.rate = s.rate) : OfSelected s' := by
  intro shown hshown
  rw [hrate] at hshown
  obtain ⟨other, hother, hcurrency, hanswer⟩ := h shown hshown
  refine ⟨other, ?_, hselected.trans hcurrency, hanswer⟩
  obtain ⟨n, hn⟩ := List.mem_iff_getElem?.mp hother
  have hne : i ≠ n := by
    rintro rfl
    obtain rfl := Option.some.inj (hi.symm.trans hn)
    rw [hopen] at hanswer
    cases hanswer
  rw [hrequests]
  exact List.mem_of_getElem? (List.getElem?_modify_eq_some.mpr (.inr ⟨hne, hn⟩))

theorem selected_rateAnswered (rate : Option Rate) (now : ℕ) :
    (rateAnswered s rate now).selected = s.selected ∧
      (rateAnswered s rate now).rateRequests = s.rateRequests := by
  unfold rateAnswered
  split
  · exact ⟨rfl, rfl⟩
  · split
    · exact ⟨rfl, rfl⟩
    · exact ⟨rfl, rfl⟩

theorem rate_rateAnswered_none (now : ℕ) : (rateAnswered s none now).rate = s.rate := by
  unfold rateAnswered
  dsimp only
  split
  · rfl
  · rfl

theorem Invariant.rateAnswered (h : Invariant s) {i : ℕ} {rate : Option Rate} {now : ℕ}
    {request : RateRequest Rate} (hok : InOrder s (.rateAnswered i rate now))
    (hi : s.rateRequests[i]? = some request) (hopen : request.answer = none) :
    Invariant (rateAnswered { s with rateRequests := s.rateRequests.modify i (answerRequest rate) } rate now) := by
  obtain ⟨hselected, hrequests⟩ := selected_rateAnswered
    (s := { s with rateRequests := s.rateRequests.modify i (answerRequest rate) }) rate now
  rcases hok request hi with ⟨j, hne, hj⟩ | hcurrency
  · exact .inr ⟨j, hj.modify hne hrequests hselected⟩
  · cases rate with
    | some rate =>
      left
      rintro _ ⟨⟩
      refine ⟨answerRequest (some rate) request, ?_, hcurrency, rfl⟩
      exact List.mem_of_getElem? (List.getElem?_modify_eq_some.mpr (.inl ⟨rfl, request, hi, rfl⟩))
    | none =>
      have hrate := rate_rateAnswered_none
        (s := { s with rateRequests := s.rateRequests.modify i (answerRequest none) }) now
      by_cases hcurrent : s.selected = some request.currency
      · exact .inl ((hcurrency hcurrent).modify hi hopen hrequests hselected hrate)
      · rcases h with hof | ⟨j, hj⟩
        · exact .inl (hof.modify hi hopen hrequests hselected hrate)
        · refine .inr ⟨j, hj.modify ?_ hrequests hselected⟩
          rintro rfl
          obtain ⟨other, hother, hother', _⟩ := hj
          obtain rfl := Option.some.inj (hi.symm.trans hother)
          exact hcurrent hother'

/-- Nothing is shown before a currency is selected. -/
structure StoreInvariant (s : State Rate) : Prop where
  rate : Invariant s
  unselected : s.selected = none → s.rate = none ∧ s.rateRequests = []

theorem selected_getCurrencyRate : (getCurrencyRate s).selected = s.selected := by
  unfold getCurrencyRate
  dsimp only
  split
  · split
    · rfl
    · rfl
  · split
    · rfl
    · rfl

theorem storeInvariant_getCurrencyRate (h : s.selected = none → s.rate = none ∧ s.rateRequests = []) :
    StoreInvariant (getCurrencyRate s) where
  rate := invariant_getCurrencyRate fun hnone => (h hnone).1
  unselected hnone := by
    rw [selected_getCurrencyRate] at hnone
    have hsame := h hnone
    unfold getCurrencyRate
    dsimp only
    split
    · split
      · exact hsame
      · exact hsame
    · next hsome =>
      split at hsome
      · cases hnone.symm.trans hsome
      · cases hnone.symm.trans hsome

theorem StoreInvariant.step (h : StoreInvariant s) {e : Event Rate} (hok : InOrder s e)
    (hs : step s e = some s') : StoreInvariant s' := by
  cases e with
  | setCurrencySelected code =>
    cases hs
    unfold CurrencyStore.setCurrencySelected
    split
    · exact h
    · exact storeInvariant_getCurrencyRate fun hnone => nomatch hnone
  | interval =>
    cases hs
    exact storeInvariant_getCurrencyRate h.unselected
  | listAnswered list =>
    obtain ⟨_, hs⟩ := Option.ite_none_right_eq_some.mp hs
    cases hs
    exact ⟨h.rate, h.unselected⟩
  | rateAnswered i rate now =>
    obtain ⟨request, hi, hs⟩ := Option.bind_eq_some_iff.mp hs
    obtain ⟨hopen, hs⟩ := Option.ite_none_right_eq_some.mp hs
    cases hs
    refine ⟨h.rate.rateAnswered hok hi (Option.isNone_iff_eq_none.mp hopen), ?_⟩
    intro hnone
    rw [(selected_rateAnswered rate now).1] at hnone
    rw [(h.unselected hnone).2] at hi
    cases hi

/-! ## The main results -/

/-- Where answers come in order, no rate but that of the selected currency is left when all is answered. -/
theorem coherent_of_inOrder {selected : Option Currency} (hr : (machine Rate selected).Reaches InOrder s) :
    Coherent s := by
  have h : StoreInvariant s :=
    hr.invariant (P := StoreInvariant) (storeInvariant_getCurrencyRate fun _ => ⟨rfl, rfl⟩)
      fun _ _ _ _ hok h hs => h.step hok hs
  exact h.rate.coherent

def dollar : Currency := ⟨"usd", by decide⟩

def euro : Currency := ⟨"eur", by decide⟩

/-- The rate of the first currency is answered while that of the second is asked for; a poll fails. -/
def answeredInOrder : List (Event ℕ) :=
  [.listAnswered (some [dollar, euro]), .setCurrencySelected "eur", .rateAnswered 0 (some 1) 10,
    .rateAnswered 1 (some 2) 11, .interval, .rateAnswered 2 none 12]

theorem coherent_of_answeredInOrder :
    ∃ s, (machine ℕ (some dollar)).Reaches InOrder s ∧ s.selected = some euro ∧ s.rate = some 2 ∧
      s.isFetchingRate = false ∧ Coherent s := by
  have hsteps : (machine ℕ (some dollar)).allSteps InOrder (machine ℕ (some dollar)).init answeredInOrder := by
    refine ⟨trivial, trivial, ?_, ?_, trivial, ?_, trivial⟩
    · exact fun _ _ => .inl ⟨1, by decide, _, rfl, rfl, rfl⟩
    · rintro _ ⟨⟩
      exact .inr rfl
    · rintro _ ⟨⟩
      refine .inr fun _ => ?_
      rintro _ ⟨⟩
      exact ⟨⟨euro, some (some 2)⟩, by decide, rfl, rfl⟩
  have hr : (machine ℕ (some dollar)).Reaches InOrder _ := .exec answeredInOrder .init hsteps rfl
  exact ⟨_, hr, rfl, rfl, rfl, coherent_of_inOrder hr⟩

/-- Of two overlapping requests, the one for the currency that was selected before is answered last. -/
def answeredLate : List (Event ℕ) :=
  [.listAnswered (some [dollar, euro]), .setCurrencySelected "eur", .rateAnswered 1 (some 2) 10,
    .rateAnswered 0 (some 1) 11]

/-- The request for the currency that has been selected fails. -/
def failedAfterSelection : List (Event ℕ) :=
  [.listAnswered (some [dollar, euro]), .rateAnswered 0 (some 1) 10, .setCurrencySelected "eur",
    .rateAnswered 1 none 11]

theorem not_coherent_of_late_or_failed :
    (∃ s, (machine ℕ (some dollar)).exec (machine ℕ (some dollar)).init answeredLate = some s ∧ ¬ Coherent s) ∧
      ∃ s, (machine ℕ (some dollar)).exec (machine ℕ (some dollar)).init failedAfterSelection = some s ∧
        ¬ Coherent s := by
  constructor
  · refine ⟨_, rfl, fun h => ?_⟩
    obtain ⟨request, hrequest, hcurrency, hanswer⟩ := h (by decide) rfl 1 rfl
    revert hcurrency hanswer
    revert request
    decide
  · refine ⟨_, rfl, fun h => ?_⟩
    obtain ⟨request, hrequest, hcurrency, hanswer⟩ := h (by decide) rfl 1 rfl
    revert hcurrency hanswer
    revert request
    decide

end Klarity.CurrencyStore
