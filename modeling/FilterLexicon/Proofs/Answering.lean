import FilterLexicon.Proofs.Entries
import FilterLexicon.Proofs.Handling

/-! What the answering of requests comes to. The answer to a request depends only on its name in
upper case, so it does not matter which requests went before it. The first request that has no
operators stops the answering, and if there is none, each request adds its entry in order. -/

namespace FilterLexicon.Handlers

variable (handlers : Handlers) (columns : Columns)

/-- The operators that a request comes to. -/
def answer (request : String) : Except Failure Operators :=
  match columns.get? (Text.upperAscii request) with
  | none => .error (.unknownAttribute (Text.upperAscii request))
  | some column => (handlers.operatorsOf (Text.upperAscii request) column).outcome

/-- The failure of a request. -/
def refusal? (request : String) : Option Failure :=
  match handlers.answer columns request with
  | .ok _ => none
  | .error failure => some failure

/-- The entry of a request. -/
def addition? (request : String) : Option (String × Operators) :=
  match handlers.answer columns request with
  | .ok operators => some (Text.upperAscii request, operators)
  | .error _ => none

variable {handlers columns}

theorem addRequests_cons_of_ok {request : String} {operators : Operators}
    (h : handlers.answer columns request = .ok operators) (attributes : Entries Operators)
    (rest : List String) :
    (handlers.addRequests columns attributes (request :: rest)).outcome =
      (handlers.addRequests columns
        (attributes.insert (Text.upperAscii request) operators) rest).outcome := by
  unfold answer at h
  rw [addRequests]
  cases hget : columns.get? (Text.upperAscii request) with
  | none =>
      rw [hget] at h
      cases h
  | some column =>
      rw [hget] at h
      show (handlers.operatorsOf _ column >>= fun operators =>
        handlers.addRequests columns (attributes.insert _ operators) rest).outcome = _
      rw [Run.bind_of_ok h]

theorem addRequests_cons_of_error {request : String} {failure : Failure}
    (h : handlers.answer columns request = .error failure) (attributes : Entries Operators)
    (rest : List String) :
    (handlers.addRequests columns attributes (request :: rest)).outcome = .error failure := by
  unfold answer at h
  rw [addRequests]
  cases hget : columns.get? (Text.upperAscii request) with
  | none =>
      rw [hget] at h
      cases h
      rfl
  | some column =>
      rw [hget] at h
      show (handlers.operatorsOf _ column >>= fun operators =>
        handlers.addRequests columns (attributes.insert _ operators) rest).outcome = _
      rw [Run.bind_of_error h]

/-- The requests give their entries in order, unless one of them is refused. -/
theorem addRequests_outcome (attributes : Entries Operators) (requests : List String) :
    (handlers.addRequests columns attributes requests).outcome =
      match requests.findSome? (handlers.refusal? columns) with
      | some failure => .error failure
      | none => .ok (attributes.insertAll (requests.filterMap (handlers.addition? columns))) := by
  induction requests generalizing attributes with
  | nil => rfl
  | cons request rest ih =>
      cases hanswer : handlers.answer columns request with
      | error failure =>
          have hrefusal : handlers.refusal? columns request = some failure := by
            rw [refusal?, hanswer]
          rw [addRequests_cons_of_error hanswer, List.findSome?_cons, hrefusal]
      | ok operators =>
          have hrefusal : handlers.refusal? columns request = none := by
            rw [refusal?, hanswer]
          have hadds : handlers.addition? columns request =
              some (Text.upperAscii request, operators) := by
            rw [addition?, hanswer]
          rw [addRequests_cons_of_ok hanswer, ih, List.findSome?_cons, hrefusal,
            List.filterMap_cons, hadds]
          rfl

theorem refusal?_eq_none_iff {request : String} :
    handlers.refusal? columns request = none ↔
      ∃ operators, handlers.answer columns request = .ok operators := by
  unfold refusal?
  cases handlers.answer columns request <;> simp

theorem refusal?_eq_some_iff {request : String} {failure : Failure} :
    handlers.refusal? columns request = some failure ↔
      handlers.answer columns request = .error failure := by
  unfold refusal?
  cases handlers.answer columns request <;> simp

theorem addition?_eq_some_iff {request : String} {e : String × Operators} :
    handlers.addition? columns request = some e ↔
      e.1 = Text.upperAscii request ∧ handlers.answer columns request = .ok e.2 := by
  obtain ⟨name, operators⟩ := e
  unfold addition?
  cases handlers.answer columns request with
  | error failure => simp
  | ok answered => simp [eq_comm]

theorem answer_congr {request other : String}
    (h : Text.upperAscii request = Text.upperAscii other) :
    handlers.answer columns request = handlers.answer columns other := by
  unfold answer
  rw [h]

theorem answer_eq_ok_iff_provides {request : String} {operators : Operators} :
    handlers.answer columns request = .ok operators ↔
      ∃ column, columns.get? (Text.upperAscii request) = some column ∧
        handlers.Provides (Text.upperAscii request) column operators := by
  unfold answer
  cases columns.get? (Text.upperAscii request) with
  | none => simp
  | some column =>
      simp only [Option.some.injEq, exists_eq_left']
      exact operatorsOf_eq_ok_iff_provides

/-- Requests of the same names in upper case are answered by the same run. -/
theorem addRequests_congr (handlers : Handlers) (columns : Columns) (attributes : Entries Operators)
    {requests other : List String}
    (h : requests.map Text.upperAscii = other.map Text.upperAscii) :
    handlers.addRequests columns attributes requests =
      handlers.addRequests columns attributes other := by
  induction requests generalizing attributes other with
  | nil => rw [List.map_eq_nil_iff.mp h.symm]
  | cons request rest ih =>
      cases other with
      | nil => cases h
      | cons request' rest' =>
          obtain ⟨hname, hrest⟩ := List.cons.inj h
          rw [addRequests, addRequests]
          simp only [hname, ih _ hrest]

/-- The answering succeeds exactly when every request has an answer. -/
theorem addRequests_eq_ok_iff {requests : List String} {attributes : Entries Operators} :
    (handlers.addRequests columns {} requests).outcome = .ok attributes ↔
      (∀ request ∈ requests, ∃ operators, handlers.answer columns request = .ok operators) ∧
        attributes = Entries.ofList (requests.filterMap (handlers.addition? columns)) := by
  rw [addRequests_outcome]
  constructor
  · intro h
    cases hrefusal : requests.findSome? (handlers.refusal? columns) with
    | some failure =>
        rw [hrefusal] at h
        cases h
    | none =>
        rw [hrefusal] at h
        refine ⟨?_, (Except.ok.inj h).symm⟩
        intro request hrequest
        exact refusal?_eq_none_iff.mp (List.findSome?_eq_none_iff.mp hrefusal request hrequest)
  · rintro ⟨hall, rfl⟩
    have hrefusal : requests.findSome? (handlers.refusal? columns) = none :=
      List.findSome?_eq_none_iff.mpr fun request hrequest =>
        refusal?_eq_none_iff.mpr (hall request hrequest)
    rw [hrefusal]
    rfl

/-- It fails exactly with the failure of the first request without an answer. -/
theorem addRequests_eq_error_iff {requests : List String} {attributes : Entries Operators}
    {failure : Failure} :
    (handlers.addRequests columns attributes requests).outcome = .error failure ↔
      ∃ earlier request later, requests = earlier ++ request :: later ∧
        (∀ r ∈ earlier, ∃ operators, handlers.answer columns r = .ok operators) ∧
        handlers.answer columns request = .error failure := by
  have hfirst : (handlers.addRequests columns attributes requests).outcome = .error failure ↔
      requests.findSome? (handlers.refusal? columns) = some failure := by
    rw [addRequests_outcome]
    cases requests.findSome? (handlers.refusal? columns) <;> simp
  rw [hfirst, List.findSome?_eq_some_iff]
  constructor
  · rintro ⟨earlier, request, later, heq, hrequest, hearlier⟩
    exact ⟨earlier, request, later, heq, fun r hr => refusal?_eq_none_iff.mp (hearlier r hr),
      refusal?_eq_some_iff.mp hrequest⟩
  · rintro ⟨earlier, request, later, heq, hearlier, hrequest⟩
    exact ⟨earlier, request, later, heq, refusal?_eq_some_iff.mpr hrequest,
      fun r hr => refusal?_eq_none_iff.mpr (hearlier r hr)⟩

/-- The attributes are the requests in upper case, each at its first occurrence. -/
theorem keys_of_addRequests {requests : List String} {attributes : Entries Operators}
    (h : (handlers.addRequests columns {} requests).outcome = .ok attributes) :
    attributes.keys = (requests.map Text.upperAscii).eraseDups := by
  obtain ⟨hall, rfl⟩ := addRequests_eq_ok_iff.mp h
  rw [Entries.keys_ofList]
  congr 1
  clear h
  induction requests with
  | nil => rfl
  | cons request rest ih =>
      obtain ⟨operators, hoperators⟩ := hall request List.mem_cons_self
      have hadds : handlers.addition? columns request = some (Text.upperAscii request, operators) :=
        addition?_eq_some_iff.mpr ⟨rfl, hoperators⟩
      rw [List.filterMap_cons, hadds, List.map_cons, List.map_cons,
        ih fun r hr => hall r (List.mem_cons_of_mem _ hr)]

/-- Each attribute is a request in upper case with its answer. -/
theorem mem_of_addRequests {requests : List String} {attributes : Entries Operators}
    (h : (handlers.addRequests columns {} requests).outcome = .ok attributes)
    {e : String × Operators} (he : e ∈ attributes.toList) :
    ∃ request ∈ requests, e.1 = Text.upperAscii request ∧
      handlers.answer columns request = .ok e.2 := by
  rw [(addRequests_eq_ok_iff.mp h).2] at he
  obtain ⟨request, hrequest, hadds⟩ := List.mem_filterMap.mp (Entries.mem_ofList he)
  exact ⟨request, hrequest, addition?_eq_some_iff.mp hadds⟩

/-- Under its name in upper case, each request has its own answer. -/
theorem get?_of_addRequests {requests : List String} {attributes : Entries Operators}
    (h : (handlers.addRequests columns {} requests).outcome = .ok attributes) {request : String}
    (hrequest : request ∈ requests) {operators : Operators}
    (hanswer : handlers.answer columns request = .ok operators) :
    attributes.get? (Text.upperAscii request) = some operators := by
  have hmem : Text.upperAscii request ∈ attributes.keys := by
    rw [keys_of_addRequests h, List.mem_eraseDups]
    exact List.mem_map_of_mem hrequest
  obtain ⟨found, hfound⟩ := Option.isSome_iff_exists.mp ((attributes.get?_isSome_iff _).mpr hmem)
  rw [hfound, Option.some.injEq]
  -- The entry is that of some request of the same name, which has the same answer.
  obtain ⟨other, _, hname, hother⟩ := mem_of_addRequests h (Entries.mem_of_lookup_eq_some hfound)
  rw [← answer_congr hname, hanswer] at hother
  exact (Except.ok.inj hother).symm

end FilterLexicon.Handlers
