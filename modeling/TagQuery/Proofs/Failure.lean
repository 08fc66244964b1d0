import TagQuery.Failure

/-! What failures say of the part of the system that they come from. -/

namespace TagQuery

theorem CacheFault.of_isNotFound {fault : CacheFault} (absent : fault.isNotFound) :
    ∃ name, fault = .notFound name := by
  cases fault with
  | notFound signature => exact ⟨signature, rfl⟩
  | unavailable reason => cases absent
  | notReady => cases absent
  | invalidEntry key value => cases absent

namespace Failure

/-- A failure whose origin, class and text are those of its cause, and whose cause came up
while a request was answered. -/
def Classified (failure : Failure) : Prop :=
  ∃ cause, failure.cause = some cause ∧ failure.message = cause.message ∧
    match cause with
    | .query _ => failure.origin = .query ∧ failure.kind = .invalidQuery
    | .cache fault =>
      failure.origin = .cache ∧ failure.kind = .unavailable ∧ fault.isNotFound = false
    | .storage _ => failure.origin = .executor ∧ failure.kind = .storageFault
    | .config _ => False

theorem classified_ofQuery (fault : QueryFault) : (ofQuery fault).Classified :=
  ⟨.query fault, rfl, rfl, rfl, rfl⟩

/-- A tag that the cache does not know is a fault of the query. -/
theorem classified_ofCache (fault : CacheFault) : (ofCache fault).Classified := by
  cases fault with
  | notFound signature => exact ⟨.query (.unknownTag signature), rfl, rfl, rfl, rfl⟩
  | unavailable reason => exact ⟨.cache (.unavailable reason), rfl, rfl, rfl, rfl, rfl⟩
  | notReady => exact ⟨.cache .notReady, rfl, rfl, rfl, rfl, rfl⟩
  | invalidEntry key value => exact ⟨.cache (.invalidEntry key value), rfl, rfl, rfl, rfl, rfl⟩

theorem classified_ofStorage (fault : StorageFault) : (ofStorage fault).Classified :=
  ⟨.storage fault, rfl, rfl, rfl, rfl⟩

/-- What is wrong with the cache itself is reported as it is. -/
theorem ofCache_of_infrastructure {fault : CacheFault} (infrastructure : fault.isNotFound = false) :
    ofCache fault = ⟨.unavailable, .cache, fault.message, some (.cache fault)⟩ := by
  cases fault with
  | notFound signature => cases infrastructure
  | unavailable reason => rfl
  | notReady => rfl
  | invalidEntry key value => rfl

theorem kind_ofCache (fault : CacheFault) :
    (ofCache fault).kind = if fault.isNotFound then .invalidQuery else .unavailable := by
  cases fault <;> rfl

theorem kind_ofCache_ne (fault : CacheFault) : (ofCache fault).kind ≠ .storageFault := by
  rw [kind_ofCache]
  cases fault.isNotFound <;> exact nofun

theorem isUnknownTag_ofCache (fault : CacheFault) :
    (ofCache fault).isUnknownTag = fault.isNotFound := by
  cases fault <;> rfl

end Failure

end TagQuery
