import TagQuery.Executor.Fault
import TagQuery.IdCache.Basic
import TagQuery.Schema.Fault
import TagQuery.Tag.Validity

/-!
Failures as callers see them: a class that says what to do about one, the part of the
system it comes from, a text, and the cause when it is known.
-/

namespace TagQuery

inductive Cause where
  | query (fault : QueryFault)
  | cache (fault : CacheFault)
  | storage (fault : StorageFault)
  | config (fault : ConfigFault)
deriving DecidableEq, Repr

def Cause.message : Cause → String
  | .query fault => fault.message
  | .cache fault => fault.message
  | .storage fault => fault.message
  | .config fault => fault.message

inductive FailureClass where
  /-- The caller's filter or tag is at fault. -/
  | invalidQuery
  /-- The cache gave no answer; a later try may succeed. -/
  | unavailable
  | storageFault
  | config
deriving DecidableEq, Repr

def FailureClass.label : FailureClass → String
  | .invalidQuery => "invalid_query"
  | .unavailable => "unavailable"
  | .storageFault => "storage_fault"
  | .config => "config"

inductive FailureOrigin where
  | query
  | cache
  | executor
  | config
deriving DecidableEq, Repr

def FailureOrigin.label : FailureOrigin → String
  | .query => "compile"
  | .cache => "cache"
  | .executor => "executor"
  | .config => "config"

structure Failure where
  kind : FailureClass
  origin : FailureOrigin
  message : String
  cause : Option Cause := none
deriving DecidableEq, Repr

namespace Failure

/-- A look-up that found nothing is a fault of the query that asked for it. -/
def ofCause (cause : Cause) : Failure :=
  match cause with
  | .query fault => ⟨.invalidQuery, .query, fault.message, some cause⟩
  | .cache (.notFound signature) =>
    let fault := QueryFault.unknownTag signature
    ⟨.invalidQuery, .query, fault.message, some (.query fault)⟩
  | .cache fault => ⟨.unavailable, .cache, fault.message, some cause⟩
  | .storage fault => ⟨.storageFault, .executor, fault.message, some cause⟩
  | .config fault => ⟨.config, .config, fault.message, some cause⟩

def ofQuery (fault : QueryFault) : Failure := ofCause (.query fault)

def ofCache (fault : CacheFault) : Failure := ofCause (.cache fault)

def ofStorage (fault : StorageFault) : Failure := ofCause (.storage fault)

def ofConfig (fault : ConfigFault) : Failure := ofCause (.config fault)

def isClientError (failure : Failure) : Bool :=
  failure.kind = .invalidQuery

def isRetryable (failure : Failure) : Bool :=
  failure.kind = .unavailable

/-- The status of an HTTP answer that reports the failure. -/
def statusCode (failure : Failure) : Nat :=
  match failure.kind with
  | .invalidQuery => 400
  | .unavailable => 503
  | .storageFault | .config => 500

def isUnknownTag (failure : Failure) : Bool :=
  match failure.cause with
  | some (.query (.unknownTag _)) => true
  | _ => false

/-- The text of a failure after its origin and its class. -/
def labelled (failure : Failure) : String :=
  failure.origin.label ++ ":" ++ failure.kind.label ++ ": " ++ failure.message

end Failure

end TagQuery
