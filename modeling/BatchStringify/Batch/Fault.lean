import BatchStringify.Debuggee.Error
import BatchStringify.Reply.Codec

/-!
# Batch faults

Why a batch could not be evaluated with a single call. A fault concerns the batch as a whole; its
values are then evaluated one by one.
-/

namespace BatchStringify

/-- The cause of a failed batch. -/
inductive BatchFault where
  | noThread
  | arrayTypeUnavailable (error : RemoteError)
  | remote (error : RemoteError)
  | notAString
  | malformed (fault : Reply.Malformed)
  | entryCountMismatch (expected actual : Nat)
  deriving DecidableEq, Repr

namespace BatchFault

/-- The wording of a batch fault. -/
def message : BatchFault → String
  | .noThread => "no suspended thread to run the batch helper on"
  | .arrayTypeUnavailable error => "batch array type is unavailable: " ++ error.message
  | .remote error => error.message
  | .notAString => "batch helper returned a non-string value"
  | .malformed fault => "malformed batch response: " ++ fault.message
  | .entryCountMismatch expected actual =>
    "batch response has " ++ toString actual ++ " entries for " ++ toString expected ++ " requests"

/-- Whether an object that the batch needed was collected. -/
def isInvalidated : BatchFault → Bool
  | .remote (.objectCollected _) => true
  | _ => false

/-- Whether batches run into the fault in the normal course of things. -/
def isExpected : BatchFault → Bool
  | .remote error | .arrayTypeUnavailable error => error.isBatchFault
  | _ => true

/-- The wording of the fault behind the fault. A remote fault speaks for its error and has none of
its own. -/
def source? : BatchFault → Option String
  | .arrayTypeUnavailable error => some error.message
  | .malformed fault => some fault.message
  | _ => none

end BatchFault

end BatchStringify
