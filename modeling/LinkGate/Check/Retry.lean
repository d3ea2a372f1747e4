import LinkGate.Outcome

/-!
# Checking one address

An address is asked for again, after a pause, as long as the server answers that it is asked too
often and the number of requests allows it. Any other end of a request is final.
-/

namespace LinkGate

structure RetryPolicy where
  /-- Milliseconds between an answer and the next request. -/
  backoff : Nat
  /-- How many requests may be made, the first one included. -/
  maxAttempts : Nat
deriving DecidableEq, Repr

namespace RetryPolicy

/-- Twenty seconds, and five requests after the first. -/
def standard : RetryPolicy := ⟨20 * 1000, 6⟩

def budget (p : RetryPolicy) : Nat :=
  max 1 p.maxAttempts

/-- Whether another request follows a request that ended with a status, `attempts` having been
made. -/
def asksAgain (p : RetryPolicy) (attempts : Nat) (status : Status) : Bool :=
  status.isRateLimited && attempts < p.budget

end RetryPolicy

/-- How the request of an address ends that comes after `earlier` requests of the same address, and
the milliseconds until then. -/
structure Reply where
  status : Status
  delay : Nat
deriving DecidableEq, Repr

abbrev Probe := (url : String) → (earlier : Nat) → Reply

/-- The last status of an address after `attempts` requests, and how many requests that took.
`allowed` bounds the number of requests that are left. -/
def lastStatus (policy : RetryPolicy) (ends : Nat → Status) : (allowed attempts : Nat) → Status × Nat
  | 0, attempts => (ends attempts, attempts + 1)
  | allowed + 1, attempts =>
    if policy.asksAgain (attempts + 1) (ends attempts) then
      lastStatus policy ends allowed (attempts + 1)
    else (ends attempts, attempts + 1)

def checkOne (policy : RetryPolicy) (probe : Probe) (url : String) : Outcome :=
  let (status, attempts) := lastStatus policy (fun k => (probe url k).status) policy.budget 0
  { url, status, attempts }

end LinkGate
