import Courier.Digest.Basic
import Courier.Redirect
import Courier.Retry.Policy

/-!
Configuration of an executor: every option has a default and a range, and a configuration is checked
before it is used. The first option out of its range is reported.
-/
namespace Courier

structure Config where
  retryableServerCodes : List String := []
  retryableStatuses : List Nat := []
  maxRetries : Nat := 5
  basePeriodMillis : UInt64 := 50
  maxPeriodMillis : UInt64 := 1000
  maxRedirects : Nat := RedirectPolicy.defaultMax
  /-- Bytes of an error body that are looked at. -/
  maxErrorBodyBytes : Nat := 65536
  uploadDigest : Option DigestAlgorithm := some .md5
  connectTimeoutSeconds : UInt64 := 30
  readTimeoutSeconds : UInt64 := 300
  deriving DecidableEq, Repr

/-- An option out of its range: its name, its value, and what was expected. -/
structure OutOfRange where
  field : String
  value : Nat
  expected : String
  deriving DecidableEq, Repr

def OutOfRange.message (e : OutOfRange) : String :=
  s!"invalid {e.field}: {e.value} (expected {e.expected})"

namespace Config

def checkRange (field : String) (value low high : Nat) : Except OutOfRange Unit :=
  if low ≤ value ∧ value ≤ high then .ok ()
  else .error ⟨field, value, s!"{low}..={high}"⟩

def checkPeriods (c : Config) : Except OutOfRange Unit :=
  if c.maxPeriodMillis < c.basePeriodMillis then
    .error ⟨"max_period_ms", c.maxPeriodMillis.toNat, s!">= base_period_ms ({c.basePeriodMillis})"⟩
  else .ok ()

/-- The statuses, ascending, each once. -/
def sortedStatuses (c : Config) : List Nat :=
  (c.retryableStatuses.mergeSort (· ≤ ·)).eraseDups

/-- The error codes, ascending, each once. -/
def sortedCodes (c : Config) : List String :=
  (c.retryableServerCodes.mergeSort (· ≤ ·)).eraseDups

/-- Checks every option, in a fixed order. -/
def validate (c : Config) : Except OutOfRange Unit := do
  checkRange "max_retries" c.maxRetries 0 100
  checkRange "base_period_ms" c.basePeriodMillis.toNat 1 60000
  c.checkPeriods
  checkRange "max_redirects" c.maxRedirects 0 20
  checkRange "max_error_body_bytes" c.maxErrorBodyBytes 1 (16 * 1024 * 1024)
  checkRange "connect_timeout_secs" c.connectTimeoutSeconds.toNat 1 3600
  checkRange "read_timeout_secs" c.readTimeoutSeconds.toNat 1 3600
  c.sortedStatuses.forM fun status => checkRange "retryable_statuses" status 500 599

def backoff (c : Config) : Backoff where
  base := .ofMillis c.basePeriodMillis
  max := .ofMillis c.maxPeriodMillis

def retryPolicy (c : Config) : BackoffPolicy where
  codes := c.retryableServerCodes
  statuses := c.retryableStatuses
  backoff := c.backoff

end Config

end Courier
