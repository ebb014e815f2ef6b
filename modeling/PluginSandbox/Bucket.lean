/-!
# Token buckets

A bucket fills steadily, holds as many tokens as it gains in a second, and lets an operation pass
for one token. A rate of zero does not limit. Time is in nanoseconds, and tokens are counted in
billionths, so the amounts are exact.
-/

namespace PluginSandbox

/-- The nanoseconds of a second, and the parts of a token. -/
def billion : Nat := 1000000000

structure Bucket where
  rate : UInt32
  /-- Billionths of a token. -/
  level : Nat
  refilledAt : Nat
deriving DecidableEq, Inhabited

namespace Bucket

def capacity (b : Bucket) : Nat :=
  b.rate.toNat * billion

def full (rate : UInt32) (now : Nat) : Bucket :=
  ⟨rate, rate.toNat * billion, now⟩

/-- Gains `rate` billionths in each nanosecond, up to the capacity. -/
def refill (b : Bucket) (now : Nat) : Bucket :=
  { b with
    level := min b.capacity (b.level + (now - b.refilledAt) * b.rate.toNat)
    refilledAt := now }

/-- Refills, then spends a token if there is one. -/
def allow (b : Bucket) (now : Nat) : Bool × Bucket :=
  if b.rate = 0 then (true, b)
  else
    let b := b.refill now
    if billion ≤ b.level then (true, { b with level := b.level - billion }) else (false, b)

def wholeTokens (b : Bucket) : Nat :=
  b.level / billion

def reset (b : Bucket) (now : Nat) : Bucket :=
  full b.rate now

end Bucket

end PluginSandbox
