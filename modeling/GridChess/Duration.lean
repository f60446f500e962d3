/-!
# Durations

A duration is a number of nanoseconds whose whole seconds fit in 64 bits.
-/

set_option autoImplicit false

namespace GridChess

def nanosecondsPerSecond : Nat := 1000000000

def nanosecondsPerMillisecond : Nat := 1000000

structure Duration where
  nanoseconds : Nat
  lt_limit : nanoseconds < 18446744073709551616 * 1000000000 := by decide
  deriving DecidableEq, Repr

namespace Duration

def zero : Duration := ⟨0, by decide⟩

instance : Inhabited Duration := ⟨zero⟩

def seconds (d : Duration) : Nat := d.nanoseconds / nanosecondsPerSecond

/-- The part below a second, in nanoseconds. -/
def subsecond (d : Duration) : Nat := d.nanoseconds % nanosecondsPerSecond

def milliseconds (d : Duration) : Nat := d.nanoseconds / nanosecondsPerMillisecond

def ofNanoseconds? (n : Nat) : Option Duration :=
  if h : n < 18446744073709551616 * 1000000000 then some ⟨n, h⟩ else none

def ofMilliseconds (ms : UInt64) : Duration where
  nanoseconds := ms.toNat * nanosecondsPerMillisecond
  lt_limit := by
    have := ms.toNat_lt
    simp only [nanosecondsPerMillisecond]
    omega

/-- The sum, unless its seconds no longer fit. -/
def add? (a b : Duration) : Option Duration := ofNanoseconds? (a.nanoseconds + b.nanoseconds)

@[ext]
theorem ext {a b : Duration} (h : a.nanoseconds = b.nanoseconds) : a = b := by
  cases a; cases b; simp_all

theorem ofNanoseconds?_eq_some {n : Nat} {d : Duration} :
    ofNanoseconds? n = some d ↔ d.nanoseconds = n := by
  unfold ofNanoseconds?
  split
  · rw [Option.some.injEq, eq_comm, Duration.ext_iff]
  · rename_i h
    have := d.lt_limit
    constructor
    · simp
    · omega

end Duration

end GridChess
