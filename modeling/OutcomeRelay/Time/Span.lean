set_option autoImplicit false

namespace OutcomeRelay

def nanosPerSecond : Nat := 1000000000

structure Span where
  secs : Nat
  nanos : Nat
  secs_lt : secs < UInt64.size
  nanos_lt : nanos < nanosPerSecond
deriving DecidableEq

namespace Span

theorem ext_parts {a b : Span} (hs : a.secs = b.secs) (hn : a.nanos = b.nanos) : a = b := by
  cases a; cases b; simp_all

def toNanos (s : Span) : Nat := s.secs * nanosPerSecond + s.nanos

theorem toNanos_inj {a b : Span} (h : a.toNanos = b.toNanos) : a = b := by
  have ha := a.nanos_lt
  have hb := b.nanos_lt
  simp only [toNanos, nanosPerSecond] at h ha hb
  exact ext_parts (by omega) (by omega)

theorem toNanos_lt (s : Span) : s.toNanos < UInt64.size * nanosPerSecond := by
  have secs := Nat.mul_le_mul_right nanosPerSecond (Nat.succ_le_of_lt s.secs_lt)
  have nanos := s.nanos_lt
  rw [Nat.succ_mul] at secs
  unfold toNanos
  omega

def longest : Span := ⟨UInt64.size - 1, nanosPerSecond - 1, by decide, by decide⟩

/-- A number of nanoseconds as a span; what does not fit is cut down to the longest one. -/
def ofNanos (n : Nat) : Span :=
  if h : n / nanosPerSecond < UInt64.size then
    ⟨n / nanosPerSecond, n % nanosPerSecond, h, Nat.mod_lt _ (by decide)⟩
  else longest

def zero : Span := ofNanos 0
def ofMicros (n : Nat) : Span := ofNanos (n * 1000)
def ofMillis (n : Nat) : Span := ofNanos (n * 1000000)
def ofSecs (n : Nat) : Span := ofNanos (n * nanosPerSecond)

theorem toNanos_ofNanos {n : Nat} (h : n / nanosPerSecond < UInt64.size) :
    (ofNanos n).toNanos = n := by
  simp only [ofNanos, h, dite_true, toNanos]
  exact Nat.div_add_mod' n nanosPerSecond

theorem toNanos_ofMillis {n : Nat} (h : n < UInt64.size) : (ofMillis n).toNanos = n * 1000000 := by
  refine toNanos_ofNanos ?_
  simp only [nanosPerSecond]
  omega

def le (a b : Span) : Bool := a.secs < b.secs || (a.secs == b.secs && a.nanos ≤ b.nanos)

theorem le_iff (a b : Span) : a.le b = true ↔ a.toNanos ≤ b.toNanos := by
  have ha := a.nanos_lt
  have hb := b.nanos_lt
  simp only [le, toNanos, nanosPerSecond, Bool.or_eq_true, decide_eq_true_eq, Bool.and_eq_true,
    beq_iff_eq] at *
  omega

def shorter (a b : Span) : Span := if a.le b then a else b

theorem toNanos_shorter (a b : Span) : (a.shorter b).toNanos = min a.toNanos b.toNanos := by
  have h := le_iff a b
  by_cases hab : a.le b = true
  · rw [shorter, if_pos hab, Nat.min_eq_left (h.mp hab)]
  · rw [shorter, if_neg hab, Nat.min_eq_right]
    exact Nat.le_of_lt (Nat.lt_of_not_le fun hle => hab (h.mpr hle))

/-- The span `k` times over, or nothing when that is longer than any span. Seconds and nanoseconds
are multiplied apart and whole seconds of nanoseconds are carried. -/
def times? (s : Span) (k : Nat) : Option Span :=
  let fine := s.nanos * k
  let coarse := s.secs * k + fine / nanosPerSecond
  if h : coarse < UInt64.size then
    some ⟨coarse, fine % nanosPerSecond, h, Nat.mod_lt _ (by decide)⟩
  else none

theorem toNanos_mul (s : Span) (k : Nat) :
    s.toNanos * k = nanosPerSecond * (s.secs * k) + s.nanos * k := by
  rw [toNanos, Nat.add_mul, Nat.mul_right_comm, Nat.mul_comm nanosPerSecond]

/-- The seconds of a product, with what is carried from its nanoseconds. -/
theorem carry_eq (s : Span) (k : Nat) :
    s.secs * k + s.nanos * k / nanosPerSecond = s.toNanos * k / nanosPerSecond := by
  rw [toNanos_mul, Nat.mul_add_div (by decide)]

theorem rest_eq (s : Span) (k : Nat) :
    s.nanos * k % nanosPerSecond = s.toNanos * k % nanosPerSecond := by
  rw [toNanos_mul, Nat.mul_add_mod]

theorem times?_eq_some {s t : Span} {k : Nat} (h : s.times? k = some t) :
    t.toNanos = s.toNanos * k := by
  simp only [times?, carry_eq, rest_eq] at h
  split at h
  · obtain rfl := Option.some.inj h
    exact Nat.div_add_mod' _ _
  · cases h

theorem times?_eq_none {s : Span} {k : Nat} (h : s.times? k = none) :
    UInt64.size * nanosPerSecond ≤ s.toNanos * k := by
  simp only [times?, carry_eq] at h
  split at h
  · cases h
  · rename_i beyond
    exact (Nat.le_div_iff_mul_le (by decide)).mp (Nat.le_of_not_lt beyond)

/-- The clock of a world counts whole milliseconds; a span ends at the first of them that is not
before its end. -/
def ticks (s : Span) : Nat := (s.toNanos + 999999) / 1000000

def fractionDigits (places value : Nat) : List Char :=
  let digits := (Nat.toDigits 10 value)
  let padded := List.replicate (places - digits.length) '0' ++ digits
  (padded.reverse.dropWhile (· == '0')).reverse

def decimalText (whole places part : Nat) (unit : String) : String :=
  if part = 0 then toString whole ++ unit
  else toString whole ++ "." ++ String.ofList (fractionDigits places part) ++ unit

/-- A span is written in the largest of the units s, ms, µs and ns that is not longer than it. -/
def text (s : Span) : String :=
  if 0 < s.secs then decimalText s.secs 9 s.nanos "s"
  else if 1000000 ≤ s.nanos then decimalText (s.nanos / 1000000) 6 (s.nanos % 1000000) "ms"
  else if 1000 ≤ s.nanos then decimalText (s.nanos / 1000) 3 (s.nanos % 1000) "µs"
  else decimalText s.nanos 0 0 "ns"

example : (ofMicros 1500).text = "1.5ms" := by decide +kernel
example : zero.text = "0ns" := by decide +kernel
example : (ofMillis 60000).text = "60s" := by decide +kernel

end Span

end OutcomeRelay
