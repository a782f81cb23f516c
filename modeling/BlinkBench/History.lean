/-!
# The most recent of many values

A history keeps the most recent values that were pushed, up to a limit, and counts all of them.
Older values are dropped in batches, so a push takes constant time on average: up to twice as
many values as may be shown are held. What is shown is a window, from which the oldest value goes as
soon as there is one too many.
-/
namespace BlinkBench

/-- The most recent values as they are shown, and how many there were. -/
structure Window where
  /-- The values shown, oldest first. -/
  recent : List UInt8
  /-- How many values are shown at most. -/
  limit : Nat
  /-- How many values were pushed. -/
  total : UInt64
deriving DecidableEq, Repr

namespace Window

/-- A window without values. -/
def new (limit : Nat) : Window :=
  ⟨[], max limit 1, 0⟩

/-- Adds a value. Where as many are shown as may be, the oldest one goes first. -/
def push (w : Window) (v : UInt8) : Window :=
  let kept := if w.recent.length = w.limit then w.recent.tail else w.recent
  { w with recent := kept ++ [v], total := w.total + 1 }

end Window

/-- The most recent values, and how many there were. -/
structure History where
  /-- How many values are shown at most. -/
  limit : Nat
  /-- The values held, newest first. -/
  held : List UInt8
  /-- How many values are held. -/
  size : Nat
  /-- How many values were pushed. -/
  total : UInt64
  limit_pos : 0 < limit
  size_eq : size = held.length
deriving DecidableEq, Repr

namespace History

/-- The greatest limit that there can be room for. Up to it there is taken to be. -/
def maxLimit : Nat := 0x7FFFFFFFFFFFFFFF

/-- A history without values. At least one value is always kept. -/
def new (limit : Nat) : History where
  limit := max limit 1
  held := []
  size := 0
  total := 0
  limit_pos := by omega
  size_eq := rfl

/-- A history without values, where there can be room for all that it is to show: it is taken at
once, and not as the values come. -/
def new? (limit : Nat) : Option History :=
  if limit ≤ maxLimit then some (new limit) else none

/-- Adds a value. -/
def push (h : History) (v : UInt8) : History :=
  if h.size + 1 < 2 * h.limit then
    { h with
      held := v :: h.held
      size := h.size + 1
      total := h.total + 1
      size_eq := by simp [h.size_eq] }
  else
    let held := (v :: h.held).take h.limit
    { h with held, size := held.length, total := h.total + 1, size_eq := rfl }

/-- The values shown, oldest first. -/
def recent (h : History) : List UInt8 :=
  (h.held.take h.limit).reverse

/-- What is shown, with the limit and the count. -/
def window (h : History) : Window :=
  ⟨h.recent, h.limit, h.total⟩

/-- How many values are shown. -/
def length (h : History) : Nat :=
  min h.size h.limit

/-- Whether no value is shown. -/
def isEmpty (h : History) : Bool :=
  h.size == 0

/-- The newest value. -/
def newest? (h : History) : Option UInt8 :=
  h.held.head?

theorem length_eq (h : History) : h.length = h.recent.length := by
  simp [length, recent, h.size_eq, Nat.min_comm]

theorem isEmpty_eq (h : History) : h.isEmpty = h.recent.isEmpty := by
  have := h.limit_pos
  cases hs : h.held with
  | nil => simp [isEmpty, recent, h.size_eq, hs]
  | cons a l =>
    cases hl : h.limit with
    | zero => omega
    | succ n => simp [isEmpty, recent, h.size_eq, hs, hl]

end History

end BlinkBench
