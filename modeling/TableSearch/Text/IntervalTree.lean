/-!
# Maps on code points

A property of characters is written as a list of intervals of code points, ascending and apart, and
looked up in a binary search tree that holds the same intervals.
-/

namespace TableSearch.Text

/-- The code points from `first` to `last`, which share one value. -/
structure Interval (Value : Type) where
  first : Nat
  last : Nat
  /-- What holds of every code point of the interval. -/
  value : Value

/-- A binary search tree of intervals. -/
inductive IntervalTree (Value : Type) where
  | empty
  /-- An interval between the intervals below it and those above it. -/
  | node (below : IntervalTree Value) (interval : Interval Value) (above : IntervalTree Value)

namespace IntervalTree

variable {Value : Type}

/-- The intervals of a tree, from the lowest to the highest. -/
def toList : IntervalTree Value → List (Interval Value)
  | .empty => []
  | .node below interval above => below.toList ++ interval :: above.toList

/-- Moves intervals from the front of a list into a tree, at most `2 ^ depth - 1` of them. -/
def take : Nat → List (Interval Value) → IntervalTree Value × List (Interval Value)
  | 0, intervals => (.empty, intervals)
  | depth + 1, intervals =>
      match take depth intervals with
      | (below, []) => (below, [])
      | (below, interval :: rest) =>
          let (above, remaining) := take depth rest
          (.node below interval above, remaining)

/-- The search tree of an ascending list of intervals. -/
def ofList (intervals : List (Interval Value)) : IntervalTree Value :=
  (take (intervals.length.log2 + 1) intervals).1

/-- The search tree of ascending ranges of code points, for a property that holds or not. -/
def ofRanges (ranges : List (Nat × Nat)) : IntervalTree Unit :=
  ofList (ranges.map fun (first, last) => ⟨first, last, ()⟩)

/-- The value at a code point, if an interval of the tree holds it. -/
def find? : IntervalTree Value → Nat → Option Value
  | .empty, _ => none
  | .node below interval above, code =>
      if code < interval.first then below.find? code
      else if interval.last < code then above.find? code
      else some interval.value

/-- Whether an interval of the tree holds a code point. -/
def contains (tree : IntervalTree Value) (code : Nat) : Bool :=
  (tree.find? code).isSome

end IntervalTree

end TableSearch.Text
