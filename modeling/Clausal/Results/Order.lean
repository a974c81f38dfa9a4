import Clausal.Results.Column

/-!
# Orders of values

Sorting by a value, and the groups that equal values make.

Values are sorted by exchange: the middle one of the first, the middle and the last item divides the
others into a lower and an upper part, which are sorted on their own, and parts of few items are sorted by
insertion. Insertion leaves equal items in their order and exchange does not, so the order of equal items
is kept in short lists only.
-/

namespace Clausal.Results

/-! ## Sorting by exchange -/

namespace Exchange

variable {α : Type}

/-- The greatest number of items that are sorted by insertion. -/
def insertionLimit : Nat := 17

/-- The two items change places if the second one comes before the first one. -/
def order (isBefore : α → α → Bool) (items : Array α) (first second : Nat) : Array α :=
  match items[first]?, items[second]? with
  | some left, some right =>
    if isBefore right left then items.swapIfInBounds first second else items
  | _, _ => items

/-- The first position after the given one whose item is not before the divider. -/
def advance (isBefore : α → α → Bool) (items : Array α) (divider : α) (position : Nat) : Nat → Nat
  | 0 => position + 1
  | fuel + 1 =>
    match items[position + 1]? with
    | some item =>
      if isBefore item divider then advance isBefore items divider (position + 1) fuel
      else position + 1
    | none => position + 1

/-- The last position before the given one whose item the divider is not before. -/
def retreat (isBefore : α → α → Bool) (items : Array α) (divider : α) : Nat → Nat
  | 0 => 0
  | position + 1 =>
    match items[position]? with
    | some item =>
      if isBefore divider item then retreat isBefore items divider position else position
    | none => position

/-- Exchanges items that stand on the wrong side of the divider, between two positions, until these
meet. Gives the position at which the upper part starts. -/
def exchange (isBefore : α → α → Bool) (divider : α) (low high : Nat) (items : Array α) :
    Nat → Array α × Nat
  | 0 => (items, low)
  | fuel + 1 =>
    let lower := advance isBefore items divider low items.size
    let upper := retreat isBefore items divider high
    if upper ≤ lower then (items, lower)
    else exchange isBefore divider lower upper (items.swapIfInBounds lower upper) fuel

/-- The items divided: the lower part, the divider, and the upper part. The divider waits next to the end
while the others are exchanged. -/
def divide? (isBefore : α → α → Bool) (items : Array α) : Option (List α × α × List α) :=
  let last := items.size - 1
  let middle := last / 2
  let ordered := order isBefore (order isBefore (order isBefore items 0 middle) middle last) 0 middle
  (ordered[middle]?).bind fun divider =>
    let waiting := ordered.swapIfInBounds middle (last - 1)
    let (exchanged, boundary) :=
      exchange isBefore divider 0 (last - 1) waiting waiting.size
    let divided := (exchanged.swapIfInBounds boundary (last - 1)).toList
    (divided[boundary]?).map fun item => (divided.take boundary, item, divided.drop (boundary + 1))

/-- The items in order, each part divided again at most so often. -/
def sortWithin (isBefore : α → α → Bool) : Nat → List α → List α
  | 0, items => items.mergeSort fun left right => !isBefore right left
  | fuel + 1, items =>
    let inserted := items.mergeSort fun left right => !isBefore right left
    if items.length ≤ insertionLimit then inserted
    else match divide? isBefore items.toArray with
      | some (lower, divider, upper) =>
        sortWithin isBefore fuel lower ++ divider :: sortWithin isBefore fuel upper
      | none => inserted

/-- The items in order. -/
def sort (isBefore : α → α → Bool) (items : List α) : List α :=
  sortWithin isBefore items.length items

end Exchange

/-- A list in ascending order of a value. Items without a value come last, in their order. -/
def sortBy {α : Type} (key : α → Scalar) (items : List α) : List α :=
  let (missing, given) := items.partition fun item => (key item).isMissing
  Exchange.sort (fun left right => (key left).isBelow (key right)) given ++ missing

/-! ## Groups -/

/-- The values, each once, in the order in which they first occur. -/
def distinct (values : List Scalar) : List Scalar :=
  (values.foldl (fun found value => if found.any value.same then found else value :: found)
    []).reverse

/-- The values that are not missing, each once, in ascending order. -/
def groupKeys (values : List Scalar) : List Scalar :=
  sortBy id (distinct (values.filter fun value => !value.isMissing))

/-- The value belongs to a group; a missing value belongs to none. -/
def belongsTo (key value : Scalar) : Bool :=
  !value.isMissing && value.same key

end Clausal.Results
