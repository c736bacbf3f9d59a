/-!
# The CPU layout

A fixed pool of CPU ids `0, 1, …, capacity - 1`, each either free or held. Ids are handed out lowest
first; giving back an id that is not held is a fault of the caller, and the ids before it stay given
back.
-/

namespace StressBatch

/-- A pool of CPU ids; position `i` of `held` says whether id `i` is held. -/
structure CpuLayout where
  /-- For every id whether it is held. -/
  held : List Bool
  deriving DecidableEq, Repr

namespace CpuLayout

/-- The layout of `capacity` free ids. -/
def ofCapacity (capacity : Nat) : CpuLayout := ⟨List.replicate capacity false⟩

/-- The number of ids. -/
def capacity (layout : CpuLayout) : Nat := layout.held.length

/-- Whether the id exists and is held. -/
def isHeld (layout : CpuLayout) (id : Nat) : Bool := layout.held[id]?.getD false

/-- Whether the id exists and is free. -/
def isFree (layout : CpuLayout) (id : Nat) : Bool := layout.held[id]? = some false

/-- The free ids, ascending. -/
def free (layout : CpuLayout) : List Nat := (List.range layout.capacity).filter layout.isFree

/-- The held ids, ascending. -/
def busy (layout : CpuLayout) : List Nat := (List.range layout.capacity).filter layout.isHeld

/-- The number of free ids. -/
def available (layout : CpuLayout) : Nat := layout.held.countP (· == false)

/-- Whether no id is held. -/
def isIdle (layout : CpuLayout) : Bool := layout.available == layout.capacity

/-- The layout after the given ids have been marked as held. -/
def hold (layout : CpuLayout) (ids : List Nat) : CpuLayout :=
  ⟨ids.foldl (fun held id => held.set id true) layout.held⟩

/-- Takes the `n` lowest free ids. When fewer are free there is no answer and nothing is taken. -/
def tryAcquire (layout : CpuLayout) (n : Nat) : Option (List Nat × CpuLayout) :=
  if n ≤ layout.available then
    let ids := layout.free.take n
    some (ids, layout.hold ids)
  else none

/-- Why an id cannot be given back. -/
inductive ReleaseFault where
  /-- The id is free already. -/
  | notHeld (id : Nat)
  /-- There is no such id. -/
  | outside (id : Nat)
  deriving DecidableEq, Repr

/-- Gives back one id. -/
def releaseOne (layout : CpuLayout) (id : Nat) : Except ReleaseFault CpuLayout :=
  match layout.held[id]? with
  | some true => .ok ⟨layout.held.set id false⟩
  | some false => .error (.notHeld id)
  | none => .error (.outside id)

/-- Gives back ids one after the other, up to the first that cannot be given back. The layout of the
answer has the ids before it free. -/
def release (layout : CpuLayout) : List Nat → Option ReleaseFault × CpuLayout
  | [] => (none, layout)
  | id :: ids =>
    match layout.releaseOne id with
    | .ok layout' => layout'.release ids
    | .error fault => (some fault, layout)

/-- The map of the layout: a mark for every held id, a dot for every free one. -/
def display (layout : CpuLayout) : String :=
  "[" ++ String.ofList (layout.held.map fun held => if held then '#' else '.') ++ "]"

/-- The text of a fault, given the layout at that moment. -/
def ReleaseFault.message (layout : CpuLayout) : ReleaseFault → String
  | .notHeld id => s!"releasing CPU {id} which is not held ({layout.display})"
  | .outside id => s!"releasing CPU {id} outside of layout ({layout.display})"

@[simp] theorem capacity_ofCapacity (n : Nat) : (ofCapacity n).capacity = n := by
  simp [ofCapacity, capacity]

@[simp] theorem release_nil (layout : CpuLayout) : layout.release [] = (none, layout) := rfl

end CpuLayout

end StressBatch
