import SimonVs.Consts

namespace SimonVs.Memory

/-! The array of buttons on the heap. A block remembers how many elements were
allocated, so that a store outside of them and a second `free` are visible in
the state instead of being undefined. -/

/-- One element of the array. `none` is a value that is no enumerator of
`button_click_t`, as uninitialised memory may hold. -/
abbrev Cell := Option ButtonClick

structure Block where
  cells : Nat → Cell
  /-- number of elements allocated -/
  capacity : Nat
  /-- stores at an index the block does not have -/
  overruns : Nat
  /-- calls of `free` on the block -/
  frees : Nat

/-- The pointer before any `malloc`: no element belongs to it. -/
def Block.null : Block :=
  { cells := fun _ => none, capacity := 0, overruns := 0, frees := 0 }

/-- `malloc(count * sizeof(...))`: the elements keep whatever the memory held. -/
def Block.malloc (contents : Nat → Cell) (count : Nat) : Block :=
  { cells := contents, capacity := count, overruns := 0, frees := 0 }

/-- `buttons[index] = click`. A store past the end still changes the memory
there; it is counted in `overruns`. -/
def Block.store (block : Block) (index : Nat) (click : ButtonClick) : Block :=
  { block with
    cells := fun i => if i = index then some click else block.cells i
    overruns := if index < block.capacity then block.overruns else block.overruns + 1 }

def Block.free (block : Block) : Block := { block with frees := block.frees + 1 }

def Block.firstCells (block : Block) (size : Nat) : List Cell :=
  (List.range size).map block.cells

variable {block : Block} {size index : Nat} {click : ButtonClick}

@[simp] theorem Block.firstCells_zero : block.firstCells 0 = [] := rfl

@[simp] theorem Block.length_firstCells : (block.firstCells size).length = size := by
  simp [Block.firstCells]

@[simp] theorem Block.firstCells_free : block.free.firstCells size = block.firstCells size := rfl

@[simp] theorem Block.firstCells_store :
    (block.store size click).firstCells (size + 1) = block.firstCells size ++ [some click] := by
  have unchanged : (List.range size).map (block.store size click).cells =
      (List.range size).map block.cells := by
    apply List.map_congr_left
    intro i member
    have below : i < size := List.mem_range.mp member
    simp [Block.store, Nat.ne_of_lt below]
  simp only [Block.firstCells, List.range_succ, List.map_append, unchanged]
  simp [Block.store]

theorem Block.firstCells_getElem? (below : index < size) :
    (block.firstCells size)[index]? = some (block.cells index) := by
  simp [Block.firstCells, below]

end SimonVs.Memory
