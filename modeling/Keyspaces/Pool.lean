/-
  This file defines pools: things that are numbered in the
  order in which they are made and that change afterwards.

  Main definitions:
    * `Pool`
    * `Pool.add`
    * `Pool.set`
-/

namespace Keyspaces

/-
  The number of things made so far and what each of them is
  now. Those not made yet are what the pool starts with.
-/
structure Pool (α : Type) where
  size : Nat
  get : Nat → α

namespace Pool

variable {α : Type}

/- The pool in which nothing is made yet. -/
def empty [Inhabited α] : Pool α :=
  ⟨0, fun _ => default⟩

instance [Inhabited α] : Inhabited (Pool α) :=
  ⟨empty⟩

/- Let a thing be something else. -/
def set
    (pool : Pool α)
    (id : Nat)
    (item : α) : Pool α :=
  ⟨pool.size, fun other =>
    if other = id then item else pool.get other⟩

/- Make the next thing. -/
def add
    (pool : Pool α)
    (item : α) : Pool α :=
  ⟨pool.size + 1, (pool.set pool.size item).get⟩

/- The things made so far in order. -/
def toList (pool : Pool α) : List α :=
  (List.range pool.size).map pool.get

instance [Repr α] : Repr (Pool α) :=
  ⟨fun pool n => reprPrec pool.toList n⟩

------------------------------------------------------------
-- What Changes
------------------------------------------------------------

/- A thing is what it was set to. -/
@[simp]
theorem get_set_self
    (pool : Pool α)
    (id : Nat)
    (item : α) :
    (pool.set id item).get id = item :=
  if_pos rfl

/- Setting a thing leaves the others as they are. -/
theorem get_set_of_ne
    (pool : Pool α)
    {id other : Nat}
    (item : α)
    (h : other ≠ id) :
    (pool.set id item).get other = pool.get other :=
  if_neg h

/- A thing that is made is what it was made as. -/
@[simp]
theorem get_add_self
    (pool : Pool α)
    (item : α) :
    (pool.add item).get pool.size = item :=
  if_pos rfl

/- Making a thing leaves the others as they are. -/
theorem get_add_of_ne
    (pool : Pool α)
    {other : Nat}
    (item : α)
    (h : other ≠ pool.size) :
    (pool.add item).get other = pool.get other :=
  if_neg h

/- Setting a thing to what it is changes nothing. -/
theorem set_get_self
    (pool : Pool α)
    (id : Nat) :
    pool.set id (pool.get id) = pool := by
  have hGet :
      (fun other =>
          if other = id then pool.get id
          else pool.get other) =
        pool.get := by
    funext other
    split
    · subst id
      rfl
    · rfl
  rw [set, hGet]

/- A thing that is set twice is what it was set to last. -/
theorem set_set
    (pool : Pool α)
    (id : Nat)
    (first second : α) :
    (pool.set id first).set id second =
      pool.set id second := by
  have hGet :
      (fun other =>
          if other = id then second
          else (pool.set id first).get other) =
        (pool.set id second).get := by
    funext other
    by_cases hOther : other = id
    · simp [set, hOther]
    · simp [set, hOther]
  rw [set, hGet]
  rfl

/- The thing made last is what it was set to afterwards. -/
theorem set_add_self
    (pool : Pool α)
    (first second : α) :
    (pool.add first).set pool.size second =
      pool.add second := by
  have hGet :
      ((pool.set pool.size first).set pool.size second).get =
        (pool.set pool.size second).get := by
    rw [set_set]
  exact congrArg (Pool.mk (pool.size + 1)) hGet

end Pool

end Keyspaces
