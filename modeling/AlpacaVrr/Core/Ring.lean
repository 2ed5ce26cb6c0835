import Mathlib.Order.Defs.LinearOrder
import Mathlib.Data.BitVec

/-!
# Words and Ring Distances

The machine words of the protocol and the distance it puts on node ids.

Ids, path ids and every wire field are 32-bit unsigned words, so they are
`BitVec 32` here: addition wraps, and comparison is that of the unsigned
values. The ids form a ring of `2 ^ 32` points. `get_diff` is the shorter way
round between two of them. `diff_left` and `diff_right` are meant as the two
directed distances from the local node, but they are built from `get_diff` and
a linear comparison, and `UINT_MAX` stands where `2 ^ 32` would.

## Main definitions

* `U32`: The 32-bit unsigned word.
* `get_diff`: The shorter distance round the ring.
* `diff_left`, `diff_right`: The two distances a virtual-set entry records.
-/

namespace AlpacaVrr

/-- The 32-bit unsigned word `u32`. -/
abbrev U32 := BitVec 32

/-- Words are compared as a whole. -/
instance : LawfulBEq U32 := inferInstance

/-- The linear order of unsigned words. -/
instance : LinearOrder U32 where
  le_refl x := Nat.le_refl x.toNat
  le_trans _ _ _ := Nat.le_trans
  le_antisymm _ _ h h' := BitVec.eq_of_toNat_eq (Nat.le_antisymm h h')
  le_total x y := Nat.le_total x.toNat y.toNat
  lt_iff_le_not_ge x y := Nat.lt_iff_le_and_not_ge
  toDecidableLE := inferInstance
  toDecidableEq := inferInstance
  toDecidableLT := inferInstance

/-- The null hop, and the null sender of a path being torn down. -/
def null : U32 := 0

def UINT_MAX : U32 := 0xFFFFFFFF

def VRR_VSET_SIZE : Nat := 4

def VRR_PSET_SIZE : Nat := 20

def VRR_FAIL_TIMEOUT : Nat := 4

def VRR_ACTIVE_TIMEOUT : Nat := 8

/-- The shorter distance between two ids on the ring. -/
def get_diff (x y : U32) : U32 :=
  let i := x - y
  let j := y - x
  if i < j then i else j

/-- The counter-clockwise distance of `node` as an entry records it. -/
def diff_left (me node : U32) : U32 :=
  if me < node then UINT_MAX - get_diff node me else get_diff node me

/-- The clockwise distance of `node` as an entry records it. -/
def diff_right (me node : U32) : U32 :=
  if node < me then UINT_MAX - get_diff node me else get_diff node me

end AlpacaVrr
