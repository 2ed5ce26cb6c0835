import AlpacaVrr.Core.Ring

/-!
# The Socket Table

The table by which `vrr_rcv_data` finds the socket a data packet is for.

A socket is filed under the address it was connected to, in one of
`VRR_HASHSIZE` lists, newest first. The lookup walks one list and compares
addresses.

## Main definitions

* `VrrSock`, `VrrSocks`: A socket, and the table of lists.
* `vrr_hash_list`: The list of an address.
* `vrr_find_sock`, `vrr_hash_sock`, `vrr_unhash_sock`: The operations.
-/

namespace AlpacaVrr

/-- A socket: which one it is, and the address it is connected to. -/
structure VrrSock where
  sk : Nat
  rem_addr : U32
  deriving DecidableEq

def VRR_HASHSIZE : U32 := 32

def VRR_HASHMASK : U32 := VRR_HASHSIZE - 1

/-- The lists of the table, by index. -/
abbrev VrrSocks := U32 → List VrrSock

/-- The table as `vrr_sock_init` leaves it. -/
def vrr_sock_init : VrrSocks := fun _ => []

/-- The index of an address's list. -/
def vrr_hash_list (addr : U32) : U32 := addr &&& VRR_HASHMASK

def vrr_find_sock (t : VrrSocks) (addr : U32) : Option VrrSock :=
  (t (vrr_hash_list addr)).find? (fun vsk => vsk.rem_addr == addr)

def vrr_hash_sock (t : VrrSocks) (sk : VrrSock) : VrrSocks := fun i =>
  if i = vrr_hash_list sk.rem_addr then sk :: t i else t i

/-- `sk_del_node_init` takes the socket off the list it is linked on. -/
def vrr_unhash_sock (t : VrrSocks) (sk : VrrSock) : VrrSocks := fun i =>
  (t i).eraseP (fun vsk => vsk.sk == sk.sk)

end AlpacaVrr
