import AlpacaVrr.Core.Socket
import AlpacaVrr.Core.Message

/-!
# Connecting Sockets

How a socket comes into the table and out of it again: `vrr_create`,
`vrr_connect` and `vrr_release`.

The table links the sockets themselves. The list a socket is put on is chosen
by the address it has at that time, and the lookup reads the addresses the
sockets have when it is called. So here the lists hold references, and the
sockets are kept apart from them, with their fields as they are now. In
`VrrSocks` each entry carries the address it was filed under.

`sk_common_release` is outside of the module. It calls the protocol's `unhash`
whether or not the socket is in the table, and drops the socket.
`sk_del_node_init` does nothing to one that is on no list.

`vrr_connect` reads the address for its debug message before `__vrr_connect`
looks whether it is NULL, and does not come back from that. Calls are made on
sockets that are in use, and the memory of a released one may be handed out
again.

## Main definitions

* `Sock`, `Sockets`: A socket with its fields, and the sockets with the table.
* `Sockets.vrr_find_sock`, `Sockets.vrr_hash_sock`, `Sockets.vrr_unhash_sock`:
  The table of references.
* `Sockets.vrr_create`, `Sockets.vrr_connect`, `Sockets.vrr_release`: The
  calls.
* `SockCall`, `SockStep`: A call, and what it does.
-/

namespace AlpacaVrr

def ENOMEM : Int := 12

def EPROTONOSUPPORT : Int := 93

def ESOCKTNOSUPPORT : Int := 94

def EISCONN : Int := 106

def SOCK_RAW : Int := 3

def AF_VRR : U16 := PF_VRR

/-- `struct sockaddr_vrr`. -/
structure SockaddrVrr where
  svrr_family : U16
  svrr_addr : U32
  deriving DecidableEq

/-- Its size, padding included, with a `long` of eight bytes. -/
def sizeof_sockaddr_vrr : Int := 16

/-- `SS_UNCONNECTED` and `SS_CONNECTED`. -/
inductive SocketState where
  | unconnected
  | connected
  deriving DecidableEq

/-- The address of a `struct vrr_sock`, and the state of its `struct socket`. -/
structure Sock where
  rem_addr : U32
  state : SocketState
  deriving DecidableEq

/-- The memory of the sockets, which of it is in use, and the lists of the
    table. -/
structure Sockets where
  sock : Nat → Sock
  used : Nat → Bool
  hlist : U32 → List Nat

namespace Sockets

/-- No sockets, and the table as `vrr_sock_init` leaves it. -/
def vrr_sock_init (mem : Nat → Sock) : Sockets := ⟨mem, fun _ => false, fun _ => []⟩

def vrr_find_sock (s : Sockets) (addr : U32) : Option Nat :=
  (s.hlist (vrr_hash_list addr)).find? (fun sknode => (s.sock sknode).rem_addr == addr)

/-- `sk_add_node` puts the socket in front. -/
def vrr_hash_sock (s : Sockets) (sk : Nat) : Sockets :=
  let addr := (s.sock sk).rem_addr
  { s with hlist := fun i => if i = vrr_hash_list addr then sk :: s.hlist i else s.hlist i }

def vrr_unhash_sock (s : Sockets) (sk : Nat) : Sockets :=
  { s with hlist := fun i => (s.hlist i).erase sk }

def set_sock (s : Sockets) (sk : Nat) (sock : Sock) : Sockets :=
  { s with sock := Function.update s.sock sk sock }

/-- The result, and the sockets. What `sk_alloc` gives is the reference of a
    socket, and what its memory holds as the address. -/
def vrr_create (s : Sockets) (type protocol : Int) (sk_alloc : Option (Nat × U32)) :
    Int × Sockets :=
  if protocol ≠ 0 then (-EPROTONOSUPPORT, s)
  else if type ≠ SOCK_RAW then (-ESOCKTNOSUPPORT, s)
  else match sk_alloc with
    | none => (-ENOMEM, s)
    | some (sk, garbage) =>
        (0, { s.set_sock sk ⟨garbage, .unconnected⟩ with used := Function.update s.used sk true })

set_option linter.style.nameCheck false in
def __vrr_connect (s : Sockets) (sk : Nat) (addr : Option SockaddrVrr) (addrlen : Int) :
    Int × Sockets :=
  if (s.sock sk).state = .connected then (-EISCONN, s)
  else match addr with
    | none => (-EINVAL, s)
    | some addr =>
        if addrlen ≠ sizeof_sockaddr_vrr then (-EINVAL, s)
        else if addr.svrr_family ≠ AF_VRR then (-EINVAL, s)
        else (0, (s.set_sock sk ⟨addr.svrr_addr, .connected⟩).vrr_hash_sock sk)

/-- The debug message reads the address before it is looked at. -/
def vrr_connect (s : Sockets) (sk : Nat) (uaddr : Option SockaddrVrr) (addrlen : Int) :
    Option (Int × Sockets) :=
  match uaddr with
  | none => none
  | some addr => some (s.__vrr_connect sk (some addr) addrlen)

/-- `sk_common_release` calls `vrr_unhash_sock`, and the socket is gone. -/
def vrr_release (s : Sockets) (sk : Nat) : Int × Sockets :=
  (0, { s.vrr_unhash_sock sk with used := Function.update s.used sk false })

end Sockets

/-- The calls by which sockets come and go. -/
inductive SockCall where
  | vrr_create (type protocol : Int) (sk_alloc : Option (Nat × U32))
  | vrr_connect (sk : Nat) (uaddr : Option SockaddrVrr) (addrlen : Int)
  | vrr_release (sk : Nat)
  deriving DecidableEq

/-- The result and the sockets after a call, or `none` when it does not come
    back. -/
def SockCall.run (s : Sockets) : SockCall → Option (Int × Sockets)
  | .vrr_create type protocol sk_alloc => some (s.vrr_create type protocol sk_alloc)
  | .vrr_connect sk uaddr addrlen => s.vrr_connect sk uaddr addrlen
  | .vrr_release sk => some (s.vrr_release sk)

/-- Programs have the sockets that are in use, and memory is not handed out
    twice. -/
def SockCall.Possible (s : Sockets) : SockCall → Prop
  | .vrr_create _ _ sk_alloc => ∀ a ∈ sk_alloc, s.used a.1 = false
  | .vrr_connect sk _ _ => s.used sk = true
  | .vrr_release sk => s.used sk = true

instance (s : Sockets) (c : SockCall) : Decidable (c.Possible s) :=
  match c with
  | .vrr_create _ _ sk_alloc => inferInstanceAs (Decidable (∀ a ∈ sk_alloc, s.used a.1 = false))
  | .vrr_connect sk _ _ => inferInstanceAs (Decidable (s.used sk = true))
  | .vrr_release sk => inferInstanceAs (Decidable (s.used sk = true))

/-- A call comes back with a result, and both are put on record. -/
def SockStep (s : Sockets × List (SockCall × Int)) (c : SockCall)
    (t : Sockets × List (SockCall × Int)) : Prop :=
  c.Possible s.1 ∧ ∃ ret, c.run s.1 = some (ret, t.1) ∧ t.2 = (c, ret) :: s.2

end AlpacaVrr
