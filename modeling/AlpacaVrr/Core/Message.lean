import AlpacaVrr.Core.Input

/-!
# Socket Messages

`vrr_sendmsg` and `vrr_recvmsg`, the two calls by which a program sends and
receives data.

A message becomes one data packet. Its length is a `size_t`, and it is cut to
an `unsigned int` for the buffer, to an `int` for the copy and the result, and
to 16 bits for the header, without a check at any of these places. The receiver
knows the length from the header alone.

A socket is seen here from the receiving side: the packets queued at it, and
whether it is connected. `sk_receive_skb` appends to the queue. A call that
finds nothing to read waits. One that is woken starts again from the top with
all of its variables as they were, so it is the same as a new call.

What the two calls find in user memory is up to the program: memory may be
missing, and the call is told so in its last argument.

## Main definitions

* `MsgHdr`, `vrr_sendmsg`: Sending.
* `VrrSocket`, `RecvCall`, `RecvResult`, `vrr_recvmsg`: Receiving.
-/

namespace AlpacaVrr

open FaultState

def VRR_SKB_RESERVE : Nat := 80

def EINTR : Int := 4

def EWOULDBLOCK : Int := 11

def EFAULT : Int := 14

def EINVAL : Int := 22

def EDESTADDRREQ : Int := 89

def EHOSTUNREACH : Int := 113

def ntohs (h : U16) : U16 := htons h

@[simp] theorem ntohs_htons (h : U16) : ntohs (htons h) = h := by
  apply BitVec.eq_of_toNat_eq
  unfold ntohs htons
  simp only [BitVec.toNat_ofNat]
  have hlt := h.isLt
  have hswap : h.toNat / 2 ^ 8 + 2 ^ 8 * (h.toNat % 2 ^ 8) < 2 ^ 16 := by omega
  have hhigh : (h.toNat / 2 ^ 8 + 2 ^ 8 * (h.toNat % 2 ^ 8)) / 2 ^ 8 = h.toNat % 2 ^ 8 := by omega
  have hlow : (h.toNat / 2 ^ 8 + 2 ^ 8 * (h.toNat % 2 ^ 8)) % 2 ^ 8 = h.toNat / 2 ^ 8 := by omega
  rw [Nat.mod_eq_of_lt hswap, hhigh, hlow]
  omega

/-- `struct msghdr` of a message to send: the address, which may be NULL, and
    the bytes. -/
structure MsgHdr where
  msg_name : Option U32
  msg_iov : List U8
  deriving DecidableEq

/-- The packet of a message. -/
def data_packet (version : U8) (src dst : U32) (len : Nat) (dest_mac : MacAddr)
    (data : List U8) : Packet :=
  ⟨build_header version ⟨src, dst, BitVec.ofNat 16 len, VRR_DATA, dest_mac⟩, data⟩

namespace Vrr

/-- `memcpy_fromiovec`, or `none` when user memory cannot be read. The length is
    an `int` there, and a negative one copies nothing. -/
def memcpy_fromiovec (iov : List U8) (len : Nat) (readable : Bool) : Vrr (Option (List U8)) :=
  if 2 ^ 31 ≤ len then do
    let skb ← uninit
    pure (some ((List.range len).map (fun i => (skb i).setWidth 8)))
  else if len = 0 ∨ readable = true then pure (some (iov.take len))
  else pure none

/-- The MAC address a message goes to. -/
def vrr_sendmsg_mac (dest : U32) : Vrr (Option MacAddr) := do
  let me ← node
  if dest ≠ me.me then do
    let nh ← rt_get_next dest
    if nh = 0 then pure none
    else pure (pset_get_mac me.pset nh)
  else do
    -- pkt.dest_mac is not set for a message to the node itself
    let stack ← uninit
    pure (some ((stack 0 ++ stack 1).setWidth 48))

/-- `return sent ? sent : ret`, where `ret` is 0 after `build_header`. -/
def vrr_sendmsg (msg : MsgHdr) (readable : Bool) : Vrr Int := do
  match msg.msg_name with
  | none => pure (-EDESTADDRREQ)
  | some dest => do
      let mac ← vrr_sendmsg_mac dest
      match mac with
      | none => pure (-EHOSTUNREACH)
      | some dest_mac => do
          let me ← node
          let len := msg.msg_iov.length
          let skb ← kmalloc 1
          if skb then
            -- the size of the buffer is a sum of unsigned ints, and skb_put panics
            if 2 ^ 32 ≤ len % 2 ^ 32 + VRR_SKB_RESERVE then fault .outOfBounds
            else do
              let data ← memcpy_fromiovec msg.msg_iov (len % 2 ^ 32) readable
              match data with
              -- goto out, past kfree_skb
              | none => pure (-EFAULT)
              | some data => do
                  let _ ← vrr_output .allocated
                    (data_packet me.version me.me dest len dest_mac data)
                  -- out_err is reached on success, too
                  kfree_skb .allocated
                  pure (Int.bmod len (2 ^ 32))
          else pure (-EINVAL)

end Vrr

/-- A socket as `vrr_recvmsg` sees it. -/
structure VrrSocket where
  sk_receive_queue : List Packet
  connected : Bool
  deriving DecidableEq

/-- The arguments of a call, and whether the user's buffer can be written to. -/
structure RecvCall where
  len : Nat
  dontwait : Bool
  peek : Bool
  writable : Bool
  deriving DecidableEq

/-- What a call comes to. One that gets as far as `copy_to_user` asks it for
    `sz` bytes from behind the header of `skb`, and `msg_trunc` says whether the
    message is longer. -/
inductive RecvResult where
  | error (err : Int)
  | waits
  | unwritable (skb : Packet) (sz : Nat)
  | copied (skb : Packet) (sz : Nat) (msg_trunc : Bool)
  deriving DecidableEq

/-- The value of `ret`. -/
def RecvResult.ret : RecvResult → Int
  | error err => -err
  | waits => 0
  | unwritable _ _ => -EFAULT
  | copied _ sz _ => sz

/-- The packet that bytes were copied from, and how many. -/
def RecvResult.copies : RecvResult → Option (Packet × Nat)
  | unwritable skb sz => some (skb, sz)
  | copied skb sz _ => some (skb, sz)
  | _ => none

/-- The message in the user's buffer, if it is all there. Behind the packet lies
    memory that is none of its own. -/
def RecvResult.message (beyond : Nat → U8) : RecvResult → Option (List U8)
  | copied skb sz false =>
      some (skb.data.take sz ++ (List.range (sz - skb.data.length)).map beyond)
  | _ => none

/-- The length of a message, as its packet says. -/
def msg_len (skb : Packet) : Nat := (ntohs skb.vh.data_len).toNat

/-- The loop at `restart`: packets that say they are empty are dropped. -/
def skip_empty : List Packet → List Packet
  | [] => []
  | skb :: queue => if msg_len skb = 0 then skip_empty queue else skb :: queue

def vrr_advance_rx_queue (sock : VrrSocket) : VrrSocket :=
  { sock with sk_receive_queue := sock.sk_receive_queue.tail }

def vrr_recvmsg (sock : VrrSocket) (call : RecvCall) : RecvResult × VrrSocket :=
  let sock := { sock with sk_receive_queue := skip_empty sock.sk_receive_queue }
  match sock.sk_receive_queue with
  | [] =>
      if sock.connected = false then (.error EINTR, sock)
      else if call.dontwait then (.error EWOULDBLOCK, sock)
      else (.waits, sock)
  | skb :: _ =>
      let sz := if call.len < msg_len skb then call.len else msg_len skb
      -- copying no bytes cannot fail
      if sz ≠ 0 ∧ call.writable = false then (.unwritable skb sz, sock)
      else (.copied skb sz (decide (call.len < msg_len skb)),
        if call.peek then sock else vrr_advance_rx_queue sock)

end AlpacaVrr
