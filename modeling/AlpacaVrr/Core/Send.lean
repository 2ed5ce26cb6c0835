import AlpacaVrr.Core.Node

/-!
# Sending

How a node builds and emits packets, and the two procedures that emit several:
`vrr_add` and `tear_down_path`.

`send_setup`, `send_setup_fail` and `send_teardown` are one function with
different words in front of the vset: they look up the MAC address of the
next hop, write the words, and hand the packet to `vrr_output`. `send_vset` is
that function. `send_setup_req` is not of the family. It sends the node's own
vset, does not ask whether the proxy was found, and copies the words through
a buffer whose allocation it does not check.

`vrr_output` gives the packet to every interface. The record keeps one copy.

## Main definitions

* `VrrPacket`, `build_header`: The header of an outgoing packet.
* `vrr_output`, `vrr_forward`, `vrr_forward_setup_req`: Emitting.
* `send_vset`, `send_setup`, `send_setup_fail`, `send_teardown`,
  `send_setup_req`, `send_hpkt`: Building.
* `vrr_add`: Ask for paths to new ids, and take the sender into the vset.
* `tear_down_path`: Remove a route and tell the neighbours on it.
-/

namespace AlpacaVrr

open FaultState

/-- `struct vrr_packet`. -/
structure VrrPacket where
  src : U32
  dst : U32
  data_len : U16
  pkt_type : U8
  dest_mac : MacAddr

/-- The broadcast address, `memset(dest_mac, -1, ETH_ALEN)`. -/
def mac_broadcast : MacAddr := 0xFFFFFFFFFFFF

def build_header (version : U8) (vpkt : VrrPacket) : VrrHeader where
  vrr_version := version
  pkt_type := vpkt.pkt_type
  protocol := htons PF_VRR
  data_len := htons vpkt.data_len
  free := 0
  h_csum := 0
  src_id := htonl vpkt.src
  dest_id := htonl vpkt.dst
  dest_mac := if vpkt.pkt_type = VRR_HELLO then mac_broadcast else vpkt.dest_mac

/-- A packet of words: `build_header` over `payload`. -/
def build_packet (version : U8) (pkt_type : U8) (src dst : U32) (dest_mac : MacAddr)
    (data : List U32) : Packet :=
  ⟨build_header version ⟨src, dst, BitVec.ofNat 16 (4 * data.length), pkt_type, dest_mac⟩,
    payload data⟩

theorem build_packet_src (version pkt_type : U8) (src dst : U32) (mac : MacAddr)
    (data : List U32) : (build_packet version pkt_type src dst mac data).src = src :=
  ntohl_htonl src

theorem build_packet_dst (version pkt_type : U8) (src dst : U32) (mac : MacAddr)
    (data : List U32) : (build_packet version pkt_type src dst mac data).dst = dst :=
  ntohl_htonl dst

/-- The words of a hello: the active flag, the three sizes, the three lists. -/
def hpkt_data (active : U32) (ps : PsetState) : List U32 :=
  [active, BitVec.ofNat 32 ps.la_size, BitVec.ofNat 32 ps.lna_size, BitVec.ofNat 32 ps.p_size] ++
    (List.range ps.la_size).map ps.l_active ++
    (List.range ps.lna_size).map ps.l_not_active ++
    (List.range ps.p_size).map ps.pending

namespace Vrr

/-- Emit a packet and release its buffer. `NET_XMIT_SUCCESS` is 0. -/
def vrr_output (skb : SkbRef) (pkt : Packet) : Vrr Int := do
  modify (fun s => { s with sent := s.sent ++ [pkt] })
  kfree_skb skb
  pure 0

/-- Send a received packet on towards its destination. `NET_XMIT_DROP` is 1. -/
def vrr_forward (pkt : Packet) : Vrr Int := do
  let nh ← rt_get_next pkt.dst
  let me ← node
  if nh = 0 then pure 1
  else match pset_get_mac me.pset nh with
    -- a hop that is no neighbour any more
    | none => pure 1
    | some nh_mac => vrr_output .received { pkt with vh := { pkt.vh with dest_mac := nh_mac } }

def vrr_forward_setup_req (pkt : Packet) (nh : U32) : Vrr Int := do
  let me ← node
  match pset_get_mac me.pset nh with
  | none => pure 0
  | some dest_mac =>
      vrr_output .received { pkt with vh := { pkt.vh with dest_mac := dest_mac } }

/-- `vset[i]` for `i < vset_size`. Reading from NULL is a fault. -/
def read_vset (vset_size : Nat) (vset : Option (List U32)) : Vrr (List U32) :=
  if vset_size = 0 then pure []
  else match vset with
    | some ids => pure (ids.take vset_size)
    | none => fault .nullAlloc

/-- Send a packet of the given words, the size of the vset, and the vset. -/
def send_vset (pkt_type : U8) (src dst : U32) (data : List U32) (vset_size : Nat)
    (vset : Option (List U32)) (hop : U32) : Vrr Int := do
  let me ← node
  match pset_get_mac me.pset hop with
  | none => pure (-1)
  | some dest_mac => do
      let ids ← read_vset vset_size vset
      let skb ← kmalloc 1
      if skb then
        vrr_output .allocated (build_packet me.version pkt_type src dst dest_mac
          (data ++ BitVec.ofNat 32 vset_size :: ids))
      else pure (-1)

def send_setup (src dest path_id proxy : U32) (vset_size : Nat) (vset : Option (List U32))
    (hop : U32) : Vrr Int :=
  send_vset VRR_SETUP src dest [path_id, proxy] vset_size vset hop

def send_setup_fail (src dst proxy : U32) (vset_size : Nat) (vset : Option (List U32))
    (hop : U32) : Vrr Int :=
  send_vset VRR_SETUP_FAIL src dst [proxy] vset_size vset hop

def send_teardown (path_id endpoint : U32) (vset : Option (List U32)) (vset_size : Nat)
    (hop : U32) : Vrr Int := do
  let me ← node
  send_vset VRR_TEARDOWN me.me hop [endpoint, path_id] vset_size vset hop

/-- When the proxy is not found, its address is whatever the variable held. -/
def send_setup_req (src dest proxy : U32) : Vrr Int := do
  let me ← node
  let stack ← uninit
  let proxy_mac := (pset_get_mac me.pset proxy).getD ((stack 0 ++ stack 1).setWidth 48)
  let (vset_size, vset) ← vset_get_all
  let setup_req_data ← kmalloc 1
  if setup_req_data then do
    let ids ← read_vset vset_size vset
    let skb ← kmalloc 1
    if skb then do
      let _ ← vrr_output .allocated (build_packet me.version VRR_SETUP_REQ src dest proxy_mac
        (proxy :: BitVec.ofNat 32 vset_size :: ids))
      pure 0
    else pure (-1)
  else fault .nullAlloc

def send_hpkt : Vrr Int := do
  let me ← node
  let hpkt_data ← kmalloc 1
  if hpkt_data then do
    let skb ← kmalloc 1
    if skb then do
      let _ ← vrr_output .allocated (build_packet me.version VRR_HELLO me.me 0 0
        (AlpacaVrr.hpkt_data me.active me.pstate))
      pure 0
    else pure (-1)
  else fault .nullAlloc

/-- One round of the loop in `vrr_add`. -/
def vrr_add_request (id : U32) : Vrr Unit := do
  let me ← node
  let should ← vset_should_add id
  if should then do
    -- no request without a neighbour to send it through
    let ret ← pset_get_proxy
    match ret with
    | some proxy => do
        let _ ← send_setup_req me.me id proxy
        pure ()
    | none => pure ()
  else pure ()

/-- Request a path to each id of `vset` that the node should have, and add
    `src` itself. The source `-1` is none. -/
def vrr_add (src : U32) (vset : List U32) : Vrr Int := do
  vset.forM vrr_add_request
  if src = UINT_MAX then pure 0
  else do
    let should ← vset_should_add src
    if should then do
      -- the id that was bumped is not torn down, and its set not looked at
      let _ ← vset_add src 0
      pure 1
    else pure 0

/-- The vset of a teardown: none of it without a sender. -/
def tear_down_vset (sender : U32) : Vrr (Nat × Option (List U32)) :=
  if sender ≠ 0 then vset_get_all else pure (0, none)

/-- One of the three blocks of `tear_down_path`. -/
def tear_down_hop (path_id endpoint sender hop : U32) : Vrr Unit := do
  let me ← node
  if hop ≠ 0 ∧ pset_contains me.pset hop = true then do
    let (vset_size, vset) ← tear_down_vset sender
    let _ ← send_teardown path_id endpoint vset vset_size hop
    pure ()
  else pure ()

def tear_down_path (path_id endpoint sender : U32) : Vrr Int := do
  let route ← rt_remove_route endpoint path_id
  match route with
  | none => pure (-1)
  | some route => do
      -- both neighbours on the path, and then the sender once more
      tear_down_hop path_id endpoint sender route.na
      tear_down_hop path_id endpoint sender route.nb
      tear_down_hop path_id endpoint sender sender
      pure 0

/-- `vrr_new_path_id`. -/
def vrr_new_path_id : Vrr U32 := random

end Vrr

end AlpacaVrr
