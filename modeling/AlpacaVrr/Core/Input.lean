import AlpacaVrr.Core.Send

/-!
# Receiving

`vrr_rcv` and the handler of each packet type.

A handler returns an error code, and `vrr_rcv` releases the buffer itself when
that is not zero. The handlers read the fields of a packet one after the other
and act in between. What has been changed before a field turns out to be
invalid stays changed.

`read_u32` and `read_array` are the calls of `skb_copy_bits`, none of which
looks at the result. On a packet that is too short the variable keeps what it
held.

In `vrr_rcv_teardown` the fields of the route are read although the route may
be NULL. In `vrr_rcv_setup_fail` and `vrr_local_rcv_setup_fail` a word is
written to a buffer that may have no room for it.

`pset_update_handler` runs the updates that hellos left behind. It is taken to
run without a hello coming in between.

## Main definitions

* `hello_listed`: How a hello lists the local node.
* `read_u32`, `read_array`: Reading the fields of a packet.
* `vrr_rcv_data`, `vrr_rcv_hello`, `vrr_rcv_setup_req`, `vrr_rcv_setup`,
  `vrr_rcv_setup_fail`, `vrr_rcv_teardown`: The handlers.
* `vrr_local_rcv_setup`, `vrr_local_rcv_setup_fail`: The two messages a node
  sends to itself.
* `vrr_rcvfunc`, `vrr_rcv`: The dispatch.
* `pset_update_handler`: The deferred part of a hello.
* `detect_failures`, `active_timeout`, `vrr_workqueue_handler`: The timer.
-/

namespace AlpacaVrr

open FaultState

/-- One loop over a list of a hello, where the local node may be found. -/
def hello_scan (me : U32) (found trans : HelloTrans) (l : List U32) : HelloTrans :=
  l.foldl (fun trans id => if id = me then found else trans) trans

/-- How a hello lists the local node. The last of the three loops that finds it
    decides. -/
def hello_listed (me : U32) (la lna p : List U32) : HelloTrans :=
  let trans := hello_scan me .linked .missing la
  let trans := hello_scan me .linked trans lna
  hello_scan me .pending trans p

theorem hello_scan_eq (me : U32) (found trans : HelloTrans) (l : List U32) :
    hello_scan me found trans l = if me ∈ l then found else trans := by
  induction l generalizing trans with
  | nil => rfl
  | cons id l ih =>
      have hcons : hello_scan me found trans (id :: l) =
          hello_scan me found (if id = me then found else trans) l := rfl
      rw [hcons, ih]
      by_cases hid : id = me
      · rw [if_pos hid, hid, if_pos List.mem_cons_self, ite_self]
      · have hiff : me ∈ id :: l ↔ me ∈ l := by
          rw [List.mem_cons]
          exact or_iff_right (fun h => hid h.symm)
        rw [if_neg hid]
        simp only [hiff]

/-- What the three loops come to. -/
theorem hello_listed_eq (me : U32) (la lna p : List U32) :
    hello_listed me la lna p =
      if me ∈ p then .pending else if me ∈ la ∨ me ∈ lna then .linked else .missing := by
  unfold hello_listed
  simp only [hello_scan_eq]
  by_cases hlna : me ∈ lna
  · rw [if_pos hlna, if_pos (Or.inr hlna)]
  · rw [if_neg hlna]
    simp only [or_iff_left hlna]

namespace Vrr

/-- `skb_copy_bits` of one word, and `ntohl`. -/
def read_u32 (p : Packet) (offset : Nat) : Vrr U32 :=
  match word p offset with
  | some w => pure w
  | none => do
      let stack ← uninit
      pure (ntohl (stack 0))

/-- `skb_copy_bits` of `n` words, and `ntohl` of each. -/
def read_array (p : Packet) (offset n : Nat) : Vrr (List U32) :=
  match words p offset n with
  | some ws => pure ws
  | none => do
      let buffer ← uninit
      pure ((List.range n).map (fun i => ntohl (buffer i)))

def vrr_rcv_data (skb : SkBuff) : Vrr Int := do
  let src := skb.pkt.src
  let dst := skb.pkt.dst
  let me ← node
  if dst = me.me then
    match vrr_find_sock me.vrr_socks src with
    | some _ => do
        -- sk_receive_skb takes the buffer over, whatever it returns
        let ret ← gets (fun s => s.kern.sk_receive_skb)
        kfree_skb .received
        pure ret
    | none => pure (-1)
  else do
    -- a packet that cannot be forwarded is no error either
    let _ ← vrr_forward skb.pkt
    pure 0

def vrr_rcv_hello (skb : SkBuff) : Vrr Int := do
  let src := skb.pkt.src
  let me ← node
  let active ← read_u32 skb.pkt vrr_header_size
  let la_size ← read_u32 skb.pkt (vrr_header_size + 4)
  if VRR_PSET_SIZE < la_size.toNat then pure (-1)
  else do
    let lna_size ← read_u32 skb.pkt (vrr_header_size + 8)
    if VRR_PSET_SIZE < lna_size.toNat then pure (-1)
    else do
      let p_size ← read_u32 skb.pkt (vrr_header_size + 12)
      if VRR_PSET_SIZE < p_size.toNat then pure (-1)
      else do
        -- the three lists lie one behind the other
        let offset := vrr_header_size + 16
        let la ← read_array skb.pkt offset la_size.toNat
        let offset := offset + la_size.toNat * 4
        let lna ← read_array skb.pkt offset lna_size.toNat
        let offset := offset + lna_size.toNat * 4
        let p ← read_array skb.pkt offset p_size.toNat
        let update ← kmalloc 1
        if update then do
          -- the physical set itself waits for pset_update_handler
          set_node (fun n => { n with pset_updates := n.pset_updates ++
            [⟨src, skb.h_source, hello_listed me.me la lna p, active⟩] })
          pure 0
        else pure (-1)

/-- The next hop of a setup on its way to `dst` by way of `proxy`. -/
def next_hop_via (dst proxy : U32) : Vrr U32 := do
  let me ← node
  if pset_get_status me.pset dst = .unknown then rt_get_next proxy else pure dst

def vrr_local_rcv_setup (dst pid proxy : U32) (vset_size : Nat) (vset : Option (List U32)) :
    Vrr Int := do
  let me ← node
  let src := me.me
  let nh ← next_hop_via dst proxy
  -- the first node of a path is its own previous hop
  let added ← rt_add_route src dst src nh pid
  if added then
    if nh ≠ 0 then do
      let _ ← send_setup src dst pid proxy vset_size vset nh
      pure 0
    else pure 0
  else do
    let _ ← tear_down_path pid src null
    pure 0

/-- The buffer `ovset` has as many words as the vset passed in, and its first
    one is written. -/
def vrr_local_rcv_setup_fail (dst proxy : U32) (vset_size : Nat) (vset : Option (List U32)) :
    Vrr Int := do
  let me ← node
  let src := me.me
  let ovset ← kmalloc (4 * vset_size)
  let nh ← next_hop_via dst proxy
  if ovset then
    -- ovset[0] = dst, whether or not there is an element 0
    if vset_size = 0 then fault .outOfBounds
    else do
      let _ ← vrr_add UINT_MAX [dst]
      if nh ≠ 0 then do
        let _ ← send_setup_fail src dst proxy vset_size vset nh
        pure 0
      else pure 0
  else fault .nullAlloc

def vrr_rcv_setup_req (skb : SkBuff) : Vrr Int := do
  let src := skb.pkt.src
  let dst := skb.pkt.dst
  let nh ← rt_get_next_exclude dst src
  -- a request with a next hop is passed on unread
  if nh ≠ 0 then do
    let _ ← vrr_forward_setup_req skb.pkt nh
    pure 0
  else do
    let proxy ← read_u32 skb.pkt vrr_header_size
    let vset_size ← read_u32 skb.pkt (vrr_header_size + 4)
    if VRR_VSET_SIZE < vset_size.toNat then pure (-1)
    else do
      let vset ← kmalloc (4 * vset_size.toNat)
      if vset then do
        let vset ← read_array skb.pkt (vrr_header_size + 8) vset_size.toNat
        -- the vset that answers the request is the one before it
        let (ovset_size, ovset) ← vset_get_all
        let added ← vrr_add src vset
        if added ≠ 0 then do
          let pid ← vrr_new_path_id
          let _ ← vrr_local_rcv_setup src pid proxy ovset_size ovset
          pure 0
        else do
          let _ ← vrr_local_rcv_setup_fail src proxy ovset_size ovset
          pure 0
      else pure (-1)

/-- The buffer has one word more than the vset received, and the word written
    last is the one after that. -/
def vrr_rcv_setup_fail (skb : SkBuff) : Vrr Int := do
  let src := skb.pkt.src
  let dst := skb.pkt.dst
  let proxy ← read_u32 skb.pkt vrr_header_size
  let vset_size ← read_u32 skb.pkt (vrr_header_size + 4)
  if VRR_VSET_SIZE < vset_size.toNat then pure (-1)
  else do
    let vset ← kmalloc (4 * (vset_size.toNat + 1))
    if vset then do
      let vset ← read_array skb.pkt (vrr_header_size + 8) vset_size.toNat
      let nh ← next_hop_via dst proxy
      if nh ≠ 0 then do
        let _ ← send_setup_fail src dst proxy vset_size.toNat (some vset) nh
        pure 0
      else do
        let me ← node
        if dst = me.me then do
          -- vset[i+1] = src, with i left at vset_size by the loop
          overrun .vset (vset_size.toNat + 1) (vset_size.toNat + 2)
          let _ ← vrr_add UINT_MAX vset
          pure 0
        else pure 0
    else pure (-1)

/-- The same at a node the setup may be for, which has no next hop. -/
def setup_next_hop (dst proxy : U32) : Vrr U32 := do
  let me ← node
  if pset_get_status me.pset dst = .unknown then
    if dst = me.me then pure 0 else rt_get_next proxy
  else pure dst

def vrr_rcv_setup (skb : SkBuff) : Vrr Int := do
  let src := skb.pkt.src
  let dst := skb.pkt.dst
  let me ← node
  let pid ← read_u32 skb.pkt vrr_header_size
  let proxy ← read_u32 skb.pkt (vrr_header_size + 4)
  let sender := if skb.dev_addr = skb.h_source then some me.me
    else pset_lookup_mac me.pset skb.h_source
  match sender with
  | none => do
      -- nothing is added, and an older route of this path is torn down
      let _ ← tear_down_path pid src null
      pure 0
  | some sender => do
      let nh ← setup_next_hop dst proxy
      let added ← rt_add_route src dst sender nh pid
      if added then do
        -- the route is in the table before the rest of the packet is read
        let vset_size ← read_u32 skb.pkt (vrr_header_size + 8)
        if VRR_VSET_SIZE < vset_size.toNat then pure (-1)
        else do
          let vset ← kmalloc (4 * vset_size.toNat)
          if vset then do
            let vset ← read_array skb.pkt (vrr_header_size + 12) vset_size.toNat
            if nh ≠ 0 then do
              let _ ← send_setup src dst pid proxy vset_size.toNat (some vset) nh
              pure 0
            else do
              -- the end of the path takes its source in
              let ret ← vrr_add src vset
              if ret ≠ 0 then do
                set_node (fun n => { n with active := 1 })
                pure 0
              else pure 0
          else pure (-1)
      else do
        let _ ← tear_down_path pid src null
        pure 0

/-- The end of the path and the next hop, as seen from the sender's side. -/
def teardown_side (route : RtEntry) (src : U32) : U32 × U32 :=
  if route.na = src then (route.eb, route.nb) else (route.ea, route.na)

/-- An allocation of no bytes is not NULL, so an empty vset is taken for one
    that was sent. -/
def vrr_rcv_teardown (skb : SkBuff) : Vrr Int := do
  let src := skb.pkt.src
  let ea ← read_u32 skb.pkt vrr_header_size
  let pid ← read_u32 skb.pkt (vrr_header_size + 4)
  let vset_size ← read_u32 skb.pkt (vrr_header_size + 8)
  let route ← rt_remove_route ea pid
  match route with
  -- the fields are read all the same, and route is NULL
  | none => fault .nullRoute
  | some route => do
      let (endpt, next) := teardown_side route src
      if VRR_VSET_SIZE < vset_size.toNat then pure (-1)
      else do
        let vset ← kmalloc (4 * vset_size.toNat)
        if vset then do
          let vset ← read_array skb.pkt (vrr_header_size + 12) vset_size.toNat
          if next ≠ 0 then do
            let _ ← send_teardown pid ea (some vset) vset_size.toNat next
            pure 0
          else do
            -- the vset is never NULL here, so no request goes to the lost end
            let _ ← vset_remove endpt
            let _ ← vrr_add 0 vset
            pure 0
        else pure (-1)

/-- The table of handlers. -/
def vrr_rcvfunc (skb : SkBuff) : Vrr Int :=
  if skb.pkt.vh.pkt_type = VRR_DATA then vrr_rcv_data skb
  else if skb.pkt.vh.pkt_type = VRR_HELLO then vrr_rcv_hello skb
  else if skb.pkt.vh.pkt_type = VRR_SETUP_REQ then vrr_rcv_setup_req skb
  else if skb.pkt.vh.pkt_type = VRR_SETUP then vrr_rcv_setup skb
  else if skb.pkt.vh.pkt_type = VRR_SETUP_FAIL then vrr_rcv_setup_fail skb
  else vrr_rcv_teardown skb

section Types

variable (skb : SkBuff)

theorem vrr_rcvfunc_hello (hty : skb.pkt.vh.pkt_type = VRR_HELLO) :
    vrr_rcvfunc skb = vrr_rcv_hello skb := by
  unfold vrr_rcvfunc
  rw [hty]
  rfl

theorem vrr_rcvfunc_setup_req (hty : skb.pkt.vh.pkt_type = VRR_SETUP_REQ) :
    vrr_rcvfunc skb = vrr_rcv_setup_req skb := by
  unfold vrr_rcvfunc
  rw [hty]
  rfl

theorem vrr_rcvfunc_setup (hty : skb.pkt.vh.pkt_type = VRR_SETUP) :
    vrr_rcvfunc skb = vrr_rcv_setup skb := by
  unfold vrr_rcvfunc
  rw [hty]
  rfl

theorem vrr_rcvfunc_setup_fail (hty : skb.pkt.vh.pkt_type = VRR_SETUP_FAIL) :
    vrr_rcvfunc skb = vrr_rcv_setup_fail skb := by
  unfold vrr_rcvfunc
  rw [hty]
  rfl

theorem vrr_rcvfunc_teardown (hty : skb.pkt.vh.pkt_type = VRR_TEARDOWN) :
    vrr_rcvfunc skb = vrr_rcv_teardown skb := by
  unfold vrr_rcvfunc
  rw [hty]
  rfl

end Types

/-- `NET_RX_SUCCESS` is 0 and `NET_RX_DROP` is 1. -/
def vrr_rcv (skb : SkBuff) : Vrr Int := do
  if VRR_NPTYPES ≤ skb.pkt.vh.pkt_type then do
    kfree_skb .received
    pure 1
  else do
    set_node (fun n => { n with
      timeout := 0, pset := pset_reset_fail_count n.pset skb.pkt.src })
    let err ← vrr_rcvfunc skb
    -- also after a handler that gave the buffer away before it failed
    if err ≠ 0 then do
      kfree_skb .received
      pure 1
    else pure 0

/-- The first half of a round of `pset_update_handler`. -/
def pset_update_entry (tmp : PsetUpdate) (cur_state next_state : PsetStatus) (cur_active : U32) :
    Vrr Unit :=
  if cur_state = .unknown then do
    pset_add tmp.node tmp.mac next_state tmp.active
    pset_state_update
  else if cur_state ≠ next_state ∨ cur_active ≠ tmp.active then do
    set_node (fun n => { n with
      pset := pset_update_status n.pset tmp.node next_state tmp.active })
    pset_state_update
  else pure ()

/-- The second half: an inactive node asks an active neighbour for its own
    place on the ring. -/
def pset_update_join (tmp : PsetUpdate) (next_state : PsetStatus) : Vrr Unit := do
  let me ← node
  if me.active = 0 ∧ tmp.active ≠ 0 ∧ next_state = .linked then do
    let _ ← send_setup_req me.me me.me tmp.node
    pure ()
  else pure ()

/-- One round of `pset_update_handler`. -/
def pset_update (tmp : PsetUpdate) : Vrr Unit := do
  let me ← node
  let cur_state := pset_get_status me.pset tmp.node
  let next_state := hello_trans cur_state tmp.trans
  let cur_active := pset_get_active me.pset tmp.node
  pset_update_entry tmp cur_state next_state cur_active
  pset_update_join tmp next_state
  set_node (fun n => { n with pset_updates := n.pset_updates.tail })

def pset_update_handler : Vrr Unit := do
  let me ← node
  me.pset_updates.forM pset_update
  set_node (fun n => { n with pset_updates := [] })

/-- An entry after `pset_inc_fail_count`, and whether it is marked failed now. -/
def fail_entry (tmp : PsetEntry) : PsetEntry × Bool :=
  let count := tmp.fail_count + 1
  if VRR_FAIL_TIMEOUT ≤ count ∧ tmp.status ≠ .failed then
    ({ tmp with fail_count := count, status := .failed }, true)
  else ({ tmp with fail_count := count }, false)

section Counting

variable (tmp : PsetEntry)

@[simp] theorem fail_entry_node : (fail_entry tmp).1.node = tmp.node := by
  unfold fail_entry
  simp only
  split_ifs <;> rfl

@[simp] theorem fail_entry_mac : (fail_entry tmp).1.mac = tmp.mac := by
  unfold fail_entry
  simp only
  split_ifs <;> rfl

@[simp] theorem fail_entry_count : (fail_entry tmp).1.fail_count = tmp.fail_count + 1 := by
  unfold fail_entry
  simp only
  split_ifs <;> rfl

/-- An entry that is counted up is failed, or what it was. -/
theorem fail_entry_status :
    (fail_entry tmp).1.status =
      if VRR_FAIL_TIMEOUT ≤ tmp.fail_count + 1 then .failed else tmp.status := by
  unfold fail_entry
  by_cases hdue : VRR_FAIL_TIMEOUT ≤ tmp.fail_count + 1
  · by_cases hst : tmp.status = .failed
    · simp [hdue, hst]
    · simp [hdue, hst]
  · simp [hdue]

/-- It is marked when it was not failed before. -/
theorem fail_entry_marked_iff :
    (fail_entry tmp).2 = true ↔ VRR_FAIL_TIMEOUT ≤ tmp.fail_count + 1 ∧ tmp.status ≠ .failed := by
  unfold fail_entry
  simp only
  split_ifs with hmark
  · exact iff_of_true rfl hmark
  · exact iff_of_false not_false hmark

end Counting

/-- One round of the loop of `detect_failures`, up to the deletion. -/
def detect_failure (done : Pset) (tmp : PsetEntry) (pos : Pset) : Vrr Unit := do
  set_node (fun n => { n with pset := done ++ (fail_entry tmp).1 :: pos })
  if (fail_entry tmp).2 then pset_state_update else pure ()

/-- The loop of `detect_failures`. The entries of `done` have been seen, and
    the argument after it is the part of the list still to come. -/
def detect_failures_from (done : Pset) : Pset → Vrr Unit
  | [] => pure ()
  | tmp :: pos => do
      detect_failure done tmp pos
      -- list_del of the entry, with those before and behind it left alone
      if 2 * VRR_FAIL_TIMEOUT ≤ (fail_entry tmp).1.fail_count then do
        set_node (fun n => { n with pset := done ++ pos })
        detect_failures_from done pos
      else detect_failures_from (done ++ [(fail_entry tmp).1]) pos

def detect_failures : Vrr Unit := do
  let me ← node
  detect_failures_from [] me.pset

def active_timeout : Vrr Unit :=
  set_node (fun n =>
    if n.active ≠ 0 then n
    else if n.timeout + 1 = VRR_ACTIVE_TIMEOUT then { n with timeout := n.timeout + 1, active := 1 }
    else { n with timeout := n.timeout + 1 })

/-- What the timer schedules. -/
def vrr_workqueue_handler : Vrr Unit := do
  detect_failures
  active_timeout
  let _ ← send_hpkt
  pure ()

end Vrr

end AlpacaVrr
