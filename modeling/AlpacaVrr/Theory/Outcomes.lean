import AlpacaVrr.Theory.Handlers
import AlpacaVrr.Theory.TeardownNode
import AlpacaVrr.Theory.VsetCounter

/-!
# What a Packet Does to the Stores

The routing table and the virtual set after a packet, case by case.

A handler has few ways to change the two. `Outcome` lists them, each with the
condition under which it is taken and with what it reads from the packet. Only
a setup and the answer to a request file a route, only a setup and a teardown
remove one, and the virtual set is changed by these three when the node is the
end of a path. What holds of the stores is then a matter of these cases, and
no handler needs to be looked at again.

A field that the packet is too short for may be read as anything, and so may
the words of a vset array that were never written. Where the outcome depends
on them, there is a choice. Allocations may fail, unless the parameter `R`
holds, which stands for the assumption that they do not.

## Main definitions

* `Stands`: The node is this one, at this point of a handler.
* `TakenIn`, `TurnedDown`: The two ways `vrr_add` can go.
* `Routed`: What `rt_add_route` does.
* `Outcome`: What a packet does.

## Theorems

* `vrr_add_stands`: `vrr_add` takes its source in or turns it down.
* `vrr_rcvfunc_outcome`: The handlers do nothing but what is listed.
* `step_outcome`: So does an event.
-/

namespace AlpacaVrr

open FaultState

/-- The node is `n`, and if `R` holds no allocation is going to fail. -/
def Stands (R : Prop) (n : Node) (s : Sys) : Prop :=
  s.node = n ∧ (R → ∀ i, s.kern.kmalloc i = true)

/-- A word that may be read from the packet: the one at the offset, or any word
    when there is none. -/
def Readable (p : Packet) (offset : Nat) (w : U32) : Prop := ∀ w', word p offset = some w' → w' = w

/-- `vrr_add` adds `src`. -/
def TakenIn (n : Node) (src : U32) (m : Node) : Prop :=
  src ≠ UINT_MAX ∧ (∃ left right, vset_should_add n.me n.vset src left right = true) ∧
    ∃ left right, m = { n with vset := (vset_add n.me n.vset src 0 left right).2.2 }

/-- `vrr_add` does not add `src`. -/
def TurnedDown (n : Node) (src : U32) : Prop :=
  src = UINT_MAX ∨ ∃ left right, vset_should_add n.me n.vset src left right = false

/-- `rt_add_route` files the route, or fails. -/
def Routed (R : Prop) (n : Node) (r : RtEntry) (ok : Bool) (m : Node) : Prop :=
  ∃ rb alloc, (R → alloc = RtAlloc.ok) ∧
    ok = (n.rt.rt_add_route rb alloc r.ea r.eb r.na r.nb r.path_id).1 ∧
    m = { n with rt := (n.rt.rt_add_route rb alloc r.ea r.eb r.na r.nb r.path_id).2 }

/-- The neighbour a frame comes from. -/
def sender_of (n : Node) (skb : SkBuff) : Option U32 :=
  if skb.dev_addr = skb.h_source then some n.me else pset_lookup_mac n.pset skb.h_source

/-- The next hop that `setup_next_hop` finds. -/
def setup_hop (n : Node) (dst proxy : U32) : U32 :=
  if pset_get_status n.pset dst = .unknown then
    if dst = n.me then 0 else RtTable.rt_get_next n.me n.rt proxy
  else dst

/-- The node without the route `<ea, pid>`, and without `endpt` in its virtual
    set. -/
def severed (n : Node) (ea pid endpt : U32) : Node :=
  { unroute n ea pid with vset := (vset_remove n.vset endpt).2 }

/-- What a packet makes of a node. -/
inductive Outcome (R : Prop) (n : Node) (skb : SkBuff) : Node → Prop where
  /-- Neither store is changed. -/
  | kept (m : Node) (h : n.SameStores m) : Outcome R n skb m
  /-- A request is answered: its source is taken in, and the first entry of a
      path to it filed. -/
  | answered (m m' : Node) (size nh pid : U32) (ok : Bool)
      (hty : skb.pkt.vh.pkt_type = VRR_SETUP_REQ)
      (hend : RtTable.rt_get_next_exclude n.me n.rt skb.pkt.dst skb.pkt.src = 0)
      (hsize : Readable skb.pkt (vrr_header_size + 4) size ∧ size.toNat ≤ VRR_VSET_SIZE)
      (htaken : TakenIn n skb.pkt.src m)
      (hrouted : Routed R m ⟨n.me, skb.pkt.src, n.me, nh, pid⟩ ok m') :
      Outcome R n skb (if ok then m' else unroute m' n.me pid)
  /-- A setup from a node that is no neighbour removes an older route of its
      path. -/
  | disowned (pid : U32) (hty : skb.pkt.vh.pkt_type = VRR_SETUP)
      (hpid : Readable skb.pkt vrr_header_size pid) (hsender : sender_of n skb = none) :
      Outcome R n skb (unroute n skb.pkt.src pid)
  /-- A setup whose route cannot be filed. -/
  | unfiled (m : Node) (pid na nh : U32) (hty : skb.pkt.vh.pkt_type = VRR_SETUP)
      (hrouted : Routed R n ⟨skb.pkt.src, skb.pkt.dst, na, nh, pid⟩ false m) :
      Outcome R n skb (unroute m skb.pkt.src pid)
  /-- A setup whose route is filed. Its source is not taken in when the path
      goes on, when the vset received is too long, when there is no memory for
      it, and when the source is turned down. -/
  | passed (m : Node) (pid proxy size na : U32) (hty : skb.pkt.vh.pkt_type = VRR_SETUP)
      (hread : Readable skb.pkt vrr_header_size pid ∧
        Readable skb.pkt (vrr_header_size + 4) proxy ∧
        Readable skb.pkt (vrr_header_size + 8) size)
      (hsender : sender_of n skb = some na)
      (hrouted : Routed R n
        ⟨skb.pkt.src, skb.pkt.dst, na, setup_hop n skb.pkt.dst proxy, pid⟩ true m)
      (hwhy : setup_hop n skb.pkt.dst proxy ≠ 0 ∨ VRR_VSET_SIZE < size.toNat ∨ ¬ R ∨
        TurnedDown m skb.pkt.src) :
      Outcome R n skb m
  /-- A setup whose path ends at the node, which takes the source in. -/
  | ended (m m' : Node) (pid proxy size na : U32) (hty : skb.pkt.vh.pkt_type = VRR_SETUP)
      (hread : Readable skb.pkt vrr_header_size pid ∧
        Readable skb.pkt (vrr_header_size + 4) proxy ∧
        Readable skb.pkt (vrr_header_size + 8) size)
      (hsender : sender_of n skb = some na)
      (hrouted : Routed R n
        ⟨skb.pkt.src, skb.pkt.dst, na, setup_hop n skb.pkt.dst proxy, pid⟩ true m)
      (hend : setup_hop n skb.pkt.dst proxy = 0) (hsize : size.toNat ≤ VRR_VSET_SIZE)
      (htaken : TakenIn m skb.pkt.src m') :
      Outcome R n skb { m' with active := 1 }
  /-- A teardown removes its route. That is all when the path goes on, when the
      vset received is too long, and when there is no memory for it. -/
  | removed (route : RtEntry) (ea pid size : U32) (hty : skb.pkt.vh.pkt_type = VRR_TEARDOWN)
      (hread : Readable skb.pkt vrr_header_size ea ∧
        Readable skb.pkt (vrr_header_size + 4) pid ∧
        Readable skb.pkt (vrr_header_size + 8) size)
      (hroute : (n.rt.rt_remove_route ea pid).1 = some route)
      (hwhy : (Vrr.teardown_side route skb.pkt.src).2 ≠ 0 ∨ VRR_VSET_SIZE < size.toNat ∨ ¬ R) :
      Outcome R n skb (unroute n ea pid)
  /-- A teardown whose path ends at the node: the other end is removed from the
      vset, and 0 is offered to it. -/
  | lost (m : Node) (route : RtEntry) (ea pid size : U32)
      (hty : skb.pkt.vh.pkt_type = VRR_TEARDOWN)
      (hread : Readable skb.pkt vrr_header_size ea ∧
        Readable skb.pkt (vrr_header_size + 4) pid ∧
        Readable skb.pkt (vrr_header_size + 8) size)
      (hroute : (n.rt.rt_remove_route ea pid).1 = some route)
      (hend : (Vrr.teardown_side route skb.pkt.src).2 = 0) (hsize : size.toNat ≤ VRR_VSET_SIZE)
      (hoffer : TakenIn (severed n ea pid (Vrr.teardown_side route skb.pkt.src).1) 0 m ∨
        TurnedDown (severed n ea pid (Vrr.teardown_side route skb.pkt.src).1) 0 ∧
          m = severed n ea pid (Vrr.teardown_side route skb.pkt.src).1) :
      Outcome R n skb m

/-- No operation turns the kernel unreliable. -/
theorem routine_reliable (R : Prop) :
    Routine (fun _ => True) (fun s => R → ∀ i, s.kern.kmalloc i = true) := by
  have hdraws : Draws (fun s => R → ∀ i, s.kern.kmalloc i = true) (fun _ => True) :=
    ⟨fun _ hs => hs, fun _ => Preserves.ite _ (fun _ => Preserves.pure _)
      (fun _ s hs hR i => hs hR (i + 1))⟩
  have hrandom : Preserves (fun s => R → ∀ i, s.kern.kmalloc i = true) Vrr.random := fun _ hs => hs
  exact {
    draws := hdraws
    random := hrandom
    pset_get_proxy := by
      refine Preserves.bind (Preserves.gets _) (fun me => ?_)
      refine Preserves.bind (Preserves.modify _ (fun _ hs => hs)) (fun _ => ?_)
      exact Preserves.ite _ (fun _ => Preserves.pure _) (fun _ => Preserves.bind hrandom
        (fun _ => Preserves.pure _))
    vrr_output := fun skb pkt _ => by
      refine Preserves.bind (Preserves.modify _ (fun _ hs => hs)) (fun _ => ?_)
      exact Preserves.bind (Preserves.modify _ (fun _ hs => hs)) (fun _ => Preserves.pure _)
    kfree_skb := fun _ => Preserves.modify _ (fun _ hs => hs)
    overrun := fun _ _ => Preserves.modify _ (fun _ hs => hs)
    rt_remove_route := fun _ _ => Vrr.rt_remove_route_rule _ _ (fun _ hs => hs)
    vset_add := fun _ _ => Vrr.vset_add_rule hdraws _ _ (fun _ _ _ hs => hs)
    vset_remove := fun _ => Vrr.vset_remove_rule _ (fun _ hs => hs)
    activate := Preserves.modify _ (fun _ hs => hs)
    rt_add_route := fun _ _ _ _ _ => Vrr.rt_add_route_rule hdraws _ _ _ _ _ (fun _ _ _ hs => hs) }

namespace Vrr

section Standing

variable {R : Prop} {n : Node}

/-- What leaves the node alone and does not break the kernel leaves the node
    standing. -/
theorem stands_of_still {α : Type} {x : Vrr α} (hstill : Keeps Sys.still x)
    (hrel : Preserves (fun s => R → ∀ i, s.kern.kmalloc i = true) x) :
    Triple (Stands R n) x (fun _ => Stands R n) (fun _ => True) :=
  (Triple.and (node_of_still hstill n) hrel).conseq (fun _ hs => hs) (fun _ _ hs => hs)
    (fun _ _ => trivial)

theorem me_stands :
    Triple (Stands R n) node (fun me s => Stands R n s ∧ me = n) (fun _ => True) :=
  Triple.gets _ (fun _ hs => ⟨hs, hs.1⟩)

theorem kmalloc_stands (size : Nat) :
    Triple (Stands R n) (kmalloc size) (fun ok s => Stands R n s ∧ (R → ok = true))
      (fun _ => True) := by
  unfold kmalloc
  refine Triple.ite _ (fun _ => Triple.pure _ (fun s hs => ⟨hs, fun _ => rfl⟩)) (fun _ => ?_)
  exact fun s hs => ⟨⟨hs.1, fun hR i => hs.2 hR (i + 1)⟩, fun hR => hs.2 hR 0⟩

theorem read_u32_stands (p : Packet) (offset : Nat) :
    Triple (Stands R n) (read_u32 p offset) (fun w s => Stands R n s ∧ Readable p offset w)
      (fun _ => True) := by
  unfold read_u32 Readable
  cases word p offset with
  | none =>
      refine Triple.bind (Q := fun _ => Stands R n) (fun s hs => hs) (fun stack => ?_)
      exact Triple.pure _ (fun s hs => ⟨hs, fun w' h => by cases h⟩)
  | some w => exact Triple.pure _ (fun s hs => ⟨hs, fun w' h => (Option.some.inj h).symm⟩)

theorem read_array_stands (p : Packet) (offset size : Nat) :
    Triple (Stands R n) (read_array p offset size) (fun _ => Stands R n) (fun _ => True) := by
  have hdraws : Draws (Stands R n) (fun _ => True) :=
    ⟨fun _ hs => hs, fun size => (kmalloc_stands size).post (fun _ _ hs => hs.1)⟩
  exact hdraws.read_array p offset size

theorem setup_next_hop_run (dst proxy : U32) (s : Sys) :
    setup_next_hop dst proxy s = .ok (setup_hop s.node dst proxy, s) := by
  change (if pset_get_status s.node.pset dst = .unknown then
    if dst = s.node.me then pure 0 else rt_get_next proxy else pure dst : Vrr U32) s = _
  unfold setup_hop
  split_ifs <;> rfl

theorem setup_next_hop_stands (dst proxy : U32) :
    Triple (Stands R n) (setup_next_hop dst proxy)
      (fun nh s => Stands R n s ∧ nh = setup_hop n dst proxy) (fun _ => True) := by
  refine Triple.reads _ (setup_next_hop_run dst proxy) (fun s hs => ⟨hs, ?_⟩)
  rw [hs.1]

theorem rt_add_route_stands (r : RtEntry) :
    Triple (Stands R n) (rt_add_route r.ea r.eb r.na r.nb r.path_id)
      (fun ok s => ∃ m, Routed R n r ok m ∧ Stands R m s) (fun _ => True) := by
  have halloc : Triple (Stands R n) rt_alloc
      (fun alloc s => Stands R n s ∧ (R → alloc = RtAlloc.ok)) (fun _ => True) := by
    unfold rt_alloc
    refine Triple.bind (kmalloc_stands 1) (fun a => Triple.of_and (fun ha => ?_))
    refine Triple.bind (kmalloc_stands 1) (fun b => Triple.of_and (fun hb => ?_))
    refine Triple.bind (kmalloc_stands 1) (fun c => Triple.of_and (fun hc => ?_))
    refine Triple.bind (kmalloc_stands 1) (fun d => Triple.of_and (fun hd => ?_))
    refine Triple.pure _ (fun s hs => ⟨hs, fun hR => ?_⟩)
    rw [ha hR, hb hR, hc hR, hd hR]
    rfl
  unfold rt_add_route
  refine Triple.bind halloc (fun alloc => Triple.of_and (fun hok => ?_))
  refine Triple.bind (Q := fun _ => Stands R n) (Triple.gets _ (fun _ hs => hs)) (fun rb => ?_)
  refine Triple.bind me_stands (fun me => Triple.of_and (fun hme => ?_))
  rw [hme]
  refine Triple.bind (Q := fun _ => Stands R
    { n with rt := (n.rt.rt_add_route rb alloc r.ea r.eb r.na r.nb r.path_id).2 })
    (Triple.modify _ (fun s hs => ⟨?_, hs.2⟩)) (fun _ => ?_)
  · rw [← hs.1]
  · exact Triple.pure _ (fun s hs => ⟨_, ⟨rb, alloc, hok, rfl, rfl⟩, hs⟩)

theorem rt_remove_route_stands (ea pid : U32) :
    Triple (Stands R n) (rt_remove_route ea pid)
      (fun found s => Stands R (unroute n ea pid) s ∧ found = (n.rt.rt_remove_route ea pid).1)
      (fun _ => True) := by
  intro s hs
  refine ⟨⟨?_, hs.2⟩, ?_⟩
  · rw [← hs.1]
    rfl
  · rw [← hs.1]

/-- `tear_down_path` removes the route, if there is one, and sends. -/
theorem tear_down_path_stands (pid endpoint sender : U32) :
    Triple (Stands R n) (tear_down_path pid endpoint sender)
      (fun _ => Stands R (unroute n endpoint pid)) (fun _ => True) := by
  have hhop : ∀ m hop, Triple (Stands R m) (tear_down_hop pid endpoint sender hop)
      (fun _ => Stands R m) (fun _ => True) := fun m hop =>
    stands_of_still (tear_down_hop_still _ _ _ _)
      ((routine_reliable R).own.tear_down_hop trivial _ _ _ _)
  unfold tear_down_path
  refine Triple.bind (rt_remove_route_stands endpoint pid)
    (fun route => Triple.of_and (fun _ => ?_))
  cases route with
  | none => exact Triple.pure _ (fun _ hs => hs)
  | some route =>
      refine Triple.bind (hhop _ _) (fun _ => Triple.bind (hhop _ _) (fun _ => ?_))
      exact Triple.bind (hhop _ _) (fun _ => Triple.pure _ (fun _ hs => hs))

theorem vset_should_add_stands (id : U32) :
    Triple (Stands R n) (vset_should_add id)
      (fun should s => Stands R n s ∧
        ∃ left right, should = AlpacaVrr.vset_should_add n.me n.vset id left right)
      (fun _ => True) := by
  unfold vset_should_add
  refine Triple.bind me_stands (fun me => Triple.of_and (fun hme => ?_))
  rw [hme]
  refine Triple.bind (Q := fun _ => Stands R n) (fun s hs => hs) (fun left => ?_)
  refine Triple.bind (Q := fun _ => Stands R n) (fun s hs => hs) (fun right => ?_)
  exact Triple.pure _ (fun s hs => ⟨hs, left, right, rfl⟩)

/-- An id that is not in the set goes in, unless there is no memory for it. -/
theorem vset_add_stands (id rem : U32) (habs : id ∉ n.vset.nodes) :
    Triple (Stands R n) (vset_add id rem)
      (fun _ s => ∃ left right, Stands R
        { n with vset := (AlpacaVrr.vset_add n.me n.vset id rem left right).2.2 } s)
      (fun _ => True) := by
  unfold vset_add
  refine Triple.bind me_stands (fun me => Triple.of_and (fun hme => ?_))
  rw [hme]
  refine Triple.ite _ (fun h => absurd h habs) (fun _ => ?_)
  refine Triple.bind (kmalloc_stands 1) (fun tmp => Triple.of_and (fun _ => ?_))
  refine Triple.ite _ (fun _ => ?_) (fun _ => Triple.fault _ trivial)
  refine Triple.bind (Q := fun _ => Stands R n) (fun s hs => hs) (fun left => ?_)
  refine Triple.bind (Q := fun _ => Stands R n) (fun s hs => hs) (fun right => ?_)
  refine Triple.bind (Q := fun _ => Stands R
    { n with vset := (AlpacaVrr.vset_add n.me n.vset id rem left right).2.2 })
    (Triple.modify _ (fun s hs => ⟨?_, hs.2⟩)) (fun _ => ?_)
  · rw [← hs.1]
  · exact Triple.pure _ (fun s hs => ⟨left, right, hs⟩)

theorem vrr_add_stands (src : U32) (vset : List U32) :
    Triple (Stands R n) (vrr_add src vset)
      (fun ret s => (ret = 0 ∧ TurnedDown n src ∧ Stands R n s) ∨
        (ret = 1 ∧ ∃ m, TakenIn n src m ∧ Stands R m s)) (fun _ => True) := by
  unfold vrr_add
  refine Triple.bind (stands_of_still (vrr_add_requests_still vset)
    ((routine_reliable R).own.vrr_add_requests trivial vset)) (fun _ => ?_)
  refine Triple.ite _ (fun hnone => ?_) (fun hsrc => ?_)
  · exact Triple.pure _ (fun s hs => Or.inl ⟨rfl, Or.inl hnone, hs⟩)
  refine Triple.bind (vset_should_add_stands src) (fun should => Triple.of_and ?_)
  rintro ⟨left, right, hshould⟩
  rw [hshould]
  refine Triple.ite _ (fun hadd => ?_) (fun hadd => ?_)
  · have habs : src ∉ n.vset.nodes := by
      intro hmem
      rw [AlpacaVrr.vset_should_add, if_pos hmem] at hadd
      exact Bool.false_ne_true hadd
    refine Triple.bind (vset_add_stands src 0 habs) (fun _ => Triple.pure _ ?_)
    rintro s ⟨gl, gr, hs⟩
    exact Or.inr ⟨rfl, _, ⟨hsrc, ⟨left, right, hadd⟩, gl, gr, rfl⟩, hs⟩
  · have hfalse := Bool.eq_false_of_not_eq_true hadd
    exact Triple.pure _ (fun s hs => Or.inl ⟨rfl, Or.inr ⟨left, right, hfalse⟩, hs⟩)

/-- The first entry of a path that the node answers with. -/
theorem vrr_local_rcv_setup_stands (dst pid proxy : U32) (vset_size : Nat)
    (vset : Option (List U32)) :
    Triple (Stands R n) (vrr_local_rcv_setup dst pid proxy vset_size vset)
      (fun _ s => ∃ nh ok m, Routed R n ⟨n.me, dst, n.me, nh, pid⟩ ok m ∧
        Stands R (if ok then m else unroute m n.me pid) s) (fun _ => True) := by
  unfold vrr_local_rcv_setup
  refine Triple.bind me_stands (fun me => Triple.of_and (fun hme => ?_))
  rw [hme]
  refine Triple.bind (stands_of_still (still_of_visible (next_hop_via_visible _ _))
    (SendsOwn.next_hop_via _ _)) (fun nh => ?_)
  refine Triple.bind (rt_add_route_stands ⟨n.me, dst, n.me, nh, pid⟩) (fun ok => ?_)
  -- the node that came of it is fixed before the run goes on
  rintro s ⟨m, hrouted, hs⟩
  have hrest : Triple (Stands R m)
      (if ok then
        if nh ≠ 0 then do
          let _ ← send_setup n.me dst pid proxy vset_size vset nh
          pure 0
        else pure 0
      else do
        let _ ← tear_down_path pid n.me null
        pure (0 : Int))
      (fun _ t => ∃ nh ok m, Routed R n ⟨n.me, dst, n.me, nh, pid⟩ ok m ∧
        Stands R (if ok then m else unroute m n.me pid) t) (fun _ => True) := by
    refine Triple.ite _ (fun hok => Triple.ite _ (fun _ => ?_) (fun _ => ?_)) (fun hok => ?_)
    · refine Triple.bind (stands_of_still (send_setup_still _ _ _ _ _ _ _)
        ((routine_reliable R).own.send_vset _ trivial _ _ _ _ _ _)) (fun _ => ?_)
      exact Triple.pure _ (fun t ht => ⟨nh, ok, m, hrouted, by rw [if_pos hok]; exact ht⟩)
    · exact Triple.pure _ (fun t ht => ⟨nh, ok, m, hrouted, by rw [if_pos hok]; exact ht⟩)
    · refine Triple.bind (tear_down_path_stands pid n.me null) (fun _ => ?_)
      exact Triple.pure _ (fun t ht => ⟨nh, ok, m, hrouted, by rw [if_neg hok]; exact ht⟩)
  exact hrest s hs

/-- The node has come to one of the outcomes. -/
def Came (R : Prop) (n : Node) (skb : SkBuff) (s : Sys) : Prop :=
  ∃ m, Outcome R n skb m ∧ Stands R m s

theorem came_of_stands {skb : SkBuff} {s : Sys} (h : Stands R n s) : Came R n skb s :=
  ⟨n, Outcome.kept n ⟨rfl, rfl, rfl⟩, h⟩

theorem vrr_rcv_setup_req_outcome (skb : SkBuff) (hty : skb.pkt.vh.pkt_type = VRR_SETUP_REQ) :
    Triple (Stands R n) (vrr_rcv_setup_req skb) (fun _ => Came R n skb) (fun _ => True) := by
  unfold vrr_rcv_setup_req
  refine Triple.bind (Triple.bind me_stands (fun me => Triple.pure (Q := fun nh s => Stands R n s ∧
    nh = RtTable.rt_get_next_exclude n.me n.rt skb.pkt.dst skb.pkt.src) _ (fun s hs => ?_)))
    (fun nh => Triple.of_and (fun hnh => ?_))
  · rw [hs.2]
    exact ⟨hs.1, rfl⟩
  refine Triple.ite _ (fun _ => ?_) (fun hend => ?_)
  · -- passed on, which changes nothing of the node
    have hforward : Preserves (fun s => R → ∀ i, s.kern.kmalloc i = true)
        (vrr_forward_setup_req skb.pkt nh) := by
      unfold vrr_forward_setup_req
      refine Preserves.bind (Preserves.gets _) (fun me => ?_)
      cases pset_get_mac me.pset nh with
      | none => exact Preserves.pure _
      | some mac => exact (routine_reliable R).vrr_output _ _ trivial
    refine Triple.bind (stands_of_still (vrr_forward_setup_req_still _ _) hforward) (fun _ => ?_)
    exact Triple.pure _ (fun _ hs => came_of_stands hs)
  -- the request ends here, and is answered if it is read in full
  have hnext : RtTable.rt_get_next_exclude n.me n.rt skb.pkt.dst skb.pkt.src = 0 :=
    hnh.symm.trans (not_not.mp hend)
  refine Triple.bind (read_u32_stands _ _) (fun proxy => Triple.of_and (fun _ => ?_))
  refine Triple.bind (read_u32_stands _ _) (fun size => Triple.of_and (fun hread => ?_))
  refine Triple.ite _ (fun _ => Triple.pure _ (fun _ hs => came_of_stands hs)) (fun hsize => ?_)
  refine Triple.bind (kmalloc_stands _) (fun buffer => Triple.of_and (fun _ => ?_))
  refine Triple.ite _ (fun _ => ?_) (fun _ => Triple.pure _ (fun _ hs => came_of_stands hs))
  refine Triple.bind (read_array_stands _ _ _) (fun vset => ?_)
  refine Triple.bind (stands_of_still (still_of_visible vset_get_all_visible)
    (routine_reliable R).own.vset_get_all) (fun ovset => ?_)
  refine Triple.bind (vrr_add_stands skb.pkt.src vset) (fun added => ?_)
  rintro s (⟨rfl, _, hs⟩ | ⟨rfl, m, htaken, hs⟩)
  · -- turned down: the answer is a failure
    have hfail := Triple.bind (stands_of_still (R := R) (n := n)
      (vrr_local_rcv_setup_fail_still skb.pkt.src proxy ovset.1 ovset.2)
      ((routine_reliable R).handles.vrr_local_rcv_setup_fail trivial trivial _ _ _ _))
      (fun _ => Triple.pure (Q := fun _ => Came R n skb) (0 : Int)
        (fun _ hs => came_of_stands hs))
    exact hfail s hs
  · -- taken in: the answer is a setup of the node's own
    have hset : Triple (Stands R m) (do
        let pid ← vrr_new_path_id
        let _ ← vrr_local_rcv_setup skb.pkt.src pid proxy ovset.1 ovset.2
        pure (0 : Int)) (fun _ => Came R n skb) (fun _ => True) := by
      refine Triple.bind (Q := fun _ => Stands R m) (fun s hs => hs) (fun pid => ?_)
      refine Triple.bind (vrr_local_rcv_setup_stands _ pid proxy _ _) (fun _ => ?_)
      refine Triple.pure _ ?_
      rintro t ⟨nh, ok, m', hrouted, ht⟩
      have hme : m.me = n.me := by
        rcases htaken.2.2 with ⟨left, right, rfl⟩
        rfl
      rw [hme] at hrouted ht
      exact ⟨_, Outcome.answered m m' size nh pid ok hty hnext ⟨hread, Nat.le_of_not_lt hsize⟩
        htaken hrouted, ht⟩
    exact hset s hs

/-- A setup whose route is filed, from there on. -/
theorem vrr_rcv_setup_filed (skb : SkBuff) (pid proxy na : U32) {m : Node}
    (hty : skb.pkt.vh.pkt_type = VRR_SETUP) (hpid : Readable skb.pkt vrr_header_size pid)
    (hproxy : Readable skb.pkt (vrr_header_size + 4) proxy) (hsender : sender_of n skb = some na)
    (hrouted : Routed R n
      ⟨skb.pkt.src, skb.pkt.dst, na, setup_hop n skb.pkt.dst proxy, pid⟩ true m) :
    Triple (Stands R m) (do
      let vset_size ← read_u32 skb.pkt (vrr_header_size + 8)
      if VRR_VSET_SIZE < vset_size.toNat then pure (-1)
      else do
        let vset ← kmalloc (4 * vset_size.toNat)
        if vset then do
          let vset ← read_array skb.pkt (vrr_header_size + 12) vset_size.toNat
          if setup_hop n skb.pkt.dst proxy ≠ 0 then do
            let _ ← send_setup skb.pkt.src skb.pkt.dst pid proxy vset_size.toNat (some vset)
              (setup_hop n skb.pkt.dst proxy)
            pure 0
          else do
            let ret ← vrr_add skb.pkt.src vset
            if ret ≠ 0 then do
              set_node (fun n => { n with active := 1 })
              pure 0
            else pure 0
        else pure (-1) : Vrr Int) (fun _ => Came R n skb) (fun _ => True) := by
  refine Triple.bind (read_u32_stands _ _) (fun size => Triple.of_and (fun hsize => ?_))
  -- in every case but one the source is not taken in, and the reason is to be given
  have hpassed : ∀ s, (setup_hop n skb.pkt.dst proxy ≠ 0 ∨ VRR_VSET_SIZE < size.toNat ∨ ¬ R ∨
      TurnedDown m skb.pkt.src) → Stands R m s → Came R n skb s := fun s hwhy hs =>
    ⟨m, Outcome.passed m pid proxy size na hty ⟨hpid, hproxy, hsize⟩ hsender hrouted hwhy, hs⟩
  refine Triple.ite _ (fun hlong => ?_) (fun hshort => ?_)
  · exact Triple.pure _ (fun s hs => hpassed s (Or.inr (Or.inl hlong)) hs)
  refine Triple.bind (kmalloc_stands _) (fun buffer => Triple.of_and (fun hbuffer => ?_))
  refine Triple.ite _ (fun _ => ?_) (fun hnull => ?_)
  · refine Triple.bind (read_array_stands _ _ _) (fun vset => ?_)
    refine Triple.ite _ (fun hnh => ?_) (fun hnh => ?_)
    · refine Triple.bind (stands_of_still (send_setup_still _ _ _ _ _ _ _)
        ((routine_reliable R).own.send_vset _ trivial _ _ _ _ _ _)) (fun _ => ?_)
      exact Triple.pure _ (fun s hs => hpassed s (Or.inl hnh) hs)
    refine Triple.bind (vrr_add_stands skb.pkt.src vset) (fun ret => ?_)
    rintro s (⟨rfl, hdown, hs⟩ | ⟨rfl, m', htaken, hs⟩)
    · exact hpassed s (Or.inr (Or.inr (Or.inr hdown))) hs
    · have hactive : Stands R { m' with active := 1 }
          { s with node := { s.node with active := 1 } } := ⟨by rw [hs.1], hs.2⟩
      exact ⟨_, Outcome.ended m m' pid proxy size na hty ⟨hpid, hproxy, hsize⟩ hsender hrouted
        (not_not.mp hnh) (Nat.le_of_not_lt hshort) htaken, hactive⟩
  · exact Triple.pure _ (fun s hs => hpassed s
      (Or.inr (Or.inr (Or.inl (fun hR => hnull (hbuffer hR))))) hs)

theorem vrr_rcv_setup_outcome (skb : SkBuff) (hty : skb.pkt.vh.pkt_type = VRR_SETUP) :
    Triple (Stands R n) (vrr_rcv_setup skb) (fun _ => Came R n skb) (fun _ => True) := by
  unfold vrr_rcv_setup
  refine Triple.bind me_stands (fun me => Triple.of_and (fun hme => ?_))
  rw [hme]
  refine Triple.bind (read_u32_stands _ _) (fun pid => Triple.of_and (fun hpid => ?_))
  refine Triple.bind (read_u32_stands _ _) (fun proxy => Triple.of_and (fun hproxy => ?_))
  have hdef : (if skb.dev_addr = skb.h_source then some n.me
    else pset_lookup_mac n.pset skb.h_source) = sender_of n skb := rfl
  simp only [hdef]
  cases hsender : sender_of n skb with
  | none =>
      -- the setup comes from no neighbour, and what there is of its path goes
      refine Triple.bind (tear_down_path_stands pid skb.pkt.src null) (fun _ => ?_)
      exact Triple.pure _ (fun s hs => ⟨_, Outcome.disowned pid hty hpid hsender, hs⟩)
  | some na =>
      refine Triple.bind (setup_next_hop_stands _ _) (fun nh => Triple.of_and (fun hnh => ?_))
      rw [hnh]
      refine Triple.bind (rt_add_route_stands
        ⟨skb.pkt.src, skb.pkt.dst, na, setup_hop n skb.pkt.dst proxy, pid⟩) (fun ok => ?_)
      rintro s ⟨m, hrouted, hs⟩
      cases ok with
      | true => exact vrr_rcv_setup_filed skb pid proxy na hty hpid hproxy hsender hrouted s hs
      | false =>
          -- a path that is not filed is torn down as well
          have htorn := Triple.bind (tear_down_path_stands (R := R) (n := m) pid skb.pkt.src null)
            (fun _ => Triple.pure (Q := fun _ => Came R n skb) (0 : Int)
              (fun _ ht => ⟨_, Outcome.unfiled m pid na _ hty hrouted, ht⟩))
          exact htorn s hs

theorem vrr_rcv_teardown_outcome (skb : SkBuff) (hty : skb.pkt.vh.pkt_type = VRR_TEARDOWN) :
    Triple (Stands R n) (vrr_rcv_teardown skb) (fun _ => Came R n skb) (fun _ => True) := by
  unfold vrr_rcv_teardown
  refine Triple.bind (read_u32_stands _ _) (fun ea => Triple.of_and (fun hea => ?_))
  refine Triple.bind (read_u32_stands _ _) (fun pid => Triple.of_and (fun hpid => ?_))
  refine Triple.bind (read_u32_stands _ _) (fun size => Triple.of_and (fun hsize => ?_))
  refine Triple.bind (rt_remove_route_stands ea pid) (fun found => Triple.of_and (fun hfound => ?_))
  cases found with
  -- the source goes through the pointer to the route without a check
  | none => exact Triple.fault _ trivial
  | some route =>
      -- from here on the route is gone, whatever becomes of the rest
      have hremoved : ∀ s, ((teardown_side route skb.pkt.src).2 ≠ 0 ∨
          VRR_VSET_SIZE < size.toNat ∨ ¬ R) → Stands R (unroute n ea pid) s → Came R n skb s :=
        fun s hwhy hs => ⟨_, Outcome.removed route ea pid size hty ⟨hea, hpid, hsize⟩
          hfound.symm hwhy, hs⟩
      refine Triple.ite _ (fun hlong => ?_) (fun hshort => ?_)
      · exact Triple.pure _ (fun s hs => hremoved s (Or.inr (Or.inl hlong)) hs)
      refine Triple.bind (kmalloc_stands _) (fun buffer => Triple.of_and (fun hbuffer => ?_))
      refine Triple.ite _ (fun _ => ?_) (fun hnull => ?_)
      · refine Triple.bind (read_array_stands _ _ _) (fun vset => ?_)
        refine Triple.ite _ (fun hnext => ?_) (fun hnext => ?_)
        · refine Triple.bind (stands_of_still (send_teardown_still _ _ _ _ _)
            ((routine_reliable R).own.send_teardown trivial _ _ _ _ _)) (fun _ => ?_)
          exact Triple.pure _ (fun s hs => hremoved s (Or.inl hnext) hs)
        -- at an end of the path, the other end leaves the virtual set
        refine Triple.bind (Q := fun _ => Stands R
          (severed n ea pid (teardown_side route skb.pkt.src).1)) ?_ (fun _ => ?_)
        · intro s hs
          refine ⟨?_, hs.2⟩
          change ({ s.node with vset := _ } : Node) = _
          rw [hs.1]
          rfl
        refine Triple.bind (vrr_add_stands 0 vset) (fun ret => Triple.pure _ ?_)
        have hlost : ∀ m, (TakenIn (severed n ea pid (teardown_side route skb.pkt.src).1) 0 m ∨
            TurnedDown (severed n ea pid (teardown_side route skb.pkt.src).1) 0 ∧
              m = severed n ea pid (teardown_side route skb.pkt.src).1) →
            Outcome R n skb m := fun m hoffer =>
          Outcome.lost m route ea pid size hty ⟨hea, hpid, hsize⟩ hfound.symm (not_not.mp hnext)
            (Nat.le_of_not_lt hshort) hoffer
        rintro s (⟨_, hdown, hs⟩ | ⟨_, m, htaken, hs⟩)
        · exact ⟨_, hlost _ (Or.inr ⟨hdown, rfl⟩), hs⟩
        · exact ⟨m, hlost m (Or.inl htaken), hs⟩
      · exact Triple.pure _ (fun s hs => hremoved s
          (Or.inr (Or.inr (fun hR => hnull (hbuffer hR)))) hs)

theorem vrr_rcv_setup_fail_outcome (skb : SkBuff) :
    Triple (Stands R n) (vrr_rcv_setup_fail skb) (fun _ => Came R n skb) (fun _ => True) := by
  -- a failure changes nothing of the three, at every way out
  have hdone : ∀ err : Int, Triple (Stands R n) (pure err : Vrr Int) (fun _ => Came R n skb)
      (fun _ => True) := fun err => Triple.pure _ (fun _ hs => came_of_stands hs)
  unfold vrr_rcv_setup_fail
  refine Triple.bind (read_u32_stands _ _) (fun proxy => Triple.of_and (fun _ => ?_))
  refine Triple.bind (read_u32_stands _ _) (fun size => Triple.of_and (fun _ => ?_))
  refine Triple.ite _ (fun _ => hdone _) (fun _ => ?_)
  refine Triple.bind (kmalloc_stands _) (fun buffer => Triple.of_and (fun _ => ?_))
  refine Triple.ite _ (fun _ => ?_) (fun _ => hdone _)
  refine Triple.bind (read_array_stands _ _ _) (fun vset => ?_)
  refine Triple.bind (stands_of_still (still_of_visible (next_hop_via_visible _ _))
    (SendsOwn.next_hop_via _ _)) (fun nh => ?_)
  refine Triple.ite _ (fun _ => ?_) (fun _ => ?_)
  · exact Triple.bind (stands_of_still (send_setup_fail_still _ _ _ _ _ _)
      ((routine_reliable R).own.send_vset _ trivial _ _ _ _ _ _)) (fun _ => hdone _)
  refine Triple.bind me_stands (fun me => Triple.of_and (fun _ => ?_))
  refine Triple.ite _ (fun _ => ?_) (fun _ => hdone _)
  refine Triple.bind (Q := fun _ => Stands R n) (Triple.modify _ (fun _ hs => hs)) (fun _ => ?_)
  exact Triple.bind (stands_of_still (vrr_add_none_still vset)
    ((routine_reliable R).handles.vrr_add trivial _ _)) (fun _ => hdone _)

theorem vrr_rcv_hello_outcome (skb : SkBuff) :
    Triple (Stands R n) (vrr_rcv_hello skb) (fun _ => Came R n skb) (fun _ => True) := by
  have hdraws : Draws (Stands R n) (fun _ => True) :=
    ⟨fun _ hs => hs, fun size => (kmalloc_stands size).post (fun _ _ hs => hs.1)⟩
  refine hdraws.vrr_rcv_hello skb (fun _ hs => came_of_stands hs) (fun tmp _ _ => ?_)
  refine Triple.modify _ (fun s hs => ?_)
  refine ⟨{ n with pset_updates := n.pset_updates ++ [tmp] }, Outcome.kept _ ⟨rfl, rfl, rfl⟩, ?_⟩
  exact ⟨by rw [hs.1], hs.2⟩

/-- The handlers do nothing but what is listed. -/
theorem vrr_rcvfunc_outcome (skb : SkBuff) (hty : skb.pkt.vh.pkt_type < VRR_NPTYPES) :
    Triple (Stands R n) (vrr_rcvfunc skb) (fun _ => Came R n skb) (fun _ => True) := by
  refine vrr_rcvfunc_triple skb hty (fun hdata => ?_) (fun _ => vrr_rcv_hello_outcome skb)
    (vrr_rcv_setup_req_outcome skb) (vrr_rcv_setup_outcome skb)
    (fun _ => vrr_rcv_setup_fail_outcome skb) (vrr_rcv_teardown_outcome skb)
  exact (stands_of_still (vrr_rcv_data_still skb)
    ((routine_reliable R).handles.vrr_rcv_data trivial skb hdata)).post
    (fun _ _ hs => came_of_stands hs)

theorem vrr_rcv_outcome (skb : SkBuff) :
    Triple (Stands R n) (vrr_rcv skb) (fun _ => Came R (heard n skb.pkt.src) skb)
      (fun _ => True) := by
  refine vrr_rcv_triple (I := Stands R (heard n skb.pkt.src))
    (J := fun _ => Came R (heard n skb.pkt.src) skb) skb (fun _ => ?_) (fun s hs => ?_)
    (vrr_rcvfunc_outcome skb) (fun _ _ => ?_) (fun _ hs => hs)
  · exact Triple.modify _ (fun s hs => ⟨n, Outcome.kept n ⟨rfl, rfl, rfl⟩, hs⟩)
  · exact ⟨by rw [hs.1], hs.2⟩
  · exact Triple.modify _ (fun s hs => hs)

end Standing

end Vrr

/-- Sending and drawing leave the stores alone. -/
theorem sends_same (n : Node) : Sends (fun _ => True) (fun s => n.SameStores s.node) where
  draws := draws_of_visible (fun _ hx => (Vrr.node_of_still (Vrr.still_of_visible hx)).preserves
    (fun m => n.SameStores m))
  random := fun _ hs => hs
  pset_get_proxy := (Vrr.node_of_still Vrr.pset_get_proxy_still).preserves
    (fun m => n.SameStores m)
  vrr_output := fun skb pkt _ => (Vrr.node_of_still (Vrr.vrr_output_still skb pkt)).preserves
    (fun m => n.SameStores m)
  kfree_skb := fun skb => (Vrr.node_of_still (Vrr.kfree_skb_still skb)).preserves
    (fun m => n.SameStores m)

/-- What an event does to the stores: a packet what is listed, and nothing
    else anything. -/
theorem step_outcome {R : Prop} {s t : Sys} {i : Event × Kernel} (hstep : Step s i t)
    (hR : R → ∀ j, i.2.kmalloc j = true) :
    (∃ skb, i.1 = .vrr_rcv skb ∧ Outcome R (heard s.node skb.pkt.src) skb t.node) ∨
      s.node.SameStores t.node := by
  have hrest : ∀ (u : Sys) n, u.node.SameStores n → s.node.SameStores u.node →
      s.node.SameStores n := fun u n h hs =>
    ⟨h.1.trans hs.1, h.2.1.trans hs.2.1, h.2.2.trans hs.2.2⟩
  have hover : ∀ size n, Preserves (fun u => s.node.SameStores u.node)
      (Vrr.overrun .pstate size n) := fun _ _ => Preserves.modify _ (fun _ hs => hs)
  have hself : s.node.SameStores s.node := ⟨rfl, rfl, rfl⟩
  refine step_cases (I := fun t => (∃ skb, i.1 = .vrr_rcv skb ∧
    Outcome R (heard s.node skb.pkt.src) skb t.node) ∨ s.node.SameStores t.node) hstep
    (fun skb r he hrun => ?_) (fun _ hrun => Or.inr ?_) (fun _ hrun => Or.inr ?_)
    (fun _ _ => Or.inr hself)
  · rcases (Vrr.vrr_rcv_outcome skb).ok ⟨rfl, hR⟩ hrun with ⟨m, houtcome, hm⟩
    rw [hm.1]
    exact Or.inl ⟨skb, he, houtcome⟩
  · exact ((sends_same s.node).pset_update_handler hrest hover trivial).ok
      (s := { s with kern := i.2 }) hself hrun
  · exact ((sends_same s.node).vrr_workqueue_handler hrest hover trivial).ok
      (s := { s with kern := i.2 }) hself hrun

/-- What `vrr_rcv` does first makes no difference to who a frame is from. -/
theorem sender_of_heard (n : Node) (src : U32) (skb : SkBuff) :
    sender_of (heard n src) skb = sender_of n skb := by
  unfold sender_of heard
  rw [pset_lookup_mac_reset_fail_count]

theorem setup_hop_heard (n : Node) (src dst proxy : U32) :
    setup_hop (heard n src) dst proxy = setup_hop n dst proxy := by
  unfold setup_hop heard
  rw [pset_get_status_reset_fail_count]

/-- An addition adds no id but its own. -/
theorem mem_nodes_vset_add (me : U32) (v : Vset) (id rem : U32) (left right : Garbage) (x : U32)
    (hx : x ∈ (vset_add me v id rem left right).2.2.nodes) : x = id ∨ x ∈ v.nodes := by
  rw [vset_add_set] at hx
  split_ifs at hx
  · exact Or.inr hx
  -- an eviction only takes away
  have hinsert : x ∈ (insert_vset_node me v id).nodes := by
    rcases vset_bump_cases (insert_vset_node me v id) rem left right with
      ⟨_, h⟩ | ⟨_, hit, tmp, _, h⟩ | ⟨_, h⟩
    · rw [h] at hx
      exact hx
    · rw [h] at hx
      rcases List.mem_map.mp hx with ⟨e, he, heq⟩
      exact List.mem_map.mpr ⟨e, List.mem_of_mem_eraseP he, heq⟩
    · rw [h] at hx
      exact hx
  exact List.mem_cons.mp hinsert

theorem mem_nodes_of_vset_remove (v : Vset) (id x : U32)
    (hx : x ∈ (vset_remove v id).2.nodes) : x ∈ v.nodes := by
  unfold vset_remove at hx
  split_ifs at hx
  · rcases List.mem_map.mp hx with ⟨e, he, heq⟩
    exact List.mem_map.mpr ⟨e, List.mem_of_mem_eraseP he, heq⟩
  · exact hx

theorem mem_nodes_of_taken {n m : Node} {src x : U32} (h : TakenIn n src m)
    (hx : x ∈ m.vset.nodes) : x = src ∨ x ∈ n.vset.nodes := by
  rcases h.2.2 with ⟨left, right, rfl⟩
  exact mem_nodes_vset_add _ _ _ _ _ _ _ hx

end AlpacaVrr
