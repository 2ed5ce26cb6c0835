import AlpacaVrr.Core.Ether
import AlpacaVrr.Theory.Decoding
import AlpacaVrr.Theory.OneToOne

/-!
# The Chain behind a Setup

Whether the back pointers that setups leave behind are matched, hop by hop, by
the forward pointers of the nodes before.

A setup does not carry the id of its sender. The receiver looks the address of
the frame up in its physical set, and the sender addressed the frame by
looking up the next hop in its own. When both sets have the right addresses,
the node that records `X` as its previous hop is the one that `X` recorded as
its next hop. So every setup in the record has a chain behind it, from the
origin of the path to the sender and on to the node it is addressed to, and a
node that handles it makes the chain one hop longer before it passes it on.

`Laid` is the invariant of one node, for a predicate that says which chains
arrive at it. `Chain` is that predicate in the network.

## Main definitions

* `Correct`, `CorrectMacs`: The addresses in the physical sets are right.
* `Laid`: The route behind a setup that the node has sent.
* `Chain`: A path of matched routes through the records.

## Theorems

* `vrr_rcv_setup_laid`, `vrr_local_rcv_setup_laid`: The two handlers.
* `laid_step`: One event in the network.
* `setup_chain`: Every route recorded for a setup has a chain behind it.
* `correct_of_hellos`: Hellos in frames of their source keep the addresses
  right.
-/

namespace AlpacaVrr

open FaultState

/-- Each entry has an address of its node. -/
def Correct (a : Addresses) (p : Pset) : Prop := ∀ e ∈ p, a.owner e.mac = some e.node

/-- The route that the node has recorded for a setup it has sent. Either the
    path starts here, or a chain arrives from the previous hop. -/
def Laid (a : Addresses) (me : U32) (C : U32 → U32 → U32 → U32 → Prop) (added : List RtEntry)
    (p : Packet) : Prop :=
  ∃ pid na nb, word p vrr_header_size = some pid ∧ a.owner p.vh.dest_mac = some nb ∧
    ⟨p.src, p.dst, na, nb, pid⟩ ∈ added ∧ (na = me ∧ p.src = me ∨ C p.src p.dst pid na)

/-- Every setup the node has sent is laid. -/
def Setups (a : Addresses) (me : U32) (C : U32 → U32 → U32 → U32 → Prop) (s : Sys) : Prop :=
  s.node.me = me ∧ ∀ p ∈ s.sent, p.vh.pkt_type = VRR_SETUP → Laid a me C s.added p

section Node

variable {a : Addresses} {me : U32} {C C' : U32 → U32 → U32 → U32 → Prop}

theorem Laid.mono {added added' : List RtEntry} {p : Packet} (h : Laid a me C added p)
    (hC : ∀ ea eb pid u, C ea eb pid u → C' ea eb pid u) (hadded : added ⊆ added') :
    Laid a me C' added' p := by
  rcases h with ⟨pid, na, nb, hpid, hnb, hroute, hchain⟩
  exact ⟨pid, na, nb, hpid, hnb, hadded hroute, hchain.imp_right (hC _ _ _ _)⟩

/-- A packet that is no setup is not in question. -/
theorem laid_append {sent : List Packet} {added : List RtEntry} (p : Packet)
    (hty : p.vh.pkt_type ≠ VRR_SETUP)
    (h : ∀ q ∈ sent, q.vh.pkt_type = VRR_SETUP → Laid a me C added q) :
    ∀ q ∈ sent ++ [p], q.vh.pkt_type = VRR_SETUP → Laid a me C added q := by
  intro q hq hsetup
  rcases List.mem_append.mp hq with hq | hq
  · exact h q hq hsetup
  · rw [List.mem_singleton.mp hq] at hsetup
    exact absurd hsetup hty

/-- The operations that emit no setup. -/
theorem routine_setups : Routine (fun ty => ty ≠ VRR_SETUP) (Setups a me C) := by
  refine routine_records (fun n l r => n.me = me ∧ ∀ p ∈ l, p.vh.pkt_type = VRR_SETUP →
    Laid a me C r p) (fun n l r p hty h => ⟨h.1, laid_append p hty h.2⟩)
    (fun n l r e h => ⟨h.1, fun q hq hsetup => ?_⟩)
  exact (h.2 q hq hsetup).mono (fun _ _ _ _ hc => hc) (List.subset_append_left _ _)

/-- The same while a packet is handled: the addresses are right, and the routes
    added behind those of `l` all satisfy `R`. -/
def Handling (a : Addresses) (me : U32) (C : U32 → U32 → U32 → U32 → Prop) (l : List RtEntry)
    (R : RtEntry → Prop) (s : Sys) : Prop :=
  Setups a me C s ∧ Correct a s.node.pset ∧ ∃ new, s.added = l ++ new ∧ ∀ r ∈ new, R r

variable {l : List RtEntry} {R : RtEntry → Prop}

theorem quiet_handling : Quiet (fun ty => ty ≠ VRR_SETUP) (Handling a me C l R) :=
  quiet_records (fun n sent r => (n.me = me ∧ ∀ p ∈ sent, p.vh.pkt_type = VRR_SETUP →
    Laid a me C r p) ∧ Correct a n.pset ∧ ∃ new, r = l ++ new ∧ ∀ e ∈ new, R e)
    (fun _ _ _ p hty h => ⟨⟨h.1.1, laid_append p hty h.1.2⟩, h.2⟩)

/-- Only the pairs of ids and addresses matter. -/
theorem correct_of_names (p p' : Pset) (h : names p' ⊆ names p) (hp : Correct a p) :
    Correct a p' := by
  intro e he
  rcases List.mem_map.mp (h (List.mem_map.mpr ⟨e, he, rfl⟩)) with ⟨e', he', heq⟩
  rw [Prod.mk.injEq] at heq
  rw [← heq.1, ← heq.2]
  exact hp e' he'

theorem correct_pset_get_mac (p : Pset) (h : Correct a p) (n : U32) (m : MacAddr)
    (hm : pset_get_mac p n = some m) : a.owner m = some n := by
  rcases Option.map_eq_some_iff.mp hm with ⟨e, hfind, rfl⟩
  rcases mem_of_pset_find p n e hfind with ⟨hmem, rfl⟩
  exact h e hmem

theorem correct_pset_lookup_mac (p : Pset) (h : Correct a p) (m : MacAddr) (n : U32)
    (hn : pset_lookup_mac p m = some n) : a.owner m = some n := by
  rcases Option.map_eq_some_iff.mp hn with ⟨e, hfind, rfl⟩
  have hmac := List.find?_some hfind
  rw [← beq_iff_eq.mp hmac]
  exact h e (List.mem_of_find?_eq_some hfind)

namespace Vrr

/-- Adding a route that satisfies `R`. -/
theorem rt_add_route_handling (ea eb na nb pid : U32) (hR : R ⟨ea, eb, na, nb, pid⟩) :
    Triple (Handling a me C l R) (rt_add_route ea eb na nb pid)
      (fun _ s => Handling a me C l R s ∧ ⟨ea, eb, na, nb, pid⟩ ∈ s.added) (fun _ => True) := by
  have hdraws : Draws (Handling a me C l R) (fun _ => True) := quiet_handling.draws
  unfold rt_add_route
  refine Triple.bind hdraws.rt_alloc (fun alloc => Triple.bind (Preserves.gets _) (fun rb => ?_))
  refine Triple.bind (Preserves.gets _) (fun me' => ?_)
  refine Triple.bind (Q := fun _ s => Handling a me C l R s ∧ ⟨ea, eb, na, nb, pid⟩ ∈ s.added)
    (Triple.modify _ (fun s hs => ?_)) (fun _ => Triple.pure _ (fun _ hs => hs))
  rcases hs with ⟨hsetups, hcorrect, new, hnew, hall⟩
  refine ⟨⟨⟨hsetups.1, fun p hp hty => ?_⟩, hcorrect, new ++ [⟨ea, eb, na, nb, pid⟩], ?_, ?_⟩, ?_⟩
  · exact (hsetups.2 p hp hty).mono (fun _ _ _ _ hc => hc) (List.subset_append_left _ _)
  · simp only [hnew, List.append_assoc]
  · intro r hr
    rcases List.mem_append.mp hr with hr | hr
    · exact hall r hr
    · rw [List.mem_singleton.mp hr]
      exact hR
  · exact List.mem_append_right _ (List.mem_singleton_self _)

theorem draws_handling (r : RtEntry) :
    Draws (fun s => Handling a me C l R s ∧ r ∈ s.added) (fun _ => True) :=
  draws_of_kern (fun _ _ hs => hs)

/-- Passing a setup on, once its route is recorded. -/
theorem send_setup_handling (src dst pid proxy na hop : U32) (vset_size : Nat)
    (vset : Option (List U32)) (hchain : na = me ∧ src = me ∨ C src dst pid na) :
    Triple (fun s => Handling a me C l R s ∧ ⟨src, dst, na, hop, pid⟩ ∈ s.added)
      (send_setup src dst pid proxy vset_size vset hop) (fun _ => Handling a me C l R)
      (fun _ => True) := by
  have hdraws : Draws (fun s => Handling a me C l R s ∧ ⟨src, dst, na, hop, pid⟩ ∈ s.added)
      (fun _ => True) := draws_handling _
  unfold send_setup send_vset
  refine Triple.bind (Q := fun n s => (Handling a me C l R s ∧ ⟨src, dst, na, hop, pid⟩ ∈ s.added) ∧
    Correct a n.pset) (Triple.gets _ (fun s hs => ⟨hs, hs.1.2.1⟩))
    (fun n => Triple.of_and (fun hn => ?_))
  cases hmac : pset_get_mac n.pset hop with
  | none => exact Triple.pure _ (fun _ hs => hs.1)
  | some mac =>
      have howner := correct_pset_get_mac _ hn hop mac hmac
      refine Triple.bind (SendsOwn.read_vset _ _) (fun ids => ?_)
      refine Triple.bind (hdraws.kmalloc 1) (fun skb => Triple.ite _ (fun _ => ?_)
        (fun _ => Triple.pure _ (fun _ hs => hs.1)))
      unfold vrr_output
      refine Triple.bind (Triple.modify (U := fun _ => Handling a me C l R) _ (fun s hs => ?_))
        (fun _ => Preserves.then_pure (quiet_handling.kfree_skb _) 0)
      refine ⟨⟨hs.1.1.1, fun p hp hty => ?_⟩, hs.1.2⟩
      rcases List.mem_append.mp hp with hp | hp
      · exact hs.1.1.2 p hp hty
      -- the packet is addressed to the next hop that was recorded
      rw [List.mem_singleton.mp hp]
      refine ⟨pid, na, hop, word_payload _ _ 0 _ rfl, howner, ?_, ?_⟩
      · have hroute := hs.2
        simp only [Packet.src, Packet.dst, build_packet, build_header, ntohl_htonl]
        exact hroute
      · simp only [Packet.src, Packet.dst, build_packet, build_header, ntohl_htonl]
        exact hchain

/-- The first node of a path records its own hop and starts the chain. -/
theorem vrr_local_rcv_setup_handling (dst pid proxy : U32) (vset_size : Nat)
    (vset : Option (List U32)) (hR : ∀ nb, R ⟨me, dst, me, nb, pid⟩) :
    Preserves (Handling a me C l R) (vrr_local_rcv_setup dst pid proxy vset_size vset) := by
  unfold vrr_local_rcv_setup
  refine Triple.bind (Q := fun n s => Handling a me C l R s ∧ n.me = me)
    (Triple.gets _ (fun s hs => ⟨hs, hs.1.1⟩)) (fun n => Triple.of_and (fun hn => ?_))
  rw [hn]
  refine Triple.bind (SendsOwn.next_hop_via _ _) (fun nh => ?_)
  refine Triple.bind (rt_add_route_handling me dst me nh pid (hR nh)) (fun added => ?_)
  refine Triple.ite _ (fun _ => Triple.ite _ (fun _ => ?_) (fun _ => Triple.pure _
    (fun _ hs => hs.1))) (fun _ => ?_)
  · exact Triple.bind (send_setup_handling me dst pid proxy me nh _ _ (Or.inl ⟨rfl, rfl⟩))
      (fun _ => Triple.pure _ (fun _ hs => hs))
  · exact (Preserves.then_pure (quiet_handling.handles.tear_down_path (by decide) _ _ _) 0).pre
      (fun _ hs => hs.1)

/-- A setup from `x`, to which a chain arrives from `x`. -/
theorem vrr_rcv_setup_handling (skb : SkBuff) (pid x : U32)
    (hpid : word skb.pkt vrr_header_size = some pid) (hx : a.owner skb.h_source = some x)
    (hdev : a.owner skb.dev_addr = some me) (hchain : C skb.pkt.src skb.pkt.dst pid x)
    (hR : ∀ nb, R ⟨skb.pkt.src, skb.pkt.dst, x, nb, pid⟩) :
    Preserves (Handling a me C l R) (vrr_rcv_setup skb) := by
  have hquiet : Quiet (fun ty => ty ≠ VRR_SETUP) (Handling a me C l R) := quiet_handling
  unfold vrr_rcv_setup
  rw [read_u32_of_word hpid]
  refine Triple.bind (Q := fun n s => Handling a me C l R s ∧ n.me = me ∧ Correct a n.pset)
    (Triple.gets _ (fun s hs => ⟨hs, hs.1.1, hs.2.1⟩)) (fun n => Triple.of_and (fun hn => ?_))
  refine Triple.pure_bind _ (Triple.bind (hquiet.draws.read_u32 _ _) (fun proxy => ?_))
  cases hsender : (if skb.dev_addr = skb.h_source then some n.me
    else pset_lookup_mac n.pset skb.h_source) with
  | none => exact Preserves.then_pure (hquiet.handles.tear_down_path (by decide) _ _ _) 0
  | some sender =>
      -- the lookup finds the owner of the address, in either case
      have hsame : sender = x := by
        split_ifs at hsender with heq
        · rw [Option.some.injEq] at hsender
          rw [← heq, hdev, Option.some.injEq] at hx
          rw [← hsender, hn.1, hx]
        · have howner := correct_pset_lookup_mac _ hn.2 _ _ hsender
          rw [hx, Option.some.injEq] at howner
          exact howner.symm
      rw [hsame]
      refine Triple.bind (SendsOwn.setup_next_hop _ _) (fun nh => ?_)
      refine Triple.bind (rt_add_route_handling _ _ x nh pid (hR nh)) (fun added => ?_)
      refine Triple.ite _ (fun _ => ?_) (fun _ => ?_)
      · have hdraws : Draws (fun s => Handling a me C l R s ∧
            (⟨skb.pkt.src, skb.pkt.dst, x, nh, pid⟩ : RtEntry) ∈ s.added) (fun _ => True) :=
          draws_handling _
        refine Triple.bind (hdraws.read_u32 _ _) (fun size => ?_)
        refine hdraws.received_vset _ _ _ _ _ (fun _ hs => hs.1) (fun _ vset => ?_)
        refine Triple.ite _ (fun _ => ?_) (fun _ => ?_)
        · exact Triple.bind (send_setup_handling _ _ pid proxy x nh _ _ (Or.inr hchain))
            (fun _ => Triple.pure _ (fun _ hs => hs))
        refine (Preserves.bind (hquiet.handles.vrr_add (by decide) _ _) (fun ret => Preserves.ite _
          (fun _ => Preserves.then_pure hquiet.activate 0) (fun _ => Preserves.pure _))).pre ?_
        exact fun _ hs => hs.1
      · exact (Preserves.then_pure (hquiet.handles.tear_down_path (by decide) _ _ _) 0).pre
          (fun _ hs => hs.1)

/-- Noting that the sender is alive changes no address. -/
theorem heard_handling (src : U32) (s : Sys) (hs : Handling a me C l R s) :
    Handling a me C l R { s with node := heard s.node src } :=
  ⟨hs.1, correct_of_names s.node.pset _
    ((names_pset_reset_fail_count s.node.pset src) ▸ List.Subset.refl _) hs.2.1, hs.2.2⟩

/-- A packet that is no setup. -/
theorem vrr_rcv_handling (skb : SkBuff) (hty : skb.pkt.vh.pkt_type ≠ VRR_SETUP) :
    Preserves (Handling a me C l (fun _ => True)) (vrr_rcv skb) := by
  have hquiet : Quiet (fun ty => ty ≠ VRR_SETUP) (Handling a me C l (fun _ => True)) :=
    quiet_handling
  refine hquiet.handles.vrr_rcv skb (heard_handling _) (fun hknown => ?_)
  refine hquiet.handles.vrr_rcvfunc (fun _ _ h => h) skb hknown (fun _ => ?_)
    (fun h => absurd h hty) ?_
  · exact hquiet.draws.vrr_rcv_hello skb (fun _ hs => hs)
      (fun tmp _ _ => Triple.modify _ (fun _ hs => hs))
  · exact fun _ _ _ _ _ => vrr_local_rcv_setup_handling _ _ _ _ _ (fun _ => trivial)

/-- A setup. -/
theorem vrr_rcv_setup_only (skb : SkBuff) (hty : skb.pkt.vh.pkt_type = VRR_SETUP)
    (h : Preserves (Handling a me C l R) (vrr_rcv_setup skb)) :
    Preserves (Handling a me C l R) (vrr_rcv skb) := by
  refine quiet_handling.handles.vrr_rcv skb (heard_handling _) (fun hknown => ?_)
  have hno : ∀ ty, ty ≠ VRR_SETUP → skb.pkt.vh.pkt_type ≠ ty :=
    fun ty hne heq => hne (heq.symm.trans hty)
  exact vrr_rcvfunc_triple skb hknown (fun h0 => absurd h0 (hno _ (by decide)))
    (fun h1 => absurd h1 (hno _ (by decide))) (fun h2 => absurd h2 (hno _ (by decide)))
    (fun _ => h) (fun h4 => absurd h4 (hno _ (by decide)))
    (fun h5 => absurd h5 (hno _ (by decide)))

end Vrr

/-- One event at one node. To a setup that arrives, a chain arrives. -/
theorem step_setups (s t : Sys) (i : Event × Kernel) (hs : Setups a me C s)
    (hcorrect : Correct a s.node.pset)
    (hsetup : ∀ skb, i.1 = .vrr_rcv skb → skb.pkt.vh.pkt_type = VRR_SETUP →
      ∃ pid x, word skb.pkt vrr_header_size = some pid ∧ a.owner skb.h_source = some x ∧
        a.owner skb.dev_addr = some me ∧ C skb.pkt.src skb.pkt.dst pid x)
    (hstep : Step s i t) : Setups a me C t := by
  have hover : ∀ size n, Preserves (Setups a me C) (Vrr.overrun .pstate size n) :=
    fun _ _ => Preserves.modify _ (fun _ hs => hs)
  have hrest : ∀ (s : Sys) n, s.node.SameStores n → Setups a me C s →
      Setups a me C { s with node := n } := fun _ _ hsame hs => ⟨hsame.1.trans hs.1, hs.2⟩
  have hstart : ∀ R, Handling a me C s.added R { s with kern := i.2 } := fun R =>
    ⟨hs, hcorrect, [], (List.append_nil _).symm, fun _ hr => absurd hr List.not_mem_nil⟩
  refine step_cases hstep (fun skb r he hrun => ?_)
    (fun _ => (routine_setups.pset_update_handler hrest hover (by decide)).ok
      (s := { s with kern := i.2 }) hs)
    (fun _ => (routine_setups.vrr_workqueue_handler hrest hover (by decide)).ok
      (s := { s with kern := i.2 }) hs) (fun _ _ => hs)
  by_cases hty : skb.pkt.vh.pkt_type = VRR_SETUP
  · rcases hsetup skb he hty with ⟨pid, x, hpid, hx, hdev, hchain⟩
    exact ((Vrr.vrr_rcv_setup_only skb hty (Vrr.vrr_rcv_setup_handling skb pid x hpid hx hdev hchain
      (R := fun _ => True) (fun _ => trivial))).ok (hstart _) hrun).1
  · exact ((Vrr.vrr_rcv_handling skb hty).ok (hstart _) hrun).1

end Node

/-- The addresses in all physical sets are right. -/
def CorrectMacs (a : Addresses) (net : Ether) : Prop := ∀ x, Correct a (net.sys x).node.pset

/-- There is a chain of recorded routes from `ea` whose last hop is from `u` to
    `w`. Each records the hop before it as its previous one. -/
inductive Chain (net : Ether) (ea eb pid : U32) : U32 → U32 → Prop where
  | origin {w : U32} (h : ⟨ea, eb, ea, w, pid⟩ ∈ (net.sys ea).added) : Chain net ea eb pid ea w
  | hop {u v w : U32} (h : Chain net ea eb pid u v)
      (hv : ⟨ea, eb, u, w, pid⟩ ∈ (net.sys v).added) : Chain net ea eb pid v w

/-- The chains that arrive at a node. -/
def ChainTo (net : Ether) (y ea eb pid u : U32) : Prop := Chain net ea eb pid u y

theorem Chain.mono {net net' : Ether} {ea eb pid u w : U32} (h : Chain net ea eb pid u w)
    (hgrow : ∀ x, (net.sys x).added ⊆ (net'.sys x).added) : Chain net' ea eb pid u w := by
  induction h with
  | origin h => exact .origin (hgrow _ h)
  | hop _ hv ih => exact .hop ih (hgrow _ hv)

/-- A chain as a sequence of nodes. The first node is its own previous hop. -/
theorem chain_sequence {net : Ether} {ea eb pid u w : U32} (h : Chain net ea eb pid u w) :
    ∃ (m : Nat) (v : Nat → U32), 0 < m ∧ v 0 = ea ∧ v m = w ∧ v (m - 1) = u ∧
      ∀ i < m, ⟨ea, eb, v (i - 1), v (i + 1), pid⟩ ∈ (net.sys (v i)).added := by
  induction h with
  | @origin w h =>
      refine ⟨1, fun i => if i = 0 then ea else w, Nat.one_pos, rfl, rfl, rfl, fun i hi => ?_⟩
      have hi0 : i = 0 := by omega
      subst hi0
      exact h
  | @hop u v w _ hv ih =>
      rcases ih with ⟨m, f, hm, h0, hlast, hprev, hall⟩
      refine ⟨m + 1, Function.update f (m + 1) w, Nat.succ_pos m, ?_, Function.update_self _ _ _,
        ?_, fun i hi => ?_⟩
      · rw [Function.update_of_ne (by omega), h0]
      · rw [Nat.add_sub_cancel, Function.update_of_ne (by omega), hlast]
      rw [Function.update_of_ne (show i - 1 ≠ m + 1 by omega),
        Function.update_of_ne (show i ≠ m + 1 by omega)]
      rcases Nat.lt_or_ge i m with hlt | hge
      · rw [Function.update_of_ne (by omega)]
        exact hall i hlt
      · have him : i = m := by omega
        subst him
        rw [Function.update_self, hprev, hlast]
        exact hv

section Network

variable {a : Addresses}

/-- Behind a setup that arrives in a frame of `x` there is a chain from `x`. The
    records may have grown since it was sent. -/
theorem chain_of_setup {net net' : Ether} {y : U32} {skb : SkBuff}
    (hall : ∀ x, Setups a x (ChainTo net' x) (net.sys x))
    (hgrow : ∀ x, (net.sys x).added ⊆ (net'.sys x).added)
    (harrives : Ether.SetupSent a net y skb) (hty : skb.pkt.vh.pkt_type = VRR_SETUP) :
    ∃ pid x, word skb.pkt vrr_header_size = some pid ∧ a.owner skb.h_source = some x ∧
      a.owner skb.dev_addr = some y ∧ ChainTo net' y skb.pkt.src skb.pkt.dst pid x := by
  rcases harrives with ⟨hdev, hsetup⟩
  rcases hsetup hty with ⟨hdest, x, hx, hsent⟩
  rcases (hall x).2 skb.pkt hsent hty with ⟨pid, na, nb, hpid, hnb, hroute, hchain⟩
  -- it is addressed to the hop that `x` has recorded
  have hy : nb = y := by
    rcases hdest with hdest | hdest
    · rw [hnb, Option.some.injEq] at hdest
      exact hdest
    · rw [hdest, a.broadcast] at hnb
      exact absurd hnb (by simp only [reduceCtorEq, not_false_eq_true])
  rw [hy] at hroute
  refine ⟨pid, x, hpid, hx, hdev, ?_⟩
  rcases hchain with ⟨rfl, hsrc⟩ | hchain
  · rw [hsrc] at hroute ⊢
    exact .origin (hgrow _ hroute)
  · exact .hop hchain (hgrow _ hroute)

/-- One event in the network. -/
theorem laid_step {net net' : Ether} {i : U32 × Event × Kernel}
    (h : Ether.Step (Ether.SetupSent a) net i net') (hcorrect : CorrectMacs a net)
    (hall : ∀ x, Setups a x (ChainTo net x) (net.sys x)) :
    ∀ x, Setups a x (ChainTo net' x) (net'.sys x) := by
  have hgrow : ∀ x, (net.sys x).added ⊆ (net'.sys x).added :=
    fun x => (Ether.records_grow h x).2
  refine Ether.local_invariant (fun net x => Setups a x (ChainTo net x)) net net' i h
    (fun x hx => ?_) (fun hnew => ?_) hall
  · exact ⟨hx.1, fun p hp hty => (hx.2 p hp hty).mono (fun _ _ _ _ hc => hc.mono hgrow)
      (List.Subset.refl _)⟩
  rcases h with ⟨harrives, t, ht, hnet⟩
  have hsys : net'.sys i.1 = t := by
    rw [hnet]
    exact Function.update_self i.1 t net.sys
  rw [hsys]
  exact step_setups (net.sys i.1) t i.2 (hnew i.1) (hcorrect i.1)
    (fun skb he hty => chain_of_setup hnew hgrow (harrives skb he) hty) ht

/-- In every run of every network whose physical sets have the right addresses,
    a node `y` that handles a setup from `x` records routes from `x` only, and
    behind each of them is a chain of routes that match it hop by hop, back to
    the origin of the path. -/
theorem setup_chain (a : Addresses) (g : U32 → Nat → U32) (gm : U32 → Nat → MacAddr)
    (k : U32 → Kernel) (net : Ether)
    (hrun : Reach (fun net i net' => Ether.Step (Ether.SetupSent a) net i net' ∧ CorrectMacs a net)
      (Ether.boot g gm k) net) (hcorrect : CorrectMacs a net) (y x : U32) (skb : SkBuff)
    (kern : Kernel) (t : Sys) (hty : skb.pkt.vh.pkt_type = VRR_SETUP)
    (harrives : Ether.SetupSent a net y skb) (hx : a.owner skb.h_source = some x)
    (hstep : Step (net.sys y) (.vrr_rcv skb, kern) t) :
    ∃ new, t.added = (net.sys y).added ++ new ∧ ∀ r ∈ new, r.na = x ∧
      ∃ (m : Nat) (v : Nat → U32), 0 < m ∧ v 0 = r.ea ∧ v m = y ∧ v (m - 1) = x ∧
        ∀ i < m, ⟨r.ea, r.eb, v (i - 1), v (i + 1), r.path_id⟩ ∈ (net.sys (v i)).added := by
  have hall : ∀ x, Setups a x (ChainTo net x) (net.sys x) := by
    refine hrun.invariant (fun net => ∀ x, Setups a x (ChainTo net x) (net.sys x)) ?_
      (fun u i v hu hstep => laid_step hstep.1 hstep.2 hu)
    exact fun x => ⟨rfl, fun p hp => absurd hp List.not_mem_nil⟩
  rcases chain_of_setup hall (fun _ => List.Subset.refl _) harrives hty with
    ⟨pid, x', hpid, hx', hdev, hchain⟩
  have hsame : x' = x := by
    rw [hx, Option.some.injEq] at hx'
    exact hx'.symm
  subst hsame
  have hend := ((Preserves.then_pure (Vrr.vrr_rcv_setup_only skb hty (Vrr.vrr_rcv_setup_handling
    (l := (net.sys y).added) (R := fun r => r.ea = skb.pkt.src ∧ r.eb = skb.pkt.dst ∧ r.na = x' ∧
      r.path_id = pid) skb pid x' hpid hx' hdev hchain (fun _ => ⟨rfl, rfl, rfl, rfl⟩))) ()).ok
    (s := { net.sys y with kern := kern }) ⟨hall y, hcorrect y, [], (List.append_nil _).symm,
      fun _ hr => absurd hr List.not_mem_nil⟩ hstep)
  rcases hend.2.2 with ⟨new, hnew, hR⟩
  refine ⟨new, hnew, fun r hr => ?_⟩
  rcases hR r hr with ⟨hea, heb, hna, hrpid⟩
  rw [hea, heb, hrpid]
  exact ⟨hna, chain_sequence hchain⟩

end Network

/-- The entries and the updates in the queue have addresses of their nodes. -/
def Named (a : Addresses) (s : Sys) : Prop :=
  Correct a s.node.pset ∧ ∀ u ∈ s.node.pset_updates, a.owner u.mac = some u.node

section Named

variable {a : Addresses}

theorem routine_named : Routine (fun _ => True) (Named a) :=
  routine_base (fun n => Correct a n.pset ∧ ∀ u ∈ n.pset_updates, a.owner u.mac = some u.node)

namespace Vrr

theorem pset_state_update_named : Preserves (Named a) pset_state_update :=
  pset_state_update_triple (Triple.modify _ (fun _ hs => hs))
    (fun _ _ => Preserves.modify _ (fun _ hs => hs))

theorem vrr_rcv_named (skb : SkBuff)
    (hello : skb.pkt.vh.pkt_type = VRR_HELLO → a.owner skb.h_source = some skb.pkt.src) :
    Preserves (Named a) (vrr_rcv skb) := by
  refine routine_named.handles.vrr_rcv skb
    (fun s hs => ⟨correct_of_names s.node.pset _ ?_ hs.1, hs.2⟩) (fun hty => ?_)
  · exact (names_pset_reset_fail_count s.node.pset _) ▸ List.Subset.refl _
  refine routine_named.vrr_rcvfunc_of_all skb hty (fun h1 => ?_)
  refine routine_named.draws.vrr_rcv_hello skb (fun s hs => hs) (fun tmp hnode hmac =>
    Triple.modify _ (fun s hs => ⟨hs.1, fun u hu => ?_⟩))
  rcases List.mem_append.mp hu with hu | hu
  · exact hs.2 u hu
  · rw [List.mem_singleton.mp hu, hnode, hmac]
    exact hello h1

theorem vrr_workqueue_handler_named :
    Preserves (fun s => Cached (Named a) s.node.pset s) vrr_workqueue_handler := by
  refine vrr_workqueue_handler_cached (fun s done tmp pos hs hp => ?_)
    (fun s done tmp pos hs hp => ?_) pset_state_update_named (fun _ _ _ hs => hs) ?_
  · refine ⟨correct_of_names _ _ ?_ hs.1, hs.2⟩
    rw [names_fail_entry, hp]
    exact List.Subset.refl _
  · refine ⟨correct_of_names _ _ ?_ hs.1, hs.2⟩
    rw [hp]
    exact (((List.sublist_cons_self tmp pos).append_left done).map _).subset
  · exact ((node_of_still send_hpkt_still).preserves (fun n => Correct a n.pset ∧
      ∀ u ∈ n.pset_updates, a.owner u.mac = some u.node)).pre (fun _ hs => hs.1)

end Vrr

/-- One event, when hellos come in frames of their source. -/
theorem step_named (s t : Sys) (i : Event × Kernel) (hs : Vrr.Cached (Named a) s.node.pset s)
    (hello : ∀ skb, i.1 = .vrr_rcv skb → skb.pkt.vh.pkt_type = VRR_HELLO →
      a.owner skb.h_source = some skb.pkt.src)
    (hstep : Step s i t) : Vrr.Cached (Named a) t.node.pset t := by
  refine step_cases (I := fun s => Vrr.Cached (Named a) s.node.pset s) hstep
    (fun skb r he hrun => ?_) (fun _ => ?_)
    (fun _ => Vrr.vrr_workqueue_handler_named.ok (s := { s with kern := i.2 }) hs) (fun _ _ => hs)
  · have ht := (Triple.and (Vrr.vrr_rcv_named skb (hello skb he)) (Vrr.vrr_rcv_advertises skb)).ok
      (s := { s with kern := i.2 }) ⟨hs.1, hs.2.2⟩ hrun
    exact ⟨ht.1, rfl, ht.2⟩
  · refine (Vrr.pset_update_handler_cached routine_named.draws Vrr.pset_state_update_named
      (fun _ _ _ => routine_named.own.send_setup_req trivial _ _ _)
      (fun u l hl hu => ⟨hu.1, fun v hv => hu.2 v (hl hv)⟩) { s with kern := i.2 } hs
      (fun done tmp rest hl u hu hp => ⟨fun e he => ?_, hu.2⟩)).ok rfl
    -- a new entry has the address of the update
    have hold := hu.1
    rw [hp] at hold
    have hname : (e.node, e.mac) ∈ names (updated (done.foldl updated s.node.pset) tmp) :=
      List.mem_map.mpr ⟨e, he, rfl⟩
    rw [names_updated] at hname
    have hkeep : (e.node, e.mac) ∈ names (done.foldl updated s.node.pset) →
        a.owner e.mac = some e.node := by
      intro hin
      rcases List.mem_map.mp hin with ⟨e', he', heq⟩
      rw [Prod.mk.injEq] at heq
      rw [← heq.1, ← heq.2]
      exact hold e' he'
    split_ifs at hname
    · exact hkeep hname
    rcases List.mem_cons.mp hname with hname | hname
    · rw [Prod.mk.injEq] at hname
      rw [hname.1, hname.2]
      refine hs.1.2 tmp ?_
      rw [hl]
      exact List.mem_append_right _ List.mem_cons_self
    · exact hkeep hname

/-- The addresses stay right while every hello comes in a frame of its
    source. -/
theorem correct_of_hellos (arrives : Ether → U32 → SkBuff → Prop)
    (hello : ∀ net id skb, arrives net id skb → skb.pkt.vh.pkt_type = VRR_HELLO →
      a.owner skb.h_source = some skb.pkt.src)
    (g : U32 → Nat → U32) (gm : U32 → Nat → MacAddr) (k : U32 → Kernel) (net : Ether)
    (hrun : Reach (Ether.Step arrives) (Ether.boot g gm k) net) :
    Reach (fun net i net' => Ether.Step arrives net i net' ∧ CorrectMacs a net)
      (Ether.boot g gm k) net ∧ CorrectMacs a net := by
  have hinv : ∀ u, Reach (Ether.Step arrives) (Ether.boot g gm k) u →
      ∀ x, Vrr.Cached (Named a) (u.sys x).node.pset (u.sys x) := by
    intro u hu
    refine hu.invariant (fun u => ∀ x, Vrr.Cached (Named a) (u.sys x).node.pset (u.sys x)) ?_
      (fun u i v hall hstep => ?_)
    · exact fun x => ⟨⟨fun e he => absurd he List.not_mem_nil,
        fun u hu => absurd hu List.not_mem_nil⟩, rfl, ⟨rfl, rfl, rfl⟩, ⟨rfl, rfl, rfl⟩,
        ⟨rfl, rfl, rfl⟩⟩
    refine Ether.local_invariant (fun _ _ s => Vrr.Cached (Named a) s.node.pset s) u v i hstep
      (fun _ hx => hx) (fun _ => ?_) hall
    rcases hstep with ⟨harrives, t, ht, hv⟩
    have hsys : v.sys i.1 = t := by
      rw [hv]
      exact Function.update_self i.1 t u.sys
    rw [hsys]
    exact step_named _ t i.2 (hall i.1) (fun skb he hty => hello _ _ _ (harrives skb he) hty) ht
  refine ⟨?_, fun x => (hinv net hrun x).1.1⟩
  induction hrun with
  | refl => exact Reach.refl
  | step i h hstep ih => exact Reach.step i ih ⟨hstep, fun x => (hinv _ h x).1.1⟩

end Named

/-- Nodes 1 and 3, each with its id for an address. -/
def two_addresses : Addresses where
  owner m := if m = 1 then some 1 else if m = 3 then some 3 else none
  broadcast := by decide

/-- Nodes 1 and 3 hear of each other, and node 1 answers a request of node 3. -/
def two_events : List (U32 × Event × Kernel) :=
  [(1, .vrr_rcv { frame 3 VRR_HELLO 3 0 [0, 0, 0, 0] with dev_addr := 1 }, Kernel.calm),
    (1, .pset_update_handler, Kernel.calm),
    (3, .vrr_rcv { frame 1 VRR_HELLO 1 0 [0, 0, 0, 0] with dev_addr := 3 }, Kernel.calm),
    (3, .pset_update_handler, Kernel.calm),
    (1, .vrr_rcv { frame 3 VRR_SETUP_REQ 3 1 [3, 0] with dev_addr := 1 }, Kernel.calm)]

/-- Then node 3 handles the setup that node 1 has sent. The route it records is
    from node 1, and the chain behind it is the route of node 1. -/
theorem setup_chain_two :
    let skb : SkBuff := ⟨build_packet 1 VRR_SETUP 1 3 3 [0, 3, 0], 1, 3⟩
    ∃ net t, Reach (fun net i net' => Ether.Step (Ether.SetupSent two_addresses) net i net' ∧
        CorrectMacs two_addresses net) (Ether.boot (fun _ _ => 0) (fun _ _ => 0)
        (fun _ => Kernel.calm)) net ∧
      Step (net.sys 3) (.vrr_rcv skb, Kernel.calm) t ∧ t.added = [⟨1, 3, 1, 0, 0⟩] ∧
      ∃ new, t.added = (net.sys 3).added ++ new ∧ ∀ r ∈ new, r.na = 1 ∧
        ∃ (m : Nat) (v : Nat → U32), 0 < m ∧ v 0 = r.ea ∧ v m = 3 ∧ v (m - 1) = 1 ∧
          ∀ i < m, ⟨r.ea, r.eb, v (i - 1), v (i + 1), r.path_id⟩ ∈ (net.sys (v i)).added := by
  intro skb
  let arrives : Ether → U32 → SkBuff → Prop := fun _ id skb =>
    two_addresses.owner skb.dev_addr = some id ∧ skb.pkt.vh.pkt_type ≠ VRR_SETUP ∧
      (skb.pkt.vh.pkt_type = VRR_HELLO → two_addresses.owner skb.h_source = some skb.pkt.src)
  let start : Ether := Ether.boot (fun _ _ => 0) (fun _ _ => 0) (fun _ => Kernel.calm)
  have hrefine : ∀ net id skb, arrives net id skb → Ether.SetupSent two_addresses net id skb :=
    fun net id skb h => ⟨h.1, fun hty => absurd hty h.2.1⟩
  have heval : (Ether.run (fun _ id skb => decide (two_addresses.owner skb.dev_addr = some id ∧
      skb.pkt.vh.pkt_type ≠ VRR_SETUP ∧ (skb.pkt.vh.pkt_type = VRR_HELLO →
        two_addresses.owner skb.h_source = some skb.pkt.src))) start two_events).map
      (fun net => ((net.sys 1).sent,
        (run_events (net.sys 3) [(.vrr_rcv skb, Kernel.calm)]).map (fun t => t.added))) =
      some ([skb.pkt], some [⟨1, 3, 1, 0, 0⟩]) := by
    decide +kernel
  rcases Option.map_eq_some_iff.mp heval with ⟨net, hnet, hboth⟩
  rw [Prod.mk.injEq] at hboth
  rcases Option.map_eq_some_iff.mp hboth.2 with ⟨t, ht, hadded⟩
  have hreach := Ether.reach_run (fun net id skb h => of_decide_eq_true h) start start net _
    Reach.refl hnet
  rcases correct_of_hellos arrives (fun _ _ _ h => h.2.2) _ _ _ net hreach with ⟨hrun, hcorrect⟩
  have hsent : Ether.SetupSent two_addresses net 3 skb := by
    refine ⟨by decide, fun _ => ⟨Or.inl (by decide), 1, by decide, ?_⟩⟩
    rw [Ether.Emitted, hboth.1]
    exact List.mem_singleton_self _
  have hstep := step_of_run_events _ _ _ ht
  have hsound := hrun.mono (R := fun net i net' =>
    Ether.Step (Ether.SetupSent two_addresses) net i net' ∧ CorrectMacs two_addresses net)
    (fun u i v h => ⟨⟨fun skb he => hrefine _ _ _ (h.1.1 skb he), h.1.2⟩, h.2⟩)
  exact ⟨net, t, hsound, hstep, hadded, setup_chain two_addresses _ _ _ net hsound hcorrect 3 1 skb
    Kernel.calm t rfl hsent (by decide) hstep⟩

end AlpacaVrr
