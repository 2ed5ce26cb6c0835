import AlpacaVrr.Theory.CutShort
import AlpacaVrr.Theory.Ownership

/-!
# Where Unwritten Memory Shows

The converse of `mute_indifferent`: a packet that is handled alike is mute.

Two contents of unwritten memory are told apart by what is sent or by what is
left behind. A packet that the node built gives it away at once, because the
padding of its header was never written. So a run on a packet that is handled
alike sends nothing, whatever the kernel grants and memory holds, and of two
runs the nodes are the same. Each part of `Mute` is read off from a run of
memory that is made for it. Ones have the node ask for an id if anything does,
zeros have it turned down, and in place of ids that are missing any id can be
put.

## Main definitions

* `Owned`: Packets that were sent had buffers of the node's own.
* `fields`: The words of an array, or what the buffer held.
* `Weighs`: What taking a vset received into account comes to.
* `Rationed`: A state in which the allocations to come are known.

## Theorems

* `Indifferent.silent`: A packet handled alike has nothing built for it.
* `unasked_of_fields`, `weighed_of_fields`: What no content of memory changes is
  unasked and weighed.
* `indifferent_iff_mute`: The packets that are handled alike.
-/

namespace AlpacaVrr

open FaultState

/-- What was sent had a buffer of the node's own. -/
def Owned (s : Sys) : Prop := s.sent ≠ [] → SkbRef.allocated ∈ s.released

theorem alters_owned : Alters (fun _ => True) Owned :=
  alters_of_output (fun _ _ hs => hs) (fun _ _ hs => hs) (fun _ _ _ hs => hs)
    (fun _ _ _ _ _ => List.mem_append_right _ List.mem_cons_self)

theorem rt_add_route_owned (ea eb na nb pid : U32) :
    Preserves Owned (Vrr.rt_add_route ea eb na nb pid) :=
  Vrr.rt_add_route_rule alters_owned.draws _ _ _ _ _ (fun _ _ _ hs => hs)

/-- Two paddings make two headers. -/
theorem bytes_ne_of_after_free (p : Packet) {pad pad' : Padding}
    (h : pad.after_free ≠ pad'.after_free) : p.bytes pad ≠ p.bytes pad' := by
  intro heq
  have hpad : ∀ pad, (p.bytes pad)[7]? = some pad.after_free := fun _ => rfl
  have hbyte := hpad pad
  rw [heq, hpad] at hbyte
  exact h (Option.some.inj hbyte).symm

/-- What a packet that is handled alike sends had no buffer of the node's own. -/
theorem Indifferent.silent {n : Node} {skb : SkBuff} (hind : Indifferent n skb)
    (hty : skb.pkt.vh.pkt_type < VRR_NPTYPES)
    (hown : Triple (fun s => s.node = heard n skb.pkt.src ∧ Owned s) (Vrr.vrr_rcvfunc skb)
      (fun _ => Owned) (fun _ => True)) (k : Kernel) {R : Int → Sys → Prop}
    (h : Triple (fun s => s = Sys.boot (heard n skb.pkt.src) k) (Vrr.vrr_rcvfunc skb) R
      (fun _ => False)) : ∃ err s, R err s ∧ s.sent = [] := by
  have hboot : ∀ s, s = Sys.boot (heard n skb.pkt.src) k →
      s.node = heard n skb.pkt.src ∧ Owned s := by
    intro s hs
    rw [hs]
    exact ⟨rfl, fun hsent => absurd rfl hsent⟩
  have hboth := (h.and (hown.pre hboot)).conseq (fun _ hs => ⟨hs, hs⟩) (fun _ _ hs => hs)
    (fun _ he => he.1)
  have hrun := Vrr.vrr_rcv_after skb hty hboth _ rfl
  have hsame := hind k ⟨0, (0, 0), (0, 0)⟩ k.uninit (fun _ => ⟨0, (0, 0), (0, 0)⟩)
    (fun _ => ⟨1, (0, 0), (0, 0)⟩)
  change outcome n skb k _ _ = outcome n skb k _ _ at hsame
  unfold outcome at hsame
  cases hs : Vrr.vrr_rcv skb (Sys.boot n k) with
  | error e =>
      rw [hs] at hrun
      exact hrun.elim
  | ok p =>
      rw [hs] at hrun hsame
      rcases hrun with ⟨err, t, ht, _, hsent, hreleased, _⟩
      refine ⟨err, t, ht.1, ?_⟩
      by_contra hne
      have hmem := hreleased (ht.2 hne)
      simp only [Except.ok.injEq, Prod.mk.injEq, Sys.bytes_sent, if_pos hmem, true_and] at hsame
      -- the first of the packets, with either padding
      rw [← hsent] at hne
      cases hl : p.2.sent with
      | nil => exact hne hl
      | cons pkt l =>
          rw [hl, List.mapIdx_cons, List.mapIdx_cons, List.cons.injEq] at hsame
          exact bytes_ne_of_after_free pkt (by decide) hsame.1

/-- The words of an array, or what the buffer held, and the unwritten memory
    after it. -/
def fields (p : Packet) (offset size : Nat) (g : Nat → Garbage) : List U32 × (Nat → Garbage) :=
  match words p offset size with
  | some ws => (ws, g)
  | none => ((List.range size).map (fun i => ntohl (g 0 i)), fun i => g (i + 1))

/-- The ids of a vset are weighed, and its source: if nothing was sent, nothing
    was asked for, and the source was offered to the virtual set. -/
def Weighs (n : Node) (src : U32) (ids : List U32) (g : Nat → Garbage) (s : Sys) : Prop :=
  (s.sent = [] → (requests n ids g).1 = []) ∧
    s.node.vset = offered n.me n.vset src (requests n ids g).2

/-- What it comes to depends on the id, the virtual set and the active
    neighbours, and on the set in the end. -/
theorem Weighs.congr {n m : Node} {src : U32} {ids : List U32} {g : Nat → Garbage} {s t : Sys}
    (h : Weighs m src ids g s) (hme : m.me = n.me) (hvset : m.vset = n.vset)
    (hpset : m.pset = n.pset) (hsent : t.sent = s.sent) (ht : t.node.vset = s.node.vset) :
    Weighs n src ids g t := by
  have hids := requests_congr hme hvset (congrArg pset_active hpset) ids g
  unfold Weighs at h ⊢
  rw [hsent, ht, ← hids, ← hme, ← hvset]
  exact h

namespace Vrr

section Runs

variable {n : Node} {l : List Packet} {g : Nat → Garbage}

theorem read_u32_at (p : Packet) (offset : Nat) :
    Triple (Sys.At n l g) (read_u32 p offset)
      (fun a s => s.At n l (field p offset g).2 ∧ a = (field p offset g).1) (fun _ => False) := by
  unfold read_u32 field
  cases word p offset with
  | some w => exact Triple.pure _ (fun s hs => ⟨hs, rfl⟩)
  | none =>
      refine Triple.bind uninit_at (fun a => Triple.of_and (fun ha => ?_))
      refine Triple.pure _ (fun s hs => ?_)
      rw [ha]
      exact ⟨hs, rfl⟩

theorem read_array_at (p : Packet) (offset size : Nat) :
    Triple (Sys.At n l g) (read_array p offset size)
      (fun ids s => s.At n l (fields p offset size g).2 ∧ ids = (fields p offset size g).1)
      (fun _ => False) := by
  unfold read_array fields
  cases words p offset size with
  | some ws => exact Triple.pure _ (fun s hs => ⟨hs, rfl⟩)
  | none =>
      refine Triple.bind uninit_at (fun a => Triple.of_and (fun ha => ?_))
      refine Triple.pure _ (fun s hs => ?_)
      rw [ha]
      exact ⟨hs, rfl⟩

/-- A vset of a size that is accepted, and what is done with it. -/
theorem received_at (p : Packet) (offset room : Nat) (size : U32) (k : List U32 → Vrr Int)
    {R : Int → Sys → Prop} (hle : size.toNat ≤ VRR_VSET_SIZE)
    (hk : Triple (Sys.At n l (fields p offset size.toNat g).2)
      (k (fields p offset size.toNat g).1) R (fun _ => False)) :
    Triple (Sys.At n l g)
      (if VRR_VSET_SIZE < size.toNat then pure (-1)
        else do
          let vset ← kmalloc room
          if vset then do
            let vset ← read_array p offset size.toNat
            k vset
          else pure (-1)) R (fun _ => False) := by
  refine Triple.ite _ (fun h => absurd hle (Nat.not_le_of_lt h)) (fun _ => ?_)
  refine Triple.bind (kmalloc_at room) (fun vset => Triple.of_and (fun hvset => ?_))
  rw [hvset]
  refine Triple.bind (read_array_at p offset _) (fun ids => Triple.of_and (fun hids => ?_))
  rw [hids]
  exact hk

theorem next_hop_via_run (dst proxy : U32) (s : Sys) :
    next_hop_via dst proxy s = .ok (hop_via s.node dst proxy, s) := by
  change (if pset_get_status s.node.pset dst = .unknown then rt_get_next proxy
    else pure dst : Vrr U32) s = _
  unfold hop_via
  split_ifs <;> rfl

theorem hop_via_at (dst proxy : U32) :
    Triple (Sys.At n l g) (next_hop_via dst proxy)
      (fun nh s => s.At n l g ∧ nh = hop_via n dst proxy) (fun _ => False) :=
  Triple.reads _ (next_hop_via_run dst proxy) (fun s hs => ⟨hs, by rw [hs.node]⟩)

theorem setup_hop_at (dst proxy : U32) :
    Triple (Sys.At n l g) (setup_next_hop dst proxy)
      (fun nh s => s.At n l g ∧ nh = setup_hop n dst proxy) (fun _ => False) :=
  Triple.reads _ (setup_next_hop_run dst proxy) (fun s hs => ⟨hs, by rw [hs.node]⟩)

/-- A vset for a hop with an address is sent. -/
theorem send_vset_shows (pkt_type : U8) (src dst : U32) (data ids : List U32) (size : Nat)
    (hop : U32) :
    Triple (Sys.At n l g) (send_vset pkt_type src dst data size (some ids) hop)
      (fun _ s => s.node = n ∧ (s.sent = [] → l = [] ∧ pset_get_mac n.pset hop = none))
      (fun _ => False) := by
  have hread : read_vset size (some ids) = pure (ids.take size) := by
    unfold read_vset
    by_cases hsize : size = 0
    · rw [if_pos hsize, hsize, List.take_zero]
    · rw [if_neg hsize]
  refine (send_vset_at _ _ _ _ _ _ _ _ hread).post (fun _ s hs => ⟨hs.node, fun hsent => ?_⟩)
  rw [hs.sent, List.append_eq_nil_iff] at hsent
  refine ⟨hsent.1, ?_⟩
  have hnone := hsent.2
  unfold vset_to at hnone
  cases hmac : pset_get_mac n.pset hop with
  | none => rfl
  | some mac =>
      rw [hmac] at hnone
      cases hnone

theorem vrr_add_weighs (src : U32) (ids : List U32) :
    Triple (Sys.At n [] g) (vrr_add src ids)
      (fun _ s => s.node.rt = n.rt ∧ Weighs n src ids g s) (fun _ => False) := by
  refine (vrr_add_at src ids).post (fun _ s hs => ?_)
  rcases hs with ⟨hnode, ps, hps, hsent⟩
  refine ⟨by rw [hnode], fun hnil => ?_, by rw [hnode]⟩
  rw [hnil, List.nil_append] at hsent
  rw [← hsent] at hps
  exact List.forall₂_nil_left_iff.mp hps

/-- A setup_fail is passed on, or its vset is asked for. -/
theorem vrr_rcv_setup_fail_shows (skb : SkBuff) {proxy size : U32}
    (hproxy : word skb.pkt vrr_header_size = some proxy)
    (hsize : word skb.pkt (vrr_header_size + 4) = some size)
    (hle : size.toNat ≤ VRR_VSET_SIZE) :
    Triple (Sys.At n [] g) (vrr_rcv_setup_fail skb)
      (fun _ s =>
        (hop_via n skb.pkt.dst proxy ≠ 0 → s.sent = [] →
          pset_get_mac n.pset (hop_via n skb.pkt.dst proxy) = none) ∧
        (hop_via n skb.pkt.dst proxy = 0 → skb.pkt.dst = n.me →
          Weighs n UINT_MAX (fields skb.pkt (vrr_header_size + 8) size.toNat g).1
            (fields skb.pkt (vrr_header_size + 8) size.toNat g).2 s)) (fun _ => False) := by
  unfold vrr_rcv_setup_fail
  rw [read_u32_of_word hproxy, read_u32_of_word hsize]
  refine Triple.pure_bind _ (Triple.pure_bind _ (received_at _ _ _ _ _ hle ?_))
  refine Triple.bind (hop_via_at _ _) (fun nh => Triple.of_and (fun hnh => ?_))
  rw [← hnh]
  refine Triple.ite _ (fun hhop => ?_) (fun hhop => ?_)
  · refine Triple.bind (send_vset_shows _ _ _ _ _ _ _) (fun _ => Triple.pure _ (fun s hs => ?_))
    exact ⟨fun _ hsent => (hs.2 hsent).2, fun hzero => absurd hzero hhop⟩
  refine Triple.bind me_at (fun me => Triple.of_and (fun hme => ?_))
  rw [hme]
  refine Triple.ite _ (fun hdst => ?_) (fun hdst => Triple.pure _ (fun s hs => ?_))
  · refine Triple.bind (Q := fun _ => Sys.At n [] _) (Triple.modify _ (fun s hs =>
      ⟨hs.node, hs.sent, hs.uninit, hs.alloc⟩)) (fun _ => ?_)
    refine Triple.bind (vrr_add_weighs _ _) (fun _ => Triple.pure _ (fun s hs => ?_))
    exact ⟨fun hne => absurd hne hhop, fun _ _ => hs.2⟩
  · exact ⟨fun hne => absurd hne hhop, fun _ heq => absurd heq hdst⟩

/-- A teardown removes its route. It is passed on, or its vset is weighed. -/
theorem vrr_rcv_teardown_shows (skb : SkBuff) {route : RtEntry} {ea pid size : U32}
    {g1 g2 g3 : Nat → Garbage} (hea : field skb.pkt vrr_header_size g = (ea, g1))
    (hpid : field skb.pkt (vrr_header_size + 4) g1 = (pid, g2))
    (hsize : field skb.pkt (vrr_header_size + 8) g2 = (size, g3))
    (hroute : (n.rt.rt_remove_route ea pid).1 = some route) :
    Triple (Sys.At n [] g) (vrr_rcv_teardown skb)
      (fun _ s => s.node.rt = (n.rt.rt_remove_route ea pid).2 ∧ (size.toNat ≤ VRR_VSET_SIZE →
        ((teardown_side route skb.pkt.src).2 ≠ 0 → s.sent = [] →
          pset_get_mac n.pset (teardown_side route skb.pkt.src).2 = none) ∧
        ((teardown_side route skb.pkt.src).2 = 0 →
          Weighs (severed n ea pid (teardown_side route skb.pkt.src).1) 0
            (fields skb.pkt (vrr_header_size + 12) size.toNat g3).1
            (fields skb.pkt (vrr_header_size + 12) size.toNat g3).2 s))) (fun _ => False) := by
  unfold vrr_rcv_teardown
  refine Triple.bind (read_u32_at _ _) (fun a => Triple.of_and (fun ha => ?_))
  rw [hea] at ha ⊢
  refine Triple.bind (read_u32_at _ _) (fun b => Triple.of_and (fun hb => ?_))
  rw [hpid] at hb ⊢
  refine Triple.bind (read_u32_at _ _) (fun c => Triple.of_and (fun hc => ?_))
  rw [hsize] at hc ⊢
  rw [ha, hb, hc]
  refine Triple.bind (rt_remove_route_at _ _) (fun found => Triple.of_and (fun hfound => ?_))
  rw [hfound, hroute]
  dsimp only
  generalize teardown_side route skb.pkt.src = side
  rcases side with ⟨endpt, next⟩
  by_cases hle : size.toNat ≤ VRR_VSET_SIZE
  · refine received_at _ _ _ _ _ hle ?_
    refine Triple.ite _ (fun hnext => ?_) (fun hnext => ?_)
    · refine Triple.bind (Q := fun _ s => s.node = unroute n ea pid ∧
        (s.sent = [] → pset_get_mac n.pset next = none)) ?_
        (fun _ => Triple.pure _ (fun s hs => ?_))
      · unfold send_teardown
        refine Triple.bind me_at (fun me => Triple.of_and (fun hme => ?_))
        rw [hme]
        exact (send_vset_shows _ _ _ _ _ _ _).post (fun _ s hs => ⟨hs.1, fun h => (hs.2 h).2⟩)
      · rw [hs.1]
        exact ⟨rfl, fun _ => ⟨fun _ => hs.2, fun hzero => absurd hzero hnext⟩⟩
    · refine Triple.bind (Q := fun _ => Sys.At (severed n ea pid endpt) []
        (fields skb.pkt (vrr_header_size + 12) size.toNat g3).2) (fun s hs => ?_) (fun _ => ?_)
      · refine ⟨?_, hs.sent, hs.uninit, hs.alloc⟩
        change ({ s.node with vset := _ } : Node) = _
        rw [hs.node]
        rfl
      · refine Triple.bind (vrr_add_weighs _ _) (fun _ => Triple.pure _ (fun s hs => ?_))
        exact ⟨hs.1, fun _ => ⟨fun hne => absurd hne hnext, fun _ => hs.2⟩⟩
  · refine Triple.ite _ (fun _ => Triple.pure _ (fun s hs => ?_))
      (fun h => absurd (Nat.le_of_not_lt h) hle)
    rw [hs.node]
    exact ⟨rfl, fun h => absurd h hle⟩

/-- The route is removed, if the handler gets that far. -/
theorem vrr_rcv_teardown_removes (skb : SkBuff) {ea pid size : U32} {g1 g2 g3 : Nat → Garbage}
    (hea : field skb.pkt vrr_header_size g = (ea, g1))
    (hpid : field skb.pkt (vrr_header_size + 4) g1 = (pid, g2))
    (hsize : field skb.pkt (vrr_header_size + 8) g2 = (size, g3)) :
    Triple (Sys.At n [] g) (vrr_rcv_teardown skb)
      (fun _ s => s.node.rt = (n.rt.rt_remove_route ea pid).2)
      (fun _ => (n.rt.rt_remove_route ea pid).1 = none) := by
  cases hroute : (n.rt.rt_remove_route ea pid).1 with
  | some route =>
      exact ((vrr_rcv_teardown_shows skb hea hpid hsize hroute).post (fun _ _ hs => hs.1)).safe
  | none =>
      unfold vrr_rcv_teardown
      refine Triple.bind (read_u32_at _ _).safe (fun a => Triple.of_and (fun ha => ?_))
      rw [hea] at ha ⊢
      refine Triple.bind (read_u32_at _ _).safe (fun b => Triple.of_and (fun hb => ?_))
      rw [hpid] at hb ⊢
      refine Triple.bind (read_u32_at _ _).safe (fun c => Triple.of_and (fun _ => ?_))
      rw [ha, hb]
      refine Triple.bind (rt_remove_route_at _ _).safe
        (fun found => Triple.of_and (fun hfound => ?_))
      rw [hfound, hroute]
      exact Triple.fault _ rfl

/-- A setup from a stranger: its route is removed, and its hops are told. -/
theorem vrr_rcv_setup_lost (skb : SkBuff) {pid : U32} {g1 : Nat → Garbage}
    (hsender : sender_of n skb = none) (hpid : field skb.pkt vrr_header_size g = (pid, g1)) :
    Triple (Sys.At n [] g) (vrr_rcv_setup skb)
      (fun _ s => s.node.rt = (n.rt.rt_remove_route skb.pkt.src pid).2 ∧
        (s.sent = [] → Untold n skb.pkt.src pid)) (fun _ => False) := by
  unfold vrr_rcv_setup
  unfold sender_of at hsender
  refine Triple.bind me_at (fun me => Triple.of_and (fun hme => ?_))
  refine Triple.bind (read_u32_at _ _) (fun a => Triple.of_and (fun ha => ?_))
  rw [hpid] at ha ⊢
  refine Triple.bind (read_u32_at _ _) (fun _ => Triple.of_and (fun _ => ?_))
  rw [hme, hsender, ha]
  refine Triple.bind (tear_down_path_sends _ _ _) (fun _ => Triple.pure _ (fun s hs => ?_))
  rcases hs with ⟨hnode, ps, hsent, _, hnone⟩
  refine ⟨by rw [hnode]; rfl, fun hnil route hroute => ?_⟩
  rw [hnil, List.nil_append] at hsent
  have htold := hnone.mp hsent.symm route hroute
  exact ⟨htold.1, htold.2.1⟩

/-- A setup from a neighbour is passed on, or its vset is weighed. -/
theorem vrr_rcv_setup_shows (skb : SkBuff) {sender pid proxy size : U32}
    (hsender : sender_of n skb = some sender) (hpid : word skb.pkt vrr_header_size = some pid)
    (hproxy : word skb.pkt (vrr_header_size + 4) = some proxy)
    (hsize : word skb.pkt (vrr_header_size + 8) = some size)
    (hle : size.toNat ≤ VRR_VSET_SIZE) :
    Triple (Sys.At n [] g) (vrr_rcv_setup skb)
      (fun _ s =>
        (setup_hop n skb.pkt.dst proxy ≠ 0 → s.sent = [] →
          pset_get_mac n.pset (setup_hop n skb.pkt.dst proxy) = none) ∧
        (setup_hop n skb.pkt.dst proxy = 0 →
          Weighs n skb.pkt.src (fields skb.pkt (vrr_header_size + 12) size.toNat g).1
            (fields skb.pkt (vrr_header_size + 12) size.toNat g).2 s)) (fun _ => False) := by
  unfold vrr_rcv_setup
  unfold sender_of at hsender
  refine Triple.bind me_at (fun me => Triple.of_and (fun hme => ?_))
  rw [read_u32_of_word hpid, read_u32_of_word hproxy, hme, hsender]
  refine Triple.pure_bind _ (Triple.pure_bind _ ?_)
  refine Triple.bind (setup_hop_at _ _) (fun nh => Triple.of_and (fun hnh => ?_))
  rw [← hnh]
  refine Triple.bind (rt_add_route_at _ _ _ _ _) (fun added => Triple.of_and (fun hadded => ?_))
  rw [hadded]
  refine Triple.of_exists (fun rb => ?_)
  refine Triple.ite _ (fun _ => ?_) (fun h => absurd rfl h)
  rw [read_u32_of_word hsize]
  refine Triple.pure_bind _ (received_at _ _ _ _ _ hle ?_)
  refine Triple.ite _ (fun hhop => ?_) (fun hhop => ?_)
  · refine Triple.bind (send_vset_shows _ _ _ _ _ _ _) (fun _ => Triple.pure _ (fun s hs => ?_))
    exact ⟨fun _ hsent => (hs.2 hsent).2, fun hzero => absurd hzero hhop⟩
  · refine Triple.bind (vrr_add_weighs _ _) (fun ret => ?_)
    refine Triple.ite _ (fun _ => ?_) (fun _ => Triple.pure _ (fun s hs => ?_))
    · refine Triple.bind (Triple.modify _ (U := fun _ => Weighs n skb.pkt.src
        (fields skb.pkt (vrr_header_size + 12) size.toNat g).1
        (fields skb.pkt (vrr_header_size + 12) size.toNat g).2) (fun s hs => ?_))
        (fun _ => Triple.pure _ (fun s hs => ⟨fun hne => absurd hne hhop, fun _ => hs⟩))
      exact hs.2.congr rfl rfl rfl rfl rfl
    · exact ⟨fun hne => absurd hne hhop, fun _ => hs.2.congr rfl rfl rfl rfl rfl⟩

/-- The answer to a request whose source was taken in. -/
theorem vrr_local_rcv_setup_shows (dst pid proxy : U32) (size : Nat) (ids : List U32) :
    Triple (Sys.At n l g) (vrr_local_rcv_setup dst pid proxy size (some ids))
      (fun _ s => s.node.vset = n.vset ∧
        (s.sent = [] → l = [] ∧ Unreached n (hop_via n dst proxy))) (fun _ => False) := by
  unfold vrr_local_rcv_setup
  refine Triple.bind me_at (fun me => Triple.of_and (fun hme => ?_))
  rw [hme]
  refine Triple.bind (hop_via_at _ _) (fun nh => Triple.of_and (fun hnh => ?_))
  rw [← hnh]
  refine Triple.bind (rt_add_route_at _ _ _ _ _) (fun added => Triple.of_and (fun hadded => ?_))
  rw [hadded]
  refine Triple.of_exists (fun rb => ?_)
  refine Triple.ite _ (fun _ => ?_) (fun h => absurd rfl h)
  refine Triple.ite _ (fun hhop => ?_) (fun hhop => Triple.pure _ (fun s hs => ?_))
  · refine Triple.bind (send_vset_shows _ _ _ _ _ _ _) (fun _ => Triple.pure _ (fun s hs => ?_))
    exact ⟨by rw [hs.1], fun hsent => ⟨(hs.2 hsent).1, Or.inr (hs.2 hsent).2⟩⟩
  · rw [hs.node, hs.sent]
    exact ⟨rfl, fun hsent => ⟨hsent, Or.inl (not_not.mp hhop)⟩⟩

/-- The answer to one whose source was not. -/
theorem vrr_local_rcv_setup_fail_shows (dst proxy : U32) (size : Nat) (ids : List U32)
    (hsize : size ≠ 0) :
    Triple (Sys.At n l g) (vrr_local_rcv_setup_fail dst proxy size (some ids))
      (fun _ s => s.node.vset = n.vset ∧
        (s.sent = [] → l = [] ∧ Unreached n (hop_via n dst proxy) ∧ (requests n [dst] g).1 = []))
      (fun _ => False) := by
  unfold vrr_local_rcv_setup_fail
  refine Triple.bind me_at (fun me => Triple.of_and (fun hme => ?_))
  refine Triple.bind (kmalloc_at _) (fun ovset => Triple.of_and (fun hovset => ?_))
  refine Triple.bind (hop_via_at _ _) (fun nh => Triple.of_and (fun hnh => ?_))
  rw [hme, hovset, ← hnh]
  refine Triple.ite _ (fun _ => ?_) (fun h => absurd rfl h)
  refine Triple.ite _ (fun h => absurd h hsize) (fun _ => ?_)
  refine Triple.bind (vrr_add_drawn _ _) (fun _ => Triple.of_exists (fun ps => ?_))
  refine Triple.of_exists (fun c => ?_)
  -- the source that stands for none is not offered
  have hkeep : offered n.me n.vset UINT_MAX (requests n [dst] g).2 = n.vset :=
    if_neg (fun h => h.1 rfl)
  rw [hkeep]
  refine Triple.pre (Triple.of_and (fun hps => ?_)) (fun s hs => And.symm hs)
  have hasked : l ++ ps = [] → l = [] ∧ (requests n [dst] g).1 = [] := by
    intro hnil
    rw [List.append_eq_nil_iff] at hnil
    rw [hnil.2] at hps
    exact ⟨hnil.1, List.forall₂_nil_left_iff.mp hps.1⟩
  refine Triple.ite _ (fun hhop => ?_) (fun hhop => Triple.pure _ (fun s hs => ?_))
  · refine Triple.bind (send_vset_shows _ _ _ _ _ _ _) (fun _ => Triple.pure _ (fun s hs => ?_))
    refine ⟨by rw [hs.1], fun hsent => ?_⟩
    have hask := hasked (hs.2 hsent).1
    exact ⟨hask.1, Or.inr (hs.2 hsent).2, hask.2⟩
  · rw [hs.node, hs.sent]
    refine ⟨rfl, fun hsent => ?_⟩
    have hask := hasked hsent
    exact ⟨hask.1, Or.inl (not_not.mp hhop), hask.2⟩

/-- A request that goes no further is weighed and answered. -/
theorem vrr_rcv_setup_req_shows (skb : SkBuff) {proxy size : U32}
    (hend : RtTable.rt_get_next_exclude n.me n.rt skb.pkt.dst skb.pkt.src = 0)
    (hproxy : word skb.pkt vrr_header_size = some proxy)
    (hsize : word skb.pkt (vrr_header_size + 4) = some size)
    (hle : size.toNat ≤ VRR_VSET_SIZE)
    (hcount : skb.pkt.src = UINT_MAX → n.vset.vset_size ≠ 0) :
    Triple (Sys.At n [] g) (vrr_rcv_setup_req skb)
      (fun _ s => Weighs n skb.pkt.src (fields skb.pkt (vrr_header_size + 8) size.toNat g).1
          (fun i => (fields skb.pkt (vrr_header_size + 8) size.toNat g).2 (i + 1)) s ∧
        (s.sent = [] → Unreached n (hop_via n skb.pkt.src proxy) ∧
          (skb.pkt.src = UINT_MAX → ∃ c, (requests n [skb.pkt.src]
            (fun i => (fields skb.pkt (vrr_header_size + 8) size.toNat g).2 (i + c))).1 = [])))
      (fun _ => False) := by
  unfold vrr_rcv_setup_req rt_get_next_exclude
  refine Triple.bind (Triple.bind me_at (fun me => Triple.of_and (fun hme =>
    Triple.pure _ (Q := fun nh s => Sys.At n [] g s ∧ nh = 0) (fun s hs => ⟨hs, ?_⟩))))
    (fun nh => Triple.of_and (fun hnh => ?_))
  · rw [hme]
    exact hend
  refine Triple.ite _ (fun h => absurd hnh h) (fun _ => ?_)
  rw [read_u32_of_word hproxy, read_u32_of_word hsize]
  refine Triple.pure_bind _ (Triple.pure_bind _ (received_at _ _ _ _ _ hle ?_))
  generalize fields skb.pkt (vrr_header_size + 8) size.toNat g = f
  refine Triple.bind vset_get_all_drawn (fun all => Triple.of_and (fun hall => ?_))
  rw [hall]
  refine Triple.bind (vrr_add_drawn _ _) (fun added => Triple.of_exists (fun ps => ?_))
  refine Triple.of_exists (fun c => ?_)
  refine Triple.pre (Triple.of_and (fun hps => ?_)) (fun s hs => And.symm hs)
  rcases hps with ⟨hps, hadded⟩
  have hasked : [] ++ ps = [] → (requests n f.1 (fun i => f.2 (i + 1))).1 = [] := by
    intro hnil
    rw [List.nil_append] at hnil
    rw [hnil] at hps
    exact List.forall₂_nil_left_iff.mp hps
  refine Triple.ite _ (fun hne => ?_) (fun hzero => ?_)
  · -- taken in, and answered with a setup
    have hoff := not_not.mp (mt hadded.mpr hne)
    refine Triple.bind (Q := fun _ => Sys.At _ ([] ++ ps) (fun i => f.2 (i + c + 1)))
      (fun s hs => ⟨hs.node, hs.sent, hs.uninit, hs.alloc⟩) (fun pid => ?_)
    refine Triple.bind (vrr_local_rcv_setup_shows _ _ _ _ _)
      (fun _ => Triple.pure _ (fun s hs => ?_))
    refine ⟨⟨fun hsent => hasked (hs.2 hsent).1, hs.1⟩,
      fun hsent => ⟨(hs.2 hsent).2, fun hmax => ?_⟩⟩
    exact absurd hmax hoff.1
  · -- turned down, and answered with a setup_fail
    have hnot := hadded.mp (not_not.mp hzero)
    have hkeep : offered n.me n.vset skb.pkt.src (requests n f.1 (fun i => f.2 (i + 1))).2 =
        n.vset := if_neg hnot
    have hsome : n.vset.vset_size ≠ 0 := by
      by_cases hmax : skb.pkt.src = UINT_MAX
      · exact hcount hmax
      intro hnone
      refine hnot ⟨hmax, accepted_of_room ?_ (by rw [hnone]; decide) _ _⟩
      have hnil := List.eq_nil_of_length_eq_zero (Nat.le_zero.mp (hnone ▸ n.vset.length_le))
      rw [Vset.nodes, hnil]
      exact List.not_mem_nil
    rw [hkeep]
    refine Triple.bind (vrr_local_rcv_setup_fail_shows _ _ _ _ hsome)
      (fun _ => Triple.pure _ (fun s hs => ?_))
    refine ⟨⟨fun hsent => hasked (hs.2 hsent).1, hs.1.trans hkeep.symm⟩, fun hsent => ?_⟩
    exact ⟨(hs.2 hsent).2.1, fun _ => ⟨c + 1, (hs.2 hsent).2.2⟩⟩

/-- A request that goes no further is answered with packets of the node's own. -/
theorem vrr_rcv_setup_req_owned (skb : SkBuff)
    (hend : RtTable.rt_get_next_exclude n.me n.rt skb.pkt.dst skb.pkt.src = 0) :
    Triple (fun s => s.node = n ∧ Owned s) (vrr_rcv_setup_req skb) (fun _ => Owned)
      (fun _ => True) := by
  have ha := alters_owned
  unfold vrr_rcv_setup_req
  refine Triple.bind (Q := fun nh s => Owned s ∧ nh = 0) (fun s hs => ⟨hs.2, ?_⟩)
    (fun nh => Triple.of_and (fun hnh => ?_))
  · rw [hs.1]
    exact hend
  refine Preserves.ite _ (fun hne => absurd hnh hne) (fun _ => ?_)
  refine Preserves.bind (ha.draws.read_u32 _ _) (fun proxy => ?_)
  refine Preserves.bind (ha.draws.read_u32 _ _) (fun size => ?_)
  refine ha.draws.received_vset _ _ _ _ _ (fun s hs => hs) (fun _ vset => ?_)
  refine Preserves.bind ha.vset_get_all (fun ovset => Preserves.bind (ha.vrr_add trivial _ _)
    (fun added => Preserves.ite _ (fun _ => ?_) (fun _ => ?_)))
  · exact Preserves.bind ha.random (fun pid => Preserves.then_pure
      (ha.vrr_local_rcv_setup trivial trivial rt_add_route_owned _ _ _ _ _) 0)
  · exact Preserves.then_pure (ha.vrr_local_rcv_setup_fail trivial trivial _ _ _ _) 0

end Runs

end Vrr

/-- With ones behind the entries, what may be asked for is. -/
theorem unasked_of_requests (n : Node) (ids : List U32)
    (h : (requests n ids (fun _ _ => UINT_MAX)).1 = []) :
    pset_active n.pset = [] ∨ ∀ id ∈ ids, Unwanted n id := by
  by_cases hidle : pset_active n.pset = []
  · exact Or.inl hidle
  refine Or.inr ?_
  induction ids with
  | nil => exact fun id hid => absurd hid List.not_mem_nil
  | cons x ids ih =>
      unfold requests at h
      split_ifs at h with hshould
      intro id hid
      rcases List.mem_cons.mp hid with rfl | hid
      · exact Bool.eq_false_iff.mpr hshould
      · exact ih h id hid

/-- Ids that no content of memory has asked for. In place of an array that is
    missing there may be any. -/
theorem unasked_of_fields (n : Node) (p : Packet) (offset size c : Nat)
    (hfit : size = 0 → (words p offset size).isSome = true)
    (h : ∀ g, (requests n (fields p offset size g).1
      (fun i => (fields p offset size g).2 (i + c))).1 = []) : Unasked n (words p offset size) := by
  unfold fields at h
  cases hw : words p offset size with
  | some ws =>
      simp only [hw] at h
      exact (unasked_of_requests n ws (h (fun _ _ => UINT_MAX))).imp_right
        (fun hall id hid => hall id (hid ws rfl))
  | none =>
      simp only [hw] at h hfit
      by_cases hidle : pset_active n.pset = []
      · exact Or.inl hidle
      refine Or.inr (fun id _ => ?_)
      have hids := h (fun i _ => if i = 0 then htonl id else UINT_MAX)
      have hpos : 0 < size := Nat.pos_of_ne_zero (fun h0 => absurd (hfit h0) (by decide))
      refine (unasked_of_requests n _ hids).resolve_left hidle id ?_
      exact List.mem_map.mpr ⟨0, List.mem_range.mpr hpos, ntohl_htonl id⟩

/-- A source that no content of memory makes a difference for. -/
theorem weighed_of_offered (n : Node) (src : U32)
    (h : ∀ g g', offered n.me n.vset src g = offered n.me n.vset src g') : Weighed n src := by
  by_cases hmax : src = UINT_MAX
  · exact Or.inl hmax
  refine Or.inr ?_
  by_cases hno : Unwanted n src
  · exact Or.inl hno
  have hones := Bool.not_eq_false _ ▸ hno
  have habs : src ∉ n.vset.nodes := by
    intro hmem
    rw [vset_should_add, if_pos hmem] at hones
    exact Bool.false_ne_true hones
  have hwanted : Wanted n src := by
    -- zeros, and ones: an entry more is counted
    by_contra hzeros
    have hset := h (fun _ _ => 0) (fun _ _ => UINT_MAX)
    unfold offered at hset
    rw [if_neg (fun hacc => hzeros hacc.2), if_pos ⟨hmax, hones⟩] at hset
    have hcount := vset_add_counts n.me n.vset src 0 (fun _ => UINT_MAX) (fun _ => UINT_MAX) habs
    rw [← hset] at hcount
    exact absurd hcount (Nat.ne_of_lt (Nat.lt_succ_self _))
  refine Or.inr ⟨hwanted, ?_⟩
  -- the two distances that the eviction looks for, drawn third and fourth
  by_contra hseat
  have hsets := vset_add_unseated n.me n.vset src 0 habs hseat
  have hacc := (accepted_iff_wanted n src).mpr hwanted
  have hadds : ∀ g, offered n.me n.vset src g =
      (vset_add n.me n.vset src 0 (g 2) (g 3)).2.2 := fun _ => if_pos ⟨hmax, hacc _ _⟩
  have hset := h (fun i _ => if i = 2 then diff_left n.me src else diff_right n.me src)
    (fun i _ => if i = 2 then diff_left n.me src + 1 else diff_right n.me src)
  rw [hadds, hadds] at hset
  exact hsets.1 ((congrArg Vset.nodes hset).symm ▸ hsets.2)

/-- How far the ids of a vset move along unwritten memory, if none is asked for. -/
theorem requests_fields_shift (n : Node) (p : Packet) (offset size c : Nat)
    (h : Unasked n (words p offset size)) : ∃ d, ∀ g, (requests n (fields p offset size g).1
      (fun i => (fields p offset size g).2 (i + c))).2 = fun i => g (i + d) := by
  unfold fields
  cases hw : words p offset size with
  | some ws =>
      refine ⟨2 * ws.length + c, fun g => ?_⟩
      rw [hw] at h
      have hun := h.imp_right fun hall id hid => hall id (fun l hl => Option.some.inj hl ▸ hid)
      simp only [requests_unwanted n ws _ hun, Nat.add_assoc]
  | none =>
      refine ⟨2 * size + c + 1, fun g => ?_⟩
      rw [hw] at h
      have hun := h.imp_right fun hall id
          (_ : id ∈ (List.range size).map (fun i => ntohl (g 0 i))) =>
        hall id (fun l hl => by cases hl)
      simp only [requests_unwanted n _ _ hun, List.length_map, List.length_range, Nat.add_assoc]

theorem weighed_of_fields (n : Node) (src : U32) (p : Packet) (offset size c : Nat)
    (hun : Unasked n (words p offset size))
    (h : ∀ g g', offered n.me n.vset src (requests n (fields p offset size g).1
        (fun i => (fields p offset size g).2 (i + c))).2 =
      offered n.me n.vset src (requests n (fields p offset size g').1
        (fun i => (fields p offset size g').2 (i + c))).2) : Weighed n src := by
  obtain ⟨d, hd⟩ := requests_fields_shift n p offset size c hun
  refine weighed_of_offered n src (fun g g' => ?_)
  have hset := h (fun i => g (i - d)) (fun i => g' (i - d))
  simp only [hd, Nat.add_sub_cancel] at hset
  exact hset

/-- The four allocations of a route are granted as `alloc` says, and later ones
    are. -/
def route_grants (alloc : RtAlloc) : Nat → Bool
  | 0 => alloc.ea_node
  | 1 => alloc.ea_route
  | 2 => alloc.eb_node
  | 3 => alloc.eb_route
  | _ + 4 => true

/-- So many allocations are granted, and then it goes on with `m`. -/
def granted (m : Nat → Bool) : Nat → Nat → Bool
  | 0 => m
  | c + 1 => fun i => match i with
      | 0 => true
      | i + 1 => granted m c i

/-- How many allocations a buffer takes. -/
def kmallocs (size : Nat) : Nat := if size = 0 then 0 else 1

/-- A state with this node, in which nothing was sent, with these allocations
    ahead and this path id. -/
structure Sys.Rationed (n : Node) (m : Nat → Bool) (rb : RbInsertColor) (pid : U32) (s : Sys) :
    Prop where
  node : s.node = n
  sent : s.sent = []
  kmalloc : s.kern.kmalloc = m
  rb_insert_color : s.kern.rb_insert_color = rb
  random : s.kern.random 0 = pid

namespace Vrr

section Rations

variable {n : Node} {m : Nat → Bool} {rb : RbInsertColor} {pid : U32} {c : Nat}

/-- What only looks at the node. -/
theorem reads_rationed {α : Type} {x : Vrr α} (f : Node → α)
    (hx : ∀ s, x s = .ok (f s.node, s)) :
    Triple (Sys.Rationed n m rb pid) x (fun a s => s.Rationed n m rb pid ∧ a = f n)
      (fun _ => False) :=
  Triple.reads _ hx (fun s hs => ⟨hs, by rw [hs.node]⟩)

theorem me_rationed : Triple (Sys.Rationed n m rb pid) node
    (fun me s => s.Rationed n m rb pid ∧ me = n) (fun _ => False) :=
  reads_rationed (fun n => n) (fun _ => rfl)

theorem kmalloc_rationed (size : Nat) :
    Triple (Sys.Rationed n (granted m (c + kmallocs size)) rb pid) (kmalloc size)
      (fun ok s => s.Rationed n (granted m c) rb pid ∧ ok = true) (fun _ => False) := by
  unfold kmalloc kmallocs
  by_cases hsize : size = 0
  · rw [if_pos hsize, if_pos hsize]
    exact Triple.pure _ (fun s hs => ⟨hs, rfl⟩)
  · rw [if_neg hsize, if_neg hsize]
    intro s hs
    refine ⟨⟨hs.node, hs.sent, ?_, hs.rb_insert_color, hs.random⟩, ?_⟩
    · change (fun i => s.kern.kmalloc (i + 1)) = _
      rw [hs.kmalloc]
      rfl
    · change s.kern.kmalloc 0 = true
      rw [hs.kmalloc]
      rfl

theorem rt_add_route_rationed (alloc : RtAlloc) (ea eb na nb path_id : U32) :
    Triple (Sys.Rationed n (route_grants alloc) rb pid) (rt_add_route ea eb na nb path_id)
      (fun ok s => (∃ g, s.At
        { n with rt := (n.rt.rt_add_route rb alloc ea eb na nb path_id).2 } [] g) ∧
        ok = (n.rt.rt_add_route rb alloc ea eb na nb path_id).1) (fun _ => False) := by
  have halloc : Triple (Sys.Rationed n (route_grants alloc) rb pid) rt_alloc
      (fun a s => s.Rationed n (fun _ => true) rb pid ∧ a = alloc) (fun _ => False) := by
    intro s hs
    refine ⟨⟨hs.node, hs.sent, ?_, hs.rb_insert_color, hs.random⟩, ?_⟩
    · change (fun i => s.kern.kmalloc (i + 4)) = _
      rw [hs.kmalloc]
      rfl
    · change RtAlloc.mk (s.kern.kmalloc 0) (s.kern.kmalloc 1) (s.kern.kmalloc 2)
        (s.kern.kmalloc 3) = alloc
      rw [hs.kmalloc]
      rfl
  unfold rt_add_route
  refine Triple.bind halloc (fun a => Triple.of_and (fun ha => ?_))
  rw [ha]
  intro s hs
  refine ⟨⟨s.kern.uninit, ?_, hs.sent, rfl, fun i => congrFun hs.kmalloc i⟩, ?_⟩
  · rw [← hs.node, ← hs.rb_insert_color]
  · rw [← hs.node, ← hs.rb_insert_color]

/-- A route that cannot be filed is torn down. -/
theorem unfiled_shows {alloc : RtAlloc} {ea eb na nb path_id : U32}
    (h : (n.rt.rt_add_route rb alloc ea eb na nb path_id).1 = false) (x : Vrr Int) :
    Triple (Sys.Rationed n (route_grants alloc) rb pid)
      (do
        let added ← rt_add_route ea eb na nb path_id
        if added then x
        else do
          let _ ← tear_down_path path_id ea null
          pure 0)
      (fun _ s => s.sent = [] →
        Untold { n with rt := (n.rt.rt_add_route rb alloc ea eb na nb path_id).2 } ea path_id)
      (fun _ => False) := by
  refine Triple.bind (rt_add_route_rationed _ _ _ _ _ _) (fun ok => Triple.of_and (fun hok => ?_))
  rw [hok, h]
  refine Triple.of_exists (fun g => Triple.ite _ (fun hf => absurd hf Bool.false_ne_true)
    (fun _ => ?_))
  refine Triple.bind (tear_down_path_sends _ _ _) (fun _ => Triple.pure _ (fun s hs hnil => ?_))
  rcases hs with ⟨_, ps, hsent, _, hnone⟩
  rw [hnil, List.nil_append] at hsent
  intro route hroute
  have htold := hnone.mp hsent.symm route hroute
  exact ⟨htold.1, htold.2.1⟩

/-- A setup from a neighbour whose route cannot be filed. -/
theorem vrr_rcv_setup_unfiled (skb : SkBuff) {alloc : RtAlloc} {sender path_id proxy : U32}
    (hsender : sender_of n skb = some sender) (hpid : word skb.pkt vrr_header_size = some path_id)
    (hproxy : word skb.pkt (vrr_header_size + 4) = some proxy)
    (h : (n.rt.rt_add_route rb alloc skb.pkt.src skb.pkt.dst sender
      (setup_hop n skb.pkt.dst proxy) path_id).1 = false) :
    Triple (Sys.Rationed n (route_grants alloc) rb pid) (vrr_rcv_setup skb)
      (fun _ s => s.sent = [] → Untold { n with rt := (n.rt.rt_add_route rb alloc skb.pkt.src
        skb.pkt.dst sender (setup_hop n skb.pkt.dst proxy) path_id).2 } skb.pkt.src path_id)
      (fun _ => False) := by
  unfold vrr_rcv_setup
  unfold sender_of at hsender
  refine Triple.bind me_rationed (fun me => Triple.of_and (fun hme => ?_))
  rw [read_u32_of_word hpid, read_u32_of_word hproxy, hme, hsender]
  refine Triple.pure_bind _ (Triple.pure_bind _ ?_)
  refine Triple.bind (reads_rationed (fun n => setup_hop n skb.pkt.dst proxy)
    (setup_next_hop_run _ _)) (fun nh => Triple.of_and (fun hnh => ?_))
  rw [hnh]
  exact unfiled_shows h _

theorem read_array_rationed (p : Packet) (offset size : Nat) :
    Triple (Sys.Rationed n m rb pid) (read_array p offset size)
      (fun ids s => s.Rationed n m rb pid ∧ ∃ g, ids = (fields p offset size g).1)
      (fun _ => False) := by
  unfold read_array fields
  cases words p offset size with
  | some ws => exact Triple.pure _ (fun s hs => ⟨hs, fun _ _ => 0, rfl⟩)
  | none =>
      intro s hs
      exact ⟨⟨hs.node, hs.sent, hs.kmalloc, hs.rb_insert_color, hs.random⟩, s.kern.uninit, rfl⟩

theorem vset_get_all_rationed :
    Triple (Sys.Rationed n (granted m (c + kmallocs (4 * n.vset.vset_size))) rb pid) vset_get_all
      (fun _ => Sys.Rationed n (granted m c) rb pid) (fun _ => False) := by
  unfold vset_get_all
  refine Triple.bind me_rationed (fun me => Triple.of_and (fun hme => ?_))
  rw [hme]
  refine Triple.bind (kmalloc_rationed _) (fun all => Triple.of_and (fun hall => ?_))
  rw [hall]
  exact Triple.bind (Q := fun _ => Sys.Rationed n (granted m c) rb pid)
    (fun s hs => ⟨hs.node, hs.sent, hs.kmalloc, hs.rb_insert_color, hs.random⟩)
    (fun g => Triple.pure _ (fun s hs => hs))

/-- Of ids that are not wanted none is asked for, and a source that is wanted is
    taken in. -/
theorem vrr_add_rationed (src : U32) (ids : List U32) (hmax : src ≠ UINT_MAX)
    (hids : pset_active n.pset = [] ∨ ∀ id ∈ ids, Unwanted n id) (hsrc : Wanted n src) :
    Triple (Sys.Rationed n (granted m (c + 1)) rb pid) (vrr_add src ids)
      (fun ret s => (∃ v, s.Rationed { n with vset := v } (granted m c) rb pid) ∧ ret ≠ 0)
      (fun _ => False) := by
  have hrefill : ∀ (s : Sys) (g : Nat → Garbage) (m : Nat → Bool), s.Rationed n m rb pid →
      (s.refill g).Rationed n m rb pid :=
    fun s g m hs => ⟨hs.node, hs.sent, hs.kmalloc, hs.rb_insert_color, hs.random⟩
  have habs : src ∉ n.vset.nodes := by
    intro hmem
    unfold Wanted AlpacaVrr.vset_should_add at hsrc
    rw [if_pos hmem] at hsrc
    exact Bool.false_ne_true hsrc
  have hadds : Triple (Sys.Rationed n (granted m (c + 1)) rb pid) (vset_should_add src)
      (fun should s => s.Rationed n (granted m (c + 1)) rb pid ∧ should = true)
      (fun _ => False) := by
    intro s hs
    refine ⟨hrefill s _ _ hs, ?_⟩
    rw [← (accepted_iff_wanted n src).mpr hsrc (s.kern.uninit 0) (s.kern.uninit 1), ← hs.node]
  unfold vrr_add
  refine Triple.bind (Q := fun _ => Sys.Rationed n (granted m (c + 1)) rb pid) (fun s hs => ?_)
    (fun _ => Triple.ite _ (fun h => absurd h hmax) (fun _ => ?_))
  · have hrun := (vrr_add_requests_unasked s ids (by rw [hs.node]; exact hids)).post
      (R := fun _ => Sys.Rationed n (granted m (c + 1)) rb pid) (fun _ t ht => ?_)
    · exact hrun s rfl
    · rcases ht with ⟨g, rfl⟩
      exact hrefill s g _ hs
  refine Triple.bind hadds (fun should => Triple.of_and (fun hshould => ?_))
  rw [hshould]
  refine Triple.ite _ (fun _ => ?_) (fun h => absurd rfl h)
  refine Triple.bind (Q := fun _ s => ∃ v, s.Rationed { n with vset := v } (granted m c) rb pid) ?_
    (fun _ => Triple.pure _ (fun s hs => ⟨hs, by decide⟩))
  unfold vset_add
  refine Triple.bind me_rationed (fun me => Triple.of_and (fun hme => ?_))
  rw [hme, if_neg habs]
  refine Triple.bind (kmalloc_rationed (m := m) (c := c) 1)
    (fun tmp => Triple.of_and (fun htmp => ?_))
  rw [htmp]
  refine Triple.ite _ (fun _ => ?_) (fun h => absurd rfl h)
  have huninit : Triple (Sys.Rationed n (granted m c) rb pid) uninit
      (fun _ => Sys.Rationed n (granted m c) rb pid) (fun _ => False) :=
    fun s hs => hrefill s _ _ hs
  refine Triple.bind huninit (fun left => Triple.bind huninit (fun right => ?_))
  refine Triple.bind (Triple.modify _ (fun s hs =>
    ⟨(AlpacaVrr.vset_add n.me n.vset src 0 left right).2.2, ?_, hs.sent, hs.kmalloc,
      hs.rb_insert_color, hs.random⟩)) (fun _ => Triple.pure _ (fun s hs => hs))
  rw [← hs.node]

/-- A request that is answered, with a route that cannot be filed. -/
theorem vrr_rcv_setup_req_unfiled (skb : SkBuff) {alloc : RtAlloc} {proxy size : U32}
    (hend : RtTable.rt_get_next_exclude n.me n.rt skb.pkt.dst skb.pkt.src = 0)
    (hproxy : word skb.pkt vrr_header_size = some proxy)
    (hsize : word skb.pkt (vrr_header_size + 4) = some size)
    (hle : size.toNat ≤ VRR_VSET_SIZE) (hmax : skb.pkt.src ≠ UINT_MAX)
    (hun : Unasked n (words skb.pkt (vrr_header_size + 8) size.toNat))
    (hsrc : Wanted n skb.pkt.src)
    (h : (n.rt.rt_add_route rb alloc n.me skb.pkt.src n.me (hop_via n skb.pkt.src proxy) pid).1 =
      false) :
    Triple (Sys.Rationed n (granted (route_grants alloc)
        (0 + 1 + kmallocs (4 * n.vset.vset_size) + kmallocs (4 * size.toNat))) rb pid)
      (vrr_rcv_setup_req skb)
      (fun _ s => s.sent = [] → Untold { n with rt := (n.rt.rt_add_route rb alloc n.me skb.pkt.src
        n.me (hop_via n skb.pkt.src proxy) pid).2 } n.me pid)
      (fun _ => False) := by
  have hids : ∀ g, pset_active n.pset = [] ∨
      ∀ id ∈ (fields skb.pkt (vrr_header_size + 8) size.toNat g).1, Unwanted n id := by
    intro g
    refine hun.imp_right fun hall id hid => hall id (fun l hl => ?_)
    unfold fields at hid
    rw [hl] at hid
    exact hid
  unfold vrr_rcv_setup_req
  refine Triple.bind (reads_rationed
    (fun n => RtTable.rt_get_next_exclude n.me n.rt skb.pkt.dst skb.pkt.src) (fun _ => rfl))
    (fun nh => Triple.of_and (fun hnh => ?_))
  refine Triple.ite _ (fun hne => absurd (hnh.trans hend) hne) (fun _ => ?_)
  rw [read_u32_of_word hproxy, read_u32_of_word hsize]
  refine Triple.pure_bind _ (Triple.pure_bind _ ?_)
  refine Triple.ite _ (fun hlt => absurd hle (Nat.not_le_of_lt hlt)) (fun _ => ?_)
  refine Triple.bind (kmalloc_rationed _) (fun vset => Triple.of_and (fun hvset => ?_))
  rw [hvset]
  refine Triple.ite _ (fun _ => ?_) (fun hf => absurd rfl hf)
  refine Triple.bind (read_array_rationed _ _ _) (fun ids => Triple.of_and (fun hread => ?_))
  rcases hread with ⟨g, rfl⟩
  refine Triple.bind vset_get_all_rationed (fun all => ?_)
  refine Triple.bind (vrr_add_rationed _ _ hmax (hids g) hsrc)
    (fun ret => Triple.of_and (fun hret => ?_))
  refine Triple.of_exists (fun v => Triple.ite _ (fun _ => ?_) (fun hzero => absurd hret hzero))
  -- the path id is drawn, and the route is filed under it
  refine Triple.bind (Q := fun path_id s => (∃ pid',
    s.Rationed { n with vset := v } (route_grants alloc) rb pid') ∧ path_id = pid)
    (fun s hs => ⟨⟨_, hs.node, hs.sent, hs.kmalloc, hs.rb_insert_color, rfl⟩, hs.random⟩)
    (fun path_id => Triple.of_and (fun hpid => Triple.of_exists (fun pid' => ?_)))
  rw [hpid]
  refine Triple.bind ?_ (fun _ => Triple.pure 0 (fun _ hs => hs))
  unfold vrr_local_rcv_setup
  refine Triple.bind me_rationed (fun me => Triple.of_and (fun hme => ?_))
  rw [hme]
  refine Triple.bind (reads_rationed (fun n => hop_via n skb.pkt.src proxy)
    (next_hop_via_run _ _)) (fun nh => Triple.of_and (fun hnh => ?_))
  rw [hnh]
  -- the virtual set has no part in it
  exact (unfiled_shows (n := { n with vset := v }) h _).post (fun _ _ hs => hs)

end Rations

end Vrr

section Alike

variable {n : Node} {skb : SkBuff} (hind : Indifferent n skb)
  (hty : skb.pkt.vh.pkt_type < VRR_NPTYPES)
  (hown : Triple (fun s => s.node = heard n skb.pkt.src ∧ Owned s) (Vrr.vrr_rcvfunc skb)
    (fun _ => Owned) (fun _ => True))

include hind hty hown

/-- With all allocations granted. -/
theorem Indifferent.silent_at {R : Sys → Prop} (g : Nat → Garbage)
    (h : Triple (Sys.At (heard n skb.pkt.src) [] g) (Vrr.vrr_rcvfunc skb) (fun _ => R)
      (fun _ => False)) : ∃ s, R s ∧ s.sent = [] := by
  have hpre : ∀ s, s = Sys.boot (heard n skb.pkt.src) { Kernel.calm with uninit := g } →
      s.At (heard n skb.pkt.src) [] g := by
    rintro s rfl
    exact ⟨rfl, rfl, rfl, fun _ => rfl⟩
  rcases hind.silent hty hown _ (h.pre hpre) with ⟨_, s, hs, hsent⟩
  exact ⟨s, hs, hsent⟩

/-- With allocations that are granted as `m` says. -/
theorem Indifferent.silent_rationed {R : Sys → Prop} (m : Nat → Bool) (rb : RbInsertColor)
    (pid : U32) (h : Triple (Sys.Rationed (heard n skb.pkt.src) m rb pid) (Vrr.vrr_rcvfunc skb)
      (fun _ => R) (fun _ => False)) : ∃ s, R s ∧ s.sent = [] := by
  have hpre : ∀ s, s = Sys.boot (heard n skb.pkt.src) { Kernel.calm with
      kmalloc := m
      rb_insert_color := rb
      random := fun _ => pid } → s.Rationed (heard n skb.pkt.src) m rb pid := by
    rintro s rfl
    exact ⟨rfl, rfl, rfl, rfl, rfl⟩
  rcases hind.silent hty hown _ (h.pre hpre) with ⟨_, s, hs, hsent⟩
  exact ⟨s, hs, hsent⟩

/-- What is weighed is not asked for, and the source has one outcome. -/
theorem Indifferent.weighed {m : Node} {src : U32} {offset size : Nat} (c : Nat)
    (hfit : size = 0 → (words skb.pkt offset size).isSome = true)
    (h : ∀ g, Triple (Sys.At (heard n skb.pkt.src) [] g) (Vrr.vrr_rcvfunc skb)
      (fun _ => Weighs m src (fields skb.pkt offset size g).1
        (fun i => (fields skb.pkt offset size g).2 (i + c))) (fun _ => False)) :
    Unasked m (words skb.pkt offset size) ∧ Weighed m src := by
  have hun : Unasked m (words skb.pkt offset size) := by
    refine unasked_of_fields m skb.pkt offset size c hfit (fun g => ?_)
    rcases hind.silent_at hty hown g (h g) with ⟨s, hs, hsent⟩
    exact hs.1 hsent
  refine ⟨hun, weighed_of_fields m src skb.pkt offset size c hun (fun g g' => ?_)⟩
  rcases hind.both hty g g' (h g) (h g').lax with ⟨_, s, _, s', hs, hs', _, hnode⟩
  rw [← hs.2, ← hs'.2, hnode]

end Alike

/-- The first word of a teardown can be made any that it may be read as, with
    memory behind it that reads as another one. -/
theorem field_ea (p : Packet) (ea : U32) (h : Readable p vrr_header_size ea) (pid : U32) :
    ∃ g, field p vrr_header_size g = (ea, filled pid) := by
  unfold field
  cases hw : word p vrr_header_size with
  | some w => exact ⟨filled pid, by rw [h w hw]⟩
  | none =>
      refine ⟨fun i _ => if i = 0 then htonl ea else htonl pid, ?_⟩
      simp only [if_true, ntohl_htonl, Nat.succ_ne_zero, if_false]
      rfl

/-- What is taken out leaves the others. -/
theorem filter_eraseP (l : List RtEntry) (p q : RtEntry → Bool)
    (h : ∀ x, q x = true → p x = false) : (l.eraseP q).filter p = l.filter p := by
  induction l with
  | nil => rfl
  | cons x l ih =>
      by_cases hq : q x = true
      · rw [List.eraseP_cons_of_pos hq, List.filter_cons, h x hq]
        rfl
      · rw [List.eraseP_cons_of_neg hq, List.filter_cons, List.filter_cons, ih]

/-- A removal that comes to the same as that of another path finds nothing. -/
theorem rt_remove_route_determined (t : RtTable) (ea pid pid' : U32) (hne : pid' ≠ pid)
    (h : (t.rt_remove_route ea pid).2 = (t.rt_remove_route ea pid').2) :
    (t.rt_remove_route ea pid).1 = none := by
  have htail := RtTable.path_routes_remove t ea pid
  rw [h, RtTable.routes_remove, if_pos rfl, filter_eraseP _ _ _ (fun x hx => ?_)] at htail
  · -- a list that is its own tail is empty
    have hlen := congrArg List.length htail
    rw [List.length_tail] at hlen
    rw [RtTable.route_remove, ← List.head?_filter]
    cases hl : (t.routes ea).filter (fun tmp => tmp.path_id == pid) with
    | nil => rfl
    | cons r rest =>
        rw [hl, List.length_cons] at hlen
        omega
  · rw [beq_iff_eq] at hx
    rw [beq_eq_false_iff_ne, hx]
    exact hne

/-- The words behind a size that is there, if it is zero. -/
theorem no_words_there (p : Packet) (offset : Nat) (size : U32)
    (h : word p offset = some size) : ∀ k, k = 0 → (words p (offset + 4) k).isSome = true := by
  rintro k rfl
  rw [words_isSome_iff, Nat.zero_mul, Nat.add_zero, ← word_isSome_iff, h]
  rfl

theorem mute_setup_fail_of_indifferent (n : Node) (skb : SkBuff)
    (hty : skb.pkt.vh.pkt_type = VRR_SETUP_FAIL) (hind : Indifferent n skb) :
    MuteSetupFail (heard n skb.pkt.src) skb.pkt := by
  have hlt : skb.pkt.vh.pkt_type < VRR_NPTYPES := by
    rw [hty]
    decide
  have hfunc := Vrr.vrr_rcvfunc_setup_fail skb hty
  have hown : Triple (fun s => s.node = heard n skb.pkt.src ∧ Owned s) (Vrr.vrr_rcvfunc skb)
      (fun _ => Owned) (fun _ => True) := by
    rw [hfunc]
    exact (alters_owned.vrr_rcv_setup_fail trivial trivial skb).pre (fun _ hs => hs.2)
  cases hsize : word skb.pkt (vrr_header_size + 4) with
  | none => exact absurd hind (not_indifferent_of_cut_short n skb (.setup_fail hty hsize))
  | some size =>
      rcases Vrr.word_there skb.pkt vrr_header_size _ (by omega) size hsize with ⟨proxy, hproxy⟩
      refine ⟨proxy, size, hproxy, hsize, fun hle => ?_⟩
      have hshows := fun g => Vrr.vrr_rcv_setup_fail_shows (n := heard n skb.pkt.src) (g := g) skb
        hproxy hsize hle
      rw [← hfunc] at hshows
      by_cases hhop : hop_via (heard n skb.pkt.src) skb.pkt.dst proxy = 0
      · rw [if_neg (not_not_intro hhop)]
        intro hdst
        exact (hind.weighed hlt hown 0 (no_words_there _ _ size hsize _)
          (fun g => (hshows g).post (fun _ s hs => hs.2 hhop hdst))).1
      · rw [if_pos hhop]
        rcases hind.silent_at hlt hown (filled 0) (hshows _) with ⟨s, hs, hsent⟩
        exact hs.1 hhop hsent

theorem mute_setup_of_indifferent (n : Node) (skb : SkBuff)
    (hty : skb.pkt.vh.pkt_type = VRR_SETUP) (hind : Indifferent n skb) :
    MuteSetup (heard n skb.pkt.src) skb := by
  have hlt : skb.pkt.vh.pkt_type < VRR_NPTYPES := by
    rw [hty]
    decide
  have hfunc := Vrr.vrr_rcvfunc_setup skb hty
  have hown : Triple (fun s => s.node = heard n skb.pkt.src ∧ Owned s) (Vrr.vrr_rcvfunc skb)
      (fun _ => Owned) (fun _ => True) := by
    rw [hfunc]
    exact (alters_owned.vrr_rcv_setup_torn trivial trivial
      (fun _ _ => alters_owned.tear_down_path trivial _ _ _) rt_add_route_owned
      (Preserves.modify _ (fun _ hs => hs)) skb).pre (fun _ hs => hs.2)
  unfold MuteSetup
  cases hs : sender_of (heard n skb.pkt.src) skb with
  | none =>
      have hlost := fun (g : Nat → Garbage) (pid : U32) g1
          (hpid : field skb.pkt vrr_header_size g = (pid, g1)) =>
        Vrr.vrr_rcv_setup_lost skb hs hpid
      rw [← hfunc] at hlost
      cases hword : word skb.pkt vrr_header_size with
      | some pid =>
          refine Or.inl ⟨pid, rfl, ?_⟩
          have hfield : field skb.pkt vrr_header_size (filled 0) = (pid, filled 0) := by
            unfold field
            rw [hword]
          rcases hind.silent_at hlt hown (filled 0) (hlost _ _ _ hfield) with ⟨s, hs, hsent⟩
          exact hs.2 hsent
      | none =>
          -- memory has the one path torn down, or another one
          refine Or.inr (fun pid => ?_)
          have hfield : ∀ w, field skb.pkt vrr_header_size (filled w) = (w, filled w) := by
            intro w
            unfold field
            rw [hword]
            exact congrArg (Prod.mk · _) (ntohl_htonl w)
          rcases hind.both hlt (filled pid) (filled (pid + 1)) (hlost _ _ _ (hfield pid))
            (hlost _ _ _ (hfield (pid + 1))).lax with ⟨_, s, _, s', hs, hs', _, hnode⟩
          refine rt_remove_route_determined _ _ _ _ (by bv_omega : pid + 1 ≠ pid) ?_
          rw [← hs.1, ← hs'.1, hnode]
  | some sender =>
      cases hsize : word skb.pkt (vrr_header_size + 8) with
      | none => exact absurd hind (not_indifferent_of_cut_short n skb (.setup sender hty hs hsize))
      | some size =>
          rcases Vrr.word_there skb.pkt vrr_header_size _ (by omega) size hsize with ⟨pid, hpid⟩
          rcases Vrr.word_there skb.pkt (vrr_header_size + 4) _ (by omega) size hsize
            with ⟨proxy, hproxy⟩
          refine ⟨pid, proxy, size, hpid, hproxy, rfl, fun rb alloc hfails => ?_, fun hle => ?_⟩
          · have hrun : Triple (Sys.Rationed _ (route_grants alloc) rb 0)
                (Vrr.vrr_rcv_setup skb) _ _ :=
              Vrr.vrr_rcv_setup_unfiled skb hs hpid hproxy hfails
            rw [← hfunc] at hrun
            rcases hind.silent_rationed hlt hown _ rb 0 hrun with ⟨s, hs, hsent⟩
            exact hs hsent
          have hshows := fun g => Vrr.vrr_rcv_setup_shows (g := g) skb hs hpid hproxy hsize hle
          rw [← hfunc] at hshows
          by_cases hhop : setup_hop (heard n skb.pkt.src) skb.pkt.dst proxy = 0
          · rw [if_neg (not_not_intro hhop)]
            exact hind.weighed hlt hown 0 (no_words_there _ _ size hsize _)
              (fun g => (hshows g).post (fun _ s hs => hs.2 hhop))
          · rw [if_pos hhop]
            rcases hind.silent_at hlt hown (filled 0) (hshows _) with ⟨s, hs, hsent⟩
            exact hs.1 hhop hsent

theorem mute_teardown_of_indifferent (n : Node) (skb : SkBuff)
    (hty : skb.pkt.vh.pkt_type = VRR_TEARDOWN) (hind : Indifferent n skb) :
    MuteTeardown (heard n skb.pkt.src) skb.pkt := by
  have hlt : skb.pkt.vh.pkt_type < VRR_NPTYPES := by
    rw [hty]
    decide
  have hfunc := Vrr.vrr_rcvfunc_teardown skb hty
  have hown : Triple (fun s => s.node = heard n skb.pkt.src ∧ Owned s) (Vrr.vrr_rcvfunc skb)
      (fun _ => Owned) (fun _ => True) := by
    rw [hfunc]
    exact (alters_owned.vrr_rcv_teardown trivial trivial skb).pre (fun _ hs => hs.2)
  cases hpid : word skb.pkt (vrr_header_size + 4) with
  | none =>
      -- memory has the one path removed, or another one
      refine Or.inl (fun ea pid hea _ => ?_)
      obtain ⟨g, hg⟩ := field_ea skb.pkt ea hea pid
      obtain ⟨g', hg'⟩ := field_ea skb.pkt ea hea (pid + 1)
      have hmissing : ∀ (offset : Nat) (w : U32), word skb.pkt offset = none →
          field skb.pkt offset (filled w) = (w, filled w) := by
        intro offset w hw
        unfold field
        rw [hw]
        exact congrArg (Prod.mk · _) (ntohl_htonl w)
      have hend : word skb.pkt (vrr_header_size + 8) = none := by
        cases hword : word skb.pkt (vrr_header_size + 8) with
        | none => rfl
        | some w =>
            rcases Vrr.word_there skb.pkt (vrr_header_size + 4) _ (by omega) w hword with ⟨w', hw'⟩
            rw [hpid] at hw'
            cases hw'
      have hremoves := fun w g (hg : field skb.pkt vrr_header_size g = (ea, filled w)) =>
        Vrr.vrr_rcv_teardown_removes (n := heard n skb.pkt.src) skb hg (hmissing _ w hpid)
          (hmissing _ w hend)
      rw [← hfunc] at hremoves
      by_contra hfound
      rcases hind.both hlt g g' ((hremoves pid g hg).conseq (fun _ hs => hs) (fun _ _ hs => hs)
        (fun _ hnone => hfound hnone)) (hremoves (pid + 1) g' hg').lax
        with ⟨_, s, _, s', hs, hs', _, hnode⟩
      refine hfound (rt_remove_route_determined _ _ _ _ (by bv_omega : pid + 1 ≠ pid) ?_)
      rw [← hs, ← hs', hnode]
  | some pid =>
      rcases Vrr.word_there skb.pkt vrr_header_size _ (by omega) pid hpid with ⟨ea, hea⟩
      cases hroute : ((heard n skb.pkt.src).rt.rt_remove_route ea pid).1 with
      | none =>
          refine Or.inl (fun a b ha hb => ?_)
          rw [← ha ea hea, ← hb pid hpid]
          exact hroute
      | some route =>
          cases hsize : word skb.pkt (vrr_header_size + 8) with
          | none =>
              exact absurd hind (not_indifferent_of_cut_short n skb
                (.teardown ea pid route hty hea hpid hroute hsize))
          | some size =>
              refine Or.inr ⟨ea, pid, route, size, hea, hpid, hroute, hsize, fun hle => ?_⟩
              have hfield : ∀ {offset : Nat} {w : U32} (g : Nat → Garbage),
                  word skb.pkt offset = some w → field skb.pkt offset g = (w, g) := by
                intro offset w g hw
                unfold field
                rw [hw]
              have hshows := fun g => Vrr.vrr_rcv_teardown_shows skb (hfield g hea)
                (hfield g hpid) (hfield g hsize) hroute
              rw [← hfunc] at hshows
              by_cases hnext : (Vrr.teardown_side route skb.pkt.src).2 = 0
              · rw [if_neg (not_not_intro hnext)]
                exact hind.weighed hlt hown 0 (no_words_there _ _ size hsize _)
                  (fun g => (hshows g).post (fun _ s hs => (hs.2 hle).2 hnext))
              · rw [if_pos hnext]
                rcases hind.silent_at hlt hown (filled 0) (hshows _) with ⟨s, hs, hsent⟩
                exact (hs.2 hle).1 hnext hsent

theorem mute_setup_req_of_indifferent (n : Node) (skb : SkBuff)
    (hty : skb.pkt.vh.pkt_type = VRR_SETUP_REQ) (hind : Indifferent n skb) :
    MuteSetupReq (heard n skb.pkt.src) skb.pkt := by
  have hlt : skb.pkt.vh.pkt_type < VRR_NPTYPES := by
    rw [hty]
    decide
  have hfunc := Vrr.vrr_rcvfunc_setup_req skb hty
  intro hend
  have hown : Triple (fun s => s.node = heard n skb.pkt.src ∧ Owned s) (Vrr.vrr_rcvfunc skb)
      (fun _ => Owned) (fun _ => True) := by
    rw [hfunc]
    exact Vrr.vrr_rcv_setup_req_owned skb hend
  cases hsize : word skb.pkt (vrr_header_size + 4) with
  | none => exact absurd hind (not_indifferent_of_cut_short n skb (.setup_req hty hend hsize))
  | some size =>
      rcases Vrr.word_there skb.pkt vrr_header_size _ (by omega) size hsize with ⟨proxy, hproxy⟩
      refine ⟨proxy, size, hproxy, rfl, fun hle => ?_⟩
      by_cases hnone : skb.pkt.src = UINT_MAX ∧ (heard n skb.pkt.src).vset.vset_size = 0
      · exact Or.inl hnone
      have hshows := fun g => Vrr.vrr_rcv_setup_req_shows (g := g) skb hend hproxy hsize hle
        (fun hmax hzero => hnone ⟨hmax, hzero⟩)
      rw [← hfunc] at hshows
      obtain ⟨hun, hweighed⟩ := hind.weighed hlt hown 1 (no_words_there _ _ size hsize _)
        (fun g => (hshows g).post (fun _ s hs => hs.1))
      rcases hind.silent_at hlt hown (fun _ _ => UINT_MAX) (hshows _) with ⟨s, hs, hsent⟩
      obtain ⟨hunreached, hself⟩ := hs.2 hsent
      refine Or.inr ⟨hun, hunreached, ?_⟩
      by_cases hmax : skb.pkt.src = UINT_MAX
      · -- ones behind the ids, too
        obtain ⟨c, hc⟩ := hself hmax
        have hones : (fields skb.pkt (vrr_header_size + 8) size.toNat (fun _ _ => UINT_MAX)).2 =
            fun _ _ => UINT_MAX := by
          unfold fields
          cases words skb.pkt (vrr_header_size + 8) size.toNat <;> rfl
        rw [hones] at hc
        refine Or.inr ⟨Or.inl hmax, (unasked_of_requests _ _ hc).imp_right fun hall id hid => ?_⟩
        exact hall id (hid _ rfl)
      rcases hweighed.resolve_left hmax with hno | ⟨hwanted, hseated⟩
      · refine Or.inr ⟨Or.inr hno, Or.inr (fun id hid => ?_)⟩
        rw [List.mem_singleton.mp (hid _ rfl)]
        exact hno
      · refine Or.inl ⟨hmax, hwanted, hseated, fun pid rb alloc hfails => ?_⟩
        have hrun := Vrr.vrr_rcv_setup_req_unfiled skb hend hproxy hsize hle hmax hun hwanted hfails
        rw [← hfunc] at hrun
        rcases hind.silent_rationed hlt hown _ rb pid hrun with ⟨s, hs, hsent⟩
        exact hs hsent

/-- A packet that is handled alike is mute. -/
theorem mute_of_indifferent (n : Node) (skb : SkBuff) (hind : Indifferent n skb) :
    Mute (heard n skb.pkt.src) skb where
  hello hty := (hello_indifferent_iff n skb hty).mp hind
  setup_req hty := mute_setup_req_of_indifferent n skb hty hind
  setup hty := mute_setup_of_indifferent n skb hty hind
  setup_fail hty := mute_setup_fail_of_indifferent n skb hty hind
  teardown hty := mute_teardown_of_indifferent n skb hty hind

end AlpacaVrr
