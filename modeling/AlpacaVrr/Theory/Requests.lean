import AlpacaVrr.Theory.TeardownNode

/-!
# What a Node Asks For

`vrr_add` to the letter, with all allocations succeeding.

The loop weighs one id after the other. Weighing draws two pieces of unwritten
memory, and a request two more, so which ids are asked for may depend on what
was drawn before. `requests` is the loop as a function of the ids and of the
unwritten memory ahead. Whatever the memory holds, the ids asked for are among
those received, and `vset_should_add` accepts each of them with some contents
of the memory. With a neighbour to ask, those that it accepts with any contents
are asked for.

## Main definitions

* `requests`: The ids asked for, and the unwritten memory left.
* `offered`: The virtual set after the source has been offered to it.
* `Acceptable`, `Accepted`: What `vset_should_add` says with some contents of
  unwritten memory, and with any.
* `Requests`: A request of a node for a path to an id.
* `setup_req_packet`: That request to the letter.
* `AsksFor`: The requests among some packets are those for certain ids.

## Theorems

* `acceptable_of_requests`, `mem_requests`: The bounds on what is asked for.
* `vrr_add_drawn`, `vrr_add_at`: What `vrr_add` does.
* `asksFor_of_requests`: Its loop asks for what it should.
-/

namespace AlpacaVrr

open FaultState

/-- The ids of `vset` that the loop of `vrr_add` asks for, and the unwritten
    memory it leaves. -/
def requests (n : Node) : List U32 → (Nat → Garbage) → List U32 × (Nat → Garbage)
  | [], g => ([], g)
  | id :: vset, g =>
      if vset_should_add n.me n.vset id (g 0) (g 1) = true then
        if pset_active n.pset = [] then requests n vset (fun i => g (i + 2))
        else
          -- the address of the proxy and the buffer for the node's own vset
          (id :: (requests n vset (fun i => g (i + 4))).1,
            (requests n vset (fun i => g (i + 4))).2)
      else requests n vset (fun i => g (i + 2))

/-- The source of a vset is accepted. -/
def Offered (me : U32) (v : Vset) (src : U32) (g : Nat → Garbage) : Prop :=
  src ≠ UINT_MAX ∧ vset_should_add me v src (g 0) (g 1) = true

/-- The virtual set after `src` was offered to it. -/
def offered (me : U32) (v : Vset) (src : U32) (g : Nat → Garbage) : Vset :=
  if src ≠ UINT_MAX ∧ vset_should_add me v src (g 0) (g 1) = true then
    (vset_add me v src 0 (g 2) (g 3)).2.2
  else v

/-- The id may be accepted. -/
def Acceptable (n : Node) (id : U32) : Prop :=
  ∃ gl gr, vset_should_add n.me n.vset id gl gr = true

/-- The id is accepted, whatever unwritten memory holds. -/
def Accepted (n : Node) (id : U32) : Prop :=
  ∀ gl gr, vset_should_add n.me n.vset id gl gr = true

/-- A new id is accepted while there is room. -/
theorem accepted_of_room {n : Node} {id : U32} (habs : id ∉ n.vset.nodes)
    (hroom : n.vset.vset_size < VRR_VSET_SIZE) : Accepted n id := by
  intro gl gr
  unfold vset_should_add
  simp only [if_neg habs, if_pos hroom]

/-- A request of the node for a path to `id`. -/
structure Requests (me : U32) (p : Packet) (id : U32) : Prop where
  type : p.vh.pkt_type = VRR_SETUP_REQ
  src : p.src = me
  dst : p.dst = id

/-- The request of a node by way of a proxy, with what the buffer for its own
    vset held before. -/
def setup_req_packet (n : Node) (dest proxy : U32) (mac : MacAddr) (g : Garbage) : Packet :=
  build_packet n.version VRR_SETUP_REQ n.me dest mac
    (proxy :: BitVec.ofNat 32 n.vset.vset_size :: (vset_get_all n.vset g).2)

theorem requests_setup_req_packet (n : Node) (dest proxy : U32) (mac : MacAddr) (g : Garbage) :
    Requests n.me (setup_req_packet n dest proxy mac g) dest :=
  ⟨rfl, build_packet_src _ _ _ _ _ _, build_packet_dst _ _ _ _ _ _⟩

/-- The loop looks at the address, the virtual set and the active neighbours. -/
theorem requests_congr {n m : Node} (hme : m.me = n.me) (hvset : m.vset = n.vset)
    (hactive : pset_active m.pset = pset_active n.pset) (vset : List U32) (g : Nat → Garbage) :
    requests m vset g = requests n vset g := by
  induction vset generalizing g with
  | nil => rfl
  | cons id vset ih => simp only [requests, hme, hvset, hactive, ih]

/-- The unwritten memory left is what follows the words drawn. -/
theorem requests_shift (n : Node) (vset : List U32) (g : Nat → Garbage) :
    ∃ c, (requests n vset g).2 = fun i => g (i + c) := by
  induction vset generalizing g with
  | nil => exact ⟨0, rfl⟩
  | cons id vset ih =>
      have hrest : ∀ d, ∃ c, (requests n vset (fun i => g (i + d))).2 = fun i => g (i + c) := by
        intro d
        obtain ⟨c, hc⟩ := ih (fun i => g (i + d))
        refine ⟨c + d, ?_⟩
        simp only [hc, Nat.add_assoc]
      unfold requests
      split_ifs
      · exact hrest 2
      · exact hrest 4
      · exact hrest 2

/-- An id that is asked for was received, and may be accepted. -/
theorem acceptable_of_requests (n : Node) (vset : List U32) (g : Nat → Garbage) (id : U32)
    (h : id ∈ (requests n vset g).1) :
    id ∈ vset ∧ Acceptable n id ∧ pset_active n.pset ≠ [] := by
  induction vset generalizing g with
  | nil => exact absurd h List.not_mem_nil
  | cons x vset ih =>
      have hrest : ∀ g', id ∈ (requests n vset g').1 →
          id ∈ x :: vset ∧ Acceptable n id ∧ pset_active n.pset ≠ [] :=
        fun g' h' => ⟨List.mem_cons_of_mem x (ih g' h').1, (ih g' h').2⟩
      unfold requests at h
      split_ifs at h with hshould hidle
      · exact hrest _ h
      · rcases List.mem_cons.mp h with rfl | h
        · exact ⟨List.mem_cons_self, ⟨g 0, g 1, hshould⟩, hidle⟩
        · exact hrest _ h
      · exact hrest _ h

/-- With a neighbour to ask, what is accepted in any case is asked for. -/
theorem mem_requests (n : Node) (vset : List U32) (g : Nat → Garbage) (id : U32)
    (hready : pset_active n.pset ≠ []) (hmem : id ∈ vset) (hid : Accepted n id) :
    id ∈ (requests n vset g).1 := by
  induction vset generalizing g with
  | nil => exact absurd hmem List.not_mem_nil
  | cons x vset ih =>
      unfold requests
      rcases List.mem_cons.mp hmem with rfl | hmem
      · rw [if_pos (hid _ _), if_neg hready]
        exact List.mem_cons_self
      · split_ifs with hshould
        · exact List.mem_cons_of_mem x (ih _ hmem)
        · exact ih _ hmem

namespace Vrr

section Asking

variable {n : Node} {l : List Packet} {g : Nat → Garbage}

/-- A proxy is found when there is one. -/
theorem pset_get_proxy_at :
    Triple (Sys.At n l g) pset_get_proxy
      (fun ret s => s.At n l g ∧ (ret = none ↔ pset_active n.pset = [])) (fun _ => False) := by
  unfold pset_get_proxy
  refine Triple.bind me_at (fun me => Triple.of_and (fun hme => ?_))
  rw [hme]
  refine Triple.bind (Q := fun _ => Sys.At n l g)
    (Triple.modify _ (fun s hs => ⟨hs.node, hs.sent, hs.uninit, hs.alloc⟩)) (fun _ => ?_)
  refine Triple.ite _ (fun hidle => Triple.pure _ (fun s hs => ⟨hs, ?_⟩)) (fun hready => ?_)
  · exact iff_of_true rfl (List.eq_nil_of_length_eq_zero hidle)
  · refine Triple.bind (Q := fun _ => Sys.At n l g)
      (fun s hs => ⟨hs.node, hs.sent, hs.uninit, hs.alloc⟩) (fun r => ?_)
    refine Triple.pure _ (fun s hs => ⟨hs, ?_⟩)
    have hlt : r.toNat % (pset_active n.pset).length < (pset_active n.pset).length :=
      Nat.mod_lt _ (Nat.pos_of_ne_zero hready)
    constructor
    · intro hnone
      unfold AlpacaVrr.pset_get_proxy at hnone
      rw [List.getElem?_eq_getElem hlt] at hnone
      cases hnone
    · intro hidle
      rw [hidle] at hready
      exact absurd rfl hready

/-- The buffer for the virtual set is drawn. -/
theorem vset_get_all_drawn :
    Triple (Sys.At n l g) vset_get_all
      (fun r s => s.At n l (fun i => g (i + 1)) ∧
        r = (n.vset.vset_size, some (AlpacaVrr.vset_get_all n.vset (g 0)).2)) (fun _ => False) := by
  unfold vset_get_all
  refine Triple.bind me_at (fun me => Triple.of_and (fun hme => ?_))
  rw [hme]
  refine Triple.bind (kmalloc_at _) (fun all => Triple.of_and (fun hall => ?_))
  refine Triple.bind uninit_at (fun a => Triple.of_and (fun ha => ?_))
  rw [hall, ha]
  exact Triple.pure _ (fun s hs => ⟨hs, rfl⟩)

/-- A request goes out, with the address of the proxy or without. -/
theorem send_setup_req_drawn (dest proxy : U32) :
    Triple (Sys.At n l g) (send_setup_req n.me dest proxy)
      (fun _ => Sys.At n (l ++ [setup_req_packet n dest proxy
        ((pset_get_mac n.pset proxy).getD ((g 0 0 ++ g 0 1).setWidth 48)) (g 1)])
        (fun i => g (i + 2))) (fun _ => False) := by
  unfold send_setup_req
  refine Triple.bind me_at (fun me => Triple.of_and (fun hme => ?_))
  refine Triple.bind uninit_at (fun stack => Triple.of_and (fun hstack => ?_))
  refine Triple.bind vset_get_all_drawn (fun all => Triple.of_and (fun hall => ?_))
  rw [hme, hstack, hall]
  refine Triple.bind (kmalloc_at 1) (fun data => Triple.of_and (fun hdata => ?_))
  refine Triple.ite _ (fun _ => ?_) (fun h => absurd hdata h)
  -- the buffer has as many words as the counter says
  have hread : read_vset n.vset.vset_size (some (AlpacaVrr.vset_get_all n.vset (g 1)).2) =
      pure (AlpacaVrr.vset_get_all n.vset (g 1)).2 := by
    have hlen : (AlpacaVrr.vset_get_all n.vset (g 1)).2.length = n.vset.vset_size :=
      length_fill _ _ _ (by rw [Vset.nodes, List.length_map]; exact n.vset.length_le)
    have hall := read_vset_all (AlpacaVrr.vset_get_all n.vset (g 1)).2
    rw [hlen] at hall
    exact hall
  simp only [hread]
  refine Triple.pure_bind _ ?_
  refine Triple.bind (kmalloc_at 1) (fun skb => Triple.of_and (fun hskb => ?_))
  refine Triple.ite _ (fun _ => ?_) (fun h => absurd hskb h)
  exact Triple.bind (vrr_output_at _ _) (fun _ => Triple.pure _ (fun s hs => hs))

theorem send_setup_req_at (dest proxy : U32) :
    Triple (Sys.At n l g) (send_setup_req n.me dest proxy)
      (fun _ s => ∃ p, Requests n.me p dest ∧ s.At n (l ++ [p]) (fun i => g (i + 2)))
      (fun _ => False) :=
  (send_setup_req_drawn dest proxy).post
    (fun _ _ hs => ⟨_, requests_setup_req_packet n dest proxy _ _, hs⟩)

/-- One round of the loop. -/
theorem vrr_add_request_at (id : U32) :
    Triple (Sys.At n l g) (vrr_add_request id)
      (fun _ s => ∃ ps, List.Forall₂ (Requests n.me) ps (requests n [id] g).1 ∧
        s.At n (l ++ ps) (requests n [id] g).2) (fun _ => False) := by
  unfold vrr_add_request
  refine Triple.bind me_at (fun me => Triple.of_and (fun hme => ?_))
  refine Triple.bind (vset_should_add_drawn id) (fun should => Triple.of_and (fun hshould => ?_))
  rw [hme, hshould]
  refine Triple.ite _ (fun h => ?_) (fun h => ?_)
  · refine Triple.bind pset_get_proxy_at (fun ret => Triple.of_and (fun hret => ?_))
    cases ret with
    | none =>
        have hidle := hret.mp rfl
        refine Triple.pure _ (fun s hs => ⟨[], ?_, ?_⟩)
        · simp [requests, h, hidle]
        · simpa [requests, h, hidle] using hs
    | some proxy =>
        have hready : pset_active n.pset ≠ [] := fun hidle => by
          have hnone := hret.mpr hidle
          cases hnone
        refine Triple.bind (send_setup_req_at id proxy) (fun _ => Triple.pure _ (fun s hs => ?_))
        obtain ⟨p, hp, hs⟩ := hs
        refine ⟨[p], ?_, ?_⟩
        · simp [requests, h, hready, hp]
        · simpa [requests, h, hready] using hs
  · refine Triple.pure _ (fun s hs => ⟨[], ?_, ?_⟩)
    · simp [requests, h]
    · simpa [requests, h] using hs

end Asking

/-- The rounds move along the unwritten memory and emit what they ask for. -/
theorem requests_eq (n : Node) (vset : List U32) (g : Nat → Garbage) :
    requests n vset g =
      (Keyed.emitted (fun g id => (requests n [id] g).2) (fun g id => (requests n [id] g).1) g vset,
        vset.foldl (fun g id => (requests n [id] g).2) g) := by
  induction vset generalizing g with
  | nil => rfl
  | cons id vset ih =>
      -- the first round, and the rest
      have hcons : requests n (id :: vset) g =
          ((requests n [id] g).1 ++ (requests n vset (requests n [id] g).2).1,
            (requests n vset (requests n [id] g).2).2) := by
        simp only [requests]
        split_ifs <;> rfl
      rw [hcons, ih]
      rfl

section Loop

variable {n : Node} {l : List Packet} {g : Nat → Garbage}

/-- The loop is one round after the other. -/
theorem vrr_add_requests_at (vset : List U32) :
    Triple (Sys.At n l g) (vset.forM vrr_add_request)
      (fun _ s => ∃ ps, List.Forall₂ (Requests n.me) ps (requests n vset g).1 ∧
        s.At n (l ++ ps) (requests n vset g).2) (fun _ => False) := by
  rw [requests_eq]
  exact Triple.forM_emits (I := fun g l => Sys.At n l g) (fun g l id => vrr_add_request_at id)
    vset g l

/-- The ids are asked for, and then the source is offered to the virtual
    set. -/
theorem vrr_add_drawn (src : U32) (vset : List U32) :
    Triple (Sys.At n l g) (vrr_add src vset)
      (fun ret s => ∃ ps c, (List.Forall₂ (Requests n.me) ps (requests n vset g).1 ∧
        (ret = 0 ↔ ¬ Offered n.me n.vset src (requests n vset g).2)) ∧
        s.At { n with vset := offered n.me n.vset src (requests n vset g).2 } (l ++ ps)
          (fun i => g (i + c))) (fun _ => False) := by
  unfold vrr_add offered Offered
  refine Triple.bind (vrr_add_requests_at vset) (fun _ => Triple.of_exists (fun ps => ?_))
  refine Triple.pre (Triple.of_and (fun hps => ?_)) (fun s hs => And.symm hs)
  obtain ⟨c, hc⟩ := requests_shift n vset g
  refine Triple.ite _ (fun hmax => Triple.pure _ (fun s hs => ?_)) (fun hmax => ?_)
  · have hno : ¬ (src ≠ UINT_MAX ∧ AlpacaVrr.vset_should_add n.me n.vset src
        ((requests n vset g).2 0) ((requests n vset g).2 1) = true) := fun h => h.1 hmax
    rw [if_neg hno]
    exact ⟨ps, c, ⟨hps, iff_of_true rfl hno⟩, hc ▸ hs⟩
  refine Triple.bind (vset_should_add_drawn src) (fun should => Triple.of_and (fun hshould => ?_))
  rw [hshould]
  have hshift : ∀ d, (fun i => (requests n vset g).2 (i + d)) = fun i => g (i + (d + c)) := by
    intro d
    simp only [hc, Nat.add_assoc]
  refine Triple.ite _ (fun h => ?_) (fun h => Triple.pure _ (fun s hs => ?_))
  · -- an id that should be added is not in the set yet
    have habs : src ∉ n.vset.nodes := by
      intro hmem
      rw [AlpacaVrr.vset_should_add, if_pos hmem] at h
      exact Bool.false_ne_true h
    rw [if_pos ⟨hmax, h⟩]
    refine Triple.bind (vset_add_drawn src 0 habs) (fun _ => Triple.pure _ (fun s hs => ?_))
    exact ⟨ps, 4 + c, ⟨hps, iff_of_false (by decide) (not_not_intro ⟨hmax, h⟩)⟩, hshift 4 ▸ hs⟩
  · rw [if_neg (fun h' => h h'.2)]
    exact ⟨ps, 2 + c, ⟨hps, iff_of_true rfl (fun h' => h h'.2)⟩, hshift 2 ▸ hs⟩

theorem vrr_add_at (src : U32) (vset : List U32) :
    Triple (Sys.At n l g) (vrr_add src vset)
      (fun _ s => s.node = { n with vset := offered n.me n.vset src (requests n vset g).2 } ∧
        ∃ ps, List.Forall₂ (Requests n.me) ps (requests n vset g).1 ∧ s.sent = l ++ ps)
      (fun _ => False) :=
  (vrr_add_drawn src vset).post (fun _ _ ⟨ps, _, hps, hs⟩ => ⟨hs.node, ps, hps.1, hs.sent⟩)

end Loop

end Vrr

/-- One of the packets is a request for a path to `id`. -/
def Requested (ps : List Packet) (id : U32) : Prop :=
  ∃ p ∈ ps, p.vh.pkt_type = VRR_SETUP_REQ ∧ p.dst = id

/-- What is requested are the ids that the node accepts. -/
structure AsksFor (n : Node) (ids : List U32) (ps : List Packet) : Prop where
  only : ∀ id, Requested ps id → id ∈ ids ∧ Acceptable n id
  all : pset_active n.pset ≠ [] → ∀ id ∈ ids, Accepted n id → Requested ps id

theorem requested_iff {me : U32} {ps : List Packet} {ids : List U32}
    (h : List.Forall₂ (Requests me) ps ids) (id : U32) : Requested ps id ↔ id ∈ ids := by
  induction h with
  | nil => simp [Requested]
  | @cons p d ps ids hp _ ih =>
      have hcons : Requested (p :: ps) id ↔ p.dst = id ∨ Requested ps id := by
        simp [Requested, hp.type]
      rw [hcons, ih, hp.dst, List.mem_cons, eq_comm]

/-- The loop of `vrr_add` asks for what it should. -/
theorem asksFor_of_requests {n : Node} {ps : List Packet} {ids : List U32} {g : Nat → Garbage}
    (h : List.Forall₂ (Requests n.me) ps (requests n ids g).1) : AsksFor n ids ps := by
  constructor
  · intro id hid
    have hmem := acceptable_of_requests n ids g id ((requested_iff h id).mp hid)
    exact ⟨hmem.1, hmem.2.1⟩
  · intro hready id hmem hid
    exact (requested_iff h id).mpr (mem_requests n ids g id hready hmem hid)

/-- One of the packets is of the type. -/
def Emitted (ps : List Packet) (pkt_type : U8) : Prop := ∃ p ∈ ps, p.vh.pkt_type = pkt_type

/-- Requests are all that the loop emits. -/
theorem emitted_requests {me : U32} {ps : List Packet} {ids : List U32} {pkt_type : U8}
    (h : List.Forall₂ (Requests me) ps ids) (hty : Emitted ps pkt_type) :
    pkt_type = VRR_SETUP_REQ := by
  obtain ⟨p, hp, rfl⟩ := hty
  induction h with
  | nil => exact absurd hp List.not_mem_nil
  | cons hreq _ ih =>
      rcases List.mem_cons.mp hp with rfl | hp
      · exact hreq.type
      · exact ih hp

/-- A hop whose address is known gets a packet. -/
theorem emitted_vset_to (n : Node) (pkt_type : U8) (src dst : U32) (data : List U32)
    (vset_size : Nat) (ids : List U32) (hop : U32) :
    Emitted (vset_to n pkt_type src dst data vset_size ids hop) pkt_type ↔
      (pset_get_mac n.pset hop).isSome = true := by
  unfold Emitted vset_to
  cases pset_get_mac n.pset hop with
  | none => simp
  | some mac =>
      refine iff_of_true ⟨_, List.mem_singleton.mpr rfl, rfl⟩ rfl

end AlpacaVrr
