import AlpacaVrr.Core.Message
import AlpacaVrr.Theory.Outcomes

/-!
# Who Releases a Buffer

How often `vrr_rcv` releases the buffer it was handed, and `vrr_sendmsg` the
one it allocates.

`vrr_rcv` takes a zero for "the handler has the buffer" and releases it for any
other result. The handlers return zero when they are done, whatever they did
with the buffer. So a buffer is released once when a handler refuses the
packet, when it forwards it, and when a socket takes it without an error. Once
the fields of a packet have been accepted, a handler only sends packets of its
own, and the buffer is lost.

The fields that decide are read from the packet where it has them and from
unwritten memory where it has not, so the condition speaks of both.

In `vrr_sendmsg` the way out after success leads past the label of the errors.

## Main definitions

* `Received`: A state in a handler, with all that decides about the buffer.
* `Settles`, `Silent`: A part of a handler, and one that leaves the buffer alone.
* `ReleasedOnce`: What the state and the packet have to be like.
* `Allocates`: `vrr_sendmsg` comes to have a buffer.

## Theorems

* `vrr_rcv_settles`: The condition decides.
* `released_once_iff`: It is exact, and a message sent is never released once.
-/

namespace AlpacaVrr

open FaultState

/-- A word of a packet, or what the variable held, and the unwritten memory
    after it. -/
def field (p : Packet) (offset : Nat) (g : Nat → Garbage) : U32 × (Nat → Garbage) :=
  match word p offset with
  | some w => (w, g)
  | none => (ntohl (g 0 0), fun i => g (i + 1))

/-- The size of a vset is out of range, or there is no memory for it. -/
def Refused (vset_size : U32) (room : Nat) (ok : Bool) : Prop :=
  VRR_VSET_SIZE < vset_size.toNat ∨ room ≠ 0 ∧ ok = false

section Condition

variable (n : Node) (k : Kernel) (skb : SkBuff)

/-- Delivered without an error, or without a socket, or forwarded. -/
def DataOnce : Prop :=
  if skb.pkt.dst = n.me then
    vrr_find_sock n.vrr_socks skb.pkt.src = none ∨ k.sk_receive_skb = 0
  else RtTable.rt_get_next n.me n.rt skb.pkt.dst ≠ 0 ∧
    (pset_get_mac n.pset (RtTable.rt_get_next n.me n.rt skb.pkt.dst)).isSome = true

/-- One of the three sizes is out of range, or there is no memory. -/
def HelloOnce : Prop :=
  let active := field skb.pkt vrr_header_size k.uninit
  let la_size := field skb.pkt (vrr_header_size + 4) active.2
  let lna_size := field skb.pkt (vrr_header_size + 8) la_size.2
  let p_size := field skb.pkt (vrr_header_size + 12) lna_size.2
  VRR_PSET_SIZE < la_size.1.toNat ∨ VRR_PSET_SIZE < lna_size.1.toNat ∨
    VRR_PSET_SIZE < p_size.1.toNat ∨ k.kmalloc 0 = false

/-- Forwarded, or refused. -/
def SetupReqOnce : Prop :=
  let nh := RtTable.rt_get_next_exclude n.me n.rt skb.pkt.dst skb.pkt.src
  let proxy := field skb.pkt vrr_header_size k.uninit
  let vset_size := field skb.pkt (vrr_header_size + 4) proxy.2
  if nh ≠ 0 then (pset_get_mac n.pset nh).isSome = true
  else Refused vset_size.1 (4 * vset_size.1.toNat) (k.kmalloc 0)

/-- From a neighbour, with a route that is added, and refused after that. -/
def SetupOnce : Prop :=
  let pid := field skb.pkt vrr_header_size k.uninit
  let proxy := field skb.pkt (vrr_header_size + 4) pid.2
  let vset_size := field skb.pkt (vrr_header_size + 8) proxy.2
  ∃ sender, sender_of n skb = some sender ∧
    (n.rt.rt_add_route k.rb_insert_color
      ⟨k.kmalloc 0, k.kmalloc 1, k.kmalloc 2, k.kmalloc 3⟩ skb.pkt.src skb.pkt.dst sender
      (setup_hop n skb.pkt.dst proxy.1) pid.1).1 = true ∧
    Refused vset_size.1 (4 * vset_size.1.toNat) (k.kmalloc 4)

def SetupFailOnce : Prop :=
  let proxy := field skb.pkt vrr_header_size k.uninit
  let vset_size := field skb.pkt (vrr_header_size + 4) proxy.2
  Refused vset_size.1 (4 * (vset_size.1.toNat + 1)) (k.kmalloc 0)

/-- Of a route that the node has, and refused. -/
def TeardownOnce : Prop :=
  let ea := field skb.pkt vrr_header_size k.uninit
  let pid := field skb.pkt (vrr_header_size + 4) ea.2
  let vset_size := field skb.pkt (vrr_header_size + 8) pid.2
  (n.rt.rt_remove_route ea.1 pid.1).1.isSome = true ∧
    Refused vset_size.1 (4 * vset_size.1.toNat) (k.kmalloc 0)

/-- The packet is of no known type, or its handler releases the buffer or
    refuses it. -/
structure ReleasedOnce : Prop where
  data : skb.pkt.vh.pkt_type = VRR_DATA → DataOnce n k skb
  hello : skb.pkt.vh.pkt_type = VRR_HELLO → HelloOnce k skb
  setup_req : skb.pkt.vh.pkt_type = VRR_SETUP_REQ → SetupReqOnce n k skb
  setup : skb.pkt.vh.pkt_type = VRR_SETUP → SetupOnce n k skb
  setup_fail : skb.pkt.vh.pkt_type = VRR_SETUP_FAIL → SetupFailOnce k skb
  teardown : skb.pkt.vh.pkt_type = VRR_TEARDOWN → TeardownOnce n k skb

end Condition

/-- A handler at work at the node `n`, with this much unwritten memory and
    these allocations ahead, after `c` releases. -/
structure Received (n : Node) (k : Kernel) (g : Nat → Garbage) (m : Nat → Bool) (c : Nat)
    (s : Sys) : Prop where
  node : s.node = n
  kern : s.kern = { k with uninit := g, kmalloc := m }
  released : s.released.count .received = c

/-- The same with any unwritten memory. -/
def Arrived (n : Node) (k : Kernel) (m : Nat → Bool) (c : Nat) (s : Sys) : Prop :=
  ∃ g, Received n k g m c s

/-- After the handler, `vrr_rcv` will have released the buffer once more exactly
    when `φ` holds. -/
def Settles (c : Nat) (φ : Prop) (P : Sys → Prop) (x : Vrr Int) : Prop :=
  Triple P x (fun err s => s.released.count .received + (if err = 0 then 0 else 1) = c + 1 ↔ φ)
    (fun _ => ¬ φ)

/-- The buffer is left alone, and the result is zero. -/
def Silent (c : Nat) (x : Vrr Int) : Prop :=
  Triple (fun s => s.released.count .received = c) x
    (fun err s => err = 0 ∧ s.released.count .received = c) (fun _ => True)

/-- A handler's own packets have buffers of their own. -/
theorem alters_received (c : Nat) :
    Alters (fun _ => True) (fun s => s.released.count .received = c) := by
  refine alters_of_updates (fun _ _ hs => hs) (fun _ _ hs => hs) (fun _ _ _ hs => hs)
    (fun _ _ _ hs => hs) (fun s hs => ?_)
  rw [← hs, List.count_append]
  rfl

theorem rt_add_route_received (c : Nat) (ea eb na nb path_id : U32) :
    Preserves (fun s => s.released.count .received = c)
      (Vrr.rt_add_route ea eb na nb path_id) :=
  Vrr.rt_add_route_rule (alters_received c).draws _ _ _ _ _ (fun _ _ _ hs => hs)

namespace Silent

variable {c : Nat}

theorem zero : Silent c (pure 0) := Triple.pure _ (fun _ hs => ⟨rfl, hs⟩)

/-- What comes first keeps the count. -/
theorem bind {α : Type} {x : Vrr α} {f : α → Vrr Int}
    (hx : Preserves (fun s => s.released.count .received = c) x) (hf : ∀ a, Silent c (f a)) :
    Silent c (x >>= f) :=
  Triple.bind hx hf

theorem then_zero {α : Type} {x : Vrr α}
    (hx : Preserves (fun s => s.released.count .received = c) x) :
    Silent c (x >>= fun _ => pure 0) :=
  bind hx (fun _ => zero)

theorem ite (p : Prop) [Decidable p] {x y : Vrr Int} (hx : Silent c x) (hy : Silent c y) :
    Silent c (if p then x else y) :=
  Triple.ite p (fun _ => hx) (fun _ => hy)

end Silent

namespace Settles

variable {c : Nat} {φ : Prop} {P : Sys → Prop}

/-- A packet that is refused is released by `vrr_rcv`. -/
theorem refuse (hφ : φ) (hP : ∀ s, P s → s.released.count .received = c) :
    Settles c φ P (pure (-1)) := by
  refine Triple.pure _ (fun s hs => ?_)
  simp only [hP s hs, hφ, iff_true]
  rfl

/-- One that is left alone is lost. -/
theorem lose {x : Vrr Int} (hφ : ¬ φ) (hP : ∀ s, P s → s.released.count .received = c)
    (hx : Silent c x) : Settles c φ P x := by
  refine (hx.pre hP).conseq (fun _ hs => hs) ?_ (fun _ _ => hφ)
  rintro err s ⟨rfl, hs⟩
  simp only [hs, hφ, if_true, iff_false]
  omega

/-- One that is passed on is released there, if it is. -/
theorem pass {α : Type} {x : Vrr α} (hx : Triple P x
    (fun _ s => s.released.count .received = c + 1 ∧ φ ∨ s.released.count .received = c ∧ ¬ φ)
    (fun _ => False)) : Settles c φ P (x >>= fun _ => pure 0) := by
  refine Triple.bind hx.safe (fun _ => Triple.pure _ (fun s hs => ?_))
  rcases hs with ⟨hs, hφ⟩ | ⟨hs, hφ⟩
  · simp [hs, hφ]
  · simp [hs, hφ]

theorem congr {ψ : Prop} {x : Vrr Int} (h : Settles c φ P x) (hiff : φ ↔ ψ) :
    Settles c ψ P x := by
  rw [← hiff]
  exact h

end Settles

namespace Vrr

section Handlers

variable {n : Node} {k : Kernel} {g : Nat → Garbage} {m : Nat → Bool} {c : Nat}

theorem node_received :
    Triple (Received n k g m c) node (fun me s => Received n k g m c s ∧ me = n)
      (fun _ => False) :=
  Triple.gets _ (fun _ hs => ⟨hs, hs.node⟩)

theorem read_u32_received (p : Packet) (offset : Nat) :
    Triple (Received n k g m c) (read_u32 p offset)
      (fun w s => Received n k (field p offset g).2 m c s ∧ w = (field p offset g).1)
      (fun _ => False) := by
  unfold read_u32 field
  cases word p offset with
  | some w => exact Triple.pure _ (fun _ hs => ⟨hs, rfl⟩)
  | none =>
      intro s hs
      refine ⟨⟨hs.node, ?_, hs.released⟩, ?_⟩
      · simp only [hs.kern]
      · simp only [hs.kern]

/-- What is read into an array decides nothing. -/
theorem read_array_received (p : Packet) (offset size : Nat) :
    Triple (Arrived n k m c) (read_array p offset size) (fun _ => Arrived n k m c)
      (fun _ => False) := by
  unfold read_array
  cases words p offset size with
  | some ws => exact Triple.pure _ (fun _ hs => hs)
  | none =>
      rintro s ⟨g, hs⟩
      exact ⟨fun i => g (i + 1), hs.node, by simp only [hs.kern], hs.released⟩

/-- An allocation, and the ones left. -/
theorem kmalloc_received (size : Nat) (hsize : size ≠ 0) :
    Triple (Received n k g m c) (kmalloc size)
      (fun ok s => Received n k g (fun i => m (i + 1)) c s ∧ ok = m 0) (fun _ => False) := by
  unfold kmalloc
  rw [if_neg hsize]
  intro s hs
  refine ⟨⟨hs.node, ?_, hs.released⟩, ?_⟩
  · simp only [hs.kern]
  · simp only [hs.kern]

/-- A vset received, as `Draws.received_vset`. -/
theorem received_settles (p : Packet) (offset room : Nat) (vset_size : U32)
    (tail : List U32 → Vrr Int) (htail : ∀ vset, Silent c (tail vset)) :
    Settles c (Refused vset_size room (m 0)) (Received n k g m c)
      (if VRR_VSET_SIZE < vset_size.toNat then pure (-1) else do
        let buffer ← kmalloc room
        if buffer then do
          let vset ← read_array p offset vset_size.toNat
          tail vset
        else pure (-1)) := by
  refine Triple.ite _ (fun hsize => ?_) (fun hsize => ?_)
  · exact Settles.refuse (Or.inl hsize) (fun _ hs => hs.released)
  · have hread : ∀ size, Silent c (do
        let vset ← read_array p offset size
        tail vset) := fun size =>
      Silent.bind ((alters_received c).draws.read_array p offset size) htail
    by_cases hroom : room = 0
    · -- an allocation of no bytes succeeds
      have hnot : ¬ Refused vset_size room (m 0) := by
        rintro (h | ⟨h, _⟩)
        · exact hsize h
        · exact h hroom
      rw [hroom] at hnot ⊢
      exact Settles.lose hnot (fun _ hs => hs.released) (hread _)
    · refine Triple.bind (kmalloc_received room hroom).safe
        (fun ok => Triple.of_and (fun hok => ?_))
      rw [hok]
      cases hm : m 0 with
      | false =>
          exact Settles.refuse (Or.inr ⟨hroom, rfl⟩) (fun _ hs => hs.released)
      | true =>
          have hnot : ¬ Refused vset_size room true := by
            rintro (h | ⟨_, h⟩)
            · exact hsize h
            · exact Bool.noConfusion h
          exact Settles.lose hnot (fun _ hs => hs.released) (hread _)

/-- What becomes of the buffer depends on whether the next hop's address is
    known. -/
theorem output_received (hop : U32) (pkt : MacAddr → Packet) (err : Int) :
    Triple (Received n k g m c)
      (match pset_get_mac n.pset hop with
        | none => pure err
        | some mac => vrr_output .received (pkt mac))
      (fun _ s => s.released.count .received = c + 1 ∧ (pset_get_mac n.pset hop).isSome = true ∨
        s.released.count .received = c ∧ ¬ (pset_get_mac n.pset hop).isSome = true)
      (fun _ => False) := by
  cases pset_get_mac n.pset hop with
  | none => exact Triple.pure _ (fun _ hs => Or.inr ⟨hs.released, Bool.false_ne_true⟩)
  | some mac =>
      intro s hs
      refine Or.inl ⟨?_, rfl⟩
      change (s.released ++ [SkbRef.received]).count .received = c + 1
      rw [List.count_append, hs.released]
      rfl

theorem vrr_forward_received (pkt : Packet) :
    Triple (Received n k g m c) (vrr_forward pkt)
      (fun _ s => s.released.count .received = c + 1 ∧
          (RtTable.rt_get_next n.me n.rt pkt.dst ≠ 0 ∧
            (pset_get_mac n.pset (RtTable.rt_get_next n.me n.rt pkt.dst)).isSome = true) ∨
        s.released.count .received = c ∧ ¬ (RtTable.rt_get_next n.me n.rt pkt.dst ≠ 0 ∧
            (pset_get_mac n.pset (RtTable.rt_get_next n.me n.rt pkt.dst)).isSome = true))
      (fun _ => False) := by
  have hnext : Triple (Received n k g m c) (rt_get_next pkt.dst) (fun nh s =>
      Received n k g m c s ∧ nh = RtTable.rt_get_next n.me n.rt pkt.dst) (fun _ => False) := by
    refine Triple.bind node_received (fun me => Triple.of_and (fun hme => ?_))
    rw [hme]
    exact Triple.pure _ (fun _ hs => ⟨hs, rfl⟩)
  unfold vrr_forward
  refine Triple.bind hnext (fun nh => Triple.of_and (fun hnh => ?_))
  refine Triple.bind node_received (fun me => Triple.of_and (fun hme => ?_))
  rw [hme, ← hnh]
  refine Triple.ite _ (fun h0 => Triple.pure _ (fun s hs => ?_)) (fun h0 => ?_)
  · exact Or.inr ⟨hs.released, fun h => h.1 h0⟩
  · refine (output_received nh _ 1).post (fun _ s hs => ?_)
    rcases hs with ⟨hs, hmac⟩ | ⟨hs, hmac⟩
    · exact Or.inl ⟨hs, h0, hmac⟩
    · exact Or.inr ⟨hs, fun h => hmac h.2⟩

theorem vrr_rcv_data_settles (skb : SkBuff) :
    Settles c (DataOnce n k skb) (Received n k g m c) (vrr_rcv_data skb) := by
  unfold vrr_rcv_data
  refine Triple.bind node_received.safe (fun me => Triple.of_and (fun hme => ?_))
  rw [hme]
  refine Triple.ite _ (fun hdst => ?_) (fun hdst => ?_)
  · -- to the node itself
    have hiff : vrr_find_sock n.vrr_socks skb.pkt.src = none ∨ k.sk_receive_skb = 0 ↔
        DataOnce n k skb := by
      unfold DataOnce
      rw [if_pos hdst]
    cases hsock : vrr_find_sock n.vrr_socks skb.pkt.src with
    | none => exact (Settles.refuse (Or.inl hsock) (fun _ hs => hs.released)).congr hiff
    | some sk =>
        intro s hs
        have hret : s.kern.sk_receive_skb = k.sk_receive_skb := by rw [hs.kern]
        -- the socket has released it, and a result other than 0 releases it again
        change (s.released ++ [SkbRef.received]).count .received +
          (if s.kern.sk_receive_skb = 0 then 0 else 1) = c + 1 ↔ DataOnce n k skb
        rw [← hiff, hsock, hret, List.count_append, hs.released]
        by_cases h0 : k.sk_receive_skb = 0
        · simp [h0]
        · simp [h0]
  · refine (Settles.pass (vrr_forward_received skb.pkt)).congr ?_
    unfold DataOnce
    rw [if_neg hdst]

theorem vrr_rcv_hello_settles (skb : SkBuff) :
    Settles c (HelloOnce k skb) (Received n k k.uninit k.kmalloc c) (vrr_rcv_hello skb) := by
  unfold vrr_rcv_hello
  refine Triple.bind node_received.safe (fun me => Triple.of_and (fun hme => ?_))
  refine Triple.bind (read_u32_received _ _).safe (fun active => Triple.of_and (fun _ => ?_))
  refine Triple.bind (read_u32_received _ _).safe (fun la_size => Triple.of_and (fun hla => ?_))
  rw [hla]
  refine Triple.ite _ (fun h => Settles.refuse (Or.inl h) (fun _ hs => hs.released)) (fun h => ?_)
  refine Triple.bind (read_u32_received _ _).safe (fun lna_size => Triple.of_and (fun hlna => ?_))
  rw [hlna]
  refine Triple.ite _ (fun h' => Settles.refuse (Or.inr (Or.inl h')) (fun _ hs => hs.released))
    (fun h' => ?_)
  refine Triple.bind (read_u32_received _ _).safe (fun p_size => Triple.of_and (fun hp => ?_))
  rw [hp]
  refine Triple.ite _ (fun h'' => Settles.refuse (Or.inr (Or.inr (Or.inl h'')))
    (fun _ hs => hs.released)) (fun h'' => ?_)
  -- from here on only the allocation matters
  refine Triple.bind (Q := fun _ => Arrived n k k.kmalloc c)
    ((read_array_received _ _ _).safe.pre (fun s hs => ⟨_, hs⟩)) (fun la => ?_)
  refine Triple.bind (read_array_received _ _ _).safe (fun lna => ?_)
  refine Triple.bind (read_array_received _ _ _).safe (fun p => ?_)
  refine Triple.bind (Q := fun update s => Arrived n k (fun i => k.kmalloc (i + 1)) c s ∧
    update = k.kmalloc 0) ?_ (fun update => Triple.of_and (fun hupdate => ?_))
  · rintro s ⟨g, hs⟩
    have hrun := kmalloc_received 1 Nat.one_ne_zero s hs
    exact ⟨⟨g, hrun.1⟩, hrun.2⟩
  · rw [hupdate]
    cases halloc : k.kmalloc 0 with
    | false =>
        exact Settles.refuse (Or.inr (Or.inr (Or.inr halloc))) (fun _ ⟨_, hs⟩ => hs.released)
    | true =>
        refine Settles.lose ?_ (fun _ ⟨_, hs⟩ => hs.released) (Silent.then_zero ?_)
        · rintro (hla' | hlna' | hp' | halloc')
          · exact h hla'
          · exact h' hlna'
          · exact h'' hp'
          · rw [halloc] at halloc'
            exact Bool.noConfusion halloc'
        · exact Preserves.modify _ (fun _ hs => hs)

theorem vrr_rcv_setup_req_settles (skb : SkBuff) :
    Settles c (SetupReqOnce n k skb) (Received n k k.uninit k.kmalloc c)
      (vrr_rcv_setup_req skb) := by
  have hown := alters_received c
  have hnext : Triple (Received n k k.uninit k.kmalloc c)
      (rt_get_next_exclude skb.pkt.dst skb.pkt.src) (fun nh s =>
        Received n k k.uninit k.kmalloc c s ∧
          nh = RtTable.rt_get_next_exclude n.me n.rt skb.pkt.dst skb.pkt.src)
      (fun _ => False) := by
    refine Triple.bind node_received (fun me => Triple.of_and (fun hme => ?_))
    rw [hme]
    exact Triple.pure _ (fun _ hs => ⟨hs, rfl⟩)
  unfold vrr_rcv_setup_req SetupReqOnce
  refine Triple.bind hnext.safe (fun nh => Triple.of_and (fun hnh => ?_))
  rw [← hnh]
  refine Triple.ite _ (fun h => ?_) (fun h => ?_)
  · -- passed on: the buffer goes out with the packet
    refine Settles.congr (Settles.pass ?_) (by rw [if_pos h])
    unfold vrr_forward_setup_req
    refine Triple.bind node_received (fun me => Triple.of_and (fun hme => ?_))
    rw [hme]
    exact output_received nh _ 0
  · refine Triple.bind (read_u32_received _ _).safe (fun proxy => Triple.of_and (fun _ => ?_))
    refine Triple.bind (read_u32_received _ _).safe (fun size => Triple.of_and (fun hsize => ?_))
    refine Settles.congr (received_settles _ _ _ _ _ (fun vset => ?_)) ?_
    · refine Silent.bind hown.vset_get_all (fun ovset => Silent.bind (hown.vrr_add trivial _ _)
        (fun added => Silent.ite _ ?_ ?_))
      · exact Silent.bind hown.random (fun pid => Silent.then_zero (hown.vrr_local_rcv_setup
          trivial trivial (rt_add_route_received c) _ _ _ _ _))
      · exact Silent.then_zero (hown.vrr_local_rcv_setup_fail trivial trivial _ _ _ _)
    · rw [hsize, if_neg h]

theorem vrr_rcv_setup_fail_settles (skb : SkBuff) :
    Settles c (SetupFailOnce k skb) (Received n k k.uninit k.kmalloc c)
      (vrr_rcv_setup_fail skb) := by
  have hown := alters_received c
  unfold vrr_rcv_setup_fail SetupFailOnce
  refine Triple.bind (read_u32_received _ _).safe (fun proxy => Triple.of_and (fun _ => ?_))
  refine Triple.bind (read_u32_received _ _).safe (fun size => Triple.of_and (fun hsize => ?_))
  refine Settles.congr (received_settles _ _ _ _ _ (fun vset => ?_)) (by rw [hsize])
  refine Silent.bind (SendsOwn.next_hop_via _ _) (fun nh => Silent.ite _ ?_ ?_)
  · exact Silent.then_zero (hown.send_vset _ trivial _ _ _ _ _ _)
  · refine Silent.bind (Preserves.gets _) (fun me => Silent.ite _ ?_ Silent.zero)
    exact Silent.bind (hown.overrun _ _) (fun _ => Silent.then_zero (hown.vrr_add trivial _ _))

theorem rt_remove_route_received (ea pid : U32) :
    Triple (Received n k g m c) (rt_remove_route ea pid)
      (fun found s => Received (unroute n ea pid) k g m c s ∧
        found = (n.rt.rt_remove_route ea pid).1) (fun _ => False) := by
  intro s hs
  refine ⟨⟨?_, hs.kern, hs.released⟩, ?_⟩
  · rw [← hs.node]
    rfl
  · rw [← hs.node]

theorem vrr_rcv_teardown_settles (skb : SkBuff) :
    Settles c (TeardownOnce n k skb) (Received n k k.uninit k.kmalloc c)
      (vrr_rcv_teardown skb) := by
  have hown := alters_received c
  unfold vrr_rcv_teardown TeardownOnce
  refine Triple.bind (read_u32_received _ _).safe (fun ea => Triple.of_and (fun hea => ?_))
  refine Triple.bind (read_u32_received _ _).safe (fun pid => Triple.of_and (fun hpid => ?_))
  refine Triple.bind (read_u32_received _ _).safe (fun size => Triple.of_and (fun hsize => ?_))
  refine Triple.bind (rt_remove_route_received ea pid).safe (fun found =>
    Triple.of_and (fun hfound => ?_))
  simp only
  rw [← hea, ← hpid, ← hfound]
  cases found with
  | none => exact Triple.fault _ (fun h => Bool.false_ne_true h.1)
  | some route =>
      refine Settles.congr (received_settles _ _ _ _ _ (fun vset => ?_)) ?_
      · refine Silent.ite _ (Silent.then_zero (hown.send_teardown trivial _ _ _ _ _)) ?_
        exact Silent.bind (hown.vset_remove _)
          (fun _ => Silent.then_zero (hown.vrr_add trivial _ _))
      · rw [hsize]
        exact (and_iff_right rfl).symm

/-- The four allocations of a route, and the ones left. -/
theorem rt_add_route_drawn (ea eb na nb path_id : U32) :
    Triple (Received n k g m c) (rt_add_route ea eb na nb path_id)
      (fun added s => (∃ n', Received n' k g (fun i => m (i + 4)) c s) ∧
        added = (n.rt.rt_add_route k.rb_insert_color ⟨m 0, m 1, m 2, m 3⟩ ea eb na nb path_id).1)
      (fun _ => False) := by
  have halloc : Triple (Received n k g m c) rt_alloc (fun alloc s =>
      Received n k g (fun i => m (i + 4)) c s ∧ alloc = ⟨m 0, m 1, m 2, m 3⟩)
      (fun _ => False) := by
    unfold rt_alloc
    refine Triple.bind (kmalloc_received 1 Nat.one_ne_zero) (fun a => Triple.of_and (fun ha => ?_))
    refine Triple.bind (kmalloc_received 1 Nat.one_ne_zero) (fun b => Triple.of_and (fun hb => ?_))
    refine Triple.bind (kmalloc_received 1 Nat.one_ne_zero) (fun d => Triple.of_and (fun hd => ?_))
    refine Triple.bind (kmalloc_received 1 Nat.one_ne_zero) (fun e => Triple.of_and (fun he => ?_))
    refine Triple.pure _ (fun s hs => ⟨hs, ?_⟩)
    rw [ha, hb, hd, he]
  unfold rt_add_route
  refine Triple.bind halloc (fun alloc => Triple.of_and (fun ha => ?_))
  refine Triple.bind (Q := fun rb s => Received n k g (fun i => m (i + 4)) c s ∧
    rb = k.rb_insert_color) (Triple.gets _ (fun s hs => ⟨hs, ?_⟩))
    (fun rb => Triple.of_and (fun hrb => ?_))
  · rw [hs.kern]
  refine Triple.bind node_received (fun me => Triple.of_and (fun hme => ?_))
  rw [ha, hrb, hme]
  refine Triple.bind (Q := fun _ s => ∃ n', Received n' k g (fun i => m (i + 4)) c s)
    (Triple.modify _ (fun s hs => ⟨_, rfl, hs.kern, hs.released⟩)) (fun _ => ?_)
  exact Triple.pure _ (fun s hs => ⟨hs, rfl⟩)

theorem setup_next_hop_received (dst proxy : U32) :
    Triple (Received n k g m c) (setup_next_hop dst proxy)
      (fun nh s => Received n k g m c s ∧ nh = setup_hop n dst proxy) (fun _ => False) := by
  refine Triple.reads _ (setup_next_hop_run dst proxy) (fun s hs => ⟨hs, ?_⟩)
  rw [hs.node]

theorem vrr_rcv_setup_settles (skb : SkBuff) :
    Settles c (SetupOnce n k skb) (Received n k k.uninit k.kmalloc c) (vrr_rcv_setup skb) := by
  have hown := alters_received c
  unfold vrr_rcv_setup SetupOnce
  refine Triple.bind node_received.safe (fun me => Triple.of_and (fun hme => ?_))
  refine Triple.bind (read_u32_received _ _).safe (fun pid => Triple.of_and (fun hpid => ?_))
  refine Triple.bind (read_u32_received _ _).safe (fun proxy => Triple.of_and (fun hproxy => ?_))
  have hfrom : (if skb.dev_addr = skb.h_source then some n.me
      else pset_lookup_mac n.pset skb.h_source) = sender_of n skb := rfl
  rw [hme, hfrom]
  change Settles c _ _ _
  simp only
  rw [← hpid, ← hproxy]
  cases sender_of n skb with
  | none =>
      -- a sender without an entry: the path is torn down and the buffer is lost
      refine Settles.lose ?_ (fun _ hs => hs.released)
        (Silent.then_zero (hown.tear_down_path trivial _ _ _))
      rintro ⟨sender, hsender, _⟩
      cases hsender
  | some sender =>
      refine Triple.bind (setup_next_hop_received _ _).safe
        (fun nh => Triple.of_and (fun hnh => ?_))
      refine Triple.bind (rt_add_route_drawn _ _ _ _ _).safe (fun added =>
        Triple.of_and (fun hadded => ?_))
      rw [hnh] at hadded
      refine Triple.ite _ (fun h => ?_) (fun h => ?_)
      · -- the route is filed, and the rest of the packet is read
        refine Triple.of_exists (fun n' => ?_)
        refine Triple.bind (read_u32_received _ _).safe (fun size =>
          Triple.of_and (fun hsize => ?_))
        refine Settles.congr (received_settles _ _ _ _ _ (fun vset => ?_)) ?_
        · refine Silent.ite _ (Silent.then_zero (hown.send_vset _ trivial _ _ _ _ _ _)) ?_
          exact Silent.bind (hown.vrr_add trivial _ _) (fun ret => Silent.ite _
            (Silent.then_zero (Preserves.modify _ (fun _ hs => hs))) Silent.zero)
        · rw [hsize]
          constructor
          · intro hrefused
            exact ⟨sender, rfl, hadded.symm.trans h, hrefused⟩
          · rintro ⟨_, _, _, hrefused⟩
            exact hrefused
      · -- no memory for the route: torn down, and the buffer lost again
        refine Settles.lose ?_ (fun _ ⟨_, hs⟩ => hs.released)
          (Silent.then_zero (hown.tear_down_path trivial _ _ _))
        rintro ⟨sender', hsender, hfiled, _⟩
        rw [← Option.some.inj hsender, ← hadded] at hfiled
        exact h hfiled

/-- Only the condition of the packet's own type matters. -/
theorem vrr_rcvfunc_settles (skb : SkBuff) (hty : skb.pkt.vh.pkt_type < VRR_NPTYPES) :
    Settles c (ReleasedOnce n k skb) (Received n k k.uninit k.kmalloc c) (vrr_rcvfunc skb) := by
  have hother : ∀ {a b : U8} {φ : Prop}, skb.pkt.vh.pkt_type = a → a ≠ b →
      skb.pkt.vh.pkt_type = b → φ := fun ha hne hb => absurd (ha.symm.trans hb) hne
  refine vrr_rcvfunc_triple skb hty ?_ ?_ ?_ ?_ ?_ ?_
  · intro hty
    refine (vrr_rcv_data_settles skb).congr ⟨fun h => ?_, fun h => h.data hty⟩
    exact ⟨fun _ => h, hother hty (by decide), hother hty (by decide),
        hother hty (by decide), hother hty (by decide), hother hty (by decide)⟩
  · intro hty
    refine (vrr_rcv_hello_settles skb).congr ⟨fun h => ?_, fun h => h.hello hty⟩
    exact ⟨hother hty (by decide), fun _ => h, hother hty (by decide),
        hother hty (by decide), hother hty (by decide), hother hty (by decide)⟩
  · intro hty
    refine (vrr_rcv_setup_req_settles skb).congr ⟨fun h => ?_, fun h => h.setup_req hty⟩
    exact ⟨hother hty (by decide), hother hty (by decide), fun _ => h,
        hother hty (by decide), hother hty (by decide), hother hty (by decide)⟩
  · intro hty
    refine (vrr_rcv_setup_settles skb).congr ⟨fun h => ?_, fun h => h.setup hty⟩
    exact ⟨hother hty (by decide), hother hty (by decide), hother hty (by decide),
        fun _ => h, hother hty (by decide), hother hty (by decide)⟩
  · intro hty
    refine (vrr_rcv_setup_fail_settles skb).congr ⟨fun h => ?_, fun h => h.setup_fail hty⟩
    exact ⟨hother hty (by decide), hother hty (by decide), hother hty (by decide),
        hother hty (by decide), fun _ => h, hother hty (by decide)⟩
  · intro hty
    refine (vrr_rcv_teardown_settles skb).congr ⟨fun h => ?_, fun h => h.teardown hty⟩
    exact ⟨hother hty (by decide), hother hty (by decide), hother hty (by decide),
        hother hty (by decide), hother hty (by decide), fun _ => h⟩

end Handlers

end Vrr

/-- That the sender has been heard of changes nothing. -/
theorem released_once_heard (n : Node) (k : Kernel) (skb : SkBuff) :
    ReleasedOnce (heard n skb.pkt.src) k skb ↔ ReleasedOnce n k skb := by
  have hdata : DataOnce (heard n skb.pkt.src) k skb ↔ DataOnce n k skb := by
    unfold DataOnce heard
    rw [pset_get_mac_reset_fail_count]
  have hreq : SetupReqOnce (heard n skb.pkt.src) k skb ↔ SetupReqOnce n k skb := by
    simp only [SetupReqOnce, heard, pset_get_mac_reset_fail_count]
  have hsetup : SetupOnce (heard n skb.pkt.src) k skb ↔ SetupOnce n k skb := by
    simp only [SetupOnce, sender_of_heard, setup_hop_heard]
    rfl
  constructor
  · intro h
    exact ⟨fun hty => hdata.mp (h.data hty), h.hello, fun hty => hreq.mp (h.setup_req hty),
      fun hty => hsetup.mp (h.setup hty), h.setup_fail, h.teardown⟩
  · intro h
    exact ⟨fun hty => hdata.mpr (h.data hty), h.hello, fun hty => hreq.mpr (h.setup_req hty),
      fun hty => hsetup.mpr (h.setup hty), h.setup_fail, h.teardown⟩

/-- A packet of no known type is released at once. -/
theorem released_once_unknown (n : Node) (k : Kernel) (skb : SkBuff)
    (hty : VRR_NPTYPES ≤ skb.pkt.vh.pkt_type) : ReleasedOnce n k skb := by
  have hother : ∀ {a : U8} {φ : Prop}, a < VRR_NPTYPES → skb.pkt.vh.pkt_type = a → φ := by
    intro a φ hlt ha
    rw [ha] at hty
    exact absurd hlt (BitVec.not_lt.mpr hty)
  exact ⟨hother (by decide), hother (by decide), hother (by decide), hother (by decide),
    hother (by decide), hother (by decide)⟩

/-- The condition decides. -/
theorem vrr_rcv_settles (skb : SkBuff) (s : Sys) :
    Triple (fun u => u = s) (Vrr.vrr_rcv skb) (fun _ t =>
      (t.released.count .received = s.released.count .received + 1 ↔
        ReleasedOnce s.node s.kern skb)) (fun _ => ¬ ReleasedOnce s.node s.kern skb) := by
  have hfree : ∀ (t : Sys), ((t.released ++ [SkbRef.received]).count .received) =
      t.released.count .received + 1 := by
    intro t
    rw [List.count_append]
    rfl
  refine Vrr.vrr_rcv_triple (I := Received (heard s.node skb.pkt.src) s.kern s.kern.uninit
    s.kern.kmalloc (s.released.count .received)) (J := fun err t =>
      (t.released.count .received + (if err = 0 then 0 else 1) =
        s.released.count .received + 1 ↔ ReleasedOnce s.node s.kern skb)) skb ?_ ?_ ?_ ?_ ?_
  · intro hty t ht
    rw [ht]
    exact iff_of_true (hfree s) (released_once_unknown _ _ _ hty)
  · rintro _ rfl
    exact ⟨rfl, rfl, rfl⟩
  · intro hty
    exact (Vrr.vrr_rcvfunc_settles skb hty).congr (released_once_heard _ _ _)
  · intro err hne t ht
    rw [if_neg hne] at ht
    rw [← ht, ← hfree t]
    rfl
  · intro t ht
    exact ht

/-- `vrr_sendmsg` comes to have a buffer: the destination is given, and is the
    node itself or has a next hop whose address is known, and there is memory. -/
def Allocates (n : Node) (k : Kernel) (msg : MsgHdr) : Prop :=
  ∃ dest ∈ msg.msg_name, (dest ≠ n.me → RtTable.rt_get_next n.me n.rt dest ≠ 0 ∧
    (pset_get_mac n.pset (RtTable.rt_get_next n.me n.rt dest)).isSome = true) ∧
    k.kmalloc 0 = true

/-- A buffer that is allocated is released on no way out, or on two. -/
theorem vrr_sendmsg_never_once (msg : MsgHdr) (readable : Bool) (s : Sys)
    (h : Allocates s.node s.kern msg) :
    Triple (fun u => u = s) (Vrr.vrr_sendmsg msg readable) (fun _ t =>
      t.released.count .allocated ≠ s.released.count .allocated + 1) (fun _ => True) := by
  obtain ⟨dest, hdest, hhop, halloc⟩ := h
  -- finding the address allocates and releases nothing
  have hmac : Triple (fun u => u = s) (Vrr.vrr_sendmsg_mac dest) (fun mac t =>
      mac.isSome = true ∧ t.kern.kmalloc 0 = true ∧ t.released = s.released) (fun _ => True) := by
    unfold Vrr.vrr_sendmsg_mac
    refine Triple.bind (Q := fun me t => t = s ∧ me = s.node)
      (Triple.gets _ (fun t ht => ⟨ht, congrArg Sys.node ht⟩))
      (fun me => Triple.of_and (fun hme => ?_))
    rw [hme]
    refine Triple.ite _ (fun hne => ?_) (fun _ t ht => ?_)
    · obtain ⟨hnext, hsome⟩ := hhop hne
      refine Triple.bind
        (Q := fun nh t => t = s ∧ nh = RtTable.rt_get_next s.node.me s.node.rt dest)
        (Triple.reads (fun t => RtTable.rt_get_next t.node.me t.node.rt dest) (fun _ => rfl)
          (fun t ht => ⟨ht, ?_⟩)) (fun nh => Triple.of_and (fun hnh => ?_))
      · rw [ht]
      · rw [hnh, if_neg hnext]
        refine Triple.pure _ (fun t ht => ?_)
        rw [ht]
        exact ⟨hsome, halloc, rfl⟩
    · rw [ht]
      exact ⟨rfl, halloc, rfl⟩
  have hcopy : ∀ n, Preserves (fun t => t.released = s.released)
      (Vrr.memcpy_fromiovec msg.msg_iov n readable) := by
    intro n
    unfold Vrr.memcpy_fromiovec
    refine Preserves.ite _ (fun _ => ?_) (fun _ => Preserves.ite _ (fun _ => Preserves.pure _)
      (fun _ => Preserves.pure _))
    exact Preserves.bind (x := Vrr.uninit) (fun _ ht => ht) (fun _ => Preserves.pure _)
  unfold Vrr.vrr_sendmsg
  rw [Option.mem_def.mp hdest]
  refine Triple.bind hmac (fun mac => ?_)
  cases mac with
  | none => exact fun _ ht => absurd ht.1 Bool.false_ne_true
  | some dest_mac =>
      refine Triple.bind (Q := fun _ t => t.kern.kmalloc 0 = true ∧ t.released = s.released)
        (Triple.gets _ (fun _ ht => ht.2)) (fun me => ?_)
      refine Triple.bind (Q := fun ok t => ok = true ∧ t.released = s.released)
        (fun _ ht => ⟨ht.1, ht.2⟩) (fun skb => ?_)
      refine Triple.ite _ (fun _ => ?_) (fun hskb _ ht => absurd ht.1 hskb)
      refine Triple.ite _ (fun _ => Triple.fault _ trivial) (fun _ => ?_)
      refine Triple.bind ((hcopy _).pre (fun _ ht => ht.2)) (fun data => ?_)
      cases data with
      | none =>
          -- the message cannot be read, and the buffer is leaked
          refine Triple.pure _ (fun t ht => ?_)
          rw [ht]
          omega
      | some data =>
          -- vrr_output has released it when kfree_skb does
          intro t ht
          change (t.released ++ [SkbRef.allocated] ++ [SkbRef.allocated]).count .allocated ≠ _
          rw [ht, List.count_append, List.count_append]
          simp

/-- `vrr_rcv` releases its buffer once exactly under `ReleasedOnce`, and
    `vrr_sendmsg` releases the buffer that it allocates once exactly when it
    allocates none. -/
theorem released_once_iff (s : Sys) :
    (∀ skb, (∃ ret t, Vrr.vrr_rcv skb s = .ok (ret, t) ∧
        t.released.count .received = s.released.count .received + 1) ↔
      ReleasedOnce s.node s.kern skb) ∧
    ∀ msg readable, (Allocates s.node s.kern msg → ∃ ret t,
        Vrr.vrr_sendmsg msg readable s = .ok (ret, t) ∧
        t.released.count .allocated = s.released.count .allocated + 1) ↔
      ¬ Allocates s.node s.kern msg := by
  constructor
  · intro skb
    have hsettles := vrr_rcv_settles skb s
    constructor
    · rintro ⟨ret, t, hrun, hcount⟩
      exact (hsettles.ok rfl hrun).mp hcount
    · intro hone
      cases hrun : Vrr.vrr_rcv skb s with
      | ok r => exact ⟨r.1, r.2, rfl, (hsettles.ok rfl hrun).mpr hone⟩
      | error e => exact absurd hone (hsettles.error rfl hrun)
  · intro msg readable
    constructor
    · intro hsend halloc
      obtain ⟨ret, t, hrun, hcount⟩ := hsend halloc
      exact (vrr_sendmsg_never_once msg readable s halloc).ok rfl hrun hcount
    · intro hnot halloc
      exact absurd halloc hnot

/-- A hello that is accepted is lost. -/
theorem hello_never_released :
    ∃ t, Vrr.vrr_rcv (frame 2 VRR_HELLO 2 0 [0, 0, 0, 0]) node_one = .ok (0, t) ∧
      t.released.count .received = node_one.released.count .received := by
  have heval : ends_in (Vrr.vrr_rcv (frame 2 VRR_HELLO 2 0 [0, 0, 0, 0])) node_one
      (fun ret t => decide (ret = 0 ∧ t.released = [])) = true := by decide +kernel
  obtain ⟨ret, t, hrun, hend⟩ := ok_of_ends_in heval
  obtain ⟨hret, hreleased⟩ := of_decide_eq_true hend
  refine ⟨t, by rw [hrun, hret], ?_⟩
  rw [hreleased]
  rfl

end AlpacaVrr
