import AlpacaVrr.Core.Wire
import AlpacaVrr.Theory.Blind
import AlpacaVrr.Theory.RouteMap

/-!
# Unwritten Memory and the Protocol

When the contents of memory that was never written show in what a node does.

They show in three ways. The handlers do not look at the result of
`skb_copy_bits`, so a field that the packet is too short for is whatever the
variable held. The arrays filled from the virtual set are as long as its
counter says, and the counter can be ahead of the entries. And the header of
every packet that a node builds is copied, padding and all, from a variable
that `build_header` fills field by field. A buffer that was received and is
passed on has the padding that it came with.

`Mute` says what it takes to rule that out, type by type. A field has to be
there when the handler comes to need it. No packet may be built, with any
outcome of the allocations: nothing asked for, no answer to a neighbour, no
teardown. And if an id is to be taken in, the words behind the entries may not
have a say in it.

Two runs of `vrr_rcv` on such a packet are followed side by side. A field that
is there is the same in both, and one that is not is never used.

## Main definitions

* `Sys.bytes_sent`: The bytes that the packets sent are.
* `outcome`, `Indifferent`: What handling a packet comes to, and that it is the
  same whatever unwritten memory holds.
* `WholeHello`, `MuteSetupReq`, `MuteSetup`, `MuteSetupFail`, `MuteTeardown`,
  `Mute`: The packets that are handled on written memory without a word.

## Theorems

* `vrr_rcv_hello_same` and so on: The handlers.
* `mute_indifferent`: Unwritten memory does not influence how such a packet is
  handled.
-/

namespace AlpacaVrr

open FaultState

/-- The bytes that the packets sent are. The header of a packet of the node's
    own is a copy of a variable of `build_header`, with padding that nobody
    wrote. A buffer that was received has the padding it came with. -/
def Sys.bytes_sent (s : Sys) (came : Padding) (header : Nat → Padding) : List (List U8) :=
  s.sent.mapIdx (fun i p => p.bytes (if SkbRef.allocated ∈ s.released then header i else came))

/-- What handling a packet comes to: the return value, the node and the bytes
    sent, or a fault. -/
def outcome (n : Node) (skb : SkBuff) (k : Kernel) (came : Padding) (header : Nat → Padding) :
    Except Fault (Int × Node × List (List U8)) :=
  match Vrr.vrr_rcv skb (Sys.boot n k) with
  | .ok (ret, t) => .ok (ret, t.node, t.bytes_sent came header)
  | .error e => .error e

/-- The contents of unwritten memory make no difference. -/
def Indifferent (n : Node) (skb : SkBuff) : Prop :=
  ∀ (k : Kernel) (came : Padding) (g : Nat → Garbage) (header header' : Nat → Padding),
    outcome n skb { k with uninit := g } came header = outcome n skb k came header'

/-- The sizes are there, and so are the lists that decide how the hello lists
    the node. -/
def WholeHello (n : Node) (p : Packet) : Prop :=
  ∃ la_size, word p (vrr_header_size + 4) = some la_size ∧ (la_size.toNat ≤ VRR_PSET_SIZE →
    ∃ lna_size, word p (vrr_header_size + 8) = some lna_size ∧ (lna_size.toNat ≤ VRR_PSET_SIZE →
      ∃ p_size, word p (vrr_header_size + 12) = some p_size ∧ (p_size.toNat ≤ VRR_PSET_SIZE →
        ∃ la, words p (vrr_header_size + 16) la_size.toNat = some la ∧
          (n.me ∈ la ∨ (words p (vrr_header_size + 16 + la_size.toNat * 4)
            lna_size.toNat).isSome = true) ∧
          (p_size = 0 ∨ (words p (vrr_header_size + 16 + la_size.toNat * 4 + lna_size.toNat * 4)
            p_size.toNat).isSome = true))))

/-- The hop has no address to send to, or there is none. -/
def Unreached (n : Node) (hop : U32) : Prop := hop = 0 ∨ pset_get_mac n.pset hop = none

/-- When the route cannot be filed, the teardown that this leads to is for
    nobody. -/
def Unfiled (n : Node) (ea eb na nb pid : U32) : Prop :=
  ∀ rb alloc, (n.rt.rt_add_route rb alloc ea eb na nb pid).1 = false →
    Untold { n with rt := (n.rt.rt_add_route rb alloc ea eb na nb pid).2 } ea pid

/-- The answer to a request is for nobody. Either its source is taken in, and a
    route filed, or it is not, and asked for where it stands for none. -/
def Unanswered (n : Node) (src proxy : U32) : Prop :=
  Unreached n (hop_via n src proxy) ∧
    ((src ≠ UINT_MAX ∧ Wanted n src ∧ Seated n.vset ∧
        ∀ pid, Unfiled n n.me src n.me (hop_via n src proxy) pid) ∨
      ((src = UINT_MAX ∨ Unwanted n src) ∧ Unasked n (some [src])))

/-- A request that the node answers, unless it stops at a fault: its vset is not
    asked for, and the answer is for nobody. -/
def MuteSetupReq (n : Node) (p : Packet) : Prop :=
  RtTable.rt_get_next_exclude n.me n.rt p.dst p.src = 0 →
    ∃ proxy vset_size, word p vrr_header_size = some proxy ∧
      word p (vrr_header_size + 4) = some vset_size ∧ (vset_size.toNat ≤ VRR_VSET_SIZE →
        (p.src = UINT_MAX ∧ n.vset.vset_size = 0) ∨
        (Unasked n (words p (vrr_header_size + 8) vset_size.toNat) ∧ Unanswered n p.src proxy))

/-- A setup. From a stranger its path is torn down. From a neighbour it is for
    nobody further on, or at the end of the path its vset is not asked for. -/
def MuteSetup (n : Node) (skb : SkBuff) : Prop :=
  match sender_of n skb with
  | none =>
      (∃ pid, word skb.pkt vrr_header_size = some pid ∧ Untold n skb.pkt.src pid) ∨
        ∀ pid, (n.rt.rt_remove_route skb.pkt.src pid).1 = none
  | some sender =>
      ∃ pid proxy vset_size, word skb.pkt vrr_header_size = some pid ∧
        word skb.pkt (vrr_header_size + 4) = some proxy ∧
        word skb.pkt (vrr_header_size + 8) = some vset_size ∧
        Unfiled n skb.pkt.src skb.pkt.dst sender (setup_hop n skb.pkt.dst proxy) pid ∧
        (vset_size.toNat ≤ VRR_VSET_SIZE →
          if setup_hop n skb.pkt.dst proxy ≠ 0 then
            pset_get_mac n.pset (setup_hop n skb.pkt.dst proxy) = none
          else Unasked n (words skb.pkt (vrr_header_size + 12) vset_size.toNat) ∧
            Weighed n skb.pkt.src)

/-- A failure, likewise. -/
def MuteSetupFail (n : Node) (p : Packet) : Prop :=
  ∃ proxy vset_size, word p vrr_header_size = some proxy ∧
    word p (vrr_header_size + 4) = some vset_size ∧ (vset_size.toNat ≤ VRR_VSET_SIZE →
      if hop_via n p.dst proxy ≠ 0 then pset_get_mac n.pset (hop_via n p.dst proxy) = none
      else p.dst = n.me → Unasked n (words p (vrr_header_size + 8) vset_size.toNat))

/-- A teardown of a route that the node cannot have, or of one that it has. The
    other end is gone when its vset is asked for. -/
def MuteTeardown (n : Node) (p : Packet) : Prop :=
  (∀ ea pid, Readable p vrr_header_size ea → Readable p (vrr_header_size + 4) pid →
    (n.rt.rt_remove_route ea pid).1 = none) ∨
  ∃ ea pid route vset_size, word p vrr_header_size = some ea ∧
    word p (vrr_header_size + 4) = some pid ∧
    (n.rt.rt_remove_route ea pid).1 = some route ∧
    word p (vrr_header_size + 8) = some vset_size ∧ (vset_size.toNat ≤ VRR_VSET_SIZE →
      if (Vrr.teardown_side route p.src).2 ≠ 0 then
        pset_get_mac n.pset (Vrr.teardown_side route p.src).2 = none
      else
        Unasked (severed n ea pid (Vrr.teardown_side route p.src).1)
          (words p (vrr_header_size + 12) vset_size.toNat) ∧
        Weighed (severed n ea pid (Vrr.teardown_side route p.src).1) 0)

/-- The packet is handled on written memory, and no packet is built for it. -/
structure Mute (n : Node) (skb : SkBuff) : Prop where
  hello : skb.pkt.vh.pkt_type = VRR_HELLO → WholeHello n skb.pkt
  setup_req : skb.pkt.vh.pkt_type = VRR_SETUP_REQ → MuteSetupReq n skb.pkt
  setup : skb.pkt.vh.pkt_type = VRR_SETUP → MuteSetup n skb
  setup_fail : skb.pkt.vh.pkt_type = VRR_SETUP_FAIL → MuteSetupFail n skb.pkt
  teardown : skb.pkt.vh.pkt_type = VRR_TEARDOWN → MuteTeardown n skb.pkt

/-- From the nodes of `P`, with unwritten memory that differs, the two end in
    the same value and at the same node. -/
def SameEnd (P : Node → Prop) (x y : Vrr Int) : Prop :=
  Lockstep (Alike P) x y (fun a b s t => a = b ∧ Alike (fun _ => True) s t)

namespace Vrr

section Handlers

variable {P : Node → Prop}

theorem SameEnd.of_blind {x : Vrr Int} (h : Blind x) : SameEnd P x x :=
  h.twins (fun _ _ => trivial)

theorem SameEnd.pure (a : Int) : SameEnd P (Pure.pure a) (Pure.pure a) :=
  SameEnd.of_blind (Blind.pure a)

/-- A value that is thrown away. -/
theorem SameEnd.then_pure {α : Type} {x y : Vrr α} {Q : α → α → Sys → Sys → Prop}
    (h : Lockstep (Alike P) x y Q) (hQ : ∀ a b s t, Q a b s t → Alike (fun _ => True) s t)
    (a : Int) : SameEnd P (x >>= fun _ => Pure.pure a) (y >>= fun _ => Pure.pure a) :=
  h.bind (fun b c => Lockstep.pure a a (fun s t hst => ⟨rfl, hQ b c s t hst⟩))

/-- A word of the packet. One that is not there may differ. -/
theorem read_u32_lockstep (p : Packet) (offset : Nat) :
    Lockstep (Alike P) (read_u32 p offset) (read_u32 p offset)
      (fun a b s t => (Readable p offset a ∧ Readable p offset b) ∧ Alike P s t) := by
  unfold read_u32 Readable
  cases word p offset with
  | none =>
      refine uninit_lockstep.bind (fun stack stack' => Lockstep.pure _ _ (fun s t hst => ?_))
      exact ⟨⟨fun w h => (by cases h), fun w h => (by cases h)⟩, hst⟩
  | some w =>
      refine Lockstep.pure _ _ (fun s t hst => ⟨⟨?_, ?_⟩, hst⟩) <;>
        exact fun w' h => (Option.some.inj h).symm

/-- A word that is there. -/
theorem read_u32_there (p : Packet) (offset : Nat) (w : U32) (h : word p offset = some w) :
    read_u32 p offset = Pure.pure w := by
  rw [read_u32, h]

/-- The words of an array. One of no words is always there. -/
theorem read_array_lockstep (p : Packet) (offset size : Nat) :
    Lockstep (Alike P) (read_array p offset size) (read_array p offset size) (fun l l' s t =>
      ((∀ ws, words p offset size = some ws → l = ws ∧ l' = ws) ∧ (size = 0 → l = l') ∧
        l.length = l'.length) ∧ Alike P s t) := by
  unfold read_array
  cases words p offset size with
  | none =>
      refine uninit_lockstep.bind (fun buf buf' => Lockstep.pure _ _ (fun s t hst => ?_))
      refine ⟨⟨fun ws h => (by cases h), fun hsize => ?_, ?_⟩, hst⟩
      · rw [hsize, List.range_zero, List.map_nil, List.map_nil]
      · rw [List.length_map, List.length_map]
  | some ws =>
      refine Lockstep.pure _ _ (fun s t hst => ⟨⟨fun ws' h => ?_, fun _ => rfl, rfl⟩, hst⟩)
      exact ⟨Option.some.inj h, Option.some.inj h⟩

/-- A vset received, and what is done with it. -/
theorem received_vset_same (p : Packet) (offset room : Nat) (vset_size : U32)
    (k k' : List U32 → Vrr Int)
    (hk : vset_size.toNat ≤ VRR_VSET_SIZE → ∀ l l',
      (∀ ws, words p offset vset_size.toNat = some ws → l = ws ∧ l' = ws) →
        l.length = l'.length → SameEnd P (k l) (k' l')) :
    SameEnd P
      (if VRR_VSET_SIZE < vset_size.toNat then Pure.pure (-1) else do
        let vset ← kmalloc room
        if vset then do
          let vset ← read_array p offset vset_size.toNat
          k vset
        else Pure.pure (-1))
      (if VRR_VSET_SIZE < vset_size.toNat then Pure.pure (-1) else do
        let vset ← kmalloc room
        if vset then do
          let vset ← read_array p offset vset_size.toNat
          k' vset
        else Pure.pure (-1)) := by
  refine Lockstep.ite _ (fun _ => SameEnd.pure _) (fun hsize => ?_)
  refine (kmalloc_blind room P).lockstep (fun vset => Lockstep.ite _ (fun _ => ?_)
    (fun _ => SameEnd.pure _))
  refine (read_array_lockstep p offset _).bind (fun l l' => Lockstep.of_and (fun hl => ?_))
  exact hk (Nat.le_of_not_lt hsize) l l' hl.1 hl.2.2

theorem vrr_rcv_data_same (skb : SkBuff) : SameEnd P (vrr_rcv_data skb) (vrr_rcv_data skb) := by
  refine SameEnd.of_blind ?_
  unfold vrr_rcv_data
  refine node_blind.bind (fun me => Blind.ite _ (fun _ => ?_) (fun _ => ?_))
  · cases vrr_find_sock me.vrr_socks skb.pkt.src with
    | none => exact Blind.pure _
    | some sk =>
        exact Blind.bind (alike_gets _ (fun _ _ => rfl)) (fun ret => kfree_skb_blind.then_pure ret)
  · exact (vrr_forward_blind _).then_pure 0

/-- The words in front of one that is there are there. -/
theorem word_there (p : Packet) (a b : Nat) (hab : a ≤ b) (w : U32) (h : word p b = some w) :
    ∃ w', word p a = some w' := by
  unfold word skb_copy_bits at h ⊢
  split_ifs at h with hfit
  · rw [if_pos (by omega)]
    exact ⟨_, rfl⟩
  · cases h

theorem vrr_rcv_hello_same (n : Node) (skb : SkBuff) (h : WholeHello n skb.pkt) :
    SameEnd (fun m => m = n) (vrr_rcv_hello skb) (vrr_rcv_hello skb) := by
  rcases h with ⟨la_size, hla, hsizes⟩
  rcases word_there skb.pkt vrr_header_size (vrr_header_size + 4) (by omega) la_size hla with
    ⟨active, hactive⟩
  unfold vrr_rcv_hello
  refine (node_known n).lockstep (fun me => Lockstep.of_and (fun hme => ?_))
  rw [hme, read_u32_there _ _ _ hactive, read_u32_there _ _ _ hla]
  refine Lockstep.ite _ (fun _ => SameEnd.pure _) (fun hla20 => ?_)
  rcases hsizes (Nat.le_of_not_lt hla20) with ⟨lna_size, hlna, hsizes⟩
  rw [read_u32_there _ _ _ hlna]
  refine Lockstep.ite _ (fun _ => SameEnd.pure _) (fun hlna20 => ?_)
  rcases hsizes (Nat.le_of_not_lt hlna20) with ⟨p_size, hp, hlists⟩
  rw [read_u32_there _ _ _ hp]
  refine Lockstep.ite _ (fun _ => SameEnd.pure _) (fun hp20 => ?_)
  rcases hlists (Nat.le_of_not_lt hp20) with ⟨la, hlaw, hlnaw, hpw⟩
  refine (read_array_lockstep _ _ _).bind (fun l1 l1' => Lockstep.of_and (fun h1 => ?_))
  refine (read_array_lockstep _ _ _).bind (fun l2 l2' => Lockstep.of_and (fun h2 => ?_))
  refine (read_array_lockstep _ _ _).bind (fun l3 l3' => Lockstep.of_and (fun h3 => ?_))
  rw [(h1.1 la hlaw).1, (h1.1 la hlaw).2]
  -- what is not there does not decide
  have hlna' : n.me ∈ la ∨ l2 = l2' := by
    rcases hlnaw with hmem | hsome
    · exact Or.inl hmem
    · rcases Option.isSome_iff_exists.mp hsome with ⟨ws, hws⟩
      exact Or.inr ((h2.1 ws hws).1.trans (h2.1 ws hws).2.symm)
  have hp' : l3 = l3' := by
    rcases hpw with hzero | hsome
    · refine h3.2.1 ?_
      rw [hzero]
      rfl
    · rcases Option.isSome_iff_exists.mp hsome with ⟨ws, hws⟩
      exact (h3.1 ws hws).1.trans (h3.1 ws hws).2.symm
  have hlisted : hello_listed n.me la l2 l3 = hello_listed n.me la l2' l3' := by
    rw [hello_listed_eq, hello_listed_eq, hp']
    rcases hlna' with hmem | heq
    · simp only [hmem, true_or]
    · rw [heq]
  rw [hlisted]
  refine (kmalloc_blind 1 _).lockstep (fun update => Lockstep.ite _ (fun _ => ?_)
    (fun _ => SameEnd.pure _))
  exact SameEnd.then_pure (set_node_twins (Q := fun _ => True) _ (fun _ _ => trivial))
    (fun _ _ _ _ hst => hst.2) 0

theorem next_hop_via_alike (n : Node) (dst proxy : U32) :
    Twins (Alike (fun m => m = n)) (next_hop_via dst proxy)
      (fun nh s t => nh = hop_via n dst proxy ∧ Alike (fun m => m = n) s t) := by
  unfold next_hop_via hop_via rt_get_next
  refine (node_known n).bind (fun me => Lockstep.of_and (fun hme => ?_))
  rw [hme]
  refine Twins.ite _ (fun hstatus => ?_) (fun hstatus => ?_)
  · refine (node_known n).bind (fun me' => Lockstep.of_and (fun hme' => ?_))
    rw [if_pos hstatus, hme']
    exact Twins.pure _ (fun s t hst => ⟨rfl, hst⟩)
  · rw [if_neg hstatus]
    exact Twins.pure _ (fun s t hst => ⟨rfl, hst⟩)

theorem rt_get_next_exclude_alike (n : Node) (dest src : U32) :
    Twins (Alike (fun m => m = n)) (rt_get_next_exclude dest src) (fun nh s t =>
      nh = RtTable.rt_get_next_exclude n.me n.rt dest src ∧ Alike (fun m => m = n) s t) := by
  unfold rt_get_next_exclude
  refine (node_known n).bind (fun me => Lockstep.of_and (fun hme => ?_))
  rw [hme]
  exact Twins.pure _ (fun s t hst => ⟨rfl, hst⟩)

theorem setup_next_hop_alike (n : Node) (dst proxy : U32) :
    Twins (Alike (fun m => m = n)) (setup_next_hop dst proxy)
      (fun nh s t => nh = setup_hop n dst proxy ∧ Alike (fun m => m = n) s t) := by
  unfold setup_next_hop setup_hop rt_get_next
  refine (node_known n).bind (fun me => Lockstep.of_and (fun hme => ?_))
  rw [hme]
  refine Twins.ite _ (fun hstatus => ?_) (fun hstatus => ?_)
  · rw [if_pos hstatus]
    refine Twins.ite _ (fun hdst => ?_) (fun hdst => ?_)
    · rw [if_pos hdst]
      exact Twins.pure _ (fun s t hst => ⟨rfl, hst⟩)
    · rw [if_neg hdst]
      refine (node_known n).bind (fun me' => Lockstep.of_and (fun hme' => ?_))
      rw [hme']
      exact Twins.pure _ (fun s t hst => ⟨rfl, hst⟩)
  · rw [if_neg hstatus]
    exact Twins.pure _ (fun s t hst => ⟨rfl, hst⟩)

theorem vset_remove_alike (n : Node) (id : U32) :
    Twins (Alike (fun m => m = n)) (vset_remove id)
      (fun _ => Alike (fun m => m = { n with vset := (AlpacaVrr.vset_remove n.vset id).2 })) := by
  unfold vset_remove
  refine (node_blind _).bind (fun me => ?_)
  refine Twins.then_pure (set_node_twins _ (fun m hm => ?_)) _ (fun _ s t hst => hst)
  rw [hm]

/-- A vset that is not passed on. -/
theorem send_vset_same (pkt_type : U8) (src dst : U32) (data : List U32) (vset_size : Nat)
    (vset vset' : Option (List U32)) (hop : U32) (a : Int)
    (h : ∀ n, P n → pset_get_mac n.pset hop = none) :
    SameEnd P
      (do
        let _ ← send_vset pkt_type src dst data vset_size vset hop
        Pure.pure a)
      (do
        let _ ← send_vset pkt_type src dst data vset_size vset' hop
        Pure.pure a) :=
  SameEnd.then_pure (send_vset_unknown _ _ _ _ _ _ _ _ _ _ h)
    (fun _ _ _ _ hst => hst.mono (fun _ _ => trivial)) a

/-- A vset that is not asked for, and its source. -/
theorem vrr_add_same (ids : Option (List U32)) (src : U32) (l l' : List U32)
    (hl : ∀ ws, ids = some ws → l = ws ∧ l' = ws) (hids : ∀ n, P n → Unasked n ids)
    (hsrc : ∀ n, P n → Weighed n src) : SameEnd P (vrr_add src l) (vrr_add src l') :=
  (vrr_add_lockstep ids src l l' hl hids hsrc).post
    (fun _ _ _ _ hab => ⟨hab.1, hab.2.mono (fun _ _ => trivial)⟩)

/-- A path whose hops are no neighbours. -/
theorem tear_down_path_same (n : Node) (ea pid : U32) (a : Int) (h : Untold n ea pid) :
    SameEnd (fun m => m = n)
      (do
        let _ ← tear_down_path pid ea null
        Pure.pure a)
      (do
        let _ ← tear_down_path pid ea null
        Pure.pure a) :=
  SameEnd.then_pure (tear_down_path_twins n ea pid h)
    (fun _ _ _ _ hst => hst.2.mono (fun _ _ => trivial)) a

/-- A path that the node does not know, under any id. -/
theorem tear_down_path_none (n : Node) (ea pid pid' : U32) (a : Int)
    (h : ∀ pid, (n.rt.rt_remove_route ea pid).1 = none) :
    SameEnd (fun m => m = n)
      (do
        let _ ← tear_down_path pid ea null
        Pure.pure a)
      (do
        let _ ← tear_down_path pid' ea null
        Pure.pure a) := by
  have hrun : ∀ pid s, s.node = n →
      (do
        let _ ← tear_down_path pid ea null
        Pure.pure a : Vrr Int) s = .ok (a, s) := by
    intro pid s hs
    have hnone : (s.node.rt.rt_remove_route ea pid).1 = none := by
      rw [hs]
      exact h pid
    have htable := rt_remove_route_none s.node.rt ea pid hnone
    simp only [tear_down_path, rt_remove_route, Vrr.node, set_node, bind_apply, gets,
      FaultState.modify, hnone, htable]
    rfl
  intro s t hst
  rw [hrun pid s hst.1, hrun pid' t (by rw [hst.2.2]; exact hst.1)]
  exact ⟨rfl, hst.mono (fun _ _ => trivial)⟩

/-- A route that the node does not have. -/
theorem rt_remove_route_missing {α : Type} (n : Node) (ea pid ea' pid' : U32)
    (f f' : Option RtEntry → Vrr α) (e : Fault) (Q : α → α → Sys → Sys → Prop)
    (h : (n.rt.rt_remove_route ea pid).1 = none) (h' : (n.rt.rt_remove_route ea' pid').1 = none)
    (hf : f none = FaultState.fault e) (hf' : f' none = FaultState.fault e) :
    Lockstep (Alike (fun m => m = n)) (rt_remove_route ea pid >>= f)
      (rt_remove_route ea' pid' >>= f') Q := by
  intro s t hst
  have hs : (rt_remove_route ea pid >>= f) s = .error e := by
    have hnone : (s.node.rt.rt_remove_route ea pid).1 = none := by
      rw [hst.1]
      exact h
    change f (s.node.rt.rt_remove_route ea pid).1 _ = _
    rw [hnone, hf]
    rfl
  have ht : (rt_remove_route ea' pid' >>= f') t = .error e := by
    have hnone : (t.node.rt.rt_remove_route ea' pid').1 = none := by
      rw [hst.2.2]
      change (s.node.rt.rt_remove_route ea' pid').1 = none
      rw [hst.1]
      exact h'
    change f' (t.node.rt.rt_remove_route ea' pid').1 _ = _
    rw [hnone, hf']
    rfl
  rw [hs, ht]

theorem vrr_rcv_setup_fail_same (n : Node) (skb : SkBuff) (h : MuteSetupFail n skb.pkt) :
    SameEnd (fun m => m = n) (vrr_rcv_setup_fail skb) (vrr_rcv_setup_fail skb) := by
  rcases h with ⟨proxy, vset_size, hproxy, hsize, hvset⟩
  unfold vrr_rcv_setup_fail
  rw [read_u32_there _ _ _ hproxy, read_u32_there _ _ _ hsize]
  refine received_vset_same _ _ _ _ _ _ (fun hle l l' hl hlen => ?_)
  refine (next_hop_via_alike n _ _).lockstep (fun nh => Lockstep.of_and (fun hnh => ?_))
  have hvset := hvset hle
  rw [← hnh] at hvset
  refine Lockstep.ite _ (fun hhop => ?_) (fun hhop => ?_)
  · rw [if_pos hhop] at hvset
    refine send_vset_same _ _ _ _ _ _ _ _ _ (fun m hm => ?_)
    rw [hm]
    exact hvset
  · rw [if_neg hhop] at hvset
    refine (node_known n).lockstep (fun me => Lockstep.of_and (fun hme => ?_))
    refine Lockstep.ite _ (fun hdst => ?_) (fun _ => SameEnd.pure _)
    refine (overrun_blind _ _ _ _).lockstep (fun _ => ?_)
    refine SameEnd.then_pure (vrr_add_same _ _ l l' hl (fun m hm => ?_)
      (fun _ _ => Or.inl rfl)) (fun _ _ _ _ hst => hst.2) 0
    rw [hm]
    exact hvset (hdst.trans (congrArg Node.me hme))

theorem vrr_rcv_setup_same (n : Node) (skb : SkBuff) (h : MuteSetup n skb) :
    SameEnd (fun m => m = n) (vrr_rcv_setup skb) (vrr_rcv_setup skb) := by
  unfold MuteSetup at h
  unfold vrr_rcv_setup
  refine (node_known n).lockstep (fun me => Lockstep.of_and (fun hme => ?_))
  rw [hme]
  cases hs : sender_of n skb with
  | none =>
      -- the proxy is not looked at, and the path id only if there are routes
      rw [hs] at h
      unfold sender_of at hs
      refine (read_u32_lockstep _ _).bind (fun pid pid' => Lockstep.of_and (fun hpid => ?_))
      refine (read_u32_lockstep _ _).bind (fun _ _ => Lockstep.of_and (fun _ => ?_))
      rw [hs]
      rcases h with ⟨w, hw, huntold⟩ | hnone
      · rw [← hpid.1 w hw, ← hpid.2 w hw]
        exact tear_down_path_same n _ w 0 huntold
      · exact tear_down_path_none n _ pid pid' 0 hnone
  | some sender =>
      rw [hs] at h
      rcases h with ⟨pid, proxy, vset_size, hpid, hproxy, hsize, hunfiled, hvset⟩
      unfold sender_of at hs
      rw [read_u32_there _ _ _ hpid, read_u32_there _ _ _ hproxy, hs]
      change SameEnd _ (setup_next_hop _ _ >>= _) (setup_next_hop _ _ >>= _)
      refine (setup_next_hop_alike n _ _).lockstep (fun nh => Lockstep.of_and (fun hnh => ?_))
      rw [← hnh] at hunfiled hvset
      refine (rt_add_route_twins n _ _ _ _ _).lockstep (fun added => ?_)
      refine Alike.at (fun m hm => ?_)
      rcases hm with ⟨rb, alloc, hadded, rfl⟩
      refine Lockstep.ite _ (fun _ => ?_) (fun hnot => ?_)
      · -- the route changes nothing of what the rest depends on
        rw [read_u32_there _ _ _ hsize]
        refine received_vset_same _ _ _ _ _ _ (fun hle l l' hl hlen => ?_)
        have hvset := hvset hle
        refine Lockstep.ite _ (fun hhop => ?_) (fun hhop => ?_)
        · rw [if_pos hhop] at hvset
          refine send_vset_same _ _ _ _ _ _ _ _ _ (fun m hm => ?_)
          rw [hm]
          exact hvset
        · rw [if_neg hhop] at hvset
          refine (vrr_add_same _ _ l l' hl (fun m hm => ?_) (fun m hm => ?_)).bind
            (fun ret ret' => Lockstep.of_and (fun hret => ?_))
          · rw [hm]
            exact hvset.1
          · rw [hm]
            exact hvset.2
          · rw [← hret]
            refine Lockstep.ite _ (fun _ => ?_) (fun _ => SameEnd.pure _)
            exact SameEnd.then_pure (set_node_twins (Q := fun _ => True) _ (fun _ _ => trivial))
              (fun _ _ _ _ hst => hst.2) 0
      · refine tear_down_path_same _ _ _ 0 (hunfiled rb alloc ?_)
        rw [← hadded]
        simpa only [Bool.not_eq_true] using hnot

theorem vrr_rcv_teardown_same (n : Node) (skb : SkBuff) (h : MuteTeardown n skb.pkt) :
    SameEnd (fun m => m = n) (vrr_rcv_teardown skb) (vrr_rcv_teardown skb) := by
  unfold vrr_rcv_teardown
  rcases h with hnone | ⟨ea, pid, route, size, hea, hpid, hroute, hsize, hvset⟩
  · -- whatever is read, there is no such route
    refine (read_u32_lockstep _ _).bind (fun ea ea' => Lockstep.of_and (fun hea => ?_))
    refine (read_u32_lockstep _ _).bind (fun pid pid' => Lockstep.of_and (fun hpid => ?_))
    refine (read_u32_lockstep _ _).bind (fun _ _ => Lockstep.of_and (fun _ => ?_))
    exact rt_remove_route_missing n ea pid ea' pid' _ _ .nullRoute _ (hnone ea pid hea.1 hpid.1)
      (hnone ea' pid' hea.2 hpid.2) rfl rfl
  rw [read_u32_there _ _ _ hea, read_u32_there _ _ _ hpid, read_u32_there _ _ _ hsize]
  refine Lockstep.pure_bind _ _ (Lockstep.pure_bind _ _ (Lockstep.pure_bind _ _ ?_))
  refine (rt_remove_route_twins n ea pid).lockstep (fun found => Lockstep.of_and (fun hfound => ?_))
  rw [hfound, hroute]
  dsimp only
  generalize teardown_side route skb.pkt.src = side at hvset ⊢
  rcases side with ⟨endpt, next⟩
  refine received_vset_same _ _ _ _ _ _ (fun hle l l' hl hlen => ?_)
  have hvset := hvset hle
  refine Lockstep.ite _ (fun hhop => ?_) (fun hhop => ?_)
  · rw [if_pos hhop] at hvset
    refine SameEnd.then_pure (Q := fun _ _ => Alike (fun _ => True)) ?_
      (fun _ _ _ _ hst => hst) 0
    refine (node_blind _).lockstep (fun me => ?_)
    refine (send_vset_unknown _ _ _ _ _ _ _ _ _ _ (fun m hm => ?_)).post
      (fun _ _ _ _ hst => hst.mono (fun _ _ => trivial))
    rw [hm]
    exact hvset
  · -- at its end: the far endpoint is dropped and the ids are weighed
    rw [if_neg hhop] at hvset
    refine (vset_remove_alike _ _).lockstep (fun _ => ?_)
    refine SameEnd.then_pure (vrr_add_same _ _ l l' hl (fun m hm => ?_) (fun m hm => ?_))
      (fun _ _ _ _ hst => hst.2) 0
    · rw [hm]
      exact hvset.1
    · rw [hm]
      exact hvset.2

/-- An answer that is for nobody. -/
theorem send_answer_same (pkt_type : U8) (src dst : U32) (data : List U32) (n : Node)
    (size : Nat) (vset vset' : Option (List U32)) (hop : U32) (hP : ∀ m, P m → m.pset = n.pset)
    (h : Unreached n hop) (hhop : hop ≠ 0) :
    SameEnd P
      (do
        let _ ← send_vset pkt_type src dst data size vset hop
        Pure.pure 0)
      (do
        let _ ← send_vset pkt_type src dst data size vset' hop
        Pure.pure 0) := by
  refine send_vset_same _ _ _ _ _ _ _ _ _ (fun m hm => ?_)
  rw [hP m hm]
  exact h.resolve_left hhop

/-- The answer to a request whose source was taken in. -/
theorem vrr_local_rcv_setup_same (n : Node) (dst pid proxy : U32) (size : Nat)
    (vset vset' : Option (List U32)) (h : Unreached n (hop_via n dst proxy))
    (hunfiled : Unfiled n n.me dst n.me (hop_via n dst proxy) pid) :
    SameEnd (fun m => ∃ v, m = { n with vset := v })
      (vrr_local_rcv_setup dst pid proxy size vset)
      (vrr_local_rcv_setup dst pid proxy size vset') := by
  refine Alike.at (fun m hm => ?_)
  rcases hm with ⟨v, rfl⟩
  unfold vrr_local_rcv_setup
  refine (node_known _).lockstep (fun me => Lockstep.of_and (fun hme => ?_))
  rw [hme]
  refine (next_hop_via_alike _ _ _).lockstep (fun nh => Lockstep.of_and (fun hnh => ?_))
  have hhop : nh = hop_via n dst proxy := hnh
  refine (rt_add_route_twins _ _ _ _ _ _).lockstep (fun added => Alike.at (fun m hm => ?_))
  rcases hm with ⟨rb, alloc, hadded, rfl⟩
  refine Lockstep.ite _ (fun _ => ?_) (fun hnot => ?_)
  · refine Lockstep.ite _ (fun hne => ?_) (fun _ => SameEnd.pure _)
    refine send_answer_same _ _ _ _ n size vset vset' nh (fun m hm => by rw [hm]) ?_ hne
    rw [hhop]
    exact h
  · refine tear_down_path_same _ _ _ 0 ?_
    rw [hhop] at hadded ⊢
    refine hunfiled rb alloc ?_
    rw [Bool.not_eq_true] at hnot
    exact hadded.symm.trans hnot

/-- The answer to one whose source was not. -/
theorem vrr_local_rcv_setup_fail_same (n : Node) (dst proxy : U32) (size : Nat)
    (vset vset' : Option (List U32)) (hids : Unasked n (some [dst]))
    (h : Unreached n (hop_via n dst proxy)) :
    SameEnd (fun m => m = n) (vrr_local_rcv_setup_fail dst proxy size vset)
      (vrr_local_rcv_setup_fail dst proxy size vset') := by
  unfold vrr_local_rcv_setup_fail
  refine (node_blind _).lockstep (fun me => ?_)
  refine (kmalloc_blind _ _).lockstep (fun ovset => ?_)
  refine (next_hop_via_alike _ _ _).lockstep (fun nh => Lockstep.of_and (fun hnh => ?_))
  refine Lockstep.ite _ (fun _ => ?_) (fun _ => SameEnd.of_blind (Blind.fault _))
  refine Lockstep.ite _ (fun _ => SameEnd.of_blind (Blind.fault _)) (fun _ => ?_)
  refine (vrr_add_lockstep (some [dst]) UINT_MAX [dst] [dst] (fun ws hws => ?_) (fun m hm => ?_)
    (fun _ _ => Or.inl rfl)).bind (fun _ _ => Lockstep.of_and (fun _ => ?_))
  · exact ⟨Option.some.inj hws, Option.some.inj hws⟩
  · rw [hm]
    exact hids
  · refine Lockstep.ite _ (fun hhop => ?_) (fun _ => SameEnd.pure _)
    refine send_answer_same _ _ _ _ n size vset vset' nh (fun m hm => ?_) ?_ hhop
    · rcases hm with ⟨m', rfl, ⟨v, rfl⟩, _⟩
      rfl
    · rw [hnh]
      exact h

/-- Two states of one node with nothing in the virtual set and 0 on its counter.
    What the kernel grants is the same for both. -/
def Bare (s t : Sys) : Prop :=
  s.node = t.node ∧ s.node.vset.vset_size = 0 ∧ s.kern.kmalloc = t.kern.kmalloc ∧
    s.kern.random = t.kern.random

theorem bare_node : Twins Bare Vrr.node (fun n s t => n.vset.vset_size = 0 ∧ Bare s t) :=
  Twins.gets _ (fun _ _ hst => ⟨hst.1, hst.2.1, hst⟩)

theorem bare_kmalloc (size : Nat) : Twins Bare (kmalloc size) (fun _ => Bare) := by
  unfold kmalloc
  refine Twins.ite _ (fun _ => Twins.pure _ (fun _ _ hst => hst)) (fun _ s t hst => ?_)
  rcases hst with ⟨hnode, hzero, hkmalloc, hrandom⟩
  refine ⟨congrFun hkmalloc 0, hnode, hzero, ?_, hrandom⟩
  funext i
  exact congrFun hkmalloc (i + 1)

theorem bare_random : Twins Bare random (fun _ => Bare) := by
  rintro s t ⟨hnode, hzero, hkmalloc, hrandom⟩
  refine ⟨congrFun hrandom 0, hnode, hzero, hkmalloc, ?_⟩
  funext i
  exact congrFun hrandom (i + 1)

theorem bare_uninit : Lockstep Bare uninit uninit (fun _ _ => Bare) := fun _ _ hst => hst

theorem bare_vrr_output (pkt pkt' : Packet) :
    Lockstep Bare (vrr_output .allocated pkt) (vrr_output .allocated pkt') (fun _ _ => Bare) :=
  fun _ _ hst => hst

/-- The buffer for the virtual set has no words. -/
theorem bare_vset_get_all :
    Lockstep Bare vset_get_all vset_get_all (fun a b s t => (a.1 = 0 ∧ b.1 = 0) ∧ Bare s t) := by
  unfold vset_get_all
  refine bare_node.lockstep (fun me => Lockstep.of_and (fun hzero => ?_))
  refine (bare_kmalloc _).lockstep (fun all => bare_uninit.bind (fun g g' => ?_))
  refine Lockstep.ite _ (fun _ => Lockstep.pure _ _ (fun s t hst => ⟨⟨hzero, hzero⟩, hst⟩))
    (fun _ => Lockstep.ite _ (fun _ => Lockstep.pure _ _ (fun s t hst => ⟨⟨hzero, hzero⟩, hst⟩))
      (fun _ _ _ _ => rfl))

/-- Every id should be added. -/
theorem bare_vset_should_add (id id' : U32) :
    Lockstep Bare (vset_should_add id) (vset_should_add id')
      (fun a b s t => (a = true ∧ b = true) ∧ Bare s t) := by
  have hadd : ∀ (n : Node) (id : U32) (gl gr : Garbage), n.vset.vset_size = 0 →
      AlpacaVrr.vset_should_add n.me n.vset id gl gr = true := by
    intro n id gl gr hzero
    refine accepted_of_room ?_ (by rw [hzero]; decide) gl gr
    have hnil : n.vset.list = [] :=
      List.eq_nil_of_length_eq_zero (Nat.le_zero.mp (hzero ▸ n.vset.length_le))
    rw [Vset.nodes, hnil]
    exact List.not_mem_nil
  unfold vset_should_add
  refine bare_node.lockstep (fun me => Lockstep.of_and (fun hzero => ?_))
  refine bare_uninit.bind (fun _ _ => bare_uninit.bind (fun _ _ => ?_))
  exact Lockstep.pure _ _ (fun s t hst => ⟨⟨hadd _ _ _ _ hzero, hadd _ _ _ _ hzero⟩, hst⟩)

theorem bare_pset_get_proxy : Twins Bare pset_get_proxy (fun _ => Bare) := by
  unfold pset_get_proxy
  refine bare_node.bind (fun me => Lockstep.of_and (fun _ => ?_))
  refine Twins.bind (Q := fun _ => Bare) (Twins.modify _ (fun _ _ hst => hst)) (fun _ => ?_)
  refine Twins.ite _ (fun _ => Twins.pure _ (fun _ _ hst => hst)) (fun _ => ?_)
  exact bare_random.bind (fun r => Twins.pure _ (fun _ _ hst => hst))

theorem bare_send_setup_req (src dest dest' proxy : U32) :
    Lockstep Bare (send_setup_req src dest proxy) (send_setup_req src dest' proxy)
      (fun _ _ => Bare) := by
  unfold send_setup_req
  refine bare_node.lockstep (fun me => Lockstep.of_and (fun _ => ?_))
  refine bare_uninit.bind (fun _ _ => bare_vset_get_all.bind (fun all all' => ?_))
  rcases all with ⟨size, vset⟩
  rcases all' with ⟨size', vset'⟩
  refine Lockstep.of_and (fun hsizes => ?_)
  dsimp only at hsizes ⊢
  rw [hsizes.1, hsizes.2]
  refine (bare_kmalloc 1).lockstep (fun data => Lockstep.ite _ (fun _ => ?_) (fun _ _ _ _ => rfl))
  -- of no words none is read
  refine Lockstep.pure_bind [] [] ((bare_kmalloc 1).lockstep (fun skb =>
    Lockstep.ite _ (fun _ => ?_) (fun _ => Lockstep.pure _ _ (fun _ _ hst => hst))))
  exact (bare_vrr_output _ _).bind (fun _ _ => Lockstep.pure _ _ (fun _ _ hst => hst))

theorem bare_vrr_add_request (id id' : U32) :
    Lockstep Bare (vrr_add_request id) (vrr_add_request id') (fun _ _ => Bare) := by
  unfold vrr_add_request
  refine bare_node.lockstep (fun me => Lockstep.of_and (fun _ => ?_))
  refine (bare_vset_should_add id id').bind (fun should should' => Lockstep.of_and (fun hadd => ?_))
  rw [hadd.1, hadd.2]
  refine Lockstep.ite _ (fun _ => ?_) (fun h => absurd rfl h)
  refine bare_pset_get_proxy.lockstep (fun ret => ?_)
  cases ret with
  | none => exact Lockstep.pure _ _ (fun _ _ hst => hst)
  | some proxy =>
      exact (bare_send_setup_req _ _ _ _).bind (fun _ _ => Lockstep.pure _ _ (fun _ _ hst => hst))

/-- As many ids are asked for in both. -/
theorem bare_vrr_add_requests (l l' : List U32) (hlen : l.length = l'.length) :
    Lockstep Bare (l.forM vrr_add_request) (l'.forM vrr_add_request) (fun _ _ => Bare) := by
  induction l generalizing l' with
  | nil =>
      rw [List.eq_nil_of_length_eq_zero hlen.symm]
      exact Lockstep.pure _ _ (fun _ _ hst => hst)
  | cons id l ih =>
      cases l' with
      | nil => cases hlen
      | cons id' l' =>
          change Lockstep Bare (vrr_add_request id >>= fun _ => l.forM vrr_add_request)
            (vrr_add_request id' >>= fun _ => l'.forM vrr_add_request) _
          exact (bare_vrr_add_request id id').bind (fun _ _ => ih l' (Nat.succ.inj hlen))

theorem bare_next_hop_via (dst proxy : U32) :
    Twins Bare (next_hop_via dst proxy) (fun _ => Bare) := by
  unfold next_hop_via rt_get_next
  refine bare_node.bind (fun me => Lockstep.of_and (fun _ => ?_))
  refine Twins.ite _ (fun _ => ?_) (fun _ => Twins.pure _ (fun _ _ hst => hst))
  exact bare_node.bind (fun me' => Lockstep.of_and (fun _ => Twins.pure _ (fun _ _ hst => hst)))

/-- A request from the source that stands for none is refused, and handing back
    a vset of no words traps. -/
theorem bare_setup_fail_stops (dst proxy : U32) (vset vset' : Option (List U32)) :
    Lockstep Bare (vrr_local_rcv_setup_fail dst proxy 0 vset)
      (vrr_local_rcv_setup_fail dst proxy 0 vset') (fun _ _ _ _ => False) := by
  unfold vrr_local_rcv_setup_fail
  refine bare_node.lockstep (fun me => Lockstep.of_and (fun _ => ?_))
  refine (bare_kmalloc _).lockstep (fun ovset => (bare_next_hop_via _ _).lockstep (fun nh => ?_))
  refine Lockstep.ite _ (fun _ => ?_) (fun _ _ _ _ => rfl)
  exact Lockstep.ite _ (fun _ _ _ _ => rfl) (fun h => absurd rfl h)

theorem vrr_rcv_setup_req_same (n : Node) (skb : SkBuff) (h : MuteSetupReq n skb.pkt) :
    SameEnd (fun m => m = n) (vrr_rcv_setup_req skb) (vrr_rcv_setup_req skb) := by
  unfold vrr_rcv_setup_req
  refine (rt_get_next_exclude_alike n _ _).lockstep (fun nh => Lockstep.of_and (fun hnh => ?_))
  refine Lockstep.ite _ (fun _ => ?_) (fun hend => ?_)
  · exact SameEnd.of_blind ((vrr_forward_setup_req_blind _ _).then_pure 0)
  rcases h (hnh ▸ not_not.mp hend) with ⟨proxy, vset_size, hproxy, hsize, hvset⟩
  rw [read_u32_there _ _ _ hproxy, read_u32_there _ _ _ hsize]
  refine received_vset_same _ _ _ _ _ _ (fun hle l l' hl hlen => ?_)
  refine vset_get_all_lockstep.bind (fun all all' => ?_)
  rcases all with ⟨size, vset⟩
  rcases all' with ⟨size', vset'⟩
  dsimp only
  refine Lockstep.of_and (fun hsizes => ?_)
  rw [← hsizes]
  rcases hvset hle with ⟨hmax, hzero⟩ | ⟨hunasked, hunreached, htaken | ⟨hturned, hsrc⟩⟩
  · -- whatever is asked for, both runs stop there or where the answer is built
    refine Alike.at (fun m hm => ?_)
    rcases hm with ⟨rfl, hsize⟩
    have hnone : size = 0 := hsize.trans hzero
    rw [hnone, hmax]
    refine Lockstep.pre (R := Bare) ?_ (fun s t hst => ?_)
    · refine Lockstep.bind (Q := fun a b s t => (a = 0 ∧ b = 0) ∧ Bare s t) ?_
        (fun a b => Lockstep.of_and (fun hab => ?_))
      · exact (bare_vrr_add_requests l l' hlen).bind (fun _ _ => Lockstep.ite _
          (fun _ => Lockstep.pure _ _ (fun _ _ hst => ⟨⟨rfl, rfl⟩, hst⟩)) (fun h => absurd rfl h))
      · rw [hab.1, hab.2]
        exact (bare_setup_fail_stops _ _ vset vset').bind (fun _ _ _ _ hst => hst.elim)
    · rw [hst.2.2]
      exact ⟨rfl, hst.1 ▸ hzero, rfl, rfl⟩
  · refine (vrr_add_lockstep _ skb.pkt.src l l' hl (fun m hm => ?_) (fun m hm => ?_)).bind
      (fun a b => Lockstep.of_and (fun hab => ?_))
    · rw [hm.1]
      exact hunasked
    · rw [hm.1]
      exact Or.inr (Or.inr ⟨htaken.2.1, htaken.2.2.1⟩)
    rw [← hab]
    refine Lockstep.ite _ (fun _ => ?_) (fun hnot => ?_)
    · refine (random_blind _).lockstep (fun pid => ?_)
      refine SameEnd.then_pure ((vrr_local_rcv_setup_same n _ pid proxy size vset vset' hunreached
        (htaken.2.2.2 pid)).pre (Alike.mono (fun m hm => ?_))) (fun _ _ _ _ hst => hst.2) 0
      rcases hm with ⟨m', hm', ⟨v, rfl⟩, _⟩
      exact ⟨v, by rw [hm'.1]⟩
    · refine Alike.given (C := False) (fun m hm => ?_) False.elim
      rcases hm with ⟨m', hm', _, hzero, _⟩
      have hrefused := (hzero (not_not.mp hnot)).2
      rw [hm'.1] at hrefused
      rcases hrefused with hmax | hno
      · exact htaken.1 hmax
      · exact (acceptable_iff_not_unwanted n _).mp ⟨_, _, htaken.2.1⟩ hno
  · refine (vrr_add_lockstep _ skb.pkt.src l l' hl (fun m hm => ?_) (fun m hm => ?_)).bind
      (fun a b => Lockstep.of_and (fun hab => ?_))
    · rw [hm.1]
      exact hunasked
    · rw [hm.1]
      exact hturned.imp_right Or.inl
    rw [← hab]
    refine Lockstep.ite _ (fun hadded => ?_) (fun hnot => ?_)
    · refine Alike.given (C := False) (fun m hm => ?_) False.elim
      rcases hm with ⟨m', hm', _, _, hone⟩
      have hwanted := hone hadded
      rw [hm'.1] at hwanted
      rcases hturned with hmax | hno
      · exact hwanted.1 hmax
      · exact (acceptable_iff_not_unwanted n _).mp ⟨_, _, hwanted.2⟩ hno
    · refine SameEnd.then_pure ((vrr_local_rcv_setup_fail_same n _ proxy size vset vset' hsrc
        hunreached).pre (Alike.mono (fun m hm => ?_))) (fun _ _ _ _ hst => hst.2) 0
      rcases hm with ⟨m', hm', _, hzero, _⟩
      exact (hzero (not_not.mp hnot)).1.trans hm'.1

end Handlers

/-- What the handler of its type comes to. -/
theorem vrr_rcvfunc_same (n : Node) (skb : SkBuff) (hty : skb.pkt.vh.pkt_type < VRR_NPTYPES)
    (h : Mute n skb) : SameEnd (fun m => m = n) (vrr_rcvfunc skb) (vrr_rcvfunc skb) := by
  unfold vrr_rcvfunc
  refine Lockstep.ite _ (fun _ => vrr_rcv_data_same skb) (fun h0 => ?_)
  refine Lockstep.ite _ (fun h1 => vrr_rcv_hello_same n skb (h.hello h1)) (fun h1 => ?_)
  refine Lockstep.ite _ (fun h2 => vrr_rcv_setup_req_same n skb (h.setup_req h2)) (fun h2 => ?_)
  refine Lockstep.ite _ (fun h3 => vrr_rcv_setup_same n skb (h.setup h3)) (fun h3 => ?_)
  refine Lockstep.ite _ (fun h4 => vrr_rcv_setup_fail_same n skb (h.setup_fail h4)) (fun h4 => ?_)
  exact vrr_rcv_teardown_same n skb (h.teardown (eq_teardown _ hty h0 h1 h2 h3 h4))

theorem vrr_rcv_same (n : Node) (skb : SkBuff) (h : Mute (heard n skb.pkt.src) skb) :
    SameEnd (fun m => m = n) (vrr_rcv skb) (vrr_rcv skb) := by
  unfold vrr_rcv
  refine Lockstep.ite _ (fun _ => ?_) (fun hty => ?_)
  · exact SameEnd.of_blind (kfree_skb_blind.then_pure 1)
  · refine Twins.lockstep
      (set_node_twins (Q := fun m => m = heard n skb.pkt.src) _ (fun m hm => ?_)) (fun _ => ?_)
    · rw [hm]
      rfl
    · refine (vrr_rcvfunc_same _ skb (BitVec.not_le.mp hty) h).bind (fun err err' =>
        Lockstep.of_and (fun herr => ?_))
      rw [← herr]
      refine Lockstep.ite _ (fun _ => ?_) (fun _ => SameEnd.pure _)
      exact SameEnd.of_blind (kfree_skb_blind.then_pure 1)

end Vrr

/-- Unwritten memory does not influence how a mute packet is handled. -/
theorem mute_indifferent (n : Node) (skb : SkBuff) (h : Mute (heard n skb.pkt.src) skb) :
    Indifferent n skb := by
  intro k came g header header'
  have hrun := Vrr.vrr_rcv_same n skb h (Sys.boot n { k with uninit := g }) (Sys.boot n k)
    ⟨rfl, List.not_mem_nil, rfl⟩
  unfold outcome
  cases hs : Vrr.vrr_rcv skb (Sys.boot n { k with uninit := g }) with
  | ok p =>
      cases ht : Vrr.vrr_rcv skb (Sys.boot n k) with
      | ok q =>
          rw [hs, ht] at hrun
          rcases hrun with ⟨hret, _, hown, hstate⟩
          have hbytes : p.2.bytes_sent came header = q.2.bytes_sent came header' := by
            unfold Sys.bytes_sent
            rw [hstate]
            change List.mapIdx _ p.2.sent = List.mapIdx (fun i x => x.bytes
              (if SkbRef.allocated ∈ p.2.released then header' i else came)) p.2.sent
            simp only [if_neg hown]
          change Except.ok (p.1, p.2.node, _) = Except.ok (q.1, q.2.node, _)
          rw [hret, hbytes, hstate]
          rfl
      | error e =>
          rw [hs, ht] at hrun
          exact hrun.elim
  | error e =>
      cases ht : Vrr.vrr_rcv skb (Sys.boot n k) with
      | ok q =>
          rw [hs, ht] at hrun
          exact hrun.elim
      | error e' =>
          rw [hs, ht] at hrun
          exact congrArg Except.error hrun

end AlpacaVrr
