import AlpacaVrr.Lib.Lockstep
import AlpacaVrr.Theory.Repair
import AlpacaVrr.Theory.Weighing

/-!
# Blind Computations

Two runs of the same code on different contents of the memory that it never
wrote, and the parts of the code that cannot tell them apart.

`Alike` relates two states that are equal but for that memory, and in which no
packet of the node's own has been sent: the header of one is a copy of a
variable whose padding nobody wrote. A computation is `Blind` when from such
states it ends in equal values and in such states again, the node untouched.
Lookups, allocations and passing on a buffer that was received are blind
outright. What is left draws unwritten memory or builds a packet. It is blind
under a condition on the node.

Unwritten memory goes unnoticed where nothing is done with it. A node without
an active neighbour to send through requests no id, whichever ids it is handed,
and a hop that is no neighbour is sent nothing.

## Main definitions

* `Alike`: Two states that differ in unwritten memory only.
* `Blind`: A computation that cannot tell them apart.
* `Unasked`, `Weighed`, `Untold`: No request, one outcome for a source, and no
  teardown.

## Theorems

* `Blind.bind`, `Blind.ite`: What the parts cannot tell apart the whole cannot.
* `vset_should_add_twins`, `vset_add_twins`, `vset_get_all_lockstep`: What draws
  unwritten memory, where it has no effect.
* `vrr_add_lockstep`: Taking a vset received into account.
* `tear_down_path_twins`: Tearing a path down without a word.
-/

namespace AlpacaVrr

open FaultState

/-- The same with other contents of the memory that was never written. -/
def Sys.refill (s : Sys) (g : Nat → Garbage) : Sys :=
  { s with kern := { s.kern with uninit := g } }

/-- Two states at a node that is `P`, equal but for unwritten memory. No packet
    of the node's own has been sent. -/
def Alike (P : Node → Prop) (s t : Sys) : Prop :=
  P s.node ∧ SkbRef.allocated ∉ s.released ∧ t = s.refill t.kern.uninit

/-- The computation does not see unwritten memory, builds no packet, and does
    not touch the node. -/
def Blind {α : Type} (x : Vrr α) : Prop := ∀ P, Twins (Alike P) x (fun _ => Alike P)

/-- None of the ids is asked for. They may not have been received, and then
    they are any. -/
def Unasked (n : Node) (ids : Option (List U32)) : Prop :=
  pset_active n.pset = [] ∨ ∀ id, (∀ l, ids = some l → id ∈ l) → Unwanted n id

/-- The source of a vset is turned down in any case, or taken in in any case and
    in one way. -/
def Weighed (n : Node) (src : U32) : Prop :=
  src = UINT_MAX ∨ Unwanted n src ∨ (Wanted n src ∧ Seated n.vset)

/-- The route that a teardown removes, if there is one, has no neighbour for a
    hop. -/
def Untold (n : Node) (ea pid : U32) : Prop :=
  ∀ route, (n.rt.rt_remove_route ea pid).1 = some route → ¬ Told n route.na ∧ ¬ Told n route.nb

section Alike

variable {P Q : Node → Prop}

theorem Alike.mono (h : ∀ n, P n → Q n) (s t : Sys) (hst : Alike P s t) : Alike Q s t :=
  ⟨h s.node hst.1, hst.2⟩

/-- What is read of the visible part is equal. -/
theorem alike_gets {α : Type} (f : Sys → α) (hf : ∀ s g, f (s.refill g) = f s) :
    Blind (gets f) := by
  intro P
  refine Twins.gets f (fun s t hst => ⟨?_, hst⟩)
  rw [hst.2.2, hf]

/-- A change of the visible part is the same change in both. -/
theorem alike_modify (f : Sys → Sys) (hnode : ∀ s, P s.node → Q (f s).node)
    (hown : ∀ s, SkbRef.allocated ∉ s.released → SkbRef.allocated ∉ (f s).released)
    (hf : ∀ s g, f (s.refill g) = (f s).refill g) :
    Twins (Alike P) (FaultState.modify f : Vrr Unit) (fun _ => Alike Q) := by
  refine Twins.modify f (fun s t hst => ⟨hnode s hst.1, hown s hst.2.1, ?_⟩)
  rw [hst.2.2, hf]
  rfl

/-- The node that is read is the same in both, and it is the one known. -/
theorem node_twins : Twins (Alike P) Vrr.node (fun n => Alike (fun m => m = n ∧ P m)) := by
  refine Twins.gets Sys.node (fun s t hst => ⟨?_, ⟨rfl, hst.1⟩, hst.2⟩)
  rw [hst.2.2]
  rfl

theorem node_known (n : Node) : Twins (Alike (fun m => m = n)) Vrr.node
    (fun me s t => me = n ∧ Alike (fun m => m = n) s t) :=
  node_twins.post (fun _ _ _ hst => ⟨hst.1.1.symm.trans hst.1.2, hst.mono (fun _ hm => hm.2)⟩)

/-- What holds of the node can be used. -/
theorem Alike.given {α β : Type} {x : Vrr α} {y : Vrr β} {S : α → β → Sys → Sys → Prop} {C : Prop}
    (hC : ∀ n, P n → C) (h : C → Lockstep (Alike P) x y S) : Lockstep (Alike P) x y S :=
  Lockstep.given (fun s _ hst => hC s.node hst.1) h

/-- The node can be taken as known. -/
theorem Alike.at {α β : Type} {x : Vrr α} {y : Vrr β} {S : α → β → Sys → Sys → Prop}
    (h : ∀ n, P n → Lockstep (Alike (fun m => m = n)) x y S) : Lockstep (Alike P) x y S :=
  fun s t hst => h s.node hst.1 s t ⟨rfl, hst.2⟩

/-- Unwritten memory drawn: the contents have nothing to do with each other. -/
theorem uninit_lockstep :
    Lockstep (Alike P) Vrr.uninit Vrr.uninit (fun _ _ => Alike P) := by
  intro s t hst
  refine ⟨hst.1, hst.2.1, ?_⟩
  rw [hst.2.2]
  rfl

theorem set_node_lockstep (f f' : Node → Node) (h : ∀ n, P n → f n = f' n ∧ Q (f n)) :
    Lockstep (Alike P) (Vrr.set_node f) (Vrr.set_node f') (fun _ _ => Alike Q) := by
  intro s t hst
  rcases h s.node hst.1 with ⟨heq, hq⟩
  refine ⟨hq, hst.2.1, ?_⟩
  rw [hst.2.2]
  change { s.refill t.kern.uninit with node := f' s.node } =
    Sys.refill { s with node := f s.node } t.kern.uninit
  rw [heq]
  rfl

theorem set_node_twins (f : Node → Node) (h : ∀ n, P n → Q (f n)) :
    Twins (Alike P) (Vrr.set_node f) (fun _ => Alike Q) :=
  alike_modify _ (fun s => h s.node) (fun _ hown => hown) (fun _ _ => rfl)

end Alike

namespace Blind

variable {α β : Type} {x y : Vrr α} {f : α → Vrr β}

theorem pure (a : α) : Blind (Pure.pure a : Vrr α) :=
  fun _ => Twins.pure a (fun _ _ hst => hst)

theorem fault (e : Fault) : Blind (FaultState.fault e : Vrr α) := fun _ => Twins.fault e

theorem bind (hx : Blind x) (hf : ∀ a, Blind (f a)) : Blind (x >>= f) :=
  fun P => (hx P).bind (fun a => hf a P)

theorem ite (c : Prop) [Decidable c] (ht : c → Blind x) (hf : ¬ c → Blind y) :
    Blind (if c then x else y) :=
  fun P => Twins.ite c (fun h => ht h P) (fun h => hf h P)

/-- A computation whose result is thrown away. -/
theorem then_pure (hx : Blind x) (b : β) : Blind (x >>= fun _ => Pure.pure b) :=
  hx.bind (fun _ => pure b)

/-- What a blind computation is run for does not matter to the node. -/
theorem twins {P Q : Node → Prop} (hx : Blind x) (h : ∀ n, P n → Q n) :
    Twins (Alike P) x (fun _ => Alike Q) :=
  (hx P).post (fun _ _ _ hst => hst.mono h)

end Blind

namespace Vrr

theorem node_blind : Blind Vrr.node := alike_gets Sys.node (fun _ _ => rfl)

theorem kmalloc_blind (size : Nat) : Blind (kmalloc size) := by
  unfold kmalloc
  refine Blind.ite _ (fun _ => Blind.pure _) (fun _ P s t hst => ?_)
  refine ⟨?_, hst.1, hst.2.1, ?_⟩ <;> rw [hst.2.2] <;> rfl

theorem random_blind : Blind random := by
  intro P s t hst
  refine ⟨?_, hst.1, hst.2.1, ?_⟩ <;> rw [hst.2.2] <;> rfl

theorem overrun_blind (buffer : Buffer) (size n : Nat) : Blind (overrun buffer size n) :=
  fun _ => alike_modify _ (fun _ h => h) (fun _ hown => hown) (fun _ _ => rfl)

/-- Releasing the buffer that was received. -/
theorem kfree_skb_blind : Blind (kfree_skb .received) := by
  refine fun _ => alike_modify _ (fun _ h => h) (fun s hown hmem => ?_) (fun _ _ => rfl)
  rcases List.mem_append.mp hmem with hmem | hmem
  · exact hown hmem
  · rw [List.mem_singleton] at hmem
    cases hmem

theorem rt_alloc_blind : Blind rt_alloc :=
  (kmalloc_blind 1).bind fun _ => (kmalloc_blind 1).bind fun _ =>
    (kmalloc_blind 1).bind fun _ => (kmalloc_blind 1).bind fun _ => Blind.pure _

theorem rt_get_next_blind (dest : U32) : Blind (rt_get_next dest) :=
  node_blind.bind (fun _ => Blind.pure _)

/-- Passing on the buffer that was received. -/
theorem vrr_output_blind (pkt : Packet) : Blind (vrr_output .received pkt) := by
  unfold vrr_output
  refine Blind.bind (fun _ => alike_modify _ (fun _ h => h) (fun _ hown => hown)
    (fun _ _ => rfl)) (fun _ => ?_)
  exact kfree_skb_blind.then_pure 0

theorem vrr_forward_blind (pkt : Packet) : Blind (vrr_forward pkt) := by
  unfold vrr_forward
  refine (rt_get_next_blind _).bind (fun nh => node_blind.bind (fun me => ?_))
  refine Blind.ite _ (fun _ => Blind.pure _) (fun _ => ?_)
  cases pset_get_mac me.pset nh with
  | none => exact Blind.pure _
  | some mac => exact vrr_output_blind _

theorem vrr_forward_setup_req_blind (pkt : Packet) (nh : U32) :
    Blind (vrr_forward_setup_req pkt nh) := by
  unfold vrr_forward_setup_req
  refine node_blind.bind (fun me => ?_)
  cases pset_get_mac me.pset nh with
  | none => exact Blind.pure _
  | some mac => exact vrr_output_blind _

section Silence

variable {P : Node → Prop}

/-- A next hop that is no neighbour gets nothing, so the vset to send to it
    does not matter. -/
theorem send_vset_unknown (pkt_type : U8) (src dst : U32) (data data' : List U32)
    (vset_size vset_size' : Nat) (vset vset' : Option (List U32)) (hop : U32)
    (h : ∀ n, P n → pset_get_mac n.pset hop = none) :
    Lockstep (Alike P) (send_vset pkt_type src dst data vset_size vset hop)
      (send_vset pkt_type src dst data' vset_size' vset' hop) (fun _ _ => Alike P) := by
  unfold send_vset
  refine node_twins.lockstep (fun me => ?_)
  refine Alike.given (C := pset_get_mac me.pset hop = none) (fun n hn => ?_) (fun hnone => ?_)
  · rw [← hn.1]
    exact h n hn.2
  · rw [hnone]
    exact Lockstep.pure _ _ (fun s t hst => hst.mono (fun _ hn => hn.2))

/-- A hop that is no neighbour is not told. -/
theorem tear_down_hop_twins (pid ea sender hop : U32) (h : ∀ n, P n → ¬ Told n hop) :
    Twins (Alike P) (tear_down_hop pid ea sender hop) (fun _ => Alike P) := by
  unfold tear_down_hop
  refine node_twins.bind (fun me => ?_)
  refine Alike.given (C := ¬ Told me hop) (fun n hn => ?_) (fun hno => ?_)
  · rw [← hn.1]
    exact h n hn.2
  · exact Twins.ite _ (fun htold => absurd htold hno)
      (fun _ => Twins.pure _ (fun s t hst => hst.mono (fun _ hn => hn.2)))

variable (n : Node)

/-- The routing table is all that changes, and in the same way. -/
theorem rt_add_route_twins (ea eb na nb pid : U32) :
    Twins (Alike (fun m => m = n)) (rt_add_route ea eb na nb pid) (fun ok => Alike (fun m =>
      ∃ rb alloc, ok = (n.rt.rt_add_route rb alloc ea eb na nb pid).1 ∧
        m = { n with rt := (n.rt.rt_add_route rb alloc ea eb na nb pid).2 })) := by
  unfold rt_add_route
  refine (rt_alloc_blind _).bind (fun alloc => ?_)
  refine Twins.bind (alike_gets (fun s => s.kern.rb_insert_color) (fun _ _ => rfl) _) (fun rb => ?_)
  refine (node_known n).bind (fun me => Lockstep.of_and (fun hme => ?_))
  rw [hme]
  refine Twins.then_pure (Q := fun _ => Alike (fun m =>
    m = { n with rt := (n.rt.rt_add_route rb alloc ea eb na nb pid).2 })) ?_ _
    (fun _ _ _ hst => hst.mono (fun m hm => ⟨rb, alloc, rfl, hm⟩))
  refine alike_modify _ (fun s hs => ?_) (fun _ hown => hown) (fun _ _ => rfl)
  rw [hs]

theorem rt_remove_route_twins (ea pid : U32) :
    Twins (Alike (fun m => m = n)) (rt_remove_route ea pid) (fun route s t =>
      route = (n.rt.rt_remove_route ea pid).1 ∧ Alike (fun m => m = unroute n ea pid) s t) := by
  unfold rt_remove_route
  refine (node_known n).bind (fun me => Lockstep.of_and (fun hme => ?_))
  rw [hme]
  exact Twins.then_pure (set_node_twins (Q := fun m => m = unroute n ea pid) _
    (fun m hm => by rw [hm]; rfl)) _ (fun _ _ _ hst => ⟨rfl, hst⟩)

/-- Nobody is told when no hop is a neighbour. -/
theorem tear_down_path_twins (ea pid : U32) (h : Untold n ea pid) :
    Twins (Alike (fun m => m = n)) (tear_down_path pid ea null)
      (fun _ => Alike (fun m => m = unroute n ea pid)) := by
  unfold tear_down_path
  refine (rt_remove_route_twins n ea pid).bind
    (fun route => Lockstep.of_and (fun hroute => ?_))
  cases route with
  | none => exact Twins.pure _ (fun _ _ hst => hst)
  | some route =>
      have hhops := h route hroute.symm
      refine (tear_down_hop_twins _ _ _ _ (fun m hm => ?_)).bind (fun _ => ?_)
      · rw [hm]
        exact hhops.1
      refine (tear_down_hop_twins _ _ _ _ (fun m hm => ?_)).bind (fun _ => ?_)
      · rw [hm]
        exact hhops.2
      exact Twins.then_pure (tear_down_hop_twins _ _ _ _ (fun _ _ hnull => hnull.1 rfl)) _
        (fun _ _ _ hst => hst)

end Silence

section Vsets

variable {P : Node → Prop}

/-- An id on which unwritten memory has no say. -/
theorem vset_should_add_twins (id : U32) (h : ∀ n, P n → Unwanted n id ∨ Wanted n id) :
    Twins (Alike P) (vset_should_add id) (fun should => Alike (fun n => P n ∧
      (should = true → Wanted n id) ∧ (should = false → Unwanted n id))) := by
  unfold vset_should_add
  refine node_twins.lockstep (fun me => ?_)
  refine uninit_lockstep.bind (fun left left' => uninit_lockstep.bind (fun right right' => ?_))
  refine Alike.given (C := Unwanted me id ∨ Wanted me id) (fun n hn => ?_) (fun hdec => ?_)
  · rw [← hn.1]
    exact h n hn.2
  · rcases hdec with hno | hyes
    · rw [not_acceptable_of_unwanted hno, not_acceptable_of_unwanted hno]
      refine Lockstep.pure _ _ (fun s t hst => ⟨rfl, hst.mono (fun n hn => ⟨hn.2, ?_, ?_⟩)⟩)
      · exact fun h => absurd h Bool.false_ne_true
      · rw [hn.1]
        exact fun _ => hno
    · rw [(accepted_iff_wanted me id).mpr hyes, (accepted_iff_wanted me id).mpr hyes]
      refine Lockstep.pure _ _ (fun s t hst => ⟨rfl, hst.mono (fun n hn => ⟨hn.2, ?_, ?_⟩)⟩)
      · rw [hn.1]
        exact fun _ => hyes
      · exact fun h => absurd h.symm Bool.false_ne_true

/-- The virtual set is all that changes. -/
theorem vset_add_twins (id rem : U32) (h : ∀ n, P n → Seated n.vset) :
    Twins (Alike P) (vset_add id rem)
      (fun _ => Alike (fun n => ∃ m v, P m ∧ n = { m with vset := v })) := by
  unfold vset_add
  refine node_twins.bind (fun me => ?_)
  have hsame : ∀ n, n = me ∧ P n → ∃ m v, P m ∧ n = { m with vset := v } :=
    fun n hn => ⟨n, n.vset, hn.2, rfl⟩
  refine Twins.ite _ (fun _ => Twins.pure _ (fun s t hst => hst.mono hsame)) (fun _ => ?_)
  refine (kmalloc_blind 1 _).bind (fun tmp => Twins.ite _ (fun _ => ?_) (fun _ => Twins.fault _))
  refine uninit_lockstep.bind (fun left left' => uninit_lockstep.bind (fun right right' => ?_))
  refine Alike.given (C := Seated me.vset) (fun n hn => ?_) (fun hseated => ?_)
  · rw [← hn.1]
    exact h n hn.2
  · -- the garbage of the second run is as good as that of the first
    have hsame := vset_add_seated me.me me.vset id rem left right left' right' hseated
    rw [hsame]
    refine Lockstep.bind (set_node_lockstep (Q := fun n => ∃ m v, P m ∧ n = { m with vset := v })
      _ _ (fun n hn => ⟨?_, n, _, hn.2, rfl⟩))
      (fun _ _ => Lockstep.pure _ _ (fun s t hst => ⟨rfl, hst⟩))
    rw [hn.1, hsame]

/-- The size handed back is the counter, whatever the buffer holds. -/
theorem vset_get_all_lockstep :
    Lockstep (Alike P) vset_get_all vset_get_all (fun a b s t => a.1 = b.1 ∧
      Alike (fun n => P n ∧ a.1 = n.vset.vset_size) s t) := by
  unfold vset_get_all
  refine node_twins.lockstep (fun me => (kmalloc_blind _ _).lockstep (fun vset_all => ?_))
  refine uninit_lockstep.bind (fun g g' => ?_)
  have hmono : ∀ s t, Alike (fun n => n = me ∧ P n) s t →
      Alike (fun n => P n ∧ me.vset.vset_size = n.vset.vset_size) s t :=
    fun s t hst => hst.mono (fun n hn => ⟨hn.2, by rw [hn.1]⟩)
  refine Lockstep.ite _ (fun _ => ?_) (fun _ => Lockstep.ite _ (fun _ => ?_) (fun _ => ?_))
  · exact Lockstep.pure _ _ (fun s t hst => ⟨rfl, hmono s t hst⟩)
  · exact Lockstep.pure _ _ (fun s t hst => ⟨rfl, hmono s t hst⟩)
  · exact fun _ _ _ => rfl

/-- Ids that are not wanted, or that there is nobody to ask for, make no
    difference. -/
theorem vrr_add_requests_unasked (s : Sys) (l : List U32)
    (h : pset_active s.node.pset = [] ∨ ∀ id ∈ l, Unwanted s.node id) :
    Triple (fun u => u = s) (l.forM vrr_add_request) (fun _ t => ∃ g, t = s.refill g)
      (fun _ => False) := by
  have huninit : Confines (fun t => ∃ g, t = s.refill g) (fun _ => False) uninit := by
    rintro t ⟨g, rfl⟩
    exact ⟨_, rfl⟩
  have hproxy : pset_active s.node.pset = [] → Triple (fun t => ∃ g, t = s.refill g) pset_get_proxy
      (fun ret t => ret = none ∧ ∃ g, t = s.refill g) (fun _ => False) := by
    rintro hidle t ⟨g, rfl⟩
    have hnode : (s.refill g).node = s.node := rfl
    -- an array of no elements is written within its bounds
    simp only [pset_get_proxy, Vrr.node, overrun, bind_apply, gets, FaultState.modify, hnode,
      hidle, List.length_nil, Nat.zero_sub, List.range_zero, List.map_nil, List.append_nil,
      if_true]
    exact ⟨rfl, g, rfl⟩
  have hshould : ∀ id, Triple (fun t => ∃ g, t = s.refill g) (vset_should_add id)
      (fun should t => (∃ g, t = s.refill g) ∧ (should = true → ¬ Unwanted s.node id))
      (fun _ => False) := by
    intro id
    unfold vset_should_add
    refine Triple.bind (Q := fun n t => (∃ g, t = s.refill g) ∧ n = s.node)
      (Triple.gets _ (fun t ht => ⟨ht, ?_⟩)) (fun n => Triple.of_and (fun hn => ?_))
    · rcases ht with ⟨g, rfl⟩
      rfl
    rw [hn]
    refine Triple.bind huninit (fun left => Triple.bind huninit (fun right =>
      Triple.pure _ (fun t ht => ⟨ht, fun hyes hno => ?_⟩)))
    rw [not_acceptable_of_unwanted hno] at hyes
    exact Bool.false_ne_true hyes
  have hloop : Confines (fun t => ∃ g, t = s.refill g) (fun _ => False)
      (l.forM vrr_add_request) := by
    refine Confines.forM l _ (fun id hid => ?_)
    unfold vrr_add_request
    refine Confines.bind (Confines.gets _) (fun me => ?_)
    refine Triple.bind (hshould id) (fun should => Triple.of_and (fun hwanted => ?_))
    refine Triple.ite _ (fun hyes => ?_) (fun _ => Confines.pure _)
    have hidle := h.resolve_right (fun hall => hwanted hyes (hall id hid))
    refine Triple.bind (hproxy hidle) (fun ret => ?_)
    rintro t ⟨rfl, ht⟩
    exact ht
  exact Triple.pre hloop (fun t ht => ⟨s.kern.uninit, ht⟩)

/-- The ids of a vset, which may not have been received. None is asked for. -/
theorem vrr_add_requests_lockstep (ids : Option (List U32)) (l l' : List U32)
    (hl : ∀ w, ids = some w → l = w ∧ l' = w) (h : ∀ n, P n → Unasked n ids) :
    Lockstep (Alike P) (l.forM vrr_add_request) (l'.forM vrr_add_request)
      (fun _ _ => Alike P) := by
  have hids : ∀ n, P n → (pset_active n.pset = [] ∨ ∀ id ∈ l, Unwanted n id) ∧
      (pset_active n.pset = [] ∨ ∀ id ∈ l', Unwanted n id) := by
    intro n hn
    constructor
    · exact (h n hn).imp_right fun hall id hid => hall id (fun w hw => (hl w hw).1 ▸ hid)
    · exact (h n hn).imp_right fun hall id hid => hall id (fun w hw => (hl w hw).2 ▸ hid)
  refine Lockstep.apart (I := fun s s' => ∃ g, s' = s.refill g)
    (J := fun t t' => ∃ g, t' = t.refill g) (fun s t hst => ?_) (fun s t hst => ?_) ?_
  · exact vrr_add_requests_unasked s l (hids s.node hst.1).1
  · refine vrr_add_requests_unasked t l' ?_
    rw [hst.2.2]
    exact (hids s.node hst.1).2
  · rintro _ _ s t _ _ ⟨hs, hown, ht⟩ ⟨g, rfl⟩ ⟨g', rfl⟩
    refine ⟨hs, hown, ?_⟩
    rw [ht]
    rfl

/-- `vrr_add` on a vset that may not have been received: it answers the same,
    and the virtual set is all that changes. -/
theorem vrr_add_lockstep (ids : Option (List U32)) (src : U32) (l l' : List U32)
    (hl : ∀ w, ids = some w → l = w ∧ l' = w) (hids : ∀ n, P n → Unasked n ids)
    (hsrc : ∀ n, P n → Weighed n src) :
    Lockstep (Alike P) (vrr_add src l) (vrr_add src l') (fun a b s t => a = b ∧
      Alike (fun n => ∃ m, P m ∧ (∃ v, n = { m with vset := v }) ∧
        (a = 0 → n = m ∧ (src = UINT_MAX ∨ Unwanted m src)) ∧
        (a ≠ 0 → src ≠ UINT_MAX ∧ Wanted m src)) s t) := by
  unfold vrr_add
  refine Lockstep.bind (vrr_add_requests_lockstep ids l l' hl hids) (fun _ _ => ?_)
  refine Lockstep.ite _ (fun hmax => ?_) (fun hmax => ?_)
  · refine Lockstep.pure _ _ (fun s t hst => ⟨rfl, hst.mono (fun n hn => ?_)⟩)
    exact ⟨n, hn, ⟨n.vset, rfl⟩, fun _ => ⟨rfl, Or.inl hmax⟩, fun h => absurd rfl h⟩
  · refine Twins.bind (vset_should_add_twins src (fun n hn =>
      ((hsrc n hn).resolve_left hmax).imp_right And.left))
      (fun should => Twins.ite _ (fun hshould => ?_) (fun hshould => ?_))
    · refine Twins.then_pure (vset_add_twins src 0 (fun n hn => ?_)) _
        (fun _ s t hst => hst.mono ?_)
      · -- an id that is wanted is not unwanted
        rcases (hsrc n hn.1).resolve_left hmax with hno | hyes
        · have hwanted := hn.2.1 hshould
          exact absurd hno ((acceptable_iff_not_unwanted n src).mp ⟨_, _, hwanted⟩)
        · exact hyes.2
      · rintro n ⟨m, v, hm, rfl⟩
        exact ⟨m, hm.1, ⟨v, rfl⟩, fun h => absurd h (by decide),
          fun _ => ⟨hmax, hm.2.1 hshould⟩⟩
    · refine Twins.pure _ (fun s t hst => hst.mono (fun n hn => ?_))
      exact ⟨n, hn.1, ⟨n.vset, rfl⟩, fun _ => ⟨rfl, Or.inr (hn.2.2 (by
        simpa only [Bool.not_eq_true] using hshould))⟩, fun h => absurd rfl h⟩

end Vsets

end Vrr

end AlpacaVrr
