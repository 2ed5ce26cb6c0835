import AlpacaVrr.Lib.Keyed
import AlpacaVrr.Theory.PsetEvents
import AlpacaVrr.Theory.Requests

/-!
# Hellos of Different Neighbours

Whether it matters in which order the hellos of different neighbours are
processed, and in how many runs of `pset_update_handler`.

An update reads and writes the entry of its own id. The list is another one
afterwards, with a new entry at its head or with one edited in place, but what
is found under another id is what was found there before. So the handler is an
instance of updates of a keyed state: `neighbour` is what is seen of an id, and
`after_hello` what an update makes of it.

The requests an inactive node sends are decided by the update and by the state
of its neighbour, and go to the address stored for it. They carry the node's
own virtual set, from a buffer that the set may not fill. What was in the rest
of the buffer before is not the same in two runs, and `written` cuts it off.

A request is lost when its packet cannot be allocated, and the handler does not
come back when an entry cannot be. For the neighbours two runs that come back
are compared, and for the requests two runs whose allocations succeed.

## Main definitions

* `Neighbour`, `neighbour`: What is found under an id.
* `after_hello`: A neighbour after an update.
* `joins`: Whom an update makes the node ask.
* `run_batches`: Several runs of the handler.
* `written`: A request without what was never written.

## Theorems

* `updated_local`: An update changes its own neighbour by `after_hello`.
* `run_batches_pset`, `run_batches_at`: What the runs do.
* `hello_updates_independent`: Only the updates of each id matter.
-/

namespace AlpacaVrr

open FaultState Keyed

/-- The state, the flag and the address of a neighbour. -/
structure Neighbour where
  status : PsetStatus
  active : U32
  mac : MacAddr
  deriving DecidableEq

/-- What the physical set holds under an id. -/
def neighbour (p : Pset) (id : U32) : Option Neighbour :=
  (pset_find p id).map (fun tmp => ⟨tmp.status, tmp.active, tmp.mac⟩)

/-- The state of a neighbour, and of a stranger. -/
def state_of (nb : Option Neighbour) : PsetStatus := nb.elim .unknown Neighbour.status

/-- A neighbour after an update of it. The address is that of the first one. -/
def after_hello : Option Neighbour → PsetUpdate → Option Neighbour
  | none, tmp => some ⟨hello_trans .unknown tmp.trans, flag tmp.active, tmp.mac⟩
  | some nb, tmp =>
      -- an entry in this state would be taken for a missing one, and not be added
      if nb.status = .unknown then some nb
      else if nb.status ≠ hello_trans nb.status tmp.trans ∨ nb.active ≠ tmp.active then
        some { nb with status := hello_trans nb.status tmp.trans, active := flag tmp.active }
      else some nb

theorem after_hello_some (nb : Neighbour) (tmp : PsetUpdate) :
    after_hello (some nb) tmp =
      if nb.status = .unknown then some nb
      else if nb.status ≠ hello_trans nb.status tmp.trans ∨ nb.active ≠ tmp.active then
        some { nb with status := hello_trans nb.status tmp.trans, active := flag tmp.active }
      else some nb := rfl

theorem pset_get_status_eq (p : Pset) (id : U32) :
    pset_get_status p id = state_of (neighbour p id) := by
  unfold pset_get_status neighbour state_of
  cases pset_find p id <;> rfl

theorem pset_get_active_eq (p : Pset) (id : U32) :
    pset_get_active p id = (neighbour p id).elim 0 Neighbour.active := by
  unfold pset_get_active neighbour
  cases pset_find p id <;> rfl

theorem pset_get_mac_eq (p : Pset) (id : U32) :
    pset_get_mac p id = (neighbour p id).map Neighbour.mac := by
  unfold pset_get_mac neighbour
  cases pset_find p id <;> rfl

/-- What is found after an edit in place. -/
theorem pset_find_on_first (node : U32) (f : PsetEntry → PsetEntry)
    (hf : ∀ tmp, (f tmp).node = tmp.node) (p : Pset) (id : U32) :
    pset_find (on_first node f p) id =
      if node = id then (pset_find p id).map f else pset_find p id := by
  unfold pset_find
  induction p with
  | nil => simp [on_first]
  | cons tmp rest ih =>
      unfold on_first
      -- the entry that is edited is the one that is found
      by_cases hnode : tmp.node = node
      · rw [if_pos hnode]
        by_cases hid : node = id
        · simp [hf, hnode, hid]
        · simp [hf, hnode, hid]
      · rw [if_neg hnode]
        by_cases hid : tmp.node = id
        · have hne : node ≠ id := fun h => hnode (hid.trans h.symm)
          simp [hid, hne]
        · simpa [List.find?_cons, hid] using ih

/-- A stranger's update adds it. -/
theorem pset_find_add (p : Pset) (node : U32) (mac : MacAddr) (status : PsetStatus) (active : U32)
    (hnew : pset_find p node = none) (id : U32) :
    pset_find (pset_add p node mac status active) id =
      if node = id then some ⟨node, status, flag active, mac, 0⟩ else pset_find p id := by
  have habs : ¬ pset_contains p node = true := by
    rw [pset_contains_iff, ← pset_find_isSome_iff, hnew]
    exact Bool.false_ne_true
  rw [pset_add, if_neg habs]
  unfold pset_find
  by_cases hid : node = id
  · simp [hid]
  · simp [hid]

/-- An update of an entry whose state is known edits it. -/
theorem neighbour_update_status (p : Pset) (node : U32) (st : PsetStatus) (active id : U32) :
    neighbour (pset_update_status p node st active) id =
      if node = id then
        (neighbour p id).map (fun nb => { nb with status := st, active := flag active })
      else neighbour p id := by
  unfold neighbour pset_update_status
  rw [pset_find_on_first node _ (by intro tmp; rfl)]
  split_ifs
  · simp [Function.comp_def]
  · rfl

/-- An update of a stranger adds it. -/
theorem neighbour_updated_stranger {p : Pset} {tmp : PsetUpdate}
    (hfind : pset_find p tmp.node = none) (id : U32) :
    neighbour (updated p tmp) id =
      if tmp.node = id then after_hello (neighbour p id) tmp else neighbour p id := by
  have hnone : neighbour p tmp.node = none := by rw [neighbour, hfind, Option.map_none]
  have hst : pset_get_status p tmp.node = .unknown := by
    rw [pset_get_status_eq, hnone]
    rfl
  unfold updated
  simp only [hst, if_true]
  unfold neighbour at hnone ⊢
  rw [pset_find_add p _ _ _ _ hfind]
  by_cases hid : tmp.node = id
  · subst hid
    rw [if_pos rfl, if_pos rfl, hfind]
    rfl
  · simp [hid]

/-- An update of a neighbour edits its entry. -/
theorem neighbour_updated_known {p : Pset} {tmp : PsetUpdate} {e : PsetEntry}
    (hfind : pset_find p tmp.node = some e) (id : U32) :
    neighbour (updated p tmp) id =
      if tmp.node = id then after_hello (neighbour p id) tmp else neighbour p id := by
  have hsome : neighbour p tmp.node = some ⟨e.status, e.active, e.mac⟩ := by
    rw [neighbour, hfind, Option.map_some]
  have hst : pset_get_status p tmp.node = e.status := by
    rw [pset_get_status_eq, hsome]
    rfl
  have hact : pset_get_active p tmp.node = e.active := by
    rw [pset_get_active_eq, hsome]
    rfl
  have hin : pset_contains p tmp.node = true := by
    rw [pset_contains_iff, ← pset_find_isSome_iff, hfind]
    rfl
  unfold updated
  simp only [hst, hact]
  by_cases hid : tmp.node = id
  · subst hid
    rw [if_pos rfl, hsome, after_hello_some, pset_add, if_pos hin]
    split_ifs
    · exact hsome
    · rw [neighbour_update_status, if_pos rfl, hsome, Option.map_some]
    · exact hsome
  · -- neither branch touches the entry of another id
    rw [if_neg hid, pset_add, if_pos hin]
    split_ifs
    · rfl
    · rw [neighbour_update_status, if_neg hid]
    · rfl

/-- An update changes its own neighbour by `after_hello`, and no other one. -/
theorem updated_local : Local neighbour updated PsetUpdate.node after_hello := by
  have hall : ∀ p tmp id, neighbour (updated p tmp) id =
      if tmp.node = id then after_hello (neighbour p id) tmp else neighbour p id := by
    intro p tmp id
    cases hfind : pset_find p tmp.node with
    | none => exact neighbour_updated_stranger hfind id
    | some e => exact neighbour_updated_known hfind id
  constructor
  · intro p tmp
    rw [hall, if_pos rfl]
  · intro p tmp id hid
    rw [hall, if_neg hid]

/-- No entry is stored in the state that stands for a stranger. -/
def Storable (nb : Option Neighbour) : Prop := ∀ n, nb = some n → n.status ≠ .unknown

theorem storable_stranger : Storable none := by
  intro n hn
  cases hn

/-- In a set as the node keeps it there is none. -/
theorem storable_of_well_kept {p : Pset} (h : WellKept p) (id : U32) :
    Storable (neighbour p id) := by
  intro nb hnb
  obtain ⟨tmp, hfind, rfl⟩ := Option.map_eq_some_iff.mp hnb
  exact h.known tmp (mem_of_pset_find p id tmp hfind).1

/-- The state follows the table of transitions. -/
theorem state_after_hello {nb : Option Neighbour} (h : Storable nb) (tmp : PsetUpdate) :
    state_of (after_hello nb tmp) = hello_trans (state_of nb) tmp.trans ∧
      Storable (after_hello nb tmp) := by
  cases nb with
  | none =>
      refine ⟨rfl, fun n hn => ?_⟩
      rw [← Option.some.inj hn]
      exact hello_trans_known .unknown tmp.trans
  | some nb =>
      have hst : nb.status ≠ .unknown := h nb rfl
      rw [after_hello_some, if_neg hst]
      by_cases hdiff : nb.status ≠ hello_trans nb.status tmp.trans ∨ nb.active ≠ tmp.active
      · rw [if_pos hdiff]
        refine ⟨rfl, fun n hn => ?_⟩
        rw [← Option.some.inj hn]
        exact hello_trans_known nb.status tmp.trans
      · rw [if_neg hdiff]
        exact ⟨not_not.mp (fun hne => hdiff (Or.inl hne)), h⟩

/-- After any number of hellos the state is the fold of the transitions. -/
theorem state_foldl (l : List PsetUpdate) {nb : Option Neighbour} (h : Storable nb) :
    state_of (l.foldl after_hello nb) =
      l.foldl (fun st tmp => hello_trans st tmp.trans) (state_of nb) := by
  induction l generalizing nb with
  | nil => rfl
  | cons tmp l ih =>
      rw [List.foldl_cons, List.foldl_cons, ih (state_after_hello h tmp).2,
        (state_after_hello h tmp).1]

/-- Whom a node asks for its own place after an update, and at which address. -/
def asks (active : U32) (nb : Option Neighbour) (tmp : PsetUpdate) : List (U32 × MacAddr) :=
  if active = 0 ∧ tmp.active ≠ 0 ∧ hello_trans (state_of nb) tmp.trans = .linked then
    (after_hello nb tmp).toList.map (fun nb => (tmp.node, nb.mac))
  else []

def joins (active : U32) (p : Pset) (tmp : PsetUpdate) : List (U32 × MacAddr) :=
  asks active (neighbour p tmp.node) tmp

/-- Only the neighbour that was heard of is asked. -/
theorem fst_of_mem_asks (active : U32) (nb : Option Neighbour) (tmp : PsetUpdate)
    (via : U32 × MacAddr) (h : via ∈ asks active nb tmp) : via.1 = tmp.node := by
  unfold asks at h
  split_ifs at h
  · obtain ⟨m, -, rfl⟩ := List.mem_map.mp h
    rfl
  · exact absurd h List.not_mem_nil

/-- After an update of it a neighbour is in the set. -/
theorem neighbour_updated (p : Pset) (tmp : PsetUpdate) :
    ∃ nb, neighbour (updated p tmp) tmp.node = some nb := by
  rw [updated_local.same]
  cases neighbour p tmp.node with
  | none => exact ⟨_, rfl⟩
  | some nb =>
      rw [after_hello_some]
      split_ifs <;> exact ⟨_, rfl⟩

/-- A request for the node's own place, with some contents of the buffer. -/
def JoinRequest (n : Node) (p : Packet) (via : U32 × MacAddr) : Prop :=
  ∃ g, p = setup_req_packet n n.me via.1 via.2 g

/-- The node at work on its physical set, with all allocations succeeding. -/
def Sys.Hearing (n : Node) (p : Pset) (l : List Packet) (s : Sys) : Prop :=
  ∃ pstate q g, s.At { n with pset := p, pstate := pstate, pset_updates := q } l g

/-- The handler, run for one batch of updates after the other. -/
def run_batches : List (List PsetUpdate) → Vrr Unit
  | [] => pure ()
  | batch :: rest => do
      Vrr.set_node (fun n => { n with pset_updates := batch })
      Vrr.pset_update_handler
      run_batches rest

namespace Vrr

/-- The batches leave the set updated by all of them. -/
theorem run_batches_pset (p : Pset) (bs : List (List PsetUpdate)) :
    Triple (fun s => s.node.pset = p) (run_batches bs)
      (fun _ s => s.node.pset = bs.flatten.foldl updated p) (fun _ => True) := by
  induction bs generalizing p with
  | nil => exact Triple.pure _ (fun s hs => hs)
  | cons batch bs ih =>
      rw [List.flatten_cons, List.foldl_append]
      unfold run_batches
      refine Triple.bind (Q := fun _ s => s.node.pset = p ∧ s.node.pset_updates = batch)
        (Triple.modify _ (fun s hs => ⟨hs, rfl⟩)) (fun _ => ?_)
      exact Triple.bind (pset_update_handler_pset p batch) (fun _ => ih (batch.foldl updated p))

section Requesting

variable {m : Node} {l : List Packet} {g : Nat → Garbage}

theorem overrun_at (buffer : Buffer) (size i : Nat) :
    Triple (Sys.At m l g) (overrun buffer size i) (fun _ => Sys.At m l g) (fun _ => False) :=
  Triple.modify _ (fun _ hs => ⟨hs.node, hs.sent, hs.uninit, hs.alloc⟩)

theorem set_node_at (f : Node → Node) :
    Triple (Sys.At m l g) (set_node f) (fun _ => Sys.At (f m) l g) (fun _ => False) :=
  Triple.modify _ (fun _ hs => ⟨congrArg f hs.node, hs.sent, hs.uninit, hs.alloc⟩)

theorem pset_state_update_at :
    Triple (Sys.At m l g) pset_state_update
      (fun _ => Sys.At { m with pstate := AlpacaVrr.pset_state_update m.pstate m.pset } l g)
      (fun _ => False) :=
  pset_state_update_triple (set_node_at _) (overrun_at .pstate)

/-- The entry is there afterwards, since the allocation succeeds. -/
theorem pset_add_at (id : U32) (mac : MacAddr) (status : PsetStatus) (active : U32) :
    Triple (Sys.At m l g) (pset_add id mac status active)
      (fun _ => Sys.At { m with pset := AlpacaVrr.pset_add m.pset id mac status active } l g)
      (fun _ => False) := by
  refine pset_add_triple (fun s hs hsame => ?_) (kmalloc_at 1)
    (Triple.of_and (fun _ => set_node_at _))
    (Triple.of_and (fun hno => absurd hno Bool.false_ne_true))
  rw [hs.node] at hsame
  rw [hsame]
  exact hs

/-- The first half of a round, with the lists rebuilt or not. -/
theorem pset_update_entry_at (tmp : PsetUpdate) :
    Triple (Sys.At m l g)
      (pset_update_entry tmp (pset_get_status m.pset tmp.node)
        (hello_trans (pset_get_status m.pset tmp.node) tmp.trans)
        (pset_get_active m.pset tmp.node))
      (fun _ s => ∃ ps, s.At { m with pset := updated m.pset tmp, pstate := ps } l g)
      (fun _ => False) := by
  refine pset_update_entry_rule m.pset tmp
    (M := Sys.At { m with pset := updated m.pset tmp } l g) (fun hadd => ?_) (fun hupdate => ?_)
    (pset_state_update_at.post (fun _ s hs => ⟨_, hs⟩)) (fun hsame s hs => ⟨m.pstate, ?_⟩)
  · rw [hadd]
    exact pset_add_at _ _ _ _
  · rw [hupdate]
    exact set_node_at _
  · rw [hsame]
    exact hs

/-- The second half: the neighbour is asked at its stored address. -/
theorem pset_update_join_at (tmp : PsetUpdate) (next_state : PsetStatus) {nb : Neighbour}
    (hnb : neighbour m.pset tmp.node = some nb) :
    Triple (Sys.At m l g) (pset_update_join tmp next_state)
      (fun _ s => ∃ ps g', List.Forall₂ (JoinRequest m) ps
        (if m.active = 0 ∧ tmp.active ≠ 0 ∧ next_state = .linked then
          [(tmp.node, nb.mac)] else []) ∧
        s.At m (l ++ ps) g') (fun _ => False) := by
  unfold pset_update_join
  refine Triple.bind me_at (fun me => Triple.of_and (fun hme => ?_))
  rw [hme]
  refine Triple.ite _ (fun hjoin => ?_) (fun hno => ?_)
  · rw [if_pos hjoin]
    refine Triple.bind (send_setup_req_drawn m.me tmp.node)
      (fun _ => Triple.pure _ (fun s hs => ?_))
    rw [pset_get_mac_eq, hnb] at hs
    exact ⟨_, _, List.Forall₂.cons ⟨g 1, rfl⟩ List.Forall₂.nil, hs⟩
  · rw [if_neg hno]
    refine Triple.pure _ (fun s hs => ⟨[], g, List.Forall₂.nil, ?_⟩)
    rw [List.append_nil]
    exact hs

end Requesting

section Runs

variable (n : Node)

/-- A round updates the set and asks whom it should. -/
theorem pset_update_at (p : Pset) (l : List Packet) (tmp : PsetUpdate) :
    Triple (Sys.Hearing n p l) (pset_update tmp)
      (fun _ s => ∃ ps, List.Forall₂ (JoinRequest n) ps (joins n.active p tmp) ∧
        s.Hearing n (updated p tmp) (l ++ ps)) (fun _ => False) := by
  unfold pset_update
  refine Triple.of_exists (fun pstate => Triple.of_exists (fun q => Triple.of_exists (fun g => ?_)))
  refine Triple.bind me_at (fun me => Triple.of_and (fun hme => ?_))
  simp only [hme]
  refine Triple.bind (pset_update_entry_at tmp) (fun _ => Triple.of_exists (fun pstate' => ?_))
  obtain ⟨nb, hnb⟩ := neighbour_updated p tmp
  refine Triple.bind (pset_update_join_at tmp _ hnb) (fun _ => ?_)
  refine Triple.of_exists (fun ps => Triple.of_exists (fun g' => ?_))
  refine Triple.pre (Triple.of_and (fun hps => ?_)) (fun s hs => And.symm hs)
  refine (set_node_at _).post (fun _ s hs => ⟨ps, ?_, pstate', _, g', hs⟩)
  -- the address asked is the one in the set by now
  have hjoins : joins n.active p tmp = if n.active = 0 ∧ tmp.active ≠ 0 ∧
      hello_trans (pset_get_status p tmp.node) tmp.trans = .linked then
      [(tmp.node, nb.mac)] else [] := by
    rw [updated_local.same] at hnb
    rw [joins, asks, hnb, pset_get_status_eq]
    rfl
  rw [hjoins]
  exact hps

theorem pset_updates_at (p : Pset) (l : List Packet) (us : List PsetUpdate) :
    Triple (Sys.Hearing n p l) (us.forM pset_update)
      (fun _ s => ∃ ps, List.Forall₂ (JoinRequest n) ps (emitted updated (joins n.active) p us) ∧
        s.Hearing n (us.foldl updated p) (l ++ ps)) (fun _ => False) :=
  Triple.forM_emits (pset_update_at n) us p l

theorem pset_update_handler_at (p : Pset) (l : List Packet) (us : List PsetUpdate) :
    Triple (fun s => s.Hearing n p l ∧ s.node.pset_updates = us) pset_update_handler
      (fun _ s => ∃ ps, List.Forall₂ (JoinRequest n) ps (emitted updated (joins n.active) p us) ∧
        s.Hearing n (us.foldl updated p) (l ++ ps)) (fun _ => False) := by
  unfold pset_update_handler
  refine Triple.bind (Q := fun me s => s.Hearing n p l ∧ me.pset_updates = us)
    (Triple.gets _ (fun s hs => hs)) (fun me => Triple.of_and (fun hme => ?_))
  rw [hme]
  refine Triple.bind (pset_updates_at n p l us) (fun _ => Triple.modify _ (fun s hs => ?_))
  obtain ⟨ps, hps, pstate, q, g, hs⟩ := hs
  refine ⟨ps, hps, pstate, [], g, ?_, hs.sent, hs.uninit, hs.alloc⟩
  rw [hs.node]

/-- The batches come to their end, and ask what their updates ask. -/
theorem run_batches_at (p : Pset) (l : List Packet) (bs : List (List PsetUpdate)) :
    Triple (Sys.Hearing n p l) (run_batches bs)
      (fun _ s => ∃ ps,
        List.Forall₂ (JoinRequest n) ps (emitted updated (joins n.active) p bs.flatten) ∧
        s.sent = l ++ ps) (fun _ => False) := by
  induction bs generalizing p l with
  | nil =>
      refine Triple.pure _ (fun s hs => ⟨[], List.Forall₂.nil, ?_⟩)
      obtain ⟨_, _, _, hs⟩ := hs
      rw [List.append_nil]
      exact hs.sent
  | cons batch bs ih =>
      unfold run_batches
      -- the queue is filled, and the handler works it off
      refine Triple.bind (Q := fun _ s => s.Hearing n p l ∧ s.node.pset_updates = batch)
        (Triple.modify _ (fun s hs => ?_)) (fun _ => ?_)
      · obtain ⟨pstate, q, g, hs⟩ := hs
        refine ⟨⟨pstate, batch, g, ?_, hs.sent, hs.uninit, hs.alloc⟩, rfl⟩
        rw [hs.node]
      refine Triple.bind (pset_update_handler_at n p l batch)
        (fun _ => Triple.of_exists (fun ps => ?_))
      refine Triple.pre (Triple.of_and (fun hps => ?_)) (fun s hs => And.symm hs)
      refine (ih (batch.foldl updated p) (l ++ ps)).post (fun _ s hs => ?_)
      obtain ⟨qs, hqs, hs⟩ := hs
      refine ⟨ps ++ qs, ?_, ?_⟩
      · rw [List.flatten_cons, emitted_append]
        exact List.rel_append hps hqs
      · rw [← List.append_assoc]
        exact hs

end Runs

end Vrr

/-- A packet up to where the entries of the virtual set end. -/
def written (n : Node) (p : Packet) : VrrHeader × List U8 :=
  (p.vh, p.data.take (4 * (2 + n.vset.list.length)))

theorem length_payload (ws : List U32) : (payload ws).length = 4 * ws.length := by
  rw [payload, length_store_all, List.length_map]

theorem payload_append (ws ws' : List U32) :
    payload (ws ++ ws') = payload ws ++ payload ws' := by
  simp [payload, store_all]

theorem length_vset_get_all (v : Vset) (g : Garbage) : (vset_get_all v g).2.length = v.vset_size :=
  length_fill _ _ _ (by rw [Vset.nodes, List.length_map]; exact v.length_le)

/-- What was in the buffer before does not reach that far. -/
theorem written_setup_req_packet (n : Node) (dest proxy : U32) (mac : MacAddr) (g g' : Garbage) :
    written n (setup_req_packet n dest proxy mac g) =
      written n (setup_req_packet n dest proxy mac g') := by
  -- the packet is cut where the ids in the set end
  have hdata : ∀ g, (setup_req_packet n dest proxy mac g).data.take
      (4 * (2 + n.vset.list.length)) =
      payload (proxy :: BitVec.ofNat 32 n.vset.vset_size :: n.vset.nodes) := by
    intro g
    have hlen : (payload (proxy :: BitVec.ofNat 32 n.vset.vset_size :: n.vset.nodes)).length =
        4 * (2 + n.vset.list.length) := by
      rw [length_payload, List.length_cons, List.length_cons, Vset.nodes, List.length_map]
      omega
    change (payload ((proxy :: BitVec.ofNat 32 n.vset.vset_size :: n.vset.nodes) ++ _)).take _ = _
    rw [payload_append, List.take_left' hlen]
  have hvh : (setup_req_packet n dest proxy mac g).vh =
      (setup_req_packet n dest proxy mac g').vh := by
    simp only [setup_req_packet, build_packet, List.length_cons, length_vset_get_all]
  unfold written
  rw [hdata, hdata, hvh]

/-- A buffer that the set fills holds nothing else. -/
theorem setup_req_packet_exact {n : Node} (h : n.vset.vset_size = n.vset.list.length)
    (dest proxy : U32) (mac : MacAddr) (g g' : Garbage) :
    setup_req_packet n dest proxy mac g = setup_req_packet n dest proxy mac g' := by
  have hfill : ∀ g, (vset_get_all n.vset g).2 = n.vset.nodes := by
    intro g
    exact fill_of_length_eq _ _ _ (by rw [Vset.nodes, List.length_map, h])
  simp only [setup_req_packet, hfill]

/-- The same requests of the node for its own place, up to their order and to
    memory that was never written. -/
structure SameRequests (n : Node) (ps ps' : List Packet) : Prop where
  asks : ∀ p ∈ ps ++ ps', Requests n.me p n.me
  written : (ps.map (written n)).Perm (ps'.map (written n))
  whole : n.vset.vset_size = n.vset.list.length → ps.Perm ps'

/-- What a list of requests shows is decided by whom they go to. -/
theorem map_of_join_requests {α : Type} {n : Node} {ps : List Packet} {vs : List (U32 × MacAddr)}
    (h : List.Forall₂ (JoinRequest n) ps vs) (f : Packet → α) (g₀ : Garbage)
    (hf : ∀ via g, f (setup_req_packet n n.me (Prod.fst via) via.2 g) =
      f (setup_req_packet n n.me via.1 via.2 g₀)) :
    ps.map f = vs.map (fun via => f (setup_req_packet n n.me via.1 via.2 g₀)) := by
  induction h with
  | nil => rfl
  | @cons p via ps vs hp _ ih =>
      obtain ⟨g, rfl⟩ := hp
      rw [List.map_cons, List.map_cons, ih, hf]

theorem requests_of_join_requests {n : Node} {ps : List Packet} {vs : List (U32 × MacAddr)}
    (h : List.Forall₂ (JoinRequest n) ps vs) : ∀ p ∈ ps, Requests n.me p n.me := by
  intro p hp
  induction h with
  | nil => exact absurd hp List.not_mem_nil
  | cons hreq _ ih =>
      rcases List.mem_cons.mp hp with rfl | hp
      · obtain ⟨g, rfl⟩ := hreq
        exact requests_setup_req_packet n n.me _ _ g
      · exact ih hp

/-- Requests to the same neighbours in another order. -/
theorem same_requests_of_perm {n : Node} {ps ps' : List Packet} {vs vs' : List (U32 × MacAddr)}
    (h : List.Forall₂ (JoinRequest n) ps vs) (h' : List.Forall₂ (JoinRequest n) ps' vs')
    (hperm : vs.Perm vs') : SameRequests n ps ps' := by
  refine ⟨fun p hp => ?_, ?_, fun hexact => ?_⟩
  · rcases List.mem_append.mp hp with hp | hp
    · exact requests_of_join_requests h p hp
    · exact requests_of_join_requests h' p hp
  · have hcut := fun (via : U32 × MacAddr) g =>
      written_setup_req_packet n n.me via.1 via.2 g (fun _ => 0)
    rw [map_of_join_requests h (written n) _ hcut, map_of_join_requests h' (written n) _ hcut]
    exact hperm.map _
  · have hsame := fun (via : U32 × MacAddr) g =>
      setup_req_packet_exact hexact n.me via.1 via.2 g (fun _ => 0)
    rw [← List.map_id ps, ← List.map_id ps', map_of_join_requests h id _ hsame,
      map_of_join_requests h' id _ hsame]
    exact hperm.map _

/-- Batches of updates that agree for each id leave the same under each id, which
    is what the updates of that id make of it, and send the same requests. -/
theorem hello_updates_independent (n : Node) (bs bs' : List (List PsetUpdate))
    (hsame : SameByKey PsetUpdate.node bs.flatten bs'.flatten) (s s' : Sys) (hs : s.node = n)
    (hs' : s'.node = n) :
    (∀ t t', run_batches bs s = .ok ((), t) → run_batches bs' s' = .ok ((), t') → ∀ id,
      neighbour t.node.pset id = neighbour t'.node.pset id ∧
        neighbour t.node.pset id =
          (mine PsetUpdate.node bs.flatten id).foldl after_hello (neighbour n.pset id) ∧
        (Storable (neighbour n.pset id) → pset_get_status t.node.pset id =
          (mine PsetUpdate.node bs.flatten id).foldl (fun st tmp => hello_trans st tmp.trans)
            (pset_get_status n.pset id))) ∧
      ((∀ i, s.kern.kmalloc i = true) → (∀ i, s'.kern.kmalloc i = true) →
        ∃ t t' ps ps', run_batches bs s = .ok ((), t) ∧ run_batches bs' s' = .ok ((), t') ∧
          t.sent = s.sent ++ ps ∧ t'.sent = s'.sent ++ ps' ∧ SameRequests n ps ps') := by
  refine ⟨fun t t' hrun hrun' id => ?_, fun halloc halloc' => ?_⟩
  · have ht := (Vrr.run_batches_pset n.pset bs).ok (congrArg Node.pset hs) hrun
    have ht' := (Vrr.run_batches_pset n.pset bs').ok (congrArg Node.pset hs') hrun'
    rw [ht, ht']
    refine ⟨updated_local.view_eq hsame n.pset id, updated_local.view_foldl _ _ _, fun hknown => ?_⟩
    rw [pset_get_status_eq, pset_get_status_eq, updated_local.view_foldl, state_foldl _ hknown]
  · have hat : ∀ u : Sys, u.node = n → (∀ i, u.kern.kmalloc i = true) →
        u.Hearing n n.pset u.sent := by
      intro u hu hok
      exact ⟨n.pstate, n.pset_updates, u.kern.uninit, hu, rfl, rfl, hok⟩
    obtain ⟨_, t, hrun, ps, hps, hsent⟩ := (Vrr.run_batches_at n n.pset s.sent bs).run
      (hat s hs halloc)
    obtain ⟨_, t', hrun', ps', hps', hsent'⟩ := (Vrr.run_batches_at n n.pset s'.sent bs').run
      (hat s' hs' halloc')
    refine ⟨t, t', ps, ps', hrun, hrun', hsent, hsent', same_requests_of_perm hps hps' ?_⟩
    exact updated_local.emitted_perm (fun _ _ => rfl)
      (fun nb tmp via hvia => fst_of_mem_asks n.active nb tmp via hvia) hsame n.pset

/-- Node 1 hears the nodes 2 and 3 in one run or in two, and in either order.
    Either way it asks both of them for its place. -/
theorem hello_updates_independent_two :
    ∃ t t' ps ps', run_batches [[⟨2, 2, .pending, 1⟩, ⟨3, 3, .pending, 1⟩]] node_one = .ok ((), t) ∧
      run_batches [[⟨3, 3, .pending, 1⟩], [⟨2, 2, .pending, 1⟩]] node_one = .ok ((), t') ∧
      pset_get_status t.node.pset 2 = .linked ∧
      neighbour t.node.pset 2 = neighbour t'.node.pset 2 ∧
      t.sent = [] ++ ps ∧ t'.sent = [] ++ ps' ∧
      ps.map (fun p => (p.vh.pkt_type, p.vh.dest_mac)) = [(VRR_SETUP_REQ, 2), (VRR_SETUP_REQ, 3)] ∧
      SameRequests node_one.node ps ps' := by
  have hboth := hello_updates_independent node_one.node
    [[⟨2, 2, .pending, 1⟩, ⟨3, 3, .pending, 1⟩]] [[⟨3, 3, .pending, 1⟩], [⟨2, 2, .pending, 1⟩]]
    (same_by_key_swap PsetUpdate.node (by decide) [] []) node_one node_one rfl rfl
  obtain ⟨t, t', ps, ps', hrun, hrun', hsent, hsent', hreq⟩ := hboth.2 (fun _ => rfl) (fun _ => rfl)
  have hmap := hboth.1 t t' hrun hrun' 2
  refine ⟨t, t', ps, ps', hrun, hrun', ?_, hmap.1, hsent, hsent', ?_, hreq⟩
  · exact (hmap.2.2 storable_stranger).trans (by decide)
  · have hasks : ends_in (run_batches [[⟨2, 2, .pending, 1⟩, ⟨3, 3, .pending, 1⟩]]) node_one
        (fun _ u => u.sent.map (fun p => (p.vh.pkt_type, p.vh.dest_mac)) ==
          [(VRR_SETUP_REQ, 2), (VRR_SETUP_REQ, 3)]) = true := by
      decide +kernel
    obtain ⟨_, u, hu, hpackets⟩ := ok_of_ends_in hasks
    rw [hrun, Except.ok.injEq, Prod.mk.injEq] at hu
    have hnil : node_one.sent ++ ps = ps := List.nil_append ps
    rw [← hu.2, hsent, hnil] at hpackets
    exact beq_iff_eq.mp hpackets

end AlpacaVrr
