import AlpacaVrr.Core.Ring
import Mathlib.Data.List.Basic
import Mathlib.Logic.Function.Basic

/-!
# The Physical Set

The physical neighbours of a node, their states, and the arrays advertised in
hello packets.

A neighbour is heard of through hellos. `hello_trans` gives its next state
from the class under which the hello lists the local node. The set is a linked
list with new entries at its head. Lookups stop at the first entry that
matches, by id or by MAC address.

`PsetState` is the copy of the set that `send_hpkt` sends and sysfs shows: an
array of ids and one of MAC addresses for each class, with their sizes.
`pset_state_update` rewrites it from the list and lowers no index, so what
lies past the sizes is left over from before. The arrays have
`VRR_PSET_SIZE` elements in the source and the loop does not look at that, so
here they have no end, and the sizes tell how far the writes went.

## Main definitions

* `PsetStatus`, `HelloTrans`, `hello_trans`: The states and the transitions.
* `PsetEntry`, `Pset`: A physical neighbour, and the list.
* `pset_add`, `pset_update_status`, `pset_reset_fail_count`: The updates.
* `pset_get_status`, `pset_get_active`, `pset_get_mac`, `pset_lookup_mac`,
  `pset_contains`, `pset_get_proxy`: The lookups.
* `PsetState`, `pset_state_update`: The advertised arrays.

## Theorems

* `map_on_first`, `mem_on_first`: Editing an entry in place.
* `pset_contains_iff`: The ids that are found are those in the list.
-/

namespace AlpacaVrr

/-- A MAC address, its six bytes read as one number. -/
abbrev MacAddr := BitVec 48

/-- `PSET_LINKED`, `PSET_PENDING`, `PSET_FAILED`, `PSET_UNKNOWN`. -/
inductive PsetStatus where
  | linked
  | pending
  | failed
  | unknown
  deriving DecidableEq

/-- `TRANS_LINKED`, `TRANS_PENDING`, `TRANS_MISSING`. -/
inductive HelloTrans where
  | linked
  | pending
  | missing
  deriving DecidableEq

/-- The state of a neighbour after a hello from it. -/
def hello_trans : PsetStatus → HelloTrans → PsetStatus
  | .linked, .linked => .linked
  | .linked, .pending => .linked
  | .linked, .missing => .failed
  | .pending, .linked => .linked
  | .pending, .pending => .linked
  | .pending, .missing => .pending
  | .failed, .linked => .failed
  | .failed, .pending => .pending
  | .failed, .missing => .pending
  | .unknown, .linked => .failed
  | .unknown, .pending => .linked
  | .unknown, .missing => .pending

/-- A physical neighbour. -/
structure PsetEntry where
  node : U32
  status : PsetStatus
  active : U32
  mac : MacAddr
  fail_count : Nat
  deriving DecidableEq

abbrev Pset := List PsetEntry

/-- `active ? 1 : 0`. -/
def flag (active : U32) : U32 := if active ≠ 0 then 1 else 0

/-- Edit the first entry of a node. -/
def on_first (node : U32) (f : PsetEntry → PsetEntry) : Pset → Pset
  | [] => []
  | tmp :: rest => if tmp.node = node then f tmp :: rest else tmp :: on_first node f rest

def pset_find (p : Pset) (node : U32) : Option PsetEntry := p.find? (fun tmp => tmp.node == node)

def pset_contains (p : Pset) (id : U32) : Bool := p.any (fun tmp => tmp.node == id)

/-- A node that is in the set already is not added again. -/
def pset_add (p : Pset) (node : U32) (mac : MacAddr) (status : PsetStatus) (active : U32) : Pset :=
  if pset_contains p node then p else ⟨node, status, flag active, mac, 0⟩ :: p

def pset_get_status (p : Pset) (node : U32) : PsetStatus :=
  match pset_find p node with
  | some tmp => tmp.status
  | none => .unknown

def pset_update_status (p : Pset) (node : U32) (newstatus : PsetStatus) (active : U32) : Pset :=
  on_first node (fun tmp => { tmp with status := newstatus, active := flag active }) p

/-- The id of the first entry with a MAC address. -/
def pset_lookup_mac (p : Pset) (mac : MacAddr) : Option U32 :=
  (p.find? (fun tmp => tmp.mac == mac)).map PsetEntry.node

def pset_get_active (p : Pset) (node : U32) : U32 :=
  match pset_find p node with
  | some tmp => tmp.active
  | none => 0

def pset_get_mac (p : Pset) (node : U32) : Option MacAddr := (pset_find p node).map PsetEntry.mac

def pset_reset_fail_count (p : Pset) (node : U32) : Pset :=
  on_first node (fun tmp => { tmp with fail_count := 0 }) p

/-- The linked and active neighbours, which `pset_get_proxy` copies to its
    array. -/
def pset_active (p : Pset) : List U32 :=
  (p.filter (fun tmp => tmp.status = .linked ∧ tmp.active ≠ 0)).map PsetEntry.node

/-- One of them, picked by a random word. -/
def pset_get_proxy (p : Pset) (r : U32) : Option U32 :=
  (pset_active p)[r.toNat % (pset_active p).length]?

/-- The arrays of `struct pset_state` and their sizes. -/
structure PsetState where
  l_active : Nat → U32
  l_not_active : Nat → U32
  pending : Nat → U32
  la_mac : Nat → MacAddr
  lna_mac : Nat → MacAddr
  pending_mac : Nat → MacAddr
  la_size : Nat
  lna_size : Nat
  p_size : Nat
  lam_size : Nat
  lnam_size : Nat
  pm_size : Nat

namespace PsetState

/-- The arrays as `pset_state_init` leaves them: six zero sizes in a block of
    memory that was never written. -/
def init (g : Nat → U32) (gm : Nat → MacAddr) : PsetState :=
  ⟨g, g, g, gm, gm, gm, 0, 0, 0, 0, 0, 0⟩

end PsetState

/-- The loop of `pset_state_update`, which writes at three running indices. -/
def pset_state_fill (ps : PsetState) (la_i lna_i p_i : Nat) : Pset → PsetState
  | [] =>
      { ps with
        la_size := la_i, lam_size := la_i
        lna_size := lna_i, lnam_size := lna_i
        p_size := p_i, pm_size := p_i }
  | p :: rest =>
      match p.status with
      -- only linked neighbours are told apart by their flag
      | .linked =>
          if p.active ≠ 0 then
            pset_state_fill { ps with
              l_active := Function.update ps.l_active la_i p.node
              la_mac := Function.update ps.la_mac la_i p.mac } (la_i + 1) lna_i p_i rest
          else
            pset_state_fill { ps with
              l_not_active := Function.update ps.l_not_active lna_i p.node
              lna_mac := Function.update ps.lna_mac lna_i p.mac } la_i (lna_i + 1) p_i rest
      | .pending =>
          pset_state_fill { ps with
            pending := Function.update ps.pending p_i p.node
            pending_mac := Function.update ps.pending_mac p_i p.mac } la_i lna_i (p_i + 1) rest
      -- a failed neighbour is not advertised
      | _ => pset_state_fill ps la_i lna_i p_i rest

def pset_state_update (ps : PsetState) (p : Pset) : PsetState := pset_state_fill ps 0 0 0 p

/-- The ids of the entries, in list order. -/
def pset_ids (p : Pset) : List U32 := p.map PsetEntry.node

theorem pset_contains_iff (p : Pset) (id : U32) : pset_contains p id = true ↔ id ∈ pset_ids p := by
  simp only [pset_contains, List.any_eq_true, beq_iff_eq, pset_ids, List.mem_map]

/-- Editing an entry in place keeps what the edit does not see. -/
theorem map_on_first {α : Type} (r : PsetEntry → α) (node : U32) (f : PsetEntry → PsetEntry)
    (hr : ∀ tmp, r (f tmp) = r tmp) (p : Pset) : (on_first node f p).map r = p.map r := by
  induction p with
  | nil => rfl
  | cons tmp rest ih =>
      unfold on_first
      split_ifs
      · rw [List.map_cons, List.map_cons, hr]
      · rw [List.map_cons, List.map_cons, ih]

/-- In particular the ids. -/
theorem pset_ids_on_first (node : U32) (f : PsetEntry → PsetEntry)
    (hf : ∀ tmp, (f tmp).node = tmp.node) (p : Pset) :
    pset_ids (on_first node f p) = pset_ids p :=
  map_on_first PsetEntry.node node f hf p

/-- The entries of an edited set are old ones, or edited. -/
theorem mem_on_first (node : U32) (f : PsetEntry → PsetEntry) (p : Pset) (e : PsetEntry)
    (h : e ∈ on_first node f p) : e ∈ p ∨ ∃ e' ∈ p, e'.node = node ∧ e = f e' := by
  induction p with
  | nil => exact absurd h List.not_mem_nil
  | cons tmp rest ih =>
      unfold on_first at h
      split_ifs at h with hid
      · rcases List.mem_cons.mp h with rfl | h
        · exact Or.inr ⟨tmp, List.mem_cons_self, hid, rfl⟩
        · exact Or.inl (List.mem_cons_of_mem _ h)
      · rcases List.mem_cons.mp h with rfl | h
        · exact Or.inl List.mem_cons_self
        · rcases ih h with h | ⟨e', he', heq⟩
          · exact Or.inl (List.mem_cons_of_mem _ h)
          · exact Or.inr ⟨e', List.mem_cons_of_mem _ he', heq⟩

theorem pset_ids_update_status (p : Pset) (node : U32) (st : PsetStatus) (active : U32) :
    pset_ids (pset_update_status p node st active) = pset_ids p := by
  unfold pset_update_status
  exact pset_ids_on_first node _ (by intro tmp; rfl) p

theorem pset_ids_reset_fail_count (p : Pset) (node : U32) :
    pset_ids (pset_reset_fail_count p node) = pset_ids p := by
  unfold pset_reset_fail_count
  exact pset_ids_on_first node _ (by intro tmp; rfl) p

/-- An edit that a search and what is read of its result do not see. -/
theorem map_find_on_first {α : Type} (node : U32) (f : PsetEntry → PsetEntry)
    (q : PsetEntry → Bool) (r : PsetEntry → α) (hq : ∀ tmp, q (f tmp) = q tmp)
    (hr : ∀ tmp, r (f tmp) = r tmp) (p : Pset) :
    ((on_first node f p).find? q).map r = (p.find? q).map r := by
  induction p with
  | nil => rfl
  | cons tmp rest ih =>
      unfold on_first
      split_ifs with h
      · -- the entry edited is found when it was found before
        rw [List.find?_cons, List.find?_cons, hq]
        cases q tmp with
        | false => rfl
        | true => exact congrArg some (hr tmp)
      · rw [List.find?_cons, List.find?_cons]
        cases q tmp with
        | false => exact ih
        | true => rfl

/-- The states do not depend on the counts. -/
theorem pset_get_status_reset_fail_count (p : Pset) (node id : U32) :
    pset_get_status (pset_reset_fail_count p node) id = pset_get_status p id := by
  have hfind := map_find_on_first node (fun tmp => { tmp with fail_count := 0 })
    (fun tmp => tmp.node == id) PsetEntry.status (fun _ => rfl) (fun _ => rfl) p
  have hstatus : ∀ p : Pset, pset_get_status p id =
      ((p.find? (fun tmp => tmp.node == id)).map PsetEntry.status).getD .unknown := by
    intro p
    unfold pset_get_status pset_find
    cases p.find? (fun tmp => tmp.node == id) <;> rfl
  rw [hstatus, hstatus]
  exact congrArg (·.getD .unknown) hfind

/-- Nor do the addresses. -/
theorem pset_get_mac_reset_fail_count (p : Pset) (node id : U32) :
    pset_get_mac (pset_reset_fail_count p node) id = pset_get_mac p id :=
  map_find_on_first node (fun tmp => { tmp with fail_count := 0 }) (fun tmp => tmp.node == id)
    PsetEntry.mac (fun _ => rfl) (fun _ => rfl) p

theorem pset_lookup_mac_reset_fail_count (p : Pset) (node : U32) (mac : MacAddr) :
    pset_lookup_mac (pset_reset_fail_count p node) mac = pset_lookup_mac p mac :=
  map_find_on_first node (fun tmp => { tmp with fail_count := 0 }) (fun tmp => tmp.mac == mac)
    PsetEntry.node (fun _ => rfl) (fun _ => rfl) p

theorem pset_active_reset_fail_count (p : Pset) (node : U32) :
    pset_active (pset_reset_fail_count p node) = pset_active p := by
  unfold pset_active pset_reset_fail_count
  induction p with
  | nil => rfl
  | cons tmp rest ih =>
      unfold on_first
      by_cases h : tmp.node = node
      · rw [if_pos h]
        simp only [List.filter_cons]
        split_ifs <;> rfl
      · rw [if_neg h]
        simp only [List.filter_cons]
        split_ifs <;> simp only [List.map_cons, ih]

theorem mem_pset_ids_add (p : Pset) (node : U32) (mac : MacAddr) (status : PsetStatus)
    (active id : U32) : id ∈ pset_ids (pset_add p node mac status active) ↔
      id = node ∨ id ∈ pset_ids p := by
  unfold pset_add
  split_ifs with h
  · -- present already: the list stays as it is
    have hmem := (pset_contains_iff p node).mp h
    constructor
    · exact Or.inr
    · rintro (rfl | h)
      · exact hmem
      · exact h
  · simp only [pset_ids, List.map_cons, List.mem_cons]

theorem pset_find_isSome_iff (p : Pset) (node : U32) :
    (pset_find p node).isSome = true ↔ node ∈ pset_ids p := by
  simp only [pset_find, List.find?_isSome, beq_iff_eq, pset_ids, List.mem_map]

/-- The lookup by id succeeds for the ids in the set. -/
theorem pset_get_mac_isSome_iff (p : Pset) (node : U32) :
    (pset_get_mac p node).isSome = true ↔ node ∈ pset_ids p := by
  rw [pset_get_mac, Option.isSome_map, pset_find_isSome_iff]

/-- A MAC address is looked up to an id in the set. -/
theorem mem_of_pset_lookup_mac (p : Pset) (mac : MacAddr) (node : U32)
    (h : pset_lookup_mac p mac = some node) : node ∈ pset_ids p := by
  rcases Option.map_eq_some_iff.mp h with ⟨tmp, hfind, rfl⟩
  exact List.mem_map_of_mem (List.mem_of_find?_eq_some hfind)

/-- A state other than `PSET_UNKNOWN` is that of an entry. -/
theorem mem_of_pset_get_status (p : Pset) (node : U32) (h : pset_get_status p node ≠ .unknown) :
    node ∈ pset_ids p := by
  rw [← pset_find_isSome_iff]
  unfold pset_get_status at h
  cases hfind : pset_find p node with
  | none => rw [hfind] at h; exact absurd rfl h
  | some tmp => rfl

end AlpacaVrr
