import AlpacaVrr.Theory.VsetCounter
import Mathlib.Data.List.Perm.Subperm
import Mathlib.Data.List.Nodup
import Mathlib.Data.List.GetD
import Mathlib.Data.Finset.Max
import Mathlib.Tactic.IntervalCases

/-!
# Offering Ids to the Virtual Set

Which ids the virtual set keeps of those it is offered.

The set is meant to hold the nearest ids on either side of the node, whatever
the order they were offered in. `closest` and `reference` say so without
reference to lists, counters or sorts. The code agrees as long as it has never
been full: four ids go in unconditionally.

From the fifth on it consults the two sorts, and those do not look at the
distances. `blind_order` is the permutation they apply. On the way from five
to nine entries it puts the entry before the newest in the middle, so one of
the two newest is always the one evicted. The first id offered is never at
risk, near or far. Offering an id first that the reference set leaves out
then gives a wrong set, and among five ids there is always such an id.

The run that shows it leaves zeros in all unwritten words. Every eviction
moves the counter one further ahead of the list, and once it has reached
eight, both words that `vset_should_add` compares with are such zeros and
every id is refused.

## Main definitions

* `closest`, `reference`: The ids that should be kept.
* `Offer`, `offers`: The ids offered, and the set they leave.
* `blind_order`: The permutation the sort applies.
* `Holds`: The oldest entry of a set under pressure.

## Theorems

* `length_closest_le`: No more than the radius are closest.
* `exists_not_mem_reference`: Of five ids one is left out.
* `nodes_offers`: Four offers are all taken.
* `holds_offer`: The oldest entry survives every offer.
* `offers_correct_iff`: The sets whose every order ends in the reference set.
-/

namespace AlpacaVrr

section Closest

variable {α β : Type} [LinearOrder β]

/-- The elements that fewer than `k` others are nearer than. -/
def closest (k : Nat) (dist : α → β) (s : List α) : List α :=
  s.filter (fun x => decide ((s.filter (fun y => decide (dist y < dist x))).length < k))

/-- With distinct distances there are at most `k` of them: the farthest one
    of them has all the others in front of it. -/
theorem length_closest_le (k : Nat) (dist : α → β) (s : List α) (hs : s.Nodup)
    (hinj : ∀ x ∈ s, ∀ y ∈ s, dist x = dist y → x = y) : (closest k dist s).length ≤ k := by
  classical
  by_cases hnil : closest k dist s = []
  · rw [hnil]
    exact Nat.zero_le k
  have hsub : ∀ x ∈ closest k dist s, x ∈ s := fun x hx => (List.mem_filter.mp hx).1
  -- the farthest of them has fewer than `k` in front of it, the others among them
  have hmax : ∃ m ∈ closest k dist s, ∀ x ∈ closest k dist s, dist x ≤ dist m := by
    rcases List.exists_mem_of_ne_nil _ hnil with ⟨x, hx⟩
    rcases Finset.exists_max_image (closest k dist s).toFinset dist
      ⟨x, List.mem_toFinset.mpr hx⟩ with ⟨m, hm, hle⟩
    exact ⟨m, List.mem_toFinset.mp hm, fun y hy => hle y (List.mem_toFinset.mpr hy)⟩
  rcases hmax with ⟨m, hm, hle⟩
  have hnodup : (closest k dist s).Nodup := hs.filter _
  have hfront : (closest k dist s).erase m ⊆ s.filter (fun y => decide (dist y < dist m)) := by
    intro x hx
    rcases (List.Nodup.mem_erase_iff hnodup).mp hx with ⟨hne, hmem⟩
    have hlt : dist x < dist m :=
      lt_of_le_of_ne (hle x hmem) (fun h => hne (hinj x (hsub x hmem) m (hsub m hm) h))
    exact List.mem_filter.mpr ⟨hsub x hmem, decide_eq_true hlt⟩
  have hlen := (List.subperm_of_subset (hnodup.erase m) hfront).length_le
  have hk := of_decide_eq_true (List.mem_filter.mp hm).2
  rw [List.length_erase_of_mem hm] at hlen
  omega

end Closest

/-- The ids to keep of those offered: all of them when they are few, and
    otherwise the nearest on either side. -/
def reference (me : U32) (s : List U32) : List U32 :=
  if s.length ≤ VRR_VSET_SIZE then s
  else closest (VRR_VSET_SIZE / 2) (fun id => me - id) s ++
    closest (VRR_VSET_SIZE / 2) (fun id => id - me) s

/-- More ids than the set has room for leave one out. -/
theorem exists_not_mem_reference (me : U32) (s : List U32) (hs : s.Nodup)
    (hlen : VRR_VSET_SIZE < s.length) : ∃ y ∈ s, y ∉ reference me s := by
  by_contra hall
  have hsub : s ⊆ reference me s := by
    intro y hy
    by_contra hmiss
    exact hall ⟨y, hy, hmiss⟩
  -- twice the radius is less than the number of ids
  have hle := (List.subperm_of_subset hs hsub).length_le
  have hleft := length_closest_le (VRR_VSET_SIZE / 2) (fun id => me - id) s hs
    (fun x _ y _ h => by bv_omega)
  have hright := length_closest_le (VRR_VSET_SIZE / 2) (fun id => id - me) s hs
    (fun x _ y _ h => by bv_omega)
  rw [reference, if_neg (Nat.not_le_of_lt hlen), List.length_append] at hle
  have hsize : VRR_VSET_SIZE = 4 := rfl
  omega

/-- One offer: the id, and what the four arrays it fills held before. -/
structure Offer where
  id : U32
  should_left : Garbage
  should_right : Garbage
  bump_left : Garbage
  bump_right : Garbage

/-- The offer `vrr_add` makes. -/
def offer (me : U32) (v : Vset) (o : Offer) : Vset :=
  if vset_should_add me v o.id o.should_left o.should_right then
    (vset_add me v o.id 0 o.bump_left o.bump_right).2.2
  else v

/-- The set that offers leave, from the initial one. -/
def offers (me : U32) (l : List Offer) : Vset := l.foldl (offer me) Vset.init

/-- A set with room takes a new id. -/
theorem offer_with_room (me : U32) (v : Vset) (o : Offer) (hroom : v.vset_size < VRR_VSET_SIZE)
    (hnew : o.id ∉ v.nodes) : offer me v o = insert_vset_node me v o.id := by
  have hshould : vset_should_add me v o.id o.should_left o.should_right = true := by
    unfold vset_should_add
    simp only [if_neg hnew, if_pos hroom]
  rw [offer, if_pos hshould, vset_add_set, if_neg hnew]
  have hle : (insert_vset_node me v o.id).vset_size ≤ VRR_VSET_SIZE := hroom
  rcases vset_bump_cases (insert_vset_node me v o.id) 0 o.bump_left o.bump_right with
    ⟨_, h⟩ | ⟨hlt, _⟩ | ⟨hlt, _⟩
  · rw [h]
  · exact absurd hle (Nat.not_le_of_lt hlt)
  · exact absurd hle (Nat.not_le_of_lt hlt)

/-- Offers that fit are all taken, whatever was in memory. The induction is on
    the offers still to come. -/
theorem nodes_offers (me : U32) (l : List Offer) (v : Vset) (hnew : (l.map Offer.id).Nodup)
    (hdisj : ∀ o ∈ l, o.id ∉ v.nodes) (hroom : v.vset_size + l.length ≤ VRR_VSET_SIZE) :
    (l.foldl (offer me) v).nodes = (l.map Offer.id).reverse ++ v.nodes := by
  induction l generalizing v with
  | nil => rfl
  | cons o l ih =>
      rw [List.map_cons, List.nodup_cons] at hnew
      rw [List.length_cons] at hroom
      have hlt : v.vset_size < VRR_VSET_SIZE := by omega
      have hstep := offer_with_room me v o hlt (hdisj o List.mem_cons_self)
      have hnodes : (insert_vset_node me v o.id).nodes = o.id :: v.nodes := rfl
      have hdisj' : ∀ o' ∈ l, o'.id ∉ (insert_vset_node me v o.id).nodes := by
        intro o' ho' hmem
        rw [hnodes, List.mem_cons] at hmem
        rcases hmem with h | h
        · exact hnew.1 (by rw [← h]; exact List.mem_map_of_mem ho')
        · exact hdisj o' (List.mem_cons_of_mem o ho') h
      have hroom' : (insert_vset_node me v o.id).vset_size + l.length ≤ VRR_VSET_SIZE := by
        change v.vset_size + 1 + l.length ≤ VRR_VSET_SIZE
        omega
      rw [List.foldl_cons, hstep, ih _ hnew.2 hdisj' hroom', hnodes, List.map_cons,
        List.reverse_cons, List.append_assoc, List.singleton_append]

/-- The permutation the sort applies to an array of `n` words. -/
def blind_order (n : Nat) : List Nat := HeapSort.sort (fun _ i j => cmp_diff i j) (List.range n)

/-- Position `i` of the sorted array holds the word from `blind_order`'s
    position. -/
theorem sort_diffs_eq (a : List U32) :
    sort_diffs a = (blind_order a.length).map (fun i => a.getD i 0) := by
  have ha : a = (List.range a.length).map (fun i => a.getD i 0) := by
    refine List.ext_getElem (by rw [List.length_map, List.length_range]) (fun i hi _ => ?_)
    rw [List.getElem_map, List.getElem_range, List.getD_eq_getElem?_getD,
      List.getElem?_eq_getElem hi, Option.getD_some]
  have hsort := HeapSort.sort_map (fun i => a.getD i 0) (fun _ i j => cmp_diff i j)
    (fun _ i j => cmp_diff i j) (fun _ _ _ => rfl) (List.range a.length)
  rw [← ha] at hsort
  exact hsort

theorem sort_diffs_getD (a : List U32) (i j : Nat) (h : (blind_order a.length)[i]? = some j) :
    (sort_diffs a).getD i 0 = a.getD j 0 := by
  rw [sort_diffs_eq, List.getD_eq_getElem?_getD, List.getElem?_map, h, Option.map_some,
    Option.getD_some]

/-- Up to nine entries, the middle of the sorted array is the second word. -/
theorem blind_order_middle (n : Nat) (h5 : 5 ≤ n) (h9 : n ≤ 9) : (blind_order n)[2]? = some 1 := by
  interval_cases n <;> rfl

/-- The offer of an id, made in zeroed memory. -/
def zeroed (id : U32) : Offer := ⟨id, fun _ => 0, fun _ => 0, fun _ => 0, fun _ => 0⟩

/-- A set that has not lost its oldest entry: up to four entries, the counter
    ahead of them by at most four, and the oldest is `y`. -/
structure Holds (y : U32) (v : Vset) : Prop where
  counter_pos : 1 ≤ v.vset_size
  counter_le : v.vset_size ≤ 8
  length_eq : v.list.length = min v.vset_size VRR_VSET_SIZE
  oldest : ∃ e, v.list.getLast? = some e ∧ e.node = y

/-- At a counter of eight the two words compared with are unwritten. -/
theorem not_should_add_of_eight (me : U32) (v : Vset) (node : U32) (hsize : v.vset_size = 8)
    (hlen : v.list.length = 4) : vset_should_add me v node (fun _ => 0) (fun _ => 0) = false := by
  have hfill : ∀ f : VsetEntry → U32, ∀ i, i < 2 →
      (sort_diffs (fill (v.list.map f) 8 (fun _ => 0))).getD i 0 = 0 := by
    intro f i hi
    have hle : (v.list.map f).length ≤ 8 := by rw [List.length_map, hlen]; decide
    -- the sort moved a word there from behind the four entries
    have hj : ∃ j, 4 ≤ j ∧
        (blind_order (fill (v.list.map f) 8 (fun _ => 0)).length)[i]? = some j := by
      rw [length_fill _ _ _ hle]
      interval_cases i
      · exact ⟨7, by omega, rfl⟩
      · exact ⟨4, by omega, rfl⟩
    rcases hj with ⟨j, hj4, hj⟩
    rw [sort_diffs_getD _ i j hj, fill, List.getD_append_right _ _ _ _ (by
      rw [List.length_map, hlen]; exact hj4)]
    rw [List.getD_eq_getElem?_getD, List.getElem?_map]
    cases (List.range (8 - (v.list.map f).length))[j - (v.list.map f).length]? <;> rfl
  unfold vset_should_add
  simp only [hsize]
  split_ifs
  · rfl
  · rename_i h
    exact absurd h (by decide)
  · rw [List.any_eq_false]
    intro i hi
    have hi2 : i < 2 := List.mem_range.mp hi
    rw [hfill _ i hi2, hfill _ i hi2, Bool.or_eq_true, decide_eq_true_eq, decide_eq_true_eq]
    bv_omega

/-- A word of the sorted array that comes from an entry. -/
theorem slot_of_entry (v : Vset) (f : VsetEntry → U32) (g : Garbage) (i p : Nat) (e : VsetEntry)
    (hp : (blind_order v.vset_size)[i]? = some p) (he : v.list[p]? = some e) :
    (sort_diffs (fill (v.list.map f) v.vset_size g)).getD i 0 = f e := by
  have hle : (v.list.map f).length ≤ v.vset_size := by
    rw [List.length_map]
    exact v.length_le
  have hpos : (blind_order (fill (v.list.map f) v.vset_size g).length)[i]? = some p := by
    rw [length_fill _ _ _ hle]
    exact hp
  have hlt : p < (v.list.map f).length := by
    rw [List.length_map]
    exact (List.getElem?_eq_some_iff.mp he).1
  rw [sort_diffs_getD _ i p hpos, fill, List.getD_append _ _ _ _ hlt, List.getD_eq_getElem?_getD,
    List.getElem?_map, he, Option.map_some, Option.getD_some]

/-- The two distances of an entry, as the eviction looks for them. -/
def VsetEntry.alike (e tmp : VsetEntry) : Bool :=
  tmp.diff_left == e.diff_left && tmp.diff_right == e.diff_right

theorem VsetEntry.alike_iff (e tmp : VsetEntry) :
    e.alike tmp = true ↔ tmp.diff_left = e.diff_left ∧ tmp.diff_right = e.diff_right := by
  rw [VsetEntry.alike, Bool.and_eq_true, beq_iff_eq, beq_iff_eq]

/-- When the word in the middle comes from an entry, the first entry with its
    two distances is evicted. -/
theorem vset_bump_at (v : Vset) (rem : U32) (gl gr : Garbage) (p : Nat) (e : VsetEntry)
    (hfull : VRR_VSET_SIZE < v.vset_size)
    (hp : (blind_order v.vset_size)[VRR_VSET_SIZE / 2]? = some p) (he : v.list[p]? = some e) :
    ∃ tmp, v.list.find? e.alike = some tmp ∧
      vset_bump v rem gl gr = (1, tmp.node, v.unlink e.alike) := by
  have hmem : e ∈ v.list := List.mem_of_getElem? he
  cases hfind : v.list.find? e.alike with
  | none =>
      -- the entry itself has the two distances
      have hmiss := List.find?_eq_none.mp hfind e hmem
      exact absurd ((VsetEntry.alike_iff e e).mpr ⟨rfl, rfl⟩) hmiss
  | some tmp =>
      refine ⟨tmp, rfl, ?_⟩
      unfold VsetEntry.alike at hfind ⊢
      unfold vset_bump
      simp only [if_neg (Nat.not_le_of_lt hfull), slot_of_entry v _ _ _ p e hp he, hfind]

/-- From five to nine entries, an eviction takes one of the two newest. -/
theorem list_bump (v : Vset) (rem : U32) (gl gr : Garbage) (a b : VsetEntry)
    (rest : List VsetEntry) (hlist : v.list = a :: b :: rest) (h5 : 5 ≤ v.vset_size)
    (h9 : v.vset_size ≤ 9) : ∃ c, (vset_bump v rem gl gr).2.2.list = c :: rest ∧
      (vset_bump v rem gl gr).2.2.vset_size = v.vset_size := by
  have hsecond : v.list[1]? = some b := by rw [hlist]; rfl
  rcases vset_bump_at v rem gl gr 1 b h5 (blind_order_middle v.vset_size h5 h9) hsecond with
    ⟨tmp, _, hbump⟩
  rw [hbump]
  -- the entry whose distances are sought is the second one, unless the first
  -- one has the same
  by_cases ha : b.alike a = true
  · exact ⟨b, by simp only [Vset.unlink, hlist, List.eraseP_cons, ha, cond_true], rfl⟩
  · have hb : b.alike b = true := (VsetEntry.alike_iff b b).mpr ⟨rfl, rfl⟩
    rw [Bool.not_eq_true] at ha
    exact ⟨a, by simp only [Vset.unlink, hlist, List.eraseP_cons, ha, hb, cond_true, cond_false],
      rfl⟩

/-- With room for one more, nothing is evicted. -/
theorem holds_insert_room (me y : U32) (v : Vset) (hv : Holds y v) (id : U32)
    (hroom : v.vset_size < VRR_VSET_SIZE) :
    Holds y (vset_bump (insert_vset_node me v id) 0 (fun _ => 0) (fun _ => 0)).2.2 := by
  rcases hv with ⟨hpos, hle8, hlen, e, hlast, hey⟩
  have hfour : VRR_VSET_SIZE = 4 := rfl
  have hle : (insert_vset_node me v id).vset_size ≤ VRR_VSET_SIZE := hroom
  rcases vset_bump_cases (insert_vset_node me v id) 0 (fun _ => 0) (fun _ => 0) with
    ⟨_, h⟩ | ⟨hlt, _⟩ | ⟨hlt, _⟩
  · rw [h]
    refine ⟨by simp only [insert_vset_node]; omega, by simp only [insert_vset_node]; omega,
      by simp only [insert_vset_node, List.length_cons]; omega, e, ?_, hey⟩
    cases hl : v.list with
    | nil =>
        rw [hl] at hlast
        simp only [List.getLast?_nil, reduceCtorEq] at hlast
    | cons a rest =>
        simp only [insert_vset_node, hl, List.getLast?_cons_cons]
        rw [← hl]
        exact hlast
  · exact absurd hle (Nat.not_le_of_lt hlt)
  · exact absurd hle (Nat.not_le_of_lt hlt)

/-- With four entries or more, the eviction leaves everything behind the two
    newest. -/
theorem holds_insert_full (me y : U32) (v : Vset) (hv : Holds y v) (id : U32)
    (hfull : VRR_VSET_SIZE ≤ v.vset_size) (hlt8 : v.vset_size < 8) :
    Holds y (vset_bump (insert_vset_node me v id) 0 (fun _ => 0) (fun _ => 0)).2.2 := by
  rcases hv with ⟨hpos, hle8, hlen, e, hlast, hey⟩
  have hfour : VRR_VSET_SIZE = 4 := rfl
  have hlen4 : v.list.length = 4 := by omega
  cases hl : v.list with
  | nil => rw [hl] at hlen4; exact absurd hlen4 (by decide)
  | cons b rest =>
      have hins : (insert_vset_node me v id).list =
          ⟨id, diff_left me id, diff_right me id⟩ :: b :: rest := by
        simp only [insert_vset_node, hl]
      have hsize : (insert_vset_node me v id).vset_size = v.vset_size + 1 := rfl
      rcases list_bump (insert_vset_node me v id) 0 (fun _ => 0) (fun _ => 0) _ b rest hins
        (by omega) (by omega) with ⟨c, hc, hcounter⟩
      rw [hl, List.length_cons] at hlen4
      refine ⟨by omega, by omega, by rw [hc, List.length_cons]; omega, e, ?_, hey⟩
      rw [hc]
      -- the oldest entry is among the three that are left
      cases hrest : rest with
      | nil => rw [hrest] at hlen4; exact absurd hlen4 (by decide)
      | cons d rest' =>
          rw [List.getLast?_cons_cons, ← hrest]
          rw [hl, hrest, List.getLast?_cons_cons, ← hrest] at hlast
          exact hlast

/-- The oldest entry survives every offer in zeroed memory. -/
theorem holds_offer (me y : U32) (v : Vset) (hv : Holds y v) (id : U32) :
    Holds y (offer me v (zeroed id)) := by
  by_cases hshould : vset_should_add me v id (fun _ => 0) (fun _ => 0) = true
  · have hnew : id ∉ v.nodes := by
      intro hmem
      unfold vset_should_add at hshould
      simp only [if_pos hmem, Bool.false_eq_true] at hshould
    have hoffer : offer me v (zeroed id) =
        (vset_bump (insert_vset_node me v id) 0 (fun _ => 0) (fun _ => 0)).2.2 := by
      rw [offer, zeroed, if_pos hshould, vset_add_set, if_neg hnew]
    rw [hoffer]
    rcases Nat.lt_or_ge v.vset_size VRR_VSET_SIZE with hroom | hfull
    · exact holds_insert_room me y v hv id hroom
    refine holds_insert_full me y v hv id hfull (lt_of_le_of_ne hv.counter_le (fun heq => ?_))
    -- a counter of eight refuses every id
    have hrefused := not_should_add_of_eight me v id heq (by rw [hv.length_eq, heq]; rfl)
    rw [hrefused] at hshould
    exact absurd hshould Bool.false_ne_true
  · have hoffer : offer me v (zeroed id) = v := if_neg hshould
    rw [hoffer]
    exact hv

/-- The id offered first is never lost. -/
theorem mem_offers_first (me y : U32) (ids : List U32) :
    y ∈ (offers me (zeroed y :: ids.map zeroed)).nodes := by
  have hfirst : offer me Vset.init (zeroed y) = insert_vset_node me Vset.init y :=
    offer_with_room me Vset.init (zeroed y) (by decide) List.not_mem_nil
  have hstart : Holds y (insert_vset_node me Vset.init y) :=
    ⟨Nat.le_refl 1, Nat.le_add_left 1 7, rfl, _, rfl, rfl⟩
  have hrun : ∀ (ids : List U32) (v : Vset), Holds y v →
      Holds y ((ids.map zeroed).foldl (offer me) v) := by
    intro ids
    induction ids with
    | nil => exact fun v hv => hv
    | cons id ids ih => exact fun v hv => ih _ (holds_offer me y v hv id)
  rcases (hrun ids _ hstart).oldest with ⟨e, hlast, hey⟩
  rw [offers, List.foldl_cons, hfirst]
  exact (mem_nodes_iff _ y).mpr ⟨e, List.mem_of_getLast? hlast, hey⟩

/-- Every order of offering the ids, in any state of memory, ends in the
    reference set exactly when the set has room for them all. -/
theorem offers_correct_iff (me : U32) (s : List U32) (hs : s.Nodup) :
    (∀ l : List Offer, (l.map Offer.id).Perm s →
      ∀ x, x ∈ (offers me l).nodes ↔ x ∈ reference me s) ↔ s.length ≤ VRR_VSET_SIZE := by
  constructor
  · intro hall
    by_contra hlen
    rcases exists_not_mem_reference me s hs (Nat.lt_of_not_le hlen) with ⟨y, hy, hmiss⟩
    -- offer the one that is to be left out first
    have hperm : ((zeroed y :: (s.erase y).map zeroed).map Offer.id).Perm s := by
      have hids : (zeroed y :: (s.erase y).map zeroed).map Offer.id = y :: s.erase y := by
        rw [List.map_cons, List.map_map]
        exact congrArg (y :: ·) (List.map_id _)
      rw [hids]
      exact (List.perm_cons_erase hy).symm
    exact hmiss ((hall _ hperm y).mp (mem_offers_first me y (s.erase y)))
  · -- all of them fit, in whatever order
    intro hlen l hperm x
    have hroom : Vset.init.vset_size + l.length ≤ VRR_VSET_SIZE := by
      have hl : l.length = s.length := by rw [← hperm.length_eq, List.length_map]
      rw [hl]
      exact (Nat.zero_add _).trans_le hlen
    have hnodes := nodes_offers me l Vset.init (hperm.nodup_iff.mpr hs)
      (fun _ _ => List.not_mem_nil) hroom
    rw [offers, hnodes, reference, if_pos hlen, List.mem_append, List.mem_reverse,
      hperm.mem_iff]
    exact or_iff_left List.not_mem_nil

/-- The rule for the five ids after node 0. -/
theorem offers_correct_iff_five :
    (∀ l : List Offer, (l.map Offer.id).Perm [1, 2, 3, 4, 5] →
      ∀ x, x ∈ (offers 0 l).nodes ↔ x ∈ reference 0 [1, 2, 3, 4, 5]) ↔
      [1, 2, 3, 4, 5].length ≤ VRR_VSET_SIZE :=
  offers_correct_iff 0 [1, 2, 3, 4, 5] (by decide)

/-- Offered in ascending order, they leave the one in the middle in the set. -/
theorem offers_five_wrong : (3 : U32) ∈ (offers 0 ([1, 2, 3, 4, 5].map zeroed)).nodes ∧
    (3 : U32) ∉ reference 0 [1, 2, 3, 4, 5] := by
  decide

end AlpacaVrr
