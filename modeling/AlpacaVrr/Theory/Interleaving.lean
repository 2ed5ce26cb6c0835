import AlpacaVrr.Core.Deferred

/-!
# Hellos Between the Handler's Operations

Which updates the handler gets to see.

The list starts empty and a hello puts its update behind all others, so what
was handled and what is in the list are together the updates in the order of
their allocation. `Stage` says so for each place where the handler can be.
The update that it has handled but not taken out yet is in both.

The handler reads the next address before it handles an update. When that
address is the head, it will not look at the list again, and an update that is
put there now is lost: `INIT_LIST_HEAD` makes the list empty, although nothing
needs that on a list whose elements have all been taken out. A hello at any
other time is met by the loop, or finds the handler idle and schedules it.

## Main definitions

* `Stage`, `Intact`: What the handler has read is what the list holds.
* `Doomed`: An update that the handler will not come to.

## Theorems

* `intact_step`: Each operation keeps this, if no hello comes while closing.
* `updates_kept`: Then no update is lost.
* `lost_of_closing`: And a hello that does come then loses its update.
* `update_lost`: A run with such a hello.
* `handler_alone`: Without hellos, the loop is the one of `Core.Input`.
-/

namespace AlpacaVrr

open LinkedList FaultState

/-- Where the handler is in a list of the updates `xs`. -/
def Stage (d : Deferred) (xs : List Nat) : Prop :=
  match d.progress with
  | .idle => d.processed ++ xs = List.range d.updates.length ∧ (xs ≠ [] → d.scheduled = true)
  | .looking pos q => pos = xs.head? ∧ q = xs.tail.head? ∧
      d.processed ++ xs = List.range d.updates.length
  | .handled pos q => ∃ x rest, xs = x :: rest ∧ pos = some x ∧ q = rest.head? ∧
      x ∈ d.processed ∧ d.processed ++ rest = List.range d.updates.length
  | .unlinked q => q = xs.head? ∧ d.processed ++ xs = List.range d.updates.length

/-- The list is a ring, and the handler is where it thinks it is. -/
def Intact (d : Deferred) : Prop := ∃ xs : List Nat, Linked d.links none (xs.map some) ∧ Stage d xs

/-- The updates that were not handled, and a reason why each is in the list. -/
theorem Stage.split {d : Deferred} {xs : List Nat} (h : Stage d xs) :
    ∃ rest, d.processed ++ rest = List.range d.updates.length ∧ ∀ n ∈ rest, n ∈ xs := by
  unfold Stage at h
  split at h
  · exact ⟨xs, h.1, fun n hn => hn⟩
  · exact ⟨xs, h.2.2, fun n hn => hn⟩
  · rcases h with ⟨x, rest, rfl, _, _, _, hsplit⟩
    exact ⟨rest, hsplit, fun n hn => List.mem_cons_of_mem x hn⟩
  · exact ⟨xs, h.2, fun n hn => hn⟩

/-- Nothing is in the list that was not allocated. -/
theorem Stage.lt {d : Deferred} {xs : List Nat} (h : Stage d xs) :
    ∀ n ∈ xs, n < d.updates.length := by
  intro n hn
  unfold Stage at h
  split at h
  · rw [← List.mem_range, ← h.1]
    exact List.mem_append_right _ hn
  · rw [← List.mem_range, ← h.2.2]
    exact List.mem_append_right _ hn
  · rcases h with ⟨x, rest, rfl, _, _, hx, hsplit⟩
    rw [← List.mem_range, ← hsplit]
    rcases List.mem_cons.mp hn with rfl | hmem
    · exact List.mem_append_left _ hx
    · exact List.mem_append_right _ hmem
  · rw [← List.mem_range, ← h.2]
    exact List.mem_append_right _ hn

/-- An intact list has lost nothing. -/
theorem accounted_of_intact {d : Deferred} (h : Intact d) : d.Accounted := by
  intro n hn
  rcases h with ⟨xs, hlinked, hstage⟩
  rcases hstage.split with ⟨rest, hsplit, hrest⟩
  have hcount : d.processed.count n + rest.count n = 1 := by
    rw [← List.count_append, hsplit]
    exact List.count_eq_one_of_mem List.nodup_range (List.mem_range.mpr hn)
  by_cases hmem : n ∈ rest
  · have hpos := List.count_pos_iff.mpr hmem
    exact Or.inr ⟨by omega, reachable_of_linked hlinked (List.mem_map_of_mem (hrest n hmem))⟩
  · rw [List.count_eq_zero_of_not_mem hmem] at hcount
    exact Or.inl hcount

/-- The head's successor is the first element, and `none` is the head. -/
theorem next_of_linked {links : Links Addr} {xs : List Nat}
    (h : Linked links none (xs.map some)) :
    (links none).next = xs.head? ∧ (links xs.head?).next = xs.tail.head? := by
  cases xs with
  | nil => exact ⟨linked_next h, linked_next h⟩
  | cons x rest =>
      refine ⟨linked_next h, ?_⟩
      rw [List.head?_cons, linked_next_first h]
      cases rest <;> rfl

/-- Putting an update into the list, when the handler is going to look. -/
theorem intact_enqueue {d : Deferred} (h : Intact d) (hopen : ¬ d.Closing) (update : PsetUpdate) :
    Intact (d.enqueue update) := by
  rcases h with ⟨xs, hlinked, hstage⟩
  have hnew : some d.updates.length ∉ none :: xs.map some := by
    intro hmem
    rcases List.mem_cons.mp hmem with hnone | hmem
    · exact absurd hnone (Option.some_ne_none _)
    · rcases List.mem_map.mp hmem with ⟨n, hn, heq⟩
      exact absurd (hstage.lt n hn) (by rw [Option.some.inj heq]; exact Nat.lt_irrefl _)
  refine ⟨xs ++ [d.updates.length], ?_, ?_⟩
  · rw [List.map_append]
    exact linked_add_tail hlinked hnew
  have hrange : ∀ rest, d.processed ++ rest = List.range d.updates.length →
      d.processed ++ (rest ++ [d.updates.length]) =
        List.range (d.updates ++ [update]).length := by
    intro rest hrest
    rw [← List.append_assoc, hrest, List.length_append, List.length_singleton, List.range_succ]
  unfold Deferred.Closing at hopen
  unfold Stage at hstage ⊢
  unfold Deferred.enqueue
  -- an address that was read as an update's is still the right one
  cases hp : d.progress with
  | idle =>
      rw [hp] at hstage
      exact ⟨hrange _ hstage.1, fun _ => rfl⟩
  | looking pos q =>
      rw [hp] at hstage hopen
      rcases hstage with ⟨rfl, rfl, hsplit⟩
      match xs, hopen, hsplit with
      | [], hopen, _ => exact absurd (Or.inl rfl) hopen
      | [_], hopen, _ => exact absurd (Or.inr rfl) hopen
      | x :: y :: rest, _, hsplit => exact ⟨rfl, rfl, hrange _ hsplit⟩
  | handled pos q =>
      rw [hp] at hstage hopen
      rcases hstage with ⟨x, rest, rfl, rfl, rfl, hx, hsplit⟩
      match rest, hopen, hsplit with
      | [], hopen, _ => exact absurd rfl hopen
      | y :: rest, _, hsplit => exact ⟨x, y :: rest ++ _, rfl, rfl, rfl, hx, hrange _ hsplit⟩
  | unlinked q =>
      rw [hp] at hstage hopen
      rcases hstage with ⟨rfl, hsplit⟩
      match xs, hopen, hsplit with
      | [], hopen, _ => exact absurd rfl hopen
      | x :: rest, _, hsplit => exact ⟨rfl, hrange _ hsplit⟩

theorem intact_enqueues {l : List PsetUpdate} {d : Deferred} (h : Intact d)
    (hopen : d.Closing → l = []) : Intact (l.foldl Deferred.enqueue d) := by
  induction l generalizing d with
  | nil => exact h
  | cons update l ih =>
      have hnot : ¬ d.Closing := fun hc => absurd (hopen hc) (List.cons_ne_nil _ _)
      exact ih (intact_enqueue h hnot update) (fun hc => absurd hc hnot)

theorem intact_read {d d' : Deferred} {k : Kernel} (h : Intact d)
    (hrun : d.read k = some d') : Intact d' := by
  rcases h with ⟨xs, hlinked, hstage⟩
  rcases Deferred.read_eq_some hrun with ⟨hp, hs, rfl⟩
  unfold Stage at hstage
  rw [hp] at hstage
  have hnext := next_of_linked hlinked
  refine ⟨xs, hlinked, ?_⟩
  unfold Stage
  exact ⟨hnext.1, by rw [hnext.1]; exact hnext.2, hstage.1⟩

theorem intact_process {d d' : Deferred} (h : Intact d) (hrun : d.process = some d') :
    Intact d' := by
  rcases h with ⟨xs, hlinked, hstage⟩
  rcases Deferred.process_eq_some hrun with ⟨n, q, tmp, s, hp, _, _, rfl⟩
  unfold Stage at hstage
  rw [hp] at hstage
  -- the update is the first one of the list, and stays there for now
  rcases hstage with ⟨hpos, hq, hsplit⟩
  rcases List.head?_eq_some_iff.mp hpos.symm with ⟨rest, rfl⟩
  refine ⟨n :: rest, hlinked, ?_⟩
  unfold Stage
  refine ⟨n, rest, rfl, rfl, hq, List.mem_append_right _ (List.mem_singleton_self n), ?_⟩
  rw [List.append_assoc]
  exact hsplit

theorem intact_unlink {d d' : Deferred} {poison : ListHead Addr} (h : Intact d)
    (hrun : d.unlink poison = some d') : Intact d' := by
  rcases h with ⟨xs, hlinked, hstage⟩
  rcases Deferred.unlink_eq_some hrun with ⟨pos, q, hp, rfl⟩
  unfold Stage at hstage
  rw [hp] at hstage
  rcases hstage with ⟨x, rest, rfl, rfl, hq, _, hsplit⟩
  exact ⟨rest, linked_del_first hlinked poison, hq, hsplit⟩

theorem intact_advance {d d' : Deferred} (h : Intact d) (hrun : d.advance = some d') :
    Intact d' := by
  rcases h with ⟨xs, hlinked, hstage⟩
  rcases Deferred.advance_eq_some hrun with ⟨q, hp, rfl⟩
  unfold Stage at hstage
  rw [hp] at hstage
  refine ⟨xs, hlinked, hstage.1, ?_, hstage.2⟩
  rw [hstage.1]
  exact (next_of_linked hlinked).2

/-- The list is empty when the loop ends, so making it empty does no harm. -/
theorem intact_finish {d d' : Deferred} (h : Intact d) (hrun : d.finish = some d') :
    Intact d' := by
  rcases h with ⟨xs, hlinked, hstage⟩
  rcases Deferred.finish_eq_some hrun with ⟨q, hp, rfl⟩
  unfold Stage at hstage
  rw [hp] at hstage
  have hnil : xs = [] := List.head?_eq_none_iff.mp hstage.1.symm
  subst hnil
  exact ⟨[], linked_init d.links none, hstage.2.2, fun hne => absurd rfl hne⟩

theorem intact_hello {d d' : Deferred} {skb : SkBuff} {k : Kernel} (h : Intact d)
    (hapart : (ListOp.vrr_rcv_hello skb k).Apart d)
    (hrun : d.vrr_rcv_hello skb k = some d') : Intact d' := by
  rcases Deferred.vrr_rcv_hello_eq_some hrun with ⟨s, hs, rfl⟩
  exact intact_enqueues h (hapart skb k s rfl hs)

/-- Each operation keeps the list and the handler in step. -/
theorem intact_step {d d' : Deferred} {op : ListOp} (h : Intact d) (hapart : op.Apart d)
    (hrun : op.run d = some d') : Intact d' := by
  cases op with
  | vrr_rcv_hello skb k => exact intact_hello h hapart hrun
  | read k => exact intact_read h hrun
  | process => exact intact_process h hrun
  | unlink poison => exact intact_unlink h hrun
  | advance => exact intact_advance h hrun
  | init_list_head => exact intact_finish h hrun

theorem intact_boot (links : Links Addr) (s : Sys) : Intact (Deferred.boot links s) :=
  ⟨[], linked_init links none, rfl, fun hne => absurd rfl hne⟩

/-- In every run in which no hello leaves an update while the handler is
    closing, every update has been handled once or is in the list. And one that
    waits while the handler is idle has it scheduled. -/
theorem updates_kept (links : Links Addr) (s : Sys) (d : Deferred)
    (hreach : Reach (fun d op d' => ListOp.Step d op d' ∧ ListOp.Apart d op)
      (Deferred.boot links s) d) :
    d.Accounted ∧ (d.progress = .idle → ∀ n < d.updates.length, n ∉ d.processed →
      d.scheduled = true) := by
  have hintact := hreach.invariant Intact (intact_boot links s)
    (fun u op v hu hstep => intact_step hu hstep.2 hstep.1)
  refine ⟨accounted_of_intact hintact, fun hidle n hn hnot => ?_⟩
  rcases hintact with ⟨xs, _, hstage⟩
  unfold Stage at hstage
  rw [hidle] at hstage
  refine hstage.2 (fun hnil => hnot ?_)
  have hsplit := hstage.1
  rw [hnil, List.append_nil] at hsplit
  rw [hsplit]
  exact List.mem_range.mpr hn

/-- A hello without lists. -/
def greeting (src : U32) (h_source : MacAddr) : ListOp :=
  .vrr_rcv_hello (frame h_source VRR_HELLO src 0 [1, 0, 0, 0]) Kernel.calm

/-- A hello comes only while the handler is idle or has a next update to go to. -/
def timely (d : Deferred) : ListOp → Bool
  | .vrr_rcv_hello _ _ =>
      match d.progress with
      | .idle => true
      | .looking pos q => pos.isSome && q.isSome
      | .handled _ q => q.isSome
      | .unlinked q => q.isSome
  | _ => true

theorem apart_of_timely {d : Deferred} {op : ListOp} (h : timely d op = true) :
    ListOp.Apart d op := by
  intro skb k s heq _ hclosing
  rw [heq] at h
  unfold timely at h
  unfold Deferred.Closing at hclosing
  exfalso
  cases hp : d.progress with
  | idle => simp [hp] at hclosing
  | looking pos q =>
      simp only [hp, Bool.and_eq_true] at h hclosing
      rcases hclosing with hnone | hnone <;> simp [hnone] at h
  | handled n q =>
      simp only [hp] at h hclosing
      simp [hclosing] at h
  | unlinked q =>
      simp only [hp] at h hclosing
      simp [hclosing] at h

/-- Nodes 2 and 3 are heard, and node 4 while the handler is at work on the
    update of node 2. It comes to all three. -/
theorem updates_kept_one :
    ∃ d, Reach (fun d op d' => ListOp.Step d op d' ∧ ListOp.Apart d op)
      (Deferred.boot (fun _ => ⟨none, none⟩) node_one) d ∧ d.processed = [0, 1, 2] ∧
      d.Accounted := by
  have hends : (ListOp.runs_checked timely (Deferred.boot (fun _ => ⟨none, none⟩) node_one)
      ([greeting 2 0x22, greeting 3 0x33, .read Kernel.calm, .process, greeting 4 0x44,
        .unlink ⟨none, none⟩, .advance] ++ handler_ops ⟨none, none⟩ 2)).map Deferred.processed =
      some [0, 1, 2] := by
    decide +kernel
  rcases Option.map_eq_some_iff.mp hends with ⟨d, hd, hprocessed⟩
  have hreach := (reach_runs_checked timely _ _ d _ Reach.refl hd).mono
    (fun _ _ _ h => (⟨h.1, apart_of_timely h.2⟩ : ListOp.Step _ _ _ ∧ ListOp.Apart _ _))
  exact ⟨d, hreach, hprocessed, (updates_kept _ _ d hreach).1⟩

/-- The handler is closing, and the update `n` was not handled and is not the
    one it is at. -/
def Doomed (n : Nat) (d : Deferred) : Prop :=
  d.Closing ∧ n < d.updates.length ∧ n ∉ d.processed ∧
    ∀ pos q, d.progress = .looking pos q → pos ≠ some n

/-- What putting updates into the list leaves alone. -/
theorem enqueues_eq (l : List PsetUpdate) (d : Deferred) :
    (l.foldl Deferred.enqueue d).updates = d.updates ++ l ∧
      (l.foldl Deferred.enqueue d).processed = d.processed ∧
      (l.foldl Deferred.enqueue d).progress = d.progress := by
  induction l generalizing d with
  | nil => exact ⟨(List.append_nil _).symm, rfl, rfl⟩
  | cons update l ih =>
      rcases ih (d.enqueue update) with ⟨hupdates, hprocessed, hprogress⟩
      refine ⟨?_, hprocessed, hprogress⟩
      rw [List.foldl_cons, hupdates, Deferred.enqueue, List.append_assoc, List.singleton_append]

theorem doomed_enqueues {n : Nat} {l : List PsetUpdate} {d : Deferred} (hclosing : d.Closing)
    (hlt : n < d.updates.length + l.length) (hnot : n ∉ d.processed)
    (hpos : ∀ pos q, d.progress = .looking pos q → pos ≠ some n) :
    Doomed n (l.foldl Deferred.enqueue d) := by
  rcases enqueues_eq l d with ⟨hupdates, hprocessed, hprogress⟩
  unfold Doomed Deferred.Closing
  rw [hupdates, hprocessed, hprogress, List.length_append]
  exact ⟨hclosing, hlt, hnot, hpos⟩

/-- It stays so until the handler is done. -/
theorem doomed_step {n : Nat} {d d' : Deferred} {op : ListOp} (h : Doomed n d)
    (hop : op ≠ .init_list_head) (hrun : ListOp.Step d op d') : Doomed n d' := by
  rcases h with ⟨hclosing, hlt, hnot, hpos⟩
  unfold Deferred.Closing at hclosing
  cases op with
  | vrr_rcv_hello skb k =>
      rcases Deferred.vrr_rcv_hello_eq_some hrun with ⟨s, _, rfl⟩
      exact doomed_enqueues hclosing (Nat.lt_add_right _ hlt) hnot hpos
  | read k =>
      rcases Deferred.read_eq_some hrun with ⟨hp, _, _⟩
      rw [hp] at hclosing
      exact hclosing.elim
  | process =>
      rcases Deferred.process_eq_some hrun with ⟨m, q, tmp, s, hp, _, _, rfl⟩
      rw [hp] at hclosing
      have hq : q = none := hclosing.resolve_left (Option.some_ne_none m)
      have hm : n ≠ m := fun heq => hpos _ _ hp (by rw [heq])
      refine ⟨hq, hlt, fun hmem => ?_, fun _ _ heq => by cases heq⟩
      rcases List.mem_append.mp hmem with hmem | hmem
      · exact hnot hmem
      · exact hm (List.mem_singleton.mp hmem)
  | unlink poison =>
      rcases Deferred.unlink_eq_some hrun with ⟨pos, q, hp, rfl⟩
      rw [hp] at hclosing
      exact ⟨hclosing, hlt, hnot, fun _ _ heq => by cases heq⟩
  | advance =>
      rcases Deferred.advance_eq_some hrun with ⟨q, hp, rfl⟩
      rw [hp] at hclosing
      -- the address it goes to is the head
      refine ⟨Or.inl hclosing, hlt, hnot, fun pos q' heq hsome => ?_⟩
      cases heq
      rw [hclosing] at hsome
      exact absurd hsome.symm (Option.some_ne_none n)
  | init_list_head => exact absurd rfl hop

/-- A hello that leaves an update while the handler is closing: when the handler
    is done, the update was not handled and is not in the list. -/
theorem lost_of_closing {d d1 d2 d3 : Deferred} {skb : SkBuff} {k : Kernel} {s : Sys}
    (h : Intact d) (hclosing : d.Closing) (hhello : d.hello skb k = some s)
    (hne : s.node.pset_updates ≠ []) (hfirst : ListOp.Step d (.vrr_rcv_hello skb k) d1)
    (hreach : Reach (fun d op d' => ListOp.Step d op d' ∧ op ≠ .init_list_head) d1 d2)
    (hlast : ListOp.Step d2 .init_list_head d3) : ¬ d3.Accounted := by
  rcases h with ⟨xs, hlinked, hstage⟩
  rcases hstage.split with ⟨rest, hsplit, _⟩
  -- the new update hangs behind the head that the handler is about to clear
  have hstart : Doomed d.updates.length d1 := by
    rcases Deferred.vrr_rcv_hello_eq_some hfirst with ⟨s', hs', rfl⟩
    rw [hhello, Option.some.injEq] at hs'
    rw [← hs']
    refine doomed_enqueues hclosing ?_ ?_ ?_
    · exact Nat.lt_add_of_pos_right (List.length_pos_iff.mpr hne)
    · intro hmem
      have hrange : d.updates.length ∈ List.range d.updates.length := by
        rw [← hsplit]
        exact List.mem_append_left _ hmem
      exact Nat.lt_irrefl _ (List.mem_range.mp hrange)
    · intro pos q hp heq
      have hmem : d.updates.length ∈ xs := by
        unfold Stage at hstage
        rw [show d.progress = .looking pos q from hp] at hstage
        exact List.mem_of_mem_head? (hstage.1.symm.trans heq)
      exact Nat.lt_irrefl _ (hstage.lt _ hmem)
  have hend := hreach.invariant (Doomed d.updates.length) hstart
    (fun u op v hu hstep => doomed_step hu hstep.2 hstep.1)
  rcases Deferred.finish_eq_some hlast with ⟨q, _, rfl⟩
  intro haccounted
  rcases haccounted d.updates.length hend.2.1 with hone | ⟨_, hreachable⟩
  · rw [List.count_eq_zero_of_not_mem hend.2.2.1] at hone
    exact absurd hone Nat.zero_ne_one
  · -- the head of an empty list leads to itself
    rcases hreachable with ⟨m, hm⟩
    have hempty : Linked (init_list_head d2.links none) none [] := linked_init d2.links none
    have hself : (fun x => (init_list_head d2.links none x).next) none = none := linked_next hempty
    rw [Function.iterate_fixed hself] at hm
    exact absurd hm.symm (Option.some_ne_none _)

/-- The hello of node 3 comes when the update of node 2 has been taken out. The
    handler goes on to the head it has read before, and empties the list. -/
theorem update_lost :
    ¬ ∀ (links : Links Addr) (s : Sys) (d : Deferred),
      Reach (fun d op d' => ListOp.Step d op d') (Deferred.boot links s) d → d.Accounted := by
  intro hall
  have hends : (ListOp.runs_checked (fun _ _ => true)
      (Deferred.boot (fun _ => ⟨none, none⟩) node_one)
      [greeting 2 0x22, .read Kernel.calm, .process, .unlink ⟨none, none⟩, greeting 3 0x33,
        .advance, .init_list_head]).map
      (fun d => (d.updates.length, d.processed, (d.links none).next)) = some (2, [0], none) := by
    decide +kernel
  rcases Option.map_eq_some_iff.mp hends with ⟨d, hd, heq⟩
  simp only [Prod.mk.injEq] at heq
  have hreach := reach_runs_checked (fun _ _ => true) _ _ d _ Reach.refl hd
  have haccounted := hall _ _ d (hreach.mono (fun _ _ _ h => h.1)) 1 (by rw [heq.1]; decide)
  rw [heq.2.1] at haccounted
  rcases haccounted with hone | ⟨_, m, hm⟩
  · exact absurd hone (by decide)
  · -- the head leads to itself
    rw [Function.iterate_fixed heq.2.2] at hm
    exact absurd hm.symm (Option.some_ne_none _)

/-- From the test of the loop on, the updates are handled in the order of the
    list, and the list is empty in the end. -/
theorem handler_rounds (poison : ListHead Addr) (xs : List Nat) (tmps : List PsetUpdate) (t : Sys)
    (d : Deferred) (hlinked : Linked d.links none (xs.map some))
    (hp : d.progress = .looking xs.head? xs.tail.head?)
    (htmps : xs.map (fun n => d.updates[n]?) = tmps.map some)
    (hrun : tmps.forM Vrr.pset_update d.sys = .ok ((), t)) :
    ∃ d', ListOp.runs d (handler_ops poison xs.length) = some d' ∧ d'.sys = t ∧
      d'.processed = d.processed ++ xs ∧ d'.progress = .idle ∧ Linked d'.links none [] := by
  induction xs generalizing d tmps with
  | nil =>
      have hnil : tmps = [] := List.map_eq_nil_iff.mp htmps.symm
      subst hnil
      have hsys : d.sys = t := congrArg Prod.snd (Except.ok.inj hrun)
      refine ⟨{ d with links := init_list_head d.links none, progress := .idle }, ?_, hsys,
        (List.append_nil _).symm, rfl, linked_init d.links none⟩
      simp only [List.length_nil, handler_ops, ListOp.runs, ListOp.run, Deferred.finish, hp,
        List.head?_nil]
  | cons x rest ih =>
      cases tmps with
      | nil => exact absurd htmps (List.cons_ne_nil _ _)
      | cons tmp tmps =>
          rw [List.map_cons, List.map_cons, List.cons.injEq] at htmps
          have hrun : (Vrr.pset_update tmp >>= fun _ => tmps.forM Vrr.pset_update) d.sys =
              .ok ((), t) := hrun
          rw [bind_apply] at hrun
          cases hupdate : Vrr.pset_update tmp d.sys with
          | error e =>
              rw [hupdate] at hrun
              exact absurd hrun (by simp only [reduceCtorEq, not_false_eq_true])
          | ok r =>
              rw [hupdate] at hrun
              have hdel := linked_del_first hlinked poison
              -- one round: handle, take out, go to the address read before
              obtain ⟨d', hruns, hsys, hprocessed, hidle, hempty⟩ := ih tmps
                { d with
                  links := list_del d.links (some x) poison
                  processed := d.processed ++ [x]
                  progress := .looking rest.head? (list_del d.links (some x) poison rest.head?).next
                  sys := r.2 }
                hdel (by rw [(next_of_linked hdel).2]) htmps.2 hrun
              refine ⟨d', ?_, hsys, ?_, hidle, hempty⟩
              · rw [← hruns]
                simp only [List.length_cons, handler_ops, ListOp.runs, ListOp.run, Deferred.process,
                  Deferred.unlink, Deferred.advance, hp, List.head?_cons, List.tail_cons, htmps.1,
                  hupdate]
              · rw [hprocessed, List.append_assoc, List.singleton_append]

/-- The handler, when nothing comes in between: it handles the updates of the
    list as `pset_update_handler` does the ones that are queued in the node. -/
theorem handler_alone (poison : ListHead Addr) (k : Kernel) (d : Deferred) (xs : List Nat)
    (tmps : List PsetUpdate) (t : Sys) (hlinked : Linked d.links none (xs.map some))
    (hidle : d.progress = .idle) (hscheduled : d.scheduled = true)
    (htmps : xs.map (fun n => d.updates[n]?) = tmps.map some)
    (hrun : tmps.forM Vrr.pset_update { d.sys with kern := k } = .ok ((), t)) :
    ∃ d', ListOp.runs d (.read k :: handler_ops poison xs.length) = some d' ∧ d'.sys = t ∧
      d'.processed = d.processed ++ xs ∧ d'.progress = .idle ∧ Linked d'.links none [] := by
  have hnext := next_of_linked hlinked
  rcases handler_rounds poison xs tmps t
    { d with
      scheduled := false, sys := { d.sys with kern := k }
      progress := .looking (d.links none).next (d.links (d.links none).next).next }
    hlinked (by rw [hnext.1, hnext.2]) htmps hrun with ⟨d', hruns, hrest⟩
  refine ⟨d', ?_, hrest⟩
  rw [← hruns]
  simp only [ListOp.runs, ListOp.run, Deferred.read, hidle, hscheduled]

end AlpacaVrr
