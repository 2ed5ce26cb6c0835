import AlpacaVrr.Core.Connection
import AlpacaVrr.Lib.Reach
import Mathlib.Data.List.Find

/-!
# The Socket Table over Histories

Whether the table finds the socket it should, whatever sockets have come and
gone.

`connections` reads from a history which sockets are connected, to which
addresses, and in which order: a connection that succeeds goes in front, and a
release takes the socket out. It does not look at the state. `OnRecord` says that
the state agrees with it. Each list of the table is then the part of the
connections that belongs there, in the same order, so a lookup comes to a search
through all of them.

What makes it so is that an address is written in one place only, and only while
the socket is not connected. A socket that is connected is turned away before
anything is written, and a call that is rejected for its address writes nothing.
A socket that was never connected is on no list, so its release takes nothing
off.

The table of references is what `VrrSocks` describes: with the addresses read
off, each call is one of the two operations on it, or none.

## Main definitions

* `connections`: The connected sockets of a history, the latest first.
* `Sockets.Connected`: A socket is in use and connected.
* `OnRecord`: The state agrees with the history.
* `Sockets.view`: The table with the addresses.

## Theorems

* `on_record_step`, `on_record_of_reach`: The state always agrees.
* `view_step`: What a call does to the table with the addresses.
* `socket_table_exact`: The table finds the latest connection.
-/

namespace AlpacaVrr

/-- The connected sockets with their addresses, the latest connection first. -/
def connections : List (SockCall × Int) → List (Nat × U32)
  | [] => []
  | (.vrr_connect sk (some addr) _, ret) :: h =>
      if ret = 0 then (sk, addr.svrr_addr) :: connections h else connections h
  | (.vrr_release sk, _) :: h => (connections h).filter (fun x => x.1 ≠ sk)
  | _ :: h => connections h

/-- The socket is in use and connected to the address. -/
def Sockets.Connected (s : Sockets) (sk : Nat) (addr : U32) : Prop :=
  s.used sk = true ∧ s.sock sk = ⟨addr, .connected⟩

/-- The lists are those of the connections, and the fields as well. -/
structure OnRecord (s : Sockets) (cs : List (Nat × U32)) : Prop where
  lists : ∀ i, s.hlist i = (cs.filter (fun x => vrr_hash_list x.2 = i)).map Prod.fst
  distinct : (cs.map Prod.fst).Nodup
  connected : ∀ sk addr, (sk, addr) ∈ cs ↔ s.Connected sk addr

/-- A call to connect is rejected and writes nothing, or it files a socket that
    was not connected under its new address. -/
theorem connect_cases (s : Sockets) (sk : Nat) (addr : SockaddrVrr) (addrlen : Int) :
    ((s.__vrr_connect sk (some addr) addrlen).1 ≠ 0 ∧
      (s.__vrr_connect sk (some addr) addrlen).2 = s) ∨
    ((s.sock sk).state ≠ .connected ∧ s.__vrr_connect sk (some addr) addrlen =
      (0, (s.set_sock sk ⟨addr.svrr_addr, .connected⟩).vrr_hash_sock sk)) := by
  unfold Sockets.__vrr_connect
  by_cases hst : (s.sock sk).state = .connected
  · simp [hst, EISCONN]
  · by_cases hlen : addrlen = sizeof_sockaddr_vrr
    · by_cases hfam : addr.svrr_family = AF_VRR
      · simp [hst, hlen, hfam]
      · simp [hst, hlen, hfam, EINVAL]
    · simp [hst, hlen, EINVAL]

section Calls

variable {s : Sockets} {cs : List (Nat × U32)} (hs : OnRecord s cs)

include hs

/-- A socket on one of the lists is connected. -/
theorem connected_of_mem {i : U32} {sk : Nat} (h : sk ∈ s.hlist i) :
    ∃ addr, s.Connected sk addr ∧ i = vrr_hash_list addr := by
  rw [hs.lists] at h
  obtain ⟨x, hx, rfl⟩ := List.mem_map.mp h
  obtain ⟨hmem, hi⟩ := List.mem_filter.mp hx
  exact ⟨x.2, (hs.connected x.1 x.2).mp hmem, (of_decide_eq_true hi).symm⟩

/-- A socket that is not connected is not among the connections. -/
theorem not_mem_connections {sk : Nat} (h : ∀ addr, ¬ s.Connected sk addr) :
    sk ∉ cs.map Prod.fst := by
  intro hin
  obtain ⟨x, hx, rfl⟩ := List.mem_map.mp hin
  exact h x.2 ((hs.connected x.1 x.2).mp hx)

theorem nodup_hlist (i : U32) : (s.hlist i).Nodup := by
  rw [hs.lists]
  exact hs.distinct.sublist (List.filter_sublist.map Prod.fst)

/-- A new socket is on no list. -/
theorem on_record_create (type protocol : Int) (sk_alloc : Option (Nat × U32))
    (hnew : ∀ a ∈ sk_alloc, s.used a.1 = false) :
    OnRecord (s.vrr_create type protocol sk_alloc).2 cs := by
  unfold Sockets.vrr_create
  split_ifs
  · exact hs
  · exact hs
  cases sk_alloc with
  | none => exact hs
  | some a =>
      have hfree : s.used a.1 = false := hnew a rfl
      refine ⟨hs.lists, hs.distinct, fun sk addr => ?_⟩
      rw [hs.connected]
      unfold Sockets.Connected
      -- the memory was in nobody's use, so no connection was with it
      by_cases hsk : sk = a.1
      · rw [hsk, hfree]
        simp [Sockets.set_sock]
      · simp [Sockets.set_sock, hsk]

/-- A connection goes in front of the list of its address. -/
theorem on_record_connect (sk : Nat) (addr : SockaddrVrr) (addrlen : Int)
    (hused : s.used sk = true) :
    OnRecord (s.__vrr_connect sk (some addr) addrlen).2
      (if (s.__vrr_connect sk (some addr) addrlen).1 = 0 then (sk, addr.svrr_addr) :: cs
        else cs) := by
  rcases connect_cases s sk addr addrlen with ⟨hret, hsame⟩ | ⟨hst, hres⟩
  · rw [if_neg hret, hsame]
    exact hs
  rw [hres, if_pos rfl]
  -- a connected socket is turned away, so this one is on no list yet
  have habs : sk ∉ cs.map Prod.fst := by
    refine not_mem_connections hs (fun a hc => hst ?_)
    rw [hc.2]
  refine ⟨fun i => ?_, List.nodup_cons.mpr ⟨habs, hs.distinct⟩, fun sk' a => ?_⟩
  · simp only [Sockets.vrr_hash_sock, Sockets.set_sock, Function.update_self, List.filter_cons,
      hs.lists i]
    by_cases hi : vrr_hash_list addr.svrr_addr = i
    · simp [hi]
    · have hne : ¬ i = vrr_hash_list addr.svrr_addr := fun h => hi h.symm
      simp [hi, hne]
  · unfold Sockets.Connected
    by_cases hsk : sk' = sk
    · subst hsk
      have hno : (sk', a) ∉ cs := fun hin => habs (List.mem_map_of_mem hin)
      simp [Sockets.vrr_hash_sock, Sockets.set_sock, hused, hno, eq_comm]
    · have hother := hs.connected sk' a
      unfold Sockets.Connected at hother
      simp [Sockets.vrr_hash_sock, Sockets.set_sock, hsk, hother]

/-- A released socket is off its list, if it was on one. -/
theorem on_record_release (sk : Nat) :
    OnRecord (s.vrr_release sk).2 (cs.filter (fun x => x.1 ≠ sk)) := by
  refine ⟨fun i => ?_, hs.distinct.sublist (List.filter_sublist.map Prod.fst), fun sk' a => ?_⟩
  · -- one reference is erased, and the list has no other
    change (s.hlist i).erase sk = _
    rw [(nodup_hlist hs i).erase_eq_filter, hs.lists i, List.filter_map, List.filter_filter,
      List.filter_filter]
    congr 1
    refine List.filter_congr (fun x _ => ?_)
    rw [Bool.eq_iff_iff]
    simp [and_comm]
  · rw [List.mem_filter, hs.connected]
    unfold Sockets.Connected
    by_cases hsk : sk' = sk
    · simp [Sockets.vrr_release, hsk]
    · simp [Sockets.vrr_release, Sockets.vrr_unhash_sock, hsk]

end Calls

/-- What a call that comes back has done, and what it adds to the history. -/
theorem call_cases {s t : Sockets} {h h' : List (SockCall × Int)} {c : SockCall}
    (hstep : SockStep (s, h) c (t, h')) :
    (∃ type protocol sk_alloc, (∀ a ∈ sk_alloc, s.used a.1 = false) ∧
      t = (s.vrr_create type protocol sk_alloc).2 ∧ connections h' = connections h) ∨
    (∃ sk addr addrlen, s.used sk = true ∧ t = (s.__vrr_connect sk (some addr) addrlen).2 ∧
      connections h' = if (s.__vrr_connect sk (some addr) addrlen).1 = 0 then
        (sk, addr.svrr_addr) :: connections h else connections h) ∨
    ∃ sk, t = (s.vrr_release sk).2 ∧
      connections h' = (connections h).filter (fun x => x.1 ≠ sk) := by
  obtain ⟨hposs, ret, hrun, hrec⟩ := hstep
  have hrec : h' = (c, ret) :: h := hrec
  cases c with
  | vrr_create type protocol sk_alloc =>
      have hres : s.vrr_create type protocol sk_alloc = (ret, t) := Option.some.inj hrun
      refine Or.inl ⟨type, protocol, sk_alloc, hposs, ?_, ?_⟩
      · rw [hres]
      · rw [hrec]
        rfl
  | vrr_connect sk uaddr addrlen =>
      cases uaddr with
      -- no address: the call does not come back
      | none => cases hrun
      | some addr =>
          have hres : s.__vrr_connect sk (some addr) addrlen = (ret, t) := Option.some.inj hrun
          refine Or.inr (Or.inl ⟨sk, addr, addrlen, hposs, ?_, ?_⟩)
          · rw [hres]
          · rw [hrec, hres]
            rfl
  | vrr_release sk =>
      have hres : s.vrr_release sk = (ret, t) := Option.some.inj hrun
      refine Or.inr (Or.inr ⟨sk, ?_, ?_⟩)
      · rw [hres]
      · rw [hrec]
        rfl

/-- Every call keeps the agreement, accepted or rejected. -/
theorem on_record_step {s t : Sockets} {h h' : List (SockCall × Int)} {c : SockCall}
    (hs : OnRecord s (connections h)) (hstep : SockStep (s, h) c (t, h')) :
    OnRecord t (connections h') := by
  rcases call_cases hstep with ⟨type, protocol, sk_alloc, hnew, rfl, hh⟩ |
    ⟨sk, addr, addrlen, hused, rfl, hh⟩ | ⟨sk, rfl, hh⟩
  · rw [hh]
    exact on_record_create hs type protocol sk_alloc hnew
  · rw [hh]
    exact on_record_connect hs sk addr addrlen hused
  · rw [hh]
    exact on_record_release hs sk

/-- In every history. -/
theorem on_record_of_reach {mem : Nat → Sock} {s : Sockets} {h : List (SockCall × Int)}
    (hrun : Reach SockStep (Sockets.vrr_sock_init mem, []) (s, h)) :
    OnRecord s (connections h) := by
  refine hrun.invariant (fun x => OnRecord x.1 (connections x.2)) ?_
    (fun x c y hx hstep => on_record_step hx hstep)
  refine ⟨fun i => rfl, List.nodup_nil, fun sk addr => ?_⟩
  exact iff_of_false List.not_mem_nil (fun hc => Bool.false_ne_true hc.1)

section Lookup

variable {s : Sockets} {cs : List (Nat × U32)} (hs : OnRecord s cs)

include hs

/-- A connected socket is in the list of its address, once, and in no other. -/
theorem count_hlist {sk : Nat} {addr : U32} (h : s.Connected sk addr) (i : U32) :
    (s.hlist i).count sk = if i = vrr_hash_list addr then 1 else 0 := by
  rw [(nodup_hlist hs i).count]
  have hiff : sk ∈ s.hlist i ↔ i = vrr_hash_list addr := by
    constructor
    · intro hin
      obtain ⟨a, ha, hi⟩ := connected_of_mem hs hin
      have hsame : a = addr := congrArg Sock.rem_addr (ha.2.symm.trans h.2)
      rw [hi, hsame]
    · intro hi
      rw [hs.lists]
      have hmem := (hs.connected sk addr).mpr h
      exact List.mem_map.mpr ⟨_, List.mem_filter.mpr ⟨hmem, decide_eq_true hi.symm⟩, rfl⟩
  simp only [hiff]

/-- A lookup in one list is a search through all connections. -/
theorem find_connections (addr : U32) :
    s.vrr_find_sock addr = (cs.find? (fun x => x.2 == addr)).map Prod.fst := by
  unfold Sockets.vrr_find_sock
  rw [hs.lists, List.find?_map, List.find?_filter]
  congr 1
  -- who is at the address is in the list of the address
  refine List.find?_congr (fun x hx => ?_)
  have hrem : (s.sock x.1).rem_addr = x.2 := by
    rw [((hs.connected x.1 x.2).mp hx).2]
  by_cases haddr : x.2 = addr
  · simp [hrem, haddr]
  · simp [hrem, haddr]

/-- What is found is connected to the address. -/
theorem connected_of_find {addr : U32} {sk : Nat} (h : s.vrr_find_sock addr = some sk) :
    s.Connected sk addr := by
  rw [find_connections hs] at h
  obtain ⟨x, hx, rfl⟩ := Option.map_eq_some_iff.mp h
  have hfound := List.find?_some hx
  rw [← beq_iff_eq.mp hfound]
  exact (hs.connected x.1 x.2).mp (List.mem_of_find?_eq_some hx)

theorem find_eq_none_iff (addr : U32) :
    s.vrr_find_sock addr = none ↔ ∀ sk, ¬ s.Connected sk addr := by
  rw [find_connections hs, Option.map_eq_none_iff, List.find?_eq_none]
  constructor
  · intro h sk hc
    exact h (sk, addr) ((hs.connected sk addr).mpr hc) (beq_self_eq_true addr)
  · intro h x hx haddr
    refine h x.1 ?_
    rw [← beq_iff_eq.mp haddr]
    exact (hs.connected x.1 x.2).mp hx

end Lookup

/-- The table, each socket with the address it has. -/
def Sockets.view (s : Sockets) : VrrSocks :=
  fun i => (s.hlist i).map (fun sk => ⟨sk, (s.sock sk).rem_addr⟩)

/-- The lookups are the same. -/
theorem find_view (s : Sockets) (addr : U32) :
    vrr_find_sock s.view addr = (s.vrr_find_sock addr).map (fun sk => ⟨sk, addr⟩) := by
  unfold vrr_find_sock Sockets.vrr_find_sock Sockets.view
  rw [List.find?_map]
  change Option.map _ ((s.hlist _).find? (fun sk => (s.sock sk).rem_addr == addr)) = _
  cases hfind : (s.hlist (vrr_hash_list addr)).find? (fun sk => (s.sock sk).rem_addr == addr) with
  | none => rfl
  | some sk =>
      have hrem := List.find?_some hfind
      rw [Option.map_some, Option.map_some, beq_iff_eq.mp hrem]

/-- Writing the memory of a socket that is on no list does not show. -/
theorem view_set_sock {s t : Sockets} (sk : Nat) (habs : ∀ i, sk ∉ s.hlist i)
    (hlist : t.hlist = s.hlist) (hsock : ∀ sk', sk' ≠ sk → t.sock sk' = s.sock sk') :
    t.view = s.view := by
  funext i
  unfold Sockets.view
  rw [hlist]
  refine List.map_congr_left (fun sk' hin => ?_)
  have hne : sk' ≠ sk := fun heq => habs i (heq ▸ hin)
  rw [hsock sk' hne]

/-- A call does to the table with the addresses what filing or removing a socket
    does, or nothing. -/
theorem view_step {s t : Sockets} {h h' : List (SockCall × Int)} {c : SockCall}
    (hs : OnRecord s (connections h)) (hstep : SockStep (s, h) c (t, h')) :
    t.view = s.view ∨ (∃ vsk, t.view = vrr_hash_sock s.view vsk) ∨
      ∃ vsk, t.view = vrr_unhash_sock s.view vsk := by
  rcases call_cases hstep with ⟨type, protocol, sk_alloc, hnew, rfl, -⟩ |
    ⟨sk, addr, addrlen, -, rfl, -⟩ | ⟨sk, rfl, -⟩
  · -- no list refers to the memory that is written
    left
    unfold Sockets.vrr_create
    split_ifs
    · rfl
    · rfl
    cases sk_alloc with
    | none => rfl
    | some a =>
        have hfree : s.used a.1 = false := hnew a rfl
        refine view_set_sock a.1 (fun i hin => ?_) rfl
          (fun sk' hne => Function.update_of_ne hne _ s.sock)
        obtain ⟨addr, hc, _⟩ := connected_of_mem hs hin
        exact Bool.false_ne_true (hfree.symm.trans hc.1)
  · rcases connect_cases s sk addr addrlen with ⟨-, hsame⟩ | ⟨hst, hres⟩
    · rw [hsame]
      exact Or.inl rfl
    -- the socket is filed after its address has been written
    have hset : (s.set_sock sk ⟨addr.svrr_addr, .connected⟩).view = s.view := by
      refine view_set_sock sk (fun i hin => hst ?_) rfl
        (fun sk' hne => Function.update_of_ne hne _ s.sock)
      obtain ⟨a, hc, _⟩ := connected_of_mem hs hin
      rw [hc.2]
    refine Or.inr (Or.inl ⟨⟨sk, addr.svrr_addr⟩, ?_⟩)
    rw [hres, ← hset]
    funext i
    unfold Sockets.view Sockets.vrr_hash_sock vrr_hash_sock Sockets.set_sock
    simp only [Function.update_self]
    split_ifs
    · rw [List.map_cons, Function.update_self]
    · rfl
  · refine Or.inr (Or.inr ⟨⟨sk, 0⟩, ?_⟩)
    funext i
    unfold vrr_unhash_sock Sockets.view
    rw [List.eraseP_map]
    change ((s.hlist i).erase sk).map _ = _
    rw [List.erase_eq_eraseP']
    rfl

/-- After every history the table holds the connected sockets, each once and in
    the list of its address, and a lookup gives the one that was connected to the
    address last, or NULL. -/
theorem socket_table_exact (mem : Nat → Sock) (s : Sockets) (h : List (SockCall × Int))
    (hrun : Reach SockStep (Sockets.vrr_sock_init mem, []) (s, h)) :
    (∀ sk addr, (sk, addr) ∈ connections h ↔ s.Connected sk addr) ∧
      (∀ sk addr, s.Connected sk addr → ∀ i,
        (s.hlist i).count sk = if i = vrr_hash_list addr then 1 else 0) ∧
      (∀ i, ∀ sk ∈ s.hlist i, ∃ addr, s.Connected sk addr ∧ i = vrr_hash_list addr) ∧
      ∀ addr,
        s.vrr_find_sock addr = ((connections h).find? (fun x => x.2 == addr)).map Prod.fst ∧
        (∀ sk, s.vrr_find_sock addr = some sk → s.Connected sk addr) ∧
        (s.vrr_find_sock addr = none ↔ ∀ sk, ¬ s.Connected sk addr) := by
  have hs := on_record_of_reach hrun
  refine ⟨hs.connected, fun sk addr hc i => count_hlist hs hc i,
    fun i sk hin => connected_of_mem hs hin, fun addr => ?_⟩
  exact ⟨find_connections hs addr, fun sk hfind => connected_of_find hs hfind,
    find_eq_none_iff hs addr⟩

/-- A call put on record, or `none` when it cannot be made or does not return. -/
def record (s : Sockets × List (SockCall × Int)) (c : SockCall) :
    Option (Sockets × List (SockCall × Int)) :=
  if c.Possible s.1 then (c.run s.1).map (fun r => (r.2, (c, r.1) :: s.2)) else none

theorem step_of_record {s t : Sockets × List (SockCall × Int)} {c : SockCall}
    (h : record s c = some t) : SockStep s c t := by
  unfold record at h
  split_ifs at h with hposs
  obtain ⟨r, hr, rfl⟩ := Option.map_eq_some_iff.mp h
  exact ⟨hposs, r.1, hr, rfl⟩

/-- Calls made one after the other. -/
theorem reach_of_record {s t u : Sockets × List (SockCall × Int)} {l : List SockCall}
    (hs : Reach SockStep s t) (h : l.foldlM record t = some u) : Reach SockStep s u := by
  induction l generalizing t with
  | nil =>
      cases h
      exact hs
  | cons c l ih =>
      rw [List.foldlM_cons] at h
      obtain ⟨v, hv, h⟩ := Option.bind_eq_some_iff.mp h
      exact ih (Reach.step c hs (step_of_record hv)) h

/-- Of two sockets at one address the later one is found, and one that tries to
    move stays. -/
theorem socket_table_exact_two :
    ∃ s h, Reach SockStep (Sockets.vrr_sock_init (fun _ => ⟨0, .unconnected⟩), []) (s, h) ∧
      s.vrr_find_sock 2 = some 1 ∧ s.vrr_find_sock 34 = none ∧
      (∀ sk, s.vrr_find_sock 2 = some sk → s.Connected sk 2) := by
  have heval : ([.vrr_create 3 0 (some (0, 7)), .vrr_create 3 0 (some (1, 7)),
      .vrr_connect 0 (some ⟨27, 2⟩) 16, .vrr_connect 1 (some ⟨27, 2⟩) 16,
      .vrr_connect 0 (some ⟨27, 34⟩) 16].foldlM record
      (Sockets.vrr_sock_init (fun _ => ⟨0, .unconnected⟩), [])).any
      (fun x => decide (x.1.vrr_find_sock 2 = some 1 ∧ x.1.vrr_find_sock 34 = none)) = true := by
    decide +kernel
  obtain ⟨⟨s, h⟩, hx, hfind⟩ := (Option.any_eq_true _ _).mp heval
  have hfound := of_decide_eq_true hfind
  have hrun := reach_of_record Reach.refl hx
  exact ⟨s, h, hrun, hfound.1, hfound.2, ((socket_table_exact _ s h hrun).2.2.2 2).2.1⟩

end AlpacaVrr
