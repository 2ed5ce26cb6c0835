import AlpacaVrr.Lib.Keyed
import Mathlib.Data.List.Forall2
import Mathlib.Tactic.Common

/-!
# Computations with State and Faults

Imperative code that reads and writes one state and may stop at a fault, with
the rules of pre- and postconditions for it.

A C function that dereferences a null pointer does not return an error code;
it does not return at all. `FaultState` keeps the two apart. A computation
either ends with a value and a state or stops at a fault, and a sequence
stops at the first fault of its parts. An error *code* is an ordinary value.

`Triple` has a postcondition for each way out. Leaving the fault side at
`True` gives partial correctness, which is what an invariant needs; making it
exclude some faults says that the code is safe from those. One set of rules
serves both, and `Triple.bind` is the only one with content: a middle
assertion carries the first part's result to the second.

## Main definitions

* `FaultState`: A computation over a state that may stop at a fault.
* `FaultState.Triple`: Precondition, postcondition, and fault condition.
* `FaultState.Confines`: A computation keeps an invariant of the state and
  stops at certain faults only.
* `FaultState.Preserves`: A computation keeps an invariant of the state.
* `FaultState.Keeps`: A computation leaves part of the state alone.

## Theorems

* `FaultState.Triple.bind`: Sequencing through a middle assertion.
* `FaultState.Triple.conseq`: Strengthening before, weakening after.
* `FaultState.Triple.forM`: A loop over a list keeps its invariant.
* `FaultState.Triple.forM_foldl`, `FaultState.Triple.forM_emits`: A loop that
  moves along, and one that appends to a list.
* `FaultState.Confines.bind`: What confines both parts confines the sequence.
* `FaultState.Keeps.preserves`: What is said of an untouched part stays true.
-/

/-- A computation over a state `σ` that ends with an `α` or stops at a
    fault `ε`. -/
def FaultState (ε σ α : Type) : Type := σ → Except ε (α × σ)

namespace FaultState

variable {ε σ α β : Type}

instance : Monad (FaultState ε σ) where
  pure a := fun s => .ok (a, s)
  bind x f := fun s => match x s with
    | .ok (a, t) => f a t
    | .error e => .error e

/-- Read a part of the state. -/
def gets (f : σ → α) : FaultState ε σ α := fun s => .ok (f s, s)

/-- Replace the state. -/
def modify (f : σ → σ) : FaultState ε σ Unit := fun s => .ok ((), f s)

/-- Stop at a fault. -/
def fault (e : ε) : FaultState ε σ α := fun _ => .error e

theorem bind_apply (x : FaultState ε σ α) (f : α → FaultState ε σ β) (s : σ) :
    (x >>= f) s = match x s with
      | .ok (a, t) => f a t
      | .error e => .error e := rfl

/-- Run from a state meeting `P`, the computation either ends in a value and
    a state meeting `Q` or stops at a fault meeting `E`. -/
def Triple (P : σ → Prop) (x : FaultState ε σ α) (Q : α → σ → Prop) (E : ε → Prop) : Prop :=
  ∀ s, P s → match x s with
    | .ok (a, t) => Q a t
    | .error e => E e

namespace Triple

variable {P P' : σ → Prop} {Q Q' : α → σ → Prop} {R : β → σ → Prop} {E E' : ε → Prop}
  {x y : FaultState ε σ α} {f : α → FaultState ε σ β}

/-- What a triple says of a run that ended. -/
theorem ok (h : Triple P x Q E) {s t : σ} {a : α} (hs : P s) (hx : x s = .ok (a, t)) : Q a t := by
  have hrun := h s hs
  rw [hx] at hrun
  exact hrun

/-- What a triple says of a run that stopped. -/
theorem error (h : Triple P x Q E) {s : σ} {e : ε} (hs : P s) (hx : x s = .error e) : E e := by
  have hrun := h s hs
  rw [hx] at hrun
  exact hrun

/-- A run that cannot stop ends. -/
theorem run (h : Triple P x Q (fun _ => False)) {s : σ} (hs : P s) :
    ∃ a t, x s = .ok (a, t) ∧ Q a t := by
  have hrun := h s hs
  cases hxs : x s with
  | ok p =>
      rw [hxs] at hrun
      exact ⟨p.1, p.2, rfl, hrun⟩
  | error e =>
      rw [hxs] at hrun
      exact hrun.elim

/-- Of the one way a run ends, a property holds or not. -/
theorem run_iff {G : σ → Prop} {c : Prop} (h : Triple P x (fun _ t => G t ↔ c) (fun _ => False))
    {s : σ} (hs : P s) : (∃ a t, x s = .ok (a, t) ∧ G t) ↔ c := by
  obtain ⟨a, t, hrun, hiff⟩ := h.run hs
  constructor
  · rintro ⟨b, u, hb, hu⟩
    rw [hrun, Except.ok.injEq, Prod.mk.injEq] at hb
    exact hiff.mp (hb.2 ▸ hu)
  · intro hc
    exact ⟨a, t, hrun, hiff.mpr hc⟩

theorem pure (a : α) (h : ∀ s, P s → Q a s) : Triple P (Pure.pure a : FaultState ε σ α) Q E :=
  fun s hs => h s hs

theorem gets (g : σ → α) (h : ∀ s, P s → Q (g s) s) :
    Triple P (FaultState.gets g : FaultState ε σ α) Q E :=
  fun s hs => h s hs

/-- A computation that comes to reading. -/
theorem reads (g : σ → α) (hx : ∀ s, x s = .ok (g s, s)) (h : ∀ s, P s → Q (g s) s) :
    Triple P x Q E := by
  intro s hs
  rw [hx]
  exact h s hs

theorem modify {U : Unit → σ → Prop} (g : σ → σ) (h : ∀ s, P s → U () (g s)) :
    Triple P (FaultState.modify g : FaultState ε σ Unit) U E :=
  fun s hs => h s hs

theorem fault (e : ε) (h : E e) : Triple P (FaultState.fault e : FaultState ε σ α) Q E :=
  fun _ _ => h

/-- Sequencing: the middle assertion carries the first result along. -/
theorem bind (hx : Triple P x Q E) (hf : ∀ a, Triple (Q a) (f a) R E) :
    Triple P (x >>= f) R E := by
  intro s hs
  rw [bind_apply]
  have hrun := hx s hs
  cases hxs : x s with
  | ok p =>
      rw [hxs] at hrun
      exact hf p.1 p.2 hrun
  | error e =>
      rw [hxs] at hrun
      exact hrun

/-- Another computation with the same beginning comes the same way. -/
theorem along {g : α → FaultState ε σ β} {r : Except ε (β × σ)} (h : Triple P x Q E) :
    Triple (fun s => P s ∧ (x >>= g) s = r) x (fun a s => Q a s ∧ g a s = r) E := by
  rintro s ⟨hs, hr⟩
  have hrun := h s hs
  rw [bind_apply] at hr
  cases hxs : x s with
  | ok p =>
      rw [hxs] at hrun hr
      exact ⟨hrun, hr⟩
  | error e =>
      rw [hxs] at hrun
      exact hrun

/-- A value that is known goes straight on. -/
theorem pure_bind (a : α) (h : Triple P (f a) R E) : Triple P (Pure.pure a >>= f) R E := h

/-- Strengthen the precondition and weaken both ways out. -/
theorem conseq (h : Triple P x Q E) (hP : ∀ s, P' s → P s) (hQ : ∀ a s, Q a s → Q' a s)
    (hE : ∀ e, E e → E' e) : Triple P' x Q' E' := by
  intro s hs
  have hrun := h s (hP s hs)
  cases hxs : x s with
  | ok p =>
      rw [hxs] at hrun
      exact hQ p.1 p.2 hrun
  | error e =>
      rw [hxs] at hrun
      exact hE e hrun

theorem pre (h : Triple P x Q E) (hP : ∀ s, P' s → P s) : Triple P' x Q E :=
  h.conseq hP (fun _ _ hq => hq) (fun _ he => he)

theorem post {R : α → σ → Prop} (h : Triple P x Q E) (hQ : ∀ a s, Q a s → R a s) :
    Triple P x R E :=
  h.conseq (fun _ hp => hp) hQ (fun _ he => he)

/-- Forget what is known of the faults. -/
theorem lax (h : Triple P x Q E) : Triple P x Q (fun _ => True) :=
  h.conseq (fun _ hp => hp) (fun _ _ hq => hq) (fun _ _ => trivial)

/-- A run without faults meets any fault condition. -/
theorem safe (h : Triple P x Q (fun _ => False)) : Triple P x Q E :=
  h.conseq (fun _ hp => hp) (fun _ _ hq => hq) (fun _ he => he.elim)

/-- Nothing is claimed. -/
theorem any : Triple P x (fun _ _ => True) (fun _ => True) := by
  intro s _
  cases x s <;> trivial

theorem ite (c : Prop) [Decidable c] (ht : c → Triple P x Q E) (hf : ¬ c → Triple P y Q E) :
    Triple P (if c then x else y) Q E := by
  by_cases h : c
  · rw [if_pos h]
    exact ht h
  · rw [if_neg h]
    exact hf h

/-- A precondition that does not look at the state is an assumption. -/
theorem of_and {φ : Prop} (h : φ → Triple P x Q E) : Triple (fun s => P s ∧ φ) x Q E :=
  fun s hs => h hs.2 s hs.1

theorem of_exists {ι : Type} {P : ι → σ → Prop} (h : ∀ i, Triple (P i) x Q E) :
    Triple (fun s => ∃ i, P i s) x Q E :=
  fun s ⟨i, hs⟩ => h i s hs

/-- Two triples of one computation hold together. -/
theorem and (h : Triple P x Q E) (h' : Triple P' x Q' E') :
    Triple (fun s => P s ∧ P' s) x (fun a s => Q a s ∧ Q' a s) (fun e => E e ∧ E' e) := by
  intro s hs
  have hrun := h s hs.1
  have hrun' := h' s hs.2
  cases hxs : x s with
  | ok p =>
      rw [hxs] at hrun hrun'
      exact ⟨hrun, hrun'⟩
  | error e =>
      rw [hxs] at hrun hrun'
      exact ⟨hrun, hrun'⟩

/-- A loop over a list keeps an invariant that each round keeps. -/
theorem forM {I : σ → Prop} (l : List β) (body : β → FaultState ε σ PUnit)
    (h : ∀ b ∈ l, Triple I (body b) (fun _ => I) E) :
    Triple I (l.forM body) (fun _ => I) E := by
  induction l with
  | nil => exact pure _ (fun _ hs => hs)
  | cons b l ih =>
      -- the loop is its first round and then the loop over the rest
      change Triple I (body b >>= fun _ => l.forM body) (fun _ => I) E
      refine bind (h b List.mem_cons_self) (fun _ => ?_)
      exact ih (fun c hc => h c (List.mem_cons_of_mem b hc))

/-- A loop whose rounds move along a parameter: each takes the assertion from
    where those in front of it have left it. -/
theorem forM_foldl {γ : Type} {I : γ → σ → Prop} {next : γ → β → γ}
    {body : β → FaultState ε σ PUnit} (l : List β) (c : γ)
    (h : ∀ done b rest, l = done ++ b :: rest →
      Triple (I (done.foldl next c)) (body b) (fun _ => I (next (done.foldl next c) b)) E) :
    Triple (I c) (l.forM body) (fun _ => I (l.foldl next c)) E := by
  induction l generalizing c with
  | nil => exact pure _ (fun _ hs => hs)
  | cons b l ih =>
      change Triple (I c) (body b >>= fun _ => l.forM body) _ E
      refine bind (h [] b l rfl) (fun _ => ih (next c b) (fun done b' rest hl => ?_))
      exact h (b :: done) b' rest (by rw [hl, List.cons_append])

/-- A loop that appends to a list: what the rounds have appended is related to
    what they should emit. -/
theorem forM_emits {γ δ ζ : Type} {I : γ → List δ → σ → Prop} {rel : δ → ζ → Prop}
    {next : γ → β → γ} {emit : γ → β → List ζ} {body : β → FaultState ε σ PUnit}
    (h : ∀ c out b, Triple (I c out) (body b)
      (fun _ s => ∃ ds, List.Forall₂ rel ds (emit c b) ∧ I (next c b) (out ++ ds) s) E)
    (l : List β) (c : γ) (out : List δ) :
    Triple (I c out) (l.forM body)
      (fun _ s => ∃ ds, List.Forall₂ rel ds (Keyed.emitted next emit c l) ∧
        I (l.foldl next c) (out ++ ds) s) E := by
  induction l generalizing c out with
  | nil =>
      refine pure _ (fun s hs => ⟨[], List.Forall₂.nil, ?_⟩)
      rw [List.append_nil]
      exact hs
  | cons b l ih =>
      change Triple (I c out) (body b >>= fun _ => l.forM body) _ E
      refine bind (h c out b) (fun _ => of_exists (fun ds => ?_))
      refine pre (of_and (fun hds => ?_)) (fun s hs => And.symm hs)
      refine (ih (next c b) (out ++ ds)).post (fun _ s hs => ?_)
      obtain ⟨ds', hds', hs⟩ := hs
      refine ⟨ds ++ ds', List.rel_append hds hds', ?_⟩
      rw [← List.append_assoc]
      exact hs

end Triple

/-- Running the computation keeps the invariant, and it stops at no other
    faults than those of `E`. -/
def Confines (I : σ → Prop) (E : ε → Prop) (x : FaultState ε σ α) : Prop :=
  Triple I x (fun _ => I) E

namespace Confines

variable {I : σ → Prop} {E : ε → Prop} {x y : FaultState ε σ α} {f : α → FaultState ε σ β}

theorem pure (a : α) : Confines I E (Pure.pure a : FaultState ε σ α) :=
  Triple.pure a (fun _ hs => hs)

theorem gets (g : σ → α) : Confines I E (FaultState.gets g : FaultState ε σ α) :=
  Triple.gets g (fun _ hs => hs)

theorem modify (g : σ → σ) (h : ∀ s, I s → I (g s)) :
    Confines I E (FaultState.modify g : FaultState ε σ Unit) :=
  Triple.modify g h

theorem fault (e : ε) (h : E e) : Confines I E (FaultState.fault e : FaultState ε σ α) :=
  Triple.fault e h

/-- What confines both parts confines the sequence. -/
theorem bind (hx : Confines I E x) (hf : ∀ a, Confines I E (f a)) : Confines I E (x >>= f) :=
  Triple.bind hx hf

theorem ite (c : Prop) [Decidable c] (ht : c → Confines I E x) (hf : ¬ c → Confines I E y) :
    Confines I E (if c then x else y) :=
  Triple.ite c ht hf

theorem forM (l : List β) (body : β → FaultState ε σ PUnit) (h : ∀ b ∈ l, Confines I E (body b)) :
    Confines I E (l.forM body) :=
  Triple.forM l body h

end Confines

/-- Running the computation keeps the invariant. A fault ends the run, so it
    breaks nothing. -/
abbrev Preserves (I : σ → Prop) (x : FaultState ε σ α) : Prop :=
  Confines I (fun _ => True) x

namespace Preserves

variable {I : σ → Prop} {x y : FaultState ε σ α} {f : α → FaultState ε σ β}

theorem pure (a : α) : Preserves I (Pure.pure a : FaultState ε σ α) := Confines.pure a

theorem gets (g : σ → α) : Preserves I (FaultState.gets g : FaultState ε σ α) := Confines.gets g

theorem modify (g : σ → σ) (h : ∀ s, I s → I (g s)) :
    Preserves I (FaultState.modify g : FaultState ε σ Unit) :=
  Confines.modify g h

theorem fault (e : ε) : Preserves I (FaultState.fault e : FaultState ε σ α) :=
  Confines.fault e trivial

theorem bind (hx : Preserves I x) (hf : ∀ a, Preserves I (f a)) : Preserves I (x >>= f) :=
  Confines.bind hx hf

/-- A computation whose result is thrown away. -/
theorem then_pure (hx : Preserves I x) (b : β) : Preserves I (x >>= fun _ => Pure.pure b) :=
  Preserves.bind hx (fun _ => Preserves.pure b)

theorem ite (c : Prop) [Decidable c] (ht : c → Preserves I x) (hf : ¬ c → Preserves I y) :
    Preserves I (if c then x else y) :=
  Confines.ite c ht hf

theorem forM (l : List β) (body : β → FaultState ε σ PUnit)
    (h : ∀ b ∈ l, Preserves I (body b)) : Preserves I (l.forM body) :=
  Confines.forM l body h

end Preserves

/-- Running the computation leaves what `f` reads of the state as it was. -/
def Keeps {γ : Type} (f : σ → γ) (x : FaultState ε σ α) : Prop :=
  ∀ c, Preserves (fun s => f s = c) x

namespace Keeps

variable {γ δ : Type} {f : σ → γ} {x y : FaultState ε σ α} {k : α → FaultState ε σ β}

theorem pure (a : α) : Keeps f (Pure.pure a : FaultState ε σ α) := fun _ => Preserves.pure a

theorem gets (g : σ → α) : Keeps f (FaultState.gets g : FaultState ε σ α) :=
  fun _ => Preserves.gets g

theorem modify (g : σ → σ) (h : ∀ s, f (g s) = f s) :
    Keeps f (FaultState.modify g : FaultState ε σ Unit) :=
  fun _ => Preserves.modify g (fun s hs => (h s).trans hs)

theorem fault (e : ε) : Keeps f (FaultState.fault e : FaultState ε σ α) :=
  fun _ => Preserves.fault e

theorem bind (hx : Keeps f x) (hk : ∀ a, Keeps f (k a)) : Keeps f (x >>= k) :=
  fun c => Preserves.bind (hx c) (fun a => hk a c)

theorem ite (c : Prop) [Decidable c] (ht : c → Keeps f x) (hf : ¬ c → Keeps f y) :
    Keeps f (if c then x else y) :=
  fun d => Preserves.ite c (fun h => ht h d) (fun h => hf h d)

theorem forM (l : List β) (body : β → FaultState ε σ PUnit) (h : ∀ b ∈ l, Keeps f (body b)) :
    Keeps f (l.forM body) :=
  fun c => Preserves.forM l body (fun b hb => h b hb c)

/-- What is kept whole is kept in part. -/
theorem part (hx : Keeps f x) (g : γ → δ) : Keeps (fun s => g (f s)) x := by
  intro c s hs
  -- the whole is known to be what it was at the start of this very run
  have hrun := hx (f s) s rfl
  cases hxs : x s with
  | ok p =>
      rw [hxs] at hrun
      exact (congrArg g hrun).trans hs
  | error e => trivial

/-- A property of what is kept is an invariant. -/
theorem preserves (hx : Keeps f x) (P : γ → Prop) : Preserves (fun s => P (f s)) x := by
  intro s hs
  have hrun := hx (f s) s rfl
  cases hxs : x s with
  | ok p =>
      rw [hxs] at hrun
      exact (congrArg P hrun).mpr hs
  | error e => trivial

/-- An assertion about what is kept can be added to a triple. -/
theorem triple (hx : Keeps f x) (P : γ → Prop) {A : σ → Prop} {Q : α → σ → Prop} {E : ε → Prop}
    (h : Triple A x Q E) : Triple (fun s => P (f s) ∧ A s) x (fun a s => P (f s) ∧ Q a s) E := by
  intro s hs
  have hrun := h s hs.2
  have hkeep := hx (f s) s rfl
  cases hxs : x s with
  | ok p =>
      rw [hxs] at hrun hkeep
      exact ⟨(congrArg P hkeep).mpr hs.1, hrun⟩
  | error e =>
      rw [hxs] at hrun
      exact hrun

end Keeps

end FaultState
