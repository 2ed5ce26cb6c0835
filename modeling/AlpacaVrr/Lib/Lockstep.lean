import AlpacaVrr.Lib.FaultState

/-!
# Two Runs Side by Side

Relational triples: two computations run from related states, and what they
end in is related.

`Lockstep` compares two computations. They stop at the same fault, or both end,
and then values and states satisfy the relation that is the postcondition.
Where the two are one computation run twice, the values are mostly equal, and
`Twins` is the triple for that. Its rules are those of a single run. Values
that differ are for `Lockstep`, and `Twins.lockstep` goes from one to the other
in the middle of a sequence.

The relation between the states is arbitrary. If they differ in a part that
the computation does not look at, every rule applies as it stands, and those
for `gets` and `modify` ask for nothing but that.

## Main definitions

* `FaultState.Lockstep`: Two computations.
* `FaultState.Twins`: One computation, with equal values.

## Theorems

* `FaultState.Lockstep.bind`: Sequencing through related values.
* `FaultState.Lockstep.apart`: Two computations, each on its own.
* `FaultState.Twins.lockstep`: Sequencing two computations behind equal values.
* `FaultState.Twins.bind`, `FaultState.Twins.forM`: The rules of a single run.
-/

namespace FaultState

variable {ε σ α β γ δ : Type}

/-- From related states the two computations end in values and states related
    by `Q`, or stop at the same fault. -/
def Lockstep (R : σ → σ → Prop) (x : FaultState ε σ α) (y : FaultState ε σ β)
    (Q : α → β → σ → σ → Prop) : Prop :=
  ∀ s t, R s t → match x s, y t with
    | .ok (a, s'), .ok (b, t') => Q a b s' t'
    | .error e, .error e' => e = e'
    | _, _ => False

/-- The computation, run twice, ends in equal values. -/
def Twins (R : σ → σ → Prop) (x : FaultState ε σ α) (Q : α → σ → σ → Prop) : Prop :=
  Lockstep R x x (fun a b s t => a = b ∧ Q a s t)

namespace Lockstep

variable {R : σ → σ → Prop} {x x' : FaultState ε σ α} {y y' : FaultState ε σ β}
  {Q S : α → β → σ → σ → Prop}

theorem pure (a : α) (b : β) (h : ∀ s t, R s t → Q a b s t) :
    Lockstep R (Pure.pure a : FaultState ε σ α) (Pure.pure b) Q := h

/-- Sequencing: what the first values have to do with each other is known to
    the rest. -/
theorem bind {f : α → FaultState ε σ γ} {g : β → FaultState ε σ δ} {T : γ → δ → σ → σ → Prop}
    (hx : Lockstep R x y Q) (hf : ∀ a b, Lockstep (Q a b) (f a) (g b) T) :
    Lockstep R (x >>= f) (y >>= g) T := by
  intro s t hst
  have hrun := hx s t hst
  rw [bind_apply, bind_apply]
  cases hxs : x s with
  | ok p =>
      cases hyt : y t with
      | ok q =>
          rw [hxs, hyt] at hrun
          exact hf p.1 q.1 p.2 q.2 hrun
      | error e =>
          rw [hxs, hyt] at hrun
          exact hrun.elim
  | error e =>
      cases hyt : y t with
      | ok q =>
          rw [hxs, hyt] at hrun
          exact hrun.elim
      | error e' =>
          rw [hxs, hyt] at hrun
          exact hrun

/-- Values that are known go straight on. -/
theorem pure_bind {f : α → FaultState ε σ γ} {g : β → FaultState ε σ δ} {T : γ → δ → σ → σ → Prop}
    (a : α) (b : β) (h : Lockstep R (f a) (g b) T) :
    Lockstep R (Pure.pure a >>= f) (Pure.pure b >>= g) T := h

theorem post (h : Lockstep R x y Q) (hQ : ∀ a b s t, Q a b s t → S a b s t) :
    Lockstep R x y S := by
  intro s t hst
  have hrun := h s t hst
  cases hxs : x s with
  | ok p =>
      cases hyt : y t with
      | ok q =>
          rw [hxs, hyt] at hrun
          exact hQ p.1 q.1 p.2 q.2 hrun
      | error e =>
          rw [hxs, hyt] at hrun
          exact hrun.elim
  | error e =>
      cases hyt : y t with
      | ok q =>
          rw [hxs, hyt] at hrun
          exact hrun.elim
      | error e' =>
          rw [hxs, hyt] at hrun
          exact hrun

theorem pre {R' : σ → σ → Prop} (h : Lockstep R x y Q) (hR : ∀ s t, R' s t → R s t) :
    Lockstep R' x y Q :=
  fun s t hst => h s t (hR s t hst)

/-- One condition decides for both. -/
theorem ite (c : Prop) [Decidable c] (ht : c → Lockstep R x y Q)
    (hf : ¬ c → Lockstep R x' y' Q) :
    Lockstep R (if c then x else x') (if c then y else y') Q := by
  by_cases hc : c
  · rw [if_pos hc, if_pos hc]
    exact ht hc
  · rw [if_neg hc, if_neg hc]
    exact hf hc

/-- What the states have in common can be used. -/
theorem given {φ : Prop} (hφ : ∀ s t, R s t → φ) (h : φ → Lockstep R x y Q) :
    Lockstep R x y Q :=
  fun s t hst => h (hφ s t hst) s t hst

/-- What the two values have to do with each other, when the states do not
    matter for it. -/
theorem of_and {φ : Prop} (h : φ → Lockstep R x y Q) :
    Lockstep (fun s t => φ ∧ R s t) x y Q :=
  fun s t hst => h hst.1 s t hst.2

/-- Two computations that cannot fail need not be compared step by step. -/
theorem apart {I J : σ → σ → Prop}
    (hx : ∀ s t, R s t → Triple (fun u => u = s) x (fun _ s' => I s s') (fun _ => False))
    (hy : ∀ s t, R s t → Triple (fun u => u = t) y (fun _ t' => J t t') (fun _ => False))
    (h : ∀ a b s t s' t', R s t → I s s' → J t t' → Q a b s' t') : Lockstep R x y Q := by
  intro s t hst
  have hxs := hx s t hst s rfl
  have hyt := hy s t hst t rfl
  cases hxs' : x s with
  | ok p =>
      cases hyt' : y t with
      | ok q =>
          rw [hxs'] at hxs
          rw [hyt'] at hyt
          exact h p.1 q.1 s t p.2 q.2 hst hxs hyt
      | error e =>
          rw [hyt'] at hyt
          exact hyt.elim
  | error e =>
      rw [hxs'] at hxs
      exact hxs.elim

end Lockstep

namespace Twins

variable {R R' : σ → σ → Prop} {x y : FaultState ε σ α} {Q S : α → σ → σ → Prop}

theorem pure (a : α) (h : ∀ s t, R s t → Q a s t) :
    Twins R (Pure.pure a : FaultState ε σ α) Q :=
  fun s t hst => ⟨rfl, h s t hst⟩

theorem gets (g : σ → α) (h : ∀ s t, R s t → g s = g t ∧ Q (g s) s t) :
    Twins R (FaultState.gets g : FaultState ε σ α) Q := h

theorem modify {U : Unit → σ → σ → Prop} (f : σ → σ) (h : ∀ s t, R s t → U () (f s) (f t)) :
    Twins R (FaultState.modify f : FaultState ε σ Unit) U :=
  fun s t hst => ⟨rfl, h s t hst⟩

theorem fault (e : ε) : Twins R (FaultState.fault e : FaultState ε σ α) Q := fun _ _ _ => rfl

/-- Behind equal values, two computations. -/
theorem lockstep {f : α → FaultState ε σ β} {g : α → FaultState ε σ γ}
    {T : β → γ → σ → σ → Prop} (hx : Twins R x Q) (hf : ∀ a, Lockstep (Q a) (f a) (g a) T) :
    Lockstep R (x >>= f) (x >>= g) T := by
  refine Lockstep.bind hx (fun a b => Lockstep.of_and (fun hab => ?_))
  rw [← hab]
  exact hf a

theorem bind {f : α → FaultState ε σ β} {T : β → σ → σ → Prop} (hx : Twins R x Q)
    (hf : ∀ a, Twins (Q a) (f a) T) : Twins R (x >>= f) T :=
  hx.lockstep hf

theorem post (h : Twins R x Q) (hQ : ∀ a s t, Q a s t → S a s t) : Twins R x S :=
  Lockstep.post h (fun a _ s t hab => ⟨hab.1, hQ a s t hab.2⟩)

theorem pre (h : Twins R x Q) (hR : ∀ s t, R' s t → R s t) : Twins R' x Q :=
  Lockstep.pre h hR

theorem ite (c : Prop) [Decidable c] (ht : c → Twins R x Q) (hf : ¬ c → Twins R y Q) :
    Twins R (if c then x else y) Q :=
  Lockstep.ite c ht hf

/-- A value that does not matter. -/
theorem then_pure {T : β → σ → σ → Prop} (hx : Twins R x Q) (b : β)
    (h : ∀ a s t, Q a s t → T b s t) : Twins R (x >>= fun _ => Pure.pure b) T :=
  hx.bind (fun a => pure b (h a))

/-- A loop over a list, by induction on the list. -/
theorem forM (l : List β) (body : β → FaultState ε σ PUnit)
    (h : ∀ b ∈ l, Twins R (body b) (fun _ => R)) : Twins R (l.forM body) (fun _ => R) := by
  induction l with
  | nil => exact pure PUnit.unit (fun _ _ hst => hst)
  | cons b l ih =>
      exact bind (h b List.mem_cons_self)
        (fun _ => ih (fun c hc => h c (List.mem_cons_of_mem b hc)))

end Twins

end FaultState
