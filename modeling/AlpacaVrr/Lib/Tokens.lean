import AlpacaVrr.Lib.Reach
import Mathlib.Data.Multiset.Basic
import Mathlib.Logic.Hydra

/-!
# Systems of Tokens

Schedules that settle because tokens are used up.

A system holds a number of tokens. An action takes one of them and puts others
in its place, which are all smaller. There may be many of them, and the actions
may come in any order. Still every schedule comes to an end, since the multiset
of the tokens goes down in a well-founded order. This is the order of the hydra
games, `Relation.CutExpand`.

## Theorems

* `settles_of_cut`: A system whose actions cut its tokens settles.
* `cut_of_replaced`: A token is replaced by smaller ones.
* `coe_map_erase`, `coe_flatMap_erase`: A list with one of its members in front.
-/

variable {σ ι τ : Type} {enabled : σ → ι → Prop} {act : σ → ι → Option σ} {Q : σ → Prop}

/-- If every action succeeds, keeps the invariant, and cuts the tokens, every
    schedule ends, in a state with nothing enabled. -/
theorem settles_of_cut (tokens : σ → Multiset τ) (r : τ → τ → Prop) [Std.Irrefl r]
    (hr : WellFounded r) (I : σ → Prop) (hquiet : ∀ s, I s → (∀ i, ¬ enabled s i) → Q s)
    (hact : ∀ s i, I s → enabled s i → ∃ t, act s i = some t ∧ I t ∧
      Relation.CutExpand r (tokens t) (tokens s)) :
    ∀ s, I s → Settles enabled act Q s := by
  have hwf : WellFounded (fun s t => Relation.CutExpand r (tokens s) (tokens t)) :=
    InvImage.wf tokens hr.cutExpand
  intro s
  induction s using hwf.induction with
  | _ s ih =>
      intro hs
      by_cases hany : ∃ i, enabled s i
      · rcases hany with ⟨i, hi⟩
        refine Settles.act i hi (fun j hj => ?_) (fun j t hj ht => ?_)
        · obtain ⟨t, ht, _⟩ := hact s j hs hj
          rw [ht]
          exact Option.some_ne_none t
        · obtain ⟨u, hu, hI, hcut⟩ := hact s j hs hj
          rw [hu, Option.some.injEq] at ht
          rw [← ht]
          exact ih u hcut hI
      · exact Settles.quiet (fun i hi => hany ⟨i, hi⟩) (hquiet s hs (fun i hi => hany ⟨i, hi⟩))

/-- Taking a token and putting in smaller ones. -/
theorem cut_of_replaced {r : τ → τ → Prop} {s s' : Multiset τ} (a : τ) (rest new : Multiset τ)
    (hs : s = a ::ₘ rest) (hs' : s' = rest + new) (hsmall : ∀ b ∈ new, r b a) :
    Relation.CutExpand r s' s := by
  refine ⟨new, a, hsmall, ?_⟩
  rw [hs, hs', ← Multiset.singleton_add]
  ac_rfl

/-- The tokens of a list, one of them first. -/
theorem coe_map_erase {α : Type} [DecidableEq α] {l : List α} {a : α} (h : a ∈ l) (g : α → τ) :
    (↑(l.map g) : Multiset τ) = g a ::ₘ ↑((l.erase a).map g) := by
  rw [Multiset.cons_coe, Multiset.coe_eq_coe]
  exact (List.perm_cons_erase h).map g

theorem coe_flatMap_erase {α : Type} [DecidableEq α] {l : List α} {a : α} (h : a ∈ l)
    (g : α → List τ) :
    (↑(l.flatMap g) : Multiset τ) = ↑(g a) + ↑((l.erase a).flatMap g) := by
  rw [Multiset.coe_add, Multiset.coe_eq_coe]
  exact (List.perm_cons_erase h).flatMap_right g
