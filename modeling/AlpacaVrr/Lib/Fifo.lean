import Mathlib.Data.List.Basic
import Mathlib.Data.List.ReduceOption
import Mathlib.Tactic.Common

/-!
# First In, First Out

A queue that is put into and taken from, in any order.

This is what a buffered channel is for, with no word on how it is kept. Taking
from an empty queue gives nothing and changes nothing. Whatever the order of
the operations, what has been taken and what is left are what has been put in,
in that order.

An implementation is a machine of its own. `answers_simulate` is the argument
that it does what the queue does: it relates its states to queues and its
inputs to operations, and compares them one input at a time.

## Main definitions

* `answers`: What a machine answers to a list of inputs.
* `Fifo.Op`, `Fifo.step`, `Fifo.run`: The queue.

## Theorems

* `answers_simulate`: Machines that answer each input alike answer all alike.
* `Fifo.run_conserves`: Taken and left is put in, in order.
-/

/-- The answers of a machine to a list of inputs, some of which it does not
    answer, and the state it ends in. -/
def answers {σ ι β : Type} (next : σ → ι → Option β × σ) (s : σ) : List ι → List β × σ
  | [] => ([], s)
  | i :: l => ((next s i).1.toList ++ (answers next (next s i).2 l).1,
      (answers next (next s i).2 l).2)

theorem answers_append {σ ι β : Type} (next : σ → ι → Option β × σ) (s : σ) (l l' : List ι) :
    answers next s (l ++ l') = ((answers next s l).1 ++ (answers next (answers next s l).2 l').1,
      (answers next (answers next s l).2 l').2) := by
  induction l generalizing s with
  | nil => rfl
  | cons i l ih => rw [List.cons_append, answers, answers, ih, List.append_assoc]

/-- Two machines answer alike when each input of the one is answered like some
    inputs of the other, and their states stay related. The inputs may be
    restricted, and an invariant helps to compare them. -/
theorem answers_simulate {σ τ ι κ β γ : Type} {next : σ → ι → Option β × σ}
    {next' : τ → κ → Option γ × τ} (ops : ι → List κ) (content : σ → τ) (view : β → γ)
    (Inv : σ → Prop) (Good : ι → Prop) (hinv : ∀ s i, Inv s → Good i → Inv (next s i).2)
    (hstep : ∀ s i, Inv s → Good i →
      (next s i).1.toList.map view = (answers next' (content s) (ops i)).1 ∧
        content (next s i).2 = (answers next' (content s) (ops i)).2)
    (s : σ) (l : List ι) (hs : Inv s) (hgood : ∀ i ∈ l, Good i) :
    (answers next s l).1.map view = (answers next' (content s) (l.flatMap ops)).1 ∧
      content (answers next s l).2 = (answers next' (content s) (l.flatMap ops)).2 := by
  induction l generalizing s with
  | nil => exact ⟨rfl, rfl⟩
  | cons i l ih =>
      have hi := hgood i List.mem_cons_self
      obtain ⟨hanswer, hcontent⟩ := hstep s i hs hi
      have hrest := ih (next s i).2 (hinv s i hs hi)
        (fun j hj => hgood j (List.mem_cons_of_mem i hj))
      rw [hcontent] at hrest
      rw [answers, List.flatMap_cons, answers_append, List.map_append, hanswer, hrest.1]
      exact ⟨rfl, hrest.2⟩

namespace Fifo

variable {α : Type}

/-- Put an element in, or take one out. -/
inductive Op (α : Type) where
  | put (a : α)
  | take

/-- The answer to one operation. Putting in is not answered. -/
def step (queue : List α) : Op α → Option (Option α) × List α
  | .put a => (none, queue ++ [a])
  | .take => (some queue.head?, queue.tail)

/-- The answers to the operations that take, and the queue that is left. -/
def run (queue : List α) (ops : List (Op α)) : List (Option α) × List α := answers step queue ops

/-- What an operation puts in. -/
def Op.elements : Op α → List α
  | put a => [a]
  | take => []

/-- What has been taken and what is left are what was there and what was put
    in, in that order. -/
theorem run_conserves (queue : List α) (ops : List (Op α)) :
    (run queue ops).1.reduceOption ++ (run queue ops).2 = queue ++ ops.flatMap Op.elements := by
  unfold run
  induction ops generalizing queue with
  | nil => simp [answers]
  | cons op ops ih =>
      have hrest := ih (step queue op).2
      cases op with
      | put a =>
          simpa [answers, step, Op.elements] using hrest
      | take =>
          cases queue with
          | nil => simpa [answers, step, Op.elements, List.reduceOption_cons_of_none] using hrest
          | cons a queue =>
              simpa [answers, step, Op.elements, List.reduceOption_cons_of_some] using hrest

end Fifo
