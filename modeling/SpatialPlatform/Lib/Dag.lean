import Mathlib.Data.Finset.Card
import Mathlib.Data.Nat.Notation
import Mathlib.Logic.Basic
import Mathlib.Logic.Relation

/-!
# Equations over an acyclic graph

A system of equations `f x = F x f`, one for each vertex, in which `F x` looks
at the predecessors of `x` only. When the vertices can be laid out in layers,
the system has exactly one solution, and `solve` computes it. A graph with
finitely many edges can be laid out in layers exactly when it has no cycle
(`exists_layer_iff`).
-/

namespace SpatialPlatform.Lib.Dag

variable {V A : Type*}

/-- `F x` depends on the values at the predecessors of `x` only. -/
def Local (pred : V → List V) (F : V → (V → A) → A) : Prop :=
  ∀ x f f', (∀ d ∈ pred x, f d = f' d) → F x f = F x f'

/-- The solution, by recursion to the given depth; `a` stands for what lies deeper. -/
def solve (F : V → (V → A) → A) (a : A) : ℕ → V → A
  | 0, _ => a
  | n + 1, x => F x (solve F a n)

variable {pred : V → List V} {layer : V → ℕ} {F : V → (V → A) → A} {a : A}

/-- Below the depth the recursion does not matter any more. -/
theorem solve_stable (hF : Local pred F) (hlayer : ∀ x d, d ∈ pred x → layer d < layer x)
    (m n : ℕ) {x : V} (hm : layer x < m) (hn : layer x < n) : solve F a m x = solve F a n x := by
  induction m generalizing n x with
  | zero => omega
  | succ m ih =>
      cases n with
      | zero => omega
      | succ n =>
          refine hF x _ _ fun d hd => ?_
          have hlt := hlayer x d hd
          exact ih n (by omega) (by omega)

/-- `solve` is a solution. -/
theorem solve_eq (hF : Local pred F) (hlayer : ∀ x d, d ∈ pred x → layer d < layer x) {n : ℕ}
    {x : V} (hx : layer x < n) : solve F a n x = F x (solve F a n) :=
  solve_stable hF hlayer n (n + 1) hx (Nat.lt_succ_of_lt hx)

/-- The system has a solution. -/
theorem exists_solution [Nonempty A] (hF : Local pred F)
    (hlayer : ∀ x d, d ∈ pred x → layer d < layer x) : ∃ f : V → A, ∀ x, f x = F x f := by
  obtain ⟨a⟩ := ‹Nonempty A›
  refine ⟨fun x => solve F a (layer x + 1) x, fun x => ?_⟩
  refine hF x _ _ fun d hd => ?_
  exact solve_stable hF hlayer _ _ (hlayer x d hd) (Nat.lt_succ_self _)

/-- Two solutions on a set closed under predecessors agree on it. -/
theorem solution_unique (hF : Local pred F) (hlayer : ∀ x d, d ∈ pred x → layer d < layer x)
    {s : V → Prop} (hclosed : ∀ x d, s x → d ∈ pred x → s d) {f f' : V → A}
    (hf : ∀ x, s x → f x = F x f) (hf' : ∀ x, s x → f' x = F x f') :
    ∀ x, s x → f x = f' x := by
  have hall : ∀ n x, layer x < n → s x → f x = f' x := by
    intro n
    induction n with
    | zero => intro x hx; omega
    | succ n ih =>
        intro x hx hs
        rw [hf x hs, hf' x hs]
        refine hF x _ _ fun d hd => ?_
        have hlt := hlayer x d hd
        exact ih d (by omega) (hclosed x d hs hd)
  exact fun x => hall (layer x + 1) x (Nat.lt_succ_self _)

/-! ## Layers and cycles -/

/-- Layers rise along every path. -/
theorem layer_lt_of_path (hlayer : ∀ x d, d ∈ pred x → layer d < layer x) {d x : V}
    (h : Relation.TransGen (fun d x => d ∈ pred x) d x) : layer d < layer x := by
  induction h with
  | single hd => exact hlayer _ _ hd
  | tail _ hd ih => exact ih.trans (hlayer _ _ hd)

/-- **A graph with finitely many sources can be laid out in layers exactly when it has no cycle.** -/
theorem exists_layer_iff (vertices : List V) (hvertices : ∀ x d, d ∈ pred x → d ∈ vertices) :
    (∃ layer : V → ℕ, ∀ x d, d ∈ pred x → layer d < layer x) ↔
      ∀ x, ¬ Relation.TransGen (fun d x => d ∈ pred x) x x := by
  constructor
  · intro h x hcycle
    obtain ⟨layer, hlayer⟩ := h
    exact lt_irrefl _ (layer_lt_of_path hlayer hcycle)
  · intro hacyclic
    classical
    -- the layer of a vertex is the number of its ancestors
    let ancestors (x : V) : Finset V :=
      vertices.toFinset.filter fun v => Relation.TransGen (fun d x => d ∈ pred x) v x
    refine ⟨fun x => (ancestors x).card, fun x d hd => ?_⟩
    apply Finset.card_lt_card
    constructor
    · intro v hv
      obtain ⟨hmem, hpath⟩ := Finset.mem_filter.mp hv
      exact Finset.mem_filter.mpr ⟨hmem, hpath.tail hd⟩
    · intro hsub
      have hd_mem : d ∈ ancestors x :=
        Finset.mem_filter.mpr ⟨List.mem_toFinset.mpr (hvertices x d hd), .single hd⟩
      exact hacyclic d (Finset.mem_filter.mp (hsub hd_mem)).2

end SpatialPlatform.Lib.Dag
