import Mathlib.Data.List.Nodup
import Mathlib.Data.List.Perm.Subperm
import SpatialPlatform.Engine.Task.Graph

/-!
# What a successful validation says

* `topologicalOrder_eq_ok_iff` — Kahn's loop returns an order exactly on the
  acyclic graphs, so the loop has enough rounds and its cycle error means a
  cycle.
* `layered_of_validate` — a validated graph has a layering with as many layers
  as tasks, the measure every recursion over dependencies below descends on.
* `validate_input` — the type-match rule, read off a successful validation.
-/

namespace SpatialPlatform.Engine

open SpatialPlatform.Core

namespace TaskShape

variable {g : TaskShape}

/-- A layering: every task lies strictly above its dependencies. -/
def IsLayering (g : TaskShape) (layer : Uuid → Nat) : Prop :=
  ∀ t d, d ∈ g.dependencies t → layer d < layer t

/-- The tasks can be laid out in `n` dependency layers. -/
def Layered (g : TaskShape) (n : Nat) : Prop :=
  ∃ layer, g.IsLayering layer ∧ ∀ id ∈ g.insertionOrder, layer id < n

/-- The graph has no cycle: it can be laid out in layers. -/
def Acyclic (g : TaskShape) : Prop := ∃ layer, g.IsLayering layer

theorem Layered.acyclic {n : Nat} (h : g.Layered n) : g.Acyclic :=
  let ⟨layer, hlayer, _⟩ := h
  ⟨layer, hlayer⟩

theorem Layered.mono {m n : Nat} (h : g.Layered m) (hmn : m ≤ n) : g.Layered n :=
  let ⟨layer, hlayer, hlt⟩ := h
  ⟨layer, hlayer, fun id hid => Nat.lt_of_lt_of_le (hlt id hid) hmn⟩

/-! ## The queue after one round -/

/-- Visiting a list of distinct dependents lowers the in-degree of each by one. -/
theorem foldl_visitDependent_fst (l : List Uuid) (hl : l.Nodup) (st : (Uuid → Int) × List Uuid)
    (x : Uuid) :
    (l.foldl visitDependent st).1 x = if x ∈ l then st.1 x - 1 else st.1 x := by
  induction l generalizing st with
  | nil => simp
  | cons a l ih =>
      obtain ⟨hal, hnd⟩ := List.nodup_cons.mp hl
      rw [List.foldl_cons, ih hnd]
      by_cases hxa : x = a
      · subst hxa
        simp [hal, visitDependent]
      · simp [visitDependent, hxa]

/-- Visiting a list of distinct dependents queues, in order, those whose in-degree was one. -/
theorem foldl_visitDependent_snd (l : List Uuid) (hl : l.Nodup) (st : (Uuid → Int) × List Uuid) :
    (l.foldl visitDependent st).2 = st.2 ++ l.filter fun x => st.1 x = 1 := by
  induction l generalizing st with
  | nil => simp
  | cons a l ih =>
      obtain ⟨hal, hnd⟩ := List.nodup_cons.mp hl
      have hrest : (l.filter fun x => (visitDependent st a).1 x = 1) =
          l.filter fun x => st.1 x = 1 := by
        apply List.filter_congr
        intro x hx
        have hxa : x ≠ a := fun h => hal (h ▸ hx)
        simp [visitDependent, hxa]
      rw [List.foldl_cons, ih hnd, hrest]
      by_cases ha : st.1 a = 1
      · simp [visitDependent, ha]
      · have ha' : ¬ st.1 a - 1 = 0 := by omega
        simp [visitDependent, ha, ha']

/-! ## The loop invariant

Kahn's algorithm counts for each task the dependencies that are still open.
`LoopInv` relates the counts, the queue and the order; a round takes the first
task of the queue and closes it for its dependents. The induction is over the
rounds. -/

/-- The dependencies of `x` that are not in `order` yet. -/
def openDependencies (g : TaskShape) (order : List Uuid) (x : Uuid) : List Uuid :=
  (g.dependencies x).filter fun d => d ∉ order

/-- Taking `id` closes it for its dependents and changes nothing for the others. -/
theorem length_openDependencies_append (order : List Uuid) {id : Uuid} (hid : id ∉ order)
    (x : Uuid) :
    ((g.openDependencies (order ++ [id]) x).length : Int) =
      (g.openDependencies order x).length - if id ∈ g.dependencies x then 1 else 0 := by
  have hsplit : ∀ l : List Uuid, l.Nodup →
      ((l.filter fun d => d ∉ order ++ [id]).length : Int) =
        (l.filter fun d => d ∉ order).length - if id ∈ l then 1 else 0 := by
    intro l hl
    induction l with
    | nil => simp
    | cons a l ih =>
        obtain ⟨hal, hnd⟩ := List.nodup_cons.mp hl
        have ih := ih hnd
        by_cases hia : id = a
        · subst hia
          simp only [hal, if_false] at ih
          simp [hid] at ih ⊢
          omega
        · have hai : a ≠ id := fun h => hia h.symm
          by_cases ha : a ∈ order
          · simpa [ha, hia, hai] using ih
          · simp [ha, hia, hai] at ih ⊢
            omega
  exact hsplit _ (g.nodup_dependencies x)

/-- What the loop maintains: the in-degrees count the open dependencies, the
queue and the order together are exactly the tasks with none, and every task in
`order` comes after its dependencies. -/
structure LoopInv (g : TaskShape) (inDegree : Uuid → Int) (ready order : List Uuid) : Prop where
  nodup : (order ++ ready).Nodup
  mem : ∀ x ∈ order ++ ready, x ∈ g.insertionOrder
  degree : ∀ x, inDegree x = (g.openDependencies order x).length
  zero : ∀ x ∈ g.insertionOrder, inDegree x = 0 → x ∈ order ++ ready
  queued : ∀ x ∈ ready, inDegree x = 0
  before : ∀ pre x post, order = pre ++ x :: post → ∀ d ∈ g.dependencies x, d ∈ pre

theorem LoopInv.start (g : TaskShape) :
    g.LoopInv g.inDegree (g.insertionOrder.filter fun id => g.inDegree id = 0) [] where
  nodup := by simpa using g.nodup_order.filter _
  mem x hx := by
    rw [List.nil_append] at hx
    exact List.mem_of_mem_filter hx
  degree x := by simp [inDegree, openDependencies]
  zero x hx h := by simp [hx, h]
  queued x hx := by simpa using (List.mem_filter.mp hx).2
  before pre x post h := absurd h (by simp)

/-- A queued task has all its dependencies in `order`. -/
theorem LoopInv.dependencies_mem {inDegree : Uuid → Int} {ready order : List Uuid}
    (h : g.LoopInv inDegree ready order) {x : Uuid} (hx : inDegree x = 0) :
    ∀ d ∈ g.dependencies x, d ∈ order := by
  intro d hd
  have hlen : (g.openDependencies order x).length = 0 := by
    have := h.degree x
    omega
  by_contra hnot
  have hmem : d ∈ g.openDependencies order x := by simp [openDependencies, hd, hnot]
  rw [List.eq_nil_of_length_eq_zero hlen] at hmem
  exact List.not_mem_nil hmem

theorem LoopInv.round {inDegree : Uuid → Int} {id : Uuid} {ready order : List Uuid}
    (h : g.LoopInv inDegree (id :: ready) order) :
    let st := (g.dependents id).foldl visitDependent (inDegree, ready)
    g.LoopInv st.1 st.2 (order ++ [id]) := by
  intro st
  have hnd := h.nodup
  have hid : id ∉ order := fun hmem =>
    (List.nodup_append.mp hnd).2.2 id hmem id List.mem_cons_self rfl
  have hdeg : ∀ x, st.1 x = if id ∈ g.dependencies x then inDegree x - 1 else inDegree x := by
    intro x
    rw [foldl_visitDependent_fst _ (g.nodup_dependents id)]
    simp only [g.mem_dependents]
  have hready : st.2 = ready ++ (g.dependents id).filter fun x => inDegree x = 1 :=
    foldl_visitDependent_snd _ (g.nodup_dependents id) _
  have hzero_id := h.dependencies_mem (h.queued id List.mem_cons_self)
  -- a freshly queued task had an open dependency, so it was in neither list
  have hfresh : ∀ x ∈ (g.dependents id).filter fun x => inDegree x = 1,
      x ∉ order ++ id :: ready := by
    intro x hx hmem
    obtain ⟨_, hone⟩ := List.mem_filter.mp hx
    have hone : inDegree x = 1 := by simpa using hone
    rcases List.mem_append.mp hmem with hx' | hx'
    · obtain ⟨pre, post, hsplit⟩ := List.append_of_mem hx'
      have hall : ∀ d ∈ g.dependencies x, d ∈ order := by
        intro d hd
        rw [hsplit]
        exact List.mem_append_left _ (h.before pre x post hsplit d hd)
      have hnil : g.openDependencies order x = [] := by
        apply List.filter_eq_nil_iff.mpr
        intro d hd
        simp [hall d hd]
      have := h.degree x
      rw [hnil, hone] at this
      simp at this
    · have := h.queued x hx'
      omega
  have hperm : (order ++ [id]) ++ st.2 =
      (order ++ id :: ready) ++ (g.dependents id).filter fun x => inDegree x = 1 := by
    simp [hready]
  refine ⟨?_, ?_, ?_, ?_, ?_, ?_⟩
  · rw [hperm]
    exact hnd.append ((g.nodup_dependents id).filter _) fun x hx hx' => hfresh x hx' hx
  · intro x hx
    rw [hperm, List.mem_append] at hx
    rcases hx with hx | hx
    · exact h.mem x hx
    · have hdep := (g.mem_dependents x id).mp (List.mem_of_mem_filter hx)
      exact (g.mem_of_dependency x id hdep).1
  · intro x
    rw [hdeg, length_openDependencies_append order hid, ← h.degree]
    split <;> omega
  · intro x hx hx0
    rw [hdeg] at hx0
    rw [hperm]
    split at hx0
    · next hdep =>
        refine List.mem_append_right _ (List.mem_filter.mpr ⟨(g.mem_dependents x id).mpr hdep, ?_⟩)
        simp only [decide_eq_true_eq]
        omega
    · exact List.mem_append_left _ (h.zero x hx hx0)
  · intro x hx
    rw [hready, List.mem_append] at hx
    rw [hdeg]
    rcases hx with hx | hx
    · have hx0 := h.queued x (List.mem_cons_of_mem _ hx)
      have hnot : id ∉ g.dependencies x := fun hdep => hid (h.dependencies_mem hx0 id hdep)
      simpa [hnot] using hx0
    · obtain ⟨hdep, hone⟩ := List.mem_filter.mp hx
      have hone : inDegree x = 1 := by simpa using hone
      simp [(g.mem_dependents x id).mp hdep, hone]
  · intro pre x post hsplit d hd
    rcases List.append_eq_append_iff.mp hsplit with ⟨mid, hpre, hmid⟩ | ⟨mid, horder, hmid⟩
    · -- `x` is the task just taken
      have hmid' : mid = [] ∧ x = id := by
        cases mid with
        | nil => exact ⟨rfl, (by simpa using hmid.symm : x = id ∧ post = []).1⟩
        | cons b bs => simp at hmid
      rw [hpre, hmid'.1, List.append_nil]
      rw [hmid'.2] at hd
      exact hzero_id d hd
    · cases mid with
      | nil =>
          have hx : x = id := (by simpa using hmid : x = id ∧ post = []).1
          rw [hx] at hd
          simpa [horder] using hzero_id d hd
      | cons b bs =>
          have hb : b = x := (by simpa using hmid.symm : b = x ∧ bs ++ [id] = post).1
          subst hb
          exact h.before pre b bs horder d hd

/-- The loop ends with the invariant, an order no shorter than it started with,
and either an empty queue or as many more tasks in the order as it had rounds. -/
theorem loop_spec (rounds : Nat) (inDegree : Uuid → Int) (ready order : List Uuid)
    (h : g.LoopInv inDegree ready order) :
    ∃ inDegree' ready', g.LoopInv inDegree' ready'
        (g.topologicalLoop rounds inDegree ready order) ∧
      (ready' = [] ∨
        (g.topologicalLoop rounds inDegree ready order).length = order.length + rounds) := by
  induction rounds generalizing inDegree ready order with
  | zero => exact ⟨inDegree, ready, h, Or.inr rfl⟩
  | succ rounds ih =>
      cases ready with
      | nil => exact ⟨inDegree, [], h, Or.inl rfl⟩
      | cons id ready =>
          obtain ⟨inDegree', ready', hinv, hend⟩ := ih _ _ _ h.round
          refine ⟨inDegree', ready', hinv, hend.imp_right fun hlen => ?_⟩
          rw [topologicalLoop, hlen, List.length_append, List.length_singleton]
          omega

/-! ## Kahn's algorithm decides acyclicity

With the queue empty, an order of all tasks is a layering. For the converse a
task that is missing has a missing dependency in a lower layer, and so on down:
strong induction over the layer. -/

/-- An order of all tasks in which dependencies come first is a layering. -/
theorem LoopInv.layered {inDegree : Uuid → Int} {ready order : List Uuid}
    (h : g.LoopInv inDegree ready order) (hlen : order.length = g.insertionOrder.length) :
    g.Layered g.insertionOrder.length := by
  have hnd : order.Nodup := (List.nodup_append.mp h.nodup).1
  have hsub : order ⊆ g.insertionOrder := fun x hx => h.mem x (List.mem_append_left _ hx)
  have hperm : order.Perm g.insertionOrder :=
    (hnd.subperm hsub).perm_of_length_le (Nat.le_of_eq hlen.symm)
  refine ⟨fun x => order.idxOf x, ?_, ?_⟩
  · intro t d hd
    have ht : t ∈ order := hperm.mem_iff.mpr (g.mem_of_dependency t d hd).1
    obtain ⟨pre, post, hsplit⟩ := List.append_of_mem ht
    have hdpre := h.before pre t post hsplit d hd
    have htpre : t ∉ pre := by
      rw [hsplit] at hnd
      exact fun hmem => (List.nodup_append.mp hnd).2.2 t hmem t List.mem_cons_self rfl
    have hd_lt : order.idxOf d < pre.length := by
      rw [hsplit, List.idxOf_append_of_mem hdpre]
      exact List.idxOf_lt_length_of_mem hdpre
    have ht_eq : order.idxOf t = pre.length := by
      rw [hsplit, List.idxOf_append_of_notMem htpre]
      simp
    show order.idxOf d < order.idxOf t
    omega
  · intro id hid
    rw [← hlen]
    exact List.idxOf_lt_length_of_mem (hperm.mem_iff.mpr hid)

theorem topologicalOrder_eq_ok {order : List Uuid} (h : g.topologicalOrder = .ok order) :
    g.Layered g.insertionOrder.length := by
  obtain ⟨_, _, hinv, _⟩ := loop_spec g.insertionOrder.length _ _ _ (LoopInv.start g)
  simp only [topologicalOrder] at h
  split at h
  · next hlen => exact hinv.layered hlen
  · cases h

/-- With an empty queue and a layering, no task is missing from the order: one
that is has an open dependency, which is missing too and lies in a lower layer. -/
theorem LoopInv.mem_order {inDegree : Uuid → Int} {order : List Uuid}
    (h : g.LoopInv inDegree [] order) {layer : Uuid → Nat} (hlayer : g.IsLayering layer) :
    ∀ n, ∀ x ∈ g.insertionOrder, layer x = n → x ∈ order := by
  intro n
  induction n using Nat.strongRecOn with
  | _ n ih =>
      intro x hx hxn
      have hall : ∀ d ∈ g.dependencies x, d ∈ order := by
        intro d hd
        have hlt := hlayer x d hd
        exact ih _ (hxn ▸ hlt) d (g.mem_of_dependency x d hd).2 rfl
      have hnil : g.openDependencies order x = [] := by
        apply List.filter_eq_nil_iff.mpr
        intro d hd
        simp [hall d hd]
      have hdeg := h.degree x
      rw [hnil] at hdeg
      simpa using h.zero x hx hdeg

/-- **`TopologicalOrder` succeeds exactly on acyclic graphs.** -/
theorem topologicalOrder_eq_ok_iff : (∃ order, g.topologicalOrder = .ok order) ↔ g.Acyclic := by
  constructor
  · rintro ⟨order, h⟩
    exact (topologicalOrder_eq_ok h).acyclic
  · rintro ⟨layer, hlayer⟩
    obtain ⟨inDegree', ready', hinv, hend⟩ :=
      loop_spec g.insertionOrder.length _ _ _ (LoopInv.start g)
    have hlen : (g.topologicalLoop g.insertionOrder.length g.inDegree
        (g.insertionOrder.filter fun id => g.inDegree id = 0) []).length =
        g.insertionOrder.length := by
      rcases hend with hnil | hlen
      · subst hnil
        have hnd := (List.nodup_append.mp hinv.nodup).1
        apply Nat.le_antisymm
        · exact (hnd.subperm fun x hx =>
            hinv.mem x (List.mem_append_left _ hx)).length_le
        · exact (g.nodup_order.subperm fun x hx =>
            hinv.mem_order hlayer _ x hx rfl).length_le
      · simpa using hlen
    exact ⟨_, if_pos hlen⟩

end TaskShape

/-! ## Validation

The checks of `Validate`, read off a call that returns. -/

namespace TaskGraph

variable {g : TaskGraph}

theorem forM_eq_ok_iff {α ε : Type} {f : α → Except ε PUnit} {l : List α} :
    forM l f = .ok ⟨⟩ ↔ ∀ a ∈ l, f a = .ok ⟨⟩ := by
  induction l with
  | nil => simp [pure, Except.pure]
  | cons a l ih =>
      rw [List.forM_cons]
      cases h : f a with
      | error e => simp [bind, Except.bind, h]
      | ok u => simp [bind, Except.bind, h, ih]

theorem validate_eq_ok {workerPool : List ResourceProfile} {externalInputs : List ArtifactRef}
    (h : g.validate workerPool externalInputs = .ok ()) :
    (∃ order, g.topologicalOrder = .ok order) ∧
      ∀ id ∈ g.insertionOrder, ∀ ref ∈ (g.task id).inputs,
        g.checkInput externalInputs id ref = .ok () := by
  unfold validate at h
  cases hord : g.topologicalOrder with
  | error e => simp [hord, bind, Except.bind] at h
  | ok order =>
      refine ⟨⟨order, rfl⟩, ?_⟩
      simp only [hord, bind, Except.bind] at h
      split at h
      · cases h
      · next u hmatch =>
          intro id hid ref href
          exact forM_eq_ok_iff.mp (forM_eq_ok_iff.mp hmatch id hid) ref href

/-- A validated graph has no more layers than tasks. -/
theorem layered_of_validate {workerPool : List ResourceProfile}
    {externalInputs : List ArtifactRef} (h : g.validate workerPool externalInputs = .ok ()) :
    g.Layered g.insertionOrder.length :=
  let ⟨⟨_, hord⟩, _⟩ := validate_eq_ok h
  TaskShape.topologicalOrder_eq_ok hord

/-- The type-match rule: an input of a validated graph is a declared external
input or a declared output of a dependency. -/
theorem validate_input {workerPool : List ResourceProfile} {externalInputs : List ArtifactRef}
    (h : g.validate workerPool externalInputs = .ok ()) {id : Uuid} (hid : id ∈ g.insertionOrder)
    {ref : ArtifactRef} (href : ref ∈ (g.task id).inputs) :
    ref ∈ externalInputs ∨ ∃ d ∈ g.dependencies id, ref ∈ (g.task d).outputs := by
  have hcheck := (validate_eq_ok h).2 id hid ref href
  by_cases hext : ref ∈ externalInputs
  · exact Or.inl hext
  · right
    by_contra hnone
    have hzero : g.producers id ref = 0 := by
      apply List.sum_eq_zero_iff_forall_eq_nat.mpr
      intro n hn
      obtain ⟨d, hd, rfl⟩ := List.mem_map.mp hn
      exact List.count_eq_zero.mpr fun hmem => hnone ⟨d, hd, hmem⟩
    simp [checkInput, hzero, hext] at hcheck

end TaskGraph

end SpatialPlatform.Engine
