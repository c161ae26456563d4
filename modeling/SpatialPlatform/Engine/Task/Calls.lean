import SpatialPlatform.Engine.Task.TopologicalOrder
import SpatialPlatform.Lib.Dag

/-!
# Graphs built by calls

A graph comes to be by a sequence of `AddTask` and `AddDependency` calls on an
empty one, each of which may throw and then leaves the graph as it was. Here is
what `TopologicalOrder` says about every graph built so, whatever the calls
were.

* `TaskGraph.mem_dependencies_built` — the dependencies are those of the
  accepted calls.
* `TaskGraph.topologicalOrder_built` — the order respects them, and there is
  none on a cycle.
-/

namespace SpatialPlatform.Engine

open SpatialPlatform.Core

/-- One call of a builder. `fresh` is what `GenerateUuid` would return for a
task without an id, which is never the nil id. -/
inductive GraphCall where
  | addTask (fresh : { id : Uuid // id.isNil = false }) (task : TaskInstance)
  | addDependency (taskId dependencyId : Uuid)

namespace TaskGraph

/-- One call; a call that throws has not touched the graph. -/
def perform (g : TaskGraph) : GraphCall → TaskGraph
  | .addTask fresh task =>
      match g.addTask fresh.1 task with
      | .ok (g', _) => g'
      | .error _ => g
  | .addDependency taskId dependencyId =>
      match g.addDependency taskId dependencyId with
      | .ok g' => g'
      | .error _ => g

/-- The graph of a job after a sequence of calls. -/
def built (jobId : Uuid) (calls : List GraphCall) : TaskGraph :=
  calls.foldl perform (empty jobId)

theorem built_concat (jobId : Uuid) (calls : List GraphCall) (call : GraphCall) :
    built jobId (calls ++ [call]) = (built jobId calls).perform call := by
  rw [built, List.foldl_concat]
  rfl

/-- The rule for graphs built by calls. -/
theorem built_induct {P : TaskGraph → Prop} {jobId : Uuid} (hempty : P (empty jobId))
    (hcall : ∀ g call, P g → P (g.perform call)) (calls : List GraphCall) :
    P (built jobId calls) := by
  induction calls using List.reverseRecOn with
  | nil => exact hempty
  | append_singleton calls call ih =>
      rw [built_concat]
      exact hcall _ call ih

/-- What `AddTask` adds. -/
theorem addTask_eq_ok {g g' : TaskGraph} {fresh id : Uuid} {task : TaskInstance}
    (h : g.addTask fresh task = .ok (g', id)) :
    let t := if task.id.isNil then { task with id := fresh } else task
    t.id ∉ g.insertionOrder ∧ id = t.id ∧ g'.insertionOrder = g.insertionOrder ++ [t.id] ∧
      g'.jobId = g.jobId ∧ g'.dependencies = g.dependencies ∧
      g'.task = Function.update g.task t.id t := by
  intro t
  by_cases hnew : t.id ∈ g.insertionOrder
  · have herror : g.addTask fresh task = .error _ := dif_pos hnew
    rw [herror] at h
    cases h
  · have hok : g.addTask fresh task = .ok _ := dif_neg hnew
    rw [hok] at h
    cases h
    exact ⟨hnew, rfl, rfl, rfl, rfl, rfl⟩

/-- What `AddDependency` changes. -/
theorem addDependency_eq_ok {g g' : TaskGraph} {taskId dependencyId : Uuid}
    (h : g.addDependency taskId dependencyId = .ok g') :
    (taskId ∈ g.insertionOrder ∧ dependencyId ∈ g.insertionOrder) ∧
      g'.insertionOrder = g.insertionOrder ∧ g'.jobId = g.jobId ∧ g'.task = g.task ∧
      g'.dependencies = Function.update g.dependencies taskId
        (if dependencyId ∈ g.dependencies taskId then g.dependencies taskId
          else g.dependencies taskId ++ [dependencyId]) := by
  unfold addDependency at h
  split at h
  · next ht =>
      split at h
      · next hd =>
          split at h
          · next hin =>
              cases h
              rw [if_pos hin, Function.update_eq_self]
              exact ⟨⟨ht, hd⟩, rfl, rfl, rfl, rfl⟩
          · next hin =>
              cases h
              rw [if_neg hin]
              exact ⟨⟨ht, hd⟩, rfl, rfl, rfl, rfl⟩
      · cases h
  · cases h

/-- One call adds a dependency only if it asks for it and is accepted. -/
theorem mem_dependencies_perform {g : TaskGraph} {call : GraphCall} {t d : Uuid} :
    d ∈ (g.perform call).dependencies t ↔ d ∈ g.dependencies t ∨
      call = .addDependency t d ∧ ∃ g', g.addDependency t d = .ok g' := by
  cases call with
  | addTask fresh task =>
      simp only [perform, reduceCtorEq, false_and, or_false]
      cases hadd : g.addTask fresh.1 task with
      | error e => exact Iff.rfl
      | ok added => rw [(addTask_eq_ok hadd).2.2.2.2.1]
  | addDependency t' d' =>
      simp only [perform, GraphCall.addDependency.injEq]
      cases hadd : g.addDependency t' d' with
      -- a call that throws adds nothing
      | error e =>
          refine (or_iff_left ?_).symm
          rintro ⟨⟨rfl, rfl⟩, _, hok⟩
          rw [hadd] at hok
          exact (nomatch hok)
      | ok added =>
          show d ∈ added.dependencies t ↔ _
          rw [(addDependency_eq_ok hadd).2.2.2.2]
          rcases eq_or_ne t t' with rfl | hne
          · rw [Function.update_self]
            constructor
            -- the same pair again is not added twice
            · intro hmem
              split at hmem
              · exact .inl hmem
              · refine (List.mem_append.mp hmem).imp_right fun hnew => ?_
                obtain rfl := List.mem_singleton.mp hnew
                exact ⟨⟨rfl, rfl⟩, added, hadd⟩
            · rintro (hold | ⟨⟨-, rfl⟩, -⟩)
              · split
                · exact hold
                · exact List.mem_append_left _ hold
              · split
                · assumption
                · exact List.mem_append_right _ (List.mem_singleton.mpr rfl)
          · rw [Function.update_of_ne hne]
            refine (or_iff_left ?_).symm
            rintro ⟨⟨rfl, -⟩, -⟩
            exact hne rfl

/-- The dependencies of a graph built by calls are those of the `AddDependency` calls that were accepted. -/
theorem mem_dependencies_built {jobId t d : Uuid} {calls : List GraphCall} :
    d ∈ (built jobId calls).dependencies t ↔ ∃ before after g',
      calls = before ++ .addDependency t d :: after ∧
        (built jobId before).addDependency t d = .ok g' := by
  induction calls using List.reverseRecOn with
  | nil => simp [built, empty]
  | append_singleton calls call ih =>
      rw [built_concat, mem_dependencies_perform, ih]
      constructor
      · rintro (⟨before, after, g', rfl, hok⟩ | ⟨rfl, g', hok⟩)
        · exact ⟨before, after ++ [call], g', by simp, hok⟩
        · exact ⟨calls, [], g', rfl, hok⟩
      · rintro ⟨before, after, g', hcalls, hok⟩
        rcases List.eq_nil_or_concat after with rfl | ⟨after, last, rfl⟩
        · obtain ⟨rfl, heq⟩ := List.append_inj' hcalls rfl
          cases heq
          exact .inr ⟨rfl, g', hok⟩
        · rw [List.concat_eq_append, ← List.cons_append, ← List.append_assoc] at hcalls
          obtain ⟨rfl, -⟩ := List.append_inj' hcalls rfl
          exact .inl ⟨before, after, g', rfl, hok⟩

/-- A task gets an id at the latest when it is added. -/
theorem isNil_of_mem_built {jobId id : Uuid} {calls : List GraphCall}
    (h : id ∈ (built jobId calls).insertionOrder) : id.isNil = false := by
  revert id
  apply @built_induct (fun g => ∀ {id}, id ∈ g.insertionOrder → id.isNil = false)
  · intro id h
    exact absurd h List.not_mem_nil
  · intro g call hg id h
    cases call with
    | addTask fresh task =>
        simp only [perform] at h
        cases hadd : g.addTask fresh.1 task with
        | error e =>
            rw [hadd] at h
            exact hg h
        | ok added =>
            rw [hadd] at h
            obtain ⟨-, -, horder, -⟩ := addTask_eq_ok hadd
            rw [horder, List.mem_append, List.mem_singleton] at h
            rcases h with h | rfl
            · exact hg h
            -- a nil identifier was replaced by a fresh one
            · split
              · exact fresh.2
              · next hid => simpa using hid
    | addDependency taskId dependencyId =>
        simp only [perform] at h
        cases hadd : g.addDependency taskId dependencyId with
        | error e =>
            rw [hadd] at h
            exact hg h
        | ok added =>
            rw [hadd, (addDependency_eq_ok hadd).2.1] at h
            exact hg h

/-! ## Graphs that are loaded

A graph that was filled by calls keeps its invariant whatever the calls were,
since each of them checks its arguments. On such a graph `TopologicalOrder`
decides whether there is a cycle, and the bound on its rounds cuts nothing off. -/

/-- The rule for loops that may throw. -/
theorem foldlM_induct {α β ε : Type} {P : β → Prop} {f : β → α → Except ε β} {l : List α}
    (hstep : ∀ b b' a, a ∈ l → P b → f b a = .ok b' → P b') {b b' : β} (hb : P b)
    (h : l.foldlM f b = .ok b') : P b' := by
  induction l generalizing b with
  | nil =>
      cases h
      exact hb
  | cons a l ih =>
      rw [List.foldlM_cons] at h
      obtain ⟨b₁, hstep₁, hrest⟩ := bind_eq_ok h
      apply ih _ _ hrest
      · exact fun b b' a ha => hstep b b' a (List.mem_cons_of_mem _ ha)
      · exact hstep b b₁ a List.mem_cons_self hb hstep₁

/-- The tasks of a graph that has been built from tasks with ids are those. -/
theorem task_mem_of_build {jobId fresh : Uuid} {tasks : List TaskInstance}
    {edges : List (Uuid × Uuid)} {g : TaskGraph} (hnamed : ∀ t ∈ tasks, t.id.isNil = false)
    (h : build jobId fresh tasks edges = .ok g) : ∀ x ∈ g.insertionOrder, g.task x ∈ tasks := by
  obtain ⟨g₁, htasks, hedges⟩ := bind_eq_ok h
  have hadded : ∀ x ∈ g₁.insertionOrder, g₁.task x ∈ tasks := by
    apply @foldlM_induct _ _ _ (fun g : TaskGraph => ∀ x ∈ g.insertionOrder, g.task x ∈ tasks)
      _ _ _ _ _ _ htasks
    · intro g g' t ht hg hadd x hx
      cases hcall : g.addTask fresh t with
      | error e => simp [hcall] at hadd
      | ok added =>
          obtain rfl : added.1 = g' := by simpa [hcall] using hadd
          obtain ⟨hnew, -, horder, -, -, htask⟩ := addTask_eq_ok hcall
          rw [if_neg (by simp [hnamed t ht])] at hnew horder htask
          rw [htask]
          rw [horder, List.mem_append, List.mem_singleton] at hx
          rcases hx with hx | rfl
          · have hne : x ≠ t.id := fun heq => hnew (heq ▸ hx)
            rw [Function.update_of_ne hne]
            exact hg x hx
          · rw [Function.update_self]
            exact ht
    · intro x hx
      exact absurd hx List.not_mem_nil
  apply @foldlM_induct _ _ _ (fun g : TaskGraph => ∀ x ∈ g.insertionOrder, g.task x ∈ tasks)
    _ _ _ _ _ hadded hedges
  intro g g' edge _ hg hadd x hx
  obtain ⟨-, horder, -, htask, -⟩ := addDependency_eq_ok hadd
  rw [htask]
  exact hg x (horder ▸ hx)

end TaskGraph

namespace TaskShape

variable {g : TaskShape}

/-- `d` is a direct dependency of `t`. -/
def IsDependency (g : TaskShape) (d t : Uuid) : Prop := d ∈ g.dependencies t

/-- In the middle of a walk over the tasks, those walked over are the ones added before. -/
theorem idxOf_lt_iff {x d : Uuid} {ids : List Uuid} (hsuffix : x :: ids <:+ g.insertionOrder)
    (hd : d ∈ g.insertionOrder) :
    g.insertionOrder.idxOf d < g.insertionOrder.idxOf x ↔ d ∉ x :: ids := by
  obtain ⟨walked, hwalked⟩ := hsuffix
  have hnodup := g.nodup_order
  rw [← hwalked] at hd hnodup ⊢
  have hdisjoint := List.disjoint_of_nodup_append hnodup
  have hx : x ∉ walked := fun hmem => hdisjoint hmem List.mem_cons_self
  rw [List.idxOf_append_of_notMem hx, List.idxOf_cons_self, Nat.add_zero]
  constructor
  · intro hlt hmem
    rw [List.idxOf_append_of_notMem fun hw => hdisjoint hw hmem] at hlt
    omega
  · intro hnot
    have hw : d ∈ walked := (List.mem_append.mp hd).resolve_right hnot
    rw [List.idxOf_append_of_mem hw]
    exact List.idxOf_lt_length_of_mem hw

/-- A layering exists exactly when no task depends on itself, however indirectly. -/
theorem acyclic_iff : g.Acyclic ↔ ∀ t, ¬ Relation.TransGen g.IsDependency t t :=
  Lib.Dag.exists_layer_iff g.insertionOrder fun t d hd => (g.mem_of_dependency t d hd).2

/-- Rounds beyond the number of tasks find the queue empty: the bound of
`topologicalLoop` cuts nothing off the `while` loop. -/
theorem topologicalLoop_extra_rounds (extra : Nat) (rounds : Nat) (inDegree : Uuid → Int)
    (ready order : List Uuid) (h : g.LoopInv inDegree ready order)
    (hrounds : g.insertionOrder.length ≤ order.length + rounds) :
    g.topologicalLoop (rounds + extra) inDegree ready order =
      g.topologicalLoop rounds inDegree ready order := by
  induction rounds generalizing inDegree ready order with
  | zero =>
      cases ready with
      | nil => cases extra <;> rfl
      | cons id ready =>
          have hle := (h.nodup.subperm fun x hx => h.mem x hx).length_le
          grind
  | succ rounds ih =>
      cases ready with
      | nil => rw [Nat.succ_add]; rfl
      | cons id ready =>
          rw [Nat.succ_add, topologicalLoop, topologicalLoop]
          apply ih _ _ _ h.round
          grind

/-- What `TopologicalOrder` returns: every task once, each after its dependencies. -/
theorem topologicalOrder_spec {order : List Uuid} (h : g.topologicalOrder = .ok order) :
    order.Perm g.insertionOrder ∧
      ∀ pre t post, order = pre ++ t :: post → ∀ d ∈ g.dependencies t, d ∈ pre := by
  obtain ⟨inDegree, ready, hinv, _⟩ := loop_spec g.insertionOrder.length _ _ _ (LoopInv.start g)
  simp only [topologicalOrder] at h
  split at h
  · next hlen =>
      obtain rfl : _ = order := by simpa using h
      have hnd := (List.nodup_append.mp hinv.nodup).1
      have hsub := hnd.subperm fun x hx => hinv.mem x (List.mem_append_left _ hx)
      exact ⟨hsub.perm_of_length_le (Nat.le_of_eq hlen.symm), hinv.before⟩
  · cases h

end TaskShape

/-- **`TopologicalOrder` on a graph built by any calls**: it succeeds exactly
when no task depends on itself through any number of dependencies, and then
lists every task once, after all of its dependencies. -/
theorem TaskGraph.topologicalOrder_built (jobId : Uuid) (calls : List GraphCall) :
    ((∃ order, (built jobId calls).topologicalOrder = .ok order) ↔
      ∀ t, ¬ Relation.TransGen (built jobId calls).IsDependency t t) ∧
    ∀ order, (built jobId calls).topologicalOrder = .ok order →
      order.Perm (built jobId calls).insertionOrder ∧
      ∀ pre t post, order = pre ++ t :: post → ∀ d ∈ (built jobId calls).dependencies t, d ∈ pre :=
  ⟨TaskShape.topologicalOrder_eq_ok_iff.trans TaskShape.acyclic_iff,
    fun _ => TaskShape.topologicalOrder_spec⟩

end SpatialPlatform.Engine
