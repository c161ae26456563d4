import SpatialPlatform.Engine.Scheduler.GraphState
import SpatialPlatform.Lib.Substitution

/-!
# What dependents are handed

`Scheduler::ThreadOutputsToDependents` is meant to replace the declared refs
among the inputs of a dependent by the produced ones. It does so one ref after
the other and in place, so that a produced ref that is declared further on is
replaced again.

* `threadOutputs_simultaneous_iff` — when nothing is replaced twice, what stays
  as it is, and that two predecessors with disjoint refs may finish in either
  order.
-/

namespace SpatialPlatform.Engine

open SpatialPlatform.Core SpatialPlatform.Lib TaskGraph

theorem threadInputs_eq (declared produced inputs : List ArtifactRef) :
    threadInputs declared produced inputs =
      appendMissing (inputs.map (carry (declared.zip produced))) produced := by
  rw [← foldl_map_eq_carry]
  rfl

/-- The declared refs among some inputs have given way to the produced ones, all
at once, and each produced ref that was missing then stands behind them once. -/
def Threaded (declared produced before after : List ArtifactRef) : Prop :=
  ∃ extra, after = before.map (substitute (declared.zip produced)) ++ extra ∧ extra.Nodup ∧
    extra.Sublist produced ∧
    ∀ r, r ∈ extra ↔ r ∈ produced ∧ r ∉ before.map (substitute (declared.zip produced))

/-- The inputs come out as they should exactly when both renamings agree on them. -/
theorem threaded_iff_map_eq (declared produced inputs : List ArtifactRef) :
    Threaded declared produced inputs (threadInputs declared produced inputs) ↔
      inputs.map (carry (declared.zip produced)) =
        inputs.map (substitute (declared.zip produced)) := by
  obtain ⟨extra, heq, hnodup, hsub, hmem⟩ :=
    appendMissing_spec (inputs.map (carry (declared.zip produced))) produced
  rw [threadInputs_eq, heq]
  constructor
  · rintro ⟨extra', happend, -⟩
    exact (List.append_inj happend (by simp)).1
  · intro h
    exact ⟨extra, by rw [h], hnodup, hsub, h ▸ hmem⟩

/-- The produced ref in place of an input is left alone by the pairs behind it. -/
def ThreadedTogether (declared produced inputs : List ArtifactRef) : Prop :=
  ∀ i (hd : i < declared.length) (hp : i < produced.length), declared[i] ∈ inputs →
    carry ((declared.zip produced).drop (i + 1)) produced[i] = produced[i]

theorem threaded_iff {declared produced inputs : List ArtifactRef} (hnodup : declared.Nodup) :
    Threaded declared produced inputs (threadInputs declared produced inputs) ↔
      ThreadedTogether declared produced inputs := by
  have hfirst : ((declared.zip produced).map Prod.fst).Nodup :=
    hnodup.sublist (fst_zip_sublist _ _)
  rw [threaded_iff_map_eq, map_carry_eq_iff hfirst]
  constructor
  · intro h i hd hp hmem
    have hi : i < (declared.zip produced).length := by
      rw [List.length_zip]
      omega
    simpa using h i hi (by simpa using hmem)
  · intro h i hi hmem
    rw [List.length_zip] at hi
    simpa using h i (by omega) (by omega) (by simpa using hmem)

/-! ## Two predecessors

Two predecessors thread their outputs into one dependent, in either order. With
separate refs the renamings commute, so the inputs are the same up to their
order. -/

section

variable {da pa db pb : List ArtifactRef}

theorem mem_of_declared {d p : List ArtifactRef} {r : ArtifactRef}
    (h : r ∈ (d.zip p).map Prod.fst) : r ∈ d :=
  (fst_zip_sublist d p).subset h

theorem mem_of_produced {d p : List ArtifactRef} {r : ArtifactRef}
    (h : r ∈ (d.zip p).map Prod.snd) : r ∈ p :=
  (snd_zip_sublist d p).subset h

/-- Refs that one predecessor produces are no business of the other one. -/
theorem carry_of_produced (h : List.Disjoint pa db) {r : ArtifactRef} (hr : r ∈ pa) :
    carry (db.zip pb) r = r :=
  carry_of_not_mem fun hmem => h hr (mem_of_declared hmem)

/-- Renamings with separate refs commute. -/
theorem carry_comm (hdd : List.Disjoint da db) (hpd : List.Disjoint pa db)
    (hdp : List.Disjoint da pb) (r : ArtifactRef) :
    carry (db.zip pb) (carry (da.zip pa) r) = carry (da.zip pa) (carry (db.zip pb) r) := by
  by_cases ha : r ∈ (da.zip pa).map Prod.fst
  · have hb : r ∉ (db.zip pb).map Prod.fst := fun hmem =>
      hdd (mem_of_declared ha) (mem_of_declared hmem)
    rw [carry_of_not_mem hb]
    obtain hstay | hmoved := carry_eq_or_mem (da.zip pa) r
    · rw [hstay, carry_of_not_mem hb]
    · exact carry_of_produced hpd (mem_of_produced hmoved)
  · rw [carry_of_not_mem ha]
    obtain hstay | hmoved := carry_eq_or_mem (db.zip pb) r
    · rw [hstay, carry_of_not_mem ha]
    · exact (carry_of_produced (List.disjoint_symm hdp) (mem_of_produced hmoved)).symm

/-- Whether a ref of the one predecessor is there does not depend on the other one. -/
theorem mem_map_carry_iff (hpd : List.Disjoint pa db) (hpp : List.Disjoint pa pb)
    {r : ArtifactRef} (hr : r ∈ pa) (refs : List ArtifactRef) :
    r ∈ refs.map (carry (db.zip pb)) ↔ r ∈ refs := by
  rw [List.mem_map]
  constructor
  · rintro ⟨x, hx, rfl⟩
    obtain hstay | hmoved := carry_eq_or_mem (db.zip pb) x
    · rwa [hstay]
    · exact absurd (mem_of_produced hmoved) (hpp hr)
  · exact fun hmem => ⟨r, hmem, carry_of_produced hpd hr⟩

/-- What the second predecessor leaves of the inputs, in terms of the refs that each one appends. -/
theorem threadInputs_twice (hdd : List.Disjoint da db) (hpd : List.Disjoint pa db)
    (hdp : List.Disjoint da pb) (hpp : List.Disjoint pa pb) (inputs : List ArtifactRef) :
    ∃ extraA extraB, threadInputs db pb (threadInputs da pa inputs) =
        inputs.map (fun r => carry (db.zip pb) (carry (da.zip pa) r)) ++ extraA ++ extraB ∧
      (extraA.Nodup ∧ ∀ r, r ∈ extraA ↔ r ∈ pa ∧ r ∉ inputs.map (carry (da.zip pa))) ∧
      (extraB.Nodup ∧ ∀ r, r ∈ extraB ↔ r ∈ pb ∧ r ∉ inputs.map (carry (db.zip pb))) := by
  obtain ⟨extraA, heqA, hnodupA, -, hmemA⟩ :=
    appendMissing_spec (inputs.map (carry (da.zip pa))) pa
  obtain ⟨extraB, heqB, hnodupB, -, hmemB⟩ :=
    appendMissing_spec ((inputs.map (carry (da.zip pa)) ++ extraA).map (carry (db.zip pb))) pb
  have hkeep : extraA.map (carry (db.zip pb)) = extraA := by
    conv_rhs => rw [← List.map_id extraA]
    exact List.map_congr_left fun r hr => carry_of_produced hpd ((hmemA r).mp hr).1
  have hcomm : (inputs.map (carry (da.zip pa))).map (carry (db.zip pb)) =
      (inputs.map (carry (db.zip pb))).map (carry (da.zip pa)) := by
    rw [List.map_map, List.map_map]
    exact List.map_congr_left fun r _ => carry_comm hdd hpd hdp r
  refine ⟨extraA, extraB, ?_, ⟨hnodupA, hmemA⟩, hnodupB, fun r => ?_⟩
  · rw [threadInputs_eq, threadInputs_eq, heqA, heqB, List.map_append, hkeep, List.map_map]
    rfl
  · -- what the first predecessor appends is not among the refs of the second one
    rw [hmemB, List.map_append, hkeep, List.mem_append, hcomm]
    refine and_congr_right fun hr => not_congr ?_
    rw [mem_map_carry_iff (List.disjoint_symm hdp) (List.disjoint_symm hpp) hr]
    exact or_iff_left fun hmem => hpp ((hmemA r).mp hmem).1 hr

theorem threadInputs_perm (h : [da, pa, db, pb].Pairwise List.Disjoint)
    (inputs : List ArtifactRef) :
    (threadInputs db pb (threadInputs da pa inputs)).Perm
      (threadInputs da pa (threadInputs db pb inputs)) := by
  obtain ⟨⟨-, hdd, hdp⟩, hpd, hpp⟩ : (List.Disjoint da pa ∧ List.Disjoint da db ∧
      List.Disjoint da pb) ∧ List.Disjoint pa db ∧ List.Disjoint pa pb := by
    simp only [List.pairwise_cons, List.mem_cons, forall_eq_or_imp, List.not_mem_nil] at h
    exact ⟨⟨h.1.1, h.1.2.1, h.1.2.2.1⟩, h.2.1.1, h.2.1.2.1⟩
  obtain ⟨extraA, extraB, heq, ⟨hnodupA, hmemA⟩, hnodupB, hmemB⟩ :=
    threadInputs_twice hdd hpd hdp hpp inputs
  obtain ⟨extraB', extraA', heq', ⟨hnodupB', hmemB'⟩, hnodupA', hmemA'⟩ :=
    threadInputs_twice (List.disjoint_symm hdd) (List.disjoint_symm hdp) (List.disjoint_symm hpd)
      (List.disjoint_symm hpp) inputs
  have hA : extraA.Perm extraA' :=
    (List.perm_ext_iff_of_nodup hnodupA hnodupA').mpr fun r => by rw [hmemA, hmemA']
  have hB : extraB.Perm extraB' :=
    (List.perm_ext_iff_of_nodup hnodupB hnodupB').mpr fun r => by rw [hmemB, hmemB']
  rw [heq, heq', List.append_assoc, List.append_assoc,
    List.map_congr_left fun r _ => carry_comm hdd hpd hdp r]
  exact ((hA.append hB).trans List.perm_append_comm).append_left _

end

/-! ## The graph

The same for the graph, where a predecessor threads its outputs into each of its
dependents. -/

namespace TaskGraph

/-- With nothing produced there is nothing to do. -/
theorem inputs_threadOutputs (g : TaskGraph) (id : Uuid) (declared produced : List ArtifactRef)
    (x : Uuid) :
    ((g.threadOutputsToDependents id declared produced).task x).inputs =
      if id ∈ g.dependencies x then threadInputs declared produced (g.task x).inputs
      else (g.task x).inputs := by
  rw [task_threadOutputsToDependents]
  by_cases hne : produced = []
  · have hnone : threadInputs declared [] (g.task x).inputs = (g.task x).inputs := by
      simp [threadInputs]
    simp [hne, hnone]
  · by_cases hdep : id ∈ g.dependencies x <;> simp [hne, hdep]

/-- A graph is another one but for the inputs of the dependents of a task. -/
structure SameBut (g g' : TaskGraph) (id : Uuid) : Prop where
  shape : g'.toTaskShape = g.toTaskShape
  others : ∀ x, x ∉ g.dependents id → g'.task x = g.task x
  inputsOnly : ∀ x, g'.task x = { g.task x with inputs := (g'.task x).inputs }

theorem sameBut_threadOutputs (g : TaskGraph) (id : Uuid) (declared produced : List ArtifactRef) :
    SameBut g (g.threadOutputsToDependents id declared produced) id where
  shape := toTaskShape_threadOutputsToDependents g id declared produced
  others x hx := by
    rw [task_threadOutputsToDependents, if_neg]
    rw [g.mem_dependents] at hx
    exact fun h => hx h.2
  inputsOnly x := by
    rw [task_threadOutputsToDependents]
    split <;> rfl

theorem threadOutputs_perm (g : TaskGraph) (a b : Uuid) {da pa db pb : List ArtifactRef}
    (h : [da, pa, db, pb].Pairwise List.Disjoint) (x : Uuid) :
    ((((g.threadOutputsToDependents a da pa).threadOutputsToDependents b db pb).task x).inputs).Perm
      (((g.threadOutputsToDependents b db pb).threadOutputsToDependents a da pa).task x).inputs := by
  simp only [inputs_threadOutputs, toTaskShape_threadOutputsToDependents]
  by_cases ha : a ∈ g.dependencies x
  · by_cases hb : b ∈ g.dependencies x
    · simpa [ha, hb] using threadInputs_perm h (g.task x).inputs
    · simp [ha, hb]
  · simp [ha]

/-- The direct dependents get what they should exactly when no produced ref that
stands in for an input of theirs is carried on by a later pair. Whatever
happens, nothing else changes, and two predecessors with disjoint refs may come
in either order. -/
theorem threadOutputs_simultaneous_iff (g : TaskGraph) (id : Uuid)
    (declared produced : List ArtifactRef) (hnodup : declared.Nodup) (hne : produced ≠ []) :
    ((∀ x ∈ g.dependents id, Threaded declared produced (g.task x).inputs
        ((g.threadOutputsToDependents id declared produced).task x).inputs) ↔
      ∀ x ∈ g.dependents id, ThreadedTogether declared produced (g.task x).inputs) ∧
    SameBut g (g.threadOutputsToDependents id declared produced) id ∧
    ∀ other declared' produced',
      [declared, produced, declared', produced'].Pairwise List.Disjoint → ∀ x,
        (((g.threadOutputsToDependents id declared produced).threadOutputsToDependents other
            declared' produced').task x).inputs.Perm
          (((g.threadOutputsToDependents other declared' produced').threadOutputsToDependents id
            declared produced).task x).inputs := by
  refine ⟨?_, sameBut_threadOutputs g id declared produced,
    fun other _ _ h => threadOutputs_perm g id other h⟩
  constructor
  · intro h x hx
    have hthreaded := h x hx
    rw [task_threadOutputsToDependents, if_pos ⟨hne, (g.mem_dependents x id).mp hx⟩] at hthreaded
    exact (threaded_iff hnodup).mp hthreaded
  · intro h x hx
    rw [task_threadOutputsToDependents, if_pos ⟨hne, (g.mem_dependents x id).mp hx⟩]
    exact (threaded_iff hnodup).mpr (h x hx)

end TaskGraph

/-! ## A ref that is replaced twice -/

/-- Task 1, and task 2 behind it with the given inputs. -/
def producerAndConsumer (inputs : List ArtifactRef) : TaskGraph where
  jobId := ⟨9⟩
  task id := { id := id, definition := { type := "" }, inputs := if id = ⟨2⟩ then inputs else [] }
  dependencies id := if id = ⟨2⟩ then [⟨1⟩] else []
  dependents id := if id = ⟨1⟩ then [⟨2⟩] else []
  insertionOrder := [⟨1⟩, ⟨2⟩]
  id_task _ := rfl
  nodup_order := by decide
  mem_of_dependency t d h := by grind
  mem_dependents t d := by grind
  nodup_dependencies t := by grind
  nodup_dependents d := by grind

/-- One placeholder, and a ref that was an input already. -/
theorem threadOutputs_placeholder :
    Threaded ["placeholder"] ["image", "log"] ["placeholder", "log"]
      (((producerAndConsumer ["placeholder", "log"]).threadOutputsToDependents ⟨1⟩ ["placeholder"]
        ["image", "log"]).task ⟨2⟩).inputs := by
  have hall := ((TaskGraph.threadOutputs_simultaneous_iff (producerAndConsumer ["placeholder", "log"])
    ⟨1⟩ ["placeholder"] ["image", "log"] (by decide) (by decide)).1).mpr
  refine hall ?_ ⟨2⟩ (by decide)
  intro x _ i hd hp _
  obtain rfl : i = 0 := by simpa using hd
  rfl

/-- The second placeholder is what the first one became: `b` takes the place of
`a` and gives way to `c`. -/
theorem threadOutputs_twice : ¬ Threaded ["a", "b"] ["b", "c"] ["a"]
    (((producerAndConsumer ["a"]).threadOutputsToDependents ⟨1⟩ ["a", "b"] ["b", "c"]).task
      ⟨2⟩).inputs := by
  rintro ⟨extra, hafter, -⟩
  have hinputs : (((producerAndConsumer ["a"]).threadOutputsToDependents ⟨1⟩ ["a", "b"]
      ["b", "c"]).task ⟨2⟩).inputs = ["c", "b"] := by decide
  have hfirst : ["a"].map (substitute (["a", "b"].zip ["b", "c"])) = ["b"] := by decide
  rw [hinputs, hfirst] at hafter
  simp at hafter

end SpatialPlatform.Engine
