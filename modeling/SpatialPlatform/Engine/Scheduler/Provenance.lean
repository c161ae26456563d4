import SpatialPlatform.Engine.Scheduler.Progress

/-!
# Where the inputs of a request come from

A task is built with placeholders among its inputs: the declared outputs of its
dependencies. When a dependency has succeeded, `ThreadOutputsToDependents` puts
the produced refs in their place, position by position, so the placeholders past
the last produced ref stay.

* `inputs_resolved` — if every success covers the placeholders that others take
  from it, each request has only external inputs and refs that succeeded
  dependencies produced.
* `placeholder_submitted` — a worker that completes without an artifact.
-/

namespace SpatialPlatform.Engine

open SpatialPlatform.Core SpatialPlatform.Lib

/-! ## Threading

What the inputs of a dependent are after one predecessor has threaded its
outputs, by induction over the pairs of placeholders and products. -/

/-- One placeholder after another gives way. -/
theorem mem_of_replaced {pairs : List (ArtifactRef × ArtifactRef)} {inputs : List ArtifactRef}
    {ref : ArtifactRef}
    (h : ref ∈ pairs.foldl
      (fun refs pair => refs.map fun ref => if ref = pair.1 then pair.2 else ref) inputs) :
    (∃ pair ∈ pairs, ref = pair.2) ∨ (ref ∈ inputs ∧ ∀ pair ∈ pairs, ref ≠ pair.1) := by
  induction pairs generalizing inputs with
  | nil => exact .inr ⟨h, by simp⟩
  | cons pair pairs ih =>
      rcases ih h with ⟨other, hmem, rfl⟩ | ⟨hmem, hnone⟩
      · exact .inl ⟨other, List.mem_cons_of_mem _ hmem, rfl⟩
      · obtain ⟨old, hold, heq⟩ := List.mem_map.mp hmem
        split at heq
        · exact .inl ⟨pair, List.mem_cons_self, heq.symm⟩
        · next hne =>
            subst heq
            refine .inr ⟨hold, ?_⟩
            intro other hother
            rcases List.mem_cons.mp hother with rfl | hother
            · exact hne
            · exact hnone other hother

/-- Produced refs without a placeholder are appended. -/
theorem mem_of_appended {produced refs : List ArtifactRef} {ref : ArtifactRef}
    (h : ref ∈ produced.foldl (fun refs ref => if ref ∈ refs then refs else refs ++ [ref]) refs) :
    ref ∈ refs ∨ ref ∈ produced := by
  induction produced generalizing refs with
  | nil => exact .inl h
  | cons first produced ih =>
      rcases ih h with hmem | hmem
      · dsimp only at hmem
        split at hmem
        · exact .inl hmem
        · rcases List.mem_append.mp hmem with hmem | hmem
          · exact .inl hmem
          · exact .inr (List.mem_cons.mpr (.inl (List.mem_singleton.mp hmem)))
      · exact .inr (List.mem_cons_of_mem _ hmem)

/-- The placeholders that give way. -/
theorem map_fst_zip_eq_take (declared produced : List ArtifactRef) :
    (declared.zip produced).map Prod.fst = declared.take produced.length := by
  induction declared generalizing produced with
  | nil => simp
  | cons first declared ih =>
      cases produced with
      | nil => simp
      | cons second produced => simp [ih]

/-- After threading, an input was produced, or it was there before and is no
placeholder of a position that has been produced. -/
theorem TaskGraph.mem_threadInputs {declared produced inputs : List ArtifactRef} {ref : ArtifactRef}
    (h : ref ∈ threadInputs declared produced inputs) :
    ref ∈ produced ∨ (ref ∈ inputs ∧ ref ∉ declared.take produced.length) := by
  rcases mem_of_appended h with hmem | hmem
  · rcases mem_of_replaced hmem with ⟨pair, hpair, rfl⟩ | ⟨hmem, hnone⟩
    · exact .inl (List.of_mem_zip hpair).2
    · refine .inr ⟨hmem, fun htake => ?_⟩
      have hfst : ref ∈ (declared.zip produced).map Prod.fst := by
        rwa [map_fst_zip_eq_take]
      obtain ⟨pair, hpair, heq⟩ := List.mem_map.mp hfst
      exact hnone pair hpair heq.symm
  · exact .inl hmem

/-! ## The invariant

`Provenance` accounts for every input of every task: it was produced by a
dependency, or was there before, or is the placeholder of a dependency that has
not succeeded yet. The delicate place is between the success of a task and the
threading of its outputs, which are several steps. -/

/-- The phases between the success of a task and the threading of its outputs. -/
def Phase.Threads : Phase → List ArtifactRef → Prop
  | .storeOutput declared, refs | .recordSucceeded declared, refs | .threadOutputs declared, refs =>
      declared = refs
  | _, _ => False

/-- The task has succeeded and is about to thread its outputs; `declared` are the placeholders. -/
def Control.Threads (c : Control) (d : Uuid) (declared : List ArtifactRef) : Prop :=
  ∃ n ids phase, c = .task n ids d phase ∧ phase.Threads declared

/-- So many produced refs are enough for all placeholders that others take from the task. -/
def TaskGraph.Covered (g : TaskGraph) (externalInputs : List ArtifactRef) (d : Uuid) (n : Nat) :
    Prop :=
  ∀ x ∈ g.dependents d, ∀ ref ∈ (g.task x).inputs, ref ∈ (g.task d).outputs →
    ref ∈ externalInputs ∨ ref ∈ (g.task d).outputs.take n

instance (g : TaskGraph) (externalInputs : List ArtifactRef) (d : Uuid) (n : Nat) :
    Decidable (g.Covered externalInputs d n) :=
  inferInstanceAs (Decidable (∀ x ∈ g.dependents d, ∀ ref ∈ (g.task x).inputs, _ → _))

/-- What a run from `g₀` keeps. `P d ref` says that `d` has yielded `ref`. -/
structure Provenance (g₀ : TaskGraph) (externalInputs : List ArtifactRef)
    (P : Uuid → ArtifactRef → Prop) (g : TaskGraph) (c : Control) : Prop where
  shape : g.toTaskShape = g₀.toTaskShape
  awaited : ∀ n ids d produced missed, c = .task n ids d (.await produced missed) →
    ∀ ref ∈ produced, P d ref
  /-- Until a task ends, its outputs are the declared ones. -/
  declared : ∀ d, g.status d ≠ .succeeded → g.status d ≠ .cancelled →
    (g.task d).outputs = (g₀.task d).outputs
  produced : ∀ d, g.status d = .succeeded → ∀ ref ∈ (g.task d).outputs, P d ref
  threading : ∀ d refs, c.Threads d refs →
    refs = (g₀.task d).outputs ∧ g₀.Covered externalInputs d (g.task d).outputs.length
  /-- An input is external, or was yielded, or is a placeholder of a task that
  has not threaded its outputs yet. -/
  inputs : ∀ x, x ∈ g₀.insertionOrder → ∀ ref ∈ (g.task x).inputs, ref ∈ externalInputs ∨
    (∃ d ∈ g₀.dependencies x, g.status d = .succeeded ∧ P d ref) ∨
      ∃ d ∈ g₀.dependencies x, ref ∈ (g₀.task d).outputs ∧ ref ∈ (g₀.task x).inputs ∧
        (g.status d ≠ .succeeded ∨ ∃ refs, c.Threads d refs)

section invariant

variable {g₀ g g' : TaskGraph} {externalInputs : List ArtifactRef}
  {P P' : Uuid → ArtifactRef → Prop} {c c' : Control} {submitted : Option Uuid}

/-- What has been yielded stays yielded. -/
theorem Provenance.mono (h : Provenance g₀ externalInputs P g c)
    (hP : ∀ d ref, P d ref → P' d ref) : Provenance g₀ externalInputs P' g c where
  shape := h.shape
  awaited n ids d produced missed hc ref href := hP d ref (h.awaited n ids d produced missed hc ref href)
  declared := h.declared
  produced d hd ref href := hP d ref (h.produced d hd ref href)
  threading := h.threading
  inputs x hx ref href := (h.inputs x hx ref href).imp_right
    (Or.imp_left fun ⟨d, hd, hdone, hyield⟩ => ⟨d, hd, hdone, hP d ref hyield⟩)

theorem Provenance.start (hvalid : ∀ x ∈ g.insertionOrder, ∀ ref ∈ (g.task x).inputs,
      ref ∈ externalInputs ∨ ∃ d ∈ g.dependencies x, ref ∈ (g.task d).outputs)
    (hP : ∀ d ref, g.status d = .succeeded → ref ∈ (g.task d).outputs → P d ref) {n : Nat} :
    Provenance g externalInputs P g (.iterate n) := by
  refine ⟨rfl, ?_, fun _ _ _ => rfl, fun d hd ref => hP d ref hd, ?_, ?_⟩
  · rintro _ _ _ _ _ ⟨⟩
  · rintro d refs ⟨_, _, _, ⟨⟩, _⟩
  · intro x hx ref href
    rcases hvalid x hx ref href with hext | ⟨d, hd, hout⟩
    · exact .inl hext
    · by_cases hdone : g.status d = .succeeded
      · exact .inr (.inl ⟨d, hd, hdone, hP d ref hdone hout⟩)
      · exact .inr (.inr ⟨d, hd, hout, href, .inl hdone⟩)

/-- A move that neither takes a success back nor makes one, and threads nothing. -/
theorem Provenance.frame (h : Provenance g₀ externalInputs P g c)
    (hshape : g'.toTaskShape = g.toTaskShape)
    (hinputs : ∀ x, (g'.task x).inputs = (g.task x).inputs)
    (houtputs : ∀ d, g'.status d ≠ .cancelled → (g'.task d).outputs = (g.task d).outputs)
    (hsucceeded : ∀ d, g'.status d = .succeeded ↔ g.status d = .succeeded)
    (hcancelled : ∀ d, g.status d = .cancelled → g'.status d = .cancelled)
    (hthreads : ∀ d refs, ¬ c.Threads d refs) (hthreads' : ∀ d refs, ¬ c'.Threads d refs)
    (hawaited : ∀ n ids d produced missed, c' = .task n ids d (.await produced missed) →
      ∀ ref ∈ produced, P d ref) : Provenance g₀ externalInputs P g' c' := by
  refine ⟨hshape.trans h.shape, hawaited, ?_, ?_, ?_, ?_⟩
  · intro d hne hlive
    rw [houtputs d hlive]
    exact h.declared d (mt (hsucceeded d).mpr hne) (mt (hcancelled d) hlive)
  · intro d hd ref href
    rw [houtputs d (by rw [hd]; simp)] at href
    exact h.produced d ((hsucceeded d).mp hd) ref href
  · intro d refs hc
    exact absurd hc (hthreads' d refs)
  · intro x hx ref href
    rw [hinputs x] at href
    rcases h.inputs x hx ref href with hext | ⟨d, hd, hdone, hyield⟩ | ⟨d, hd, hout, hin, hopen⟩
    · exact .inl hext
    · exact .inr (.inl ⟨d, hd, (hsucceeded d).mpr hdone, hyield⟩)
    · refine .inr (.inr ⟨d, hd, hout, hin, .inl ?_⟩)
      rcases hopen with hopen | ⟨refs, hc⟩
      · exact mt (hsucceeded d).mp hopen
      · exact absurd hc (hthreads d refs)

theorem Control.threads_iff {n : Nat} {ids : List Uuid} {x d : Uuid} {phase : Phase}
    {refs : List ArtifactRef} :
    (Control.task n ids x phase).Threads d refs ↔ x = d ∧ phase.Threads refs := by
  constructor
  · rintro ⟨_, _, _, ⟨⟩, h⟩
    exact ⟨rfl, h⟩
  · rintro ⟨rfl, h⟩
    exact ⟨n, ids, phase, rfl, h⟩

/-- The outputs of a task are in: it is about to thread them. -/
theorem Provenance.succeed (h : Provenance g₀ externalInputs P g c) {n : Nat} {ids : List Uuid}
    {d : Uuid} {phase phase' : Phase} {outputs : List ArtifactRef} (hc : c = .task n ids d phase)
    (hphase : ∀ refs, ¬ phase.Threads refs) (hrun : g.status d = .running)
    (hyield : ∀ ref ∈ outputs, P d ref) (hcovered : g₀.Covered externalInputs d outputs.length)
    (hphase' : ∀ refs, phase'.Threads refs ↔ refs = (g.task d).outputs)
    (hawait : ∀ produced missed, phase' ≠ .await produced missed) :
    Provenance g₀ externalInputs P ((g.setOutputs d outputs).setState d .succeeded)
      (.task n ids d phase') := by
  have hdeclared : (g.task d).outputs = (g₀.task d).outputs :=
    h.declared d (by simp [hrun]) (by simp [hrun])
  have htask : ∀ x, x ≠ d → ((g.setOutputs d outputs).setState d .succeeded).task x = g.task x := by
    intro x hne
    rw [TaskGraph.task_setState, if_neg hne, TaskGraph.task_setOutputs, if_neg hne]
  have hself : (((g.setOutputs d outputs).setState d .succeeded).task d).outputs = outputs := by
    rw [TaskGraph.task_setState, if_pos rfl, TaskGraph.task_setOutputs, if_pos rfl]
  have hstatus : ∀ x, x ≠ d →
      ((g.setOutputs d outputs).setState d .succeeded).status x = g.status x := by
    intro x hne
    rw [TaskGraph.status_setState, if_neg hne, TaskGraph.status_setOutputs]
  have hinputs : ∀ x, (((g.setOutputs d outputs).setState d .succeeded).task x).inputs =
      (g.task x).inputs := by
    intro x
    rcases eq_or_ne x d with rfl | hne
    · rw [TaskGraph.task_setState, if_pos rfl, TaskGraph.task_setOutputs, if_pos rfl]
    · rw [htask x hne]
  refine ⟨h.shape, ?_, ?_, ?_, ?_, ?_⟩
  · rintro _ _ _ produced missed ⟨⟩
    exact absurd rfl (hawait produced missed)
  · intro x hne hlive
    have hx : x ≠ d := fun heq => hne (by simp [heq])
    rw [hstatus x hx] at hne hlive
    rw [htask x hx]
    exact h.declared x hne hlive
  · intro x hx ref href
    rcases eq_or_ne x d with rfl | hne
    · rw [hself] at href
      exact hyield ref href
    · rw [hstatus x hne] at hx
      rw [htask x hne] at href
      exact h.produced x hx ref href
  · intro x refs hthreads
    obtain ⟨rfl, hrefs⟩ := Control.threads_iff.mp hthreads
    rw [hself]
    exact ⟨((hphase' refs).mp hrefs).trans hdeclared, hcovered⟩
  · intro x hx ref href
    rw [hinputs x] at href
    rcases h.inputs x hx ref href with hext | ⟨e, he, hdone, hy⟩ | ⟨e, he, hout, hin, hopen⟩
    · exact .inl hext
    · refine .inr (.inl ⟨e, he, ?_, hy⟩)
      have hne : e ≠ d := fun heq => by simp [heq, hrun] at hdone
      rw [hstatus e hne]
      exact hdone
    · refine .inr (.inr ⟨e, he, hout, hin, ?_⟩)
      -- the ended task is about to thread its outputs, so they are on their way
      rcases eq_or_ne e d with rfl | hne
      · exact .inr ⟨_, Control.threads_iff.mpr ⟨rfl, (hphase' _).mpr rfl⟩⟩
      · left
        rw [hstatus e hne]
        rcases hopen with hopen | ⟨refs, hthreads⟩
        · exact hopen
        · rw [hc] at hthreads
          exact absurd (Control.threads_iff.mp hthreads).2 (hphase refs)

/-- The bookkeeping between success and threading. -/
theorem Provenance.keep (h : Provenance g₀ externalInputs P g c)
    (hthreads : ∀ d refs, c'.Threads d refs ↔ c.Threads d refs)
    (hawait : ∀ n ids d produced missed, c' ≠ .task n ids d (.await produced missed)) :
    Provenance g₀ externalInputs P g c' where
  shape := h.shape
  awaited n ids d produced missed hc := absurd hc (hawait n ids d produced missed)
  declared := h.declared
  produced := h.produced
  threading d refs hc := h.threading d refs ((hthreads d refs).mp hc)
  inputs x hx ref href := by
    simpa only [hthreads] using h.inputs x hx ref href

/-- Threading resolves the placeholders of the task. -/
theorem Provenance.thread (h : Provenance g₀ externalInputs P g c) {n : Nat} {ids : List Uuid}
    {d : Uuid} {declared : List ArtifactRef} (hc : c = .task n ids d (.threadOutputs declared))
    (hdone : g.status d = .succeeded) {p : Bool} :
    Provenance g₀ externalInputs P (g.threadOutputsToDependents d declared (g.task d).outputs)
      (.ready n ids p) := by
  obtain ⟨rfl, hcovered⟩ := h.threading d declared (by rw [hc]; exact Control.threads_iff.mpr ⟨rfl, rfl⟩)
  have houtputs : ∀ x, ((g.threadOutputsToDependents d (g₀.task d).outputs
      (g.task d).outputs).task x).outputs = (g.task x).outputs := by
    intro x
    rw [TaskGraph.task_threadOutputsToDependents]
    split <;> rfl
  refine ⟨by rw [TaskGraph.toTaskShape_threadOutputsToDependents, h.shape], ?_, ?_, ?_, ?_, ?_⟩
  · rintro _ _ _ _ _ ⟨⟩
  · intro x hne hlive
    rw [TaskGraph.status_threadOutputsToDependents] at hne hlive
    rw [houtputs x]
    exact h.declared x hne hlive
  · intro x hx ref href
    rw [TaskGraph.status_threadOutputsToDependents] at hx
    rw [houtputs x] at href
    exact h.produced x hx ref href
  · rintro x refs ⟨_, _, _, ⟨⟩, _⟩
  · intro x hx ref href
    have hdeps : g.dependencies x = g₀.dependencies x := by rw [h.shape]
    -- what is left of the inputs is no placeholder of `d`
    have hrest : ref ∈ (g.task x).inputs →
        (d ∈ g₀.dependencies x → ref ∉ (g₀.task d).outputs.take (g.task d).outputs.length) →
        ref ∈ externalInputs ∨
          (∃ e ∈ g₀.dependencies x, g.status e = .succeeded ∧ P e ref) ∨
          ∃ e ∈ g₀.dependencies x, ref ∈ (g₀.task e).outputs ∧ ref ∈ (g₀.task x).inputs ∧
            g.status e ≠ .succeeded := by
      intro href hnot
      rcases h.inputs x hx ref href with hext | hyield | ⟨e, he, hout, hin, hopen⟩
      · exact .inl hext
      · exact .inr (.inl hyield)
      · rcases eq_or_ne e d with rfl | hne
        · have hdep : x ∈ g₀.dependents e := (g₀.mem_dependents x e).mpr he
          exact .inl ((hcovered x hdep ref hin hout).resolve_right (hnot he))
        · refine .inr (.inr ⟨e, he, hout, hin, ?_⟩)
          rcases hopen with hopen | ⟨refs, hthreads⟩
          · exact hopen
          · rw [hc] at hthreads
            exact absurd (Control.threads_iff.mp hthreads).1.symm hne
    have hall : ref ∈ externalInputs ∨
        (∃ e ∈ g₀.dependencies x, g.status e = .succeeded ∧ P e ref) ∨
        ∃ e ∈ g₀.dependencies x, ref ∈ (g₀.task e).outputs ∧ ref ∈ (g₀.task x).inputs ∧
          g.status e ≠ .succeeded := by
      rw [TaskGraph.task_threadOutputsToDependents] at href
      split at href
      · next hthreaded =>
          rcases TaskGraph.mem_threadInputs href with hmem | ⟨hmem, hnot⟩
          · refine .inr (.inl ⟨d, hdeps ▸ hthreaded.2, hdone, ?_⟩)
            exact h.produced d hdone ref hmem
          · exact hrest hmem fun _ => hnot
      · next hskipped =>
          refine hrest href fun hd htake => hskipped ⟨?_, hdeps ▸ hd⟩
          rintro hnil
          simp [hnil] at htake
    simp only [TaskGraph.status_threadOutputsToDependents]
    exact hall.imp_right (Or.imp_right fun ⟨e, he, hout, hin, hopen⟩ =>
      ⟨e, he, hout, hin, .inl hopen⟩)

theorem Control.not_threads {n : Nat} {ids : List Uuid} {x : Uuid} {phase : Phase}
    (h : ∀ refs, ¬ phase.Threads refs) (d : Uuid) (refs : List ArtifactRef) :
    ¬ (Control.task n ids x phase).Threads d refs :=
  fun hthreads => h refs (Control.threads_iff.mp hthreads).2

/-- One move, if what is awaited, replayed or completed is accounted for. -/
theorem Move.provenance (hm : Move g c g' c' submitted) (h : Provenance g₀ externalInputs P g c)
    (hc : Coherent g c)
    (hawaited : ∀ n ids d produced missed, c' = .task n ids d (.await produced missed) →
      ∀ ref ∈ produced, P d ref)
    (hreplayed : ∀ n ids d output, c = .task n ids d (.cacheHit output) →
      P d output ∧ g₀.Covered externalInputs d 1)
    (hcompleted : ∀ n ids d produced missed declared, c = .task n ids d (.await produced missed) →
      c' = .task n ids d (.storeOutput declared) → g₀.Covered externalInputs d produced.length) :
    Provenance g₀ externalInputs P g' c' := by
  have hnone : ∀ {n ids p} d refs, ¬ (Control.ready n ids p).Threads d refs := by
    rintro n ids p d refs ⟨_, _, _, ⟨⟩, _⟩
  have hsucc : ∀ {id : Uuid} {state : TaskStatus}, g.status id ≠ .succeeded → state ≠ .succeeded →
      ∀ d, (g.setState id state).status d = .succeeded ↔ g.status d = .succeeded := by
    intro id state hid hstate d
    rw [TaskGraph.status_setState]
    split
    · next heq =>
        rw [heq]
        exact ⟨fun hs => absurd hs hstate, fun hs => absurd hs hid⟩
    · exact Iff.rfl
  have hcan : ∀ {id : Uuid} {state : TaskStatus}, g.status id ≠ .cancelled →
      ∀ d, g.status d = .cancelled → (g.setState id state).status d = .cancelled := by
    intro id state hid d hd
    rw [TaskGraph.status_setState, if_neg]
    · exact hd
    · rintro rfl
      exact hid hd
  have hkeep : ∀ {id : Uuid} {state : TaskStatus} x, ((g.setState id state).task x).inputs =
      (g.task x).inputs ∧ ((g.setState id state).task x).outputs = (g.task x).outputs := by
    intro id state x
    rw [TaskGraph.task_setState]
    split
    · next heq => rw [heq]; exact ⟨rfl, rfl⟩
    · exact ⟨rfl, rfl⟩
  cases hm with
  | enter _ | exhaust _ | pass _ | finish _ | snapshot _ | again | stall | hitCancelled _ =>
      refine h.frame rfl (fun _ => rfl) (fun _ _ => rfl) (fun _ => Iff.rfl) (fun _ hd => hd) ?_ ?_ hawaited
      all_goals rintro d refs ⟨_, _, _, ⟨⟩, _⟩
  | miss | dispatchCancelled _ | refuse _ | recordedCancelled | submit _ | wait _ _ =>
      refine h.frame rfl (fun _ => rfl) (fun _ _ => rfl) (fun _ => Iff.rfl) (fun _ hd => hd) ?_ ?_ hawaited
      all_goals rintro d refs ⟨_, _, _, ⟨⟩, hphase⟩
      all_goals exact hphase
  | idle _ => exact h
  | @propagate n id ids p hfailed =>
      have hpending := (TaskGraph.dependencyFailed_iff.mp hfailed).1
      refine h.frame rfl (fun x => (hkeep x).1) (fun x _ => (hkeep x).2)
        (hsucc (by simp [hpending]) (FailurePolicy.status_ne_succeeded _))
        (hcan (by simp [hpending])) ?_ ?_ hawaited
      all_goals rintro d refs ⟨_, _, _, ⟨⟩, _⟩
  | hit output hpending =>
      refine h.frame rfl (fun x => (hkeep x).1) (fun x _ => (hkeep x).2)
        (hsucc (by simp [hpending]) (by simp)) (hcan (by simp [hpending])) hnone ?_ hawaited
      exact Control.not_threads fun _ hphase => hphase
  | dispatch hstatus | markFailed hstatus | retry hstatus =>
      refine h.frame rfl (fun x => (hkeep x).1) (fun x _ => (hkeep x).2)
        (hsucc (by simp [hstatus]) (by simp)) (hcan (by simp [hstatus])) ?_ ?_ hawaited
      all_goals exact Control.not_threads fun _ hphase => hphase
  | giveUp hrun =>
      refine h.frame rfl (fun x => (hkeep x).1) (fun x _ => (hkeep x).2)
        (hsucc (by simp [hrun]) (by simp)) (hcan (by simp [hrun])) ?_ hnone hawaited
      exact Control.not_threads fun _ hphase => hphase
  | @fail n id ids produced missed recoverable =>
      have htask : ∀ x, ((g.countAttempt id).task x).inputs = (g.task x).inputs ∧
          ((g.countAttempt id).task x).outputs = (g.task x).outputs := by
        intro x
        rw [TaskGraph.task_countAttempt]
        split
        · next heq => rw [heq]; exact ⟨rfl, rfl⟩
        · exact ⟨rfl, rfl⟩
      refine h.frame rfl (fun x => (htask x).1) (fun x _ => (htask x).2) (by simp) (by simp) ?_ ?_ hawaited
      all_goals exact Control.not_threads fun _ hphase => hphase
  | @abandon n id ids produced missed hrun =>
      have hself : ((g.setOutputs id []).setState id .cancelled).status id = .cancelled := by simp
      have hother : ∀ x, x ≠ id →
          ((g.setOutputs id []).setState id .cancelled).task x = g.task x := by
        intro x hne
        rw [TaskGraph.task_setState, if_neg hne, TaskGraph.task_setOutputs, if_neg hne]
      -- a cancelled task loses its outputs, which `declared` leaves out
      refine h.frame rfl ?_ ?_ ?_ ?_ ?_ ?_ hawaited
      · intro x
        rcases eq_or_ne x id with rfl | hne
        · rw [TaskGraph.task_setState, if_pos rfl, TaskGraph.task_setOutputs, if_pos rfl]
        · rw [hother x hne]
      · intro x hlive
        have hne : x ≠ id := fun heq => hlive (heq ▸ hself)
        rw [hother x hne]
      · intro x
        rw [TaskGraph.status_setState]
        split
        · next heq => simp [heq, hrun]
        · rw [TaskGraph.status_setOutputs]
      · intro x hx
        rw [TaskGraph.status_setState]
        split
        · rfl
        · rw [TaskGraph.status_setOutputs, hx]
      all_goals exact Control.not_threads fun _ hphase => hphase
  | @replay n id ids output hrun =>
      obtain ⟨hyield, hcovered⟩ := hreplayed _ _ _ _ rfl
      refine h.succeed rfl (fun _ hphase => hphase) hrun ?_ hcovered ?_ ?_
      · intro ref href
        obtain rfl := List.mem_singleton.mp href
        exact hyield
      · exact fun refs => eq_comm
      · rintro _ _ ⟨⟩
  | @complete n id ids produced missed hrun =>
      refine h.succeed rfl (fun _ hphase => hphase) hrun ?_ ?_ ?_ ?_
      · exact h.awaited _ _ _ _ _ rfl
      · exact hcompleted _ _ _ _ _ _ rfl rfl
      · exact fun refs => eq_comm
      · rintro _ _ ⟨⟩
  | stored | recorded =>
      refine h.keep ?_ ?_
      · intro d refs
        rw [Control.threads_iff, Control.threads_iff]
        exact Iff.rfl
      · rintro _ _ _ _ _ ⟨⟩
  | thread => exact h.thread rfl hc.1

theorem Provenance.cancelled (h : Provenance g₀ externalInputs P g c) {id : Uuid}
    (hpending : g.status id = .pending) :
    Provenance g₀ externalInputs P (g.setState id .cancelled) c := by
  have hstatus : ∀ d, (g.setState id .cancelled).status d = .succeeded ↔
      g.status d = .succeeded := by
    intro d
    rw [TaskGraph.status_setState]
    split
    · next heq => simp [heq, hpending]
    · exact Iff.rfl
  have htask : ∀ x, ((g.setState id .cancelled).task x).inputs = (g.task x).inputs ∧
      ((g.setState id .cancelled).task x).outputs = (g.task x).outputs := by
    intro x
    rw [TaskGraph.task_setState]
    split
    · next heq => rw [heq]; exact ⟨rfl, rfl⟩
    · exact ⟨rfl, rfl⟩
  refine ⟨h.shape, h.awaited, ?_, ?_, ?_, ?_⟩
  · intro d hne hlive
    rw [(htask d).2]
    refine h.declared d (mt (hstatus d).mpr hne) fun hcancelled => hlive ?_
    rw [TaskGraph.status_setState]
    split
    · rfl
    · exact hcancelled
  · intro d hd ref href
    rw [(htask d).2] at href
    exact h.produced d ((hstatus d).mp hd) ref href
  · intro d refs hthreads
    rw [(htask d).2]
    exact h.threading d refs hthreads
  · intro x hx ref href
    rw [(htask x).1] at href
    simpa only [hstatus, ne_eq] using h.inputs x hx ref href

/-- At a submission every dependency has threaded its outputs. -/
theorem Provenance.resolved (h : Provenance g₀ externalInputs P g c) (hc : Coherent g c) {n : Nat}
    {ids : List Uuid} {x : Uuid} (hsubmit : c = .task n ids x .submit) :
    ∀ ref ∈ (g.task x).inputs, ref ∈ externalInputs ∨
      ∃ d ∈ g₀.dependencies x, g.status d = .succeeded ∧ P d ref := by
  subst hsubmit
  have heligible : Eligible g x := hc.2.2.1
  intro ref href
  rcases h.inputs x (h.shape ▸ heligible.1) ref href with hext | hyield | ⟨d, hd, _, _, hopen⟩
  · exact .inl hext
  · exact .inr hyield
  · have hdone : g.status d = .succeeded := heligible.2 d (by rw [h.shape]; exact hd)
    rcases hopen with hopen | ⟨refs, hthreads⟩
    · exact absurd hdone hopen
    · exact (Control.threads_iff.mp hthreads).2.elim

end invariant

/-! ## Runs

What a task has yielded is what its worker reported, or what the cache had.
`step_provenance` follows one step, `states_provenance` is the induction over
the run; at a submission all dependencies have threaded, so no placeholder is
left. -/

/-- The task that is awaited, with the refs collected so far. -/
def Control.collected : Control → Option (Uuid × List ArtifactRef)
  | .task _ _ id (.await produced _) => some (id, produced)
  | _ => none

/-- The task that is replayed, with its cached output. -/
def Control.replayed : Control → Option (Uuid × ArtifactRef)
  | .task _ _ id (.cacheHit output) => some (id, output)
  | _ => none

namespace Scheduler

variable {σ ι : Type} (sched : Scheduler σ ι)

/-- The state in which the thread goes on, when the `Cancel` calls of the step are served. -/
def served (input : StepInput ι) (s : SchedulerState σ) : SchedulerState σ :=
  input.cancels.foldl sched.cancel s

/-- What `WaitForEvent` returns in this step. -/
def event (input : StepInput ι) (s : SchedulerState σ) : Option WorkerEvent :=
  (sched.executor.waitForEvent (sched.served input s).executor input.worker).1

/-- The step takes a ref as an output of a task: the worker reports it, or the cache has it. -/
def Yields (input : StepInput ι) (s : SchedulerState σ) (d : Uuid) (ref : ArtifactRef) : Prop :=
  (∃ n ids produced missed, s.control = .task n ids d (.await produced missed) ∧
    sched.event input s = some ⟨d, .artifactProduced ref⟩) ∨
  ∃ n ids, s.control = .task n ids d (.cacheHit ref)

/-- If the step is a success, by execution or by replay, it has enough refs for
the placeholders that others take from the task. -/
def CoversPlaceholders (g₀ : TaskGraph) (externalInputs : List ArtifactRef) (input : StepInput ι)
    (s : SchedulerState σ) : Prop :=
  (∀ task ∈ s.control.collected, sched.event input s = some ⟨task.1, .completed⟩ →
    g₀.Covered externalInputs task.1 task.2.length) ∧
  ∀ task ∈ s.control.replayed, g₀.Covered externalInputs task.1 1

instance (g₀ : TaskGraph) (externalInputs : List ArtifactRef) (input : StepInput ι)
    (s : SchedulerState σ) : Decidable (sched.CoversPlaceholders g₀ externalInputs input s) :=
  inferInstanceAs (Decidable
    ((∀ task ∈ s.control.collected, sched.event input s = some ⟨task.1, .completed⟩ →
      g₀.Covered externalInputs task.1 task.2.length) ∧
    ∀ task ∈ s.control.replayed, g₀.Covered externalInputs task.1 1))

/-- The task has yielded the ref before step `k`, or had it as an output before the run. -/
def Produced (inputs : Nat → StepInput ι) (s₀ : SchedulerState σ) (k : Nat) (d : Uuid)
    (ref : ArtifactRef) : Prop :=
  (∃ j < k, sched.Yields (inputs j) (sched.states inputs s₀ j) d ref) ∨
    (s₀.graph.status d = .succeeded ∧ ref ∈ (s₀.graph.task d).outputs)

variable {sched} {inputs : Nat → StepInput ι} {s₀ : SchedulerState σ}

theorem Produced.mono {j k : Nat} (hjk : j ≤ k) {d : Uuid} {ref : ArtifactRef}
    (h : sched.Produced inputs s₀ j d ref) : sched.Produced inputs s₀ k d ref :=
  h.imp_left fun ⟨i, hij, hyields⟩ => ⟨i, Nat.lt_of_lt_of_le hij hjk, hyields⟩

/-- A cancellation leaves the thread where it is. -/
theorem served_control (input : StepInput ι) (s : SchedulerState σ) :
    (sched.served input s).control = s.control :=
  (@cancels_induct _ _ sched (fun _ _ => True) (fun _ _ _ _ _ _ => trivial) input.cancels
    s trivial).2.1

theorem states_succ_served (k : Nat) : sched.states inputs s₀ (k + 1) =
    sched.advance (inputs k) (sched.served (inputs k) (sched.states inputs s₀ k)) := rfl

/-- What becomes of a wait: it goes on with at most the ref just reported, or
the task has completed, or it has not. -/
theorem await_cases {input : StepInput ι} {s : SchedulerState σ} {n : Nat} {ids : List Uuid}
    {d : Uuid} {produced : List ArtifactRef} {missed : Nat}
    (hcontrol : s.control = .task n ids d (.await produced missed)) :
    (∃ produced' missed', (sched.advance input s).control =
        .task n ids d (.await produced' missed') ∧
        ∀ ref ∈ produced', ref ∈ produced ∨
          (sched.executor.waitForEvent s.executor input.worker).1 =
            some ⟨d, .artifactProduced ref⟩) ∨
      ((∀ n ids x produced missed, (sched.advance input s).control ≠
          .task n ids x (.await produced missed)) ∧
        ((sched.executor.waitForEvent s.executor input.worker).1 = some ⟨d, .completed⟩ ∨
          ∀ n ids x declared, (sched.advance input s).control ≠
            .task n ids x (.storeOutput declared))) := by
  simp only [advance, hcontrol, dispatchAndAwait, awaitEvent]
  split
  -- no event: the eleventh silence ends the wait
  · split
    · exact .inr ⟨by rintro _ _ _ _ _ ⟨⟩, .inr (by rintro _ _ _ _ ⟨⟩)⟩
    · exact .inl ⟨_, _, rfl, fun _ => .inl⟩
  · next event executor hwait =>
      rw [hwait]
      split
      -- an event of this task
      · next hsource =>
          cases hkind : event.kind with
          | artifactProduced ref =>
              refine .inl ⟨_, _, rfl, fun other hother => ?_⟩
              rcases List.mem_append.mp hother with hother | hother
              · exact .inl hother
              · obtain rfl := List.mem_singleton.mp hother
                right
                rw [← hsource, ← hkind]
          | completed =>
              refine .inr ⟨?_, .inl (by rw [← hsource, ← hkind])⟩
              simp only [handleEvent]
              rcases SchedulerState.mark_control _ d .succeeded (.task n ids d (.storeOutput _))
                with heq | ⟨error, heq⟩
              all_goals
                rw [heq]
                rintro _ _ _ _ _ ⟨⟩
          | failed code message recoverable =>
              exact .inr ⟨by rintro _ _ _ _ _ ⟨⟩, .inr (by rintro _ _ _ _ ⟨⟩)⟩
          | cancelled =>
              refine .inr ?_
              simp only [handleEvent]
              rcases SchedulerState.mark_control _ d .cancelled (.task n ids d .recordCancelled)
                with heq | ⟨error, heq⟩
              all_goals
                rw [heq]
                exact ⟨by rintro _ _ _ _ _ ⟨⟩, .inr (by rintro _ _ _ _ ⟨⟩)⟩
          | progress _ | log _ | heartbeat => exact .inl ⟨_, _, rfl, fun _ => .inl⟩
      · exact .inl ⟨_, _, rfl, fun _ => .inl⟩

/-- One step: the new state is accounted for, and so is a request that it submits. -/
theorem step_provenance {g₀ : TaskGraph} {externalInputs : List ArtifactRef}
    {P : Uuid → ArtifactRef → Prop} {input : StepInput ι} {s : SchedulerState σ}
    (hc : Coherent s.graph s.control) (h : Provenance g₀ externalInputs P s.graph s.control)
    (hyields : ∀ d ref, sched.Yields input s d ref → P d ref)
    (hcovers : sched.CoversPlaceholders g₀ externalInputs input s) :
    Provenance g₀ externalInputs P (sched.step input s).graph (sched.step input s).control ∧
      (∀ d, s.graph.status d = .succeeded → (sched.step input s).graph.status d = .succeeded) ∧
      ∀ request ∈ (sched.step input s).submissions, request ∈ s.submissions ∨
        ∀ ref ∈ request.inputRefs, ref ∈ externalInputs ∨
          ∃ d ∈ g₀.dependencies request.taskId,
            (sched.step input s).graph.status d = .succeeded ∧ P d ref := by
  -- the calls of `Cancel` first
  have hcancel : ∀ g c id, (Coherent g c ∧ Provenance g₀ externalInputs P g c ∧
        ∀ d, s.graph.status d = .succeeded → g.status d = .succeeded) →
      id ∈ g.insertionOrder → g.status id = .pending →
      Coherent (g.setState id .cancelled) c ∧
        Provenance g₀ externalInputs P (g.setState id .cancelled) c ∧
        ∀ d, s.graph.status d = .succeeded → (g.setState id .cancelled).status d = .succeeded := by
    rintro g c id ⟨hcg, hg, hdone⟩ _ hpending
    exact ⟨hcg.cancelled hpending, hg.cancelled hpending, fun d hd => by
      rw [TaskGraph.status_setState, if_neg]
      · exact hdone d hd
      · rintro rfl
        simp [hdone d hd] at hpending⟩
  obtain ⟨⟨hct, ht, hdone⟩, hcontrol, hsubs, _⟩ :=
    sched.cancels_induct hcancel input.cancels ⟨hc, h, fun _ hd => hd⟩
  change Coherent (sched.served input s).graph (sched.served input s).control at hct
  change Provenance g₀ externalInputs P (sched.served input s).graph (sched.served input s).control at ht
  change (sched.served input s).control = s.control at hcontrol
  change (sched.served input s).submissions = s.submissions at hsubs
  -- then the move
  obtain ⟨submitted, hmove, hsubs', _⟩ := sched.advance_moves input hct
  change Move _ _ (sched.step input s).graph (sched.step input s).control _ at hmove
  have hnext : Provenance g₀ externalInputs P (sched.step input s).graph
      (sched.step input s).control := by
    refine hmove.provenance ht hct ?_ ?_ ?_
    · intro n ids d produced missed hcontrol' ref href
      rw [hcontrol'] at hmove
      rcases hmove.of_await with rfl | ⟨produced', missed', hawait⟩
      · cases href
      · have hbefore := ht.awaited n ids d produced' missed' hawait
        rcases await_cases hawait with ⟨_, _, heq, hcollected⟩ | ⟨hno, _⟩
        · change (sched.step input s).control = _ at heq
          rw [hcontrol'] at heq
          cases heq
          rcases hcollected ref href with hold | hreported
          · exact hbefore ref hold
          · exact hyields d ref (.inl ⟨n, ids, produced', missed', hcontrol ▸ hawait, hreported⟩)
        · exact absurd hcontrol' (hno n ids d produced missed)
    · intro n ids d output hhit
      rw [hcontrol] at hhit
      exact ⟨hyields d output (.inr ⟨n, ids, hhit⟩), hcovers.2 (d, output) (by rw [hhit]; rfl)⟩
    · intro n ids d produced missed declared hawait hstore
      rcases await_cases hawait with ⟨_, _, heq, _⟩ | ⟨_, hcompleted | hno⟩
      · change (sched.step input s).control = _ at heq
        rw [hstore] at heq
        cases heq
      · exact hcovers.1 (d, produced) (by rw [← hcontrol, hawait]; rfl) hcompleted
      · exact absurd hstore (hno n ids d declared)
  refine ⟨hnext, fun d hd => hmove.succeeded (hdone d hd), ?_⟩
  intro request hrequest
  change request ∈ (sched.advance input (sched.served input s)).submissions at hrequest
  rw [hsubs', hsubs] at hrequest
  refine (List.mem_append.mp hrequest).imp_right fun hnew => ?_
  cases submitted with
  | none => cases hnew
  | some x =>
      obtain rfl := List.mem_singleton.mp hnew
      obtain ⟨n, ids, hsubmit, hsame⟩ := hmove.of_submitted
      rw [hsame]
      exact ht.resolved hct hsubmit

/-- The requests of a run, each with inputs accounted for at step `k`. -/
def Resolved (sched : Scheduler σ ι) (inputs : Nat → StepInput ι) (s₀ : SchedulerState σ)
    (externalInputs : List ArtifactRef) (k : Nat) (request : TaskRequest) : Prop :=
  ∀ ref ∈ request.inputRefs, ref ∈ externalInputs ∨
    ∃ d ∈ s₀.graph.dependencies request.taskId,
      (sched.states inputs s₀ k).graph.status d = .succeeded ∧ sched.Produced inputs s₀ k d ref

variable (sched inputs) in
theorem states_provenance {externalInputs : List ArtifactRef} (hc : Coherent s₀.graph s₀.control)
    (h₀ : s₀.control = .iterate 0) (hsub : s₀.submissions = [])
    (hvalid : ∀ x ∈ s₀.graph.insertionOrder, ∀ ref ∈ (s₀.graph.task x).inputs,
      ref ∈ externalInputs ∨ ∃ d ∈ s₀.graph.dependencies x, ref ∈ (s₀.graph.task d).outputs)
    (hcovers : ∀ k, sched.CoversPlaceholders s₀.graph externalInputs (inputs k)
      (sched.states inputs s₀ k)) (k : Nat) :
    Provenance s₀.graph externalInputs (sched.Produced inputs s₀ k)
        (sched.states inputs s₀ k).graph (sched.states inputs s₀ k).control ∧
      ∀ request ∈ (sched.states inputs s₀ k).submissions,
        sched.Resolved inputs s₀ externalInputs k request := by
  induction k with
  | zero =>
      rw [states_zero, h₀, hsub]
      refine ⟨Provenance.start hvalid fun d ref hdone hmem => .inr ⟨hdone, hmem⟩, ?_⟩
      intro request hmem
      cases hmem
  | succ k ih =>
      obtain ⟨hprov, hrequests⟩ := ih
      have hyields : ∀ d ref, sched.Yields (inputs k) (sched.states inputs s₀ k) d ref →
          sched.Produced inputs s₀ (k + 1) d ref :=
        fun d ref hy => .inl ⟨k, Nat.lt_succ_self k, hy⟩
      have hlater : ∀ d ref, sched.Produced inputs s₀ k d ref →
          sched.Produced inputs s₀ (k + 1) d ref :=
        fun d ref hp => hp.mono (Nat.le_succ k)
      obtain ⟨hnext, hdone, hnew⟩ :=
        step_provenance (states_coherent hc k) (hprov.mono hlater) hyields (hcovers k)
      refine ⟨hnext, fun request hrequest => ?_⟩
      rcases hnew request hrequest with hold | hresolved
      · intro ref href
        refine (hrequests request hold ref href).imp_right ?_
        rintro ⟨d, hd, hsucceeded, hp⟩
        exact ⟨d, hd, hdone d hsucceeded, hlater d ref hp⟩
      · exact hresolved

/-- **No placeholder reaches a worker.** In every run of a validated graph,
whatever the worker, the cache and the callers of `Cancel` do, the inputs of
every request submitted are external inputs and refs that succeeded dependencies
of the task have produced, if every success has enough refs for the placeholders
that others take from the task. -/
theorem inputs_resolved {store : SchedulerStateStore} {executor : σ} {g : TaskGraph}
    {externalInputs : List ArtifactRef} {pipelineHash : String}
    (hrun : sched.run store executor g externalInputs pipelineHash = .ok s₀)
    (hidle : NoneRunning g)
    (hcovers : ∀ k, sched.CoversPlaceholders g externalInputs (inputs k)
      (sched.states inputs s₀ k)) (k : Nat) :
    ∀ request ∈ (sched.states inputs s₀ k).submissions, ∀ ref ∈ request.inputRefs,
      ref ∈ externalInputs ∨ ∃ d ∈ g.dependencies request.taskId,
        (sched.states inputs s₀ k).graph.status d = .succeeded ∧
          sched.Produced inputs s₀ k d ref := by
  obtain ⟨hvalid, store', _, rfl⟩ := run_start hrun
  apply (states_provenance sched inputs _ rfl rfl _ hcovers k).2
  · exact Coherent.start hidle
  · intro x hx ref href
    exact TaskGraph.validate_input hvalid hx href

/-! A chain of two tasks: the second takes the declared output of the first. -/

private def pairGraph : TaskGraph :=
  let first : TaskInstance := { id := ⟨1⟩, definition := { type := "import" }, outputs := ["a"] }
  let second : TaskInstance := { id := ⟨2⟩, definition := { type := "match" }, inputs := ["a"] }
  (TaskGraph.build ⟨9⟩ ⟨8⟩ [first, second] [(⟨2⟩, ⟨1⟩)]).toOption.getD (.empty ⟨9⟩)

/-- The worker reports the given refs for every task. -/
private def pairScheduler (refs : List ArtifactRef) : Scheduler (List WorkerEvent) Unit where
  cache := ⟨fun s => s, "", ""⟩
  executor := .deterministic {} ⟨7⟩ fun _ => refs.map .artifactProduced ++ [.completed]

private def pairInputs (_ : Nat) : StepInput Unit := { worker := () }

private def pairStart : SchedulerState (List WorkerEvent) :=
  ((pairScheduler []).run {} [] pairGraph [] "").toOption.getD
    ⟨pairGraph, {}, [], "", .returned, [], []⟩

/-- One ref for one placeholder: the second task gets what the first has produced. -/
theorem inputs_resolved_pair :
    ∃ request ∈ ((pairScheduler ["hash"]).states pairInputs pairStart 24).submissions,
      request.inputRefs = ["hash"] ∧ ∀ ref ∈ request.inputRefs,
        ref ∈ ([] : List ArtifactRef) ∨ ∃ d ∈ pairGraph.dependencies request.taskId,
          ((pairScheduler ["hash"]).states pairInputs pairStart 24).graph.status d = .succeeded ∧
            (pairScheduler ["hash"]).Produced pairInputs pairStart 24 d ref := by
  have hrun : (pairScheduler ["hash"]).run {} [] pairGraph [] "" = .ok pairStart :=
    eq_ok_getD _ (by decide +kernel)
  have hquiet : ∀ k, (pairInputs k).cancels = [] := fun _ => rfl
  have hdead : ((pairScheduler ["hash"]).states pairInputs pairStart 30).control.isLive = false := by
    decide +kernel
  -- the run has ended after thirty steps, and every step up to there has enough refs
  have hprefix : ∀ k ≤ 30, (pairScheduler ["hash"]).CoversPlaceholders pairGraph [] (pairInputs 0)
      ((pairScheduler ["hash"]).states pairInputs pairStart k) := by
    decide +kernel
  have hcovers : ∀ k, (pairScheduler ["hash"]).CoversPlaceholders pairGraph [] (pairInputs k)
      ((pairScheduler ["hash"]).states pairInputs pairStart k) :=
    forall_states_of_dead hquiet hdead hprefix
  have hsubmitted : ∃ request ∈
      ((pairScheduler ["hash"]).states pairInputs pairStart 24).submissions,
      request.inputRefs = ["hash"] := by
    decide +kernel
  obtain ⟨request, hmem, hrefs⟩ := hsubmitted
  refine ⟨request, hmem, hrefs, ?_⟩
  exact inputs_resolved hrun (by unfold NoneRunning; decide +kernel) hcovers 24 request hmem

/-- The first task completes without an artifact, and the second is submitted
with the placeholder `a`, which nobody has produced. -/
theorem placeholder_submitted :
    (pairScheduler []).run {} [] pairGraph [] "" = .ok pairStart ∧
      ∃ request ∈ ((pairScheduler []).states pairInputs pairStart 24).submissions,
        ¬ ∀ ref ∈ request.inputRefs, ref ∈ ([] : List ArtifactRef) ∨
          ∃ d ∈ pairGraph.dependencies request.taskId,
            ((pairScheduler []).states pairInputs pairStart 24).graph.status d = .succeeded ∧
              (pairScheduler []).Produced pairInputs pairStart 24 d ref := by
  have hevents : ∀ j < 24, (∀ event ∈ (pairScheduler []).event (pairInputs j)
      ((pairScheduler []).states pairInputs pairStart j), event.kind = .completed) ∧
        ((pairScheduler []).states pairInputs pairStart j).control.replayed = none := by
    decide +kernel
  have hsubmitted : ∃ request ∈ ((pairScheduler []).states pairInputs pairStart 24).submissions,
      "a" ∈ request.inputRefs ∧ ∀ d ∈ pairGraph.dependencies request.taskId,
        pairStart.graph.status d = .pending := by
    decide +kernel
  refine ⟨eq_ok_getD _ (by decide +kernel), ?_⟩
  -- the placeholder is no external input, nobody has reported it, and nothing was replayed
  obtain ⟨request, hmem, hplaceholder, hpending⟩ := hsubmitted
  refine ⟨request, hmem, fun h => ?_⟩
  rcases h "a" hplaceholder with hext | ⟨d, hd, _, ⟨j, hj, hyields⟩ | ⟨hdone, _⟩⟩
  · cases hext
  · obtain ⟨hcompleted, hnone⟩ := hevents j hj
    rcases hyields with ⟨_, _, _, _, _, hevent⟩ | ⟨_, _, hhit⟩
    · exact absurd (hcompleted _ hevent) (by simp)
    · rw [hhit] at hnone
      cases hnone
  · rw [hpending d hd] at hdone
    cases hdone

end Scheduler

end SpatialPlatform.Engine
