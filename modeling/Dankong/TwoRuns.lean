import Dankong.Runs

/-!
# Two runs side by side

A system whose inputs also give outputs, and the same inputs fed to two of its
states. What a relation between the states keeps over every input, it keeps over
whole runs; if it also makes the outputs agree, the runs cannot be told apart.
-/

namespace Dankong.TwoRuns

open Runs

variable {State Input Output : Type*}

/-- The outputs of a run, oldest first. -/
def outputs (step : State → Input → State) (out : State → Input → Output) :
    State → List Input → List Output
  | _,[] => []
  | s,i::rest => out s i::outputs step out (step s i) rest

/-- Both states take the same input. -/
def pairStep (step : State → Input → State) (p : State×State) (i : Input) : State×State :=
  (step p.1 i,step p.2 i)

variable {step : State → Input → State} {out : State → Input → Output}

/-- The outputs of a run that is split in two. -/
theorem outputs_append (s : State) (first second : List Input) :
    outputs step out s (first++second)=
      outputs step out s first++outputs step out (runFrom step s first) second := by
  induction first generalizing s with
  | nil => rfl
  | cons i rest ih => rw [List.cons_append,outputs,outputs,ih,runFrom_cons,List.cons_append]

/-- The output rule: what every guarded step gives for its output while it keeps an
invariant, all outputs of a guarded run have. -/
theorem outputs_forall {P : State → Prop} {ok : State → Input → Prop} {Q : Output → Prop}
    (hstep : ∀ s i,P s → ok s i → P (step s i) ∧ Q (out s i))
    (inputs : List Input) {s : State} (hs : P s) (hg : Guarded step ok s inputs) :
    ∀ o∈outputs step out s inputs,Q o := by
  induction inputs generalizing s with
  | nil => exact fun _ hmem => nomatch hmem
  | cons i rest ih =>
    obtain ⟨hnext,hout⟩ := hstep s i hs hg.1
    exact List.forall_mem_cons.mpr ⟨hout,ih hnext hg.2⟩

/-- The two-run rule: a relation that every guarded input keeps, and under which
outputs agree, makes two guarded runs agree in all their outputs. -/
theorem outputs_eq {R : State → State → Prop} (ok : State×State → Input → Prop)
    (hout : ∀ s t i,R s t → ok (s,t) i → out s i=out t i)
    (hstep : ∀ s t i,R s t → ok (s,t) i → R (step s i) (step t i))
    (inputs : List Input) {s t : State} (h : R s t)
    (hg : Guarded (pairStep step) ok (s,t) inputs) :
    outputs step out s inputs=outputs step out t inputs ∧
      R (runFrom step s inputs) (runFrom step t inputs) := by
  induction inputs generalizing s t with
  | nil => exact ⟨rfl,h⟩
  | cons i rest ih =>
    obtain ⟨hrest,hrun⟩ := ih (hstep s t i h hg.1) hg.2
    exact ⟨by rw [outputs,outputs,hout s t i h hg.1,hrest],hrun⟩

variable (step out) in
/-- The two-run rule without a guard. -/
theorem outputs_eq_of_forall {R : State → State → Prop}
    (hout : ∀ s t i,R s t → out s i=out t i) (hstep : ∀ s t i,R s t → R (step s i) (step t i))
    (inputs : List Input) {s t : State} (h : R s t) :
    outputs step out s inputs=outputs step out t inputs ∧
      R (runFrom step s inputs) (runFrom step t inputs) :=
  outputs_eq (fun _ _ => True) (fun s t i h _ => hout s t i h)
    (fun s t i h _ => hstep s t i h) inputs h (guarded_of_forall (fun _ _ => trivial) _ inputs)

end Dankong.TwoRuns
