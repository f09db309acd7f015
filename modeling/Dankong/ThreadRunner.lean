import Dankong.Runs

/-!
# A control thread that is stopped from outside

A worker thread repeats: test a running flag, read its input, compute, hand its
output over. A caller starts and stops it: stopping clears the flag and then
hands over one last output, without waiting for the step in progress. Every
single action is one transition, so runs are exactly the interleavings. The
output of a stopped runner is final as long as no stop overtakes a step that
still has something to hand over.
-/

namespace Dankong.ThreadRunner

open Runs

/-- What the thread runs: `Shared` is the state both threads touch, `Env` what a
step reads from outside, `Msg` what callers send in, `Out` what is handed over. -/
structure Body (Shared Env Msg Out : Type*) where
  /-- Preparation made by the caller before the flag is set. -/
  onStart : Env → Shared → Shared
  /-- Bookkeeping of the last hand-over made by the caller. -/
  onStop : Env → Shared → Shared
  /-- The output handed over when the caller stops the runner. -/
  stopOut : Out
  /-- Delivery of a message. -/
  send : Msg → Shared → Shared
  /-- First part of a step: the input is read. -/
  read : Env → Shared → Shared
  /-- Second part of a step: new state and outputs to hand over. -/
  compute : Env → Shared → Shared×List Out

/-- Where the worker is in its loop. -/
inductive Worker (Out : Type*)
  /-- Between two steps: waiting, or about to test the flag. -/
  | between
  /-- The flag was found set; the step has not read its input. -/
  | tested
  /-- The input has been read. -/
  | reading
  /-- Outputs are computed and not yet handed over. -/
  | holding (outs : List Out)

/-- One single action of one of the threads. -/
inductive Action (Env Msg : Type*)
  /-- The caller starts the runner. -/
  | start (env : Env)
  /-- The caller's stop clears the flag, or returns at once if it is clear. -/
  | stopClear
  /-- The caller's stop hands over the last output and returns. -/
  | stopHandOver (env : Env)
  /-- A message arrives. -/
  | send (msg : Msg)
  /-- The worker tests the flag. -/
  | test
  /-- The worker reads its input. -/
  | read (env : Env)
  /-- The worker computes. -/
  | compute (env : Env)
  /-- The worker hands over what it computed. -/
  | handOver

/-- Both threads, the flag and everything handed over so far. -/
structure RunnerState (Shared Out : Type*) where
  /-- State shared by the threads. -/
  shared : Shared
  /-- The running flag. -/
  running : Bool := false
  /-- Position of the worker. -/
  worker : Worker Out := .between
  /-- The caller has cleared the flag and not yet handed over. -/
  stopping : Bool := false
  /-- Everything handed over, latest first. -/
  handed : List Out := []
  /-- Some start has set the flag. -/
  started : Bool := false
  /-- A stop has returned and no start has followed. -/
  stopped : Bool := false

variable {Shared Env Msg Out : Type*}

/-- One transition; an action that is not enabled changes nothing. -/
def step (b : Body Shared Env Msg Out) (s : RunnerState Shared Out) :
    Action Env Msg → RunnerState Shared Out
  | .start env =>
    if s.stopping=true ∨ s.running=true then s
    else { s with
      shared := b.onStart env s.shared, running := true, started := true, stopped := false }
  | .stopClear =>
    if s.stopping=true then s
    else if s.running=true then { s with running := false, stopping := true }
    else { s with stopped := true }
  | .stopHandOver env =>
    if s.stopping=true then { s with
      shared := b.onStop env s.shared, handed := b.stopOut::s.handed
      stopping := false, stopped := true }
    else s
  | .send msg => { s with shared := b.send msg s.shared }
  | .test => match s.worker with
    | .between => if s.running=true then { s with worker := .tested } else s
    | _ => s
  | .read env => match s.worker with
    | .tested => { s with shared := b.read env s.shared, worker := .reading }
    | _ => s
  | .compute env => match s.worker with
    | .reading => { s with
        shared := (b.compute env s.shared).1, worker := .holding (b.compute env s.shared).2 }
    | _ => s
  | .handOver => match s.worker with
    | .holding outs => { s with handed := outs.reverse++s.handed, worker := .between }
    | _ => s

/-- The worker has nothing left to hand over: it is between two steps, or its step in
progress has finished its computation and came out empty. -/
def Drained (s : RunnerState Shared Out) : Prop :=
  s.worker=.between ∨ s.worker=.holding []

/-- Guard: a stop hands over only when the worker has nothing left to hand over. -/
def StopsBetweenSteps (s : RunnerState Shared Out) : Action Env Msg → Prop
  | .stopHandOver _ => s.stopping=true → Drained s
  | _ => True

/-- What a stopped runner promises: the last output is the one of the stop, and
there is none only if the runner never ran. -/
def FinalOutput (b : Body Shared Env Msg Out) (s : RunnerState Shared Out) : Prop :=
  s.handed.head?=if s.started=true then some b.stopOut else none

/-- Run invariant: while nobody runs or stops the runner, the worker is drained
and the output is final. -/
structure AtRest (b : Body Shared Env Msg Out) (s : RunnerState Shared Out) : Prop where
  /-- A returned stop leaves the flag clear and the caller idle. -/
  idle : s.stopped=true → s.running=false ∧ s.stopping=false
  /-- The caller is not stopping while the flag is set. -/
  exclusive : s.stopping=true → s.running=false ∧ s.started=true
  /-- The flag is set only after a start. -/
  begun : s.running=true → s.started=true
  /-- At rest the worker is drained and the output final. -/
  rest : s.running=false → s.stopping=false → Drained s ∧ FinalOutput b s

/-- A drained worker stays drained while the flag is clear, and adds no output. -/
theorem drained_handOver {s : RunnerState Shared Out} {outs : List Out}
    (h : Drained s) (hw : s.worker=.holding outs) : outs=[] := by
  rcases h with h|h <;> rw [hw] at h
  · cases h
  · exact Worker.holding.inj h

/-- At rest the worker is not on its way to an output. -/
theorem AtRest.not_computing {b : Body Shared Env Msg Out} {s : RunnerState Shared Out}
    (h : AtRest b s) (hw : s.worker=.tested ∨ s.worker=.reading) (hr : s.running=false)
    (hs : s.stopping=false) : False := by
  rcases (h.rest hr hs).1 with hd|hd
  all_goals
    rcases hw with hw|hw
    all_goals
      rw [hw] at hd
      cases hd

/-- Every guarded action keeps the invariant. -/
theorem step_atRest (b : Body Shared Env Msg Out) (s : RunnerState Shared Out)
    (a : Action Env Msg) (h : AtRest b s) (hok : StopsBetweenSteps s a) :
    AtRest b (step b s a) := by
  cases a with
  | start env =>
    dsimp only [step]
    split
    · exact h
    · rename_i hn
      refine ⟨fun hc => ?_,fun hc => ?_,fun _ => rfl,fun hc => ?_⟩
      · cases hc
      · exact absurd (Or.inl hc) hn
      · cases hc
  | stopClear =>
    dsimp only [step]
    split
    · exact h
    · rename_i hstop
      split
      · rename_i hrun
        refine ⟨fun hc => ?_,fun _ => ⟨rfl,h.begun hrun⟩,fun hc => ?_,fun _ hc => ?_⟩
        · exact absurd hrun (by simp [(h.idle hc).1])
        · cases hc
        · cases hc
      · rename_i hrun
        exact ⟨fun _ => ⟨by simpa using hrun,by simpa using hstop⟩,h.exclusive,h.begun,h.rest⟩
  | stopHandOver env =>
    dsimp only [step]
    split
    · rename_i hstop
      obtain ⟨hrun,hbegun⟩ := h.exclusive hstop
      refine ⟨fun _ => ⟨hrun,rfl⟩,fun hc => ?_,h.begun,fun _ _ => ⟨hok hstop,?_⟩⟩
      · cases hc
      · simp only [FinalOutput,List.head?_cons,hbegun,if_true]
    · exact h
  | send msg => exact ⟨h.idle,h.exclusive,h.begun,h.rest⟩
  | test =>
    dsimp only [step]
    split
    · split
      · rename_i hrun
        refine ⟨h.idle,h.exclusive,h.begun,fun hc => ?_⟩
        rw [hrun] at hc
        cases hc
      · exact h
    · exact h
  | read env =>
    dsimp only [step]
    split
    · rename_i hw
      exact ⟨h.idle,h.exclusive,h.begun,fun hr hs => (h.not_computing (Or.inl hw) hr hs).elim⟩
    · exact h
  | compute env =>
    dsimp only [step]
    split
    · rename_i hw
      exact ⟨h.idle,h.exclusive,h.begun,fun hr hs => (h.not_computing (Or.inr hw) hr hs).elim⟩
    · exact h
  | handOver =>
    dsimp only [step]
    split
    · rename_i outs hw
      refine ⟨h.idle,h.exclusive,h.begun,fun hr hs => ⟨Or.inl rfl,?_⟩⟩
      obtain ⟨hd,hf⟩ := h.rest hr hs
      obtain rfl := drained_handOver hd hw
      exact hf
    · exact h

/-- In every interleaving in which no stop overtakes a step that still has
something to hand over, the output of a stopped runner is final. -/
theorem stopped_final (b : Body Shared Env Msg Out) (shared : Shared)
    (actions : List (Action Env Msg))
    (hg : Guarded (step b) StopsBetweenSteps { shared := shared } actions)
    (hstopped : (runFrom (step b) { shared := shared } actions).stopped=true) :
    FinalOutput b (runFrom (step b) { shared := shared } actions) := by
  have h : AtRest b (runFrom (step b) { shared := shared } actions) :=
    guarded_invariant (step_atRest b) actions
      ⟨fun hc => (nomatch hc),fun hc => (nomatch hc),fun hc => (nomatch hc),
        fun _ _ => ⟨Or.inl rfl,rfl⟩⟩ hg
  obtain ⟨hr,hs⟩ := h.idle hstopped
  exact (h.rest hr hs).2

end Dankong.ThreadRunner
