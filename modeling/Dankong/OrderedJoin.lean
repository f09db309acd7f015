import Mathlib.Data.List.Infix
import Dankong.Runs

/-!
# Requests served in order from a growing record

Two streams arrive interleaved: items that extend a record, and requests that
the record may or may not decide yet. After every arrival the waiting requests
are served in order, up to the first that must wait. If no decision is ever
revised by a longer record, the answers depend on the two streams alone and not
on how they were interleaved.
-/

namespace Dankong.OrderedJoin

open Runs

variable {E G O : Type*}

/-- Serve requests in order as far as the record decides them: the answers
given and the requests that still wait. -/
def serve (decide : List E → G → Option O) (record : List E) : List G → List O×List G
  | [] => ([],[])
  | g::rest => match decide record g with
    | none => ([],g::rest)
    | some o => (o::(serve decide record rest).1,(serve decide record rest).2)

/-- The record, the requests that wait and the answers given so far. -/
@[ext] structure JoinState (E G O : Type*) where
  /-- Items received so far. -/
  record : List E := []
  /-- Requests not answered yet. -/
  waiting : List G := []
  /-- Answers in the order of their requests. -/
  answers : List O := []

/-- One arrival on either stream. -/
inductive Arrival (E G : Type*)
  /-- An item for the record. -/
  | item (e : E)
  /-- A request. -/
  | request (g : G)

/-- Serve what can be served now. -/
def settle (decide : List E → G → Option O) (s : JoinState E G O) : JoinState E G O :=
  { s with
    waiting := (serve decide s.record s.waiting).2
    answers := s.answers++(serve decide s.record s.waiting).1 }

/-- Effect of one arrival. -/
def step (decide : List E → G → Option O) (s : JoinState E G O) : Arrival E G → JoinState E G O
  | .item e => settle decide { s with record := s.record++[e] }
  | .request g => settle decide { s with waiting := s.waiting++[g] }

/-- The first stream of an interleaving. -/
def items (arrivals : List (Arrival E G)) : List E :=
  arrivals.filterMap fun | .item e => some e | .request _ => none

/-- The second stream of an interleaving. -/
def requests (arrivals : List (Arrival E G)) : List G :=
  arrivals.filterMap fun | .item _ => none | .request g => some g

/-- No decision taken on a part of the record is revised on a longer part. -/
def Stable (decide : List E → G → Option O) (all : List E) : Prop :=
  ∀ early late,early<+:late → late<+:all → ∀ g o,decide early g=some o → decide late g=some o

variable {decide : List E → G → Option O}

/-- A part of a stable record is stable. -/
theorem Stable.of_prefix {all part : List E} (h : Stable decide all) (hp : part<+:all) :
    Stable decide part :=
  fun early late hel hlp => h early late hel (hlp.trans hp)

/-- Requests that arrive behind others are served behind them. -/
theorem serve_append (record : List E) (gs more : List G) :
    serve decide record (gs++more)=
      ((serve decide record gs).1++(serve decide record ((serve decide record gs).2++more)).1,
        (serve decide record ((serve decide record gs).2++more)).2) := by
  induction gs with
  | nil => rfl
  | cons g rest ih =>
    cases hg : decide record g with
    | none => simp only [serve,hg,List.cons_append,List.nil_append]
    | some o => simp only [serve,hg,List.cons_append,ih]

/-- Serving later from a longer record gives what serving at once would have given. -/
theorem serve_grow {early late : List E}
    (hkeep : ∀ g o,decide early g=some o → decide late g=some o) (gs : List G) :
    serve decide late gs=
      ((serve decide early gs).1++(serve decide late (serve decide early gs).2).1,
        (serve decide late (serve decide early gs).2).2) := by
  induction gs with
  | nil => rfl
  | cons g rest ih =>
    cases hg : decide early g with
    | none => simp only [serve,hg,List.nil_append]
    | some o =>
      have hlate : decide late g=some o := hkeep g o hg
      simp only [serve,hg,hlate,List.cons_append]
      rw [ih]

variable (decide) in
/-- Every answer given is the decision on some request, in the order of requests. -/
theorem serve_sublist (record : List E) (gs : List G) :
    ∃ used,used<+:gs ∧ used.map (decide record)=(serve decide record gs).1.map some := by
  induction gs with
  | nil => exact ⟨[],List.prefix_rfl,rfl⟩
  | cons g rest ih =>
    obtain ⟨used,hused,hmap⟩ := ih
    cases hg : decide record g with
    | none =>
      refine ⟨[],List.nil_prefix,?_⟩
      simp only [serve,hg,List.map_nil]
    | some o =>
      refine ⟨g::used,(List.prefix_cons_inj g).mpr hused,?_⟩
      simp only [serve,hg,List.map_cons,hmap]

/-- Serving leaves no more requests waiting than there were. -/
theorem serve_length_le (record : List E) (gs : List G) :
    (serve decide record gs).2.length≤gs.length := by
  induction gs with
  | nil => exact le_refl _
  | cons g rest ih =>
    cases hg : decide record g with
    | none => simp only [serve,hg,le_refl]
    | some o =>
      simp only [serve,hg,List.length_cons]
      exact Nat.le_succ_of_le ih

variable (decide) in
/-- The record is the first stream, and no more requests wait than have arrived. -/
theorem run_bounds (arrivals : List (Arrival E G)) :
    (runFrom (step decide) {} arrivals).record=items arrivals ∧
      (runFrom (step decide) {} arrivals).waiting.length≤(requests arrivals).length := by
  induction arrivals using List.reverseRecOn with
  | nil => exact ⟨rfl,le_refl _⟩
  | append_singleton before last ih =>
    obtain ⟨hrecord,hwaiting⟩ := ih
    rw [runFrom_append,runFrom_cons,runFrom_nil]
    cases last with
    | item e =>
      refine ⟨?_,(serve_length_le _ _).trans ?_⟩
      · simp [step,settle,items,hrecord]
      · simpa [requests] using hwaiting
    | request g =>
      refine ⟨?_,(serve_length_le _ _).trans ?_⟩
      · simp [step,settle,items,hrecord]
      · simpa [requests] using hwaiting

/-- The run rule: after every interleaving the state is that of serving the
whole second stream from the whole first one. -/
theorem run_eq_serve (arrivals : List (Arrival E G))
    (hstable : Stable decide (items arrivals)) :
    runFrom (step decide) {} arrivals=
      { record := items arrivals
        waiting := (serve decide (items arrivals) (requests arrivals)).2
        answers := (serve decide (items arrivals) (requests arrivals)).1 } := by
  induction arrivals using List.reverseRecOn with
  | nil => rfl
  | append_singleton before last ih =>
    rw [runFrom_append,runFrom_cons,runFrom_nil]
    cases last with
    | item e =>
      have hitems : items (before++[.item e])=items before++[e] := by
        simp [items]
      have hrequests : requests (before++[.item e])=requests before := by
        simp [requests]
      rw [hitems] at hstable ⊢
      have hprefix : items before<+:items before++[e] := List.prefix_append _ _
      rw [ih (hstable.of_prefix hprefix),hrequests,
        serve_grow (hstable _ _ hprefix List.prefix_rfl)]
      rfl
    | request g =>
      have hitems : items (before++[.request g])=items before := by
        simp [items]
      have hrequests : requests (before++[.request g])=requests before++[g] := by
        simp [requests]
      rw [hitems] at hstable ⊢
      rw [ih hstable,hrequests,serve_append]
      rfl

end Dankong.OrderedJoin
