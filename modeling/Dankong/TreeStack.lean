import Mathlib.Data.List.Basic
import Mathlib.Tactic.Common

/-!
# Walking a tree with a stack

A loop pops a node from a stack, visits it and pushes its children in their order.
It ends after as many steps as there are nodes, and it visits them in the reverse of
the order in which they are closed: a node comes after its children there, and the
children from first to last.
-/

namespace Dankong.TreeStack

/-- A labelled tree. -/
inductive OrderedTree (α : Type*)
  /-- A node and its children. -/
  | node (label : α) (children : List (OrderedTree α))

namespace OrderedTree

variable {α β : Type*}

/-- The label of the root. -/
def label : OrderedTree α → α
  | .node l _ => l

/-- The children of the root. -/
def children : OrderedTree α → List (OrderedTree α)
  | .node _ cs => cs

mutual

/-- The nodes of a tree in the order in which they are closed. -/
def closed : OrderedTree α → List (OrderedTree α)
  | .node l cs => closedAll cs++[.node l cs]

/-- The nodes of a list of trees in the order in which they are closed. -/
def closedAll : List (OrderedTree α) → List (OrderedTree α)
  | [] => []
  | t::rest => closed t++closedAll rest

end

theorem closedAll_eq (ts : List (OrderedTree α)) : closedAll ts=ts.flatMap closed := by
  induction ts with
  | nil => rfl
  | cons t rest ih => rw [closedAll,ih,List.flatMap_cons]

theorem closed_eq (t : OrderedTree α) : closed t=t.children.flatMap closed++[t] := by
  cases t with
  | node l cs => rw [closed,closedAll_eq,children]

/-- The number of nodes. -/
def size (ts : List (OrderedTree α)) : ℕ := (ts.flatMap closed).length

theorem size_pushed (t : OrderedTree α) (rest : List (OrderedTree α)) :
    size (t.children.reverse++rest)<size (t::rest) := by
  have hsum : (t.children.reverse.flatMap closed).length=
      (t.children.flatMap closed).length := by
    rw [List.length_flatMap,List.length_flatMap,List.map_reverse,List.sum_reverse]
  rw [size,size,List.flatMap_append,List.flatMap_cons,closed_eq]
  simp only [List.length_append,List.length_cons,List.length_nil]
  omega

/-- The loop; the top of the stack comes first. -/
def drain (visit : β → OrderedTree α → β) : List (OrderedTree α) → β → β
  | [],acc => acc
  | t::rest,acc => drain visit (t.children.reverse++rest) (visit acc t)
termination_by stack => size stack
decreasing_by exact size_pushed t rest

/-- The nodes are visited in the reverse of the order in which they are closed. -/
theorem drain_eq (visit : β → OrderedTree α → β) (stack : List (OrderedTree α)) (acc : β) :
    drain visit stack acc=
      (stack.reverse.flatMap closed).foldr (fun t acc => visit acc t) acc := by
  induction stack,acc using drain.induct visit with
  | case1 acc =>
    rw [drain]
    rfl
  | case2 t rest acc ih =>
    rw [drain,ih,List.reverse_append,List.reverse_reverse,List.reverse_cons,
      List.flatMap_append,List.flatMap_append,List.foldr_append,List.foldr_append]
    rw [List.flatMap_singleton,closed_eq,List.foldr_append]
    rfl

end OrderedTree

end Dankong.TreeStack
