import Mathlib.Data.List.Nodup
import Mathlib.Data.List.Perm.Basic

/-!
# Handles and their holders

A registry hands out numbered handles. Holders pass them on among themselves and
give them up, and a handle given up is removed from the registry. While every
removal comes from the holder, the registry and the holders agree on the handles
that are alive, and no handle is ever alive twice.
-/

namespace Dankong.HandleLedger

/-- The handles of a registry. -/
structure Ledger where
  /-- The handles registered, in the order of the registry. -/
  registered : List ℕ
  /-- The handles held, over all holders. -/
  held : List ℕ
  /-- The handles given up. -/
  spent : List ℕ
  /-- The next handle. -/
  next : ℕ

/-- Registry and holders agree. -/
structure Balanced (l : Ledger) : Prop where
  /-- Exactly the handles held are registered. -/
  matched : l.registered.Perm l.held
  /-- No handle is held twice. -/
  distinct : l.held.Nodup
  /-- Handles are numbered upwards. -/
  numbered : ∀ id∈l.held++l.spent,id<l.next
  /-- A handle given up is not held again. -/
  apart : ∀ id∈l.spent,id∉l.held

/-- One step: some handles are given up and removed, the rest is passed on in any
way, and at most one new handle is issued. -/
def Turnover (disposed issued : List ℕ) (before after : Ledger) : Prop :=
  ∃ kept,before.held.Perm (disposed++kept) ∧ after.held.Perm (issued++kept) ∧
    after.registered.Perm (issued++before.registered.diff disposed) ∧
    after.spent=disposed++before.spent ∧
    (issued=[] ∧ after.next=before.next ∨ issued=[before.next] ∧ after.next=before.next+1)

/-- Removing what stands in front leaves the rest. -/
theorem append_diff_left (first rest : List ℕ) : (first++rest).diff first=rest := by
  induction first with
  | nil => exact List.diff_nil rest
  | cons a first ih => rw [List.cons_append,List.diff_cons,List.erase_cons_head,ih]

variable {disposed issued : List ℕ} {before after : Ledger}

/-- A handle just issued has not been seen before. -/
theorem issued_fresh (h : Balanced before) (hstep : Turnover disposed issued before after)
    {id : ℕ} (hid : id∈issued) : id∉before.held++before.spent := by
  obtain ⟨_,_,_,_,_,hissued⟩ := hstep
  rcases hissued with ⟨rfl,_⟩|⟨rfl,_⟩
  · cases hid
  · obtain rfl := List.mem_singleton.mp hid
    intro hold
    have hbelow := h.numbered _ hold
    omega

/-- A step keeps registry and holders in agreement. -/
theorem Balanced.turnover (h : Balanced before)
    (hstep : Turnover disposed issued before after) : Balanced after := by
  have hfresh := fun id (hid : id∈issued) => issued_fresh h hstep hid
  obtain ⟨kept,hbefore,hafter,hregistered,hspent,hissued⟩ := hstep
  have hkept : (before.registered.diff disposed).Perm kept := by
    have hmatched := (h.matched.trans hbefore).diff_right disposed
    rwa [append_diff_left] at hmatched
  have hdistinct : (disposed++kept).Nodup := hbefore.nodup_iff.mp h.distinct
  obtain ⟨_,hkeptDistinct,hdisjoint⟩ := List.nodup_append'.mp hdistinct
  have hkeptHeld : ∀ id∈kept,id∈before.held := fun id hid =>
    hbefore.mem_iff.mpr (List.mem_append_right _ hid)
  have hgoneHeld : ∀ id∈disposed,id∈before.held := fun id hid =>
    hbefore.mem_iff.mpr (List.mem_append_left _ hid)
  have hissuedDistinct : issued.Nodup := by
    rcases hissued with ⟨rfl,_⟩|⟨rfl,_⟩
    · exact List.nodup_nil
    · exact List.nodup_singleton _
  have hnext : before.next≤after.next ∧ ∀ id∈issued,id<after.next := by
    rcases hissued with ⟨rfl,heq⟩|⟨rfl,heq⟩
    · exact ⟨by omega,fun _ hid => (nomatch hid)⟩
    · refine ⟨by omega,fun id hid => ?_⟩
      obtain rfl := List.mem_singleton.mp hid
      omega
  refine ⟨?_,?_,fun id hid => ?_,fun id hid hheld => ?_⟩
  · exact hregistered.trans ((hkept.append_left issued).trans hafter.symm)
  · refine hafter.nodup_iff.mpr (List.nodup_append'.mpr
      ⟨hissuedDistinct,hkeptDistinct,fun id hid hin => ?_⟩)
    exact hfresh id hid (List.mem_append_left _ (hkeptHeld id hin))
  · rw [hspent] at hid
    have hold : id∈issued ∨ id∈before.held++before.spent := by
      rcases List.mem_append.mp hid with hid|hid
      · rcases List.mem_append.mp (hafter.mem_iff.mp hid) with hid|hid
        · exact Or.inl hid
        · exact Or.inr (List.mem_append_left _ (hkeptHeld id hid))
      · rcases List.mem_append.mp hid with hid|hid
        · exact Or.inr (List.mem_append_left _ (hgoneHeld id hid))
        · exact Or.inr (List.mem_append_right _ hid)
    rcases hold with hid|hid
    · exact hnext.2 id hid
    · have hold := h.numbered id hid
      omega
  · rw [hspent] at hid
    rcases List.mem_append.mp (hafter.mem_iff.mp hheld) with hin|hin
    · refine hfresh id hin ?_
      rcases List.mem_append.mp hid with hid|hid
      · exact List.mem_append_left _ (hgoneHeld id hid)
      · exact List.mem_append_right _ hid
    · rcases List.mem_append.mp hid with hid|hid
      · exact hdisjoint hid hin
      · exact h.apart id hid (hkeptHeld id hin)

/-- A handle that its holder does not give up stays registered. -/
theorem Turnover.kept (h : Balanced before) (hstep : Turnover disposed issued before after)
    {id : ℕ} (hid : id∈before.held) (hkeep : id∉disposed) : id∈after.registered := by
  have hafter := h.turnover hstep
  obtain ⟨kept,hbefore,hheld,_⟩ := hstep
  have hin : id∈kept := (List.mem_append.mp (hbefore.mem_iff.mp hid)).resolve_left hkeep
  exact hafter.matched.mem_iff.mpr (hheld.mem_iff.mpr (List.mem_append_right _ hin))

/-- A handle given up is no longer registered. -/
theorem Turnover.gone (h : Balanced before) (hstep : Turnover disposed issued before after)
    {id : ℕ} (hid : id∈disposed) : id∉after.registered := by
  have hafter := h.turnover hstep
  obtain ⟨_,_,_,_,hspent,_⟩ := hstep
  have hin : id∈after.spent := by
    rw [hspent]
    exact List.mem_append_left _ hid
  exact fun hregistered => hafter.apart id hin (hafter.matched.mem_iff.mp hregistered)

/-- What is held after a step was held before or has just been issued. -/
theorem Turnover.held (hstep : Turnover disposed issued before after) {id : ℕ}
    (hid : id∈after.held) : id∈issued ∨ id∈before.held := by
  obtain ⟨kept,hbefore,hheld,_⟩ := hstep
  rcases List.mem_append.mp (hheld.mem_iff.mp hid) with hid|hid
  · exact Or.inl hid
  · exact Or.inr (hbefore.mem_iff.mpr (List.mem_append_right _ hid))

end Dankong.HandleLedger
