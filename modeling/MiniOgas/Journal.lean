import Mathlib.Algebra.BigOperators.Group.List.Basic
import Mathlib.Tactic.Abel

namespace Journal

variable {K M : Type} [DecidableEq K] [AddCommGroup M]

/-- An entry moves a quantity out of its source and into its target. -/
structure Entry (K M : Type) where
  source : Option K
  target : Option K
  quantity : M

def posting (k : Option K) (delta : M) (j : K) : M := if k = some j then delta else 0

def Entry.inflow (entry : Entry K M) : K → M := posting entry.target entry.quantity

def Entry.outflow (entry : Entry K M) : K → M := posting entry.source entry.quantity

/-- What the entries brought into an account less what they took out of it. -/
def net (entries : List (Entry K M)) (k : K) : M :=
  (entries.map fun entry => entry.inflow k).sum - (entries.map fun entry => entry.outflow k).sum

/-- The balances are ahead of the entries by what is pending. -/
def Ahead (balance : K → M) (entries : List (Entry K M)) (pending : K → M) : Prop :=
  ∀ k, balance k = net entries k + pending k

variable {balance balance' : K → M} {entries : List (Entry K M)} {pending pending' : K → M}

@[simp] theorem posting_none (delta : M) (j : K) : posting none delta j = 0 := rfl

theorem posting_neg (k : Option K) (delta : M) (j : K) :
    posting k (-delta) j = -posting k delta j := by
  unfold posting
  split <;> simp

theorem net_concat (entries : List (Entry K M)) (entry : Entry K M) (k : K) :
    net (entries ++ [entry]) k = net entries k + (entry.inflow k - entry.outflow k) := by
  simp only [net, List.map_append, List.map_cons, List.map_nil, List.sum_append, List.sum_cons,
    List.sum_nil, add_zero]
  abel

theorem Ahead.post {k : Option K} {delta : M} (h : Ahead balance entries pending)
    (posted : ∀ j, balance' j = balance j + posting k delta j) :
    Ahead balance' entries fun j => pending j + posting k delta j := by
  intro j
  rw [posted j, h j, add_assoc]

theorem Ahead.record {entry : Entry K M} (h : Ahead balance entries pending)
    (owed : ∀ j, pending j = pending' j + (entry.inflow j - entry.outflow j)) :
    Ahead balance (entries ++ [entry]) pending' := by
  intro j
  rw [h j, net_concat, owed j]
  abel

end Journal
