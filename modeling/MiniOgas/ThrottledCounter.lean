import Mathlib.Algebra.Order.Ring.Rat
import Mathlib.Algebra.Order.Floor.Ring
import Mathlib.Data.Rat.Floor
import Mathlib.Data.List.Pairwise
import Mathlib.Tactic.Linarith
import Mathlib.Tactic.Positivity

namespace Throttle

structure Counter where
  last : Nat
  passed : ℚ

/-- What a count has come to, and the share of its growth that is let through. -/
structure Reading where
  raw : Nat
  share : ℚ

def Reading.Fair (reading : Reading) : Prop := 0 ≤ reading.share ∧ reading.share ≤ 1

/-- The counter that a reading goes on from: a first one, and one below the last, starts anew. -/
def resumed (counter : Option Counter) (raw : Nat) : Counter :=
  match counter with
  | some old => if raw < old.last then ⟨raw, raw⟩ else old
  | none => ⟨raw, raw⟩

def after (counter : Option Counter) (reading : Reading) : Counter :=
  let old := resumed counter reading.raw
  ⟨reading.raw, old.passed + (reading.raw - old.last) * reading.share⟩

def trace : Option Counter → List Reading → List Counter
  | _, [] => []
  | counter, reading :: rest =>
    after counter reading :: trace (some (after counter reading)) rest

structure Counter.Sound (counter : Counter) : Prop where
  nonneg : 0 ≤ counter.passed
  bounded : counter.passed ≤ counter.last

/-- A counter moves on without letting through more than its count has grown. -/
structure Counter.Advances (old new : Counter) : Prop where
  count : old.last ≤ new.last
  passed : old.passed ≤ new.passed
  growth : new.passed - old.passed ≤ new.last - old.last

variable {counter : Option Counter} {old new other : Counter} {reading : Reading}
  {readings : List Reading} {raw : Nat}

theorem resumed_last_le (counter : Option Counter) (raw : Nat) :
    (resumed counter raw).last ≤ raw := by
  cases counter with
  | none => exact le_rfl
  | some old =>
    unfold resumed
    dsimp only
    split
    next => exact le_rfl
    next high => exact Nat.le_of_not_lt high

theorem resumed_of_le (grows : old.last ≤ raw) : resumed (some old) raw = old := by
  unfold resumed
  dsimp only
  rw [if_neg (by omega)]

theorem resumed_sound (sound : ∀ old ∈ counter, old.Sound) : (resumed counter raw).Sound := by
  have fresh : (⟨raw, raw⟩ : Counter).Sound := ⟨Nat.cast_nonneg raw, le_rfl⟩
  cases counter with
  | none => exact fresh
  | some old =>
    unfold resumed
    dsimp only
    split
    next => exact fresh
    next => exact sound old rfl

theorem resumed_advances (fair : reading.Fair) :
    (resumed counter reading.raw).Advances (after counter reading) := by
  obtain ⟨low, high⟩ := fair
  have count := resumed_last_le counter reading.raw
  have growth : (0 : ℚ) ≤ reading.raw - (resumed counter reading.raw).last := by
    rw [sub_nonneg]
    exact_mod_cast count
  have passes : (0 : ℚ) ≤ (reading.raw - (resumed counter reading.raw).last) * reading.share :=
    mul_nonneg growth low
  have most : (reading.raw - (resumed counter reading.raw).last) * reading.share ≤
      (reading.raw : ℚ) - (resumed counter reading.raw).last :=
    mul_le_of_le_one_right growth high
  unfold after
  refine ⟨count, by linarith, by linarith⟩

theorem after_sound (sound : ∀ old ∈ counter, old.Sound) (fair : reading.Fair) :
    (after counter reading).Sound := by
  have before := @resumed_sound counter reading.raw sound
  have moves := @resumed_advances counter reading fair
  exact ⟨before.nonneg.trans moves.passed, by linarith [before.bounded, moves.growth]⟩

theorem Counter.Advances.trans (first : old.Advances new) (second : new.Advances other) :
    old.Advances other :=
  ⟨first.count.trans second.count, first.passed.trans second.passed,
    by linarith [first.growth, second.growth]⟩

theorem Counter.Advances.floor (advances : old.Advances new) :
    ⌊old.passed⌋ ≤ ⌊new.passed⌋ ∧
      ⌊new.passed⌋ - ⌊old.passed⌋ ≤ (new.last : Int) - old.last := by
  refine ⟨Int.floor_mono advances.passed, ?_⟩
  have count : (new.passed : ℚ) - ((new.last : Int) - old.last : Int) ≤ old.passed := by
    push_cast
    linarith [advances.growth]
  have floors := Int.floor_mono count
  rw [Int.floor_sub_intCast] at floors
  omega

theorem Counter.Sound.floor (sound : old.Sound) : 0 ≤ ⌊old.passed⌋ ∧ ⌊old.passed⌋ ≤ old.last := by
  refine ⟨Int.floor_nonneg.mpr sound.nonneg, ?_⟩
  have floors := Int.floor_mono sound.bounded
  rwa [Int.floor_natCast] at floors

theorem trace_sound (fair : ∀ reading ∈ readings, reading.Fair)
    (sound : ∀ old ∈ counter, old.Sound) : ∀ new ∈ trace counter readings, new.Sound := by
  induction readings generalizing counter with
  | nil =>
    nofun
  | cons reading readings ih =>
    have next := after_sound sound (fair reading (.head _))
    intro new member
    rcases List.mem_cons.mp member with rfl | later
    · exact next
    · refine ih (fun reading member => fair reading (.tail _ member)) ?_ new later
      intro old same
      cases same
      exact next

theorem trace_advances (fair : ∀ reading ∈ readings, reading.Fair)
    (grows : (readings.map (·.raw)).Pairwise (· ≤ ·)) :
    (∀ old ∈ counter, (∀ reading ∈ readings, old.last ≤ reading.raw) →
      ∀ new ∈ trace counter readings, old.Advances new) ∧
    (trace counter readings).Pairwise Counter.Advances := by
  induction readings generalizing counter with
  | nil =>
    refine ⟨?_, .nil⟩
    nofun
  | cons reading readings ih =>
    rw [List.map_cons, List.pairwise_cons] at grows
    obtain ⟨least, grows⟩ := grows
    obtain ⟨onward, rest⟩ := @ih (some (after counter reading))
      (fun reading member => fair reading (.tail _ member)) grows
    have moves := @resumed_advances counter reading (fair reading (.head _))
    have later : ∀ new ∈ trace (some (after counter reading)) readings,
        (after counter reading).Advances new := by
      refine onward _ rfl fun next member => ?_
      exact least _ (List.mem_map_of_mem member)
    refine ⟨?_, List.pairwise_cons.mpr ⟨later, rest⟩⟩
    rintro old rfl below new member
    rw [resumed_of_le (below reading (.head _))] at moves
    rcases List.mem_cons.mp member with rfl | member
    · exact moves
    · exact moves.trans (later new member)

def Unthrottled : Option Nat → List Reading → Prop
  | _, [] => True
  | last, reading :: rest =>
    (∀ n ∈ last, n < reading.raw → reading.share = 1) ∧ Unthrottled (some reading.raw) rest

theorem unthrottled_of_one {last : Option Nat} (one : ∀ reading ∈ readings, reading.share = 1) :
    Unthrottled last readings := by
  induction readings generalizing last with
  | nil => trivial
  | cons reading readings ih =>
    exact ⟨fun _ _ _ => one reading (.head _), ih fun next member => one next (.tail _ member)⟩

theorem after_whole (whole : ∀ old ∈ counter, old.passed = old.last) (fair : reading.Fair) :
    ⌊(after counter reading).passed⌋ = reading.raw ↔
      ∀ n ∈ counter.map (·.last), n < reading.raw → reading.share = 1 := by
  have fresh : ⌊((reading.raw : ℚ) + (reading.raw - reading.raw) * reading.share)⌋ =
      reading.raw := by
    rw [sub_self, zero_mul, add_zero, Int.floor_natCast]
  cases counter with
  | none =>
    refine iff_of_true fresh ?_
    rintro n ⟨⟩
  | some old =>
    rw [Option.map_some]
    unfold after resumed
    dsimp only
    split
    next below =>
      refine iff_of_true fresh ?_
      intro n same above
      cases same
      omega
    next above =>
    rw [whole old rfl]
    constructor
    · intro same n known grows
      cases known
      have growth : (0 : ℚ) < reading.raw - old.last := by
        rw [sub_pos]
        exact_mod_cast grows
      have reached := (Int.floor_eq_iff.mp same).1
      push_cast at reached
      by_contra part
      have less : reading.share < 1 := lt_of_le_of_ne fair.2 part
      have loses := mul_lt_of_lt_one_right growth less
      linarith
    · intro one
      rcases Nat.lt_or_ge old.last reading.raw with grows | stays
      · rw [one _ rfl grows, mul_one, add_sub_cancel, Int.floor_natCast]
      · have same : old.last = reading.raw := le_antisymm (Nat.le_of_not_lt above) stays
        rw [same, sub_self, zero_mul, add_zero, Int.floor_natCast]

theorem passed_eq_of_floor (sound : new.Sound) (whole : ⌊new.passed⌋ = new.last) :
    new.passed = new.last := by
  have reached := (Int.floor_eq_iff.mp whole).1
  exact le_antisymm sound.bounded (by exact_mod_cast reached)

/-- The parts let through are the counts themselves exactly when all growth is let through. -/
theorem trace_whole_iff (fair : ∀ reading ∈ readings, reading.Fair)
    (whole : ∀ old ∈ counter, old.passed = old.last) :
    (trace counter readings).map (⌊·.passed⌋) = readings.map (fun reading => (reading.raw : Int)) ↔
      Unthrottled (counter.map (·.last)) readings := by
  induction readings generalizing counter with
  | nil => exact iff_of_true rfl trivial
  | cons reading readings ih =>
    have fairly := fair reading (.head _)
    have here := after_whole whole fairly
    have sound : (after counter reading).Sound := by
      refine after_sound (fun old member => ⟨?_, (whole old member).le⟩) fairly
      rw [whole old member]
      exact Nat.cast_nonneg _
    unfold trace Unthrottled
    rw [List.map_cons, List.map_cons, List.cons.injEq, here]
    refine and_congr_right fun full => ?_
    refine ih (fun next member => fair next (.tail _ member)) ?_
    intro old member
    cases member
    exact passed_eq_of_floor sound (here.mpr full)

end Throttle
