import Mathlib.Data.List.Nodup

/-!
# Bounded sweeps

A sweep runs one task for each of its items. It starts them in their order, never has more
than `limit` of them running, and is over when all of them have ended.
-/

namespace Relay

/-- The items below `started` have been started, and those in `running` have not ended. -/
structure Sweep (limit : ℕ) where
  size : ℕ
  started : ℕ
  running : List ℕ
  started_le : started ≤ size
  running_le : running.length ≤ limit
  running_lt : ∀ i ∈ running, i < started
  nodup : running.Nodup
deriving DecidableEq

namespace Sweep

variable {limit : ℕ} (w : Sweep limit)

def make (limit size : ℕ) : Sweep limit where
  size
  started := 0
  running := []
  started_le := Nat.zero_le size
  running_le := Nat.zero_le limit
  running_lt := by simp
  nodup := .nil

/-- The next item is started. -/
def start : Option (Sweep limit) :=
  if h : w.started < w.size ∧ w.running.length < limit then
    some {
      size := w.size
      started := w.started + 1
      running := w.running ++ [w.started]
      started_le := h.1
      running_le := by
        rw [List.length_append]
        exact h.2
      running_lt := by
        intro i member
        obtain before | last := List.mem_append.1 member
        · exact Nat.lt_succ_of_lt (w.running_lt i before)
        · rw [List.mem_singleton.1 last]
          exact Nat.lt_succ_self w.started
      nodup := by
        refine List.nodup_append.2 ⟨w.nodup, List.nodup_singleton w.started, ?_⟩
        intro i before j last
        rw [List.mem_singleton.1 last]
        exact Nat.ne_of_lt (w.running_lt i before) }
  else none

/-- The task of item `i` has ended. -/
def finish (i : ℕ) : Option (Sweep limit) :=
  if i ∈ w.running then
    some {
      size := w.size
      started := w.started
      running := w.running.erase i
      started_le := w.started_le
      running_le := Nat.le_trans List.length_erase_le w.running_le
      running_lt := fun j member => w.running_lt j (List.mem_of_mem_erase member)
      nodup := w.nodup.erase i }
  else none

def Ended (i : ℕ) : Prop := i < w.started ∧ i ∉ w.running

def isDone : Bool := w.started = w.size && w.running.isEmpty

/-- What a sweep has left to do. -/
def left : ℕ := 2 * (w.size - w.started) + w.running.length

variable {w} {w' : Sweep limit} {i j : ℕ}

theorem start_eq_some (h : w.start = some w') : w.started < w.size ∧ w'.size = w.size ∧ w'.started = w.started + 1 ∧
    w'.running = w.running ++ [w.started] := by
  unfold start at h
  split at h
  · next room =>
    rw [← Option.some.inj h]
    exact ⟨room.1, rfl, rfl, rfl⟩
  · cases h

theorem finish_eq_some (h : w.finish i = some w') : i ∈ w.running ∧ w'.size = w.size ∧ w'.started = w.started ∧
    w'.running = w.running.erase i := by
  unfold finish at h
  split at h
  · next member =>
    rw [← Option.some.inj h]
    exact ⟨member, rfl, rfl, rfl⟩
  · cases h

/-- An item that is started neither has ended nor had. -/
theorem ended_start (h : w.start = some w') : w'.Ended i ↔ w.Ended i := by
  obtain ⟨-, -, started, running⟩ := start_eq_some h
  rw [Ended, Ended, started, running, List.mem_append, List.mem_singleton]
  constructor
  · rintro ⟨below, apart⟩
    have := not_or.1 apart
    exact ⟨by omega, this.1⟩
  · rintro ⟨below, apart⟩
    refine ⟨by omega, ?_⟩
    rintro (member | rfl)
    · exact apart member
    · omega

theorem ended_finish (h : w.finish i = some w') : w'.Ended j ↔ w.Ended j ∨ j = i := by
  obtain ⟨member, -, started, running⟩ := finish_eq_some h
  rw [Ended, Ended, started, running, w.nodup.mem_erase_iff]
  constructor
  · rintro ⟨below, apart⟩
    by_cases same : j = i
    · exact .inr same
    · exact .inl ⟨below, fun member => apart ⟨same, member⟩⟩
  · rintro (⟨below, apart⟩ | rfl)
    · exact ⟨below, fun member => apart member.2⟩
    · exact ⟨w.running_lt j member, fun again => again.1 rfl⟩

/-- Once a sweep is over, each of its items has ended. -/
theorem ended_of_isDone (done : w.isDone = true) (inside : i < w.size) : w.Ended i := by
  simp only [isDone, Bool.and_eq_true, decide_eq_true_eq, List.isEmpty_iff] at done
  refine ⟨by omega, ?_⟩
  rw [done.2]
  exact List.not_mem_nil

/-- A sweep that is not over and runs nothing can start its next item. -/
theorem start_isSome (positive : 0 < limit) (idle : w.running = []) (more : w.isDone = false) : w.start.isSome = true := by
  have unfinished : w.started ≠ w.size := by
    simpa [isDone, idle] using more
  have room : w.started < w.size ∧ w.running.length < limit := by
    refine ⟨Nat.lt_of_le_of_ne w.started_le unfinished, ?_⟩
    rw [idle]
    exact positive
  rw [start, dif_pos room]
  rfl

theorem finish_isSome (member : i ∈ w.running) : (w.finish i).isSome = true := by
  rw [finish, if_pos member]
  rfl

theorem left_start (h : w.start = some w') : w'.left < w.left := by
  obtain ⟨below, size, started, running⟩ := start_eq_some h
  rw [left, left, size, started, running, List.length_append, List.length_singleton]
  omega

theorem left_finish (h : w.finish i = some w') : w'.left < w.left := by
  obtain ⟨member, size, started, running⟩ := finish_eq_some h
  have length := List.length_erase_of_mem member
  have positive := List.length_pos_of_mem member
  rw [left, left, size, started, running, length]
  omega

end Sweep

end Relay
