import Mathlib

/-!
# Semaphores, tallies and gates

A semaphore hands out permits. A tally counts per key and forgets a key whose count
returns to zero. A gate lets a visitor in with a permit of its key and one of the
whole, and tallies who is inside; a visitor may be refused, or stopped, on its way in,
and gives back on its way out what it has taken. Each account of a balanced gate is the
sum of what its visitors hold, so nothing is lost and nothing is handed out twice.
-/

/-! ## Semaphores -/

structure Semaphore where
  permits : ℕ
  taken : ℤ
  taken_le : taken ≤ permits

namespace Semaphore

def make (permits : ℕ) : Semaphore := ⟨permits, 0, Int.natCast_nonneg permits⟩

def free (s : Semaphore) : ℤ := s.permits - s.taken

/-- One permit, if one is free. -/
def take (s : Semaphore) : Option Semaphore :=
  if h : 1 ≤ s.free then some ⟨s.permits, s.taken + 1, by unfold free at h; omega⟩ else none

def release (s : Semaphore) : Semaphore := ⟨s.permits, s.taken - 1, by have := s.taken_le; omega⟩

@[simp] theorem make_permits (permits : ℕ) : (make permits).permits = permits := rfl

@[simp] theorem make_taken (permits : ℕ) : (make permits).taken = 0 := rfl

@[simp] theorem release_permits (s : Semaphore) : s.release.permits = s.permits := rfl

@[simp] theorem release_taken (s : Semaphore) : s.release.taken = s.taken - 1 := rfl

theorem take_eq_some {s s' : Semaphore} (h : s.take = some s') : s'.permits = s.permits ∧ s'.taken = s.taken + 1 := by
  unfold take at h
  split at h
  · simp only [Option.some.injEq] at h
    subst h
    simp
  · simp at h

end Semaphore

/-! ## Tallies -/

section Entries

variable {κ : Type*} [DecidableEq κ]

/-- The sum of the values of an association list. -/
def tallied (m : AList fun _ : κ => ℤ) : ℤ := (m.entries.map (·.2)).sum

theorem tallied_erase (k : κ) (m : AList fun _ : κ => ℤ) : tallied (m.erase k) = tallied m - (m.lookup k).getD 0 := by
  obtain ⟨l, nodup⟩ := m
  change ((l.kerase k).map (·.2)).sum = (l.map (·.2)).sum - (l.dlookup k).getD 0
  clear nodup
  induction l with
  | nil => simp
  | cons entry l ih =>
    obtain ⟨k', n⟩ := entry
    by_cases same : k = k'
    · subst same
      simp
    · rw [List.kerase_cons_ne same, List.dlookup_cons_ne _ _ same]
      simp only [List.map_cons, List.sum_cons, ih]
      omega

theorem tallied_insert (k : κ) (n : ℤ) (m : AList fun _ : κ => ℤ) :
    tallied (m.insert k n) = tallied m - (m.lookup k).getD 0 + n := by
  have erased := tallied_erase k m
  unfold tallied at erased ⊢
  rw [AList.entries_insert, List.map_cons, List.sum_cons]
  change ((m.entries.kerase k).map (·.2)).sum = _ at erased
  rw [erased]
  exact Int.add_comm _ _

end Entries

/-- Counts by key, without zeros, and their total. -/
structure Tally (κ : Type*) [DecidableEq κ] where
  total : ℤ
  byKey : AList fun _ : κ => ℤ
  sum_eq : tallied byKey = total
  ne_zero : ∀ k n, byKey.lookup k = some n → n ≠ 0

namespace Tally

variable {κ : Type*} [DecidableEq κ]

def empty : Tally κ := ⟨0, ∅, by simp [tallied], by simp⟩

def count (t : Tally κ) (k : κ) : ℤ := (t.byKey.lookup k).getD 0

def adjust (t : Tally κ) (k : κ) (adjustment : ℤ) : Tally κ :=
  if h : t.count k + adjustment = 0 then
    { total := t.total + adjustment
      byKey := t.byKey.erase k
      sum_eq := by
        rw [tallied_erase, t.sum_eq]
        unfold count at h
        omega
      ne_zero := by
        intro k' n found
        by_cases same : k' = k
        · subst same
          simp [AList.lookup_erase] at found
        · exact t.ne_zero k' n (by simpa [same] using found) }
  else
    { total := t.total + adjustment
      byKey := t.byKey.insert k (t.count k + adjustment)
      sum_eq := by
        rw [tallied_insert, t.sum_eq]
        unfold count
        omega
      ne_zero := by
        intro k' n found
        by_cases same : k' = k
        · subst same
          simp only [AList.lookup_insert, Option.some.injEq] at found
          omega
        · exact t.ne_zero k' n (by simpa [same] using found) }

@[simp] theorem empty_total : (empty : Tally κ).total = 0 := rfl

@[simp] theorem empty_count (k : κ) : (empty : Tally κ).count k = 0 := by
  simp [empty, count]

@[simp] theorem adjust_total (t : Tally κ) (k : κ) (adjustment : ℤ) :
    (t.adjust k adjustment).total = t.total + adjustment := by
  unfold adjust
  split <;> rfl

theorem count_adjust (t : Tally κ) (k k' : κ) (adjustment : ℤ) :
    (t.adjust k adjustment).count k' = t.count k' + if k = k' then adjustment else 0 := by
  by_cases same : k = k'
  · subst same
    unfold adjust
    split
    · next zero => simp [count] at zero ⊢; omega
    · simp [count]
  · have other : k' ≠ k := fun h => same h.symm
    rw [if_neg same]
    unfold adjust
    split <;> simp [count, other]

/-- A key is listed with its count. -/
theorem count_of_lookup {t : Tally κ} {k : κ} {n : ℤ} (found : t.byKey.lookup k = some n) : t.count k = n := by
  simp [count, found]

/-- A tally without counts has no entries. -/
theorem byKey_eq_empty {t : Tally κ} (zero : ∀ k, t.count k = 0) : t.byKey = ∅ := by
  have unlisted : ∀ k, k ∉ t.byKey := by
    intro k
    rw [← AList.lookup_eq_none]
    cases found : t.byKey.lookup k with
    | none => rfl
    | some n => exact absurd ((count_of_lookup found).symm.trans (zero k)) (t.ne_zero k n found)
  have entries : t.byKey.entries = [] := by
    rw [List.eq_nil_iff_forall_not_mem]
    intro entry member
    exact unlisted entry.1 (List.mem_keys_of_mem member)
  exact AList.ext entries

end Tally

/-! ## Gates -/

namespace Gate

/-- How many permits a semaphore has. -/
structure Limits where
  whole : ℕ
  perKey : ℕ

inductive TaskExit where
  | succeeded
  | failed
  | interrupted
deriving DecidableEq

inductive Departure where
  | ended (exit : TaskExit)
  /-- No permit of the key was free. -/
  | refusedByKey
  /-- No permit of the whole was free. -/
  | refusedByWhole
deriving DecidableEq

/-- How far a visitor is. -/
inductive Stage where
  | arriving
  /-- It has the semaphore of its key. -/
  | found
  | keyPermit
  | bothPermits
  | inside
  /-- It is on its way out, with both permits. -/
  | leavingBoth (departure : Departure)
  | leavingKey (departure : Departure)
  | gone (departure : Departure)
deriving DecidableEq

inductive Move where
  | find
  | takeKey
  | takeWhole
  | enter
  | exit (exit : TaskExit)
  | releaseWhole
  | releaseKey
deriving DecidableEq

/-- An interruption on the way in; inside it ends the task first, and the way out is not interruptible. -/
def Stage.interrupt : Stage → Stage
  | .arriving | .found => .gone (.ended .interrupted)
  | .keyPermit => .leavingKey (.ended .interrupted)
  | .bothPermits => .leavingBoth (.ended .interrupted)
  | stage => stage

end Gate

structure Gate (κ : Type*) [DecidableEq κ] where
  whole : Semaphore
  byKey : AList fun _ : κ => Semaphore
  tally : Tally κ

namespace Gate

variable {κ : Type*} [DecidableEq κ]

def make (limits : Limits) : Gate κ := ⟨.make limits.whole, ∅, .empty⟩

section Moves

variable (limits : Limits) (g : Gate κ) (k : κ)

/-- The semaphore of a key is made when it is first asked for. -/
def find : Gate κ :=
  match g.byKey.lookup k with
  | some _ => g
  | none => { g with byKey := g.byKey.insert k (.make limits.perKey) }

def adjust (adjustment : ℤ) : Gate κ := { g with tally := g.tally.adjust k adjustment }

/-- A step of a visitor; one that does not wait for a permit is refused when none is free. -/
def move (waits : Bool) : Stage → Move → Option (Gate κ × Stage)
  | .arriving, .find => some (g.find limits k, .found)
  | .found, .takeKey =>
    (g.byKey.lookup k).bind fun semaphore =>
      match semaphore.take with
      | some taken => some ({ g with byKey := g.byKey.insert k taken }, .keyPermit)
      | none => if waits then none else some (g, .gone .refusedByKey)
  | .keyPermit, .takeWhole =>
    match g.whole.take with
    | some taken => some ({ g with whole := taken }, .bothPermits)
    | none => if waits then none else some (g, .leavingKey .refusedByWhole)
  | .bothPermits, .enter => some (g.adjust k 1, .inside)
  | .inside, .exit exit => some (g.adjust k (-1), .leavingBoth (.ended exit))
  | .leavingBoth departure, .releaseWhole => some ({ g with whole := g.whole.release }, .leavingKey departure)
  | .leavingKey departure, .releaseKey =>
    (g.byKey.lookup k).map fun semaphore =>
      ({ g with byKey := g.byKey.insert k semaphore.release }, .gone departure)
  | _, _ => none

end Moves

/-! ## The accounts of a gate -/

/-- What is taken of a semaphore, or counted. -/
inductive Account (κ : Type*) where
  | whole
  | key (k : κ)
  | total
  | count (k : κ)
deriving DecidableEq

def balance (g : Gate κ) : Account κ → ℤ
  | .whole => g.whole.taken
  | .key k => (g.byKey.lookup k).elim 0 (·.taken)
  | .total => g.tally.total
  | .count k => g.tally.count k

inductive Hold where
  | nothing
  | key
  | both
  | inside
deriving DecidableEq

def Stage.hold : Stage → Hold
  | .arriving | .found | .gone _ => .nothing
  | .keyPermit | .leavingKey _ => .key
  | .bothPermits | .leavingBoth _ => .both
  | .inside => .inside

@[simp] theorem Stage.hold_interrupt (stage : Stage) : stage.interrupt.hold = stage.hold := by
  cases stage <;> rfl

def Hold.share (key : κ) : Hold → Account κ → ℤ
  | .nothing, _ => 0
  | .key, .key k => if key = k then 1 else 0
  | .key, _ => 0
  | .both, .whole => 1
  | .both, .key k => if key = k then 1 else 0
  | .both, _ => 0
  | .inside, .whole | .inside, .total => 1
  | .inside, .key k | .inside, .count k => if key = k then 1 else 0

/-- A visitor's key, and what it holds. -/
structure Holding (κ : Type*) where
  key : κ
  hold : Hold
deriving DecidableEq

def Holding.share (holding : Holding κ) (account : Account κ) : ℤ := holding.hold.share holding.key account

/-- What several visitors hold together. -/
def shares (holdings : Multiset (Holding κ)) (account : Account κ) : ℤ := (holdings.map (·.share account)).sum

@[simp] theorem shares_zero (account : Account κ) : shares 0 account = 0 := by
  simp [shares]

@[simp] theorem shares_cons (holding : Holding κ) (holdings : Multiset (Holding κ)) (account : Account κ) :
    shares (holding ::ₘ holdings) account = holding.share account + shares holdings account := by
  simp [shares]

/-- The semaphores of a gate have their permits, and each account is what the visitors hold. -/
structure Balanced (limits : Limits) (g : Gate κ) (holdings : Multiset (Holding κ)) : Prop where
  whole_permits : g.whole.permits = limits.whole
  key_permits : ∀ k semaphore, g.byKey.lookup k = some semaphore → semaphore.permits = limits.perKey
  balance : ∀ account, g.balance account = shares holdings account

/-! ## What a move does -/

/-- The gate after a move: the same permits, and accounts that differ as the visitor's holding does. -/
structure Moved (limits : Limits) (g g' : Gate κ) (k : κ) (hold hold' : Hold) : Prop where
  whole_permits : g'.whole.permits = g.whole.permits
  key_permits : ∀ k' semaphore, g'.byKey.lookup k' = some semaphore →
    semaphore.permits = limits.perKey ∨ ∃ before, g.byKey.lookup k' = some before ∧ semaphore.permits = before.permits
  balance : ∀ account, g'.balance account - g.balance account = hold'.share k account - hold.share k account

namespace Moved

variable {limits : Limits} {g : Gate κ} {k : κ} {hold hold' : Hold}

theorem refl (g : Gate κ) (hold : Hold) : Moved limits g g k hold hold where
  whole_permits := rfl
  key_permits := fun _ semaphore found => .inr ⟨semaphore, found, rfl⟩
  balance := by simp

/-- A key's semaphore is put in place of one with as many permits. -/
theorem setKey {semaphore : Semaphore} (permits : semaphore.permits = limits.perKey ∨
      ∃ before, g.byKey.lookup k = some before ∧ semaphore.permits = before.permits)
    (taken : ∀ account, (if account = .key k then semaphore.taken - g.balance (.key k) else 0) =
      hold'.share k account - hold.share k account) :
    Moved limits g { g with byKey := g.byKey.insert k semaphore } k hold hold' where
  whole_permits := rfl
  key_permits := by
    intro k' semaphore' found
    by_cases same : k' = k
    · subst same
      simp only [AList.lookup_insert, Option.some.injEq] at found
      subst found
      exact permits
    · rw [AList.lookup_insert_ne same] at found
      exact .inr ⟨semaphore', found, rfl⟩
  balance := by
    intro account
    rw [← taken]
    cases account with
    | key k' =>
      by_cases same : k' = k
      · subst same
        simp [Gate.balance]
      · simp [Gate.balance, same, AList.lookup_insert_ne same]
    | whole | total | count k' => simp [Gate.balance]

theorem setWhole {semaphore : Semaphore} (permits : semaphore.permits = g.whole.permits)
    (taken : ∀ account, (if account = .whole then semaphore.taken - g.whole.taken else 0) =
      hold'.share k account - hold.share k account) :
    Moved limits g { g with whole := semaphore } k hold hold' where
  whole_permits := permits
  key_permits := fun _ semaphore' found => .inr ⟨semaphore', found, rfl⟩
  balance := by
    intro account
    rw [← taken]
    cases account <;> simp [Gate.balance]

theorem adjust {adjustment : ℤ}
    (counted : ∀ account, (match account with
        | .total => adjustment
        | .count k' => if k = k' then adjustment else 0
        | _ => 0) = hold'.share k account - hold.share k account) :
    Moved limits g (g.adjust k adjustment) k hold hold' where
  whole_permits := rfl
  key_permits := fun _ semaphore found => .inr ⟨semaphore, found, rfl⟩
  balance := by
    intro account
    rw [← counted]
    cases account <;> simp [Gate.balance, Gate.adjust, Tally.count_adjust]

end Moved

section Moves

variable {limits : Limits} {g g' : Gate κ} {k : κ}

theorem find_moved (limits : Limits) (g : Gate κ) (k : κ) : Moved limits g (g.find limits k) k .nothing .nothing := by
  unfold find
  split
  · exact Moved.refl g .nothing
  · next missing =>
    apply Moved.setKey (.inl rfl)
    intro account
    simp [Gate.balance, missing]

theorem move_moved {waits : Bool} {stage stage' : Stage} {m : Move}
    (moves : g.move limits k waits stage m = some (g', stage')) : Moved limits g g' k stage.hold stage'.hold := by
  unfold move at moves
  split at moves
  · -- `find`
    simp only [Option.some.injEq, Prod.mk.injEq] at moves
    obtain ⟨rfl, rfl⟩ := moves
    exact find_moved limits g k
  · -- `takeKey`
    obtain ⟨semaphore, found, moves⟩ := Option.bind_eq_some_iff.1 moves
    split at moves
    · next taken take =>
      obtain ⟨permits, one⟩ := Semaphore.take_eq_some take
      simp only [Option.some.injEq, Prod.mk.injEq] at moves
      obtain ⟨rfl, rfl⟩ := moves
      apply Moved.setKey (.inr ⟨semaphore, found, permits⟩)
      intro account
      cases account <;> simp [Stage.hold, Hold.share, Gate.balance, found, one, eq_comm]
    · split at moves
      · simp at moves
      · simp only [Option.some.injEq, Prod.mk.injEq] at moves
        obtain ⟨rfl, rfl⟩ := moves
        exact Moved.refl g .nothing
  · -- `takeWhole`
    split at moves
    · next taken take =>
      obtain ⟨permits, one⟩ := Semaphore.take_eq_some take
      simp only [Option.some.injEq, Prod.mk.injEq] at moves
      obtain ⟨rfl, rfl⟩ := moves
      apply Moved.setWhole permits
      intro account
      cases account <;> simp [Stage.hold, Hold.share, one]
    · split at moves
      · simp at moves
      · simp only [Option.some.injEq, Prod.mk.injEq] at moves
        obtain ⟨rfl, rfl⟩ := moves
        exact Moved.refl g .key
  · -- `enter`
    simp only [Option.some.injEq, Prod.mk.injEq] at moves
    obtain ⟨rfl, rfl⟩ := moves
    apply Moved.adjust
    intro account
    cases account <;> simp [Stage.hold, Hold.share]
  · -- `exit`
    simp only [Option.some.injEq, Prod.mk.injEq] at moves
    obtain ⟨rfl, rfl⟩ := moves
    apply Moved.adjust
    intro account
    cases account <;> simp [Stage.hold, Hold.share]
    split <;> simp
  · -- `releaseWhole`
    simp only [Option.some.injEq, Prod.mk.injEq] at moves
    obtain ⟨rfl, rfl⟩ := moves
    apply Moved.setWhole g.whole.release_permits
    intro account
    cases account <;> simp [Stage.hold, Hold.share]
  · -- `releaseKey`
    obtain ⟨semaphore, found, moves⟩ := Option.map_eq_some_iff.1 moves
    simp only [Prod.mk.injEq] at moves
    obtain ⟨rfl, rfl⟩ := moves
    apply Moved.setKey (.inr ⟨semaphore, found, semaphore.release_permits⟩)
    intro account
    cases account <;> simp [Stage.hold, Hold.share, Gate.balance, found, eq_comm]
    split <;> simp
  · simp at moves

end Moves

/-! ## Balanced gates -/

namespace Balanced

variable {limits : Limits} {g g' : Gate κ} {holdings : Multiset (Holding κ)}

theorem make (limits : Limits) : Balanced limits (make limits : Gate κ) 0 where
  whole_permits := rfl
  key_permits := by simp [Gate.make]
  balance := by
    intro account
    cases account <;> simp [Gate.make, Gate.balance]

/-- **The accounts stay balanced**: one visitor moves. -/
theorem moved {k : κ} {hold hold' : Hold} (balanced : Balanced limits g (⟨k, hold⟩ ::ₘ holdings))
    (moved : Moved limits g g' k hold hold') : Balanced limits g' (⟨k, hold'⟩ ::ₘ holdings) where
  whole_permits := moved.whole_permits.trans balanced.whole_permits
  key_permits := by
    intro k' semaphore found
    obtain permits | ⟨before, found', permits⟩ := moved.key_permits k' semaphore found
    · exact permits
    · rw [permits]
      exact balanced.key_permits k' before found'
  balance := by
    intro account
    have change := moved.balance account
    have before := balanced.balance account
    rw [shares_cons] at before ⊢
    simp only [Holding.share] at before ⊢
    omega

/-- A visitor that holds nothing comes or goes unnoticed. -/
theorem cons_nothing {k : κ} : Balanced limits g (⟨k, .nothing⟩ ::ₘ holdings) ↔ Balanced limits g holdings := by
  have same : ∀ account, shares (⟨k, .nothing⟩ ::ₘ holdings) account = shares holdings account := by
    simp [Holding.share, Hold.share]
  constructor
  · intro balanced
    exact ⟨balanced.whole_permits, balanced.key_permits, fun account => (balanced.balance account).trans (same account)⟩
  · intro balanced
    exact ⟨balanced.whole_permits, balanced.key_permits,
      fun account => (balanced.balance account).trans (same account).symm⟩

end Balanced

/-! ## What follows -/

theorem Hold.share_nonneg (hold : Hold) (k : κ) (account : Account κ) : 0 ≤ hold.share k account := by
  unfold Hold.share
  split
  all_goals omega

/-- Whoever is counted holds both permits. -/
theorem Hold.share_counted (hold : Hold) (key k : κ) :
    hold.share key .total ≤ hold.share key .whole ∧ hold.share key (.count k) ≤ hold.share key (.key k) := by
  cases hold <;> simp only [Hold.share] <;> omega

theorem shares_nonneg (holdings : Multiset (Holding κ)) (account : Account κ) : 0 ≤ shares holdings account := by
  induction holdings using Multiset.induction_on with
  | empty => simp
  | cons holding holdings ih =>
    have own := holding.hold.share_nonneg holding.key account
    rw [shares_cons]
    unfold Holding.share
    omega

theorem shares_counted (holdings : Multiset (Holding κ)) (k : κ) :
    shares holdings .total ≤ shares holdings .whole ∧ shares holdings (.count k) ≤ shares holdings (.key k) := by
  induction holdings using Multiset.induction_on with
  | empty => simp
  | cons holding holdings ih =>
    have own := holding.hold.share_counted holding.key k
    simp only [shares_cons, Holding.share]
    omega

/-- The counts sum up, each is positive and within its limit, and so is the total. -/
structure Bounded (limits : Limits) (t : Tally κ) : Prop where
  sum : tallied t.byKey = t.total
  positive : ∀ k n, t.byKey.lookup k = some n → 0 < n
  perKey : ∀ k n, t.byKey.lookup k = some n → n ≤ limits.perKey
  whole : t.total ≤ limits.whole

/-- No count, and every permit is back. -/
structure Restored (limits : Limits) (g : Gate κ) : Prop where
  total : g.tally.total = 0
  byKey : g.tally.byKey = ∅
  whole : g.whole.free = limits.whole
  perKey : ∀ k semaphore, g.byKey.lookup k = some semaphore → semaphore.free = limits.perKey

namespace Balanced

variable {limits : Limits} {g : Gate κ} {holdings : Multiset (Holding κ)}

theorem bounded (balanced : Balanced limits g holdings) : Bounded limits g.tally where
  sum := g.tally.sum_eq
  positive := by
    intro k n found
    have count : n = shares holdings (.count k) := by
      rw [← balanced.balance, ← Tally.count_of_lookup found]
      rfl
    have counted := shares_nonneg holdings (.count k)
    have nonzero := g.tally.ne_zero k n found
    omega
  perKey := by
    intro k n found
    have count : n = shares holdings (.count k) := by
      rw [← balanced.balance, ← Tally.count_of_lookup found]
      rfl
    have held := (shares_counted holdings k).2
    have taken := balanced.balance (.key k)
    cases lookup : g.byKey.lookup k with
    | none =>
      simp only [Gate.balance, lookup, Option.elim_none] at taken
      omega
    | some semaphore =>
      have within := semaphore.taken_le
      rw [balanced.key_permits k semaphore lookup] at within
      simp only [Gate.balance, lookup, Option.elim_some] at taken
      omega
  whole := by
    have total : g.tally.total = shares holdings .total := balanced.balance .total
    have taken : g.whole.taken = shares holdings .whole := balanced.balance .whole
    have within := g.whole.taken_le
    rw [balanced.whole_permits] at within
    by_cases nobody : holdings = 0
    · subst nobody
      simp only [shares_zero] at total
      omega
    · obtain ⟨holding, -⟩ := Multiset.exists_mem_of_ne_zero nobody
      have held := (shares_counted holdings holding.key).1
      omega

/-- **Nothing is lost**: when no visitor holds anything, no count is left and every permit is back. -/
theorem restored (balanced : Balanced limits g holdings) (idle : ∀ holding ∈ holdings, holding.hold = .nothing) :
    Restored limits g := by
  have nothing : ∀ account, g.balance account = 0 := by
    intro account
    rw [balanced.balance, shares, Multiset.sum_eq_zero]
    intro share member
    obtain ⟨holding, present, rfl⟩ := Multiset.mem_map.1 member
    rw [Holding.share, idle holding present, Hold.share]
  refine ⟨nothing .total, Tally.byKey_eq_empty fun k => nothing (.count k), ?_, ?_⟩
  · have taken : g.whole.taken = 0 := nothing .whole
    rw [Semaphore.free, taken, balanced.whole_permits, Int.sub_zero]
  · intro k semaphore found
    have taken := nothing (.key k)
    simp only [Gate.balance, found, Option.elim_some] at taken
    rw [Semaphore.free, taken, balanced.key_permits k semaphore found, Int.sub_zero]

end Balanced

/-! ## Gates and lists of fibers -/

/-- What the fibers of a list hold. -/
def holdings {α : Type*} (f : α → Holding κ) (l : List α) : Multiset (Holding κ) := ↑(l.map f)

omit [DecidableEq κ] in
/-- One fiber among the others, before and after it changes. -/
theorem holdings_set {α : Type*} {f : α → Holding κ} {l : List α} {i : ℕ} {a : α} (here : l[i]? = some a) (b : α) :
    ∃ others, holdings f l = f a ::ₘ others ∧ holdings f (l.set i b) = f b ::ₘ others := by
  obtain ⟨bound, rfl⟩ := List.getElem?_eq_some_iff.1 here
  refine ⟨holdings f (l.eraseIdx i), ?_, ?_⟩
  · exact Multiset.coe_eq_coe.2 ((List.getElem_cons_eraseIdx_perm bound).symm.map f)
  · exact Multiset.coe_eq_coe.2 ((List.set_perm_cons_eraseIdx bound b).map f)

section Fibers

variable {α : Type*} {f : α → Holding κ} {l : List α} {i : ℕ} {a b : α} {limits : Limits} {g g' : Gate κ}

theorem Balanced.set (balanced : Balanced limits g (holdings f l)) (here : l[i]? = some a) (key : (f b).key = (f a).key)
    (moved : Moved limits g g' (f a).key (f a).hold (f b).hold) : Balanced limits g' (holdings f (l.set i b)) := by
  obtain ⟨others, before, after⟩ := holdings_set (f := f) here b
  rw [before] at balanced
  have next := balanced.moved moved
  rw [← key] at next
  rw [after]
  exact next

/-- A fiber that holds nothing starts. -/
theorem Balanced.append (balanced : Balanced limits g (holdings f l)) (nothing : (f a).hold = .nothing) :
    Balanced limits g (holdings f (l ++ [a])) := by
  have reordered : holdings f (l ++ [a]) = ⟨(f a).key, .nothing⟩ ::ₘ holdings f l := by
    rw [← nothing]
    exact Multiset.coe_eq_coe.2 ((List.perm_append_singleton a l).map f)
  rw [reordered]
  exact Balanced.cons_nothing.2 balanced

theorem Balanced.restored_of_fibers (balanced : Balanced limits g (holdings f l))
    (idle : ∀ a ∈ l, (f a).hold = .nothing) : Restored limits g := by
  apply balanced.restored
  intro holding member
  obtain ⟨a, present, rfl⟩ := List.mem_map.1 (Multiset.mem_coe.1 member)
  exact idle a present

end Fibers

end Gate
