import Relay.Ledger.Attempts
import Relay.Worker.Protocol

/-!
# What the jobs owe the ledger

Each job counts on its own; the store counts in its rows. The invariant ties the
two through the generation of the job's claim: while that generation is the last
one issued nobody else records, so the job's next ordinal is the store's, and it
has sent what is recorded under its generation and at most one request more.
-/

namespace Relay

/-! ## What one job owes the ledger -/

/-- Where a job stands between two records. -/
inductive Progress where
  | idle (next : ℕ)
  | flying (ordinal : ℕ)
  | ended

/-- What a job's progress says of the requests it sent, those recorded under its generation and, while
that is the current one, the attempts of the delivery. -/
def Progress.Tied (sent recorded attempts : ℕ) (current : Prop) : Progress → Prop
  | .idle next => sent = recorded ∧ (current → next = attempts + 1)
  | .flying ordinal => sent = recorded + 1 ∧ (current → ordinal = attempts + 1)
  | .ended => sent ≤ recorded + 1

section Progress

variable {sent recorded attempts : ℕ} {current current' : Prop} {p : Progress}

theorem Progress.Tied.le (tied : p.Tied sent recorded attempts current) : sent ≤ recorded + 1 := by
  cases p with
  | idle next =>
    have same := tied.1
    omega
  | flying ordinal =>
    have same := tied.1
    omega
  | ended => exact tied

theorem Progress.Tied.weaken (tied : p.Tied sent recorded attempts current) (weaker : current' → current) :
    p.Tied sent recorded attempts current' := by
  cases p with
  | idle next => exact ⟨tied.1, fun c => tied.2 (weaker c)⟩
  | flying ordinal => exact ⟨tied.1, fun c => tied.2 (weaker c)⟩
  | ended => exact tied

end Progress

namespace Job

def progress (job : Job) : Progress :=
  match job.main, job.attempt with
  | .queued, .ready | .running, .ready => .idle job.nextOrdinal
  | .running, .sending ordinal => .flying ordinal
  | .running, .observed attempt => .flying attempt.ordinal
  | _, _ => .ended

structure Sane (job : Job) : Prop where
  queued : job.main = .queued → job.attempt = .ready
  counted : ∀ ordinal, job.progress = .flying ordinal → job.nextOrdinal = ordinal + 1

structure Tied (L : Ledger) (sent : List (DeliveryId × ClaimGeneration)) (job : Job) (e : Entry) : Prop where
  held : L job.deliveryId = some e
  issued : (job.claim.generation : ℕ) ≤ e.generation
  progress : job.progress.Tied (sent.count job.key) (e.recordedUnder job.claim.generation) e.attempts.length
    ((job.claim.generation : ℕ) = e.generation)

variable {job job' : Job}

theorem sane_of_ended (started : job.main ≠ .queued) (ended : job.progress = .ended) : job.Sane where
  queued := fun queued => absurd queued started
  counted := by
    intro ordinal flying
    rw [ended] at flying
    cases flying

section Records

variable {L L' : Ledger} {sent : List (DeliveryId × ClaimGeneration)} {e e' : Entry} {attempt : DeliveryAttemptRecord}

/-- The job whose attempt is recorded has one more recorded, of the requests it sent before. -/
theorem Tied.records (tied : job.Tied L sent e) (flying : job.progress = .flying attempt.ordinal)
    (generation : attempt.claimGeneration = job.claim.generation) (appends : e.Appends attempt e')
    (held : L' job.deliveryId = some e') (key : job'.key = job.key)
    (progress : job'.progress = .ended ∨ job'.progress = .idle (attempt.ordinal + 1))
    (next : (attempt.ordinal : ℕ) = e.attempts.length + 1) : job'.Tied L' sent e' := by
  have delivery' : job'.deliveryId = job.deliveryId := congrArg Prod.fst key
  have generation' : job'.claim.generation = job.claim.generation := congrArg Prod.snd key
  have owed := tied.progress
  rw [flying] at owed
  have requests := owed.1
  have recorded := appends.recordedUnder job.claim.generation
  rw [generation, if_pos rfl] at recorded
  refine ⟨?_, ?_, ?_⟩
  · rw [delivery']
    exact held
  · rw [generation', appends.generation]
    exact tied.issued
  · rw [key, generation', recorded, appends.attempts, List.length_append, List.length_singleton]
    rcases progress with ended | idle
    · rw [ended]
      exact requests.le.trans (Nat.le_succ _)
    · rw [idle]
      exact ⟨requests, fun _ => by omega⟩

/-- The holder of another claim of the delivery is no longer current: it keeps what it counted. -/
theorem Tied.stale (tied : job.Tied L sent e) (appends : e.Appends attempt e')
    (current : (attempt.claimGeneration : ℕ) = e.generation) (held : L' job.deliveryId = some e')
    (apart : attempt.claimGeneration ≠ job.claim.generation) : job.Tied L' sent e' := by
  have apart' : (attempt.claimGeneration : ℕ) ≠ job.claim.generation := fun equal => apart (PNat.eq equal)
  have recorded := appends.recordedUnder job.claim.generation
  rw [if_neg apart', Nat.add_zero] at recorded
  have stale : (job.claim.generation : ℕ) ≠ e'.generation := by
    rw [appends.generation, ← current]
    exact Ne.symm apart'
  refine ⟨held, ?_, ?_⟩
  · rw [appends.generation]
    exact tied.issued
  · have bound := tied.progress
    rw [recorded]
    cases stage : job.progress with
    | idle n =>
      rw [stage] at bound
      exact ⟨bound.1, fun current' => absurd current' stale⟩
    | flying n =>
      rw [stage] at bound
      exact ⟨bound.1, fun current' => absurd current' stale⟩
    | ended =>
      rw [stage] at bound
      exact bound

end Records

end Job

/-! ## What a reply hands out -/

section HandedOut

variable {nowMillis : ℕ} {L L' : Ledger} {call : StoreCall} {answer : Answer} {c : ClaimedDelivery}

/-- A claim that is handed out is the entry's current one, with the entry's next ordinal. -/
theorem Served.handsOut (served : Served nowMillis L call answer L') (member : c ∈ handedOut answer) :
    ∃ e, L' c.delivery.id = some e ∧ (c.claim.generation : ℕ) = e.generation ∧
      e.generation = counter (L c.delivery.id) + 1 ∧ c.nextAttemptOrdinal = e.nextOrdinal ∧
      e.attempts = ((L c.delivery.id).map (·.attempts)).getD [] := by
  cases served with
  | onEntry call id op about => simp [handedOut_eq_nil (onEntry_does about).issues] at member
  | regranted id claim lease expires odd =>
    simp [handedOut_eq_nil (renewClaim_does nowMillis id (L id) claim lease expires).issues] at member
  | claimPending ownerId destinationId limit lease expires claimed L' granted batch =>
    obtain ⟨e, held, -, -, claim, -, ordinal, -, after⟩ := batch.each c member
    refine ⟨_, after, ?_, ?_, ordinal, ?_⟩
    · rw [claim]
      rfl
    · rw [held]
      rfl
    · rw [held]
      rfl
  | accepted record delivery expires eligibleAt granted fresh created =>
    obtain rfl := List.mem_singleton.1 member
    rw [created]
    refine ⟨_, Function.update_self .., rfl, ?_, rfl, ?_⟩
    · show 1 = counter (L record.deliveryId) + 1
      rw [fresh]
      rfl
    · show [] = ((L record.deliveryId).map (·.attempts)).getD []
      rw [fresh]
      rfl
  | saved event delivery request expires granted fresh pending created =>
    obtain rfl := List.mem_singleton.1 member
    refine ⟨_, Function.update_self .., rfl, ?_, rfl, ?_⟩
    · show 1 = counter (L delivery.id) + 1
      rw [fresh]
      rfl
    · show [] = ((L delivery.id).map (·.attempts)).getD []
      rw [fresh]
      rfl
  | replayed | stranded | refused => cases member

theorem Served.handsOut_distinct (served : Served nowMillis L call answer L') :
    ((handedOut answer).map fun c => c.delivery.id).Nodup := by
  cases served with
  | onEntry call id op about => simp [handedOut_eq_nil (onEntry_does about).issues]
  | regranted id claim lease expires odd =>
    simp [handedOut_eq_nil (renewClaim_does nowMillis id (L id) claim lease expires).issues]
  | claimPending ownerId destinationId limit lease expires claimed L' granted batch => exact batch.distinct
  | accepted | saved => exact List.nodup_singleton _
  | replayed | stranded | refused => exact .nil

end HandedOut

/-! ## The invariant -/

structure Consistent (L : Ledger) (jobs : List Job) (sent : List (DeliveryId × ClaimGeneration)) : Prop where
  fenced : L.Fenced
  accounted : ∀ id e, L id = some e → e.Accounted
  sane : ∀ job ∈ jobs, job.Sane
  tied : ∀ job ∈ jobs, ∃ e, job.Tied L sent e
  sends : ∀ p ∈ sent, ∃ job ∈ jobs, job.key = p
  /-- Each claim has one job. -/
  distinct : (jobs.map Job.key).Nodup

section Jobs

variable {jobs : List Job} {i : ℕ} {job job' : Job}

theorem map_key_set (here : jobs[i]? = some job) (key : job'.key = job.key) :
    (jobs.set i job').map Job.key = jobs.map Job.key := by
  rw [List.map_set, key]
  refine List.ext_getElem? ?_
  intro k
  rw [List.getElem?_set]
  split
  · next same =>
    subst same
    rw [List.getElem?_map, here]
    split
    · rfl
    · next beyond =>
      rw [List.length_map] at beyond
      exact absurd (List.getElem?_eq_some_iff.1 here).1 beyond
  · rfl

/-- Jobs with the same claim are the same job. -/
theorem getElem?_key {k : ℕ} (distinct : (jobs.map Job.key).Nodup) (here : jobs[i]? = some job)
    (there : jobs[k]? = some job') (key : job'.key = job.key) : k = i := by
  have one : (jobs.map Job.key)[i]? = some job.key := by rw [List.getElem?_map, here]; rfl
  have two : (jobs.map Job.key)[k]? = some job.key := by rw [List.getElem?_map, there, ← key]; rfl
  have bound : i < (jobs.map Job.key).length := (List.getElem?_eq_some_iff.1 one).1
  exact ((List.getElem?_inj bound distinct).1 (one.trans two.symm)).symm

/-- The jobs after one of them moved. -/
theorem mem_setJob {other : Job} (member : other ∈ jobs.set i job') :
    other = job' ∨ ∃ k, k ≠ i ∧ jobs[k]? = some other := by
  obtain ⟨k, at_k⟩ := List.mem_iff_getElem?.1 member
  rw [List.getElem?_set] at at_k
  split at at_k
  · split at at_k
    · left
      exact (Option.some.inj at_k).symm
    · cases at_k
  · next away => exact .inr ⟨k, Ne.symm away, at_k⟩

end Jobs

namespace Consistent

variable {L L' : Ledger} {jobs : List Job} {sent : List (DeliveryId × ClaimGeneration)} {i : ℕ} {job job' : Job}
  {nowMillis : ℕ} {call : StoreCall} {answer : Answer}

/-- One job moves, with what it writes and sends; the other jobs still get what they are owed. -/
theorem replace (consistent : Consistent L jobs sent) (here : jobs[i]? = some job) (key : job'.key = job.key)
    (sane : job'.Sane) {sent' : List (DeliveryId × ClaimGeneration)} (fenced : L'.Fenced)
    (accounted : ∀ id e, L' id = some e → e.Accounted) (own : ∃ e, job'.Tied L' sent' e)
    (others : ∀ (other : Job) (e : Entry), other.Tied L sent e → other.key ≠ job.key → ∃ e', other.Tied L' sent' e')
    (sends : ∀ p ∈ sent', p ∈ sent ∨ p = job.key) : Consistent L' (jobs.set i job') sent' where
  fenced := fenced
  accounted := accounted
  sane := by
    intro other member
    obtain rfl | ⟨k, -, there⟩ := mem_setJob member
    · exact sane
    · exact consistent.sane other (List.mem_of_getElem? there)
  tied := by
    intro other member
    obtain rfl | ⟨k, away, there⟩ := mem_setJob member
    · exact own
    · obtain ⟨e, tied⟩ := consistent.tied other (List.mem_of_getElem? there)
      refine others other e tied ?_
      intro same
      exact away (getElem?_key consistent.distinct here there same)
  sends := by
    intro p member
    have sender : ∃ other ∈ jobs, other.key = p := by
      rcases sends p member with before | rfl
      · exact consistent.sends p before
      · exact ⟨job, List.mem_of_getElem? here, rfl⟩
    obtain ⟨other, among, same⟩ := sender
    rw [← same, ← List.mem_map, map_key_set here key]
    exact List.mem_map.2 ⟨other, among, rfl⟩
  distinct := by
    rw [map_key_set here key]
    exact consistent.distinct

/-- A job that only ends, or whose progress stays, keeps what it owes. -/
theorem advance (consistent : Consistent L jobs sent) (here : jobs[i]? = some job) (key : job'.key = job.key)
    (sane : job'.Sane) (progress : job'.progress = job.progress ∨ job'.progress = .ended) :
    Consistent L (jobs.set i job') sent := by
  obtain ⟨e, tied⟩ := consistent.tied job (List.mem_of_getElem? here)
  have delivery : job'.deliveryId = job.deliveryId := congrArg Prod.fst key
  have generation : job'.claim.generation = job.claim.generation := congrArg Prod.snd key
  refine consistent.replace here key sane consistent.fenced consistent.accounted ⟨e, ?_, ?_, ?_⟩
    (fun other e' tied' _ => ⟨e', tied'⟩) (fun _ member => .inl member)
  · rw [delivery]
    exact tied.held
  · rw [generation]
    exact tied.issued
  · rw [key, generation]
    rcases progress with same | ended
    · rw [same]
      exact tied.progress
    · rw [ended]
      exact tied.progress.le

/-- A clerical call of anyone keeps what every job owes. -/
theorem clerical (consistent : Consistent L jobs sent) (served : Served nowMillis L call answer L')
    (clerical : call.Clerical) : Consistent L' jobs sent where
  fenced := Served.fenced served consistent.fenced
  accounted := served.accounted clerical consistent.accounted
  sane := consistent.sane
  tied := by
    intro job member
    obtain ⟨e, tied⟩ := consistent.tied job member
    obtain ⟨e', held, keeps⟩ := served.keeps clerical tied.held
    refine ⟨e', held, le_trans tied.issued keeps.generation, ?_⟩
    rw [Entry.recordedUnder, keeps.attempts]
    refine tied.progress.weaken ?_
    intro current
    have issued := tied.issued
    have grows := keeps.generation
    omega
  sends := consistent.sends
  distinct := consistent.distinct

/-- A request goes out under the claim of an idle job. -/
theorem send (consistent : Consistent L jobs sent) (here : jobs[i]? = some job) (running : job.main = .running)
    (ready : job.attempt = .ready) :
    Consistent L (jobs.set i { job with attempt := .sending job.nextOrdinal, nextOrdinal := job.nextOrdinal + 1 })
      (sent ++ [job.key]) := by
  obtain ⟨e, tied⟩ := consistent.tied job (List.mem_of_getElem? here)
  have idle : job.progress = .idle job.nextOrdinal := by
    rw [Job.progress, running, ready]
  have flying : Job.progress { job with attempt := .sending job.nextOrdinal, nextOrdinal := job.nextOrdinal + 1 } =
      .flying job.nextOrdinal := by
    simp only [Job.progress, running]
  have counts : ∀ p, (sent ++ [job.key]).count p = sent.count p + if job.key = p then 1 else 0 := by
    intro p
    rw [List.count_append, List.count_singleton]
    simp only [beq_iff_eq]
  refine consistent.replace here ?_ ⟨?_, ?_⟩ consistent.fenced consistent.accounted
    ⟨e, tied.held, tied.issued, ?_⟩ ?_ ?_
  · rfl
  · intro queued
    rw [show _ = _ from running] at queued
    cases queued
  · intro ordinal same
    rw [flying] at same
    cases same
    rfl
  · have before := tied.progress
    rw [idle] at before
    have one : (sent ++ [job.key]).count job.key = sent.count job.key + 1 := by
      rw [counts, if_pos rfl]
    rw [flying]
    exact ⟨one.trans (by rw [before.1]), before.2⟩
  · intro other e' tied' different
    refine ⟨e', tied'.held, tied'.issued, ?_⟩
    rw [counts, if_neg (Ne.symm different)]
    exact tied'.progress
  · intro p member
    rw [List.mem_append, List.mem_singleton] at member
    exact member

/-- The job whose claim holds records the next attempt. -/
theorem record (consistent : Consistent L jobs sent) (here : jobs[i]? = some job) {ordinal : ℕ}
    (flying : job.progress = .flying ordinal) {attempt : DeliveryAttemptRecord}
    (delivery : attempt.deliveryId = job.deliveryId) (count : (attempt.ordinal : ℕ) = ordinal)
    (generation : attempt.claimGeneration = job.claim.generation)
    (served : Served nowMillis L (.recordAttempt attempt) answer L') (key : job'.key = job.key) (sane : job'.Sane)
    (progress : job'.progress = .ended ∨
      job'.progress = .idle (ordinal + 1) ∧ ∃ value, answer = .ok value) : Consistent L' (jobs.set i job') sent := by
  obtain ⟨e, tied⟩ := consistent.tied job (List.mem_of_getElem? here)
  subst count
  obtain ⟨-, e₀, e', held, holds, rfl, written⟩ | ⟨⟨tag, refused⟩, rfl⟩ := served.recordAttempt
  · rw [delivery, tied.held, Option.some.injEq] at held
    subst held
    have appends : e.Appends attempt e' := Entry.appends_of_written (Entry.holds_iff.1 holds).1 written
    have current : (attempt.claimGeneration : ℕ) = e.generation :=
      Entry.holds_generation (consistent.fenced _ _ tied.held) holds
    have next : (attempt.ordinal : ℕ) = e.attempts.length + 1 := by
      have owed := tied.progress
      rw [flying] at owed
      exact owed.2 (by rw [← generation]; exact current)
    refine consistent.replace here key sane (Served.fenced served consistent.fenced) ?_ ⟨e', ?_⟩ ?_
      (fun _ member => .inl member)
    · intro id e'' held
      by_cases own : id = attempt.deliveryId
      · subst own
        rw [Function.update_self, Option.some.injEq] at held
        rw [← held]
        exact (consistent.accounted _ _ tied.held).append appends current next
      · rw [Function.update_of_ne own] at held
        exact consistent.accounted id e'' held
    · refine tied.records flying generation appends ?_ key (progress.imp_right And.left) next
      rw [delivery, Function.update_self]
    · intro other e'' tied' different
      by_cases own : other.deliveryId = attempt.deliveryId
      · have held' := tied'.held
        rw [own, delivery, tied.held, Option.some.injEq] at held'
        subst held'
        refine ⟨e', tied'.stale appends current ?_ ?_⟩
        · rw [own, Function.update_self]
        · intro equal
          exact different (Prod.ext (own.trans delivery) (equal.symm.trans generation))
      · refine ⟨e'', ?_, tied'.issued, tied'.progress⟩
        rw [Function.update_of_ne own]
        exact tied'.held
  · have ended : job'.progress = .ended := by
      rcases progress with ended | ⟨-, value, done⟩
      · exact ended
      · rw [refused] at done
        cases done
    exact consistent.advance here key sane (.inr ended)

/-- A call of the environment opens a job for each claim it is handed. -/
theorem issue (consistent : Consistent L jobs sent) (served : Served nowMillis L call answer L')
    (clerical : call.Clerical) (process : ℕ) (fallback : DestinationId) :
    Consistent L' (jobs ++ (handedOut answer).map (Job.issued process fallback)) sent := by
  have kept := consistent.clerical served clerical
  -- an older job of the delivery has an older claim
  have newer : ∀ c ∈ handedOut answer, ∀ job ∈ jobs, job.key ≠ (Job.issued process fallback c).key := by
    intro c member job among same
    obtain ⟨e, tied⟩ := consistent.tied job among
    obtain ⟨e', -, generation, next, -, -⟩ := served.handsOut member
    have delivery : job.deliveryId = c.delivery.id := congrArg Prod.fst same
    have claim : (job.claim.generation : ℕ) = c.claim.generation := congrArg (fun p => ((p.2 : ℕ+) : ℕ)) same
    have issued := tied.issued
    rw [← delivery, tied.held] at next
    change e'.generation = e.generation + 1 at next
    omega
  refine ⟨kept.fenced, kept.accounted, ?_, ?_, ?_, ?_⟩
  · intro job member
    rcases List.mem_append.1 member with before | opened
    · exact kept.sane job before
    · obtain ⟨c, -, rfl⟩ := List.mem_map.1 opened
      exact ⟨fun _ => rfl, by exact nofun⟩
  · intro job member
    rcases List.mem_append.1 member with before | opened
    · exact kept.tied job before
    · obtain ⟨c, handed, rfl⟩ := List.mem_map.1 opened
      obtain ⟨e, held, generation, next, ordinal, attempts⟩ := served.handsOut handed
      have unsent : sent.count (Job.issued process fallback c).key = 0 := by
        refine List.count_eq_zero.2 ?_
        intro sender
        obtain ⟨job, among, same⟩ := consistent.sends _ sender
        exact newer c handed job among same
      have unrecorded : e.recordedUnder c.claim.generation = 0 := by
        cases before : L c.delivery.id with
        | none =>
          rw [before] at attempts
          rw [Entry.recordedUnder, attempts]
          rfl
        | some e₀ =>
          rw [before] at attempts next
          change e.attempts = e₀.attempts at attempts
          change e.generation = e₀.generation + 1 at next
          have none := (consistent.accounted _ _ before).recordedUnder_eq_zero
            (show e₀.generation < (c.claim.generation : ℕ) by omega)
          rw [Entry.recordedUnder, attempts]
          exact none
      refine ⟨e, held, generation.le, ?_⟩
      rw [unsent, show (Job.issued process fallback c).claim = c.claim from rfl, unrecorded]
      exact ⟨rfl, fun _ => ordinal.trans (kept.accounted _ _ held).nextOrdinal⟩
  · intro p member
    obtain ⟨job, among, same⟩ := consistent.sends p member
    exact ⟨job, List.mem_append_left _ among, same⟩
  · rw [List.map_append, List.nodup_append]
    refine ⟨consistent.distinct, ?_, ?_⟩
    · have ids := served.handsOut_distinct
      rw [List.map_map]
      refine List.Nodup.of_map Prod.fst ?_
      rw [List.map_map]
      exact ids
    · intro k before k' opened same
      subst same
      obtain ⟨job, among, rfl⟩ := List.mem_map.1 before
      rw [List.map_map] at opened
      obtain ⟨c, handed, same⟩ := List.mem_map.1 opened
      exact newer c handed job among same.symm

end Consistent

end Relay
