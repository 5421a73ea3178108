import Mathlib

/-!
# The token bucket of the compaction scheduler

Background work takes its bytes from a bucket that is filled by the millisecond.
-/

namespace RockDuck

/-- Times are in nanoseconds. -/
structure TokenBucket where
  tokensBytes : Nat
  capacityBytes : Nat
  lastRefill : Nat
  refillRateBytesPerMs : Nat

/-- A call that reads the clock once for the time that has passed, and once more
for the time of the refill. -/
structure AcquireCall where
  bytes : Nat
  seen : Nat
  refilled : Nat

namespace TokenBucket

def new (capacityMb refillRateMbPerMs now : Nat) : TokenBucket where
  tokensBytes := capacityMb * 1024 * 1024
  capacityBytes := capacityMb * 1024 * 1024
  lastRefill := now
  refillRateBytesPerMs := refillRateMbPerMs * 1024 * 1024

/-- Saturate at `u64::MAX`. -/
def saturate (value : Nat) : Nat :=
  min value (2 ^ 64 - 1)

/-- Add the tokens of the time since the last refill. -/
def refill (bucket : TokenBucket) (call : AcquireCall) : TokenBucket :=
  let elapsed := (call.seen - bucket.lastRefill) / 10 ^ 6 % 2 ^ 64
  if 0 < elapsed then
    { bucket with
      tokensBytes := min (saturate (bucket.tokensBytes +
        saturate (elapsed * bucket.refillRateBytesPerMs))) bucket.capacityBytes
      lastRefill := call.refilled }
  else bucket

/-- Take tokens if there are enough. -/
def tryAcquire (bucket : TokenBucket) (call : AcquireCall) : TokenBucket × Bool :=
  let bucket := bucket.refill call
  if call.bytes ≤ bucket.tokensBytes then
    ({ bucket with tokensBytes := bucket.tokensBytes - call.bytes }, true)
  else (bucket, false)

/-- The bucket after some calls, and what they have taken. -/
def run (bucket : TokenBucket) : List AcquireCall → TokenBucket × Nat
  | [] => (bucket, 0)
  | call :: calls =>
    let (bucket, granted) := bucket.tryAcquire call
    let (bucket, total) := bucket.run calls
    (bucket, (if granted then call.bytes else 0) + total)

end TokenBucket

/-- The clock does not run backwards. -/
def Timely : Nat → List AcquireCall → Prop
  | _, [] => True
  | start, call :: calls => start ≤ call.seen ∧ call.seen ≤ call.refilled ∧ Timely call.refilled calls

def endTime (start : Nat) (calls : List AcquireCall) : Nat :=
  calls.foldl (fun _ call => call.refilled) start

namespace TokenBucket

/-- The bucket keeps to its capacity and its clock. -/
structure Sound (bucket : TokenBucket) (time : Nat) : Prop where
  bounded : bucket.tokensBytes ≤ bucket.capacityBytes
  filled : bucket.lastRefill ≤ time

variable {bucket : TokenBucket}

lemma tryAcquire_spec (sound : bucket.Sound time) {call : AcquireCall} (later : time ≤ call.seen)
    (mem : call.seen ≤ call.refilled) : (bucket.tryAcquire call).1.Sound call.refilled ∧
      (bucket.tryAcquire call).1.capacityBytes = bucket.capacityBytes ∧
      (bucket.tryAcquire call).1.refillRateBytesPerMs = bucket.refillRateBytesPerMs ∧
      bucket.lastRefill ≤ (bucket.tryAcquire call).1.lastRefill ∧
      (if (bucket.tryAcquire call).2 then call.bytes else 0) +
          (bucket.tryAcquire call).1.tokensBytes ≤ bucket.tokensBytes +
            bucket.refillRateBytesPerMs *
              (((bucket.tryAcquire call).1.lastRefill - bucket.lastRefill) / 10 ^ 6) := by
  have early := sound.filled
  have bounded := sound.bounded
  have refilled : (bucket.refill call).Sound call.refilled ∧
      (bucket.refill call).capacityBytes = bucket.capacityBytes ∧
      (bucket.refill call).refillRateBytesPerMs = bucket.refillRateBytesPerMs ∧
      bucket.lastRefill ≤ (bucket.refill call).lastRefill ∧
      (bucket.refill call).tokensBytes ≤ bucket.tokensBytes + bucket.refillRateBytesPerMs *
        (((bucket.refill call).lastRefill - bucket.lastRefill) / 10 ^ 6) := by
    unfold refill
    dsimp only
    split
    · refine ⟨⟨min_le_right _ _, le_rfl⟩, rfl, rfl, by dsimp only; omega, ?_⟩
      have elapsed : (call.seen - bucket.lastRefill) / 10 ^ 6 % 2 ^ 64 ≤
          (call.refilled - bucket.lastRefill) / 10 ^ 6 :=
        (Nat.mod_le _ _).trans (Nat.div_le_div_right (by omega))
      have refill := Nat.mul_le_mul_right bucket.refillRateBytesPerMs elapsed
      rw [Nat.mul_comm (_ / 10 ^ 6) bucket.refillRateBytesPerMs] at refill
      exact (min_le_left _ _).trans ((min_le_left _ _).trans
        (Nat.add_le_add_left ((min_le_left _ _).trans refill) _))
    · exact ⟨⟨bounded, by omega⟩, rfl, rfl, le_rfl, Nat.le_add_right _ _⟩
  unfold tryAcquire
  generalize bucket.refill call = ne at refilled
  obtain ⟨⟨less, before⟩, capacity, rate, last, tokens⟩ := refilled
  dsimp only
  split
  · exact ⟨⟨(Nat.sub_le _ _).trans less, before⟩, capacity, rate, last, by
      simp only [if_true]; omega⟩
  · exact ⟨⟨less, before⟩, capacity, rate, last, by simpa using tokens⟩

/-- Refills of whole milliseconds add up to no more than the milliseconds of the
whole time. -/
lemma run_spec (sound : bucket.Sound time)
    (timely : Timely time calls) : (bucket.run calls).1.Sound (endTime time calls) ∧
      (bucket.run calls).1.capacityBytes = bucket.capacityBytes ∧
      bucket.lastRefill ≤ (bucket.run calls).1.lastRefill ∧
      (bucket.run calls).2 + (bucket.run calls).1.tokensBytes ≤ bucket.tokensBytes +
        bucket.refillRateBytesPerMs *
          (((bucket.run calls).1.lastRefill - bucket.lastRefill) / 10 ^ 6) := by
  induction calls generalizing bucket time with
  | nil => exact ⟨sound, rfl, le_rfl, by simp [run]⟩
  | cons call calls ih =>
    obtain ⟨later, mem, timely⟩ := timely
    obtain ⟨kept, capacity, rate, last, spent⟩ := tryAcquire_spec sound later mem
    obtain ⟨ends, sameCapacity, lastAgain, total⟩ := ih kept timely
    refine ⟨ends, sameCapacity.trans capacity, last.trans lastAgain, ?_⟩
    rw [rate] at total
    simp only [run]
    generalize (bucket.tryAcquire call).1 = next at *
    generalize (next.run calls).1 = final at *
    have parts : (next.lastRefill - bucket.lastRefill) / 10 ^ 6 +
        (final.lastRefill - next.lastRefill) / 10 ^ 6 ≤
          (final.lastRefill - bucket.lastRefill) / 10 ^ 6 := by
      have sum : final.lastRefill - bucket.lastRefill =
          (next.lastRefill - bucket.lastRefill) + (final.lastRefill - next.lastRefill) := by
        omega
      rw [sum]
      exact Nat.div_add_div_le_add_div
    have refills := Nat.mul_le_mul_left bucket.refillRateBytesPerMs parts
    rw [Nat.mul_add] at refills
    omega

/-- A bucket never holds more than its capacity, and never hands out more than
its capacity and what was filled in since. -/
theorem run_new_bounded (capacityMb refillRateMbPerMs now : Nat) {calls : List AcquireCall}
    (timely : Timely now calls) : ((new capacityMb refillRateMbPerMs now).run calls).1.tokensBytes ≤
        capacityMb * 1024 * 1024 ∧
      ((new capacityMb refillRateMbPerMs now).run calls).2 ≤ capacityMb * 1024 * 1024 +
        refillRateMbPerMs * 1024 * 1024 * ((endTime now calls - now) / 10 ^ 6) := by
  have sound : (new capacityMb refillRateMbPerMs now).Sound now := ⟨le_rfl, le_rfl⟩
  obtain ⟨ends, capacity, -, total⟩ := run_spec sound timely
  refine ⟨ends.bounded.trans capacity.le, ?_⟩
  have filled := Nat.mul_le_mul_left (refillRateMbPerMs * 1024 * 1024)
    (Nat.div_le_div_right (c := 10 ^ 6) (Nat.sub_le_sub_right ends.filled now))
  simp only [new] at total filled ⊢
  omega

/-- Two calls within a millisecond and one after it. -/
theorem threeCalls_bounded :
    ((new 1 1 0).run [⟨2 ^ 20, 5, 6⟩, ⟨1, 7, 8⟩, ⟨2 ^ 19, 10 ^ 6, 10 ^ 6⟩]).2 ≤
      1 * 1024 * 1024 + 1 * 1024 * 1024 * ((10 ^ 6 - 0) / 10 ^ 6) :=
  (@run_new_bounded 1 1 0 [⟨2 ^ 20, 5, 6⟩, ⟨1, 7, 8⟩, ⟨2 ^ 19, 10 ^ 6, 10 ^ 6⟩]
    ⟨by decide, by decide, by decide, by decide, by decide, by decide, trivial⟩).2

end TokenBucket

end RockDuck
