import Wardnet.Core.HashMap
import Wardnet.Core.Transition
import Mathlib.Algebra.Order.BigOperators.Group.Finset
import Mathlib.Algebra.Order.Field.Basic
import Mathlib.Algebra.Order.Ring.Rat
import Mathlib.Tactic.Linarith

/-!
# The per-client rate limiter

A token bucket per client key, split over shards.  Instants count nanoseconds,
and the hasher that picks a shard is any function.  How many keys are tracked
is shown for any arithmetic of the buckets, the code's floating point included;
how many calls are allowed, for exact rationals.  There, what a shard will
allow at an instant is one number, the tokens available to the key then; a call
reads and lowers it, and a purge does not change it.
-/

namespace Wardnet.RateLimit

open Function HashMap List Transition

/-- The arithmetic of a bucket: a full one, what it holds after some
nanoseconds at a rate, whether that is less than the rate, whether it is enough
for a call, and what the call leaves. -/
class Arithmetic (Tokens : Type) where
  ofRate : ℕ → Tokens
  refill : Tokens → ℕ → ℕ → Tokens
  isBelow : Tokens → ℕ → Bool
  isEnough : Tokens → Bool
  pay : Tokens → Tokens

/-- The arithmetic of the code, with `as_secs_f64`. -/
instance : Arithmetic Float where
  ofRate := Float.ofNat
  refill tokens nanos rate :=
    let secs := Float.ofNat (nanos / 10 ^ 9) + Float.ofNat (nanos % 10 ^ 9) / Float.ofNat (10 ^ 9)
    min (tokens + secs * Float.ofNat rate) (Float.ofNat rate)
  isBelow tokens rate := tokens < Float.ofNat rate
  isEnough tokens := Float.ofNat 1 ≤ tokens
  pay tokens := tokens - Float.ofNat 1

/-- Exact rationals. -/
instance : Arithmetic ℚ where
  ofRate rate := rate
  refill tokens nanos rate := min (tokens + nanos / 10 ^ 9 * rate) rate
  isBelow tokens rate := tokens < rate
  isEnough tokens := 1 ≤ tokens
  pay tokens := tokens - 1

variable {Key Tokens : Type} [DecidableEq Key] [Arithmetic Tokens]

abbrev shards : ℕ := 16

def maxTrackedClients : ℕ := 65536

def maxTrackedPerShard : ℕ := maxTrackedClients / shards

structure Bucket (Tokens : Type) where
  tokens : Tokens
  last : ℕ
  deriving DecidableEq

/-- The refill since `saturating_duration_since`. -/
def Bucket.refilled (bucket : Bucket Tokens) (rate now : ℕ) : Tokens :=
  Arithmetic.refill bucket.tokens (now - bucket.last) rate

def Bucket.isIdle (bucket : Bucket Tokens) (rate now : ℕ) : Bool :=
  !Arithmetic.isBelow (bucket.refilled rate now) rate

structure RateLimiter (Tokens Key : Type) where
  shardOf : Key → Fin shards
  buckets : Fin shards → HashMap Key (Bucket Tokens)

def RateLimiter.new (shardOf : Key → Fin shards) : RateLimiter Tokens Key :=
  ⟨shardOf, fun _ => .empty⟩

structure Call (Key : Type) where
  key : Key
  rate : ℕ
  now : ℕ

/-- A new key at a full shard first drops the idle buckets. -/
def purge (map : HashMap Key (Bucket Tokens)) (call : Call Key) : HashMap Key (Bucket Tokens) :=
  if (map.get call.key).isNone ∧ maxTrackedPerShard ≤ map.toList.length then
    map.retain fun _ bucket => !bucket.isIdle call.rate call.now
  else map

def charge (tokens : Tokens) : Tokens :=
  if Arithmetic.isEnough tokens then Arithmetic.pay tokens else tokens

/-- The bucket of the key is created full, refilled and charged. -/
def chargeBucket (map : HashMap Key (Bucket Tokens)) (call : Call Key) :
    Bool × HashMap Key (Bucket Tokens) :=
  let bucket := (map.get call.key).getD ⟨Arithmetic.ofRate call.rate, call.now⟩
  let tokens := bucket.refilled call.rate call.now
  (Arithmetic.isEnough tokens, map.insert call.key ⟨charge tokens, call.now⟩)

namespace RateLimiter

/-- `check_at`, with what it does to the shard before the call is admitted. -/
def checkWith (before : HashMap Key (Bucket Tokens) → Call Key → HashMap Key (Bucket Tokens))
    (limiter : RateLimiter Tokens Key) (call : Call Key) : Bool × RateLimiter Tokens Key :=
  if call.rate = 0 then (true, limiter)
  else
    let shard := limiter.shardOf call.key
    let checked := chargeBucket (before (limiter.buckets shard) call) call
    (checked.1, { limiter with buckets := Function.update limiter.buckets shard checked.2 })

def checkAt : RateLimiter Tokens Key → Call Key → Bool × RateLimiter Tokens Key := checkWith purge

def checkUnpurged : RateLimiter Tokens Key → Call Key → Bool × RateLimiter Tokens Key :=
  checkWith fun map _ => map

/-- The results of calls that take the lock one after another. -/
def results (check : RateLimiter Tokens Key → Call Key → Bool × RateLimiter Tokens Key) :
    RateLimiter Tokens Key → List (Call Key) → List Bool
  | _, [] => []
  | limiter, call :: calls => (check limiter call).1 :: results check (check limiter call).2 calls

def next (limiter : RateLimiter Tokens Key) (call : Call Key) : Option (RateLimiter Tokens Key) :=
  some (checkAt limiter call).2

end RateLimiter

/-! ## Seconds and refills -/

variable (map : HashMap Key (Bucket ℚ)) (now : ℕ)

/-- `saturating_duration_since` in seconds. -/
def secondsSince (now last : ℕ) : ℚ := ((now - last : ℕ) : ℚ) / 10 ^ 9

theorem Bucket.refilled_eq (bucket : Bucket ℚ) (rate now : ℕ) :
    bucket.refilled rate now = min (bucket.tokens + secondsSince now bucket.last * rate) rate := rfl

theorem Bucket.isIdle_iff {bucket : Bucket ℚ} {rate now : ℕ} :
    bucket.isIdle rate now = true ↔ ¬ bucket.refilled rate now < rate := by
  simp [Bucket.isIdle, Arithmetic.isBelow]

theorem isEnough_iff {tokens : ℚ} : Arithmetic.isEnough tokens = true ↔ 1 ≤ tokens :=
  decide_eq_true_iff

theorem charge_eq (tokens : ℚ) : charge tokens = if 1 ≤ tokens then tokens - 1 else tokens := by
  simp only [charge, isEnough_iff, Arithmetic.pay]

theorem secondsSince_nonneg (last : ℕ) : 0 ≤ secondsSince now last := by
  unfold secondsSince
  positivity

theorem secondsSince_self : secondsSince now now = 0 := by simp [secondsSince]

theorem secondsSince_add {now later stop : ℕ} (hnow : now ≤ later) (hlater : later ≤ stop) :
    secondsSince later now + secondsSince stop later = secondsSince stop now := by
  have hnat : (later - now) + (stop - later) = stop - now := by omega
  have hrat : ((later - now : ℕ) : ℚ) + (stop - later : ℕ) = (stop - now : ℕ) := by
    exact_mod_cast hnat
  rw [secondsSince, secondsSince, secondsSince, ← add_div, hrat]

theorem Bucket.refilled_of_full {bucket : Bucket ℚ} {rate now later : ℕ} (hle : now ≤ later)
    (hfull : ¬ bucket.refilled rate now < rate) : bucket.refilled rate later = rate := by
  have hrate : (0 : ℚ) ≤ rate := Nat.cast_nonneg rate
  have hmono : secondsSince now bucket.last * rate ≤ secondsSince later bucket.last * rate := by
    unfold secondsSince
    gcongr
  have hnow := le_of_not_gt hfull
  rw [Bucket.refilled_eq, le_min_iff] at hnow
  rw [Bucket.refilled_eq]
  apply min_eq_right
  linarith [hnow.1]

/-! ## The tokens available to a key -/

/-- The tokens of a key's bucket at an instant, if it has one; a new bucket is
full. -/
def stock (map : HashMap Key (Bucket ℚ)) (rate : ℕ) (key : Key) (now : ℕ) : ℚ :=
  ((map.get key).map fun bucket => bucket.refilled rate now).getD rate

theorem stock_eq_refilled (call : Call Key) : stock map call.rate call.key call.now =
      ((map.get call.key).getD ⟨Arithmetic.ofRate call.rate, call.now⟩).refilled call.rate
        call.now := by
  unfold stock
  cases map.get call.key with
  | none => simp [Bucket.refilled_eq, secondsSince_self, Arithmetic.ofRate]
  | some bucket => rfl

theorem stock_le (rate : ℕ) (key : Key) (now : ℕ) : stock map rate key now ≤ rate := by
  unfold stock
  cases map.get key with
  | none => exact le_rfl
  | some bucket => exact min_le_right _ _

theorem stock_le_add (rate : ℕ) (key : Key) (now later : ℕ) :
    stock map rate key later ≤ stock map rate key now + secondsSince later now * rate := by
  have hrate : (0 : ℚ) ≤ rate := Nat.cast_nonneg rate
  have hpassed := mul_nonneg (secondsSince_nonneg later now) hrate
  unfold stock
  cases map.get key with
  | none => simpa using hpassed
  | some bucket =>
    have hseconds : secondsSince later bucket.last ≤
        secondsSince now bucket.last + secondsSince later now := by
      unfold secondsSince
      rw [← add_div]
      gcongr
      exact_mod_cast show later - bucket.last ≤ now - bucket.last + (later - now) by omega
    have hsplit := mul_le_mul_of_nonneg_right hseconds hrate
    simp only [Option.map_some, Option.getD_some, Bucket.refilled_eq]
    rw [← min_add_add_right]
    apply min_le_min <;> linarith

/-- What is done to a shard before a call leaves the tokens as they are. -/
def Invisible (before : HashMap Key (Bucket ℚ) → Call Key → HashMap Key (Bucket ℚ)) : Prop :=
  ∀ map call key now, call.now ≤ now →
    stock (before map call) call.rate key now = stock map call.rate key now

/-- Only full buckets are purged, and a new bucket is full. -/
theorem invisible_purge : Invisible (purge : HashMap Key (Bucket ℚ) → _) := by
  intro map call key now hle
  unfold purge
  split
  · unfold stock
    rw [get_retain]
    cases map.get key with
    | none => rfl
    | some bucket =>
      by_cases hidle : bucket.isIdle call.rate call.now = true
      · simp [Option.filter, hidle, Bucket.refilled_of_full hle (Bucket.isIdle_iff.mp hidle)]
      · simp [Option.filter, hidle]
  · rfl

namespace RateLimiter

variable {before other : HashMap Key (Bucket ℚ) → Call Key → HashMap Key (Bucket ℚ)}
  {limiter : RateLimiter ℚ Key} {call : Call Key}

def available (limiter : RateLimiter ℚ Key) (rate : ℕ) (key : Key) (now : ℕ) : ℚ :=
  stock (limiter.buckets (limiter.shardOf key)) rate key now

theorem checkWith_fst (hbefore : Invisible before) (hrate : call.rate ≠ 0) :
    (checkWith before limiter call).1 = true ↔
      1 ≤ limiter.available call.rate call.key call.now := by
  simp only [checkWith, if_neg hrate, chargeBucket, available]
  rw [← stock_eq_refilled, hbefore _ _ _ _ le_rfl, isEnough_iff]

theorem available_checkWith (hbefore : Invisible before) (hrate : call.rate ≠ 0) (key : Key)
    {now : ℕ} (hle : call.now ≤ now) :
    (checkWith before limiter call).2.available call.rate key now =
      if key = call.key then
        min (charge (limiter.available call.rate call.key call.now) +
          secondsSince now call.now * call.rate) call.rate
      else limiter.available call.rate key now := by
  simp only [checkWith, if_neg hrate, available]
  by_cases hshard : limiter.shardOf key = limiter.shardOf call.key
  · rw [hshard, update_self, ← hbefore (limiter.buckets _) _ _ _ le_rfl,
      ← hbefore (limiter.buckets _) _ _ _ hle, stock_eq_refilled]
    by_cases hkey : key = call.key
    · simp [stock, chargeBucket, Bucket.refilled_eq, hkey]
    · simp [stock, chargeBucket, hkey]
  · have hkey : key ≠ call.key := fun heq => hshard (congrArg limiter.shardOf heq)
    rw [update_of_ne hshard, if_neg hkey]

/-! ## The purge is invisible -/

variable {calls : List (Call Key)}

/-- Limiters with the same tokens available from an instant on give the same
answers to calls from then on. -/
theorem results_congr {left right : RateLimiter ℚ Key} {rate start : ℕ} (hbefore : Invisible before)
    (hother : Invisible other) (hfixed : ∀ call ∈ calls, call.rate = rate)
    (hordered : calls.Pairwise fun first second => first.now ≤ second.now)
    (hstart : ∀ call ∈ calls, start ≤ call.now) (hagree : ∀ key now, start ≤ now →
      left.available rate key now = right.available rate key now) :
    results (checkWith before) left calls = results (checkWith other) right calls := by
  induction calls generalizing left right start with
  | nil => rfl
  | cons call calls ih =>
    obtain rfl := hfixed call (by simp)
    obtain ⟨hlater, hordered⟩ := pairwise_cons.mp hordered
    have hfixed : ∀ later ∈ calls, later.rate = call.rate := fun later hmem =>
      hfixed later (by simp [hmem])
    have hnow := hstart call (by simp)
    by_cases hrate : call.rate = 0
    · have hrest := ih hfixed hordered (fun later hmem => hstart later (by simp [hmem])) hagree
      simpa [results, checkWith, hrate] using hrest
    · have hsame : (checkWith before left call).1 = (checkWith other right call).1 := by
        rw [Bool.eq_iff_iff, checkWith_fst hbefore hrate, checkWith_fst hother hrate,
          hagree _ _ hnow]
      simp only [results, hsame]
      congr 1
      apply ih hfixed hordered hlater
      intro key now hle
      rw [available_checkWith hbefore hrate key hle, available_checkWith hother hrate key hle,
        hagree _ _ hnow, hagree _ _ (hnow.trans hle)]

/-- At a fixed rate and in the order of time, a limiter that never purges gives
the same answers. -/
theorem purge_changes_nothing (limiter : RateLimiter ℚ Key) (rate : ℕ) (calls : List (Call Key))
    (hfixed : ∀ call ∈ calls, call.rate = rate)
    (hordered : calls.Pairwise fun first second => first.now ≤ second.now) :
    results checkAt limiter calls = results checkUnpurged limiter calls := by
  have hkept : Invisible fun (map : HashMap Key (Bucket ℚ)) (_ : Call Key) => map :=
    fun _ _ _ _ _ => rfl
  have hstart : ∀ call ∈ calls, 0 ≤ call.now := fun call _ => Nat.zero_le call.now
  exact results_congr invisible_purge hkept hfixed hordered hstart fun _ _ _ => rfl

/-! ## How many calls are allowed -/

def allowed (limiter : RateLimiter ℚ Key) (key : Key) (calls : List (Call Key)) : ℕ :=
  (calls.zip (results checkAt limiter calls)).countP fun entry => entry.1.key = key ∧ entry.2

theorem allowed_cons (key : Key) (calls : List (Call Key)) :
    limiter.allowed key (call :: calls) = (checkAt limiter call).2.allowed key calls +
      if call.key = key ∧ (checkAt limiter call).1 then 1 else 0 := by
  simp [allowed, results, countP_cons]

theorem allowed_eq_zero {key : Key} (hnone : ∀ call ∈ calls, call.key ≠ key) :
    limiter.allowed key calls = 0 := by
  unfold allowed
  rw [countP_eq_zero]
  intro entry hentry
  simp [hnone entry.1 (of_mem_zip hentry).1]

theorem available_step (limiter : RateLimiter ℚ Key) (hrate : call.rate ≠ 0) (key : Key) :
    max 0 ((checkAt limiter call).2.available call.rate key call.now) +
      ((if call.key = key ∧ (checkAt limiter call).1 then 1 else 0 : ℕ) : ℚ) ≤
        max 0 (limiter.available call.rate key call.now) := by
  simp only [checkAt, available_checkWith invisible_purge hrate key le_rfl,
    checkWith_fst invisible_purge hrate]
  by_cases hkey : key = call.key
  · subst hkey
    set tokens := limiter.available call.rate call.key call.now
    have hcharge : max 0 (charge tokens) + (if 1 ≤ tokens then 1 else 0) ≤ max 0 tokens := by
      rw [charge_eq]
      split
      · rw [max_eq_right (by linarith), max_eq_right (by linarith)]
        linarith
      · rw [add_zero]
    have hmin : max 0 (min (charge tokens + secondsSince call.now call.now * call.rate)
        call.rate) ≤ max 0 (charge tokens) := by
      apply max_le_max le_rfl
      rw [secondsSince_self, zero_mul, add_zero]
      exact min_le_left _ _
    simp only [if_true, true_and]
    push_cast
    linarith
  · simp [hkey, Ne.symm hkey]

/-- From an instant on, a key is allowed no more calls than it has tokens then
and refills until the last one. -/
theorem allowed_le (limiter : RateLimiter ℚ Key) {key : Key} {rate start : ℕ} (stop : ℕ)
    (hrate : rate ≠ 0) (hfixed : ∀ call ∈ calls, call.rate = rate)
    (hordered : calls.Pairwise fun first second => first.now ≤ second.now)
    (hstart : ∀ call ∈ calls, start ≤ call.now)
    (hstop : ∀ call ∈ calls, call.key = key → call.now ≤ stop) : (limiter.allowed key calls : ℚ) ≤
      max 0 (limiter.available rate key start) + secondsSince stop start * rate := by
  have hpassed : 0 ≤ secondsSince stop start * rate :=
    mul_nonneg (secondsSince_nonneg stop start) (Nat.cast_nonneg rate)
  induction calls generalizing limiter start with
  | nil => simpa [allowed] using add_nonneg (le_max_left _ _) hpassed
  | cons call calls ih =>
    obtain ⟨hlater, hordered⟩ := pairwise_cons.mp hordered
    by_cases hnone : ∀ later ∈ call :: calls, later.key ≠ key
    · rw [allowed_eq_zero hnone]
      exact_mod_cast add_nonneg (le_max_left _ _) hpassed
    · obtain rfl := hfixed call (by simp)
      have hnow := hstart call (by simp)
      have hbefore : call.now ≤ stop := by
        simp only [not_forall, not_not] at hnone
        obtain ⟨last, hlast, hkey⟩ := hnone
        rcases mem_cons.mp hlast with rfl | hmem
        · exact hstop _ hlast hkey
        · exact (hlater last hmem).trans (hstop last hlast hkey)
      have hrest := ih (checkAt limiter call).2
        (fun later hmem => hfixed later (by simp [hmem])) hordered hlater
        (fun later hmem => hstop later (by simp [hmem]))
        (mul_nonneg (secondsSince_nonneg stop call.now) (Nat.cast_nonneg _))
      have hstep := available_step limiter hrate key
      have hrefill := stock_le_add (limiter.buckets (limiter.shardOf key)) call.rate key start
        call.now
      have hsplit := congrArg (· * (call.rate : ℚ)) (secondsSince_add hnow hbefore)
      have hmax : max 0 (limiter.available call.rate key call.now) ≤
          max 0 (limiter.available call.rate key start) +
            secondsSince call.now start * call.rate := by
        apply max_le
        · exact add_nonneg (le_max_left _ _)
            (mul_nonneg (secondsSince_nonneg call.now start) (Nat.cast_nonneg _))
        · exact hrefill.trans (add_le_add (le_max_right _ _) le_rfl)
      rw [allowed_cons]
      push_cast at hstep ⊢
      linarith

/-- Only the calls of its shard matter to a key. -/
theorem allowed_filter_shard {shardOf : Key → Fin shards} {key : Key}
    {left right : Fin shards → HashMap Key (Bucket ℚ)}
    (hshard : left (shardOf key) = right (shardOf key)) (calls : List (Call Key)) :
    (⟨shardOf, left⟩ : RateLimiter ℚ Key).allowed key calls =
      (⟨shardOf, right⟩ : RateLimiter ℚ Key).allowed key
        (calls.filter fun call => shardOf call.key = shardOf key) := by
  induction calls generalizing left right with
  | nil => rfl
  | cons call calls ih =>
    by_cases hcall : shardOf call.key = shardOf key
    · simp only [hcall, decide_true, filter_cons_of_pos, allowed_cons]
      by_cases hrate : call.rate = 0
      · simp only [checkAt, checkWith, hrate, if_true, ih hshard]
      · simp only [checkAt, checkWith, hrate, if_false, hcall, hshard]
        congr 1
        exact ih (by simp)
    · have hkey : call.key ≠ key := fun heq => hcall (congrArg shardOf heq)
      simp only [hcall, decide_false, filter_cons_of_neg, Bool.false_eq_true, not_false_eq_true,
        allowed_cons, hkey, false_and, if_false, add_zero]
      by_cases hrate : call.rate = 0
      · simp only [checkAt, checkWith, hrate, if_true, ih hshard]
      · simp only [checkAt, checkWith, hrate, if_false]
        exact ih (by rwa [update_of_ne (Ne.symm hcall)])

theorem allowed_of_ordered (limiter : RateLimiter ℚ Key) (key : Key) (rate : ℕ) (hrate : 0 < rate)
    (calls : List (Call Key)) (hfixed : ∀ call ∈ calls, call.rate = rate)
    (hordered : calls.Pairwise fun first second => first.now ≤ second.now) (start span : ℕ)
    (hwindow : ∀ call ∈ calls, call.key = key → start ≤ call.now ∧ call.now ≤ start + span) :
    (limiter.allowed key calls : ℚ) ≤ rate + rate * (span / 10 ^ 9) := by
  induction calls generalizing limiter with
  | nil =>
    positivity
  | cons call calls ih =>
    obtain ⟨hlater, hrest⟩ := pairwise_cons.mp hordered
    by_cases hkey : call.key = key
    · obtain ⟨hstart, -⟩ := hwindow call (by simp) hkey
      have hfirst : ∀ later ∈ call :: calls, call.now ≤ later.now := by
        intro later hmem
        rcases mem_cons.mp hmem with rfl | hmem
        · exact le_rfl
        · exact hlater later hmem
      have hbound := allowed_le limiter (start + span) hrate.ne' hfixed hordered hfirst
        (fun later hmem hkey => (hwindow later hmem hkey).2)
      have hseconds : secondsSince (start + span) call.now ≤ span / 10 ^ 9 := by
        have hnat : start + span - call.now ≤ span := by omega
        unfold secondsSince
        gcongr
      have hburst : max 0 (limiter.available rate key call.now) ≤ rate :=
        max_le (Nat.cast_nonneg rate) (stock_le ..)
      have hcast : (0 : ℚ) ≤ rate := Nat.cast_nonneg rate
      have hrefill := mul_le_mul_of_nonneg_right hseconds hcast
      linarith
    · rw [allowed_cons, if_neg (fun h => hkey h.1), add_zero]
      exact ih _ (fun later hmem => hfixed later (by simp [hmem])) hrest
        (fun later hmem => hwindow later (by simp [hmem]))

/-- When the calls of its shard come in the order of time, a key is allowed at
most its burst and what is refilled while it calls. -/
theorem allowed_within_rate (limiter : RateLimiter ℚ Key) (key : Key) (rate : ℕ) (hrate : 0 < rate)
    (calls : List (Call Key))
    (hfixed : ∀ call ∈ calls, limiter.shardOf call.key = limiter.shardOf key → call.rate = rate)
    (hordered : calls.Pairwise fun first second =>
      limiter.shardOf first.key = limiter.shardOf key →
        limiter.shardOf second.key = limiter.shardOf key → first.now ≤ second.now)
    (start span : ℕ)
    (hwindow : ∀ call ∈ calls, call.key = key → start ≤ call.now ∧ call.now ≤ start + span) :
    (limiter.allowed key calls : ℚ) ≤ rate + rate * (span / 10 ^ 9) := by
  have hshard := allowed_filter_shard (refl (limiter.buckets (limiter.shardOf key))) calls
  rw [hshard]
  apply allowed_of_ordered limiter key rate hrate
  · intro call hcall
    obtain ⟨hmem, hsame⟩ := mem_filter.mp hcall
    exact hfixed call hmem (of_decide_eq_true hsame)
  · exact pairwise_filter.mpr (hordered.imp fun hpair hfirst hsecond =>
      hpair (of_decide_eq_true hfirst) (of_decide_eq_true hsecond))
  · exact fun call hcall => hwindow call (mem_filter.mp hcall).1

/-- Two instants a second apart, read before the lock and taken in turns:
three calls are allowed at rate one, where the burst and one second allow
two. -/
def swapped : List (Call ℕ) := [1, 0, 1, 0, 1].map fun second => ⟨0, 1, second * 10 ^ 9⟩

theorem swapped_exceeds_rate :
    (∀ call ∈ swapped, call.key = 0 ∧ call.rate = 1 ∧ call.now ≤ 10 ^ 9) ∧
      (1 : ℚ) + 1 * (10 ^ 9 / 10 ^ 9) < (new fun _ => 0).allowed 0 swapped := by
  decide +kernel

/-- The calls of another shard come from another time. -/
theorem allowed_within_rate_sorted :
    ((new fun key : ℕ => Fin.ofNat shards key).allowed 0
      [⟨0, 1, 3⟩, ⟨1, 7, 0⟩, ⟨16, 1, 4⟩, ⟨0, 1, 5⟩] : ℚ) ≤ (1 : ℕ) + (1 : ℕ) *
    ((5 : ℕ) / 10 ^ 9) :=
  allowed_within_rate _ 0 1 Nat.one_pos _ (by decide) (by decide) 0 5 (by decide)

/-! ## One client among others -/

/-- The calls, each with its answer. -/
def answered (limiter : RateLimiter ℚ Key) (calls : List (Call Key)) : List (Call Key × Bool) :=
  calls.zip (results checkAt limiter calls)

theorem filter_answered {left right : RateLimiter ℚ Key} {key : Key} {rate start : ℕ}
    (hfixed : ∀ call ∈ calls, call.rate = rate)
    (hordered : calls.Pairwise fun first second => first.now ≤ second.now)
    (hstart : ∀ call ∈ calls, start ≤ call.now)
    (hagree : ∀ now, start ≤ now → left.available rate key now = right.available rate key now) :
    (left.answered calls).filter (fun entry => entry.1.key = key) =
      right.answered (calls.filter fun call => call.key = key) := by
  induction calls generalizing left right start with
  | nil => rfl
  | cons call calls ih =>
    obtain rfl := hfixed call mem_cons_self
    obtain ⟨hlater, hordered⟩ := pairwise_cons.mp hordered
    have hnow := hstart call mem_cons_self
    have hrest {left right : RateLimiter ℚ Key} := @ih left right call.now
      (fun later hmem => hfixed later (mem_cons_of_mem _ hmem)) hordered hlater
    by_cases hrate : call.rate = 0
    · have hsame := hrest fun now hle => hagree now (hnow.trans hle)
      by_cases hkey : call.key = key <;>
        simpa [answered, results, checkAt, checkWith, hrate, hkey] using hsame
    · by_cases hkey : call.key = key
      · subst hkey
        have hanswer : (checkAt left call).1 = (checkAt right call).1 := by
          rw [Bool.eq_iff_iff, checkAt, checkWith_fst invisible_purge hrate,
            checkWith_fst invisible_purge hrate, hagree _ hnow]
        have hkept (now : ℕ) (hle : call.now ≤ now) :
            (checkAt left call).2.available call.rate call.key now =
              (checkAt right call).2.available call.rate call.key now := by
          simp only [checkAt, available_checkWith invisible_purge hrate _ hle, hagree _ hnow,
            if_true]
        simpa [answered, results, hanswer] using hrest hkept
      · have hkept (now : ℕ) (hle : call.now ≤ now) :
            (checkAt left call).2.available call.rate key now =
              right.available call.rate key now := by
          rw [checkAt, available_checkWith invisible_purge hrate key hle, if_neg (Ne.symm hkey),
            hagree now (hnow.trans hle)]
        simpa [answered, results, hkey] using hrest hkept

/-- At a fixed rate and in the order of time, a client is answered as if it
were the only one. -/
theorem client_answered_as_if_alone (limiter : RateLimiter ℚ Key) (key : Key) (rate : ℕ)
    (calls : List (Call Key)) (hfixed : ∀ call ∈ calls, call.rate = rate)
    (hordered : calls.Pairwise fun first second => first.now ≤ second.now) :
    (limiter.answered calls).filter (fun entry => entry.1.key = key) =
      limiter.answered (calls.filter fun call => call.key = key) :=
  filter_answered hfixed hordered (fun call _ => Nat.zero_le call.now) fun _ _ => rfl

/-- A client that has a token at its first call and leaves the time of one
token between its calls is never refused, whatever the others do. -/
theorem steady_client_allowed (limiter : RateLimiter ℚ Key) (key : Key) (rate : ℕ)
    (hrate : 0 < rate) (calls : List (Call Key)) (hfixed : ∀ call ∈ calls, call.rate = rate)
    (hordered : calls.Pairwise fun first second => first.now ≤ second.now)
    (hspaced : calls.Pairwise fun first second => first.key = key → second.key = key →
      10 ^ 9 ≤ (second.now - first.now) * rate)
    (htoken : ∀ call ∈ calls, call.key = key → 1 ≤ limiter.available rate key call.now) :
    ∀ entry ∈ limiter.answered calls, entry.1.key = key → entry.2 = true := by
  induction calls generalizing limiter with
  | nil => simp [answered]
  | cons call calls ih =>
    obtain rfl := hfixed call mem_cons_self
    obtain ⟨hlater, hordered⟩ := pairwise_cons.mp hordered
    obtain ⟨hgap, hspaced⟩ := pairwise_cons.mp hspaced
    rintro entry (_ | ⟨_, hentry⟩) hkey
    · exact (checkWith_fst invisible_purge hrate.ne').mpr (hkey ▸ htoken call mem_cons_self hkey)
    · refine ih _ (fun later hmem => hfixed later (mem_cons_of_mem _ hmem)) hordered hspaced
        (fun later hmem hlaterKey => ?_) entry hentry hkey
      rw [checkAt, available_checkWith invisible_purge hrate.ne' key (hlater later hmem)]
      split
      next heq =>
        have hhad := heq ▸ htoken call mem_cons_self heq.symm
        have hrefilled : (1 : ℚ) ≤ secondsSince later.now call.now * call.rate := by
          have hnat := hgap later hmem heq.symm hlaterKey
          rw [secondsSince, div_mul_eq_mul_div, le_div_iff₀ (by positivity), one_mul]
          exact_mod_cast hnat
        rw [charge_eq, if_pos hhad]
        exact le_min (by linarith) (by exact_mod_cast hrate)
      next => exact htoken later (mem_cons_of_mem _ hmem) hlaterKey

theorem steady_client_allowed_everySecond : (new fun _ : ℕ => 0).available 1 0 0 = 1 ∧
    ∀ entry ∈ (new fun _ : ℕ => 0).answered [⟨0, 1, 0⟩, ⟨1, 1, 0⟩, ⟨0, 1, 10 ^ 9⟩],
      entry.1.key = 0 → entry.2 = true :=
  ⟨Nat.cast_one, steady_client_allowed _ 0 1 Nat.one_pos _ (by decide) (by decide) (by decide)
    fun _ _ _ => le_of_eq Nat.cast_one.symm⟩

/-! ## How many keys are tracked -/

/-- A new key at a full shard finds an idle bucket there. -/
def FindsIdle (limiter : RateLimiter Tokens Key) (call : Call Key) : Prop :=
  let map := limiter.buckets (limiter.shardOf call.key)
  call.rate ≠ 0 → map.get call.key = none → maxTrackedPerShard ≤ map.toList.length →
    ∃ entry ∈ map.toList, entry.2.isIdle call.rate call.now = true

def Bounded (limiter : RateLimiter Tokens Key) : Prop :=
  ∀ shard, (limiter.buckets shard).toList.length ≤ maxTrackedPerShard

theorem Bounded.next {tracker after : RateLimiter Tokens Key} (hbounded : Bounded tracker)
    (hidle : FindsIdle tracker call) (hnext : RateLimiter.next tracker call = some after) :
    Bounded after := by
  cases hnext
  simp only [checkAt, checkWith]
  split
  · exact hbounded
  next hrate =>
    intro shard
    by_cases hshard : shard = tracker.shardOf call.key
    · subst hshard
      have hmap := hbounded (tracker.shardOf call.key)
      simp only [update_self, chargeBucket]
      cases hget : (tracker.buckets (tracker.shardOf call.key)).get call.key with
      | some bucket =>
        simp only [purge, hget, Option.isNone_some, Bool.false_eq_true, false_and, if_false]
        rw [length_insert_of_some _ (by simp [hget])]
        exact hmap
      | none =>
        rw [length_insert_of_none]
        · unfold purge
          split
          next hfull =>
            obtain ⟨entry, hentry, hkept⟩ := hidle hrate hget hfull.2
            rw [toList_retain]
            refine (length_filter_lt_length_iff_exists.mpr ⟨entry, hentry, ?_⟩).trans_le hmap
            simpa using hkept
          next hroom =>
            simp only [hget, Option.isNone_none, true_and, not_le] at hroom
            exact hroom
        · unfold purge
          split <;> simp [hget]
    · simpa only [update_of_ne hshard] using hbounded shard

/-- Whatever the arithmetic of the buckets, as long as a new key at a full
shard finds an idle one, the limiter tracks no more than its bounds. -/
theorem tracked_bounded (shardOf : Key → Fin shards) (calls : List (Call Key))
    (final : RateLimiter Tokens Key)
    (hidle : Meets RateLimiter.next FindsIdle (new shardOf : RateLimiter Tokens Key) calls)
    (hrun : run RateLimiter.next (new shardOf) calls = some final) :
    (∀ shard, (final.buckets shard).toList.length ≤ maxTrackedPerShard) ∧
      ∑ shard, (final.buckets shard).toList.length ≤ maxTrackedClients := by
  have hbounded : Bounded final :=
    run_invariant_of_meets (fun _ _ _ hbounded hidle hnext => Bounded.next hbounded hidle hnext)
      (fun _ => Nat.zero_le _) hidle hrun
  refine ⟨hbounded, (Finset.sum_le_sum fun shard _ => hbounded shard).trans ?_⟩
  simp [maxTrackedPerShard, maxTrackedClients, shards]

/-! ## A flood of clients -/

abbrev oneShard : RateLimiter ℚ ℕ := new fun _ => 0

/-- Distinct keys that call at the same instant. -/
def flood (count : ℕ) : List (Call ℕ) := (List.range count).map fun key => ⟨key, 1, 0⟩

theorem flood_succ (count : ℕ) : flood (count + 1) = flood count ++ [⟨count, 1, 0⟩] := by
  simp [flood, range_succ]

theorem busy_bucket : (⟨0, 0⟩ : Bucket ℚ).isIdle 1 0 = false := by
  decide +kernel

/-- The keys of a flood are all tracked: none of their buckets is idle. -/
theorem run_flood (count : ℕ) : ∃ final, run RateLimiter.next oneShard (flood count) = some final ∧
      (final.shardOf = fun _ => 0) ∧ (final.buckets 0).toList.length = count ∧
      ∀ key bucket, (final.buckets 0).get key = some bucket → key < count ∧ bucket = ⟨0, 0⟩ := by
  induction count with
  | zero => exact ⟨_, rfl, rfl, rfl, fun key bucket hget => by cases hget⟩
  | succ count ih =>
    obtain ⟨limiter, hrun, hshard, hlength, hbuckets⟩ := ih
    have hnew : (limiter.buckets 0).get count = none := by
      rw [Option.eq_none_iff_forall_ne_some]
      exact fun bucket hget => absurd (hbuckets count bucket hget).1 (lt_irrefl count)
    have hkept : purge (limiter.buckets 0) ⟨count, 1, 0⟩ = limiter.buckets 0 := by
      unfold purge
      split
      · apply toList_injective
        rw [toList_retain, filter_eq_self]
        intro entry hentry
        rw [(hbuckets entry.1 entry.2 (mem_toList.mp hentry)).2]
        exact congrArg not busy_bucket
      · rfl
    have hfresh : (⟨Arithmetic.ofRate 1, 0⟩ : Bucket ℚ).refilled 1 0 = 1 := by decide +kernel
    refine ⟨(checkAt limiter ⟨count, 1, 0⟩).2, ?_, ?_, ?_, ?_⟩
    · rw [flood_succ, run_append, hrun]
      rfl
    · simpa [checkAt, checkWith] using hshard
    · simp [checkAt, checkWith, hshard, hkept, chargeBucket, length_insert_of_none _ hnew, hlength]
    · intro key bucket hget
      simp only [checkAt, checkWith, hshard, hkept, chargeBucket, hnew, one_ne_zero, if_false,
        update_self, Option.getD_none, hfresh, get_insert_eq_some] at hget
      rcases hget with ⟨rfl, rfl⟩ | ⟨-, hold⟩
      · exact ⟨Nat.lt_succ_self key, by simp [charge_eq]⟩
      · exact ⟨Nat.lt_succ_of_lt (hbuckets key bucket hold).1, (hbuckets key bucket hold).2⟩

theorem flood_overfills_shard : ∃ final,
      run RateLimiter.next oneShard (flood (maxTrackedPerShard + 1)) = some final ∧
      maxTrackedPerShard < (final.buckets 0).toList.length := by
  obtain ⟨final, hrun, -, hlength, -⟩ := run_flood (maxTrackedPerShard + 1)
  exact ⟨final, hrun, hlength ▸ Nat.lt_succ_self _⟩

theorem findsIdle_flood {count : ℕ} (hcount : count ≤ maxTrackedPerShard) :
    Meets RateLimiter.next FindsIdle oneShard (flood count) := by
  induction count with
  | zero => trivial
  | succ count ih =>
    rw [flood_succ, meets_append]
    refine ⟨ih (Nat.le_of_succ_le hcount), fun middle hmiddle => ⟨?_, fun _ _ => trivial⟩⟩
    obtain ⟨limiter, hrun, hshard, hlength, -⟩ := run_flood count
    cases hrun.symm.trans hmiddle
    intro _ _ hfull
    rw [hshard, hlength] at hfull
    omega

/-- A flood, and one second later another key, for which its buckets are
dropped when they fill the shard. -/
def flooded (count : ℕ) : List (Call ℕ) := flood count ++ [⟨count, 1, 10 ^ 9⟩]

theorem rate_flooded (count : ℕ) : ∀ call ∈ flooded count, call.rate = 1 := by
  simp only [flooded, flood, mem_append, mem_map, mem_singleton]
  rintro call (⟨key, -, rfl⟩ | rfl) <;> rfl

theorem ordered_flooded (count : ℕ) :
    (flooded count).Pairwise fun first second => first.now ≤ second.now := by
  refine pairwise_append.mpr ⟨pairwise_map.mpr ?_, pairwise_singleton _ _, ?_⟩
  · exact pairwise_iff_forall_sublist.mpr fun _ => le_rfl
  · simp [flood]

theorem idle_bucket : (⟨0, 0⟩ : Bucket ℚ).isIdle 1 (10 ^ 9) = true := by
  decide +kernel

theorem findsIdle_flooded {count : ℕ} (hpos : 0 < count) (hcount : count ≤ maxTrackedPerShard) :
    Meets RateLimiter.next FindsIdle oneShard (flooded count) ∧
      ∃ final, run RateLimiter.next oneShard (flooded count) = some final := by
  obtain ⟨limiter, hrun, hshard, hlength, hbuckets⟩ := run_flood count
  rw [flooded, meets_append, run_append, hrun]
  refine ⟨⟨findsIdle_flood hcount, fun middle hmiddle => ⟨?_, fun _ _ => trivial⟩⟩, _, rfl⟩
  obtain rfl := Option.some.inj hmiddle
  intro _ _ _
  rw [hshard]
  obtain ⟨entry, hentry⟩ := exists_mem_of_length_pos (hlength ▸ hpos)
  refine ⟨entry, hentry, ?_⟩
  rw [(hbuckets entry.1 entry.2 (mem_toList.mp hentry)).2]
  exact idle_bucket

theorem tracked_bounded_flooded :
    ∃ final, run RateLimiter.next oneShard (flooded maxTrackedPerShard) = some final ∧
      (final.buckets 0).toList.length ≤ maxTrackedPerShard := by
  have hfilled : ∀ count, 0 < count → count ≤ maxTrackedPerShard →
      ∃ final, run RateLimiter.next oneShard (flooded count) = some final ∧
        (final.buckets 0).toList.length ≤ maxTrackedPerShard := by
    intro count hpos hcount
    obtain ⟨hmeets, final, hrun⟩ := findsIdle_flooded hpos hcount
    exact ⟨final, hrun, (tracked_bounded _ _ final hmeets hrun).1 0⟩
  exact hfilled maxTrackedPerShard (by norm_num [maxTrackedPerShard, maxTrackedClients]) le_rfl

theorem purge_changes_nothing_flooded :
    results checkAt oneShard (flooded maxTrackedPerShard) =
      results checkUnpurged oneShard (flooded maxTrackedPerShard) :=
  purge_changes_nothing oneShard 1 _ (rate_flooded _) (ordered_flooded _)

theorem client_answered_as_if_alone_flooded :
    (oneShard.answered (flooded maxTrackedPerShard)).filter
        (fun entry => entry.1.key = maxTrackedPerShard) =
      oneShard.answered ((flooded maxTrackedPerShard).filter
        fun call => call.key = maxTrackedPerShard) :=
  client_answered_as_if_alone oneShard _ 1 _ (rate_flooded _) (ordered_flooded _)

end RateLimiter

end Wardnet.RateLimit
