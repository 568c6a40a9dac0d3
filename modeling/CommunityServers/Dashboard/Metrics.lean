import CommunityServers.Dashboard.Stats
import CommunityServers.Foundation.Counters
import CommunityServers.Foundation.FormEncoding
import CommunityServers.Foundation.Machine
import CommunityServers.Foundation.Whitespace

/-!
Contract: the sampler of system metrics in `metrics.go`.

Owns:
- `readCPU`, `readMem` and `readNet` on the contents of the three files, with the
  numbers that `strconv` returns next to an error;
- one iteration of `startMetricsSampler` and runs of it;
- what the two rates of an iteration are meant to be, and a condition on
  neighbouring samples under which they are, which is exact where the counters
  add up in 64 bits.

The subtractions are those of `uint64`. A file that cannot be read is `none`.
Every floating-point operation rounds its exact result.

Does not own: the lock around the snapshot, and the sleep between iterations.
-/

set_option autoImplicit false

namespace CommunityServers.Dashboard

open CommunityServers.Foundation

/-! ### The files -/

/-- `v, _ := strconv.ParseUint(field, 10, 64)`. -/
def counter (field : Bytes) : UInt64 := UInt64.ofNat (uintValue 64 field)

/-- The loop over the fields after `cpu`, each with its index. -/
def addCounter (sums : UInt64 × UInt64) (field : Bytes × Nat) : UInt64 × UInt64 :=
  (if field.2 = 4 ∨ field.2 = 5 then sums.1 + counter field.1 else sums.1,
    sums.2 + counter field.1)

/-- The idle and the total time of `/proc/stat`. -/
def readCPU (file : Option Bytes) : UInt64 × UInt64 :=
  match file with
  | none => (0, 0)
  | some b =>
      let line := (cut 10 b).1
      if (fields line).length < 8 ∨ (fields line).head? ≠ some (ascii "cpu") then (0, 0)
      else (((fields line).drop 1).zipIdx 1).foldl addCounter (0, 0)

/-- Total and available memory as the loop of `readMem` has them. -/
def addMemory (memory : Int × Int) (line : Bytes) : Int × Int :=
  match fields line with
  | name :: value :: _ =>
      if name = ascii "MemTotal:" then (atoiValue value, memory.2)
      else if name = ascii "MemAvailable:" then (memory.1, atoiValue value)
      else memory
  | _ => memory

/-- Used and total memory of `/proc/meminfo`. -/
def readMem (file : Option Bytes) : Int × Int :=
  match file with
  | none => (0, 0)
  | some b =>
      let memory := (b.splitOn 10).foldl addMemory (0, 0)
      (((memory.1 - memory.2).bmod (2 ^ 64)).tdiv 1024, memory.1.tdiv 1024)

/-- A line of `/proc/net/dev` that is counted. -/
structure InterfaceRow where
  name : Bytes
  rx : UInt64
  tx : UInt64
deriving DecidableEq, Repr

def interfaceRow (line : Bytes) : Option InterfaceRow :=
  if 58 ∈ line then
    let name := trimSpace (cut 58 line).1
    if name = ascii "lo" ∨ name = [] then none
    else
      let f := fields (cut 58 line).2
      if f.length < 9 then none else some ⟨name, counter (f.getD 0 []), counter (f.getD 8 [])⟩
  else none

def addInterface (bytes : UInt64) (line : Bytes) : UInt64 :=
  match interfaceRow line with
  | none => bytes
  | some row => bytes + (row.rx + row.tx)

def readNet (file : Option Bytes) : UInt64 :=
  match file with
  | none => 0
  | some b => (b.splitOn 10).foldl addInterface 0

/-! ### One iteration -/

/-- What one iteration finds: the three files and the clock in nanoseconds. -/
structure Reading where
  stat : Option Bytes
  netDev : Option Bytes
  memInfo : Option Bytes
  now : Int
deriving DecidableEq

/-- The variables that are kept from one iteration to the next. -/
structure Sampler where
  lastIdle : UInt64
  lastTotal : UInt64
  lastNet : UInt64
  lastTime : Option Int
deriving DecidableEq

def Sampler.start : Sampler := ⟨0, 0, 0, none⟩

def Sampler.after (reading : Reading) : Sampler :=
  ⟨(readCPU reading.stat).1, (readCPU reading.stat).2, readNet reading.netDev, some reading.now⟩

section Rates

variable (r : Rounding)

/-- `(1 - float64(idle)/float64(total)) * 100`. -/
def busyPercent (idle total : UInt64) : ℚ :=
  r.round (r.round (1 - r.round (r.round idle.toNat / r.round total.toNat)) * 100)

/-- `float64(bytes) / dt / 1024`. -/
def rateKBps (bytes : UInt64) (dt : ℚ) : ℚ :=
  r.round (r.round (r.round bytes.toNat / dt) / 1024)

/-- `now.Sub(last)`, which saturates. -/
def elapsed (now last : Int) : Int := max (-2 ^ 63) (min (now - last) (2 ^ 63 - 1))

/-- `Duration.Seconds`. -/
def seconds (duration : Int) : ℚ :=
  r.round (r.round (duration.tdiv (10 ^ 9)) +
    r.round (r.round (duration.tmod (10 ^ 9)) / 10 ^ 9))

/-- The time since the last iteration, where there was one and time has passed. -/
def Sampler.dt (state : Sampler) (now : Int) : Option ℚ :=
  (state.lastTime.map fun last => seconds r (elapsed now last)).filter fun dt => 0 < dt

def Sampler.sample (state : Sampler) (reading : Reading) : SysMetrics ℚ where
  cpu :=
    if state.lastTotal ≠ 0 ∧ state.lastTotal < (readCPU reading.stat).2 then
      busyPercent r ((readCPU reading.stat).1 - state.lastIdle)
        ((readCPU reading.stat).2 - state.lastTotal)
    else 0
  memUsedMB := (readMem reading.memInfo).1
  memTotalMB := (readMem reading.memInfo).2
  netKBps :=
    match state.dt r reading.now with
    | none => 0
    | some dt => rateKBps r (readNet reading.netDev - state.lastNet) dt

def samplerMachine : Machine Sampler Reading (SysMetrics ℚ) where
  step _ reading := Sampler.after reading
  emit state reading := [state.sample r reading]

/-- What an iteration computes is about true differences: where a rate is
computed no subtraction wraps, the idle share is part of the whole, the busy share
is a percentage, and the network rate is at most that of all bytes counted. -/
structure TrueDifferences (state : Sampler) (reading : Reading) : Prop where
  idle : state.lastTotal ≠ 0 → state.lastTotal < (readCPU reading.stat).2 →
    state.lastIdle ≤ (readCPU reading.stat).1 ∧
      (readCPU reading.stat).1 - state.lastIdle ≤ (readCPU reading.stat).2 - state.lastTotal
  busy : 0 ≤ (state.sample r reading).cpu ∧ (state.sample r reading).cpu ≤ 100
  net : ∀ dt, state.dt r reading.now = some dt → state.lastNet ≤ readNet reading.netDev
  rate : ∀ dt, state.dt r reading.now = some dt →
    (state.sample r reading).netKBps ≤ rateKBps r (readNet reading.netDev) dt

/-- Every iteration of a run computes true differences. -/
def RunsTrue (readings : List Reading) : Prop :=
  Everywhere (fun before reading =>
    TrueDifferences r ((samplerMachine r).exec Sampler.start before) reading) readings

end Rates

/-! ### Neighbouring samples -/

/-- The counters of the first line of `/proc/stat`, where it is well formed. -/
def cpuCounters (file : Option Bytes) : Option (List UInt64) :=
  file.bind fun b =>
    let line := (cut 10 b).1
    if (fields line).length < 8 ∨ (fields line).head? ≠ some (ascii "cpu") then none
    else some (((fields line).drop 1).map counter)

def interfaceRows (file : Option Bytes) : List InterfaceRow :=
  match file with
  | none => []
  | some b => (b.splitOn 10).filterMap interfaceRow

/-- The bytes counted of all interfaces. -/
def listedBytes (file : Option Bytes) : Nat :=
  ((interfaceRows file).map fun row => row.rx.toNat + row.tx.toNat).sum

/-- The time that the fourth and the fifth counter show. -/
def idleTime (counters : List UInt64) : Nat := trueSum ((counters.drop 3).take 2)

def busyTime (counters : List UInt64) : Nat :=
  trueSum (counters.take 3) + trueSum (counters.drop 5)

/-- Between two samples that both have counters of the processor these add up in 64
bits and, where a share is computed, neither the idle nor the busy time goes back.
Between two samples that time passes between, no bytes are lost in sum, and they add
up in 64 bits. -/
structure Steady (older newer : Reading) : Prop where
  cpu : ∀ before ∈ cpuCounters older.stat, ∀ now ∈ cpuCounters newer.stat,
    (trueSum before < 2 ^ 64 ∧ trueSum now < 2 ^ 64) ∧
      (0 < trueSum before → trueSum before < trueSum now →
        idleTime before ≤ idleTime now ∧ busyTime before ≤ busyTime now)
  net : older.now < newer.now →
    listedBytes older.netDev ≤ listedBytes newer.netDev ∧ listedBytes newer.netDev < 2 ^ 64

theorem steady_iff (older newer : Reading) :
    Steady older newer ↔
      (∀ before ∈ cpuCounters older.stat, ∀ now ∈ cpuCounters newer.stat,
        (trueSum before < 2 ^ 64 ∧ trueSum now < 2 ^ 64) ∧
          (0 < trueSum before → trueSum before < trueSum now →
            idleTime before ≤ idleTime now ∧ busyTime before ≤ busyTime now)) ∧
      (older.now < newer.now →
        listedBytes older.netDev ≤ listedBytes newer.netDev ∧
          listedBytes newer.netDev < 2 ^ 64) :=
  ⟨fun steady => ⟨steady.cpu, steady.net⟩, fun both => ⟨both.1, both.2⟩⟩

instance (older newer : Reading) : Decidable (Steady older newer) :=
  decidable_of_iff' _ (steady_iff older newer)

/-! ### What the files add up to -/

/-- Past the two idle fields only the total grows. -/
theorem foldl_addCounter_past {index : Nat} (past : 5 < index) (rest : List Bytes)
    (sums : UInt64 × UInt64) :
    (rest.zipIdx index).foldl addCounter sums =
      (sums.1, (rest.map counter).foldl (· + ·) sums.2) := by
  induction rest generalizing index sums with
  | nil => rfl
  | cons field others inductionHypothesis =>
      have notIdle : ¬ (index = 4 ∨ index = 5) := by omega
      rw [List.zipIdx_cons, List.foldl_cons, inductionHypothesis (by omega), addCounter,
        if_neg notIdle]
      rfl

/-- A well-formed line has at least seven counters, of which the fourth and the
fifth are idle time. -/
theorem readCPU_of_some {file : Option Bytes} {counters : List UInt64}
    (read : cpuCounters file = some counters) :
    ∃ user nice system idle iowait rest,
      counters = user :: nice :: system :: idle :: iowait :: rest ∧
      readCPU file = (wrappingSum [idle, iowait], wrappingSum counters) := by
  obtain ⟨b, rfl, line⟩ := Option.bind_eq_some_iff.mp read
  dsimp only at line
  split at line
  next => cases line
  next wellFormed =>
    cases line
    have long : 8 ≤ (fields (cut 10 b).1).length := by
      by_contra short
      exact wellFormed (Or.inl (Nat.lt_of_not_le short))
    dsimp only [readCPU]
    rw [if_neg wellFormed]
    generalize fields (cut 10 b).1 = words at long
    match words, long with
    | _ :: user :: nice :: system :: idle :: iowait :: irq :: softirq :: rest, _ =>
        refine ⟨_, _, _, _, _, _, rfl, ?_⟩
        rw [List.drop_one, List.tail_cons]
        simp only [List.zipIdx_cons, List.foldl_cons, Nat.reduceAdd]
        rw [foldl_addCounter_past (by decide)]
        simp [addCounter, wrappingSum]

theorem readCPU_of_none {file : Option Bytes} (unread : cpuCounters file = none) :
    readCPU file = (0, 0) := by
  cases file with
  | none => rfl
  | some b =>
      rw [cpuCounters, Option.bind_some] at unread
      dsimp only at unread
      split at unread
      next malformed => exact if_pos malformed
      next => cases unread

/-- Counters that add up in 64 bits are read as their idle time and their sum. -/
theorem toNat_readCPU {file : Option Bytes} {counters : List UInt64}
    (read : cpuCounters file = some counters) (small : trueSum counters < 2 ^ 64) :
    (readCPU file).1.toNat = idleTime counters ∧ (readCPU file).2.toNat = trueSum counters ∧
      idleTime counters + busyTime counters = trueSum counters := by
  obtain ⟨user, nice, system, idle, iowait, rest, rfl, sums⟩ := readCPU_of_some read
  have idleSmall : trueSum [idle, iowait] < 2 ^ 64 := by
    simp only [trueSum_cons, trueSum_nil] at small ⊢
    omega
  rw [sums, toNat_wrappingSum small, toNat_wrappingSum idleSmall]
  refine ⟨rfl, rfl, ?_⟩
  simp only [idleTime, busyTime, List.drop_succ_cons, List.drop_zero, List.take_succ_cons,
    List.take_zero, trueSum_cons, trueSum_nil]
  omega

theorem toNat_foldl_addInterface (lines : List Bytes) (start : UInt64) :
    (lines.foldl addInterface start).toNat =
      (start.toNat + ((lines.filterMap interfaceRow).map fun row =>
        row.rx.toNat + row.tx.toNat).sum) % 2 ^ 64 := by
  induction lines generalizing start with
  | nil =>
      have bounded := start.toNat_lt
      simp only [List.foldl_nil, List.filterMap_nil, List.map_nil, List.sum_nil]
      omega
  | cons line rest inductionHypothesis =>
      rw [List.foldl_cons, inductionHypothesis, addInterface]
      cases read : interfaceRow line with
      | none => rw [List.filterMap_cons_none read]
      | some row =>
          rw [List.filterMap_cons_some read, List.map_cons, List.sum_cons]
          simp only [UInt64.toNat_add]
          omega

theorem toNat_readNet {file : Option Bytes} (small : listedBytes file < 2 ^ 64) :
    (readNet file).toNat = listedBytes file := by
  cases file with
  | none => rfl
  | some b =>
      rw [readNet, toNat_foldl_addInterface, UInt64.toNat_zero, Nat.zero_add]
      exact Nat.mod_eq_of_lt small

/-! ### Rates of true differences -/

section Bounds

variable (r : Rounding)

theorem busyPercent_between {idle total : UInt64} (positive : 0 < total)
    (part : idle ≤ total) : 0 ≤ busyPercent r idle total ∧ busyPercent r idle total ≤ 100 := by
  have wholeLarge : (1 : ℚ) ≤ total.toNat := by
    exact_mod_cast UInt64.lt_iff_toNat_lt.mp positive
  have partSmall : (idle.toNat : ℚ) ≤ total.toNat := by
    exact_mod_cast UInt64.le_iff_toNat_le.mp part
  have whole : 0 < r.round total.toNat := lt_of_lt_of_le one_pos (r.one_le wholeLarge)
  have share : 0 ≤ r.round idle.toNat / r.round total.toNat ∧
      r.round idle.toNat / r.round total.toNat ≤ 1 :=
    ⟨div_nonneg (r.nonneg (Nat.cast_nonneg _)) whole.le,
      (div_le_one whole).mpr (r.monotone partSmall)⟩
  have rounded := r.between r.round_zero r.round_one share
  have rest := r.between r.round_zero r.round_one
    ⟨sub_nonneg.mpr rounded.2, sub_le_self 1 rounded.1⟩
  refine r.between r.round_zero r.round_hundred ⟨mul_nonneg rest.1 (by norm_num), ?_⟩
  calc
    _ ≤ (1 : ℚ) * 100 := mul_le_mul_of_nonneg_right rest.2 (by norm_num)
    _ = 100 := one_mul 100

theorem rateKBps_mono {fewer more : UInt64} (ordered : fewer ≤ more) {dt : ℚ}
    (positive : 0 < dt) : rateKBps r fewer dt ≤ rateKBps r more dt := by
  have bytes : (fewer.toNat : ℚ) ≤ more.toNat := by
    exact_mod_cast UInt64.le_iff_toNat_le.mp ordered
  apply r.monotone
  apply div_le_div_of_nonneg_right _ (by norm_num)
  apply r.monotone
  exact div_le_div_of_nonneg_right (r.monotone bytes) positive.le

theorem Sampler.dt_pos {state : Sampler} {now : Int} {dt : ℚ} (passed : state.dt r now = some dt) :
    0 < dt :=
  of_decide_eq_true (Option.filter_eq_some_iff.mp passed).2

/-- The bounds on the rates follow from the differences being true ones. -/
theorem trueDifferences_of_le {state : Sampler} {reading : Reading}
    (idle : state.lastTotal ≠ 0 → state.lastTotal < (readCPU reading.stat).2 →
      state.lastIdle ≤ (readCPU reading.stat).1 ∧
        (readCPU reading.stat).1 - state.lastIdle ≤ (readCPU reading.stat).2 - state.lastTotal)
    (net : ∀ dt, state.dt r reading.now = some dt → state.lastNet ≤ readNet reading.netDev) :
    TrueDifferences r state reading := by
  refine ⟨idle, ?_, net, ?_⟩
  · simp only [Sampler.sample]
    split
    next computed =>
      have more := UInt64.lt_iff_toNat_lt.mp computed.2
      apply busyPercent_between r _ (idle computed.1 computed.2).2
      rw [UInt64.lt_iff_toNat_lt, toNat_sub_of_toNat_le more.le]
      exact Nat.sub_pos_of_lt more
    next => exact ⟨le_refl 0, by norm_num⟩
  · intro dt passed
    have ordered := UInt64.le_iff_toNat_le.mp (net dt passed)
    simp only [Sampler.sample, passed]
    apply rateKBps_mono r _ (Sampler.dt_pos r passed)
    rw [UInt64.le_iff_toNat_le, toNat_sub_of_toNat_le ordered]
    exact Nat.sub_le _ _

/-! ### Neighbours -/

/-- A rate of the network is computed only when the clock went forward. -/
theorem Sampler.lt_of_dt {older : Reading} {now : Int} {dt : ℚ}
    (passed : (Sampler.after older).dt r now = some dt) : older.now < now := by
  by_contra back
  have duration : elapsed now older.now ≤ 0 := by
    unfold elapsed
    omega
  have whole : (elapsed now older.now).tdiv (10 ^ 9) ≤ 0 := by
    have negated := Int.tdiv_nonneg (Int.neg_nonneg.mpr duration)
      (by decide : (0 : Int) ≤ 10 ^ 9)
    rwa [Int.neg_tdiv, Int.neg_nonneg] at negated
  have part : (elapsed now older.now).tmod (10 ^ 9) ≤ 0 := by
    have negated := Int.tmod_nonneg (10 ^ 9) (Int.neg_nonneg.mpr duration)
    rwa [Int.neg_tmod, Int.neg_nonneg] at negated
  have nonpositive : seconds r (elapsed now older.now) ≤ 0 := by
    refine r.nonpos (add_nonpos (r.nonpos (by exact_mod_cast whole)) (r.nonpos ?_))
    exact div_nonpos_of_nonpos_of_nonneg (r.nonpos (by exact_mod_cast part)) (by norm_num)
  obtain ⟨computed, positive⟩ := Option.filter_eq_some_iff.mp passed
  obtain rfl : seconds r (elapsed now older.now) = dt := Option.some.inj computed
  exact absurd (of_decide_eq_true positive) (not_lt.mpr nonpositive)

theorem Steady.trueDifferences {older newer : Reading} (steady : Steady older newer) :
    TrueDifferences r (Sampler.after older) newer := by
  apply trueDifferences_of_le
  · intro computed more
    cases readBefore : cpuCounters older.stat with
    | none => exact absurd (congrArg Prod.snd (readCPU_of_none readBefore)) computed
    | some before =>
        cases readNow : cpuCounters newer.stat with
        | none =>
            rw [readCPU_of_none readNow] at more
            exact absurd more UInt64.not_lt_zero
        | some now =>
            obtain ⟨⟨smallBefore, small⟩, grown⟩ := steady.cpu before readBefore now readNow
            obtain ⟨idleBefore, totalBefore, splitBefore⟩ := toNat_readCPU readBefore smallBefore
            obtain ⟨idle, total, split⟩ := toNat_readCPU readNow small
            simp only [Sampler.after] at computed more ⊢
            have positive : 0 < trueSum before := by
              rw [← totalBefore]
              exact Nat.pos_of_ne_zero fun zero => computed (UInt64.toNat_inj.mp zero)
            rw [UInt64.lt_iff_toNat_lt, totalBefore, total] at more
            obtain ⟨idleGrown, busyGrown⟩ := grown positive more
            rw [UInt64.le_iff_toNat_le, UInt64.le_iff_toNat_le,
              toNat_sub_of_toNat_le (by omega), toNat_sub_of_toNat_le (by omega)]
            omega
  · intro dt passed
    obtain ⟨more, small⟩ := steady.net (Sampler.lt_of_dt r passed)
    show readNet older.netDev ≤ readNet newer.netDev
    rw [UInt64.le_iff_toNat_le, toNat_readNet small, toNat_readNet (lt_of_le_of_lt more small)]
    exact more

/-- The counters of a sample add up in 64 bits. -/
def Reading.Fits (reading : Reading) : Prop :=
  (∀ counters ∈ cpuCounters reading.stat, trueSum counters < 2 ^ 64) ∧
    listedBytes reading.netDev < 2 ^ 64

/-- Without rounding the clock need only go forward. -/
theorem Sampler.dt_of_lt {older : Reading} {now : Int} (forward : older.now < now) :
    ∃ dt, (Sampler.after older).dt Rounding.identity now = some dt := by
  have duration : 0 < elapsed now older.now := by
    unfold elapsed
    omega
  have split := Int.tdiv_mul_add_tmod (elapsed now older.now) (10 ^ 9)
  have positive : (0 : ℚ) < seconds Rounding.identity (elapsed now older.now) := by
    show (0 : ℚ) < ((elapsed now older.now).tdiv (10 ^ 9) : Int) +
      ((elapsed now older.now).tmod (10 ^ 9) : Int) / 10 ^ 9
    generalize (elapsed now older.now).tdiv (10 ^ 9) = whole at split ⊢
    generalize (elapsed now older.now).tmod (10 ^ 9) = part at split ⊢
    have sum : (whole : ℚ) + part / 10 ^ 9 = ((whole * 10 ^ 9 + part : Int) : ℚ) / 10 ^ 9 := by
      rw [Int.cast_add, Int.cast_mul, Int.cast_pow, Int.cast_ofNat, add_div,
        mul_div_cancel_right₀ _ (by norm_num)]
    rw [sum, split]
    exact div_pos (by exact_mod_cast duration) (by norm_num)
  exact ⟨_, Option.filter_eq_some_iff.mpr ⟨rfl, decide_eq_true positive⟩⟩

/-- Where nothing overflows and nothing is rounded, the condition on two neighbours
is exact. -/
theorem steady_iff_trueDifferences {older newer : Reading} (olderFits : older.Fits)
    (newerFits : newer.Fits) :
    Steady older newer ↔ TrueDifferences Rounding.identity (Sampler.after older) newer := by
  refine ⟨fun steady => steady.trueDifferences Rounding.identity, fun holds => ⟨?_, ?_⟩⟩
  · intro before readBefore now readNow
    have smallBefore := olderFits.1 before readBefore
    have small := newerFits.1 now readNow
    obtain ⟨idleBefore, totalBefore, splitBefore⟩ := toNat_readCPU readBefore smallBefore
    obtain ⟨idle, total, split⟩ := toNat_readCPU readNow small
    refine ⟨⟨smallBefore, small⟩, fun positive more => ?_⟩
    have computed : (Sampler.after older).lastTotal ≠ 0 := by
      intro zero
      rw [← totalBefore, show (readCPU older.stat).2 = 0 from zero] at positive
      exact absurd positive (by decide)
    have larger : (Sampler.after older).lastTotal < (readCPU newer.stat).2 := by
      rw [UInt64.lt_iff_toNat_lt, total]
      exact totalBefore ▸ more
    obtain ⟨idleGrown, share⟩ := holds.idle computed larger
    simp only [Sampler.after] at idleGrown share
    rw [UInt64.le_iff_toNat_le] at idleGrown share
    rw [toNat_sub_of_toNat_le idleGrown, toNat_sub_of_toNat_le (by omega)] at share
    omega
  · intro forward
    obtain ⟨dt, passed⟩ := Sampler.dt_of_lt forward
    have grown : readNet older.netDev ≤ readNet newer.netDev := holds.net dt passed
    rw [UInt64.le_iff_toNat_le, toNat_readNet olderFits.2, toNat_readNet newerFits.2] at grown
    exact ⟨grown, newerFits.2⟩

/-! ### Runs -/

/-- The first iteration computes no rate. -/
theorem trueDifferences_start (reading : Reading) :
    TrueDifferences r Sampler.start reading := by
  apply trueDifferences_of_le
  · intro computed
    exact absurd rfl computed
  · intro dt passed
    cases passed

/-- An iteration depends on the one before it only. -/
theorem runsTrue_iff_isChain (readings : List Reading) :
    RunsTrue r readings ↔
      readings.IsChain fun older newer => TrueDifferences r (Sampler.after older) newer := by
  unfold RunsTrue
  induction readings using List.reverseRecOn with
  | nil => exact ⟨fun _ => List.IsChain.nil, fun _ => everywhere_nil⟩
  | append_singleton readings last inductionHypothesis =>
      rw [everywhere_append_singleton, inductionHypothesis, List.isChain_append]
      refine and_congr_right fun _ => ?_
      rcases List.eq_nil_or_concat readings with rfl | ⟨earlier, older, rfl⟩
      · simp [trueDifferences_start r last]
      · rw [List.concat_eq_append, Machine.exec_append_singleton]
        simp [samplerMachine]

theorem runsTrue_of_steady {readings : List Reading} (steady : readings.IsChain Steady) :
    RunsTrue r readings :=
  (runsTrue_iff_isChain r readings).mpr (steady.imp fun _ _ both => both.trueDifferences r)

/-- In a run whose counters add up in 64 bits, the condition on neighbours is exact. -/
theorem runsTrue_iff_steady {readings : List Reading}
    (fits : ∀ reading ∈ readings, reading.Fits) :
    RunsTrue Rounding.identity readings ↔ readings.IsChain Steady := by
  rw [runsTrue_iff_isChain]
  exact List.IsChain.iff_of_mem_imp fun older newer olderIn newerIn =>
    (steady_iff_trueDifferences (fits older olderIn) (fits newer newerIn)).symm

/-- **True differences.** Every iteration of a run with steady neighbours computes
true differences, however the operations round. -/
theorem sampler_trueDifferences {readings : List Reading} (steady : readings.IsChain Steady) :
    RunsTrue r readings :=
  runsTrue_of_steady r steady

end Bounds

/-- Samples of a quiet machine: a file that cannot be read in between, and an
interface that appears. -/
def quietSamples : List Reading :=
  [⟨some (ascii "cpu  1000 0 500 8000 400 0 0 0\n"),
      some (ascii "  eth0: 1000 1 0 0 0 0 0 0 2000 1\n    lo: 9 1 0 0 0 0 0 0 9 1\n"), none, 0⟩,
    ⟨none,
      some (ascii "  eth0: 4000 1 0 0 0 0 0 0 2500 1\n wlan0: 7 1 0 0 0 0 0 0 8 1\n"), none,
      3000000000⟩,
    ⟨some (ascii "cpu  1300 0 500 8100 420 0 0 0\n"),
      some (ascii "  eth0: 4000 1 0 0 0 0 0 0 2500 1\n wlan0: 7 1 0 0 0 0 0 0 8 1\n"), none,
      6000000000⟩]

theorem quietSamples_trueDifferences :
    quietSamples.IsChain Steady ∧ RunsTrue Rounding.identity quietSamples := by
  have steady : quietSamples.IsChain Steady := by decide +kernel
  exact ⟨steady, sampler_trueDifferences Rounding.identity steady⟩

/-- The total grows while the time spent waiting for devices goes back. -/
def iowaitDrops : List Reading :=
  [⟨some (ascii "cpu  1000 0 500 8000 400 0 0 0\n"), none, none, 0⟩,
    ⟨some (ascii "cpu  1300 0 500 8100 250 0 0 0\n"), none, none, 3000000000⟩]

/-- `/proc/net/dev` cannot be read the second time. -/
def netReadFails : List Reading :=
  [⟨none, some (ascii "  eth0: 1000 1 0 0 0 0 0 0 2000 1\n"), none, 0⟩,
    ⟨none, none, none, 3000000000⟩]

/-- One of two interfaces is gone. -/
def interfaceVanishes : List Reading :=
  [⟨none, some (ascii "  eth0: 1000 1 0 0 0 0 0 0 2000 1\n wlan0: 700 1 0 0 0 0 0 0 800 1\n"),
      none, 0⟩,
    ⟨none, some (ascii "  eth0: 1100 1 0 0 0 0 0 0 2100 1\n"), none, 3000000000⟩]

/-- A second sample whose bytes are fewer than the first one's wraps. -/
theorem not_trueDifferences_of_fewer {first second : Reading} (dt : ℚ)
    (passed : (Sampler.after first).dt Rounding.identity second.now = some dt)
    (fewer : readNet second.netDev < readNet first.netDev) :
    ¬ RunsTrue Rounding.identity [first, second] := by
  intro all
  have ordered := (all [first] second [] rfl).net dt passed
  exact absurd fewer (UInt64.not_lt.mpr ordered)

theorem samples_not_trueDifferences :
    ¬ RunsTrue Rounding.identity iowaitDrops ∧
      ¬ RunsTrue Rounding.identity netReadFails ∧
      ¬ RunsTrue Rounding.identity interfaceVanishes := by
  refine ⟨?_, ?_, ?_⟩
  · intro all
    have differences := (all [iowaitDrops[0]] iowaitDrops[1] [] rfl).idle (by decide +kernel)
      (by decide +kernel)
    exact absurd differences.1 (by decide +kernel)
  · exact not_trueDifferences_of_fewer 3 (by decide +kernel) (by decide +kernel)
  · exact not_trueDifferences_of_fewer 3 (by decide +kernel) (by decide +kernel)

end CommunityServers.Dashboard
